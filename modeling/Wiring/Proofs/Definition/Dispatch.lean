/-
  Whom a lifecycle phase is run on, by whom, and with what result.

  1. `Stands d reference w current t` — the reference stands for `current`: a scope proxy for what its
     scope answers, which is asked once; any other reference for itself.
  2. `d.Performs chains phase target supplied w outcome t` — the callbacks were run on `target`,
     through the whole chain of the phase.  Those who take part are the live interceptors that were
     supplied; for a name that nobody was supplied under one is made, and no more than one.
  3. `d.Runs phase current w outcome d' t` — the phase on what a reference stands for: an interception
     proxy gives away its instance and its live interceptors; anything else is the instance itself,
     on which nothing happens where there are no callbacks.
  4. `d.Dispatches phase reference w outcome d' t` puts the first and the third together, and every
     phase is one, whatever the reference (`dispatch_on_any_reference`).
-/
import Mathlib
import Wiring.Proofs.Definition.Shared
import Wiring.Proofs.Definition.Wrapping
import Wiring.Proofs.Invocation.Viewed

namespace Wiring

variable {host : Host}

/-- `answering shared` — the host of numbers, in which all scopes answer `shared`, and interceptors
    look at what they are around. -/
def Host.answering (shared : Reference Host.numbers.toVocabulary) : Host :=
  { Host.numbers with
    intercept := fun _ _ => .observe fun _ => .passThrough
    contextual := fun n => Host.ran n shared }

namespace Definition

/-! ## The rules -/

/-- `Stands reference w current t` — the reference stands for `current`, and finding that out leads
    from `w` to `t`. -/
inductive Stands (reference : host.viewed.journaled.Ref) (w : host.viewed.journaled.World) :
    host.viewed.journaled.Ref → host.viewed.journaled.World → Prop where
  /-- What is no scope proxy stands for itself. -/
  | itself (hreference : ∀ scope, reference ≠ .scoped scope) : Stands reference w reference w
  /-- A scope proxy stands for what its scope answers when it is asked. -/
  | asked {scope current w'} (hreference : reference = .scoped scope)
    (hasked : host.contextual scope w.1.1 = (.ok current, w')) :
    Stands reference w current ((w', w.1.2), w.2 ++ [.asked scope (.ok current)])

variable (d : Definition host.viewed.journaled)

/-- `d.Performs chains phase target supplied w outcome t` — the callbacks of the phase were run on
    `target`, through the chain of the phase, which had the outcome and led from `w` to `t`. -/
def Performs (chains : LifecycleChains host.viewed.journaled.Routine) (phase : Phase)
    (target : host.viewed.journaled.Ref) (supplied : Option host.viewed.journaled.LiveSet)
    (w : host.viewed.journaled.World) (outcome : Except Failure Unit)
    (t : host.viewed.journaled.World) : Prop :=
  ∃ (seg : Journal host.viewed.toVocabulary) (sights : List (Sight host.toVocabulary))
    (made : host.LiveSet) (result : Except Failure (Option host.Ref)),
    t.2 = w.2 ++ seg ∧ t.1.2 = w.1.2 ++ sights ∧
    Crosses phase target (d.component.callbacks phase) supplied (chains.forPhase phase) ∅ seg made
      result ∧
    (∀ v ∈ sights, v.2.target = some target) ∧
    seg.hired = made.values ∧ (∀ name ∈ made.keys, Unsupplied supplied name) ∧
    outcome = (result.map fun _ => ()).mapError (.lifecycle d.name phase)

/-- `d.Runs phase current w outcome d' t` — the phase on `current`, which is looked at as it is. -/
inductive Runs (phase : Phase) (current : host.viewed.journaled.Ref) (w : host.viewed.journaled.World) :
    Except Failure Unit → Definition host.viewed.journaled → host.viewed.journaled.World →
      Prop where
  /-- An interception proxy gives away its instance, and its live interceptors come first. -/
  | intercepted {p chains outcome t} (hcurrent : current = .intercepted p)
    (hchains : d.chains = .ok chains)
    (hperforms : d.Performs chains phase p.target (some p.interceptors) w outcome t) :
    Runs phase current w outcome d.settled t
  /-- On an object without callbacks, nothing is run, and nothing is resolved. -/
  | idle (hcurrent : current.IsObject) (hcallbacks : d.component.callbacks phase = []) :
    Runs phase current w (.ok ()) d w
  /-- On an object with callbacks, all interceptors are new. -/
  | plain {chains outcome t} (hcurrent : current.IsObject)
    (hcallbacks : d.component.callbacks phase ≠ []) (hchains : d.chains = .ok chains)
    (hperforms : d.Performs chains phase current none w outcome t) :
    Runs phase current w outcome d.settled t
  /-- The chains are needed, but cannot be had. -/
  | unresolved {f} (hneeded : ¬ (current.IsObject ∧ d.component.callbacks phase = []))
    (hchains : d.chains = .error f) : Runs phase current w (.error f) d.settled w

/-- `d.Dispatches phase reference w outcome d' t` — the phase on any reference. -/
inductive Dispatches (phase : Phase) (reference : host.viewed.journaled.Ref)
    (w : host.viewed.journaled.World) : Except Failure Unit → Definition host.viewed.journaled →
      host.viewed.journaled.World → Prop where
  /-- A scope that was asked, and does not know, is the end of it. -/
  | unavailable {scope f w'} (hreference : reference = .scoped scope)
    (hasked : host.contextual scope w.1.1 = (.error f, w')) :
    Dispatches phase reference w (.error (.scopeUnavailable f)) d
      ((w', w.1.2), w.2 ++ [.asked scope (.error f)])
  | run {current t outcome d' t'} (hstands : Stands reference w current t)
    (hruns : d.Runs phase current t outcome d' t') : Dispatches phase reference w outcome d' t'

variable {d}

/-! ## Every phase keeps to them -/

/-- With standard proxies, a reference stands for what the rules say, or its scope does not know. -/
theorem present_stands (hscheme : d.scheme = ProxyScheme.standard host.viewed.journaled)
    (reference : host.viewed.journaled.Ref) (w : host.viewed.journaled.World) :
    (∃ current t, d.present reference w = (.ok current, t) ∧ Stands reference w current t) ∨
    ∃ scope f w', reference = .scoped scope ∧ host.contextual scope w.1.1 = (.error f, w') ∧
      d.present reference w =
        (.error (.scopeUnavailable f), ((w', w.1.2), w.2 ++ [.asked scope (.error f)])) := by
  cases reference with
  | plain value =>
    exact Or.inl ⟨_, w, present_of_current (by rw [hscheme]; rfl) w, .itself nofun⟩
  | intercepted p =>
    exact Or.inl ⟨_, w, present_of_current (by rw [hscheme]; rfl) w, .itself nofun⟩
  | «scoped» scope =>
    have hasked : host.viewed.journaled.contextual scope w =
        ((host.contextual scope w.1.1).1, ((host.contextual scope w.1.1).2, w.1.2),
          w.2 ++ [.asked scope (host.contextual scope w.1.1).1]) := rfl
    have hpresent : d.present (.scoped scope) w =
        ((((host.viewed.journaled.contextual scope w).1.map some).mapError .scopeUnavailable).map
          (·.getD (.scoped scope)), (host.viewed.journaled.contextual scope w).2) := by
      rw [present, hscheme, Effect.bind_pure_apply, Effect.blaming_apply]
      dsimp only [ProxyScheme.standard]
      rw [← bind_pure_comp, Effect.bind_pure_apply]
    rw [hasked] at hpresent
    rw [hpresent]
    rcases hr : host.contextual scope w.1.1 with ⟨f | current, w'⟩
    · exact Or.inr ⟨scope, f, w', rfl, hr, rfl⟩
    · exact Or.inl ⟨current, _, rfl, .asked rfl hr⟩

/-- The callbacks of a phase are run like that. -/
theorem lifecycle_performs (d : Definition host.viewed.journaled)
    (chains : LifecycleChains host.viewed.journaled.Routine) (phase : Phase)
    (target : host.viewed.journaled.Ref) (supplied : Option host.viewed.journaled.LiveSet)
    (w : host.viewed.journaled.World) :
    let run := (Invocation.lifecycle phase target (chains.forPhase phase) supplied
      (d.component.callbacks phase)).during (@Invocation.proceed host.viewed.journaled) w
    d.Performs chains phase target supplied w
      ((run.1.map fun _ => ()).mapError (.lifecycle d.name phase)) run.2 := by
  let r : Route host.viewed.journaled.toVocabulary :=
    ⟨phase, supplied, .callbacks target (d.component.callbacks phase)⟩
  obtain ⟨seg, hlog, hcrosses⟩ :=
    Route.run_crosses (r := r) rfl (chains.forPhase phase) (⟨∅, [], ∅, none⟩, w)
  obtain ⟨sights, hsights, htarget⟩ :=
    Route.run_sees (r := r) rfl (chains.forPhase phase) (⟨∅, [], ∅, none⟩, w)
  obtain ⟨new, hentries, hhired, hnone⟩ := hcrosses.hires
  have hnew : (r.run (chains.forPhase phase) (⟨∅, [], ∅, none⟩, w)).2.1.created.entries = new :=
    hentries
  rw [Invocation.lifecycle_during]
  refine ⟨seg, sights, _, _, hlog, hsights, hcrosses, htarget, ?_, ?_, rfl⟩
  · exact hhired.trans (congrArg (List.map Prod.snd) hnew.symm)
  · intro name hname
    obtain ⟨e, he, rfl⟩ := List.mem_map.1 hname
    exact hnone e (hnew ▸ he)

/-- A phase, after it is known what its reference stands for. -/
theorem runPhase_runs (hscheme : d.scheme = ProxyScheme.standard host.viewed.journaled)
    (phase : Phase) {reference current : host.viewed.journaled.Ref}
    {w t : host.viewed.journaled.World} (hcurrent : d.present reference w = (.ok current, t)) :
    let run := runPhase phase reference (d, w)
    d.Runs phase current t run.1 run.2.1 run.2.2 := by
  have hcarrier : d.scheme.carrier? current =
      current.proxy?.map fun p => ⟨p.target, p.interceptors⟩ := by
    rw [hscheme]
    rfl
  rw [runPhase_apply, hcurrent]
  dsimp only
  rw [hcarrier]
  cases hproxy : current.proxy? with
  | none =>
    dsimp only [Option.map_none, Option.isNone_none, Bool.true_and, Option.getD_none]
    by_cases hcallbacks : d.component.callbacks phase = []
    · rw [hcallbacks]
      exact .idle hproxy hcallbacks
    · rw [if_neg (by simpa using hcallbacks)]
      cases hchains : d.chains with
      | error f => exact .unresolved (fun h => hcallbacks h.2) hchains
      | ok chains => exact .plain hproxy hcallbacks hchains (lifecycle_performs d chains phase _ _ t)
  | some p =>
    obtain rfl : current = .intercepted p := by
      cases current with
      | intercepted q =>
        cases hproxy
        rfl
      | plain value => cases hproxy
      | «scoped» scope => cases hproxy
    rw [if_neg (by rintro ⟨⟩)]
    cases hchains : d.chains with
    | error f => exact .unresolved (fun h => by cases h.1) hchains
    | ok chains => exact .intercepted rfl hchains (lifecycle_performs d chains phase _ _ t)

/-- Every phase is dispatched by the rules. -/
theorem runPhase_dispatches (hscheme : d.scheme = ProxyScheme.standard host.viewed.journaled)
    (phase : Phase) (reference : host.viewed.journaled.Ref) (w : host.viewed.journaled.World) :
    let run := runPhase phase reference (d, w)
    d.Dispatches phase reference w run.1 run.2.1 run.2.2 := by
  rcases present_stands hscheme reference w with
    ⟨current, t, hcurrent, hstands⟩ | ⟨scope, f, w', hreference, hasked, herror⟩
  · exact .run hstands (runPhase_runs hscheme phase hcurrent)
  · rw [runPhase_apply, herror]
    exact .unavailable hreference hasked

/-! ## Objects alone -/

/-- `Objects w t` — between `w` and `t`, neither the receiver of a callback nor the target that an
    interceptor saw was an interception proxy. -/
def Objects (w t : host.viewed.journaled.World) : Prop :=
  ∃ (seg : Journal host.viewed.toVocabulary) (sights : List (Sight host.toVocabulary)),
    t.2 = w.2 ++ seg ∧ t.1.2 = w.1.2 ++ sights ∧
    (∀ r receiver outcome, .notified r receiver outcome ∈ seg → receiver.IsObject) ∧
    ∀ v ∈ sights, ∃ target, v.2.target = some target ∧ target.IsObject

theorem Objects.refl (w : host.viewed.journaled.World) : Objects w w :=
  ⟨[], [], (List.append_nil _).symm, (List.append_nil _).symm,
    fun _ _ _ hmem => absurd hmem List.not_mem_nil, List.forall_mem_nil _⟩

theorem Objects.asked (w : host.viewed.journaled.World) (w' : host.World)
    (scope : host.viewed.Scope) (outcome : Except Failure host.viewed.Ref) :
    Objects w ((w', w.1.2), w.2 ++ [.asked scope outcome]) := by
  refine ⟨[.asked scope outcome], [], rfl, (List.append_nil _).symm, ?_, List.forall_mem_nil _⟩
  intro r receiver outcome hmem
  cases List.mem_singleton.1 hmem

theorem Objects.trans {w t u : host.viewed.journaled.World} (h : Objects w t) (h' : Objects t u) :
    Objects w u := by
  obtain ⟨seg, sights, hlog, hsights, hnotified, hseen⟩ := h
  obtain ⟨seg', sights', hlog', hsights', hnotified', hseen'⟩ := h'
  refine ⟨seg ++ seg', sights ++ sights', by rw [hlog', hlog, List.append_assoc],
    by rw [hsights', hsights, List.append_assoc], fun r receiver outcome hmem => ?_,
    List.forall_mem_append.2 ⟨hseen, hseen'⟩⟩
  rcases List.mem_append.1 hmem with hmem | hmem
  · exact hnotified r receiver outcome hmem
  · exact hnotified' r receiver outcome hmem

theorem Performs.objects {chains : LifecycleChains host.viewed.journaled.Routine} {phase : Phase}
    {target : host.viewed.journaled.Ref} {supplied : Option host.viewed.journaled.LiveSet}
    {w t : host.viewed.journaled.World} {outcome : Except Failure Unit}
    (h : d.Performs chains phase target supplied w outcome t) (htarget : target.IsObject) :
    Objects w t := by
  obtain ⟨seg, sights, made, result, hlog, hsights, hcrosses, hseen, -⟩ := h
  refine ⟨seg, sights, hlog, hsights, fun r receiver outcome hmem => ?_, fun v hv =>
    ⟨target, hseen v hv, htarget⟩⟩
  rw [(hcrosses.notified hmem).1]
  exact htarget

theorem Runs.objects (hmakes : host.viewed.journaled.MakesObjects) {phase : Phase}
    {current : host.viewed.journaled.Ref} {w t : host.viewed.journaled.World}
    {outcome : Except Failure Unit} {d' : Definition host.viewed.journaled}
    (h : d.Runs phase current w outcome d' t) (hcurrent : host.viewed.journaled.Shared current) :
    Objects w t := by
  cases h with
  | intercepted hproxy _ hperforms => exact hperforms.objects (hcurrent.target_object hmakes hproxy)
  | idle => exact .refl w
  | plain hobject _ _ hperforms => exact hperforms.objects hobject
  | unresolved => exact .refl w

/-- If only shared references are around, and constructors make objects, there are objects alone. -/
theorem Dispatches.objects (hmakes : host.viewed.journaled.MakesObjects)
    (hscopes : ∀ scope w current, (host.contextual scope w).1 = .ok current →
      host.viewed.journaled.Shared current) {phase : Phase}
    {reference : host.viewed.journaled.Ref} {w t : host.viewed.journaled.World}
    {outcome : Except Failure Unit} {d' : Definition host.viewed.journaled}
    (h : d.Dispatches phase reference w outcome d' t)
    (hreference : host.viewed.journaled.Shared reference) : Objects w t := by
  cases h with
  | unavailable => exact .asked w _ _ _
  | run hstands hruns =>
    cases hstands with
    | itself => exact hruns.objects hmakes hreference
    | asked _ hasked =>
      have hcurrent := hscopes _ _ _ (congrArg Prod.fst hasked)
      exact (Objects.asked w _ _ _).trans (hruns.objects hmakes hcurrent)

/-- **Lifecycle dispatch on any reference.**  Let `d` be a definition with standard proxies.

    1. A lifecycle phase on any reference, whatever it is, and whatever interceptors, callbacks and
       scopes do, is dispatched by the rules of `Dispatches`.  A scope proxy is replaced by what its
       scope answers when it is asked once; if it does not know, nothing else is run.  If that is an
       interception proxy, the callbacks are run on its instance, which is the target that the
       interceptors see, and its live interceptors come before new ones.  On anything else nothing is
       run or resolved if there are no callbacks, and else all interceptors are new, one for a name.
       Whatever fails on the way through the chain is the cause of the failure of the phase.
    2. If constructors make no interception proxies, and the references that there are are shared by
       definitions, no callback receives an interception proxy, and no interceptor sees one. -/
theorem dispatch_on_any_reference {d : Definition host.viewed.journaled}
    (hscheme : d.scheme = ProxyScheme.standard host.viewed.journaled) (phase : Phase)
    (reference : host.viewed.journaled.Ref) (w : host.viewed.journaled.World) :
    let run := runPhase phase reference (d, w)
    d.Dispatches phase reference w run.1 run.2.1 run.2.2 ∧
    (host.MakesObjects → host.viewed.journaled.Shared reference →
      (∀ scope w current, (host.contextual scope w).1 = .ok current →
        host.viewed.journaled.Shared current) → Objects w run.2.2) := by
  have hdispatches := runPhase_dispatches hscheme phase reference w
  refine ⟨hdispatches, fun hmakes hreference hscopes => ?_⟩
  exact hdispatches.objects (fun c args w made h => hmakes c args w.1.1 made h) hscopes hreference

/-- A scope proxy whose scope answers with an interception proxy: the scope is asked once, the
    interceptor 14 of the proxy takes part and no new one, and it sees the instance 7 that is behind
    both, which is also what the callback receives. -/
theorem dispatch_on_any_reference_scoped :
    let shared : Reference Host.numbers.toVocabulary :=
      .intercepted ⟨"P", .plain (7 : Nat), Table.ofList [("audit", (14 : Nat))], ∅⟩
    let host : Host := Host.answering shared
    let p : Phase := .postConstruct
    let d : Definition host.viewed.journaled :=
      { component := { Component.numbered 7 "P" [] [5] with
          declarations := some { environment := [.everywhere "audit" 4] } } }
    let reference : host.viewed.journaled.Ref := .scoped (3 : Nat)
    let w : host.viewed.journaled.World := ((([] : List Nat), []), [])
    let run := runPhase p reference (d, w)
    d.scheme = ProxyScheme.standard host.viewed.journaled ∧ host.MakesObjects ∧
      host.viewed.journaled.Shared reference ∧
      (∀ scope w current, (host.contextual scope w).1 = .ok current →
        host.viewed.journaled.Shared current) ∧
      run.2.2.2 = [.asked (3 : Nat) (.ok shared), .entered (14 : Nat) p,
        .notified (5 : Nat) (.plain (7 : Nat)) (.ok ()), .left (14 : Nat) p (.ok none)] ∧
      d.Dispatches p reference w run.1 run.2.1 run.2.2 ∧ Objects w run.2.2 := by
  intro shared host p d reference w run
  have hscheme : d.scheme = ProxyScheme.standard host.viewed.journaled := rfl
  have hran : ∀ {α : Type} {r : Nat} {a b : α} {w : List Nat}, (Host.ran r a w).1 = .ok b → b = a := by
    intro α r a b w h
    rw [Host.ran] at h
    dsimp only at h
    split at h
    · cases h
    · cases h
      rfl
  have hmakes : host.MakesObjects := by
    intro c args w made hmade
    obtain rfl := hran hmade
    rfl
  have hreference : host.viewed.journaled.Shared reference := .object rfl
  have hshared : host.viewed.journaled.Shared shared := by
    let provide : Provider host.viewed.journaled Unit := fun _ s => (.ok (.plain (0 : Nat)), s)
    have hmade : (d.produce ∅ provide ((), w)).1 = .ok (.plain (7 : Nat)) := by
      dsimp only [d, w, provide, host]
      cbv
    have hwrap : (wrap (.plain (7 : Nat)) (Table.ofList [("audit", (14 : Nat))]) (d, w)).1 =
        .ok shared := by
      have hchains : d.chains = .ok ⟨[.everywhere "audit" 4], [.everywhere "audit" 4]⟩ := rfl
      rw [wrap_of_standard hscheme hchains]
      rfl
    exact .wrapped hscheme hmade hwrap
  have hscopes : ∀ scope w current, (host.contextual scope w).1 = .ok current →
      host.viewed.journaled.Shared current := by
    intro scope w current hcurrent
    obtain rfl := hran hcurrent
    exact hshared
  obtain ⟨hdispatches, hobjects⟩ := dispatch_on_any_reference hscheme p reference w
  refine ⟨hscheme, hmakes, hreference, hscopes, ?_, hdispatches,
    hobjects hmakes hreference hscopes⟩
  dsimp only [run, w, reference, d, p, host, shared]
  cbv

end Definition

end Wiring
