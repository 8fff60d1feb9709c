/-
  What making and using an object writes into a journal.

  Given the live interceptors of its crew, neither the construction of an object nor a phase of its
  life calls an interceptor factory: `Constructs` and `Undergoes` say what is written down instead.
  An object that anything intercepts after its construction carries its live interceptors with it,
  in its proxy (`Carries`); for any other, there is no chain left to run.
-/
import Wiring.Container.Basic
import Wiring.Proofs.Definition.Crew

namespace Wiring

namespace Definition

variable {host : Host}

/-- `d.Constructs live seg` — `seg` records the construction of an instance of `d`: a pass through
    the chain around the constructor, and perhaps a direct call after it. -/
def Constructs (d : Definition host) (live : host.LiveSet) (seg : Journal host.toVocabulary) : Prop :=
  ∃ k pass direct, d.component.constructor = some k ∧
    Served .aroundConstruct (.construct k) live (d.component.constructionChain k) pass ∧
    (∀ e ∈ direct, (Goal.construct k).Writes e) ∧ seg = pass ++ direct

/-- `d.Undergoes chains phase live seg` — `seg` records a lifecycle phase of an instance of `d`:
    scopes that were asked who it is, and a pass through the chain around its callbacks. -/
def Undergoes (d : Definition host) (chains : LifecycleChains host.Routine) (phase : Phase)
    (live : host.LiveSet) (seg : Journal host.toVocabulary) : Prop :=
  ∃ asked pass target, (∀ e ∈ asked, ∃ scope outcome, e = .asked scope outcome) ∧
    Served phase (.callbacks target (d.component.callbacks phase)) live
      (chains.forPhase phase) pass ∧ seg = asked ++ pass

/-- `d.Carries chains live reference` — if an instance of `d` needs a proxy, then `reference` is one,
    with the live interceptors `live` and the business methods of `d`. -/
def Carries (d : Definition host) (chains : LifecycleChains host.Routine) (live : host.LiveSet)
    (reference : host.Ref) : Prop :=
  d.wanted chains = true →
    ∃ target, reference = .intercepted ⟨d.name, target, live, d.businessMethods⟩

theorem Later.carries {d d' : Definition host} (h : Later d d')
    {chains : LifecycleChains host.Routine} {live : host.LiveSet} {reference : host.Ref} :
    d'.Carries chains live reference ↔ d.Carries chains live reference := by
  rw [Carries, Carries, h.wanted_eq, h.name_eq, h.businessMethods_eq]

theorem Later.undergoes {d d' : Definition host} (h : Later d d')
    {chains : LifecycleChains host.Routine} {phase : Phase} {live : host.LiveSet}
    {seg : Journal host.toVocabulary} :
    d'.Undergoes chains phase live seg ↔ d.Undergoes chains phase live seg := by
  have hcallbacks : d'.component.callbacks phase = d.component.callbacks phase := by
    rw [h.component_eq]
    cases phase <;> rfl
  rw [Undergoes, Undergoes, hcallbacks]

/-! ## Construction -/

/-- After the chain there is at most one direct call. -/
theorem constructing_world (d : Definition host) (k : Constructor host.Routine)
    (inv : Invocation host.toVocabulary) (w : host.World) :
    (d.constructing k (inv, w)).2.2 = (Invocation.proceed (inv, w)).2.2 ∨
      (d.constructing k (inv, w)).2.2 = (Invocation.proceedDirectly
        ((Invocation.proceed (inv, w)).2.1.takeMade.2, (Invocation.proceed (inv, w)).2.2)).2.2 := by
  rw [constructing]
  rcases hr : Invocation.proceed (inv, w) with ⟨f | result, inv', w'⟩
  · rw [Effect.bind_error hr]
    exact Or.inl rfl
  · rw [Effect.bind_ok hr, Effect.bind_ok (rfl : Invocation.takeNewInstance (inv', w') =
      (.ok inv'.takeMade.1, inv'.takeMade.2, w'))]
    cases inv'.takeMade.1 with
    | some made => exact Or.inl rfl
    | none =>
      dsimp only
      by_cases hstrict : d.strict
      · rw [if_pos hstrict]
        exact Or.inl rfl
      · rw [if_neg hstrict]
        right
        rcases hd : Invocation.proceedDirectly (inv'.takeMade.2, w') with ⟨f | result, inv'', w''⟩
        · rw [Effect.bind_error hd]
        · rw [Effect.bind_ok hd, Effect.bind_ok (rfl : Invocation.takeNewInstance (inv'', w'') =
            (.ok inv''.takeMade.1, inv''.takeMade.2, w''))]
          cases inv''.takeMade.1 with
          | some made => rfl
          | none => rfl

/-- After the chain, nothing is written down but direct calls. -/
theorem construct_direct (d : Definition host.journaled) {k : Constructor host.journaled.Routine}
    (hchain : ¬ (d.component.constructionChain k).isEmpty = true) (live : host.journaled.LiveSet)
    (arguments : List host.journaled.Ref) (s : host.journaled.World) :
    ∃ direct, (d.construct k live arguments s).2.2 = (Invocation.proceed
        (Invocation.construction (d.component.constructionChain k) (some live) k arguments, s)).2.2.2
          ++ direct ∧ ∀ e ∈ direct, (Goal.construct k).Writes e := by
  let inv : Invocation host.journaled.toVocabulary :=
    Invocation.construction (d.component.constructionChain k) (some live) k arguments
  let r := Invocation.proceed (inv, s)
  have hpending : inv.status = .pending := rfl
  have hcursor : inv.cursor = 0 := rfl
  have hgoal : r.2.1.takeMade.2.ending.goal = .construct k :=
    (Invocation.goal_takeMade r.2.1).trans (Invocation.goal_proceed hpending hcursor s)
  rw [construct, if_neg hchain]
  show ∃ direct, (d.constructing k (inv, s)).2.2.2 = r.2.2.2 ++ direct ∧ _
  rcases constructing_world d k inv s with hworld | hworld
  · rw [hworld]
    exact ⟨[], (List.append_nil _).symm, nofun⟩
  · obtain ⟨direct, hdirect, hwrites⟩ := r.2.1.takeMade.2.proceedDirectly_writes r.2.2
    rw [hgoal] at hwrites
    rw [hworld]
    exact ⟨direct, hdirect, hwrites⟩

/-- Constructing an instance with live interceptors for the whole chain around the constructor. -/
theorem construct_writes {d : Definition host.journaled} {k : Constructor host.journaled.Routine}
    (hk : d.component.constructor = some k) {live : host.journaled.LiveSet}
    (hcovers : Covers live (d.component.constructionChain k))
    (arguments : List host.journaled.Ref) (s : host.journaled.World) :
    ∃ seg, (d.construct k live arguments s).2.2 = s.2 ++ seg ∧ d.Constructs live seg := by
  by_cases hempty : (d.component.constructionChain k).isEmpty
  · -- without a chain there is only the constructor
    have hchain : d.component.constructionChain k = [] := List.isEmpty_iff.1 hempty
    rw [construct, if_pos hempty]
    refine ⟨[_], rfl, k, [_], [], hk, ?_, nofun, rfl⟩
    rw [hchain]
    intro e he
    rw [List.mem_singleton.1 he]
    exact rfl
  · obtain ⟨direct, hdirect, hwrites⟩ := d.construct_direct hempty live arguments s
    obtain ⟨pass, hpass, hserved⟩ := (Invocation.construction (d.component.constructionChain k)
      (some live) k arguments).proceed_served rfl rfl live (fun _ => rfl) hcovers s
    rw [hpass, List.append_assoc] at hdirect
    exact ⟨pass ++ direct, hdirect, k, pass, direct, hk, hserved, hwrites, rfl⟩

/-! ## Proxies -/

theorem wrap_of_standard {d : Definition host} (hscheme : d.scheme = ProxyScheme.standard host)
    {chains : LifecycleChains host.Routine} (hchains : d.chains = .ok chains) (made : host.Ref)
    (live : host.LiveSet) (w : host.World) :
    wrap made live (d, w) = if d.wanted chains
      then (.ok (.intercepted ⟨d.name, made, live, d.businessMethods⟩), d.settled, w)
      else (.ok made, d.settled, w) := by
  rw [wrap_apply, hchains, hscheme]
  rfl

/-- What an instance is wrapped into carries what it has to. -/
theorem wrap_carries {d : Definition host} (hscheme : d.scheme = ProxyScheme.standard host)
    {chains : LifecycleChains host.Routine} (hchains : d.chains = .ok chains) (made : host.Ref)
    (live : host.LiveSet) (w : host.World) :
    ∃ reference, wrap made live (d, w) = (.ok reference, d.settled, w) ∧
      d.Carries chains live reference := by
  rw [wrap_of_standard hscheme hchains]
  by_cases hwanted : d.wanted chains
  · rw [if_pos hwanted]
    exact ⟨_, rfl, fun _ => ⟨made, rfl⟩⟩
  · rw [if_neg hwanted]
    exact ⟨_, rfl, fun h => absurd h hwanted⟩

/-- Without a proxy there is no lifecycle chain. -/
theorem forPhase_eq_nil {d : Definition host} {chains : LifecycleChains host.Routine}
    (h : ¬ d.wanted chains = true) (phase : Phase) : chains.forPhase phase = [] := by
  have hempty : chains.isEmpty = true := by
    rw [wanted, Bool.or_eq_true, not_or, Bool.not_eq_true, Bool.not_eq_false'] at h
    exact h.1
  rw [LifecycleChains.isEmpty, Bool.and_eq_true, List.isEmpty_iff, List.isEmpty_iff] at hempty
  cases phase with
  | postConstruct => exact hempty.1
  | preDestroy => exact hempty.2
  | aroundConstruct => rfl
  | aroundInvoke => rfl

/-! ## Lifecycle phases -/

/-- Looking behind a scope proxy asks the scope; any other reference stands for itself. -/
theorem present_writes {d : Definition host.journaled}
    (hscheme : d.scheme = ProxyScheme.standard host.journaled) (reference : host.journaled.Ref)
    (s : host.journaled.World) :
    (∃ asked, (d.present reference s).2.2 = s.2 ++ asked ∧
      ∀ e ∈ asked, ∃ scope outcome, e = .asked scope outcome) ∧
    ∀ p, reference = .intercepted p → d.present reference s = (.ok reference, s) := by
  have hpresent : d.present reference = (((ProxyScheme.standard host.journaled).current
      reference).blaming .scopeUnavailable >>= fun current => pure (current.getD reference)) := by
    rw [present, hscheme]
  rw [hpresent]
  cases reference with
  | plain value => exact ⟨⟨[], (List.append_nil s.2).symm, nofun⟩, nofun⟩
  | intercepted p => exact ⟨⟨[], (List.append_nil s.2).symm, nofun⟩, fun _ _ => rfl⟩
  | «scoped» scope =>
    refine ⟨?_, nofun⟩
    have hasks : (Journal.writing fun e => ∃ scope outcome, e = .asked scope outcome).Along []
        (host.journaled.contextual scope) :=
      Journal.writing_noting (fun r => ⟨scope, r, rfl⟩) (host.contextual scope)
    exact (((hasks.map some).blaming _).after fun _ => Course.along_pure _).keeps s

/-- The callbacks of a phase, through a chain with live interceptors for all of it. -/
theorem lifecycle_writes {phase : Phase} {chain : List (Interceptor host.journaled.Routine)}
    {supplied : Option host.journaled.LiveSet} {live : host.journaled.LiveSet}
    (hsupplied : chain ≠ [] → supplied = some live) (hcovers : Covers live chain)
    (target : host.journaled.Ref) (callbacks : List (Operation host.journaled.Routine))
    (s : host.journaled.World) :
    ∃ pass, ((Invocation.lifecycle phase target chain supplied callbacks).during
        Invocation.proceed s).2.2 = s.2 ++ pass ∧
      Served phase (.callbacks target callbacks) live chain pass :=
  (Invocation.lifecycle phase target chain supplied callbacks).proceed_served rfl rfl live hsupplied
    hcovers s

/-- What a phase leaves behind, once its chain is known. -/
theorem runPhase_state {d : Definition host} {chains : LifecycleChains host.Routine}
    (hchains : d.chains = .ok chains) (phase : Phase) (reference : host.Ref) (w : host.World) :
    (runPhase phase reference (d, w)).2 = match d.present reference w with
      | (.error _, w') => (d, w')
      | (.ok current, w') =>
        if (d.scheme.carrier? current).isNone && (d.component.callbacks phase).isEmpty then (d, w')
        else (d.settled, ((Invocation.lifecycle phase
          (((d.scheme.carrier? current).map (·.target)).getD current) (chains.forPhase phase)
          ((d.scheme.carrier? current).map (·.interceptors))
          (d.component.callbacks phase)).during Invocation.proceed w').2) := by
  show ((Effect.onWorld (d.present reference) >>= _ :
    Effect (Definition host × host.World) Unit) (d, w)).2 = _
  rw [Effect.bind_apply, Effect.onWorld_apply]
  rcases d.present reference w with ⟨f | current, w'⟩
  · rfl
  · dsimp only
    split
    · rfl
    · rw [Effect.bind_apply, Effect.onLayer_apply, lifecycleChains_apply, hchains]
      show (d.settled, ((Invocation.during _ _ >>= fun _ => pure () : Effect host.World Unit)
        w').2) = _
      rw [Effect.bind_pure_apply]

/-- A phase in the life of an object calls no interceptor factory: either its proxy has the live
    interceptors for the chain, or there is no chain. -/
theorem runPhase_writes {d : Definition host.journaled}
    (hscheme : d.scheme = ProxyScheme.standard host.journaled)
    {chains : LifecycleChains host.journaled.Routine} (hchains : d.chains = .ok chains)
    (phase : Phase) {live : host.journaled.LiveSet} {reference : host.journaled.Ref}
    (hcarries : d.Carries chains live reference) (hcovers : Covers live (chains.forPhase phase))
    (s : host.journaled.World) :
    ∃ seg, (runPhase phase reference (d, s)).2.2.2 = s.2 ++ seg ∧
      d.Undergoes chains phase live seg ∧ Later d (runPhase phase reference (d, s)).2.1 := by
  obtain ⟨⟨asked, hasked, hasks⟩, hproxy⟩ := present_writes hscheme reference s
  have hlifecycle : ∀ supplied target (t : host.journaled.World),
      (chains.forPhase phase ≠ [] → supplied = some live) →
        ∃ pass, ((Invocation.lifecycle phase target (chains.forPhase phase) supplied
          (d.component.callbacks phase)).during Invocation.proceed t).2.2 = t.2 ++ pass ∧
          Served phase (.callbacks target (d.component.callbacks phase)) live
            (chains.forPhase phase) pass :=
    fun supplied target t h => lifecycle_writes h hcovers target (d.component.callbacks phase) t
  rw [runPhase_state hchains]
  by_cases hwanted : d.wanted chains = true
  · obtain ⟨target, rfl⟩ := hcarries hwanted
    rw [hproxy _ rfl]
    dsimp only
    rw [hscheme, if_neg (by rintro ⟨⟩)]
    obtain ⟨pass, hpass, hserved⟩ := hlifecycle (some live) target s fun _ => rfl
    exact ⟨pass, hpass, ⟨[], pass, target, nofun, hserved, rfl⟩, Later.settled d⟩
  · have hchain : chains.forPhase phase = [] := forPhase_eq_nil hwanted phase
    have hnone : d.Undergoes chains phase live asked :=
      ⟨asked, [], reference, hasks, by rw [hchain]; exact nofun, (List.append_nil asked).symm⟩
    rcases hr : d.present reference s with ⟨f | current, t⟩
    · rw [hr] at hasked
      exact ⟨asked, hasked, hnone, Later.refl d⟩
    · rw [hr] at hasked
      have hasked : t.2 = s.2 ++ asked := hasked
      dsimp only
      split
      · exact ⟨asked, hasked, hnone, Later.refl d⟩
      · obtain ⟨pass, hpass, hserved⟩ := hlifecycle ((d.scheme.carrier? current).map (·.interceptors))
          (((d.scheme.carrier? current).map (·.target)).getD current) t fun h => absurd hchain h
        rw [hasked, List.append_assoc] at hpass
        exact ⟨asked ++ pass, hpass, ⟨asked, pass, _, hasks, hserved, rfl⟩, Later.settled d⟩

end Definition

/-- After the wiring, the instance is wrapped, and its callbacks run on the reference that it is
    shared under; this carries what it has to. -/
theorem Container.present_apply {d d' : Definition host}
    (hscheme : d.scheme = ProxyScheme.standard host) {chains : LifecycleChains host.Routine}
    (hchains : d.chains = .ok chains) {s : Container host × host.World}
    (hd' : s.1.catalog.byType? d.component.type = some d') (hlater : Definition.Later d d')
    (made : host.Ref) (live : host.LiveSet) :
    ∃ reference, d.Carries chains live reference ∧
      (do
        let reference ← onDefinition d.component.type (Definition.wrap made live)
        onDefinition d.component.type (Definition.postConstruct reference)
        return reference : Effect (Container host × host.World) host.Ref) s =
      ((Definition.postConstruct reference (d'.settled, s.2)).1.map fun _ => reference,
        { s.1 with
          catalog := (s.1.catalog.updated d.component.type d'.settled).updated d.component.type
            (Definition.postConstruct reference (d'.settled, s.2)).2.1 },
        (Definition.postConstruct reference (d'.settled, s.2)).2.2) := by
  obtain ⟨reference, hwrap, hcarries⟩ := Definition.wrap_carries (hlater.scheme_eq.trans hscheme)
    (hlater.chains_eq.trans hchains) made live s.2
  refine ⟨reference, hlater.carries.1 hcarries, ?_⟩
  -- the definition is settled by now, and stays so
  have hwrapped : onDefinition d.component.type (Definition.wrap made live) s = (.ok reference,
      { s.1 with catalog := s.1.catalog.updated d.component.type d'.settled }, s.2) := by
    rw [onDefinition_of_some hd', hwrap]
  have hsettled : (s.1.catalog.updated d.component.type d'.settled).byType? d.component.type =
      some d'.settled := (Catalog.byType?_updated ..).trans (if_pos rfl)
  rw [Effect.bind_ok hwrapped, Effect.bind_pure_apply, onDefinition_of_some hsettled]

/-- So does whatever reference it is that comes out of this. -/
theorem Container.carries_of_present {d d' : Definition host}
    (hscheme : d.scheme = ProxyScheme.standard host) {chains : LifecycleChains host.Routine}
    (hchains : d.chains = .ok chains) {s t : Container host × host.World}
    (hd' : s.1.catalog.byType? d.component.type = some d') (hlater : Definition.Later d d')
    {made reference : host.Ref} {live : host.LiveSet}
    (hr : (do
      let reference ← onDefinition d.component.type (Definition.wrap made live)
      onDefinition d.component.type (Definition.postConstruct reference)
      return reference : Effect (Container host × host.World) host.Ref) s = (.ok reference, t)) :
    d.Carries chains live reference := by
  obtain ⟨wrapped, hcarries, hpresent⟩ := present_apply hscheme hchains hd' hlater made live
  have hok := congrArg Prod.fst (hpresent.symm.trans hr)
  cases hpost : (Definition.postConstruct wrapped (d'.settled, s.2)).1 with
  | error f =>
    rw [hpost] at hok
    cases hok
  | ok _ =>
    rw [hpost] at hok
    cases hok
    exact hcarries

/-! ## Business calls -/

/-- A business call through a proxy that has live interceptors for the chain of the method. -/
theorem Proxy.invoke_writes {host : Host}
    {p : Proxy host.journaled.toVocabulary host.journaled.Ref} {name : String}
    {g : Guarded host.journaled.Routine} (hg : p.methods.get? name = some g)
    (hcovers : Covers p.interceptors g.chain) (arguments : List host.journaled.Ref)
    (s : host.journaled.World) :
    ∃ seg, (p.invoke host.journaled name arguments s).2.2 = s.2 ++ seg ∧
      Served .aroundInvoke (.call p.target g.method) p.interceptors g.chain seg := by
  rw [invoke, hg]
  by_cases hempty : g.chain.isEmpty
  · have hchain : g.chain = [] := List.isEmpty_iff.1 hempty
    dsimp only
    rw [if_pos hempty, hchain]
    refine ⟨[_], rfl, fun e he => ?_⟩
    rw [List.mem_singleton.1 he]
    exact ⟨rfl, rfl⟩
  · let inv : Invocation host.journaled.toVocabulary :=
      Invocation.business p.target g.method g.chain (some p.interceptors) arguments
    obtain ⟨seg, hseg, hserved⟩ :=
      inv.proceed_served rfl rfl p.interceptors (fun _ => rfl) hcovers s
    refine ⟨seg, ?_, hserved⟩
    dsimp only
    rw [if_neg hempty, ← hseg, Effect.blaming_apply]
    show ((inv.during Invocation.proceed >>= fun result => pure _ : Effect host.journaled.World _)
      s).2.2 = _
    rw [Effect.bind_pure_apply]
    rfl

/-- A call of a method that there is not writes nothing down. -/
theorem Proxy.invoke_of_none {host : Host} {p : Proxy host.toVocabulary host.Ref} {name : String}
    (hg : p.methods.get? name = none) (arguments : List host.Ref) (w : host.World) :
    (p.invoke host name arguments w).2 = w := by
  rw [invoke, hg]
  rfl

end Wiring
