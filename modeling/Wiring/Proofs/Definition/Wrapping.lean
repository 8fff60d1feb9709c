/-
  Nobody gets past the interceptors of a wrapped instance.

  Two decisions are made at different times: `wrap` decides whether an instance needs a proxy, and a
  lifecycle phase decides, from the reference alone, whether there is anything to run.

  1. `d.Intercepted chains` is what both are about: there is an interceptor in some chain.  An
     instance is wrapped in a proxy exactly then (`wanted_iff`).
  2. `d.wholePhase` is what a phase ought to do: the callbacks on the instance itself, inside the
     whole chain, with the live interceptors that the instance was wrapped with.
  3. On the reference that `wrap` returns, a phase does just that (`runPhase_proxyFor`,
     `runPhase_unwrapped`); what is skipped for a reference without a proxy is a chain of nobody.
-/
import Mathlib
import Wiring.Proofs.Definition.Enclosure

namespace Wiring

variable {host : Host}

namespace LifecycleChains

variable {chains : LifecycleChains host.Routine}

theorem isEmpty_iff : chains.isEmpty = true ↔
    chains.postConstruct = [] ∧ chains.preDestroy = [] := by
  rw [isEmpty, Bool.and_eq_true, List.isEmpty_iff, List.isEmpty_iff]

theorem exists_forPhase_iff :
    (∃ phase, chains.forPhase phase ≠ []) ↔ chains.isEmpty = false := by
  rw [← Bool.not_eq_true, isEmpty_iff, not_and_or]
  constructor
  · rintro ⟨phase, hphase⟩
    cases phase with
    | postConstruct => exact Or.inl hphase
    | preDestroy => exact Or.inr hphase
    | aroundConstruct => exact absurd rfl hphase
    | aroundInvoke => exact absurd rfl hphase
  · rintro (hpost | hpre)
    · exact ⟨.postConstruct, hpost⟩
    · exact ⟨.preDestroy, hpre⟩

end LifecycleChains

namespace Definition

variable {d d' : Definition host} {chains : LifecycleChains host.Routine}

/-! ## What is intercepted -/

/-- `d.Intercepted chains` — an interceptor takes part in a lifecycle phase of `d`, where the chains
    are `chains`, or in one of its business methods. -/
def Intercepted (d : Definition host) (chains : LifecycleChains host.Routine) : Prop :=
  (∃ phase, chains.forPhase phase ≠ []) ∨
    ∃ method ∈ d.component.business, d.component.invocationChain method.member.name ≠ []

/-- The table of business methods has the chain of every method in it. -/
theorem any_businessMethods_iff (d : Definition host) :
    d.businessMethods.values.any (!·.chain.isEmpty) = true ↔
      ∃ method ∈ d.component.business, d.component.invocationChain method.member.name ≠ [] := by
  rw [List.any_eq_true, ← d.exists_businessMethods_iff (P := (· ≠ []))]
  refine exists_congr fun g => and_congr_right fun _ => ?_
  rw [Bool.not_eq_true', List.isEmpty_eq_false_iff]

/-- A proxy is wanted exactly where something is intercepted. -/
theorem wanted_iff (d : Definition host) : d.wanted chains = true ↔ d.Intercepted chains := by
  rw [wanted, Bool.or_eq_true, any_businessMethods_iff, Bool.not_eq_true',
    ← LifecycleChains.exists_forPhase_iff, Intercepted]

/-! ## A phase on what was wrapped -/

/-- `d.proxyFor made live` — the interception proxy of `d` around the instance `made`. -/
def proxyFor (d : Definition host) (made : host.Ref) (live : host.LiveSet) : host.Ref :=
  .intercepted ⟨d.name, made, live, d.businessMethods⟩

/-- `d.wholePhase chains phase target live` — the callbacks of the phase on `target`, inside the
    whole chain of the phase, each interceptor of which is the one of its name in `live`, if there
    is one. -/
def wholePhase (d : Definition host) (chains : LifecycleChains host.Routine) (phase : Phase)
    (target : host.Ref) (live : host.LiveSet) : Effect host.World Unit := fun w =>
  let r := Route.run ⟨phase, some live, .callbacks target (d.component.callbacks phase)⟩
    (chains.forPhase phase) (⟨∅, [], ∅, none⟩, w)
  ((r.1.map fun _ => ()).mapError (.lifecycle d.name phase), r.2.2)

theorem Later.wholePhase_eq (h : Later d d') (chains : LifecycleChains host.Routine)
    (phase : Phase) (target : host.Ref) (live : host.LiveSet) :
    d'.wholePhase chains phase target live = d.wholePhase chains phase target live := by
  have hcallbacks : d'.component.callbacks phase = d.component.callbacks phase := by
    rw [h.component_eq]
    cases phase <;> rfl
  funext w
  rw [wholePhase, wholePhase, hcallbacks, h.name_eq]

/-- What is no scope proxy stands for itself. -/
theorem present_of_current {reference : host.Ref} (h : d.scheme.current reference = .done none)
    (w : host.World) : d.present reference w = (.ok reference, w) := by
  rw [present, h]
  rfl

/-- On a proxy, a phase is run whole, also if there are no callbacks. -/
theorem runPhase_proxyFor (hscheme : d.scheme = ProxyScheme.standard host)
    (hchains : d.chains = .ok chains) (phase : Phase) (e : Definition host) (made : host.Ref)
    (live : host.LiveSet) (w : host.World) :
    runPhase phase (e.proxyFor made live) (d, w) =
      let r := d.wholePhase chains phase made live w
      (r.1, d.settled, r.2) := by
  have hpresent : d.present (e.proxyFor made live) w = (.ok (e.proxyFor made live), w) :=
    present_of_current (by rw [hscheme]; rfl) w
  have hcarrier : d.scheme.carrier? (e.proxyFor made live) = some ⟨made, live⟩ := by
    rw [hscheme]
    rfl
  rw [runPhase_apply, hpresent]
  dsimp only
  rw [hcarrier, if_neg (by rintro ⟨⟩), hchains]
  dsimp only [Option.map_some, Option.getD_some]
  rw [Invocation.lifecycle_during]
  rfl

/-- On an object without a proxy, a phase without a chain is run whole: if it has no callbacks
    either, that is nothing at all. -/
theorem runPhase_unwrapped (hscheme : d.scheme = ProxyScheme.standard host)
    (hchains : d.chains = .ok chains) {phase : Phase} (hchain : chains.forPhase phase = [])
    (value : host.Value) (live : host.LiveSet) (w : host.World) :
    (runPhase phase (.plain value) (d, w)).1 =
        (d.wholePhase chains phase (.plain value) live w).1 ∧
      (runPhase phase (.plain value) (d, w)).2.2 =
        (d.wholePhase chains phase (.plain value) live w).2 := by
  have hpresent : d.present (.plain value) w = (.ok (.plain value), w) :=
    present_of_current (by rw [hscheme]; rfl) w
  have hcarrier : d.scheme.carrier? (.plain value) = none := by
    rw [hscheme]
    rfl
  rw [runPhase_apply, hpresent, wholePhase, hchain]
  dsimp only
  rw [hcarrier]
  by_cases hidle : (d.component.callbacks phase).isEmpty = true
  · rw [List.isEmpty_iff.1 hidle]
    exact ⟨rfl, rfl⟩
  · rw [if_neg (by simpa using hidle), hchains]
    dsimp only
    rw [Invocation.lifecycle_during, hchain]
    -- at the end of a chain, it does not matter who was supplied
    exact ⟨rfl, rfl⟩

/-- **Wrapping never lets an interceptor be bypassed.**  Let `d` be a definition with standard
    proxies.  If its lifecycle chains could not be resolved, nothing is wrapped.  If they are
    `chains`, then whatever instance `made` and live interceptors `live` are given, `wrap` returns a
    reference:
    1. It is the interception proxy around `made` exactly when something is intercepted, and else
       `made` itself.
    2. If it is not a proxy, both lifecycle chains are empty.
    3. Whatever has become of the definition, a lifecycle phase on the reference does what the whole
       phase does on `made` with `live`, if the reference is the proxy or `made` is an object. -/
theorem wrap_never_bypassed {host : Host} {d : Definition host}
    (hscheme : d.scheme = ProxyScheme.standard host) (made : host.Ref) (live : host.LiveSet)
    (w : host.World) :
    (∀ f, d.chains = .error f → wrap made live (d, w) = (.error f, d.settled, w)) ∧
    ∀ chains, d.chains = .ok chains → ∃ reference,
      wrap made live (d, w) = (.ok reference, d.settled, w) ∧
      (reference = d.proxyFor made live ↔ d.Intercepted chains) ∧
      (¬ d.Intercepted chains → reference = made) ∧
      (made.proxy? = none → (reference.proxy?.isSome ↔ d.Intercepted chains)) ∧
      (reference.proxy? = none → chains.postConstruct = [] ∧ chains.preDestroy = []) ∧
      ∀ d', Later d d' → ∀ phase, d.Intercepted chains ∨ made.value?.isSome → ∀ w',
        (runPhase phase reference (d', w')).1 = (d.wholePhase chains phase made live w').1 ∧
        (runPhase phase reference (d', w')).2.2 = (d.wholePhase chains phase made live w').2 := by
  constructor
  · intro f hchains
    rw [wrap_apply, hchains]
  intro chains hchains
  have hlater : ∀ {d'}, Later d d' →
      d'.scheme = ProxyScheme.standard host ∧ d'.chains = .ok chains := fun h =>
    ⟨h.scheme_eq.trans hscheme, h.chains_eq.trans hchains⟩
  have hwrap : wrap made live (d, w) = if d.wanted chains
      then (.ok (d.proxyFor made live), d.settled, w) else (.ok made, d.settled, w) :=
    wrap_of_standard hscheme hchains made live w
  by_cases hintercepted : d.Intercepted chains
  · rw [if_pos (d.wanted_iff.2 hintercepted)] at hwrap
    refine ⟨_, hwrap, iff_of_true rfl hintercepted, absurd hintercepted,
      fun _ => iff_of_true rfl hintercepted, nofun, fun d' hd' phase _ w' => ?_⟩
    obtain ⟨hscheme', hchains'⟩ := hlater hd'
    rw [runPhase_proxyFor hscheme' hchains', hd'.wholePhase_eq]
    exact ⟨rfl, rfl⟩
  · rw [if_neg (mt d.wanted_iff.1 hintercepted)] at hwrap
    have hchain : ∀ phase, chains.forPhase phase = [] :=
      forPhase_eq_nil (mt d.wanted_iff.1 hintercepted)
    have hne : made ≠ d.proxyFor made live := by
      intro heq
      -- no reference is inside itself
      have hsize := congrArg sizeOf heq
      simp only [proxyFor, Reference.intercepted.sizeOf_spec, Proxy.mk.sizeOf_spec] at hsize
      omega
    refine ⟨made, hwrap, iff_of_false hne hintercepted, fun _ => rfl, fun hplain => ?_,
      fun _ => ⟨hchain .postConstruct, hchain .preDestroy⟩, fun d' hd' phase hobject w' => ?_⟩
    · rw [hplain]
      exact iff_of_false nofun hintercepted
    · obtain ⟨hscheme', hchains'⟩ := hlater hd'
      have hvalue := hobject.resolve_left hintercepted
      cases made with
      | plain value =>
        rw [← hd'.wholePhase_eq]
        exact runPhase_unwrapped hscheme' hchains' (hchain phase) value live w'
      | intercepted p => cases hvalue
      | «scoped» scope => cases hvalue

/-- A component without a single callback is intercepted all the same, and by the live interceptor
    24 that its instance was wrapped with, not by a new one. -/
theorem wrap_never_bypassed_silent :
    let audit : Interceptor Nat := .everywhere "audit" 4
    let d : Definition Host.numbers.journaled :=
      { component := { Component.numbered 7 "P" [] [] with
          declarations := some { environment := [audit] } } }
    let made : Host.numbers.journaled.Ref := .plain (7 : Nat)
    let live : Host.numbers.journaled.LiveSet := Table.ofList [("audit", (24 : Nat))]
    d.scheme = ProxyScheme.standard Host.numbers.journaled ∧
    d.component.callbacks .preDestroy = [] ∧
    ∃ reference, (wrap made live (d, [], [])).1 = .ok reference ∧ reference.proxy?.isSome = true ∧
      (runPhase .preDestroy reference (d.settled, [], [])).2.2.2 =
        [.entered (24 : Nat) .preDestroy, .left (24 : Nat) .preDestroy (.ok none)] := by
  intro audit d made live
  have hchains : d.chains = .ok ⟨[audit], [audit]⟩ := rfl
  have hintercepted : d.Intercepted ⟨[audit], [audit]⟩ := Or.inl ⟨.preDestroy, List.cons_ne_nil _ _⟩
  obtain ⟨reference, hwrap, -, -, hproxy, -, hphase⟩ :=
    (wrap_never_bypassed (d := d) rfl made live ([], [])).2 _ hchains
  obtain ⟨-, hworld⟩ := hphase d.settled (.settled d) .preDestroy (Or.inl hintercepted) ([], [])
  refine ⟨rfl, rfl, reference, by rw [hwrap], (hproxy rfl).2 hintercepted, ?_⟩
  rw [hworld]
  cbv

end Definition

end Wiring
