/-
  Callbacks follow the hierarchy, from the draft to the run.

  1. An accepted draft has its callbacks in the order of the levels: down the hierarchy after
     construction, up the hierarchy before destruction, and as they were added on each level.
  2. A phase whose interceptors pass through runs these callbacks in this order, on the one instance
     that the reference stands for, and no further than the first that fails.
-/
import Mathlib
import Wiring.Proofs.Component.LevelOrder
import Wiring.Proofs.Definition.Attended
import Wiring.Proofs.Invocation.Relay

namespace Wiring

variable {host : Host}

namespace Definition

/-- A phase whose interceptors pass through runs its callbacks in turn. -/
theorem runPhase_inTurn {d : Definition host.journaled} (hscheme : d.scheme.Modest) {phase : Phase}
    {reference current : host.journaled.Ref} {s t : host.journaled.World}
    (hcurrent : d.present reference s = (.ok current, t))
    {chains : LifecycleChains host.journaled.Routine} (hchains : d.chains = .ok chains)
    (hrelays : ∀ i ∈ chains.forPhase phase,
      host.Relays phase ((d.scheme.carrier? current).map (·.interceptors)) i) :
    ∃ seg outcome, (runPhase phase reference (d, s)).2.2.2 = s.2 ++ seg ∧
      InTurn (((d.scheme.carrier? current).map (·.target)).getD current)
        (d.component.callbacks phase) (Journal.notifications seg) outcome ∧
      (runPhase phase reference (d, s)).1 = outcome.mapError (.lifecycle d.name phase) := by
  obtain ⟨asked, hlog, hasked⟩ := present_asked hscheme reference s
  have hquiet : Journal.notifications asked = [] := by
    refine List.filter_eq_nil_iff.2 fun e he => ?_
    obtain ⟨scope, outcome, rfl⟩ := hasked e he
    exact Bool.false_ne_true
  rw [hcurrent] at hlog
  have hlog : t.2 = s.2 ++ asked := hlog
  rw [runPhase_apply, hcurrent, hchains]
  dsimp only
  split
  · next hidle =>
    rw [Bool.and_eq_true, Option.isNone_iff_eq_none, List.isEmpty_iff] at hidle
    refine ⟨asked, .ok (), hlog, ?_, rfl⟩
    rw [hidle.2]
    exact hquiet.symm ▸ .all
  · obtain ⟨seg, outcome, hseg, hresult, hturn⟩ := Invocation.lifecycle_inTurn
      (((d.scheme.carrier? current).map (·.target)).getD current) (d.component.callbacks phase) hrelays t
    have hcalls : Journal.notifications (asked ++ seg) = Journal.notifications seg := by
      rw [Journal.notifications_append, hquiet, List.nil_append]
    have houtcome : ((outcome.map fun _ => (none : Option host.journaled.Ref)).map fun _ => ()) =
        outcome := by
      cases outcome <;> rfl
    refine ⟨asked ++ seg, outcome, hseg.trans ?_, hcalls.symm ▸ hturn, ?_⟩
    · rw [hlog, List.append_assoc]
    · exact congrArg (Except.mapError (Failure.lifecycle d.name phase))
        ((congrArg (Except.map fun _ => ()) hresult).trans houtcome)

/-- **Callbacks follow the hierarchy.**  Let `c` be the component of an accepted draft.

    1. Its callbacks after construction are those of the draft, by ascending depth of their levels;
       those before destruction are by descending depth.  On each level both come in the order in
       which they were added.
    2. Let a definition of `c` run a phase on a reference that stands for `current`, through a chain
       of interceptors that all pass through.  Then the callbacks that are called are those of `c` in
       their order, all of them on the instance behind `current`; they stop with the first that
       fails, and its failure is that of the phase. -/
theorem callbacks_follow_hierarchy {draft : Draft host.journaled.Routine}
    {c : Component host.journaled.Routine} (h : draft.build = .ok c) :
    draft.Arranged (· ≤ ·) draft.postConstruct c.postConstruct ∧
    draft.Arranged (· ≥ ·) draft.preDestroy c.preDestroy ∧
    ∀ (d : Definition host.journaled) (phase : Phase) (reference current : host.journaled.Ref)
      (chains : LifecycleChains host.journaled.Routine) (s t : host.journaled.World),
      d.component.callbacks phase = c.callbacks phase → d.scheme.Modest → d.chains = .ok chains →
      d.present reference s = (.ok current, t) →
      (∀ i ∈ chains.forPhase phase,
        host.Relays phase ((d.scheme.carrier? current).map (·.interceptors)) i) →
      ∃ seg outcome, (runPhase phase reference (d, s)).2.2.2 = s.2 ++ seg ∧
        InTurn (((d.scheme.carrier? current).map (·.target)).getD current) (c.callbacks phase)
          (Journal.notifications seg) outcome ∧
        (runPhase phase reference (d, s)).1 = outcome.mapError (.lifecycle d.name phase) := by
  refine ⟨Draft.arranged_postConstruct h, Draft.arranged_preDestroy h, ?_⟩
  intro d phase reference current chains s t hcallbacks hscheme hchains hcurrent hrelays
  rw [← hcallbacks]
  exact runPhase_inTurn hscheme hcurrent hchains hrelays

/-- Two callbacks on each of two levels, added from the descendant upwards, behind an interception
    proxy: the ancestor's second callback, by routine 19, fails, and the descendant's two are not
    called any more. -/
theorem callbacks_follow_hierarchy_two_levels :
    let audit : Interceptor Nat := .everywhere "audit" 4
    let draft : Draft Host.numbers.journaled.Routine :=
      { type := ⟨7⟩, name := "Leaf", superclasses := ["Base"]
        postConstruct := [⟨⟨"Leaf", "ready"⟩, (5 : Nat)⟩, ⟨⟨"Base", "open"⟩, (3 : Nat)⟩,
          ⟨⟨"Leaf", "done"⟩, (6 : Nat)⟩, ⟨⟨"Base", "check"⟩, (19 : Nat)⟩]
        declarations := some { environment := [audit] } }
    let c : Component Host.numbers.journaled.Routine := draft.component
    let d : Definition Host.numbers.journaled := { component := c }
    let target : Host.numbers.journaled.Ref := .plain (7 : Nat)
    let shared : Host.numbers.journaled.Ref :=
      .intercepted ⟨"Leaf", target, Table.ofList [("audit", (14 : Nat))], ∅⟩
    let calls : Journal Host.numbers.toVocabulary :=
      [.notified (3 : Nat) target (.ok ()), .notified (19 : Nat) target (.error (.raised "nine"))]
    draft.build = .ok c ∧ c.postConstruct.map (·.routine) = [(3 : Nat), (19 : Nat), (5 : Nat), (6 : Nat)] ∧
      (runPhase .postConstruct shared (d, [], [])).1 =
        .error (.lifecycle "Leaf" .postConstruct (.raised "nine")) ∧
      Journal.notifications (runPhase .postConstruct shared (d, [], [])).2.2.2 = calls ∧
      ∃ outcome, InTurn target c.postConstruct calls outcome := by
  intro audit draft c d target shared calls
  have hbuild : draft.build = .ok c := Draft.build_eq_ok_iff.2 ⟨by cbv, rfl⟩
  have hcalls : Journal.notifications (runPhase .postConstruct shared (d, [], [])).2.2.2 = calls := by
    dsimp only [shared, target, d, c, draft, audit, calls]
    cbv
  have hrelays : ∀ i ∈ (LifecycleChains.ofSources ⟨[audit], []⟩).forPhase .postConstruct,
      Host.numbers.Relays .postConstruct (some (Table.ofList [("audit", (14 : Nat))])) i := by
    intro i hi
    obtain rfl : i = audit := List.mem_singleton.1 hi
    have hlive : (Table.ofList [("audit", (14 : Nat))]).get? audit.name = some 14 := by rfl
    exact .supplied rfl hlive fun _ => rfl
  obtain ⟨seg, outcome, hlog, hturn, -⟩ :=
    (callbacks_follow_hierarchy hbuild).2.2 d .postConstruct shared shared
      (.ofSources ⟨[audit], []⟩) ([], []) ([], []) rfl ProxyScheme.modest_standard rfl rfl hrelays
  refine ⟨hbuild, by cbv, by cbv, hcalls, outcome, ?_⟩
  obtain rfl : (runPhase .postConstruct shared (d, [], [])).2.2.2 = seg := hlog
  exact hcalls ▸ hturn

end Definition

end Wiring
