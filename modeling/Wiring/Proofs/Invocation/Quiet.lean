/-
  A quiet host stays quiet through a whole chain.

  The recursion on the chain is taken for the cursor machine here: it has the same world at the end
  of every call, and no cursor to keep track of.  An interceptor may do what it likes with the
  outcome of what it proceeds into, so the INVARIANT is on the world alone (`Course.below`).
-/
import Wiring.Proofs.Invocation.Recursion
import Wiring.Proofs.Journal.Ledger

namespace Wiring

variable {host : Host} {ℓ : Type} {L : Course host.World ℓ}

namespace Route

theorem along_materialise (hq : host.Quiet L) (r : Route host.toVocabulary)
    (i : Interceptor host.Routine) : L.below.Along [] (r.materialise i) := by
  refine .of_keeps fun ⟨p, w⟩ => ?_
  cases hknown : r.known? p i.name with
  | some it =>
    rw [materialise_of_known hknown]
    exact L.stay w
  | none =>
    rw [materialise_of_make hknown rfl]
    exact (hq.make i.maker).keeps w

theorem along_arrive (hq : host.Quiet L) (r : Route host.toVocabulary) :
    L.below.Along [] r.arrive := by
  refine .of_keeps fun ⟨p, w⟩ => ?_
  cases hgoal : r.goal with
  | callbacks target operations =>
    have hcalls : L.Along []
        (Effect.each (fun op => host.notify op.routine target) operations) :=
      Course.along_each_nil fun op _ => hq.notify op.routine target
    rw [arrive_of_each hgoal rfl]
    exact hcalls.keeps w
  | construct k =>
    rw [arrive_of_construct hgoal rfl]
    exact (hq.construct k.routine p.parameters).keeps w
  | call target method =>
    rw [arrive_of_call hgoal rfl]
    exact (hq.call method.routine target p.parameters).keeps w

/-- A quiet program is quiet around a quiet rest, however often it proceeds. -/
theorem rel_follow {α : Type} {rest : Trip host (Option host.Ref)} (hrest : L.below.Along [] rest)
    (r : Route host.toVocabulary) (x : Advice host.toVocabulary host.World α) :
    ∀ s, x.QuietFrom L s.2 → L.rel [] s.2 (r.follow rest x s).2.2 := by
  induction x with
  | done a => exact fun s _ => L.stay s.2
  | proceed next ih =>
    intro s hx
    have hproceed : L.rel [] s.2 (rest s).2.2 := hrest.keeps s
    rw [follow]
    exact L.trans hproceed (ih _ _ (hx _ _ hproceed))
  | observe next ih => exact fun s hx => ih _ s (hx _)
  | setParameters ps next ih => exact fun s hx => ih _ ((r.replace s.1 ps).2, s.2) (hx _)
  | setData data next ih => exact fun s hx => ih ({ s.1 with data := data }, s.2) hx
  | readWorld next ih => exact fun s hx => ih s.2 s hx
  | writeWorld w next ih => exact fun s hx => L.trans hx.1 (ih (s.1, w) hx.2)

theorem along_run (hq : host.Quiet L) (r : Route host.toVocabulary)
    (chain : List (Interceptor host.Routine)) : L.below.Along [] (r.run chain) := by
  refine .of_keeps (rel_run (along_arrive hq r).keeps ?_ ?_ chain)
  · exact fun i => (along_materialise hq r i).keeps
  · exact fun hrest it s => rel_follow (.of_keeps hrest) r _ s (hq.intercept it r.phase s.2)

end Route

namespace Invocation

theorem along_proceed (hq : host.Quiet L) :
    L.below.Along [] (proceed : Run host (Option host.Ref)) := by
  refine .of_keeps fun ⟨inv, w⟩ => ?_
  by_cases hopen : inv.status = .pending ∨ inv.status = .running
  · rw [proceed_of_open hopen]
    exact (Route.along_run hq inv.route inv.rest).keeps (inv.passage, w)
  · -- a finished invocation does not even look at the world
    have hover : inv.status = .completed ∨ inv.status = .failed := by
      cases h : inv.status <;> simp_all
    obtain ⟨f, hf⟩ : ∃ f, enter (advance proceed) (inv, w) = (.error f, (inv, w)) :=
      enter_of_over hover
    rw [proceed_eq_enter_advance, hf]
    exact L.stay w

theorem along_reachEnding (hq : host.Quiet L) :
    L.below.Along [] (reachEnding : Run host (Option host.Ref)) := by
  refine .of_keeps fun ⟨inv, w⟩ => ?_
  rw [(matches_reachEnding inv).of_passage rfl]
  exact (Route.along_arrive hq inv.route).keeps (inv.passage, w)

theorem along_proceedDirectly (hq : host.Quiet L) :
    L.below.Along [] (proceedDirectly : Run host (Option host.Ref)) := by
  refine .of_keeps fun s => ?_
  rw [proceedDirectly]
  split
  · exact L.stay s.2
  · exact (along_reachEnding hq).keeps s

theorem along_takeNewInstance :
    L.below.Along [] (takeNewInstance : Run host (Option host.Ref)) :=
  .of_keeps fun s => L.stay s.2

/-- What an invocation does to the world, it does quietly if all of its steps are quiet. -/
theorem along_during {α : Type} {x : Run host α} (hx : L.below.Along [] x)
    (inv : Invocation host.toVocabulary) : L.Along [] (inv.during x) :=
  .of_keeps fun w => hx.keeps (inv, w)

end Invocation

end Wiring
