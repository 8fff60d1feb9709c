/-
  The slot for the new instance, read off the journal.

  1. `seg.constructions` are the outcomes of the constructor calls that `seg` records, and
     `Made slot seg slot'` says what they do to the slot: each one that succeeds fills it with its
     instance, and one that fails leaves it alone.
  2. A pass through a chain around a constructor fills the slot like that and in no other way
     (`making_run`), whatever the interceptors do: however often they proceed, and whether they
     pass a failure on or swallow it.
  3. So the slot is empty afterwards exactly if no call succeeded.  Whether there was a call at all
     cannot be told from it.
-/
import Wiring.Proofs.Invocation.Served

namespace Wiring

/-! ## Constructor calls of a journal -/

namespace Journal

variable {V : Vocabulary}

/-- `constructions seg` — the outcomes of the constructor calls, in their order. -/
def constructions (seg : Journal V) : List (Except Failure (Reference V)) :=
  seg.filterMap fun
    | .constructed _ _ outcome => some outcome
    | _ => none

/-- `latest slot seg` — what the slot holds after `seg`: the instance of the last call that
    succeeded, or what it held before. -/
def latest (slot : Option (Reference V)) (seg : Journal V) : Option (Reference V) :=
  (constructions seg).foldl (fun slot outcome => outcome.toOption <|> slot) slot

theorem constructions_append (seg seg' : Journal V) :
    constructions (seg ++ seg') = constructions seg ++ constructions seg' :=
  List.filterMap_append

theorem latest_append (slot : Option (Reference V)) (seg seg' : Journal V) :
    latest slot (seg ++ seg') = latest (latest slot seg) seg' := by
  rw [latest, constructions_append, List.foldl_append]
  rfl

/-- The slot is empty exactly if it was and no call has succeeded. -/
theorem latest_eq_none {slot : Option (Reference V)} {seg : Journal V} :
    latest slot seg = none ↔ slot = none ∧ ∀ outcome ∈ constructions seg, outcome.isOk = false := by
  rw [latest]
  induction constructions seg generalizing slot with
  | nil => simp
  | cons outcome rest ih =>
    rw [List.foldl_cons, ih, List.forall_mem_cons]
    cases outcome with
    | error f => simp [Except.toOption, Except.isOk, Except.toBool]
    | ok made => simp [Except.toOption, Except.isOk, Except.toBool]

/-- What has come to the slot is the instance of the last call that succeeded. -/
theorem latest_eq_some {made : Reference V} {seg : Journal V} (h : latest none seg = some made) :
    ∃ before after, constructions seg = before ++ .ok made :: after ∧
      ∀ outcome ∈ after, outcome.isOk = false := by
  have hall : ∀ (outcomes : List (Except Failure (Reference V))) slot,
      outcomes.foldl (fun slot outcome => outcome.toOption <|> slot) slot = some made →
        (∃ before after, outcomes = before ++ .ok made :: after ∧
          ∀ outcome ∈ after, outcome.isOk = false) ∨
        slot = some made ∧ ∀ outcome ∈ outcomes, outcome.isOk = false := by
    intro outcomes
    induction outcomes with
    | nil => exact fun slot h => Or.inr ⟨h, nofun⟩
    | cons outcome rest ih =>
      intro slot h
      rcases ih _ h with ⟨before, after, rfl, hafter⟩ | ⟨hslot, hrest⟩
      · exact Or.inl ⟨outcome :: before, after, rfl, hafter⟩
      · cases outcome with
        | ok other =>
          cases hslot
          exact Or.inl ⟨[], rest, rfl, hrest⟩
        | error f => exact Or.inr ⟨hslot, List.forall_mem_cons.2 ⟨rfl, hrest⟩⟩
  exact (hall _ none h).resolve_right fun hnone => Option.some_ne_none made hnone.1.symm

end Journal

/-! ## Filling the slot -/

variable {host : Host}

/-- `making` — moves along which the slot goes from constructor call to constructor call. -/
def Journal.making :
    Course (Passage host.journaled.toVocabulary × host.journaled.World) Empty where
  rel _ s t := ∃ seg, t.2.2 = s.2.2 ++ seg ∧ t.1.made = Journal.latest s.1.made seg
  stay s := ⟨[], (List.append_nil _).symm, rfl⟩
  append := by
    rintro _ _ s t u ⟨seg, hseg, hmade⟩ ⟨seg', hseg', hmade'⟩
    refine ⟨seg ++ seg', by rw [hseg', hseg, List.append_assoc], hmade'.trans ?_⟩
    rw [hmade]
    exact (Journal.latest_append s.1.made seg seg').symm

open Journal (making)

namespace Route

theorem making_indifferent : Indifferent
    (making : Course (Passage host.journaled.toVocabulary × host.journaled.World) Empty) :=
  fun _ _ _ _ hmade => ⟨[], (List.append_nil _).symm, hmade⟩

variable {r : Route host.journaled.toVocabulary}

theorem making_materialise (r : Route host.journaled.toVocabulary)
    (i : Interceptor host.journaled.Routine) : making.Along [] (r.materialise i) := by
  refine .of_keeps fun ⟨p, w⟩ => ?_
  cases hknown : r.known? p i.name with
  | some it =>
    rw [materialise_of_known hknown]
    exact making.stay (p, w)
  | none =>
    rw [materialise_of_make hknown rfl]
    exact ⟨_, rfl, rfl⟩

/-- At the goal the slot is filled by a success, and kept on a failure. -/
theorem making_arrive {k : Constructor host.journaled.Routine} (hgoal : r.goal = .construct k) :
    making.Along [] r.arrive := by
  refine .of_keeps fun ⟨p, w⟩ => ?_
  have hcall : (host.journaled.construct k.routine p.parameters w).2.2 = w.2 ++
      [.constructed k.routine p.parameters
        (host.journaled.construct k.routine p.parameters w).1] := rfl
  rw [arrive_of_construct hgoal rfl]
  exact ⟨_, hcall, rfl⟩

/-- Neither an interceptor's own doings nor the notes that it is entered and left touch the slot. -/
theorem making_intercept {rest : Trip host.journaled (Option host.journaled.Ref)}
    (hrest : making.Along [] rest) (it : host.Live) :
    making.Along [] (r.follow rest (host.journaled.intercept it r.phase)) := by
  refine .of_keeps fun s => ?_
  let t : Passage host.journaled.toVocabulary × host.journaled.World :=
    (s.1, s.2.1, s.2.2 ++ [.entered it r.phase])
  let u := r.follow rest ((host.intercept it r.phase).beside it) t
  have hentered : making.rel [] s t := ⟨[.entered it r.phase], rfl, rfl⟩
  have hleft : making.rel [] u.2 (u.2.1, u.2.2.1, u.2.2.2 ++ [.left it r.phase u.1]) :=
    ⟨[.left it r.phase u.1], rfl, rfl⟩
  rw [follow_journaled]
  have hbody : making.rel [] t u.2 :=
    making_indifferent.follow hrest.keeps it (host.intercept it r.phase) t
  exact making.trans hentered (making.trans hbody hleft)

/-- A pass through a chain fills the slot by constructor calls alone. -/
theorem making_run {k : Constructor host.journaled.Routine} (hgoal : r.goal = .construct k)
    (chain : List (Interceptor host.journaled.Routine)) : making.Along [] (r.run chain) := by
  refine .of_keeps (rel_run (making_arrive hgoal).keeps ?_ ?_ chain)
  · exact fun i => (making_materialise r i).keeps
  · exact fun hrest it => (making_intercept (.of_keeps hrest) it).keeps

end Route

end Wiring
