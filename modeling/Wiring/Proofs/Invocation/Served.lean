/-
  What a pass through a chain writes into a journal.

  `Served phase goal live chain seg` — `seg` is the record of a pass in which each interceptor of
  `chain` was received by the live interceptor that `live` has under its name.  It is a recursion on
  the chain: an interceptor is entered, the rest is passed through as often as the interceptor
  proceeds, and the interceptor is left.  At the end of the chain is the goal, and nothing but the
  goal is written down there.  So no interceptor is ever made on such a pass.

  A pass is served whenever it was supplied with the live interceptors of the whole chain
  (`run_served`), whatever the interceptors do.
-/
import Wiring.Proofs.Invocation.Recursion
import Wiring.Proofs.Journal.Ledger
import Wiring.Proofs.Recording.Passing

namespace Wiring

variable {V : Vocabulary}

/-- `g.Writes e` — `e` is what is written down when `g` is reached. -/
def Goal.Writes : Goal V → Event V → Prop
  | .callbacks target operations, .notified r receiver _ =>
    receiver = target ∧ ∃ op ∈ operations, op.routine = r
  | .construct k, .constructed r _ _ => r = k.routine
  | .call target method, .called r receiver _ _ => receiver = target ∧ r = method.routine
  | _, _ => False

/-- `e.OfPass phase goal` — `e` is of a pass towards `goal`: an interceptor is made, entered or left, or
    the goal is reached. -/
def Event.OfPass (phase : Phase) (goal : Goal V) (e : Event V) : Prop :=
  (∃ r outcome, e = .made r outcome) ∨ (∃ it, e = .entered it phase) ∨
    (∃ it outcome, e = .left it phase outcome) ∨ goal.Writes e

/-- `Served phase goal live chain seg` — `seg` records a pass through `chain` towards `goal`, received
    by the live interceptors of `live`. -/
def Served (phase : Phase) (goal : Goal V) (live : Table String V.Live) :
    List (Interceptor V.Routine) → Journal V → Prop
  | [], seg => ∀ e ∈ seg, goal.Writes e
  | i :: rest, seg => ∃ it inner outcome, live.get? i.name = some it ∧
      (∀ pass ∈ inner, Served phase goal live rest pass) ∧
      seg = .entered it phase :: (List.flatten inner ++ [.left it phase outcome])

/-- `Covers live chain` — every interceptor of the chain has a live one under its name. -/
def Covers (live : Table String V.Live) (chain : List (Interceptor V.Routine)) : Prop :=
  ∀ i ∈ chain, ∃ it, live.get? i.name = some it

variable {host : Host}

namespace Route

/-- Reaching the goal writes down the goal. -/
theorem arrive_writes (r : Route host.journaled.toVocabulary)
    (p : Passage host.journaled.toVocabulary)
    (s : host.journaled.World) :
    ∃ seg, (r.arrive (p, s)).2.2.2 = s.2 ++ seg ∧ ∀ e ∈ seg, r.goal.Writes e := by
  cases hgoal : r.goal with
  | callbacks target operations =>
    have hnotes : (Journal.writing (Goal.callbacks target operations).Writes).Along []
        (Effect.each (fun op => host.journaled.notify op.routine target) operations) :=
      Course.along_each_nil fun op hop => Journal.writing_noting (fun _ => ⟨rfl, op, hop, rfl⟩) _
    obtain ⟨seg, hseg, hwrites⟩ : ∃ seg, (Effect.each (fun op =>
        host.journaled.notify op.routine target) operations s).2.2 = s.2 ++ seg ∧
        ∀ e ∈ seg, (Goal.callbacks target operations).Writes e := hnotes.keeps s
    rw [arrive_of_each hgoal rfl]
    exact ⟨seg, hseg, hwrites⟩
  | construct k =>
    rw [arrive_of_construct hgoal rfl]
    exact ⟨[.constructed k.routine p.parameters _], rfl, List.forall_mem_singleton.2 rfl⟩
  | call target method =>
    rw [arrive_of_call hgoal rfl]
    exact ⟨[.called method.routine target p.parameters _], rfl,
      List.forall_mem_singleton.2 ⟨rfl, rfl⟩⟩

/-- `Indifferent R` — whatever an interceptor does beside proceeding is a move of `R`. -/
def Indifferent (R : Course (Passage host.journaled.toVocabulary × host.journaled.World) Empty) :
    Prop :=
  ∀ s p w, p.created = s.1.created → p.made = s.1.made → R.rel [] s (p, w, s.2.2)

theorem replace_keeps {V : Vocabulary} (r : Route V) (p : Passage V) (ps : List (Reference V)) :
    (r.replace p ps).2.created = p.created ∧ (r.replace p ps).2.made = p.made := by
  rw [replace]
  split
  · exact ⟨rfl, rfl⟩
  all_goals split <;> exact ⟨rfl, rfl⟩

/-- What an interceptor does is not written down, so an indifferent course admits all of it. -/
theorem Indifferent.admits
    {R : Course (Passage host.journaled.toVocabulary × host.journaled.World) Empty}
    (h : Indifferent R) (r : Route host.journaled.toVocabulary) (it : host.Live) :
    r.Admits (Event.recorder host.toVocabulary) it R where
  shared p w data := h (p, w) { p with data := data } w.1 rfl rfl
  elsewhere p w w' log := h (p, w, log) p w' rfl rfl
  seen p w log := R.stay (p, w, log)
  replaced p w log ps :=
    h (p, w, log) (r.replace p ps).2 w (r.replace_keeps p ps).1 (r.replace_keeps p ps).2

theorem Indifferent.follow {α : Type}
    {R : Course (Passage host.journaled.toVocabulary × host.journaled.World) Empty}
    (h : Indifferent R) {r : Route host.journaled.toVocabulary}
    {rest : Trip host.journaled (Option host.journaled.Ref)} (hrest : ∀ s, R.rel [] s (rest s).2)
    (it : host.Live) (x : Advice host.toVocabulary host.World α) :
    ∀ s, R.rel [] s (r.follow rest (x.beside it) s).2 :=
  (h.admits r it).follow hrest x

/-- `repeating P` — moves that append to the journal, one after the other, segments that satisfy
    `P`. -/
def repeating (P : Journal host.toVocabulary → Prop) :
    Course (Passage host.journaled.toVocabulary × host.journaled.World) Empty where
  rel _ s t := ∃ inner, (∀ pass ∈ inner, P pass) ∧ t.2.2 = s.2.2 ++ inner.flatten
  stay _ := ⟨[], nofun, (List.append_nil _).symm⟩
  append := by
    rintro _ _ s t u ⟨inner, hinner, ht⟩ ⟨inner', hinner', hu⟩
    exact ⟨inner ++ inner', List.forall_mem_append.2 ⟨hinner, hinner'⟩,
      by rw [hu, ht, List.append_assoc, List.flatten_append]⟩

/-- Of a program beside the journal, the journal has what the program proceeded into, as often as it
    did so. -/
theorem follow_beside {α : Type} {P : Journal host.toVocabulary → Prop}
    {r : Route host.journaled.toVocabulary}
    {rest : Trip host.journaled (Option host.journaled.Ref)}
    (hrest : ∀ s, ∃ seg, (rest s).2.2.2 = s.2.2 ++ seg ∧ P seg) (it : host.Live)
    (x : Advice host.toVocabulary host.World α)
    (s : Passage host.journaled.toVocabulary × host.journaled.World) :
    ∃ inner : List (Journal host.toVocabulary), (∀ pass ∈ inner, P pass) ∧
      (r.follow rest (x.beside it) s).2.2.2 = s.2.2 ++ inner.flatten := by
  have hindifferent : Indifferent (repeating P) := fun s _ _ _ _ => (repeating P).stay s
  refine hindifferent.follow (fun s => ?_) it x s
  obtain ⟨seg, hseg, hP⟩ := hrest s
  exact ⟨[seg], List.forall_mem_singleton.2 hP, by rw [hseg, List.flatten_singleton]⟩

/-- A live interceptor on a journaled host runs beside the journal, between two events of it. -/
theorem follow_journaled (r : Route host.journaled.toVocabulary)
    (rest : Trip host.journaled (Option host.journaled.Ref)) (it : host.Live)
    (s : Passage host.journaled.toVocabulary × host.journaled.World) :
    let u := r.follow rest ((host.intercept it r.phase).beside it)
      (s.1, s.2.1, s.2.2 ++ [.entered it r.phase])
    r.follow rest (host.journaled.intercept it r.phase) s =
      (u.1, u.2.1, u.2.2.1, u.2.2.2 ++ [.left it r.phase u.1]) :=
  r.follow_intercept_recording rest it s

/-- An interceptor is entered, passes on as often as it proceeds, and is left. -/
theorem follow_intercept {P : Journal host.toVocabulary → Prop}
    {r : Route host.journaled.toVocabulary}
    {rest : Trip host.journaled (Option host.journaled.Ref)}
    (hrest : ∀ s, ∃ seg, (rest s).2.2.2 = s.2.2 ++ seg ∧ P seg) (it : host.Live)
    (s : Passage host.journaled.toVocabulary × host.journaled.World) :
    ∃ inner outcome, (∀ pass ∈ inner, P pass) ∧
      (r.follow rest (host.journaled.intercept it r.phase) s).2.2.2 =
        s.2.2 ++ .entered it r.phase :: (List.flatten inner ++ [.left it r.phase outcome]) := by
  let u := r.follow rest ((host.intercept it r.phase).beside it)
    (s.1, s.2.1, s.2.2 ++ [.entered it r.phase])
  obtain ⟨inner, hinner, hu⟩ := follow_beside (r := r) hrest it (host.intercept it r.phase)
    (s.1, s.2.1, s.2.2 ++ [.entered it r.phase])
  have hu : u.2.2.2 = (s.2.2 ++ [.entered it r.phase]) ++ inner.flatten := hu
  refine ⟨inner, u.1, hinner, ?_⟩
  rw [follow_journaled]
  show u.2.2.2 ++ [.left it r.phase u.1] = _
  rw [hu]
  simp

/-- What was supplied is known, and nothing is made. -/
theorem materialise_of_supplied {r : Route host.toVocabulary} {live : host.LiveSet}
    (hsupplied : r.supplied = some live) {i : Interceptor host.Routine} {it : host.Live}
    (hit : live.get? i.name = some it) (s : Passage host.toVocabulary × host.World) :
    r.materialise i s = (.ok it, s) := by
  have hknown : r.known? s.1 i.name = some it := by
    rw [known?, hsupplied]
    dsimp only
    rw [hit]
  exact materialise_of_known hknown

/-- Whatever comes of making an interceptor is written down. -/
theorem materialise_of_make_journaled {r : Route host.journaled.toVocabulary}
    {i : Interceptor host.journaled.Routine} {p : Passage host.journaled.toVocabulary}
    (hknown : r.known? p i.name = none) {w : host.journaled.World} {w' : host.World}
    {outcome : Except Failure host.Live} (hmake : host.make i.maker w.1 = (outcome, w')) :
    r.materialise i (p, w) = (outcome.mapError (.interceptorCreation i.name),
      { p with created := (outcome.toOption.map (p.created.insert i.name)).getD p.created },
      w', w.2 ++ [.made i.maker outcome]) := by
  have hnoted : host.journaled.make i.maker w = (outcome, w', w.2 ++ [.made i.maker outcome]) :=
    congrArg (fun r => (r.1, r.2, w.2 ++ [.made i.maker r.1])) hmake
  exact materialise_of_make hknown hnoted

/-- A pass that was supplied with all live interceptors of its chain is served by them. -/
theorem run_served (r : Route host.journaled.toVocabulary) (live : host.journaled.LiveSet)
    (chain : List (Interceptor host.journaled.Routine))
    (hsupplied : chain ≠ [] → r.supplied = some live) (hcovers : Covers live chain) :
    ∀ s, ∃ seg, (r.run chain s).2.2.2 = s.2.2 ++ seg ∧ Served r.phase r.goal live chain seg := by
  induction chain with
  | nil => exact fun s => r.arrive_writes s.1 s.2
  | cons i rest ih =>
    intro s
    have hlive := hsupplied (List.cons_ne_nil i rest)
    obtain ⟨it, hit⟩ := hcovers i List.mem_cons_self
    have hrest := ih (fun _ => hlive) fun j hj => hcovers j (List.mem_cons_of_mem i hj)
    rw [run_of_live (materialise_of_supplied hlive hit s)]
    obtain ⟨inner, outcome, hinner, hlog⟩ := follow_intercept (r := r) hrest it s
    exact ⟨_, hlog, it, inner, outcome, hit, hinner, rfl⟩

end Route

namespace Invocation

/-- A whole chain, from the start. -/
theorem proceed_served (inv : Invocation host.journaled.toVocabulary)
    (hpending : inv.status = .pending) (hcursor : inv.cursor = 0) (live : host.journaled.LiveSet)
    (hsupplied : inv.chain ≠ [] → inv.supplied = some live) (hcovers : Covers live inv.chain)
    (s : host.journaled.World) :
    ∃ seg, (proceed (inv, s)).2.2.2 = s.2 ++ seg ∧
      Served inv.phase inv.ending.goal live inv.chain seg := by
  rw [proceed_of_start hpending hcursor]
  exact Route.run_served inv.route live inv.chain hsupplied hcovers (inv.passage, s)

/-- A direct call writes down the goal, if it is not refused. -/
theorem proceedDirectly_writes (inv : Invocation host.journaled.toVocabulary)
    (s : host.journaled.World) :
    ∃ seg, (proceedDirectly (inv, s)).2.2.2 = s.2 ++ seg ∧ ∀ e ∈ seg, inv.ending.goal.Writes e := by
  rw [proceedDirectly]
  split
  · exact ⟨[], (List.append_nil s.2).symm, nofun⟩
  · rw [(matches_reachEnding inv).of_passage rfl]
    exact inv.route.arrive_writes inv.passage s

end Invocation

end Wiring
