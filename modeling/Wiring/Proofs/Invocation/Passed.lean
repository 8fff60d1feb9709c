/-
  What a pass towards callbacks writes into a journal, whoever was supplied for it, and what comes
  of it.

  1. `InTurn target operations calls outcome` — the callbacks themselves: one after the other on the
     target, up to the first that fails, whose failure is the outcome.
  2. `Answers supplied i made it making made'` is the one rule by which an interceptor is found: by
     name among those supplied, then among those made on this pass; else it is made, once, and kept.
  3. `Crosses phase target callbacks supplied chain made seg made' outcome` — a pass through the whole
     chain around the callbacks.  The live interceptors that the pass makes are carried along in a
     table: `made` before, and `made'` after it.  Inside an interceptor the rest of the chain is passed
     through as often as the interceptor proceeds; what the first interceptor is left with is the
     outcome of the pass.
  4. Every pass is like that (`run_crosses`), whatever the interceptors do.  The INVARIANT that a
     program of an interceptor keeps is `crossing`.
-/
import Wiring.Proofs.Invocation.Served

namespace Wiring

variable {V : Vocabulary}

/-! ## Callbacks in turn -/

/-- `InTurn target operations calls outcome` — `calls` record that the operations were called on the
    target in their order: all of them, or as far as the first that failed. -/
inductive InTurn (target : Reference V) (operations : List (Operation V.Routine)) :
    Journal V → Except Failure Unit → Prop where
  | all : InTurn target operations
      (operations.map fun op => .notified op.routine target (.ok ())) (.ok ())
  | failed {before op after f} (hsplit : operations = before ++ op :: after) :
    InTurn target operations
      ((before.map fun op => .notified op.routine target (.ok ())) ++
        [.notified op.routine target (.error f)]) (.error f)

namespace InTurn

variable {target : Reference V} {op : Operation V.Routine} {operations : List (Operation V.Routine)}
  {calls : Journal V} {outcome : Except Failure Unit}

theorem cons (h : InTurn target operations calls outcome) :
    InTurn target (op :: operations) (.notified op.routine target (.ok ()) :: calls) outcome := by
  cases h with
  | all => exact @InTurn.all V target (op :: operations)
  | failed hsplit =>
    subst hsplit
    exact @InTurn.failed V target _ (op :: _) _ _ _ rfl

/-- What is recorded are calls of the operations on the target. -/
theorem writes (h : InTurn target operations calls outcome) :
    ∀ e ∈ calls, (Goal.callbacks target operations).Writes e := by
  have hcalls : ∀ {ops : List (Operation V.Routine)}, (∀ op ∈ ops, op ∈ operations) →
      ∀ e ∈ ops.map fun op => Event.notified op.routine target (.ok ()),
        (Goal.callbacks target operations).Writes e := by
    intro ops hops e he
    obtain ⟨op, hop, rfl⟩ := List.mem_map.1 he
    exact ⟨rfl, op, hops op hop, rfl⟩
  cases h with
  | all => exact hcalls fun _ => id
  | failed hsplit =>
    refine List.forall_mem_append.2 ⟨hcalls fun op hop => ?_, List.forall_mem_singleton.2 ?_⟩
    · exact hsplit ▸ List.mem_append_left _ hop
    · exact ⟨rfl, _, hsplit ▸ List.mem_append_right _ List.mem_cons_self, rfl⟩

theorem exists_notified (h : InTurn target operations calls outcome) {e : Event V} (he : e ∈ calls) :
    ∃ r result, e = .notified r target result := by
  have hwrites := h.writes e he
  cases e with
  | notified r receiver result =>
    obtain ⟨rfl, -⟩ := hwrites
    exact ⟨r, result, rfl⟩
  | _ => cases hwrites

end InTurn

/-! ## Who answers -/

/-- `Unsupplied supplied name` — nobody was supplied under `name`. -/
def Unsupplied (supplied : Option (Table String V.Live)) (name : String) : Prop :=
  ∀ live, supplied = some live → live.get? name = none

theorem supplied_or_unsupplied (supplied : Option (Table String V.Live)) (name : String) :
    (∃ live it, supplied = some live ∧ live.get? name = some it) ∨ Unsupplied supplied name := by
  cases supplied with
  | none => exact Or.inr nofun
  | some live =>
    cases hit : live.get? name with
    | some it => exact Or.inl ⟨live, it, rfl, hit⟩
    | none =>
      refine Or.inr ?_
      rintro _ ⟨⟩
      exact hit

/-- Where nobody was supplied, only those count that were made on this pass. -/
theorem Route.known?_of_unsupplied {r : Route V} {name : String}
    (h : Unsupplied r.supplied name) (p : Passage V) : r.known? p name = p.created.get? name := by
  rw [known?]
  cases hlive : r.supplied with
  | none => rfl
  | some live =>
    dsimp only
    rw [h live hlive]

/-- `Answers supplied i made it making made'` — `it` answers to the name of the interceptor `i`, for
    which `making` was recorded; those made on the pass were `made`, and are `made'` now. -/
inductive Answers (supplied : Option (Table String V.Live)) (i : Interceptor V.Routine)
    (made : Table String V.Live) : V.Live → Journal V → Table String V.Live → Prop where
  /-- It was supplied under this name. -/
  | supplied {live it} (hlive : supplied = some live) (hit : live.get? i.name = some it) :
    Answers supplied i made it [] made
  /-- Nobody was supplied, but one was made under this name before. -/
  | again {it} (hnone : Unsupplied supplied i.name) (hit : made.get? i.name = some it) :
    Answers supplied i made it [] made
  /-- It has to be made, and is remembered. -/
  | made {it} (hnone : Unsupplied supplied i.name) (hnew : made.get? i.name = none) :
    Answers supplied i made it [.made i.maker (.ok it)] (made.insert i.name it)

/-- Nothing but the making of it is recorded. -/
theorem Answers.making {supplied : Option (Table String V.Live)} {i : Interceptor V.Routine}
    {made made' : Table String V.Live} {it : V.Live} {making : Journal V}
    (h : Answers supplied i made it making made') :
    ∀ e ∈ making, ∃ r outcome, e = .made r outcome := by
  cases h with
  | supplied => exact List.forall_mem_nil _
  | again => exact List.forall_mem_nil _
  | made => exact List.forall_mem_singleton.2 ⟨_, _, rfl⟩

/-! ## The record of a pass -/

/-- `Repeats P s seg t` — a number of steps `P` lead from `s` to `t`, and `seg` is what they record,
    one after the other. -/
inductive Repeats {σ ε : Type} (P : σ → List ε → σ → Prop) : σ → List ε → σ → Prop where
  | none {s} : Repeats P s [] s
  | more {s t u seg segs} (first : P s seg t) (rest : Repeats P t segs u) :
    Repeats P s (seg ++ segs) u

namespace Repeats

variable {σ ε : Type} {P : σ → List ε → σ → Prop} {s t u : σ} {seg segs : List ε}

theorem one (h : P s seg t) : Repeats P s seg t := by
  have hmore : Repeats P s (seg ++ []) t := .more h .none
  rwa [List.append_nil] at hmore

theorem trans (h : Repeats P s seg t) (h' : Repeats P t segs u) : Repeats P s (seg ++ segs) u := by
  induction h with
  | none => exact h'
  | more first _ ih =>
    rw [List.append_assoc]
    exact .more first (ih h')

/-- What is recorded, one of the steps has recorded. -/
theorem exists_mem (h : Repeats P s seg t) {e : ε} (he : e ∈ seg) :
    ∃ s' seg' t', P s' seg' t' ∧ e ∈ seg' := by
  induction h with
  | none => cases he
  | more first _ ih =>
    rcases List.mem_append.1 he with he | he
    · exact ⟨_, _, _, first, he⟩
    · exact ih he

end Repeats

/-- `Crosses phase target callbacks supplied chain made seg made' outcome` — `seg` records a pass
    through `chain` towards the callbacks on the target, and the pass has the outcome. -/
def Crosses (phase : Phase) (target : Reference V) (callbacks : List (Operation V.Routine))
    (supplied : Option (Table String V.Live)) :
    List (Interceptor V.Routine) → Table String V.Live → Journal V → Table String V.Live →
      Except Failure (Option (Reference V)) → Prop
  | [], made, seg, made', outcome =>
    made' = made ∧ ∃ result, InTurn target callbacks seg result ∧ outcome = result.map fun _ => none
  | i :: rest, made, seg, made', outcome =>
    (∃ it making joined inner, Answers supplied i made it making joined ∧
      Repeats (fun m pass m' => ∃ r, Crosses phase target callbacks supplied rest m pass m' r)
        joined inner made' ∧
      seg = making ++ .entered it phase :: (inner ++ [.left it phase outcome])) ∨
    ∃ f, Unsupplied supplied i.name ∧ made.get? i.name = none ∧ made' = made ∧
      seg = [.made i.maker (.error f)] ∧ outcome = .error (.interceptorCreation i.name f)

namespace Crosses

variable {phase : Phase} {target : Reference V} {callbacks : List (Operation V.Routine)}
  {supplied : Option (Table String V.Live)} {chain : List (Interceptor V.Routine)}
  {made made' : Table String V.Live} {seg : Journal V}
  {outcome : Except Failure (Option (Reference V))}

/-- Every event of a pass is one. -/
theorem ofPass (h : Crosses phase target callbacks supplied chain made seg made' outcome) :
    ∀ e ∈ seg, e.OfPass phase (.callbacks target callbacks) := by
  induction chain generalizing made seg made' outcome with
  | nil =>
    obtain ⟨-, result, hturn, -⟩ := h
    exact fun e he => Or.inr (Or.inr (Or.inr (hturn.writes e he)))
  | cons i rest ih =>
    rcases h with ⟨it, making, joined, inner, hanswers, hinner, rfl⟩ | ⟨f, -, -, -, rfl, -⟩
    · refine List.forall_mem_append.2 ⟨fun e he => Or.inl (hanswers.making e he),
        List.forall_mem_cons.2 ⟨Or.inr (Or.inl ⟨it, rfl⟩), List.forall_mem_append.2 ⟨fun e he => ?_,
          List.forall_mem_singleton.2 (Or.inr (Or.inr (Or.inl ⟨it, outcome, rfl⟩)))⟩⟩⟩
      obtain ⟨_, _, _, ⟨_, hpass⟩, he⟩ := hinner.exists_mem he
      exact ih hpass e he
    · exact List.forall_mem_singleton.2 (Or.inl ⟨_, _, rfl⟩)

/-- Whoever is called on a pass is the target, and by one of the callbacks. -/
theorem notified (h : Crosses phase target callbacks supplied chain made seg made' outcome)
    {r : V.Routine} {receiver : Reference V} {result : Except Failure Unit}
    (hmem : .notified r receiver result ∈ seg) :
    receiver = target ∧ ∃ op ∈ callbacks, op.routine = r := by
  rcases h.ofPass _ hmem with ⟨_, _, heq⟩ | ⟨_, heq⟩ | ⟨_, _, heq⟩ | hwrites
  · cases heq
  · cases heq
  · cases heq
  · exact hwrites

end Crosses

/-! ## Every pass is recorded like that -/

variable {host : Host}

/-- The callbacks are called in turn, and nothing else is written down. -/
theorem each_inTurn (target : host.journaled.Ref)
    (operations : List (Operation host.journaled.Routine)) :
    ∀ s : host.journaled.World, ∃ calls : Journal host.toVocabulary,
      (Effect.each (fun op => host.journaled.notify op.routine target) operations s).2.2 =
        s.2 ++ calls ∧
      InTurn target operations calls
        (Effect.each (fun op => host.journaled.notify op.routine target) operations s).1 := by
  induction operations with
  | nil => exact fun s => ⟨[], (List.append_nil s.2).symm, .all⟩
  | cons op operations ih =>
    intro s
    have hnote : (host.journaled.notify op.routine target s).2.2 =
        s.2 ++ [.notified op.routine target (host.journaled.notify op.routine target s).1] := rfl
    rw [Effect.each]
    rcases hr : host.journaled.notify op.routine target s with ⟨f | _, t⟩
    · rw [hr] at hnote
      rw [Effect.bind_error hr]
      exact ⟨_, hnote, @InTurn.failed _ target _ [] _ _ _ rfl⟩
    · rw [hr] at hnote
      rw [Effect.bind_ok hr]
      obtain ⟨calls, hlog, hturn⟩ := ih t
      rw [show t.2 = _ from hnote, List.append_assoc] at hlog
      exact ⟨.notified op.routine target (.ok ()) :: calls, hlog, hturn.cons⟩

namespace Route

/-- Whoever answers for an interceptor was supplied, or made before, or is made now. -/
theorem materialise_answers (r : Route host.journaled.toVocabulary)
    (i : Interceptor host.journaled.Routine)
    (s : Passage host.journaled.toVocabulary × host.journaled.World) :
    (∃ it p w making, r.materialise i s = (.ok it, p, w) ∧ w.2 = s.2.2 ++ making ∧
      Answers r.supplied i s.1.created it making p.created) ∨
    ∃ f w, r.materialise i s = (.error (.interceptorCreation i.name f), s.1, w) ∧
      w.2 = s.2.2 ++ [.made i.maker (.error f)] ∧ Unsupplied r.supplied i.name ∧
      s.1.created.get? i.name = none := by
  obtain ⟨p, w⟩ := s
  rcases supplied_or_unsupplied r.supplied i.name with ⟨live, it, hlive, hit⟩ | hnone
  · exact Or.inl ⟨it, p, w, [], materialise_of_supplied hlive hit (p, w),
      (List.append_nil _).symm, .supplied hlive hit⟩
  · have hknown : r.known? p i.name = p.created.get? i.name := known?_of_unsupplied hnone p
    cases hit : p.created.get? i.name with
    | some it =>
      exact Or.inl ⟨it, p, w, [], materialise_of_known (hknown.trans hit),
        (List.append_nil _).symm, .again hnone hit⟩
    | none =>
      rcases hmake : host.make i.maker w.1 with ⟨f | it, w'⟩
      · exact Or.inr ⟨f, _, materialise_of_make_journaled (hknown.trans hit) hmake, rfl, hnone, rfl⟩
      · exact Or.inl ⟨it, _, _, _, materialise_of_make_journaled (hknown.trans hit) hmake, rfl,
          .made hnone hit⟩

/-- `crossing P` — moves on which passes `P` follow one another. -/
def crossing (P : host.LiveSet → Journal host.toVocabulary → host.LiveSet → Prop) :
    Course (Passage host.journaled.toVocabulary × host.journaled.World) Empty where
  rel _ s t := ∃ inner, t.2.2 = s.2.2 ++ inner ∧ Repeats P s.1.created inner t.1.created
  stay _ := ⟨[], (List.append_nil _).symm, .none⟩
  append := by
    rintro _ _ s t u ⟨inner, hlog, hcrosses⟩ ⟨inner', hlog', hcrosses'⟩
    exact ⟨inner ++ inner', by rw [hlog', hlog, List.append_assoc], hcrosses.trans hcrosses'⟩

theorem crossing_indifferent
    (P : host.LiveSet → Journal host.toVocabulary → host.LiveSet → Prop) :
    Indifferent (crossing P) := by
  intro s p w hcreated _
  exact ⟨[], (List.append_nil _).symm, hcreated ▸ .none⟩

/-- Every pass towards callbacks is recorded like that, and has that outcome. -/
theorem run_crosses {r : Route host.journaled.toVocabulary} {target : host.journaled.Ref}
    {callbacks : List (Operation host.journaled.Routine)}
    (hgoal : r.goal = .callbacks target callbacks)
    (chain : List (Interceptor host.journaled.Routine)) :
    ∀ s, ∃ seg, (r.run chain s).2.2.2 = s.2.2 ++ seg ∧
      Crosses r.phase target callbacks r.supplied chain s.1.created seg (r.run chain s).2.1.created
        (r.run chain s).1 := by
  induction chain with
  | nil =>
    intro ⟨p, w⟩
    obtain ⟨calls, hlog, hturn⟩ := each_inTurn target callbacks w
    rw [run, arrive_of_each hgoal rfl]
    exact ⟨calls, hlog, rfl, _, hturn, rfl⟩
  | cons i rest ih =>
    intro s
    let P : host.LiveSet → Journal host.toVocabulary → host.LiveSet → Prop :=
      fun made seg made' => ∃ outcome,
        Crosses r.phase target callbacks r.supplied rest made seg made' outcome
    have hrest : ∀ s, (crossing P).rel [] s (r.run rest s).2 := by
      intro s
      obtain ⟨seg, hlog, hcrosses⟩ := ih s
      exact ⟨seg, hlog, .one ⟨_, hcrosses⟩⟩
    rcases r.materialise_answers i s with
      ⟨it, p, w, making, hok, hlog, hanswers⟩ | ⟨f, w, herror, hlog, hnone, hnew⟩
    · rw [run_of_live hok]
      let t : Passage host.journaled.toVocabulary × host.journaled.World :=
        (p, w.1, w.2 ++ [.entered it r.phase])
      let u := r.follow (r.run rest) ((host.intercept it r.phase).beside it) t
      obtain ⟨inner, hinner, hcrosses⟩ : (crossing P).rel [] t u.2 :=
        (crossing_indifferent P).follow hrest it (host.intercept it r.phase) t
      have hfollow : r.follow (r.run rest) (host.journaled.intercept it r.phase) (p, w) =
        (u.1, u.2.1, u.2.2.1, u.2.2.2 ++ [.left it r.phase u.1]) := r.follow_journaled _ it (p, w)
      rw [hfollow]
      refine ⟨making ++ .entered it r.phase :: (inner ++ [.left it r.phase u.1]), ?_,
        Or.inl ⟨it, making, p.created, inner, hanswers, hcrosses, rfl⟩⟩
      show u.2.2.2 ++ [.left it r.phase u.1] = _
      rw [hinner]
      show w.2 ++ [.entered it r.phase] ++ inner ++ [.left it r.phase u.1] = _
      rw [hlog]
      simp
    · rw [run_of_unmade herror]
      exact ⟨_, hlog, Or.inr ⟨f, hnone, hnew, rfl, rfl, rfl⟩⟩

end Route

/-- The callbacks of a phase, through their chain. -/
theorem Invocation.lifecycle_crosses (phase : Phase) (target : host.journaled.Ref)
    (chain : List (Interceptor host.journaled.Routine)) (supplied : Option host.journaled.LiveSet)
    (callbacks : List (Operation host.journaled.Routine)) (s : host.journaled.World) :
    let run := (Invocation.lifecycle phase target chain supplied callbacks).during
      (@Invocation.proceed host.journaled) s
    ∃ seg made, run.2.2 = s.2 ++ seg ∧
      Crosses phase target callbacks supplied chain ∅ seg made run.1 := by
  obtain ⟨seg, hlog, hcrosses⟩ := Route.run_crosses
    (r := ⟨phase, supplied, .callbacks target callbacks⟩) rfl chain (⟨∅, [], ∅, none⟩, s)
  rw [Invocation.lifecycle_during]
  exact ⟨seg, _, hlog, hcrosses⟩

end Wiring
