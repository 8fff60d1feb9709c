/-
  A pass through interceptors that pass through runs the callbacks themselves.

  1. A program that passes through proceeds exactly once and returns what comes back.  Beside that it
     may do what it likes: look at the invocation, change data, be refused new parameters, and touch
     the world.  `host.Relays phase supplied i` — whoever answers to `i` passes `phase` through.
  2. Such a program has the outcome of the rest of the chain, and leaves the events of the rest
     between its own two (`follow_relays`, `intercept_relays`).
  3. So if all interceptors of a chain relay, a pass towards callbacks calls them in turn
     (`run_inTurn`).  The INVARIANT of the pass is that every live interceptor made on the way
     relays.
-/
import Wiring.Proofs.Invocation.Obliging
import Wiring.Proofs.Invocation.Passed

namespace Wiring

/-- What is found after an insertion was inserted, or was there before. -/
theorem Table.eq_or_of_get?_insert {κ α : Type} [DecidableEq κ] {t : Table κ α} {k x : κ} {a b : α}
    (h : (t.insert k a).get? x = some b) : b = a ∨ t.get? x = some b := by
  rw [get?_insert] at h
  split at h
  · exact Or.inl (Option.some.inj h).symm
  · exact Or.inr h

/-! ## Callbacks in turn -/

/-- `e.isNotified` — whether `e` is a call of a callback. -/
def Event.isNotified {V : Vocabulary} : Event V → Bool
  | .notified _ _ _ => true
  | _ => false

namespace Journal

variable {V : Vocabulary}

/-- `notifications seg` — the calls of callbacks in `seg`. -/
def notifications (seg : Journal V) : Journal V := seg.filter (·.isNotified)

theorem notifications_append (seg seg' : Journal V) :
    notifications (seg ++ seg') = notifications seg ++ notifications seg' :=
  List.filter_append ..

/-- Neither being made, nor being entered and left, is a call of a callback. -/
theorem notifications_around {making : Journal V} (h : notifications making = []) (seg : Journal V)
    (it : V.Live) (phase : Phase) (outcome : Except Failure (Option (Reference V))) :
    notifications (making ++ .entered it phase :: (seg ++ [.left it phase outcome])) =
      notifications seg := by
  rw [notifications_append, h, List.nil_append, notifications,
    List.filter_cons_of_neg Bool.false_ne_true, List.filter_append,
    List.filter_cons_of_neg Bool.false_ne_true, List.filter_nil, List.append_nil, notifications]

end Journal

theorem InTurn.notifications {V : Vocabulary} {target : Reference V}
    {operations : List (Operation V.Routine)} {calls : Journal V} {outcome : Except Failure Unit}
    (h : InTurn target operations calls outcome) : calls.notifications = calls := by
  refine List.filter_eq_self.2 fun e he => ?_
  obtain ⟨r, result, rfl⟩ := h.exists_notified he
  rfl

variable {host : Host}

/-! ## Passes -/

namespace Route

variable {r : Route host.journaled.toVocabulary}
  {rest : Trip host.journaled (Option host.journaled.Ref)}

/-- Who only returns leaves the journal, and what was made, as they are. -/
theorem follow_returns_beside {α : Type} {a : α} {x : Advice host.toVocabulary host.World α}
    (h : x.Returns a) (it : host.Live) : ∀ s : Passage host.journaled.toVocabulary × host.journaled.World,
      (r.follow rest (x.beside it) s).1 = a ∧
      (r.follow rest (x.beside it) s).2.1.created = s.1.created ∧
      (r.follow rest (x.beside it) s).2.2.2 = s.2.2 := by
  induction x with
  | done b => exact fun s => ⟨h, rfl, rfl⟩
  | proceed next => exact h.elim
  | observe next ih => exact fun s => ih _ (h _) s
  | setParameters ps next ih =>
    intro s
    obtain ⟨houtcome, hcreated, hlog⟩ := ih _ (h _) ((r.replace s.1 ps).2, s.2)
    exact ⟨houtcome, hcreated.trans (r.replace_keeps s.1 ps).1, hlog⟩
  | setData data next ih => exact fun s => ih h ({ s.1 with data := data }, s.2)
  | readWorld next ih => exact fun s => ih _ (h _) s
  | writeWorld w next ih => exact fun s => ih h (s.1, w, s.2.2)

/-- Who relays goes into the rest of the chain once, and comes back with what came of it. -/
theorem follow_relays {x : Advice host.toVocabulary host.World _} (h : x.PassesThrough)
    (it : host.Live) :
    ∀ s : Passage host.journaled.toVocabulary × host.journaled.World, ∃ t,
      t.1.created = s.1.created ∧ t.2.2 = s.2.2 ∧
      (r.follow rest (x.beside it) s).1 = (rest t).1 ∧
      (r.follow rest (x.beside it) s).2.1.created = (rest t).2.1.created ∧
      (r.follow rest (x.beside it) s).2.2.2 = (rest t).2.2.2 := by
  induction x with
  | done b => exact h.elim
  | proceed next => exact fun s => ⟨s, rfl, rfl, follow_returns_beside (h _) it (rest s).2⟩
  | observe next ih => exact fun s => ih _ (h _) s
  | setParameters ps next ih =>
    intro s
    obtain ⟨t, hcreated, ht⟩ := ih _ (h _) ((r.replace s.1 ps).2, s.2)
    exact ⟨t, hcreated.trans (r.replace_keeps s.1 ps).1, ht⟩
  | setData data next ih => exact fun s => ih h ({ s.1 with data := data }, s.2)
  | readWorld next ih => exact fun s => ih _ (h _) s
  | writeWorld w next ih => exact fun s => ih h (s.1, w, s.2.2)

/-- On a journaled host, the events of the rest stand between being entered and being left. -/
theorem intercept_relays {it : host.Live} (h : (host.intercept it r.phase).PassesThrough)
    (s : Passage host.journaled.toVocabulary × host.journaled.World) : ∃ t,
      t.1.created = s.1.created ∧ t.2.2 = s.2.2 ++ [.entered it r.phase] ∧
      (r.follow rest (host.journaled.intercept it r.phase) s).1 = (rest t).1 ∧
      (r.follow rest (host.journaled.intercept it r.phase) s).2.1.created = (rest t).2.1.created ∧
      (r.follow rest (host.journaled.intercept it r.phase) s).2.2.2 =
        (rest t).2.2.2 ++ [.left it r.phase (rest t).1] := by
  obtain ⟨t, hcreated, hlog, houtcome, hcreated', hlog'⟩ :=
    @follow_relays host r rest _ h it (s.1, s.2.1, s.2.2 ++ [.entered it r.phase])
  refine ⟨t, hcreated, hlog, ?_⟩
  rw [follow_journaled]
  exact ⟨houtcome, hcreated', by rw [hlog', houtcome]⟩

end Route

/-! ## Interceptors that pass through -/

/-- `host.Relays phase supplied i` — whoever answers to the interceptor `i` passes the phase through:
    the live interceptor supplied under its name or, if there is none, every one that its factory
    makes; and the factory makes one whenever it is asked. -/
inductive Host.Relays (host : Host) (phase : Phase) (supplied : Option host.LiveSet)
    (i : Interceptor host.Routine) : Prop where
  | supplied {live it} (hlive : supplied = some live) (hit : live.get? i.name = some it)
    (hrelays : (host.intercept it phase).PassesThrough)
  | made (hnone : Unsupplied supplied i.name)
    (hmake : ∀ w, ∃ it w', host.make i.maker w = (.ok it, w') ∧
      (host.intercept it phase).PassesThrough)

namespace Route

/-- `r.Relaying p` — whoever was made on the pass `p` passes the phase through. -/
def Relaying (r : Route host.journaled.toVocabulary) (p : Passage host.journaled.toVocabulary) :
    Prop :=
  ∀ name it, p.created.get? name = some it → (host.intercept it r.phase).PassesThrough

theorem Relaying.of_created {r : Route host.journaled.toVocabulary}
    {p p' : Passage host.journaled.toVocabulary} (h : r.Relaying p)
    (hcreated : p'.created = p.created) : r.Relaying p' := by
  intro name it hit
  rw [hcreated] at hit
  exact h name it hit

/-- Whoever comes to answer for the interceptor relays, and no callback is called for that. -/
theorem materialise_relays {r : Route host.journaled.toVocabulary}
    {i : Interceptor host.journaled.Routine} (hi : host.Relays r.phase r.supplied i)
    (s : Passage host.journaled.toVocabulary × host.journaled.World) (hs : r.Relaying s.1) :
    ∃ it p w making, r.materialise i s = (.ok it, p, w) ∧ (host.intercept it r.phase).PassesThrough ∧
      r.Relaying p ∧ w.2 = s.2.2 ++ making ∧ Journal.notifications making = [] := by
  obtain ⟨p, w⟩ := s
  cases hi with
  | supplied hlive hit hrelays =>
    exact ⟨_, p, w, [], materialise_of_supplied hlive hit (p, w), hrelays, hs,
      (List.append_nil _).symm, rfl⟩
  | made hnone hmake =>
    have hknown : r.known? p i.name = p.created.get? i.name := known?_of_unsupplied hnone p
    cases hit : p.created.get? i.name with
    | some it =>
      exact ⟨it, p, w, [], materialise_of_known (hknown.trans hit), hs _ it hit, hs,
        (List.append_nil _).symm, rfl⟩
    | none =>
      obtain ⟨it, w', hmade, hrelays⟩ := hmake w.1
      refine ⟨it, _, _, [.made i.maker (.ok it)],
        materialise_of_make_journaled (hknown.trans hit) hmade, hrelays, fun name it' hit' => ?_,
        rfl, rfl⟩
      rcases Table.eq_or_of_get?_insert hit' with rfl | hit'
      · exact hrelays
      · exact hs name it' hit'

/-- If all interceptors of a chain relay, a pass towards callbacks calls them in turn. -/
theorem run_inTurn {r : Route host.journaled.toVocabulary} {target : host.journaled.Ref}
    {callbacks : List (Operation host.journaled.Routine)}
    (hgoal : r.goal = .callbacks target callbacks)
    {chain : List (Interceptor host.journaled.Routine)}
    (hchain : ∀ i ∈ chain, host.Relays r.phase r.supplied i) :
    ∀ s, r.Relaying s.1 → ∃ seg outcome, r.Relaying (r.run chain s).2.1 ∧
      (r.run chain s).2.2.2 = s.2.2 ++ seg ∧
      (r.run chain s).1 = outcome.map (fun _ => none) ∧
      InTurn target callbacks (Journal.notifications seg) outcome := by
  induction chain with
  | nil =>
    intro ⟨p, w⟩ hs
    obtain ⟨calls, hlog, hturn⟩ := each_inTurn target callbacks w
    rw [← hturn.notifications] at hturn
    rw [run, arrive_of_each hgoal rfl]
    exact ⟨calls, _, hs, hlog, rfl, hturn⟩
  | cons i chain ih =>
    intro s hs
    obtain ⟨hi, hchain⟩ := List.forall_mem_cons.1 hchain
    obtain ⟨it, p, w, making, hmade, hrelays, hp, hmaking, hquiet⟩ := materialise_relays hi s hs
    obtain ⟨t, hcreated, hentered, houtcome, hcreated', hleft⟩ :=
      @intercept_relays host r (r.run chain) it hrelays (p, w)
    obtain ⟨seg, outcome, ht, hlog, hresult, hturn⟩ :=
      ih hchain t (hp.of_created hcreated)
    rw [run_of_live hmade]
    refine ⟨making ++ .entered it r.phase :: (seg ++ [.left it r.phase (r.run chain t).1]), outcome,
      ht.of_created hcreated', ?_, houtcome.trans hresult, ?_⟩
    · rw [hleft, hlog, hentered, show w.2 = _ from hmaking]
      simp
    · have hcalls := Journal.notifications_around hquiet seg it r.phase (r.run chain t).1
      exact hcalls.symm ▸ hturn

end Route

/-- The callbacks of a phase, through a chain of interceptors that all relay. -/
theorem Invocation.lifecycle_inTurn {phase : Phase} (target : host.journaled.Ref)
    {chain : List (Interceptor host.journaled.Routine)} {supplied : Option host.journaled.LiveSet}
    (callbacks : List (Operation host.journaled.Routine))
    (hchain : ∀ i ∈ chain, host.Relays phase supplied i) (s : host.journaled.World) :
    let run := (Invocation.lifecycle phase target chain supplied callbacks).during
      (@Invocation.proceed host.journaled) s
    ∃ seg outcome, run.2.2 = s.2 ++ seg ∧ run.1 = outcome.map (fun _ => none) ∧
      InTurn target callbacks (Journal.notifications seg) outcome := by
  have hfresh : Route.Relaying ⟨phase, supplied, .callbacks target callbacks⟩
      (⟨∅, [], ∅, none⟩ : Passage host.journaled.toVocabulary) := by
    intro name it hit
    cases hit
  obtain ⟨seg, outcome, -, hlog, hresult, hturn⟩ :=
    Route.run_inTurn rfl hchain (⟨∅, [], ∅, none⟩, s) hfresh
  rw [Invocation.lifecycle_during]
  exact ⟨seg, outcome, hlog, hresult, hturn⟩

end Wiring
