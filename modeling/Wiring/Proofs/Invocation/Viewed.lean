/-
  What interceptors see, and who is made, on a pass towards callbacks.

  1. The viewed host is a host beside which stands a list: each time an interceptor looks at its
     invocation, what it sees is appended.
  2. `Hires supplied made seg made'` — those made in `seg` are those that the table of a pass has
     gained.  Every pass is like that, so it makes at most one live interceptor for each name.
  3. Whatever an interceptor sees on a pass towards callbacks has the target of the callbacks for its
     target (`run_sees`), whatever the interceptors do.
-/
import Wiring.Proofs.Invocation.Passed

namespace Wiring

/-! ## The viewed host -/

/-- `Sight V` — a live interceptor, and an invocation as the interceptor saw it. -/
abbrev Sight (V : Vocabulary) : Type := V.Live × View V

/-- `Sight.recorder V` — what interceptors see is noted, and nothing else. -/
def Sight.recorder (V : Vocabulary) : Recorder V (Sight V) where
  seen it v := some (it, v)

/-- `host.viewed` — `host`, with a list of everything that its interceptors see. -/
def Host.viewed (host : Host) : Host := host.recording (Sight.recorder host.toVocabulary)

/-! ## Who was made -/

namespace Journal

variable {V : Vocabulary}

/-- `hired seg` — the live interceptors that were made in `seg`, in their order. -/
def hired (seg : Journal V) : List V.Live :=
  seg.filterMap fun
    | .made _ (.ok it) => some it
    | _ => none

theorem hired_append (seg seg' : Journal V) : hired (seg ++ seg') = hired seg ++ hired seg' :=
  List.filterMap_append

/-- Being entered and being left makes nobody. -/
theorem hired_around (making seg : Journal V) (it : V.Live) (phase : Phase)
    (outcome : Except Failure (Option (Reference V))) :
    hired (making ++ .entered it phase :: (seg ++ [.left it phase outcome])) =
      hired making ++ hired seg := by
  have hleft : hired (V := V) [.left it phase outcome] = [] := rfl
  have hentered : hired (V := V) [.entered it phase] = [] := rfl
  rw [hired_append, ← List.singleton_append, hired_append, hired_append, hleft, hentered,
    List.nil_append, List.append_nil]

end Journal

/-- `Hires supplied made seg made'` — those made in `seg` are those that `made'` has beyond `made`, and
    nobody was supplied under their names. -/
def Hires {V : Vocabulary} (supplied : Option (Table String V.Live)) (made : Table String V.Live)
    (seg : Journal V) (made' : Table String V.Live) : Prop :=
  ∃ new : List (String × V.Live), made'.entries = made.entries ++ new ∧
    seg.hired = new.map Prod.snd ∧ ∀ e ∈ new, Unsupplied supplied e.1

section

variable {V : Vocabulary} {supplied : Option (Table String V.Live)}
  {made made' made'' : Table String V.Live} {seg seg' : Journal V}

theorem Hires.refl (h : seg.hired = []) : Hires supplied made seg made :=
  ⟨[], (List.append_nil _).symm, h, List.forall_mem_nil _⟩

theorem Hires.trans (h : Hires supplied made seg made') (h' : Hires supplied made' seg' made'') :
    Hires supplied made (seg ++ seg') made'' := by
  obtain ⟨new, hentries, hhired, hnone⟩ := h
  obtain ⟨new', hentries', hhired', hnone'⟩ := h'
  exact ⟨new ++ new', by rw [hentries', hentries, List.append_assoc],
    by rw [Journal.hired_append, hhired, hhired', List.map_append],
    List.forall_mem_append.2 ⟨hnone, hnone'⟩⟩

theorem Answers.hires {i : Interceptor V.Routine} {it : V.Live}
    (h : Answers supplied i made it seg made') : Hires supplied made seg made' := by
  cases h with
  | supplied => exact .refl rfl
  | again => exact .refl rfl
  | made hnone hnew =>
    refine ⟨[(i.name, it)], Table.entries_insert_of_not_mem (Table.get?_eq_none_iff.1 hnew) it, rfl, ?_⟩
    exact List.forall_mem_singleton.2 hnone

theorem InTurn.hired {target : Reference V} {operations : List (Operation V.Routine)}
    {outcome : Except Failure Unit} (h : InTurn target operations seg outcome) :
    seg.hired = [] := by
  refine List.filterMap_eq_nil_iff.2 fun e he => ?_
  obtain ⟨r, result, rfl⟩ := h.exists_notified he
  rfl

/-- A pass makes at most one live interceptor for each name, and none for a name under which one was
    supplied. -/
theorem Crosses.hires {phase : Phase} {target : Reference V}
    {callbacks : List (Operation V.Routine)} {chain : List (Interceptor V.Routine)}
    {outcome : Except Failure (Option (Reference V))}
    (h : Crosses phase target callbacks supplied chain made seg made' outcome) :
    Hires supplied made seg made' := by
  induction chain generalizing made seg made' outcome with
  | nil =>
    obtain ⟨rfl, result, hturn, -⟩ := h
    exact .refl hturn.hired
  | cons i rest ih =>
    rcases h with ⟨it, making, joined, inner, hanswers, hinner, rfl⟩ | ⟨f, -, -, rfl, rfl, -⟩
    · have hrest : Hires supplied joined inner made' := by
        clear hanswers
        induction hinner with
        | none => exact .refl rfl
        | more first _ ih' =>
          obtain ⟨r, first⟩ := first
          exact (ih first).trans ih'
      obtain ⟨new, hentries, hhired, hnone⟩ := hanswers.hires.trans hrest
      refine ⟨new, hentries, ?_, hnone⟩
      rw [Journal.hired_around, ← Journal.hired_append, hhired]
    · exact .refl rfl

end

/-! ## What is seen -/

variable {host : Host}

/-- `seeing target` — moves on which whatever is seen has the target. -/
def Sight.seeing (target : host.viewed.journaled.Ref) :
    Course (Passage host.viewed.journaled.toVocabulary × host.viewed.journaled.World) Empty where
  rel _ s t := ∃ sights, t.2.1.2 = s.2.1.2 ++ sights ∧ ∀ v ∈ sights, v.2.target = some target
  stay _ := ⟨[], (List.append_nil _).symm, List.forall_mem_nil _⟩
  append := by
    rintro _ _ s t u ⟨sights, hsights, htarget⟩ ⟨sights', hsights', htarget'⟩
    exact ⟨sights ++ sights', by rw [hsights', hsights, List.append_assoc],
      List.forall_mem_append.2 ⟨htarget, htarget'⟩⟩

open Sight (seeing)

namespace Route

variable {r : Route host.viewed.journaled.toVocabulary} {target : host.viewed.journaled.Ref}
  {callbacks : List (Operation host.viewed.journaled.Routine)}

/-- Where nobody looks, nothing is seen. -/
theorem seeing_of_sights
    {s t : Passage host.viewed.journaled.toVocabulary × host.viewed.journaled.World}
    (h : t.2.1.2 = s.2.1.2) : (seeing target).rel [] s t :=
  ⟨[], h.trans (List.append_nil _).symm, List.forall_mem_nil _⟩

/-- Callbacks are no interceptors. -/
theorem arrive_sees (hgoal : r.goal = .callbacks target callbacks)
    (s : Passage host.viewed.journaled.toVocabulary × host.viewed.journaled.World) :
    (seeing target).rel [] s (r.arrive s).2 := by
  obtain ⟨p, w⟩ := s
  obtain ⟨log, heach⟩ := each_recording (R := Event.recorder host.viewed.toVocabulary) target callbacks
    w
  have hunseen := each_recording_unnoted (R := Sight.recorder host.toVocabulary)
    (fun _ _ _ => rfl) target callbacks w.1
  rw [arrive_of_each hgoal heach]
  exact seeing_of_sights hunseen

/-- Neither is a factory. -/
theorem materialise_sees (i : Interceptor host.viewed.journaled.Routine)
    (s : Passage host.viewed.journaled.toVocabulary × host.viewed.journaled.World) :
    (seeing target).rel [] s (r.materialise i s).2 := by
  obtain ⟨p, w⟩ := s
  cases hknown : r.known? p i.name with
  | some it =>
    rw [materialise_of_known hknown]
    exact seeing_of_sights rfl
  | none =>
    rw [materialise_of_make hknown rfl]
    exact seeing_of_sights rfl

/-- A program of an interceptor, whatever it does, sees nothing but the target. -/
theorem follow_sees {α : Type} (hgoal : r.goal = .callbacks target callbacks)
    {rest : Trip host.viewed.journaled (Option host.viewed.journaled.Ref)}
    (hrest : ∀ s, (seeing target).rel [] s (rest s).2) (it : host.Live)
    (x : Advice host.toVocabulary host.World α) :
    ∀ s, (seeing target).rel [] s
      (r.follow rest ((x.recording (Sight.recorder host.toVocabulary) it).beside it) s).2 := by
  induction x with
  | done a => exact fun s => (seeing target).stay s
  | proceed next ih => exact fun s => (seeing target).trans (hrest s) (ih _ _)
  | observe next ih =>
    intro s
    let v : View host.toVocabulary := r.view s.1
    have htarget : v.target = some target := by
      dsimp only [v, view]
      rw [hgoal]
    have hsaw : (seeing target).rel [] s (s.1, (s.2.1.1, s.2.1.2 ++ [(it, v)]), s.2.2) :=
      ⟨[(it, v)], rfl, List.forall_mem_singleton.2 htarget⟩
    exact (seeing target).trans hsaw (ih v _)
  | setParameters ps next ih =>
    exact fun s => (seeing target).trans (seeing_of_sights rfl) (ih _ ((r.replace s.1 ps).2, s.2))
  | setData data next ih =>
    exact fun s => (seeing target).trans (seeing_of_sights rfl) (ih ({ s.1 with data := data }, s.2))
  | readWorld next ih => exact fun s => ih s.2.1.1 s
  | writeWorld w next ih =>
    exact fun s => (seeing target).trans (seeing_of_sights rfl) (ih (s.1, (w, s.2.1.2), s.2.2))

/-- On a whole pass, interceptors see the target. -/
theorem run_sees (hgoal : r.goal = .callbacks target callbacks)
    (chain : List (Interceptor host.viewed.journaled.Routine)) :
    ∀ s, (seeing target).rel [] s (r.run chain s).2 := by
  refine rel_run (arrive_sees hgoal) materialise_sees (fun {rest} hrest it s => ?_) chain
  have hprogram : host.viewed.intercept it r.phase =
      (host.intercept it r.phase).recording (Sight.recorder host.toVocabulary) it :=
    Host.intercept_recording rfl fun _ => rfl
  let u := r.follow rest ((host.viewed.intercept it r.phase).beside it)
    (s.1, s.2.1, s.2.2 ++ [.entered it r.phase])
  have hsees : (seeing target).rel [] s u.2 := by
    dsimp only [u]
    rw [hprogram]
    exact follow_sees hgoal hrest it (host.intercept it r.phase)
      (s.1, s.2.1, s.2.2 ++ [.entered it r.phase])
  have hfollow : r.follow rest (host.viewed.journaled.intercept it r.phase) s =
    (u.1, u.2.1, u.2.2.1, u.2.2.2 ++ [.left it r.phase u.1]) := r.follow_journaled rest it s
  rw [hfollow]
  exact hsees

end Route

end Wiring
