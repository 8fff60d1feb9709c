/-
  Passes on a recording host.

  1. An interceptor's program runs beside the notes, between that of its being entered and that of
     its being left (`follow_intercept_recording`).
  2. `r.Admits R it C` — whatever the program of `it` may do beside proceeding is a move of `C`, with
     the notes that `R` takes of it.  Then so is the whole of a program whose proceeding is one
     (`Admits.follow`), however often it proceeds.
-/
import Wiring.Proofs.Effect.Course
import Wiring.Proofs.Invocation.Recursion
import Wiring.Proofs.Recording.Basic

namespace Wiring

variable {host : Host} {N α : Type} {R : Recorder host.toVocabulary N}

namespace Route

/-- A program followed by another. -/
theorem follow_andThen {β : Type} (r : Route host.toVocabulary)
    (rest : Trip host (Option host.Ref)) (x : Advice host.toVocabulary host.World α)
    (k : α → Advice host.toVocabulary host.World β) :
    ∀ s, r.follow rest (x.andThen k) s =
      r.follow rest (k (r.follow rest x s).1) (r.follow rest x s).2 := by
  induction x with
  | done a => exact fun _ => rfl
  | proceed next ih => exact fun s => ih _ (rest s).2
  | observe next ih => exact fun s => ih _ s
  | setParameters ps next ih => exact fun s => ih _ ((r.replace s.1 ps).2, s.2)
  | setData data next ih => exact fun s => ih ({ s.1 with data := data }, s.2)
  | readWorld next ih => exact fun s => ih s.2 s
  | writeWorld w next ih => exact fun s => ih (s.1, w)

variable {r : Route (host.recording R).toVocabulary}
  {rest : Trip (host.recording R) (Option (host.recording R).Ref)} {it : host.Live}

/-- Callbacks come to the same, whatever is noted of them. -/
theorem each_recording (target : host.Ref) (callbacks : List (Operation host.Routine))
    (s : (host.recording R).World) :
    let run := Effect.each (fun op => host.notify op.routine target) callbacks s.1
    ∃ notes, Effect.each (fun op => (host.recording R).notify op.routine target) callbacks s =
      (run.1, run.2, notes) := by
  induction callbacks generalizing s with
  | nil => exact ⟨s.2, rfl⟩
  | cons op rest ih =>
    dsimp only [Effect.each]
    rcases hr : host.notify op.routine target s.1 with ⟨outcome, w⟩
    have hnoted : (host.recording R).notify op.routine target s =
        (outcome, w, noted s.2 (R.notified op.routine target outcome)) :=
      congrArg (fun r => (r.1, r.2, noted s.2 (R.notified op.routine target r.1))) hr
    cases outcome with
    | error f =>
      rw [Effect.bind_error hr, Effect.bind_error hnoted]
      exact ⟨_, rfl⟩
    | ok _ =>
      rw [Effect.bind_ok hr, Effect.bind_ok hnoted]
      exact ih _

/-- `unnoted` — moves on which nothing is noted. -/
def unnoted : Course (host.recording R).World Empty where
  rel _ s t := t.2 = s.2
  stay _ := rfl
  append h h' := h'.trans h

/-- Where callbacks are not noted, they leave the notes as they are. -/
theorem each_recording_unnoted (hquiet : ∀ c r outcome, R.notified c r outcome = none)
    (target : host.Ref) (callbacks : List (Operation host.Routine)) (s : (host.recording R).World) :
    (Effect.each (fun op => (host.recording R).notify op.routine target) callbacks s).2.2 = s.2 := by
  have hnotify : ∀ op ∈ callbacks,
      (unnoted (R := R)).Along [] ((host.recording R).notify op.routine target) := by
    refine fun op _ => .of_keeps fun s => ?_
    show noted s.2 (R.notified _ _ _) = s.2
    rw [hquiet]
    rfl
  exact (Course.along_each_nil hnotify).keeps s

/-- What is noted is noted first. -/
theorem follow_noting (n : Option N) (next : Advice host.toVocabulary (host.World × List N) α)
    (s : Passage (host.recording R).toVocabulary × (host.recording R).World) :
    r.follow rest (.noting n next) s = r.follow rest next (s.1, s.2.1, noted s.2.2 n) := by
  cases n <;> rfl

/-- A live interceptor on a recording host runs beside the notes, between two of them. -/
theorem follow_intercept_recording (r : Route (host.recording R).toVocabulary)
    (rest : Trip (host.recording R) (Option (host.recording R).Ref)) (it : host.Live)
    (s : Passage (host.recording R).toVocabulary × (host.recording R).World) :
    let u := r.follow rest ((host.intercept it r.phase).recording R it)
      (s.1, s.2.1, noted s.2.2 (R.entered it r.phase))
    r.follow rest ((host.recording R).intercept it r.phase) s =
      (u.1, u.2.1, u.2.2.1, noted u.2.2.2 (R.left it r.phase u.1)) := by
  intro u
  have hbody := follow_andThen r rest ((host.intercept it r.phase).recording R it)
    (fun outcome => .noting (R.left it r.phase outcome) (.done outcome))
    (s.1, s.2.1, noted s.2.2 (R.entered it r.phase))
  exact (follow_noting _ _ s).trans (hbody.trans (follow_noting _ _ u.2))

/-- `r.Admits R it C` — the moves `C` allow whatever the program of the interceptor `it` may do
    beside proceeding, and what `R` notes of it. -/
structure Admits (R : Recorder host.toVocabulary N) (r : Route (host.recording R).toVocabulary)
    (it : host.Live)
    (C : Course (Passage (host.recording R).toVocabulary × (host.recording R).World) Empty) :
    Prop where
  /-- The shared data change. -/
  shared : ∀ p w data, C.rel [] (p, w) ({ p with data := data }, w)
  /-- The world changes, but for the notes. -/
  elsewhere : ∀ p w w' notes, C.rel [] (p, w, notes) (p, w', notes)
  seen : ∀ p w notes, C.rel [] (p, w, notes) (p, w, noted notes (R.seen it (r.view p)))
  replaced : ∀ p w notes ps, C.rel [] (p, w, notes)
    ((r.replace p ps).2, w, noted notes (R.replaced ps (r.replace p ps).1))

/-- A program of an interceptor, whatever it does and however often it proceeds. -/
theorem Admits.follow
    {C : Course (Passage (host.recording R).toVocabulary × (host.recording R).World) Empty}
    (h : r.Admits R it C) (hrest : ∀ s, C.rel [] s (rest s).2)
    (x : Advice host.toVocabulary host.World α) :
    ∀ s, C.rel [] s (r.follow rest (x.recording R it) s).2 := by
  -- a note is a move of its own, before the rest of the program
  have hnoting : ∀ {n : Option N} {next : Advice host.toVocabulary (host.World × List N) α}
      {s t : Passage (host.recording R).toVocabulary × (host.recording R).World},
      C.rel [] s (t.1, t.2.1, noted t.2.2 n) → (∀ s, C.rel [] s (r.follow rest next s).2) →
        C.rel [] s (r.follow rest (.noting n next) t).2 := by
    intro n next s t hnoted hnext
    rw [follow_noting]
    exact C.trans hnoted (hnext _)
  induction x with
  | done a => exact fun s => C.stay s
  | proceed next ih => exact fun s => C.trans (hrest s) (ih _ _)
  | observe next ih => exact fun s => hnoting (t := s) (h.seen s.1 s.2.1 s.2.2) (ih (r.view s.1))
  | setParameters ps next ih =>
    exact fun s => hnoting (t := ((r.replace s.1 ps).2, s.2)) (h.replaced s.1 s.2.1 s.2.2 ps) (ih _)
  | setData data next ih => exact fun s => C.trans (h.shared s.1 s.2 data) (ih _)
  | readWorld next ih => exact fun s => ih s.2.1 s
  | writeWorld w next ih =>
    exact fun s => C.trans (h.elsewhere s.1 s.2.1 w s.2.2) (ih (s.1, w, s.2.2))

end Route

end Wiring
