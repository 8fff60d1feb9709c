/-
  Where the programs of interceptors proceed on a recording host.

  A program runs in a frame, which is an invocation in the middle of a call, and changes its passage
  alone.  Whatever it does with the passage before it proceeds is a move that the course admits
  (`Admits.asks`), however often it has proceeded before; and the notes of its being entered and left
  stand around the whole of it (`asks_intercept`).
-/
import Wiring.Proofs.Invocation.Called
import Wiring.Proofs.Recording.Passing

namespace Wiring

variable {host : Host} {N α : Type} {R : Recorder host.toVocabulary N} {it : host.Live}

namespace Advice

variable {P : Invocation (host.recording R).toVocabulary × (host.recording R).World → Prop}
  {proceed : Run (host.recording R) (Option (host.recording R).Ref)}

/-- A note is taken before the rest of the program. -/
theorem asks_noting {n : Option N} {next : Advice host.toVocabulary (host.World × List N) α}
    {s : Invocation (host.recording R).toVocabulary × (host.recording R).World}
    (h : next.Asks P proceed (s.1, s.2.1, noted s.2.2 n)) : (noting n next).Asks P proceed s := by
  cases n <;> exact h

/-- A live interceptor proceeds where its program does, with the note that it was entered. -/
theorem asks_intercept {phase : Phase}
    {s : Invocation (host.recording R).toVocabulary × (host.recording R).World}
    (h : ((host.intercept it phase).recording R it).Asks P proceed
      (s.1, s.2.1, noted s.2.2 (R.entered it phase))) :
    ((host.recording R).intercept it phase).Asks P proceed s :=
  asks_noting (asks_andThen h fun _ _ => asks_noting trivial)

end Advice

namespace Route

open Invocation

/-- Whatever a program of an interceptor does inside a call, it proceeds behind an admitted move. -/
theorem Admits.asks {f : Invocation (host.recording R).toVocabulary}
    {C : Course (Passage (host.recording R).toVocabulary × (host.recording R).World) Empty}
    (h : f.route.Admits R it C) (hrest : ∀ s, C.rel [] s (f.route.run f.rest s).2)
    (hstatus : f.status = .running) (hdepth : f.depth ≠ 0)
    {start : Passage (host.recording R).toVocabulary × (host.recording R).World}
    (x : Advice host.toVocabulary host.World α) :
    ∀ p w, C.rel [] start (p, w) →
      (x.recording R it).Asks (fun u => ∃ q, u.1 = f.carrying q ∧ C.rel [] start (q, u.2)) proceed
        (f.carrying p, w) := by
  induction x with
  | done a => exact fun _ _ _ => trivial
  | proceed next ih =>
    intro p w hmoves
    have hrun := matches_proceed hstatus hdepth p w
    refine ⟨⟨p, rfl, hmoves⟩, ?_⟩
    rw [hrun]
    exact ih _ _ _ (C.trans hmoves (hrest (p, w)))
  | observe next ih =>
    intro p w hmoves
    have hsees : (f.carrying p).view = f.route.view p := view_carrying f p
    have hseen := C.trans hmoves (h.seen p w.1 w.2)
    rw [← hsees] at hseen
    exact Advice.asks_noting (ih _ p _ hseen)
  | setParameters ps next ih =>
    intro p w hmoves
    have hset : (f.carrying p).setParameters ps = _ := setParameters_carrying f p ps
    have houtcome : ((f.carrying p).setParameters ps).1 = (f.route.replace p ps).1 :=
      congrArg Prod.fst hset
    have hkept : ((f.carrying p).setParameters ps).2 = f.carrying (f.route.replace p ps).2 :=
      congrArg Prod.snd hset
    have hnext := ih (f.route.replace p ps).1 _ _ (C.trans hmoves (h.replaced p w.1 w.2 ps))
    rw [← houtcome, ← hkept] at hnext
    exact Advice.asks_noting hnext
  | setData data next ih =>
    exact fun p w hmoves => ih { p with data := data } w (C.trans hmoves (h.shared p w data))
  | readWorld next ih => exact fun p w hmoves => ih w.1 p w hmoves
  | writeWorld w' next ih =>
    exact fun p w hmoves =>
      ih p (w', w.2) (C.trans hmoves (h.elsewhere p w.1 w' w.2))

end Route

end Wiring
