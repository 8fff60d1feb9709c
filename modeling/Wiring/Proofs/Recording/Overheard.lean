/-
  Keeping a record changes nothing.

  1. `Overhears x y` — `x`, on a recording host, has the outcome of `y`, and leaves the same behind but
     for the notes.
  2. Each step of the recursion on a chain is overheard (`materialise_overhears`, `arrive_overhears`,
     `follow_overhears`), and so is a whole pass, by induction on the chain.
  3. So is whatever is called from outside, on an invocation in whatever state (`Call.run_overhears`),
     and the programs of interceptors come by in the same states (`Within.overhears`).  What is proved
     of a recording host is proved of the host.
-/
import Wiring.Proofs.Recording.Moments

namespace Wiring

variable {host : Host} {N : Type} {R : Recorder host.toVocabulary N}

namespace Route

/-- `Overhears x y` — whatever comes of `y` comes of `x`, and leaves the same behind but for the
    notes. -/
def Overhears {α : Type} (x : Trip (host.recording R) α) (y : Trip host α) : Prop :=
  ∀ {p q : Passage host.toVocabulary} {w w' : host.World} {outcome : Except Failure α},
    y (p, w) = (outcome, q, w') → ∀ notes, ∃ notes', x (p, w, notes) = (outcome, q, w', notes')

theorem materialise_overhears (r : Route host.toVocabulary) (i : Interceptor host.Routine) :
    Overhears (@materialise (host.recording R) r i) (r.materialise i) := by
  intro p q w w' outcome h notes
  cases hknown : r.known? p i.name with
  | some it =>
    rw [materialise_of_known hknown] at h
    cases h
    exact ⟨notes, @materialise_of_known (host.recording R) r p (w, notes) i it hknown⟩
  | none =>
    rcases hmake : host.make i.maker w with ⟨made, w'⟩
    let after : List N := noted notes (R.made i.maker made)
    have hmake' : (host.recording R).make i.maker (w, notes) = (made, w', after) :=
      congrArg (fun r => (r.1, r.2, noted notes (R.made i.maker r.1))) hmake
    rw [materialise_of_make hknown hmake] at h
    cases h
    exact ⟨after, @materialise_of_make (host.recording R) r p (w, notes) (w', after) i hknown made
      hmake'⟩

theorem arrive_overhears (r : Route host.toVocabulary) :
    Overhears (@arrive (host.recording R) r) r.arrive := by
  intro p q w w' outcome h notes
  cases hgoal : r.goal with
  | callbacks target operations =>
    obtain ⟨after, heach⟩ := each_recording (R := R) target operations (w, notes)
    rw [arrive_of_each hgoal rfl] at h
    cases h
    exact ⟨after, @arrive_of_each (host.recording R) r p _ _ target operations hgoal _ heach⟩
  | construct k =>
    rcases hconstruct : host.construct k.routine p.parameters w with ⟨made, w'⟩
    have hconstruct' : (host.recording R).construct k.routine p.parameters (w, notes) =
        (made, w', noted notes (R.constructed k.routine p.parameters made)) :=
      congrArg (fun r => (r.1, r.2, noted notes (R.constructed k.routine p.parameters r.1))) hconstruct
    rw [arrive_of_construct hgoal hconstruct] at h
    cases h
    exact ⟨_, @arrive_of_construct (host.recording R) r p _ _ k hgoal made hconstruct'⟩
  | call target method =>
    rcases hcall : host.call method.routine target p.parameters w with ⟨result, w'⟩
    have hcall' : (host.recording R).call method.routine target p.parameters (w, notes) =
        (result, w', noted notes (R.called method.routine target p.parameters result)) :=
      congrArg (fun r => (r.1, r.2, noted notes (R.called method.routine target p.parameters r.1)))
        hcall
    rw [arrive_of_call hgoal hcall] at h
    cases h
    exact ⟨_, @arrive_of_call (host.recording R) r p _ _ target method hgoal result hcall'⟩

/-- The program of an interceptor, if what it proceeds into is overheard. -/
theorem follow_overhears {α : Type} (r : Route host.toVocabulary)
    {rest : Trip (host.recording R) (Option host.Ref)} {rest' : Trip host (Option host.Ref)}
    (hrest : Overhears rest rest') (it : host.Live) (x : Advice host.toVocabulary host.World α) :
    ∀ {p q : Passage host.toVocabulary} {w w' : host.World} {a : α},
      r.follow rest' x (p, w) = (a, q, w') →
        ∀ notes, ∃ notes', @follow (host.recording R) α r rest (x.recording R it) (p, w, notes) =
          (a, q, w', notes') := by
  induction x with
  | done a =>
    intro p q w w' a' h notes
    cases h
    exact ⟨notes, rfl⟩
  | proceed next ih =>
    intro p q w w' a h notes
    obtain ⟨inner, hinner⟩ := hrest (p := p) (w := w) rfl notes
    obtain ⟨notes', hnext⟩ := ih _ h inner
    have hproceed : @follow (host.recording R) α r rest ((Advice.proceed next).recording R it)
        (p, w, notes) = @follow (host.recording R) α r rest
          ((next (rest (p, w, notes)).1).recording R it) (rest (p, w, notes)).2 := rfl
    rw [hinner] at hproceed
    exact ⟨notes', hproceed.trans hnext⟩
  | observe next ih =>
    intro p q w w' a h notes
    obtain ⟨notes', hnext⟩ := ih _ h (noted notes (R.seen it (r.view p)))
    exact ⟨notes', (follow_noting _ _ (p, w, notes)).trans hnext⟩
  | setParameters ps next ih =>
    intro p q w w' a h notes
    obtain ⟨notes', hnext⟩ := ih _ h (noted notes (R.replaced ps (r.replace p ps).1))
    exact ⟨notes', (follow_noting _ _ ((r.replace p ps).2, w, notes)).trans hnext⟩
  | setData data next ih => exact fun h notes => ih h notes
  | readWorld next ih => exact fun h notes => ih _ h notes
  | writeWorld w' next ih => exact fun h notes => ih h notes

theorem run_overhears (r : Route host.toVocabulary) (chain : List (Interceptor host.Routine)) :
    Overhears (@run (host.recording R) r chain) (r.run chain) := by
  induction chain with
  | nil => exact r.arrive_overhears
  | cons i rest ih =>
    intro p q w w' outcome h notes
    rcases hr : r.materialise i (p, w) with ⟨f | it, p', w''⟩
    · obtain ⟨made, hmade⟩ := r.materialise_overhears (R := R) i hr notes
      rw [run_of_unmade hr] at h
      cases h
      exact ⟨made, @run_of_unmade (host.recording R) r i rest (p, w, notes) _ f hmade⟩
    · obtain ⟨made, hmade⟩ := r.materialise_overhears (R := R) i hr notes
      rw [run_of_live hr] at h
      obtain ⟨inner, hinner⟩ := r.follow_overhears ih it (host.intercept it r.phase) h
        (noted made (R.entered it r.phase))
      have hfollow := follow_intercept_recording (R := R) r (@run (host.recording R) r rest) it
        (p', w'', made)
      dsimp only at hfollow
      rw [hinner] at hfollow
      exact ⟨_, (@run_of_live (host.recording R) r i rest (p, w, notes) _ it hmade).trans hfollow⟩

end Route

namespace Invocation

variable {inv : Invocation host.toVocabulary}

theorem proceed_of_run (hopen : inv.status = .pending ∨ inv.status = .running) {w w' : host.World}
    {outcome : Except Failure (Option host.Ref)} {q : Passage host.toVocabulary}
    (h : inv.route.run inv.rest (inv.passage, w) = (outcome, q, w')) :
    proceed (inv, w) = (outcome, (inv.settled outcome.isOk).carrying q, w') := by
  rw [proceed_of_open hopen, h]

theorem proceedDirectly_of_arrive (hopen : inv.status ≠ .failed) {w w' : host.World}
    {outcome : Except Failure (Option host.Ref)} {q : Passage host.toVocabulary}
    (h : inv.route.arrive (inv.passage, w) = (outcome, q, w')) :
    proceedDirectly (inv, w) = (outcome, if (inv.carrying q).depth = 0 then
      (inv.carrying q).finished outcome.isOk else inv.carrying q, w') := by
  rw [proceedDirectly, if_neg hopen, (matches_reachEnding inv).of_passage h]

end Invocation

/-- **Keeping a record changes nothing.**  Whatever is called, in whatever state, has the same outcome
    with and without it, and leaves the same invocation and world behind. -/
theorem Call.run_overhears {c : Call host.toVocabulary} {inv inv' : Invocation host.toVocabulary}
    {w w' : host.World} {outcome : Except Failure (Option host.Ref)}
    (h : c.run (inv, w) = (outcome, inv', w')) (notes : List N) :
    ∃ notes', @Call.run (host.recording R) c (inv, w, notes) = (outcome, inv', w', notes') := by
  cases hrefuses : inv.status.refuses c with
  | true =>
    rw [Invocation.run_of_refuses hrefuses] at h
    cases h
    exact ⟨notes, @Invocation.run_of_refuses (host.recording R) inv c hrefuses (w, notes)⟩
  | false =>
    cases c with
    | proceed =>
      have hopen : inv.status = .pending ∨ inv.status = .running := by
        cases hstatus : inv.status <;> simp_all [Status.refuses]
      rcases hr : inv.route.run inv.rest (inv.passage, w) with ⟨r, q, w''⟩
      obtain ⟨after, hafter⟩ := inv.route.run_overhears (R := R) inv.rest hr notes
      cases (Invocation.proceed_of_run hopen hr).symm.trans h
      exact ⟨after, @Invocation.proceed_of_run (host.recording R) inv hopen (w, notes) (w', after) _ q
        hafter⟩
    | proceedDirectly =>
      have hopen : inv.status ≠ .failed := by
        rintro hstatus
        rw [hstatus] at hrefuses
        cases hrefuses
      rcases hr : inv.route.arrive (inv.passage, w) with ⟨r, q, w''⟩
      obtain ⟨after, hafter⟩ := inv.route.arrive_overhears (R := R) hr notes
      cases (Invocation.proceedDirectly_of_arrive hopen hr).symm.trans h
      exact ⟨after, @Invocation.proceedDirectly_of_arrive (host.recording R) inv hopen (w, notes)
        (w', after) _ q hafter⟩
    | takeNewInstance | setParameters | setData =>
      cases h
      exact ⟨notes, rfl⟩

/-- In particular, if an interceptor proceeds. -/
theorem Invocation.proceed_overhears (f : Invocation host.toVocabulary) (w : host.World)
    (notes : List N) :
    ∃ notes', @proceed (host.recording R) (f, w, notes) =
      ((proceed (f, w)).1, (proceed (f, w)).2.1, (proceed (f, w)).2.2, notes') := by
  have hrun : Call.proceed.run (f, w) = proceed (f, w) := rfl
  exact Call.run_overhears hrun notes

/-! ## The same moments -/

namespace Advice

section

variable {α β : Type} {proceed : Run host (Option host.Ref)}
  {s u : Invocation host.toVocabulary × host.World}

/-- A program proceeds where it does, and comes by where it does, also if it is followed by
    another. -/
theorem ProceedsAt.andThen (x : Advice host.toVocabulary host.World α)
    (k : α → Advice host.toVocabulary host.World β) :
    x.ProceedsAt proceed s u → (x.andThen k).ProceedsAt proceed s u := by
  induction x generalizing s with
  | done a => exact fun h => h.elim
  | proceed next ih => exact Or.imp_right (ih _)
  | observe next ih => exact ih _
  | setParameters ps next ih => exact ih _
  | setData data next ih => exact ih
  | readWorld next ih => exact ih _
  | writeWorld w next ih => exact ih

theorem ComesBy.andThen (x : Advice host.toVocabulary host.World α)
    (k : α → Advice host.toVocabulary host.World β) :
    x.ComesBy proceed s u → (x.andThen k).ComesBy proceed s u := by
  induction x generalizing s with
  | done a =>
    rintro rfl
    exact comesBy_self (k a) u
  | proceed next ih => exact Or.imp_right (ih _)
  | observe next ih => exact Or.imp_right (ih _)
  | setParameters ps next ih => exact Or.imp_right (ih _)
  | setData data next ih => exact Or.imp_right ih
  | readWorld next ih => exact Or.imp_right (ih _)
  | writeWorld w next ih => exact Or.imp_right ih

end

variable {α : Type} {v : Invocation host.toVocabulary} {wv : host.World}

section

variable {proceed : Run (host.recording R) (Option host.Ref)} {n : Option N}
  {next : Advice host.toVocabulary (host.World × List N) α}
  {s u : Invocation host.toVocabulary × (host.recording R).World}

theorem proceedsAt_noting
    (h : @ProceedsAt (host.recording R) α proceed next (s.1, s.2.1, noted s.2.2 n) u) :
    @ProceedsAt (host.recording R) α proceed (noting n next) s u := by
  cases n <;> exact h

theorem comesBy_noting
    (h : @ComesBy (host.recording R) α proceed next (s.1, s.2.1, noted s.2.2 n) u) :
    @ComesBy (host.recording R) α proceed (noting n next) s u := by
  cases n with
  | none => exact h
  | some n => exact Or.inr (Or.inr h)

end

/-- A program proceeds where it does. -/
theorem proceedsAt_overhears (it : host.Live) (x : Advice host.toVocabulary host.World α) :
    ∀ {f : Invocation host.toVocabulary} {w : host.World},
      x.ProceedsAt Invocation.proceed (f, w) (v, wv) → ∀ notes, ∃ notes',
        @ProceedsAt (host.recording R) α Invocation.proceed (x.recording R it) (f, w, notes)
          (v, wv, notes') := by
  induction x with
  | done a => exact fun h => h.elim
  | proceed next ih =>
    rintro f w (h | h) notes
    · cases h
      exact ⟨notes, Or.inl rfl⟩
    · obtain ⟨inner, hinner⟩ := Invocation.proceed_overhears (R := R) f w notes
      obtain ⟨notes', hv⟩ := ih _ h inner
      refine ⟨notes', Or.inr ?_⟩
      rw [hinner]
      exact hv
  | observe next ih => exact fun h notes => (ih _ h _).imp fun _ => proceedsAt_noting
  | setParameters ps next ih => exact fun h notes => (ih _ h _).imp fun _ => proceedsAt_noting
  | setData data next ih => exact fun h notes => ih h notes
  | readWorld next ih => exact fun h notes => ih _ h notes
  | writeWorld w' next ih => exact fun h notes => ih h notes

/-- A program comes by where it does. -/
theorem comesBy_overhears (it : host.Live) (x : Advice host.toVocabulary host.World α) :
    ∀ {f : Invocation host.toVocabulary} {w : host.World},
      x.ComesBy Invocation.proceed (f, w) (v, wv) → ∀ notes, ∃ notes',
        @ComesBy (host.recording R) α Invocation.proceed (x.recording R it) (f, w, notes)
          (v, wv, notes') := by
  have hself : ∀ (x : Advice host.toVocabulary host.World α) {f : Invocation host.toVocabulary}
      {w : host.World}, (v, wv) = (f, w) → ∀ notes, ∃ notes',
        @ComesBy (host.recording R) α Invocation.proceed (x.recording R it) (f, w, notes)
          (v, wv, notes') := by
    rintro x f w h notes
    cases h
    exact ⟨notes, @comesBy_self (host.recording R) α Invocation.proceed (x.recording R it)
      (v, wv, notes)⟩
  induction x with
  | done a => exact hself (.done a)
  | proceed next ih =>
    rintro f w (h | h) notes
    · exact hself (.proceed next) h notes
    · obtain ⟨inner, hinner⟩ := Invocation.proceed_overhears (R := R) f w notes
      obtain ⟨notes', hv⟩ := ih _ h inner
      refine ⟨notes', Or.inr ?_⟩
      rw [hinner]
      exact hv
  | observe next ih =>
    rintro f w (h | h) notes
    · exact hself (.observe next) h notes
    · exact (ih _ h _).imp fun _ hv => Or.inr (comesBy_noting hv)
  | setParameters ps next ih =>
    rintro f w (h | h) notes
    · exact hself (.setParameters ps next) h notes
    · exact (ih _ h _).imp fun _ hv => Or.inr (comesBy_noting hv)
  | setData data next ih =>
    rintro f w (h | h) notes
    · exact hself (.setData data next) h notes
    · exact (ih h notes).imp fun _ hv => Or.inr hv
  | readWorld next ih =>
    rintro f w (h | h) notes
    · exact hself (.readWorld next) h notes
    · exact (ih _ h notes).imp fun _ hv => Or.inr hv
  | writeWorld w' next ih =>
    rintro f w (h | h) notes
    · exact hself (.writeWorld w' next) h notes
    · exact (ih h notes).imp fun _ hv => Or.inr (Or.inr hv)

end Advice

namespace Invocation

theorem live_overhears {i : Interceptor host.Routine} {f f' : Invocation host.toVocabulary}
    {w w' : host.World} {outcome : Except Failure host.Live}
    (h : live i (f, w) = (outcome, f', w')) (notes : List N) :
    ∃ notes', @live (host.recording R) i (f, w, notes) = (outcome, f', w', notes') := by
  rcases hr : f.route.materialise i (f.passage, w) with ⟨made, q, w''⟩
  obtain ⟨after, hafter⟩ := f.route.materialise_overhears (R := R) i hr notes
  cases ((matches_live f i).of_passage hr).symm.trans h
  exact ⟨after, (@matches_live (host.recording R) f i).of_passage hafter⟩

theorem Reached.overhears {s u : Invocation host.toVocabulary × host.World} (h : Reached s u)
    (notes : List N) :
    ∃ notes', @Reached (host.recording R) (s.1, s.2, notes) (u.1, u.2, notes') := by
  induction h with
  | outside hopen => exact ⟨notes, .outside hopen⟩
  | @inside u i it t v _ hi hlive hproceeds ih =>
    obtain ⟨before, hu⟩ := ih
    obtain ⟨made, ht⟩ := live_overhears (R := R) hlive before
    obtain ⟨after, hv⟩ := (host.intercept it u.1.phase).proceedsAt_overhears (R := R) it
      hproceeds (noted made (R.entered it u.1.phase))
    exact ⟨after, .inside hu hi ht (Advice.proceedsAt_noting (Advice.ProceedsAt.andThen _ _ hv))⟩

/-- Wherever the programs of interceptors come by, they come by there while a record is kept. -/
theorem Within.overhears {s v : Invocation host.toVocabulary × host.World} (h : Within s v)
    (notes : List N) :
    ∃ notes', @Within (host.recording R) (s.1, s.2, notes) (v.1, v.2, notes') := by
  cases h with
  | @inside u i it t v hreached hi hlive hcomes =>
    obtain ⟨before, hu⟩ := hreached.overhears (R := R) notes
    obtain ⟨made, ht⟩ := live_overhears (R := R) hlive before
    obtain ⟨after, hv⟩ := (host.intercept it u.1.phase).comesBy_overhears (R := R) it hcomes
      (noted made (R.entered it u.1.phase))
    exact ⟨after, .inside hu hi ht (Advice.comesBy_noting (Advice.ComesBy.andThen _ _ hv))⟩

end Invocation

end Wiring
