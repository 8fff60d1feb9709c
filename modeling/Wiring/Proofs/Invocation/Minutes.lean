/-
  The minutes of an invocation: what becomes of the parameters and of the new instance, in order.

  1. The minuted host is a host beside which stands a list of `Minute`s.  What an interceptor sees,
     each replacement of the parameters with its outcome, and each call of the constructor or the
     business method is put down there.  It does nothing else.
  2. An `Episode` is a sequence of calls on an invocation of that host, from outside; what is replaced
     or taken by them is put down, too.
  3. `r.Honours R` — the moves `R` allow the five things that can become of an invocation at one time.
     Then the whole of an episode is such a move, whatever the interceptors do (`Honours.episode`), and
     so is the way to every single moment at which somebody proceeds (`Honours.proceeding`).
-/
import Wiring.Proofs.Invocation.Called
import Wiring.Proofs.Recording.Moments

namespace Wiring

/-! ## The minuted host -/

/-- `Minute V` — one thing that was seen of an invocation, or became of it. -/
inductive Minute (V : Vocabulary) where
  /-- An interceptor looked at it. -/
  | seen (view : View V)
  /-- Somebody asked for other parameters. -/
  | replaced (parameters : List (Reference V)) (outcome : Except Failure Unit)
  /-- The constructor or the business method was called. -/
  | reached (arguments : List (Reference V)) (outcome : Except Failure (Reference V))
  /-- The new instance was taken, if there was one. -/
  | taken (made : Option (Reference V))

/-- `Minutes V` — minutes, oldest first. -/
abbrev Minutes (V : Vocabulary) : Type := List (Minute V)

/-- `Minute.recorder V` — what interceptors see and replace is noted, and the calls of constructors and
    business methods. -/
def Minute.recorder (V : Vocabulary) : Recorder V (Minute V) where
  constructed _ args outcome := some (.reached args outcome)
  called _ _ args outcome := some (.reached args outcome)
  seen _ v := some (.seen v)
  replaced ps outcome := some (.replaced ps outcome)

/-- `host.minuted` — `host`, with the minutes of an invocation. -/
def Host.minuted (host : Host) : Host := host.recording (Minute.recorder host.toVocabulary)

variable {host : Host}

theorem Host.intercept_minuted (it : host.minuted.Live) (phase : Phase) :
    host.minuted.intercept it phase =
      (host.intercept it phase).recording (Minute.recorder host.toVocabulary) it :=
  intercept_recording rfl fun _ => rfl

/-! ## Moves that an invocation honours -/

namespace Route

/-- `r.Honours R` — the moves `R` allow whatever may become of an invocation at one time. -/
structure Honours (r : Route host.minuted.toVocabulary)
    (R : Course (Passage host.minuted.toVocabulary × host.minuted.World) Empty) : Prop where
  /-- Something else changed: the world, the shared data, who was made. -/
  aside : ∀ {s t : Passage host.minuted.toVocabulary × host.minuted.World},
    t.1.parameters = s.1.parameters → (∀ k, r.goal = .construct k → t.1.made = s.1.made) →
      t.2.2 = s.2.2 → R.rel [] s t
  seen : ∀ p w m, R.rel [] (p, w, m) (p, w, m ++ [.seen (r.view p)])
  replaced : ∀ p w m ps, R.rel [] (p, w, m)
    ((r.replace p ps).2, w, m ++ [.replaced ps (r.replace p ps).1])
  reached : ∀ s : Passage host.minuted.toVocabulary × host.minuted.World,
    R.rel [] s (r.arrive s).2
  taken : ∀ p w m, R.rel [] (p, w, m) ({ p with made := none }, w, m ++ [.taken p.made])

namespace Honours

variable {r : Route host.minuted.toVocabulary}
  {R : Course (Passage host.minuted.toVocabulary × host.minuted.World) Empty}

/-- Whatever an interceptor does becomes of the invocation. -/
theorem admits (h : r.Honours R) (it : host.Live) :
    r.Admits (Minute.recorder host.toVocabulary) it R where
  shared _ _ _ := h.aside rfl (fun _ _ => rfl) rfl
  elsewhere _ _ _ _ := h.aside rfl (fun _ _ => rfl) rfl
  seen := h.seen
  replaced := h.replaced

/-- Finding or making an interceptor. -/
theorem materialise (h : r.Honours R) (i : Interceptor host.minuted.Routine)
    (s : Passage host.minuted.toVocabulary × host.minuted.World) :
    R.rel [] s (r.materialise i s).2 := by
  obtain ⟨p, w⟩ := s
  cases hknown : r.known? p i.name with
  | some it =>
    rw [materialise_of_known hknown]
    exact R.stay _
  | none =>
    rw [materialise_of_make hknown rfl]
    exact h.aside rfl (fun _ _ => rfl) rfl

/-- A pass through a chain. -/
theorem run (h : r.Honours R) (chain : List (Interceptor host.minuted.Routine)) :
    ∀ s, R.rel [] s (r.run chain s).2 := by
  refine rel_run h.reached h.materialise (fun hrest it s => ?_) chain
  rw [host.intercept_minuted]
  exact (h.admits it).follow hrest (host.intercept it r.phase) s

end Honours

end Route

namespace Invocation

/-- The passage that an invocation carries: only a construction has a new instance. -/
theorem made_passage_carrying {V : Vocabulary} {inv : Invocation V} {k : Constructor V.Routine}
    (h : inv.route.goal = .construct k) (p : Passage V) :
    (inv.carrying p).passage.made = p.made := by
  rcases inv with ⟨_, _, _, _, _, _, _, _, _, ending⟩
  cases ending <;> first | rfl | cases h

end Invocation

/-! ## Episodes -/

/-- `c.minutes outcome` — what is put down of a call from outside. -/
def Call.minutes {V : Vocabulary} (c : Call V) (outcome : Except Failure (Option (Reference V))) :
    Minutes V :=
  match c, outcome with
  | .setParameters ps, outcome => [.replaced ps (outcome.map fun _ => ())]
  | .takeNewInstance, .ok made => [.taken made]
  | _, _ => []

/-- `c.put s` — the call, put down. -/
def Call.put (c : Call host.minuted.toVocabulary)
    (s : Invocation host.minuted.toVocabulary × host.minuted.World) :
    Invocation host.minuted.toVocabulary × host.minuted.World :=
  ((c.run s).2.1, (c.run s).2.2.1, (c.run s).2.2.2 ++ @Call.minutes host.toVocabulary c (c.run s).1)

/-- What drives an invocation puts down nothing itself. -/
theorem Call.put_of_drives {c : Call host.minuted.toVocabulary} (h : c.drives = true)
    (s : Invocation host.minuted.toVocabulary × host.minuted.World) : c.put s = (c.run s).2 := by
  have hminutes : @Call.minutes host.toVocabulary c (c.run s).1 = [] := by
    cases c <;> first | rfl | cases h
  rw [put, hminutes, List.append_nil]
  rfl

theorem Call.put_takeNewInstance (inv : Invocation host.minuted.toVocabulary) (w : host.World)
    (m : Minutes host.toVocabulary) :
    Call.takeNewInstance.put (inv, w, m) =
      (inv.carrying { inv.passage with made := none }, w,
        m ++ [(.taken inv.passage.made : Minute host.toVocabulary)]) :=
  congrArg (fun r => (r.2, w, m ++ [(.taken r.1 : Minute host.toVocabulary)])) inv.takeMade_apply

theorem Call.put_setParameters (inv : Invocation host.minuted.toVocabulary) (w : host.World)
    (m : Minutes host.toVocabulary) (ps : List host.minuted.Ref) :
    (Call.setParameters ps).put (inv, w, m) =
      (inv.carrying (inv.route.replace inv.passage ps).2, w,
        m ++ [(.replaced ps (inv.route.replace inv.passage ps).1 : Minute host.toVocabulary)]) := by
  show ((inv.setParameters ps).2, w, m ++ [(.replaced ps
    (((inv.setParameters ps).1.map fun _ => (none : Option host.Ref)).map fun _ => ()) :
      Minute host.toVocabulary)]) = _
  rw [Invocation.setParameters_apply]
  rcases (inv.route.replace inv.passage ps).1 with _ | ⟨⟩ <;> rfl

/-- `Episode s t` — calls from outside lead from `s` to `t`, while others may change the world in
    between. -/
inductive Episode (s : Invocation host.minuted.toVocabulary × host.minuted.World) :
    Invocation host.minuted.toVocabulary × host.minuted.World → Prop where
  | start : Episode s s
  | call {t} (h : Episode s t) (c : Call host.minuted.toVocabulary) : Episode s (c.put t)
  | elsewhere {t} (h : Episode s t) (w : host.World) : Episode s (t.1, w, t.2.2)

namespace Route.Honours

open Invocation

variable {r : Route host.minuted.toVocabulary}
  {R : Course (Passage host.minuted.toVocabulary × host.minuted.World) Empty}
  {s t u : Invocation host.minuted.toVocabulary × host.minuted.World}

/-- What an invocation carries is what it was given to carry. -/
theorem carried (h : r.Honours R) {f : Invocation host.minuted.toVocabulary} (hroute : f.route = r)
    (p : Passage host.minuted.toVocabulary) (w : host.minuted.World) :
    R.rel [] (p, w) ((f.carrying p).passage, w) :=
  h.aside rfl (fun k hk => made_passage_carrying (k := k) (by rw [hroute, hk]) p) rfl

/-- A call from outside. -/
theorem put (h : r.Honours R) (hroute : s.1.route = r) (hidle : s.1.Idle)
    (c : Call host.minuted.toVocabulary) :
    R.rel [] (s.1.passage, s.2) ((c.put s).1.passage, (c.put s).2) := by
  obtain ⟨inv, w, m⟩ := s
  subst hroute
  cases hdrives : c.drives with
  | true =>
    rw [Call.put_of_drives hdrives]
    have hcalled := run_called hidle c (w, m)
    generalize (c.run (inv, w, m)).2 = u at hcalled ⊢
    cases hcalled with
    | @pass status _ _ _ hr =>
      subst hr
      exact R.trans (h.run inv.chain _) (h.carried (f := inv.marked status) rfl _ _)
    | @goal status _ _ hr =>
      subst hr
      exact R.trans (h.reached _) (h.carried (f := inv.marked status) rfl _ _)
    | refused => exact R.stay _
    | take | replace | share => cases hdrives
  | false =>
    cases c with
    | proceed | proceedDirectly => cases hdrives
    | takeNewInstance =>
      rw [Call.put_takeNewInstance]
      exact R.trans (h.taken inv.passage w m) (h.carried rfl _ _)
    | setParameters ps =>
      rw [Call.put_setParameters]
      exact R.trans (h.replaced inv.passage w m ps) (h.carried rfl _ _)
    | setData data =>
      have hput : (Call.setData data).put (inv, w, m) = ({ inv with data := data }, w, m ++ []) := rfl
      rw [hput, List.append_nil]
      exact h.aside rfl (fun _ _ => rfl) rfl

/-- The calls of an episode, together. -/
theorem episode (h : r.Honours R) (hroute : s.1.route = r) (hidle : s.1.Idle)
    (hepisode : Episode s t) :
    t.1.Idle ∧ t.1.route = r ∧ R.rel [] (s.1.passage, s.2) (t.1.passage, t.2) := by
  induction hepisode with
  | start => exact ⟨hidle, hroute, R.stay _⟩
  | @call t _ c ih =>
    obtain ⟨hidle', hroute', hmoves⟩ := ih
    obtain ⟨hput, -, hroute''⟩ := (run_called hidle' c t.2).idle hidle'
    exact ⟨hput, hroute''.trans hroute', R.trans hmoves (h.put hroute' hidle' c)⟩
  | elsewhere _ w ih =>
    exact ⟨ih.1, ih.2.1, R.trans ih.2.2 (h.aside rfl (fun _ _ => rfl) rfl)⟩

/-! ## Wherever somebody proceeds -/

/-- The interceptor at the cursor. -/
theorem inside (h : r.Honours R) (hroute : s.1.route = r)
    {i : Interceptor host.minuted.Routine} {it : host.minuted.Live}
    (hlive : live i (s.1.entered, s.2) = (.ok it, t))
    (hproceeds : (host.minuted.intercept it s.1.phase).ProceedsAt proceed (t.1.past, t.2) u) :
    u.1.status = .running ∧ u.1.route = r ∧
      R.rel [] (s.1.passage, s.2) (u.1.passage, u.2) := by
  let f := s.1.entered
  have hf : f.route = r := hroute
  obtain ⟨p, hr, hp⟩ := materialise_of_live hlive
  obtain ⟨t', w⟩ := t
  subst hp
  have hfind := h.materialise i (f.passage, s.2)
  rw [← hf, hr] at hfind
  have hpast : f.past.route.Honours R := hf.symm ▸ h
  have hasks := (hpast.admits it).asks (hpast.run f.past.rest) rfl (Nat.succ_ne_zero _)
    (host.intercept it s.1.phase) p w hfind
  rw [host.intercept_minuted] at hproceeds
  obtain ⟨q, hq, hmoves⟩ := hasks.proceedsAt hproceeds
  rw [hq]
  exact ⟨rfl, (route_carrying _ q).trans hf, R.trans hmoves (h.carried (f := f.past) hf q u.2)⟩

/-- Everything up to where somebody proceeds. -/
theorem proceeding (h : r.Honours R) (hroute : s.1.route = r) (hreached : Reached s u) :
    (u.1.status = .pending ∨ u.1.status = .running) ∧ u.1.route = r ∧
      R.rel [] (s.1.passage, s.2) (u.1.passage, u.2) := by
  induction hreached with
  | outside hopen => exact ⟨hopen, hroute, R.stay _⟩
  | inside _ _ hlive hproceeds ih =>
    obtain ⟨hrunning, hroute', hmoves⟩ := h.inside ih.2.1 hlive hproceeds
    exact ⟨Or.inr hrunning, hroute', R.trans ih.2.2 hmoves⟩

end Route.Honours

end Wiring
