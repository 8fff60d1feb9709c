/-
  What becomes of the parameters of an invocation.

  1. The parameters are the last ones that were successfully put in place of others, wherever that
     was done, and else the first (`Minutes.parameters`).
  2. `m.Holds phase goal ps` — what a minute says, if the parameters are `ps`: they are what is seen,
     and what the constructor or the business method receives; new ones are accepted exactly if they
     are as many, and refused with both numbers, or altogether on the way to callbacks.
  3. The INVARIANT is that every minute holds, of the parameters left by the minutes before it
     (`Minutes.Hold`).  Whatever may become of an invocation at one time keeps it (`honours_minding`), so
     everything that becomes of it in an episode does.
-/
import Wiring.Proofs.Invocation.Minutes

namespace Wiring

variable {V : Vocabulary} {phase : Phase} {goal : Goal V} {ps : List (Reference V)} {m : Minute V}
  {seg seg' : Minutes V}

/-! ## One minute -/

/-- `m.after ps` — the parameters after `m`, if they were `ps` before. -/
def Minute.after (m : Minute V) (ps : List (Reference V)) : List (Reference V) :=
  match m with
  | .replaced qs (.ok _) => qs
  | _ => ps

/-- `goal.verdict phase n qs` — whether `qs` may replace `n` parameters on the way to `goal`. -/
def Goal.verdict (goal : Goal V) (phase : Phase) (n : Nat) (qs : List (Reference V)) :
    Except Failure Unit :=
  match goal with
  | .callbacks _ _ => .error (.parametersNotSupported phase)
  | .construct _ | .call _ _ =>
    if qs.length = n then .ok () else .error (.parameterCountMismatch n qs.length)

/-- `m.Holds phase goal ps` — `m` tells of an invocation with the parameters `ps`. -/
def Minute.Holds (phase : Phase) (goal : Goal V) (ps : List (Reference V)) : Minute V → Prop
  | .seen v => v.parameters = ps
  | .replaced qs outcome => outcome = goal.verdict phase ps.length qs
  | .reached arguments _ => arguments = ps
  | .taken _ => True

/-- Only as many are accepted. -/
theorem Goal.length_of_verdict {n : Nat} {qs : List (Reference V)}
    (h : goal.verdict phase n qs = .ok ()) : qs.length = n := by
  by_contra hlength
  cases goal with
  | callbacks target operations => cases h
  | construct k => cases (if_neg hlength).symm.trans h
  | call target method => cases (if_neg hlength).symm.trans h

theorem Minute.Holds.length_after (h : m.Holds phase goal ps) : (m.after ps).length = ps.length := by
  cases m with
  | replaced qs outcome =>
    cases outcome with
    | error f => rfl
    | ok => exact Goal.length_of_verdict (Eq.symm h)
  | _ => rfl

/-! ## Minutes one after the other -/

namespace Minutes

/-- `parameters ps seg` — the parameters after `seg`: those of its last successful replacement, or
    `ps` if it has none. -/
def parameters (ps : List (Reference V)) (seg : Minutes V) : List (Reference V) :=
  seg.foldl (fun ps m => m.after ps) ps

/-- `Hold phase goal ps seg` — each minute of `seg` holds of the parameters that those before it have
    left. -/
def Hold (phase : Phase) (goal : Goal V) : List (Reference V) → Minutes V → Prop
  | _, [] => True
  | ps, m :: seg => m.Holds phase goal ps ∧ Hold phase goal (m.after ps) seg

theorem parameters_append : parameters ps (seg ++ seg') = parameters (parameters ps seg) seg' :=
  List.foldl_append

theorem hold_append :
    Hold phase goal ps (seg ++ seg') ↔
      Hold phase goal ps seg ∧ Hold phase goal (parameters ps seg) seg' := by
  induction seg generalizing ps with
  | nil => exact ⟨fun h => ⟨trivial, h⟩, fun h => h.2⟩
  | cons m seg ih =>
    show _ ∧ Hold phase goal (m.after ps) (seg ++ seg') ↔ (_ ∧ _) ∧ _
    rw [ih, and_assoc]
    rfl

/-- The number of the parameters stays. -/
theorem Hold.length (h : Hold phase goal ps seg) : (parameters ps seg).length = ps.length := by
  induction seg generalizing ps with
  | nil => rfl
  | cons m seg ih => exact (ih h.2).trans h.1.length_after

end Minutes

/-! ## Whatever may become of an invocation -/

variable {host : Host}

namespace Route

/-- `r.minding` — moves on which every minute holds of the parameters. -/
def minding (r : Route host.minuted.toVocabulary) :
    Course (Passage host.minuted.toVocabulary × host.minuted.World) Empty where
  rel _ s t := ∃ seg : Minutes host.toVocabulary, t.2.2 = s.2.2 ++ seg ∧
    t.1.parameters = Minutes.parameters s.1.parameters seg ∧
      Minutes.Hold r.phase r.goal s.1.parameters seg
  stay _ := ⟨[], (List.append_nil _).symm, rfl, trivial⟩
  append := by
    rintro _ _ s t u ⟨seg, hlog, hparameters, hhold⟩ ⟨seg', hlog', hparameters', hhold'⟩
    rw [hparameters] at hparameters' hhold'
    exact ⟨seg ++ seg', by rw [hlog', hlog, List.append_assoc],
      hparameters'.trans Minutes.parameters_append.symm, Minutes.hold_append.2 ⟨hhold, hhold'⟩⟩

variable (r : Route host.minuted.toVocabulary)

/-- The constructor and the business method receive the parameters. -/
theorem arrive_minding (s : Passage host.minuted.toVocabulary × host.minuted.World) :
    r.minding.rel [] s (r.arrive s).2 := by
  obtain ⟨p, w⟩ := s
  cases hgoal : r.goal with
  | callbacks target operations =>
    have hquiet := each_recording_unnoted (R := Minute.recorder host.toVocabulary)
      (fun _ _ _ => rfl) target operations w
    rw [arrive_of_each hgoal rfl]
    exact ⟨[], hquiet.trans (List.append_nil _).symm, rfl, trivial⟩
  | construct k =>
    rw [arrive_of_construct hgoal rfl]
    exact ⟨_, rfl, rfl, rfl, trivial⟩
  | call target method =>
    rw [arrive_of_call hgoal rfl]
    exact ⟨_, rfl, rfl, rfl, trivial⟩

/-- What is asked for is accepted or refused by the verdict, and put in place if it is accepted. -/
theorem replace_eq_verdict {V : Vocabulary} (r : Route V) (p : Passage V)
    (ps : List (Reference V)) :
    (r.replace p ps).1 = r.goal.verdict r.phase p.parameters.length ps ∧
      (r.replace p ps).2.parameters =
        (Minute.replaced ps (r.replace p ps).1).after p.parameters := by
  rcases r with ⟨phase, supplied, goal⟩
  by_cases hlength : ps.length = p.parameters.length <;>
    cases goal <;> simp [replace, Goal.verdict, Minute.after, hlength]

theorem replace_minding (p : Passage host.minuted.toVocabulary) (w : host.World)
    (m : Minutes host.toVocabulary) (ps : List host.minuted.Ref) :
    r.minding.rel [] (p, w, m)
      ((r.replace p ps).2, w, m ++ [(.replaced ps (r.replace p ps).1 : Minute host.toVocabulary)]) :=
  ⟨_, rfl, (r.replace_eq_verdict p ps).2, (r.replace_eq_verdict p ps).1, trivial⟩

/-- Whatever may become of an invocation at one time, every minute holds. -/
theorem honours_minding : r.Honours r.minding where
  aside hparameters _ hlog := ⟨[], by rw [hlog, List.append_nil], hparameters, trivial⟩
  seen p w m := ⟨_, rfl, rfl, rfl, trivial⟩
  replaced p w m ps := r.replace_minding p w m ps
  reached s := r.arrive_minding s
  taken p w m := ⟨_, rfl, rfl, trivial, trivial⟩

end Route

/-! ## Episodes -/

namespace Invocation

/-- Refused parameters change nothing. -/
theorem setParameters_of_error {inv : Invocation V} {qs : List (Reference V)} {f : Failure}
    (h : (inv.setParameters qs).1 = .error f) : (inv.setParameters qs).2 = inv := by
  by_cases htakes : (!inv.ending.takesParameters) = true
  · rw [setParameters, if_pos htakes]
  · by_cases hlength : qs.length ≠ inv.parameters.length
    · rw [setParameters, if_neg htakes, if_pos hlength]
    · rw [setParameters, if_neg htakes, if_neg hlength] at h
      cases h

/-- An invocation that is on its way to callbacks has no parameters to begin with. -/
theorem Fresh.parameters_eq_nil {inv : Invocation V} (h : inv.Fresh) {target : Reference V}
    {operations : List (Operation V.Routine)} (hgoal : inv.ending.goal = .callbacks target operations) :
    inv.parameters = [] := by
  cases h with
  | lifecycle => rfl
  | construction => cases hgoal
  | business => cases hgoal

/-- `Minded s t seg` — `seg` was put down between `s` and `t`, and all of it holds of the parameters. -/
structure Minded (s t : Invocation host.minuted.toVocabulary × host.minuted.World)
    (seg : Minutes host.toVocabulary) : Prop where
  log : t.2.2 = s.2.2 ++ seg
  parameters : t.1.parameters = Minutes.parameters s.1.parameters seg
  length : t.1.parameters.length = s.1.parameters.length
  moment : ∀ before m after, seg = before ++ m :: after →
    (Minutes.parameters s.1.parameters before).length = s.1.parameters.length ∧
      m.Holds s.1.phase s.1.ending.goal (Minutes.parameters s.1.parameters before)

theorem minded_of_minding {s t : Invocation host.minuted.toVocabulary × host.minuted.World}
    (h : s.1.route.minding.rel [] (s.1.passage, s.2) (t.1.passage, t.2)) : ∃ seg, Minded s t seg := by
  obtain ⟨seg, hlog, hparameters, hhold⟩ := h
  have hparameters : t.1.parameters = Minutes.parameters s.1.parameters seg := hparameters
  have hhold : Minutes.Hold s.1.phase s.1.ending.goal s.1.parameters seg := hhold
  refine ⟨seg, hlog, hparameters, hparameters ▸ hhold.length, ?_⟩
  rintro before m after rfl
  obtain ⟨hbefore, hm, -⟩ := Minutes.hold_append.1 hhold
  exact ⟨hbefore.length, hm⟩

/-- **Parameters keep their number, and reach the goal.**  Let an invocation be new, and let any calls
    be made on it, with any interceptors and any outcomes, while others change the world in between.
    1. At every moment there are as many parameters as at first, and they are those of the last
       successful replacement before, at whatever depth it was made, or the first ones if there was
       none.  Every minute holds of them: they are what an interceptor sees, and what the constructor or
       the business method receives; others are accepted if they are as many, and refused with both
       numbers if they are not.
    2. So it is up to every moment at which somebody proceeds, however deep inside whatever
       interceptors.
    3. Parameters that are refused leave everything as it was.
    4. On the way to callbacks there are none at any moment, and whatever replacement is asked for, be it
       an empty one, is refused as not supported in the phase. -/
theorem parameters_reach_goal {inv : Invocation host.minuted.toVocabulary} (hfresh : inv.Fresh)
    (w : host.minuted.World) {t : Invocation host.minuted.toVocabulary × host.minuted.World}
    (h : Episode (inv, w) t) :
    (∃ seg, Minded (inv, w) t seg) ∧
    (∀ u, Reached t u → ∃ seg, Minded (inv, w) u seg) ∧
    (∀ (f : Invocation host.minuted.toVocabulary) qs e, (f.setParameters qs).1 = .error e →
      (f.setParameters qs).2 = f) ∧
    ∀ target operations, inv.ending.goal = .callbacks target operations →
      ∀ u seg, Minded (inv, w) u seg → u.1.parameters = [] ∧
        (∀ before after, seg = before ++ after → Minutes.parameters inv.parameters before = []) ∧
        ∀ qs outcome, .replaced qs outcome ∈ seg →
          outcome = .error (.parametersNotSupported inv.phase) := by
  have hhonours := inv.route.honours_minding
  obtain ⟨-, hroute, hmoves⟩ := hhonours.episode rfl hfresh.idle h
  refine ⟨minded_of_minding hmoves, fun u hu => ?_, fun f qs e he => setParameters_of_error he, ?_⟩
  · obtain ⟨-, -, hproceeding⟩ := hhonours.proceeding hroute hu
    exact minded_of_minding (s := (inv, w)) (inv.route.minding.trans hmoves hproceeding)
  · intro target operations hgoal u seg hminded
    have hnone : inv.parameters.length = 0 := congrArg List.length (hfresh.parameters_eq_nil hgoal)
    have hnil : u.1.parameters = [] := List.length_eq_zero_iff.1 (hminded.length.trans hnone)
    refine ⟨hnil, ?_, ?_⟩
    · rintro before (_ | ⟨m, after⟩) hseg
      · rw [List.append_nil] at hseg
        rw [← hseg]
        exact hminded.parameters.symm.trans hnil
      · exact List.length_eq_zero_iff.1 ((hminded.moment before m after hseg).1.trans hnone)
    · intro qs outcome hmem
      obtain ⟨before, after, rfl⟩ := List.append_of_mem hmem
      obtain ⟨-, hholds⟩ := hminded.moment before _ after rfl
      have houtcome : outcome = inv.ending.goal.verdict inv.phase _ qs := hholds
      rw [houtcome, hgoal]
      rfl

end Invocation

/-- `insisting` — the host of numbers, where each interceptor puts its own number in the place of the
    parameters, proceeds, asks for none at all, and proceeds once more. -/
def Host.insisting : Host :=
  { Host.numbers with
    intercept := fun it _ => .setParameters [.plain it] fun _ => .proceed fun _ =>
      .setParameters [] fun _ => .proceed .done }

/-- Two parameters are refused in the place of one.  Then an interceptor puts its own number there,
    proceeds, cannot take it away again, and proceeds once more; the direct call that comes later finds
    what the interceptor has left. -/
theorem Invocation.parameters_reach_goal_insisting :
    let inv : Invocation Host.insisting.minuted.toVocabulary :=
      construction [.everywhere "own" 5] none ⟨⟨⟨"Account", "new"⟩, (7 : Nat)⟩, 1⟩ [.plain (1 : Nat)]
    let own : List Host.insisting.Ref := [.plain (5 : Nat)]
    let seg : Minutes Host.insisting.toVocabulary :=
      [.replaced [.plain (2 : Nat), .plain (3 : Nat)] (.error (.parameterCountMismatch 1 2)),
        .replaced own (.ok ()), .reached own (.ok (.plain (7 : Nat))),
        .replaced [] (.error (.parameterCountMismatch 1 0)), .reached own (.ok (.plain (7 : Nat))),
        .reached own (.ok (.plain (7 : Nat)))]
    inv.Fresh ∧ ∃ t, Episode (inv, [], []) t ∧ t.2.2 = seg ∧ t.1.parameters = own := by
  intro inv own seg
  have hfresh : inv.Fresh := .construction ..
  have h := (((Episode.start (s := (inv, [], []))).call
    (.setParameters [.plain (2 : Nat), .plain (3 : Nat)])).call .proceed).call .proceedDirectly
  obtain ⟨seg', hminded⟩ := (parameters_reach_goal hfresh _ h).1
  have hlog := hminded.log
  refine ⟨hfresh, _, h, by cbv, ?_⟩
  have hsame : seg' = seg := hlog.symm.trans (by cbv)
  rw [hminded.parameters, hsame]
  rfl

end Wiring
