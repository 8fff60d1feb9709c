/-
  The life of an invocation.

  1. A `Call` is what may be asked of an invocation from outside.  `Status.refuses` and `Status.after`
     are the whole of its state machine, as an automaton: which calls a status refuses, and which
     status a call leaves behind.
  2. Between calls an invocation is `Idle`.  One call on an idle invocation leaves it idle, with the
     status of the automaton (`run_idle`); what it writes down is a pass through the chain, if it
     was the first call, or the goal, if it was a direct one, or nothing.
  3. A `Life` is a sequence of calls, of any length, from a new invocation on; everybody else may
     change the world in between.  What each call keeps, the life keeps (`Life.kept`).
  4. Inside a call, the invocation is running, and nothing that runs there is refused: whenever an
     interceptor proceeds, it does so on a running invocation (`asks_running`).
-/
import Mathlib
import Wiring.Proofs.Invocation.Nesting

namespace Wiring

/-! ## Calls and the automaton -/

/-- `Call V` — what is asked of an invocation from outside. -/
inductive Call (V : Vocabulary) where
  | proceed
  | proceedDirectly
  | takeNewInstance
  | setParameters (parameters : List (Reference V))
  | setData (data : Table String (Reference V))

/-- `c.drives` — whether `c` is meant to reach the goal. -/
def Call.drives {V : Vocabulary} : Call V → Bool
  | proceed | proceedDirectly => true
  | takeNewInstance | setParameters _ | setData _ => false

/-- `c.run` — what the call does, with what it gives. -/
def Call.run {host : Host} : Call host.toVocabulary → Run host (Option host.Ref)
  | proceed => Invocation.proceed
  | proceedDirectly => Invocation.proceedDirectly
  | takeNewInstance => Invocation.takeNewInstance
  | setParameters ps => fun s =>
    ((s.1.setParameters ps).1.map fun _ => none, (s.1.setParameters ps).2, s.2)
  | setData data => fun s => (.ok none, { s.1 with data := data }, s.2)

namespace Status

variable {V : Vocabulary}

/-- `status.refuses c` — a completed invocation refuses to proceed; a failed one refuses a direct call,
    too. -/
def refuses : Status → Call V → Bool
  | completed, .proceed | failed, .proceed | failed, .proceedDirectly => true
  | _, _ => false

/-- `status.after c ok` — what a call leaves behind that was a success if `ok`. -/
def after (status : Status) (c : Call V) (ok : Bool) : Status :=
  if c.drives = true ∧ status.refuses c = false then if ok then completed else failed else status

theorem after_of_drives {status : Status} {c : Call V} (hdrives : c.drives = true)
    (hopen : status.refuses c = false) (ok : Bool) :
    status.after c ok = if ok then completed else failed :=
  if_pos ⟨hdrives, hopen⟩

theorem after_of_idle {status : Status} {c : Call V} (h : c.drives = false) (ok : Bool) :
    status.after c ok = status :=
  if_neg fun h' => by rw [h] at h'; cases h'.1

theorem after_of_refuses {status : Status} {c : Call V} (h : status.refuses c = true) (ok : Bool) :
    status.after c ok = status :=
  if_neg fun h' => by rw [h] at h'; cases h'.2

theorem after_ne_running {status : Status} (h : status ≠ running) (c : Call V) (ok : Bool) :
    status.after c ok ≠ running := by
  rw [after]
  split
  · cases ok <;> exact Status.noConfusion
  · exact h

theorem refuses_of_drives {c : Call V} (h : c.drives = true) : failed.refuses c = true := by
  cases c <;> first | rfl | cases h

/-- Whatever drives an invocation ends its being pending, and nothing brings that back. -/
theorem after_eq_pending {status : Status} {c : Call V} {ok : Bool} :
    status.after c ok = pending ↔ status = pending ∧ c.drives = false := by
  cases status <;> cases c <;> cases ok <;> simp [after, refuses, Call.drives]

end Status

namespace Invocation

/-! ## One call -/

/-- `inv.Idle` — no call of `inv` is open. -/
structure Idle {V : Vocabulary} (inv : Invocation V) : Prop where
  cursor : inv.cursor = 0
  depth : inv.depth = 0
  status : inv.status ≠ .running

/-- `inv.marked status` — `inv` with another status. -/
def marked {V : Vocabulary} (inv : Invocation V) (status : Status) : Invocation V :=
  { inv with status := status }

variable {host : Host}

/-- A refused call changes nothing, not even the world. -/
theorem run_of_refuses {inv : Invocation host.toVocabulary} {c : Call host.toVocabulary}
    (h : inv.status.refuses c = true) (w : host.World) :
    c.run (inv, w) = (.error (if inv.status = .completed then .alreadyCompleted inv.phase
      else .alreadyFailed inv.phase), inv, w) := by
  cases hstatus : inv.status <;> cases c <;> rw [hstatus] at h <;> cases h
  · show proceed (inv, w) = _
    rw [proceed_eq_enter_advance, enter, hstatus]
    rfl
  · show proceed (inv, w) = _
    rw [proceed_eq_enter_advance, enter, hstatus]
    rfl
  · exact if_pos hstatus

/-- A call that is not meant to reach the goal touches neither the world nor the interceptors. -/
theorem run_of_not_drives {c : Call host.toVocabulary} (h : c.drives = false)
    (inv : Invocation host.toVocabulary) (w : host.World) :
    ∃ p, p.created = inv.created ∧ (c.run (inv, w)).2 = (inv.carrying p, w) := by
  cases c with
  | proceed => cases h
  | proceedDirectly => cases h
  | takeNewInstance => exact ⟨_, rfl, congrArg (·.2, w) inv.takeMade_apply⟩
  | setParameters ps =>
    refine ⟨(inv.route.replace inv.passage ps).2, (inv.route.replace_keeps inv.passage ps).1, ?_⟩
    exact congrArg (fun r => (r.2, w)) (setParameters_apply inv ps)
  | setData data =>
    exact ⟨{ inv.passage with data := data }, rfl, congrArg (·, w) (setData_apply inv data)⟩

/-- A direct call that is not refused reaches the goal, and nobody is made on the way. -/
theorem proceedDirectly_of_idle {inv : Invocation host.toVocabulary} (hdepth : inv.depth = 0)
    (hstatus : inv.status ≠ .failed) (w : host.World) :
    let r := inv.route.arrive (inv.passage, w)
    proceedDirectly (inv, w) =
      (r.1, (inv.marked (if r.1.isOk then .completed else .failed)).carrying r.2.1, r.2.2) := by
  intro r
  have hreach : reachEnding (inv, w) = (r.1, inv.carrying r.2.1, r.2.2) :=
    (matches_reachEnding inv).of_passage rfl
  have hdepth' : (inv.carrying r.2.1).depth = 0 := hdepth
  rw [proceedDirectly, if_neg hstatus, hreach]
  dsimp only
  rw [if_pos hdepth']
  rfl

/-- A call that is refused, or that comes to a failed invocation, leaves the world alone. -/
theorem run_of_failed {inv : Invocation host.toVocabulary} (h : inv.status = .failed)
    (c : Call host.toVocabulary) (w : host.World) :
    (c.run (inv, w)).2.1.status = .failed ∧ (c.run (inv, w)).2.2 = w := by
  cases hdrives : c.drives with
  | true =>
    rw [run_of_refuses (h ▸ Status.refuses_of_drives hdrives)]
    exact ⟨h, rfl⟩
  | false =>
    obtain ⟨p, -, hrun⟩ := run_of_not_drives hdrives inv w
    rw [hrun]
    exact ⟨h, rfl⟩

theorem live?_eq_known? {V : Vocabulary} (inv : Invocation V) :
    inv.live? = inv.route.known? inv.passage := by
  funext name
  have h := live?_carrying inv inv.passage name
  rwa [carrying_passage] at h

/-- Who is known depends on who was supplied and made, and on nothing else. -/
theorem live?_carrying_of_created {V : Vocabulary} (inv : Invocation V) {p : Passage V}
    (h : p.created = inv.created) (status : Status) :
    ((inv.marked status).carrying p).live? = inv.live? := by
  funext name
  rw [live?_carrying, live?_eq_known?, Route.known?_eq (q := inv.passage) h.symm]
  rfl

/-- `Step inv s status t` — what may become of an idle invocation `inv` and the world `s` by one call
    that leaves `status` behind: a pass through the chain, if nothing has driven it yet, or the goal
    alone, or nothing. -/
inductive Step (inv : Invocation host.journaled.toVocabulary) (s : host.journaled.World)
    (status : Status) : Invocation host.journaled.toVocabulary × host.journaled.World → Prop where
  | pass {p w} {seg : Journal host.toVocabulary} (hpending : inv.status = .pending)
    (hdriven : status ≠ .pending) (hlog : w.2 = s.2 ++ seg)
    (hpass : Passes inv.phase inv.ending.goal ((inv.marked status).carrying p).live? inv.chain seg) :
    Step inv s status ((inv.marked status).carrying p, w)
  | goal {p w} {seg : Journal host.toVocabulary} (hcreated : p.created = inv.created)
    (hdriven : status = .pending → inv.status = .pending ∧ seg = []) (hlog : w.2 = s.2 ++ seg)
    (hgoal : ∀ e ∈ seg, inv.ending.goal.Writes e) :
    Step inv s status ((inv.marked status).carrying p, w)

/-- Every call on an idle invocation is such a step, with the status of the automaton. -/
theorem run_idle {inv : Invocation host.journaled.toVocabulary} (hidle : inv.Idle)
    (c : Call host.journaled.toVocabulary) (s : host.journaled.World) :
    Step inv s (inv.status.after c (c.run (inv, s)).1.isOk) (c.run (inv, s)).2 := by
  -- a call that is refused, or not meant to reach the goal, writes nothing down
  have hquiet : ∀ p, p.created = inv.created →
      Step inv s inv.status (inv.carrying p, s) := fun p hp =>
    .goal hp (fun h => ⟨h, rfl⟩) (List.append_nil _).symm nofun
  cases hdrives : c.drives with
  | false =>
    obtain ⟨p, hp, hrun⟩ := run_of_not_drives hdrives inv s
    rw [Status.after_of_idle hdrives, hrun]
    exact hquiet p hp
  | true =>
    cases hrefuses : inv.status.refuses c with
    | true =>
      rw [Status.after_of_refuses hrefuses, run_of_refuses hrefuses]
      have h := hquiet inv.passage rfl
      rwa [carrying_passage] at h
    | false =>
      have hdriven : ∀ ok : Bool, (if ok then Status.completed else .failed) ≠ .pending := by
        rintro (_ | _) <;> exact Status.noConfusion
      rw [Status.after_of_drives hdrives hrefuses]
      cases c with
      | proceed =>
        have hpending : inv.status = .pending := by
          have hrunning := hidle.status
          cases h : inv.status <;> simp_all [Status.refuses]
        obtain ⟨-, seg, hlog, hpasses⟩ := inv.proceed_passes hpending hidle.cursor s
        have hrun : proceed (inv, s) = _ := proceed_of_start hpending hidle.cursor s
        have hsettled : ∀ ok, inv.settled ok = inv.marked (if ok then .completed else .failed) :=
          fun ok => by rw [settled, if_pos hidle.depth]; rfl
        rw [hsettled] at hrun
        show Step inv s (if (proceed (inv, s)).1.isOk then _ else _) (proceed (inv, s)).2
        rw [hrun] at hlog hpasses ⊢
        exact .pass hpending (hdriven _) hlog hpasses
      | proceedDirectly =>
        have hopen : inv.status ≠ .failed := by
          rintro h
          rw [h] at hrefuses
          cases hrefuses
        obtain ⟨seg, hlog, hwrites⟩ := inv.route.arrive_writes inv.passage s
        have hrun := proceedDirectly_of_idle hidle.depth hopen s
        show Step inv s (if (proceedDirectly (inv, s)).1.isOk then _ else _)
          (proceedDirectly (inv, s)).2
        rw [hrun]
        exact .goal (inv.route.created_arrive (inv.passage, s)) (absurd · (hdriven _)) hlog hwrites
      | takeNewInstance => cases hdrives
      | setParameters ps => cases hdrives
      | setData data => cases hdrives

/-! ## Whole lives -/

/-- `Fresh inv` — `inv` is new: made for a lifecycle phase, a construction or a business call. -/
inductive Fresh {V : Vocabulary} : Invocation V → Prop where
  | lifecycle (phase target chain supplied callbacks) :
    Fresh (Invocation.lifecycle phase target chain supplied callbacks)
  | construction (chain supplied k parameters) :
    Fresh (Invocation.construction chain supplied k parameters)
  | business (target method chain supplied parameters) :
    Fresh (Invocation.business target method chain supplied parameters)

/-- `Life s history t` — the calls of `history`, with whether they were successes, lead from `s` to
    `t`, while others may change the world in between. -/
inductive Life (s : Invocation host.journaled.toVocabulary × host.journaled.World) :
    List (Call host.journaled.toVocabulary × Bool) →
      Invocation host.journaled.toVocabulary × host.journaled.World → Prop where
  | start : Life s [] s
  | call {history t} (h : Life s history t) (c : Call host.journaled.toVocabulary) :
    Life s (history ++ [(c, (c.run t).1.isOk)]) (c.run t).2
  | elsewhere {history t} (h : Life s history t) (w : host.World) :
    Life s history (t.1, w, t.2.2)

/-- `Kept s t` — what the life from `s` to `t` keeps: the invocation is idle and leads where it led;
    and at every moment of what was written down since, the chain was passed through, or the goal
    was reached with nobody active. -/
structure Kept (s t : Invocation host.journaled.toVocabulary × host.journaled.World)
    (seg : Journal host.toVocabulary) : Prop where
  idle : t.1.Idle
  route : t.1.route = s.1.route
  chain : t.1.chain = s.1.chain
  log : t.2.2 = s.2.2 ++ seg
  observes : Journal.Observes (fun its e =>
    Moment s.1.phase s.1.ending.goal t.1.live? s.1.chain its e ∨
      (its = [] ∧ s.1.ending.goal.Writes e)) [] seg
  closed : Journal.active seg = []
  openings : Journal.openings seg ≤ 1
  unopened : t.1.status = .pending → seg = []

namespace Kept

variable {s t u : Invocation host.journaled.toVocabulary × host.journaled.World}
  {seg : Journal host.toVocabulary} {status : Status}

/-- One more step keeps it. -/
theorem step (h : Kept s t seg) (hstep : Step t.1 t.2 status u) (hstatus : status ≠ .running) :
    ∃ seg', Kept s u seg' := by
  have hphase : t.1.phase = s.1.phase := congrArg Route.phase h.route
  have hgoal : t.1.ending.goal = s.1.ending.goal := congrArg Route.goal h.route
  have hframe : ∀ p, ((t.1.marked status).carrying p).route = s.1.route := fun p =>
    (route_carrying _ p).trans h.route
  cases hstep with
  | @pass p w seg' hpending hdriven hlog hpass =>
    rw [hphase, hgoal, h.chain] at hpass
    have hseg : seg = [] := h.unopened hpending
    have hlog' := h.log
    rw [hseg, List.append_nil] at hlog'
    obtain ⟨hobserves, hover⟩ := hpass.observes
    exact ⟨seg', ⟨h.idle.cursor, h.idle.depth, hstatus⟩, hframe p, h.chain, hlog'.symm ▸ hlog,
      hobserves.mono fun _ _ => Or.inl, hover, hpass.openings_le, (absurd · hdriven)⟩
  | @goal p w seg' hcreated hdriven hlog hwrites =>
    rw [hgoal] at hwrites
    have hlive := t.1.live?_carrying_of_created hcreated status
    obtain ⟨hback, hopenings⟩ := Goal.Writes.keeps hwrites []
    have hover : Journal.activeAfter [] seg = [] := h.closed
    refine ⟨seg ++ seg', ⟨h.idle.cursor, h.idle.depth, hstatus⟩, hframe p, h.chain, ?_, ?_, ?_, ?_,
      fun hpending => ?_⟩
    · rw [hlog, h.log, List.append_assoc]
    · dsimp only
      rw [hlive]
      exact h.observes.append hover ((Goal.Writes.observes hwrites []).mono fun _ _ => Or.inr)
    · rw [Journal.active, Journal.activeAfter_append, hover, hback]
    · rw [Journal.openings, Journal.openingsFrom_append, hover, hopenings]
      exact h.openings
    · obtain ⟨hpending', rfl⟩ := hdriven hpending
      rw [h.unopened hpending', List.append_nil]

end Kept

theorem Step.status_eq {inv : Invocation host.journaled.toVocabulary} {s : host.journaled.World}
    {status : Status} {u : Invocation host.journaled.toVocabulary × host.journaled.World}
    (h : Step inv s status u) : u.1.status = status := by
  cases h <;> rfl

theorem Fresh.kept {inv : Invocation host.journaled.toVocabulary} (h : inv.Fresh)
    (w : host.journaled.World) : Kept (inv, w) (inv, w) [] := by
  have hidle : inv.Idle := by
    cases h <;> exact ⟨rfl, rfl, Status.noConfusion⟩
  exact ⟨hidle, rfl, rfl, (List.append_nil _).symm, trivial, rfl, Nat.zero_le 1, fun _ => rfl⟩

theorem Fresh.status {inv : Invocation host.toVocabulary} (h : inv.Fresh) :
    inv.status = .pending := by
  cases h <;> rfl

namespace Life

variable {s t : Invocation host.journaled.toVocabulary × host.journaled.World}
  {history : List (Call host.journaled.toVocabulary × Bool)}

/-- What one call keeps, a life keeps. -/
theorem kept (h : Life s history t) (hfresh : s.1.Fresh) : ∃ seg, Kept s t seg := by
  induction h with
  | start => exact ⟨[], hfresh.kept s.2⟩
  | call h c ih =>
    obtain ⟨seg, hkept⟩ := ih
    exact hkept.step (run_idle hkept.idle c _) (Status.after_ne_running hkept.idle.status c _)
  | elsewhere h w ih =>
    obtain ⟨seg, hkept⟩ := ih
    exact ⟨seg, hkept.idle, hkept.route, hkept.chain, hkept.log, hkept.observes, hkept.closed,
      hkept.openings, hkept.unopened⟩

/-- An invocation is pending as long as nothing has driven it. -/
theorem status_eq_pending (h : Life s history t) (hfresh : s.1.Fresh) :
    t.1.status = .pending ↔ ∀ x ∈ history, x.1.drives = false := by
  induction h with
  | start => exact iff_of_true hfresh.status nofun
  | @call history t h c ih =>
    obtain ⟨seg, hkept⟩ := h.kept hfresh
    rw [(run_idle hkept.idle c t.2).status_eq, Status.after_eq_pending, ih, List.forall_mem_append,
      List.forall_mem_singleton]
  | elsewhere h w ih => exact ih

/-- A failed invocation stays failed, and nothing is written down any more. -/
theorem of_failed (h : Life s history t) (hs : s.1.status = .failed) :
    t.1.status = .failed ∧ t.2.2 = s.2.2 := by
  induction h with
  | start => exact ⟨hs, rfl⟩
  | @call history t h c ih =>
    obtain ⟨hstatus, hworld⟩ := run_of_failed ih.1 c t.2
    exact ⟨hstatus, by rw [hworld]; exact ih.2⟩
  | elsewhere h w ih => exact ih

/-- Once it has been driven, the goal may be reached again, and nothing else. -/
theorem of_driven (h : Life s history t) (hidle : s.1.Idle) (hs : s.1.status ≠ .pending) :
    t.1.Idle ∧ t.1.status ≠ .pending ∧ t.1.ending.goal = s.1.ending.goal ∧
      ∃ seg : Journal host.toVocabulary, t.2.2 = s.2.2 ++ seg ∧
        ∀ e ∈ seg, s.1.ending.goal.Writes e := by
  induction h with
  | start => exact ⟨hidle, hs, rfl, [], (List.append_nil _).symm, nofun⟩
  | @call history t h c ih =>
    obtain ⟨hidle, hdriven, hgoal, seg, hlog, hwrites⟩ := ih
    have hrunning := Status.after_ne_running hidle.status c (c.run t).1.isOk
    have hpending : t.1.status.after c (c.run t).1.isOk ≠ .pending := fun h =>
      hdriven (Status.after_eq_pending.1 h).1
    have hstep : Step t.1 t.2 _ (c.run t).2 := run_idle hidle c t.2
    generalize (c.run t).2 = u at hstep ⊢
    cases hstep with
    | pass hp => exact absurd hp hdriven
    | @goal p w seg' hcreated _ hlog' hwrites' =>
      rw [hgoal] at hwrites'
      refine ⟨⟨hidle.cursor, hidle.depth, hrunning⟩, hpending, (goal_carrying _ p).trans hgoal,
        seg ++ seg', ?_, List.forall_mem_append.2 ⟨hwrites, hwrites'⟩⟩
      rw [hlog', hlog, List.append_assoc]
  | elsewhere h w ih => exact ih

end Life

end Invocation

/-! ## Inside a call -/

/-- `x.Asks P proceed s` — whenever the program `x`, started in `s`, proceeds, `P` holds. -/
def Advice.Asks {host : Host} {α : Type} (P : Invocation host.toVocabulary × host.World → Prop)
    (proceed : Run host (Option host.Ref)) :
    Advice host.toVocabulary host.World α → Invocation host.toVocabulary × host.World → Prop
  | .done _, _ => True
  | .proceed next, s => P s ∧ (next (proceed s).1).Asks P proceed (proceed s).2
  | .observe next, s => (next s.1.view).Asks P proceed s
  | .setParameters ps next, s =>
    (next (s.1.setParameters ps).1).Asks P proceed ((s.1.setParameters ps).2, s.2)
  | .setData data next, s => next.Asks P proceed ({ s.1 with data := data }, s.2)
  | .readWorld next, s => (next s.2).Asks P proceed s
  | .writeWorld w next, s => next.Asks P proceed (s.1, w)

namespace Invocation

variable {host : Host}

/-- Whatever a program does inside a running invocation, it proceeds on a running one. -/
theorem asks_running {α : Type} {f : Invocation host.toVocabulary} (hstatus : f.status = .running)
    (hdepth : f.depth ≠ 0) (x : Advice host.toVocabulary host.World α) :
    ∀ p w, x.Asks (fun s => s.1.status = .running) proceed (f.carrying p, w) := by
  induction x with
  | done a => exact fun _ _ => trivial
  | proceed next ih =>
    intro p w
    refine ⟨hstatus, ?_⟩
    rw [matches_proceed hstatus hdepth p w]
    exact ih _ _ _
  | observe next ih => exact fun p w => ih _ p w
  | setParameters ps next ih =>
    intro p w
    rw [Advice.Asks, setParameters_carrying]
    exact ih _ _ w
  | setData data next ih => exact fun p w => ih { p with data := data } w
  | readWorld next ih => exact fun p w => ih w p w
  | writeWorld w' next ih => exact fun p w => ih p w'

/-- A call that is not refused runs the program of the interceptor at the cursor, and this is never
    refused when it proceeds. -/
theorem proceed_asks_running {inv : Invocation host.toVocabulary}
    (hopen : inv.status = .pending ∨ inv.status = .running) {i : Interceptor host.Routine}
    (hi : inv.chain[inv.cursor]? = some i) {w : host.World} {it : host.Live}
    {t : Invocation host.toVocabulary × host.World}
    (hlive : live i (inv.entered, w) = (.ok it, t)) :
    let program := host.intercept it inv.phase
    let r := program.run proceed (t.1.past, t.2)
    (proceed (inv, w)).1 = r.1 ∧ (proceed (inv, w)).2.2 = r.2.2 ∧
      program.Asks (fun s => s.1.status = .running) proceed (t.1.past, t.2) := by
  intro program r
  obtain ⟨p, -, hp⟩ := materialise_of_live hlive
  have hphase : t.1.phase = inv.phase := by rw [hp]; rfl
  have hadvance : advance proceed (inv.entered, w) = around it proceed t := by
    have hget : inv.entered.chain[inv.entered.cursor]? = some i := hi
    rw [advance_apply]
    dsimp only
    rw [hget]
    dsimp only
    rw [hlive]
  have haround : around it proceed t =
      (r.1, { r.2.1 with cursor := r.2.1.cursor - 1 }, r.2.2) := by
    rw [around_apply, hphase]
    rfl
  have hproceed : proceed (inv, w) = enter (advance proceed) (inv, w) :=
    congrFun proceed_eq_enter_advance (inv, w)
  rw [hproceed, enter_of_open hopen]
  dsimp only
  rw [hadvance, haround]
  refine ⟨rfl, rfl, ?_⟩
  rw [hp]
  exact asks_running (f := inv.entered.past) rfl (Nat.succ_ne_zero _) program p t.2

/-- **An invocation lives by its automaton.**  Let an invocation be new, and let any calls be made on
    it, with any interceptors and any outcomes, while others change the world in between.
    1. Between calls no call is open and no interceptor active, and the status is not running.
    2. It is pending exactly as long as nothing has driven it.
    3. A call that drives it and is not refused leaves it completed if the call was a success, and
       failed otherwise.
    4. Once it has failed, it stays failed; whatever drives it is refused and changes nothing, no
       call touches the world, and nothing is written down any more: nobody is made or entered, and
       the goal is not reached.
    5. Once it has completed, proceeding is refused and changes nothing; no call but a direct one
       touches the world; and whatever is written down from then on is the goal.
    6. In all its life, an interceptor is entered at most once while nobody is active.  At every
       moment the chain is passed through, or the goal is reached directly with nobody active; so the
       interceptors that are entered with nobody active are those at the beginning of the chain.
    7. An interceptor is run by a call of an invocation that is pending or running, and whenever it
       proceeds, the invocation is running; so it is never refused. -/
theorem status_of_life {inv : Invocation host.journaled.toVocabulary} (hfresh : inv.Fresh)
    (w : host.journaled.World) {history : List (Call host.journaled.toVocabulary × Bool)}
    {t : Invocation host.journaled.toVocabulary × host.journaled.World}
    (h : Life (inv, w) history t) :
    (t.1.cursor = 0 ∧ t.1.depth = 0 ∧ t.1.status ≠ .running) ∧
    (t.1.status = .pending ↔ ∀ x ∈ history, x.1.drives = false) ∧
    (∀ c : Call host.journaled.toVocabulary, c.drives = true → t.1.status.refuses c = false →
      (c.run t).2.1.status = if (c.run t).1.isOk then .completed else .failed) ∧
    (t.1.status = .failed →
      (∀ c : Call host.journaled.toVocabulary, c.drives = true →
        c.run t = (.error (.alreadyFailed t.1.phase), t)) ∧
      (∀ c : Call host.journaled.toVocabulary, (c.run t).2.2 = t.2) ∧
      ∀ {history' t'}, Life t history' t' → t'.1.status = .failed ∧ t'.2.2 = t.2.2) ∧
    (t.1.status = .completed →
      proceed t = (.error (.alreadyCompleted t.1.phase), t) ∧
      (∀ c : Call host.journaled.toVocabulary, c ≠ .proceedDirectly → (c.run t).2.2 = t.2) ∧
      ∀ {history' t'}, Life t history' t' → ∃ seg : Journal host.toVocabulary,
        t'.2.2 = t.2.2 ++ seg ∧ ∀ e ∈ seg, inv.ending.goal.Writes e) ∧
    (∃ seg : Journal host.toVocabulary, t.2.2 = w.2 ++ seg ∧ Journal.openings seg ≤ 1 ∧
      Journal.Observes (fun its e => Moment inv.phase inv.ending.goal t.1.live? inv.chain its e ∨
        (its = [] ∧ inv.ending.goal.Writes e)) [] seg) ∧
    ∀ (f : Invocation host.journaled.toVocabulary) (s : host.journaled.World),
      f.status = .pending ∨ f.status = .running → ∀ i, f.chain[f.cursor]? = some i →
        ∀ it u, live i (f.entered, s) = (.ok it, u) →
          let program := host.journaled.intercept it f.phase
          let r := program.run proceed (u.1.past, u.2)
          (proceed (f, s)).1 = r.1 ∧ (proceed (f, s)).2.2 = r.2.2 ∧
            program.Asks (fun v => v.1.status = .running) proceed (u.1.past, u.2) := by
  obtain ⟨seg, hkept⟩ := h.kept hfresh
  have hgoal : t.1.ending.goal = inv.ending.goal := congrArg Route.goal hkept.route
  have hquiet : ∀ c : Call host.journaled.toVocabulary, c.drives = false →
      (c.run t).2.2 = t.2 := fun c hc => by
    obtain ⟨p, -, hrun⟩ := run_of_not_drives hc t.1 t.2
    exact congrArg (·.2) hrun
  refine ⟨⟨hkept.idle.cursor, hkept.idle.depth, hkept.idle.status⟩, h.status_eq_pending hfresh,
    fun c hdrives hopen => ?_, fun hfailed => ⟨fun c hdrives => ?_, fun c =>
      (run_of_failed hfailed c t.2).2, fun h' => h'.of_failed hfailed⟩,
    fun hcompleted => ?_, ⟨seg, hkept.log, hkept.openings, hkept.observes⟩,
    fun f s hopen i hi it u hlive => proceed_asks_running hopen hi hlive⟩
  · rw [(run_idle hkept.idle c t.2).status_eq, Status.after_of_drives hdrives hopen]
  · have hrun := run_of_refuses (hfailed ▸ Status.refuses_of_drives hdrives) t.2
    rwa [hfailed, if_neg Status.noConfusion] at hrun
  have hproceed : t.1.status.refuses (.proceed : Call host.journaled.toVocabulary) = true :=
    hcompleted ▸ rfl
  refine ⟨?_, fun c hc => ?_, fun h' => ?_⟩
  · have hrun := run_of_refuses hproceed t.2
    rwa [if_pos hcompleted] at hrun
  · cases c with
    | proceed => exact congrArg (·.2.2) (run_of_refuses hproceed t.2)
    | proceedDirectly => exact absurd rfl hc
    | takeNewInstance => exact hquiet _ rfl
    | setParameters ps => exact hquiet (.setParameters ps) rfl
    | setData data => exact hquiet (.setData data) rfl
  · obtain ⟨-, -, -, seg', hlog, hwrites⟩ :=
      h'.of_driven hkept.idle (by rw [hcompleted]; exact Status.noConfusion)
    rw [hgoal] at hwrites
    exact ⟨seg', hlog, hwrites⟩

/-- An interceptor cuts a construction short, which completes it; a direct call then reaches the
    constructor, which fails, and so does the invocation. -/
theorem status_of_life_cut :
    let inv : Invocation Host.numbers.journaled.toVocabulary :=
      construction [.everywhere "cut" 1] none ⟨⟨⟨"Account", "new"⟩, (9 : Nat)⟩, 0⟩ []
    let seg : Journal Host.numbers.toVocabulary :=
      [.made (1 : Nat) (.ok (1 : Nat)), .entered (1 : Nat) .aroundConstruct,
        .left (1 : Nat) .aroundConstruct (.ok none)]
    let last : Journal Host.numbers.toVocabulary :=
      [.constructed (9 : Nat) [] (.error (.raised "nine"))]
    inv.Fresh ∧ ∃ s t, Life (inv, [], []) [(.proceed, true)] s ∧
      Life (inv, [], []) [(.proceed, true), (.proceedDirectly, false)] t ∧
      s.1.status = .completed ∧ s.2.2 = seg ∧
      proceed s = (.error (.alreadyCompleted s.1.phase), s) ∧
      t.1.status = .failed ∧ t.2.2 = seg ++ last ∧
      proceed t = (.error (.alreadyFailed t.1.phase), t) := by
  intro inv seg last
  have hfresh : inv.Fresh := .construction ..
  have hs := (Life.start (s := (inv, [], []))).call .proceed
  have ht := hs.call .proceedDirectly
  refine ⟨hfresh, _, _, hs, ht, by cbv, by cbv, ?_, by cbv, by cbv, ?_⟩
  · exact ((status_of_life hfresh _ hs).2.2.2.2.1 (by cbv)).1
  · exact ((status_of_life hfresh _ ht).2.2.2.1 (by cbv)).1 .proceed rfl

end Invocation

end Wiring
