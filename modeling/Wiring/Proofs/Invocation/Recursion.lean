/-
  The cursor machine computes the recursion on the chain.

  The INVARIANT of a machine state is its frame: chain, phase, supplied interceptors, cursor, depth
  and status are those of a fixed invocation `f`, and only the passage differs, so the state is
  `f.carrying p`.  `Matches f x y` says that the machine's step `x` keeps the frame `f` and does to
  the passage what the step `y` of the recursion does.

  1. Each single step of the machine matches its namesake of the recursion.
  2. A program of an interceptor matches, if proceeding does (`matches_run`, by induction on the
     program), however often it proceeds and whatever it makes of the outcomes.
  3. A call that enters a chain with `rest` left matches `run rest` (`through_carrying`, by
     induction on `rest`): the call raises the depth, the interceptor the cursor, and both come
     back before the call returns.
-/
import Wiring.Proofs.Invocation.Route
import Wiring.Proofs.Invocation.Steps
import Wiring.Proofs.Journal.Basic
import Wiring.Proofs.Host.Numbers

namespace Wiring

/-! ## Machine states as frames that carry a passage -/

namespace Ending

variable {V : Vocabulary}

/-- `e.goal` — the step itself, without what has come of it. -/
def goal : Ending V → Goal V
  | callbacks target operations => .callbacks target operations
  | construct k _ => .construct k
  | call target method => .call target method

/-- `e.made?` — the latest instance that has not been taken. -/
def made? : Ending V → Option (Reference V)
  | construct _ made => made
  | callbacks _ _ | call _ _ => none

/-- `e.holding made` — the same step with another latest instance. -/
def holding : Ending V → Option (Reference V) → Ending V
  | construct k _, made => construct k made
  | e, _ => e

end Ending

namespace Invocation

variable {host : Host} {V : Vocabulary}

/-- `inv.route` — what a pass through the chain of `inv` cannot change. -/
def route (inv : Invocation V) : Route V := ⟨inv.phase, inv.supplied, inv.ending.goal⟩

/-- `inv.passage` — what it can change. -/
def passage (inv : Invocation V) : Passage V :=
  ⟨inv.created, inv.parameters, inv.data, inv.ending.made?⟩

/-- `inv.carrying p` — `inv` with the passage `p`. -/
def carrying (inv : Invocation V) (p : Passage V) : Invocation V :=
  { inv with
    created := p.created
    parameters := p.parameters
    data := p.data
    ending := inv.ending.holding p.made }

/-- `inv.settled ok` — the status after a call: the outermost one finishes the invocation. -/
def settled (inv : Invocation V) (ok : Bool) : Invocation V :=
  if inv.depth = 0 then inv.finished ok else { inv with status := .running }

/-- `inv.past` — the cursor past one more interceptor. -/
def past (inv : Invocation V) : Invocation V := { inv with cursor := inv.cursor + 1 }

/-- `inv.rest` — the interceptors that a call enters, the one at the cursor first. -/
def rest (inv : Invocation V) : List (Interceptor V.Routine) := inv.chain.drop inv.cursor

/-- What is left is the interceptor at the cursor, and what is left past it. -/
theorem rest_eq_cons {f : Invocation V} {i : Interceptor V.Routine}
    {rest : List (Interceptor V.Routine)} (h : f.rest = i :: rest) :
    f.chain[f.cursor]? = some i ∧ f.past.rest = rest := by
  constructor
  · rw [← List.head?_drop, ← Invocation.rest, h, List.head?_cons]
  · show f.chain.drop (f.cursor + 1) = rest
    rw [← List.tail_drop, ← Invocation.rest, h, List.tail_cons]

theorem carrying_passage (inv : Invocation V) : inv.carrying inv.passage = inv := by
  rcases inv with ⟨_, _, _, _, _, _, _, _, _, ending⟩
  cases ending <;> rfl

theorem cursor_settled (inv : Invocation V) (ok : Bool) : (inv.settled ok).cursor = inv.cursor := by
  rw [settled]
  split <;> rfl

theorem depth_settled (inv : Invocation V) (ok : Bool) : (inv.settled ok).depth = inv.depth := by
  rw [settled]
  split <;> rfl

theorem route_settled (inv : Invocation V) (ok : Bool) : (inv.settled ok).route = inv.route := by
  rw [settled]
  split <;> rfl

/-- Inside a call, another call leaves the frame as it was. -/
theorem settled_of_running {inv : Invocation V} (hstatus : inv.status = .running)
    (hdepth : inv.depth ≠ 0) (ok : Bool) : inv.settled ok = inv := by
  rw [settled, if_neg hdepth, ← hstatus]

theorem left_entered_carrying (inv : Invocation V) (p : Passage V) (ok : Bool) :
    (inv.entered.carrying p).left ok = (inv.settled ok).carrying p := by
  show (if inv.depth + 1 - 1 = 0 then _ else _) = _
  rw [Nat.add_sub_cancel, settled]
  split
  · rfl
  · rfl

/-- What a call leaves at the end of the chain is the same step, with the instance carried there. -/
theorem ending_settled_carrying (f : Invocation V) (p : Passage V) (ok : Bool) :
    ((f.settled ok).carrying p).ending = f.ending.holding p.made := by
  rw [settled]
  split <;> rfl

/-- What a call cannot change is where the chain leads. -/
theorem goal_settled_carrying (f : Invocation V) (p : Passage V) (ok : Bool) :
    ((f.settled ok).carrying p).ending.goal = f.ending.goal := by
  rw [ending_settled_carrying]
  cases f.ending <;> rfl

theorem goal_carrying (inv : Invocation V) (p : Passage V) :
    (inv.carrying p).ending.goal = inv.ending.goal := by
  rcases inv with ⟨_, _, _, _, _, _, _, _, _, ending⟩
  cases ending <;> rfl

theorem route_carrying (inv : Invocation V) (p : Passage V) :
    (inv.carrying p).route = inv.route := by
  rw [route, route, goal_carrying]
  rfl

/-- Taking what has been made empties its slot, and changes nothing else. -/
theorem takeMade_apply (inv : Invocation V) :
    inv.takeMade = (inv.ending.made?, inv.carrying { inv.passage with made := none }) := by
  rcases inv with ⟨_, _, _, _, _, _, _, _, _, ending⟩
  cases ending <;> rfl

theorem goal_takeMade (inv : Invocation V) : inv.takeMade.2.ending.goal = inv.ending.goal := by
  rw [takeMade_apply]
  exact goal_carrying inv _

theorem parameters_takeMade (inv : Invocation V) : inv.takeMade.2.parameters = inv.parameters := by
  rw [takeMade_apply]
  rfl

theorem view_carrying (f : Invocation V) (p : Passage V) :
    (f.carrying p).view = f.route.view p := by
  rcases f with ⟨_, _, _, _, _, _, _, _, _, ending⟩
  cases ending <;> rfl

theorem live?_carrying (f : Invocation V) (p : Passage V) (name : String) :
    (f.carrying p).live? name = f.route.known? p name := by
  show (f.supplied.bind (·.get? name) <|> p.created.get? name) = _
  rw [route, Route.known?]
  cases f.supplied with
  | none => rfl
  | some supplied =>
    show (supplied.get? name <|> p.created.get? name) = _
    cases h : supplied.get? name with
    | some it => simp [h]
    | none => simp [h]

theorem setParameters_carrying (f : Invocation V) (p : Passage V) (ps : List (Reference V)) :
    (f.carrying p).setParameters ps =
      ((f.route.replace p ps).1, f.carrying (f.route.replace p ps).2) := by
  rcases f with ⟨_, _, _, _, _, _, _, _, _, ending⟩
  by_cases h : ps.length = p.parameters.length <;>
    cases ending <;>
      simp [setParameters, carrying, route, Route.replace, Ending.goal, Ending.holding,
        Ending.takesParameters, h]

theorem setParameters_apply (inv : Invocation V) (ps : List (Reference V)) :
    inv.setParameters ps = ((inv.route.replace inv.passage ps).1,
      inv.carrying (inv.route.replace inv.passage ps).2) := by
  have h := setParameters_carrying inv inv.passage ps
  rwa [carrying_passage] at h

theorem setData_apply (inv : Invocation V) (data : Table String (Reference V)) :
    { inv with data := data } = inv.carrying { inv.passage with data := data } := by
  rcases inv with ⟨_, _, _, _, _, _, _, _, _, ending⟩
  cases ending <;> rfl

/-! ## Steps of the machine and of the recursion -/

/-- `Matches f x y` — in the frame `f`, the machine's `x` does to the passage what `y` does, and
    leaves the frame alone. -/
def Matches {α : Type} (f : Invocation host.toVocabulary) (x : Run host α) (y : Trip host α) :
    Prop :=
  ∀ p w, x (f.carrying p, w) = ((y (p, w)).1, f.carrying (y (p, w)).2.1, (y (p, w)).2.2)

/-- An invocation carries its own passage. -/
theorem Matches.of_passage {α : Type} {inv : Invocation host.toVocabulary} {x : Run host α}
    {y : Trip host α} (h : Matches inv x y) {w w' : host.World} {outcome : Except Failure α}
    {q : Passage host.toVocabulary} (hy : y (inv.passage, w) = (outcome, q, w')) :
    x (inv, w) = (outcome, inv.carrying q, w') := by
  have hx := h inv.passage w
  rwa [carrying_passage, hy] at hx

theorem matches_live (f : Invocation host.toVocabulary) (i : Interceptor host.Routine) :
    Matches f (live i) (f.route.materialise i) := by
  intro p w
  rw [live_apply, Route.materialise]
  dsimp only
  rw [live?_carrying]
  cases f.route.known? p i.name with
  | some it => rfl
  | none =>
    dsimp only
    rcases host.make i.maker w with ⟨_ | _, _⟩ <;> rfl

/-- Whoever is live in an invocation was found or made on its route. -/
theorem materialise_of_live {f : Invocation host.toVocabulary} {i : Interceptor host.Routine}
    {w : host.World} {it : host.Live} {t : Invocation host.toVocabulary × host.World}
    (h : live i (f, w) = (.ok it, t)) :
    ∃ p, f.route.materialise i (f.passage, w) = (.ok it, p, t.2) ∧ t.1 = f.carrying p := by
  rcases hr : f.route.materialise i (f.passage, w) with ⟨outcome, p, w'⟩
  cases ((matches_live f i).of_passage hr).symm.trans h
  exact ⟨p, rfl, rfl⟩

theorem matches_reachEnding (f : Invocation host.toVocabulary) :
    Matches f reachEnding f.route.arrive := by
  intro p w
  rw [reachEnding_apply, Route.arrive]
  rcases f with ⟨_, _, _, _, _, _, _, _, _, ending⟩
  cases ending with
  | callbacks target operations =>
    dsimp only [carrying, route, Ending.goal, Ending.holding]
    rcases Effect.each _ operations w with ⟨_ | _, _⟩ <;> rfl
  | construct k earlier =>
    dsimp only [carrying, route, Ending.goal, Ending.holding]
    rcases host.construct k.routine p.parameters w with ⟨_ | _, _⟩ <;> rfl
  | call target method =>
    dsimp only [carrying, route, Ending.goal, Ending.holding]
    rcases host.call method.routine target p.parameters w with ⟨_ | _, _⟩ <;> rfl

/-- An interceptor's program keeps the frame, whatever it does, if proceeding keeps it. -/
theorem matches_run {α : Type} {f : Invocation host.toVocabulary}
    {proceed : Run host (Option host.Ref)} {rest : Trip host (Option host.Ref)}
    (h : Matches f proceed rest) (x : Advice host.toVocabulary host.World α) :
    ∀ p w, x.run proceed (f.carrying p, w) =
      ((f.route.follow rest x (p, w)).1, f.carrying (f.route.follow rest x (p, w)).2.1,
        (f.route.follow rest x (p, w)).2.2) := by
  induction x with
  | done a => exact fun p w => rfl
  | proceed next ih =>
    intro p w
    rw [Advice.run, Route.follow, h p w]
    exact ih _ _ _
  | observe next ih =>
    intro p w
    rw [Advice.run, Route.follow, view_carrying]
    exact ih _ p w
  | setParameters ps next ih =>
    intro p w
    rw [Advice.run, Route.follow, setParameters_carrying]
    exact ih _ _ w
  | setData data next ih => exact fun p w => ih { p with data := data } w
  | readWorld next ih => exact fun p w => ih w p w
  | writeWorld w' next ih => exact fun p w => ih p w'

theorem matches_around {f : Invocation host.toVocabulary} {proceed : Run host (Option host.Ref)}
    {rest : Trip host (Option host.Ref)}
    (h : Matches f.past proceed rest) (it : host.Live) :
    Matches f (around it proceed) (f.route.follow rest (host.intercept it f.phase)) := by
  intro p w
  have hrun := matches_run h (host.intercept it f.phase) p w
  rw [around_apply]
  exact congrArg (fun r => (r.1, { r.2.1 with cursor := r.2.1.cursor - 1 }, r.2.2)) hrun

/-- The interceptor at the cursor is materialised with the cursor still on it, so when that fails
    there is nothing to restore. -/
theorem matches_advance {f : Invocation host.toVocabulary} {i : Interceptor host.Routine}
    {rest : List (Interceptor host.Routine)} {proceed : Run host (Option host.Ref)}
    (hi : f.chain[f.cursor]? = some i)
    (h : Matches f.past proceed (f.route.run rest)) :
    Matches f (advance proceed) (f.route.run (i :: rest)) := by
  intro p w
  have hget : (f.carrying p).chain[(f.carrying p).cursor]? = some i := hi
  rw [advance_apply, Route.run]
  dsimp only
  rw [hget]
  dsimp only
  rw [matches_live f i p w]
  rcases f.route.materialise i (p, w) with ⟨_ | it, p, w⟩
  · rfl
  · exact matches_around h it p w

/-- A call opens, takes one step and closes; the depth is what it was before. -/
theorem enter_carrying {f : Invocation host.toVocabulary} {step : Run host (Option host.Ref)}
    {y : Trip host (Option host.Ref)} (hopen : f.status = .pending ∨ f.status = .running)
    (h : Matches f.entered step y) (p : Passage host.toVocabulary) (w : host.World) :
    enter step (f.carrying p, w) =
      ((y (p, w)).1, (f.settled (y (p, w)).1.isOk).carrying (y (p, w)).2.1, (y (p, w)).2.2) := by
  have hstep : step ((f.carrying p).entered, w) =
      ((y (p, w)).1, f.entered.carrying (y (p, w)).2.1, (y (p, w)).2.2) := h p w
  rw [enter_of_open hopen]
  dsimp only
  rw [hstep, left_entered_carrying]

/-! ## A whole call -/

/-- A call that enters `rest` of the chain gives what the recursion gives on `rest`; of the frame
    it touches the status alone, and that only if it is the outermost call. -/
theorem through_carrying (rest : List (Interceptor host.Routine)) :
    ∀ f : Invocation host.toVocabulary, f.status = .pending ∨ f.status = .running →
      f.rest = rest → ∀ p w,
      through rest.length (f.carrying p, w) =
        ((f.route.run rest (p, w)).1,
          (f.settled (f.route.run rest (p, w)).1.isOk).carrying (f.route.run rest (p, w)).2.1,
          (f.route.run rest (p, w)).2.2) := by
  induction rest with
  | nil => exact fun f hopen _ p w => enter_carrying hopen (matches_reachEnding f.entered) p w
  | cons i rest ih =>
    intro f hopen hrest p w
    obtain ⟨hi, hpast⟩ := rest_eq_cons (f := f.entered) hrest
    -- inside the interceptor the invocation runs and a call is open, so a nested call settles nothing
    have hnested : Matches f.entered.past (through rest.length) (f.route.run rest) := by
      intro p w
      have h := ih f.entered.past (Or.inr rfl) hpast p w
      rwa [settled_of_running rfl (Nat.succ_ne_zero _)] at h
    exact enter_carrying hopen (matches_advance hi hnested) p w

/-- Whoever calls an open invocation, and when, gets the recursion on what the cursor has left. -/
theorem proceed_carrying {f : Invocation host.toVocabulary}
    (hopen : f.status = .pending ∨ f.status = .running) (p : Passage host.toVocabulary)
    (w : host.World) :
    proceed (f.carrying p, w) =
      ((f.route.run f.rest (p, w)).1,
        (f.settled (f.route.run f.rest (p, w)).1.isOk).carrying (f.route.run f.rest (p, w)).2.1,
        (f.route.run f.rest (p, w)).2.2) := by
  have hlength : f.chain.length - f.cursor = f.rest.length := List.length_drop.symm
  show through (f.chain.length - f.cursor) (f.carrying p, w) = _
  rw [hlength]
  exact through_carrying f.rest f hopen rfl p w

theorem proceed_of_open {inv : Invocation host.toVocabulary}
    (hopen : inv.status = .pending ∨ inv.status = .running) (w : host.World) :
    proceed (inv, w) =
      ((inv.route.run inv.rest (inv.passage, w)).1,
        (inv.settled (inv.route.run inv.rest (inv.passage, w)).1.isOk).carrying
          (inv.route.run inv.rest (inv.passage, w)).2.1,
        (inv.route.run inv.rest (inv.passage, w)).2.2) := by
  have h := proceed_carrying hopen inv.passage w
  rwa [carrying_passage] at h

theorem proceed_of_start {inv : Invocation host.toVocabulary} (hpending : inv.status = .pending)
    (hcursor : inv.cursor = 0) (w : host.World) :
    proceed (inv, w) =
      ((inv.route.run inv.chain (inv.passage, w)).1,
        (inv.settled (inv.route.run inv.chain (inv.passage, w)).1.isOk).carrying
          (inv.route.run inv.chain (inv.passage, w)).2.1,
        (inv.route.run inv.chain (inv.passage, w)).2.2) := by
  have hrest : inv.rest = inv.chain := by rw [Invocation.rest, hcursor, List.drop_zero]
  have h := proceed_of_open (Or.inl hpending) w
  rwa [hrest] at h

/-- The callbacks of a phase, through their whole chain. -/
theorem lifecycle_during (phase : Phase) (target : host.Ref)
    (chain : List (Interceptor host.Routine)) (supplied : Option host.LiveSet)
    (callbacks : List (Operation host.Routine)) (w : host.World) :
    (lifecycle phase target chain supplied callbacks).during proceed w =
      let r := Route.run ⟨phase, supplied, .callbacks target callbacks⟩ chain (⟨∅, [], ∅, none⟩, w)
      (r.1, r.2.2) := by
  let inv : Invocation host.toVocabulary := lifecycle phase target chain supplied callbacks
  have hstart : proceed (inv, w) = _ := proceed_of_start rfl rfl w
  rw [during, hstart]
  rfl

/-- A whole chain, from the start, leads where it led before. -/
theorem goal_proceed {inv : Invocation host.toVocabulary} (hpending : inv.status = .pending)
    (hcursor : inv.cursor = 0) (w : host.World) :
    (proceed (inv, w)).2.1.ending.goal = inv.ending.goal := by
  rw [proceed_of_start hpending hcursor]
  exact goal_settled_carrying inv _ _

/-- Inside a call, `proceed` is what the rest of the chain means, and the frame stays. -/
theorem matches_proceed {f : Invocation host.toVocabulary} (hstatus : f.status = .running)
    (hdepth : f.depth ≠ 0) : Matches f proceed (f.route.run f.rest) := by
  intro p w
  rw [proceed_carrying (Or.inr hstatus), settled_of_running hstatus hdepth]

/-- One step with `proceed` nested in it matches the recursion too. -/
theorem matches_advance_proceed (f : Invocation host.toVocabulary) :
    Matches f.entered (advance proceed) (f.route.run f.rest) := by
  cases hrest : f.rest with
  | nil =>
    have hnone : f.chain[f.cursor]? = none := by
      rw [← List.head?_drop, ← Invocation.rest, hrest, List.head?_nil]
    intro p w
    have hget : (f.entered.carrying p).chain[(f.entered.carrying p).cursor]? = none := hnone
    rw [advance_apply]
    dsimp only
    rw [hget]
    exact matches_reachEnding f.entered p w
  | cons i rest =>
    obtain ⟨hi, hpast⟩ := rest_eq_cons (f := f.entered) hrest
    have hnested := matches_proceed (f := f.entered.past) rfl (Nat.succ_ne_zero _)
    rw [hpast] at hnested
    exact matches_advance hi hnested

/-- The count that `through` goes by is exact: what an interceptor proceeds into is `proceed`. -/
theorem proceed_eq_enter_advance :
    (proceed : Run host (Option host.Ref)) = enter (advance proceed) := by
  funext ⟨f, w⟩
  by_cases hopen : f.status = .pending ∨ f.status = .running
  · rw [← carrying_passage f, proceed_carrying hopen]
    exact (enter_carrying hopen (matches_advance_proceed f) _ w).symm
  · -- a finished invocation refuses the call before it takes any step
    have hover : f.status = .completed ∨ f.status = .failed := by
      cases h : f.status <;> simp_all
    show through (f.chain.length - f.cursor) (f, w) = _
    rcases hover with h | h
    · rw [enter, h]
      cases f.chain.length - f.cursor <;> rw [through, enter, h]
    · rw [enter, h]
      cases f.chain.length - f.cursor <;> rw [through, enter, h]

/-- **The cursor machine is the recursion on the chain.**
    1. `proceed` is its own recursion: it enters the interceptor at the cursor, for which proceeding
       is `proceed` again.
    2. A call from anywhere, at whatever cursor and depth, has the outcome and the world of `run` on
       what the cursor has left, carries the passage of `run` away (live interceptors, parameters,
       data, new instance), and gives cursor and depth back.
    3. So has a whole program inside an interceptor: each time it proceeds, it enters `run` on what
       its own place leaves, no matter what came of the times before.
    4. A pending invocation on a journaled host runs its whole chain, with the same outcome, passage
       and world, and with the same requests to the host in the same order. -/
theorem proceed_eq_run (host : Host) :
    (proceed : Run host (Option host.Ref)) = enter (advance proceed) ∧
    (∀ (inv : Invocation host.toVocabulary) (w : host.World),
      inv.status = .pending ∨ inv.status = .running →
        let machine := proceed (inv, w)
        let recursion := inv.route.run inv.rest (inv.passage, w)
        machine.1 = recursion.1 ∧ machine.2.2 = recursion.2.2 ∧
          machine.2.1 = (inv.settled recursion.1.isOk).carrying recursion.2.1 ∧
          machine.2.1.cursor = inv.cursor ∧ machine.2.1.depth = inv.depth) ∧
    (∀ {α : Type} (x : Advice host.toVocabulary host.World α) (inv : Invocation host.toVocabulary)
      (w : host.World), inv.status = .running → inv.depth ≠ 0 →
        let machine := x.run proceed (inv, w)
        let recursion := inv.route.follow (inv.route.run inv.rest) x (inv.passage, w)
        machine.1 = recursion.1 ∧ machine.2.2 = recursion.2.2 ∧
          machine.2.1 = inv.carrying recursion.2.1) ∧
    ∀ (inv : Invocation host.toVocabulary) (w : host.World) (log : Journal host.toVocabulary),
      inv.status = .pending → inv.cursor = 0 →
        let machine := @proceed host.journaled (inv, w, log)
        let recursion := @Route.run host.journaled inv.route inv.chain (inv.passage, w, log)
        machine.1 = recursion.1 ∧ machine.2.2.1 = recursion.2.2.1 ∧
          machine.2.2.2 = recursion.2.2.2 ∧
          machine.2.1 = (inv.settled recursion.1.isOk).carrying recursion.2.1 := by
  refine ⟨proceed_eq_enter_advance, ?_, ?_, ?_⟩
  · intro inv w hopen machine recursion
    have h : machine = (recursion.1, (inv.settled recursion.1.isOk).carrying recursion.2.1,
        recursion.2.2) := proceed_of_open hopen w
    rw [h]
    exact ⟨rfl, rfl, rfl, cursor_settled inv _, depth_settled inv _⟩
  · intro α x inv w hstatus hdepth machine recursion
    have h : machine = (recursion.1, inv.carrying recursion.2.1, recursion.2.2) := by
      have := matches_run (matches_proceed hstatus hdepth) x inv.passage w
      rwa [carrying_passage] at this
    rw [h]
    exact ⟨rfl, rfl, rfl⟩
  · intro inv w log hpending hcursor machine recursion
    have h : machine = (recursion.1, (inv.settled recursion.1.isOk).carrying recursion.2.1,
        recursion.2.2) := @proceed_of_start host.journaled inv hpending hcursor (w, log)
    rw [h]
    exact ⟨rfl, rfl, rfl, rfl⟩

/-- A chain whose first interceptor proceeds twice, around one that proceeds once, around a
    constructor that fails. -/
theorem proceed_eq_run_twice :
    let chain : List (Interceptor Nat) :=
      [⟨"twice", .environment, [], 2⟩, ⟨"once", .environment, [], 4⟩]
    let inv : Invocation Host.numbers.toVocabulary :=
      construction chain none ⟨⟨⟨"Account", "new"⟩, (9 : Nat)⟩, 0⟩ []
    inv.status = .pending ∧ inv.cursor = 0 ∧
      (@Route.run Host.numbers.journaled inv.route chain (inv.passage, [], [])).2.2.1 =
        ([2, 4, 9, 9] : List Nat) ∧
      (@proceed Host.numbers.journaled (inv, [], [])).2.2.1 =
        (@Route.run Host.numbers.journaled inv.route chain (inv.passage, [], [])).2.2.1 := by
  intro chain inv
  refine ⟨rfl, rfl, by rfl, ?_⟩
  exact ((proceed_eq_run Host.numbers).2.2.2 inv [] [] rfl rfl).2.1

end Invocation

end Wiring
