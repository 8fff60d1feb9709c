/-
  Chains with and without interceptors that only pass on.

  1. `Thinned live unseen chain chain'` — `chain'` is `chain` without some of those that are received
     by an unseen live interceptor.
  2. On the recursion an interceptor that passes on is the rest of its chain, so a thinned chain is
     run as the whole one (`run_thinned`).  That there are fewer places for the cursor to be at, and
     fewer calls open at a time, cannot be seen there.
  3. The machine does what the recursion does, so a call through it leaves an invocation that differs
     in its chain alone (`proceed_rechained`).
  4. `host.overlooking unseen` is a journaled host that does not write down the unseen ones.  They
     pass on there too, so both chains have one journal on it.
-/
import Wiring.Proofs.Invocation.Served

namespace Wiring

/-- `Thinned live unseen chain chain'` — `chain'` is left of `chain` when some of the interceptors are
    deleted that are unseen under their names in `live`. -/
inductive Thinned {V : Vocabulary} (live : Table String V.Live) (unseen : V.Live → Bool) :
    List (Interceptor V.Routine) → List (Interceptor V.Routine) → Prop where
  | nil : Thinned live unseen [] []
  | kept {i chain chain'} (h : Thinned live unseen chain chain') :
    Thinned live unseen (i :: chain) (i :: chain')
  | deleted {i it chain chain'} (hit : live.get? i.name = some it) (hunseen : unseen it = true)
    (h : Thinned live unseen chain chain') : Thinned live unseen (i :: chain) chain'

variable {host : Host}

/-- `host.PassesOn unseen` — the unseen live interceptors proceed once in every phase, and return what
    comes of it. -/
def Host.PassesOn (host : Host) (unseen : host.Live → Bool) : Prop :=
  ∀ it, unseen it = true → ∀ phase, host.intercept it phase = .passThrough

/-- `Event.overlooker V unseen` — every request is noted, but nothing of the unseen live interceptors:
    neither that they are entered nor that they are left. -/
def Event.overlooker (V : Vocabulary) (unseen : V.Live → Bool) : Recorder V (Event V) :=
  { Event.recorder V with
    entered := fun it phase => if unseen it then none else some (.entered it phase)
    left := fun it phase outcome => if unseen it then none else some (.left it phase outcome) }

/-- `host.overlooking unseen` — `host` with a journal of everything that it is asked to do, but for
    what the unseen live interceptors are asked. -/
def Host.overlooking (host : Host) (unseen : host.Live → Bool) : Host :=
  host.recording (Event.overlooker host.toVocabulary unseen)

theorem Host.PassesOn.overlooking {unseen : host.Live → Bool} (h : host.PassesOn unseen) :
    (host.overlooking unseen).PassesOn unseen := by
  intro it hit phase
  have hprogram : (host.overlooking unseen).intercept it phase = _ :=
    intercept_recording (if_pos hit) fun _ => if_pos hit
  rw [hprogram, h it hit phase]
  rfl

/-- A thinned chain is run as the whole one, if it was supplied with the live interceptors. -/
theorem Route.run_thinned {unseen : host.Live → Bool} (hunseen : host.PassesOn unseen)
    {live : host.LiveSet} {r : Route host.toVocabulary} (hsupplied : r.supplied = some live)
    {chain chain' : List (Interceptor host.Routine)} (h : Thinned live unseen chain chain') :
    r.run chain' = r.run chain := by
  induction h with
  | nil => rfl
  | kept _ ih => rw [run, run, ih]
  | @deleted i it chain chain' hit hit' _ ih =>
    funext s
    rw [ih, run_of_live (materialise_of_supplied hsupplied hit s), hunseen it hit' r.phase]
    rfl

namespace Invocation

/-- `inv.rechained chain` — `inv` with another chain. -/
def rechained {V : Vocabulary} (inv : Invocation V) (chain : List (Interceptor V.Routine)) :
    Invocation V := { inv with chain := chain }

theorem settled_rechained {V : Vocabulary} (inv : Invocation V)
    (chain : List (Interceptor V.Routine)) (ok : Bool) :
    (inv.rechained chain).settled ok = (inv.settled ok).rechained chain := by
  show (if inv.depth = 0 then _ else _) = _
  rw [settled]
  split
  · rfl
  · rfl

/-- `SameRechained x inv chain w` — with another chain, `x` does the same and leaves the same. -/
def SameRechained {α : Type} (x : Run host α) (inv : Invocation host.toVocabulary)
    (chain : List (Interceptor host.Routine)) (w : host.World) : Prop :=
  x (inv.rechained chain, w) =
    ((x (inv, w)).1, (x (inv, w)).2.1.rechained chain, (x (inv, w)).2.2)

namespace SameRechained

variable {α β : Type} {x : Run host α} {inv : Invocation host.toVocabulary}
  {chain : List (Interceptor host.Routine)} {w : host.World}

theorem bind {k : α → Run host β} (h : SameRechained x inv chain w)
    (hk : ∀ a inv w, SameRechained (k a) inv chain w) : SameRechained (x >>= k) inv chain w := by
  rw [SameRechained, Effect.bind_apply, Effect.bind_apply, h]
  rcases hx : x (inv, w) with ⟨f | a, inv', w'⟩
  · rfl
  · exact hk a inv' w'

theorem during (h : SameRechained x inv chain w) :
    (inv.rechained chain).during x w = inv.during x w := by
  rw [Invocation.during, Invocation.during, h]

end SameRechained

/-- Reaching the end of a chain has nothing to do with the chain. -/
theorem reachEnding_rechained (inv : Invocation host.toVocabulary)
    (chain : List (Interceptor host.Routine)) (w : host.World) :
    SameRechained reachEnding inv chain w := by
  rcases inv with ⟨_, _, _, _, _, _, _, parameters, _, ending⟩
  rw [SameRechained, reachEnding_apply, reachEnding_apply]
  cases ending with
  | callbacks target operations =>
    dsimp only [rechained]
    rcases Effect.each _ operations w with ⟨_ | _, _⟩ <;> rfl
  | construct k earlier =>
    dsimp only [rechained]
    rcases host.construct k.routine parameters w with ⟨_ | _, _⟩ <;> rfl
  | call target method =>
    dsimp only [rechained]
    rcases host.call method.routine target parameters w with ⟨_ | _, _⟩ <;> rfl

theorem proceedDirectly_rechained (inv : Invocation host.toVocabulary)
    (chain : List (Interceptor host.Routine)) (w : host.World) :
    SameRechained proceedDirectly inv chain w := by
  have hending : reachEnding (inv.rechained chain, w) = _ := reachEnding_rechained inv chain w
  rw [SameRechained, proceedDirectly, proceedDirectly]
  by_cases hfailed : inv.status = .failed
  · rw [if_pos hfailed, if_pos (show (inv.rechained chain).status = .failed from hfailed)]
    rfl
  · rw [if_neg hfailed, if_neg (show ¬ (inv.rechained chain).status = .failed from hfailed), hending]
    rcases reachEnding (inv, w) with ⟨outcome, inv', w'⟩
    dsimp only
    by_cases hdepth : inv'.depth = 0
    · rw [if_pos hdepth, if_pos (show (inv'.rechained chain).depth = 0 from hdepth)]
      rfl
    · rw [if_neg hdepth, if_neg (show ¬ (inv'.rechained chain).depth = 0 from hdepth)]

theorem takeNewInstance_rechained (inv : Invocation host.toVocabulary)
    (chain : List (Interceptor host.Routine)) (w : host.World) :
    SameRechained takeNewInstance inv chain w := by
  rcases inv with ⟨_, _, _, _, _, _, _, _, _, ending⟩
  cases ending <;> rfl

/-- A call from the start of a chain gives the same through a thinned one, whatever the status of the
    invocation. -/
theorem proceed_rechained {unseen : host.Live → Bool} (hunseen : host.PassesOn unseen)
    {live : host.LiveSet} {inv : Invocation host.toVocabulary} (hsupplied : inv.supplied = some live)
    (hcursor : inv.cursor = 0) {chain : List (Interceptor host.Routine)}
    (h : Thinned live unseen inv.chain chain) (w : host.World) :
    SameRechained proceed inv chain w := by
  rw [SameRechained]
  by_cases hopen : inv.status = .pending ∨ inv.status = .running
  · have hrest : ∀ inv' : Invocation host.toVocabulary, inv'.cursor = 0 → inv'.rest = inv'.chain :=
      fun inv' hcursor => by rw [Invocation.rest, hcursor, List.drop_zero]
    have hroute : (inv.rechained chain).route = inv.route := rfl
    have hrun : inv.route.run chain = inv.route.run inv.chain :=
      Route.run_thinned hunseen (r := inv.route) hsupplied h
    have hopen' : (inv.rechained chain).status = .pending ∨
      (inv.rechained chain).status = .running := hopen
    rw [proceed_of_open hopen, proceed_of_open hopen',
      hrest inv hcursor, hrest (inv.rechained chain) hcursor, hroute, settled_rechained]
    show (((inv.route.run chain) (inv.passage, w)).1, _, _) = _
    rw [show (inv.rechained chain).chain = chain from rfl, hrun]
    rfl
  · -- a finished invocation refuses the call before it looks at its chain
    have hover : inv.status = .completed ∨ inv.status = .failed := by
      cases h : inv.status <;> simp_all
    have hstatus : (inv.rechained chain).status = inv.status := rfl
    rw [proceed_eq_enter_advance, enter, enter, hstatus]
    rcases hover with h | h <;> rw [h] <;> rfl

end Invocation

end Wiring
