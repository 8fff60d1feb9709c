/-
  `Route V` — a chain of interceptors read as a recursion, without a cursor.

  1. A `Route` is what one pass through a chain cannot change: the phase, the live interceptors
     that were supplied, and the goal.  A `Passage` is what it can change and what is seen
     afterwards: the live interceptors it made, the parameters, the shared data, the new instance.
  2. `run chain` is the meaning of a chain.  The empty chain arrives at the goal; an interceptor
     followed by `rest` is looked up or made, and runs with `proceed` standing for `run rest`.
  3. There is no count of active interceptors or open calls here, and no status: what an
     interceptor proceeds into is decided by its place in the list and by nothing else.
  4. What comes of a step is said in terms of what came of the host's part in it
     (`materialise_of_make`, `arrive_of_construct`, `run_of_live`); a course to which all the steps of
     a pass keep is one that the whole pass keeps to (`rel_run`).
-/
import Wiring.Host
import Wiring.Proofs.Effect.Course

namespace Wiring

/-- `Goal V` — the step that a chain leads to. -/
inductive Goal (V : Vocabulary) where
  | callbacks (target : Reference V) (operations : List (Operation V.Routine))
  | construct (constructor : Constructor V.Routine)
  | call (target : Reference V) (method : Operation V.Routine)

/-- `Route V` — the phase of a chain, what it was supplied with, and where it leads. -/
structure Route (V : Vocabulary) where
  phase : Phase
  supplied : Option (Table String V.Live)
  goal : Goal V

/-- `Passage V` — what a pass through a chain leaves to those who come after. -/
structure Passage (V : Vocabulary) where
  /-- Live interceptors that had to be made. -/
  created : Table String V.Live
  parameters : List (Reference V)
  data : Table String (Reference V)
  /-- The new instance, if the goal has made one. -/
  made : Option (Reference V)

/-- `Trip host α` — an effect on a passage and the host's world. -/
abbrev Trip (host : Host) (α : Type) : Type :=
  Effect (Passage host.toVocabulary × host.World) α

namespace Route

variable {host : Host}

/-- `r.view p` — what an interceptor sees. -/
def view {V : Vocabulary} (r : Route V) (p : Passage V) : View V where
  phase := r.phase
  target := match r.goal with
    | .callbacks target _ | .call target _ => some target
    | .construct _ => p.made
  member := match r.goal with
    | .callbacks _ _ => none
    | .construct k => some k.member
    | .call _ method => some method.member
  parameters := p.parameters
  data := p.data

/-- `r.replace p ps` — the parameters become `ps`, if the goal takes that many. -/
def replace {V : Vocabulary} (r : Route V) (p : Passage V) (ps : List (Reference V)) :
    Except Failure Unit × Passage V :=
  match r.goal with
  | .callbacks _ _ => (.error (.parametersNotSupported r.phase), p)
  | .construct _ | .call _ _ =>
    if ps.length = p.parameters.length then (.ok (), { p with parameters := ps })
    else (.error (.parameterCountMismatch p.parameters.length ps.length), p)

/-- `r.known? p name` — the live interceptor that answers to `name`: a supplied one, and only if
    there is none, one made on this pass. -/
def known? {V : Vocabulary} (r : Route V) (p : Passage V) (name : String) : Option V.Live :=
  match r.supplied with
  | none => p.created.get? name
  | some supplied =>
    match supplied.get? name with
    | some it => some it
    | none => p.created.get? name

/-- `r.materialise i` — the live interceptor that answers to the name of `i`, made if there is none
    yet; what could not be made is not remembered. -/
def materialise (r : Route host.toVocabulary) (i : Interceptor host.Routine) :
    Trip host host.Live := fun (p, w) =>
  match r.known? p i.name with
  | some it => (.ok it, p, w)
  | none =>
    match host.make i.maker w with
    | (.ok it, w) => (.ok it, { p with created := p.created.insert i.name it }, w)
    | (.error f, w) => (.error (.interceptorCreation i.name f), p, w)

/-- `r.arrive` — the step at the goal. -/
def arrive (r : Route host.toVocabulary) : Trip host (Option host.Ref) := fun (p, w) =>
  match r.goal with
  | .callbacks target operations =>
    match Effect.each (fun op => host.notify op.routine target) operations w with
    | (.ok _, w) => (.ok none, p, w)
    | (.error f, w) => (.error f, p, w)
  | .construct k =>
    match host.construct k.routine p.parameters w with
    | (.ok made, w) => (.ok none, { p with made := some made }, w)
    | (.error f, w) => (.error f, p, w)
  | .call target method =>
    match host.call method.routine target p.parameters w with
    | (.ok result, w) => (.ok (some result), p, w)
    | (.error f, w) => (.error f, p, w)

/-- `r.follow rest x` — the program of an interceptor, for which proceeding means `rest`. -/
def follow {α : Type} (r : Route host.toVocabulary) (rest : Trip host (Option host.Ref)) :
    Advice host.toVocabulary host.World α →
      Passage host.toVocabulary × host.World → α × Passage host.toVocabulary × host.World
  | .done a, s => (a, s)
  | .proceed next, s => r.follow rest (next (rest s).1) (rest s).2
  | .observe next, s => r.follow rest (next (r.view s.1)) s
  | .setParameters ps next, s =>
    r.follow rest (next (r.replace s.1 ps).1) ((r.replace s.1 ps).2, s.2)
  | .setData data next, s => r.follow rest next ({ s.1 with data := data }, s.2)
  | .readWorld next, s => r.follow rest (next s.2) s
  | .writeWorld w next, s => r.follow rest next (s.1, w)

/-- `r.run chain` — the interceptors of `chain`, each around all that come after it, and the goal
    inside them. -/
def run (r : Route host.toVocabulary) :
    List (Interceptor host.Routine) → Trip host (Option host.Ref)
  | [] => r.arrive
  | i :: rest => fun s =>
    match r.materialise i s with
    | (.ok it, s) => r.follow (r.run rest) (host.intercept it r.phase) s
    | (.error f, s) => (.error f, s)

/-! ## What comes of a step -/

variable {r : Route host.toVocabulary} {p : Passage host.toVocabulary} {w w' : host.World}

theorem materialise_of_known {i : Interceptor host.Routine} {it : host.Live}
    (h : r.known? p i.name = some it) : r.materialise i (p, w) = (.ok it, p, w) := by
  rw [materialise, h]

theorem materialise_of_make {i : Interceptor host.Routine} (h : r.known? p i.name = none)
    {outcome : Except Failure host.Live} (hmake : host.make i.maker w = (outcome, w')) :
    r.materialise i (p, w) = (outcome.mapError (.interceptorCreation i.name),
      { p with created := (outcome.toOption.map (p.created.insert i.name)).getD p.created }, w') := by
  rw [materialise, h]
  dsimp only
  rw [hmake]
  cases outcome <;> rfl

theorem arrive_of_each {target : host.Ref} {operations : List (Operation host.Routine)}
    (hgoal : r.goal = .callbacks target operations) {outcome : Except Failure Unit}
    (heach : Effect.each (fun op => host.notify op.routine target) operations w = (outcome, w')) :
    r.arrive (p, w) = (outcome.map fun _ => none, p, w') := by
  rw [arrive, hgoal]
  dsimp only
  rw [heach]
  cases outcome <;> rfl

theorem arrive_of_construct {k : Constructor host.Routine} (hgoal : r.goal = .construct k)
    {outcome : Except Failure host.Ref}
    (hconstruct : host.construct k.routine p.parameters w = (outcome, w')) :
    r.arrive (p, w) =
      (outcome.map fun _ => none, { p with made := outcome.toOption <|> p.made }, w') := by
  rw [arrive, hgoal]
  dsimp only
  rw [hconstruct]
  cases outcome <;> rfl

theorem arrive_of_call {target : host.Ref} {method : Operation host.Routine}
    (hgoal : r.goal = .call target method) {outcome : Except Failure host.Ref}
    (hcall : host.call method.routine target p.parameters w = (outcome, w')) :
    r.arrive (p, w) = (outcome.map some, p, w') := by
  rw [arrive, hgoal]
  dsimp only
  rw [hcall]
  cases outcome <;> rfl

theorem run_of_unmade {i : Interceptor host.Routine} {rest : List (Interceptor host.Routine)}
    {s t : Passage host.toVocabulary × host.World} {f : Failure}
    (h : r.materialise i s = (.error f, t)) : r.run (i :: rest) s = (.error f, t) := by
  rw [run]
  dsimp only
  rw [h]

theorem run_of_live {i : Interceptor host.Routine} {rest : List (Interceptor host.Routine)}
    {s t : Passage host.toVocabulary × host.World} {it : host.Live}
    (h : r.materialise i s = (.ok it, t)) :
    r.run (i :: rest) s = r.follow (r.run rest) (host.intercept it r.phase) t := by
  rw [run]
  dsimp only
  rw [h]

/-- A whole pass keeps to a course, if reaching the goal does, finding or making an interceptor does,
    and an interceptor does around all that does. -/
theorem rel_run {ℓ : Type} {R : Course (Passage host.toVocabulary × host.World) ℓ}
    (harrive : ∀ s, R.rel [] s (r.arrive s).2)
    (hmaterialise : ∀ i s, R.rel [] s (r.materialise i s).2)
    (hintercept : ∀ {rest : Trip host (Option host.Ref)}, (∀ s, R.rel [] s (rest s).2) →
      ∀ it s, R.rel [] s (r.follow rest (host.intercept it r.phase) s).2)
    (chain : List (Interceptor host.Routine)) : ∀ s, R.rel [] s (r.run chain s).2 := by
  induction chain with
  | nil => exact harrive
  | cons i rest ih =>
    intro s
    have hfind := hmaterialise i s
    rcases hr : r.materialise i s with ⟨f | it, t⟩
    · rw [hr] at hfind
      rw [run_of_unmade hr]
      exact hfind
    · rw [hr] at hfind
      rw [run_of_live hr]
      exact R.trans hfind (hintercept ih it t)

end Route

end Wiring
