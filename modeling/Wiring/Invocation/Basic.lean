/-
  `Invocation V` — one pass through a chain of interceptors, towards the step at its end.

  An invocation is pending until it is first entered, running inside, and completed or failed once
  the outermost call has returned.  `cursor` counts the interceptors that are active: each of them
  proceeds into the next one, and when it returns the cursor returns with it, so it may proceed
  again.  `depth` counts the calls that are open.
-/
import Wiring.Advice
import Wiring.Component.Parts

namespace Wiring

/-- `Ending V` — the step at the end of a chain. -/
inductive Ending (V : Vocabulary) where
  /-- Lifecycle callbacks, one after the other, on the target. -/
  | callbacks (target : Reference V) (operations : List (Operation V.Routine))
  /-- A constructor call; `made` is the latest instance that has not been taken. -/
  | construct (constructor : Constructor V.Routine) (made : Option (Reference V))
  /-- A business call on the target. -/
  | call (target : Reference V) (method : Operation V.Routine)

namespace Ending

variable {V : Vocabulary}

/-- `e.target?` — the target, which a construction has once there is an instance. -/
def target? : Ending V → Option (Reference V)
  | callbacks target _ | call target _ => some target
  | construct _ made => made

/-- `e.member?` — the constructor or business method that is called. -/
def member? : Ending V → Option Member
  | callbacks _ _ => none
  | construct k _ => some k.member
  | call _ method => some method.member

/-- `e.takesParameters` — whether the step is called with parameters. -/
def takesParameters : Ending V → Bool
  | callbacks _ _ => false
  | construct _ _ | call _ _ => true

end Ending

/-- `Invocation V` — the state of one pass through a chain. -/
structure Invocation (V : Vocabulary) where
  phase : Phase
  chain : List (Interceptor V.Routine)
  /-- Live interceptors that were made beforehand, if any were. -/
  supplied : Option (Table String V.Live)
  /-- Live interceptors made during this invocation. -/
  created : Table String V.Live := ∅
  /-- How many interceptors of the chain are active. -/
  cursor : Nat := 0
  /-- How many calls are open. -/
  depth : Nat := 0
  status : Status := .pending
  parameters : List (Reference V) := []
  /-- What the interceptors share. -/
  data : Table String (Reference V) := ∅
  ending : Ending V

namespace Invocation

variable {V : Vocabulary}

/-! ## New invocations -/

/-- `lifecycle phase target chain supplied callbacks` — the callbacks of a lifecycle phase. -/
def lifecycle (phase : Phase) (target : Reference V) (chain : List (Interceptor V.Routine))
    (supplied : Option (Table String V.Live)) (callbacks : List (Operation V.Routine)) :
    Invocation V where
  phase := phase
  chain := chain
  supplied := supplied
  ending := .callbacks target callbacks

/-- `construction chain supplied k parameters` — a call of constructor `k`. -/
def construction (chain : List (Interceptor V.Routine)) (supplied : Option (Table String V.Live))
    (k : Constructor V.Routine) (parameters : List (Reference V)) : Invocation V where
  phase := .aroundConstruct
  chain := chain
  supplied := supplied
  parameters := parameters
  ending := .construct k none

/-- `business target method chain supplied parameters` — a call of a business method. -/
def business (target : Reference V) (method : Operation V.Routine)
    (chain : List (Interceptor V.Routine)) (supplied : Option (Table String V.Live))
    (parameters : List (Reference V)) : Invocation V where
  phase := .aroundInvoke
  chain := chain
  supplied := supplied
  parameters := parameters
  ending := .call target method

/-! ## Reading and changing the state -/

/-- `inv.view` — what an interceptor sees. -/
def view (inv : Invocation V) : View V where
  phase := inv.phase
  target := inv.ending.target?
  member := inv.ending.member?
  parameters := inv.parameters
  data := inv.data

/-- `inv.live? name` — the live interceptor that answers to `name`: a supplied one before one
    made here. -/
def live? (inv : Invocation V) (name : String) : Option V.Live :=
  inv.supplied.bind (·.get? name) <|> inv.created.get? name

/-- `inv.enlisted name live` — `live` was made here under `name`. -/
def enlisted (inv : Invocation V) (name : String) (live : V.Live) : Invocation V :=
  { inv with created := inv.created.insert name live }

/-- `inv.setParameters ps` — new parameters must be as many as the current ones, and a lifecycle
    phase takes none at all. -/
def setParameters (inv : Invocation V) (ps : List (Reference V)) :
    Except Failure Unit × Invocation V :=
  if !inv.ending.takesParameters then (.error (.parametersNotSupported inv.phase), inv)
  else if ps.length ≠ inv.parameters.length then
    (.error (.parameterCountMismatch inv.parameters.length ps.length), inv)
  else (.ok (), { inv with parameters := ps })

/-- `inv.takeMade` — the instance made by the constructor, which is handed out once. -/
def takeMade (inv : Invocation V) : Option (Reference V) × Invocation V :=
  match inv.ending with
  | .construct k made => (made, { inv with ending := .construct k none })
  | _ => (none, inv)

/-- `inv.filled made` — the constructor has made an instance. -/
def filled (inv : Invocation V) (made : Reference V) : Invocation V :=
  match inv.ending with
  | .construct k _ => { inv with ending := .construct k (some made) }
  | _ => inv

/-- `inv.finished ok` — the outermost call has returned. -/
def finished (inv : Invocation V) (ok : Bool) : Invocation V :=
  { inv with status := if ok then .completed else .failed }

/-- `inv.entered` — one more call is open. -/
def entered (inv : Invocation V) : Invocation V :=
  { inv with status := .running, depth := inv.depth + 1 }

/-- `inv.left ok` — one call fewer is open; the last one to close finishes the invocation. -/
def left (inv : Invocation V) (ok : Bool) : Invocation V :=
  let inv := { inv with depth := inv.depth - 1 }
  if inv.depth = 0 then inv.finished ok else inv

end Invocation

end Wiring
