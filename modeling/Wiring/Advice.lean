/-
  `Advice V W α` — what an interceptor does between being entered and returning, as a program.

  An interceptor sees one invocation through a narrow window: it may look at it, replace its
  parameters and its shared data, let it proceed any number of times, and touch the world `W`
  around it.  Each of these is a request with the rest of the program behind it, so every
  behaviour is a finite tree that can be run, and reasoned about, by recursion on it.
-/
import Wiring.Reference

namespace Wiring

/-- `View V` — an invocation as an interceptor sees it. -/
structure View (V : Vocabulary) where
  phase : Phase
  /-- The target; during construction only once there is an instance. -/
  target : Option (Reference V)
  /-- The intercepted constructor or business method; lifecycle phases have none. -/
  member : Option Member
  parameters : List (Reference V)
  /-- What the interceptors of this invocation share. -/
  data : Table String (Reference V)

/-- `Advice V W α` — a program of requests that ends in an `α`. -/
inductive Advice (V : Vocabulary) (W α : Type) where
  | done (result : α)
  /-- Run the rest of the chain and go on with its outcome. -/
  | proceed (next : Except Failure (Option (Reference V)) → Advice V W α)
  | observe (next : View V → Advice V W α)
  /-- Replace the parameters, or learn why that is refused. -/
  | setParameters (parameters : List (Reference V)) (next : Except Failure Unit → Advice V W α)
  | setData (data : Table String (Reference V)) (next : Advice V W α)
  | readWorld (next : W → Advice V W α)
  | writeWorld (world : W) (next : Advice V W α)

namespace Advice

variable {V : Vocabulary} {W α β : Type}

/-- `x.andThen k` — `x`, then `k` on its result. -/
def andThen : Advice V W α → (α → Advice V W β) → Advice V W β
  | done a, k => k a
  | proceed next, k => proceed fun r => (next r).andThen k
  | observe next, k => observe fun v => (next v).andThen k
  | setParameters ps next, k => setParameters ps fun r => (next r).andThen k
  | setData d next, k => setData d (next.andThen k)
  | readWorld next, k => readWorld fun w => (next w).andThen k
  | writeWorld w next, k => writeWorld w (next.andThen k)

instance : Monad (Advice V W) where
  pure := done
  bind := andThen

/-- `passThrough` — proceed once and return what comes back. -/
def passThrough : Advice V W (Except Failure (Option (Reference V))) := proceed done

end Advice

end Wiring
