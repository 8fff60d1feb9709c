/-
  `Host` — the world that components live in: its types, and what its routines do there.

  The engine never looks into a routine.  It asks the host to run one, in an order that the engine
  decides, and takes whatever comes back: a value, or a failure of the host's own choosing.
-/
import Wiring.Advice
import Wiring.Effect

namespace Wiring

/-- `Host` — a vocabulary with a world, and the meaning of routines, scopes and live interceptors
    in it. -/
structure Host extends Vocabulary where
  World : Type
  /-- The result of a business call that was cut short without one. -/
  unit : Value
  /-- Set a field of a receiver. -/
  assign : Routine → (receiver value : Reference toVocabulary) → Effect World Unit
  /-- Call an injected method or an initializer. -/
  perform : Routine → (receiver : Reference toVocabulary) → List (Reference toVocabulary) →
    Effect World Unit
  /-- Make an instance. -/
  construct : Routine → List (Reference toVocabulary) → Effect World (Reference toVocabulary)
  /-- Call a lifecycle callback. -/
  notify : Routine → (receiver : Reference toVocabulary) → Effect World Unit
  /-- Call a business method. -/
  call : Routine → (receiver : Reference toVocabulary) → List (Reference toVocabulary) →
    Effect World (Reference toVocabulary)
  /-- Supply platform resources to an instance. -/
  supply : Routine → (receiver : Reference toVocabulary) → Effect World Unit
  /-- Make a live interceptor. -/
  make : Routine → Effect World Live
  /-- What a live interceptor does around a phase. -/
  intercept : Live → Phase →
    Advice toVocabulary World (Except Failure (Option (Reference toVocabulary)))
  /-- The current instance of a scope. -/
  contextual : Scope → Effect World (Reference toVocabulary)

namespace Host

/-- `host.Ref` — references of the host. -/
abbrev Ref (host : Host) : Type := Reference host.toVocabulary

/-- `host.LiveSet` — live interceptors by name: those made for one object. -/
abbrev LiveSet (host : Host) : Type := Table String host.Live

/-- `host.enlist i` — a new live interceptor `i`; a failure names the interceptor. -/
def enlist (host : Host) (i : Interceptor host.Routine) : Effect host.World host.Live :=
  (host.make i.maker).blaming (.interceptorCreation i.name)

end Host

end Wiring
