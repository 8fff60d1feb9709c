/-
  `Reference V` — what components, callbacks and interceptors hand to one another.

  A reference is an object of the host, or stands for one: an intercepted reference carries the
  real instance, the live interceptors made for it and its business methods with their chains; a
  scoped reference names a scope that can say which instance is meant at the moment.

  The host's own types are the fields of `Vocabulary`.  Chains and methods inside a reference are
  descriptions, with routine codes in them and not functions, so references are plain data.
-/
import Wiring.Component.Parts
import Wiring.Interceptor
import Wiring.Table
import Wiring.Failure

namespace Wiring

/-- `Vocabulary` — the types that the host brings along. -/
structure Vocabulary where
  /-- Objects and values of the host. -/
  Value : Type
  /-- Codes of setters, methods, constructors, callbacks, makers and suppliers. -/
  Routine : Type
  /-- Interceptors that have been made. -/
  Live : Type
  /-- Scopes that know a current instance. -/
  Scope : Type

/-- `Guarded ρ` — a business method and the chain around it. -/
structure Guarded (ρ : Type) where
  method : Operation ρ
  chain : List (Interceptor ρ)

/-- `Proxy V R` — the real instance of a component, of type `R`, and what surrounds it for as long
    as it lives. -/
structure Proxy (V : Vocabulary) (R : Type) where
  component : String
  target : R
  interceptors : Table String V.Live
  methods : Table String (Guarded V.Routine)

/-- `Reference V` — an object of the host, or a proxy for one. -/
inductive Reference (V : Vocabulary) where
  | plain (value : V.Value)
  | intercepted (proxy : Proxy V (Reference V))
  | scoped (scope : V.Scope)

namespace Reference

variable {V : Vocabulary}

/-- `r.value?` — the object itself, if `r` is no proxy. -/
def value? : Reference V → Option V.Value
  | plain value => some value
  | _ => none

/-- `r.proxy?` — the interception state of `r`, if it has any. -/
def proxy? : Reference V → Option (Proxy V (Reference V))
  | intercepted proxy => some proxy
  | _ => none

end Reference

/-- `TypeTag V α` — a type of values that a receiver asks for: its name, and how to read it. -/
structure TypeTag (V : Vocabulary) (α : Type) where
  name : String
  read? : V.Value → Option α

/-- `tag.read r` — the value of `r` at the tag's type; proxies are of no type that can be asked
    for. -/
def TypeTag.read {V : Vocabulary} {α : Type} (tag : TypeTag V α) (r : Reference V) :
    Except Failure α :=
  match r.value?.bind tag.read? with
  | some a => .ok a
  | none => .error (.incompatible tag.name)

end Wiring
