/-
  `Declarations ρ` — every interceptor declared for a component.

  The binding interceptors of the class itself are handed out once: whoever takes them leaves
  `none` behind, and a second taker can tell.  All other sources can be read any number of times.
-/
import Wiring.Table
import Wiring.Member
import Wiring.Interceptor

namespace Wiring

/-- `Declarations ρ` — the interceptor sources of a component. -/
structure Declarations (ρ : Type) where
  /-- Class-level interceptors listed by the environment. -/
  environment : List (Interceptor ρ) := []
  /-- Class-level interceptors bound by markers, until they are taken. -/
  classBinding : Option (List (Interceptor ρ)) := some []
  /-- Environment interceptors of single constructors. -/
  constructorEnvironment : Table Member (List (Interceptor ρ)) := ∅
  /-- Interceptors bound by markers on construction. -/
  constructorBinding : List (Interceptor ρ) := []
  /-- The sources of single business methods. -/
  business : Table String (Sources ρ) := ∅

namespace Declarations

variable {ρ : Type}

instance : Inhabited (Declarations ρ) := ⟨{}⟩

/-- `d.environmentOf m` — the environment interceptors of constructor `m`. -/
def environmentOf (d : Declarations ρ) (m : Member) : List (Interceptor ρ) :=
  (d.constructorEnvironment.get? m).getD []

/-- `d.forConstructor m i` — `i` is declared for constructor `m`, after those declared before. -/
def forConstructor (d : Declarations ρ) (m : Member) (i : Interceptor ρ) : Declarations ρ :=
  { d with constructorEnvironment := d.constructorEnvironment.insert m (d.environmentOf m ++ [i]) }

/-- `d.forMethod name s` — the business method `name` has the sources `s`, and no others. -/
def forMethod (d : Declarations ρ) (name : String) (s : Sources ρ) : Declarations ρ :=
  { d with business := d.business.insert name s }

/-- `d.constructorSources m` — what the chain of constructor `m` is drawn from. -/
def constructorSources (d : Declarations ρ) (m : Member) : Sources ρ :=
  ⟨d.environmentOf m, d.constructorBinding⟩

/-- `d.methodSources name` — what the chain of business method `name` is drawn from. -/
def methodSources (d : Declarations ρ) (name : String) : Sources ρ :=
  (d.business.get? name).getD Sources.none

/-- `d.interceptsConstruction` — whether any interceptor is declared for a constructor. -/
def interceptsConstruction (d : Declarations ρ) : Bool :=
  !d.constructorBinding.isEmpty || d.constructorEnvironment.values.any (!·.isEmpty)

/-- `d.taken` — the declarations after the class-level binding interceptors were handed out. -/
def taken (d : Declarations ρ) : Declarations ρ := { d with classBinding := none }

end Declarations

end Wiring
