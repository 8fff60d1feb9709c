/-
  `Component ρ` — the accepted description of a component type, and the chains resolved from it.

  1. Construction and business chains are functions of the description.
  2. The lifecycle chains consume the class-level binding interceptors, so taking them also gives
     the description that is left, and can succeed only once (`takeLifecycle`).
-/
import Wiring.Component.Parts
import Wiring.Component.Declarations
import Wiring.Effect

namespace Wiring

/-- `Component ρ` — what the engine knows about a component type. -/
structure Component (ρ : Type) where
  type : TypeKey
  name : String
  /-- The levels of the type, root ancestor first and the component itself last. -/
  hierarchy : List String
  points : List (Point ρ)
  methods : List (Method ρ)
  defaultConstructor : Option (Constructor ρ)
  /-- Callbacks after wiring, ancestors first. -/
  postConstruct : List (Operation ρ)
  /-- Callbacks before destruction, descendants first. -/
  preDestroy : List (Operation ρ)
  business : List (Operation ρ)
  declarations : Option (Declarations ρ)

namespace Component

variable {ρ : Type}

/-- `c.injectedConstructor` — the constructor that injection points belong to, if any do. -/
def injectedConstructor (c : Component ρ) : Option (Constructor ρ) :=
  c.points.findSome? (·.constructor?)

/-- `c.constructor` — the constructor that instances are made with: the injected one, else the
    default one. -/
def constructor (c : Component ρ) : Option (Constructor ρ) :=
  c.injectedConstructor <|> c.defaultConstructor

/-- `c.parameterPoints m` — the points of parameters of member `m`, by position; points of one
    position keep their declared order. -/
def parameterPoints (c : Component ρ) (m : Member) : List (Point ρ) :=
  let placed := c.points.filterMap fun p =>
    if p.member = m then p.parameter?.map fun parameter => (parameter.2, p) else none
  (placed.mergeSort fun p q => p.1 ≤ q.1).map Prod.snd

/-- `c.pointsOf level` — the injection points declared on `level`. -/
def pointsOf (c : Component ρ) (level : String) : List (Point ρ) :=
  c.points.filter (·.level = level)

/-- `c.injectedMethods level` — the methods of `level` that are called when an instance is wired:
    those with a point of plain role, each once, as their first such point has them. -/
def injectedMethods (c : Component ρ) (level : String) : List (Method ρ) :=
  ((c.pointsOf level).filterMap (·.plainMethod?)).eraseDupsBy fun m n => m.member = n.member

/-- `c.initializers level` — the methods of `level` that are called without arguments. -/
def initializers (c : Component ρ) (level : String) : List (Method ρ) :=
  c.methods.filter fun m => m.member.level = level && m.isInitializer

/-- `c.callbacks p` — the lifecycle callbacks of phase `p`, in the order in which they run. -/
def callbacks (c : Component ρ) : Phase → List (Operation ρ)
  | .postConstruct => c.postConstruct
  | .preDestroy => c.preDestroy
  | .aroundConstruct | .aroundInvoke => []

/-! ## Chains -/

/-- `c.constructionChain k` — the interceptors around a call of constructor `k`. -/
def constructionChain (c : Component ρ) (k : Constructor ρ) : List (Interceptor ρ) :=
  match c.declarations with
  | none => []
  | some d => (d.constructorSources k.member).chain .aroundConstruct

/-- `c.invocationChain name` — the interceptors around a call of business method `name`. -/
def invocationChain (c : Component ρ) (name : String) : List (Interceptor ρ) :=
  match c.declarations with
  | none => []
  | some d => (d.methodSources name).chain .aroundInvoke

/-- `takeLifecycle` — the lifecycle chains, and the component without the interceptors that
    were consumed for them.  A component without declarations gives empty chains each time. -/
def takeLifecycle : Effect (Component ρ) (LifecycleChains ρ) := fun c =>
  match c.declarations with
  | none => (.ok LifecycleChains.none, c)
  | some d =>
    match d.classBinding with
    | none => (.error (.alreadyResolved c.name), c)
    | some binding =>
      (.ok (LifecycleChains.ofSources ⟨d.environment, binding⟩), { c with declarations := d.taken })

end Component

end Wiring
