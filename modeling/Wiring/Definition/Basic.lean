/-
  `Definition host` — a component that instances can be made of, with what has been resolved for it.

  1. The component's description and the settings made for it never change.
  2. The lifecycle chains are resolved when they are first needed.  The first result — chains, or
     the failure to get them — is kept and is the result ever after (`lifecycleChains`).
-/
import Wiring.Component.Basic
import Wiring.Proxy
import Wiring.Settings.Basic

namespace Wiring

/-- `Definition host` — a component, the settings made for it, and its lifecycle chains once they
    are resolved. -/
structure Definition (host : Host) where
  component : Component host.Routine
  /-- Whether a construction chain that never reaches the constructor is a failure. -/
  strict : Bool := false
  scheme : ProxyScheme host := ProxyScheme.standard host
  /-- The supplier of platform resources, if there is one. -/
  resources : Option host.Routine := none
  /-- The first result of resolving the lifecycle chains. -/
  resolved : Option (Except Failure (LifecycleChains host.Routine)) := none

namespace Definition

variable {host : Host}

/-- `ofComponent settings c` — the definition of `c` under the settings, with standard proxies and
    without a supplier of resources. -/
def ofComponent (settings : Settings) (c : Component host.Routine) : Definition host where
  component := c
  strict := settings.strict

/-- `d.name` — the name of the component. -/
def name (d : Definition host) : String := d.component.name

/-- `d.constructionChain` — the interceptors around the constructor that instances are made with. -/
def constructionChain (d : Definition host) : List (Interceptor host.Routine) :=
  match d.component.constructor with
  | none => []
  | some k => d.component.constructionChain k

/-- `d.businessMethods` — the business methods by name, with their chains; of methods with one name
    the last declared counts. -/
def businessMethods (d : Definition host) : Table String (Guarded host.Routine) :=
  Table.ofList <| d.component.business.map fun method =>
    (method.member.name, ⟨method, d.component.invocationChain method.member.name⟩)

/-- `lifecycleChains` — the first result of resolving the lifecycle chains. -/
def lifecycleChains : Effect (Definition host) (LifecycleChains host.Routine) := fun d =>
  match d.resolved with
  | some result => (result, d)
  | none =>
    let (result, component) := Component.takeLifecycle d.component
    (result, { d with component := component, resolved := some result })

/-- `needsProxy` — whether anything intercepts an instance after its construction. -/
def needsProxy : Effect (Definition host) Bool := do
  let chains ← lifecycleChains
  let d ← get
  return !chains.isEmpty || d.businessMethods.values.any (!·.chain.isEmpty)

/-! ## Live interceptors -/

/-- `recruit chain enlisted` — a live interceptor for every name of `chain` that is not among the
    enlisted ones yet, made by the first interceptor of that name. -/
def recruit : List (Interceptor host.Routine) → host.LiveSet → Effect host.World host.LiveSet
  | [], enlisted => .done enlisted
  | i :: rest, enlisted =>
    if enlisted.contains i.name then recruit rest enlisted
    else do
      let it ← host.enlist i
      recruit rest (enlisted.insert i.name it)

/-- `interceptors` — one live interceptor per name occurring in any chain of the component: of
    construction first, then of the two lifecycle phases, then of the business methods. -/
def interceptors : Effect (Definition host × host.World) host.LiveSet := do
  let chains ← Effect.onLayer lifecycleChains
  let d := (← get).1
  Effect.onWorld <| recruit
    (d.constructionChain ++ chains.postConstruct ++ chains.preDestroy ++
      d.businessMethods.values.flatMap (·.chain)) ∅

/-- `wrap made interceptors` — the reference under which an instance is shared: a proxy if it
    needs one, else the instance itself. -/
def wrap (made : host.Ref) (interceptors : host.LiveSet) :
    Effect (Definition host × host.World) host.Ref := do
  if ← Effect.onLayer needsProxy then
    let d := (← get).1
    Effect.onWorld fun w =>
      let (reference, w) := d.scheme.wrap d.name made interceptors d.businessMethods w
      (.ok reference, w)
  else return made

end Definition

end Wiring
