/-
  Making and wiring an instance of a definition.

  Dependencies come from a provider: whatever `provide` says, over a state of its own.  Each
  injection point is asked for when its turn comes, and a failure names the member it was for.

  1. `produce` asks for the constructor's parameters by position and calls it, through the
     construction chain if there is one.  A chain that returns without an instance leads to one
     direct call, or to a failure where the definition is strict.
  2. `inject` goes down the hierarchy, root ancestor first.  On each level it fills the fields,
     calls the injected methods, calls the initializers, and has platform resources supplied.
-/
import Wiring.Definition.Basic

namespace Wiring

/-- `Provider host P` — the source of dependencies, over states `P` beside the world. -/
abbrev Provider (host : Host) (P : Type) : Type :=
  Point host.Routine → Effect (P × host.World) host.Ref

namespace Definition

variable {host : Host} {P : Type}

/-- `d.blame site x` — a failure of `x` becomes one of instantiating `d` at `site`. -/
def blame {σ α : Type} (d : Definition host) (site : Site) (x : Effect σ α) : Effect σ α :=
  x.blaming (.instantiation d.name site)

/-- `d.request provide point` — the value for one injection point. -/
def request (d : Definition host) (provide : Provider host P) (point : Point host.Routine) :
    Effect (P × host.World) host.Ref :=
  d.blame (.member point.member) (provide point)

/-- `d.arguments provide m` — the values for the parameters of member `m`, by position. -/
def arguments (d : Definition host) (provide : Provider host P) (m : Member) :
    Effect (P × host.World) (List host.Ref) :=
  Effect.collect (d.request provide) (d.component.parameterPoints m)

/-! ## Construction -/

/-- `d.constructing k` — the chain around constructor `k`, and the direct call after a chain that
    gave no instance. -/
def constructing (d : Definition host) (k : Constructor host.Routine) : Run host host.Ref := do
  let _ ← Invocation.proceed
  match ← Invocation.takeNewInstance with
  | some made => return made
  | none =>
    if d.strict then Effect.fail (.constructorNotInvoked k.member.name)
    else
      let _ ← Invocation.proceedDirectly
      match ← Invocation.takeNewInstance with
      | some made => return made
      | none => Effect.fail (.constructorNotInvoked k.member.name)

/-- `d.construct k interceptors arguments` — a new instance from constructor `k`. -/
def construct (d : Definition host) (k : Constructor host.Routine) (interceptors : host.LiveSet)
    (arguments : List host.Ref) : Effect host.World host.Ref :=
  let chain := d.component.constructionChain k
  if chain.isEmpty then host.construct k.routine arguments
  else (Invocation.construction chain (some interceptors) k arguments).during (d.constructing k)

/-- `d.produce interceptors provide` — a new instance, not wired yet. -/
def produce (d : Definition host) (interceptors : host.LiveSet) (provide : Provider host P) :
    Effect (P × host.World) host.Ref :=
  match d.component.constructor with
  | none => .fail (.missingConstructor d.name)
  | some k => do
    let arguments ← d.arguments provide k.member
    d.blame (.member k.member) (Effect.onWorld (d.construct k interceptors arguments))

/-! ## Injection -/

/-- `d.injectField receiver provide point` — fill the field that `point` is for; points of
    parameters have none. -/
def injectField (d : Definition host) (receiver : host.Ref) (provide : Provider host P)
    (point : Point host.Routine) : Effect (P × host.World) Unit :=
  match point.field? with
  | none => .done ()
  | some field => do
    let value ← d.request provide point
    d.blame (.member field.member) (Effect.onWorld (host.assign field.routine receiver value))

/-- `d.injectMethod receiver provide m` — call `m` with a value for each of its points. -/
def injectMethod (d : Definition host) (receiver : host.Ref) (provide : Provider host P)
    (m : Method host.Routine) : Effect (P × host.World) Unit := do
  let arguments ← d.arguments provide m.member
  d.blame (.member m.member) (Effect.onWorld (host.perform m.routine receiver arguments))

/-- `d.callInitializer receiver m` — call the initializer `m`. -/
def callInitializer (d : Definition host) (receiver : host.Ref) (m : Method host.Routine) :
    Effect host.World Unit :=
  d.blame (.member m.member) (host.perform m.routine receiver [])

/-- `d.supply receiver` — platform resources for the instance, where a supplier is configured. -/
def supply (d : Definition host) (receiver : host.Ref) : Effect host.World Unit :=
  match d.resources with
  | none => .done ()
  | some supplier => d.blame .resources (host.supply supplier receiver)

/-- `d.injectLevel receiver provide level` — all that one level of the hierarchy declares. -/
def injectLevel (d : Definition host) (receiver : host.Ref) (provide : Provider host P)
    (level : String) : Effect (P × host.World) Unit := do
  Effect.each (d.injectField receiver provide) (d.component.pointsOf level)
  Effect.each (d.injectMethod receiver provide) (d.component.injectedMethods level)
  Effect.onWorld (Effect.each (d.callInitializer receiver) (d.component.initializers level))
  Effect.onWorld (d.supply receiver)

/-- `d.inject receiver provide` — wire an instance, ancestors first. -/
def inject (d : Definition host) (receiver : host.Ref) (provide : Provider host P) :
    Effect (P × host.World) Unit :=
  Effect.each (d.injectLevel receiver provide) d.component.hierarchy

end Definition

end Wiring
