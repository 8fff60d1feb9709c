/-
  Running the lifecycle callbacks of a definition on a reference.

  1. A scope proxy is first replaced by the instance that its scope names now.
  2. An interception proxy gives away its real instance, which receives the callbacks, and its live
     interceptors, which run around them.
  3. On any other reference, a phase without callbacks is over at once, and the chains stay
     unresolved.
-/
import Wiring.Definition.Basic

namespace Wiring

namespace Definition

variable {host : Host}

/-- `d.present reference` — the reference behind a scope proxy, or the reference itself. -/
def present (d : Definition host) (reference : host.Ref) : Effect host.World host.Ref := do
  let current ← (d.scheme.current reference).blaming .scopeUnavailable
  return current.getD reference

/-- `runPhase phase reference` — the callbacks of a lifecycle phase, through its chain. -/
def runPhase (phase : Phase) (reference : host.Ref) :
    Effect (Definition host × host.World) Unit := do
  let d := (← get).1
  let callbacks := d.component.callbacks phase
  let reference ← Effect.onWorld (d.present reference)
  let carrier := d.scheme.carrier? reference
  if carrier.isNone && callbacks.isEmpty then return
  let chains ← Effect.onLayer lifecycleChains
  let target := (carrier.map (·.target)).getD reference
  let invocation := Invocation.lifecycle phase target (chains.forPhase phase)
    (carrier.map (·.interceptors)) callbacks
  Effect.onWorld <| Effect.blaming (.lifecycle d.name phase) do
    let _ ← invocation.during Invocation.proceed

/-- `postConstruct reference` — the callbacks after construction, ancestors first. -/
def postConstruct (reference : host.Ref) : Effect (Definition host × host.World) Unit :=
  runPhase .postConstruct reference

/-- `preDestroy reference` — the callbacks before destruction, descendants first. -/
def preDestroy (reference : host.Ref) : Effect (Definition host × host.World) Unit :=
  runPhase .preDestroy reference

end Definition

end Wiring
