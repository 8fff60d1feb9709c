/-
  Running an invocation.

  1. `Advice.run` gives an interceptor's program its meaning, once it is said what proceeding does.
  2. `advance` is one step of the chain: the interceptor at the cursor runs with the cursor moved
     past it; at the end of the chain the ending is reached.
  3. `enter` is what surrounds every step: finished invocations refuse it, and the outermost one
     finishes the invocation.
  4. `through n` puts the three together for a chain with `n` interceptors left.  The cursor moves
     by one for each, so `n` is not a limit but the exact length of what is left, and `proceed`
     supplies it.
-/
import Wiring.Invocation.Basic
import Wiring.Host

namespace Wiring

/-- `Run host α` — an effect on an invocation and the host's world. -/
abbrev Run (host : Host) (α : Type) : Type :=
  Effect (Invocation host.toVocabulary × host.World) α

/-- `x.run proceed` — what the program does to an invocation and the world, where a request to
    proceed means `proceed`. -/
def Advice.run {host : Host} {α : Type} (proceed : Run host (Option host.Ref)) :
    Advice host.toVocabulary host.World α →
      Invocation host.toVocabulary × host.World → α × Invocation host.toVocabulary × host.World
  | .done a, s => (a, s)
  | .proceed next, s => (next (proceed s).1).run proceed (proceed s).2
  | .observe next, s => (next s.1.view).run proceed s
  | .setParameters ps next, s =>
    (next (s.1.setParameters ps).1).run proceed ((s.1.setParameters ps).2, s.2)
  | .setData data next, s => next.run proceed ({ s.1 with data := data }, s.2)
  | .readWorld next, s => (next s.2).run proceed s
  | .writeWorld w next, s => next.run proceed (s.1, w)

namespace Invocation

variable {host : Host}

/-- `live i` — the live interceptor `i`; one that is neither supplied nor made yet is made now and
    kept for the rest of the invocation. -/
def live (i : Interceptor host.Routine) : Run host host.Live := do
  let inv := (← get).1
  match inv.live? i.name with
  | some it => return it
  | none =>
    let it ← Effect.onWorld (host.enlist i)
    modify fun s => (s.1.enlisted i.name it, s.2)
    return it

/-- `reachEnding` — the step at the end of the chain, whatever the cursor says. -/
def reachEnding : Run host (Option host.Ref) := do
  let inv := (← get).1
  match inv.ending with
  | .callbacks target operations =>
    Effect.onWorld (Effect.each (fun op => host.notify op.routine target) operations)
    return none
  | .construct k _ =>
    let made ← Effect.onWorld (host.construct k.routine inv.parameters)
    modify fun s => (s.1.filled made, s.2)
    return none
  | .call target method =>
    let result ← Effect.onWorld (host.call method.routine target inv.parameters)
    return some result

/-- `around it proceed` — the live interceptor `it` runs, with the cursor past it. -/
def around (it : host.Live) (proceed : Run host (Option host.Ref)) : Run host (Option host.Ref) :=
  fun s =>
    let (outcome, t) := (host.intercept it s.1.phase).run proceed
      ({ s.1 with cursor := s.1.cursor + 1 }, s.2)
    (outcome, { t.1 with cursor := t.1.cursor - 1 }, t.2)

/-- `advance proceed` — the interceptor at the cursor, or the ending if there is none. -/
def advance (proceed : Run host (Option host.Ref)) : Run host (Option host.Ref) := do
  let inv := (← get).1
  match inv.chain[inv.cursor]? with
  | none => reachEnding
  | some i =>
    let it ← live i
    around it proceed

/-- `enter step` — `step` as a call of its own, unless the invocation is over. -/
def enter (step : Run host (Option host.Ref)) : Run host (Option host.Ref) := fun s =>
  match s.1.status with
  | .completed => (.error (.alreadyCompleted s.1.phase), s)
  | .failed => (.error (.alreadyFailed s.1.phase), s)
  | .pending | .running =>
    let (outcome, t) := step (s.1.entered, s.2)
    (outcome, t.1.left outcome.isOk, t.2)

theorem enter_of_over {step : Run host (Option host.Ref)}
    {s : Invocation host.toVocabulary × host.World}
    (h : s.1.status = .completed ∨ s.1.status = .failed) :
    ∃ f, enter step s = (.error f, s) := by
  rcases h with h | h
  · exact ⟨.alreadyCompleted s.1.phase, by rw [enter, h]⟩
  · exact ⟨.alreadyFailed s.1.phase, by rw [enter, h]⟩

theorem enter_of_open {step : Run host (Option host.Ref)}
    {s : Invocation host.toVocabulary × host.World}
    (h : s.1.status = .pending ∨ s.1.status = .running) :
    enter step s = ((step (s.1.entered, s.2)).1,
      (step (s.1.entered, s.2)).2.1.left (step (s.1.entered, s.2)).1.isOk,
      (step (s.1.entered, s.2)).2.2) := by
  rcases h with h | h <;> rw [enter, h]

/-- `through n` — a call that enters a chain with `n` interceptors left. -/
def through : Nat → Run host (Option host.Ref)
  | 0 => enter reachEnding
  | n + 1 => enter (advance (through n))

/-- `proceed` — the next interceptor or, after the last, the ending. -/
def proceed : Run host (Option host.Ref) := fun s =>
  through (s.1.chain.length - s.1.cursor) s

/-- `proceedDirectly` — the ending at once, past all interceptors; only a failed invocation
    refuses it. -/
def proceedDirectly : Run host (Option host.Ref) := fun s =>
  if s.1.status = .failed then (.error (.alreadyFailed s.1.phase), s)
  else
    let (outcome, t) := reachEnding s
    (outcome, if t.1.depth = 0 then t.1.finished outcome.isOk else t.1, t.2)

/-- `takeNewInstance` — the instance made last, unless it was taken before. -/
def takeNewInstance : Run host (Option host.Ref) := fun s =>
  (.ok s.1.takeMade.1, s.1.takeMade.2, s.2)

/-- `inv.during x` — `x` on a fresh invocation `inv`, of which nothing is kept but the outcome and
    the world. -/
def during {α : Type} (inv : Invocation host.toVocabulary) (x : Run host α) :
    Effect host.World α := fun w => ((x (inv, w)).1, (x (inv, w)).2.2)

end Invocation

end Wiring
