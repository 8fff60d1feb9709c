/-
  `host.recording R` — a host that keeps a record.

  1. A `Recorder` says what is noted of each request to a host and of each interceptor that is entered
     or left, and of what an interceptor sees and replaces on the way.  It may be nothing.
  2. The world of the recording host is the old world with a list of notes beside it, oldest first.
     Every request is handed to the old host, which never sees the list; afterwards the request is
     noted with its outcome.
  3. An interceptor is noted when it is entered and when it returns, so that the notes of everything
     it proceeds into stand between the two.
  4. Nothing else changes: references, routines and live interceptors stay what they were.
-/
import Wiring.Host

namespace Wiring

/-- `Recorder V N` — which note is taken of which event, if any. -/
structure Recorder (V : Vocabulary) (N : Type) where
  assigned : V.Routine → (receiver value : Reference V) → Except Failure Unit → Option N :=
    fun _ _ _ _ => none
  performed : V.Routine → (receiver : Reference V) → List (Reference V) → Except Failure Unit →
    Option N := fun _ _ _ _ => none
  constructed : V.Routine → List (Reference V) → Except Failure (Reference V) → Option N :=
    fun _ _ _ => none
  notified : V.Routine → (receiver : Reference V) → Except Failure Unit → Option N :=
    fun _ _ _ => none
  called : V.Routine → (receiver : Reference V) → List (Reference V) →
    Except Failure (Reference V) → Option N := fun _ _ _ _ => none
  supplied : V.Routine → (receiver : Reference V) → Except Failure Unit → Option N :=
    fun _ _ _ => none
  made : V.Routine → Except Failure V.Live → Option N := fun _ _ => none
  asked : V.Scope → Except Failure (Reference V) → Option N := fun _ _ => none
  entered : V.Live → Phase → Option N := fun _ _ => none
  left : V.Live → Phase → Except Failure (Option (Reference V)) → Option N := fun _ _ _ => none
  /-- An interceptor looked at its invocation. -/
  seen : V.Live → View V → Option N := fun _ _ => none
  /-- An interceptor asked for other parameters. -/
  replaced : List (Reference V) → Except Failure Unit → Option N := fun _ _ => none

/-- `noted notes n` — the notes, with `n` at the end if there is one. -/
def noted {N : Type} (notes : List N) : Option N → List N
  | none => notes
  | some n => notes ++ [n]

/-- `x.noting note` — `x`, and the note of its outcome at the end of the notes. -/
def Effect.noting {N W α : Type} (note : Except Failure α → Option N) (x : Effect W α) :
    Effect (W × List N) α :=
  fun s => ((x s.1).1, (x s.1).2, noted s.2 (note (x s.1).1))

namespace Advice

variable {V : Vocabulary} {N W α : Type}

/-- `noting n next` — `n` at the end of the notes, if there is one, then `next`. -/
def noting (n : Option N) (next : Advice V (W × List N) α) : Advice V (W × List N) α :=
  match n with
  | none => next
  | some n => readWorld fun s => writeWorld (s.1, s.2 ++ [n]) next

/-- `x.recording R it` — the program `x` of the interceptor `it`, with what `R` notes of it at the
    end of a list that it neither sees nor changes. -/
def recording (R : Recorder V N) (it : V.Live) : Advice V W α → Advice V (W × List N) α
  | done a => done a
  | proceed next => proceed fun r => (next r).recording R it
  | observe next => observe fun v => noting (R.seen it v) ((next v).recording R it)
  | setParameters ps next =>
    setParameters ps fun r => noting (R.replaced ps r) ((next r).recording R it)
  | setData data next => setData data (next.recording R it)
  | readWorld next => readWorld fun s => (next s.1).recording R it
  | writeWorld w next => readWorld fun s => writeWorld (w, s.2) (next.recording R it)

/-- Nothing comes of doing nothing at the end. -/
theorem andThen_done (x : Advice V W α) : x.andThen done = x := by
  induction x with
  | done a => rfl
  | proceed next ih => exact congrArg proceed (funext ih)
  | observe next ih => exact congrArg observe (funext ih)
  | setParameters ps next ih => exact congrArg (setParameters ps) (funext ih)
  | setData data next ih => exact congrArg (setData data) ih
  | readWorld next ih => exact congrArg readWorld (funext ih)
  | writeWorld w next ih => exact congrArg (writeWorld w) ih

end Advice

namespace Host

variable {N : Type}

/-- `host.recording R` — `host`, with the notes that `R` takes beside its world. -/
def recording (host : Host) (R : Recorder host.toVocabulary N) : Host where
  toVocabulary := host.toVocabulary
  World := host.World × List N
  unit := host.unit
  assign c r v := (host.assign c r v).noting (R.assigned c r v)
  perform c r args := (host.perform c r args).noting (R.performed c r args)
  construct c args := (host.construct c args).noting (R.constructed c args)
  notify c r := (host.notify c r).noting (R.notified c r)
  call c r args := (host.call c r args).noting (R.called c r args)
  supply c r := (host.supply c r).noting (R.supplied c r)
  make c := (host.make c).noting (R.made c)
  intercept it phase := .noting (R.entered it phase) <|
    ((host.intercept it phase).recording R it).andThen fun outcome =>
      .noting (R.left it phase outcome) (.done outcome)
  contextual scope := (host.contextual scope).noting (R.asked scope)

/-- Where neither entering nor leaving is noted, an interceptor does what its program does. -/
theorem intercept_recording {host : Host} {R : Recorder host.toVocabulary N} {it : host.Live}
    {phase : Phase} (hentered : R.entered it phase = none)
    (hleft : ∀ outcome, R.left it phase outcome = none) :
    (host.recording R).intercept it phase = (host.intercept it phase).recording R it := by
  have hquiet : (fun outcome => Advice.noting (R.left it phase outcome) (.done outcome) :
      _ → Advice host.toVocabulary (host.World × List N) _) = .done :=
    funext fun outcome => by rw [hleft]; rfl
  show Advice.noting (R.entered it phase) (Advice.andThen _ _) = _
  rw [hentered, hquiet]
  exact Advice.andThen_done _

end Host

end Wiring
