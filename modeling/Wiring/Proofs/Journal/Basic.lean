/-
  `Host.journaled` — a host that writes down what its routines are asked to do.

  It is the recording host whose notes are `Event`s: every request with its outcome, and every
  interceptor when it is entered and when it is left.  What an interceptor sees and replaces is not
  written down, so its program runs beside the journal.
-/
import Wiring.Proofs.Recording.Basic
import Wiring.Store

namespace Wiring

/-- `Event V` — one thing that happened: a request to the host with its outcome, an instance on its
    way into a store and out of it, or a business call on a proxy. -/
inductive Event (V : Vocabulary) where
  | assigned (routine : V.Routine) (receiver value : Reference V) (outcome : Except Failure Unit)
  | performed (routine : V.Routine) (receiver : Reference V) (arguments : List (Reference V))
      (outcome : Except Failure Unit)
  | constructed (routine : V.Routine) (arguments : List (Reference V))
      (outcome : Except Failure (Reference V))
  | notified (routine : V.Routine) (receiver : Reference V) (outcome : Except Failure Unit)
  | called (routine : V.Routine) (receiver : Reference V) (arguments : List (Reference V))
      (outcome : Except Failure (Reference V))
  | supplied (routine : V.Routine) (receiver : Reference V) (outcome : Except Failure Unit)
  | made (routine : V.Routine) (outcome : Except Failure V.Live)
  | entered (live : V.Live) (phase : Phase)
  | left (live : V.Live) (phase : Phase) (outcome : Except Failure (Option (Reference V)))
  | asked (scope : V.Scope) (outcome : Except Failure (Reference V))
  | begun (type : TypeKey)
  | stored (handle : Handle) (entry : Stored V)
  | released (handle : Handle) (live : Bool)
  | retired (handle : Handle) (entry : Stored V) (outcome : Except Failure Unit)
  | invoked (proxy : Proxy V (Reference V)) (name : String) (arguments : List (Reference V))

/-- `Journal V` — events, oldest first. -/
abbrev Journal (V : Vocabulary) : Type := List (Event V)

/-- `Event.recorder V` — every request is an event with its outcome, and so is every interceptor on
    its way in and on its way out. -/
def Event.recorder (V : Vocabulary) : Recorder V (Event V) where
  assigned c r v outcome := some (.assigned c r v outcome)
  performed c r args outcome := some (.performed c r args outcome)
  constructed c args outcome := some (.constructed c args outcome)
  notified c r outcome := some (.notified c r outcome)
  called c r args outcome := some (.called c r args outcome)
  supplied c r outcome := some (.supplied c r outcome)
  made c outcome := some (.made c outcome)
  asked scope outcome := some (.asked scope outcome)
  entered it phase := some (.entered it phase)
  left it phase outcome := some (.left it phase outcome)

/-- `x.beside it` — the program `x` of the interceptor `it` on the world beside the journal, in which
    nothing is written down of it. -/
abbrev Advice.beside {V : Vocabulary} {W α : Type} (it : V.Live) (x : Advice V W α) :
    Advice V (W × Journal V) α :=
  x.recording (Event.recorder V) it

/-- `host.journaled` — `host`, with a journal of everything that it is asked to do. -/
def Host.journaled (host : Host) : Host := host.recording (Event.recorder host.toVocabulary)

end Wiring
