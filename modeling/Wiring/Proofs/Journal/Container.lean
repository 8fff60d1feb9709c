/-
  Containers on a journaled host.

  The definitions and the listener of a host are carried over to its journaled twin.  A carried-over
  proxy scheme does not touch the journal, and a carried-over listener writes down what it is told,
  so the journal is a ledger of what is stored and what is retired.
-/
import Wiring.Proofs.Journal.Ledger

namespace Wiring

variable {host : Host}

/-- `s.journaled` — the scheme `s` beside a journal. -/
def ProxyScheme.journaled (s : ProxyScheme host) : ProxyScheme host.journaled where
  wrap name target interceptors methods w :=
    ((s.wrap name target interceptors methods w.1).1,
      (s.wrap name target interceptors methods w.1).2, w.2)
  carrier? r := (s.carrier? r).map fun c => ⟨c.target, c.interceptors⟩
  current r := Effect.onLayer (s.current r)

/-- `d.journaled` — the definition `d` for the journaled host. -/
def Definition.journaled (d : Definition host) : Definition host.journaled where
  component := d.component
  strict := d.strict
  scheme := d.scheme.journaled
  resources := d.resources
  resolved := d.resolved

/-- `l.journaled` — the listener `l`, which also writes down what it is told. -/
def Listener.journaled (l : Listener host) : Listener host.journaled where
  begun t w := (l.begun t w.1, w.2 ++ [.begun t])
  stored h e w := (l.stored h e w.1, w.2 ++ [.stored h e])
  released h live w := (l.released h live w.1, w.2 ++ [.released h live])
  retired h e outcome w := (l.retired h e outcome w.1, w.2 ++ [.retired h e outcome])

namespace Event

variable {V : Vocabulary}

/-- `e.mark?` — the mark that the event makes in the ledger of a container. -/
def mark? : Event V → Option (Mark V)
  | stored h e => some (.stored h e)
  | retired h e _ => some (.retired h e)
  | _ => none

/-- `e.stored?` — what has been stored. -/
def stored? : Event V → Option (Handle × Stored V)
  | stored h e => some (h, e)
  | _ => none

/-- `e.retired?` — the instance whose callbacks before destruction have run. -/
def retired? : Event V → Option (Handle × Stored V)
  | retired h e _ => some (h, e)
  | _ => none

/-- The marks of a journal say what has been stored. -/
theorem stored?_filterMap_mark? (log : Journal V) :
    (log.filterMap mark?).filterMap Mark.stored? = log.filterMap stored? := by
  rw [List.filterMap_filterMap]
  exact congrArg (List.filterMap · log) (funext fun e => by cases e <;> rfl)

/-- They also say what has been retired. -/
theorem retired?_filterMap_mark? (log : Journal V) :
    (log.filterMap mark?).filterMap Mark.retired? = log.filterMap retired? := by
  rw [List.filterMap_filterMap]
  exact congrArg (List.filterMap · log) (funext fun e => by cases e <;> rfl)

theorem ofStore_mark? : Journal.OfStore (mark? : Event V → Option (Mark V)) := by
  intro e he
  cases e <;> first | rfl | cases he

end Event

/-- `host.ledger` — the journal as the ledger of a container. -/
def Host.ledger (host : Host) : Course host.journaled.World (Mark host.toVocabulary) :=
  Journal.course Event.mark?

theorem Host.quiet_ledger (host : Host) : host.journaled.Quiet host.ledger :=
  host.quiet_journaled Event.ofStore_mark?

theorem ProxyScheme.quiet_ledger (s : ProxyScheme host) : s.journaled.Quiet host.ledger where
  wrap _ _ _ _ w := ⟨[], (List.append_nil w.2).symm, rfl⟩
  current _ := .of_keeps fun w => ⟨[], (List.append_nil w.2).symm, rfl⟩

theorem Listener.enters_ledger (l : Listener host) : l.journaled.Enters host.ledger where
  begun t w := Journal.rel_append w.1 (l.begun t w.1) w.2 (.begun t)
  stored h e w := Journal.rel_append w.1 (l.stored h e w.1) w.2 (.stored h e)
  released h live w := Journal.rel_append w.1 (l.released h live w.1) w.2 (.released h live)
  retired h e outcome w :=
    Journal.rel_append w.1 (l.retired h e outcome w.1) w.2 (.retired h e outcome)

end Wiring
