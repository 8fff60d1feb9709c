/-
  `Catalog host` — the definitions that instances can be made from, by type and by name.

  1. A type has at most one definition, and so has a name.  Registering a second one is refused,
     unless the catalog allows overriding.
  2. Where overriding is allowed, a definition replaces every other that shares its type or its
     name; these may be two different ones.
-/
import Wiring.Definition.Basic

namespace Wiring

/-- `Catalog host` — definitions by type, and the type that each name stands for. -/
structure Catalog (host : Host) where
  definitions : Table TypeKey (Definition host) := ∅
  names : Table String TypeKey := ∅
  /-- Whether a new definition may replace earlier ones. -/
  overriding : Bool := false

namespace Catalog

variable {host : Host}

/-- `ofSettings settings` — the empty catalog under the settings. -/
def ofSettings (settings : Settings) : Catalog host where
  overriding := settings.overriding

/-- `c.byType? t` — the definition of type `t`. -/
def byType? (c : Catalog host) (t : TypeKey) : Option (Definition host) := c.definitions.get? t

/-- `c.byName? name` — the definition called `name`. -/
def byName? (c : Catalog host) (name : String) : Option (Definition host) :=
  (c.names.get? name).bind c.byType?

/-- `c.hasType t` — whether type `t` has a definition. -/
def hasType (c : Catalog host) (t : TypeKey) : Bool := c.definitions.contains t

/-- `c.hasName name` — whether `name` has a definition. -/
def hasName (c : Catalog host) (name : String) : Bool := c.names.contains name

/-- `c.size` — how many definitions there are. -/
def size (c : Catalog host) : Nat := c.definitions.size

/-- `c.withoutType t` — the definition of type `t` is gone, with its name. -/
def withoutType (c : Catalog host) (t : TypeKey) : Catalog host :=
  match c.definitions.get? t with
  | none => c
  | some previous =>
    { c with definitions := c.definitions.erase t, names := c.names.erase previous.name }

/-- `c.withoutName name` — the definition called `name` is gone, with its type. -/
def withoutName (c : Catalog host) (name : String) : Catalog host :=
  match c.names.get? name with
  | none => c
  | some t => { c with definitions := c.definitions.erase t, names := c.names.erase name }

/-- `c.conflict? d` — why `d` may not join the catalog. -/
def conflict? (c : Catalog host) (d : Definition host) : Option Rejection :=
  if c.overriding then none
  else if c.hasType d.component.type then some (.duplicateType d.name)
  else if c.hasName d.name then some (.duplicateName d.name)
  else none

/-- `c.register d` — the catalog with `d`, in the place of all that share its type or its name. -/
def register (c : Catalog host) (d : Definition host) : Except Rejection (Catalog host) :=
  match c.conflict? d with
  | some reason => .error reason
  | none =>
    let rest := (c.withoutType d.component.type).withoutName d.name
    .ok { rest with
      definitions := rest.definitions.insert d.component.type d
      names := rest.names.insert d.name d.component.type }

/-- `c.updated t d` — the definition of type `t` has become `d`, under the same name. -/
def updated (c : Catalog host) (t : TypeKey) (d : Definition host) : Catalog host :=
  { c with definitions := c.definitions.insert t d }

theorem byType?_updated (c : Catalog host) (t u : TypeKey) (d : Definition host) :
    (c.updated t d).byType? u = if u = t then some d else c.byType? u :=
  Table.get?_insert ..

end Catalog

end Wiring
