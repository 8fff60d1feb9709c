/-
  `Member` — the identity of a field, method or constructor: the level of the hierarchy that
  declares it, and its name there.  `TypeKey` — the identity of a component type.
-/

namespace Wiring

/-- `Member` — a declaring level and a name.  Two members of one name on different levels are
    different members. -/
structure Member where
  level : String
  name : String
  deriving DecidableEq, Repr, Inhabited

namespace Member

/-- `m.path` — the level and the name, with two colons between them. -/
def path (m : Member) : String := m.level ++ "::" ++ m.name

/-- `m.before n` — the order of members: by level, then by name, both by code point. -/
def before (m n : Member) : Bool :=
  m.level < n.level || (m.level = n.level && m.name < n.name)

end Member

/-- `TypeKey` — a component type, known by its number. -/
structure TypeKey where
  number : Nat
  deriving DecidableEq, Repr, Inhabited

namespace TypeKey

/-- `t.name` — the name of the type in messages about a required type. -/
def name (t : TypeKey) : String := "T" ++ toString t.number

/-- `t.identity` — the text of the type where it is asked for by identity. -/
def identity (t : TypeKey) : String := "TypeId(" ++ t.name ++ ")"

end TypeKey

end Wiring
