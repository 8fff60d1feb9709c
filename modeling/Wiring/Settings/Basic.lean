/-
  `Settings` — the switches of the engine, all off unless they are turned on.
-/

namespace Wiring

/-- `Settings` — how definitions and catalogs behave. -/
structure Settings where
  /-- Whether a construction chain that never reaches the constructor is a failure. -/
  strict : Bool := false
  /-- Whether a definition may replace earlier ones of its type or name. -/
  overriding : Bool := false
  deriving DecidableEq, Repr, Inhabited

end Wiring
