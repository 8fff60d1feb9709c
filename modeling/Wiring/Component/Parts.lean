/-
  The parts of a component's description: operations, methods, constructors, injection points.

  A description is plain data.  What it takes to set a field, call a method or make an instance
  is a routine code of a type `ρ`; the host gives the codes their meaning.
-/
import Wiring.Member

namespace Wiring

/-- `Operation ρ` — a member and the routine behind it: a field with its setter, a lifecycle
    callback, a business method. -/
structure Operation (ρ : Type) where
  member : Member
  routine : ρ

/-- `Method ρ` — a method with `count` parameters, marked for injection or not. -/
structure Method (ρ : Type) extends Operation ρ where
  count : Nat
  inject : Bool

/-- `m.isInitializer` — a marked method without parameters is called once its level is wired. -/
def Method.isInitializer {ρ : Type} (m : Method ρ) : Bool := m.inject && m.count = 0

/-- `Constructor ρ` — a constructor with `count` parameters. -/
structure Constructor (ρ : Type) extends Operation ρ where
  count : Nat

/-- `Role` — on whose behalf a member's parameters are injected.  Only `plain` methods are called
    when an instance is wired; the others belong to subsystems of their own. -/
inductive Role where
  | plain
  | producer
  | disposer
  | observer
  deriving DecidableEq, Repr, Inhabited

/-- `Slot ρ` — where an injected value goes: into a field, or to a position among the parameters
    of a method or of a constructor. -/
inductive Slot (ρ : Type) where
  | field (field : Operation ρ)
  | methodParameter (method : Method ρ) (position : Nat)
  | constructorParameter (constructor : Constructor ρ) (position : Nat)

/-- `s.member` — the member that the slot belongs to. -/
def Slot.member {ρ : Type} : Slot ρ → Member
  | field f => f.member
  | methodParameter m _ => m.member
  | constructorParameter c _ => c.member

/-- `Point ρ` — an injection point: one dependency of a component. -/
structure Point (ρ : Type) where
  slot : Slot ρ
  requires : TypeKey
  role : Role

namespace Point

variable {ρ : Type}

/-- `p.member` — the member that the point belongs to. -/
def member (p : Point ρ) : Member := p.slot.member

/-- `p.level` — the level of the hierarchy that declares the point's member. -/
def level (p : Point ρ) : String := p.member.level

/-- `p.constructor?` — the constructor whose parameter the point is. -/
def constructor? (p : Point ρ) : Option (Constructor ρ) :=
  match p.slot with
  | .constructorParameter c _ => some c
  | _ => none

/-- `p.field?` — the field that the point fills. -/
def field? (p : Point ρ) : Option (Operation ρ) :=
  match p.slot with
  | .field f => some f
  | _ => none

/-- `p.plainMethod?` — the method whose parameter the point is, if its role is plain. -/
def plainMethod? (p : Point ρ) : Option (Method ρ) :=
  match p.slot, p.role with
  | .methodParameter m _, .plain => some m
  | _, _ => none

/-- `p.parameter?` — the parameter count of the point's method or constructor, and the point's
    position; a field has neither. -/
def parameter? (p : Point ρ) : Option (Nat × Nat) :=
  match p.slot with
  | .field _ => none
  | .methodParameter m position => some (m.count, position)
  | .constructorParameter c position => some (c.count, position)

end Point

end Wiring
