/-
  `Draft ρ` — a component as it is described, before anything is checked, and `Draft.build` — the
  description that results, or the first reason to refuse it.

  1. The reasons are tried in a fixed order, and each looks for its first offender: no name; a
     member on a level outside the hierarchy; injection points on two constructors; parameters
     that the points do not cover; construction intercepted without a constructor; a lifecycle
     callback on a level outside the hierarchy.
  2. Lifecycle callbacks are then ordered by level.  `byLevel` takes the levels one after the
     other and keeps the declared order within each, so it is a stable sort by depth.
-/
import Wiring.Component.Basic

namespace Wiring

/-- `Draft ρ` — the parts of a component in the order in which they were added. -/
structure Draft (ρ : Type) where
  type : TypeKey
  name : String
  /-- The ancestors, root first, without the component itself. -/
  superclasses : List String := []
  points : List (Point ρ) := []
  methods : List (Method ρ) := []
  defaultConstructor : Option (Constructor ρ) := none
  postConstruct : List (Operation ρ) := []
  preDestroy : List (Operation ρ) := []
  business : List (Operation ρ) := []
  declarations : Option (Declarations ρ) := none

namespace Draft

variable {ρ : Type}

/-- `d.hierarchy` — the ancestors, then the component itself. -/
def hierarchy (d : Draft ρ) : List String := d.superclasses ++ [d.name]

/-! ## Checks -/

/-- `d.stray? ms` — the first of the members `ms` that is on no level of the hierarchy. -/
def stray? (d : Draft ρ) (ms : List Member) : Option Member :=
  ms.find? fun m => !d.hierarchy.contains m.level

/-- `d.members` — the members whose level is checked first: of points, methods, the default
    constructor and business methods, in this order. -/
def members (d : Draft ρ) : List Member :=
  d.points.map (·.member) ++ d.methods.map (·.member) ++
    d.defaultConstructor.toList.map (·.member) ++ d.business.map (·.member)

/-- `d.constructors` — the constructors that injection points belong to, each member once. -/
def constructors (d : Draft ρ) : List Member :=
  (d.points.filterMap fun p => p.constructor?.map (·.member)).eraseDups

/-- `d.parametersOf m` — the declared count and the position of every parameter point with member
    `m`, in the order of the points. -/
def parametersOf (d : Draft ρ) (m : Member) : List (Nat × Nat) :=
  d.points.filterMap fun p => if p.member = m then p.parameter? else none

/-- `covers positions count` — whether `positions` holds each number below `count` once and
    nothing else. -/
def covers (positions : List Nat) (count : Nat) : Bool :=
  positions.length = count && positions.isPerm (List.range positions.length)

theorem covers_iff {positions : List Nat} {count : Nat} :
    covers positions count = true ↔ positions.Perm (List.range count) := by
  rw [covers, Bool.and_eq_true, decide_eq_true_iff, List.isPerm_iff]
  constructor
  · rintro ⟨rfl, h⟩
    exact h
  · intro h
    have hlen : positions.length = count := by rw [h.length_eq, List.length_range]
    exact ⟨hlen, hlen ▸ h⟩

/-- `d.uncovered m` — the parameter count of `m`, as its first point has it, if the points of `m`
    do not cover that many parameters. -/
def uncovered (d : Draft ρ) (m : Member) : Option Nat :=
  match d.parametersOf m with
  | [] => none
  | (count, position) :: rest =>
    if covers (position :: rest.map Prod.snd) count then none else some count

/-- `d.parameterMembers` — the members with parameter points, each once, in the order of members. -/
def parameterMembers (d : Draft ρ) : List Member :=
  (d.points.filterMap fun p => p.parameter?.map fun _ => p.member).eraseDups.mergeSort
    fun m n => !n.before m

/-- `d.interceptsConstruction` — whether interceptors are declared for a constructor. -/
def interceptsConstruction (d : Draft ρ) : Bool :=
  match d.declarations with
  | none => false
  | some i => i.interceptsConstruction

/-- `d.check` — the first reason to refuse the draft. -/
def check (d : Draft ρ) : Option Rejection :=
  if d.name.isEmpty then some .emptyName
  else if let some m := d.stray? d.members then some (.unknownLevel d.name m)
  else if let first :: second :: _ := d.constructors then
    some (.conflictingConstructors d.name first.name second.name)
  else if let some (m, count) := d.parameterMembers.findSome? fun m =>
      (d.uncovered m).map fun count => (m, count) then
    some (.invalidPositions d.name m.name count)
  else if d.constructors.isEmpty && d.defaultConstructor.isNone && d.interceptsConstruction then
    some (.aroundConstructWithoutConstructor d.name)
  else if let some m := d.stray? ((d.postConstruct ++ d.preDestroy).map (·.member)) then
    some (.unknownLevel d.name m)
  else none

/-! ## The accepted description -/

/-- `byLevel levels ops` — the operations declared on the first level, then on the second, and so
    on; those of one level in their declared order. -/
def byLevel (levels : List String) (ops : List (Operation ρ)) : List (Operation ρ) :=
  levels.flatMap fun level => ops.filter fun op => op.member.level = level

/-- `d.levels` — the levels of the hierarchy, each at its first place. -/
def levels (d : Draft ρ) : List String := d.hierarchy.eraseDups

/-- `d.component` — the description that `d` stands for; callbacks after construction run from
    the root ancestor down, callbacks before destruction the other way. -/
def component (d : Draft ρ) : Component ρ where
  type := d.type
  name := d.name
  hierarchy := d.hierarchy
  points := d.points
  methods := d.methods
  defaultConstructor := d.defaultConstructor
  postConstruct := byLevel d.levels d.postConstruct
  preDestroy := byLevel d.levels.reverse d.preDestroy
  business := d.business
  declarations := d.declarations

/-- `d.build` — the component, unless there is a reason to refuse the draft. -/
def build (d : Draft ρ) : Except Rejection (Component ρ) :=
  match d.check with
  | some reason => .error reason
  | none => .ok d.component

theorem build_eq_ok_iff {d : Draft ρ} {c : Component ρ} :
    d.build = .ok c ↔ d.check = none ∧ d.component = c := by
  rw [build]
  cases h : d.check with
  | none => simp
  | some reason => simp

end Draft

end Wiring
