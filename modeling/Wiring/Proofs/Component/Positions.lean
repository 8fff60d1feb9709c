/-
  Which arguments a constructor or a method gets.

  1. An accepted draft has the points of each member cover its parameters, as many as the first of
     them says (`positions_perm`), so the points that are asked for when the member is called stand
     at the places `0, 1, …` in their order (`getElem?_parameterPoints`).
  2. The check groups points by their member alone, and so does the request for arguments.  A member
     does not tell a method from a constructor, and points of one method may differ in what they
     say of it; `Unambiguous` excludes both.
  3. With this excluded, the points that are asked for are the member's own, one for each parameter
     and in its place: the component is `Placed` (`placed_of_build`).
-/
import Mathlib.Data.List.Basic
import Wiring.Proofs.Component.Dependency

namespace Wiring

variable {ρ : Type}

/-! ## Covered positions -/

namespace Draft

variable {d : Draft ρ} {c : Component ρ}

/-- What an accepted draft was checked for: injection points belong to one constructor at most, and
    the points of each member cover its parameters. -/
theorem checked_of_build (h : d.build = .ok c) :
    c = d.component ∧ (∀ m ∈ d.constructors, ∀ n ∈ d.constructors, m = n) ∧
      ∀ m ∈ d.parameterMembers, d.uncovered m = none := by
  obtain ⟨hcheck, rfl⟩ := build_eq_ok_iff.1 h
  rw [check] at hcheck
  split at hcheck
  · cases hcheck
  split at hcheck
  · cases hcheck
  split at hcheck
  · cases hcheck
  next hconstructors =>
  split at hcheck
  · cases hcheck
  next hcovered =>
  refine ⟨rfl, fun m hm n hn => ?_, fun m hm => ?_⟩
  · rcases hlist : d.constructors with _ | ⟨first, _ | ⟨second, rest⟩⟩
    · rw [hlist] at hm
      cases hm
    · rw [hlist] at hm hn
      rw [List.mem_singleton.1 hm, List.mem_singleton.1 hn]
    · exact absurd hlist (hconstructors first second rest)
  · cases hm' : d.uncovered m with
    | none => rfl
    | some count =>
      cases hfound : d.parameterMembers.findSome? fun m =>
          (d.uncovered m).map fun count => (m, count) with
      | none =>
        have hnone := List.findSome?_eq_none_iff.1 hfound m hm
        rw [hm'] at hnone
        cases hnone
      | some x => exact absurd hfound (hcovered x.1 x.2)

theorem mem_parameterMembers {m : Member} :
    m ∈ d.parameterMembers ↔ ∃ p ∈ d.points, p.parameter?.isSome ∧ p.member = m := by
  rw [parameterMembers, List.mem_mergeSort, List.mem_eraseDups, List.mem_filterMap]
  refine exists_congr fun p => and_congr_right fun _ => ?_
  cases p.parameter? with
  | none => simp
  | some parameter => simp

/-- The positions of the points of a member are all those below the count that the first of them
    has. -/
theorem positions_perm (h : d.build = .ok c) {m : Member} {count position : Nat}
    {rest : List (Nat × Nat)} (hm : d.parametersOf m = (count, position) :: rest) :
    ((d.parametersOf m).map Prod.snd).Perm (List.range count) := by
  have hmember : m ∈ d.parameterMembers := by
    have hfirst : (count, position) ∈ d.parametersOf m := hm ▸ List.mem_cons_self
    obtain ⟨p, hp, hparameter⟩ := List.mem_filterMap.1 hfirst
    split at hparameter
    · next hpm => exact mem_parameterMembers.2 ⟨p, hp, by rw [hparameter]; rfl, hpm⟩
    · cases hparameter
  have huncovered := (checked_of_build h).2.2 m hmember
  rw [uncovered, hm] at huncovered
  dsimp only at huncovered
  split at huncovered
  · next hcovers =>
    rw [hm]
    exact covers_iff.1 hcovers
  · cases huncovered

end Draft

/-! ## Points in their places -/

namespace Slot

/-- `s.IsOfConstructor k i` — the slot is the parameter of `k` in place `i`. -/
def IsOfConstructor (k : Constructor ρ) (i : Nat) (s : Slot ρ) : Prop :=
  ∃ k', s = .constructorParameter k' i ∧ k'.member = k.member

/-- `s.IsOfMethod m i` — the slot is the parameter of `m` in place `i`. -/
def IsOfMethod (m : Method ρ) (i : Nat) (s : Slot ρ) : Prop :=
  ∃ n, s = .methodParameter n i ∧ n.member = m.member

end Slot

namespace Component

/-- What is sorted by position has its positions in order. -/
theorem positions_sorted {α : Type} (placed : List (Nat × α)) :
    ((placed.mergeSort fun p q => p.1 ≤ q.1).map Prod.fst).Pairwise (· ≤ ·) := by
  refine List.Pairwise.map (R := fun p q => decide (p.1 ≤ q.1) = true) Prod.fst
    (fun _ _ h => of_decide_eq_true h) ?_
  exact List.pairwise_mergeSort (fun p q r hpq hqr => by
    simp only [decide_eq_true_eq] at *
    omega) (fun p q => by
    simp only [Bool.or_eq_true, decide_eq_true_eq]
    omega) placed

/-- The parameter points of a member whose positions are those below `count` stand at their
    positions. -/
theorem getElem?_parameterPoints {c : Component ρ} {m : Member} {count : Nat}
    (hpositions : (c.points.filterMap fun p =>
      if p.member = m then p.parameter?.map Prod.snd else none).Perm (List.range count)) :
    (c.parameterPoints m).length = count ∧ ∀ {i p}, (c.parameterPoints m)[i]? = some p →
      p ∈ c.points ∧ p.member = m ∧ p.parameter?.map Prod.snd = some i := by
  let placed := c.points.filterMap fun p =>
    if p.member = m then p.parameter?.map fun parameter => (parameter.2, p) else none
  let sorted := placed.mergeSort fun p q => p.1 ≤ q.1
  have hpoints : c.parameterPoints m = sorted.map Prod.snd := rfl
  -- the positions are sorted, and so is the range that they are
  have hplaced : placed.map Prod.fst = c.points.filterMap fun p =>
      if p.member = m then p.parameter?.map Prod.snd else none := by
    rw [List.map_filterMap]
    refine congrArg (List.filterMap · c.points) (funext fun p => ?_)
    split
    · rw [Option.map_map]
      rfl
    · rfl
  have hrange : sorted.map Prod.fst = List.range count :=
    List.Perm.eq_of_pairwise (fun _ _ _ _ => Nat.le_antisymm) (positions_sorted placed) List.pairwise_le_range
      (((List.mergeSort_perm ..).map Prod.fst).trans (hplaced ▸ hpositions))
  refine ⟨?_, fun {i p} hp => ?_⟩
  · rw [hpoints, List.length_map, ← List.length_map (f := Prod.fst), hrange, List.length_range]
  · rw [hpoints, List.getElem?_map] at hp
    obtain ⟨⟨position, q⟩, hq, rfl⟩ := Option.map_eq_some_iff.1 hp
    have hposition : (List.range count)[i]? = some position := by
      rw [← hrange, List.getElem?_map, hq]
      rfl
    obtain ⟨_, hposition'⟩ := List.getElem?_eq_some_iff.1 hposition
    have hmem : (position, q) ∈ placed := List.mem_mergeSort.1 (List.mem_of_getElem? hq)
    obtain ⟨q', hq', hplace⟩ := List.mem_filterMap.1 hmem
    split at hplace
    · next hmember =>
      obtain ⟨parameter, hparameter, heq⟩ := Option.map_eq_some_iff.1 hplace
      cases heq
      rw [List.getElem_range] at hposition'
      exact ⟨hq', hmember, by rw [hparameter, Option.map_some, hposition']⟩
    · cases hplace

/-! ## Members that are told apart -/

/-- `c.Unambiguous` — every member that injection points belong to is one thing: no method has the
    name of the constructor, and the points of a method agree on how many parameters it has. -/
structure Unambiguous (c : Component ρ) : Prop where
  apart : ∀ {p m i k}, p ∈ c.points → p.slot = .methodParameter m i → c.constructor = some k →
    m.member ≠ k.member
  agree : ∀ {p q m n i j}, p ∈ c.points → q ∈ c.points → p.slot = .methodParameter m i →
    q.slot = .methodParameter n j → m.member = n.member → m.count = n.count

variable {d : Draft ρ} {c : Component ρ}

/-- Parameter points that cover their member stand at their positions. -/
theorem parameterPoints_of_build (h : d.build = .ok c) (m : Member) :
    (c.parameterPoints m).length = ((d.parametersOf m).head?.map Prod.fst).getD 0 ∧
      ∀ {i p}, (c.parameterPoints m)[i]? = some p →
        p ∈ c.points ∧ p.member = m ∧ p.parameter?.map Prod.snd = some i := by
  refine getElem?_parameterPoints ?_
  have hsame : (d.parametersOf m).map Prod.snd = c.points.filterMap fun p =>
      if p.member = m then p.parameter?.map Prod.snd else none := by
    rw [(Draft.checked_of_build h).1, Draft.parametersOf, List.map_filterMap]
    refine congrArg (List.filterMap · d.points) (funext fun p => ?_)
    split <;> rfl
  rw [← hsame]
  cases hm : d.parametersOf m with
  | nil => exact .nil
  | cons first rest =>
    have hperm := Draft.positions_perm h hm
    rwa [hm] at hperm

theorem points_of_build (h : d.build = .ok c) : c.points = d.points := by
  rw [(Draft.checked_of_build h).1]
  rfl

/-- All constructor points of an accepted component are of the constructor that it is made with. -/
theorem constructor_of_point (h : d.build = .ok c) {p : Point ρ} {k' : Constructor ρ} {i : Nat}
    (hp : p ∈ c.points) (hslot : p.slot = .constructorParameter k' i) :
    ∃ k, c.injectedConstructor = some k ∧ k.member = k'.member := by
  obtain ⟨rfl, hone, -⟩ := Draft.checked_of_build h
  have hconstructor : p.constructor? = some k' := by rw [Point.constructor?, hslot]
  cases hk : d.component.injectedConstructor with
  | none =>
    have hnone := List.findSome?_eq_none_iff.1 hk p hp
    rw [hconstructor] at hnone
    cases hnone
  | some k =>
    obtain ⟨q, hq, hqk⟩ := List.exists_of_findSome?_eq_some hk
    have hmem : ∀ {q : Point ρ} {k : Constructor ρ}, q ∈ d.points → q.constructor? = some k →
        k.member ∈ d.constructors := fun hq hqk =>
      List.mem_eraseDups.2 (List.mem_filterMap.2 ⟨_, hq, by rw [hqk]; rfl⟩)
    exact ⟨k, rfl, hone _ (hmem hq hqk) _ (hmem hp hconstructor)⟩

/-- A constructor with injection points gets one argument for each parameter; whatever it gets is
    for its own points, each in its place. -/
theorem constructor_parameterPoints (h : d.build = .ok c) (hc : c.Unambiguous) {k : Constructor ρ}
    (hk : c.constructor = some k) :
    (c.injectedConstructor = some k → (c.parameterPoints k.member).length = k.count) ∧
      ∀ {i p}, (c.parameterPoints k.member)[i]? = some p →
        p ∈ c.points ∧ p.slot.IsOfConstructor k i := by
  obtain ⟨hlength, hplaces⟩ := parameterPoints_of_build h k.member
  refine ⟨fun hinjected => ?_, fun {i p} hp => ?_⟩
  · -- the parameter points of its member are the constructor points, so the first of them is its own
    have hcounts : (d.parametersOf k.member).map Prod.fst =
        (c.points.filterMap (·.constructor?)).map (·.count) := by
      rw [Draft.parametersOf, ← points_of_build h, List.map_filterMap, List.map_filterMap]
      refine List.filterMap_congr fun p hp => ?_
      rcases hslot : p.slot with f | ⟨m, i⟩ | ⟨k', i⟩
      · simp [Point.parameter?, Point.constructor?, hslot]
      · have happart := hc.apart hp hslot hk
        simp [Point.member, Point.constructor?, hslot, Slot.member, happart]
      · obtain ⟨k'', hk'', hmember⟩ := constructor_of_point h hp hslot
        rw [hinjected] at hk''
        cases hk''
        simp [Point.member, Point.parameter?, Point.constructor?, hslot, Slot.member, hmember]
    rw [hlength, ← List.head?_map, hcounts, List.head?_map, List.head?_filterMap]
    show (c.injectedConstructor.map _).getD 0 = k.count
    rw [hinjected]
    rfl
  · obtain ⟨hmem, hmember, hposition⟩ := hplaces hp
    rcases hslot : p.slot with f | ⟨m, j⟩ | ⟨k', j⟩
    · rw [Point.parameter?, hslot] at hposition
      cases hposition
    · rw [Point.member, hslot] at hmember
      exact absurd hmember (hc.apart hmem hslot hk)
    · rw [Point.member, hslot] at hmember
      rw [Point.parameter?, hslot] at hposition
      cases hposition
      exact ⟨hmem, k', rfl, hmember⟩

/-- So does a method that is called when an instance is wired. -/
theorem injectedMethod_parameterPoints (h : d.build = .ok c) (hc : c.Unambiguous) {level : String}
    {m : Method ρ} (hm : m ∈ c.injectedMethods level) :
    (c.parameterPoints m.member).length = m.count ∧
      ∀ {i p}, (c.parameterPoints m.member)[i]? = some p →
        p ∈ c.points ∧ p.slot.IsOfMethod m i := by
  obtain ⟨hlength, hplaces⟩ := parameterPoints_of_build h m.member
  -- one of its points is plain, and says of it what is known of it
  obtain ⟨q, hq, hplain⟩ := List.mem_filterMap.1
    (mem_of_mem_eraseDupsBy (fun m : Method ρ => m.member) hm)
  have hq : q ∈ c.points := (List.mem_filter.1 hq).1
  obtain ⟨j, hqslot⟩ : ∃ j, q.slot = .methodParameter m j := by
    rw [Point.plainMethod?] at hplain
    split at hplain
    · next j hslot _ =>
      cases hplain
      exact ⟨j, hslot⟩
    · cases hplain
  have hown : ∀ p ∈ c.points, p.member = m.member → p.parameter?.isSome →
      ∃ n i, p.slot = .methodParameter n i ∧ n.member = m.member ∧ n.count = m.count := by
    intro p hp hmember hparameter
    rcases hslot : p.slot with f | ⟨n, i⟩ | ⟨k', i⟩
    · rw [Point.parameter?, hslot] at hparameter
      cases hparameter
    · rw [Point.member, hslot] at hmember
      exact ⟨n, i, rfl, hmember, hc.agree hp hq hslot hqslot hmember⟩
    · obtain ⟨k, hk, hkmember⟩ := constructor_of_point h hp hslot
      rw [Point.member, hslot] at hmember
      have hconstructor : c.constructor = some k := by rw [constructor, hk]; rfl
      exact absurd (hmember.symm.trans hkmember.symm) (hc.apart hq hqslot hconstructor)
  refine ⟨?_, fun {i p} hp => ?_⟩
  · have hcounts : ∀ x ∈ d.parametersOf m.member, x.1 = m.count := by
      intro x hx
      rw [Draft.parametersOf, ← points_of_build h] at hx
      obtain ⟨p, hp, hparameter⟩ := List.mem_filterMap.1 hx
      split at hparameter
      · next hmember =>
        obtain ⟨n, i, hslot, -, hcount⟩ := hown p hp hmember (by rw [hparameter]; rfl)
        rw [Point.parameter?, hslot] at hparameter
        cases hparameter
        exact hcount
      · cases hparameter
    have hmem : (m.count, j) ∈ d.parametersOf m.member := by
      rw [Draft.parametersOf, ← points_of_build h]
      refine List.mem_filterMap.2 ⟨q, hq, ?_⟩
      rw [if_pos (by rw [Point.member, hqslot]; rfl), Point.parameter?, hqslot]
    rw [hlength]
    cases hfirst : d.parametersOf m.member with
    | nil =>
      rw [hfirst] at hmem
      cases hmem
    | cons first rest => exact hcounts first (hfirst ▸ List.mem_cons_self)
  · obtain ⟨hmem, hmember, hposition⟩ := hplaces hp
    have hparameter : p.parameter?.isSome := by
      cases hnone : p.parameter? with
      | none =>
        rw [hnone] at hposition
        cases hposition
      | some parameter => rfl
    obtain ⟨n, i', hslot, hnmember, -⟩ := hown p hmem hmember hparameter
    rw [Point.parameter?, hslot] at hposition
    cases hposition
    exact ⟨hmem, n, hslot, hnmember⟩

/-- `c.Placed` — whatever member the component calls with arguments, the points that it asks for are
    the member's own, one for each parameter and in its place.  A default constructor need not have
    points for its parameters. -/
structure Placed (c : Component ρ) : Prop where
  length_constructor : ∀ {k}, c.injectedConstructor = some k →
    (c.parameterPoints k.member).length = k.count
  own_constructor : ∀ {k i p}, c.constructor = some k → (c.parameterPoints k.member)[i]? = some p →
    p ∈ c.points ∧ p.slot.IsOfConstructor k i
  length_method : ∀ {level m}, m ∈ c.injectedMethods level →
    (c.parameterPoints m.member).length = m.count
  own_method : ∀ {level m i p}, m ∈ c.injectedMethods level →
    (c.parameterPoints m.member)[i]? = some p → p ∈ c.points ∧ p.slot.IsOfMethod m i

theorem placed_of_build (h : d.build = .ok c) (hc : c.Unambiguous) : c.Placed where
  length_constructor hk :=
    (constructor_parameterPoints h hc (by rw [constructor, hk]; rfl)).1 hk
  own_constructor hk := (constructor_parameterPoints h hc hk).2
  length_method hm := (injectedMethod_parameterPoints h hc hm).1
  own_method hm := (injectedMethod_parameterPoints h hc hm).2

end Component

end Wiring
