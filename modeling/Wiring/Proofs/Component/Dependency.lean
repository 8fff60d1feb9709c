/-
  What a component depends on.

  `c.DependsOn u` reads the injection points as they are declared: all fields, the parameters of the
  constructor, and all parameters of a method of which at least one has the plain role.  The points
  that are asked for when an instance is made are exactly these (`mem_requests_iff`), as every
  member of an accepted component is declared on a level of its hierarchy.
-/
import Wiring.Component.Draft
import Wiring.Proofs.Container.Assembly
import Wiring.Proofs.Distinct

namespace Wiring

variable {ρ : Type}

namespace Component

variable {c : Component ρ}

/-- `c.IsAsked p` — the point `p` is one of a field, of the constructor, or of a method of which some
    point is plain. -/
def IsAsked (c : Component ρ) (p : Point ρ) : Prop :=
  p.field?.isSome ∨ p.parameter?.isSome ∧
    ((∃ k, c.constructor = some k ∧ p.member = k.member) ∨
      ∃ q ∈ c.points, q.plainMethod?.isSome ∧ q.member = p.member)

/-- `c.DependsOn u` — some point of `c` that is asked for requires the type `u`. -/
def DependsOn (c : Component ρ) (u : TypeKey) : Prop :=
  ∃ p ∈ c.points, c.IsAsked p ∧ p.requires = u

/-- `c.Levelled` — every injection point is declared on a level of the hierarchy. -/
def Levelled (c : Component ρ) : Prop := ∀ p ∈ c.points, p.level ∈ c.hierarchy

theorem levelled_of_build {d : Draft ρ} (h : d.build = .ok c) : c.Levelled := by
  obtain ⟨hcheck, rfl⟩ := Draft.build_eq_ok_iff.1 h
  intro p hp
  rw [Draft.check] at hcheck
  split at hcheck
  · cases hcheck
  · split at hcheck
    · cases hcheck
    · next hstray =>
      have hmember : p.member ∈ d.members := by
        refine List.mem_append_left _ (List.mem_append_left _ (List.mem_append_left _ ?_))
        exact List.mem_map_of_mem hp
      have hnone : d.stray? d.members = none := by
        cases hs : d.stray? d.members with
        | none => rfl
        | some m => exact absurd hs (hstray m)
      have hlevel := List.find?_eq_none.1 hnone p.member hmember
      rw [Bool.not_eq_true, Bool.not_eq_false'] at hlevel
      exact List.contains_iff_mem.1 hlevel

theorem mem_parameterPoints {m : Member} {p : Point ρ} :
    p ∈ c.parameterPoints m ↔ p ∈ c.points ∧ p.member = m ∧ p.parameter?.isSome := by
  simp only [parameterPoints, List.mem_map, List.mem_mergeSort, List.mem_filterMap]
  constructor
  · rintro ⟨⟨position, q⟩, ⟨q', hq', hsome⟩, rfl⟩
    split at hsome
    · next hm =>
      obtain ⟨parameter, hparameter, heq⟩ := Option.map_eq_some_iff.1 hsome
      cases heq
      exact ⟨hq', hm, by rw [hparameter]; rfl⟩
    · cases hsome
  · rintro ⟨hp, hm, hparameter⟩
    obtain ⟨parameter, hparameter⟩ := Option.isSome_iff_exists.1 hparameter
    exact ⟨(parameter.2, p), ⟨p, hp, by rw [if_pos hm, hparameter]; rfl⟩, rfl⟩

theorem member_of_plainMethod? {p : Point ρ} {m : Method ρ} (h : p.plainMethod? = some m) :
    m.member = p.member := by
  rw [Point.plainMethod?] at h
  rw [Point.member]
  split at h
  · next hslot _ =>
    cases h
    rw [hslot]
    rfl
  · cases h

/-- The methods that are injected on a level are those with a plain point there. -/
theorem exists_injectedMethod_iff {level : String} {m : Member} :
    (∃ n ∈ c.injectedMethods level, n.member = m) ↔
      ∃ q ∈ c.points, q.level = level ∧ q.plainMethod?.isSome ∧ q.member = m := by
  have hmem : ∀ n, n ∈ (c.pointsOf level).filterMap (·.plainMethod?) ↔
      ∃ q ∈ c.points, q.level = level ∧ q.plainMethod? = some n := by
    intro n
    simp only [pointsOf, List.mem_filterMap, List.mem_filter, decide_eq_true_eq]
    exact ⟨fun ⟨q, ⟨hq, hl⟩, hn⟩ => ⟨q, hq, hl, hn⟩, fun ⟨q, hq, hl, hn⟩ => ⟨q, ⟨hq, hl⟩, hn⟩⟩
  constructor
  · rintro ⟨n, hn, rfl⟩
    obtain ⟨q, hq, hl, hplain⟩ := (hmem n).1 (mem_of_mem_eraseDupsBy (fun m : Method ρ => m.member) hn)
    exact ⟨q, hq, hl, by rw [hplain]; rfl, (member_of_plainMethod? hplain).symm⟩
  · rintro ⟨q, hq, hl, hplain, rfl⟩
    obtain ⟨n, hn⟩ := Option.isSome_iff_exists.1 hplain
    obtain ⟨n', hn', heq⟩ := exists_mem_eraseDupsBy (fun m : Method ρ => m.member)
      ((hmem n).2 ⟨q, hq, hl, hn⟩)
    exact ⟨n', hn', heq.trans (member_of_plainMethod? hn)⟩

/-- What is asked for when an instance is made is what the declarations say. -/
theorem mem_requests_iff (hc : c.Levelled) {p : Point ρ} :
    p ∈ c.requests ↔ p ∈ c.points ∧ c.IsAsked p := by
  have hconstructor : p ∈ c.constructorPoints ↔
      p ∈ c.points ∧ p.parameter?.isSome ∧ ∃ k, c.constructor = some k ∧ p.member = k.member := by
    rw [constructorPoints]
    cases c.constructor with
    | none =>
      constructor
      · intro h
        cases h
      · rintro ⟨-, -, k, hk, -⟩
        cases hk
    | some k =>
      rw [mem_parameterPoints]
      constructor
      · rintro ⟨hp, hm, hpar⟩
        exact ⟨hp, hpar, k, rfl, hm⟩
      · rintro ⟨hp, hpar, k', hk, hm⟩
        cases hk
        exact ⟨hp, hm, hpar⟩
  have hlevel : (∃ level ∈ c.hierarchy, p ∈ c.levelPoints level) ↔
      p ∈ c.points ∧ (p.field?.isSome ∨ p.parameter?.isSome ∧
        ∃ q ∈ c.points, q.plainMethod?.isSome ∧ q.member = p.member) := by
    simp only [levelPoints, List.mem_append, List.mem_filter, pointsOf, decide_eq_true_eq,
      List.mem_flatMap, mem_parameterPoints]
    constructor
    · rintro ⟨level, -, ⟨⟨hp, -⟩, hfield⟩ | ⟨n, hn, hp, hm, hpar⟩⟩
      · exact ⟨hp, Or.inl hfield⟩
      · obtain ⟨q, hq, -, hplain, hmember⟩ :=
          exists_injectedMethod_iff.1 ⟨n, hn, rfl⟩
        exact ⟨hp, Or.inr ⟨hpar, q, hq, hplain, hmember.trans hm.symm⟩⟩
    · rintro ⟨hp, hfield | ⟨hpar, q, hq, hplain, hm⟩⟩
      · exact ⟨p.level, hc p hp, Or.inl ⟨⟨hp, rfl⟩, hfield⟩⟩
      · obtain ⟨n, hn, hmember⟩ := exists_injectedMethod_iff.2 ⟨q, hq, rfl, hplain, hm⟩
        exact ⟨q.level, hc q hq, Or.inr ⟨n, hn, hp, hmember.symm, hpar⟩⟩
  rw [requests, List.mem_append, List.mem_flatMap, hconstructor, hlevel, IsAsked]
  constructor
  · rintro (⟨hp, hpar, hk⟩ | ⟨hp, hfield | ⟨hpar, hmethod⟩⟩)
    · exact ⟨hp, Or.inr ⟨hpar, Or.inl hk⟩⟩
    · exact ⟨hp, Or.inl hfield⟩
    · exact ⟨hp, Or.inr ⟨hpar, Or.inr hmethod⟩⟩
  · rintro ⟨hp, hfield | ⟨hpar, hk | hmethod⟩⟩
    · exact Or.inr ⟨hp, Or.inl hfield⟩
    · exact Or.inl ⟨hp, hpar, hk⟩
    · exact Or.inr ⟨hp, Or.inr ⟨hpar, hmethod⟩⟩

theorem mem_requirements_iff (hc : c.Levelled) {u : TypeKey} :
    u ∈ c.requirements ↔ c.DependsOn u := by
  rw [requirements, List.mem_map, DependsOn]
  constructor
  · rintro ⟨p, hp, hu⟩
    obtain ⟨hmem, hasked⟩ := (mem_requests_iff hc).1 hp
    exact ⟨p, hmem, hasked, hu⟩
  · rintro ⟨p, hmem, hasked, hu⟩
    exact ⟨p, (mem_requests_iff hc).2 ⟨hmem, hasked⟩, hu⟩

end Component

end Wiring
