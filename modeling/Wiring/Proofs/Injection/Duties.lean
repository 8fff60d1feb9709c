/-
  What there is to do to wire an instance.

  1. `c.duties` reads it off the declarations, without regard to levels: each field of an injection
     point, each method with a plain point (one duty for one key, however many points it has), and
     each initializer.
  2. `c.dutiesOf level` is what is in fact done on one level.  It is the part of the duties that is
     declared there (`dutiesOf_eq_filter`): of the plain points with one key, the first on their
     level is the first of all.
  3. So all levels together do all duties, each once, if no level is gone through twice
     (`flatMap_dutiesOf_perm`).
-/
import Mathlib.Data.List.Basic
import Wiring.Proofs.Component.Interleaved

namespace Wiring

/-! ## Lists in groups -/

/-- Elements in groups are the elements, if each belongs to one of the groups and no group occurs
    twice. -/
theorem flatMap_filter_perm {α κ : Type} [DecidableEq κ] (key : α → κ) {groups : List κ}
    (hgroups : groups.Nodup) :
    ∀ {xs : List α}, (∀ x ∈ xs, key x ∈ groups) →
      (groups.flatMap fun g => xs.filter fun x => key x = g).Perm xs := by
  induction groups with
  | nil =>
    intro xs hxs
    rw [List.eq_nil_iff_forall_not_mem.2 fun x hx => absurd (hxs x hx) List.not_mem_nil]
    exact .nil
  | cons g groups ih =>
    intro xs hxs
    obtain ⟨hg, hgroups⟩ := List.nodup_cons.1 hgroups
    -- the first group is taken out, and the others do not miss it
    have hothers : (groups.flatMap fun g' => xs.filter fun x => key x = g') =
        groups.flatMap fun g' => (xs.filter fun x => !decide (key x = g)).filter
          fun x => key x = g' := by
      refine List.flatMap_congr fun g' hg' => ?_
      rw [List.filter_filter]
      refine List.filter_congr fun x _ => ?_
      by_cases hx : key x = g'
      · have hne : g' ≠ g := fun heq => hg (heq ▸ hg')
        simp [hx, hne]
      · simp [hx]
    rw [List.flatMap_cons, hothers]
    refine ((ih hgroups fun x hx => ?_).append_left _).trans (List.filter_append_perm _ xs)
    obtain ⟨hmem, hx⟩ := List.mem_filter.1 hx
    exact (List.mem_cons.1 (hxs x hmem)).resolve_left (by simpa using hx)

variable {ρ : Type}

/-- `Duty ρ` — one thing that wiring has to do: to set the field of a point, to call a method with
    a value for each of its points, or to call an initializer. -/
inductive Duty (ρ : Type) where
  | field (point : Point ρ) (field : Operation ρ)
  | method (method : Method ρ)
  | initializer (method : Method ρ)

namespace Duty

/-- `d.level` — the level that declares the member. -/
def level : Duty ρ → String
  | field p _ => p.level
  | method m | initializer m => m.member.level

/-- `ofFields points` — a duty for each field among the points. -/
def ofFields (points : List (Point ρ)) : List (Duty ρ) :=
  points.filterMap fun p => p.field?.map (.field p)

end Duty

namespace Component

/-- `c.plainMethods` — the methods with a point of plain role, each once, as their first such point
    has them. -/
def plainMethods (c : Component ρ) : List (Method ρ) :=
  (c.points.filterMap (·.plainMethod?)).eraseDupsBy fun m n => m.member = n.member

/-- `c.duties` — each field of a point, each method with a plain point, each initializer. -/
def duties (c : Component ρ) : List (Duty ρ) :=
  Duty.ofFields c.points ++ c.plainMethods.map .method ++
    (c.methods.filter (·.isInitializer)).map .initializer

/-- `c.dutiesOf level` — what is done on one level, in this order. -/
def dutiesOf (c : Component ρ) (level : String) : List (Duty ρ) :=
  Duty.ofFields (c.pointsOf level) ++ (c.injectedMethods level).map .method ++
    (c.initializers level).map .initializer

variable {c : Component ρ}

/-- What a level does is its part of the duties. -/
theorem dutiesOf_eq_filter (c : Component ρ) (level : String) :
    c.dutiesOf level = c.duties.filter fun d => d.level = level := by
  rw [dutiesOf, duties, List.filter_append, List.filter_append, List.filter_map, List.filter_map]
  refine congrArg₂ _ (congrArg₂ _ ?_ (congrArg _ ?_)) (congrArg _ ?_)
  · rw [Duty.ofFields, Duty.ofFields, pointsOf, List.filterMap_filter, List.filter_filterMap]
    refine List.filterMap_congr fun p _ => ?_
    cases p.field? with
    | none => simp
    | some f =>
      by_cases hp : p.level = level <;> simp [Duty.level, Option.filter_some, hp]
  · rw [injectedMethods, pointsOf, plainMethods]
    show _ = List.filter (fun m : Method ρ => decide (m.member.level = level)) _
    rw [filter_eraseDupsBy (fun m : Method ρ => m.member) fun m n h => by rw [h],
      List.filterMap_filter, List.filter_filterMap]
    refine congrArg (List.eraseDupsBy _) (List.filterMap_congr fun p _ => ?_)
    cases hp : p.plainMethod? with
    | none => simp
    | some m =>
      have hmember : m.member.level = p.level := congrArg _ (member_of_plainMethod? hp)
      by_cases hl : p.level = level <;> simp [Option.filter_some, hmember, hl]
  · rw [initializers, List.filter_filter]
    rfl

/-- A key with a plain point is that of one of these methods; a key without one is that of none. -/
theorem count_plainMethods (c : Component ρ) (key : Member) :
    (c.plainMethods.map (·.member)).count key =
      if key ∈ (c.points.filterMap (·.plainMethod?)).map (·.member) then 1 else 0 := by
  have hmem : key ∈ c.plainMethods.map (·.member) ↔
      key ∈ (c.points.filterMap (·.plainMethod?)).map (·.member) := by
    constructor
    · intro h
      obtain ⟨m, hm, hkey⟩ := List.mem_map.1 h
      exact List.mem_map.2
        ⟨m, mem_of_mem_eraseDupsBy (fun m : Method ρ => m.member) hm, hkey⟩
    · intro h
      obtain ⟨m, hm, rfl⟩ := List.mem_map.1 h
      obtain ⟨n, hn, hkey⟩ := exists_mem_eraseDupsBy (fun m : Method ρ => m.member) hm
      exact List.mem_map.2 ⟨n, hn, hkey⟩
  have hnodup : (c.plainMethods.map (·.member)).Nodup :=
    nodup_map_eraseDupsBy (fun m : Method ρ => m.member) _
  rw [hnodup.count]
  exact if_congr hmem rfl rfl

/-- Every duty is declared on a level of the hierarchy, if every member is. -/
theorem level_mem_of_duty (hc : c.Levelled)
    (hmethods : ∀ m ∈ c.methods, m.member.level ∈ c.hierarchy) :
    ∀ d ∈ c.duties, d.level ∈ c.hierarchy := by
  intro d hd
  rw [duties, List.mem_append, List.mem_append] at hd
  rcases hd with (hd | hd) | hd
  · obtain ⟨p, hp, hd⟩ := List.mem_filterMap.1 hd
    obtain ⟨f, -, rfl⟩ := Option.map_eq_some_iff.1 hd
    exact hc p hp
  · obtain ⟨m, hm, rfl⟩ := List.mem_map.1 hd
    obtain ⟨p, hp, hplain⟩ := List.mem_filterMap.1
      (mem_of_mem_eraseDupsBy (fun m : Method ρ => m.member) hm)
    show m.member.level ∈ _
    rw [member_of_plainMethod? hplain]
    exact hc p hp
  · obtain ⟨m, hm, rfl⟩ := List.mem_map.1 hd
    exact hmethods m (List.mem_filter.1 hm).1

/-- All levels together do all duties, if none of them is gone through twice. -/
theorem flatMap_dutiesOf_perm (hduties : ∀ d ∈ c.duties, d.level ∈ c.hierarchy)
    (hlevels : c.hierarchy.Nodup) : (c.hierarchy.flatMap c.dutiesOf).Perm c.duties := by
  rw [List.flatMap_congr fun level _ => c.dutiesOf_eq_filter level]
  exact flatMap_filter_perm Duty.level hlevels hduties

end Component

/-- An accepted draft declares everything on levels of its hierarchy. -/
theorem Draft.duties_levelled {d : Draft ρ} {c : Component ρ} (h : d.build = .ok c) :
    ∀ duty ∈ c.duties, duty.level ∈ c.hierarchy := by
  refine Component.level_mem_of_duty (Component.levelled_of_build h) fun m hm => ?_
  obtain ⟨hcheck, rfl⟩ := build_eq_ok_iff.1 h
  obtain ⟨-, hmembers, -⟩ := check_eq_none_iff.1 hcheck
  refine hmembers m.member (List.mem_append_left _ (List.mem_append_left _ ?_))
  exact List.mem_append_right _ (List.mem_map_of_mem hm)

end Wiring
