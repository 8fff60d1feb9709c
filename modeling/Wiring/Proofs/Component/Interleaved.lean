/-
  The order in which the members of a draft were added, across levels.

  1. `SameByLevel level xs ys` — on every level the two lists have the same elements, in the same
     order; how the levels are interleaved is left open.  What is read from one level alone is the
     same in both (`filter_and`, `filterMap_eq`), and so is membership (`mem_iff`).
  2. `d.Interleaved e` — the two drafts differ in nothing else.
  3. Every check of a draft either asks whether there is an offender at all, whatever its place, or
     looks at the parameters of one member, which is on one level (`check_eq_none_iff`).  So both
     drafts are accepted or neither is (`Interleaved.accepted_iff`).
  4. What wiring reads of an accepted component, it reads level by level or member by member
     (`ReadsAs`).  The one exception is the constructor, which is looked for among all points; but in
     an accepted draft the constructor points are on one level too (`ReadsAs.of_interleaved`).
-/
import Wiring.Proofs.Component.Positions

namespace Wiring

/-! ## Lists with levels -/

/-- `SameByLevel level xs ys` — the elements on any one level are the same, in the same order. -/
def SameByLevel {α : Type} (level : α → String) (xs ys : List α) : Prop :=
  ∀ l, (xs.filter fun x => level x = l) = ys.filter fun y => level y = l

namespace SameByLevel

variable {α β : Type} {level : α → String} {xs ys : List α}

theorem symm (h : SameByLevel level xs ys) : SameByLevel level ys xs := fun l => (h l).symm

theorem mem_iff (h : SameByLevel level xs ys) {x : α} : x ∈ xs ↔ x ∈ ys := by
  have hlevel : ∀ zs : List α, x ∈ zs ↔ x ∈ zs.filter fun z => level z = level x := fun zs => by
    rw [List.mem_filter, decide_eq_true rfl, and_iff_left rfl]
  rw [hlevel xs, hlevel ys, h]

/-- Neighbours on different levels may change places. -/
theorem swap {x y : α} (zs : List α) (h : level x ≠ level y) :
    SameByLevel level (x :: y :: zs) (y :: x :: zs) := fun l => by
  by_cases hx : level x = l
  · simp [hx, hx ▸ h.symm]
  · simp [List.filter_cons, hx]

/-- A further choice among the elements of one level does not see the others either. -/
theorem filter_and (h : SameByLevel level xs ys) (l : String) (p : α → Bool) :
    (xs.filter fun x => level x = l && p x) = ys.filter fun y => level y = l && p y := by
  have hsplit : ∀ zs : List α, (zs.filter fun z => level z = l && p z) =
      (zs.filter fun z => level z = l).filter p := fun zs => by
    rw [List.filter_filter]
    exact List.filter_congr fun z _ => Bool.and_comm ..
  rw [hsplit xs, hsplit ys, h]

/-- What comes from the elements of one level alone comes in the same order. -/
theorem filterMap_eq (h : SameByLevel level xs ys) {f : α → Option β} {l : String}
    (hf : ∀ x ∈ xs, (f x).isSome → level x = l) : xs.filterMap f = ys.filterMap f := by
  have hlevel : ∀ zs : List α, (∀ z ∈ zs, z ∈ xs) →
      zs.filterMap f = (zs.filter fun z => level z = l).filterMap f := fun zs hzs => by
    rw [List.filterMap_filter]
    refine List.filterMap_congr fun z hz => ?_
    split
    · rfl
    · next hz' =>
      cases hfz : f z with
      | none => rfl
      | some b => exact absurd (decide_eq_true (hf z (hzs z hz) (by rw [hfz]; rfl))) hz'
  rw [hlevel xs fun _ hz => hz, hlevel ys fun _ hz => h.mem_iff.2 hz, h]

end SameByLevel

variable {ρ : Type}

namespace Draft

/-! ## What the checks ask -/

section

variable {d : Draft ρ}

theorem stray?_eq_none_iff {ms : List Member} :
    d.stray? ms = none ↔ ∀ m ∈ ms, m.level ∈ d.hierarchy := by
  rw [stray?, List.find?_eq_none]
  refine forall₂_congr fun m _ => ?_
  rw [Bool.not_eq_true, Bool.not_eq_false', List.contains_iff_mem]

theorem mem_constructors {m : Member} :
    m ∈ d.constructors ↔ ∃ p ∈ d.points, ∃ k, p.constructor? = some k ∧ k.member = m := by
  rw [constructors, List.mem_eraseDups, List.mem_filterMap]
  exact exists_congr fun p => and_congr_right fun _ => Option.map_eq_some_iff

/-- The first two of the constructors are different. -/
theorem ne_of_constructors_eq {first second : Member} {rest : List Member}
    (h : d.constructors = first :: second :: rest) : first ≠ second := by
  rw [constructors] at h
  cases hall : d.points.filterMap fun p => p.constructor?.map (·.member) with
  | nil =>
    rw [hall] at h
    cases h
  | cons a as =>
    rw [hall, List.eraseDups_cons] at h
    obtain ⟨rfl, htail⟩ := List.cons.inj h
    have hsecond : second ∈ (as.filter fun b => !b == a).eraseDups := htail ▸ List.mem_cons_self
    have hne := (List.mem_filter.1 (List.mem_eraseDups.1 hsecond)).2
    intro heq
    rw [heq, beq_self_eq_true] at hne
    cases hne

/-- There is no second constructor exactly if all of them are one. -/
theorem constructors_agree_iff : (∀ m ∈ d.constructors, ∀ n ∈ d.constructors, m = n) ↔
    ∀ first second rest, d.constructors ≠ first :: second :: rest := by
  constructor
  · intro h first second rest heq
    refine ne_of_constructors_eq heq (h _ ?_ _ ?_) <;> simp [heq]
  · intro h m hm n hn
    rcases hlist : d.constructors with _ | ⟨first, _ | ⟨second, rest⟩⟩
    · rw [hlist] at hm
      cases hm
    · rw [hlist] at hm hn
      rw [List.mem_singleton.1 hm, List.mem_singleton.1 hn]
    · exact absurd hlist (h first second rest)

/-- Nothing is wrong with a draft whose name is not empty, whose members are on levels of the
    hierarchy, whose injection points belong to one constructor at most and cover the parameters of
    each member, and which has a constructor where one is intercepted. -/
theorem check_eq_none_iff : d.check = none ↔
    d.name.isEmpty = false ∧ (∀ m ∈ d.members, m.level ∈ d.hierarchy) ∧
    (∀ m ∈ d.constructors, ∀ n ∈ d.constructors, m = n) ∧
    (∀ m ∈ d.parameterMembers, d.uncovered m = none) ∧
    (d.interceptsConstruction → d.constructors ≠ [] ∨ d.defaultConstructor.isSome) ∧
    ∀ m ∈ (d.postConstruct ++ d.preDestroy).map (·.member), m.level ∈ d.hierarchy := by
  have hcovered : (∀ m ∈ d.parameterMembers, d.uncovered m = none) ↔
      (d.parameterMembers.findSome? fun m => (d.uncovered m).map fun count => (m, count)) =
        none := by
    simp only [List.findSome?_eq_none_iff, Option.map_eq_none_iff]
  have hmissing : (d.interceptsConstruction → d.constructors ≠ [] ∨ d.defaultConstructor.isSome) ↔
      (d.constructors.isEmpty && d.defaultConstructor.isNone && d.interceptsConstruction) =
        false := by
    cases d.constructors <;> cases d.defaultConstructor <;> cases d.interceptsConstruction <;> simp
  rw [check, ← stray?_eq_none_iff, ← stray?_eq_none_iff, constructors_agree_iff, hcovered, hmissing]
  cases d.name.isEmpty with
  | true => simp
  | false =>
  cases d.stray? d.members with
  | some m => simp
  | none =>
  cases d.parameterMembers.findSome? fun m => (d.uncovered m).map fun count => (m, count) with
  | some x => rcases d.constructors with _ | ⟨first, _ | ⟨second, rest⟩⟩ <;> simp
  | none =>
  cases d.stray? ((d.postConstruct ++ d.preDestroy).map (·.member)) with
  | some m =>
    rcases d.constructors with _ | ⟨first, _ | ⟨second, rest⟩⟩
    · cases d.defaultConstructor <;> cases d.interceptsConstruction <;> simp
    all_goals simp
  | none => rcases d.constructors with _ | ⟨first, _ | ⟨second, rest⟩⟩ <;> simp

end

/-! ## Drafts that differ in the interleaving alone -/

/-- `d.Interleaved e` — the two drafts have the same members on each level, in the same order, and
    otherwise the same parts. -/
structure Interleaved (d e : Draft ρ) : Prop where
  type : d.type = e.type
  name : d.name = e.name
  superclasses : d.superclasses = e.superclasses
  defaultConstructor : d.defaultConstructor = e.defaultConstructor
  business : d.business = e.business
  declarations : d.declarations = e.declarations
  points : SameByLevel Point.level d.points e.points
  methods : SameByLevel (·.member.level) d.methods e.methods
  postConstruct : SameByLevel (·.member.level) d.postConstruct e.postConstruct
  preDestroy : SameByLevel (·.member.level) d.preDestroy e.preDestroy

namespace Interleaved

variable {d e : Draft ρ}

theorem symm (h : d.Interleaved e) : e.Interleaved d where
  type := h.type.symm
  name := h.name.symm
  superclasses := h.superclasses.symm
  defaultConstructor := h.defaultConstructor.symm
  business := h.business.symm
  declarations := h.declarations.symm
  points := h.points.symm
  methods := h.methods.symm
  postConstruct := h.postConstruct.symm
  preDestroy := h.preDestroy.symm

theorem hierarchy_eq (h : d.Interleaved e) : d.hierarchy = e.hierarchy := by
  rw [hierarchy, hierarchy, h.superclasses, h.name]

theorem mem_constructors_iff (h : d.Interleaved e) {m : Member} :
    m ∈ d.constructors ↔ m ∈ e.constructors := by
  rw [mem_constructors, mem_constructors]
  exact exists_congr fun p => and_congr_left fun _ => h.points.mem_iff

theorem mem_parameterMembers_iff (h : d.Interleaved e) {m : Member} :
    m ∈ d.parameterMembers ↔ m ∈ e.parameterMembers := by
  rw [mem_parameterMembers, mem_parameterMembers]
  exact exists_congr fun p => and_congr_left fun _ => h.points.mem_iff

/-- The points of one member are on one level, so they come in the same order. -/
theorem parametersOf_eq (h : d.Interleaved e) (m : Member) :
    d.parametersOf m = e.parametersOf m := by
  refine h.points.filterMap_eq (l := m.level) fun p _ hp => ?_
  split at hp
  · next hm => rw [Point.level, hm]
  · cases hp

theorem uncovered_eq (h : d.Interleaved e) (m : Member) : d.uncovered m = e.uncovered m := by
  rw [uncovered, uncovered, h.parametersOf_eq]

theorem interceptsConstruction_eq (h : d.Interleaved e) :
    d.interceptsConstruction = e.interceptsConstruction := by
  rw [interceptsConstruction, interceptsConstruction, h.declarations]

theorem mem_members_iff (h : d.Interleaved e) {m : Member} : m ∈ d.members ↔ m ∈ e.members := by
  simp only [members, List.mem_append, List.mem_map, h.points.mem_iff, h.methods.mem_iff,
    h.defaultConstructor, h.business]

theorem mem_callbacks_iff (h : d.Interleaved e) {m : Member} :
    m ∈ (d.postConstruct ++ d.preDestroy).map (·.member) ↔
      m ∈ (e.postConstruct ++ e.preDestroy).map (·.member) := by
  simp only [List.mem_map, List.mem_append, h.postConstruct.mem_iff, h.preDestroy.mem_iff]

/-- What is wrong with one draft is not always the first thing wrong with the other, but there is
    something wrong with both or with neither. -/
theorem check_eq_none (h : d.Interleaved e) (hd : d.check = none) : e.check = none := by
  obtain ⟨hname, hmembers, hone, hcovered, hmissing, hcallbacks⟩ := check_eq_none_iff.1 hd
  refine check_eq_none_iff.2 ⟨h.name ▸ hname, fun m hm => ?_, fun m hm n hn => ?_,
    fun m hm => ?_, fun hi => ?_, fun m hm => ?_⟩
  · exact h.hierarchy_eq ▸ hmembers m (h.mem_members_iff.2 hm)
  · exact hone m (h.mem_constructors_iff.2 hm) n (h.mem_constructors_iff.2 hn)
  · exact h.uncovered_eq m ▸ hcovered m (h.mem_parameterMembers_iff.2 hm)
  · refine (hmissing (h.interceptsConstruction_eq ▸ hi)).imp (fun hne => ?_)
      (h.defaultConstructor ▸ ·)
    obtain ⟨m, hm⟩ := List.exists_mem_of_ne_nil _ hne
    exact List.ne_nil_of_mem (h.mem_constructors_iff.1 hm)
  · exact h.hierarchy_eq ▸ hcallbacks m (h.mem_callbacks_iff.2 hm)

theorem accepted_iff (h : d.Interleaved e) :
    (∃ c, d.build = .ok c) ↔ ∃ c, e.build = .ok c := by
  have haccepted : ∀ {d : Draft ρ}, (∃ c, d.build = .ok c) ↔ d.check = none := fun {d} =>
    ⟨fun ⟨_, hc⟩ => (build_eq_ok_iff.1 hc).1, fun hd => ⟨_, build_eq_ok_iff.2 ⟨hd, rfl⟩⟩⟩
  rw [haccepted, haccepted]
  exact ⟨h.check_eq_none, h.symm.check_eq_none⟩

end Interleaved

theorem byLevel_eq {ops ops' : List (Operation ρ)} (levels : List String)
    (h : SameByLevel (·.member.level) ops ops') : byLevel levels ops = byLevel levels ops' := by
  rw [byLevel, byLevel]
  exact List.flatMap_congr fun level _ => h level

end Draft

namespace Component

/-- `c.ReadsAs c'` — making and wiring an instance finds the same in both components. -/
structure ReadsAs (c c' : Component ρ) : Prop where
  name : c.name = c'.name
  hierarchy : c.hierarchy = c'.hierarchy
  constructor : c.constructor = c'.constructor
  parameterPoints : ∀ m, c.parameterPoints m = c'.parameterPoints m
  pointsOf : ∀ level, c.pointsOf level = c'.pointsOf level
  injectedMethods : ∀ level, c.injectedMethods level = c'.injectedMethods level
  initializers : ∀ level, c.initializers level = c'.initializers level
  constructionChain : ∀ k, c.constructionChain k = c'.constructionChain k

variable {d e : Draft ρ} {c c' : Component ρ}

/-- All constructor points of an accepted draft are of one constructor, hence on one level; so the
    first of them is the first also if the levels are interleaved in another way. -/
theorem injectedConstructor_eq (h : d.Interleaved e) (hd : d.build = .ok c) (he : e.build = .ok c') :
    c.injectedConstructor = c'.injectedConstructor := by
  rw [injectedConstructor, injectedConstructor, points_of_build hd, points_of_build he,
    ← List.head?_filterMap, ← List.head?_filterMap]
  refine congrArg List.head? ?_
  obtain ⟨-, hone, -⟩ := Draft.checked_of_build hd
  have hmem : ∀ {p k}, p ∈ d.points → p.constructor? = some k → k.member ∈ d.constructors :=
    fun hp hk => Draft.mem_constructors.2 ⟨_, hp, _, hk, rfl⟩
  have hmember : ∀ {p : Point ρ} {k}, p.constructor? = some k → p.level = k.member.level := by
    intro p k hk
    rw [Point.constructor?] at hk
    split at hk
    · next hslot =>
      cases hk
      rw [Point.level, Point.member, hslot]
      rfl
    · cases hk
  by_cases hany : ∃ p ∈ d.points, (p.constructor?).isSome
  · obtain ⟨p, hp, hk⟩ := hany
    obtain ⟨k, hk⟩ := Option.isSome_iff_exists.1 hk
    refine h.points.filterMap_eq (l := k.member.level) fun q hq hk' => ?_
    obtain ⟨k', hk'⟩ := Option.isSome_iff_exists.1 hk'
    rw [hmember hk', hone _ (hmem hq hk') _ (hmem hp hk)]
  · -- there is no constructor point at all, and so no level to look at
    exact h.points.filterMap_eq (l := "") fun q hq hk => absurd ⟨q, hq, hk⟩ hany

theorem ReadsAs.of_interleaved (h : d.Interleaved e) (hd : d.build = .ok c)
    (he : e.build = .ok c') : c.ReadsAs c' := by
  have hinjected := injectedConstructor_eq h hd he
  obtain ⟨-, rfl⟩ := Draft.build_eq_ok_iff.1 hd
  obtain ⟨-, rfl⟩ := Draft.build_eq_ok_iff.1 he
  have hpointsOf : ∀ level, d.component.pointsOf level = e.component.pointsOf level := h.points
  have hdefault : d.component.defaultConstructor = e.component.defaultConstructor :=
    h.defaultConstructor
  have hdeclarations : d.component.declarations = e.component.declarations := h.declarations
  refine ⟨h.name, h.hierarchy_eq, ?_, fun m => ?_, hpointsOf, fun level => ?_,
    fun level => h.methods.filter_and level _, fun k => ?_⟩
  · rw [Component.constructor, Component.constructor, hinjected, hdefault]
  · have hplaced := h.points.filterMap_eq (l := m.level)
      (f := fun p => if p.member = m then p.parameter?.map fun parameter => (parameter.2, p)
        else none) fun p _ hp => by
        split at hp
        · next hm => rw [Point.level, hm]
        · cases hp
    simp only [Component.parameterPoints, Draft.component, hplaced]
  · rw [Component.injectedMethods, Component.injectedMethods, hpointsOf]
  · rw [Component.constructionChain, Component.constructionChain, hdeclarations]

end Component

end Wiring
