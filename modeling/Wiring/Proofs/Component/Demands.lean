/-
  What a draft must meet to become a component.

  1. There are six demands, looked at in a fixed order (`Demand.all`).  `d.Meets q` says in terms of
     the draft alone that it meets a demand, and `d.Offends q r` who offends against it first, and
     how that is told.
  2. A demand is either met or offended against, and in one way only (`offence?_eq_none_iff`,
     `offence?_eq_some_iff`).
  3. The program looks for the first demand with an offence (`check_eq`), so the draft is accepted if
     it meets all of them, and is refused for the first that it does not meet.
-/
import Mathlib
import Wiring.Proofs.Component.Interleaved
import Wiring.Proofs.Component.Positions

namespace Wiring

/-- `Demand` — what is demanded of a draft. -/
inductive Demand where
  /-- It has a name. -/
  | name
  /-- Its members are on levels of its hierarchy, lifecycle callbacks apart. -/
  | levels
  /-- Its points belong to one constructor at most. -/
  | singleConstructor
  /-- Its points cover the parameters of each member. -/
  | parameters
  /-- If a constructor is intercepted, there is one. -/
  | constructible
  /-- Its lifecycle callbacks are on levels of its hierarchy. -/
  | callbackLevels
  deriving DecidableEq, Repr

namespace Demand

/-- `all` — every demand, in the order in which they are looked at. -/
def all : List Demand :=
  [name, levels, singleConstructor, parameters, constructible, callbackLevels]

theorem mem_all (q : Demand) : q ∈ all := by cases q <;> decide

end Demand

namespace Member

theorem before_iff {m n : Member} :
    m.before n = true ↔ m.level < n.level ∨ m.level = n.level ∧ m.name < n.name := by
  rw [before, Bool.or_eq_true, Bool.and_eq_true, decide_eq_true_iff, decide_eq_true_iff,
    decide_eq_true_iff]

theorem eq_or_before {m n : Member} (h : n.before m = false) : n = m ∨ m.before n = true := by
  rw [← Bool.not_eq_true, before_iff, not_or, not_lt, not_and, not_lt] at h
  rw [before_iff]
  rcases h.1.lt_or_eq with hlevel | hlevel
  · exact Or.inr (Or.inl hlevel)
  · rcases (h.2 hlevel.symm).lt_or_eq with hname | hname
    · exact Or.inr (Or.inr ⟨hlevel, hname⟩)
    · obtain ⟨level, name⟩ := m
      obtain ⟨level', name'⟩ := n
      cases hlevel
      cases hname
      exact Or.inl rfl

theorem before_trans {l m n : Member} (h : l.before m = true) (h' : m.before n = true) :
    l.before n = true := by
  rw [before_iff] at h h' ⊢
  rcases h with h | ⟨h, hname⟩
  · rcases h' with h' | ⟨h', -⟩
    · exact Or.inl (h.trans h')
    · exact Or.inl (h' ▸ h)
  · rw [h]
    exact h'.imp id fun ⟨h', hname'⟩ => ⟨h', hname.trans hname'⟩

theorem before_asymm {m n : Member} (h : m.before n = true) : n.before m = false := by
  rw [← Bool.not_eq_true]
  intro h'
  have hself := before_iff.1 (before_trans h h')
  simp at hself

end Member

/-- A list without duplicates begins with the first element and the first that is different. -/
theorem eraseDups_eq_cons_cons_iff {α : Type} [DecidableEq α] {xs : List α} {a b : α} :
    (∃ rest, xs.eraseDups = a :: b :: rest) ↔
      ∃ same rest, xs = a :: (same ++ b :: rest) ∧ (∀ x ∈ same, x = a) ∧ b ≠ a := by
  have hhead : ∀ {ys : List α}, (∃ rest, ys.eraseDups = b :: rest) ↔ ∃ rest, ys = b :: rest := by
    intro ys
    cases ys with
    | nil => simp
    | cons y ys => simp [List.eraseDups_cons]
  cases xs with
  | nil => simp
  | cons x xs =>
    rw [List.eraseDups_cons]
    constructor
    · rintro ⟨rest, h⟩
      obtain ⟨rfl, hrest⟩ := List.cons.inj h
      obtain ⟨rest, hrest⟩ := hhead.1 ⟨rest, hrest⟩
      obtain ⟨same, after, rfl, hsame, hb, -⟩ := List.filter_eq_cons_iff.1 hrest
      exact ⟨same, after, rfl, fun y hy => by simpa using hsame y hy, by simpa using hb⟩
    · rintro ⟨same, rest, h, hsame, hb⟩
      obtain ⟨rfl, rfl⟩ := List.cons.inj h
      have hfilter : (same ++ b :: rest).filter (fun y => !y == x) =
          b :: rest.filter fun y => !y == x :=
        List.filter_eq_cons_iff.2
          ⟨same, rest, rfl, fun y hy => by simpa using hsame y hy, by simpa using hb, rfl⟩
      obtain ⟨left, hleft⟩ := hhead.2 ⟨_, hfilter⟩
      exact ⟨left, by rw [hleft]⟩

namespace Draft

variable {ρ : Type}

/-! ## The demands, in terms of the draft -/

/-- `d.Covered m` — the points of the parameters of `m` have each position below the count that the
    first of them declares, once, and no other. -/
def Covered (d : Draft ρ) (m : Member) : Prop :=
  ∀ first ∈ (d.parametersOf m).head?,
    ((d.parametersOf m).map Prod.snd).Perm (List.range first.1)

/-- `d.GuardsConstruction` — an interceptor is declared for constructors, or for one of them. -/
def GuardsConstruction (d : Draft ρ) : Prop :=
  ∃ i, d.declarations = some i ∧ (i.constructorBinding ≠ [] ∨ ∃ m, i.environmentOf m ≠ [])

/-- `d.Meets q` — nothing offends against the demand `q`. -/
def Meets (d : Draft ρ) : Demand → Prop
  | .name => d.name ≠ ""
  | .levels => ∀ m ∈ d.members, m.level ∈ d.hierarchy
  | .singleConstructor => ∀ p ∈ d.points, ∀ p' ∈ d.points, ∀ k k', p.constructor? = some k →
    p'.constructor? = some k' → k.member = k'.member
  | .parameters => ∀ m, d.Covered m
  | .constructible => d.GuardsConstruction →
    (∃ p ∈ d.points, p.constructor?.isSome) ∨ d.defaultConstructor.isSome
  | .callbackLevels => ∀ op ∈ d.postConstruct ++ d.preDestroy, op.member.level ∈ d.hierarchy

/-- `d.Offends q r` — the first offence against the demand `q` is told by `r`. -/
inductive Offends (d : Draft ρ) : Demand → Rejection → Prop where
  | name (h : d.name = "") : Offends d .name .emptyName
  /-- The first member that is on no level. -/
  | levels {before m after} (hmembers : d.members = before ++ m :: after)
    (hbefore : ∀ n ∈ before, n.level ∈ d.hierarchy) (hm : m.level ∉ d.hierarchy) :
    Offends d .levels (.unknownLevel d.name m)
  /-- The first constructor with a point, and the first other one. -/
  | singleConstructor {first same second rest}
    (hpoints : d.points.filterMap (fun p => p.constructor?.map (·.member)) =
      first :: (same ++ second :: rest))
    (hsame : ∀ n ∈ same, n = first) (hsecond : second ≠ first) :
    Offends d .singleConstructor (.conflictingConstructors d.name first.name second.name)
  /-- The least member, by level and then by name, with parameters that are not covered. -/
  | parameters {m count} (hm : ¬ d.Covered m)
    (hleast : ∀ n, ¬ d.Covered n →
      n = m ∨ m.level < n.level ∨ m.level = n.level ∧ m.name < n.name)
    (hcount : ∃ position rest, d.parametersOf m = (count, position) :: rest) :
    Offends d .parameters (.invalidPositions d.name m.name count)
  | constructible (hguards : d.GuardsConstruction)
    (hpoints : ∀ p ∈ d.points, p.constructor? = none) (hdefault : d.defaultConstructor = none) :
    Offends d .constructible (.aroundConstructWithoutConstructor d.name)
  /-- The first callback that is on no level; those after construction come first. -/
  | callbackLevels {before op after}
    (hcallbacks : d.postConstruct ++ d.preDestroy = before ++ op :: after)
    (hbefore : ∀ x ∈ before, x.member.level ∈ d.hierarchy) (hop : op.member.level ∉ d.hierarchy) :
    Offends d .callbackLevels (.unknownLevel d.name op.member)

/-! ## The checks, one for each demand -/

variable {d : Draft ρ} {q : Demand} {r : Rejection} {m : Member} {count : Nat}

/-- `d.offence? q` — how the program tells an offence against `q`, if it finds one. -/
def offence? (d : Draft ρ) : Demand → Option Rejection
  | .name => if d.name.isEmpty then some .emptyName else none
  | .levels => (d.stray? d.members).map (.unknownLevel d.name)
  | .singleConstructor =>
    match d.constructors with
    | first :: second :: _ => some (.conflictingConstructors d.name first.name second.name)
    | _ => none
  | .parameters =>
    (d.parameterMembers.findSome? fun m => (d.uncovered m).map fun count => (m, count)).map
      fun x => .invalidPositions d.name x.1.name x.2
  | .constructible =>
    if d.constructors.isEmpty && d.defaultConstructor.isNone && d.interceptsConstruction
    then some (.aroundConstructWithoutConstructor d.name) else none
  | .callbackLevels =>
    (d.stray? ((d.postConstruct ++ d.preDestroy).map (·.member))).map (.unknownLevel d.name)

/-- The program goes through the demands in their order. -/
theorem check_eq (d : Draft ρ) : d.check = Demand.all.findSome? d.offence? := by
  simp only [Demand.all, List.findSome?_cons, List.findSome?_nil, offence?, check]
  cases d.name.isEmpty with
  | true => rfl
  | false =>
  cases d.stray? d.members with
  | some m => rfl
  | none =>
  rcases d.constructors with _ | ⟨first, _ | ⟨second, rest⟩⟩
  case cons.cons => rfl
  all_goals
    cases d.parameterMembers.findSome? fun m => (d.uncovered m).map fun count => (m, count) with
    | some x => rfl
    | none =>
    cases d.defaultConstructor <;> cases d.interceptsConstruction <;>
      cases d.stray? ((d.postConstruct ++ d.preDestroy).map (·.member)) <;> rfl

theorem stray?_eq_some_iff {ms : List Member} : d.stray? ms = some m ↔
    ∃ before after, ms = before ++ m :: after ∧ (∀ n ∈ before, n.level ∈ d.hierarchy) ∧
      m.level ∉ d.hierarchy := by
  rw [stray?, List.find?_eq_some_iff_append]
  simp only [Bool.not_eq_eq_eq_not, Bool.not_not, Bool.not_true, List.contains_iff_mem,
    ← Bool.not_eq_true]
  constructor
  · rintro ⟨hm, before, after, heq, hbefore⟩
    exact ⟨before, after, heq, hbefore, hm⟩
  · rintro ⟨before, after, heq, hbefore, hm⟩
    exact ⟨hm, before, after, heq, hbefore⟩

theorem guardsConstruction_iff : d.interceptsConstruction = true ↔ d.GuardsConstruction := by
  rw [interceptsConstruction, GuardsConstruction]
  cases d.declarations with
  | none => simp
  | some i =>
    have hvalues : i.constructorEnvironment.values.any (!·.isEmpty) = true ↔
        ∃ m, i.environmentOf m ≠ [] := by
      rw [List.any_eq_true]
      constructor
      · rintro ⟨is, his, hne⟩
        obtain ⟨⟨m, is⟩, hmem, rfl⟩ := List.mem_map.1 his
        refine ⟨m, ?_⟩
        rw [Declarations.environmentOf, i.constructorEnvironment.get?_eq_some_iff.2 hmem]
        simpa using hne
      · rintro ⟨m, hne⟩
        rw [Declarations.environmentOf] at hne
        cases his : i.constructorEnvironment.get? m with
        | none =>
          rw [his] at hne
          exact absurd rfl hne
        | some is =>
          rw [his] at hne
          exact ⟨is, List.mem_map.2 ⟨(m, is), Table.mem_entries_of_get? his, rfl⟩, by simpa using hne⟩
    simp only [Option.some.injEq, exists_eq_left', Declarations.interceptsConstruction,
      Bool.or_eq_true, hvalues]
    simp

/-! ## Parameters -/

theorem uncovered_eq_none_iff : d.uncovered m = none ↔ d.Covered m := by
  rw [uncovered, Covered]
  cases d.parametersOf m with
  | nil => simp
  | cons first rest =>
    obtain ⟨count, position⟩ := first
    have hhead : ∀ P : Nat × Nat → Prop,
        (∀ x ∈ ((count, position) :: rest).head?, P x) ↔ P (count, position) := by simp
    rw [hhead, List.map_cons, ← covers_iff]
    dsimp only
    cases covers (position :: rest.map Prod.snd) count <;> simp

theorem uncovered_eq_some_iff : d.uncovered m = some count ↔
    ¬ d.Covered m ∧ ∃ position rest, d.parametersOf m = (count, position) :: rest := by
  rw [← uncovered_eq_none_iff, uncovered]
  cases d.parametersOf m with
  | nil => simp
  | cons first rest =>
    obtain ⟨count', position⟩ := first
    dsimp only
    cases covers (position :: rest.map Prod.snd) count' <;> simp

/-- What is not covered has points. -/
theorem mem_parameterMembers_of_uncovered (h : ¬ d.Covered m) : m ∈ d.parameterMembers := by
  rw [mem_parameterMembers]
  cases hpoints : d.parametersOf m with
  | nil =>
    rw [Covered, hpoints] at h
    exact absurd nofun h
  | cons x rest =>
    have hx : x ∈ d.parametersOf m := hpoints ▸ List.mem_cons_self
    obtain ⟨p, hp, hparameter⟩ := List.mem_filterMap.1 hx
    obtain ⟨hmember, hparameter⟩ := Option.ite_none_right_eq_some.1 hparameter
    exact ⟨p, hp, by rw [hparameter]; rfl, hmember⟩

theorem parameterMembers_sorted (d : Draft ρ) :
    d.parameterMembers.Pairwise fun m n => n.before m = false := by
  have htrans : ∀ l m n : Member, (!m.before l) = true → (!n.before m) = true →
      (!n.before l) = true := by
    intro l m n hlm hmn
    rw [Bool.not_eq_true'] at hlm hmn ⊢
    rcases Member.eq_or_before hlm with rfl | hlm
    · exact hmn
    · rcases Member.eq_or_before hmn with rfl | hmn
      · exact Member.before_asymm hlm
      · exact Member.before_asymm (Member.before_trans hlm hmn)
  have htotal : ∀ m n : Member, ((!n.before m) || (!m.before n)) = true := by
    intro m n
    cases h : n.before m with
    | false => rfl
    | true => simp [Member.before_asymm h]
  have hsorted := List.pairwise_mergeSort htrans htotal
    (d.points.filterMap fun p => p.parameter?.map fun _ => p.member).eraseDups
  exact hsorted.imp fun h => by simpa using h

/-- The program comes upon the least member first. -/
theorem findSome?_uncovered_iff :
    (d.parameterMembers.findSome? fun m => (d.uncovered m).map fun count => (m, count)) =
        some (m, count) ↔
      d.uncovered m = some count ∧ ∀ n, ¬ d.Covered n → n = m ∨ m.before n = true := by
  rw [List.findSome?_eq_some_iff]
  constructor
  · rintro ⟨before, m', after, hsplit, hm, hbefore⟩
    obtain ⟨count', hcount, heq⟩ := Option.map_eq_some_iff.1 hm
    cases heq
    refine ⟨hcount, fun n hn => ?_⟩
    have hmem := mem_parameterMembers_of_uncovered hn
    have hsorted := d.parameterMembers_sorted
    rw [hsplit] at hmem hsorted
    rcases List.mem_append.1 hmem with hmem | hmem
    · -- whoever comes earlier is covered
      have hnone := Option.map_eq_none_iff.1 (hbefore n hmem)
      exact absurd (uncovered_eq_none_iff.1 hnone) hn
    · rcases List.mem_cons.1 hmem with rfl | hmem
      · exact Or.inl rfl
      · have hlater := (List.pairwise_cons.1 (List.pairwise_append.1 hsorted).2.1).1 n hmem
        exact Member.eq_or_before hlater
  · rintro ⟨hcount, hleast⟩
    have hm := (uncovered_eq_some_iff.1 hcount).1
    obtain ⟨before, after, hsplit, hnotin⟩ :=
      List.eq_append_cons_of_mem (mem_parameterMembers_of_uncovered hm)
    refine ⟨before, m, after, hsplit, by rw [hcount]; rfl, fun n hn => ?_⟩
    rw [Option.map_eq_none_iff, uncovered_eq_none_iff]
    by_contra huncovered
    have hsorted := d.parameterMembers_sorted
    rw [hsplit] at hsorted
    have hfalse := (List.pairwise_append.1 hsorted).2.2 n hn m List.mem_cons_self
    rcases hleast n huncovered with rfl | hbefore
    · exact hnotin hn
    · rw [hbefore] at hfalse
      cases hfalse

/-! ## A demand is met, or there is a first offence -/

theorem constructors_eq_nil_iff : d.constructors = [] ↔ ∀ p ∈ d.points, p.constructor? = none := by
  rw [List.eq_nil_iff_forall_not_mem]
  simp only [mem_constructors]
  constructor
  · intro h p hp
    cases hk : p.constructor? with
    | none => rfl
    | some k => exact absurd ⟨p, hp, k, hk, rfl⟩ (h k.member)
  · rintro h m ⟨p, hp, k, hk, -⟩
    rw [h p hp] at hk
    cases hk

theorem offence?_constructible_iff :
    (d.constructors.isEmpty && d.defaultConstructor.isNone && d.interceptsConstruction) = true ↔
      d.GuardsConstruction ∧ (∀ p ∈ d.points, p.constructor? = none) ∧
        d.defaultConstructor = none := by
  rw [Bool.and_eq_true, Bool.and_eq_true, List.isEmpty_iff, Option.isNone_iff_eq_none,
    guardsConstruction_iff, constructors_eq_nil_iff]
  exact ⟨fun ⟨⟨h, h'⟩, h''⟩ => ⟨h'', h, h'⟩, fun ⟨h'', h, h'⟩ => ⟨⟨h, h'⟩, h''⟩⟩

theorem offence?_eq_some_iff : d.offence? q = some r ↔ d.Offends q r := by
  cases q with
  | name =>
    rw [offence?, Option.ite_none_right_eq_some, String.isEmpty_iff]
    constructor
    · rintro ⟨h, heq⟩
      cases heq
      exact .name h
    · rintro ⟨⟩
      exact ⟨‹_›, rfl⟩
  | levels =>
    rw [offence?, Option.map_eq_some_iff]
    constructor
    · rintro ⟨m, hm, rfl⟩
      obtain ⟨before, after, hmembers, hbefore, hm⟩ := stray?_eq_some_iff.1 hm
      exact .levels hmembers hbefore hm
    · rintro (_ | ⟨hmembers, hbefore, hm⟩)
      exact ⟨_, stray?_eq_some_iff.2 ⟨_, _, hmembers, hbefore, hm⟩, rfl⟩
  | singleConstructor =>
    have htwo : d.offence? .singleConstructor = some r ↔ ∃ first second,
        (∃ rest, d.constructors = first :: second :: rest) ∧
          r = .conflictingConstructors d.name first.name second.name := by
      rw [offence?]
      rcases d.constructors with _ | ⟨first, _ | ⟨second, rest⟩⟩
      · simp
      · simp
      · simp [eq_comm]
    rw [htwo]
    simp only [constructors, eraseDups_eq_cons_cons_iff]
    constructor
    · rintro ⟨first, second, ⟨same, rest, hpoints, hsame, hsecond⟩, rfl⟩
      exact .singleConstructor hpoints hsame hsecond
    · rintro (_ | _ | ⟨hpoints, hsame, hsecond⟩)
      exact ⟨_, _, ⟨_, _, hpoints, hsame, hsecond⟩, rfl⟩
  | parameters =>
    rw [offence?, Option.map_eq_some_iff]
    constructor
    · rintro ⟨⟨m, count⟩, hm, rfl⟩
      obtain ⟨hcount, hleast⟩ := findSome?_uncovered_iff.1 hm
      obtain ⟨hm, hcount⟩ := uncovered_eq_some_iff.1 hcount
      exact .parameters hm (fun n hn => (hleast n hn).imp id Member.before_iff.1) hcount
    · rintro (_ | _ | _ | ⟨hm, hleast, hcount⟩)
      exact ⟨_, findSome?_uncovered_iff.2 ⟨uncovered_eq_some_iff.2 ⟨hm, hcount⟩,
        fun n hn => (hleast n hn).imp id Member.before_iff.2⟩, rfl⟩
  | constructible =>
    rw [offence?, Option.ite_none_right_eq_some, offence?_constructible_iff]
    constructor
    · rintro ⟨⟨hguards, hpoints, hdefault⟩, heq⟩
      cases heq
      exact .constructible hguards hpoints hdefault
    · rintro (_ | _ | _ | _ | ⟨hguards, hpoints, hdefault⟩)
      exact ⟨⟨hguards, hpoints, hdefault⟩, rfl⟩
  | callbackLevels =>
    rw [offence?, Option.map_eq_some_iff]
    constructor
    · rintro ⟨m, hm, rfl⟩
      obtain ⟨_, _, hmembers, hbefore, hm⟩ := stray?_eq_some_iff.1 hm
      obtain ⟨before, rest, hcallbacks, rfl, hrest⟩ := List.map_eq_append_iff.1 hmembers
      obtain ⟨op, after, rfl, rfl, rfl⟩ := List.map_eq_cons_iff.1 hrest
      exact .callbackLevels hcallbacks (fun x hx => hbefore _ (List.mem_map_of_mem hx)) hm
    · rintro (_ | _ | _ | _ | _ | @⟨before, op, after, hcallbacks, hbefore, hop⟩)
      refine ⟨_, stray?_eq_some_iff.2 ⟨before.map (·.member), after.map (·.member), ?_,
        List.forall_mem_map.2 hbefore, hop⟩, rfl⟩
      rw [hcallbacks, List.map_append, List.map_cons]

theorem offence?_eq_none_iff : d.offence? q = none ↔ d.Meets q := by
  cases q with
  | name => simp [offence?, Meets]
  | levels => rw [offence?, Option.map_eq_none_iff, stray?_eq_none_iff, Meets]
  | singleConstructor =>
    have hone : d.offence? .singleConstructor = none ↔
        ∀ first second rest, d.constructors ≠ first :: second :: rest := by
      rw [offence?]
      rcases d.constructors with _ | ⟨first, _ | ⟨second, rest⟩⟩ <;> simp
    rw [hone, ← constructors_agree_iff]
    simp only [mem_constructors, Meets]
    constructor
    · intro h p hp p' hp' k k' hk hk'
      exact h _ ⟨p, hp, k, hk, rfl⟩ _ ⟨p', hp', k', hk', rfl⟩
    · rintro h _ ⟨p, hp, k, hk, rfl⟩ _ ⟨p', hp', k', hk', rfl⟩
      exact h p hp p' hp' k k' hk hk'
  | parameters =>
    rw [offence?, Option.map_eq_none_iff, List.findSome?_eq_none_iff, Meets]
    simp only [Option.map_eq_none_iff, uncovered_eq_none_iff]
    refine ⟨fun h m => ?_, fun h m _ => h m⟩
    by_contra hm
    exact hm (h m (mem_parameterMembers_of_uncovered hm))
  | constructible =>
    rw [offence?, ite_eq_right_iff]
    simp only [reduceCtorEq, imp_false, offence?_constructible_iff, Meets, not_and]
    refine forall_congr' fun _ => ?_
    constructor
    · intro h
      by_cases hpoints : ∀ p ∈ d.points, p.constructor? = none
      · exact Or.inr (Option.isSome_iff_ne_none.2 (h hpoints))
      · push Not at hpoints
        exact Or.inl (hpoints.imp fun p hp => ⟨hp.1, Option.isSome_iff_ne_none.2 hp.2⟩)
    · rintro (⟨p, hp, hsome⟩ | hsome) hpoints
      · rw [hpoints p hp] at hsome
        cases hsome
      · exact Option.isSome_iff_ne_none.1 hsome
  | callbackLevels =>
    rw [offence?, Option.map_eq_none_iff, stray?_eq_none_iff, Meets, List.forall_mem_map]

theorem build_eq_error_iff : d.build = .error r ↔ d.check = some r := by
  rw [build]
  cases d.check with
  | none => simp
  | some reason => simp

/-- **What is accepted, and why anything else is refused.**  For every draft:
    1. It is accepted if and only if it meets all demands: it has a name; points, methods, default
       constructor and business methods are on levels of the hierarchy; the points of constructors
       belong to one; the positions of the points of each member are those below the count that the
       first of them declares, each once; there is a constructor if one is intercepted; and lifecycle
       callbacks are on levels of the hierarchy.
    2. Otherwise the rejection is that of the first demand, in this order, that it does not meet, and
       tells the first offence against it.
    3. Against a demand that is not met there is exactly one first offence. -/
theorem build_first_offence (d : Draft ρ) :
    ((∃ c, d.build = .ok c) ↔ ∀ q, d.Meets q) ∧
    (∀ r, d.build = .error r ↔ ∃ met q rest, Demand.all = met ++ q :: rest ∧
      (∀ q' ∈ met, d.Meets q') ∧ d.Offends q r) ∧
    ∀ q, ¬ d.Meets q ↔ ∃! r, d.Offends q r := by
  refine ⟨?_, fun r => ?_, fun q => ?_⟩
  · have haccepted : (∃ c, d.build = .ok c) ↔ d.check = none := by
      simp only [build_eq_ok_iff, exists_and_left, exists_eq', and_true]
    rw [haccepted, check_eq, List.findSome?_eq_none_iff]
    simp only [offence?_eq_none_iff]
    exact ⟨fun h q => h q (Demand.mem_all q), fun h q _ => h q⟩
  · rw [build_eq_error_iff, check_eq, List.findSome?_eq_some_iff]
    simp only [offence?_eq_some_iff, offence?_eq_none_iff]
    constructor
    · rintro ⟨met, q, rest, hall, hq, hmet⟩
      exact ⟨met, q, rest, hall, hmet, hq⟩
    · rintro ⟨met, q, rest, hall, hmet, hq⟩
      exact ⟨met, q, rest, hall, hq, hmet⟩
  · simp only [← offence?_eq_none_iff, ← offence?_eq_some_iff]
    cases d.offence? q with
    | none => simp [ExistsUnique]
    | some r => simp [ExistsUnique]

/-- Of two members with uncovered parameters the lesser is told, although its points came later; an
    unknown level of a callback is looked for only after that. -/
example :
    let draw : Method Nat := ⟨⟨⟨"Leaf", "draw"⟩, 1⟩, 1, true⟩
    let close : Method Nat := ⟨⟨⟨"Leaf", "close"⟩, 2⟩, 2, true⟩
    let d : Draft Nat :=
      { type := ⟨1⟩, name := "Leaf", postConstruct := [⟨⟨"Nowhere", "open"⟩, 3⟩]
        points := [⟨.methodParameter draw 1, ⟨4⟩, .plain⟩, ⟨.methodParameter close 0, ⟨4⟩, .plain⟩] }
    d.check = some (.invalidPositions "Leaf" "close" 2) := by
  intro draw close d
  dsimp only [d]
  cbv

end Draft

end Wiring
