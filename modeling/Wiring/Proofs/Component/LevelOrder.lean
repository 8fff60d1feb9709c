/-
  Ordering operations by level is a stable sort.

  1. Each level has a depth, the first place that it takes in the hierarchy.  The levels without
     repetitions come by ascending depth (`eraseDups_ascending`).
  2. `byLevel levels ops` takes what `ops` has for each of the levels in turn.  If every operation is
     on one of the levels, and no level is named twice, then nothing is lost and nothing comes twice
     (`byLevel_perm`), the levels decide the order (`byLevel_pairwise`), and on each level the order
     is the declared one (`filter_byLevel`).
  3. `d.Arranged R ops ops'` says all three of the callbacks of a draft.  An accepted draft has its
     callbacks arranged down the hierarchy after construction, and up before destruction.
-/
import Mathlib.Data.List.Dedup
import Wiring.Proofs.Component.Interleaved

namespace Wiring

/-! ## Depths -/

section

variable {α : Type} [DecidableEq α]

/-- Whoever comes first, comes first among those that are chosen. -/
theorem idxOf_filter_lt_iff {p : α → Bool} {a b : α} (ha : p a = true) (hb : p b = true)
    (xs : List α) : (xs.filter p).idxOf a < (xs.filter p).idxOf b ↔ xs.idxOf a < xs.idxOf b := by
  induction xs with
  | nil => simp
  | cons x xs ih =>
    cases hx : p x with
    | true =>
      rw [List.filter_cons_of_pos hx]
      by_cases hxa : x = a
      · subst hxa
        by_cases hxb : x = b
        · simp [hxb]
        · rw [List.idxOf_cons_self, List.idxOf_cons_self, List.idxOf_cons_ne _ hxb,
            List.idxOf_cons_ne _ hxb]
          exact iff_of_true (Nat.zero_lt_succ _) (Nat.zero_lt_succ _)
      · by_cases hxb : x = b
        · subst hxb
          simp
        · rw [List.idxOf_cons_ne _ hxa, List.idxOf_cons_ne _ hxb, List.idxOf_cons_ne _ hxa,
            List.idxOf_cons_ne _ hxb, Nat.succ_lt_succ_iff, Nat.succ_lt_succ_iff, ih]
    | false =>
      have hxa : x ≠ a := by
        rintro rfl
        rw [hx] at ha
        cases ha
      have hxb : x ≠ b := by
        rintro rfl
        rw [hx] at hb
        cases hb
      rw [List.filter_cons_of_neg (by simp [hx]), List.idxOf_cons_ne _ hxa,
        List.idxOf_cons_ne _ hxb, Nat.succ_lt_succ_iff, ih]

/-- Without repetitions, elements come in the order of their first places. -/
theorem eraseDups_ascending :
    ∀ xs : List α, xs.eraseDups.Pairwise fun a b => xs.idxOf a < xs.idxOf b
  | [] => List.Pairwise.nil
  | x :: xs => by
    have hne : ∀ {y : α}, y ∈ (xs.filter fun y => !y == x).eraseDups → x ≠ y := by
      intro y hy heq
      have hy := (List.mem_filter.1 (List.mem_eraseDups.1 hy)).2
      rw [heq, beq_self_eq_true] at hy
      cases hy
    rw [List.eraseDups_cons]
    refine List.pairwise_cons.2 ⟨fun y hy => ?_, ?_⟩
    · rw [List.idxOf_cons_self, List.idxOf_cons_ne _ (hne hy)]
      exact Nat.zero_lt_succ _
    · -- the rest is without `x`, which moves all places by one or more and keeps their order
      refine (eraseDups_ascending (xs.filter fun y => !y == x)).imp_of_mem fun ha hb hlt => ?_
      rw [List.idxOf_cons_ne _ (hne ha), List.idxOf_cons_ne _ (hne hb), Nat.succ_lt_succ_iff]
      refine (idxOf_filter_lt_iff ?_ ?_ xs).1 hlt
      · simpa using (hne ha).symm
      · simpa using (hne hb).symm
termination_by xs => xs.length
decreasing_by exact Nat.lt_succ_of_le (List.length_filter_le _ _)

theorem nodup_eraseDups (xs : List α) : xs.eraseDups.Nodup :=
  (eraseDups_ascending xs).imp fun hlt heq => by
    rw [heq] at hlt
    exact Nat.lt_irrefl _ hlt

end

namespace Draft

variable {ρ : Type} {levels : List String} {ops : List (Operation ρ)}

/-! ## Operations by level -/

/-- The levels decide the order; on one level, nothing is said here. -/
theorem byLevel_pairwise {R : String → String → Prop} (h : levels.Pairwise R)
    (hrefl : ∀ level, R level level) :
    (byLevel levels ops).Pairwise fun a b => R a.member.level b.member.level := by
  have hon : ∀ {level : String} {op : Operation ρ},
      op ∈ ops.filter (fun op => decide (op.member.level = level)) → op.member.level = level :=
    fun hop => of_decide_eq_true (List.mem_filter.1 hop).2
  rw [byLevel, List.pairwise_flatMap]
  refine ⟨fun level _ => List.pairwise_of_forall_mem_list fun a ha b hb => ?_,
    h.imp fun hR a ha b hb => ?_⟩
  · rw [hon ha, hon hb]
    exact hrefl level
  · rw [hon ha, hon hb]
    exact hR

/-- On each level the declared order is kept. -/
theorem filter_byLevel (hlevels : levels.Nodup) (hops : ∀ op ∈ ops, op.member.level ∈ levels)
    (level : String) : (byLevel levels ops).filter (fun op => decide (op.member.level = level)) =
      ops.filter fun op => decide (op.member.level = level) := by
  have hsame : ∀ l : String, (ops.filter fun op => decide (op.member.level = l)).filter
      (fun op => decide (op.member.level = level)) =
        if l = level then ops.filter fun op => decide (op.member.level = level) else [] := by
    intro l
    rw [List.filter_filter]
    split
    · next hl => simp [hl]
    · next hl =>
      refine List.filter_eq_nil_iff.2 fun op _ h => ?_
      rw [Bool.and_eq_true, decide_eq_true_iff, decide_eq_true_iff] at h
      exact hl (h.2.symm.trans h.1)
  have hturn : ∀ ls : List String, ls.Nodup →
      (ls.flatMap fun l => if l = level then
        ops.filter fun op => decide (op.member.level = level) else []) =
      if level ∈ ls then ops.filter fun op => decide (op.member.level = level) else [] := by
    intro ls hls
    induction ls with
    | nil => rfl
    | cons l ls ih =>
      obtain ⟨hl, hls⟩ := List.nodup_cons.1 hls
      rw [List.flatMap_cons, ih hls]
      by_cases heq : l = level
      · subst heq
        rw [if_pos rfl, if_neg hl, List.append_nil, if_pos List.mem_cons_self]
      · rw [if_neg heq, List.nil_append]
        simp [Ne.symm heq]
  rw [byLevel, List.filter_flatMap]
  simp only [hsame]
  rw [hturn levels hlevels]
  split
  · rfl
  · next hlevel =>
    -- then nothing is on this level
    refine (List.filter_eq_nil_iff.2 fun op hop h => hlevel ?_).symm
    rw [← of_decide_eq_true h]
    exact hops op hop

/-- Nothing is lost, and nothing comes twice. -/
theorem byLevel_perm (hlevels : levels.Nodup) (hops : ∀ op ∈ ops, op.member.level ∈ levels) :
    (byLevel levels ops).Perm ops := by
  induction levels generalizing ops with
  | nil =>
    obtain rfl : ops = [] := List.eq_nil_iff_forall_not_mem.2 fun op hop => by cases hops op hop
    exact .nil
  | cons level levels ih =>
    obtain ⟨hlevel, hlevels⟩ := List.nodup_cons.1 hlevels
    let others := ops.filter fun op => !decide (op.member.level = level)
    have hothers : byLevel levels ops = byLevel levels others := by
      refine List.flatMap_congr fun l hl => ?_
      rw [List.filter_filter]
      refine List.filter_congr fun op _ => ?_
      by_cases hop : op.member.level = l
      · have hne : l ≠ level := fun heq => hlevel (heq ▸ hl)
        simp [hop, hne]
      · simp [hop]
    have hmem : ∀ op ∈ others, op.member.level ∈ levels := by
      intro op hop
      obtain ⟨hop, hne⟩ := List.mem_filter.1 hop
      refine (List.mem_cons.1 (hops op hop)).resolve_left ?_
      simpa using hne
    have hsplit : byLevel (level :: levels) ops =
        ops.filter (fun op => decide (op.member.level = level)) ++ byLevel levels ops := rfl
    rw [hsplit, hothers]
    exact ((ih hlevels hmem).append_left _).trans (List.filter_append_perm _ ops)

/-! ## The callbacks of an accepted draft -/

variable {d : Draft ρ} {c : Component ρ}

/-- `d.depth level` — the first place of the level in the hierarchy. -/
def depth (d : Draft ρ) (level : String) : Nat := d.hierarchy.idxOf level

theorem levels_ascending (d : Draft ρ) :
    d.levels.Pairwise fun a b => d.depth a < d.depth b := eraseDups_ascending d.hierarchy

theorem mem_levels_of_build (h : d.build = .ok c) :
    ∀ op ∈ d.postConstruct ++ d.preDestroy, op.member.level ∈ d.levels := by
  intro op hop
  obtain ⟨hcheck, -⟩ := build_eq_ok_iff.1 h
  obtain ⟨-, -, -, -, -, hcallbacks⟩ := check_eq_none_iff.1 hcheck
  rw [levels, List.mem_eraseDups]
  exact hcallbacks _ (List.mem_map_of_mem hop)

/-- `d.Arranged R ops ops'` — `ops'` are the operations `ops` in the order of the depths of their
    levels, as `R` has it, and on each level in the order of `ops`. -/
structure Arranged (d : Draft ρ) (R : Nat → Nat → Prop) (ops ops' : List (Operation ρ)) : Prop where
  perm : ops'.Perm ops
  sorted : ops'.Pairwise fun a b => R (d.depth a.member.level) (d.depth b.member.level)
  stable : ∀ level, ops'.filter (fun op => decide (op.member.level = level)) =
    ops.filter fun op => decide (op.member.level = level)

/-- Callbacks after construction go down the hierarchy. -/
theorem arranged_postConstruct (h : d.build = .ok c) :
    d.Arranged (· ≤ ·) d.postConstruct c.postConstruct := by
  obtain ⟨-, rfl⟩ := build_eq_ok_iff.1 h
  have hmem : ∀ op ∈ d.postConstruct, op.member.level ∈ d.levels :=
    fun op hop => mem_levels_of_build h op (List.mem_append_left _ hop)
  have hnodup : d.levels.Nodup := nodup_eraseDups d.hierarchy
  exact ⟨byLevel_perm hnodup hmem,
    byLevel_pairwise (d.levels_ascending.imp Nat.le_of_lt) fun _ => Nat.le_refl _,
    filter_byLevel hnodup hmem⟩

/-- Callbacks before destruction go up the hierarchy, and on each level they are not reversed. -/
theorem arranged_preDestroy (h : d.build = .ok c) :
    d.Arranged (· ≥ ·) d.preDestroy c.preDestroy := by
  obtain ⟨-, rfl⟩ := build_eq_ok_iff.1 h
  have hmem : ∀ op ∈ d.preDestroy, op.member.level ∈ d.levels.reverse :=
    fun op hop => List.mem_reverse.2 (mem_levels_of_build h op (List.mem_append_right _ hop))
  have hnodup : d.levels.reverse.Nodup := List.nodup_reverse.2 (nodup_eraseDups d.hierarchy)
  exact ⟨byLevel_perm hnodup hmem,
    byLevel_pairwise (List.pairwise_reverse.2 (d.levels_ascending.imp Nat.le_of_lt))
      fun _ => Nat.le_refl _,
    filter_byLevel hnodup hmem⟩

end Draft

end Wiring
