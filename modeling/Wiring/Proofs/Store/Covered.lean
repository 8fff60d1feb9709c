/-
  To whom the live instances belong.

  `s.Covered roots` is the INVARIANT: from the roots, which are live and listed for nobody, every live
  instance can be reached.  It says less than that the store is a forest, and so it outlasts more: an
  instance may be listed whose dependents somebody else has had released.

  1. A tree that is stored brings a root of its own (`Covered.add`).
  2. Wherever a walk starts, it takes away no root but the one where it starts, and nothing that can
     be reached without it (`Covered.walk`).
  3. No root can be reached from another one (`Covered.eq_of_reaches`), so each root that is not held
     by anybody is the root of instances that belong to nobody.
-/
import Wiring.Proofs.Store.Forest
import Wiring.Proofs.Store.Reach
import Wiring.Proofs.Store.Tree

namespace Wiring

namespace Store

variable {V : Vocabulary} {s t : Store V} {h k : Handle} {roots pending : List Handle}
  {new gone : List (Handle × Stored V)}

/-! ## What can still be reached -/

/-- Where more is stored, more can be reached. -/
theorem Added.reaches (ht : Added new s t) (hreach : s.Reaches h k) : t.Reaches h k := by
  have hlists : s.Lists ≤ t.Lists := by
    rintro l m ⟨e, he, hm⟩
    refine ⟨e, ?_, hm⟩
    rw [find?_eq_some_iff, ht.entries]
    exact List.mem_append_left _ (find?_eq_some_iff.1 he)
  exact Relation.ReflTransGen.mono hlists _ _ hreach

/-- A walk leaves every way to what it does not come to. -/
theorem Walk.reaches (hwalk : Walk pending gone s t) (hk : ∀ l ∈ pending, ¬ s.Reaches l k)
    (hreach : s.Reaches h k) : t.Reaches h k := by
  induction hreach with
  | refl => exact .refl
  | @tail l m _ hlists ih =>
    have hl : ∀ x ∈ pending, ¬ s.Reaches x l := fun x hx hxl => hk x hx (hxl.tail hlists)
    obtain ⟨e, he, hm⟩ := hlists
    exact (ih hl).tail ⟨e, hwalk.find?_iff.2 ⟨he, hl⟩, hm⟩

/-- In a tree that is live, all is reached from the root, which has the largest handle. -/
theorem Tree.reaches (htree : Tree h new) (hlive : ∀ x ∈ new, x ∈ t.entries.entries) :
    ∀ x ∈ new, t.Reaches h x.1 ∧ x.1.number ≤ h.number := by
  -- the owner of an instance has a larger handle than it, but handles are bounded
  have hall : ∀ n, ∀ x ∈ new, t.next ≤ n + x.1.number → t.Reaches h x.1 ∧ x.1.number ≤ h.number := by
    intro n
    induction n with
    | zero =>
      intro x hx hle
      have hlt := t.issued x.1 (List.mem_map_of_mem (hlive x hx))
      omega
    | succ n ih =>
      intro x hx hle
      by_cases hroot : x.1 = h
      · exact ⟨hroot ▸ .refl, Nat.le_of_eq (congrArg _ hroot)⟩
      · obtain ⟨y, hy, hxy⟩ := htree.owned x hx hroot
        have hlt := htree.smaller y hy x.1 hxy
        obtain ⟨hreach, hle⟩ := ih y hy (by omega)
        exact ⟨hreach.tail ⟨y.2, find?_eq_some_iff.2 (hlive y hy), hxy⟩,
          Nat.le_of_lt (Nat.lt_of_lt_of_le hlt hle)⟩
  exact fun x hx => hall t.next x hx (Nat.le_add_right _ _)

/-! ## A tree that is stored -/

theorem Added.live (ht : Added new s t) : ∀ x ∈ new, x ∈ t.entries.entries := fun x hx => by
  rw [ht.entries]
  exact List.mem_append_right _ hx

/-- With a tree, only what belongs to its root is listed. -/
theorem Added.listed (ht : Added new s t) (htree : Tree h new) :
    ∀ k ∈ t.dependents, k ∈ s.dependents ∨ (k ∈ new.map Prod.fst ∧ k.number < h.number) := by
  intro k hk
  rw [dependents, ht.entries, List.flatMap_append, List.mem_append] at hk
  refine hk.imp id fun hnew => ?_
  obtain ⟨x, hx, hkx⟩ := List.mem_flatMap.1 hnew
  exact ⟨htree.closed x hx k hkx,
    Nat.lt_of_lt_of_le (htree.smaller x hx k hkx) (htree.reaches ht.live x hx).2⟩

/-! ## Roots -/

/-- `s.Covered roots` — every live instance can be reached from one of the `roots`; these are live
    and listed for nobody. -/
structure Covered (s : Store V) (roots : List Handle) : Prop where
  reached : ∀ k ∈ s.entries.keys, ∃ r ∈ roots, s.Reaches r k
  live : ∀ r ∈ roots, r ∈ s.entries.keys
  unlisted : ∀ r ∈ roots, r ∉ s.dependents
  /-- Whatever is listed has been issued. -/
  issued : ∀ k ∈ s.dependents, k.number < s.next
  distinct : roots.Nodup

namespace Covered

theorem empty : (∅ : Store V).Covered [] := ⟨nofun, nofun, nofun, nofun, List.nodup_nil⟩

theorem perm {roots' : List Handle} (hs : s.Covered roots) (hroots : roots.Perm roots') :
    s.Covered roots' where
  reached k hk := by
    obtain ⟨r, hr, hreach⟩ := hs.reached k hk
    exact ⟨r, hroots.mem_iff.1 hr, hreach⟩
  live r hr := hs.live r (hroots.mem_iff.2 hr)
  unlisted r hr := hs.unlisted r (hroots.mem_iff.2 hr)
  issued := hs.issued
  distinct := hroots.nodup_iff.1 hs.distinct

/-- A root can be reached from itself alone. -/
theorem eq_of_reaches (hs : s.Covered roots) (hk : k ∈ roots) (hreach : s.Reaches h k) : h = k := by
  cases hreach with
  | refl => rfl
  | @tail l _ _ hlists =>
    obtain ⟨e, he, hl⟩ := hlists
    exact absurd (mem_dependents.2 ⟨l, e, he, hl⟩) (hs.unlisted k hk)

/-- Nothing has been stored. -/
theorem of_added_nil (hs : s.Covered roots) (ht : Added [] s t) : t.Covered roots := by
  have hentries : t.entries.entries = s.entries.entries := ht.entries.trans (List.append_nil _)
  have hkeys : t.entries.keys = s.entries.keys := congrArg (List.map Prod.fst) hentries
  have hdependents : t.dependents = s.dependents := congrArg (List.flatMap _) hentries
  refine ⟨fun k hk => ?_, hkeys ▸ hs.live, hdependents ▸ hs.unlisted, fun k hk => ?_, hs.distinct⟩
  · obtain ⟨r, hr, hreach⟩ := hs.reached k (hkeys ▸ hk)
    exact ⟨r, hr, ht.reaches hreach⟩
  · exact Nat.lt_of_lt_of_le (hs.issued k (hdependents ▸ hk)) ht.next

/-- A tree has been stored. -/
theorem add (hs : s.Covered roots) (htree : Tree h new) (ht : Added new s t)
    (hnext : ∀ x ∈ new, x.1.number < t.next) : t.Covered (roots ++ [h]) := by
  have hissued : ∀ k ∈ new.map Prod.fst, k.number < t.next := List.forall_mem_map.2 hnext
  have hfresh : ∀ k ∈ new.map Prod.fst, s.next ≤ k.number := List.forall_mem_map.2 ht.fresh
  exact {
    reached k hk := by
      rw [ht.keys_eq] at hk
      rcases List.mem_append.1 hk with hold | hadded
      · obtain ⟨r, hr, hreach⟩ := hs.reached k hold
        exact ⟨r, List.mem_append_left _ hr, ht.reaches hreach⟩
      · obtain ⟨x, hx, rfl⟩ := List.mem_map.1 hadded
        exact ⟨h, List.mem_append_right _ List.mem_cons_self, (htree.reaches ht.live x hx).1⟩
    live r hr := by
      rw [ht.keys_eq]
      rcases List.mem_append.1 hr with hold | hnew
      · exact List.mem_append_left _ (hs.live r hold)
      · exact List.mem_append_right _ (List.mem_singleton.1 hnew ▸ htree.root)
    unlisted r hr hmem := by
      -- what is listed in the tree is newer than the old roots, and older than its own root
      rcases List.mem_append.1 hr with hold | hnew
      · rcases ht.listed htree r hmem with hbefore | ⟨hadded, -⟩
        · exact hs.unlisted r hold hbefore
        · exact absurd (s.issued r (hs.live r hold)) (Nat.not_lt.2 (hfresh r hadded))
      · obtain rfl := List.mem_singleton.1 hnew
        rcases ht.listed htree r hmem with hbefore | ⟨-, hlt⟩
        · exact absurd (hs.issued r hbefore) (Nat.not_lt.2 (hfresh r htree.root))
        · exact Nat.lt_irrefl _ hlt
    issued k hk := by
      rcases ht.listed htree k hk with hbefore | ⟨hadded, -⟩
      · exact Nat.lt_of_lt_of_le (hs.issued k hbefore) ht.next
      · exact hissued k hadded
    distinct := by
      refine List.nodup_append.2 ⟨hs.distinct, List.nodup_singleton h, ?_⟩
      rintro r hr _ hmem rfl
      rw [List.mem_singleton.1 hmem] at hr
      exact absurd (s.issued h (hs.live h hr)) (Nat.not_lt.2 (hfresh h htree.root)) }

/-- A walk from any handle has taken place. -/
theorem walk (hs : s.Covered roots) (hwalk : Walk [k] gone s t) :
    t.Covered (roots.filter (· ≠ k)) := by
  have hleft : ∀ {j}, j ∈ t.entries.keys ↔ j ∈ s.entries.keys ∧ ¬ s.Reaches k j := by
    intro j
    rw [← isSome_find?_iff, ← isSome_find?_iff, Option.isSome_iff_exists, Option.isSome_iff_exists,
      ← exists_and_right]
    refine exists_congr fun e => ?_
    rw [hwalk.find?_iff, List.forall_mem_singleton]
  exact {
    reached j hj := by
      obtain ⟨hlive, hnot⟩ := hleft.1 hj
      obtain ⟨r, hr, hreach⟩ := hs.reached j hlive
      have hne : r ≠ k := fun heq => hnot (heq ▸ hreach)
      exact ⟨r, List.mem_filter.2 ⟨hr, decide_eq_true hne⟩,
        hwalk.reaches (List.forall_mem_singleton.2 hnot) hreach⟩
    live r hr := by
      -- the walk cannot have come to another root than the one where it has begun
      obtain ⟨hroot, hne⟩ := List.mem_filter.1 hr
      exact hleft.2 ⟨hs.live r hroot,
        fun hreach => of_decide_eq_true hne (hs.eq_of_reaches hroot hreach).symm⟩
    unlisted r hr hmem :=
      hs.unlisted r (List.mem_filter.1 hr).1 (hwalk.dependents_subset hmem)
    issued j hj := by
      rw [hwalk.next]
      exact hs.issued j (hwalk.dependents_subset hj)
    distinct := hs.distinct.filter _ }

end Covered

end Store

end Wiring
