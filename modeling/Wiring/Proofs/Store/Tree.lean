/-
  A tree of instances, among whatever else is stored and released.

  1. `Tree h new` — `new` are the instances of one tree with the root `h`: what was made for them
     belongs to the tree too, has smaller handles, and all but the root was made for one of them.
  2. `s.carried t es` carries the list `es` along when the store changes from `s` to `t`: what leaves
     the store is left out, what comes to it is added.
  3. `Standing h new rest s` is the INVARIANT: what is live of the tree was stored with it and still
     belongs to something live of it, up to the root; and all that is live beside it is `rest`.  It
     is kept whatever is stored and wherever a walk starts, with `rest` carried along.
  4. So when the root is released at last, all of the tree is gone and all of `rest` is left
     (`Standing.cleared`).
-/
import Wiring.Proofs.Store.Walk

namespace Wiring

namespace Store

variable {V : Vocabulary} {s t : Store V} {h : Handle} {pending : List Handle}
  {new added rest gone : List (Handle × Stored V)}

/-- `Tree h new` — the entries `new` are one tree, and `h` is its root. -/
structure Tree (h : Handle) (new : List (Handle × Stored V)) : Prop where
  root : h ∈ new.map Prod.fst
  closed : ∀ x ∈ new, ∀ k ∈ x.2.dependents, k ∈ new.map Prod.fst
  smaller : ∀ x ∈ new, ∀ k ∈ x.2.dependents, k.number < x.1.number
  owned : ∀ x ∈ new, x.1 ≠ h → ∃ y ∈ new, x.1 ∈ y.2.dependents

/-- `Added added s t` — from `s` to `t`, the entries `added` have been stored, under handles that
    had not been issued before. -/
structure Added (added : List (Handle × Stored V)) (s t : Store V) : Prop where
  entries : t.entries.entries = s.entries.entries ++ added
  next : s.next ≤ t.next
  fresh : ∀ x ∈ added, s.next ≤ x.1.number

/-- `s.carried t es` — the entries `es` without those that have left the store on the way from `s`
    to `t`, and with those that have come to it. -/
def carried (s t : Store V) (es : List (Handle × Stored V)) : List (Handle × Stored V) :=
  (es.filter fun x => x.1 ∈ s.entries.keys → x.1 ∈ t.entries.keys) ++
    t.entries.entries.filter fun x => x.1 ∉ s.entries.keys

/-- `Standing h new rest s` — of the tree `new` over `h`, each live entry is as it was stored and
    belongs to a live one; beside it `rest` is live. -/
structure Standing (h : Handle) (new rest : List (Handle × Stored V)) (s : Store V) : Prop where
  issued : ∀ x ∈ new, x.1.number < s.next
  same : ∀ x ∈ s.entries.entries, x.1 ∈ new.map Prod.fst → x ∈ new
  owned : ∀ x ∈ s.entries.entries, x ∈ new → x.1 ≠ h →
    ∃ y ∈ s.entries.entries, y ∈ new ∧ x.1 ∈ y.2.dependents
  rest_eq : s.entries.entries.filter (fun x => x.1 ∉ new.map Prod.fst) = rest

/-! ## What is carried along -/

theorem Added.not_mem_keys (ht : Added added s t) : ∀ x ∈ added, x.1 ∉ s.entries.keys :=
  fun x hx hk => Nat.lt_irrefl _ (Nat.lt_of_lt_of_le (s.issued x.1 hk) (ht.fresh x hx))

theorem Added.keys_eq (ht : Added added s t) :
    t.entries.keys = s.entries.keys ++ added.map Prod.fst := by
  rw [Table.keys, ht.entries, List.map_append]
  rfl

theorem Added.carried_eq (ht : Added added s t) (es : List (Handle × Stored V)) :
    s.carried t es = es ++ added := by
  have hall : ∀ x : Handle × Stored V, x.1 ∈ s.entries.keys → x.1 ∈ t.entries.keys := by
    intro x hk
    rw [ht.keys_eq]
    exact List.mem_append_left _ hk
  have hold : s.entries.entries.filter (fun x => x.1 ∉ s.entries.keys) = [] :=
    List.filter_eq_nil_iff.2 fun x hx hnot => of_decide_eq_true hnot (List.mem_map_of_mem hx)
  have hnew : added.filter (fun x => x.1 ∉ s.entries.keys) = added :=
    List.filter_eq_self.2 fun x hx => decide_eq_true (ht.not_mem_keys x hx)
  rw [carried, ht.entries, List.filter_append, hold, hnew, List.nil_append]
  congr 1
  exact List.filter_eq_self.2 fun x _ => decide_eq_true (hall x)

theorem Walk.carried_eq (hwalk : Walk pending gone s t) (es : List (Handle × Stored V)) :
    s.carried t es = es.filter fun x => x.1 ∈ s.entries.keys → x.1 ∈ t.entries.keys := by
  have hnone : t.entries.entries.filter (fun x => x.1 ∉ s.entries.keys) = [] :=
    List.filter_eq_nil_iff.2 fun x hx hnot =>
      of_decide_eq_true hnot (hwalk.keys_subset (List.mem_map_of_mem hx))
  rw [carried, hnone, List.append_nil]

namespace Standing

/-- The tree stands when it has just been stored. -/
theorem start (htree : Tree h new) (ht : Added new s t) (hnext : ∀ x ∈ new, x.1.number < t.next) :
    Standing h new s.entries.entries t where
  issued := hnext
  same x hx hmem := by
    rw [ht.entries, List.mem_append] at hx
    refine hx.resolve_left fun hold => ?_
    obtain ⟨y, hy, heq⟩ := List.mem_map.1 hmem
    exact ht.not_mem_keys y hy (heq ▸ List.mem_map_of_mem hold)
  owned x _ hx hroot := by
    obtain ⟨y, hy, hxy⟩ := htree.owned x hx hroot
    refine ⟨y, ?_, hy, hxy⟩
    rw [ht.entries]
    exact List.mem_append_right _ hy
  rest_eq := by
    have hold : s.entries.entries.filter (fun x => x.1 ∉ new.map Prod.fst) = s.entries.entries := by
      refine List.filter_eq_self.2 fun x hx => decide_eq_true fun hmem => ?_
      obtain ⟨y, hy, heq⟩ := List.mem_map.1 hmem
      exact ht.not_mem_keys y hy (heq ▸ List.mem_map_of_mem hx)
    have hnew : new.filter (fun x => x.1 ∉ new.map Prod.fst) = [] :=
      List.filter_eq_nil_iff.2 fun x hx hnot =>
        of_decide_eq_true hnot (List.mem_map_of_mem hx)
    rw [ht.entries, List.filter_append, hold, hnew, List.append_nil]

/-- Whatever else is stored comes under other handles. -/
theorem add (hs : Standing h new rest s) (ht : Added added s t) :
    Standing h new (s.carried t rest) t := by
  have hother : ∀ x ∈ added, x.1 ∉ new.map Prod.fst := by
    intro x hx hmem
    obtain ⟨y, hy, heq⟩ := List.mem_map.1 hmem
    have hlt := hs.issued y hy
    have hle := ht.fresh x hx
    rw [heq] at hlt
    exact Nat.lt_irrefl _ (Nat.lt_of_lt_of_le hlt hle)
  constructor
  · exact fun x hx => Nat.lt_of_lt_of_le (hs.issued x hx) ht.next
  · intro x hx hmem
    rw [ht.entries, List.mem_append] at hx
    exact hx.elim (fun hold => hs.same x hold hmem) fun hnew => absurd hmem (hother x hnew)
  · intro x hx hnew hroot
    rw [ht.entries, List.mem_append] at hx
    have hold := hx.resolve_right fun hadded => hother x hadded (List.mem_map_of_mem hnew)
    obtain ⟨y, hy, hynew, hxy⟩ := hs.owned x hold hnew hroot
    refine ⟨y, ?_, hynew, hxy⟩
    rw [ht.entries]
    exact List.mem_append_left _ hy
  · rw [ht.carried_eq, ht.entries, List.filter_append, hs.rest_eq]
    congr 1
    exact List.filter_eq_self.2 fun x hx => decide_eq_true (hother x hx)

/-- A walk that takes the owner of an instance takes the instance too. -/
theorem walk (hs : Standing h new rest s) (hwalk : Walk pending gone s t) :
    Standing h new (s.carried t rest) t := by
  constructor
  · rw [hwalk.next]
    exact hs.issued
  · exact fun x hx => hs.same x (hwalk.mem_entries.1 hx).1
  · intro x hx hnew hroot
    obtain ⟨y, hy, hynew, hxy⟩ := hs.owned x (hwalk.mem_entries.1 hx).1 hnew hroot
    refine ⟨y, hwalk.mem_entries.2 ⟨hy, fun hgone => ?_⟩, hynew, hxy⟩
    obtain ⟨z, hz, heq⟩ := List.mem_map.1 hgone
    have hzy : z = y := by
      have hfirst := find?_eq_some_iff.2 (hwalk.known z hz)
      have hsecond := find?_eq_some_iff.2 hy
      rw [heq, hsecond] at hfirst
      exact Prod.ext heq (Option.some.inj hfirst).symm
    exact hwalk.dependents_dead y (hzy ▸ hz) x.1 hxy (List.mem_map_of_mem hx)
  · rw [hwalk.carried_eq, ← hs.rest_eq, List.filter_filter, hwalk.entries, List.filter_filter]
    refine List.filter_congr fun x hx => ?_
    have hiff : x.1 ∉ gone.map Prod.fst ↔ (x.1 ∈ s.entries.keys → x.1 ∈ t.entries.keys) := by
      rw [hwalk.mem_keys]
      have hk : x.1 ∈ s.entries.keys := List.mem_map_of_mem hx
      exact ⟨fun hgone hk => ⟨hk, hgone⟩, fun himp => (himp hk).2⟩
    rw [decide_eq_decide.2 hiff, Bool.and_comm]

/-- No part of the tree is live without its root. -/
theorem not_live (htree : Tree h new) (hs : Standing h new rest s)
    (hroot : h ∉ s.entries.keys) : ∀ x ∈ s.entries.entries, x ∉ new := by
  -- the owner of a live entry is live and has a larger handle, but handles are bounded
  have hall : ∀ n, ∀ x ∈ s.entries.entries, x ∈ new → s.next ≤ n + x.1.number → False := by
    intro n
    induction n with
    | zero =>
      intro x _ hnew hle
      rw [Nat.zero_add] at hle
      exact Nat.lt_irrefl _ (Nat.lt_of_lt_of_le (hs.issued x hnew) hle)
    | succ n ih =>
      intro x hx hnew hle
      have hne : x.1 ≠ h := fun heq => hroot (heq ▸ List.mem_map_of_mem hx)
      obtain ⟨y, hy, hynew, hxy⟩ := hs.owned x hx hnew hne
      have hlt := htree.smaller y hynew x.1 hxy
      exact ih y hy hynew (by omega)
  exact fun x hx hnew => hall s.next x hx hnew (Nat.le_add_right _ _)

/-- A walk from the root of the tree takes away what is left of the tree, and nothing else. -/
theorem cleared (htree : Tree h new) (hs : Standing h new rest s) (hwalk : Walk [h] gone s t) :
    t.entries.entries = rest ∧
      t.entries.entries = s.entries.entries.filter (fun x => x.1 ∉ new.map Prod.fst) := by
  have hdead := (hs.walk hwalk).not_live htree (hwalk.pending_dead h (List.mem_singleton.2 rfl))
  have hgone : ∀ x ∈ gone, x.1 ∈ new.map Prod.fst := by
    refine hwalk.least (fun k hk => ?_) fun x hx hmem => htree.closed x (hs.same x hx hmem)
    rw [List.mem_singleton.1 hk]
    exact htree.root
  have hleft : t.entries.entries =
      s.entries.entries.filter (fun x => x.1 ∉ new.map Prod.fst) := by
    rw [hwalk.entries]
    refine List.filter_congr fun x hx => decide_eq_decide.2 (not_congr ⟨fun hmem => ?_, ?_⟩)
    · obtain ⟨y, hy, heq⟩ := List.mem_map.1 hmem
      exact heq ▸ hgone y hy
    · intro hmem
      refine Decidable.byContradiction fun hnot => ?_
      exact hdead x (hwalk.mem_entries.2 ⟨hx, hnot⟩) (hs.same x hx hmem)
  exact ⟨hleft.trans hs.rest_eq, hleft⟩

end Standing

end Store

end Wiring
