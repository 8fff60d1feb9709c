/-
  The live instances of a store form a forest.

  1. `s.Forest roots` says what it means that the store is a forest over the `roots`: whatever was
     made for a live instance is live, was issued before it and belongs to it alone, and the roots
     are the live instances that belong to none.
  2. `s.Rooted roots` says the same by counting: the live handles are the roots and, once each, the
     dependents.  This is what is easy to keep up, since releasing an instance turns its dependents
     into roots, and storing one turns roots into its dependents.
-/
import Wiring.Proofs.Store.Walk
import Mathlib.Data.List.Nodup

namespace Wiring

namespace Store

variable {V : Vocabulary} {s t : Store V} {roots pending : List Handle}
  {gone new : List (Handle × Stored V)} {h : Handle} {e : Stored V}

/-- `s.dependents` — what was made for the live instances, one after the other. -/
def dependents (s : Store V) : List Handle := s.entries.entries.flatMap (·.2.dependents)

/-- `s.Forest roots` — the live instances form trees over the `roots`. -/
structure Forest (s : Store V) (roots : List Handle) : Prop where
  /-- What was made for a live instance is live. -/
  live : ∀ {h e k}, s.find? h = some e → k ∈ e.dependents → (s.find? k).isSome
  /-- It has a smaller handle than the instance. -/
  smaller : ∀ {h e k}, s.find? h = some e → k ∈ e.dependents → k.number < h.number
  /-- It is listed once for the instance, -/
  once : ∀ {h e k}, s.find? h = some e → k ∈ e.dependents → e.dependents.count k = 1
  /-- and for no other live instance. -/
  unique : ∀ {h e h' e' k}, s.find? h = some e → k ∈ e.dependents →
    s.find? h' = some e' → k ∈ e'.dependents → h = h'
  /-- The roots are the live instances that were made for no live instance. -/
  roots_iff : ∀ k, k ∈ roots ↔ (s.find? k).isSome ∧ ∀ h e, s.find? h = some e → k ∉ e.dependents
  /-- Every live instance has a handle below the next one. -/
  issued : ∀ {h e}, s.find? h = some e → h.number < s.next

/-- `s.Rooted roots` — the live handles are the roots and the dependents, each of them once, and
    dependents have smaller handles than their instances. -/
structure Rooted (s : Store V) (roots : List Handle) : Prop where
  perm : s.entries.keys.Perm (roots ++ s.dependents)
  smaller : ∀ x ∈ s.entries.entries, ∀ k ∈ x.2.dependents, k.number < x.1.number

/-! ## What the store lists -/

theorem mem_dependents {k : Handle} :
    k ∈ s.dependents ↔ ∃ h e, s.find? h = some e ∧ k ∈ e.dependents := by
  simp only [dependents, List.mem_flatMap, find?_eq_some_iff, Prod.exists]

theorem isSome_find?_iff {k : Handle} : (s.find? k).isSome ↔ k ∈ s.entries.keys :=
  Table.contains_iff

/-- A live entry, and the others. -/
theorem entries_perm_release (hs : s.find? h = some e) :
    s.entries.entries.Perm ((h, e) :: (s.release h).entries.entries) := by
  obtain ⟨before, after, heq⟩ := List.append_of_mem (find?_eq_some_iff.1 hs)
  have hdistinct := s.entries.distinct
  rw [heq, List.map_append, List.map_cons, List.nodup_middle, List.nodup_cons,
    ← List.map_append] at hdistinct
  have hreleased : (s.release h).entries.entries = before ++ after := by
    show s.entries.entries.filter (fun x => x.1 ≠ h) = _
    rw [heq, List.filter_append, List.filter_cons_of_neg (by simp), ← List.filter_append]
    refine List.filter_eq_self.2 fun x hx => decide_eq_true ?_
    have hmem : x.1 ∈ (before ++ after).map Prod.fst := List.mem_map_of_mem hx
    rintro rfl
    exact hdistinct.1 hmem
  rw [hreleased, heq]
  exact List.perm_middle

theorem keys_perm_release (hs : s.find? h = some e) :
    s.entries.keys.Perm (h :: (s.release h).entries.keys) :=
  (entries_perm_release hs).map Prod.fst

theorem dependents_perm_release (hs : s.find? h = some e) :
    s.dependents.Perm (e.dependents ++ (s.release h).dependents) :=
  (entries_perm_release hs).flatMap_right _

/-! ## Rooted stores are forests -/

namespace Rooted

theorem empty : (∅ : Store V).Rooted [] := ⟨List.Perm.nil, nofun⟩

theorem nodup (hs : s.Rooted roots) : (roots ++ s.dependents).Nodup :=
  hs.perm.nodup_iff.1 s.entries.distinct

/-- The dependents of a live instance are different, and no other live instance lists one. -/
theorem nodup_dependents (hs : s.Rooted roots) (he : s.find? h = some e) :
    (e.dependents ++ (s.release h).dependents).Nodup :=
  (dependents_perm_release he).nodup_iff.1 (List.nodup_append.1 hs.nodup).2.1

theorem forest (hs : s.Rooted roots) : s.Forest roots where
  live he hk := isSome_find?_iff.2
    (hs.perm.mem_iff.2 (List.mem_append_right _ (mem_dependents.2 ⟨_, _, he, hk⟩)))
  smaller he hk := hs.smaller _ (find?_eq_some_iff.1 he) _ hk
  once he hk := List.count_eq_one_of_mem (List.nodup_append.1 (hs.nodup_dependents he)).1 hk
  unique {h e h' e' k} he hk he' hk' := by
    by_contra hne
    have hother : (s.release h).find? h' = some e' := by
      rw [find?_release, if_neg (Ne.symm hne), he']
    exact (List.nodup_append.1 (hs.nodup_dependents he)).2.2 k hk k
      (mem_dependents.2 ⟨h', e', hother, hk'⟩) rfl
  roots_iff k := by
    rw [isSome_find?_iff, hs.perm.mem_iff, List.mem_append]
    constructor
    · intro hk
      exact ⟨Or.inl hk, fun h e he hke =>
        (List.nodup_append.1 hs.nodup).2.2 k hk k (mem_dependents.2 ⟨h, e, he, hke⟩) rfl⟩
    · rintro ⟨hk | hk, hnone⟩
      · exact hk
      · obtain ⟨h, e, he, hke⟩ := mem_dependents.1 hk
        exact absurd hke (hnone h e he)
  issued he := s.issued _ (isSome_find?_iff.1 (Option.isSome_iff_exists.2 ⟨_, he⟩))

/-! ## What stores do to their roots -/

/-- A tree joins the others: each of its entries is the root or was made for one of them. -/
theorem grow (hs : s.Rooted roots) (hentries : t.entries.entries = s.entries.entries ++ new)
    (hnew : (new.map Prod.fst).Perm ([h] ++ new.flatMap (·.2.dependents)))
    (hsmaller : ∀ x ∈ new, ∀ k ∈ x.2.dependents, k.number < x.1.number) :
    t.Rooted (roots ++ [h]) where
  perm := by
    refine List.perm_iff_count.2 fun k => ?_
    have hold := hs.perm.count_eq k
    have hadded := hnew.count_eq k
    simp only [Table.keys, dependents, hentries, List.map_append, List.flatMap_append,
      List.count_append] at hold hadded ⊢
    omega
  smaller x hx := by
    rw [hentries, List.mem_append] at hx
    exact hx.elim (hs.smaller x) (hsmaller x)

/-- A root that is released leaves its dependents behind as roots. -/
theorem release (hs : s.Rooted (h :: roots)) (he : s.find? h = some e) :
    (s.release h).Rooted (e.dependents ++ roots) where
  perm := by
    refine List.perm_iff_count.2 fun k => ?_
    have hold := hs.perm.count_eq k
    have hkeys := (keys_perm_release he).count_eq k
    have hdependents := (dependents_perm_release he).count_eq k
    simp only [List.count_append, List.count_cons] at hold hkeys hdependents ⊢
    omega
  smaller x hx := hs.smaller x (List.mem_filter.1 hx).1

/-- A root is live. -/
theorem isSome_find? (hs : s.Rooted (h :: roots)) : (s.find? h).isSome :=
  isSome_find?_iff.2 (hs.perm.mem_iff.2 (List.mem_append_left _ List.mem_cons_self))

theorem perm_roots {roots' : List Handle} (hs : s.Rooted roots) (hroots : roots.Perm roots') :
    s.Rooted roots' :=
  ⟨hs.perm.trans (hroots.append_right _), hs.smaller⟩

theorem of_entries (hs : s.Rooted roots) (hentries : t.entries.entries = s.entries.entries) :
    t.Rooted roots := by
  obtain ⟨hperm, hsmaller⟩ := hs
  rw [Table.keys, dependents, ← hentries] at hperm
  rw [← hentries] at hsmaller
  exact ⟨hperm, hsmaller⟩

end Rooted

/-- What is listed for somebody after a walk was listed before. -/
theorem Walk.dependents_subset (hwalk : Walk pending gone s t) {k : Handle}
    (hk : k ∈ t.dependents) : k ∈ s.dependents := by
  obtain ⟨x, hx, hkx⟩ := List.mem_flatMap.1 hk
  exact List.mem_flatMap.2 ⟨x, (hwalk.mem_entries.1 hx).1, hkx⟩

/-- A walk that starts from roots leaves the other roots. -/
theorem Walk.rooted (hwalk : Walk pending gone s t) :
    ∀ {roots}, s.Rooted (pending ++ roots) → t.Rooted roots := by
  induction hwalk with
  | done => exact id
  | dead hdead _ _ =>
    intro roots hs
    have hlive := hs.isSome_find?
    rw [hdead] at hlive
    cases hlive
  | live he _ ih =>
    intro roots hs
    refine ih ?_
    rw [List.append_assoc]
    exact hs.release he

end Store

end Wiring
