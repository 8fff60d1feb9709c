/-
  A grove has one instance for every path of requests.

  The types that a creation starts with and their requests, the requests of these, and so on, span
  trees of numbered paths.  Each entry of a grove belongs to one of these paths and each path to one
  entry, so a type that is needed on several paths has been made once for each of them.
-/
import Wiring.Proofs.Catalog.Dependency
import Wiring.Proofs.Container.Grove
import Mathlib.Data.List.Forall2

namespace Wiring

namespace Grove

variable {V : Vocabulary} {needs : TypeKey → Option (List TypeKey)} {t : TypeKey}
  {ts : List TypeKey} {h : Handle} {roots : List Handle} {es : List (Handle × Stored V)}

/-- The entries, in their order, belong to all the paths from `ts`, each of which is there once. -/
theorem exists_paths (hes : Grove needs ts roots es) :
    ∃ paths : List (List Nat), paths.Nodup ∧ (∀ p, p ∈ paths ↔ ∃ v, LeadsFrom needs ts p v) ∧
      List.Forall₂ (fun p x => LeadsFrom needs ts p x.2.type) paths es := by
  induction hes with
  | bare =>
    refine ⟨[], List.nodup_nil, fun p => ⟨nofun, ?_⟩, .nil⟩
    rintro ⟨v, i, is, u, -, hi, -⟩
    cases hi
  | @plant ts roots es us sub h e _ _ hneeds ih ihtree =>
    obtain ⟨paths, hnodup, hmem, hpaths⟩ := ih
    obtain ⟨paths', hnodup', hmem', hpaths'⟩ := ihtree
    -- first the paths that were there, then those through the new root, then the root itself
    refine ⟨paths ++ paths'.map (ts.length :: ·) ++ [[ts.length]], ?_, ?_, ?_⟩
    · have hshort : ∀ p ∈ paths, ∃ i is, p = i :: is ∧ i < ts.length := by
        intro p hp
        obtain ⟨v, i, is, u, rfl, hi, -⟩ := (hmem p).1 hp
        exact ⟨i, is, rfl, (List.getElem?_eq_some_iff.1 hi).1⟩
      have hlong : ∀ p ∈ paths', p ≠ [] := by
        intro p hp
        obtain ⟨v, i, is, u, rfl, -, -⟩ := (hmem' p).1 hp
        exact List.cons_ne_nil i is
      refine List.nodup_append.2 ⟨List.nodup_append.2 ⟨hnodup,
        hnodup'.map (List.cons_injective), ?_⟩, List.nodup_singleton _, ?_⟩
      · rintro p hp q hq rfl
        obtain ⟨i, is, rfl, hlt⟩ := hshort p hp
        obtain ⟨q, -, hq⟩ := List.mem_map.1 hq
        cases hq
        exact Nat.lt_irrefl _ hlt
      · rintro p hp q hq rfl
        rw [List.mem_singleton.1 hq] at hp
        rcases List.mem_append.1 hp with hp | hp
        · obtain ⟨i, is, heq, hlt⟩ := hshort _ hp
          cases heq
          exact Nat.lt_irrefl _ hlt
        · obtain ⟨q, hq, heq⟩ := List.mem_map.1 hp
          cases heq
          exact hlong [] hq rfl
    · intro p
      simp only [leadsFrom_append_singleton, List.mem_append, List.mem_map, List.mem_singleton,
        hmem, leads_iff hneeds, exists_or]
      constructor
      · rintro ((h | ⟨q, hq, rfl⟩) | rfl)
        · exact Or.inl h
        · obtain ⟨v, hv⟩ := (hmem' q).1 hq
          exact Or.inr ⟨v, q, rfl, Or.inr hv⟩
        · exact Or.inr ⟨e.type, [], rfl, Or.inl ⟨rfl, rfl⟩⟩
      · rintro (h | ⟨v, is, rfl, ⟨rfl, -⟩ | h⟩)
        · exact Or.inl (Or.inl h)
        · exact Or.inr rfl
        · exact Or.inl (Or.inr ⟨is, (hmem' is).2 ⟨v, h⟩, rfl⟩)
    · refine List.rel_append (List.rel_append ?_ ?_) (.cons ?_ .nil)
      · exact hpaths.imp fun p x h => leadsFrom_append_singleton.2 (Or.inl h)
      · rw [List.forall₂_map_left_iff]
        exact hpaths'.imp fun p x h =>
          leadsFrom_append_singleton.2 (Or.inr ⟨p, rfl, (leads_iff hneeds).2 (Or.inr h)⟩)
      · exact leadsFrom_append_singleton.2 (Or.inr ⟨[], rfl, .here⟩)

/-- The entries of one tree belong to the paths from its type. -/
theorem exists_paths_of_tree (hes : Grove needs [t] [h] es) :
    ∃ paths : List (List Nat), paths.Nodup ∧ (∀ p, p ∈ paths ↔ ∃ v, Leads needs t p v) ∧
      List.Forall₂ (fun p x => Leads needs t p x.2.type) paths es := by
  have hone : ∀ p v, LeadsFrom needs [t] p v ↔ ∃ is, p = 0 :: is ∧ Leads needs t is v := by
    intro p v
    have hiff : LeadsFrom needs ([] ++ [t]) p v ↔
        LeadsFrom needs [] p v ∨ ∃ is, p = 0 :: is ∧ Leads needs t is v :=
      leadsFrom_append_singleton
    refine hiff.trans ⟨?_, Or.inr⟩
    rintro (⟨i, is, u, -, hi, -⟩ | h)
    · cases hi
    · exact h
  obtain ⟨paths, hnodup, hmem, hpaths⟩ := hes.exists_paths
  refine ⟨paths.map List.tail, ?_, ?_, ?_⟩
  · refine (List.nodup_map_iff_inj_on hnodup).2 ?_
    intro p hp q hq htail
    obtain ⟨v, hv⟩ := (hmem p).1 hp
    obtain ⟨w, hw⟩ := (hmem q).1 hq
    obtain ⟨is, rfl, -⟩ := (hone p v).1 hv
    obtain ⟨js, rfl, -⟩ := (hone q w).1 hw
    exact congrArg (0 :: ·) htail
  · intro p
    rw [List.mem_map]
    constructor
    · rintro ⟨q, hq, rfl⟩
      obtain ⟨v, hv⟩ := (hmem q).1 hq
      obtain ⟨is, rfl, his⟩ := (hone q v).1 hv
      exact ⟨v, his⟩
    · rintro ⟨v, hv⟩
      exact ⟨0 :: p, (hmem _).2 ⟨v, (hone _ v).2 ⟨p, rfl, hv⟩⟩, rfl⟩
  · rw [List.forall₂_map_left_iff]
    refine hpaths.imp fun p x h => ?_
    obtain ⟨is, rfl, his⟩ := (hone p _).1 h
    exact his

end Grove

end Wiring
