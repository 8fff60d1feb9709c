/-
  Dependencies as a graph of types.

  1. `Creatable recipe path t` — what a creation checks: `t` is not on the path to it, there is a
     recipe for it, and whatever the recipe needs is creatable in turn, with `t` on the path.  From
     an empty path this is the same as what a reader would want to know of the whole graph: every
     type that can be reached has a recipe, and no cycle can be reached (`creatable_iff_acyclic`).
  2. `Leads needs t is v` — a path from `t` to `v`, by the numbers of the requests to follow.
-/
import Wiring.Proofs.Catalog.Follows
import Mathlib.Data.List.Chain
import Mathlib.Data.List.Nodup
import Mathlib.Data.List.Perm.Subperm
import Mathlib.Logic.Relation

namespace Wiring

open Relation

/-- `Edge needs t u` — an instance of `t` needs one of `u`. -/
def Edge (needs : TypeKey → Option (List TypeKey)) (t u : TypeKey) : Prop :=
  ∃ us, needs t = some us ∧ u ∈ us

variable {needs recipe : TypeKey → Option (List TypeKey)} {path : List TypeKey} {t u v : TypeKey}

/-! ## What can be created -/

/-- `Creatable recipe path t` — `t` can be created while the types on `path` are being created. -/
inductive Creatable (recipe : TypeKey → Option (List TypeKey)) : List TypeKey → TypeKey → Prop where
  | intro {path : List TypeKey} {t : TypeKey} {us : List TypeKey} (hpath : t ∉ path)
      (hrecipe : recipe t = some us) (hneeds : ∀ u ∈ us, Creatable recipe (t :: path) u) : Creatable recipe path t

theorem creatable_iff : Creatable recipe path t ↔
    t ∉ path ∧ ∃ us, recipe t = some us ∧ ∀ u ∈ us, Creatable recipe (t :: path) u := by
  constructor
  · rintro ⟨hpath, hrecipe, hneeds⟩
    exact ⟨hpath, _, hrecipe, hneeds⟩
  · rintro ⟨hpath, us, hrecipe, hneeds⟩
    exact ⟨hpath, hrecipe, hneeds⟩

/-- What a creatable type reaches has a recipe, and is not on the path. -/
theorem Creatable.of_reaches (hneeds : ∀ t us, recipe t = some us → needs t = some us)
    (h : Creatable recipe path t) :
    ∀ u, ReflTransGen (Edge needs) t u → (recipe u).isSome ∧ u ∉ path := by
  induction h with
  | @intro path t us hpath hrecipe _ ih =>
    intro u hreach
    rcases ReflTransGen.cases_head hreach with rfl | ⟨v, ⟨us', hus', hv⟩, hrest⟩
    · exact ⟨by rw [hrecipe]; rfl, hpath⟩
    · rw [hneeds t us hrecipe] at hus'
      cases hus'
      obtain ⟨hsome, hnot⟩ := ih v hv u hrest
      exact ⟨hsome, fun hmem => hnot (List.mem_cons_of_mem t hmem)⟩

/-- What a creatable type reaches does not reach itself again. -/
theorem Creatable.no_cycle (hneeds : ∀ t us, recipe t = some us → needs t = some us)
    (h : Creatable recipe path t) :
    ∀ u, ReflTransGen (Edge needs) t u → ¬ TransGen (Edge needs) u u := by
  induction h with
  | @intro path t us hpath hrecipe hall ih =>
    intro u hreach hcycle
    rcases ReflTransGen.cases_head hreach with rfl | ⟨v, ⟨us', hus', hv⟩, hrest⟩
    · -- a cycle through `t` leaves it by one of its needs, from where `t` is out of reach
      obtain ⟨v, ⟨us', hus', hv⟩, hback⟩ := TransGen.head'_iff.1 hcycle
      rw [hneeds t us hrecipe] at hus'
      cases hus'
      exact ((hall v hv).of_reaches hneeds t hback).2 List.mem_cons_self
    · rw [hneeds t us hrecipe] at hus'
      cases hus'
      exact ih v hv u hrest hcycle

/-- Without a cycle in reach, a path that leads to `t` cannot have `t` on it, so the search ends when
    the types do. -/
theorem creatable_of_acyclic {types : List TypeKey}
    (hneeds : ∀ t us, recipe t = some us → needs t = some us)
    (htypes : ∀ t, (recipe t).isSome → t ∈ types) (n : Nat) :
    ∀ path t, types.length ≤ n + path.length → path.Nodup → (∀ x ∈ path, x ∈ types) →
      (∀ x ∈ path, TransGen (Edge needs) x t) →
      (∀ u, ReflTransGen (Edge needs) t u → (recipe u).isSome) →
      (∀ u, ReflTransGen (Edge needs) t u → ¬ TransGen (Edge needs) u u) →
      Creatable recipe path t := by
  induction n with
  | zero =>
    intro path t hlength hnodup hpath hleads hsome hacyclic
    have hnot : t ∉ path := fun hmem => hacyclic t .refl (hleads t hmem)
    have ht : t ∈ types := htypes t (hsome t .refl)
    -- the path is full, so `t` is on it
    have hle : (t :: path).length ≤ types.length :=
      (List.Nodup.subperm (List.nodup_cons.2 ⟨hnot, hnodup⟩)
        (List.cons_subset.2 ⟨ht, hpath⟩)).length_le
    rw [List.length_cons] at hle
    omega
  | succ n ih =>
    intro path t hlength hnodup hpath hleads hsome hacyclic
    have hnot : t ∉ path := fun hmem => hacyclic t .refl (hleads t hmem)
    obtain ⟨us, hus⟩ := Option.isSome_iff_exists.1 (hsome t .refl)
    refine ⟨hnot, hus, fun u hu => ?_⟩
    have hedge : Edge needs t u := ⟨us, hneeds t us hus, hu⟩
    refine ih (t :: path) u ?_ (List.nodup_cons.2 ⟨hnot, hnodup⟩) ?_ ?_ ?_ ?_
    · rw [List.length_cons]
      omega
    · intro x hx
      rcases List.mem_cons.1 hx with rfl | hx
      · exact htypes x (hsome x .refl)
      · exact hpath x hx
    · intro x hx
      rcases List.mem_cons.1 hx with rfl | hx
      · exact .single hedge
      · exact (hleads x hx).tail hedge
    · exact fun v hv => hsome v (.head hedge hv)
    · exact fun v hv => hacyclic v (.head hedge hv)

/-- A type can be created if and only if all types in its reach have a recipe, and there is no cycle
    among them. -/
theorem creatable_iff_acyclic {types : List TypeKey}
    (hneeds : ∀ t us, recipe t = some us → needs t = some us)
    (htypes : ∀ t, (recipe t).isSome → t ∈ types) :
    Creatable recipe [] t ↔
      (∀ u, ReflTransGen (Edge needs) t u → (recipe u).isSome) ∧
        ∀ u, ReflTransGen (Edge needs) t u → ¬ TransGen (Edge needs) u u := by
  constructor
  · exact fun h => ⟨fun u hu => (h.of_reaches hneeds u hu).1, h.no_cycle hneeds⟩
  · rintro ⟨hsome, hacyclic⟩
    exact creatable_of_acyclic hneeds htypes types.length [] t (Nat.le_refl _) List.nodup_nil
      nofun nofun hsome hacyclic

/-! ## Numbered paths -/

/-- `Leads needs t is v` — from `t`, following the requests with the numbers `is`, one comes to `v`. -/
inductive Leads (needs : TypeKey → Option (List TypeKey)) : TypeKey → List Nat → TypeKey → Prop where
  | here {t : TypeKey} : Leads needs t [] t
  | there {t u v : TypeKey} {us : List TypeKey} {i : Nat} {is : List Nat}
      (hneeds : needs t = some us) (hi : us[i]? = some u) (h : Leads needs u is v) :
      Leads needs t (i :: is) v

/-- `LeadsFrom needs ts p v` — the first number of `p` chooses from `ts`, the others lead on to `v`. -/
def LeadsFrom (needs : TypeKey → Option (List TypeKey)) (ts : List TypeKey) (p : List Nat)
    (v : TypeKey) : Prop :=
  ∃ i is u, p = i :: is ∧ ts[i]? = some u ∧ Leads needs u is v

theorem leads_iff {us : List TypeKey} (hneeds : needs t = some us) {is : List Nat} :
    Leads needs t is v ↔ (is = [] ∧ v = t) ∨ LeadsFrom needs us is v := by
  constructor
  · intro h
    cases h with
    | here => exact Or.inl ⟨rfl, rfl⟩
    | @there _ u _ us' i is hneeds' hi h =>
      rw [hneeds] at hneeds'
      cases hneeds'
      exact Or.inr ⟨i, is, u, rfl, hi, h⟩
  · rintro (⟨rfl, rfl⟩ | ⟨i, is, u, rfl, hi, h⟩)
    · exact .here
    · exact .there hneeds hi h

theorem leadsFrom_append_singleton {ts : List TypeKey} {p : List Nat} :
    LeadsFrom needs (ts ++ [t]) p v ↔
      LeadsFrom needs ts p v ∨ ∃ is, p = ts.length :: is ∧ Leads needs t is v := by
  constructor
  · rintro ⟨i, is, u, rfl, hi, h⟩
    rcases Nat.lt_trichotomy i ts.length with hlt | rfl | hgt
    · rw [List.getElem?_append_left hlt] at hi
      exact Or.inl ⟨i, is, u, rfl, hi, h⟩
    · rw [List.getElem?_concat_length] at hi
      cases hi
      exact Or.inr ⟨is, rfl, h⟩
    · rw [List.getElem?_eq_none (by rw [List.length_append, List.length_singleton]; omega)] at hi
      cases hi
  · rintro (⟨i, is, u, rfl, hi, h⟩ | ⟨is, rfl, h⟩)
    · obtain ⟨hlt, -⟩ := List.getElem?_eq_some_iff.1 hi
      exact ⟨i, is, u, rfl, by rw [List.getElem?_append_left hlt, hi], h⟩
    · exact ⟨ts.length, is, t, rfl, List.getElem?_concat_length, h⟩

end Wiring
