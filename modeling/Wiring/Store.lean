/-
  `Store V` — the live instances, each under a handle of its own.

  1. Handles are issued in ascending order and never again: every live one is below the next
     (`issued`), and the entries are in the order of their handles (`ascending`).  Both are fields.
  2. An instance remembers the handles of the instances that were made for it, so that they can be
     destroyed with it.
-/
import Wiring.Reference

namespace Wiring

/-- `Handle` — the identity of a stored instance. -/
structure Handle where
  number : Nat
  deriving DecidableEq, Repr, Inhabited

/-- `Stored V` — an instance, the type it was made for, and the instances made for it. -/
structure Stored (V : Vocabulary) where
  type : TypeKey
  reference : Reference V
  dependents : List Handle

/-- `Store V` — the live instances and the number of the next handle. -/
structure Store (V : Vocabulary) where
  entries : Table Handle (Stored V)
  next : Nat
  /-- Every live handle was issued before. -/
  issued : ∀ h ∈ entries.keys, h.number < next
  /-- The live handles are in the order in which they were issued. -/
  ascending : entries.keys.Pairwise (·.number < ·.number)

namespace Store

variable {V : Vocabulary}

/-- `empty` — no instance, and no handle issued. -/
def empty : Store V := ⟨∅, 0, fun _ h => absurd h List.not_mem_nil, List.Pairwise.nil⟩

instance : EmptyCollection (Store V) := ⟨empty⟩

/-- `s.size` — how many instances are live. -/
def size (s : Store V) : Nat := s.entries.size

/-- `s.find? h` — the live entry under `h`. -/
def find? (s : Store V) (h : Handle) : Option (Stored V) := s.entries.get? h

/-- `s.reference? h` — the live instance under `h`. -/
def reference? (s : Store V) (h : Handle) : Option (Reference V) :=
  (s.find? h).map (·.reference)

/-- `s.upcoming` — the handle that is issued next. -/
def upcoming (s : Store V) : Handle := ⟨s.next⟩

/-- `s.keep e` — the store with `e` under its upcoming handle. -/
def keep (s : Store V) (e : Stored V) : Store V where
  entries := s.entries.insert s.upcoming e
  next := s.next + 1
  issued h hh := by
    rw [Table.keys_insert] at hh
    split at hh
    · exact Nat.lt_succ_of_lt (s.issued h hh)
    · rcases List.mem_append.1 hh with hh | hh
      · exact Nat.lt_succ_of_lt (s.issued h hh)
      · rw [List.mem_singleton.1 hh]; exact Nat.lt_succ_self _
  ascending := by
    rw [Table.keys_insert]
    split
    · exact s.ascending
    · refine List.pairwise_append.2 ⟨s.ascending, List.pairwise_singleton _ _, ?_⟩
      intro k hk h hh
      rw [List.mem_singleton.1 hh]
      exact s.issued k hk

/-- `s.release h` — the store without `h`. -/
def release (s : Store V) (h : Handle) : Store V where
  entries := s.entries.erase h
  next := s.next
  issued k hk := by
    rw [Table.keys_erase] at hk
    exact s.issued k (List.mem_filter.1 hk).1
  ascending := by
    rw [Table.keys_erase]
    exact s.ascending.filter _

/-! ## What the operations do to the entries -/

theorem find?_keep (s : Store V) (e : Stored V) (h : Handle) :
    (s.keep e).find? h = if h = s.upcoming then some e else s.find? h :=
  Table.get?_insert ..

theorem find?_release (s : Store V) (h k : Handle) :
    (s.release h).find? k = if k = h then none else s.find? k :=
  Table.get?_erase ..

/-- What is left after a release was there before it. -/
theorem find?_of_release {s : Store V} {h k : Handle} {e : Stored V}
    (he : (s.release h).find? k = some e) : s.find? k = some e := by
  rw [find?_release] at he
  split at he
  · cases he
  · exact he

theorem find?_eq_some_iff {s : Store V} {h : Handle} {e : Stored V} :
    s.find? h = some e ↔ (h, e) ∈ s.entries.entries :=
  Table.get?_eq_some_iff

/-- What is kept comes after everything that is live. -/
theorem entries_keep (s : Store V) (e : Stored V) :
    (s.keep e).entries.entries = s.entries.entries ++ [(s.upcoming, e)] :=
  Table.entries_insert_of_not_mem (fun h => Nat.lt_irrefl _ (s.issued _ h)) e

theorem release_of_not_live {s : Store V} {h : Handle} (hs : s.find? h = none) :
    s.release h = s := by
  have : s.entries.erase h = s.entries := Table.erase_of_not_mem (Table.get?_eq_none_iff.1 hs)
  cases s
  simp_all only [release]

theorem size_release_lt {s : Store V} {h : Handle} {e : Stored V} (he : s.find? h = some e) :
    (s.release h).size < s.size :=
  Table.size_erase_lt he

end Store

end Wiring
