/-
  Chains of registered types.

  Types are under construction while others are made for them, and no type is so twice.  What bounds
  the chain of them is the catalog: it cannot have more types on it than are registered
  (`Admits.length_le`), and whatever happens to the definitions, these stay the same types
  (`Follows.hasType_eq`).
-/
import Wiring.Proofs.Catalog.Follows
import Mathlib.Data.List.Perm.Subperm

namespace Wiring

namespace Catalog

variable {host : Host} {c c' : Catalog host} {chain : List TypeKey} {t : TypeKey}

/-- `c.Admits chain` — the types on `chain` are registered, and none of them occurs twice. -/
structure Admits (c : Catalog host) (chain : List TypeKey) : Prop where
  distinct : chain.Nodup
  registered : ∀ t ∈ chain, c.hasType t

instance (c : Catalog host) (chain : List TypeKey) : Decidable (c.Admits chain) :=
  decidable_of_iff (chain.Nodup ∧ ∀ t ∈ chain, c.hasType t)
    ⟨fun h => ⟨h.1, h.2⟩, fun h => ⟨h.distinct, h.registered⟩⟩

namespace Admits

theorem nil : c.Admits [] := ⟨List.nodup_nil, nofun⟩

theorem cons (h : c.Admits chain) (ht : c.hasType t) (hchain : t ∉ chain) :
    c.Admits (t :: chain) :=
  ⟨List.nodup_cons.2 ⟨hchain, h.distinct⟩, List.forall_mem_cons.2 ⟨ht, h.registered⟩⟩

theorem length_le (h : c.Admits chain) : chain.length ≤ c.size := by
  have hkeys : ∀ t ∈ chain, t ∈ c.definitions.keys := fun t ht =>
    Table.contains_iff.1 (h.registered t ht)
  have hle := (List.Nodup.subperm h.distinct hkeys).length_le
  rwa [Table.length_keys] at hle

/-- There is room for one more level as long as there is a type that is not on the chain. -/
theorem length_lt (h : c.Admits chain) (ht : c.hasType t) (hchain : t ∉ chain) :
    chain.length < c.size :=
  (h.cons ht hchain).length_le

end Admits

theorem Follows.hasType_eq (h : c.Follows c') (t : TypeKey) : c'.hasType t = c.hasType t := by
  rw [Bool.eq_iff_iff, hasType, hasType, Table.contains_iff, Table.contains_iff, h.keys]

end Catalog

end Wiring
