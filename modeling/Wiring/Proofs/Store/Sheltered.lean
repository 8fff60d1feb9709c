/-
  What was made for a live instance is live, whatever is released.

  `s.Sheltered struck` is the INVARIANT: what the live instances list as made for them is live, unless
  it is one of the handles `struck`; none of it is listed twice; and it has smaller handles.  It says
  less than that the store is a forest, and so it outlasts more: a handle may be released from
  anywhere if only it is struck, or listed for nobody (`Sheltered.release`).

  At the moment that an instance has just been released, what was made for it is still there
  (`Sheltered.live_of_release`), and is listed for nobody any more, so that it may be released next.
-/
import Wiring.Proofs.Store.Forest

namespace Wiring

namespace Store

variable {V : Vocabulary} {s t : Store V} {struck : List Handle} {h : Handle} {e : Stored V}
  {roots : List Handle} {new : List (Handle × Stored V)}

/-- `s.Sheltered struck` — what was made for the live instances is live, or struck. -/
structure Sheltered (s : Store V) (struck : List Handle) : Prop where
  live : ∀ k ∈ s.dependents, k ∈ s.entries.keys ∨ k ∈ struck
  once : s.dependents.Nodup
  smaller : ∀ x ∈ s.entries.entries, ∀ k ∈ x.2.dependents, k.number < x.1.number

/-- `s.Loose struck h` — `h` may be released: it is struck, or listed for nobody. -/
def Loose (s : Store V) (struck : List Handle) (h : Handle) : Prop := h ∈ struck ∨ h ∉ s.dependents

namespace Sheltered

theorem empty (struck : List Handle) : (∅ : Store V).Sheltered struck :=
  ⟨nofun, List.nodup_nil, nofun⟩

theorem mono {struck' : List Handle} (hs : s.Sheltered struck)
    (hsubset : ∀ k ∈ struck, k ∈ struck') : s.Sheltered struck' :=
  ⟨fun k hk => (hs.live k hk).imp id (hsubset k), hs.once, hs.smaller⟩

/-- Whatever is listed has been issued. -/
theorem number_lt (hs : s.Sheltered struck) {k : Handle} (hk : k ∈ s.dependents) :
    k.number < s.next := by
  obtain ⟨x, hx, hkx⟩ := List.mem_flatMap.1 hk
  exact Nat.lt_trans (hs.smaller x hx k hkx) (s.issued x.1 (List.mem_map_of_mem hx))

/-! ## Releasing -/

/-- What is left lists nothing that was not listed before. -/
theorem mem_of_release (he : s.find? h = some e) {k : Handle}
    (hk : k ∈ (s.release h).dependents) : k ∈ s.dependents :=
  (dependents_perm_release he).mem_iff.2 (List.mem_append_right _ hk)

theorem release (hs : s.Sheltered struck) (he : s.find? h = some e) (hloose : s.Loose struck h) :
    (s.release h).Sheltered struck where
  live k hk := by
    have hlisted := mem_of_release he hk
    rcases hs.live k hlisted with hlive | hstruck
    -- `h` itself is listed no more, unless it was struck
    · rcases List.mem_cons.1 ((keys_perm_release he).mem_iff.1 hlive) with rfl | hleft
      · exact Or.inr (hloose.resolve_right fun hnot => hnot hlisted)
      · exact Or.inl hleft
    · exact Or.inr hstruck
  once := (List.nodup_append.1 ((dependents_perm_release he).nodup_iff.1 hs.once)).2.1
  smaller x hx := hs.smaller x (List.mem_filter.1 hx).1

/-- What was made for an instance is live, or struck, when the instance itself has gone. -/
theorem live_of_release (hs : s.Sheltered struck) (he : s.find? h = some e) {k : Handle}
    (hk : k ∈ e.dependents) : k ∈ (s.release h).entries.keys ∨ k ∈ struck := by
  have hsmaller := hs.smaller _ (find?_eq_some_iff.1 he) k hk
  refine (hs.live k (mem_dependents.2 ⟨h, e, he, hk⟩)).imp (fun hlive => ?_) id
  rcases List.mem_cons.1 ((keys_perm_release he).mem_iff.1 hlive) with rfl | hleft
  · exact absurd hsmaller (Nat.lt_irrefl _)
  · exact hleft

/-- It is listed for nobody any more. -/
theorem loose_of_mem (hs : s.Sheltered struck) (he : s.find? h = some e) {k : Handle}
    (hk : k ∈ e.dependents) : (s.release h).Loose struck k :=
  Or.inr fun hlisted =>
    (List.nodup_append.1 ((dependents_perm_release he).nodup_iff.1 hs.once)).2.2 k hk k hlisted rfl

/-! ## Adding trees -/

section

variable (hs : s.Sheltered struck) (hentries : t.entries.entries = s.entries.entries ++ new)
  (hperm : (new.map Prod.fst).Perm (roots ++ new.flatMap (·.2.dependents)))
  (hfresh : ∀ x ∈ new, s.next ≤ x.1.number)

include hperm hfresh in
/-- What the new trees list is new itself. -/
private theorem next_le_of_new {k : Handle} (hk : k ∈ roots ++ new.flatMap (·.2.dependents)) :
    s.next ≤ k.number := by
  obtain ⟨x, hx, rfl⟩ := List.mem_map.1 (hperm.mem_iff.2 hk)
  exact hfresh x hx

include hentries in
private theorem dependents_of_entries :
    t.dependents = s.dependents ++ new.flatMap (·.2.dependents) := by
  rw [dependents, hentries, List.flatMap_append]
  rfl

include hentries hperm in
private theorem nodup_new : (roots ++ new.flatMap (·.2.dependents)).Nodup := by
  have hdistinct := t.entries.distinct
  rw [hentries, List.map_append] at hdistinct
  exact hperm.nodup_iff.1 (List.nodup_append.1 hdistinct).2.1

include hs hentries hperm hfresh

/-- Whole trees with new handles join the others. -/
theorem grow (hsmaller : ∀ x ∈ new, ∀ k ∈ x.2.dependents, k.number < x.1.number) :
    t.Sheltered struck where
  live k hk := by
    rw [dependents_of_entries hentries, List.mem_append] at hk
    rw [Table.keys, hentries, List.map_append, List.mem_append]
    rcases hk with hold | hnew
    · exact (hs.live k hold).imp Or.inl id
    · exact Or.inl (Or.inr (hperm.mem_iff.2 (List.mem_append_right _ hnew)))
  once := by
    rw [dependents_of_entries hentries]
    refine List.nodup_append.2
      ⟨hs.once, (List.nodup_append.1 (nodup_new hentries hperm)).2.1, ?_⟩
    rintro k hold _ hnew rfl
    exact Nat.lt_irrefl _ (Nat.lt_of_lt_of_le (hs.number_lt hold)
      (next_le_of_new hperm hfresh (List.mem_append_right _ hnew)))
  smaller x hx := by
    rw [hentries, List.mem_append] at hx
    exact hx.elim (hs.smaller x) (hsmaller x)

/-- Their roots are listed for nobody. -/
theorem not_mem_of_root {k : Handle} (hk : k ∈ roots) : k ∉ t.dependents := by
  rw [dependents_of_entries hentries, List.mem_append]
  rintro (hold | hnew)
  · exact Nat.lt_irrefl _ (Nat.lt_of_lt_of_le (hs.number_lt hold)
      (next_le_of_new hperm hfresh (List.mem_append_left _ hk)))
  · exact (List.nodup_append.1 (nodup_new hentries hperm)).2.2 k hk k hnew rfl

end

end Sheltered

theorem Loose.release {k : Handle} (hk : s.Loose struck k) (he : s.find? h = some e) :
    (s.release h).Loose struck k :=
  hk.imp id fun hnot hlisted => hnot (Sheltered.mem_of_release he hlisted)

end Store

end Wiring
