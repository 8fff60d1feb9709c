/-
  A walk through a store takes away what can be reached from where it starts, and nothing else.

  `Walk pending gone s t` is the walk of a destruction as far as the store is concerned: whatever
  else happens on the way, the handles that are pending and what was made for the instances under
  them decide which entries leave the store.
-/
import Wiring.Store

namespace Wiring

namespace Store

variable {V : Vocabulary}

/-- `Walk pending gone s t` — from `s`, the handles `pending` and what was made for the instances
    under them are released; the entries `gone` leave the store by this, in the order of the walk,
    and `t` is left. -/
inductive Walk : List Handle → List (Handle × Stored V) → Store V → Store V → Prop where
  | done (s : Store V) : Walk [] [] s s
  | dead {h rest gone s t} (hs : s.find? h = none) (hrest : Walk rest gone s t) :
    Walk (h :: rest) gone s t
  | live {h e rest gone s t} (hs : s.find? h = some e)
    (hrest : Walk (e.dependents ++ rest) gone (s.release h) t) :
    Walk (h :: rest) ((h, e) :: gone) s t

namespace Walk

variable {pending : List Handle} {gone : List (Handle × Stored V)} {s t : Store V}

/-- The entries that are gone are left out, and the others are as they were. -/
theorem entries (h : Walk pending gone s t) :
    t.entries.entries = s.entries.entries.filter fun x => x.1 ∉ gone.map Prod.fst := by
  induction h with
  | done s => exact (List.filter_eq_self.2 fun _ _ => rfl).symm
  | dead _ _ ih => exact ih
  | @live h e _ gone s t _ _ ih =>
    rw [ih]
    show (s.entries.entries.filter _).filter _ = _
    rw [List.filter_filter]
    refine List.filter_congr fun x _ => ?_
    simp only [List.map_cons, List.mem_cons, not_or, Bool.decide_and, Bool.and_comm]

/-- No handle is issued on the way. -/
theorem next (h : Walk pending gone s t) : t.next = s.next := by
  induction h with
  | done => rfl
  | dead _ _ ih => exact ih
  | live _ _ ih => exact ih

/-- Only what was live can go. -/
theorem known (h : Walk pending gone s t) : ∀ x ∈ gone, x ∈ s.entries.entries := by
  induction h with
  | done => exact nofun
  | dead _ _ ih => exact ih
  | live hs _ ih =>
    refine List.forall_mem_cons.2 ⟨find?_eq_some_iff.1 hs, fun x hx => ?_⟩
    exact (List.mem_filter.1 (ih x hx)).1

theorem mem_entries (h : Walk pending gone s t) {x : Handle × Stored V} :
    x ∈ t.entries.entries ↔ x ∈ s.entries.entries ∧ x.1 ∉ gone.map Prod.fst := by
  rw [h.entries, List.mem_filter, decide_eq_true_eq]

/-- What is live afterwards was live before. -/
theorem keys_subset (h : Walk pending gone s t) {k : Handle} (hk : k ∈ t.entries.keys) :
    k ∈ s.entries.keys := by
  obtain ⟨x, hx, rfl⟩ := List.mem_map.1 hk
  exact List.mem_map_of_mem (h.mem_entries.1 hx).1

/-- A handle that was live and is live no more is one of those that are gone. -/
theorem mem_keys (h : Walk pending gone s t) {k : Handle} :
    k ∈ t.entries.keys ↔ k ∈ s.entries.keys ∧ k ∉ gone.map Prod.fst := by
  constructor
  · intro hk
    obtain ⟨x, hx, rfl⟩ := List.mem_map.1 hk
    obtain ⟨hs, hgone⟩ := h.mem_entries.1 hx
    exact ⟨List.mem_map_of_mem hs, hgone⟩
  · rintro ⟨hk, hgone⟩
    obtain ⟨x, hx, rfl⟩ := List.mem_map.1 hk
    exact List.mem_map_of_mem (h.mem_entries.2 ⟨hx, hgone⟩)

/-- Nothing that was pending is live afterwards. -/
theorem pending_dead (h : Walk pending gone s t) : ∀ k ∈ pending, k ∉ t.entries.keys := by
  induction h with
  | done => exact nofun
  | dead hs hrest ih =>
    refine List.forall_mem_cons.2 ⟨fun hk => ?_, ih⟩
    exact Table.get?_eq_none_iff.1 hs (hrest.keys_subset hk)
  | @live h e _ _ s _ _ hrest ih =>
    refine List.forall_mem_cons.2 ⟨fun hk => ?_, fun k hk => ih k (List.mem_append_right _ hk)⟩
    have hreleased : h ∈ (s.release h).entries.keys := hrest.keys_subset hk
    rw [release, Table.keys_erase, List.mem_filter] at hreleased
    exact of_decide_eq_true hreleased.2 rfl

/-- Nothing that was made for an instance that is gone is live afterwards. -/
theorem dependents_dead (h : Walk pending gone s t) :
    ∀ x ∈ gone, ∀ k ∈ x.2.dependents, k ∉ t.entries.keys := by
  induction h with
  | done => exact nofun
  | dead _ _ ih => exact ih
  | live _ hrest ih =>
    refine List.forall_mem_cons.2 ⟨fun k hk => ?_, ih⟩
    exact hrest.pending_dead k (List.mem_append_left _ hk)

/-- No more goes than can be reached from what was pending. -/
theorem least (h : Walk pending gone s t) {P : Handle → Prop} (hpending : ∀ k ∈ pending, P k)
    (hclosed : ∀ x ∈ s.entries.entries, P x.1 → ∀ k ∈ x.2.dependents, P k) :
    ∀ x ∈ gone, P x.1 := by
  induction h with
  | done => exact nofun
  | dead _ _ ih => exact ih (List.forall_mem_cons.1 hpending).2 hclosed
  | live hs _ ih =>
    obtain ⟨hfirst, hrest⟩ := List.forall_mem_cons.1 hpending
    refine List.forall_mem_cons.2 ⟨hfirst, ih (fun k hk => ?_) fun x hx => ?_⟩
    · rcases List.mem_append.1 hk with hk | hk
      · exact hclosed _ (find?_eq_some_iff.1 hs) hfirst k hk
      · exact hrest k hk
    · exact hclosed x (List.mem_filter.1 hx).1

/-- Where nothing that is pending is live, nothing happens. -/
theorem eq_of_dead (h : Walk pending gone s t) (hdead : ∀ k ∈ pending, s.find? k = none) :
    gone = [] ∧ t = s := by
  induction h with
  | done => exact ⟨rfl, rfl⟩
  | dead _ _ ih => exact ih (List.forall_mem_cons.1 hdead).2
  | live hs _ _ =>
    rw [(List.forall_mem_cons.1 hdead).1] at hs
    cases hs

end Walk

end Store

end Wiring
