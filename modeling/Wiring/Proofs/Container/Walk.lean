/-
  What a destruction does to any store, and what a creation does.

  The walk of `destroyAll` is a walk through the store, whatever the callbacks do and whichever
  definitions there are by then.  A creation adds one tree, whose entries come after all others, or
  nothing.
-/
import Wiring.Proofs.Container.Reached
import Wiring.Proofs.Journal.Modest
import Wiring.Proofs.Store.Forest
import Wiring.Proofs.Store.Tree

namespace Wiring

namespace Container

variable {host : Host} {L : Course host.World (Mark host.toVocabulary)}
  {s t : Container host × host.World}

/-! ## Destructions -/

/-- `entriesOf visits` — what was visited, each under its handle. -/
def entriesOf {V : Vocabulary} (visits : List (Visit V)) : List (Handle × Stored V) :=
  visits.map fun v => (v.handle, v.entry)

theorem walk_destroyAll (pending : List Handle) (s : Container host × host.World) :
    Store.Walk pending (entriesOf (destroyAll pending s).1) s.1.store
      (destroyAll pending s).2.1.store := by
  fun_induction destroyAll pending s with
  | case1 s => exact .done s.1.store
  | case2 h rest s hdead ih =>
    rw [store_release, Store.release_of_not_live hdead] at ih
    exact .dead hdead ih
  | case3 h rest s e hlive retired others ih =>
    refine .live hlive ?_
    rw [store_retire, store_release] at ih
    exact ih

theorem walk_destroy (h : Handle) (s : Container host × host.World) :
    Store.Walk [h] (entriesOf (destroyAll [h] s).1) s.1.store
      (Container.destroy h s).2.1.store := by
  rw [destroy_state]
  exact walk_destroyAll [h] s

theorem destroy_outcome (h : Handle) (s : Container host × host.World) :
    (Container.destroy h s).1 =
      ((destroyAll [h] s).1.findSome? (·.failure?)).elim (.ok ()) .error := by
  rw [Container.destroy]
  dsimp only
  cases (destroyAll [h] s).1.findSome? (·.failure?) <;> rfl

/-- `c.Still L` — nothing that `c` does to destroy an instance gains anything in `L`. -/
structure Still {ℓ : Type} (L : Course host.World ℓ) (c : Container host) : Prop where
  schemes : c.catalog.Sound (·.scheme.Quiet L)
  released : ∀ h live w, L.rel [] w (c.listener.released h live w)
  retired : ∀ h e outcome w, L.rel [] w (c.listener.retired h e outcome w)

section

variable {ℓ : Type} {K : Course host.World ℓ}

theorem Still.of_undisturbed {c c' : Container host} (h : c.Still K) (hc : Undisturbed c c') :
    c'.Still K where
  schemes := hc.catalog.sound
    (fun hlater hquiet => by rw [hlater.scheme_eq]; exact hquiet) h.schemes
  released := by
    rw [hc.listener]
    exact h.released
  retired := by
    rw [hc.listener]
    exact h.retired

theorem Still.retire (hq : host.Quiet K) (hs : s.1.Still K) (h : Handle)
    (e : Stored host.toVocabulary) : K.rel [] s.2 (Container.retire h e s).2.2 := by
  cases hd : s.1.catalog.byType? e.type with
  | none =>
    rw [retire_of_none hd]
    exact K.stay s.2
  | some d =>
    have hphase := Definition.along_runPhase (L := K) hq .preDestroy e.reference
    obtain ⟨-, -, hcallbacks⟩ := hphase.keeps (d, s.2) (hs.schemes _ _ hd).2
    rw [retire_of_some hd]
    exact K.trans hcallbacks (hs.retired h e _ _)

/-- Where single visits gain nothing, the whole walk gains nothing. -/
theorem Still.destroyAll (hq : host.Quiet K) (pending : List Handle)
    (s : Container host × host.World) (hs : s.1.Still K) :
    K.rel [] s.2 (Container.destroyAll pending s).2.2 := by
  fun_induction Container.destroyAll pending s with
  | case1 s => exact K.stay s.2
  | case2 h rest s _ ih =>
    exact K.trans (hs.released h _ s.2) (ih (hs.of_undisturbed (undisturbed_release h s)))
  | case3 h rest s e _ retired others ih =>
    have hreleased : (release h s).2.1.Still K := hs.of_undisturbed (undisturbed_release h s)
    have hretired : K.rel [] (release h s).2.2 retired.2.2 := hreleased.retire hq h e
    exact K.trans (K.trans (hs.released h _ s.2) hretired)
      (ih (hreleased.of_undisturbed (undisturbed_retire h e _)))

end

theorem Minded.still {host : Host} {l : Listener host} {c : Container host.journaled}
    (hc : Minded l c) {ℓ : Type} {pick : Event host.toVocabulary → Option ℓ}
    (hasked : ∀ scope outcome, pick (.asked scope outcome) = none)
    (hreleased : ∀ h live, pick (.released h live) = none)
    (hretired : ∀ h e outcome, pick (.retired h e outcome) = none) :
    c.Still (Journal.course pick) where
  schemes t d hd := (hc.modest t d hd).imp id fun hmodest => hmodest.quiet hasked
  released h live w := by
    rw [hc.listener]
    exact Journal.rel_append_nil (hreleased h live) _ _ _
  retired h e outcome w := by
    rw [hc.listener]
    exact Journal.rel_append_nil (hretired h e outcome) _ _ _

/-- A handle that is not live is left alone: nothing changes and nothing is called, but the listener
    hears of it. -/
theorem destroy_of_dead {h : Handle} (hdead : s.1.store.find? h = none) :
    Container.destroy h s = (.ok (), s.1, s.1.listener.released h false s.2) := by
  rw [Container.destroy, destroyAll_of_dead hdead, destroyAll_nil, release, hdead,
    Store.release_of_not_live hdead]
  rfl

/-! ## Creations -/

namespace Growth

variable {ts : List TypeKey} {roots : List Handle}
  {new : List (Handle × Stored host.toVocabulary)}

/-- What has been added came in the order of its handles. -/
theorem ascending (h : Growth L ts roots new s t) :
    (new.map Prod.fst).Pairwise (·.number < ·.number) := by
  have hascending := t.1.store.ascending
  rw [Table.keys, h.entries, List.map_append] at hascending
  exact (List.pairwise_append.1 hascending).2.1

/-- It has handles that had not been issued before. -/
theorem fresh (h : Growth L ts roots new s t) :
    ∀ x ∈ new, s.1.store.next ≤ x.1.number ∧ x.1.number < t.1.store.next := by
  obtain ⟨marks, -, hbalanced⟩ := h.ledger
  exact fun x hx => hbalanced.fresh x (hbalanced.perm.mem_iff.2 (List.mem_append_left _ hx))

theorem mem_keys (h : Growth L ts roots new s t) {k : Handle} :
    k ∈ t.1.store.entries.keys ↔ k ∈ s.1.store.entries.keys ∨ ∃ x ∈ new, x.1 = k := by
  rw [Table.keys, h.entries, List.map_append, List.mem_append, List.mem_map (l := new)]
  exact Iff.rfl

/-- What is listed as a dependent now was listed before, or was added itself. -/
theorem mem_dependents (h : Growth L ts roots new s t) {k : Handle}
    (hk : k ∈ t.1.store.dependents) : k ∈ s.1.store.dependents ∨ ∃ x ∈ new, x.1 = k := by
  rw [Store.dependents, h.entries, List.flatMap_append, List.mem_append] at hk
  refine hk.imp id fun hnew => ?_
  obtain ⟨x, hx, hkx⟩ := List.mem_flatMap.1 hnew
  exact List.mem_map.1 (h.grove.dependents_subset hx hkx)

theorem added (h : Growth L ts roots new s t) : Store.Added new s.1.store t.1.store :=
  ⟨h.entries, h.next, fun x hx => (h.fresh x hx).1⟩

/-- What has been added for one root is a tree. -/
theorem tree {k : Handle} (h : Growth L ts [k] new s t) : Store.Tree k new where
  root := h.grove.perm.mem_iff.2 (List.mem_append_left _ (List.mem_singleton.2 rfl))
  closed _ hx _ hk := h.grove.dependents_subset hx hk
  smaller := h.grove.number_lt h.ascending
  owned x hx hroot := by
    have hmem := h.grove.perm.mem_iff.1 (List.mem_map_of_mem hx)
    rcases List.mem_append.1 hmem with hk | hdependent
    · exact absurd (List.mem_singleton.1 hk) hroot
    · exact List.mem_flatMap.1 hdependent

/-- The store is rooted in what it was rooted in before, and in the root of the tree. -/
theorem rooted {k : Handle} (h : Growth L ts [k] new s t) {held : List Handle}
    (hs : s.1.store.Rooted held) : t.1.store.Rooted (held ++ [k]) :=
  hs.grow h.entries h.grove.perm (h.grove.number_lt h.ascending)

end Growth

/-- Whatever comes of a request, it adds to the store at most. -/
theorem Requested.adds {make : Act host Handle} (hq : host.Quiet L) (hmake : Requested make)
    (hs : s.1.Keeps L) : ∃ added, Store.Added added s.1.store (make s).2.1.store := by
  cases hr : (make s).1 with
  | error f =>
    obtain ⟨hgrowth, -⟩ := hmake.growth_of_error hq hs hr
    exact ⟨[], hgrowth.added⟩
  | ok h =>
    obtain ⟨e, sub, hgrowth, -⟩ := hmake.growth_of_ok hq hs hr
    exact ⟨_, hgrowth.added⟩

end Container

end Wiring
