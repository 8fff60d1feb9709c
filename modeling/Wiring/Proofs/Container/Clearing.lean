/-
  Destroying the roots of a grove takes away the whole grove, and nothing else.

  1. Whatever is destroyed, creations in progress are `Undisturbed` by it, and the catalog is only
     followed.
  2. `Cleared L gone s t` — from `s` to `t`, the entries `gone` have left the store and their
     callbacks have run, each once, and the ledger says so.  The walk of `destroyAll` finds the
     entries in an order of its own, but the induction is on the grove: the trees over the first
     roots are gone before the last root is reached, and its own tree follows right behind it.
-/
import Wiring.Proofs.Container.Grove

namespace Wiring

namespace Container

variable {host : Host} {L : Course host.World (Mark host.toVocabulary)}
  {s t u : Container host × host.World} {gone gone' : List (Handle × Stored host.toVocabulary)}

/-! ## What no destruction touches -/

/-- `Undisturbed c c'` — the creations in progress are the same, and the definitions later ones. -/
structure Undisturbed (c c' : Container host) : Prop where
  underConstruction : c'.underConstruction = c.underConstruction
  frames : c'.frames = c.frames
  listener : c'.listener = c.listener
  catalog : c.catalog.Follows c'.catalog

namespace Undisturbed

variable {c c' c'' : Container host}

theorem refl (c : Container host) : Undisturbed c c := ⟨rfl, rfl, rfl, Catalog.Follows.refl _⟩

theorem trans (h : Undisturbed c c') (h' : Undisturbed c' c'') : Undisturbed c c'' where
  underConstruction := h'.underConstruction.trans h.underConstruction
  frames := h'.frames.trans h.frames
  listener := h'.listener.trans h.listener
  catalog := h.catalog.trans h'.catalog

theorem keeps (h : Undisturbed c c') (hc : c.Keeps L) : c'.Keeps L :=
  hc.of_follows h.catalog h.listener

end Undisturbed

theorem undisturbed_release (h : Handle) (s : Container host × host.World) :
    Undisturbed s.1 (release h s).2.1 :=
  ⟨rfl, rfl, rfl, Catalog.Follows.refl _⟩

theorem undisturbed_retire (h : Handle) (e : Stored host.toVocabulary)
    (s : Container host × host.World) : Undisturbed s.1 (retire h e s).2.1 := by
  cases hd : s.1.catalog.byType? e.type with
  | none =>
    rw [retire_of_none hd]
    exact Undisturbed.refl s.1
  | some d =>
    -- every host is quiet about the free ledger, and its definitions only become later ones
    have hphase := Definition.along_runPhase (L := (Course.free : Course host.World Empty))
      host.quiet_free .preDestroy e.reference
    obtain ⟨-, hlater, -⟩ := hphase.keeps (d, s.2) d.scheme.quiet_free
    rw [retire_of_some hd]
    exact ⟨rfl, rfl, rfl, Catalog.follows_updated hd hlater⟩

/-- The visit of a live handle. -/
theorem undisturbed_visit (h : Handle) (e : Stored host.toVocabulary)
    (s : Container host × host.World) : Undisturbed s.1 (retire h e (release h s).2).2.1 :=
  (undisturbed_release h s).trans (undisturbed_retire h e _)

/-- Whatever the store holds, and whatever fails on the way. -/
theorem undisturbed_destroyAll (pending : List Handle) (s : Container host × host.World) :
    Undisturbed s.1 (destroyAll pending s).2.1 := by
  fun_induction destroyAll pending s with
  | case1 s => exact Undisturbed.refl s.1
  | case2 h rest s _ ih => exact (undisturbed_release h s).trans ih
  | case3 h rest s e _ retired others ih =>
    exact (undisturbed_visit h e s).trans ih

/-! ## What a destruction takes away -/

/-- `Cleared L gone s t` — the entries `gone` have been released and retired. -/
structure Cleared (L : Course host.World (Mark host.toVocabulary))
    (gone : List (Handle × Stored host.toVocabulary)) (s t : Container host × host.World) : Prop
    extends Undisturbed s.1 t.1 where
  entries : t.1.store.entries.entries =
    s.1.store.entries.entries.filter fun x => x.1 ∉ gone.map Prod.fst
  next : t.1.store.next = s.1.store.next
  ledger : ∃ marks, L.rel marks s.2 t.2 ∧ storedIn marks = [] ∧ (retiredIn marks).Perm gone

namespace Cleared

theorem refl (L : Course host.World (Mark host.toVocabulary)) (s : Container host × host.World) :
    Cleared L [] s s where
  toUndisturbed := Undisturbed.refl s.1
  entries := (List.filter_eq_self.2 fun _ _ => rfl).symm
  next := rfl
  ledger := ⟨[], L.stay s.2, rfl, List.Perm.nil⟩

theorem append (h : Cleared L gone s t) (h' : Cleared L gone' t u) :
    Cleared L (gone ++ gone') s u where
  toUndisturbed := h.toUndisturbed.trans h'.toUndisturbed
  entries := by
    rw [h'.entries, h.entries, List.filter_filter]
    refine List.filter_congr fun x _ => ?_
    rw [List.map_append]
    simp only [List.mem_append, not_or, Bool.decide_and]
    exact Bool.and_comm _ _
  next := h'.next.trans h.next
  ledger :=
    have ⟨marks, hmarks, hstored, hretired⟩ := h.ledger
    have ⟨marks', hmarks', hstored', hretired'⟩ := h'.ledger
    ⟨marks ++ marks', L.append hmarks hmarks',
      by rw [storedIn_append, hstored, hstored', List.append_nil],
      by rw [retiredIn_append]; exact hretired.append hretired'⟩

/-- The order in which the entries went does not matter. -/
theorem perm (h : Cleared L gone s t) (hgone : gone.Perm gone') : Cleared L gone' s t where
  toUndisturbed := h.toUndisturbed
  entries := by
    rw [h.entries]
    refine List.filter_congr fun x _ => ?_
    exact decide_eq_decide.2 (not_congr (hgone.map Prod.fst).mem_iff)
  next := h.next
  ledger :=
    have ⟨marks, hmarks, hstored, hretired⟩ := h.ledger
    ⟨marks, hmarks, hstored, hretired.trans hgone⟩

/-- An entry under another handle is still there. -/
theorem mem_entries (h : Cleared L gone s t) {x : Handle × Stored host.toVocabulary}
    (hx : x ∈ s.1.store.entries.entries) (hgone : x.1 ∉ gone.map Prod.fst) :
    x ∈ t.1.store.entries.entries := by
  rw [h.entries]
  exact List.mem_filter.2 ⟨hx, decide_eq_true hgone⟩

end Cleared

/-- The visit of one live handle whose type has a definition. -/
theorem cleared_retire (hq : host.Quiet L) {h : Handle} {e : Stored host.toVocabulary}
    (hs : s.1.Keeps L) (hneeds : (s.1.catalog.needs? e.type).isSome) :
    Cleared L [(h, e)] s (retire h e (release h s).2).2 := by
  obtain ⟨us, hus⟩ := Option.isSome_iff_exists.1 hneeds
  obtain ⟨d, hd, -⟩ := Option.map_eq_some_iff.1 hus
  have hreleased : L.rel [] s.2 (release h s).2.2 := hs.2.released h _ s.2
  -- the definition that answers for the type runs its callbacks, and then the listener is told
  have hphase := Definition.along_runPhase (L := L) hq .preDestroy e.reference
  obtain ⟨_, hlater, hcallbacks⟩ := hphase.keeps (d, (release h s).2.2) (hs.1 _ _ hd).2
  have hd' : (release h s).2.1.catalog.byType? e.type = some d := hd
  rw [retire_of_some hd']
  exact {
    toUndisturbed := ⟨rfl, rfl, rfl, Catalog.follows_updated hd hlater⟩
    entries := by
      show s.1.store.entries.entries.filter _ = _
      refine List.filter_congr fun x _ => ?_
      simp
    next := rfl
    ledger := ⟨[.retired h e],
      L.append (L.trans hreleased hcallbacks) (hs.2.retired h e _ _), rfl, List.Perm.refl _⟩ }

/-- The roots of a grove take the whole grove with them; then the walk goes on to what is left. -/
theorem destroyAll_grove (hq : host.Quiet L)
    {needs : TypeKey → Option (List TypeKey)} {ts : List TypeKey} {roots : List Handle}
    {es : List (Handle × Stored host.toVocabulary)} (hgrove : Grove needs ts roots es) :
    ∀ (rest : List Handle) (s : Container host × host.World), s.1.Keeps L →
      needs = s.1.catalog.needs? → (∀ x ∈ es, x ∈ s.1.store.entries.entries) →
      (es.map Prod.fst).Nodup →
      ∃ t, (destroyAll (roots ++ rest) s).2 = (destroyAll rest t).2 ∧ Cleared L es s t := by
  induction hgrove with
  | bare => exact fun rest s _ _ _ _ => ⟨s, rfl, Cleared.refl L s⟩
  | @plant ts roots es us sub h e _ _ hneeds ih ihtree =>
    intro rest s hs hcatalog hlive hdistinct
    -- no handle occurs twice, so what goes first does not take the others with it
    have hsplit : (es.map Prod.fst).Nodup ∧ (sub.map Prod.fst).Nodup ∧ h ∉ es.map Prod.fst ∧
        h ∉ sub.map Prod.fst ∧ ∀ x ∈ sub, x.1 ∉ es.map Prod.fst := by
      simp only [List.map_append, List.nodup_append, List.map_cons, List.map_nil,
        List.mem_append, List.mem_singleton] at hdistinct
      obtain ⟨⟨hes, hsub, hcross⟩, -, hlast⟩ := hdistinct
      exact ⟨hes, hsub, fun hmem => hlast h (Or.inl hmem) h rfl rfl,
        fun hmem => hlast h (Or.inr hmem) h rfl rfl,
        fun x hx hmem => hcross _ hmem _ (List.mem_map_of_mem hx) rfl⟩
    obtain ⟨hes, hsub, hhes, hhsub, hcross⟩ := hsplit
    have hmem : ∀ x, x ∈ es ∨ x ∈ sub ∨ x = (h, e) → x ∈ s.1.store.entries.entries := by
      intro x hx
      refine hlive x ?_
      rcases hx with hx | hx | hx
      · exact List.mem_append_left _ (List.mem_append_left _ hx)
      · exact List.mem_append_left _ (List.mem_append_right _ hx)
      · exact List.mem_append_right _ (List.mem_singleton.2 hx)
    obtain ⟨s₁, hwalk₁, hcleared₁⟩ :=
      ih (h :: rest) s hs hcatalog (fun x hx => hmem x (Or.inl hx)) hes
    have hs₁ := hcleared₁.keeps hs
    have hroot : (h, e) ∈ s₁.1.store.entries.entries :=
      hcleared₁.mem_entries (hmem _ (Or.inr (Or.inr rfl))) hhes
    have hcatalog₁ : needs = s₁.1.catalog.needs? := by
      rw [hcatalog, hcleared₁.catalog.needs?_eq]
    have hcleared₂ := cleared_retire (s := s₁) (h := h) (e := e) hq hs₁
      (by rw [← hcatalog₁, hneeds]; rfl)
    obtain ⟨s₃, hwalk₃, hcleared₃⟩ := ihtree rest (retire h e (release h s₁).2).2
      (hcleared₂.keeps hs₁) (by rw [hcatalog₁, hcleared₂.catalog.needs?_eq])
      (fun x hx => by
        refine hcleared₂.mem_entries
          (hcleared₁.mem_entries (hmem x (Or.inr (Or.inl hx))) (hcross x hx)) ?_
        intro hxh
        have hxh : x.1 = h := List.mem_singleton.1 hxh
        exact hhsub (hxh ▸ List.mem_map_of_mem hx)) hsub
    refine ⟨s₃, ?_, ?_⟩
    · rw [List.append_assoc, List.singleton_append, hwalk₁,
        destroyAll_of_live (Store.find?_eq_some_iff.2 hroot)]
      exact hwalk₃
    · refine ((hcleared₁.append hcleared₂).append hcleared₃).perm ?_
      rw [List.append_assoc, List.append_assoc]
      exact List.Perm.append_left es List.perm_append_comm

end Container

end Wiring
