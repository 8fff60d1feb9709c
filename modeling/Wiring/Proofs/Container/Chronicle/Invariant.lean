/-
  Containers whose story the journal tells.

  `Told l objs c` is the INVARIANT: whatever is live in `c` is one of `objs`, each of which was formed
  by a definition that is still in the catalog, or has become a later one.  It lasts as long as no
  instance is added (`Told.of_follows`), and a new instance is a new object (`Told.keep`).

  Destroying writes an `Undoing`: the last phase of an object is served by its own live
  interceptors, since its proxy has carried them to the end (`told_destroyAll`).
-/
import Wiring.Proofs.Container.Reached
import Wiring.Proofs.Journal.Container
import Wiring.Proofs.Journal.Facts

namespace Wiring

namespace Container

variable {host : Host} {l : Listener host} {objs : List (Object host.journaled)}
  {c c' : Container host.journaled} {s : Container host.journaled × host.journaled.World}

/-- `Told l objs c` — INVARIANT: what is live in `c` are some of `objs`. -/
structure Told (l : Listener host) (objs : List (Object host.journaled))
    (c : Container host.journaled) : Prop where
  sound : c.catalog.Sound fun d => d.scheme = ProxyScheme.standard host.journaled
  overriding : c.catalog.overriding = false
  listener : c.listener = l.journaled
  known : ∀ h e, c.store.find? h = some e → ∃ o ∈ objs, o.handle = h ∧ o.entry = e
  formed : ∀ o ∈ objs, o.Formed
  current : ∀ o ∈ objs, ∃ d, c.catalog.byType? o.entry.type = some d ∧
    Definition.Later o.definition d
  issued : ∀ o ∈ objs, o.handle.number < c.store.next
  distinct : (objs.map (·.handle)).Nodup

namespace Told

/-- Nothing new has to be told while definitions become later ones. -/
theorem of_follows (h : Told l objs c) (hcatalog : c.catalog.Follows c'.catalog)
    (hlistener : c'.listener = c.listener) (hstore : c'.store = c.store) : Told l objs c' where
  sound := hcatalog.sound (fun hlater hscheme => hlater.scheme_eq.trans hscheme) h.sound
  overriding := hcatalog.overriding.trans h.overriding
  listener := hlistener.trans h.listener
  known k e he := h.known k e (hstore ▸ he)
  formed := h.formed
  current o ho := by
    obtain ⟨d, hd, hlater⟩ := h.current o ho
    obtain ⟨d', hd', hlater'⟩ := hcatalog.later hd
    exact ⟨d', hd', hlater.trans hlater'⟩
  issued o ho := by
    rw [hstore]
    exact h.issued o ho
  distinct := h.distinct

/-- Creations in progress are no part of the story. -/
theorem of_eq (h : Told l objs c) (hcatalog : c'.catalog = c.catalog)
    (hlistener : c'.listener = c.listener) (hstore : c'.store = c.store) : Told l objs c' :=
  h.of_follows (hcatalog ▸ Catalog.Follows.refl _) hlistener hstore

theorem release (h : Told l objs c) (k : Handle) :
    Told l objs { c with store := c.store.release k } where
  sound := h.sound
  overriding := h.overriding
  listener := h.listener
  known k' e he := h.known k' e (Store.find?_of_release he)
  formed := h.formed
  current := h.current
  issued := h.issued
  distinct := h.distinct

/-- A new instance is a new object. -/
theorem keep (h : Told l objs c) {o : Object host.journaled} (ho : o.Formed)
    (hhandle : o.handle = c.store.upcoming) {d : Definition host.journaled}
    (hd : c.catalog.byType? o.entry.type = some d) (hlater : Definition.Later o.definition d) :
    Told l (objs ++ [o]) { c with store := c.store.keep o.entry } where
  sound := h.sound
  overriding := h.overriding
  listener := h.listener
  known k e he := by
    have hfind := (Store.find?_keep c.store o.entry k).symm.trans he
    split at hfind
    · next hk =>
      cases hfind
      exact ⟨o, List.mem_append_right _ (List.mem_singleton_self o), hhandle.trans hk.symm, rfl⟩
    · obtain ⟨o', ho', heq⟩ := h.known k e hfind
      exact ⟨o', List.mem_append_left _ ho', heq⟩
  formed := List.forall_mem_append.2 ⟨h.formed, List.forall_mem_singleton.2 ho⟩
  current := List.forall_mem_append.2 ⟨h.current, List.forall_mem_singleton.2 ⟨d, hd, hlater⟩⟩
  issued := by
    refine List.forall_mem_append.2 ⟨fun o' ho' => ?_, List.forall_mem_singleton.2 ?_⟩
    · exact Nat.lt_succ_of_lt (h.issued o' ho')
    · rw [hhandle]
      exact Nat.lt_succ_self _
  distinct := by
    rw [List.map_append]
    refine List.nodup_append.2 ⟨h.distinct, List.pairwise_singleton _ _, ?_⟩
    -- the upcoming handle was never issued before
    intro k hk k' hk' heq
    obtain ⟨o', ho', rfl⟩ := List.mem_map.1 hk
    have hk' : k' = c.store.upcoming := (List.mem_singleton.1 hk').trans hhandle
    have hlt := h.issued o' ho'
    rw [heq, hk'] at hlt
    exact Nat.lt_irrefl _ hlt

end Told

/-! ## Destroying -/

theorem told_release (h : Told l objs s.1) (k : Handle) :
    (release k s).2.2.2 = s.2.2 ++ [.released k (s.1.store.find? k).isSome] ∧
      Told l objs (release k s).2.1 := by
  refine ⟨?_, h.release k⟩
  show (s.1.listener.released k (s.1.store.find? k).isSome s.2).2 = _
  rw [h.listener]
  rfl

/-- The visit of a live handle is the last phase of the object under it. -/
theorem told_retire (h : Told l objs s.1) {k : Handle} {e : Stored host.journaled.toVocabulary}
    (he : s.1.store.find? k = some e) :
    ∃ o ∈ objs, ∃ (seg : Journal host.toVocabulary) (outcome : Except Failure Unit),
      o.definition.Undergoes o.chains .preDestroy o.live seg ∧
      (retire k e (release k s).2).2.2.2 =
        s.2.2 ++ (.released o.handle true :: seg ++ [.retired o.handle o.entry outcome]) ∧
      Told l objs (retire k e (release k s).2).2.1 := by
  obtain ⟨o, ho, rfl, rfl⟩ := h.known k e he
  obtain ⟨d, hd, hlater⟩ := h.current o ho
  have hscheme := (h.sound _ _ hd).2
  have hformed := h.formed o ho
  obtain ⟨hreleased, htold⟩ := told_release h o.handle
  rw [he] at hreleased
  obtain ⟨seg, hseg, hundergoes, hphase⟩ := Definition.runPhase_writes hscheme
    (hlater.chains_eq.trans hformed.chains) .preDestroy
    (hlater.carries.2 hformed.carries)
    (fun i hi => hformed.covers i (Definition.mem_crew_of_forPhase hi)) (release o.handle s).2.2
  have hd' : (release o.handle s).2.1.catalog.byType? o.entry.type = some d := hd
  refine ⟨o, ho, seg, (Definition.preDestroy o.entry.reference (d, (release o.handle s).2.2)).1,
    hlater.undergoes.1 hundergoes, ?_, ?_⟩
  · rw [retire_of_some hd']
    show (s.1.listener.retired o.handle o.entry _ _).2 = _
    rw [h.listener]
    show (Definition.runPhase .preDestroy o.entry.reference (d, (release o.handle s).2.2)).2.2.2 ++
      [_] = _
    rw [hseg, hreleased]
    simp [Definition.preDestroy]
  · rw [retire_of_some hd']
    exact htold.of_follows (Catalog.follows_updated hd hphase) rfl rfl

/-- Whatever is destroyed, only objects that are known of go. -/
theorem told_destroyAll (pending : List Handle) (s : Container host.journaled × host.journaled.World) :
    Told l objs s.1 → Undoing objs s.2.2 (destroyAll pending s).2.2.2 ∧
      Told l objs (destroyAll pending s).2.1 := by
  fun_induction destroyAll pending s with
  | case1 s => exact fun h => ⟨.done, h⟩
  | case2 k rest s hdead ih =>
    intro h
    obtain ⟨hreleased, htold⟩ := told_release h k
    obtain ⟨hundo, htold'⟩ := ih htold
    rw [hreleased, hdead] at hundo
    exact ⟨.dead hundo, htold'⟩
  | case3 k rest s e hlive retired others ih =>
    intro h
    obtain ⟨o, ho, seg, outcome, hundergoes, hlog, htold⟩ := told_retire h hlive
    obtain ⟨hundo, htold'⟩ := ih htold
    have hundo : Undoing objs (retire k e (release k s).2).2.2.2 others.2.2.2 := hundo
    rw [hlog] at hundo
    exact ⟨.live ho hundergoes hundo, htold'⟩

end Container

end Wiring
