/-
  Destroying instances while everything that was made for them is there.

  1. What a phase writes down is accepted if all that belongs to a run of it is
     (`accepts_runPhase`): beside questions to scopes and interceptors that are made, there is
     nothing but the interceptors and the callbacks of the phase.
  2. When an instance has been released, the scene shows it leaving, and what was made for it live
     (`played_visit`).
  3. The walk of a destruction goes on from there: whatever is next has just become loose.  So it is
     accepted from the beginning to the end, as long as the store is sheltered
     (`played_destroyAll`).
-/
import Wiring.Proofs.Container.Lifetime.Rules
import Wiring.Proofs.Container.Provenance
import Wiring.Proofs.Definition.Enclosure
import Wiring.Proofs.Store.Sheltered

namespace Wiring

variable {V : Vocabulary}

/-- No container writes down what is of a pass. -/
theorem Event.OfPass.plain {phase : Phase} {goal : Goal V} {e : Event V} (h : e.OfPass phase goal) :
    e.isOfStore = false := by
  rcases h with ⟨_, _, rfl⟩ | ⟨_, rfl⟩ | ⟨_, _, rfl⟩ | hwrites
  · rfl
  · rfl
  · rfl
  · cases goal <;> cases e <;> first | rfl | cases hwrites

namespace Container

variable {host : Host} {l : Listener host} {catalog : Catalog host.journaled} {struck : List Handle}
  {log : Journal host.toVocabulary} {s : Container host.journaled × host.journaled.World}

/-! ## Phases -/

theorem Attending.allows {phase : Phase} (hphase : phase = .postConstruct ∨ phase = .preDestroy)
    {target : host.Ref} {callbacks : List (Operation host.Routine)} {e : Event host.toVocabulary}
    (he : e.OfPass phase (.callbacks target callbacks))
    (h : Attending catalog struck log e phase) : Allows catalog struck log e := by
  rcases he with ⟨_, _, rfl⟩ | ⟨_, rfl⟩ | ⟨_, _, rfl⟩ | hwrites
  · trivial
  · exact h
  · exact h
  · cases e with
    | notified r receiver outcome =>
      rcases hphase with rfl | rfl
      · exact Or.inl h
      · exact Or.inr h
    | _ => cases hwrites

/-- A phase that the scene is right for. -/
theorem accepts_runPhase {d : Definition host.journaled} (hscheme : d.scheme.Modest) {phase : Phase}
    (hphase : phase = .postConstruct ∨ phase = .preDestroy) (reference : host.journaled.Ref)
    (w : host.journaled.World)
    (h : ∀ log e, Scene.of log = Scene.of w.2 →
      e.Within log w.2 (Definition.runPhase phase reference (d, w)).2.2.2 →
        Attending catalog struck log e phase) :
    ∃ seg, (Definition.runPhase phase reference (d, w)).2.2.2 = w.2 ++ seg ∧
      (∀ e ∈ seg, e.isOfStore = false) ∧ Accepts catalog struck w.2 seg ∧
      Definition.Later d (Definition.runPhase phase reference (d, w)).2.1 := by
  obtain ⟨seg, hseg, hof⟩ := (Definition.runPhase_attends d phase reference w).ofPass hscheme
  have hplain : ∀ e ∈ seg, e.isOfStore = false := fun e he => by
    rcases hof e he with ⟨_, _, rfl⟩ | ⟨target, hpass⟩
    · rfl
    · exact hpass.plain
  refine ⟨seg, hseg, hplain, accepts_of_plain hplain fun before e after hsplit hscene => ?_,
    Definition.later_runPhase phase reference d w⟩
  have hmem : e ∈ seg := by
    rw [hsplit]
    exact List.mem_append_right _ List.mem_cons_self
  rcases hof e hmem with ⟨_, _, rfl⟩ | ⟨target, hpass⟩
  · trivial
  · exact (h _ e hscene (Event.within_of_split (hsplit ▸ hseg))).allows hphase hpass

/-! ## Destructions -/

/-- `Shows s` — the scene at the end of the journal has the live entries of the container. -/
def Shows (s : Container host.journaled × host.journaled.World) : Prop :=
  (Scene.of s.2.2).live = s.1.store.entries.entries

theorem Shows.mem_handles (h : Shows s) {k : Handle} :
    k ∈ (Scene.of s.2.2).handles ↔ k ∈ s.1.store.entries.keys := by
  rw [Scene.handles, h]
  exact Iff.rfl

/-- A release is accepted, and shown. -/
theorem played_release (hs : s.1.listener = l.journaled) (hshows : Shows s) (h : Handle) :
    Played catalog struck s (release h s).2 ∧ Shows (release h s).2 := by
  have hlog := log_release hs h
  refine ⟨.of_event hlog ?_, ?_⟩
  · show _ = true ↔ h ∈ (Scene.of s.2.2).handles
    rw [hshows.mem_handles, Store.isSome_find?_iff]
  · rw [Shows, hlog, Scene.of_concat]
    show (Scene.of s.2.2).live.filter _ = _
    rw [hshows]
    rfl

/-- Who is released is leaving. -/
theorem leaving_release (hs : s.1.listener = l.journaled) (hshows : Shows s) {h : Handle}
    {e : Stored host.journaled.toVocabulary} (he : s.1.store.find? h = some e) :
    (Scene.of (release h s).2.2.2).leaving = some (h, e) := by
  rw [log_release hs h, Scene.of_concat]
  show (Scene.of s.2.2).live.find? _ = _
  rw [hshows]
  rw [Store.find?, Table.get?] at he
  obtain ⟨x, hx, rfl⟩ := Option.map_eq_some_iff.1 he
  have hkey := List.find?_some hx
  rw [decide_eq_true_eq] at hkey
  exact hx.trans (congrArg (fun k => some (k, x.2)) hkey)

section

variable (hs : Minded l s.1) (hcatalog : catalog.Follows s.1.catalog)
  (hsheltered : s.1.store.Sheltered struck) (hshows : Shows s)

include hs hcatalog hsheltered hshows

/-- One visit: the callbacks run while everything is live that was made for the instance. -/
theorem played_visit {h : Handle} {e : Stored host.journaled.toVocabulary}
    (he : s.1.store.find? h = some e) :
    Played catalog struck s (retire h e (release h s).2).2 ∧
      Shows (retire h e (release h s).2).2 := by
  let r := (release h s).2
  obtain ⟨hplayed, hshown⟩ : Played catalog struck s r ∧ Shows r :=
    played_release hs.listener hshows h
  have hleaving : (Scene.of r.2.2).leaving = some (h, e) :=
    leaving_release hs.listener hshows he
  have hgone : h ∉ (Scene.of r.2.2).handles := by
    rw [hshown.mem_handles]
    exact Table.get?_eq_none_iff.1 ((Store.find?_release ..).trans (if_pos rfl))
  have hlive : ∀ k ∈ e.dependents, k ∈ (Scene.of r.2.2).handles ∨ k ∈ struck := fun k hk => by
    rw [hshown.mem_handles]
    exact hsheltered.live_of_release he hk
  show Played catalog struck s (retire h e r).2 ∧ Shows (retire h e r).2
  cases hd : r.1.catalog.byType? e.type with
  | none =>
    rw [retire_of_none hd]
    exact ⟨hplayed, hshown⟩
  | some d =>
    obtain ⟨first, hfirst, hlater⟩ := hcatalog.earlier (t := e.type) hd
    have hclosing : ∀ log event, Scene.of log = Scene.of r.2.2 →
        event.Within log r.2.2 (Definition.preDestroy e.reference (d, r.2)).2.2.2 →
          Attending catalog struck log event .preDestroy := fun log event hscene hwithin =>
      .intro (hscene ▸ hleaving) (hscene ▸ hgone) (hscene ▸ hlive) ⟨first, hfirst, hlater⟩ hwithin
    obtain ⟨seg, hseg, hplain, haccepts, -⟩ :=
      accepts_runPhase (hs.modest _ _ hd).2 (Or.inr rfl) e.reference r.2 hclosing
    have hlog : (retire h e r).2.2.2 = r.2.2 ++ seg ++
        [.retired h e (Definition.preDestroy e.reference (d, r.2)).1] := by
      rw [retire_of_some hd, ← hseg]
      show (r.1.listener.retired h e _ _).2 = _
      rw [show r.1.listener = _ from hs.listener]
      rfl
    have hscene : Scene.of (r.2.2 ++ seg) = Scene.of r.2.2 := Scene.of_append_of_plain _ hplain
    refine ⟨hplayed.trans ⟨_, by rw [hlog, List.append_assoc], haccepts.append
      (accepts_singleton ?_)⟩, ?_⟩
    · show (Scene.of (r.2.2 ++ seg)).leaving = _
      rw [hscene]
      exact hleaving
    · rw [Shows, hlog, Scene.of_concat, hscene, store_retire]
      exact hshown

end

/-- A whole walk. -/
theorem played_destroyAll (pending : List Handle)
    (s : Container host.journaled × host.journaled.World) (hs : Minded l s.1)
    (hcatalog : catalog.Follows s.1.catalog) (hsheltered : s.1.store.Sheltered struck)
    (hloose : ∀ k ∈ pending, s.1.store.Loose struck k) (hshows : Shows s) :
    Played catalog struck s (destroyAll pending s).2 ∧ Shows (destroyAll pending s).2 ∧
      (destroyAll pending s).2.1.store.Sheltered struck := by
  fun_induction destroyAll pending s with
  | case1 s => exact ⟨.refl s, hshows, hsheltered⟩
  | case2 h rest s hdead ih =>
    obtain ⟨hplayed, hshown⟩ : Played catalog struck s (release h s).2 ∧ Shows (release h s).2 :=
      played_release hs.listener hshows h
    have hstore : (release h s).2.1.store = s.1.store :=
      (store_release h s).trans (Store.release_of_not_live hdead)
    have hundisturbed := undisturbed_release h s
    obtain ⟨hrest, hfinally⟩ := ih
      (hs.of_follows hundisturbed.catalog hundisturbed.listener)
      hcatalog (by rwa [hstore]) (by
        rw [hstore]
        exact (List.forall_mem_cons.1 hloose).2) hshown
    exact ⟨hplayed.trans hrest, hfinally⟩
  | case3 h rest s e hlive retired others ih =>
    -- its dependents come next: they were listed for it alone, and it is gone
    obtain ⟨hfirst, hothers⟩ := List.forall_mem_cons.1 hloose
    obtain ⟨hplayed, hshown⟩ := played_visit hs hcatalog hsheltered hshows hlive
    have hstore : retired.2.1.store = s.1.store.release h :=
      (store_retire ..).trans (store_release h s)
    have hundisturbed := undisturbed_visit h e s
    obtain ⟨hrest, hfinally⟩ := ih
      (hs.of_follows hundisturbed.catalog hundisturbed.listener)
      (hcatalog.trans hundisturbed.catalog)
      (by
        rw [hstore]
        exact hsheltered.release hlive hfirst)
      (by
        rw [hstore]
        exact List.forall_mem_append.2 ⟨fun k hk => hsheltered.loose_of_mem hlive hk,
          fun k hk => (hothers k hk).release hlive⟩) hshown
    exact ⟨hplayed.trans hrest, hfinally⟩

end Container

end Wiring
