/-
  A failed creation leaves nothing behind.

  What has been shown for every ledger is read off for two of them here: for the ledger that says
  nothing, on any host, which leaves what it means for the store; and for the journal, which tells
  in addition what became of the instances that had been stored before the creation failed.  That
  they were retired is attested: right before, their callbacks have run.
-/
import Mathlib
import Wiring.Proofs.Container.Provenance
import Wiring.Proofs.Host.Numbers

namespace Wiring

namespace Container

/-- What a balanced ledger with nothing left says of a journal. -/
theorem retired_perm_stored {V : Vocabulary} {seg : Journal V} {m n : Nat}
    (h : Balanced (seg.filterMap Event.mark?) [] m n) :
    (seg.filterMap Event.retired?).Perm (seg.filterMap Event.stored?) ∧
      ((seg.filterMap Event.stored?).map Prod.fst).Nodup ∧
      ∀ x ∈ seg.filterMap Event.stored?, m ≤ x.1.number ∧ x.1.number < n := by
  have hstored : storedIn (seg.filterMap Event.mark?) = seg.filterMap Event.stored? :=
    Event.stored?_filterMap_mark? seg
  have hretired : retiredIn (seg.filterMap Event.mark?) = seg.filterMap Event.retired? :=
    Event.retired?_filterMap_mark? seg
  obtain ⟨hperm, hdistinct, hfresh⟩ := h
  rw [hstored] at hperm hdistinct hfresh
  rw [hretired, List.nil_append] at hperm
  exact ⟨hperm.symm, hdistinct, hfresh⟩

/-- **A failed creation leaves nothing behind.**
    1. Whatever the host does, and whichever definitions were registered, in every container that
       can be reached a request that fails leaves the live instances as they were, and neither
       before nor after it is any type under construction or any frame open.
    2. On a journaled host, all instances that the request had stored before it failed were stored
       under handles of their own that are not live afterwards, and the callbacks before
       destruction have run for each of them exactly once: between its release and its retirement
       the journal has their whole run, by the definition of its type (`Attested`). -/
theorem failed_creation_leaves_nothing (host : Host) :
    (∀ (listener : Listener host) (c : Container host) (make : Act host Handle) (w : host.World)
        (f : Failure), Reached (fun _ => True) listener c → Requested make →
      (make (c, w)).1 = .error f →
        (make (c, w)).2.1.store.entries = c.store.entries ∧ c.Idle ∧ (make (c, w)).2.1.Idle) ∧
    ∀ (listener : Listener host) (c : Container host.journaled) (make : Act host.journaled Handle)
        (w : host.World) (log : Journal host.toVocabulary) (f : Failure),
      Reached (fun d => ∃ d₀ : Definition host, d = d₀.journaled) listener.journaled c →
      Requested make → (make (c, w, log)).1 = .error f →
        ∃ seg, (make (c, w, log)).2.2.2 = log ++ seg ∧
          (seg.filterMap Event.retired?).Perm (seg.filterMap Event.stored?) ∧
          ((seg.filterMap Event.stored?).map Prod.fst).Nodup ∧
          (∀ x ∈ seg.filterMap Event.stored?,
            c.store.find? x.1 = none ∧ (make (c, w, log)).2.1.store.find? x.1 = none) ∧
          Attested c.catalog log seg := by
  -- a table is determined by its list of entries
  have htable : ∀ {V : Vocabulary} {s s' : Store V}, s'.entries.entries = s.entries.entries ++ [] →
      s'.entries = s.entries := by
    intro V s s' h
    rw [List.append_nil] at h
    rcases hs : s.entries with ⟨es, _⟩
    rcases hs' : s'.entries with ⟨es', _⟩
    rw [hs, hs'] at h
    cases h
    rfl
  constructor
  · intro listener c make w f hc hmake hf
    obtain ⟨hkeeps, hidle⟩ :=
      hc.keeps_idle host.quiet_free (fun d _ => d.scheme.quiet_free) listener.enters_free
    obtain ⟨hgrowth, hframes⟩ :=
      hmake.growth_of_error (s := (c, w)) host.quiet_free hkeeps hf
    exact ⟨htable hgrowth.entries, hidle, hgrowth.underConstruction.trans hidle.1,
      hframes.trans hidle.2⟩
  · intro listener c make w log f hc hmake hf
    obtain ⟨hkeeps, -⟩ := hc.keeps_idle host.quiet_ledger
      (fun d ⟨d₀, hd⟩ => hd ▸ d₀.scheme.quiet_ledger) listener.enters_ledger
    obtain ⟨hgrowth, -⟩ :=
      hmake.growth_of_error (s := (c, w, log)) host.quiet_ledger hkeeps hf
    obtain ⟨_, ⟨seg, hseg, rfl⟩, hbalanced⟩ := hgrowth.ledger
    obtain ⟨hperm, hdistinct, hfresh⟩ := retired_perm_stored hbalanced
    have hminded : Minded listener c :=
      ⟨hc.sound (fun d ⟨d₀, hd⟩ => hd ▸ d₀.scheme.modest_journaled) Definition.Later.modest,
        hc.listener_eq⟩
    have hfounded : Founded (c, w, log) (make (c, w, log)).2 := founding_requested hmake _ hminded
    obtain ⟨seg', hseg', -, hattested⟩ := hfounded.log
    obtain rfl := List.append_cancel_left (hseg.symm.trans hseg')
    refine ⟨seg, hseg, hperm, hdistinct, fun x hx => ?_, hattested⟩
    -- such a handle was issued after all that were live before, which are all that are live now
    have hnew : c.store.find? x.1 = none := by
      refine Table.get?_eq_none_iff.2 fun hlive => ?_
      have hlt := c.store.issued x.1 hlive
      have hle := (hfresh x hx).1
      exact Nat.lt_irrefl _ (Nat.lt_of_lt_of_le hlt hle)
    refine ⟨hnew, ?_⟩
    rw [Store.find?, htable hgrowth.entries]
    exact hnew

/-- A component that needs another one, and fails after its construction: the callback 5 of the other
    one runs once, between its release and its retirement. -/
theorem failed_creation_leaves_nothing_nine :
    ∃ c : Container Host.numbers.journaled,
      Reached (fun d => ∃ d₀ : Definition Host.numbers, d = d₀.journaled)
        Listener.silent.journaled c ∧
      (create ⟨2⟩ (c, ([] : List Nat), [])).1 =
        .error (.lifecycle "Root" .postConstruct (.raised "nine")) ∧
      ∃ seg, (create ⟨2⟩ (c, ([] : List Nat), [])).2.2.2 = [] ++ seg ∧
        (seg.filterMap Event.retired?).Perm (seg.filterMap Event.stored?) ∧
        Attested c.catalog [] seg ∧
        let leaf : Stored Host.numbers.toVocabulary := ⟨⟨1⟩, .plain (1 : Nat), []⟩
        seg = [.begun ⟨2⟩, .constructed (2 : Nat) [] (.ok (.plain (2 : Nat))), .begun ⟨1⟩,
          .constructed (1 : Nat) [] (.ok (.plain (1 : Nat))), .stored ⟨0⟩ leaf,
          .assigned (1 : Nat) (.plain (2 : Nat)) (.plain (1 : Nat)) (.ok ()),
          .notified (9 : Nat) (.plain (2 : Nat)) (.error (.raised "nine")), .released ⟨0⟩ true,
          .notified (5 : Nat) (.plain (1 : Nat)) (.ok ()), .retired ⟨0⟩ leaf (.ok ())] := by
  have hempty : Reached (fun d => ∃ d₀ : Definition Host.numbers, d = d₀.journaled)
      Listener.silent.journaled _ := .empty {}
  let leaf : Definition Host.numbers := { component := .closing 1 "Leaf" 5 }
  have hleaf := hempty.register (d := leaf.journaled) ⟨_, rfl⟩ rfl
  have hroot := hleaf.register (d := (Definition.numbered 2 "Root" [1] [9]).journaled) ⟨_, rfl⟩ rfl
  obtain ⟨seg, hseg, hperm, -, -, hattested⟩ := (failed_creation_leaves_nothing Host.numbers).2
    Listener.silent _ _ ([] : List Nat) [] _ hroot (.type ⟨2⟩) (by cbv)
  refine ⟨_, hroot, by cbv, seg, hseg, hperm, hattested, ?_⟩
  rw [← List.nil_append seg, ← hseg]
  cbv

end Container

end Wiring
