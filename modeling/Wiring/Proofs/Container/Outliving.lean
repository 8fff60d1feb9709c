/-
  Dependencies outlive their owner, in every run and at every moment of it.

  1. `Managed l given struck c s` — a run of registrations, creations and destructions.  Between the
     calls the world may do whatever it likes and write down whatever is not for a container to
     write.  A handle can be had from a creation only, which gives the root of what it made; still,
     a run may guess another one, and destroy what belongs to somebody: then it is `struck`.
  2. `Kempt` is the invariant between two calls: the store is sheltered, all that creations gave is
     listed for nobody, the scene at the end of the journal shows the store, and whatever has been
     stored was stored as it should be.
  3. From there, every call that may come next is accepted from its first event to its last.
-/
import Mathlib
import Wiring.Proofs.Container.Lifetime.Creation
import Wiring.Proofs.Host.Numbers

namespace Wiring

namespace Container

variable {host : Host}

/-! ## Runs -/

/-- `Managed l given struck c s` — a run of registrations, creations and destructions has led to the
    container `c` in the world `s`; creations have returned the handles `given`; beside these and
    handles that were not live, `struck` have been destroyed. -/
inductive Managed (l : Listener host) : List Handle → List Handle → Container host.journaled →
    host.journaled.World → Prop where
  | empty (settings : Settings) (w : host.World) :
    Managed l [] [] { Container.ofSettings settings with listener := l.journaled } (w, [])
  | register {given struck c s c' d} (h : Managed l given struck c s) (hd : d.scheme.Modest)
    (hregister : c.register d = .ok c') : Managed l given struck c' s
  | create {given struck c s make k} (h : Managed l given struck c s) (hmake : Requested make)
    (hok : (make (c, s)).1 = .ok k) :
    Managed l (given ++ [k]) struck (make (c, s)).2.1 (make (c, s)).2.2
  | refused {given struck c s make f} (h : Managed l given struck c s) (hmake : Requested make)
    (hf : (make (c, s)).1 = .error f) : Managed l given struck (make (c, s)).2.1 (make (c, s)).2.2
  | destroy {given struck c s k} (h : Managed l given struck c s)
    (hk : k ∈ given ∨ c.store.find? k = none) :
    Managed l given struck (Container.destroy k (c, s)).2.1 (Container.destroy k (c, s)).2.2
  | strike {given struck c s} (h : Managed l given struck c s) (k : Handle) :
    Managed l given (k :: struck) (Container.destroy k (c, s)).2.1 (Container.destroy k (c, s)).2.2
  | elsewhere {given struck c s} (h : Managed l given struck c s) (w : host.World)
    {seg : Journal host.toVocabulary} (hseg : ∀ e ∈ seg, e.isOfStore = false) :
    Managed l given struck c (w, s.2 ++ seg)

variable {l : Listener host} {given struck : List Handle} {c c' : Container host.journaled}
  {s : host.journaled.World}

/-! ## What has been stored -/

/-- `Established log` — whatever `log` has stored was stored when its callbacks had just succeeded. -/
def Established (log : Journal host.toVocabulary) : Prop :=
  ∀ before h e, before ++ [.stored h e] <+: log → ∃ catalog, Storing catalog before h e

theorem Established.append {log seg : Journal host.toVocabulary} (h : Established log)
    (hseg : ∀ before k e after, seg = before ++ .stored k e :: after →
      ∃ catalog, Storing catalog (log ++ before) k e) : Established (log ++ seg) := by
  rintro before k e ⟨after, hsplit⟩
  rw [List.append_assoc, List.singleton_append] at hsplit
  -- the event is in the old part or in the new one; `mid` is what lies between it and the seam
  rcases List.append_eq_append_iff.1 hsplit with ⟨mid, hlog, hmid⟩ | ⟨mid, rfl, hmid⟩
  · cases mid with
    | nil =>
      rw [List.append_nil] at hlog
      obtain ⟨catalog, hstoring⟩ := hseg [] k e after hmid.symm
      rw [List.append_nil, hlog] at hstoring
      exact ⟨catalog, hstoring⟩
    | cons event mid =>
      cases hmid
      exact h before k e ⟨mid, by rw [hlog, List.append_assoc]; rfl⟩
  · exact hseg mid k e after hmid

/-- What is accepted is stored as it should be. -/
theorem Played.established {catalog : Catalog host.journaled}
    {t u : Container host.journaled × host.journaled.World} (h : Played catalog struck t u)
    (ht : Established t.2.2) : Established u.2.2 := by
  obtain ⟨seg, hlog, haccepts⟩ := h
  rw [hlog]
  exact ht.append fun before k e after hsplit => ⟨catalog, haccepts before _ after hsplit⟩

/-! ## Between two calls -/

/-- `Kempt l given struck c s` — the INVARIANT of a run. -/
structure Kempt (l : Listener host) (given struck : List Handle) (c : Container host.journaled)
    (s : host.journaled.World) : Prop where
  ready : Ready l c.catalog struck (c, s)
  idle : c.Idle
  shows : Shows (c, s)
  established : Established s.2
  /-- What a creation returned was made for nothing that is live. -/
  free : ∀ k ∈ given, k ∉ c.store.dependents
  given_issued : ∀ k ∈ given, k ∈ issuedIn s.2

namespace Kempt

theorem register (h : Kempt l given struck c s) {d : Definition host.journaled}
    (hd : d.scheme.Modest) (hregister : c.register d = .ok c') : Kempt l given struck c' s := by
  obtain ⟨catalog, hcatalog, rfl⟩ := register_eq hregister
  exact { h with
    ready := ⟨h.ready.minded.register hd hcatalog, Catalog.Follows.refl _, h.ready.sheltered,
      h.ready.issued⟩ }

/-- What a creation has added, or nothing, leaves everything in order. -/
theorem grown (h : Kempt l given struck c s) {make : Act host.journaled Handle}
    (hmake : Requested make) {ts : List TypeKey} {roots : List Handle}
    {new : List (Handle × Stored host.journaled.toVocabulary)}
    (hgrowth : Growth host.ledger ts roots new (c, s) (make (c, s)).2)
    (hroots : ∀ k ∈ roots, k ∈ issuedIn (make (c, s)).2.2.2) :
    Kempt l (given ++ roots) struck (make (c, s)).2.1 (make (c, s)).2.2 := by
  obtain ⟨hplayed, hshows⟩ := played_requested hmake h.ready h.idle h.shows
  have hundisturbed :=
    hmake.undisturbed (s := (c, s)) host.quiet_ledger h.ready.minded.keeps
  obtain ⟨-, hbefore, hadded⟩ := hgrowth.issued h.ready.issued
  refine ⟨{ h.ready.of_growth hgrowth with catalog := Catalog.Follows.refl _ },
    ⟨hundisturbed.underConstruction.trans h.idle.1, hundisturbed.frames.trans h.idle.2⟩, hshows,
    hplayed.established h.established, List.forall_mem_append.2 ⟨fun k hk hmem => ?_, ?_⟩,
    List.forall_mem_append.2 ⟨fun k hk => hbefore k (h.given_issued k hk), hroots⟩⟩
  · rcases hgrowth.mem_dependents hmem with hold | ⟨x, hx, rfl⟩
    · exact h.free k hk hold
    · exact (hadded x hx).2 (h.given_issued _ hk)
  · exact (hgrowth.sheltered h.ready.sheltered).2

theorem create (h : Kempt l given struck c s) {make : Act host.journaled Handle}
    (hmake : Requested make) {k : Handle} (hok : (make (c, s)).1 = .ok k) :
    Kempt l (given ++ [k]) struck (make (c, s)).2.1 (make (c, s)).2.2 := by
  obtain ⟨e, sub, hgrowth, -⟩ :=
    hmake.growth_of_ok (s := (c, s)) host.quiet_ledger h.ready.minded.keeps hok
  obtain ⟨-, -, hadded⟩ := hgrowth.issued h.ready.issued
  refine h.grown hmake hgrowth fun k' hk' => ?_
  rw [List.mem_singleton.1 hk']
  exact (hadded (k, e) (List.mem_append_right _ (List.mem_singleton_self _))).1

theorem refused (h : Kempt l given struck c s) {make : Act host.journaled Handle}
    (hmake : Requested make) {f : Failure} (hf : (make (c, s)).1 = .error f) :
    Kempt l given struck (make (c, s)).2.1 (make (c, s)).2.2 := by
  obtain ⟨hgrowth, -⟩ :=
    hmake.growth_of_error (s := (c, s)) host.quiet_ledger h.ready.minded.keeps hf
  have hkempt := h.grown hmake hgrowth nofun
  rwa [List.append_nil] at hkempt

/-- A destruction may start from whatever is given, and from whatever is not live. -/
theorem loose (h : Kempt l given struck c s) {k : Handle}
    (hk : k ∈ given ∨ c.store.find? k = none) : c.store.Loose struck k := by
  rcases hk with hgiven | hdead
  · exact Or.inr (h.free k hgiven)
  · -- what is listed and not live has been struck before
    by_cases hlisted : k ∈ c.store.dependents
    · exact Or.inl ((h.ready.sheltered.live k hlisted).resolve_left
        (Table.get?_eq_none_iff.1 hdead))
    · exact Or.inr hlisted

/-- To strike a handle makes it loose. -/
theorem strike (h : Kempt l given struck c s) (k : Handle) : Kempt l given (k :: struck) c s :=
  { h with
    ready := { h.ready with
      sheltered := h.ready.sheltered.mono fun _ => List.mem_cons_of_mem k } }

/-- A destruction of what is loose is accepted, -/
theorem played_destroy (h : Kempt l given struck c s) {k : Handle} (hk : c.store.Loose struck k) :
    Played c.catalog struck (c, s) (Container.destroy k (c, s)).2 ∧
      Shows (Container.destroy k (c, s)).2 ∧
      (Container.destroy k (c, s)).2.1.store.Sheltered struck := by
  rw [destroy_state]
  exact played_destroyAll [k] (c, s) h.ready.minded h.ready.catalog h.ready.sheltered
    (List.forall_mem_singleton.2 hk) h.shows

/-- and leaves everything in order. -/
theorem destroy (h : Kempt l given struck c s) {k : Handle} (hk : c.store.Loose struck k) :
    Kempt l given struck (Container.destroy k (c, s)).2.1 (Container.destroy k (c, s)).2.2 := by
  obtain ⟨hplayed, hshows, hsheltered⟩ := h.played_destroy hk
  have hwalk := walk_destroy k (c, s)
  have hsame := undisturbed_destroy k (c, s)
  refine ⟨⟨h.ready.minded.of_follows hsame.catalog hsame.listener, Catalog.Follows.refl _,
    hsheltered, issued_destroy k h.ready.minded h.ready.issued⟩,
    ⟨hsame.underConstruction.trans h.idle.1, hsame.frames.trans h.idle.2⟩, hshows,
    hplayed.established h.established,
    fun k' hk' hmem => h.free k' hk' (hwalk.dependents_subset hmem), fun k' hk' => ?_⟩
  rw [issuedIn_destroy k (c, s) h.ready.minded]
  exact h.given_issued k' hk'

/-- What others do and write down is none of the container's business. -/
theorem elsewhere (h : Kempt l given struck c s) (w : host.World)
    {seg : Journal host.toVocabulary} (hseg : ∀ e ∈ seg, e.isOfStore = false) :
    Kempt l given struck c (w, s.2 ++ seg) := by
  have hissued : issuedIn (s.2 ++ seg) = issuedIn s.2 := by
    have hnone : issuedIn seg = [] := congrArg (List.map Prod.fst)
      (List.filterMap_eq_nil_iff.2 fun e he => Event.ofStore_stored? e (hseg e he))
    rw [issuedIn_append, hnone, List.append_nil]
  have hshows : Shows (c, (w, s.2 ++ seg)) := by
    rw [Shows, Scene.of_append_of_plain s.2 hseg]
    exact h.shows
  refine ⟨⟨h.ready.minded, h.ready.catalog, h.ready.sheltered, h.ready.issued.of_eq hissued⟩,
    h.idle, hshows, h.established.append fun before k e after hsplit => ?_, h.free, ?_⟩
  · have hplain := hseg (.stored k e) (hsplit ▸ List.mem_append_right _ List.mem_cons_self)
    cases hplain
  · rw [hissued]
    exact h.given_issued

end Kempt

theorem Managed.kempt (h : Managed l given struck c s) : Kempt l given struck c s := by
  induction h with
  | empty settings w =>
    refine ⟨⟨.empty l settings, Catalog.Follows.refl _, .empty _, ⟨List.nodup_nil, nofun, nofun⟩⟩,
      ⟨rfl, rfl⟩, rfl, fun before h e hprefix => ?_, nofun, nofun⟩
    exact absurd (List.prefix_nil.1 hprefix) (List.append_ne_nil_of_right_ne_nil _ nofun)
  | register _ hd hregister ih => exact ih.register hd hregister
  | create _ hmake hok ih => exact ih.create hmake hok
  | refused _ hmake hf ih => exact ih.refused hmake hf
  | destroy _ hk ih => exact ih.destroy (ih.loose hk)
  | strike _ k ih => exact (ih.strike k).destroy (Or.inl List.mem_cons_self)
  | elsewhere _ w hseg ih => exact ih.elsewhere w hseg

/-- **Dependencies outlive their owner.**  Whatever has been registered, created and destroyed, and
    whatever fails:
    1. What the journal shows as live is what is in the store.
    2. At every moment of the run, whatever is live was stored, under a handle that had not been issued
       before, directly after its callbacks after construction had succeeded, and with it was listed
       what had been made for it, which was live and of the types that its definition requires.
    3. A creation that comes next, whether it succeeds or fails, and a destruction of what a creation
       has returned, are accepted event by event: a field, a method and a constructor are only handed
       what is live and was made for the instance under construction; and when interceptors and
       callbacks run after its construction, everything is live that was made for it; when they run
       before its destruction, everything still is, unless it was struck, while its own handle is not.
       Where nothing was struck, this is all of it.
    4. A destruction of any other handle, which then is struck itself, makes no other exception. -/
theorem dependents_outlive_owner {host : Host} {l : Listener host} {given struck : List Handle}
    {c : Container host.journaled} {s : host.journaled.World} (h : Managed l given struck c s) :
    (Scene.of s.2).live = c.store.entries.entries ∧
      (∀ log, log <+: s.2 → ∀ x ∈ (Scene.of log).live,
        ∃ before catalog, before ++ [.stored x.1 x.2] <+: log ∧ Storing catalog before x.1 x.2) ∧
      (∀ make, Requested make → Played c.catalog struck (c, s) (make (c, s)).2) ∧
      (∀ k, k ∈ given ∨ c.store.find? k = none →
        Played c.catalog struck (c, s) (Container.destroy k (c, s)).2) ∧
      ∀ k, Played c.catalog (k :: struck) (c, s) (Container.destroy k (c, s)).2 := by
  have hkempt := h.kempt
  refine ⟨hkempt.shows, fun log hlog x hx => ?_, fun make hmake => ?_, fun k hk => ?_, fun k => ?_⟩
  · obtain ⟨before, hbefore⟩ := Scene.stored_of_mem_live hx
    obtain ⟨catalog, hstoring⟩ := hkempt.established before x.1 x.2 (hbefore.trans hlog)
    exact ⟨before, catalog, hbefore, hstoring⟩
  · exact (played_requested hmake hkempt.ready hkempt.idle hkempt.shows).1
  · exact (hkempt.played_destroy (hkempt.loose hk)).1
  · exact ((hkempt.strike k).played_destroy (Or.inl List.mem_cons_self)).1

/-- `owner` — a definition that needs a leaf, with a callback before destruction. -/
def owner : Definition Host.numbers where
  component := { Component.closing 4 "Owner" 6 with
    points := (Component.numbered 4 "Owner" [1] []).points }

/-- An owner is created with its leaf, after a creation that has failed; the callback before its
    destruction runs when the leaf is live, and the owner is not. -/
theorem dependents_outlive_owner_leaf :
    ∃ (c : Container Host.numbers.journaled) (s : Host.numbers.journaled.World),
      Managed Listener.silent [⟨2⟩] [] c s ∧
        Played c.catalog [] (c, s) (Container.destroy ⟨2⟩ (c, s)).2 ∧
        let log := (Container.destroy ⟨2⟩ (c, s)).2.2.2
        ∃ n, log[n]? = some (.notified (6 : Nat) (.plain (4 : Nat)) (.ok ())) ∧
          (Scene.of (log.take n)).handles = [⟨1⟩] := by
  have hempty : Managed (Listener.silent : Listener Host.numbers) [] [] _ _ :=
    .empty {} ([] : List Nat)
  have hleaf := hempty.register (d := (Definition.numbered 1 "Leaf" [] [2]).journaled)
    (ProxyScheme.modest_journaled _) rfl
  have hfailing := hleaf.register (d := (Definition.numbered 3 "Failing" [1] [9]).journaled)
    (ProxyScheme.modest_journaled _) rfl
  have howner := hfailing.register (d := owner.journaled) (ProxyScheme.modest_journaled _) rfl
  have hrefused := howner.refused (.type ⟨3⟩)
    (f := .lifecycle "Failing" .postConstruct (.raised "nine")) (by cbv)
  have hcreated := hrefused.create (.type ⟨4⟩) (k := ⟨2⟩) (by cbv)
  obtain ⟨-, -, -, hdestroy, -⟩ := dependents_outlive_owner hcreated
  exact ⟨_, _, hcreated, hdestroy ⟨2⟩ (Or.inl List.mem_cons_self), 19, by cbv, by cbv⟩

end Container

end Wiring
