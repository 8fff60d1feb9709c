/-
  The live instances are an ownership forest, in every run and after every call.

  1. `Lived l given held c s` — a run of registrations, creations and destructions: `given` are the
     handles that creations have returned, `held` those of them that have not been destroyed since.
     Schemes of proxies leave the journal alone, so everything that is stored on the way is in it.
  2. `Kept` is the invariant: the store is rooted in what is held, and the journal has issued every
     handle once.  In the middle of a creation the store is not rooted like that, for the instances
     made so far belong to nothing that is live; but a whole creation adds a whole tree, or nothing,
     and a destruction walks from a root.
-/
import Mathlib
import Wiring.Proofs.Container.Walk
import Wiring.Proofs.Host.Numbers
import Wiring.Proofs.Journal.Container

namespace Wiring

/-! ## Handles in a journal -/

/-- `issuedIn log` — the handles of what has been stored, in order. -/
def issuedIn {V : Vocabulary} (log : Journal V) : List Handle :=
  (log.filterMap Event.stored?).map Prod.fst

theorem issuedIn_append {V : Vocabulary} (log seg : Journal V) :
    issuedIn (log ++ seg) = issuedIn log ++ issuedIn seg := by
  rw [issuedIn, List.filterMap_append, List.map_append]
  rfl

/-- Among the marks of a journal is everything that has been stored. -/
theorem issuedIn_eq {V : Vocabulary} (log : Journal V) :
    issuedIn log = (storedIn (log.filterMap Event.mark?)).map Prod.fst :=
  congrArg (List.map Prod.fst) (Event.stored?_filterMap_mark? log).symm

theorem Event.ofStore_stored? {V : Vocabulary} :
    Journal.OfStore (stored? : Event V → Option (Handle × Stored V)) := by
  intro e he
  cases e <;> first | rfl | cases he

/-- The ledger of a move says which handles have been issued by it. -/
theorem issuedIn_of_rel {host : Host} {marks : List (Mark host.journaled.toVocabulary)}
    {s t : host.journaled.World} (h : host.ledger.rel marks s t) :
    issuedIn t.2 = issuedIn s.2 ++ (storedIn marks).map Prod.fst := by
  obtain ⟨seg, hseg, rfl⟩ := h
  rw [hseg, issuedIn_append, issuedIn_eq seg]
  rfl

/-- `Issued log s` — the journal has issued every handle once, those of the live instances among
    them, and all before the next one. -/
structure Issued {V : Vocabulary} (log : Journal V) (s : Store V) : Prop where
  distinct : (issuedIn log).Nodup
  below : ∀ k ∈ issuedIn log, k.number < s.next
  live : ∀ k ∈ s.entries.keys, k ∈ issuedIn log

theorem Issued.of_eq {V : Vocabulary} {log log' : Journal V} {s : Store V} (h : Issued log s)
    (hlog : issuedIn log' = issuedIn log) : Issued log' s where
  distinct := hlog ▸ h.distinct
  below := hlog ▸ h.below
  live := hlog ▸ h.live

namespace Container

namespace Growth

variable {host : Host} {ts : List TypeKey} {roots : List Handle}
  {new : List (Handle × Stored host.journaled.toVocabulary)}
  {s t : Container host.journaled × host.journaled.World}

/-- What had been issued before is still issued, and was not issued again. -/
theorem issued (h : Growth host.ledger ts roots new s t) (hs : Issued s.2.2 s.1.store) :
    Issued t.2.2 t.1.store ∧ (∀ k ∈ issuedIn s.2.2, k ∈ issuedIn t.2.2) ∧
      ∀ x ∈ new, x.1 ∈ issuedIn t.2.2 ∧ x.1 ∉ issuedIn s.2.2 := by
  obtain ⟨marks, hmarks, hbalanced⟩ := h.ledger
  have hissued := issuedIn_of_rel hmarks
  -- everything that was issued before is below everything that has been issued since
  have hapart : ∀ x ∈ storedIn marks, x.1 ∉ issuedIn s.2.2 := fun x hx hk =>
    Nat.lt_irrefl _ (Nat.lt_of_lt_of_le (hs.below x.1 hk) (hbalanced.fresh x hx).1)
  have hadded : ∀ x ∈ new, x ∈ storedIn marks := fun x hx =>
    hbalanced.perm.mem_iff.2 (List.mem_append_left _ hx)
  have hsince : ∀ x ∈ storedIn marks, x.1 ∈ issuedIn t.2.2 := fun x hx => by
    rw [hissued]
    exact List.mem_append_right _ (List.mem_map_of_mem hx)
  have hbefore : ∀ k ∈ issuedIn s.2.2, k ∈ issuedIn t.2.2 := fun k hk => by
    rw [hissued]
    exact List.mem_append_left _ hk
  refine ⟨⟨?_, fun k hk => ?_, fun k hk => ?_⟩, hbefore, fun x hx =>
    ⟨hsince x (hadded x hx), hapart x (hadded x hx)⟩⟩
  · rw [hissued, List.nodup_append]
    refine ⟨hs.distinct, hbalanced.distinct, ?_⟩
    rintro k hk _ hmem rfl
    obtain ⟨x, hx, rfl⟩ := List.mem_map.1 hmem
    exact hapart x hx hk
  · rw [hissued, List.mem_append] at hk
    rcases hk with hk | hk
    · exact Nat.lt_of_lt_of_le (hs.below k hk) h.next
    · obtain ⟨x, hx, rfl⟩ := List.mem_map.1 hk
      exact (hbalanced.fresh x hx).2
  · rcases h.mem_keys.1 hk with hk | ⟨x, hx, rfl⟩
    · exact hbefore k (hs.live k hk)
    · exact hsince x (hadded x hx)

end Growth

/-- A destruction issues nothing. -/
theorem issuedIn_destroyAll {host : Host} {l : Listener host} (pending : List Handle)
    (s : Container host.journaled × host.journaled.World) (hs : Minded l s.1) :
    issuedIn (destroyAll pending s).2.2.2 = issuedIn s.2.2 := by
  have hstill : s.1.Still (Journal.course Event.stored?) :=
    hs.still (fun _ _ => rfl) (fun _ _ => rfl) fun _ _ _ => rfl
  obtain ⟨seg, hseg, hnone⟩ :=
    hstill.destroyAll (host.quiet_journaled Event.ofStore_stored?) pending
  have hissued : issuedIn seg = [] := by rw [issuedIn, hnone]; rfl
  rw [hseg, issuedIn_append, hissued, List.append_nil]

theorem issuedIn_destroy {host : Host} {l : Listener host} (k : Handle)
    (s : Container host.journaled × host.journaled.World) (hs : Minded l s.1) :
    issuedIn (Container.destroy k s).2.2.2 = issuedIn s.2.2 := by
  rw [destroy_state]
  exact issuedIn_destroyAll [k] s hs

/-- What is still live was live before, and no handle is issued anew. -/
theorem issued_destroy {host : Host} {l : Listener host} (k : Handle)
    {s : Container host.journaled × host.journaled.World} (hs : Minded l s.1)
    (h : Issued s.2.2 s.1.store) :
    Issued (Container.destroy k s).2.2.2 (Container.destroy k s).2.1.store := by
  have hwalk := walk_destroy k s
  have hsame : Issued s.2.2 (Container.destroy k s).2.1.store :=
    ⟨h.distinct, fun k' hk' => hwalk.next ▸ h.below k' hk',
      fun k' hk' => h.live k' (hwalk.keys_subset hk')⟩
  exact hsame.of_eq (issuedIn_destroy k s hs)

variable {host : Host}

/-! ## Runs -/

/-- `Lived l given held c s` — a run of registrations, creations and destructions has led to the
    container `c` in the world `s`; creations have returned the handles `given`, and `held` have not
    been destroyed since. -/
inductive Lived (l : Listener host) : List Handle → List Handle → Container host.journaled →
    host.journaled.World → Prop where
  | empty (settings : Settings) (w : host.World) :
    Lived l [] [] { Container.ofSettings settings with listener := l.journaled } (w, [])
  | register {given held c s c' d} (h : Lived l given held c s) (hd : d.scheme.Modest)
    (hregister : c.register d = .ok c') : Lived l given held c' s
  | create {given held c s make k} (h : Lived l given held c s) (hmake : Requested make)
    (hok : (make (c, s)).1 = .ok k) :
    Lived l (given ++ [k]) (held ++ [k]) (make (c, s)).2.1 (make (c, s)).2.2
  | refused {given held c s make f} (h : Lived l given held c s) (hmake : Requested make)
    (hf : (make (c, s)).1 = .error f) : Lived l given held (make (c, s)).2.1 (make (c, s)).2.2
  | destroy {given held c s k} (h : Lived l given held c s) (hk : k ∈ given) :
    Lived l given (held.erase k) (Container.destroy k (c, s)).2.1 (Container.destroy k (c, s)).2.2
  | elsewhere {given held c s} (h : Lived l given held c s) (w : host.World) :
    Lived l given held c (w, s.2)

variable {l : Listener host} {given held : List Handle} {c c' : Container host.journaled}
  {s : host.journaled.World}

/-- `Kept l given held c log` — the INVARIANT of a run. -/
structure Kept (l : Listener host) (given held : List Handle) (c : Container host.journaled)
    (log : Journal host.toVocabulary) : Prop where
  minded : Minded l c
  rooted : c.store.Rooted held
  issued : Issued log c.store
  /-- What a creation returned was made for nothing that is live, -/
  free : ∀ k ∈ given, k ∉ c.store.dependents
  given_distinct : given.Nodup
  given_issued : ∀ k ∈ given, k ∈ issuedIn log

namespace Kept

/-- What is given and no longer held is not live. -/
theorem dead (h : Kept l given held c s.2) {k : Handle} (hk : k ∈ given) (hheld : k ∉ held) :
    c.store.find? k = none := by
  refine Table.get?_eq_none_iff.2 fun hlive => ?_
  rcases List.mem_append.1 (h.rooted.perm.mem_iff.1 hlive) with hroot | hdependent
  · exact hheld hroot
  · exact h.free k hk hdependent

theorem register (h : Kept l given held c s.2) {d : Definition host.journaled}
    (hd : d.scheme.Modest) (hregister : c.register d = .ok c') : Kept l given held c' s.2 := by
  obtain ⟨catalog, hcatalog, rfl⟩ := register_eq hregister
  exact { h with minded := h.minded.register hd hcatalog }

/-- A creation that succeeds adds a tree, and its root is given and held. -/
theorem create (h : Kept l given held c s.2) {make : Act host.journaled Handle}
    (hmake : Requested make) {k : Handle} (hok : (make (c, s)).1 = .ok k) :
    Kept l (given ++ [k]) (held ++ [k]) (make (c, s)).2.1 (make (c, s)).2.2.2 := by
  obtain ⟨e, sub, hgrowth, -⟩ :=
    hmake.growth_of_ok (s := (c, s)) host.quiet_ledger h.minded.keeps hok
  obtain ⟨hissued, hbefore, hadded⟩ := hgrowth.issued h.issued
  have hrooted := hgrowth.rooted h.rooted
  obtain ⟨hroot, hfresh⟩ := hadded (k, e) (List.mem_append_right _ (List.mem_singleton.2 rfl))
  refine ⟨h.minded.of_follows hgrowth.catalog hgrowth.listener, hrooted, hissued,
    fun k' hk' hmem => ?_, ?_, fun k' hk' => ?_⟩
  · rcases List.mem_append.1 hk' with hk' | hk'
    · rcases hgrowth.mem_dependents hmem with hold | ⟨x, hx, rfl⟩
      · exact h.free k' hk' hold
      · exact (hadded x hx).2 (h.given_issued _ hk')
    · -- the new root is none of the dependents, for each live handle is there once
      exact (List.nodup_append.1 hrooted.nodup).2.2 k' (List.mem_append_right _ hk') k' hmem rfl
  · rw [List.nodup_append]
    refine ⟨h.given_distinct, List.nodup_singleton k, ?_⟩
    rintro k' hk' k'' hk'' rfl
    rw [List.mem_singleton.1 hk''] at hk'
    exact hfresh (h.given_issued k hk')
  · rcases List.mem_append.1 hk' with hk' | hk'
    · exact hbefore k' (h.given_issued k' hk')
    · rwa [List.mem_singleton.1 hk']

/-- A creation that fails may have issued handles, but nothing under them is left. -/
theorem refused (h : Kept l given held c s.2) {make : Act host.journaled Handle}
    (hmake : Requested make) {f : Failure} (hf : (make (c, s)).1 = .error f) :
    Kept l given held (make (c, s)).2.1 (make (c, s)).2.2.2 := by
  obtain ⟨hgrowth, -⟩ := hmake.growth_of_error (s := (c, s)) host.quiet_ledger h.minded.keeps hf
  obtain ⟨hissued, hbefore, -⟩ := hgrowth.issued h.issued
  have hentries := hgrowth.entries
  rw [List.append_nil] at hentries
  refine ⟨h.minded.of_follows hgrowth.catalog hgrowth.listener, h.rooted.of_entries hentries,
    hissued, fun k hk => ?_, h.given_distinct, fun k hk => hbefore k (h.given_issued k hk)⟩
  rw [Store.dependents, hentries]
  exact h.free k hk

/-- A destruction takes away the tree over a root, or does nothing. -/
theorem destroy (h : Kept l given held c s.2) {k : Handle} (hk : k ∈ given) :
    Kept l given (held.erase k) (Container.destroy k (c, s)).2.1
      (Container.destroy k (c, s)).2.2.2 := by
  have hwalk := walk_destroy k (c, s)
  have hsame := undisturbed_destroy k (c, s)
  refine ⟨h.minded.of_follows hsame.catalog hsame.listener, ?_, issued_destroy k h.minded h.issued,
    fun k' hk' hmem => h.free k' hk' (hwalk.dependents_subset hmem), h.given_distinct,
    fun k' hk' => ?_⟩
  · by_cases hheld : k ∈ held
    · exact hwalk.rooted (h.rooted.perm_roots (List.perm_cons_erase hheld))
    · have hdead : ∀ k' ∈ [k], c.store.find? k' = none := fun k' hk' => by
        rw [List.mem_singleton.1 hk']
        exact h.dead hk hheld
      rw [(hwalk.eq_of_dead hdead).2, List.erase_of_not_mem hheld]
      exact h.rooted
  · rw [issuedIn_destroy k (c, s) h.minded]
    exact h.given_issued k' hk'

end Kept

theorem Lived.kept (h : Lived l given held c s) : Kept l given held c s.2 := by
  induction h with
  | empty settings w =>
    exact ⟨.empty l settings, Store.Rooted.empty, ⟨List.nodup_nil, nofun, nofun⟩, nofun,
      List.nodup_nil, nofun⟩
  | register _ hd hregister ih => exact ih.register hd hregister
  | create _ hmake hok ih => exact ih.create hmake hok
  | refused _ hmake hf ih => exact ih.refused hmake hf
  | destroy _ hk ih => exact ih.destroy hk
  | elsewhere _ w ih => exact ih

/-- **The live store is an ownership forest.**  Whatever has been registered, created and destroyed,
    also where definitions replace others and whatever fails on the way:
    1. What was made for a live instance is live, has a smaller handle, and is listed once and for
       no other live instance; the live instances that are listed for none are those that a creation
       returned and that have not been destroyed since; and all of them are below the next handle
       (`Forest`).
    2. Every handle was issued once, those of the live instances and those that creations returned
       among them, and every handle that was issued is below the next one. -/
theorem live_store_is_forest {host : Host} {l : Listener host} {given held : List Handle}
    {c : Container host.journaled} {s : host.journaled.World} (h : Lived l given held c s) :
    c.store.Forest held ∧ Issued s.2 c.store ∧ given.Nodup ∧ ∀ k ∈ given, k ∈ issuedIn s.2 :=
  ⟨h.kept.rooted.forest, h.kept.issued, h.kept.given_distinct, h.kept.given_issued⟩

/-- Two trees of two instances, with a creation between them that fails after its dependency was
    stored; the first tree is destroyed. -/
theorem live_store_is_forest_two :
    ∃ (c : Container Host.numbers.journaled) (s : Host.numbers.journaled.World),
      Lived Listener.silent [⟨1⟩, ⟨4⟩] [⟨4⟩] c s ∧ c.store.entries.keys = [⟨3⟩, ⟨4⟩] ∧
        c.store.Forest [⟨4⟩] ∧ Issued s.2 c.store := by
  have hempty : Lived (Listener.silent : Listener Host.numbers) [] [] _ _ :=
    .empty {} ([] : List Nat)
  have hleaf := hempty.register (d := (Definition.numbered 1 "Leaf" [] []).journaled)
    (ProxyScheme.modest_journaled _) rfl
  have hroot := hleaf.register (d := (Definition.numbered 2 "Root" [1] []).journaled)
    (ProxyScheme.modest_journaled _) rfl
  have hfailing := hroot.register (d := (Definition.numbered 3 "Failing" [1] [9]).journaled)
    (ProxyScheme.modest_journaled _) rfl
  have hfirst := hfailing.create (.type ⟨2⟩) (k := ⟨1⟩) (by cbv)
  have hrefused := hfirst.refused (.type ⟨3⟩)
    (f := .lifecycle "Failing" .postConstruct (.raised "nine")) (by cbv)
  have hsecond := hrefused.create (.name "Root") (k := ⟨4⟩) (by cbv)
  have hdestroyed := hsecond.destroy (k := ⟨1⟩) List.mem_cons_self
  obtain ⟨hforest, hissued, -⟩ := live_store_is_forest hdestroyed
  exact ⟨_, _, hdestroyed, by cbv, hforest, hissued⟩

end Container

end Wiring
