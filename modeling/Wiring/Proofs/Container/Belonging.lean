/-
  To whom the live instances belong, between the calls of any run.

  1. `Operated listener held strays c` — a run of registrations, creations, destructions, and requests
     for dependencies that are made from outside, while nothing is under construction.  A creation
     gives its handle away, and then it is held.  A request from outside stores an instance like any
     other, but gives away only the reference: its handle is a stray.
  2. Any handle may be guessed and destroyed, so the store need not be a forest.  But it is `Covered` by
     what is held and the strays, and that is kept by each call (`Attached`).
  3. So nothing live is without a root, and what belongs to nothing that is held belongs to a stray.
-/
import Mathlib
import Wiring.Proofs.Container.Walk
import Wiring.Proofs.Host.Numbers
import Wiring.Proofs.Store.Covered

namespace Wiring

namespace Container

variable {host : Host}

/-! ## Requests from outside -/

/-- Outside of a creation, what a request has stored is credited to nobody. -/
theorem provide_of_ok {p : Point host.Routine} {s t : Container host × host.World}
    {d : Definition host} {k : Handle} {reference : host.Ref}
    (hd : s.1.catalog.byType? p.requires = some d)
    (hmade : createFrom d s = (.ok (k, reference), t)) (hframes : t.1.frames = []) :
    provide p s = (.ok reference, t) := by
  rw [provide, supplying_apply, hd]
  dsimp only
  rw [hmade]
  dsimp only
  rw [credited, hframes]

/-- A request that fails is refused at once, or its creation fails. -/
theorem provide_of_error {p : Point host.Routine} {s : Container host × host.World} {f : Failure}
    (hf : (provide p s).1 = .error f) : (provide p s).2 = s ∨
      ∃ d, s.1.catalog.byType? p.requires = some d ∧ (createFrom d s).1 = .error f ∧
        (provide p s).2 = (createFrom d s).2 := by
  rw [provide, supplying_apply] at hf ⊢
  cases hd : s.1.catalog.byType? p.requires with
  | none => exact Or.inl rfl
  | some d =>
    rw [hd] at hf
    dsimp only at hf ⊢
    rcases hr : createFrom d s with ⟨g | ⟨k, reference⟩, t⟩
    · rw [hr] at hf
      cases hf
      refine Or.inr ⟨d, rfl, ?_, ?_⟩ <;> rw [hr]
    · rw [hr] at hf
      cases hf

/-! ## Runs -/

/-- `Operated listener held strays c` — a run has led to the container `c`: the handles `held` were
    given away by creations, the handles `strays` are of instances that were asked for from outside,
    and neither have been destroyed since. -/
inductive Operated (listener : Listener host) : List Handle → List Handle → Container host → Prop where
  | empty (settings : Settings) :
    Operated listener [] [] { Container.ofSettings settings with listener := listener }
  | register {held strays c c' d} (h : Operated listener held strays c)
    (hregister : c.register d = .ok c') : Operated listener held strays c'
  | create {held strays c make k} (h : Operated listener held strays c) (hmake : Requested make)
    (w : host.World) (hok : (make (c, w)).1 = .ok k) :
    Operated listener (held ++ [k]) strays (make (c, w)).2.1
  | refused {held strays c make f} (h : Operated listener held strays c) (hmake : Requested make)
    (w : host.World) (hf : (make (c, w)).1 = .error f) :
    Operated listener held strays (make (c, w)).2.1
  | provide {held strays c p d k r} (h : Operated listener held strays c) (w : host.World)
    (hd : c.catalog.byType? p.requires = some d) (hmade : (createFrom d (c, w)).1 = .ok (k, r)) :
    Operated listener held (strays ++ [k]) (Container.provide p (c, w)).2.1
  | unprovided {held strays c p f} (h : Operated listener held strays c) (w : host.World)
    (hf : (Container.provide p (c, w)).1 = .error f) :
    Operated listener held strays (Container.provide p (c, w)).2.1
  | destroy {held strays c} (h : Operated listener held strays c) (k : Handle) (w : host.World) :
    Operated listener (held.filter (· ≠ k)) (strays.filter (· ≠ k))
      (Container.destroy k (c, w)).2.1

variable {listener : Listener host} {held strays : List Handle} {c c' : Container host}

/-- `c.Attached held strays` — the INVARIANT of a run: nothing is under construction, and whatever is
    live belongs to something that is held or a stray. -/
structure Attached (held strays : List Handle) (c : Container host) : Prop where
  keeps : c.Keeps (Course.free : Course host.World (Mark host.toVocabulary))
  idle : c.Idle
  covered : c.store.Covered (held ++ strays)

namespace Attached

variable {s t : Container host × host.World} {k : Handle} {e : Stored host.toVocabulary}
  {sub : List (Handle × Stored host.toVocabulary)}

/-- The container goes on as it was, with another store. -/
theorem of_undisturbed {held' strays' : List Handle} (h : c.Attached held strays)
    (hc : Undisturbed c c') (hcovered : c'.store.Covered (held' ++ strays')) :
    c'.Attached held' strays' :=
  ⟨hc.keeps h.keeps, ⟨hc.underConstruction.trans h.idle.1, hc.frames.trans h.idle.2⟩, hcovered⟩

/-- An instance has been made, with all that it needs: it is one more root. -/
theorem grow {held' strays' : List Handle} (h : s.1.Attached held strays)
    (hgrowth : Growth (Course.free : Course host.World (Mark host.toVocabulary)) [e.type] [k]
      (sub ++ [(k, e)]) s t) (hframes : t.1.frames = s.1.frames)
    (hroots : (held ++ strays ++ [k]).Perm (held' ++ strays')) : t.1.Attached held' strays' := by
  have hsame : Undisturbed s.1 t.1 :=
    ⟨hgrowth.underConstruction, hframes, hgrowth.listener, hgrowth.catalog⟩
  have hcovered : t.1.store.Covered (held ++ strays ++ [k]) :=
    h.covered.add hgrowth.tree hgrowth.added fun x hx => (hgrowth.fresh x hx).2
  exact h.of_undisturbed hsame (hcovered.perm hroots)

/-- Nothing has been made that is left. -/
theorem same (h : s.1.Attached held strays)
    (hgrowth : Growth (Course.free : Course host.World (Mark host.toVocabulary)) [] [] [] s t)
    (hframes : t.1.frames = s.1.frames) : t.1.Attached held strays :=
  h.of_undisturbed ⟨hgrowth.underConstruction, hframes, hgrowth.listener, hgrowth.catalog⟩
    (h.covered.of_added_nil hgrowth.added)

theorem register (h : c.Attached held strays) {d : Definition host}
    (hregister : c.register d = .ok c') : c'.Attached held strays := by
  obtain ⟨catalog, hcatalog, rfl⟩ := register_eq hregister
  exact ⟨⟨h.keeps.1.register d.scheme.quiet_free hcatalog, h.keeps.2⟩, h.idle, h.covered⟩

theorem create (h : s.1.Attached held strays) {make : Act host Handle} (hmake : Requested make)
    (hok : (make s).1 = .ok k) : (make s).2.1.Attached (held ++ [k]) strays := by
  obtain ⟨e, sub, hgrowth, hframes⟩ := hmake.growth_of_ok host.quiet_free h.keeps hok
  refine h.grow hgrowth hframes ?_
  rw [List.append_assoc, List.append_assoc]
  exact List.perm_append_comm.append_left held

theorem refused (h : s.1.Attached held strays) {make : Act host Handle} (hmake : Requested make)
    {f : Failure} (hf : (make s).1 = .error f) : (make s).2.1.Attached held strays := by
  obtain ⟨hgrowth, hframes⟩ := hmake.growth_of_error host.quiet_free h.keeps hf
  exact h.same hgrowth hframes

/-- What is asked for from outside is a root of its own. -/
theorem provide (h : s.1.Attached held strays) {p : Point host.Routine} {d : Definition host}
    {reference : host.Ref} (hd : s.1.catalog.byType? p.requires = some d)
    (hmade : (createFrom d s).1 = .ok (k, reference)) :
    (Container.provide p s).2.1.Attached held (strays ++ [k]) := by
  have hcreation := creation_createFrom host.quiet_free d s h.keeps (h.keeps.needs?_eq hd).2
  obtain ⟨e, sub, -, -, hgrowth⟩ := hcreation.ok hmade
  have hprovided : Container.provide p s = (.ok reference, (createFrom d s).2) :=
    provide_of_ok hd (Prod.ext hmade rfl) (hcreation.frames.trans h.idle.2)
  -- with no frame open there is no owner to credit, so the handle is on its own
  rw [hprovided]
  refine h.grow hgrowth hcreation.frames ?_
  rw [List.append_assoc]

theorem unprovided (h : s.1.Attached held strays) {p : Point host.Routine} {f : Failure}
    (hf : (Container.provide p s).1 = .error f) :
    (Container.provide p s).2.1.Attached held strays := by
  rcases provide_of_error hf with hsame | ⟨d, hd, hfailed, hsame⟩
  · rw [hsame]
    exact h
  · have hcreation := creation_createFrom host.quiet_free d s h.keeps (h.keeps.needs?_eq hd).2
    rw [hsame]
    exact h.same (hcreation.error hfailed) hcreation.frames

theorem destroy (h : s.1.Attached held strays) (k : Handle) :
    (Container.destroy k s).2.1.Attached (held.filter (· ≠ k)) (strays.filter (· ≠ k)) := by
  refine h.of_undisturbed (undisturbed_destroy k s) ?_
  rw [← List.filter_append]
  exact h.covered.walk (walk_destroy k s)

end Attached

theorem Operated.attached (h : Operated listener held strays c) : c.Attached held strays := by
  induction h with
  | empty settings =>
    exact ⟨⟨Catalog.sound_ofSettings settings, listener.enters_free⟩, ⟨rfl, rfl⟩, .empty⟩
  | register _ hregister ih => exact ih.register hregister
  | @create held strays c make k _ hmake w hok ih => exact Attached.create (s := (c, w)) ih hmake hok
  | @refused held strays c make f _ hmake w hf ih =>
    exact Attached.refused (s := (c, w)) ih hmake hf
  | @provide held strays c p d k r _ w hd hmade ih =>
    exact Attached.provide (s := (c, w)) ih hd hmade
  | @unprovided held strays c p f _ w hf ih => exact Attached.unprovided (s := (c, w)) ih hf
  | @destroy held strays c _ k w ih => exact Attached.destroy (s := (c, w)) ih k

/-! ## Roots -/

/-- What is live is taken away with a root that belongs to nobody. -/
theorem Attached.root_of_live (h : c.Attached held strays) {k : Handle}
    {e : Stored host.toVocabulary} (he : c.store.find? k = some e) :
    ∃ r ∈ held ++ strays, c.store.Reaches r k ∧ (c.store.find? r).isSome ∧
      (∀ l e, c.store.find? l = some e → r ∉ e.dependents) ∧
        ∀ w, (Container.destroy r (c, w)).2.1.store.find? k = none := by
  obtain ⟨r, hr, hreach⟩ :=
    h.covered.reached k (List.mem_map_of_mem (Store.find?_eq_some_iff.1 he))
  have hunlisted : ∀ l e, c.store.find? l = some e → r ∉ e.dependents := fun l e hl hmem =>
    h.covered.unlisted r hr (Store.mem_dependents.2 ⟨l, e, hl, hmem⟩)
  refine ⟨r, hr, hreach, Store.isSome_find?_iff.2 (h.covered.live r hr), hunlisted, fun w => ?_⟩
  exact Table.get?_eq_none_iff.2
    ((walk_destroy r (c, w)).reached_dead (List.mem_singleton.2 rfl) hreach)

/-- A stray is live, and belongs to nothing that is held. -/
theorem Attached.stray_apart (h : c.Attached held strays) {r : Handle} (hr : r ∈ strays) :
    (c.store.find? r).isSome ∧ ∀ l ∈ held, ¬ c.store.Reaches l r := by
  have hroot : r ∈ held ++ strays := List.mem_append_right held hr
  refine ⟨Store.isSome_find?_iff.2 (h.covered.live r hroot), fun l hl hreach => ?_⟩
  exact (List.nodup_append.1 h.covered.distinct).2.2 l hl r hr
    (h.covered.eq_of_reaches hroot hreach)

/-- **Whatever is live belongs to what is held, or else to a stray.**  In every run of registrations,
    creations, destructions and requests from outside, whatever fails on the way:
    1. every live instance can be reached from something that is held or a stray, which is live and
       belongs to nobody, and to destroy this takes the instance away;
    2. a stray is live and belongs to nothing that is held, so it is lost to whoever knows no other
       handles;
    3. so the live instances all belong to what is held exactly when there are no strays. -/
theorem live_belongs_or_strays (h : Operated listener held strays c) :
    (∀ k e, c.store.find? k = some e → ∃ r ∈ held ++ strays, c.store.Reaches r k ∧
      (c.store.find? r).isSome ∧ (∀ l e, c.store.find? l = some e → r ∉ e.dependents) ∧
        ∀ w, (Container.destroy r (c, w)).2.1.store.find? k = none) ∧
      (∀ r ∈ strays, (c.store.find? r).isSome ∧ ∀ l ∈ held, ¬ c.store.Reaches l r) ∧
      ((∀ k e, c.store.find? k = some e → ∃ r ∈ held, c.store.Reaches r k) ↔ strays = []) := by
  have hattached := h.attached
  refine ⟨fun k e he => hattached.root_of_live he, fun r hr => hattached.stray_apart hr, ?_, ?_⟩
  · intro hall
    refine List.eq_nil_iff_forall_not_mem.2 fun r hr => ?_
    obtain ⟨hlive, hapart⟩ := hattached.stray_apart hr
    obtain ⟨e, he⟩ := Option.isSome_iff_exists.1 hlive
    obtain ⟨l, hl, hreach⟩ := hall r e he
    exact hapart l hl hreach
  · rintro rfl k e he
    obtain ⟨r, hr, hreach, -⟩ := hattached.root_of_live he
    rw [List.append_nil] at hr
    exact ⟨r, hr, hreach⟩

/-- Two trees of two instances, the first of which was asked for from outside, and a third instance;
    the second tree is destroyed. -/
theorem live_belongs_or_strays_two :
    ∃ c : Container Host.numbers, Operated Listener.silent [⟨4⟩] [⟨1⟩] c ∧
      c.store.entries.keys = [⟨0⟩, ⟨1⟩, ⟨4⟩] ∧
      (∃ r ∈ [⟨4⟩, ⟨1⟩], c.store.Reaches r ⟨0⟩) ∧ ¬ c.store.Reaches ⟨4⟩ ⟨1⟩ := by
  let w : Host.numbers.World := ([] : List Nat)
  let root : Definition Host.numbers := .numbered 2 "Root" [1] []
  let point : Point Host.numbers.Routine := ⟨.field ⟨⟨"caller", "field"⟩, (2 : Nat)⟩, ⟨2⟩, .plain⟩
  have hempty : Operated (Listener.silent : Listener Host.numbers) [] [] _ := .empty {}
  have hleaf := hempty.register (d := .numbered 1 "Leaf" [] []) rfl
  have hroot := hleaf.register (d := root) rfl
  have hfirst := hroot.provide (p := point) w (d := root) (k := ⟨1⟩)
    (r := .plain (2 : Nat)) (by cbv) (by cbv)
  have hsecond := hfirst.create (.type ⟨2⟩) w (k := ⟨3⟩) (by cbv)
  have hthird := hsecond.create (.name "Leaf") w (k := ⟨4⟩) (by cbv)
  have hdestroyed := hthird.destroy ⟨3⟩ w
  generalize hc : (Container.destroy ⟨3⟩ (_, w)).2.1 = c at hdestroyed
  have hkeys : c.store.entries.keys = [⟨0⟩, ⟨1⟩, ⟨4⟩] := by subst hc; cbv
  have hlive : (c.store.find? ⟨0⟩).isSome := by
    rw [Store.isSome_find?_iff, hkeys]
    exact List.mem_cons_self
  obtain ⟨e, he⟩ := Option.isSome_iff_exists.1 hlive
  obtain ⟨hreached, hapart, -⟩ := live_belongs_or_strays hdestroyed
  obtain ⟨r, hr, hreach, -⟩ := hreached ⟨0⟩ e he
  exact ⟨c, hdestroyed, hkeys, ⟨r, hr, hreach⟩,
    (hapart ⟨1⟩ List.mem_cons_self).2 ⟨4⟩ List.mem_cons_self⟩

/-- An instance that was asked for from outside, and that nobody holds. -/
theorem live_belongs_to_nobody :
    ∃ c : Container Host.numbers, Operated Listener.silent [] [⟨0⟩] c ∧
      c.store.entries.keys = [⟨0⟩] ∧
      ¬ ∀ k e, c.store.find? k = some e → ∃ r ∈ ([] : List Handle), c.store.Reaches r k := by
  let w : Host.numbers.World := ([] : List Nat)
  let leaf : Definition Host.numbers := .numbered 1 "Leaf" [] []
  let point : Point Host.numbers.Routine := ⟨.field ⟨⟨"caller", "field"⟩, (1 : Nat)⟩, ⟨1⟩, .plain⟩
  have hempty : Operated (Listener.silent : Listener Host.numbers) [] [] _ := .empty {}
  have hleaf := hempty.register (d := leaf) rfl
  have hstray := hleaf.provide (p := point) w (d := leaf) (k := ⟨0⟩)
    (r := .plain (1 : Nat)) (by cbv) (by cbv)
  generalize hc : (Container.provide point (_, w)).2.1 = c at hstray
  have hkeys : c.store.entries.keys = [⟨0⟩] := by subst hc; cbv
  refine ⟨c, hstray, hkeys, fun hall => ?_⟩
  have hlive : (c.store.find? ⟨0⟩).isSome := by
    rw [Store.isSome_find?_iff, hkeys]
    exact List.mem_cons_self
  obtain ⟨e, he⟩ := Option.isSome_iff_exists.1 hlive
  obtain ⟨r, hr, -⟩ := hall ⟨0⟩ e he
  exact List.not_mem_nil hr

end Container

end Wiring
