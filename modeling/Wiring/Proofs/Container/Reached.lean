/-
  The containers that can be reached: from an empty one, by registering definitions, creating and
  destroying, in any order and in any worlds, whatever fails on the way.

  Between calls no creation is in progress, and the container keeps the ledger that its definitions
  and its listener keep.
-/
import Wiring.Proofs.Container.Creation

namespace Wiring

namespace Container

variable {host : Host}

/-- `Requested make` — `make` is one of the two ways to ask for a new instance. -/
inductive Requested : Act host Handle → Prop where
  | type (t : TypeKey) : Requested (create t)
  | name (name : String) : Requested (createByName name)

/-- `Reached allowed listener c` — `c` can be reached with definitions that are `allowed`, under
    `listener`. -/
inductive Reached (allowed : Definition host → Prop) (listener : Listener host) :
    Container host → Prop where
  | empty (settings : Settings) :
    Reached allowed listener { Container.ofSettings settings with listener := listener }
  | register {c c' d} (hc : Reached allowed listener c) (hd : allowed d)
    (h : c.register d = .ok c') : Reached allowed listener c'
  | create {c make} (hc : Reached allowed listener c) (hmake : Requested make) (w : host.World) :
    Reached allowed listener (make (c, w)).2.1
  | destroy {c} (hc : Reached allowed listener c) (h : Handle) (w : host.World) :
    Reached allowed listener (destroy h (c, w)).2.1

/-- `c.Idle` — no creation is in progress. -/
def Idle (c : Container host) : Prop := c.underConstruction = [] ∧ c.frames = []

/-! ## Whole creations -/

theorem createFrom_map_fst (d : Definition host) (s : Container host × host.World) :
    (Prod.fst <$> createFrom d : Act host Handle) s =
      ((createFrom d s).1.map Prod.fst, (createFrom d s).2) := by
  rw [← bind_pure_comp]
  exact Effect.bind_pure_apply ..

theorem create_eq (t : TypeKey) (s : Container host × host.World) :
    create t s = match s.1.catalog.byType? t with
      | none => (.error (.unknownComponent (.identity t)), s)
      | some d => ((createFrom d s).1.map Prod.fst, (createFrom d s).2) := by
  show (match s.1.catalog.byType? t with
    | none => _
    | some d => _ : Act host Handle) s = _
  cases s.1.catalog.byType? t with
  | none => rfl
  | some d => exact createFrom_map_fst d s

theorem createByName_eq (name : String) (s : Container host × host.World) :
    createByName name s = match s.1.catalog.byName? name with
      | none => (.error (.unknownComponent (.component name)), s)
      | some d => ((createFrom d s).1.map Prod.fst, (createFrom d s).2) := by
  show (match s.1.catalog.byName? name with
    | none => _
    | some d => _ : Act host Handle) s = _
  cases s.1.catalog.byName? name with
  | none => rfl
  | some d => exact createFrom_map_fst d s

/-- A request is refused at once, or it is a creation by a definition of the catalog. -/
theorem Requested.cases {make : Act host Handle} (hmake : Requested make)
    (s : Container host × host.World) :
    (∃ f, make s = (.error f, s)) ∨
      ∃ t d, s.1.catalog.byType? t = some d ∧
        make s = ((createFrom d s).1.map Prod.fst, (createFrom d s).2) := by
  cases hmake with
  | type t =>
    rw [create_eq]
    cases hd : s.1.catalog.byType? t with
    | none => exact Or.inl ⟨_, rfl⟩
    | some d => exact Or.inr ⟨t, d, hd, rfl⟩
  | name name =>
    rw [createByName_eq]
    cases hd : s.1.catalog.byName? name with
    | none => exact Or.inl ⟨_, rfl⟩
    | some d =>
      obtain ⟨t, -, ht⟩ := Option.bind_eq_some_iff.1 hd
      exact Or.inr ⟨t, d, ht, rfl⟩

variable {L : Course host.World (Mark host.toVocabulary)} {s : Container host × host.World}
  {make : Act host Handle}

theorem creation_createFrom (hq : host.Quiet L) : Creates L createFrom :=
  fun d s => creation_createWithin hq s.1.catalog.size d s

/-- A request that fails has added nothing. -/
theorem Requested.growth_of_error (hq : host.Quiet L) (hmake : Requested make)
    (hs : s.1.Keeps L) {f : Failure} (hf : (make s).1 = .error f) :
    Growth L [] [] [] s (make s).2 ∧ (make s).2.1.frames = s.1.frames := by
  rcases hmake.cases s with ⟨g, hg⟩ | ⟨t, d, hd, hcreate⟩
  · rw [hg]
    exact ⟨Growth.refl L s, rfl⟩
  · have hcreation := creation_createFrom hq d s hs (hs.needs?_eq hd).2
    rw [hcreate] at hf ⊢
    cases hr : (createFrom d s).1 with
    | error g => exact ⟨hcreation.error hr, hcreation.frames⟩
    | ok made =>
      rw [hr] at hf
      cases hf

/-- A request that succeeds has added one tree. -/
theorem Requested.growth_of_ok (hq : host.Quiet L) (hmake : Requested make)
    (hs : s.1.Keeps L) {h : Handle} (hok : (make s).1 = .ok h) :
    ∃ e sub, Growth L [e.type] [h] (sub ++ [(h, e)]) s (make s).2 ∧
      (make s).2.1.frames = s.1.frames := by
  rcases hmake.cases s with ⟨g, hg⟩ | ⟨t, d, hd, hcreate⟩
  · rw [hg] at hok
    cases hok
  · have hcreation := creation_createFrom hq d s hs (hs.needs?_eq hd).2
    rw [hcreate] at hok ⊢
    cases hr : (createFrom d s).1 with
    | error g =>
      rw [hr] at hok
      cases hok
    | ok made =>
      obtain ⟨h', reference⟩ := made
      rw [hr] at hok
      cases hok
      obtain ⟨e, sub, -, -, hgrowth⟩ := hcreation.ok hr
      exact ⟨e, sub, hgrowth, hcreation.frames⟩

/-- Whatever comes of a request, the container still keeps its ledger, and no more creations are in
    progress than before. -/
theorem Requested.undisturbed (hq : host.Quiet L) (hmake : Requested make) (hs : s.1.Keeps L) :
    Undisturbed s.1 (make s).2.1 := by
  cases hr : (make s).1 with
  | error f =>
    obtain ⟨hgrowth, hframes⟩ := hmake.growth_of_error hq hs hr
    exact ⟨hgrowth.underConstruction, hframes, hgrowth.listener, hgrowth.catalog⟩
  | ok h =>
    obtain ⟨e, sub, hgrowth, hframes⟩ := hmake.growth_of_ok hq hs hr
    exact ⟨hgrowth.underConstruction, hframes, hgrowth.listener, hgrowth.catalog⟩

/-! ## Between calls -/

variable {allowed : Definition host → Prop} {listener : Listener host} {c : Container host}

theorem register_eq {c c' : Container host} {d : Definition host} (h : c.register d = .ok c') :
    ∃ catalog, c.catalog.register d = .ok catalog ∧ c' = { c with catalog := catalog } := by
  rw [register] at h
  cases hr : c.catalog.register d with
  | error reason =>
    rw [hr] at h
    cases h
  | ok catalog =>
    rw [hr] at h
    cases h
    exact ⟨catalog, rfl, rfl⟩

theorem undisturbed_destroy (h : Handle) (s : Container host × host.World) :
    Undisturbed s.1 (Container.destroy h s).2.1 := by
  rw [destroy_state]
  exact undisturbed_destroyAll [h] s

/-- The INVARIANT of the containers that can be reached. -/
theorem Reached.keeps_idle (hq : host.Quiet L)
    (hallowed : ∀ d, allowed d → d.scheme.Quiet L) (hlistener : listener.Enters L)
    (hc : Reached allowed listener c) : c.Keeps L ∧ c.Idle := by
  induction hc with
  | empty settings => exact ⟨⟨Catalog.sound_ofSettings settings, hlistener⟩, rfl, rfl⟩
  | register _ hd h ih =>
    obtain ⟨catalog, hcatalog, rfl⟩ := register_eq h
    exact ⟨⟨ih.1.1.register (hallowed _ hd) hcatalog, ih.1.2⟩, ih.2⟩
  | @create c make _ hmake w ih =>
    have h := hmake.undisturbed (s := (c, w)) hq ih.1
    exact ⟨h.keeps ih.1, h.underConstruction.trans ih.2.1, h.frames.trans ih.2.2⟩
  | @destroy c _ handle w ih =>
    have h := undisturbed_destroy handle (c, w)
    exact ⟨h.keeps ih.1, h.underConstruction.trans ih.2.1, h.frames.trans ih.2.2⟩

/-- What is allowed of definitions, and lasts for as long as they are in use, holds of all in the
    catalog. -/
theorem Reached.sound {P : Definition host → Prop} (hallowed : ∀ d, allowed d → P d)
    (hlater : ∀ {d d'}, Definition.Later d d' → P d → P d') (hc : Reached allowed listener c) :
    c.catalog.Sound P := by
  induction hc with
  | empty settings => exact Catalog.sound_ofSettings settings
  | register _ hd h ih =>
    obtain ⟨catalog, hcatalog, rfl⟩ := register_eq h
    exact ih.register (hallowed _ hd) hcatalog
  | @create c make hc hmake w ih =>
    obtain ⟨hkeeps, -⟩ :=
      hc.keeps_idle host.quiet_free (fun d _ => d.scheme.quiet_free) listener.enters_free
    exact (hmake.undisturbed (s := (c, w)) host.quiet_free hkeeps).catalog.sound hlater ih
  | @destroy c _ handle w ih => exact (undisturbed_destroy handle (c, w)).catalog.sound hlater ih

/-- A listener is never exchanged. -/
theorem Reached.listener_eq (hc : Reached allowed listener c) : c.listener = listener := by
  induction hc with
  | empty settings => rfl
  | register _ _ h ih =>
    obtain ⟨catalog, -, rfl⟩ := register_eq h
    exact ih
  | @create c make hc hmake w ih =>
    obtain ⟨hkeeps, -⟩ :=
      hc.keeps_idle host.quiet_free (fun d _ => d.scheme.quiet_free) listener.enters_free
    exact (hmake.undisturbed (s := (c, w)) host.quiet_free hkeeps).listener.trans ih
  | @destroy c _ handle w ih => exact (undisturbed_destroy handle (c, w)).listener.trans ih

end Container

end Wiring
