/-
  `c.Follows c'` — `c'` is what may have become of the catalog `c` while instances were made from it
  and destroyed: the same types and names, each with a later definition.

  `c.Sound P` is the INVARIANT of catalogs: definitions stand under their own types, and all of
  them satisfy `P`.  Registration keeps it for definitions that satisfy `P`; what follows a sound
  catalog is sound, if later definitions satisfy what earlier ones do.
-/
import Wiring.Catalog
import Wiring.Proofs.Definition.Later
import Wiring.Proofs.Container.Assembly

namespace Wiring

namespace Catalog

variable {host : Host}

/-- `c.needs? t` — the types that an instance of type `t` needs something of, if `t` has a
    definition. -/
def needs? (c : Catalog host) (t : TypeKey) : Option (List TypeKey) :=
  (c.byType? t).map (·.component.requirements)

/-- `c.Follows c'` — `c'` has the types and names of `c`, with later definitions. -/
structure Follows (c c' : Catalog host) : Prop where
  names : c'.names = c.names
  overriding : c'.overriding = c.overriding
  keys : c'.definitions.keys = c.definitions.keys
  later : ∀ {t d}, c.byType? t = some d → ∃ d', c'.byType? t = some d' ∧ Definition.Later d d'

namespace Follows

variable {c c' c'' : Catalog host}

theorem refl (c : Catalog host) : c.Follows c :=
  ⟨rfl, rfl, rfl, fun h => ⟨_, h, Definition.Later.refl _⟩⟩

theorem trans (h : c.Follows c') (h' : c'.Follows c'') : c.Follows c'' where
  names := h'.names.trans h.names
  overriding := h'.overriding.trans h.overriding
  keys := h'.keys.trans h.keys
  later hd :=
    have ⟨_, hd', hlater⟩ := h.later hd
    have ⟨d'', hd'', hlater'⟩ := h'.later hd'
    ⟨d'', hd'', hlater.trans hlater'⟩

theorem byType?_eq_none (h : c.Follows c') {t : TypeKey} (ht : c.byType? t = none) :
    c'.byType? t = none := by
  rw [byType?, Table.get?_eq_none_iff] at ht ⊢
  rwa [h.keys]

/-- A definition that is found later was there before. -/
theorem earlier (h : c.Follows c') {t : TypeKey} {d' : Definition host}
    (hd' : c'.byType? t = some d') : ∃ d, c.byType? t = some d ∧ Definition.Later d d' := by
  cases hd : c.byType? t with
  | none =>
    rw [h.byType?_eq_none hd] at hd'
    cases hd'
  | some d =>
    obtain ⟨d'', hd'', hlater⟩ := h.later hd
    rw [hd''] at hd'
    cases hd'
    exact ⟨d, rfl, hlater⟩

theorem size_eq (h : c.Follows c') : c'.size = c.size := by
  show c'.definitions.size = c.definitions.size
  rw [← Table.length_keys, h.keys, Table.length_keys]

/-- What instances need does not change. -/
theorem needs?_eq (h : c.Follows c') : c'.needs? = c.needs? := by
  funext t
  rw [needs?, needs?]
  cases hd : c.byType? t with
  | none => rw [h.byType?_eq_none hd]
  | some d =>
    obtain ⟨d', hd', hlater⟩ := h.later hd
    rw [hd', Option.map_some, Option.map_some, hlater.component_eq,
      Component.requirements_declarations]

/-- What has come from a catalog may be updated by what has come from its definitions. -/
theorem updated (h : c.Follows c') {t : TypeKey} {d d' : Definition host}
    (hd : c.byType? t = some d) (hlater : Definition.Later d d') : c.Follows (c'.updated t d') where
  names := h.names
  overriding := h.overriding
  keys := by
    have hmem : t ∈ c'.definitions.keys := by
      rw [h.keys]
      exact List.mem_map_of_mem (Table.mem_entries_of_get? hd)
    show (c'.definitions.insert t d').keys = c.definitions.keys
    rw [Table.keys_insert, if_pos hmem, h.keys]
  later {u e} he := by
    rw [byType?_updated]
    by_cases hu : u = t
    · subst hu
      rw [hd] at he
      cases he
      exact ⟨d', if_pos rfl, hlater⟩
    · rw [if_neg hu]
      exact h.later he

end Follows

theorem follows_updated {c : Catalog host} {t : TypeKey} {d d' : Definition host}
    (hd : c.byType? t = some d) (hlater : Definition.Later d d') : c.Follows (c.updated t d') :=
  (Follows.refl c).updated hd hlater

/-! ## Sound catalogs -/

/-- `c.Sound P` — each definition stands under its own type and satisfies `P`. -/
def Sound (P : Definition host → Prop) (c : Catalog host) : Prop :=
  ∀ t d, c.byType? t = some d → d.component.type = t ∧ P d

variable {P : Definition host → Prop}

theorem sound_ofSettings (settings : Settings) :
    (ofSettings settings : Catalog host).Sound P := nofun

theorem Follows.sound {c c' : Catalog host} (h : c.Follows c')
    (hP : ∀ {d d'}, Definition.Later d d' → P d → P d') (hc : c.Sound P) : c'.Sound P := by
  intro t d' hd'
  obtain ⟨d, hd, hlater⟩ := h.earlier hd'
  obtain ⟨ht, hd⟩ := hc t d hd
  exact ⟨hlater.type_eq.trans ht, hP hlater hd⟩

/-- What `withoutType` and `withoutName` leave was there before. -/
theorem Sound.erase {c : Catalog host} (hc : c.Sound P) (t : TypeKey) :
    ∀ u d, (c.definitions.erase t).get? u = some d → d.component.type = u ∧ P d := by
  intro u d hd
  rw [Table.get?_erase] at hd
  split at hd
  · cases hd
  · exact hc u d hd

theorem Sound.withoutType {c : Catalog host} (hc : c.Sound P) (t : TypeKey) :
    (c.withoutType t).Sound P := by
  rw [Catalog.withoutType]
  cases c.definitions.get? t with
  | none => exact hc
  | some previous => exact hc.erase t

theorem Sound.withoutName {c : Catalog host} (hc : c.Sound P) (name : String) :
    (c.withoutName name).Sound P := by
  rw [Catalog.withoutName]
  cases c.names.get? name with
  | none => exact hc
  | some t => exact hc.erase t

/-- Registration keeps a catalog sound. -/
theorem Sound.register {c c' : Catalog host} {d : Definition host} (hc : c.Sound P) (hd : P d)
    (h : c.register d = .ok c') : c'.Sound P := by
  rw [Catalog.register] at h
  cases hconflict : c.conflict? d with
  | some reason =>
    rw [hconflict] at h
    cases h
  | none =>
    rw [hconflict] at h
    cases h
    have hrest := (hc.withoutType d.component.type).withoutName d.name
    intro t e he
    have hget := (Table.get?_insert ..).symm.trans he
    split at hget
    · next ht =>
      cases hget
      exact ⟨ht.symm, hd⟩
    · exact hrest t e hget

/-- Where nothing may be replaced, registration only adds. -/
theorem register_of_not_overriding {c c' : Catalog host} {d : Definition host}
    (hover : c.overriding = false) (h : c.register d = .ok c') :
    c.byType? d.component.type = none ∧ c' = { c with
      definitions := c.definitions.insert d.component.type d
      names := c.names.insert d.name d.component.type } := by
  rw [Catalog.register] at h
  cases hconflict : c.conflict? d with
  | some reason =>
    rw [hconflict] at h
    cases h
  | none =>
    have hfree : c.hasType d.component.type = false ∧ c.hasName d.name = false := by
      rw [conflict?, hover, if_neg Bool.false_ne_true] at hconflict
      cases htype : c.hasType d.component.type <;> cases hname : c.hasName d.name <;>
        simp [htype, hname] at hconflict ⊢
    have htype : c.definitions.get? d.component.type = none :=
      Option.isSome_eq_false_iff.1 hfree.1 |> Option.isNone_iff_eq_none.1
    have hname : c.names.get? d.name = none :=
      Option.isSome_eq_false_iff.1 hfree.2 |> Option.isNone_iff_eq_none.1
    have hsame : (c.withoutType d.component.type).withoutName d.name = c := by
      rw [Catalog.withoutType, htype]
      dsimp only
      rw [Catalog.withoutName, hname]
    rw [hconflict, hsame] at h
    cases h
    exact ⟨htype, rfl⟩

theorem byType?_of_register_of_not_overriding {c c' : Catalog host} {d : Definition host}
    (hover : c.overriding = false) (h : c.register d = .ok c') {t : TypeKey} {e : Definition host}
    (he : c.byType? t = some e) : c'.byType? t = some e := by
  obtain ⟨hnone, rfl⟩ := register_of_not_overriding hover h
  show (c.definitions.insert d.component.type d).get? t = some e
  rw [Table.get?_insert]
  by_cases ht : t = d.component.type
  · rw [ht, hnone] at he
    cases he
  · rw [if_neg ht]
    exact he

end Catalog

end Wiring
