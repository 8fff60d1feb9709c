/-
  A catalog read as one list of definitions.

  1. A roster is what one would write down by hand: the definitions, in the order in which they
     joined.  `Roster.enrol` crosses out whatever shares its type or its name with the new one, or
     refuses it.
  2. `c.Describes r` — both tables of the catalog, types and names, are the roster `r` entry by
     entry.  Erasing by type and erasing by name keep it (`Describes.withoutType`,
     `Describes.withoutName`), so a registration does (`Describes.register`), and so does a whole
     series of registrations (`Describes.enlisted`).
  3. What can be looked up in a catalog follows from that (`Describes.answers`).
  4. Creations and destructions only resolve what the definitions have not resolved yet, so a
     catalog that was used still describes a roster (`Describes.of_follows`).
-/
import Mathlib
import Wiring.Proofs.Container.Reached
import Wiring.Proofs.Host.Numbers

namespace Wiring

/-! ## Rosters -/

/-- `Roster host` — definitions, in the order in which they joined. -/
abbrev Roster (host : Host) : Type := List (Definition host)

namespace Roster

variable {host : Host}

/-- `without d r` — those of `r` that share neither the type nor the name of `d`. -/
def without (d : Definition host) (r : Roster host) : Roster host :=
  r.filter fun e => e.component.type ≠ d.component.type ∧ e.name ≠ d.name

/-- `enrol overriding d r` — `r` with `d`.  It takes the place of all that share its type or its
    name where overriding is allowed; elsewhere there may be none. -/
def enrol (overriding : Bool) (d : Definition host) (r : Roster host) :
    Except Rejection (Roster host) :=
  if overriding then .ok (r.without d ++ [d])
  else if ∃ e ∈ r, e.component.type = d.component.type then .error (.duplicateType d.name)
  else if ∃ e ∈ r, e.name = d.name then .error (.duplicateName d.name)
  else .ok (r ++ [d])

end Roster

/-- `enlisted join ds a` — each of `ds` in turn joins `a`, or is refused, which leaves `a` as it is;
    the reasons to refuse them, and what has become of `a`. -/
def enlisted {δ α ε : Type} (join : δ → α → Except ε α) : List δ → α → List (Option ε) × α
  | [], a => ([], a)
  | d :: ds, a =>
    match join d a with
    | .error reason => let rest := enlisted join ds a; (some reason :: rest.1, rest.2)
    | .ok b => let rest := enlisted join ds b; (none :: rest.1, rest.2)

namespace Catalog

variable {host : Host}

/-- `c.Describes r` — the definitions of the catalog are those of the roster, each under its own
    type, and each name stands for the type of the definition that has it. -/
structure Describes (c : Catalog host) (r : Roster host) : Prop where
  definitions : c.definitions.entries = r.map fun d => (d.component.type, d)
  names : c.names.entries = r.map fun d => (d.name, d.component.type)

namespace Describes

variable {c c' : Catalog host} {r : Roster host} {d e : Definition host} {t : TypeKey}
  {name : String}

theorem ofSettings (settings : Settings) : (ofSettings settings : Catalog host).Describes [] :=
  ⟨rfl, rfl⟩

/-! ### The keys of the two tables -/

theorem types_eq (h : c.Describes r) : c.definitions.keys = r.map (·.component.type) := by
  rw [Table.keys, h.definitions, List.map_map]
  rfl

theorem names_eq (h : c.Describes r) : c.names.keys = r.map (·.name) := by
  rw [Table.keys, h.names, List.map_map]
  rfl

/-- No two definitions share a type. -/
theorem types_nodup (h : c.Describes r) : (r.map (·.component.type)).Nodup := by
  rw [← h.types_eq]
  exact c.definitions.keys_nodup

/-- No two definitions share a name. -/
theorem names_nodup (h : c.Describes r) : (r.map (·.name)).Nodup := by
  rw [← h.names_eq]
  exact c.names.keys_nodup

theorem eq_of_type_eq (h : c.Describes r) (hd : d ∈ r) (he : e ∈ r)
    (heq : d.component.type = e.component.type) : d = e :=
  List.inj_on_of_nodup_map h.types_nodup hd he heq

theorem eq_of_name_eq (h : c.Describes r) (hd : d ∈ r) (he : e ∈ r) (heq : d.name = e.name) :
    d = e :=
  List.inj_on_of_nodup_map h.names_nodup hd he heq

/-- Of two definitions of a roster, both the type and the name are the same, or neither is. -/
theorem type_eq_iff_name_eq (h : c.Describes r) (hd : d ∈ r) (he : e ∈ r) :
    d.component.type = e.component.type ↔ d.name = e.name := by
  constructor
  · intro heq
    rw [h.eq_of_type_eq hd he heq]
  · intro heq
    rw [h.eq_of_name_eq hd he heq]

/-! ### What is found -/

theorem byType?_eq_some_iff (h : c.Describes r) :
    c.byType? t = some d ↔ d ∈ r ∧ d.component.type = t := by
  rw [byType?, Table.get?_eq_some_iff, h.definitions, List.mem_map]
  constructor
  · rintro ⟨e, he, heq⟩
    cases heq
    exact ⟨he, rfl⟩
  · rintro ⟨hd, rfl⟩
    exact ⟨d, hd, rfl⟩

theorem names_get?_eq_some_iff (h : c.Describes r) :
    c.names.get? name = some t ↔ ∃ d ∈ r, d.name = name ∧ d.component.type = t := by
  rw [Table.get?_eq_some_iff, h.names, List.mem_map]
  simp only [Prod.mk.injEq]

/-- A name stands for a type exactly when the definition of that type has the name. -/
theorem names_get?_iff_byType? (h : c.Describes r) :
    c.names.get? name = some t ↔ ∃ d, c.byType? t = some d ∧ d.name = name := by
  rw [h.names_get?_eq_some_iff]
  constructor
  · rintro ⟨d, hd, hname, ht⟩
    exact ⟨d, h.byType?_eq_some_iff.2 ⟨hd, ht⟩, hname⟩
  · rintro ⟨d, hd, hname⟩
    obtain ⟨hmem, ht⟩ := h.byType?_eq_some_iff.1 hd
    exact ⟨d, hmem, hname, ht⟩

theorem byName?_eq_some_iff (h : c.Describes r) :
    c.byName? name = some d ↔ d ∈ r ∧ d.name = name := by
  rw [byName?, Option.bind_eq_some_iff]
  constructor
  · rintro ⟨t, hname, hd⟩
    obtain ⟨e, he, hname, ht⟩ := h.names_get?_eq_some_iff.1 hname
    obtain ⟨hmem, ht'⟩ := h.byType?_eq_some_iff.1 hd
    obtain rfl : d = e := h.eq_of_type_eq hmem he (ht'.trans ht.symm)
    exact ⟨hmem, hname⟩
  · rintro ⟨hmem, hname⟩
    exact ⟨d.component.type, h.names_get?_eq_some_iff.2 ⟨d, hmem, hname, rfl⟩,
      h.byType?_eq_some_iff.2 ⟨hmem, rfl⟩⟩

theorem hasType_iff (h : c.Describes r) :
    c.hasType t = true ↔ ∃ d ∈ r, d.component.type = t := by
  rw [hasType, Table.contains_iff, h.types_eq, List.mem_map]

theorem hasName_iff (h : c.Describes r) : c.hasName name = true ↔ ∃ d ∈ r, d.name = name := by
  rw [hasName, Table.contains_iff, h.names_eq, List.mem_map]

theorem size_eq (h : c.Describes r) : c.size = r.length := by
  rw [size, Table.size, h.definitions, List.length_map]

/-! ### Registrations -/

/-- A catalog and a roster without the definitions for which `p` fails: one table is filtered by its
    keys, and so is the other, if `p` can be read off either key. -/
theorem filter (h : c.Describes r) {p : Definition host → Bool} (byType : TypeKey → Bool)
    (byName : String → Bool) (htype : ∀ d ∈ r, byType d.component.type = p d)
    (hname : ∀ d ∈ r, byName d.name = p d) (hc' : c'.definitions.entries =
      c.definitions.entries.filter fun x => byType x.1)
    (hn' : c'.names.entries = c.names.entries.filter fun x => byName x.1) :
    c'.Describes (r.filter p) where
  definitions := by
    rw [hc', h.definitions, List.filter_map]
    exact congrArg _ (List.filter_congr htype)
  names := by
    rw [hn', h.names, List.filter_map]
    exact congrArg _ (List.filter_congr hname)

/-- The definition of a type goes, and its name with it. -/
theorem withoutType (h : c.Describes r) (t : TypeKey) :
    (c.withoutType t).Describes (r.filter fun e => e.component.type ≠ t) := by
  rw [Catalog.withoutType]
  cases hget : c.definitions.get? t with
  | none =>
    have hall : ∀ e ∈ r, decide (e.component.type ≠ t) = true := by
      intro e he
      refine decide_eq_true fun ht => ?_
      have hsome : c.byType? t = some e := h.byType?_eq_some_iff.2 ⟨he, ht⟩
      rw [byType?, hget] at hsome
      cases hsome
    rw [List.filter_eq_self.2 hall]
    exact h
  | some previous =>
    obtain ⟨hmem, rfl⟩ := h.byType?_eq_some_iff.1 hget
    refine h.filter (fun u => u ≠ previous.component.type) (fun n => n ≠ previous.name)
      (fun e _ => rfl) (fun e he => ?_) rfl rfl
    exact decide_eq_decide.2 (not_congr (h.type_eq_iff_name_eq he hmem).symm)

/-- The definition with a name goes, and its type with it. -/
theorem withoutName (h : c.Describes r) (name : String) :
    (c.withoutName name).Describes (r.filter fun e => e.name ≠ name) := by
  rw [Catalog.withoutName]
  cases hget : c.names.get? name with
  | none =>
    have hall : ∀ e ∈ r, decide (e.name ≠ name) = true := by
      intro e he
      refine decide_eq_true fun hname => ?_
      have hsome := h.names_get?_eq_some_iff.2 ⟨e, he, hname, rfl⟩
      rw [hget] at hsome
      cases hsome
    rw [List.filter_eq_self.2 hall]
    exact h
  | some t =>
    obtain ⟨previous, hmem, rfl, rfl⟩ := h.names_get?_eq_some_iff.1 hget
    refine h.filter (fun u => u ≠ previous.component.type) (fun n => n ≠ previous.name)
      (fun e he => ?_) (fun e _ => rfl) rfl rfl
    exact decide_eq_decide.2 (not_congr (h.type_eq_iff_name_eq he hmem))

/-- A definition whose type and name are free goes to the end of both tables. -/
theorem insert (h : c.Describes r) (htype : ∀ e ∈ r, e.component.type ≠ d.component.type)
    (hname : ∀ e ∈ r, e.name ≠ d.name) :
    Describes { c with
      definitions := c.definitions.insert d.component.type d
      names := c.names.insert d.name d.component.type } (r ++ [d]) where
  definitions := by
    have hfree : d.component.type ∉ c.definitions.keys := by
      rw [h.types_eq, List.mem_map]
      rintro ⟨e, he, heq⟩
      exact htype e he heq
    show (c.definitions.insert d.component.type d).entries = _
    rw [Table.entries_insert_of_not_mem hfree, h.definitions, List.map_append]
    rfl
  names := by
    have hfree : d.name ∉ c.names.keys := by
      rw [h.names_eq, List.mem_map]
      rintro ⟨e, he, heq⟩
      exact hname e he heq
    show (c.names.insert d.name d.component.type).entries = _
    rw [Table.entries_insert_of_not_mem hfree, h.names, List.map_append]
    rfl

end Describes

/-- `Agree x y` — a catalog and a roster refuse for the same reason, or go on as one. -/
inductive Agree : Except Rejection (Catalog host) → Except Rejection (Roster host) → Prop where
  | refused (reason : Rejection) : Agree (.error reason) (.error reason)
  | joined {c : Catalog host} {r : Roster host} (h : c.Describes r) : Agree (.ok c) (.ok r)

theorem overriding_withoutType (c : Catalog host) (t : TypeKey) :
    (c.withoutType t).overriding = c.overriding := by
  rw [withoutType]
  cases c.definitions.get? t <;> rfl

theorem overriding_withoutName (c : Catalog host) (name : String) :
    (c.withoutName name).overriding = c.overriding := by
  rw [withoutName]
  cases c.names.get? name <;> rfl

/-- A registration leaves the mode of the catalog as it is. -/
theorem overriding_of_register {c c' : Catalog host} {d : Definition host}
    (h : c.register d = .ok c') : c'.overriding = c.overriding := by
  rw [register] at h
  split at h
  · cases h
  · cases h
    exact (overriding_withoutName ..).trans (overriding_withoutType ..)

namespace Describes

variable {c c' : Catalog host} {r : Roster host}

/-- The reasons to refuse a definition are those of the roster. -/
theorem conflict?_eq (h : c.Describes r) (d : Definition host) : c.conflict? d =
    if c.overriding then none
    else if ∃ e ∈ r, e.component.type = d.component.type then some (.duplicateType d.name)
    else if ∃ e ∈ r, e.name = d.name then some (.duplicateName d.name)
    else none := by
  rw [conflict?]
  simp only [h.hasType_iff, h.hasName_iff]

/-- One registration. -/
theorem register (h : c.Describes r) (d : Definition host) :
    Agree (c.register d) (Roster.enrol c.overriding d r) := by
  -- whatever may join, what shares its type or name has gone when it does
  have hjoined : ∀ rest, rest = (c.withoutType d.component.type).withoutName d.name →
      Describes { rest with
        definitions := rest.definitions.insert d.component.type d
        names := rest.names.insert d.name d.component.type } (r.without d ++ [d]) := by
    rintro rest rfl
    have hrest := (h.withoutType d.component.type).withoutName d.name
    rw [List.filter_filter] at hrest
    have hwithout : r.without d = r.filter fun e =>
        decide (e.name ≠ d.name) && decide (e.component.type ≠ d.component.type) := by
      refine List.filter_congr fun e _ => ?_
      rw [← Bool.decide_and, decide_eq_decide]
      exact and_comm
    rw [← hwithout] at hrest
    have hgone : ∀ e ∈ r.without d, e.component.type ≠ d.component.type ∧ e.name ≠ d.name :=
      fun e he => of_decide_eq_true (List.mem_filter.1 he).2
    exact hrest.insert (fun e he => (hgone e he).1) fun e he => (hgone e he).2
  rw [Catalog.register, h.conflict?_eq, Roster.enrol]
  by_cases hover : c.overriding = true
  · rw [if_pos hover, if_pos hover]
    exact .joined (hjoined _ rfl)
  · rw [if_neg hover, if_neg hover]
    by_cases htype : ∃ e ∈ r, e.component.type = d.component.type
    · rw [if_pos htype, if_pos htype]
      exact .refused _
    · rw [if_neg htype, if_neg htype]
      by_cases hname : ∃ e ∈ r, e.name = d.name
      · rw [if_pos hname, if_pos hname]
        exact .refused _
      · rw [if_neg hname, if_neg hname]
        have hsame : r.without d = r := by
          refine List.filter_eq_self.2 fun e he => decide_eq_true ⟨fun ht => ?_, fun hn => ?_⟩
          · exact htype ⟨e, he, ht⟩
          · exact hname ⟨e, he, hn⟩
        have hjoined := hjoined _ rfl
        rw [hsame] at hjoined
        exact .joined hjoined

/-- A series of registrations, by induction on what is registered. -/
theorem enlisted (ds : List (Definition host)) : ∀ {c : Catalog host} {r : Roster host},
    c.Describes r →
    (enlisted (fun d c => c.register d) ds c).1 =
        (enlisted (Roster.enrol c.overriding) ds r).1 ∧
      (enlisted (fun d c => c.register d) ds c).2.Describes
        (enlisted (Roster.enrol c.overriding) ds r).2 := by
  induction ds with
  | nil => exact fun h => ⟨rfl, h⟩
  | cons d ds ih =>
    intro c r h
    have hstep := h.register d
    rw [Wiring.enlisted, Wiring.enlisted]
    cases hc : c.register d with
    | error reason =>
      rw [hc] at hstep
      cases hr : Roster.enrol c.overriding d r with
      | error reason' =>
        rw [hr] at hstep
        cases hstep
        obtain ⟨hreasons, hdescribes⟩ := ih h
        exact ⟨congrArg _ hreasons, hdescribes⟩
      | ok r' =>
        rw [hr] at hstep
        cases hstep
    | ok c' =>
      rw [hc] at hstep
      cases hr : Roster.enrol c.overriding d r with
      | error reason =>
        rw [hr] at hstep
        cases hstep
      | ok r' =>
        rw [hr] at hstep
        cases hstep with
        | joined hjoined =>
          obtain ⟨hreasons, hdescribes⟩ := ih hjoined
          rw [overriding_of_register hc] at hreasons hdescribes
          exact ⟨congrArg _ hreasons, hdescribes⟩

end Describes

/-! ## What can be looked up -/

/-- `c.Answers r` — everything that the catalog can be asked, it answers as the roster would. -/
structure Answers (c : Catalog host) (r : Roster host) : Prop where
  /-- No two definitions share a type, or a name. -/
  types_nodup : (r.map (·.component.type)).Nodup
  names_nodup : (r.map (·.name)).Nodup
  byType : ∀ t d, c.byType? t = some d ↔ d ∈ r ∧ d.component.type = t
  byName : ∀ name d, c.byName? name = some d ↔ d ∈ r ∧ d.name = name
  /-- A name stands for a type exactly when the definition of that type has the name. -/
  names : ∀ name t, c.names.get? name = some t ↔ ∃ d, c.byType? t = some d ∧ d.name = name
  hasType : ∀ t, c.hasType t = true ↔ ∃ d ∈ r, d.component.type = t
  hasName : ∀ name, c.hasName name = true ↔ ∃ d ∈ r, d.name = name
  size : c.size = r.length

theorem Describes.answers {c : Catalog host} {r : Roster host} (h : c.Describes r) :
    c.Answers r where
  types_nodup := h.types_nodup
  names_nodup := h.names_nodup
  byType _ _ := h.byType?_eq_some_iff
  byName _ _ := h.byName?_eq_some_iff
  names _ _ := h.names_get?_iff_byType?
  hasType _ := h.hasType_iff
  hasName _ := h.hasName_iff
  size := h.size_eq

/-! ## Catalogs in use -/

/-- What was resolved since is in the same places: the roster is that of the later definitions. -/
theorem Describes.of_follows {c c' : Catalog host} {r : Roster host} (h : c.Describes r)
    (hfollows : c.Follows c') : ∃ later : Definition host → Definition host,
      (∀ d ∈ r, Definition.Later d (later d)) ∧ c'.Describes (r.map later) := by
  let later : Definition host → Definition host := fun d => (c'.byType? d.component.type).getD d
  have hlater : ∀ d ∈ r, c'.byType? d.component.type = some (later d) ∧
      Definition.Later d (later d) := by
    intro d hd
    obtain ⟨d', hd', hl⟩ := hfollows.later (h.byType?_eq_some_iff.2 ⟨hd, rfl⟩)
    have heq : later d = d' := by
      show (c'.byType? d.component.type).getD d = d'
      rw [hd', Option.getD_some]
    rw [heq]
    exact ⟨hd', hl⟩
  refine ⟨later, fun d hd => (hlater d hd).2, ?_, ?_⟩
  · have hkeys : c'.definitions.keys = r.map (·.component.type) := hfollows.keys.trans h.types_eq
    have hentries : c'.definitions.entries.map (fun x => (x.1, some x.2)) =
        (r.map fun d => (d.component.type, later d)).map fun x => (x.1, some x.2) := by
      calc c'.definitions.entries.map (fun x => (x.1, some x.2))
          = c'.definitions.entries.map fun x => (x.1, c'.byType? x.1) := by
            refine List.map_congr_left fun x hx => ?_
            rw [byType?, Table.get?_eq_some_iff.2 hx]
        _ = c'.definitions.keys.map fun t => (t, c'.byType? t) := by
            rw [Table.keys, List.map_map]
            rfl
        _ = r.map fun d => (d.component.type, c'.byType? d.component.type) := by
            rw [hkeys, List.map_map]
            rfl
        _ = (r.map fun d => (d.component.type, later d)).map fun x => (x.1, some x.2) := by
            rw [List.map_map]
            refine List.map_congr_left fun d hd => ?_
            rw [(hlater d hd).1]
            rfl
    have hinjective : Function.Injective
        fun x : TypeKey × Definition host => (x.1, some x.2) := by
      rintro ⟨t, d⟩ ⟨u, e⟩ heq
      cases heq
      rfl
    rw [List.map_injective_iff.2 hinjective hentries, List.map_map]
    refine List.map_congr_left fun d hd => ?_
    rw [Function.comp_apply, (hlater d hd).2.type_eq]
  · rw [hfollows.names, h.names, List.map_map]
    refine List.map_congr_left fun d hd => ?_
    rw [Function.comp_apply, (hlater d hd).2.type_eq, (hlater d hd).2.name_eq]

end Catalog

/-! ## Containers -/

namespace Container

variable {host : Host} {allowed : Definition host → Prop} {listener : Listener host}
  {c : Container host}

/-- The catalog of a container describes a roster, whatever was registered, created and
    destroyed. -/
theorem Reached.exists_roster (hc : Reached allowed listener c) :
    ∃ r, c.catalog.Describes r := by
  induction hc with
  | empty settings => exact ⟨[], .ofSettings settings⟩
  | @register c c' d _ _ h ih =>
    obtain ⟨catalog, hcatalog, rfl⟩ := register_eq h
    obtain ⟨r, hr⟩ := ih
    have hstep := hr.register d
    rw [hcatalog] at hstep
    cases hr' : Roster.enrol c.catalog.overriding d r with
    | error reason =>
      rw [hr'] at hstep
      cases hstep
    | ok r' =>
      rw [hr'] at hstep
      cases hstep with
      | joined hjoined => exact ⟨r', hjoined⟩
  | @create c make hc hmake w ih =>
    obtain ⟨r, hr⟩ := ih
    obtain ⟨hkeeps, -⟩ :=
      hc.keeps_idle host.quiet_free (fun d _ => d.scheme.quiet_free) listener.enters_free
    obtain ⟨_, -, hlater⟩ :=
      hr.of_follows (hmake.undisturbed (s := (c, w)) host.quiet_free hkeeps).catalog
    exact ⟨_, hlater⟩
  | @destroy c _ handle w ih =>
    obtain ⟨r, hr⟩ := ih
    obtain ⟨_, -, hlater⟩ := hr.of_follows (undisturbed_destroy handle (c, w)).catalog
    exact ⟨_, hlater⟩

/-- The two ways to ask for an instance of a definition in the roster. -/
theorem create_of_describes {r : Roster host} (hr : c.catalog.Describes r) {d : Definition host}
    (hd : d ∈ r) (w : host.World) :
    create d.component.type (c, w) =
        ((createFrom d (c, w)).1.map Prod.fst, (createFrom d (c, w)).2) ∧
      createByName d.name (c, w) =
        ((createFrom d (c, w)).1.map Prod.fst, (createFrom d (c, w)).2) := by
  have htype : c.catalog.byType? d.component.type = some d :=
    hr.byType?_eq_some_iff.2 ⟨hd, rfl⟩
  have hname : c.catalog.byName? d.name = some d := hr.byName?_eq_some_iff.2 ⟨hd, rfl⟩
  constructor
  · rw [create_eq, htype]
  · rw [createByName_eq, hname]

/-- **A catalog is a list with replacement.**
    1. Let any definitions be registered with an empty catalog, in either mode.  Each is taken or
       refused, and then for the same reason, as by a roster (`Roster.enrol`); in the end the two
       tables of the catalog are that roster, and whatever is looked up is answered from it.
    2. The same is true of the catalog of every container that can be reached, whatever was created
       and destroyed in between, for the next registration and for lookups; so a definition is
       found by its type and by its name alike, and an instance asked for either way is made from
       it. -/
theorem catalog_is_roster {host : Host} (settings : Settings) (ds : List (Definition host))
    {listener : Listener host} {c : Container host} (hc : Reached (fun _ => True) listener c) :
    (let catalog := enlisted (fun d c => c.register d) ds (Catalog.ofSettings settings)
     let roster := enlisted (Roster.enrol settings.overriding) ds []
     catalog.1 = roster.1 ∧ catalog.2.Describes roster.2 ∧ catalog.2.Answers roster.2) ∧
    ∃ r, c.catalog.Describes r ∧ c.catalog.Answers r ∧
      (∀ d, Catalog.Agree (c.catalog.register d) (Roster.enrol c.catalog.overriding d r)) ∧
      ∀ d ∈ r, ∀ w,
        create d.component.type (c, w) =
            ((createFrom d (c, w)).1.map Prod.fst, (createFrom d (c, w)).2) ∧
          createByName d.name (c, w) =
            ((createFrom d (c, w)).1.map Prod.fst, (createFrom d (c, w)).2) := by
  constructor
  · have hempty : (Catalog.ofSettings settings : Catalog host).Describes [] := .ofSettings settings
    obtain ⟨hreasons, hdescribes⟩ := hempty.enlisted ds
    exact ⟨hreasons, hdescribes, hdescribes.answers⟩
  · obtain ⟨r, hr⟩ := hc.exists_roster
    exact ⟨r, hr, hr.answers, hr.register, fun d hd w => create_of_describes hr hd w⟩

/-- Where overriding is allowed, a definition that shares its type with one and its name with
    another replaces both, and is then the one that instances are made from, by either key;
    elsewhere it is refused for its type, even though its name is taken too. -/
theorem catalog_is_roster_replaced :
    let first := Definition.numbered 1 "A" [] []
    let second := Definition.numbered 2 "B" [] []
    let third := Definition.numbered 1 "B" [] []
    (enlisted (fun d c => c.register d) [first, second, third]
      (Catalog.ofSettings { overriding := true })).2.Answers [third] ∧
    (enlisted (fun d c => c.register d) [first, second, third]
      (Catalog.ofSettings {})).1 = [none, none, some (.duplicateType "B")] ∧
    ∃ c : Container Host.numbers, c.catalog.overriding = true ∧ c.store.size = 1 ∧
      ∀ w : List Nat, create ⟨1⟩ (c, w) = createByName "B" (c, w) := by
  intro first second third
  have hempty : Reached (fun _ => True) (Listener.silent : Listener Host.numbers) _ :=
    .empty { overriding := true }
  have hregistered := ((hempty.register (d := first) trivial rfl).register (d := second) trivial
    rfl).register (d := third) trivial rfl
  obtain ⟨c, hc, hover, hsize, hfound⟩ : ∃ c, Reached (fun _ => True) Listener.silent c ∧
      c.catalog.overriding = true ∧ c.store.size = 1 ∧
      (c.catalog.byType? ⟨1⟩).map (·.name) = some "B" :=
    ⟨_, hregistered.create (.name "B") [], by cbv, by cbv, by cbv⟩
  obtain ⟨⟨-, -, hanswers⟩, r, -, hlookups, -, hcreate⟩ :=
    catalog_is_roster { overriding := true } [first, second, third] hc
  obtain ⟨⟨hreasons, -⟩, -⟩ := catalog_is_roster {} [first, second, third] hc
  refine ⟨?_, ?_, c, hover, hsize, fun w => ?_⟩
  · have hroster : (enlisted (Roster.enrol true) [first, second, third] []).2 = [third] := by cbv
    rw [← hroster]
    exact hanswers
  · rw [hreasons]
    cbv
  · obtain ⟨d, hd, hname⟩ := Option.map_eq_some_iff.1 hfound
    obtain ⟨hmem, htype⟩ := (hlookups.byType _ _).1 hd
    obtain ⟨hbyType, hbyName⟩ := hcreate d hmem w
    rw [← htype, ← hname, hbyType, hbyName]

end Container

end Wiring
