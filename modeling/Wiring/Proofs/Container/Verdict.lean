/-
  Whether a creation succeeds on an obliging host.

  1. An assembly succeeds if and only if there is a constructor and all its requests are met
     (`decides_assemble`).
  2. `Amid c₀ path` is the INVARIANT of the creations in progress: the types under construction are
     exactly those on the path of requests that leads to the current one, and the definitions have
     come from those of `c₀`.
  3. `Decided c₀ path make` — amid `path`, what `make` creates is what is creatable, and a failure
     that names a cycle is a report of one.  Going one level deeper makes the path longer by a type
     that was not on it, so the levels of `createWithin` are never used up (`decided_createWithin`).
-/
import Wiring.Proofs.Catalog.Chain
import Wiring.Proofs.Catalog.Cycle
import Wiring.Proofs.Container.Reached
import Wiring.Proofs.Definition.Obliging

namespace Wiring

namespace Definition

variable {host : Host} {P : Type} {J : P → Prop} {Q : Failure → Prop}
  {provide : Provider host P} {φ : Point host.Routine → Prop} {d : Definition host}

theorem decides_arguments {I : P × host.World → Prop} {m : Member}
    (hrequest : ∀ p ∈ d.component.parameterPoints m, Effect.Decides I Q (φ p) (d.request provide p)) :
    Effect.Decides I Q (∀ p ∈ d.component.parameterPoints m, φ p) (d.arguments provide m) :=
  .collect hrequest

theorem decides_produce (hhost : host.Obliging) (hmissing : Q (.missingConstructor d.name))
    (interceptors : host.LiveSet)
    (hrequest : ∀ p ∈ d.component.constructorPoints,
      Effect.Decides (fun s => J s.1) Q (φ p) (d.request provide p)) :
    Effect.Decides (fun s => J s.1) Q
      (d.component.constructor.isSome ∧ ∀ p ∈ d.component.constructorPoints, φ p)
      (d.produce interceptors provide) := by
  rw [produce]
  rw [Component.constructorPoints] at hrequest ⊢
  cases hk : d.component.constructor with
  | none => exact (Effect.Decides.fail hmissing).congr ⟨False.elim, fun h => by cases h.1⟩
  | some k =>
    rw [hk] at hrequest
    refine ((decides_arguments hrequest).before fun arguments => ?_).congr
      ⟨fun h => ⟨rfl, h⟩, fun h => h.2⟩
    exact (Effect.Decides.onWorld (sure_construct hhost d k interceptors arguments)).blaming
      fun _ => id

/-- A field asks for its own point, and no other point has a field's business. -/
theorem decides_injectField (hhost : host.Obliging) (receiver : host.Ref)
    {p : Point host.Routine} (hrequest : p.field?.isSome →
      Effect.Decides (fun s => J s.1) Q (φ p) (d.request provide p)) :
    Effect.Decides (fun s => J s.1) Q (p.field?.isSome → φ p)
      (d.injectField receiver provide p) := by
  rw [injectField]
  cases hf : p.field? with
  | none =>
    refine (Effect.Decides.pure ()).congr (iff_of_true trivial fun hnone => ?_)
    cases hnone
  | some field =>
    rw [hf] at hrequest
    refine ((hrequest rfl).before fun value => ?_).congr ⟨fun h _ => h, fun h => h rfl⟩
    exact (Effect.Decides.onWorld (hhost.assign field.routine receiver value)).blaming fun _ => id

theorem decides_injectMethod (hhost : host.Obliging) (receiver : host.Ref)
    {m : Method host.Routine} (hrequest : ∀ p ∈ d.component.parameterPoints m.member,
      Effect.Decides (fun s => J s.1) Q (φ p) (d.request provide p)) :
    Effect.Decides (fun s => J s.1) Q (∀ p ∈ d.component.parameterPoints m.member, φ p)
      (d.injectMethod receiver provide m) := by
  refine (decides_arguments hrequest).before fun arguments => ?_
  exact (Effect.Decides.onWorld (hhost.perform m.routine receiver arguments)).blaming fun _ => id

theorem decides_injectLevel (hhost : host.Obliging) (receiver : host.Ref) {level : String}
    (hrequest : ∀ p ∈ d.component.levelPoints level,
      Effect.Decides (fun s => J s.1) Q (φ p) (d.request provide p)) :
    Effect.Decides (fun s => J s.1) Q (∀ p ∈ d.component.levelPoints level, φ p)
      (d.injectLevel receiver provide level) := by
  rw [Component.levelPoints] at hrequest ⊢
  rw [List.forall_mem_append] at hrequest
  obtain ⟨hfields, hmethods⟩ := hrequest
  rw [List.forall_mem_filter] at hfields
  rw [List.forall_mem_flatMap] at hmethods
  have hinitializers : (Effect.each (d.callInitializer receiver)
      (d.component.initializers level)).Sure :=
    Effect.Sure.each fun m _ => (hhost.perform m.routine receiver []).blaming _
  refine ((Effect.Decides.each fun p hp =>
    decides_injectField hhost receiver (hfields p hp)).bind fun _ =>
      (Effect.Decides.each fun m hm =>
        decides_injectMethod hhost receiver (hmethods m hm)).before fun _ => ?_).congr ?_
  · exact (Effect.Decides.onWorld hinitializers).after fun _ =>
      Effect.Decides.onWorld (sure_supply hhost d receiver)
  · rw [List.forall_mem_append, List.forall_mem_filter, List.forall_mem_flatMap]

theorem decides_inject (hhost : host.Obliging) (receiver : host.Ref)
    (hrequest : ∀ p ∈ d.component.hierarchy.flatMap d.component.levelPoints,
      Effect.Decides (fun s => J s.1) Q (φ p) (d.request provide p)) :
    Effect.Decides (fun s => J s.1) Q
      (∀ p ∈ d.component.hierarchy.flatMap d.component.levelPoints, φ p)
      (d.inject receiver provide) := by
  rw [List.forall_mem_flatMap] at hrequest
  refine (Effect.Decides.each fun level hlevel =>
    decides_injectLevel hhost receiver (hrequest level hlevel)).congr ?_
  rw [List.forall_mem_flatMap]

end Definition

/-- `c.Honest path t f` — if `f` names a cycle, then it is a report of one. -/
def Catalog.Honest {host : Host} (c : Catalog host) (path : List TypeKey) (t : TypeKey)
    (f : Failure) : Prop :=
  ∀ name, f.root = .dependencyCycle name → c.Reports path t f

namespace Container

variable {host : Host} {c₀ : Catalog host} {path : List TypeKey} {t : TypeKey}
  {d d₀ : Definition host} {Q : Failure → Prop}

/-! ## Amid a path -/

/-- `Amid c₀ path c` — exactly the types on `path` are under construction, innermost first, and the
    definitions have come from those of `c₀`. -/
structure Amid (c₀ : Catalog host) (path : List TypeKey) (c : Container host) : Prop where
  catalog : c₀.Follows c.catalog
  underConstruction : c.underConstruction = path

theorem Amid.undisturbed {c c' : Container host} (h : Amid c₀ path c) (hc : Undisturbed c c') :
    Amid c₀ path c' :=
  ⟨h.catalog.trans hc.catalog, hc.underConstruction.trans h.underConstruction⟩

theorem Amid.credited {c : Container host} (h : Amid c₀ path c) (made : Handle) :
    Amid c₀ path (c.credited made) := by
  rw [Container.credited]
  split
  · exact h
  · exact ⟨h.catalog, h.underConstruction⟩

theorem Amid.begun {c : Container host} (h : Amid c₀ path c) (t : TypeKey) :
    Amid c₀ (t :: path) (c.begun t) :=
  ⟨h.catalog, congrArg (t :: ·) h.underConstruction⟩

theorem Amid.ended {c : Container host} (h : Amid c₀ (t :: path) c) :
    Amid c₀ path (c.ended t).2 := by
  refine ⟨h.catalog, ?_⟩
  show c.underConstruction.erase t = path
  rw [h.underConstruction, List.erase_cons_head]

/-- What is decided of a definition is decided of it in its place. -/
theorem decides_onDefinition {α : Type} {φ : Prop}
    {x : Effect (Definition host × host.World) α} (hd : c₀.byType? t = some d₀)
    (hx : Effect.Decides (Definition.Since d₀) Q φ x) :
    Effect.Decides (fun s => Amid c₀ path s.1) Q φ (onDefinition t x) where
  ok {s a u} hs h := by
    obtain ⟨d, hd', hlater⟩ := hs.catalog.later hd
    rw [onDefinition_of_some hd'] at h
    rcases hr : x (d, s.2) with ⟨f | b, d', w⟩
    · rw [hr] at h
      cases h
    · rw [hr] at h
      cases h
      obtain ⟨hlater', hφ⟩ := hx.ok (s := (d, s.2)) hlater hr
      exact ⟨⟨hs.catalog.updated hd hlater', hs.underConstruction⟩, hφ⟩
  error {s f u} hs h := by
    obtain ⟨d, hd', hlater⟩ := hs.catalog.later hd
    rw [onDefinition_of_some hd'] at h
    rcases hr : x (d, s.2) with ⟨g | b, d', w⟩
    · rw [hr] at h
      cases h
      obtain ⟨hlater', hnot, hf⟩ := hx.error (s := (d, s.2)) hlater hr
      exact ⟨⟨hs.catalog.updated hd hlater', hs.underConstruction⟩, hnot, hf⟩
    · rw [hr] at h
      cases h

/-- An assembly takes a constructor and whatever its requests take. -/
theorem decides_assemble (hhost : host.Obliging) (hd : c₀.byType? d.component.type = some d₀)
    (hable : d₀.Able) (hmissing : Q (.missingConstructor d.name))
    {provide : Provider host (Container host)} {φ : Point host.Routine → Prop}
    (hrequest : ∀ p ∈ d.component.requests,
      Effect.Decides (fun s => Amid c₀ path s.1) Q (φ p) (d.request provide p)) :
    Effect.Decides (fun s => Amid c₀ path s.1) Q
      (d.component.constructor.isSome ∧ ∀ p ∈ d.component.requests, φ p) (assemble d provide) := by
  rw [Component.requests] at hrequest ⊢
  rw [List.forall_mem_append] at hrequest
  refine ((decides_onDefinition hd (Definition.decides_interceptors hhost hable)).after
    fun interceptors => (Definition.decides_produce hhost hmissing interceptors
      hrequest.1).bind fun made => (Definition.decides_inject hhost made
        hrequest.2).before fun _ => ?_).congr ?_
  · refine (decides_onDefinition hd (Definition.decides_wrap hable made interceptors)).after
      fun reference => ?_
    exact (decides_onDefinition hd
      (Definition.decides_runPhase hhost hable .postConstruct reference)).after
        fun _ => .pure reference
  · rw [List.forall_mem_append, and_assoc]

/-! ## Creations -/

/-- `Decided c₀ path make` — amid `path`, `make` creates what is creatable; a failure that names a
    cycle is a report. -/
def Decided (c₀ : Catalog host) (path : List TypeKey)
    (make : Definition host → Act host (Handle × host.Ref)) : Prop :=
  ∀ {t d₀ d}, c₀.byType? t = some d₀ → Definition.Later d₀ d →
    Effect.Decides (fun s => Amid c₀ path s.1) (c₀.Honest path t)
      (Creatable c₀.recipe? path t) (make d)

/-- What has no definition cannot be had, and it is not a cycle that is to blame. -/
theorem decides_lookup {α : Type} {x : Definition host → Act host α} {request : Request}
    (hx : ∀ d₀ d, c₀.byType? t = some d₀ → Definition.Later d₀ d →
      Effect.Decides (fun s => Amid c₀ path s.1) (c₀.Honest path t)
        (Creatable c₀.recipe? path t) (x d)) :
    Effect.Decides (fun s => Amid c₀ path s.1) (c₀.Honest path t) (Creatable c₀.recipe? path t)
      (do
        let c := (← get).1
        match c.catalog.byType? t with
        | none => Effect.fail (.unknownComponent request)
        | some d => x d : Act host α) := by
  refine .read fun s hs => ?_
  dsimp only
  cases hd : s.1.catalog.byType? t with
  | none =>
    refine (Effect.Decides.fail nofun).congr ⟨False.elim, fun hcreatable => ?_⟩
    obtain ⟨-, us, hrecipe, -⟩ := creatable_iff.1 hcreatable
    obtain ⟨d₀, hd₀, -⟩ := Catalog.recipe?_eq_some_iff.1 hrecipe
    obtain ⟨d', hd', -⟩ := hs.catalog.later hd₀
    rw [hd] at hd'
    cases hd'
  | some d =>
    obtain ⟨d₀, hd₀, hlater⟩ := hs.catalog.earlier hd
    exact hx d₀ d hd₀ hlater

theorem decides_supplying {nested : Definition host → Act host (Handle × host.Ref)}
    (hnested : Decided c₀ path nested) (p : Point host.Routine) :
    Effect.Decides (fun s => Amid c₀ path s.1) (c₀.Honest path p.requires)
      (Creatable c₀.recipe? path p.requires) (supplying nested p) := by
  refine decides_lookup fun d₀ d hd₀ hlater => ?_
  refine (hnested hd₀ hlater).before fun made => Effect.Decides.after ?_ fun _ => .pure made.2
  exact .of_ok fun s hs => ⟨(), _, rfl, hs.credited made.1⟩

/-- A type that is being created, together with what it needs. -/
theorem creatable_iff_of_byType? (hd : c₀.byType? t = some d) :
    Creatable c₀.recipe? path t ↔ t ∉ path ∧ d.component.constructor.isSome ∧
      ∀ p ∈ d.component.requests, Creatable c₀.recipe? (t :: path) p.requires := by
  rw [creatable_iff]
  refine and_congr_right fun _ => ⟨?_, ?_⟩
  · rintro ⟨us, hrecipe, hneeds⟩
    obtain ⟨d', hd', hconstructor, rfl⟩ := Catalog.recipe?_eq_some_iff.1 hrecipe
    rw [hd] at hd'
    cases hd'
    exact ⟨hconstructor, List.forall_mem_map.1 hneeds⟩
  · rintro ⟨hconstructor, hneeds⟩
    exact ⟨_, Catalog.recipe?_eq_some_iff.2 ⟨d, hd, hconstructor, rfl⟩, List.forall_mem_map.2 hneeds⟩

/-- One level: the type is not on the path, and is while its dependencies are made. -/
theorem decided_createBy (hhost : host.Obliging) (hsound : c₀.Sound Definition.Able)
    {nested : Definition host → Act host (Handle × host.Ref)}
    (hnested : ∀ t, (c₀.byType? t).isSome → t ∉ path → Decided c₀ (t :: path) nested) :
    Decided c₀ path (createBy nested) := by
  intro t d₀ d hd₀ hlater
  obtain ⟨htype₀, hable⟩ := hsound t d₀ hd₀
  have htype : d.component.type = t := hlater.type_eq.trans htype₀
  have hname : d.name = d₀.name := hlater.name_eq
  have hrequests : d.component.requests = d₀.component.requests := by
    rw [hlater.component_eq]
    rfl
  have hcreatable : Creatable c₀.recipe? path t ↔ t ∉ path ∧ d.component.constructor.isSome ∧
      ∀ p ∈ d.component.requests, Creatable c₀.recipe? (t :: path) p.requires := by
    rw [creatable_iff_of_byType? hd₀, hlater.constructor_eq, hrequests]
  by_cases hpath : t ∈ path
  · -- the type is under construction already, and is reported by its name
    have hrefused : ∀ s : Container host × host.World, Amid c₀ path s.1 →
        createBy nested d s = (.error (.dependencyCycle d.name), s) := by
      intro s hs
      exact createBy_of_cycle (by rwa [htype, hs.underConstruction])
    constructor
    · intro s made u hs h
      rw [hrefused s hs] at h
      cases h
    · intro s f u hs h
      rw [hrefused s hs] at h
      cases h
      refine ⟨hs, fun h => (hcreatable.1 h).1 hpath, fun _ _ => ?_⟩
      rw [hname]
      exact .here hpath hd₀
  · have hassemble : Effect.Decides (fun s => Amid c₀ (t :: path) s.1) (c₀.Honest path t)
        (d.component.constructor.isSome ∧
          ∀ p ∈ d.component.requests, Creatable c₀.recipe? (t :: path) p.requires)
        (assemble d (supplying nested)) := by
      refine decides_assemble hhost (by rw [htype, hd₀]) hable nofun fun p hp => ?_
      have hmember : p.requires ∈ d₀.component.requirements := by
        rw [Component.requirements, ← hrequests]
        exact List.mem_map_of_mem hp
      refine (decides_supplying (hnested t (by rw [hd₀]; rfl) hpath) p).blaming ?_
      intro f hf name hroot
      rw [Failure.root_instantiation] at hroot
      rw [hname]
      exact .deeper hpath hd₀ hmember (hf name hroot)
    have hfree : ∀ s : Container host × host.World, Amid c₀ path s.1 →
        d.component.type ∉ s.1.underConstruction := by
      intro s hs
      rwa [htype, hs.underConstruction]
    subst htype
    constructor
    · intro s made u hs h
      rcases hr : assemble d (supplying nested) (s.1.begun d.component.type,
          s.1.listener.begun d.component.type s.2) with ⟨f | reference, c, w⟩
      · rw [createBy_of_error (hfree s hs) hr] at h
        cases h
      · rw [createBy_of_ok (hfree s hs) hr] at h
        cases h
        obtain ⟨hamid, hmet⟩ := hassemble.ok (s := (s.1.begun _, _)) (hs.begun _) hr
        exact ⟨⟨hamid.ended.catalog, hamid.ended.underConstruction⟩, hcreatable.2 ⟨hpath, hmet⟩⟩
    · intro s f u hs h
      rcases hr : assemble d (supplying nested) (s.1.begun d.component.type,
          s.1.listener.begun d.component.type s.2) with ⟨g | reference, c, w⟩
      · rw [createBy_of_error (hfree s hs) hr] at h
        cases h
        obtain ⟨hamid, hnot, hf⟩ := hassemble.error (s := (s.1.begun _, _)) (hs.begun _) hr
        refine ⟨hamid.ended.undisturbed (undisturbed_destroyAll (c.ended d.component.type).1
          ((c.ended d.component.type).2, w)), ?_, hf⟩
        exact fun h => hnot (hcreatable.1 h).2
      · rw [createBy_of_ok (hfree s hs) hr] at h
        cases h

/-- As many levels as there are types that are not on the path are enough. -/
theorem decided_createWithin (hhost : host.Obliging) (hsound : c₀.Sound Definition.Able) (n : Nat) :
    ∀ path : List TypeKey, c₀.size ≤ n + path.length → path.Nodup →
      (∀ x ∈ path, (c₀.byType? x).isSome) → Decided c₀ path (createWithin n) := by
  induction n with
  | zero =>
    intro path hlength hnodup hregistered
    refine decided_createBy hhost hsound fun t ht hpath => ?_
    -- all types are on the path, so `t` is
    have hlt := (Catalog.Admits.mk hnodup hregistered).length_lt ht hpath
    omega
  | succ n ih =>
    intro path hlength hnodup hregistered
    refine decided_createBy hhost hsound fun t ht hpath => ?_
    refine ih (t :: path) ?_ (List.nodup_cons.2 ⟨hpath, hnodup⟩) ?_
    · rw [List.length_cons]
      omega
    · exact List.forall_mem_cons.2 ⟨ht, hregistered⟩

/-- A request by a type, while nothing else is under construction. -/
theorem decides_create (hhost : host.Obliging) (hsound : c₀.Sound Definition.Able) (t : TypeKey) :
    Effect.Decides (fun s => Amid c₀ [] s.1) (c₀.Honest [] t) (Creatable c₀.recipe? [] t)
      (create t) := by
  refine decides_lookup fun d₀ d hd₀ hlater => ?_
  rw [← bind_pure_comp]
  refine Effect.Decides.before ?_ fun made => .pure made.1
  -- the levels are counted by the catalog of the moment, which has as many types as `c₀`
  have hwithin : Effect.Decides (fun s => Amid c₀ [] s.1) (c₀.Honest [] t)
      (Creatable c₀.recipe? [] t) (createWithin c₀.size d) :=
    decided_createWithin hhost hsound c₀.size [] (Nat.le_refl _) List.nodup_nil nofun hd₀ hlater
  have hsize : ∀ s : Container host × host.World, Amid c₀ [] s.1 →
      createFrom d s = createWithin c₀.size d s := by
    intro s hs
    rw [createFrom, hs.catalog.size_eq]
  exact ⟨fun hs h => hwithin.ok hs ((hsize _ hs).symm.trans h),
    fun hs h => hwithin.error hs ((hsize _ hs).symm.trans h)⟩

end Container

end Wiring
