/-
  Making instances from what is ready for use.

  1. `Staged u ts roots s` — of an instance whose making began in `u`, so much has been done in `s`:
     instances of the types `ts` have been made for it, with the handles `roots`; all that was
     written down is accepted; and the scene shows this making as the innermost.
  2. Each stage of an assembly leads from there to where the next one starts, or else to `Stopped`,
     where at least the live entries are shown: a dependency adds its type and its handle
     (`leads_supplying`), everything else adds nothing.
  3. So an assembly that succeeds has everything that is required, and its callbacks have just
     succeeded (`leads_assemble`).
-/
import Wiring.Proofs.Container.Lifetime.Destruction
import Wiring.Proofs.Effect.Leads

namespace Wiring

/-- The roots of a grove are of the types that they were needed for. -/
theorem Grove.types {V : Vocabulary} {needs : TypeKey → Option (List TypeKey)} {ts : List TypeKey}
    {roots : List Handle} {es : List (Handle × Stored V)} (hes : Grove needs ts roots es) :
    List.Forall₂ (fun h t => ∃ e, (h, e) ∈ es ∧ e.type = t) roots ts := by
  induction hes with
  | bare => exact .nil
  | @plant _ _ _ _ _ h e _ _ _ ih _ =>
    refine List.rel_append (ih.imp fun _ _ ⟨e', he', ht⟩ => ⟨e', ?_, ht⟩)
      (.cons ⟨e, List.mem_append_right _ (List.mem_singleton_self _), rfl⟩ .nil)
    exact List.mem_append_left _ (List.mem_append_left _ he')

namespace Container

variable {host : Host} {l : Listener host} {catalog : Catalog host.journaled} {struck : List Handle}
  {s t u : Container host.journaled × host.journaled.World} {ts : List TypeKey}
  {roots : List Handle} {new : List (Handle × Stored host.journaled.toVocabulary)}

/-! ## Before and after a creation -/

/-- `Ready l catalog struck s` — the INVARIANT of the container by itself. -/
structure Ready (l : Listener host) (catalog : Catalog host.journaled) (struck : List Handle)
    (s : Container host.journaled × host.journaled.World) : Prop where
  minded : Minded l s.1
  catalog : catalog.Follows s.1.catalog
  sheltered : s.1.store.Sheltered struck
  issued : Issued s.2.2 s.1.store

theorem Growth.sheltered (h : Growth host.ledger ts roots new s t)
    (hs : s.1.store.Sheltered struck) :
    t.1.store.Sheltered struck ∧ ∀ k ∈ roots, k ∉ t.1.store.dependents :=
  have hfresh := fun x hx => (h.fresh x hx).1
  ⟨hs.grow h.entries h.grove.perm hfresh (h.grove.number_lt h.ascending),
    fun _ hk => hs.not_mem_of_root h.entries h.grove.perm hfresh hk⟩

theorem Ready.of_growth (h : Ready l catalog struck s)
    (hgrowth : Growth host.ledger ts roots new s t) : Ready l catalog struck t where
  minded := h.minded.of_follows hgrowth.catalog hgrowth.listener
  catalog := h.catalog.trans hgrowth.catalog
  sheltered := (hgrowth.sheltered h.sheltered).1
  issued := (hgrowth.issued h.issued).1

/-- `Working s` — the scene shows the creations in progress; what it shows below them has failed. -/
def Working (s : Container host.journaled × host.journaled.World) : Prop :=
  ∃ stale, (Scene.of s.2.2).making = s.1.underConstruction.zip s.1.frames ++ stale

/-- `Plays l catalog struck make` — whatever `make` creates, by a definition of the catalog, is
    accepted; what it has created is credited in the scene. -/
def Plays (l : Listener host) (catalog : Catalog host.journaled) (struck : List Handle)
    (make : Definition host.journaled → Act host.journaled (Handle × host.journaled.Ref)) : Prop :=
  ∀ d s, Ready l catalog struck s → s.1.catalog.byType? d.component.type = some d → Shows s →
    Working s → (make d).Leads s
      (fun made t => Played catalog struck s t ∧ Shows t ∧ Working (t.1.credited made.1, t.2) ∧
        (Scene.of t.2.2).leaving = none)
      fun t => Played catalog struck s t ∧ Shows t

/-! ## Stages -/

/-- `Begun l catalog struck d u` — in `u`, the making of an instance of `d` has just begun. -/
structure Begun (l : Listener host) (catalog : Catalog host.journaled) (struck : List Handle)
    (d : Definition host.journaled) (u : Container host.journaled × host.journaled.World) : Prop
    extends Ready l catalog struck u where
  found : u.1.catalog.byType? d.component.type = some d
  type : ∃ under, u.1.underConstruction = d.component.type :: under
  frame : ∃ outer, u.1.frames = [] :: outer

/-- `Staged catalog struck u ts roots s` — from `u` to `s`, instances of the types `ts` have been made
    for the innermost creation, and nothing else is going on. -/
structure Staged (catalog : Catalog host.journaled) (struck : List Handle)
    (u : Container host.journaled × host.journaled.World) (ts : List TypeKey) (roots : List Handle)
    (s : Container host.journaled × host.journaled.World) : Prop where
  growth : ∃ new, Growth host.ledger ts roots new u s
  frames : s.1.frames = u.1.frames.modifyHead (· ++ roots)
  played : Played catalog struck u s
  shows : Shows s
  working : Working s
  settled : (Scene.of s.2.2).leaving = none

/-- `Stopped catalog struck u s` — the making that began in `u` has failed by `s`. -/
structure Stopped (catalog : Catalog host.journaled) (struck : List Handle)
    (u s : Container host.journaled × host.journaled.World) : Prop where
  growth : ∃ ts roots new, Growth host.ledger ts roots new u s ∧
    s.1.frames = u.1.frames.modifyHead (· ++ roots)
  played : Played catalog struck u s
  shows : Shows s

namespace Staged

theorem stopped (h : Staged catalog struck u ts roots s) : Stopped catalog struck u s :=
  ⟨⟨ts, roots, h.growth.imp fun _ hgrowth => ⟨hgrowth, h.frames⟩⟩, h.played, h.shows⟩

theorem follows (h : Staged catalog struck u ts roots s) : u.1.catalog.Follows s.1.catalog :=
  have ⟨_, hgrowth⟩ := h.growth
  hgrowth.catalog

/-- The scene shows what has been made for the innermost creation, -/
theorem makes {d : Definition host.journaled} (hu : Begun l catalog struck d u)
    (h : Staged catalog struck u ts roots s) :
    (Scene.of s.2.2).Makes d.component.type roots := by
  obtain ⟨new, hgrowth⟩ := h.growth
  obtain ⟨under, hunder⟩ := hu.type
  obtain ⟨outer, houter⟩ := hu.frame
  obtain ⟨stale, hmaking⟩ := h.working
  rw [h.frames, houter, hgrowth.underConstruction, hunder] at hmaking
  exact ⟨⟨_, hmaking⟩, h.settled⟩

/-- and this is live, and of the types that were asked for. -/
theorem meets (h : Staged catalog struck u ts roots s) : (Scene.of s.2.2).Meets roots ts := by
  obtain ⟨new, hgrowth⟩ := h.growth
  rw [Scene.Meets, h.shows, hgrowth.entries]
  exact hgrowth.grove.types.imp fun _ _ ⟨e, he, ht⟩ => ⟨e, List.mem_append_right _ he, ht⟩

/-- A move that leaves the store alone, and writes down what may be written down. -/
theorem still (h : Staged catalog struck u ts roots s) {c : Catalog host.journaled}
    (hc : s.1.catalog.Follows c) {w : host.journaled.World} {seg : Journal host.toVocabulary}
    (hlog : w.2 = s.2.2 ++ seg) (hplain : ∀ e ∈ seg, e.isOfStore = false)
    (haccepts : Accepts catalog struck s.2.2 seg) :
    Staged catalog struck u ts roots ({ s.1 with catalog := c }, w) := by
  obtain ⟨new, hgrowth⟩ := h.growth
  have hscene : Scene.of w.2 = Scene.of s.2.2 := by
    rw [hlog]
    exact Scene.of_append_of_plain _ hplain
  have hquiet : host.ledger.rel [] s.2 w :=
    ⟨seg, hlog, List.filterMap_eq_nil_iff.2 fun e he => Event.ofStore_mark? e (hplain e he)⟩
  have hstill := hgrowth.append (Growth.still hc hquiet)
  simp only [List.append_nil] at hstill
  refine ⟨⟨new, hstill⟩, h.frames, h.played.trans ⟨seg, hlog, haccepts⟩, ?_, ?_, ?_⟩
  · show (Scene.of w.2).live = _
    rw [hscene]
    exact h.shows
  · show ∃ stale, (Scene.of w.2).making = _
    rw [hscene]
    exact h.working
  · show (Scene.of w.2).leaving = _
    rw [hscene]
    exact h.settled

end Staged

/-- `Supplied catalog struck u ts s` — so it is, with whatever handles. -/
def Supplied (catalog : Catalog host.journaled) (struck : List Handle)
    (u : Container host.journaled × host.journaled.World) (ts : List TypeKey)
    (s : Container host.journaled × host.journaled.World) : Prop :=
  ∃ roots, Staged catalog struck u ts roots s

/-! ### Stages that add nothing -/

section

variable {α : Type} {seg : Journal host.toVocabulary}

/-- What is done to the world. -/
theorem Staged.leads_onWorld (h : Staged catalog struck u ts roots s)
    {x : Effect host.journaled.World α} (hlog : (x s.2).2.2 = s.2.2 ++ seg)
    (hplain : ∀ e ∈ seg, e.isOfStore = false) (haccepts : Accepts catalog struck s.2.2 seg) :
    (Effect.onWorld x : Act host.journaled α).Leads s
      (fun _ v => Staged catalog struck u ts roots v ∧ v.1 = s.1) (Stopped catalog struck u) := by
  have hstaged : Staged catalog struck u ts roots (s.1, (x s.2).2) :=
    h.still (Catalog.Follows.refl _) hlog hplain haccepts
  refine Effect.leads_onWorld ⟨fun hx => ?_, fun hx => ?_⟩
  · rw [hx] at hstaged
    exact ⟨hstaged, rfl⟩
  · rw [hx] at hstaged
    exact hstaged.stopped

/-- What is done to a definition and the world. -/
theorem Staged.leads_onDefinition (h : Staged catalog struck u ts roots s)
    {x : Effect (Definition host.journaled × host.journaled.World) α} {v : TypeKey}
    {d : Definition host.journaled} (hd : s.1.catalog.byType? v = some d)
    (hlater : Definition.Later d (x (d, s.2)).2.1) (hlog : (x (d, s.2)).2.2.2 = s.2.2 ++ seg)
    (hplain : ∀ e ∈ seg, e.isOfStore = false) (haccepts : Accepts catalog struck s.2.2 seg) :
    (onDefinition v x).Leads s
      (fun a t => Staged catalog struck u ts roots t ∧ (x (d, s.2)).1 = .ok a ∧
        (x (d, s.2)).2.2 = t.2)
      (Stopped catalog struck u) := by
  have hstaged := h.still (Catalog.follows_updated hd hlater) hlog hplain haccepts
  constructor
  · intro a t hx
    rw [onDefinition_of_some hd] at hx
    obtain ⟨hok, rfl⟩ := Prod.mk.inj hx
    exact ⟨hstaged, hok, rfl⟩
  · intro f t hx
    rw [onDefinition_of_some hd] at hx
    obtain ⟨-, rfl⟩ := Prod.mk.inj hx
    exact hstaged.stopped

/-- `Fits catalog struck log e` — `e` may come whenever the scene is as it is after `log`. -/
def Fits (catalog : Catalog host.journaled) (struck : List Handle)
    (log : Journal host.toVocabulary) (e : Event host.toVocabulary) : Prop :=
  e.isOfStore = false ∧ ∀ log', Scene.of log' = Scene.of log → Allows catalog struck log' e

theorem accepts_of_fits {log : Journal host.toVocabulary}
    (h : ∀ e ∈ seg, Fits catalog struck log e) :
    (∀ e ∈ seg, e.isOfStore = false) ∧ Accepts catalog struck log seg := by
  have hplain : ∀ e ∈ seg, e.isOfStore = false := fun e he => (h e he).1
  refine ⟨hplain, accepts_of_plain hplain fun before e after hsplit hscene => ?_⟩
  refine (h e ?_).2 _ hscene
  rw [hsplit]
  exact List.mem_append_right _ List.mem_cons_self

/-- What writes down nothing but what fits. -/
theorem Staged.leads_of_fits (h : Staged catalog struck u ts roots s)
    {x : Effect host.journaled.World α}
    (hx : (Journal.writing (Fits catalog struck s.2.2)).Along [] x) :
    (Effect.onWorld x : Act host.journaled α).Leads s
      (fun _ v => Staged catalog struck u ts roots v ∧ v.1 = s.1) (Stopped catalog struck u) := by
  obtain ⟨seg, hlog, hfits⟩ := hx.keeps s.2
  obtain ⟨hplain, haccepts⟩ := accepts_of_fits hfits
  exact h.leads_onWorld hlog hplain haccepts

/-- What is handed over in one scene may be in any that is the same. -/
theorem Hands.of_scene {log log' : Journal host.toVocabulary} {arguments : List host.Ref}
    (h : Hands log arguments) (hscene : Scene.of log' = Scene.of log) : Hands log' arguments := by
  rw [Hands, hscene]
  exact h

/-- A construction on what was made for the constructor. -/
theorem accepts_construct (struck : List Handle) {d : Definition host.journaled}
    {k : Constructor host.journaled.Routine} (live : host.journaled.LiveSet)
    {arguments : List host.journaled.Ref} {w : host.journaled.World} {v : TypeKey}
    {made : List Handle}
    (hmakes : (Scene.of w.2).Makes v made) (hd : catalog.Has v d)
    (hk : d.component.constructor = some k)
    (hmeets : (Scene.of w.2).Meets made (d.component.constructorPoints.map (·.requires)))
    (hrefers : (Scene.of w.2).Refers made arguments) :
    ∃ seg, (d.construct k live arguments w).2.2 = w.2 ++ seg ∧ (∀ e ∈ seg, e.isOfStore = false) ∧
      Accepts catalog struck w.2 seg := by
  obtain ⟨pass, direct, known, hlog, -, hpasses, hwrites⟩ :=
    d.construct_passes k live arguments w
  have hofPass : ∀ e ∈ pass ++ direct, e.OfPass .aroundConstruct (.construct k) :=
    List.forall_mem_append.2 ⟨hpasses.ofPass, fun e he => Or.inr (Or.inr (Or.inr (hwrites e he)))⟩
  have hplain : ∀ e ∈ pass ++ direct, e.isOfStore = false := fun e he => (hofPass e he).plain
  refine ⟨_, hlog, hplain, accepts_of_plain hplain fun before e after hsplit hscene => ?_⟩
  have hconstructing : Constructing catalog (w.2 ++ before) e :=
    .intro (hscene ▸ hmakes) hd hk (hscene ▸ hmeets) (hscene ▸ hrefers)
      (Event.within_of_split (hsplit ▸ hlog))
  have hmem : e ∈ pass ++ direct := by
    rw [hsplit]
    exact List.mem_append_right _ List.mem_cons_self
  rcases hofPass e hmem with ⟨_, _, rfl⟩ | ⟨_, rfl⟩ | ⟨_, _, rfl⟩ | hwrites
  · trivial
  · exact hconstructing
  · exact hconstructing
  · cases e with
    | constructed => exact hconstructing
    | _ => cases hwrites

end

/-! ### Dependencies -/

section

variable {nested : Definition host.journaled → Act host.journaled (Handle × host.journaled.Ref)}
  (hplays : Plays l catalog struck nested) (hcreates : Creates host.ledger nested)
  {d : Definition host.journaled} (hu : Begun l catalog struck d u)

include hplays hcreates hu

/-- A dependency adds its type and its handle, under which it is stored. -/
theorem leads_supplying (h : Staged catalog struck u ts roots s)
    (p : Point host.journaled.Routine) :
    (supplying nested p).Leads s
      (fun reference v => ∃ k, Staged catalog struck u (ts ++ [p.requires]) (roots ++ [k]) v ∧
        (Scene.of v.2.2).Refers [k] [reference] ∧
        ∀ x ∈ (Scene.of s.2.2).live, x ∈ (Scene.of v.2.2).live)
      (Stopped catalog struck u) := by
  obtain ⟨new, hgrowth⟩ := h.growth
  obtain ⟨outer, houter⟩ := hu.frame
  have hs := hu.toReady.of_growth hgrowth
  have hleads : ∀ d', s.1.catalog.byType? p.requires = some d' →
      d'.component.type = p.requires ∧ Creation host.ledger d' s (nested d' s) ∧
        (nested d').Leads s
          (fun made t => Played catalog struck s t ∧ Shows t ∧
            Working (t.1.credited made.1, t.2) ∧ (Scene.of t.2.2).leaving = none)
          fun t => Played catalog struck s t ∧ Shows t := fun d' hd' => by
    obtain ⟨htype, hneeds⟩ := hs.minded.keeps.needs?_eq hd'
    exact ⟨htype, hcreates d' s hs.minded.keeps hneeds,
      hplays d' s hs (htype.symm ▸ hd') h.shows h.working⟩
  constructor
  · intro reference v hx
    rw [supplying_apply] at hx
    cases hd' : s.1.catalog.byType? p.requires with
    | none =>
      rw [hd'] at hx
      cases hx
    | some d' =>
      obtain ⟨htype, hcreation, hnested⟩ := hleads d' hd'
      rw [hd'] at hx
      dsimp only at hx
      rcases hr : nested d' s with ⟨f | ⟨k, made⟩, t⟩
      · rw [hr] at hx
        cases hx
      · rw [hr] at hx hcreation
        cases hx
        obtain ⟨e, sub, he, hreference, hadded⟩ := hcreation.ok rfl
        have hframes : t.1.frames = roots :: outer :=
          Eq.trans hcreation.frames (by rw [h.frames, houter]; rfl)
        have hcredited : t.1.credited k = { t.1 with frames := (roots ++ [k]) :: outer } := by
          rw [credited, hframes]
        have hadded' : Growth host.ledger [p.requires] [k] (sub ++ [(k, e)]) s
            (t.1.credited k, t.2) := by
          rw [he, htype] at hadded
          rw [hcredited]
          exact ⟨hadded.entries, hadded.next, hadded.grove, hadded.underConstruction,
            hadded.listener, hadded.catalog, hadded.ledger⟩
        obtain ⟨hplayed, hshows, hworking, hsettled⟩ := hnested.ok hr
        have hlive : (Scene.of t.2.2).live = _ := Eq.trans hshows hadded.entries
        refine ⟨k, ⟨⟨_, hgrowth.append hadded'⟩, ?_, h.played.trans hplayed, ?_, hworking,
          hsettled⟩, .cons ⟨e, ?_, hreference⟩ .nil, fun x hx => ?_⟩
        · rw [hcredited, houter]
          rfl
        · rw [hcredited]
          exact hshows
        · show (k, e) ∈ (Scene.of t.2.2).live
          rw [hlive]
          exact List.mem_append_right _ (List.mem_append_right _ (List.mem_singleton_self _))
        · show x ∈ (Scene.of t.2.2).live
          rw [hlive, ← h.shows]
          exact List.mem_append_left _ hx
  · intro f v hx
    rw [supplying_apply] at hx
    cases hd' : s.1.catalog.byType? p.requires with
    | none =>
      rw [hd'] at hx
      cases hx
      exact h.stopped
    | some d' =>
      obtain ⟨htype, hcreation, hnested⟩ := hleads d' hd'
      rw [hd'] at hx
      dsimp only at hx
      rcases hr : nested d' s with ⟨g | ⟨k, made⟩, t⟩
      · rw [hr] at hx hcreation
        cases hx
        obtain ⟨hplayed, hshows⟩ := hnested.error hr
        have hfailed := hgrowth.append (hcreation.error rfl)
        simp only [List.append_nil] at hfailed
        exact ⟨⟨ts, roots, new, hfailed, Eq.trans hcreation.frames h.frames⟩,
          h.played.trans hplayed, hshows⟩
      · rw [hr] at hx
        cases hx

/-- The arguments of a member are what was made last, in their order. -/
theorem leads_arguments (h : Staged catalog struck u ts roots s) (m : Member) :
    (d.arguments (supplying nested) m).Leads s
      (fun arguments v => ∃ made, Staged catalog struck u
        (ts ++ (d.component.parameterPoints m).map (·.requires)) (roots ++ made) v ∧
        (Scene.of v.2.2).Refers made arguments)
      (Stopped catalog struck u) := by
  refine Effect.leads_collect (Q := fun (points : List (Point host.journaled.Routine))
    arguments v => ∃ made, Staged catalog struck u
    (ts ++ points.map (·.requires)) (roots ++ made) v ∧ (Scene.of v.2.2).Refers made arguments)
    ?_ ⟨[], by simpa using h, .nil⟩
  rintro done p left hsplit arguments v ⟨made, hstaged, hrefers⟩
  refine ((leads_supplying hplays hcreates hu hstaged p).blaming _).mono
    (fun reference w hsupplied => ?_) fun _ => id
  obtain ⟨k, hnext, hk, hkept⟩ := hsupplied
  refine ⟨made ++ [k], ?_, List.rel_append (hrefers.mono hkept) hk⟩
  rw [List.map_append, ← List.append_assoc, ← List.append_assoc]
  exact hnext

/-! ### Constructing and wiring -/

omit hplays hcreates in
theorem Begun.has : catalog.Has d.component.type d :=
  hu.catalog.earlier hu.found

/-- The constructor is called with what was made for it. -/
theorem leads_produce (h : Staged catalog struck u [] [] s) (live : host.journaled.LiveSet) :
    (d.produce live (supplying nested)).Leads s
      (fun _ => Supplied catalog struck u (d.component.constructorPoints.map (·.requires)))
      (Stopped catalog struck u) := by
  rw [Definition.produce]
  cases hk : d.component.constructor with
  | none => exact Effect.leads_fail h.stopped
  | some k =>
    have hpoints : d.component.constructorPoints = d.component.parameterPoints k.member := by
      rw [Component.constructorPoints, hk]
    refine (leads_arguments hplays hcreates hu h k.member).bind fun arguments v hsupplied => ?_
    obtain ⟨made, hstaged, hrefers⟩ := hsupplied
    rw [← hpoints] at hstaged
    obtain ⟨seg, hlog, hplain, haccepts⟩ := accepts_construct struck live
      (hstaged.makes hu) hu.has hk hstaged.meets hrefers
    exact ((hstaged.leads_onWorld hlog hplain haccepts).blaming _).mono
      (fun _ _ hafter => ⟨made, hafter.1⟩) fun _ => id

/-- A field is handed what was made for it. -/
theorem leads_injectField (h : Supplied catalog struck u ts s) (receiver : host.journaled.Ref)
    (p : Point host.journaled.Routine) :
    (d.injectField receiver (supplying nested) p).Leads s
      (fun _ => Supplied catalog struck u
        (ts ++ ([p].filter (·.field?.isSome)).map (·.requires)))
      (Stopped catalog struck u) := by
  obtain ⟨roots, h⟩ := h
  rw [Definition.injectField]
  cases hf : p.field? with
  | none =>
    rw [List.filter_cons_of_neg (by rw [hf]; exact Bool.false_ne_true)]
    exact Effect.leads_pure ⟨roots, by simpa using h⟩
  | some field =>
    rw [List.filter_cons_of_pos (by rw [hf]; rfl)]
    refine ((leads_supplying hplays hcreates hu h p).blaming _).bind fun value v hsupplied => ?_
    obtain ⟨k, hstaged, hrefers, -⟩ := hsupplied
    have hhands : Hands v.2.2 [value] := ⟨_, roots, [k], hstaged.makes hu, hrefers⟩
    have hfits : (Journal.writing (Fits catalog struck v.2.2)).Along []
        (host.journaled.assign field.routine receiver value) :=
      Journal.writing_noting (fun _ => ⟨rfl, fun _ hscene => hhands.of_scene hscene⟩) _
    exact ((hstaged.leads_of_fits hfits).blaming _).mono
      (fun _ _ hafter => ⟨_, hafter.1⟩) fun _ => id

/-- A method is handed what was made for it. -/
theorem leads_injectMethod (h : Supplied catalog struck u ts s) (receiver : host.journaled.Ref)
    (m : Method host.journaled.Routine) :
    (d.injectMethod receiver (supplying nested) m).Leads s
      (fun _ => Supplied catalog struck u
        (ts ++ (d.component.parameterPoints m.member).map (·.requires)))
      (Stopped catalog struck u) := by
  obtain ⟨roots, h⟩ := h
  rw [Definition.injectMethod]
  refine (leads_arguments hplays hcreates hu h m.member).bind fun arguments v hsupplied => ?_
  obtain ⟨made, hstaged, hrefers⟩ := hsupplied
  have hhands : Hands v.2.2 arguments := ⟨_, roots, made, hstaged.makes hu, hrefers⟩
  have hfits : (Journal.writing (Fits catalog struck v.2.2)).Along []
      (host.journaled.perform m.routine receiver arguments) :=
    Journal.writing_noting (fun _ => ⟨rfl, fun _ hscene => hhands.of_scene hscene⟩) _
  exact ((hstaged.leads_of_fits hfits).blaming _).mono
    (fun _ _ hafter => ⟨_, hafter.1⟩) fun _ => id

/-- All fields of a level, one after the other, -/
theorem leads_fields (h : Supplied catalog struck u ts s) (receiver : host.journaled.Ref)
    (points : List (Point host.journaled.Routine)) :
    (Effect.each (d.injectField receiver (supplying nested)) points).Leads s
      (fun _ => Supplied catalog struck u
        (ts ++ (points.filter (·.field?.isSome)).map (·.requires)))
      (Stopped catalog struck u) := by
  refine Effect.leads_each (Q := fun (done : List (Point host.journaled.Routine)) =>
    Supplied catalog struck u (ts ++ (done.filter (·.field?.isSome)).map (·.requires)))
    (fun done p left hsplit v hv => ?_) (by simpa using h)
  have hnext := leads_injectField hplays hcreates hu hv receiver p
  rwa [List.append_assoc, ← List.map_append, ← List.filter_append] at hnext

/-- and all its methods. -/
theorem leads_methods (h : Supplied catalog struck u ts s) (receiver : host.journaled.Ref)
    (methods : List (Method host.journaled.Routine)) :
    (Effect.each (d.injectMethod receiver (supplying nested)) methods).Leads s
      (fun _ => Supplied catalog struck u
        (ts ++ (methods.flatMap fun m => d.component.parameterPoints m.member).map (·.requires)))
      (Stopped catalog struck u) := by
  refine Effect.leads_each (Q := fun (done : List (Method host.journaled.Routine)) =>
    Supplied catalog struck u
      (ts ++ (done.flatMap fun m => d.component.parameterPoints m.member).map (·.requires)))
    (fun done m left hsplit v hv => ?_) (by simpa using h)
  have hnext := leads_injectMethod hplays hcreates hu hv receiver m
  rw [List.append_assoc, ← List.map_append] at hnext
  simpa using hnext

omit hplays hcreates in
/-- Initializers are handed nothing. -/
theorem initializers_fit (h : Staged catalog struck u ts roots s) (receiver : host.journaled.Ref)
    (level : String) : (Journal.writing (Fits catalog struck s.2.2)).Along []
      (Effect.each (d.callInitializer receiver) (d.component.initializers level)) := by
  have hnothing : Hands s.2.2 [] := ⟨_, roots, [], by simpa using h.makes hu, .nil⟩
  refine Course.along_each_nil fun m _ => ?_
  exact (Journal.writing_noting
    (fun _ => ⟨rfl, fun _ hscene => hnothing.of_scene hscene⟩) _).blaming _

omit hplays hcreates hu in
/-- Resources may be supplied at any time. -/
theorem supply_fits (log : Journal host.toVocabulary) (receiver : host.journaled.Ref) :
    (Journal.writing (Fits catalog struck log)).Along [] (d.supply receiver) := by
  rw [Definition.supply]
  cases d.resources with
  | none => exact Course.along_pure ()
  | some supplier =>
    exact (Journal.writing_noting (fun _ => ⟨rfl, fun _ _ => trivial⟩) _).blaming _

/-- One level of the hierarchy. -/
theorem leads_injectLevel (h : Supplied catalog struck u ts s) (receiver : host.journaled.Ref)
    (level : String) :
    (d.injectLevel receiver (supplying nested) level).Leads s
      (fun _ => Supplied catalog struck u
        (ts ++ (d.component.levelPoints level).map (·.requires)))
      (Stopped catalog struck u) := by
  rw [Definition.injectLevel, Component.levelPoints, List.map_append, ← List.append_assoc]
  refine (leads_fields hplays hcreates hu h receiver _).bind fun _ v hv => ?_
  refine (leads_methods hplays hcreates hu hv receiver _).bind fun _ w hw => ?_
  obtain ⟨made, hw⟩ := hw
  refine (hw.leads_of_fits (initializers_fit hu hw receiver level)).bind fun _ x hx => ?_
  exact (hx.1.leads_of_fits (supply_fits x.2.2 receiver)).mono
    (fun _ _ hafter => ⟨made, hafter.1⟩) fun _ => id

theorem leads_inject (h : Supplied catalog struck u ts s) (receiver : host.journaled.Ref) :
    (d.inject receiver (supplying nested)).Leads s
      (fun _ => Supplied catalog struck u
        (ts ++ (d.component.hierarchy.flatMap d.component.levelPoints).map (·.requires)))
      (Stopped catalog struck u) := by
  refine Effect.leads_each (Q := fun levels => Supplied catalog struck u
    (ts ++ (levels.flatMap d.component.levelPoints).map (·.requires)))
    (fun done level left hsplit v hv => ?_) (by simpa using h)
  have hnext := leads_injectLevel hplays hcreates hu hv receiver level
  rw [List.append_assoc, ← List.map_append] at hnext
  simpa using hnext

end

/-! ## Assembling -/

variable {d : Definition host.journaled}

/-- What has become of the definition by now. -/
theorem Staged.found (hu : Begun l catalog struck d u) (h : Staged catalog struck u ts roots s) :
    ∃ d', s.1.catalog.byType? d.component.type = some d' ∧ Definition.Later d d' ∧
      d'.scheme.Modest ∧ catalog.Has d.component.type d' := by
  obtain ⟨d', hd', hlater⟩ := h.follows.later hu.found
  obtain ⟨new, hgrowth⟩ := h.growth
  exact ⟨d', hd', hlater, ((hu.toReady.of_growth hgrowth).minded.modest _ _ hd').2,
    (hu.catalog.trans h.follows).earlier hd'⟩

/-- The live interceptors of a creation are made. -/
theorem leads_interceptors (hu : Begun l catalog struck d u)
    (h : Staged catalog struck u ts roots s) :
    (onDefinition d.component.type Definition.interceptors).Leads s
      (fun _ => Staged catalog struck u ts roots) (Stopped catalog struck u) := by
  obtain ⟨d', hd', -⟩ := h.found hu
  obtain ⟨hsettled, calls, hcalls, htries, -⟩ := Definition.interceptors_calls d' s.2
  have hfits : ∀ e ∈ calls, Fits catalog struck s.2.2 e := fun e he => by
    obtain ⟨-, -, i, -, outcome, rfl⟩ := htries e he
    exact ⟨rfl, fun _ _ => trivial⟩
  obtain ⟨hplain, haccepts⟩ := accepts_of_fits hfits
  exact (h.leads_onDefinition hd' (hsettled ▸ Definition.Later.settled d') hcalls hplain
    haccepts).mono (fun _ _ hafter => hafter.1) fun _ => id

/-- A proxy scheme asks scopes at most. -/
theorem leads_wrap (hu : Begun l catalog struck d u) (h : Staged catalog struck u ts roots s)
    (made : host.journaled.Ref) (live : host.journaled.LiveSet) :
    (onDefinition d.component.type (Definition.wrap made live)).Leads s
      (fun _ => Staged catalog struck u ts roots) (Stopped catalog struck u) := by
  obtain ⟨d', hd', -, hmodest, -⟩ := h.found hu
  obtain ⟨-, hlater, asked, hlog, hasked⟩ :=
    (Definition.along_wrap made live).keeps (d', s.2) hmodest
  have hfits : ∀ e ∈ asked, Fits catalog struck s.2.2 e := fun e he => by
    obtain ⟨scope, outcome, rfl⟩ := hasked e he
    exact ⟨rfl, fun _ _ => trivial⟩
  obtain ⟨hplain, haccepts⟩ := accepts_of_fits hfits
  exact (h.leads_onDefinition hd' hlater hlog hplain haccepts).mono
    (fun _ _ hafter => hafter.1) fun _ => id

/-- `Opened catalog d reference log` — at the end of `log`, the callbacks after construction have just
    succeeded on `reference`, as they are by what has become of `d`. -/
def Opened (catalog : Catalog host.journaled) (d : Definition host.journaled)
    (reference : host.journaled.Ref) (log : Journal host.toVocabulary) : Prop :=
  ∃ d' w, catalog.Has d.component.type d' ∧
    d'.component.requirements = d.component.requirements ∧
    (Definition.postConstruct reference (d', w)).1 = .ok () ∧
    (Definition.postConstruct reference (d', w)).2.2.2 = log

/-- The callbacks run when everything is there that is required. -/
theorem leads_postConstruct (hu : Begun l catalog struck d u)
    (h : Staged catalog struck u d.component.requirements roots s)
    (reference : host.journaled.Ref) :
    (onDefinition d.component.type (Definition.postConstruct reference)).Leads s
      (fun _ v => Staged catalog struck u d.component.requirements roots v ∧
        Opened catalog d reference v.2.2)
      (Stopped catalog struck u) := by
  obtain ⟨d', hd', hlater, hmodest, hhas⟩ := h.found hu
  have hrequirements : d'.component.requirements = d.component.requirements := by
    rw [hlater.component_eq, Component.requirements_declarations]
  have hopening : ∀ log e, Scene.of log = Scene.of s.2.2 →
      e.Within log s.2.2 (Definition.postConstruct reference (d', s.2)).2.2.2 →
        Attending catalog struck log e .postConstruct := fun log e hscene hwithin =>
    .intro (hscene ▸ h.makes hu) hhas (hscene ▸ hrequirements ▸ h.meets) hwithin
  obtain ⟨seg, hseg, hplain, haccepts, hsettled⟩ :=
    accepts_runPhase hmodest (Or.inl rfl) reference s.2 hopening
  refine (h.leads_onDefinition hd' hsettled hseg hplain haccepts).mono
    (fun _ v hafter => ?_) fun _ => id
  obtain ⟨hstaged, hok, hworld⟩ := hafter
  exact ⟨hstaged, d', s.2, hhas, hrequirements, hok, congrArg Prod.snd hworld⟩

/-- An assembly that succeeds has all that is required, and its callbacks have just succeeded. -/
theorem leads_assemble
    {nested : Definition host.journaled → Act host.journaled (Handle × host.journaled.Ref)}
    (hplays : Plays l catalog struck nested) (hcreates : Creates host.ledger nested)
    (hu : Begun l catalog struck d u) (h : Staged catalog struck u [] [] u) :
    (assemble d (supplying nested)).Leads u
      (fun reference v => Supplied catalog struck u d.component.requirements v ∧
        Opened catalog d reference v.2.2)
      (Stopped catalog struck u) := by
  refine (leads_interceptors hu h).bind fun live s₁ h₁ => ?_
  refine (leads_produce hplays hcreates hu h₁ live).bind fun made s₂ h₂ => ?_
  refine (leads_inject hplays hcreates hu h₂ made).bind fun _ s₃ h₃ => ?_
  obtain ⟨roots, h₃⟩ := h₃
  rw [← List.map_append] at h₃
  refine (leads_wrap hu h₃ made live).bind fun reference s₄ h₄ => ?_
  exact (leads_postConstruct hu h₄ reference).bind fun _ s₅ h₅ =>
    Effect.leads_pure ⟨⟨roots, h₅.1⟩, h₅.2⟩

end Container

end Wiring
