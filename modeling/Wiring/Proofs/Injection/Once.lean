/-
  Injection happens exactly once, where no level of the hierarchy is named twice.

  1. `c.Fulfils receiver duty deeds` — what stands in the trace of one duty: the requests for the
     values that it takes, and one call with these values.
  2. `c.wiring receiver` is the course of an injection: its gains are the duties that are fulfilled,
     one after the other.  A success of `injectLevel` gains the duties of the level, so a success of
     `inject` gains those of all levels, in the order of the hierarchy (`inject_wiring`).
  3. A hierarchy that names each level once has all duties done once (`WiredOnce`).  One that names a
     level twice is accepted all the same, and then what the level declares is done twice.
-/
import Mathlib
import Wiring.Proofs.Injection.Trace
import Wiring.Proofs.Injection.Duties
import Wiring.Proofs.Effect.Course
import Wiring.Proofs.Definition.Later
import Wiring.Proofs.Host.Numbers

namespace Wiring

namespace Component

variable {V : Vocabulary}

/-- `c.Fulfils receiver duty deeds` — the duty is done by the deeds: the requests for the values that
    it takes are answered, and then the setter, the method or the initializer is called with the
    answers, without a failure. -/
inductive Fulfils (c : Component V.Routine) (receiver : Reference V) :
    Duty V.Routine → List (Deed V) → Prop where
  | field {p f} (value : Reference V) : Fulfils c receiver (.field p f)
      [.requested p (.ok value), .assigned f.routine receiver value (.ok ())]
  | method {m : Method V.Routine} {values : List (Reference V)}
      (h : values.length = (c.parameterPoints m.member).length) : Fulfils c receiver (.method m)
      (Deed.answers (c.parameterPoints m.member) values ++
        [.performed m.routine receiver values (.ok ())])
  | initializer {m : Method V.Routine} :
      Fulfils c receiver (.initializer m) [.performed m.routine receiver [] (.ok ())]

/-- `c.Wired receiver duties deeds` — apart from the supply of resources, the deeds are those of the
    duties, in their order. -/
def Wired (c : Component V.Routine) (receiver : Reference V) (duties : List (Duty V.Routine))
    (deeds : List (Deed V)) : Prop :=
  ∃ segments, List.Forall₂ (c.Fulfils receiver) duties segments ∧
    deeds.filter (!·.isSupply) = segments.flatten

/-- `c.WiredOnce receiver deeds` — every duty is done once, in some order, and nothing else. -/
def WiredOnce (c : Component V.Routine) (receiver : Reference V) (deeds : List (Deed V)) : Prop :=
  ∃ duties, duties.Perm c.duties ∧ c.Wired receiver duties deeds

variable {c : Component V.Routine} {receiver : Reference V}

/-- No duty has resources supplied. -/
theorem Fulfils.filter_eq {duty : Duty V.Routine} {deeds : List (Deed V)}
    (h : c.Fulfils receiver duty deeds) : deeds.filter (!·.isSupply) = deeds := by
  rw [List.filter_eq_self]
  cases h with
  | field value => simp [Deed.isSupply]
  | initializer => simp [Deed.isSupply]
  | method h =>
    intro deed hdeed
    rcases List.mem_append.1 hdeed with hdeed | hdeed
    · obtain ⟨answer, -, rfl⟩ := List.mem_map.1 hdeed
      rfl
    · rw [List.mem_singleton.1 hdeed]
      rfl

theorem Fulfils.wired {duty : Duty V.Routine} {deeds : List (Deed V)}
    (h : c.Fulfils receiver duty deeds) : c.Wired receiver [duty] deeds :=
  ⟨[deeds], .cons h .nil, by rw [h.filter_eq, List.flatten_singleton]⟩

theorem wired_nil : c.Wired receiver [] [] := ⟨[], .nil, rfl⟩

theorem Wired.append {duties duties' : List (Duty V.Routine)} {deeds deeds' : List (Deed V)}
    (h : c.Wired receiver duties deeds) (h' : c.Wired receiver duties' deeds') :
    c.Wired receiver (duties ++ duties') (deeds ++ deeds') := by
  obtain ⟨segments, hsegments, hdeeds⟩ := h
  obtain ⟨segments', hsegments', hdeeds'⟩ := h'
  refine ⟨segments ++ segments', List.rel_append hsegments hsegments', ?_⟩
  rw [List.filter_append, hdeeds, hdeeds', List.flatten_append]

end Component

/-- What an effect leads to from every state, as its gain. -/
theorem Course.Yields.of_leads {σ ℓ α : Type} {R : Course σ ℓ} {ls : List ℓ} {x : Effect σ α}
    (h : ∀ s, x.Leads s (fun _ t => R.rel ls s t) fun _ => True) : R.Yields ls x :=
  fun s _ _ hx => (h s).ok hx

namespace Definition

variable {host : Host} {P : Type} {d : Definition host.traced} {receiver : host.traced.Ref}
  {provide : Provider host P}

/-- `d.wiring receiver` — the course of an injection: the duties that are done on the way. -/
def wiring (d : Definition host.traced) (receiver : host.traced.Ref) :
    Course host.traced.World (Duty host.Routine) where
  rel duties s t := ∃ deeds, t.2 = s.2 ++ deeds ∧
    Component.Wired (V := host.toVocabulary) d.component receiver duties deeds
  stay s := ⟨[], (List.append_nil _).symm, Component.wired_nil⟩
  append := by
    rintro _ _ s t u ⟨deeds, hdeeds, hwired⟩ ⟨deeds', hdeeds', hwired'⟩
    exact ⟨deeds ++ deeds', by rw [hdeeds', hdeeds, List.append_assoc], hwired.append hwired'⟩

/-- One duty, from its first request to the call. -/
theorem wiring_of_fulfils {duty : Duty host.Routine} {deeds : List (Deed host.toVocabulary)}
    {s t : host.traced.World} (ht : t.2 = s.2 ++ deeds)
    (h : Component.Fulfils (V := host.toVocabulary) d.component receiver duty deeds) :
    (d.wiring receiver).rel [duty] s t :=
  ⟨deeds, ht, h.wired⟩

/-- Where a field is to be filled, it is: by what was given for its point. -/
theorem injectField_wiring (point : Point host.traced.Routine) :
    (d.wiring receiver).below.Yields (point.field?.map (.field point)).toList
      (d.injectField receiver provide.traced point : Effect (P × host.traced.World) Unit) := by
  rw [injectField]
  cases point.field? with
  | none => exact fun s a t h => (Course.along_pure ()).ok h
  | some field =>
    refine .of_leads fun s => (request_traced d provide point s).bind fun value u hu => ?_
    have hset : (d.blame (.member field.member) (Effect.onWorld
        (host.traced.assign field.routine receiver value))).Leads u
        (fun _ w => w.2.2 = u.2.2 ++ [.assigned field.routine receiver value (.ok ())])
        fun _ => True := (Effect.leads_onWorld (Effect.leads_noting _ _ u.2)).blaming _
    refine hset.mono (fun _ w hw => wiring_of_fulfils ?_ (.field value)) fun _ h => h
    rw [hw, hu, List.append_assoc]
    rfl

/-- A method is called with what was given for its points. -/
theorem injectMethod_wiring (m : Method host.traced.Routine) :
    (d.wiring receiver).below.Yields [.method m]
      (d.injectMethod receiver provide.traced m : Effect (P × host.traced.World) Unit) := by
  rw [injectMethod]
  refine .of_leads fun s => (arguments_traced d provide m.member s).bind fun values u hu => ?_
  have hcall : (d.blame (.member m.member) (Effect.onWorld
      (host.traced.perform m.routine receiver values))).Leads u
      (fun _ w => w.2.2 = u.2.2 ++ [.performed m.routine receiver values (.ok ())])
      fun _ => True := (Effect.leads_onWorld (Effect.leads_noting _ _ u.2)).blaming _
  refine hcall.mono (fun _ w hw => wiring_of_fulfils ?_ (.method hu.1)) fun _ h => h
  rw [hw, hu.2, List.append_assoc]
  rfl

theorem callInitializer_wiring (m : Method host.traced.Routine) :
    (d.wiring receiver).Yields [.initializer m] (d.callInitializer receiver m) := by
  refine .of_leads fun s => ?_
  have hcall : (d.callInitializer receiver m).Leads s
      (fun _ w => w.2 = s.2 ++ [.performed m.routine receiver [] (.ok ())]) fun _ => True :=
    (Effect.leads_noting _ _ s).blaming _
  exact hcall.mono (fun _ w hw => wiring_of_fulfils hw .initializer) fun _ h => h

/-- The supply of resources is no duty. -/
theorem supply_wiring (d : Definition host.traced) (receiver : host.traced.Ref) :
    (d.wiring receiver).Yields [] (d.supply receiver) := by
  rw [supply]
  cases d.resources with
  | none => exact fun s a t h => (Course.along_pure ()).ok h
  | some supplier =>
    refine .of_leads fun s => ?_
    have hcall : (d.blame .resources (host.traced.supply supplier receiver)).Leads s
        (fun _ w => w.2 = s.2 ++ [.supplied supplier receiver (.ok ())]) fun _ => True :=
      (Effect.leads_noting _ _ s).blaming _
    exact hcall.mono (fun _ w hw => ⟨_, hw, [], .nil, rfl⟩) fun _ h => h

/-- A level does the duties that are declared on it. -/
theorem injectLevel_wiring (level : String) :
    (d.wiring receiver).below.Yields (d.component.dutiesOf level)
      (d.injectLevel receiver provide.traced level : Effect (P × host.traced.World) Unit) := by
  let K : ((d.wiring receiver).below (σ := P)).Manner := Course.yielding _
  rw [injectLevel, Component.dutiesOf, Duty.ofFields, List.filterMap_eq_flatMap_toList,
    List.map_eq_flatMap, List.map_eq_flatMap, List.append_assoc]
  refine K.bind (K.each fun point _ => injectField_wiring point) fun _ => ?_
  refine K.bind (K.each fun m _ => injectMethod_wiring m) fun _ => ?_
  refine K.before (Course.Yields.onWorld ?_) fun _ => (supply_wiring d receiver).onWorld
  exact (Course.yielding _).each fun m _ => callInitializer_wiring m

/-- All levels do their duties, in the order of the hierarchy. -/
theorem inject_wiring (d : Definition host.traced) (receiver : host.traced.Ref)
    (provide : Provider host P) :
    (d.wiring receiver).below.Yields (d.component.hierarchy.flatMap d.component.dutiesOf)
      (d.inject receiver provide.traced : Effect (P × host.traced.World) Unit) :=
  (Course.yielding _).each fun level _ => injectLevel_wiring level

/-- **Injection happens exactly once, where no level is named twice.**  Let a component be accepted,
    and an instance be wired with success, at any time in the life of its definition and with any
    provider.

    1. Apart from the supply of resources, what is done is the duties of the levels, in the order of
       the hierarchy: each field is set by what was given for its point, each method with a plain
       point is called with what was given for its parameters, by position, and each initializer is
       called.
    2. If the hierarchy names no level twice, these are all duties, each once.
    3. Among the duties there is one method for each key that has a plain point. -/
theorem wired_once {draft : Draft host.Routine} {first d : Definition host.traced}
    (h : draft.build = .ok first.component) (hlater : Later first d) (receiver : host.traced.Ref)
    (provide : Provider host P) {s t : P × host.traced.World}
    (hok : d.inject receiver provide.traced s = (.ok (), t)) :
    ∃ deeds, t.2.2 = s.2.2 ++ deeds ∧
      d.component.Wired receiver (d.component.hierarchy.flatMap fun level =>
        d.component.duties.filter fun duty => duty.level = level) deeds ∧
      (d.component.hierarchy.Nodup → d.component.WiredOnce receiver deeds) ∧
      ∀ key, (d.component.plainMethods.map (·.member)).count key =
        if key ∈ (d.component.points.filterMap (·.plainMethod?)).map (·.member) then 1 else 0 := by
  have hduties : ∀ duty ∈ d.component.duties, duty.level ∈ d.component.hierarchy := by
    have hfirst := Draft.duties_levelled h
    rw [hlater.component_eq]
    exact hfirst
  obtain ⟨deeds, hdeeds, hwired⟩ := inject_wiring d receiver provide s () t hok
  have hdone := List.flatMap_congr (l := d.component.hierarchy)
    fun level _ => d.component.dutiesOf_eq_filter level
  refine ⟨deeds, hdeeds, hdone ▸ hwired, fun hlevels => ?_, d.component.count_plainMethods⟩
  exact ⟨_, Component.flatMap_dutiesOf_perm hduties hlevels, hwired⟩

/-- A field of the component, and a method and an initializer of its ancestor. -/
def wiredBelow : Draft Nat where
  type := ⟨8⟩
  name := "Leaf"
  superclasses := ["Base"]
  points := [⟨.field ⟨⟨"Leaf", "field"⟩, 5⟩, ⟨4⟩, .plain⟩,
    ⟨.methodParameter ⟨⟨⟨"Base", "setUp"⟩, 3⟩, 1, true⟩ 0, ⟨1⟩, .plain⟩]
  methods := [⟨⟨⟨"Base", "begin"⟩, 6⟩, 0, true⟩]

theorem wired_once_two_levels :
    let d : Definition Host.numbers.traced := { component := wiredBelow.component }
    let receiver : Host.numbers.traced.Ref := .plain (8 : Nat)
    let deeds : List (Deed Host.numbers.toVocabulary) :=
      [.requested wiredBelow.points[1] (.ok (.plain (1 : Nat))),
        .performed (3 : Nat) receiver [.plain (1 : Nat)] (.ok ()),
        .performed (6 : Nat) receiver [] (.ok ()),
        .requested wiredBelow.points[0] (.ok (.plain (4 : Nat))),
        .assigned (5 : Nat) receiver (.plain (4 : Nat)) (.ok ())]
    wiredBelow.build = .ok d.component ∧ d.component.hierarchy.Nodup ∧
      d.inject receiver Provider.numbers.traced ((), [], []) = (.ok (), (), [3, 6, 5], deeds) ∧
      d.component.WiredOnce receiver deeds := by
  intro d receiver deeds
  have h : wiredBelow.build = .ok d.component := by
    dsimp only [d]
    cbv
  have hok : d.inject receiver Provider.numbers.traced ((), [], []) =
      (.ok (), (), [3, 6, 5], deeds) := by
    dsimp only [d, receiver, deeds]
    cbv
  have hlevels : d.component.hierarchy.Nodup := by decide
  obtain ⟨deeds', hdeeds, -, honce, -⟩ := wired_once h (.refl d) receiver Provider.numbers hok
  obtain rfl : deeds = deeds' := hdeeds
  exact ⟨h, hlevels, hok, honce hlevels⟩

/-- A component whose only ancestor is named twice. -/
def doubled : Draft Nat where
  type := ⟨0⟩
  name := "a"
  superclasses := ["Base", "Base"]
  points := [⟨.field ⟨⟨"Base", "x"⟩, 1⟩, ⟨1⟩, .plain⟩]

/-- It is accepted, and the one field of the ancestor is set twice. -/
theorem field_set_twice :
    let d : Definition Host.numbers.traced := { component := doubled.component }
    let receiver : Host.numbers.traced.Ref := .plain (0 : Nat)
    let set : List (Deed Host.numbers.toVocabulary) :=
      [.requested doubled.points[0] (.ok (.plain (1 : Nat))),
        .assigned (1 : Nat) receiver (.plain (1 : Nat)) (.ok ())]
    doubled.build = .ok d.component ∧
      d.inject receiver Provider.numbers.traced ((), [], []) =
        (.ok (), (), [1, 1], set ++ set) ∧
      ¬ d.component.WiredOnce receiver (set ++ set) := by
  intro d receiver set
  refine ⟨by dsimp only [d]; cbv, by dsimp only [d, receiver, set]; cbv, ?_⟩
  rintro ⟨duties, hperm, segments, hfulfils, hdeeds⟩
  -- there is one duty, so there is one segment, and it is too short
  have hduties : duties = d.component.duties := List.perm_singleton.1 hperm
  rw [hduties] at hfulfils
  cases hfulfils with
  | cons hfirst hrest =>
    cases hrest
    cases hfirst
    cases hdeeds

end Definition

end Wiring
