/-
  Every constructor and every injected method gets its own arguments.

  `c.Warranted seg` — whatever was called on the way that `seg` records got as many arguments as it
  has parameters, each of them a value given for a point of its own in the right place.

  1. Arguments are asked for point by point, and come in the order of the points.
  2. A constructor is called with what was asked for, unless an interceptor puts other parameters in
     the place of these; an injected method always is.
  3. The points that are asked for are those of the member.  They are its own and cover its
     parameters if the component is `Placed`, which every accepted one is whose members can be told
     apart.  Else a constructor may get what was meant for a method.
-/
import Mathlib
import Wiring.Proofs.Component.Positions
import Wiring.Proofs.Definition.Served
import Wiring.Proofs.Host.Numbers
import Wiring.Proofs.Handover.Basic

namespace Wiring

/-! ## Warranted calls -/

namespace Component

variable {V : Vocabulary}

/-- `c.Given own arguments before` — each argument is a value that was given before, for a point
    whose slot is `own` in its place. -/
def Given (c : Component V.Routine) (own : Nat → Slot V.Routine → Prop)
    (arguments : List (Reference V)) (before : List (Handover V)) : Prop :=
  ∀ i v, arguments[i]? = some v → ∃ p ∈ c.points, own i p.slot ∧ .provided p v ∈ before

/-- `c.Warrants before e` — if `e` is a call after `before`, it is one of the constructor or of a
    method of `c`, with its own arguments.  A default constructor has no points, and gets none. -/
def Warrants (c : Component V.Routine) (before : List (Handover V)) : Handover V → Prop
  | .provided _ _ | .replaced _ => True
  | .constructed r arguments => ∃ k, c.constructor = some k ∧ r = k.routine ∧
    (c.injectedConstructor = some k → arguments.length = k.count) ∧
    c.Given (Slot.IsOfConstructor k) arguments before
  | .performed r _ arguments => ∃ m, ((∃ level, m ∈ c.injectedMethods level) ∨
      (m ∈ c.methods ∧ m.isInitializer = true)) ∧ r = m.routine ∧ arguments.length = m.count ∧
    c.Given (Slot.IsOfMethod m) arguments before

/-- `c.Warranted seg` — whatever was called on the way got its own arguments. -/
def Warranted (c : Component V.Routine) (seg : List (Handover V)) : Prop :=
  ∀ before e after, seg = before ++ e :: after → c.Warrants before e

variable {c : Component V.Routine} {before before' seg seg' : List (Handover V)}

theorem Given.mono {own : Nat → Slot V.Routine → Prop} {arguments : List (Reference V)}
    (h : c.Given own arguments before) (hsub : before ⊆ before') :
    c.Given own arguments before' := fun i v hv =>
  have ⟨p, hp, hown, hmem⟩ := h i v hv
  ⟨p, hp, hown, hsub hmem⟩

theorem Warrants.mono {e : Handover V} (h : c.Warrants before e) (hsub : before ⊆ before') :
    c.Warrants before' e := by
  cases e with
  | provided point value => trivial
  | replaced parameters => trivial
  | constructed r arguments =>
    obtain ⟨k, hk, hr, hlength, hgiven⟩ := h
    exact ⟨k, hk, hr, hlength, hgiven.mono hsub⟩
  | performed r receiver arguments =>
    obtain ⟨m, hm, hr, hlength, hgiven⟩ := h
    exact ⟨m, hm, hr, hlength, hgiven.mono hsub⟩

namespace Warranted

theorem nil : c.Warranted ([] : List (Handover V)) := by
  intro before e after h
  cases before <;> cases h

/-- Behind a warranted way, calls may rely on what was given there. -/
theorem append (h : c.Warranted seg) (h' : ∀ e ∈ seg', c.Warrants seg e) :
    c.Warranted (seg ++ seg') := by
  intro before e after heq
  rcases List.append_eq_append_iff.1 heq with ⟨mid, rfl, hmid⟩ | ⟨mid, hmid, hrest⟩
  · exact (h' e (hmid ▸ List.mem_append_right _ List.mem_cons_self)).mono
      (List.subset_append_left seg mid)
  · cases mid with
    | nil =>
      rw [List.append_nil] at hmid
      rw [List.nil_append] at hrest
      exact hmid ▸ h' e (hrest ▸ List.mem_cons_self)
    | cons x mid =>
      cases hrest
      exact h before e mid hmid

theorem trans (h : c.Warranted seg) (h' : c.Warranted seg') : c.Warranted (seg ++ seg') := by
  intro before e after heq
  rcases List.append_eq_append_iff.1 heq with ⟨mid, rfl, hmid⟩ | ⟨mid, hmid, hrest⟩
  · exact (h' mid e after hmid).mono (List.subset_append_right seg mid)
  · cases mid with
    | nil =>
      rw [List.append_nil] at hmid
      exact hmid ▸ (h' [] e after hrest.symm).mono (List.nil_subset _)
    | cons x mid =>
      cases hrest
      exact h before e mid hmid

/-- Giving values calls nothing. -/
theorem of_provided (h : ∀ e ∈ seg, ∃ p v, e = .provided p v) : c.Warranted seg := by
  intro before e after heq
  obtain ⟨p, v, rfl⟩ := h e (heq ▸ List.mem_append_right _ List.mem_cons_self)
  trivial

end Warranted

/-- Values that were given for points, one each, are given in the places of the points. -/
theorem given_of_zipWith {own : Nat → Slot V.Routine → Prop} {points : List (Point V.Routine)}
    {values : List (Reference V)} (hlength : values.length = points.length)
    (hown : ∀ {i p}, points[i]? = some p → p ∈ c.points ∧ own i p.slot) :
    c.Given own values (List.zipWith .provided points values) := by
  intro i v hv
  obtain ⟨hi, -⟩ := List.getElem?_eq_some_iff.1 hv
  have hpoint : points[i]? = some points[i] := List.getElem?_eq_getElem (hlength ▸ hi)
  obtain ⟨hmem, hslot⟩ := hown hpoint
  refine ⟨points[i], hmem, hslot, List.mem_of_getElem? (i := i) ?_⟩
  rw [List.getElem?_zipWith, hpoint, hv]

end Component

/-! ## Arguments -/

namespace Definition

variable {host : Host} {P : Type} {d : Definition host.observant}

/-- What a provider gave is written down, and nothing if it failed. -/
theorem request_observant (d : Definition host.observant) (provide : Provider host P)
    (point : Point host.observant.Routine) (s : P × host.observant.World) :
    (∃ v t, d.request provide.observant point s = (.ok v, t) ∧
      t.2.2 = s.2.2 ++ [.provided point v]) ∨
    ∃ f t, d.request provide.observant point s = (.error f, t) ∧ t.2.2 = s.2.2 := by
  have hrequest : d.request provide.observant point s =
      ((provide point (s.1, s.2.1)).1.mapError (.instantiation d.name (.member point.member)),
        (provide point (s.1, s.2.1)).2.1, (provide point (s.1, s.2.1)).2.2,
        s.2.2 ++ (provide point (s.1, s.2.1)).1.toOption.toList.map (.provided point)) := rfl
  rw [hrequest]
  cases (provide point (s.1, s.2.1)).1 with
  | error f => exact Or.inr ⟨_, _, rfl, List.append_nil _⟩
  | ok v => exact Or.inl ⟨v, _, rfl, rfl⟩

/-- Whatever is asked for on the way, and if all of it is given, one value for each point. -/
theorem collect_provided (d : Definition host.observant) (provide : Provider host P)
    (points : List (Point host.observant.Routine)) (s : P × host.observant.World) :
    ∃ seg, (Effect.collect (d.request provide.observant) points s).2.2.2 = s.2.2 ++ seg ∧
      (∀ e ∈ seg, ∃ p v, e = .provided p v) ∧
      ∀ {values}, (Effect.collect (d.request provide.observant) points s).1 = .ok values →
        values.length = points.length ∧ seg = List.zipWith .provided points values := by
  induction points generalizing s with
  | nil =>
    refine ⟨[], (List.append_nil _).symm, nofun, fun h => ?_⟩
    cases h
    exact ⟨rfl, rfl⟩
  | cons point rest ih =>
    rw [Effect.collect]
    rcases request_observant d provide point s with ⟨v, t, hr, hlog⟩ | ⟨f, t, hr, hlog⟩
    · rw [Effect.bind_ok hr, Effect.bind_pure_apply]
      obtain ⟨seg, hseg, hprovided, hall⟩ := ih t
      refine ⟨.provided point v :: seg, ?_, ?_, fun h => ?_⟩
      · rw [hseg, hlog, List.append_assoc]
        rfl
      · exact List.forall_mem_cons.2 ⟨⟨point, v, rfl⟩, hprovided⟩
      · cases hrest : (Effect.collect (d.request provide.observant) rest t).1 with
        | error f =>
          rw [hrest] at h
          cases h
        | ok vs =>
          rw [hrest] at h
          cases h
          obtain ⟨hlength, hzip⟩ := hall hrest
          exact ⟨congrArg (· + 1) hlength, congrArg (.provided point v :: ·) hzip⟩
    · rw [Effect.bind_error hr]
      exact ⟨[], hlog.trans (List.append_nil _).symm, nofun, nofun⟩

/-- A direct call is with the parameters of the invocation, if it is not refused. -/
theorem proceedDirectly_carried {k : Constructor host.observant.Routine}
    {inv : Invocation host.observant.toVocabulary} (hgoal : inv.ending.goal = .construct k)
    (s : host.observant.World) :
    ∃ seg ps, (Invocation.proceedDirectly (inv, s)).2.2.2 = s.2 ++ seg ∧
      Carried k.routine inv.parameters seg ps := by
  rw [Invocation.proceedDirectly]
  split
  · exact ⟨[], _, (List.append_nil s.2).symm, .rest⟩
  · rw [(Invocation.matches_reachEnding inv).of_passage rfl]
    obtain ⟨seg, hseg, hcarried⟩ := (inv.route.carried_arrive hgoal).keeps (inv.passage, s)
    exact ⟨seg, _, hseg, hcarried⟩

/-- Constructing an instance, parameters are carried from the arguments to the last call. -/
theorem construct_carried (d : Definition host.observant) (k : Constructor host.observant.Routine)
    (live : host.observant.LiveSet) (arguments : List host.observant.Ref)
    (s : host.observant.World) :
    ∃ seg ps, (d.construct k live arguments s).2.2 = s.2 ++ seg ∧
      Carried k.routine arguments seg ps := by
  by_cases hempty : (d.component.constructionChain k).isEmpty
  · rw [construct, if_pos hempty]
    exact ⟨_, _, rfl, .constructed .rest⟩
  · let inv : Invocation host.observant.toVocabulary :=
      Invocation.construction (d.component.constructionChain k) (some live) k arguments
    let r := Invocation.proceed (inv, s)
    have hpending : inv.status = .pending := rfl
    have hproceed : r = _ := Invocation.proceed_of_start hpending rfl s
    obtain ⟨pass, hpass, hcarried⟩ :=
      (Route.carried_run (r := inv.route) rfl inv.chain).keeps (inv.passage, s)
    have hlog : r.2.2.2 = s.2 ++ pass := by
      rw [hproceed]
      exact hpass
    have hparameters : Carried k.routine arguments pass r.2.1.takeMade.2.parameters := by
      rw [Invocation.parameters_takeMade, hproceed]
      exact hcarried
    have hgoal : r.2.1.takeMade.2.ending.goal = .construct k := by
      rw [Invocation.goal_takeMade, hproceed]
      exact Invocation.goal_settled_carrying inv _ _
    rw [construct, if_neg hempty]
    show ∃ seg ps, (d.constructing k (inv, s)).2.2.2 = s.2 ++ seg ∧ _
    rcases constructing_world d k inv s with hworld | hworld
    · rw [hworld]
      exact ⟨pass, _, hlog, hparameters⟩
    · obtain ⟨direct, ps, hdirect, hdirectly⟩ := proceedDirectly_carried hgoal r.2.2
      rw [hlog, List.append_assoc] at hdirect
      rw [hworld]
      exact ⟨pass ++ direct, ps, hdirect, hparameters.trans hdirectly⟩

/-! ## Making and wiring an instance -/

/-- `d.warranting` — moves on which whatever is called gets its own arguments. -/
def warranting (d : Definition host.observant) : Course host.observant.World Empty where
  rel _ s t := ∃ seg, t.2 = s.2 ++ seg ∧ d.component.Warranted seg
  stay s := ⟨[], (List.append_nil _).symm, .nil⟩
  append := by
    rintro _ _ s t u ⟨seg, hseg, hwarranted⟩ ⟨seg', hseg', hwarranted'⟩
    exact ⟨seg ++ seg', by rw [hseg', hseg, List.append_assoc], hwarranted.trans hwarranted'⟩

/-- A constructor that is called with what was asked for gets its own arguments. -/
theorem produce_warranted (hplaced : d.component.Placed) (live : host.observant.LiveSet)
    (provide : Provider host P) (s : P × host.observant.World) :
    ∃ seg, (d.produce live provide.observant s).2.2.2 = s.2.2 ++ seg ∧
      ((∀ ps, .replaced ps ∉ seg) → d.component.Warranted seg) := by
  rw [produce]
  cases hk : d.component.constructor with
  | none => exact ⟨[], (List.append_nil _).symm, fun _ => .nil⟩
  | some k =>
    obtain ⟨asked, hasked, hprovided, hall⟩ :=
      collect_provided d provide (d.component.parameterPoints k.member) s
    rw [← Definition.arguments] at hasked hall
    dsimp only
    rcases hr : d.arguments provide.observant k.member s with ⟨f | arguments, t⟩
    · rw [hr] at hasked
      rw [Effect.bind_error hr]
      exact ⟨asked, hasked, fun _ => .of_provided hprovided⟩
    · rw [hr] at hasked
      obtain ⟨hlength, rfl⟩ := hall (congrArg Prod.fst hr)
      obtain ⟨called, ps, hcalled, hcarried⟩ := construct_carried d k live arguments t.2
      rw [Effect.bind_ok hr]
      refine ⟨_ ++ called, ?_, fun hkept => .append (.of_provided hprovided) fun e he => ?_⟩
      · rw [← List.append_assoc, ← hasked]
        exact hcalled
      · rw [hcarried.eq_constructed (fun ps hps => hkept ps (List.mem_append_right _ hps)) e he]
        exact ⟨k, hk, rfl, fun hinjected => hlength.trans (hplaced.length_constructor hinjected),
          Component.given_of_zipWith hlength (hplaced.own_constructor hk)⟩

variable {receiver : host.observant.Ref} {provide : Provider host P} {level : String}

/-- A field is filled without a call. -/
theorem injectField_warranting (point : Point host.observant.Routine) :
    d.warranting.below.Along []
      (d.injectField receiver provide.observant point : Effect (P × host.observant.World) Unit) := by
  rw [injectField]
  cases point.field? with
  | none => exact Course.along_pure ()
  | some field =>
    refine Course.Along.after (.of_keeps fun s => ?_) fun value =>
      ((Course.Along.of_keeps (R := d.warranting) fun s => d.warranting.stay s).onWorld
        fun _ hrel => hrel).blaming _
    rcases request_observant d provide point s with ⟨v, t, hr, hlog⟩ | ⟨f, t, hr, hlog⟩
    · rw [hr]
      exact ⟨_, hlog, .of_provided fun e he => ⟨point, v, List.mem_singleton.1 he⟩⟩
    · rw [hr]
      exact ⟨[], hlog.trans (List.append_nil _).symm, .nil⟩

/-- A method that is called gets its own arguments. -/
theorem injectMethod_warranting (hplaced : d.component.Placed)
    {m : Method host.observant.Routine} (hm : m ∈ d.component.injectedMethods level) :
    d.warranting.below.Along []
      (d.injectMethod receiver provide.observant m : Effect (P × host.observant.World) Unit) := by
  refine .of_keeps fun s => ?_
  rw [injectMethod]
  obtain ⟨asked, hasked, hprovided, hall⟩ :=
    collect_provided d provide (d.component.parameterPoints m.member) s
  rw [← Definition.arguments] at hasked hall
  rcases hr : d.arguments provide.observant m.member s with ⟨f | arguments, t⟩
  · rw [hr] at hasked
    rw [Effect.bind_error hr]
    exact ⟨asked, hasked, .of_provided hprovided⟩
  · rw [hr] at hasked
    obtain ⟨hlength, rfl⟩ := hall (congrArg Prod.fst hr)
    rw [Effect.bind_ok hr]
    have hperformed : t.2.2 ++ [.performed m.routine receiver arguments] =
        s.2.2 ++ (_ ++ [.performed m.routine receiver arguments]) :=
      (congrArg (· ++ _) hasked).trans (List.append_assoc ..)
    refine ⟨_, hperformed, .append (.of_provided hprovided) fun e he => ?_⟩
    rw [List.mem_singleton.1 he]
    exact ⟨m, Or.inl ⟨level, hm⟩, rfl, hlength.trans (hplaced.length_method hm),
      Component.given_of_zipWith hlength (hplaced.own_method hm)⟩

/-- An initializer is called without arguments, and has no parameters. -/
theorem callInitializer_warranting {m : Method host.observant.Routine}
    (hm : m ∈ d.component.initializers level) :
    d.warranting.Along [] (d.callInitializer receiver m) := by
  refine .of_keeps fun s => ⟨[.performed m.routine receiver []], rfl, ?_⟩
  obtain ⟨hmem, hinitializer⟩ := List.mem_filter.1 hm
  have hinitializer : m.isInitializer = true := (Bool.and_eq_true_iff.1 hinitializer).2
  have hcount : m.count = 0 := of_decide_eq_true (Bool.and_eq_true_iff.1 hinitializer).2
  refine Component.Warranted.nil.append fun e he => ?_
  rw [List.mem_singleton.1 he]
  exact ⟨m, Or.inr ⟨hmem, hinitializer⟩, rfl, hcount.symm, nofun⟩

/-- Resources are supplied without a call. -/
theorem supply_warranting (d : Definition host.observant) :
    d.warranting.Along [] (d.supply receiver) := by
  rw [supply]
  cases d.resources with
  | none => exact Course.along_pure ()
  | some supplier =>
    exact (Course.Along.of_keeps fun s => d.warranting.stay s).blaming _

/-- Whatever is called while an instance is wired gets its own arguments. -/
theorem inject_warranting (hplaced : d.component.Placed) (receiver : host.observant.Ref)
    (provide : Provider host P) :
    d.warranting.below.Along []
      (d.inject receiver provide.observant : Effect (P × host.observant.World) Unit) := by
  refine Course.along_each_nil fun level _ => ?_
  rw [injectLevel]
  refine (Course.along_each_nil fun point _ => injectField_warranting point).after fun _ => ?_
  refine (Course.along_each_nil fun m hm => injectMethod_warranting hplaced hm).after fun _ => ?_
  refine ((Course.along_each_nil fun m hm => callInitializer_warranting hm).onWorld
    fun _ hrel => hrel).after fun _ => ?_
  exact (supply_warranting d).onWorld fun _ hrel => hrel

/-- The lifecycle chains have nothing to do with arguments. -/
theorem Later.placed {first : Definition host.observant} (h : Later first d)
    (hplaced : first.component.Placed) : d.component.Placed := by
  rw [h.component_eq]
  exact ⟨hplaced.length_constructor, hplaced.own_constructor, hplaced.length_method,
    hplaced.own_method⟩

/-- **Every constructor and every injected method gets its own arguments.**  Let a component be
    accepted whose members can be told apart.  Whenever, at any time in the life of its definition
    and with any provider, an instance is made of it without its parameters being replaced, or an
    instance is wired,
    1. whatever is called is its constructor, or one of its injected methods or initializers, and
       gets as many arguments as it has parameters, if there are points for these;
    2. each argument is a value that the provider gave for a point of that very constructor or
       method, in that very place. -/
theorem arguments_are_own {draft : Draft host.observant.Routine}
    {first d : Definition host.observant} (h : draft.build = .ok first.component)
    (hc : first.component.Unambiguous) (hlater : Later first d) (provide : Provider host P)
    (s : P × host.observant.World) :
    (∀ live, ∃ seg, (d.produce live provide.observant s).2.2.2 = s.2.2 ++ seg ∧
      ((∀ ps, .replaced ps ∉ seg) → d.component.Warranted seg)) ∧
    ∀ receiver, ∃ seg, (d.inject receiver provide.observant s).2.2.2 = s.2.2 ++ seg ∧
      d.component.Warranted seg := by
  have hplaced : d.component.Placed := hlater.placed (Component.placed_of_build h hc)
  exact ⟨fun live => produce_warranted hplaced live provide s,
    fun receiver => (inject_warranting hplaced receiver provide).keeps s⟩

/-- A parameter of the constructor of `swapped`. -/
def newPoint (i requires : Nat) : Point Nat :=
  ⟨.constructorParameter ⟨⟨⟨"P", "new"⟩, 7⟩, 2⟩ i, ⟨requires⟩, .plain⟩

/-- The parameter of its method. -/
def setPoint : Point Nat := ⟨.methodParameter ⟨⟨⟨"P", "set"⟩, 8⟩, 1, true⟩ 0, ⟨4⟩, .plain⟩

/-- A component whose constructor has two parameters, the last of which was described first. -/
def swapped : Draft Nat where
  type := ⟨7⟩
  name := "P"
  points := [newPoint 1 5, setPoint, newPoint 0 3]

theorem unambiguous_swapped : swapped.component.Unambiguous := by
  have hset : ∀ {p : Point Nat} {m i}, p ∈ swapped.component.points →
      p.slot = .methodParameter m i → m = ⟨⟨⟨"P", "set"⟩, 8⟩, 1, true⟩ := by
    intro p m i hp hslot
    simp only [swapped, Draft.component, List.mem_cons, List.not_mem_nil, or_false] at hp
    rcases hp with rfl | rfl | rfl <;> cases hslot
    rfl
  refine ⟨fun hp hslot hk => ?_, fun hp hq hslot hslot' _ => ?_⟩
  · cases hk
    rw [hset hp hslot]
    decide
  · rw [hset hp hslot, hset hq hslot']

theorem arguments_are_own_swapped :
    let d : Definition Host.numbers.observant := { component := swapped.component }
    let made : List (Handover Host.numbers.toVocabulary) :=
      [.provided (newPoint 0 3) (.plain (3 : Nat)), .provided (newPoint 1 5) (.plain (5 : Nat)),
        .constructed (7 : Nat) [.plain (3 : Nat), .plain (5 : Nat)]]
    let wired : List (Handover Host.numbers.toVocabulary) :=
      [.provided setPoint (.plain (4 : Nat)),
        .performed (8 : Nat) (.plain (7 : Nat)) [.plain (4 : Nat)]]
    swapped.build = .ok swapped.component ∧ swapped.component.Unambiguous ∧
      (d.produce ∅ Provider.numbers.observant ((), [], [])).2.2.2 = made ∧
      d.component.Warranted made ∧
      (d.inject (.plain (7 : Nat)) Provider.numbers.observant ((), [], [])).2.2.2 = wired ∧
      d.component.Warranted wired := by
  intro d made wired
  have h : swapped.build = .ok d.component := by
    dsimp only [d]
    cbv
  have hmade : (d.produce ∅ Provider.numbers.observant ((), [], [])).2.2.2 = made := by
    dsimp only [d, made]
    cbv
  have hwired : (d.inject (.plain (7 : Nat)) Provider.numbers.observant ((), [], [])).2.2.2 =
      wired := by
    dsimp only [d, wired]
    cbv
  obtain ⟨hproduce, hinject⟩ :=
    arguments_are_own h unambiguous_swapped (.refl d) Provider.numbers ((), [], [])
  obtain ⟨seg, hseg, hown⟩ := hproduce ∅
  obtain ⟨seg', hseg', hown'⟩ := hinject (.plain (7 : Nat))
  obtain rfl : made = seg := hmade.symm.trans hseg
  obtain rfl : wired = seg' := hwired.symm.trans hseg'
  exact ⟨h, unambiguous_swapped, hmade, hown (by simp [made]), hwired, hown'⟩

/-- Points of a method and of a constructor with one name: that of the constructor fills the place
    that the method has no point for. -/
def homonymous : Draft Nat where
  type := ⟨0⟩
  name := "a"
  points := [⟨.methodParameter ⟨⟨⟨"a", "make"⟩, 0⟩, 2, true⟩ 1, ⟨2⟩, .plain⟩,
    ⟨.constructorParameter ⟨⟨⟨"a", "make"⟩, 1⟩, 1⟩ 0, ⟨1⟩, .plain⟩]

/-- It is accepted, and its constructor of one parameter is called with two arguments, the second of
    which was given for the method. -/
theorem constructor_gets_arguments_of_method :
    let d : Definition Host.numbers.observant := { component := homonymous.component }
    let made : List (Handover Host.numbers.toVocabulary) :=
      [.provided homonymous.points[1] (.plain (1 : Nat)),
        .provided homonymous.points[0] (.plain (2 : Nat)),
        .constructed (1 : Nat) [.plain (1 : Nat), .plain (2 : Nat)]]
    homonymous.build = .ok homonymous.component ∧
      (d.produce ∅ Provider.numbers.observant ((), [], [])).2.2.2 = made ∧
      (∀ ps, .replaced ps ∉ made) ∧ ¬ d.component.Warranted made := by
  intro d made
  refine ⟨by cbv, ?_, by simp [made], fun hwarranted => ?_⟩
  · dsimp only [d, made]
    cbv
  · obtain ⟨k, hk, -, hlength, -⟩ := hwarranted made.dropLast _ [] rfl
    cases hk
    exact absurd (hlength rfl) (by decide)

end Definition

end Wiring
