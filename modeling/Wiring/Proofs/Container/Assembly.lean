/-
  What an instance is assembled from.

  `c.requests` lists the injection points that are asked for when an instance of `c` is made: the
  parameters of the constructor first, then, level by level from the root ancestor down, the fields
  and the parameters of the injected methods.

  An assembly keeps to any course on which only its provider gains something, in whatever manner the
  provider does, and what it gains are the gains of the requests, in this order
  (`holds_assemble`), or as many of them as it came to before it failed (`along_assemble`).
-/
import Wiring.Container.Creation
import Wiring.Proofs.Definition.Quiet

namespace Wiring

namespace Component

variable {ρ : Type}

/-- `c.constructorPoints` — the parameters of the constructor that instances are made with. -/
def constructorPoints (c : Component ρ) : List (Point ρ) :=
  match c.constructor with
  | none => []
  | some k => c.parameterPoints k.member

/-- `c.levelPoints level` — the fields of one level, then the parameters of its injected methods. -/
def levelPoints (c : Component ρ) (level : String) : List (Point ρ) :=
  (c.pointsOf level).filter (·.field?.isSome) ++
    (c.injectedMethods level).flatMap fun m => c.parameterPoints m.member

/-- `c.requests` — the injection points that an instance needs something for, in order. -/
def requests (c : Component ρ) : List (Point ρ) :=
  c.constructorPoints ++ c.hierarchy.flatMap c.levelPoints

/-- `c.requirements` — the types of what an instance needs, in the order of the requests. -/
def requirements (c : Component ρ) : List TypeKey := c.requests.map (·.requires)

/-- The declared interceptors have no part in what is injected. -/
theorem requirements_declarations (c : Component ρ) (d : Option (Declarations ρ)) :
    { c with declarations := d }.requirements = c.requirements := rfl

end Component

namespace Definition

variable {host : Host} {P ℓ γ : Type} {L : Course host.World ℓ} {R : Course (P × host.World) γ}

/-- `Allows R L` — a move of the world without a gain in `L` is one without a gain in `R`. -/
def Allows (R : Course (P × host.World) γ) (L : Course host.World ℓ) : Prop :=
  ∀ (p : P) {w w' : host.World}, L.rel [] w w' → R.rel [] (p, w) (p, w')

theorem Allows.along {α : Type} (hallows : Allows R L) {x : Effect host.World α}
    (hx : L.Along [] x) : R.Along [] (Effect.onWorld x : Effect (P × host.World) α) :=
  .of_keeps fun s => hallows s.1 (hx.keeps s.2)

section

variable {K : R.Manner} {provide : Provider host P} {gain : Point host.Routine → List γ}
  (hq : host.QuietInWiring L) (hallows : Allows R L) (hprovide : ∀ p, K.Holds (gain p) (provide p))

include hprovide in
theorem holds_arguments (d : Definition host) (m : Member) :
    K.Holds ((d.component.parameterPoints m).flatMap gain) (d.arguments provide m) :=
  K.collect fun p _ => K.blaming (hprovide p) _

include hallows hprovide

theorem holds_produce (hq : host.Quiet L) (d : Definition host) (interceptors : host.LiveSet) :
    K.Holds (d.component.constructorPoints.flatMap gain) (d.produce interceptors provide) := by
  rw [produce, Component.constructorPoints]
  cases d.component.constructor with
  | none => exact K.of_along (Course.along_fail _)
  | some k =>
    refine K.before (holds_arguments hprovide d k.member) fun arguments => K.of_along ?_
    exact (hallows.along (along_construct hq d k interceptors arguments)).blaming _

include hq

/-- A field asks for its own point; a point of a parameter is none of a field's business. -/
theorem holds_injectField (d : Definition host) (receiver : host.Ref) (p : Point host.Routine) :
    K.Holds (([p].filter (·.field?.isSome)).flatMap gain) (d.injectField receiver provide p) := by
  rw [injectField]
  cases hf : p.field? with
  | none =>
    rw [List.filter_cons_of_neg (by rw [hf]; exact Bool.false_ne_true)]
    exact K.of_along (Course.along_pure ())
  | some field =>
    rw [List.filter_cons_of_pos (by rw [hf]; rfl), List.filter_nil, List.flatMap_singleton]
    refine K.before (K.blaming (hprovide p) _) fun value => K.of_along ?_
    exact (hallows.along (hq.assign field.routine receiver value)).blaming _

theorem holds_injectMethod (d : Definition host) (receiver : host.Ref)
    (m : Method host.Routine) :
    K.Holds ((d.component.parameterPoints m.member).flatMap gain)
      (d.injectMethod receiver provide m) := by
  refine K.before (holds_arguments hprovide d m.member) fun arguments => K.of_along ?_
  exact (hallows.along (hq.perform m.routine receiver arguments)).blaming _

theorem holds_injectLevel (d : Definition host) (receiver : host.Ref) (level : String) :
    K.Holds ((d.component.levelPoints level).flatMap gain)
      (d.injectLevel receiver provide level) := by
  have hfields : K.Holds (((d.component.pointsOf level).filter (·.field?.isSome)).flatMap gain)
      (Effect.each (d.injectField receiver provide) (d.component.pointsOf level)) := by
    have h := K.each fun p (_ : p ∈ d.component.pointsOf level) =>
      holds_injectField hq hallows hprovide d receiver p
    rwa [← List.flatMap_assoc, ← List.filter_flatMap, List.flatMap_singleton'] at h
  have hmethods := K.each fun m (_ : m ∈ d.component.injectedMethods level) =>
    holds_injectMethod hq hallows hprovide d receiver m
  have hinitializers : L.Along []
      (Effect.each (d.callInitializer receiver) (d.component.initializers level)) :=
    Course.along_each_nil fun m _ => (hq.perform m.routine receiver []).blaming _
  rw [Component.levelPoints, List.flatMap_append, List.flatMap_assoc]
  refine K.bind hfields fun _ => K.before hmethods fun _ => K.of_along ?_
  exact (hallows.along hinitializers).after fun _ =>
    hallows.along (along_supply hq d receiver)

theorem holds_inject (d : Definition host) (receiver : host.Ref) :
    K.Holds ((d.component.hierarchy.flatMap d.component.levelPoints).flatMap gain)
      (d.inject receiver provide) := by
  rw [List.flatMap_assoc]
  exact K.each fun level _ => holds_injectLevel hq hallows hprovide d receiver level

end

variable {provide : Provider host P} {gain : Point host.Routine → List γ}

theorem along_arguments (hprovide : ∀ p, R.Along (gain p) (provide p)) (d : Definition host)
    (m : Member) :
    R.Along ((d.component.parameterPoints m).flatMap gain) (d.arguments provide m) :=
  holds_arguments (K := R.along) hprovide d m

theorem along_produce (hallows : Allows R L) (hprovide : ∀ p, R.Along (gain p) (provide p))
    (hq : host.Quiet L) (d : Definition host) (interceptors : host.LiveSet) :
    R.Along (d.component.constructorPoints.flatMap gain) (d.produce interceptors provide) :=
  holds_produce (K := R.along) hallows hprovide hq d interceptors

theorem along_inject (hq : host.QuietInWiring L) (hallows : Allows R L)
    (hprovide : ∀ p, R.Along (gain p) (provide p)) (d : Definition host) (receiver : host.Ref) :
    R.Along ((d.component.hierarchy.flatMap d.component.levelPoints).flatMap gain)
      (d.inject receiver provide) :=
  holds_inject (K := R.along) hq hallows hprovide d receiver

end Definition

namespace Container

variable {host : Host} {ℓ γ : Type} {L : Course host.World ℓ}
  {R : Course (Container host × host.World) γ}

/-- What happens to a definition happens in its place: it keeps to every course that allows what has
    become of the definition there. -/
theorem along_onDefinition_of_rel {α : Type} {t : TypeKey}
    {x : Effect (Definition host × host.World) α} (hx : (Definition.course L).Along [] x)
    (hplace : ∀ {s d d' w}, s.1.catalog.byType? t = some d →
      (Definition.course L).rel [] (d, s.2) (d', w) →
      R.rel [] s ({ s.1 with catalog := s.1.catalog.updated t d' }, w)) :
    R.Along [] (onDefinition t x) := by
  refine .of_keeps fun s => ?_
  cases hd : s.1.catalog.byType? t with
  | none =>
    rw [onDefinition_of_none hd]
    exact R.stay s
  | some d =>
    rw [onDefinition_of_some hd]
    exact hplace hd (hx.keeps (d, s.2))

/-- An assembly asks for the requests of its component, in their order. -/
theorem holds_assemble {K : R.Manner} (hq : host.Quiet L) (hallows : Definition.Allows R L)
    (hdefinition : ∀ {α : Type} t (x : Effect (Definition host × host.World) α),
      (Definition.course L).Along [] x → R.Along [] (onDefinition t x))
    {provide : Provider host (Container host)} {gain : Point host.Routine → List γ}
    (hprovide : ∀ p, K.Holds (gain p) (provide p)) (d : Definition host) :
    K.Holds (d.component.requests.flatMap gain) (assemble d provide) := by
  rw [Component.requests, List.flatMap_append]
  refine K.after (K.of_along (hdefinition _ _ (Definition.along_interceptors hq)))
    fun interceptors => ?_
  refine K.bind (Definition.holds_produce hallows hprovide hq d interceptors) fun made => ?_
  refine K.before (Definition.holds_inject hq.toQuietInWiring hallows hprovide d made) fun _ => ?_
  refine K.of_along ((hdefinition _ _ (Definition.along_wrap made interceptors)).after
    fun reference => ?_)
  exact (hdefinition _ _ (Definition.along_runPhase hq .postConstruct reference)).after fun _ =>
    Course.along_pure reference

theorem along_assemble (hq : host.Quiet L) (hallows : Definition.Allows R L)
    (hdefinition : ∀ {α : Type} t (x : Effect (Definition host × host.World) α),
      (Definition.course L).Along [] x → R.Along [] (onDefinition t x))
    {provide : Provider host (Container host)} {gain : Point host.Routine → List γ}
    (hprovide : ∀ p, R.Along (gain p) (provide p)) (d : Definition host) :
    R.Along (d.component.requests.flatMap gain) (assemble d provide) :=
  holds_assemble (K := R.along) hq hallows hdefinition hprovide d

end Container

end Wiring
