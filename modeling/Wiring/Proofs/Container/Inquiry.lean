/-
  What an assembly asks for, and whose failure its failure is.

  An assembly asks for the requests of its component, one after the other.  Whatever else fails on
  the way is a stumble of its definition: so if it fails, then either after some of its requests by
  its own fault, or because the next of them was refused (`asks_assemble`).

  This is said of any course on which only requests gain something, and of any failures `own` among
  which are the stumbles.
-/
import Wiring.Proofs.Container.Assembly
import Wiring.Proofs.Definition.Stumbling

namespace Wiring

namespace Definition

section

variable {host : Host} {P ℓ : Type} {L : Course host.World ℓ}
  {R : Course (P × host.World) (Point host.Routine)} {I : P × host.World → Prop}
  {own : Failure → P × host.World → Prop}
  {refused : Point host.Routine → Failure → P × host.World → P × host.World → Prop}
  {provide : Provider host P} {d : Definition host}

/-- `Bears L I` — what goes on in the world without a gain leaves the invariant `I` alone. -/
def Bears (L : Course host.World ℓ) (I : P × host.World → Prop) : Prop :=
  ∀ {p : P} {w w' : host.World}, L.rel [] w w' → I (p, w) → I (p, w')

section

variable (hallows : Allows R L) (hbears : Bears L I)
  (hown : ∀ {f : Failure} {s : P × host.World}, d.Stumbles f s.2 → own f s)

include hallows hbears hown

/-- A step in the world, which asks for nothing. -/
theorem asks_onWorld {α : Type} {x : Effect host.World α} (hx : L.Along [] x)
    (hfail : ∀ {w f w'}, x w = (.error f, w') → d.Stumbles f w') :
    R.Asks I own refused [] (Effect.onWorld x : Effect (P × host.World) α) := by
  refine .of_own (fun {s} hs => ⟨hbears (hx.keeps s.2) hs, hallows s.1 (hx.keeps s.2)⟩)
    fun {s f t} hs ht => hown ?_
  rw [Effect.onWorld_apply] at ht
  rcases hr : x s.2 with ⟨g | a, w⟩
  · rw [hr] at ht
    cases ht
    exact hfail hr
  · rw [hr] at ht
    cases ht

/-- Such a step at one site. -/
theorem asks_blame {α : Type} {x : Effect host.World α} (hx : L.Along [] x) {site : Site}
    (hfail : ∀ {w cause w'}, x w = (.error cause, w') →
      d.Stumbles (.instantiation d.name site cause) w') :
    R.Asks I own refused [] (d.blame site (Effect.onWorld x) : Effect (P × host.World) α) := by
  show R.Asks I own refused [] (Effect.onWorld (d.blame site x))
  refine asks_onWorld hallows hbears hown (hx.blaming _) fun h => ?_
  obtain ⟨cause, hcause, rfl⟩ := Effect.error_of_blaming h
  exact hfail hcause

end

variable (hrequest : ∀ p, R.Asks I own refused [p] (d.request provide p))

include hrequest

theorem asks_arguments (m : Member) :
    R.Asks I own refused (d.component.parameterPoints m) (d.arguments provide m) := by
  have h := Course.Asks.collect fun p (_ : p ∈ d.component.parameterPoints m) => hrequest p
  rwa [List.flatMap_singleton'] at h

variable (hallows : Allows R L) (hbears : Bears L I)
  (hown : ∀ {f : Failure} {s : P × host.World}, d.Stumbles f s.2 → own f s)

include hallows hbears hown

theorem asks_produce (hq : host.Quiet L) (live : host.LiveSet) :
    R.Asks I own refused d.component.constructorPoints (d.produce live provide) := by
  rw [produce, Component.constructorPoints]
  cases hk : d.component.constructor with
  | none => exact .fail fun s _ => hown (.missing hk)
  | some k =>
    refine (asks_arguments hrequest k.member).before fun arguments => ?_
    exact asks_blame hallows hbears hown (along_construct hq d k live arguments)
      fun h => .construction hk h

variable (hq : host.QuietInWiring L) (receiver : host.Ref)

include hq

/-- A field asks for its own point, and no other point has a field's business. -/
theorem asks_injectField {p : Point host.Routine} (hp : p ∈ d.component.points) :
    R.Asks I own refused ([p].filter (·.field?.isSome)) (d.injectField receiver provide p) := by
  rw [injectField]
  cases hfield : p.field? with
  | none =>
    rw [List.filter_cons_of_neg (by rw [hfield]; exact Bool.false_ne_true)]
    exact .pure ()
  | some field =>
    rw [List.filter_cons_of_pos (by rw [hfield]; rfl), List.filter_nil]
    refine (hrequest p).before fun value => ?_
    exact asks_blame hallows hbears hown (hq.assign field.routine receiver value)
      fun h => .field hp hfield h

theorem asks_injectMethod {level : String} (hlevel : level ∈ d.component.hierarchy)
    {m : Method host.Routine} (hm : m ∈ d.component.injectedMethods level) :
    R.Asks I own refused (d.component.parameterPoints m.member)
      (d.injectMethod receiver provide m) := by
  refine (asks_arguments hrequest m.member).before fun arguments => ?_
  exact asks_blame hallows hbears hown (hq.perform m.routine receiver arguments)
    fun h => .method hlevel hm h

omit hrequest in
/-- Initializers and the supply of resources ask for nothing. -/
theorem asks_initializers {level : String} (hlevel : level ∈ d.component.hierarchy) :
    R.Asks I own refused [] (Effect.onWorld (Effect.each (d.callInitializer receiver)
      (d.component.initializers level)) : Effect (P × host.World) Unit) := by
  refine asks_onWorld hallows hbears hown (Course.along_each_nil fun m _ =>
    (hq.perform m.routine receiver []).blaming _) fun h => ?_
  obtain ⟨m, hm, v, hfailed⟩ := Effect.error_of_each h
  obtain ⟨cause, hcause, rfl⟩ := Effect.error_of_blaming hfailed
  exact .initializer hlevel hm hcause

omit hrequest in
theorem asks_supply : R.Asks I own refused []
    (Effect.onWorld (d.supply receiver) : Effect (P × host.World) Unit) := by
  refine asks_onWorld hallows hbears hown (along_supply hq d receiver) fun {w f w'} h => ?_
  rw [supply] at h
  cases hsupplier : d.resources with
  | none =>
    rw [hsupplier] at h
    cases h
  | some supplier =>
    rw [hsupplier] at h
    obtain ⟨cause, hcause, rfl⟩ := Effect.error_of_blaming h
    exact .resources hsupplier hcause

theorem asks_injectLevel {level : String} (hlevel : level ∈ d.component.hierarchy) :
    R.Asks I own refused (d.component.levelPoints level)
      (d.injectLevel receiver provide level) := by
  have hfields : R.Asks I own refused ((d.component.pointsOf level).filter (·.field?.isSome))
      (Effect.each (d.injectField receiver provide) (d.component.pointsOf level)) := by
    have h := Course.Asks.each fun p (hp : p ∈ d.component.pointsOf level) =>
      asks_injectField hrequest hallows hbears hown hq receiver (List.mem_filter.1 hp).1
    rwa [← List.filter_flatMap, List.flatMap_singleton'] at h
  have hmethods := Course.Asks.each fun m (hm : m ∈ d.component.injectedMethods level) =>
    asks_injectMethod hrequest hallows hbears hown hq receiver hlevel hm
  rw [Component.levelPoints]
  refine hfields.bind fun _ => hmethods.before fun _ => ?_
  exact (asks_initializers hallows hbears hown hq receiver hlevel).after fun _ =>
    asks_supply hallows hbears hown hq receiver

theorem asks_inject : R.Asks I own refused
    (d.component.hierarchy.flatMap d.component.levelPoints) (d.inject receiver provide) :=
  Course.Asks.each fun _ hlevel =>
    asks_injectLevel hrequest hallows hbears hown hq receiver hlevel

end

end Definition

namespace Container

variable {host : Host} {ℓ : Type} {L : Course host.World ℓ}
  {R : Course (Container host × host.World) (Point host.Routine)}
  {I : Container host × host.World → Prop} {own : Failure → Container host × host.World → Prop}
  {refused : Point host.Routine → Failure → Container host × host.World →
    Container host × host.World → Prop}
  {provide : Provider host (Container host)} {d : Definition host}

/-- An assembly asks for the requests of its component, in their order. -/
theorem asks_assemble (hq : host.Quiet L) (hallows : Definition.Allows R L)
    (hbears : Definition.Bears L I)
    (hown : ∀ {f : Failure} {s : Container host × host.World}, d.Stumbles f s.2 → own f s)
    (hdefinition : ∀ {α : Type} (x : Effect (Definition host × host.World) α),
      (Definition.course L).Along [] x →
      (∀ {d' w f d'' w'}, x (d', w) = (.error f, d'', w') → d'.Stumbles f w') →
      R.Asks I own refused [] (onDefinition d.component.type x))
    (hrequest : ∀ p, R.Asks I own refused [p] (d.request provide p)) :
    R.Asks I own refused d.component.requests (assemble d provide) := by
  rw [Component.requests]
  refine (hdefinition _ (Definition.along_interceptors hq) Definition.interceptors_error).after
    fun live => ?_
  refine (Definition.asks_produce hrequest hallows hbears hown hq live).bind fun made => ?_
  refine (Definition.asks_inject hrequest hallows hbears hown hq.toQuietInWiring made).before
    fun _ => ?_
  refine (hdefinition _ (Definition.along_wrap made live) Definition.wrap_error).after
    fun reference => ?_
  exact (hdefinition _ (Definition.along_runPhase hq .postConstruct reference)
    Definition.postConstruct_error).after fun _ => .pure reference

end Container

end Wiring
