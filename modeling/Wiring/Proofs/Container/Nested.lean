/-
  What a creation makes of the creations that are nested in it.

  1. Instances are made and wired in the same way if the providers agree (`agree_produce`,
     `agree_inject`).
  2. `Tidy c₀ chain` is the INVARIANT of the creations in progress: the types under construction are
     those on `chain`, innermost first, and each has its frame.  The steps of an assembly keep it.
  3. `SameAmid c₀ chain make make'` — amid `chain`, the two makers agree on whatever is registered.
     The crux is one level (`agree_createBy`): a type on the chain is refused before anything nested is
     asked for, so the makers nested in a creation matter only for types that lengthen the chain.
-/
import Wiring.Proofs.Container.Verdict
import Wiring.Proofs.Effect.Agree

namespace Wiring

namespace Definition

variable {host : Host} {P : Type} {J : P → Prop} {provide provide' : Provider host P}
  {d : Definition host}

section

variable (h : ∀ p, Effect.Agree (fun s : P × host.World => J s.1) (provide p) (provide' p))

include h

theorem agree_request (p : Point host.Routine) :
    Effect.Agree (fun s => J s.1) (d.request provide p) (d.request provide' p) :=
  (h p).blaming _

theorem agree_arguments (m : Member) :
    Effect.Agree (fun s => J s.1) (d.arguments provide m) (d.arguments provide' m) :=
  .collect fun p _ => agree_request h p

theorem agree_produce (interceptors : host.LiveSet) :
    Effect.Agree (fun s => J s.1) (d.produce interceptors provide)
      (d.produce interceptors provide') := by
  rw [produce, produce]
  cases d.component.constructor with
  | none => exact .fail _
  | some k => exact (agree_arguments h k.member).bind fun _ => (Effect.Agree.onWorld _).blaming _

theorem agree_injectField (receiver : host.Ref) (p : Point host.Routine) :
    Effect.Agree (fun s => J s.1) (d.injectField receiver provide p)
      (d.injectField receiver provide' p) := by
  rw [injectField, injectField]
  cases p.field? with
  | none => exact .pure ()
  | some field => exact (agree_request h p).bind fun _ => (Effect.Agree.onWorld _).blaming _

theorem agree_injectMethod (receiver : host.Ref) (m : Method host.Routine) :
    Effect.Agree (fun s => J s.1) (d.injectMethod receiver provide m)
      (d.injectMethod receiver provide' m) :=
  (agree_arguments h m.member).bind fun _ => (Effect.Agree.onWorld _).blaming _

theorem agree_injectLevel (receiver : host.Ref) (level : String) :
    Effect.Agree (fun s => J s.1) (d.injectLevel receiver provide level)
      (d.injectLevel receiver provide' level) :=
  (Effect.Agree.each fun p _ => agree_injectField h receiver p).bind fun _ =>
    (Effect.Agree.each fun m _ => agree_injectMethod h receiver m).bind fun _ =>
      (Effect.Agree.onWorld _).bind fun _ => .onWorld _

theorem agree_inject (receiver : host.Ref) :
    Effect.Agree (fun s => J s.1) (d.inject receiver provide) (d.inject receiver provide') :=
  .each fun level _ => agree_injectLevel h receiver level

end

end Definition

namespace Container

variable {host : Host} {c₀ : Catalog host} {chain : List TypeKey} {t : TypeKey}
  {c : Container host} {d : Definition host}

/-! ## Creations in progress -/

/-- `Tidy c₀ chain c` — exactly the types on `chain` are under construction, innermost first, each
    with its frame, and the definitions have come from those of `c₀`. -/
structure Tidy (c₀ : Catalog host) (chain : List TypeKey) (c : Container host) : Prop
    extends Amid c₀ chain c where
  frames : c.frames.length = chain.length

namespace Tidy

theorem undisturbed {c' : Container host} (h : Tidy c₀ chain c) (hc : Undisturbed c c') :
    Tidy c₀ chain c' :=
  ⟨h.toAmid.undisturbed hc, by rw [hc.frames, h.frames]⟩

theorem begun (h : Tidy c₀ chain c) (t : TypeKey) : Tidy c₀ (t :: chain) (c.begun t) :=
  ⟨h.toAmid.begun t, congrArg (· + 1) h.frames⟩

theorem ended (h : Tidy c₀ (t :: chain) c) : Tidy c₀ chain (c.ended t).2 :=
  ⟨h.toAmid.ended, by
    show c.frames.tail.length = chain.length
    rw [List.length_tail, h.frames, List.length_cons, Nat.add_sub_cancel]⟩

theorem credited (h : Tidy c₀ chain c) (made : Handle) : Tidy c₀ chain (c.credited made) := by
  refine ⟨h.toAmid.credited made, ?_⟩
  rw [Container.credited, ← h.frames]
  split
  · rfl
  · next hframes => rw [hframes]; rfl

/-- Storing an instance is none of the business of those in progress. -/
theorem kept {s : Container host × host.World} (h : Tidy c₀ chain s.1)
    (e : Stored host.toVocabulary) : Tidy c₀ chain (keep e s).2.1 :=
  h.undisturbed ⟨rfl, rfl, rfl, Catalog.Follows.refl _⟩

end Tidy

/-! ## Steps of an assembly -/

/-- Definitions only become later ones, on every host. -/
theorem undisturbed_onDefinition {α : Type} (t : TypeKey)
    {x : Effect (Definition host × host.World) α}
    (hx : (Definition.course (Course.free : Course host.World Empty)).Along [] x)
    (s : Container host × host.World) : Undisturbed s.1 (onDefinition t x s).2.1 := by
  cases hd : s.1.catalog.byType? t with
  | none =>
    rw [onDefinition_of_none hd]
    exact Undisturbed.refl s.1
  | some d =>
    obtain ⟨-, hlater, -⟩ := hx.keeps (d, s.2) d.scheme.quiet_free
    rw [onDefinition_of_some hd]
    exact ⟨rfl, rfl, rfl, Catalog.follows_updated hd hlater⟩

theorem agree_onDefinition {α : Type} (t : TypeKey) {x : Effect (Definition host × host.World) α}
    (hx : (Definition.course (Course.free : Course host.World Empty)).Along [] x) :
    Effect.Agree (fun s => Tidy c₀ chain s.1) (onDefinition t x) (onDefinition t x) :=
  .of_keeps fun s hs => hs.undisturbed (undisturbed_onDefinition t hx s)

theorem agree_assemble {provide provide' : Provider host (Container host)}
    (h : ∀ p, Effect.Agree (fun s => Tidy c₀ chain s.1) (provide p) (provide' p)) :
    Effect.Agree (fun s => Tidy c₀ chain s.1) (assemble d provide) (assemble d provide') :=
  (agree_onDefinition _ (Definition.along_interceptors host.quiet_free)).bind fun interceptors =>
    (Definition.agree_produce h interceptors).bind fun made =>
      (Definition.agree_inject h made).bind fun _ =>
        (agree_onDefinition _ (Definition.along_wrap made interceptors)).bind fun reference =>
          (agree_onDefinition _ (Definition.along_runPhase host.quiet_free .postConstruct
            reference)).bind fun _ => .pure reference

/-! ## One level -/

/-- `Maker host` — a way to make stored instances of definitions. -/
abbrev Maker (host : Host) : Type := Definition host → Act host (Handle × host.Ref)

/-- `SameAmid c₀ chain make make'` — amid `chain`, `make` and `make'` agree on whatever is
    registered. -/
def SameAmid (c₀ : Catalog host) (chain : List TypeKey) (make make' : Maker host) : Prop :=
  ∀ d, c₀.hasType d.component.type →
    Effect.Agree (fun s => Tidy c₀ chain s.1) (make d) (make' d)

variable {nested nested' : Maker host}

/-- Whatever is found in the catalog of the moment was registered from the start. -/
theorem agree_supplying (hsound : c₀.Sound fun _ => True) (h : SameAmid c₀ chain nested nested')
    (p : Point host.Routine) :
    Effect.Agree (fun s => Tidy c₀ chain s.1) (supplying nested p) (supplying nested' p) := by
  refine .read fun s hs => ?_
  dsimp only
  cases hd : s.1.catalog.byType? p.requires with
  | none => exact .fail _
  | some d =>
    obtain ⟨d₀, hd₀, hlater⟩ := hs.catalog.earlier hd
    have htype : d.component.type = p.requires := hlater.type_eq.trans (hsound _ _ hd₀).1
    have hregistered : c₀.hasType d.component.type = true := by
      rw [htype]
      exact Option.isSome_iff_exists.2 ⟨d₀, hd₀⟩
    refine (h d hregistered).bind fun made => Effect.Agree.bind ?_ fun _ => .pure made.2
    exact .of_keeps fun s hs => hs.credited made.1

/-- **One level.**  What is nested matters only if the type is not on the chain, and then it is. -/
theorem agree_createBy (hsound : c₀.Sound fun _ => True) (h : d.component.type ∉ chain →
      SameAmid c₀ (d.component.type :: chain) nested nested') :
    Effect.Agree (fun s => Tidy c₀ chain s.1) (createBy nested d) (createBy nested' d) := by
  intro s hs
  by_cases hchain : d.component.type ∈ chain
  · have hcycle : d.component.type ∈ s.1.underConstruction := hs.underConstruction ▸ hchain
    rw [createBy_of_cycle hcycle, createBy_of_cycle hcycle]
    exact ⟨rfl, hs⟩
  · have hfree : d.component.type ∉ s.1.underConstruction := hs.underConstruction ▸ hchain
    obtain ⟨hsame, htidy⟩ := agree_assemble (d := d) (agree_supplying hsound (h hchain))
      (s.1.begun d.component.type, s.1.listener.begun d.component.type s.2) (hs.begun _)
    rcases hr : assemble d (supplying nested) (s.1.begun d.component.type,
        s.1.listener.begun d.component.type s.2) with ⟨f | reference, c, w⟩
    · rw [hr] at hsame htidy
      rw [createBy_of_error hfree hr, createBy_of_error hfree hsame.symm]
      exact ⟨rfl, htidy.ended.undisturbed (undisturbed_destroyAll (c.ended d.component.type).1
        ((c.ended d.component.type).2, w))⟩
    · rw [hr] at hsame htidy
      rw [createBy_of_ok hfree hr, createBy_of_ok hfree hsame.symm]
      exact ⟨rfl, Tidy.kept (s := ((c.ended d.component.type).2, w)) htidy.ended _⟩

end Container

end Wiring
