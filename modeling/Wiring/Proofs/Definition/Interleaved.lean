/-
  Only the order within a level matters.

  Instances are made and wired by what a component reads as, level by level and member by member
  (`Component.ReadsAs`).  So two components that read as the same are made by the same effects
  (`produce_congr`, `inject_congr`); and drafts that differ in the interleaving of their levels alone
  are such components, if they are accepted at all.

  The effects are equal as functions, on every host and for every provider: a host that writes down
  each call, and a provider that writes down each request, see no difference.
-/
import Mathlib
import Wiring.Proofs.Component.Interleaved
import Wiring.Proofs.Host.Numbers

namespace Wiring

namespace Definition

variable {host : Host} {P : Type}

/-- `d.of c` — the definition `d` of another component `c`. -/
def of (d : Definition host) (c : Component host.Routine) : Definition host :=
  { d with component := c }

section

variable {d : Definition host} {c c' : Component host.Routine}

theorem blame_congr (h : c.ReadsAs c') {σ α : Type} :
    ((d.of c).blame : Site → Effect σ α → Effect σ α) = (d.of c').blame := by
  funext site x
  rw [blame, blame, name, name]
  exact congrArg (fun n => x.blaming (.instantiation n site)) h.name

theorem request_congr (h : c.ReadsAs c') (provide : Provider host P) :
    (d.of c).request provide = (d.of c').request provide :=
  funext fun point => by rw [request, request, blame_congr h]

theorem arguments_congr (h : c.ReadsAs c') (provide : Provider host P) (m : Member) :
    (d.of c).arguments provide m = (d.of c').arguments provide m := by
  rw [arguments, arguments, request_congr h provide]
  exact congrArg _ (h.parameterPoints m)

theorem construct_congr (h : c.ReadsAs c') (k : Constructor host.Routine) (live : host.LiveSet)
    (arguments : List host.Ref) :
    (d.of c).construct k live arguments = (d.of c').construct k live arguments := by
  have hchain : (d.of c).component.constructionChain k = (d.of c').component.constructionChain k :=
    h.constructionChain k
  have hconstructing : (d.of c).constructing k = (d.of c').constructing k := rfl
  rw [construct, construct, hchain, hconstructing]

theorem produce_congr (h : c.ReadsAs c') (live : host.LiveSet) (provide : Provider host P) :
    (d.of c).produce live provide = (d.of c').produce live provide := by
  have hconstructor : (d.of c).component.constructor = (d.of c').component.constructor :=
    h.constructor
  have hname : (d.of c).name = (d.of c').name := h.name
  rw [produce, produce, hconstructor, hname]
  cases (d.of c').component.constructor with
  | none => rfl
  | some k =>
    simp only [arguments_congr h, construct_congr h, blame_congr h]

theorem injectLevel_congr (h : c.ReadsAs c') (receiver : host.Ref) (provide : Provider host P)
    (level : String) :
    (d.of c).injectLevel receiver provide level = (d.of c').injectLevel receiver provide level := by
  have hfield : (d.of c).injectField receiver provide = (d.of c').injectField receiver provide :=
    funext fun point => by rw [injectField, injectField, request_congr h provide, blame_congr h]
  have hmethod : (d.of c).injectMethod receiver provide = (d.of c').injectMethod receiver provide :=
    funext fun m => by simp only [injectMethod, arguments_congr h, blame_congr h]
  have hinitializer : (d.of c).callInitializer receiver = (d.of c').callInitializer receiver :=
    funext fun m => by rw [callInitializer, callInitializer, blame_congr h]
  have hsupply : (d.of c).supply receiver = (d.of c').supply receiver := by
    rw [supply, supply, blame_congr h]
    rfl
  have hpoints : (d.of c).component.pointsOf level = (d.of c').component.pointsOf level :=
    h.pointsOf level
  have hmethods : (d.of c).component.injectedMethods level =
      (d.of c').component.injectedMethods level := h.injectedMethods level
  have hinitializers : (d.of c).component.initializers level =
      (d.of c').component.initializers level := h.initializers level
  rw [injectLevel, injectLevel, hfield, hmethod, hinitializer, hsupply, hpoints, hmethods,
    hinitializers]

theorem inject_congr (h : c.ReadsAs c') (receiver : host.Ref) (provide : Provider host P) :
    (d.of c).inject receiver provide = (d.of c').inject receiver provide := by
  have hlevels : (d.of c).injectLevel receiver provide = (d.of c').injectLevel receiver provide :=
    funext fun level => injectLevel_congr h receiver provide level
  rw [inject, inject, hlevels]
  exact congrArg _ h.hierarchy

end

/-- **Only the order within a level matters.**  Let two drafts differ in nothing but the way in which
    the members of different levels are interleaved.

    1. Both are accepted or neither is.
    2. If they are, the components that result have the same callbacks, in the same order, and the
       same constructor.
    3. Making an instance, and wiring it, is the same effect for both, whatever the rest of the
       definition, the provider, the receiver and the host: the same requests, the same calls with
       the same arguments, and the same outcome. -/
theorem interleaving_immaterial {host : Host} {d e : Draft host.Routine} (h : d.Interleaved e) :
    ((∃ c, d.build = .ok c) ↔ ∃ c, e.build = .ok c) ∧
    ∀ c c', d.build = .ok c → e.build = .ok c' →
      c.postConstruct = c'.postConstruct ∧ c.preDestroy = c'.preDestroy ∧
      c.constructor = c'.constructor ∧
      ∀ (f : Definition host) {P : Type} (provide : Provider host P),
        (∀ live, (f.of c).produce live provide = (f.of c').produce live provide) ∧
        ∀ receiver, (f.of c).inject receiver provide = (f.of c').inject receiver provide := by
  refine ⟨h.accepted_iff, fun c c' hd he => ?_⟩
  have hreads : c.ReadsAs c' := .of_interleaved h hd he
  obtain ⟨-, rfl⟩ := Draft.build_eq_ok_iff.1 hd
  obtain ⟨-, rfl⟩ := Draft.build_eq_ok_iff.1 he
  have hlevels : d.levels = e.levels := congrArg List.eraseDups h.hierarchy_eq
  refine ⟨?_, ?_, hreads.constructor, fun f {P} provide =>
    ⟨fun live => produce_congr hreads live provide,
      fun receiver => inject_congr hreads receiver provide⟩⟩
  · show Draft.byLevel d.levels d.postConstruct = Draft.byLevel e.levels e.postConstruct
    rw [hlevels, Draft.byLevel_eq e.levels h.postConstruct]
  · show Draft.byLevel d.levels.reverse d.preDestroy = Draft.byLevel e.levels.reverse e.preDestroy
    rw [hlevels, Draft.byLevel_eq e.levels.reverse h.preDestroy]

/-- A field of the component itself that was added before, or after, the first parameter of its
    ancestor's method: either way the method is called first, by routine 3, then the field is set, by
    routine 5. -/
theorem interleaving_immaterial_two_levels :
    let setUp : Method Nat := ⟨⟨⟨"Base", "setUp"⟩, 3⟩, 2, true⟩
    let first : Point Nat := ⟨.methodParameter setUp 0, ⟨1⟩, .plain⟩
    let second : Point Nat := ⟨.methodParameter setUp 1, ⟨2⟩, .plain⟩
    let field : Point Nat := ⟨.field ⟨⟨"Leaf", "field"⟩, 5⟩, ⟨4⟩, .plain⟩
    let opened : Operation Nat := ⟨⟨"Base", "open"⟩, 6⟩
    let ready : Operation Nat := ⟨⟨"Leaf", "ready"⟩, 7⟩
    let d : Draft Nat :=
      { type := ⟨8⟩, name := "Leaf", superclasses := ["Base"], points := [first, field, second]
        postConstruct := [ready, opened], defaultConstructor := some ⟨⟨⟨"Leaf", "new"⟩, 8⟩, 0⟩ }
    let e : Draft Nat :=
      { d with points := [field, first, second], postConstruct := [opened, ready] }
    d.Interleaved e ∧ ∃ c c', d.build = .ok c ∧ e.build = .ok c' ∧
      c.points.map (·.requires.number) = [1, 4, 2] ∧
      c'.points.map (·.requires.number) = [4, 1, 2] ∧
      c.postConstruct = c'.postConstruct ∧
      ∀ receiver : Host.numbers.Ref,
        (({ component := c } : Definition Host.numbers).inject receiver Provider.numbers
          ((), [])).2.2 = [3, 5] ∧
        (({ component := c' } : Definition Host.numbers).inject receiver Provider.numbers
          ((), [])).2.2 = [3, 5] := by
  intro setUp first second field opened ready d e
  have h : d.Interleaved e := by
    refine ⟨rfl, rfl, rfl, rfl, rfl, rfl, fun l => ?_, fun _ => rfl, ?_, fun _ => rfl⟩
    · exact (SameByLevel.swap [second] (by decide)) l
    · exact .swap [] (by decide)
  have hd : d.build = .ok d.component := Draft.build_eq_ok_iff.2 ⟨by cbv, rfl⟩
  have he : e.build = .ok e.component := Draft.build_eq_ok_iff.2 ⟨by cbv, rfl⟩
  obtain ⟨-, hsame⟩ := @interleaving_immaterial Host.numbers d e h
  obtain ⟨hcallbacks, -, -, heffects⟩ := hsame d.component e.component hd he
  have hrun : ∀ receiver : Host.numbers.Ref,
      (({ component := d.component } : Definition Host.numbers).inject receiver Provider.numbers
        ((), [])).2.2 = [3, 5] := fun receiver => by cbv
  refine ⟨h, _, _, hd, he, rfl, rfl, hcallbacks, fun receiver => ⟨hrun receiver, ?_⟩⟩
  have heffect := (heffects { component := e.component } Provider.numbers).2 receiver
  exact (congrArg (fun x => (x ((), [])).2.2) heffect).symm.trans (hrun receiver)

end Definition

end Wiring
