/-
  The failure of a creation names the path to the component that failed.

  1. `c.Fails w above path t f` — how the failure `f` of creating an instance of type `t` comes about:
     on each component of `path` but the last, the next one was requested, and the failure is that of
     the request, wrapped with the component and the member that it was for; inside is what went wrong
     with the type at the end, unchanged.
  2. The journal tells the path.  Up to the first failure it leaves exactly the creations on the path
     in progress; what is written afterwards is the undoing, in which no creation begins or ends
     (`Collapses`).
  3. `Explains l c₀ above make` — amid `above`, `make` credits the creation around it with one new
     instance, or collapses.  This is shown level by level (`explains_createBy`): a creation fails for a
     reason of its own or for the failure of one request, and then what was made for it is destroyed,
     which changes neither the path nor the failure.
-/
import Mathlib
import Wiring.Proofs.Container.Inquiry
import Wiring.Proofs.Container.Provenance
import Wiring.Proofs.Container.Verdict
import Wiring.Proofs.Container.Walk
import Wiring.Proofs.Host.Numbers
import Wiring.Proofs.Journal.Making

namespace Wiring

/-- `c.Fails w above path t f` — while the types `above` are under construction, innermost first,
    creating an instance of type `t` fails with `f`.  The creations that have begun for it are those of
    `path`, outermost first, each with what was made for it; if the last of them fails by itself, it
    leaves the world `w`. -/
inductive Catalog.Fails {host : Host} (c : Catalog host) (w : host.World) : List TypeKey →
    List (TypeKey × List Handle) → TypeKey → Failure → Prop where
  /-- Nothing is registered for the type that is required. -/
  | unknown {above t} (hnone : c.byType? t = none) :
    Fails c w above [] t (.unknownComponent (.required t))
  /-- The type is under construction already. -/
  | cycle {above t d} (hd : c.byType? t = some d) (hcycle : t ∈ above) :
    Fails c w above [] t (.dependencyCycle d.name)
  /-- The creation has begun, and fails by itself. -/
  | own {above t d made f} (hd : c.byType? t = some d) (hfree : t ∉ above) (h : d.Stumbles f w) :
    Fails c w above [(t, made)] t f
  /-- The creation has begun, and one of its requests fails: the one that follows those for which
      `made` have been made. -/
  | request {above t d made p path f} (hd : c.byType? t = some d) (hfree : t ∉ above)
    (hp : d.component.requests[made.length]? = some p)
    (h : Fails c w (t :: above) path p.requires f) :
    Fails c w above ((t, made) :: path) t (.instantiation d.name (.member p.member) f)

/-- What is unknown now was unknown before. -/
theorem Catalog.Follows.unknown {host : Host} {c c' : Catalog host} (h : c.Follows c') {t : TypeKey}
    (ht : c'.byType? t = none) : c.byType? t = none := by
  cases hd : c.byType? t with
  | none => rfl
  | some d =>
    obtain ⟨d', hd', -⟩ := h.later hd
    rw [ht] at hd'
    cases hd'

namespace Container

variable {host : Host} {l : Listener host} {c₀ : Catalog host.journaled} {above : List TypeKey}
  {s t v : Container host.journaled × host.journaled.World} {f : Failure}

/-- `Collapses c above t f s v` — from `s` to `v`, a creation of type `t` fails with `f`: up to the
    first failure the journal leaves in progress what is on the path of `f`, and from then on it tells
    of no creation. -/
def Collapses (c : Catalog host.journaled) (above : List TypeKey) (t : TypeKey) (f : Failure)
    (s v : Container host.journaled × host.journaled.World) : Prop :=
  ∃ (path : List (TypeKey × List Handle)) (seg undo : Journal host.toVocabulary)
    (w : host.journaled.World), v.2.2 = s.2.2 ++ seg ++ undo ∧ w.2 = s.2.2 ++ seg ∧
    Journal.Leaves path seg ∧ undo.filterMap Event.making? = [] ∧ c.Fails w above path t f

/-- What is refused at once has no path. -/
theorem Collapses.at_once {u : TypeKey} (h : c₀.Fails s.2 above [] u f) :
    Collapses c₀ above u f s s := by
  have hlog : s.2.2 = s.2.2 ++ [] := (List.append_nil _).symm
  exact ⟨[], [], [], s.2, hlog.trans (List.append_nil _).symm, hlog, fun _ => rfl, rfl, h⟩

/-- Undoing may go on. -/
theorem Collapses.undo {u : TypeKey} (h : Collapses c₀ above u f s t)
    (hundo : (Journal.course (Event.making? : Event host.toVocabulary → _)).rel [] t.2 v.2) :
    Collapses c₀ above u f s v := by
  obtain ⟨path, seg, undo, w, hlog, hw, hleaves, hnone, hfails⟩ := h
  obtain ⟨more, hmore, hmoreNone⟩ := hundo
  refine ⟨path, seg, undo ++ more, w, ?_, hw, hleaves, ?_, hfails⟩
  · rw [hmore, hlog, List.append_assoc _ undo more]
  · rw [List.filterMap_append, hnone, hmoreNone, List.append_nil]

/-! ## One creation -/

/-- `Underway l c₀ above c` — amid `above`, with a listener that writes down what it is told. -/
structure Underway (l : Listener host) (c₀ : Catalog host.journaled) (above : List TypeKey)
    (c : Container host.journaled) : Prop extends Amid c₀ above c where
  listener : c.listener = l.journaled

namespace Underway

variable {c : Container host.journaled}

theorem credited (h : Underway l c₀ above c) (k : Handle) : Underway l c₀ above (c.credited k) := by
  refine ⟨h.toAmid.credited k, ?_⟩
  rw [Container.credited]
  split <;> exact h.listener

theorem begun (h : Underway l c₀ above c) (u : TypeKey) : Underway l c₀ (u :: above) (c.begun u) :=
  ⟨h.toAmid.begun u, h.listener⟩

theorem ended {u : TypeKey} (h : Underway l c₀ (u :: above) c) : Underway l c₀ above (c.ended u).2 :=
  ⟨h.toAmid.ended, h.listener⟩

end Underway

theorem log_begun (hs : s.1.listener = l.journaled) (u : TypeKey) :
    (s.1.listener.begun u s.2).2 = s.2.2 ++ [.begun u] := by
  rw [hs]
  rfl

/-- `answering` — the journal credits the innermost creation with one new instance for each request. -/
def answering : Course (Container host.journaled × host.journaled.World)
    (Point host.journaled.Routine) where
  rel points s t := ∃ (made : List Handle) (seg : Journal host.toVocabulary),
    made.length = points.length ∧ t.2.2 = s.2.2 ++ seg ∧ Journal.Credits made seg
  stay s := ⟨[], [], rfl, (List.append_nil _).symm, Journal.credits_nil rfl⟩
  append := by
    rintro points points' s t u ⟨made, seg, hlength, hlog, hcredits⟩
      ⟨made', seg', hlength', hlog', hcredits'⟩
    refine ⟨made ++ made', seg ++ seg', ?_, ?_, hcredits.append hcredits'⟩
    · rw [List.length_append, List.length_append, hlength, hlength']
    · rw [hlog', hlog, List.append_assoc]

/-- Moves without a beginning and without a new instance answer nothing. -/
theorem answering_nil (h : (Journal.course (Event.making? : Event host.toVocabulary → _)).rel []
    s.2 t.2) : answering.rel [] s t := by
  obtain ⟨seg, hlog, hnone⟩ := h
  exact ⟨[], seg, rfl, hlog, Journal.credits_nil hnone⟩

/-- `Explained l c₀ above u s x` — amid `above`, what `x` does in the state `s` credits the innermost
    creation with one new instance, or it is a collapse of a creation of type `u`. -/
structure Explained {α : Type} (l : Listener host) (c₀ : Catalog host.journaled)
    (above : List TypeKey) (u : TypeKey) (s : Container host.journaled × host.journaled.World)
    (x : Act host.journaled α) : Prop where
  ok : ∀ {a v}, x s = (.ok a, v) → Underway l c₀ above v.1 ∧
    ∃ k seg, v.2.2 = s.2.2 ++ seg ∧ Journal.Credits [k] seg
  error : ∀ {f v}, x s = (.error f, v) → Underway l c₀ above v.1 ∧ Collapses c₀ above u f s v

/-- Every outcome of `x` is explained if the one that it has is. -/
theorem Explained.of_error {α : Type} {x : Act host.journaled α} {u : TypeKey}
    (hx : x s = (.error f, v)) (hv : Underway l c₀ above v.1) (h : Collapses c₀ above u f s v) :
    Explained l c₀ above u s x := by
  refine ⟨fun h' => ?_, fun h' => ?_⟩
  · rw [hx] at h'
    cases h'
  · rw [hx] at h'
    cases h'
    exact ⟨hv, h⟩

theorem Explained.of_ok {α : Type} {x : Act host.journaled α} {u : TypeKey} {a : α}
    (hx : x s = (.ok a, v)) (hv : Underway l c₀ above v.1)
    (h : ∃ k seg, v.2.2 = s.2.2 ++ seg ∧ Journal.Credits [k] seg) : Explained l c₀ above u s x := by
  refine ⟨fun h' => ?_, fun h' => ?_⟩
  · rw [hx] at h'
    cases h'
    exact ⟨hv, h⟩
  · rw [hx] at h'
    cases h'

/-- `Explains l c₀ above make` — amid `above`, whatever `make` creates is explained. -/
def Explains (l : Listener host) (c₀ : Catalog host.journaled) (above : List TypeKey)
    (make : Definition host.journaled → Act host.journaled (Handle × host.journaled.Ref)) : Prop :=
  ∀ {u d₀ d s}, c₀.byType? u = some d₀ → Definition.Later d₀ d → Underway l c₀ above s.1 →
    Explained l c₀ above u s (make d)

section

variable {d₀ d : Definition host.journaled} {u : TypeKey}
  {nested : Definition host.journaled → Act host.journaled (Handle × host.journaled.Ref)}

/-! ### Requests -/

/-- A dependency is unknown, or it is created by what is known. -/
theorem explained_supplying (hnested : Explains l c₀ above nested)
    (p : Point host.journaled.Routine) (hs : Underway l c₀ above s.1) :
    Explained l c₀ above p.requires s (supplying nested p) := by
  cases hd : s.1.catalog.byType? p.requires with
  | none =>
    have hunknown : supplying nested p s = (.error (.unknownComponent (.required p.requires)), s) := by
      rw [supplying_apply, hd]
    exact .of_error hunknown hs (.at_once (.unknown (hs.catalog.unknown hd)))
  | some d' =>
    obtain ⟨d₁, hd₁, hlater⟩ := hs.catalog.earlier hd
    have hmade := hnested hd₁ hlater hs
    rcases hr : nested d' s with ⟨g | ⟨k, reference⟩, v⟩
    · have hfailed : supplying nested p s = (.error g, v) := by
        rw [supplying_apply, hd]
        dsimp only
        rw [hr]
      obtain ⟨hv, hcollapses⟩ := hmade.error hr
      exact .of_error hfailed hv hcollapses
    · have hsupplied : supplying nested p s = (.ok reference, v.1.credited k, v.2) := by
        rw [supplying_apply, hd]
        dsimp only
        rw [hr]
      obtain ⟨hv, hcredits⟩ := hmade.ok hr
      exact .of_ok hsupplied (hv.credited k) hcredits

/-- `Refused d c₀ above p f s v` — the request `p` of `d` collapses, and is blamed on its member. -/
def Refused (d : Definition host.journaled) (c₀ : Catalog host.journaled) (above : List TypeKey)
    (p : Point host.journaled.Routine) (f : Failure)
    (s v : Container host.journaled × host.journaled.World) : Prop :=
  ∃ cause, f = .instantiation d.name (.member p.member) cause ∧
    Collapses c₀ above p.requires cause s v

/-- A request is answered, or it is refused. -/
theorem asks_request {own : Failure → Container host.journaled × host.journaled.World → Prop}
    (hnested : Explains l c₀ above nested) (p : Point host.journaled.Routine) :
    answering.Asks (fun s => Underway l c₀ above s.1) own (Refused d c₀ above) [p]
      (d.request (supplying nested) p) where
  ok {s reference t} hs h := by
    have hsupplied : supplying nested p s = (.ok reference, t) := Effect.ok_of_blaming h
    obtain ⟨ht, k, seg, hlog, hcredits⟩ := (explained_supplying hnested p hs).ok hsupplied
    exact ⟨ht, [k], seg, rfl, hlog, hcredits⟩
  error {s f t} hs h := by
    obtain ⟨cause, hcause, rfl⟩ := Effect.error_of_blaming h
    obtain ⟨ht, hcollapses⟩ := (explained_supplying hnested p hs).error hcause
    exact ⟨ht, .refused (l := []) List.prefix_rfl (answering.stay s) ⟨cause, rfl, hcollapses⟩⟩

/-! ### Assembling -/

variable (hmodest : c₀.Sound (·.scheme.Modest))

include hmodest

theorem Underway.minded {c : Container host.journaled} (h : Underway l c₀ above c) : Minded l c where
  modest := h.catalog.sound Definition.Later.modest hmodest
  listener := h.listener

/-- What happens to a definition in its place asks for nothing, and what fails there is its stumble. -/
theorem asks_onDefinition {refused : Point host.journaled.Routine → Failure → _ → _ → Prop}
    (hd₀ : c₀.byType? u = some d₀) {α : Type}
    {x : Effect (Definition host.journaled × host.journaled.World) α}
    (hx : (Definition.course (Journal.course Event.making?)).Along [] x)
    (hfail : ∀ {d' w f d'' w'}, x (d', w) = (.error f, d'', w') → d'.Stumbles f w') :
    answering.Asks (fun s => Underway l c₀ above s.1) (fun f s => d₀.Stumbles f s.2) refused []
      (onDefinition u x) := by
  refine .of_own (fun {s} hs => ?_) fun {s f t} hs ht => ?_
  all_goals obtain ⟨d', hd', hlater⟩ := hs.catalog.later hd₀
  · obtain ⟨-, hlater', hlog⟩ := hx.keeps (d', s.2)
      (((hs.minded hmodest).modest u d' hd').2.quiet fun _ _ => rfl)
    rw [onDefinition_of_some hd']
    exact ⟨⟨⟨hs.catalog.updated hd₀ (hlater.trans hlater'), hs.underConstruction⟩, hs.listener⟩,
      answering_nil hlog⟩
  · rw [onDefinition_of_some hd'] at ht
    rcases hr : x (d', s.2) with ⟨g | a, d'', w⟩
    · rw [hr] at ht
      cases ht
      exact hlater.stumbles (hfail hr)
    · rw [hr] at ht
      cases ht

/-- An assembly that fails has a fault: a stumble of its definition, or a request. -/
theorem asks_assemble_nested (hnested : Explains l c₀ above nested)
    (hd₀ : c₀.byType? d.component.type = some d₀) (hlater : Definition.Later d₀ d) :
    answering.Asks (fun s => Underway l c₀ above s.1) (fun f s => d₀.Stumbles f s.2)
      (Refused d c₀ above) d.component.requests (assemble d (supplying nested)) :=
  asks_assemble (host.quiet_journaled Event.ofStore_making?)
    (fun c w w' h => answering_nil (s := (c, w)) (t := (c, w')) h) (fun {_ _ _} _ hs => hs)
    (fun h => hlater.stumbles h)
    (fun _ hx hfail => asks_onDefinition hmodest hd₀ hx hfail)
    (fun p => asks_request hnested p)

omit hmodest in
/-- The fault of an assembly is the collapse of the creation that it belongs to. -/
theorem collapses_of_fault (hd₀ : c₀.byType? u = some d₀) (hlater : Definition.Later d₀ d)
    (hfree : u ∉ above) (hbegun : t.2.2 = s.2.2 ++ [.begun u])
    (hfault : answering.Fault (fun f s => d₀.Stumbles f s.2) (Refused d c₀ (u :: above))
      d.component.requests t f v) : Collapses c₀ above u f s v := by
  have hsplit : ∀ (log seg : Journal host.toVocabulary),
      log ++ [.begun u] ++ seg = log ++ (.begun u :: seg) := fun log seg => by
    rw [List.append_assoc, List.singleton_append]
  cases hfault with
  | own hl hgain hstumbles =>
    obtain ⟨made, seg, -, hlog, hcredits⟩ := hgain
    rw [hbegun, hsplit] at hlog
    exact ⟨[(u, made)], .begun u :: seg, [], v.2, by rw [List.append_nil, hlog], hlog,
      hcredits.leaves u, rfl, .own hd₀ hfree hstumbles⟩
  | @refused points p x hl hgain hrefused =>
    obtain ⟨made, seg, hlength, hlog, hcredits⟩ := hgain
    obtain ⟨cause, rfl, path, seg', undo, w, hlog', hw, hleaves, hnone, hfails⟩ := hrefused
    -- as many instances have been made as there are points in front of the one that was refused
    have hp : d₀.component.requests[made.length]? = some p := by
      have hrequests : d₀.component.requests = d.component.requests := by
        rw [hlater.component_eq]
        rfl
      obtain ⟨behind, hbehind⟩ := hl
      rw [hrequests, hlength, ← hbehind, List.append_assoc,
        List.getElem?_append_right (Nat.le_refl _), Nat.sub_self]
      rfl
    rw [hbegun, hsplit] at hlog
    rw [hlog, List.append_assoc s.2.2] at hlog' hw
    exact ⟨(u, made) :: path, .begun u :: seg ++ seg', undo, w, hlog', hw,
      hcredits.leaves_append u hleaves, hnone, hlater.name_eq ▸ .request hd₀ hfree hp hfails⟩

/-! ### Creating -/

/-- What was made for an assembly that failed is destroyed, with the failure at hand. -/
theorem collapses_of_error (hd₀ : c₀.byType? d.component.type = some d₀)
    (hlater : Definition.Later d₀ d) (hfree : d.component.type ∉ above)
    (hbegun : t.2.2 = s.2.2 ++ [.begun d.component.type])
    (hv : Underway l c₀ (d.component.type :: above) v.1)
    (hfault : answering.Fault (fun f s => d₀.Stumbles f s.2)
      (Refused d c₀ (d.component.type :: above)) d.component.requests t f v) :
    let left := destroyAll (v.1.ended d.component.type).1 ((v.1.ended d.component.type).2, v.2)
    Underway l c₀ above left.2.1 ∧ Collapses c₀ above d.component.type f s left.2 := by
  have hended : Underway l c₀ above (v.1.ended d.component.type).2 := hv.ended
  have hundisturbed := undisturbed_destroyAll (v.1.ended d.component.type).1
    ((v.1.ended d.component.type).2, v.2)
  have hcollapses : Collapses c₀ above d.component.type f s v :=
    collapses_of_fault hd₀ hlater hfree hbegun hfault
  refine ⟨⟨hended.toAmid.undisturbed hundisturbed,
    hundisturbed.listener.trans hended.listener⟩, hcollapses.undo ?_⟩
  refine Still.destroyAll (host.quiet_journaled Event.ofStore_making?) _ _ ?_
  exact (hended.minded hmodest).still (fun _ _ => rfl) (fun _ _ => rfl) fun _ _ _ => rfl

omit hmodest in
/-- What was assembled is stored, and credited to the creation around it. -/
theorem credits_of_ok (hbegun : t.2.2 = s.2.2 ++ [.begun u]) (hv : Underway l c₀ (u :: above) v.1)
    {points : List (Point host.journaled.Routine)} (hgain : answering.rel points t v)
    (e : Stored host.journaled.toVocabulary) :
    let stored := Container.keep e ((v.1.ended u).2, v.2)
    Underway l c₀ above stored.2.1 ∧
      ∃ k seg, stored.2.2.2 = s.2.2 ++ seg ∧ Journal.Credits [k] seg := by
  obtain ⟨made, seg, -, hlog, hcredits⟩ := hgain
  have hended : Underway l c₀ above (v.1.ended u).2 := hv.ended
  have hwhole : ∀ (log : Journal host.toVocabulary) (first last : Event host.toVocabulary),
      log ++ [first] ++ seg ++ [last] = log ++ (first :: seg ++ [last]) := by simp
  refine ⟨⟨⟨hended.catalog, hended.underConstruction⟩, hended.listener⟩, _, _, ?_,
    hcredits.stored u (v.1.ended u).2.store.upcoming e⟩
  refine (log_keep (s := ((v.1.ended u).2, v.2)) hended.listener e).trans ?_
  show v.2.2 ++ _ = _
  rw [hlog, hbegun]
  exact hwhole ..

/-- One level: the type is refused, or it is under construction while its requests are made. -/
theorem explains_createBy
    (hnested : ∀ u, (c₀.byType? u).isSome → u ∉ above → Explains l c₀ (u :: above) nested) :
    Explains l c₀ above (createBy nested) := by
  intro u d₀ d s hd₀ hlater hs
  obtain rfl : d.component.type = u := hlater.type_eq.trans (hmodest u d₀ hd₀).1
  by_cases hcycle : d.component.type ∈ s.1.underConstruction
  · -- the type is under construction already, and is reported by its name
    have hrefused : createBy nested d s = (.error (.dependencyCycle d.name), s) :=
      createBy_of_cycle hcycle
    rw [hs.underConstruction] at hcycle
    exact .of_error hrefused hs (.at_once (hlater.name_eq ▸ .cycle hd₀ hcycle))
  · have hfree : d.component.type ∉ above := hs.underConstruction ▸ hcycle
    have hasks := asks_assemble_nested hmodest
      (hnested d.component.type (by rw [hd₀]; rfl) hfree) hd₀ hlater
    have hbegun := log_begun hs.listener d.component.type
    rcases hr : assemble d (supplying nested) (s.1.begun d.component.type,
        s.1.listener.begun d.component.type s.2) with ⟨g | reference, c, w⟩
    · obtain ⟨hc, hfault⟩ := hasks.error (hs.begun _) hr
      obtain ⟨hleft, hcollapses⟩ := collapses_of_error hmodest hd₀ hlater hfree hbegun hc hfault
      exact .of_error (createBy_of_error hcycle hr) hleft hcollapses
    · obtain ⟨hc, hgain⟩ := hasks.ok (hs.begun _) hr
      obtain ⟨hkept, hcredits⟩ := credits_of_ok hbegun hc hgain _
      exact .of_ok (createBy_of_ok hcycle hr) hkept hcredits

/-- As many levels as there are types that are not under construction are enough. -/
theorem explains_createWithin (n : Nat) :
    ∀ above : List TypeKey, c₀.size ≤ n + above.length → c₀.Admits above →
      Explains l c₀ above (createWithin n) := by
  induction n with
  | zero =>
    intro above hlength hadmits
    refine explains_createBy hmodest fun u hu hfree => ?_
    -- all types are under construction, so `u` is
    have hlt := hadmits.length_lt hu hfree
    omega
  | succ n ih =>
    intro above hlength hadmits
    refine explains_createBy hmodest fun u hu hfree => ih (u :: above) ?_ (hadmits.cons hu hfree)
    rw [List.length_cons]
    omega

end

/-! ## Requests -/

/-- `c.Finds make d` — `make` asks for a new instance, and `d` is found for it. -/
inductive Finds {host : Host} (c : Container host) : Act host Handle → Definition host → Prop where
  | type {t d} (h : c.catalog.byType? t = some d) : Finds c (create t) d
  | name {name d} (h : c.catalog.byName? name = some d) : Finds c (createByName name) d

/-- Such a request is a creation by what is found. -/
theorem Finds.eq_createFrom {host : Host} {c : Container host} {make : Act host Handle}
    {d : Definition host} (h : c.Finds make d) (w : host.World) :
    (∃ t, c.catalog.byType? t = some d) ∧
      make (c, w) = ((createFrom d (c, w)).1.map Prod.fst, (createFrom d (c, w)).2) := by
  cases h with
  | @type t _ h => exact ⟨⟨t, h⟩, by rw [create_eq, h]⟩
  | name h =>
    obtain ⟨t, -, ht⟩ := Option.bind_eq_some_iff.1 h
    exact ⟨⟨t, ht⟩, by rw [createByName_eq, h]⟩

/-- **Failures name the path to what failed.**  In every container that can be reached, for every
    request for a registered component that fails with `f`, the journal grows by `seg` up to the first
    failure, and by `undo` afterwards.
    1. Of the creations in progress at the end of `seg`, the outermost first, each but the last has
       requested the next: at the injection point behind those for which instances had been made.
       `f` is wrapped once for each of these requests, with the component and the member of the point.
    2. Inside is the failure of what was requested last, unchanged: nothing is registered for it, or it
       is under construction already, or it has stumbled by itself, and `w₁` is the world after that.
    3. What is written afterwards tells of no creation.  It is the undoing, and whatever fails there,
       `f` has been settled before. -/
theorem failure_names_path {host : Host} {l : Listener host} {c : Container host.journaled}
    (hc : Reached (·.scheme.Modest) l.journaled c) {make : Act host.journaled Handle}
    {d : Definition host.journaled} (hmake : c.Finds make d) {w : host.journaled.World}
    {t : Container host.journaled × host.journaled.World} {f : Failure}
    (hfail : make (c, w) = (.error f, t)) :
    ∃ (seg undo : Journal host.toVocabulary) (w₁ : host.journaled.World),
      t.2.2 = w.2 ++ seg ++ undo ∧ w₁.2 = w.2 ++ seg ∧ (∀ e ∈ undo, e.making? = none) ∧
      c.catalog.Fails w₁ [] (Scene.of seg).making.reverse d.component.type f := by
  have hmodest : c.catalog.Sound (·.scheme.Modest) :=
    hc.sound (fun _ => id) Definition.Later.modest
  obtain ⟨-, hidle⟩ := hc.keeps_idle host.journaled.quiet_free (fun d _ => d.scheme.quiet_free)
    l.journaled.enters_free
  have hunderway : Underway l c.catalog [] c :=
    ⟨⟨Catalog.Follows.refl _, hidle.1⟩, hc.listener_eq⟩
  obtain ⟨⟨u, hu⟩, hcreate⟩ := hmake.eq_createFrom w
  obtain rfl : d.component.type = u := (hmodest u d hu).1
  have hexplains := explains_createWithin (l := l) hmodest c.catalog.size [] (Nat.le_refl _) .nil
    hu (Definition.Later.refl d) (s := (c, w)) hunderway
  rcases hr : createWithin c.catalog.size d (c, w) with ⟨g | made, v⟩
  · have hfrom : createFrom d (c, w) = (.error g, v) := hr
    rw [hcreate, hfrom] at hfail
    cases hfail
    obtain ⟨-, path, seg, undo, w₁, hlog, hw, hleaves, hnone, hfails⟩ := hexplains.error hr
    refine ⟨seg, undo, w₁, hlog, hw, List.filterMap_eq_nil_iff.1 hnone, ?_⟩
    rwa [hleaves.making, List.reverse_reverse]
  · have hfrom : createFrom d (c, w) = (.ok made, v) := hr
    rw [hcreate, hfrom] at hfail
    cases hfail

/-- A constructor fails two levels down.  Of what had been made before, one fails as it is destroyed;
    its routine, 29, comes last, and the failure does not tell of it. -/
theorem failure_names_path_nine :
    ∃ (c : Container Host.numbers.journaled) (t : _) (f : Failure),
      Reached (·.scheme.Modest) (Listener.silent : Listener Host.numbers).journaled c ∧
      create ⟨1⟩ (c, ([] : List Nat), []) = (.error f, t) ∧
      f = .instantiation "Top" (.member ⟨"Top", "field"⟩)
        (.instantiation "Middle" (.member ⟨"Middle", "field"⟩)
          (.instantiation "Bad" (.member ⟨"Bad", "new"⟩) (.raised "nine"))) ∧
      t.2.1 = ([1, 2, 2, 3, 4, 4, 19, 29] : List Nat) ∧
      ∃ (seg undo : Journal Host.numbers.toVocabulary) (w₁ : Host.numbers.journaled.World),
        t.2.2 = [] ++ seg ++ undo ∧
        c.catalog.Fails w₁ [] (Scene.of seg).making.reverse ⟨1⟩ f := by
  have hmodest : ∀ d : Definition Host.numbers, d.journaled.scheme.Modest := fun d =>
    ProxyScheme.modest_journaled d.scheme
  have hempty : Reached (·.scheme.Modest) (Listener.silent : Listener Host.numbers).journaled _ :=
    .empty {}
  have hbad := hempty.register (hmodest (.numbered 19 "Bad" [] [])) rfl
  have hspare := hbad.register (hmodest { component := Component.closing 4 "Spare" 29 }) rfl
  have hmiddle := hspare.register (hmodest (.numbered 3 "Middle" [4, 19] [])) rfl
  have hleft := hmiddle.register (hmodest (.numbered 2 "Left" [] [])) rfl
  have htop := hleft.register (hmodest (.numbered 1 "Top" [2, 3] [])) rfl
  obtain ⟨c, hc, hd, hf, hran⟩ : ∃ c : Container Host.numbers.journaled,
      Reached (·.scheme.Modest) (Listener.silent : Listener Host.numbers).journaled c ∧
      c.catalog.byType? ⟨1⟩ = some (Definition.numbered 1 "Top" [2, 3] []).journaled ∧
      (create ⟨1⟩ (c, ([] : List Nat), [])).1 =
        .error (.instantiation "Top" (.member ⟨"Top", "field"⟩)
          (.instantiation "Middle" (.member ⟨"Middle", "field"⟩)
            (.instantiation "Bad" (.member ⟨"Bad", "new"⟩) (.raised "nine")))) ∧
      (create ⟨1⟩ (c, ([] : List Nat), [])).2.2.1 = ([1, 2, 2, 3, 4, 4, 19, 29] : List Nat) :=
    ⟨_, htop, rfl, by cbv, by cbv⟩
  obtain ⟨seg, undo, w₁, hlog, -, -, hfails⟩ :=
    failure_names_path hc (.type hd) (w := (([] : List Nat), [])) (Prod.ext hf rfl)
  exact ⟨c, _, _, hc, Prod.ext hf rfl, rfl, hran, seg, undo, w₁, hlog, hfails⟩

end Container

end Wiring
