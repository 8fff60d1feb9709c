/-
  What a container may write down at a moment, by what was made for whom and is still live.

  1. `Hands` — what is handed to a field or a method was made last for the instance under
     construction, and is live.
  2. `Constructing`, `Opening` and `Closing` — the three phases of the container that interceptors
     take part in.  What is written down belongs to a run of the construction on what was made for the
     constructor; of the callbacks after construction with everything made that the definition
     requires; or of the callbacks before destruction of the entry that is leaving, with everything
     live that was made for it.
  3. `Storing` — an instance is stored when its callbacks after construction have just succeeded,
     with what was made for it, under a handle that was never issued.
  4. `Accepts log seg` — each event of `seg` may happen where it comes.

  Dependents that somebody else has had destroyed are `struck`; where nobody has, there are none.
-/
import Wiring.Proofs.Container.Forest
import Wiring.Proofs.Journal.Scene

namespace Wiring

/-- `c.Has t d` — `d` is the definition of type `t`, or what has become of it. -/
def Catalog.Has {host : Host} (c : Catalog host) (t : TypeKey) (d : Definition host) : Prop :=
  ∃ first, c.byType? t = some first ∧ Definition.Later first d

namespace Container

variable {host : Host}

/-! ## The rules -/

/-- `Hands log arguments` — the `arguments` are what was made last. -/
def Hands (log : Journal host.toVocabulary) (arguments : List host.Ref) : Prop :=
  ∃ t before made, (Scene.of log).Makes t (before ++ made) ∧ (Scene.of log).Refers made arguments

section

variable (catalog : Catalog host.journaled) (struck : List Handle) (log : Journal host.toVocabulary)

/-- `Constructing catalog log e` — `e` is of a construction, with what was made for it. -/
inductive Constructing (e : Event host.toVocabulary) : Prop where
  | intro {t : TypeKey} {made : List Handle} {d : Definition host.journaled}
    {k : Constructor host.journaled.Routine} {live : host.journaled.LiveSet}
    {arguments : List host.journaled.Ref} {w : host.journaled.World}
    (hmakes : (Scene.of log).Makes t made) (hd : catalog.Has t d)
    (hk : d.component.constructor = some k)
    (hmeets : (Scene.of log).Meets made (d.component.constructorPoints.map (·.requires)))
    (hrefers : (Scene.of log).Refers made arguments)
    (hwithin : e.Within log w.2 (d.construct k live arguments w).2.2)

/-- `Opening catalog log e` — `e` is of callbacks after construction, when everything has been made
    that is required. -/
inductive Opening (e : Event host.toVocabulary) : Prop where
  | intro {t : TypeKey} {made : List Handle} {d : Definition host.journaled}
    {reference : host.journaled.Ref} {w : host.journaled.World}
    (hmakes : (Scene.of log).Makes t made) (hd : catalog.Has t d)
    (hmeets : (Scene.of log).Meets made d.component.requirements)
    (hwithin : e.Within log w.2 (Definition.postConstruct reference (d, w)).2.2.2)

/-- `Closing catalog struck log e` — `e` is of the callbacks before the destruction of an instance
    that is live no more, when everything still is that was made for it. -/
inductive Closing (e : Event host.toVocabulary) : Prop where
  | intro {h : Handle} {entry : Stored host.journaled.toVocabulary}
    {d : Definition host.journaled} {w : host.journaled.World}
    (hleaving : (Scene.of log).leaving = some (h, entry))
    (hgone : h ∉ (Scene.of log).handles)
    (hlive : ∀ k ∈ entry.dependents, k ∈ (Scene.of log).handles ∨ k ∈ struck)
    (hd : catalog.Has entry.type d)
    (hwithin : e.Within log w.2 (Definition.preDestroy entry.reference (d, w)).2.2.2)

/-- `Storing catalog log h entry` — `entry` may be stored under `h`. -/
structure Storing (h : Handle) (entry : Stored host.journaled.toVocabulary) : Prop where
  makes : (Scene.of log).Makes entry.type entry.dependents
  fresh : h ∉ issuedIn log
  opened : ∃ d w, catalog.Has entry.type d ∧
    (Scene.of log).Meets entry.dependents d.component.requirements ∧
    (Definition.postConstruct entry.reference (d, w)).1 = .ok () ∧
    (Definition.postConstruct entry.reference (d, w)).2.2.2 = log

/-- `Attending catalog struck log phase e` — `e` may happen in `phase`. -/
def Attending (e : Event host.toVocabulary) : Phase → Prop
  | .aroundConstruct => Constructing catalog log e
  | .postConstruct => Opening catalog log e
  | .preDestroy => Closing catalog struck log e
  | .aroundInvoke => False

/-- `Allows catalog struck log e` — `e` may come next after `log`. -/
def Allows : Event host.toVocabulary → Prop
  | .assigned _ _ value _ => Hands log [value]
  | .performed _ _ arguments _ => Hands log arguments
  | .constructed r arguments outcome =>
    Attending catalog struck log (.constructed r arguments outcome) .aroundConstruct
  | .entered it phase => Attending catalog struck log (.entered it phase) phase
  | .left it phase outcome => Attending catalog struck log (.left it phase outcome) phase
  | .notified r receiver outcome =>
    Attending catalog struck log (.notified r receiver outcome) .postConstruct ∨
      Attending catalog struck log (.notified r receiver outcome) .preDestroy
  | .stored h entry => Storing catalog log h entry
  | .released h live => live = true ↔ h ∈ (Scene.of log).handles
  | .retired h entry _ => (Scene.of log).leaving = some (h, entry)
  | .called _ _ _ _ | .invoked _ _ _ => False
  | .begun _ | .made _ _ | .asked _ _ | .supplied _ _ _ => True

/-- `Accepts catalog struck log seg` — at every moment of `seg`, what comes next may come. -/
def Accepts (seg : Journal host.toVocabulary) : Prop :=
  ∀ before e after, seg = before ++ e :: after → Allows catalog struck (log ++ before) e

end

/-! ## Segments -/

variable {catalog : Catalog host.journaled} {struck : List Handle}
  {log seg seg' : Journal host.toVocabulary}

theorem accepts_nil : Accepts catalog struck log [] := by
  intro before e after hsplit
  cases before <;> cases hsplit

theorem accepts_singleton {e : Event host.toVocabulary} (h : Allows catalog struck log e) :
    Accepts catalog struck log [e] := by
  intro before e' after hsplit
  cases before with
  | nil =>
    cases hsplit
    rwa [List.append_nil]
  | cons x before => cases before <;> cases hsplit

theorem Accepts.append (h : Accepts catalog struck log seg)
    (h' : Accepts catalog struck (log ++ seg) seg') : Accepts catalog struck log (seg ++ seg') := by
  intro before e after hsplit
  rcases List.append_eq_append_iff.1 hsplit with ⟨mid, rfl, hlater⟩ | ⟨mid, rfl, hearlier⟩
  · rw [← List.append_assoc]
    exact h' mid e after hlater
  · cases mid with
    | nil =>
      have hfirst := h' [] e after hearlier.symm
      rwa [List.append_nil, List.append_nil] at hfirst
    | cons x mid =>
      cases hearlier
      exact h before e mid rfl

/-- What leaves the scene as it is, is accepted if each of its events is by the scene that it starts
    from. -/
theorem accepts_of_plain (hplain : ∀ e ∈ seg, e.isOfStore = false)
    (h : ∀ before e after, seg = before ++ e :: after → Scene.of (log ++ before) = Scene.of log →
      Allows catalog struck (log ++ before) e) : Accepts catalog struck log seg := by
  intro before e after hsplit
  refine h before e after hsplit (Scene.of_append_of_plain log fun e' he' => ?_)
  rw [hsplit] at hplain
  exact hplain e' (List.mem_append_left _ he')

/-! ## Moves -/

variable {s t u : Container host.journaled × host.journaled.World}

/-- `Played catalog struck s t` — what was written down from `s` to `t` is accepted. -/
def Played (catalog : Catalog host.journaled) (struck : List Handle)
    (s t : Container host.journaled × host.journaled.World) : Prop :=
  ∃ seg, t.2.2 = s.2.2 ++ seg ∧ Accepts catalog struck s.2.2 seg

theorem Played.refl (s : Container host.journaled × host.journaled.World) :
    Played catalog struck s s :=
  ⟨[], (List.append_nil _).symm, accepts_nil⟩

theorem Played.trans (h : Played catalog struck s t) (h' : Played catalog struck t u) :
    Played catalog struck s u := by
  obtain ⟨seg, hseg, haccepts⟩ := h
  obtain ⟨seg', hseg', haccepts'⟩ := h'
  refine ⟨seg ++ seg', by rw [hseg', hseg, List.append_assoc], ?_⟩
  exact haccepts.append (hseg ▸ haccepts')

/-- One event is a move. -/
theorem Played.of_event {e : Event host.toVocabulary} (hlog : t.2.2 = s.2.2 ++ [e])
    (h : Allows catalog struck s.2.2 e) : Played catalog struck s t :=
  ⟨[e], hlog, accepts_singleton h⟩

end Container

end Wiring
