/-
  Who is active at a moment of a journal.

  1. A live interceptor is active from the event that it is entered to the event that it is left.
     `Journal.active seg` has those who are active after `seg`, outermost first.
  2. `Journal.Observes P active seg` says that `P` holds at every moment of `seg`, of those who are
     active by then and of the event that comes next.
  3. `Journal.openings seg` counts how often an interceptor is entered while nobody is active.
-/
import Wiring.Proofs.Journal.Basic

namespace Wiring

variable {V : Vocabulary}

/-- `e.activate active` — who is active after `e`: whoever is entered comes innermost, and whoever
    is innermost is left first. -/
def Event.activate (active : List V.Live) : Event V → List V.Live
  | .entered it _ => active ++ [it]
  | .left _ _ _ => active.dropLast
  | _ => active

/-- `e.opens active` — with `e`, an interceptor is entered while nobody is active. -/
def Event.opens (active : List V.Live) : Event V → Bool
  | .entered _ _ => active.isEmpty
  | _ => false

namespace Journal

/-- `activeAfter active seg` — who is active after `seg`, if `active` were before. -/
def activeAfter (active : List V.Live) (seg : Journal V) : List V.Live :=
  seg.foldl Event.activate active

/-- `active seg` — who is active after `seg`, if nobody was before. -/
def active (seg : Journal V) : List V.Live := activeAfter [] seg

/-- `Observes P active seg` — at every moment of `seg`, `P` holds of the active and the event. -/
def Observes (P : List V.Live → Event V → Prop) : List V.Live → Journal V → Prop
  | _, [] => True
  | active, e :: seg => P active e ∧ Observes P (e.activate active) seg

theorem activeAfter_append (active : List V.Live) (seg seg' : Journal V) :
    activeAfter active (seg ++ seg') = activeAfter (activeAfter active seg) seg' :=
  List.foldl_append

variable {P Q : List V.Live → Event V → Prop} {active : List V.Live} {seg seg' : Journal V}

theorem observes_append :
    Observes P active (seg ++ seg') ↔
      Observes P active seg ∧ Observes P (activeAfter active seg) seg' := by
  induction seg generalizing active with
  | nil => exact ⟨fun h => ⟨trivial, h⟩, And.right⟩
  | cons e seg ih => exact (and_congr_right fun _ => ih).trans and_assoc.symm

/-- Behind a segment that gives back who was active, observing goes on as it began. -/
theorem Observes.append (h : Observes P active seg) (hback : activeAfter active seg = active)
    (h' : Observes P active seg') : Observes P active (seg ++ seg') :=
  observes_append.2 ⟨h, by rwa [hback]⟩

theorem Observes.mono (h : Observes P active seg) (hPQ : ∀ its e, P its e → Q its e) :
    Observes Q active seg := by
  induction seg generalizing active with
  | nil => trivial
  | cons e seg ih => exact ⟨hPQ _ _ h.1, ih h.2⟩

/-- What is observed holds at every single moment. -/
theorem Observes.moment (h : Observes P active seg) {before after : Journal V} {e : Event V}
    (hsplit : seg = before ++ e :: after) : P (activeAfter active before) e := by
  rw [hsplit, observes_append] at h
  exact h.2.1

/-! ## Openings -/

/-- `openingsFrom active seg` — how often an interceptor is entered while nobody is active, if
    `active` were before. -/
def openingsFrom : List V.Live → Journal V → Nat
  | _, [] => 0
  | active, e :: seg => (if e.opens active then 1 else 0) + openingsFrom (e.activate active) seg

/-- `openings seg` — how often an interceptor is entered while nobody is active. -/
def openings (seg : Journal V) : Nat := openingsFrom [] seg

theorem openingsFrom_append (active : List V.Live) (seg seg' : Journal V) :
    openingsFrom active (seg ++ seg') =
      openingsFrom active seg + openingsFrom (activeAfter active seg) seg' := by
  induction seg generalizing active with
  | nil => exact (Nat.zero_add _).symm
  | cons e seg ih =>
    rw [List.cons_append, openingsFrom, openingsFrom, ih, Nat.add_assoc]
    rfl

/-- Where somebody is always active, nobody opens. -/
theorem Observes.openingsFrom_eq_zero (h : Observes (fun its _ => its ≠ []) active seg) :
    openingsFrom active seg = 0 := by
  induction seg generalizing active with
  | nil => rfl
  | cons e seg ih =>
    have hopens : e.opens active = false := by
      cases e with
      | entered it phase => exact List.isEmpty_eq_false_iff.2 h.1
      | _ => rfl
    rw [openingsFrom, hopens, ih h.2]
    rfl

end Journal

end Wiring
