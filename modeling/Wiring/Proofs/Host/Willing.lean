/-
  `Host.willing` — a small host on which all goes well, to run things on.

  Its types are those of the host of numbers.  No routine fails, or leaves a trace, and every
  interceptor proceeds once.  A draft is a number and a name, and needs other numbers.
-/
import Wiring.Component.Draft
import Wiring.Proofs.Definition.Obliging
import Wiring.Proofs.Host.Numbers

namespace Wiring

namespace Host

/-- `willing` — the host of numbers when all goes well. -/
def willing : Host where
  toVocabulary := numbers.toVocabulary
  World := Unit
  unit := (0 : Nat)
  assign _ _ _ := .done ()
  perform _ _ _ := .done ()
  construct r _ := .done (.plain r)
  notify _ _ := .done ()
  call r _ _ := .done (.plain r)
  supply _ _ := .done ()
  make r := .done r
  intercept _ _ := .passThrough
  contextual n := .done (.plain n)

theorem obliging_willing : willing.Obliging where
  assign _ _ _ := .pure ()
  perform _ _ _ := .pure ()
  construct _ _ := fun w => ⟨_, w, rfl⟩
  notify _ _ := .pure ()
  supply _ _ := .pure ()
  make r := .pure r
  intercept _ _ := fun _ => rfl

end Host

/-- `numbered n name needs` — a draft with number `n`, and with a field for each type of `needs`. -/
def Draft.numbered (n : Nat) (name : String) (needs : List Nat) : Draft Nat where
  type := ⟨n⟩
  name := name
  points := needs.map fun t => ⟨.field ⟨⟨name, "field"⟩, t⟩, ⟨t⟩, .plain⟩
  defaultConstructor := some ⟨⟨⟨name, "new"⟩, n⟩, 0⟩

/-- `willing n name needs` — the definition of the component that is drafted so. -/
def Definition.willing (n : Nat) (name : String) (needs : List Nat) : Definition Host.willing where
  component := (Draft.numbered n name needs).component

theorem Definition.able_willing (n : Nat) (name : String) (needs : List Nat) :
    (willing n name needs).Able where
  chains := ⟨_, rfl⟩
  current r w :=
    match r with
    | .plain _ | .intercepted _ => ⟨none, w, rfl⟩
    | .scoped n => ⟨some (.plain n), w, rfl⟩

end Wiring
