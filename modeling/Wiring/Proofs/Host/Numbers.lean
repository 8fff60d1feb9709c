/-
  `Host.numbers` — a small host to run things on.

  Values, routines, live interceptors and scopes are numbers, and the world is the list of routines
  that were run, in their order.  A routine that ends in 9 fails; any other returns its own number.
  A live interceptor is the number of its maker, and its last digit says what it does: 1 cuts the
  call short, 2 proceeds twice whatever comes of the first time, 3 fails after proceeding, any other
  proceeds once.

  A component is the number of its type, which is also the routine of its constructor.
-/
import Wiring.Definition.Instance

namespace Wiring

namespace Host

/-- `ran r a` — routine `r` is run and gives `a`, unless it fails. -/
def ran {α : Type} (r : Nat) (a : α) : Effect (List Nat) α := fun w =>
  (if r % 10 = 9 then .error (.raised "nine") else .ok a, w ++ [r])

/-- `numbers` — the host of numbers. -/
def numbers : Host where
  Value := Nat
  Routine := Nat
  Live := Nat
  Scope := Nat
  World := List Nat
  unit := 0
  assign r _ _ := ran r ()
  perform r _ _ := ran r ()
  construct r _ := ran r (.plain r)
  notify r _ := ran r ()
  call r _ _ := ran r (.plain r)
  supply r _ := ran r ()
  make r := ran r r
  intercept it _ :=
    match it % 10 with
    | 1 => .done (.ok none)
    | 2 => .proceed fun _ => .proceed .done
    | 3 => .proceed fun _ => .done (.error (.raised "three"))
    | _ => .passThrough
  contextual n := ran n (.plain n)

end Host

/-- `numbered n name needs callbacks` — the component with number `n`: it has a field for each type
    of `needs`, set by the routine of the same number, and `callbacks` after its construction. -/
def Component.numbered (n : Nat) (name : String) (needs callbacks : List Nat) : Component Nat where
  type := ⟨n⟩
  name := name
  hierarchy := [name]
  points := needs.map fun t => ⟨.field ⟨⟨name, "field"⟩, t⟩, ⟨t⟩, .plain⟩
  methods := []
  defaultConstructor := some ⟨⟨⟨name, "new"⟩, n⟩, 0⟩
  postConstruct := callbacks.map fun r => ⟨⟨name, "open"⟩, r⟩
  preDestroy := []
  business := []
  declarations := none

/-- `everywhere name maker` — the interceptor called `name` that takes part in every phase. -/
def Interceptor.everywhere (name : String) (maker : Nat) : Interceptor Nat where
  name := name
  origin := .environment
  phases := [.aroundConstruct, .postConstruct, .preDestroy, .aroundInvoke]
  maker := maker

/-- `guarded n name interceptors` — the component with number `n`: after it come a callback after
    construction, the business method `run`, and a callback before destruction; all four are
    intercepted. -/
def Component.guarded (n : Nat) (name : String) (interceptors : List (Interceptor Nat)) :
    Component Nat :=
  { Component.numbered n name [] [n + 1] with
    business := [⟨⟨name, "run"⟩, n + 2⟩]
    preDestroy := [⟨⟨name, "close"⟩, n + 3⟩]
    declarations := some {
      environment := interceptors
      constructorBinding := interceptors
      business := Table.ofList [("run", ⟨interceptors, []⟩)] } }

/-- `closing n name r` — the component with number `n` whose callback before destruction is `r`. -/
def Component.closing (n : Nat) (name : String) (r : Nat) : Component Nat :=
  { Component.numbered n name [] [] with preDestroy := [⟨⟨name, "close"⟩, r⟩] }

/-- `numbered n name needs callbacks` — the definition of that component. -/
def Definition.numbered (n : Nat) (name : String) (needs callbacks : List Nat) :
    Definition Host.numbers where
  component := Component.numbered n name needs callbacks

/-- `numbers` — for each injection point the number of the type that it requires. -/
def Provider.numbers : Provider Host.numbers Unit := fun point s =>
  (.ok (.plain point.requires.number), s)

end Wiring
