/-
  `Key` — where a setting is put: under a name, or inside what is there.

  A name may be followed by steps into its value: a point and a further name, or a number in
  brackets.  Of these only the first shows in the value of the name, which becomes a table or a
  sequence by it.  A key that does not read in this way is a plain name as it stands.
-/

namespace Wiring

/-- `Inner` — what the value of a name must be so that a step leads into it. -/
inductive Inner where
  | table
  | sequence
  deriving DecidableEq, Repr

/-- `Key` — a name and the first step into its value, if there is one. -/
structure Key where
  name : String
  inner : Option Inner := none
  deriving DecidableEq, Repr

namespace Key

/-- `isNameChar c` — whether `c` may stand in a name that is followed by steps. -/
def isNameChar (c : Char) : Bool := c.isAlphanum || c = ' ' || c = '_' || c = '-'

/-- `isGap c` — whether `c` may stand beside the number in brackets. -/
def isGap (c : Char) : Bool := c = ' ' || c = '\t'

/-- `indexBound` — how large a number in brackets may be: it has to fit into 64 bits with a sign. -/
def indexBound : Nat := 0x8000000000000000

/-- `index? cs` — what follows the number and the closing bracket that `cs` starts with. -/
def index? (cs : List Char) : Option (List Char) :=
  let cs := cs.dropWhile isGap
  let (negative, cs) := match cs with
    | '-' :: cs => (true, cs)
    | cs => (false, cs)
  let ds := cs.takeWhile (·.isDigit)
  let n : Nat := ds.foldl (fun n c => n * 10 + (c.toNat - '0'.toNat)) 0
  let fits := if negative then n ≤ indexBound else n < indexBound
  if ds.isEmpty || !fits then none
  else
    match (cs.dropWhile (·.isDigit)).dropWhile isGap with
    | ']' :: rest => some rest
    | _ => none

/-- `step? cs` — the step that `cs` starts with, and the rest. -/
def step? : List Char → Option (Inner × List Char)
  | '.' :: cs =>
    if (cs.takeWhile isNameChar).isEmpty then none else some (.table, cs.dropWhile isNameChar)
  | '[' :: cs => (index? cs).map fun rest => (.sequence, rest)
  | _ => none

/-- `steps? n cs` — all the steps that `cs` consists of, of which there are at most `n`. -/
def steps? : Nat → List Char → Option (List Inner)
  | _, [] => some []
  | 0, _ => none
  | n + 1, cs => do
    let (step, rest) ← step? cs
    return step :: (← steps? n rest)

/-- `read s` — the key that `s` is. -/
def read (s : String) : Key :=
  let name := s.toList.takeWhile isNameChar
  let rest := s.toList.dropWhile isNameChar
  if name.isEmpty then ⟨s, none⟩
  else
    match steps? rest.length rest with
    | some steps => ⟨String.ofList name, steps.head?⟩
    | none => ⟨s, none⟩

end Key

end Wiring
