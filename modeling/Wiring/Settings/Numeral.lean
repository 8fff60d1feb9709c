/-
  Reading numerals into double precision.

  1. A numeral is a sign, a whole part without leading zeros, decimals, and an exponent.
  2. Digits are gathered into a significand for as long as it fits into 64 bits.  Whole digits that
     no longer fit count towards the exponent, decimals that no longer fit count for nothing.
  3. The significand is then multiplied or divided by a power of ten, in steps of at most 308.  A
     numeral too large for a double is refused; one too small is zero.
-/

namespace Wiring.Numeral

/-- `gather s ds` — the significand `s` followed by as many of the digits `ds` as fit into 64 bits,
    and how many these are. -/
def gather (s : Nat) : List Nat → Nat × Nat
  | [] => (s, 0)
  | d :: ds =>
    if s * 10 + d < 2 ^ 64 then
      let (t, n) := gather (s * 10 + d) ds
      (t, n + 1)
    else (s, 0)

/-- `tenTo n` — a power of ten, to the nearest double. -/
def tenTo (n : Nat) : Float := Float.ofScientific 1 false n

/-- `lower x n` — `x` divided by ten to the `n`. -/
def lower (x : Float) (n : Nat) : Float :=
  if n ≤ 308 then x / tenTo n
  else if x == 0 then x
  else lower (x / tenTo 308) (n - 308)
termination_by n

/-- `raise? x n` — `x` multiplied by ten to the `n`, unless that is too large. -/
def raise? (x : Float) (n : Nat) : Option Float :=
  if n ≤ 308 then
    let y := x * tenTo n
    if y.isInf then none else some y
  else if x == 0 then some x
  else none

/-- `assemble? s exponent` — the significand `s` times ten to the `exponent`. -/
def assemble? (s : Nat) (exponent : Int) : Option Float :=
  match exponent with
  | .ofNat n => raise? s.toUInt64.toFloat n
  | .negSucc n => some (lower s.toUInt64.toFloat (n + 1))

/-- `digits cs` — the digits that `cs` starts with, and the rest. -/
def digits (cs : List Char) : List Nat × List Char :=
  ((cs.takeWhile (·.isDigit)).map fun c => c.toNat - '0'.toNat, cs.dropWhile (·.isDigit))

/-- `decimals? cs` — the digits after a point, none if there is no point; a point alone is refused. -/
def decimals? (cs : List Char) : Option (List Nat × List Char) :=
  match cs with
  | '.' :: cs =>
    let (ds, rest) := digits cs
    if ds.isEmpty then none else some (ds, rest)
  | _ => some ([], cs)

/-- `signed? cs` — digits with or without a sign in front. -/
def signed? (cs : List Char) : Option (Int × List Char) :=
  let (negative, cs) := match cs with
    | '-' :: cs => (true, cs)
    | '+' :: cs => (false, cs)
    | cs => (false, cs)
  let (ds, rest) := digits cs
  if ds.isEmpty then none
  else
    let n : Nat := ds.foldl (fun n d => n * 10 + d) 0
    some (if negative then -n else n, rest)

/-- `exponent? cs` — the exponent that `cs` starts with, zero if there is none. -/
def exponent? (cs : List Char) : Option (Int × List Char) :=
  match cs with
  | 'e' :: cs | 'E' :: cs => signed? cs
  | _ => some (0, cs)

/-- `wellFormed whole` — a whole part has a digit, and starts with zero only if it is zero. -/
def wellFormed : List Nat → Bool
  | [] => false
  | 0 :: _ :: _ => false
  | _ => true

/-- `read? cs` — the number that `cs` starts with, and the rest. -/
def read? (cs : List Char) : Option (Float × List Char) := do
  let (negative, cs) := match cs with
    | '-' :: cs => (true, cs)
    | cs => (false, cs)
  let (whole, cs) := digits cs
  guard (wellFormed whole)
  let (decimals, cs) ← decimals? cs
  let (exponent, rest) ← exponent? cs
  let (s, kept) := gather 0 whole
  let (s, added) := gather s decimals
  let x ← assemble? s (exponent + (whole.length - kept : Nat) - added)
  return (if negative then -x else x, rest)

end Wiring.Numeral
