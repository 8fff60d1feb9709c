/-
  Reading documents.

  1. Each reader takes the characters that are left and gives what it read with those left after
     it; anything that does not read is refused as a whole.
  2. Sequences and tables may be nested 127 deep, and the recursion is on that depth.  Within one of
     them the items are read in turn; each takes a character at least, so the number of characters
     bounds their number.
  3. In texts, escaped code units are read first and joined afterwards, when it is seen whether the
     halves of a pair belong together.
-/
import Wiring.Settings.Document
import Wiring.Settings.Numeral

namespace Wiring.Document

/-- `Reader α` — reads an `α` off the front of the characters that are left. -/
abbrev Reader (α : Type) : Type := List Char → Option (α × List Char)

/-- `isBlank c` — whether `c` may stand between the parts of a document. -/
def isBlank (c : Char) : Bool := c = ' ' || c = '\t' || c = '\n' || c = '\r'

/-- `skipBlank cs` — `cs` from its first character that is not blank. -/
def skipBlank (cs : List Char) : List Char := cs.dropWhile isBlank

/-! ## Texts -/

/-- `hexDigit? c` — the value of a hexadecimal digit. -/
def hexDigit? (c : Char) : Option Nat :=
  if '0' ≤ c && c ≤ '9' then some (c.toNat - '0'.toNat)
  else if 'a' ≤ c && c ≤ 'f' then some (c.toNat - 'a'.toNat + 10)
  else if 'A' ≤ c && c ≤ 'F' then some (c.toNat - 'A'.toNat + 10)
  else none

/-- `unit? a b c d` — the code unit that four hexadecimal digits stand for. -/
def unit? (a b c d : Char) : Option Nat := do
  return (((← hexDigit? a) * 16 + (← hexDigit? b)) * 16 + (← hexDigit? c)) * 16 + (← hexDigit? d)

/-- `escaped? c` — the character that `c` stands for after a backslash. -/
def escaped? (c : Char) : Option Char :=
  match c with
  | '"' | '\\' | '/' => some c
  | 'b' => some '\x08'
  | 'f' => some '\x0c'
  | 'n' => some '\n'
  | 'r' => some '\r'
  | 't' => some '\t'
  | _ => none

/-- `Mark` — a part of a text: a character, or a code unit written by its number. -/
inductive Mark where
  | char (c : Char)
  | unit (n : Nat)

/-- `marks` — the marks up to the closing quotation mark; control characters are refused. -/
def marks : Reader (List Mark)
  | [] => none
  | '"' :: cs => some ([], cs)
  | '\\' :: 'u' :: a :: b :: c :: d :: cs => do
    let n ← unit? a b c d
    let (rest, cs) ← marks cs
    return (.unit n :: rest, cs)
  | '\\' :: c :: cs => do
    let c ← escaped? c
    let (rest, cs) ← marks cs
    return (.char c :: rest, cs)
  | c :: cs => do
    guard (0x20 ≤ c.toNat)
    let (rest, cs) ← marks cs
    return (.char c :: rest, cs)

/-- `isHigh n` — whether `n` is the first half of a pair. -/
def isHigh (n : Nat) : Bool := 0xD800 ≤ n && n ≤ 0xDBFF

/-- `isLow n` — whether `n` is the second half of a pair. -/
def isLow (n : Nat) : Bool := 0xDC00 ≤ n && n ≤ 0xDFFF

/-- `joined ms` — the characters that the marks stand for; half a pair alone stands for none. -/
def joined : List Mark → Option (List Char)
  | [] => some []
  | .char c :: ms => (c :: ·) <$> joined ms
  | .unit n :: .unit m :: ms =>
    if isHigh n && isLow m then
      (Char.ofNat (0x10000 + (n - 0xD800) * 0x400 + (m - 0xDC00)) :: ·) <$> joined ms
    else if isHigh n || isLow n then none
    else (Char.ofNat n :: ·) <$> joined (.unit m :: ms)
  | .unit n :: ms => if isHigh n || isLow n then none else (Char.ofNat n :: ·) <$> joined ms

/-- `quoted` — a text, from behind its opening quotation mark. -/
def quoted : Reader String := fun cs => do
  let (ms, rest) ← marks cs
  return (String.ofList (← joined ms), rest)

/-! ## Values -/

/-- `scalar` — a value that holds no others. -/
def scalar : Reader Document := fun cs =>
  match cs with
  | 'n' :: 'u' :: 'l' :: 'l' :: rest => some (.null, rest)
  | 't' :: 'r' :: 'u' :: 'e' :: rest => some (.bool true, rest)
  | 'f' :: 'a' :: 'l' :: 's' :: 'e' :: rest => some (.bool false, rest)
  | '"' :: cs => do
    let (t, rest) ← quoted cs
    return (.text t, rest)
  | cs => do
    let (x, rest) ← Numeral.read? cs
    return (.number x, rest)

/-- `items item close n` — up to `n` items, with commas between them, and the closing bracket. -/
def items {α : Type} (item : Reader α) (close : Char) : Nat → Reader (List α)
  | 0, _ => none
  | n + 1, cs => do
    let (x, cs) ← item (skipBlank cs)
    match skipBlank cs with
    | ',' :: cs =>
      let (xs, rest) ← items item close n cs
      return (x :: xs, rest)
    | c :: rest => if c = close then some ([x], rest) else none
    | [] => none

/-- `group item close` — items as far as the closing bracket, possibly none. -/
def group {α : Type} (item : Reader α) (close : Char) : Reader (List α) := fun cs =>
  match skipBlank cs with
  | [] => none
  | c :: rest => if c = close then some ([], rest) else items item close cs.length cs

/-- `entry value` — a name, a colon and a value. -/
def entry (value : Reader Document) : Reader (String × Document) := fun cs =>
  match cs with
  | '"' :: cs => do
    let (name, cs) ← quoted cs
    match skipBlank cs with
    | ':' :: cs =>
      let (v, rest) ← value (skipBlank cs)
      return ((name, v), rest)
    | _ => none
  | _ => none

/-- `value depth` — a value with sequences and tables nested up to `depth`. -/
def value : Nat → Reader Document
  | 0, cs => scalar cs
  | depth + 1, cs =>
    match cs with
    | '[' :: cs => do
      let (xs, rest) ← group (value depth) ']' cs
      return (.sequence xs, rest)
    | '\x7b' :: cs => do
      let (es, rest) ← group (entry (value depth)) '\x7d' cs
      return (.table es, rest)
    | cs => scalar cs

/-- `read? s` — the document that the whole of `s` is. -/
def read? (s : String) : Option Document := do
  let (d, rest) ← value 127 (skipBlank s.toList)
  guard (skipBlank rest).isEmpty
  return d

end Wiring.Document
