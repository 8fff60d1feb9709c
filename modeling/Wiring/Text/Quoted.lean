/-
  `quote` — a text between quotation marks, in which every character can be told.

  Quotation marks and backslashes are escaped by a backslash; tabs, line ends and the null character
  have letters of their own; any other character that would not be seen is written by its number.
-/
import Wiring.Text.Unseen

namespace Wiring.Text

/-- `escape c` — `c` as it is written inside quotation marks. -/
def escape (c : Char) : List Char :=
  match c with
  | '\x00' => ['\\', '0']
  | '\t' => ['\\', 't']
  | '\r' => ['\\', 'r']
  | '\n' => ['\\', 'n']
  | '"' => ['\\', '"']
  | '\\' => ['\\', '\\']
  | c =>
    if isUnseen c then
      ['\\', 'u', '\x7b'] ++ Nat.toDigits 16 c.toNat ++ ['\x7d']
    else [c]

/-- `quote s` — `s` between quotation marks. -/
def quote (s : String) : String :=
  String.ofList ('"' :: s.toList.flatMap escape ++ ['"'])

/-! ## Instances -/

example : escape 'é' = ['é'] ∧ escape '"' = ['\\', '"'] ∧ escape '\n' = ['\\', 'n'] := by
  decide +kernel

/-- A character that is not seen is written by its number. -/
example : escape '\x07' = ['\\', 'u', '\x7b', '7', '\x7d'] := by decide +kernel

end Wiring.Text
