/-
  `Span` — a run of consecutive code points, and classes of characters given as lists of spans.
-/

namespace Wiring.Text

/-- `Span` — the first and the last code point of a run. -/
abbrev Span : Type := Nat × Nat

/-- `within spans c` — whether `c` is in one of the spans. -/
def within (spans : List Span) (c : Char) : Bool :=
  spans.any fun s => s.1 ≤ c.toNat && c.toNat ≤ s.2

end Wiring.Text
