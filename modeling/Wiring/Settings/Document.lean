/-
  `Document` — a settings document: values, sequences of them, and tables.
-/
import Wiring.Table

namespace Wiring

/-- `Document` — a value of the notation that settings files are written in. -/
inductive Document where
  | null
  | bool (value : Bool)
  | number (value : Float)
  | text (value : String)
  | sequence (items : List Document)
  /-- Names and values, in the order in which they were written. -/
  | table (entries : List (String × Document))

namespace Document

/-- `d.entries` — the entries of a table, in which the last value of a name counts; any other
    document has none. -/
def entries : Document → Table String Document
  | table entries => Table.ofList entries
  | _ => ∅

end Document

end Wiring
