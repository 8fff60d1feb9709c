/-
  `Phase` — the moments of a managed object's life that can be intercepted, and `Status` — how far
  one run of a chain has come.
-/

namespace Wiring

/-- `Phase` — what is being intercepted: the constructor call, a business call, or one of the two
    kinds of lifecycle callbacks. -/
inductive Phase where
  | aroundConstruct
  | aroundInvoke
  | postConstruct
  | preDestroy
  deriving DecidableEq, Repr, Inhabited

namespace Phase

/-- `all` — every phase, in the order in which they are listed to a reader. -/
def all : List Phase := [aroundConstruct, aroundInvoke, postConstruct, preDestroy]

/-- `p.name` — how messages name the phase. -/
def name : Phase → String
  | aroundConstruct => "AroundConstruct"
  | aroundInvoke => "AroundInvoke"
  | postConstruct => "PostConstruct"
  | preDestroy => "PreDestroy"

/-- `ofName? s` — the phase called `s`. -/
def ofName? (s : String) : Option Phase := all.find? fun p => p.name = s

theorem ofName?_name (p : Phase) : ofName? p.name = some p := by cases p <;> decide

end Phase

/-- `Status` — `pending` before the chain is first entered, `running` inside it, and one of the
    other two after the outermost call has returned. -/
inductive Status where
  | pending
  | running
  | completed
  | failed
  deriving DecidableEq, Repr, Inhabited

/-- `s.name` — how a status is written. -/
def Status.name : Status → String
  | pending => "Pending"
  | running => "Running"
  | completed => "Completed"
  | failed => "Failed"

end Wiring
