/-
  `Interceptor ρ` — the description of one interceptor: its name, where its declaration came from,
  the phases it takes part in, and the routine that makes a live one.

  A chain is always drawn from two sources.  Environment interceptors come first and binding
  interceptors after them, so the former wrap around the latter; within a source the declared
  order is kept.  `Sources.chain` is this rule, and the only place where it is written.
-/
import Wiring.Phase

namespace Wiring

/-- `Origin` — who declared an interceptor: the environment by listing it, or binding markers. -/
inductive Origin where
  | environment
  | binding (markers : List String)
  deriving DecidableEq, Repr

/-- `Interceptor ρ` — an interceptor before it is made; `ρ` is the type of routine codes. -/
structure Interceptor (ρ : Type) where
  name : String
  origin : Origin
  phases : List Phase
  maker : ρ

namespace Interceptor

variable {ρ : Type}

/-- `i.markers` — the binding markers that declared `i`, none if the environment did. -/
def markers (i : Interceptor ρ) : List String :=
  match i.origin with
  | .environment => []
  | .binding markers => markers

/-- `i.intercepts p` — whether `i` takes part in phase `p`. -/
def intercepts (i : Interceptor ρ) (p : Phase) : Bool := i.phases.contains p

end Interceptor

/-- `Sources ρ` — the two lists that a chain is drawn from. -/
structure Sources (ρ : Type) where
  environment : List (Interceptor ρ)
  binding : List (Interceptor ρ)

namespace Sources

variable {ρ : Type}

/-- `none` — sources that declare nothing. -/
def none : Sources ρ := ⟨[], []⟩

/-- `s.chain p` — the interceptors of both sources that take part in `p`, outermost first. -/
def chain (s : Sources ρ) (p : Phase) : List (Interceptor ρ) :=
  (s.environment ++ s.binding).filter (·.intercepts p)

theorem chain_eq_append (s : Sources ρ) (p : Phase) :
    s.chain p = s.environment.filter (·.intercepts p) ++ s.binding.filter (·.intercepts p) :=
  List.filter_append ..

end Sources

/-- `LifecycleChains ρ` — the resolved chains of the two lifecycle phases. -/
structure LifecycleChains (ρ : Type) where
  postConstruct : List (Interceptor ρ)
  preDestroy : List (Interceptor ρ)

namespace LifecycleChains

variable {ρ : Type}

/-- `none` — no interceptor in either phase. -/
def none : LifecycleChains ρ := ⟨[], []⟩

/-- `ofSources s` — the lifecycle chains drawn from `s`. -/
def ofSources (s : Sources ρ) : LifecycleChains ρ := ⟨s.chain .postConstruct, s.chain .preDestroy⟩

/-- `c.forPhase p` — the chain of `p`; the other two phases have no lifecycle chain. -/
def forPhase (c : LifecycleChains ρ) : Phase → List (Interceptor ρ)
  | .postConstruct => c.postConstruct
  | .preDestroy => c.preDestroy
  | .aroundConstruct | .aroundInvoke => []

/-- `c.isEmpty` — whether neither phase is intercepted. -/
def isEmpty (c : LifecycleChains ρ) : Bool := c.postConstruct.isEmpty && c.preDestroy.isEmpty

end LifecycleChains

end Wiring
