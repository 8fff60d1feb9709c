/-
  `Failure` — everything that can go wrong while objects are made, wired, called and destroyed,
  and `Rejection` — why a definition is refused before any object exists.

  Both are causes, not texts: a failure of one operation on behalf of another carries the inner
  failure as its cause, and the only place where either becomes a sentence is `message`.
-/
import Wiring.Phase
import Wiring.Member

namespace Wiring

/-- `Site` — what was being instantiated: one member of a component, or the platform resources
    that are supplied after its own dependencies. -/
inductive Site where
  | member (member : Member)
  | resources
  deriving DecidableEq, Repr

/-- `Site.text s component` — the site inside the named component, as messages have it. -/
def Site.text (component : String) : Site → String
  | member m => m.path ++ " of component " ++ component
  | resources => "platform resources of component " ++ component

/-- `Request` — how a component was asked for: by the identity of its type, by its own name, or
    by the name of the type that an injection point requires. -/
inductive Request where
  | identity (type : TypeKey)
  | component (name : String)
  | required (type : TypeKey)
  deriving DecidableEq, Repr

/-- `r.text` — the request as messages have it. -/
def Request.text : Request → String
  | identity t => t.identity
  | component name => name
  | required t => t.name

/-- `Failure` — why an operation did not succeed. -/
inductive Failure where
  /-- A callback, interceptor or supplier failed for a reason of its own. -/
  | raised (text : String)
  /-- A value was not of the type that its receiver reads. -/
  | incompatible (typeName : String)
  /-- A completed chain was entered again. -/
  | alreadyCompleted (phase : Phase)
  /-- A failed chain was entered again. -/
  | alreadyFailed (phase : Phase)
  /-- A construction chain ended without reaching the constructor. -/
  | constructorNotInvoked (name : String)
  /-- New parameters were not as many as the current ones. -/
  | parameterCountMismatch (expected actual : Nat)
  /-- Parameters were set in a phase that has none. -/
  | parametersNotSupported (phase : Phase)
  /-- Making or wiring an instance failed at one site. -/
  | instantiation (component : String) (site : Site) (cause : Failure)
  /-- A lifecycle phase failed. -/
  | lifecycle (component : String) (phase : Phase) (cause : Failure)
  /-- A business call failed. -/
  | businessCall (component method : String) (cause : Failure)
  /-- There is neither an injected nor a default constructor. -/
  | missingConstructor (component : String)
  /-- The lifecycle chains were resolved somewhere else before. -/
  | alreadyResolved (component : String)
  /-- An interceptor could not be made. -/
  | interceptorCreation (name : String) (cause : Failure)
  /-- A business method was called that the component does not have. -/
  | unknownMethod (component method : String)
  /-- Nothing is registered for a request. -/
  | unknownComponent (request : Request)
  /-- A component was needed while it was itself under construction. -/
  | dependencyCycle (component : String)
  /-- The contextual instance behind a scope reference could not be had. -/
  | scopeUnavailable (cause : Failure)
  deriving DecidableEq, Repr

namespace Failure

instance : Inhabited Failure := ⟨raised ""⟩

/-- `f.cause?` — the failure that `f` was caused by, if it was. -/
def cause? : Failure → Option Failure
  | instantiation _ _ cause | lifecycle _ _ cause | businessCall _ _ cause
  | interceptorCreation _ cause | scopeUnavailable cause => some cause
  | _ => none

/-- `f.causes` — the cause, its cause, and so on to the innermost. -/
def causes : Failure → List Failure
  | instantiation _ _ cause | lifecycle _ _ cause | businessCall _ _ cause
  | interceptorCreation _ cause | scopeUnavailable cause => cause :: causes cause
  | _ => []

/-- `f.message` — the failure in words, its causes included. -/
def message : Failure → String
  | raised text => text
  | incompatible typeName => "Tried to downcast dependency to incompatible type: " ++ typeName
  | alreadyCompleted phase => phase.name ++ " invocation chain has already completed"
  | alreadyFailed phase => phase.name ++ " invocation chain has already failed"
  | constructorNotInvoked name =>
    "Around-construct chain finished without invoking constructor " ++ name
  | parameterCountMismatch expected actual =>
    "Expected " ++ toString expected ++ " parameters, got " ++ toString actual
  | parametersNotSupported phase => phase.name ++ " invocation does not accept parameters"
  | instantiation component site cause =>
    "Cannot instantiate " ++ site.text component ++ ": " ++ cause.message
  | lifecycle component phase cause =>
    phase.name ++ " invocation failed for component " ++ component ++ ": " ++ cause.message
  | businessCall component method cause =>
    "Business method " ++ method ++ " failed for component " ++ component ++ ": " ++ cause.message
  | missingConstructor component => "Component " ++ component ++ " has no usable constructor"
  | alreadyResolved component =>
    "Lifecycle interceptors for component " ++ component ++ " have already been resolved"
  | interceptorCreation name cause =>
    "Cannot create interceptor " ++ name ++ ": " ++ cause.message
  | unknownMethod component method =>
    "Component " ++ component ++ " has no business method named " ++ method
  | unknownComponent request => "Cannot find an injection target for: " ++ request.text
  | dependencyCycle component => "Detected dependency cycle for: " ++ component
  | scopeUnavailable cause =>
    "Cannot resolve contextual instance behind a scope proxy: " ++ cause.message

end Failure

/-- `Rejection` — why a component's description, or its registration, is refused. -/
inductive Rejection where
  /-- The component has no name. -/
  | emptyName
  /-- A member is declared on a level outside the hierarchy. -/
  | unknownLevel (component : String) (member : Member)
  /-- Two constructors have injection points. -/
  | conflictingConstructors (component first second : String)
  /-- The injection points of a member do not cover its parameters exactly once. -/
  | invalidPositions (component member : String) (count : Nat)
  /-- Construction is intercepted, but there is nothing to construct with. -/
  | aroundConstructWithoutConstructor (component : String)
  /-- The type has a definition already. -/
  | duplicateType (component : String)
  /-- The name has a definition already. -/
  | duplicateName (component : String)
  deriving DecidableEq, Repr

/-- `r.message` — the rejection in words. -/
def Rejection.message : Rejection → String
  | emptyName => "Component name must not be empty"
  | unknownLevel component member =>
    "Member " ++ member.name ++ " of component " ++ component ++ " is declared on " ++
      member.level ++ ", which is not part of its hierarchy"
  | conflictingConstructors component first second =>
    "Component " ++ component ++ " has injection points on multiple constructors: " ++ first ++
      " and " ++ second
  | invalidPositions component member count =>
    "Injection points of " ++ member ++ " in component " ++ component ++
      " must cover each of its " ++ toString count ++ " parameters exactly once"
  | aroundConstructWithoutConstructor component =>
    "Component " ++ component ++
      " declares around-construct interceptors, but has no usable constructor"
  | duplicateType component =>
    "Attempted to register a duplicated injection target for type: " ++ component
  | duplicateName component =>
    "Attempted to register a duplicated component with name: " ++ component

end Wiring
