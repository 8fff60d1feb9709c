/-
  What can go wrong with a definition itself.

  While an instance is made, whatever is not a request for a dependency is the definition's own
  business.  `d.Stumbles f w` — one of these steps has failed with `f`, in the world `w`.  There is one
  rule for each kind of step, in the order in which they come, and it says what the host, or the
  scheme, was asked to do when it failed.

  The rules do not care whether the lifecycle chains were resolved before (`Later.stumbles`).
-/
import Wiring.Proofs.Definition.Attended
import Wiring.Proofs.Definition.Crew

namespace Wiring

namespace Definition

variable {host : Host}

/-- `d.Stumbles f w` — a step of making an instance of `d` has failed with `f`, and left the world `w`. -/
inductive Stumbles (d : Definition host) : Failure → host.World → Prop where
  /-- There are no lifecycle chains to be had. -/
  | unresolved {f w} (h : d.chains = .error f) : Stumbles d f w
  /-- An interceptor could not be made. -/
  | interceptor {chains i cause w w'} (hchains : d.chains = .ok chains) (hi : i ∈ d.crew chains)
    (h : host.make i.maker w = (.error cause, w')) :
    Stumbles d (.interceptorCreation i.name cause) w'
  /-- There is nothing to construct with. -/
  | missing {w} (h : d.component.constructor = none) : Stumbles d (.missingConstructor d.name) w
  /-- The constructor failed, or its chain. -/
  | construction {k live arguments cause w w'} (hk : d.component.constructor = some k)
    (h : d.construct k live arguments w = (.error cause, w')) :
    Stumbles d (.instantiation d.name (.member k.member) cause) w'
  /-- A field refused its value. -/
  | field {p field receiver value cause w w'} (hp : p ∈ d.component.points)
    (hfield : p.field? = some field)
    (h : host.assign field.routine receiver value w = (.error cause, w')) :
    Stumbles d (.instantiation d.name (.member field.member) cause) w'
  /-- An injected method failed. -/
  | method {level m receiver arguments cause w w'} (hlevel : level ∈ d.component.hierarchy)
    (hm : m ∈ d.component.injectedMethods level)
    (h : host.perform m.routine receiver arguments w = (.error cause, w')) :
    Stumbles d (.instantiation d.name (.member m.member) cause) w'
  /-- An initializer failed. -/
  | initializer {level m receiver cause w w'} (hlevel : level ∈ d.component.hierarchy)
    (hm : m ∈ d.component.initializers level)
    (h : host.perform m.routine receiver [] w = (.error cause, w')) :
    Stumbles d (.instantiation d.name (.member m.member) cause) w'
  /-- Platform resources could not be supplied. -/
  | resources {supplier receiver cause w w'} (hsupplier : d.resources = some supplier)
    (h : host.supply supplier receiver w = (.error cause, w')) :
    Stumbles d (.instantiation d.name .resources cause) w'
  /-- What was made is a reference to a scope, which has no instance. -/
  | unavailable {reference cause w w'}
    (h : d.scheme.current reference w = (.error cause, w')) :
    Stumbles d (.scopeUnavailable cause) w'
  /-- The callbacks after construction failed, or their chain. -/
  | callbacks {chains target live cause w w'} (hchains : d.chains = .ok chains)
    (h : (Invocation.lifecycle .postConstruct target chains.postConstruct live
      d.component.postConstruct).during Invocation.proceed w = (.error cause, w')) :
    Stumbles d (.lifecycle d.name .postConstruct cause) w'

variable {d d' : Definition host} {f : Failure} {w w' : host.World}

/-! ## The steps -/

/-- Recruiting stops at the first interceptor that cannot be made. -/
theorem recruit_error {chain : List (Interceptor host.Routine)} :
    ∀ {enlisted w}, recruit chain enlisted w = (.error f, w') →
      ∃ i ∈ chain, ∃ cause v, host.make i.maker v = (.error cause, w') ∧
        f = .interceptorCreation i.name cause := by
  induction chain with
  | nil => exact nofun
  | cons i rest ih =>
    intro enlisted w h
    by_cases hknown : enlisted.contains i.name
    · rw [recruit, if_pos hknown] at h
      obtain ⟨j, hj, hrest⟩ := ih h
      exact ⟨j, List.mem_cons_of_mem i hj, hrest⟩
    · rw [recruit_cons hknown] at h
      rcases hmake : host.make i.maker w with ⟨cause | it, v⟩
      · rw [hmake] at h
        cases h
        exact ⟨i, List.mem_cons_self, cause, w, hmake, rfl⟩
      · rw [hmake] at h
        obtain ⟨j, hj, hrest⟩ := ih h
        exact ⟨j, List.mem_cons_of_mem i hj, hrest⟩

theorem interceptors_error (h : interceptors (d, w) = (.error f, d', w')) : d.Stumbles f w' := by
  rw [interceptors_apply] at h
  cases hchains : d.chains with
  | error g =>
    rw [hchains] at h
    cases h
    exact .unresolved hchains
  | ok chains =>
    rw [hchains] at h
    rcases hrecruit : recruit (d.crew chains) ∅ w with ⟨g | live, v⟩
    · dsimp only at h
      rw [hrecruit] at h
      cases h
      obtain ⟨i, hi, cause, v, hmake, rfl⟩ := recruit_error hrecruit
      exact .interceptor hchains hi hmake
    · dsimp only at h
      rw [hrecruit] at h
      cases h

theorem wrap_error {made : host.Ref} {live : host.LiveSet}
    (h : wrap made live (d, w) = (.error f, d', w')) : d.Stumbles f w' := by
  rw [wrap_apply] at h
  cases hchains : d.chains with
  | error g =>
    rw [hchains] at h
    cases h
    exact .unresolved hchains
  | ok chains =>
    rw [hchains] at h
    dsimp only at h
    split at h <;> cases h

theorem postConstruct_error {reference : host.Ref}
    (h : postConstruct reference (d, w) = (.error f, d', w')) : d.Stumbles f w' := by
  rw [postConstruct, runPhase_apply] at h
  rcases hpresent : d.present reference w with ⟨g | current, v⟩
  · rw [hpresent] at h
    cases h
    obtain ⟨cause, hcurrent, rfl⟩ := present_error hpresent
    exact .unavailable hcurrent
  · rw [hpresent] at h
    dsimp only at h
    split at h
    · cases h
    · cases hchains : d.chains with
      | error g =>
        rw [hchains] at h
        cases h
        exact .unresolved hchains
      | ok chains =>
        rw [hchains] at h
        dsimp only at h
        rcases hrun : Invocation.during _ Invocation.proceed v with ⟨cause | result, u⟩
        · rw [hrun] at h
          cases h
          exact .callbacks hchains hrun
        · rw [hrun] at h
          cases h

/-! ## Later definitions -/

/-- What goes wrong with what has become of a definition goes wrong with it. -/
theorem Later.stumbles (hlater : Later d d') (h : d'.Stumbles f w) : d.Stumbles f w := by
  have hname : d'.name = d.name := hlater.name_eq
  have hcomponent := hlater.component_eq
  have hpoints : d'.component.points = d.component.points := by rw [hcomponent]
  have hhierarchy : d'.component.hierarchy = d.component.hierarchy := by rw [hcomponent]
  cases h with
  | unresolved h => exact .unresolved (hlater.chains_eq ▸ h)
  | interceptor hchains hi h =>
    exact .interceptor (hlater.chains_eq ▸ hchains) (hlater.crew_eq _ ▸ hi) h
  | missing h => exact hname ▸ .missing (hlater.constructor_eq ▸ h)
  | @construction k live arguments cause w _ hk h =>
    have hconstruct : d'.construct k live arguments = d.construct k live arguments := by
      rw [construct, construct, hlater.constructionChain_eq, hlater.settings_eq]
      rfl
    exact hname ▸ .construction (hlater.constructor_eq ▸ hk) (hconstruct ▸ h)
  | field hp hfield h => exact hname ▸ .field (hpoints ▸ hp) hfield h
  | @method level m _ _ _ _ _ hlevel hm h =>
    have hmethods : d'.component.injectedMethods level = d.component.injectedMethods level := by
      rw [hcomponent]
      rfl
    exact hname ▸ .method (hhierarchy ▸ hlevel) (hmethods ▸ hm) h
  | @initializer level m _ _ _ _ hlevel hm h =>
    have hmethods : d'.component.initializers level = d.component.initializers level := by
      rw [hcomponent]
      rfl
    exact hname ▸ .initializer (hhierarchy ▸ hlevel) (hmethods ▸ hm) h
  | resources hsupplier h =>
    have hresources : d'.resources = d.resources := by rw [hlater.settings_eq]
    exact hname ▸ .resources (hresources ▸ hsupplier) h
  | unavailable h => exact .unavailable (hlater.scheme_eq ▸ h)
  | callbacks hchains h =>
    have hcallbacks : d'.component.postConstruct = d.component.postConstruct := by rw [hcomponent]
    exact hname ▸ .callbacks (hlater.chains_eq ▸ hchains) (hcallbacks ▸ h)

end Definition

end Wiring
