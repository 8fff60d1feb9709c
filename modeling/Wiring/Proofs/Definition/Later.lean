/-
  `Later d d'` — `d'` is what may have become of the definition `d` while it was in use.

  The lifecycle chains are resolved at most once, so there are only two possibilities, and the
  second one is final.  What is lost in between are the class-level interceptors that the chains
  consumed; everything that instances are made by stays the same.
-/
import Wiring.Definition.Basic

namespace Wiring

namespace Component

variable {ρ : Type}

/-- Taking the lifecycle chains changes the declarations at most. -/
theorem takeLifecycle_component (c : Component ρ) :
    (takeLifecycle c).2 = { c with declarations := (takeLifecycle c).2.declarations } := by
  rw [takeLifecycle]
  cases c.declarations with
  | none => rfl
  | some d => cases hb : d.classBinding <;> simp [hb]

/-- Of the declarations, only those of whole classes count for the lifecycle chains. -/
theorem constructionChain_takeLifecycle (c : Component ρ) (k : Constructor ρ) :
    (takeLifecycle c).2.constructionChain k = c.constructionChain k := by
  rw [takeLifecycle]
  cases hd : c.declarations with
  | none => rfl
  | some d =>
    cases hb : d.classBinding with
    | none => simp [hb]
    | some binding =>
      simp only [hb]
      rw [constructionChain, constructionChain, hd]
      rfl

theorem invocationChain_takeLifecycle (c : Component ρ) (name : String) :
    (takeLifecycle c).2.invocationChain name = c.invocationChain name := by
  rw [takeLifecycle]
  cases hd : c.declarations with
  | none => rfl
  | some d =>
    cases hb : d.classBinding with
    | none => simp [hb]
    | some binding =>
      simp only [hb]
      rw [invocationChain, invocationChain, hd]
      rfl

end Component

namespace Definition

variable {host : Host}

/-- `d.settled` — `d` with its lifecycle chains resolved. -/
def settled (d : Definition host) : Definition host := (lifecycleChains d).2

/-- `d.chains` — the first result of resolving the lifecycle chains of `d`. -/
def chains (d : Definition host) : Except Failure (LifecycleChains host.Routine) :=
  (lifecycleChains d).1

/-- `Later d d'` — `d'` is `d`, before or after the resolution of its lifecycle chains. -/
def Later (d d' : Definition host) : Prop := d' = d ∨ d' = d.settled

theorem settled_of_resolved {d : Definition host}
    {r : Except Failure (LifecycleChains host.Routine)} (h : d.resolved = some r) :
    d.settled = d := by
  rw [settled, lifecycleChains, h]

theorem chains_of_resolved {d : Definition host}
    {r : Except Failure (LifecycleChains host.Routine)} (h : d.resolved = some r) :
    d.chains = r := by
  rw [chains, lifecycleChains, h]

/-- The first result is kept. -/
theorem resolved_settled (d : Definition host) : d.settled.resolved = some d.chains := by
  cases h : d.resolved with
  | some r => rw [settled_of_resolved h, chains_of_resolved h, h]
  | none => rw [settled, chains, lifecycleChains, h]

theorem settled_settled (d : Definition host) : d.settled.settled = d.settled :=
  settled_of_resolved d.resolved_settled

theorem chains_settled (d : Definition host) : d.settled.chains = d.chains :=
  chains_of_resolved d.resolved_settled

theorem lifecycleChains_apply (d : Definition host) : lifecycleChains d = (d.chains, d.settled) :=
  rfl

/-- `d.wanted chains` — whether the chains, or those of a business method of `d`, have an
    interceptor. -/
def wanted (d : Definition host) (chains : LifecycleChains host.Routine) : Bool :=
  !chains.isEmpty || d.businessMethods.values.any (!·.chain.isEmpty)

theorem needsProxy_apply (d : Definition host) :
    needsProxy d = (d.chains.map d.settled.wanted, d.settled) := by
  show (lifecycleChains >>= _ : Effect (Definition host) Bool) d = _
  rw [Effect.bind_apply, lifecycleChains_apply]
  cases d.chains with
  | error f => rfl
  | ok chains => rfl

namespace Later

variable {d d' d'' : Definition host}

theorem refl (d : Definition host) : Later d d := Or.inl rfl

theorem settled (d : Definition host) : Later d d.settled := Or.inr rfl

theorem trans (h : Later d d') (h' : Later d' d'') : Later d d'' := by
  rcases h with rfl | rfl
  · exact h'
  · rcases h' with rfl | rfl
    · exact Or.inr rfl
    · exact Or.inr d.settled_settled

theorem chains_eq (h : Later d d') : d'.chains = d.chains := by
  rcases h with rfl | rfl
  · rfl
  · exact d.chains_settled

/-- The description is the same but for the declared interceptors. -/
theorem component_eq (h : Later d d') :
    d'.component = { d.component with declarations := d'.component.declarations } := by
  rcases h with rfl | rfl
  · rfl
  · cases hr : d.resolved with
    | some r => rw [settled_of_resolved hr]
    | none =>
      rw [Definition.settled, lifecycleChains, hr]
      exact d.component.takeLifecycle_component

/-- The settings made for it never change. -/
theorem settings_eq (h : Later d d') :
    d' = { d with component := d'.component, resolved := d'.resolved } := by
  rcases h with rfl | rfl
  · rfl
  · rw [Definition.settled, lifecycleChains]
    split <;> rfl

theorem scheme_eq (h : Later d d') : d'.scheme = d.scheme := by rw [h.settings_eq]

theorem type_eq (h : Later d d') : d'.component.type = d.component.type := by
  rw [h.component_eq]

theorem name_eq (h : Later d d') : d'.name = d.name := by
  rw [name, h.component_eq, name]

theorem constructor_eq (h : Later d d') : d'.component.constructor = d.component.constructor := by
  rw [h.component_eq]
  rfl

end Later

end Definition

end Wiring
