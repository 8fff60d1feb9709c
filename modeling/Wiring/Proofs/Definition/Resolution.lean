/-
  How often lifecycle chains are resolved.

  The class-level binding interceptors of a component are handed out once, and there are two who may
  ask for them: the definition, when it first needs its lifecycle chains, and anybody else, who asks
  the component directly and behind the definition's back.

  1. `History first attempts d w` — what has become of the definition `first` and of the world, by
     any uses of the definition and any direct requests; `attempts` are the resolutions on the way.
  2. With declared interceptors, there are four ways for it to be (`Standing`): nobody has asked;
     the definition asked first; somebody else did, and the definition has not asked since, or has.
     Each step keeps to them (`Standing.use`, `Standing.direct`), so every history does.
  3. Whatever a definition does, its chains decide: if they could not be resolved, it is `Barred`,
     and else it `Serves` them.
-/
import Mathlib
import Wiring.Proofs.Definition.Enclosure

namespace Wiring

/-! ## Handing out -/

namespace Component

variable {ρ : Type} {c : Component ρ}

/-- `c.spent` — the component, after its class-level binding interceptors were handed out. -/
def spent (c : Component ρ) : Component ρ :=
  { c with declarations := c.declarations.map (·.taken) }

theorem spent_of_none (h : c.declarations = none) : c.spent = c := by
  rw [spent, h, Option.map_none, ← h]

theorem declarations_spent {declared : Declarations ρ} (h : c.declarations = some declared) :
    c.spent.declarations = some declared.taken := by
  show c.declarations.map (·.taken) = some declared.taken
  rw [h, Option.map_some]

/-- The first to ask gets the chains of the class. -/
theorem takeLifecycle_of_binding
    (h : ∀ declared, c.declarations = some declared → declared.classBinding.isSome) :
    takeLifecycle c = (.ok (.ofSources c.classSources), c.spent) := by
  rw [takeLifecycle]
  cases hd : c.declarations with
  | none =>
    rw [spent_of_none hd, classSources, hd]
    rfl
  | some declared =>
    obtain ⟨binding, hb⟩ := Option.isSome_iff_exists.1 (h declared hd)
    rw [spent, classSources, hd, Option.map_some, Option.map_some, Option.getD_some]
    dsimp only
    rw [hb]
    rfl

/-- All others get nothing. -/
theorem takeLifecycle_spent (h : c.declarations.isSome) :
    takeLifecycle c.spent = (.error (.alreadyResolved c.name), c.spent) := by
  obtain ⟨declared, hd⟩ := Option.isSome_iff_exists.1 h
  rw [takeLifecycle, declarations_spent hd]
  rfl

theorem takeLifecycle_of_none (h : c.declarations = none) : takeLifecycle c = (.ok .none, c) := by
  rw [takeLifecycle, h]

/-- The chains around the constructors are all there still. -/
theorem constructionChain_spent (c : Component ρ) (k : Constructor ρ) :
    c.spent.constructionChain k = c.constructionChain k := by
  cases hd : c.declarations with
  | none => rw [spent_of_none hd]
  | some declared =>
    rw [constructionChain, constructionChain, declarations_spent hd, hd]
    rfl

end Component

namespace Definition

variable {host : Host} {first d d' : Definition host} {w w' : host.World}

/-- `takeDirectly` — the lifecycle chains, asked of the component behind the definition's back. -/
def takeDirectly : Effect (Definition host) (LifecycleChains host.Routine) :=
  Effect.focus (·.component) (fun d c => { d with component := c }) Component.takeLifecycle

/-- `d.Fresh` — nobody has asked for the lifecycle chains yet. -/
structure Fresh (d : Definition host) : Prop where
  resolved : d.resolved = none
  binding : ∀ declared, d.component.declarations = some declared → declared.classBinding.isSome

/-- `d.classChains` — the lifecycle chains that the component declares. -/
def classChains (d : Definition host) : LifecycleChains host.Routine :=
  .ofSources d.component.classSources

/-- `d.spent` — the definition, after somebody else has asked its component. -/
def spent (d : Definition host) : Definition host := { d with component := d.component.spent }

theorem Fresh.takeDirectly_eq (h : first.Fresh) :
    takeDirectly first = (.ok first.classChains, first.spent) := by
  rw [takeDirectly, Effect.focus, Component.takeLifecycle_of_binding h.binding]
  rfl

theorem Fresh.chains_eq (h : first.Fresh) : first.chains = .ok first.classChains := by
  rw [chains, lifecycleChains, h.resolved, Component.takeLifecycle_of_binding h.binding]
  rfl

theorem Fresh.settled_eq (h : first.Fresh) :
    first.settled = { first.spent with resolved := some (.ok first.classChains) } := by
  rw [settled, lifecycleChains, h.resolved, Component.takeLifecycle_of_binding h.binding]
  rfl

/-- Once the component has nothing left, nobody gets it. -/
theorem takeDirectly_of_spent (hdeclared : first.component.declarations.isSome)
    (h : d.component = first.component.spent) :
    takeDirectly d = (.error (.alreadyResolved first.name), d) := by
  rw [takeDirectly, Effect.focus, h, Component.takeLifecycle_spent hdeclared, ← h]
  rfl

theorem Fresh.chains_spent (hfirst : first.Fresh)
    (hdeclared : first.component.declarations.isSome) :
    first.spent.chains = .error (.alreadyResolved first.name) := by
  have hresolved : first.spent.resolved = none := hfirst.resolved
  rw [chains, lifecycleChains, hresolved]
  show (Component.takeLifecycle first.component.spent).1 = _
  rw [Component.takeLifecycle_spent hdeclared]
  rfl

theorem Fresh.component_settled_spent (hfirst : first.Fresh)
    (hdeclared : first.component.declarations.isSome) :
    first.spent.settled.component = first.component.spent := by
  have hresolved : first.spent.resolved = none := hfirst.resolved
  rw [settled, lifecycleChains, hresolved]
  show (Component.takeLifecycle first.component.spent).2 = _
  rw [Component.takeLifecycle_spent hdeclared]

/-! ## Histories -/

/-- `Attempt host` — one resolution of the lifecycle chains. -/
structure Attempt (host : Host) where
  /-- Whether the component was asked directly. -/
  direct : Bool
  result : Except Failure (LifecycleChains host.Routine)

/-- `d.ownAttempts d'` — the resolution that the definition made on its way from `d` to `d'`, if it
    made one: then its first result is known that was not before. -/
def ownAttempts (d d' : Definition host) : List (Attempt host) :=
  match d.resolved, d'.resolved with
  | none, some result => [⟨false, result⟩]
  | _, _ => []

/-- `Use x` — `x` is one of the uses of a definition that may want its lifecycle chains. -/
inductive Use : {α : Type} → Effect (Definition host × host.World) α → Prop where
  | chains : Use (Effect.onLayer lifecycleChains)
  | needsProxy : Use (Effect.onLayer needsProxy)
  | interceptors : Use interceptors
  | wrap (made : host.Ref) (live : host.LiveSet) : Use (wrap made live)
  | postConstruct (reference : host.Ref) : Use (postConstruct reference)
  | preDestroy (reference : host.Ref) : Use (preDestroy reference)

/-- `History first attempts d w` — from `first`, in some world, there has been a series of uses and
    of direct requests, which has led to `d` and the world `w`. -/
inductive History (first : Definition host) :
    List (Attempt host) → Definition host → host.World → Prop where
  | start (w : host.World) : History first [] first w
  | direct {attempts d w} (h : History first attempts d w) :
    History first (attempts ++ [⟨true, (takeDirectly d).1⟩]) (takeDirectly d).2 w
  | use {attempts d w} {α : Type} {x : Effect (Definition host × host.World) α}
    (h : History first attempts d w) (hx : Use x) :
    History first (attempts ++ d.ownAttempts (x (d, w)).2.1) (x (d, w)).2.1 (x (d, w)).2.2
  | produce {attempts d w} (h : History first attempts d w) {P : Type} (live : host.LiveSet)
    (provide : Provider host P) (p : P) :
    History first attempts d (d.produce live provide (p, w)).2.2
  | inject {attempts d w} (h : History first attempts d w) {P : Type} (receiver : host.Ref)
    (provide : Provider host P) (p : P) :
    History first attempts d (d.inject receiver provide (p, w)).2.2
  | elsewhere {attempts d w} (h : History first attempts d w) (w' : host.World) :
    History first attempts d w'

/-- A use resolves the chains at most. -/
theorem Use.later {α : Type} {x : Effect (Definition host × host.World) α} (hx : Use x)
    (d : Definition host) (w : host.World) : Later d (x (d, w)).2.1 := by
  cases hx with
  | chains => exact later_lifecycleChains d
  | needsProxy => exact later_needsProxy d
  | interceptors =>
    rw [interceptors_apply]
    cases d.chains with
    | error f => exact .settled d
    | ok chains => exact .settled d
  | wrap made live =>
    rw [wrap_apply]
    cases d.chains with
    | error f => exact .settled d
    | ok chains =>
      dsimp only
      split <;> exact .settled d
  | postConstruct reference => exact later_runPhase .postConstruct reference d w
  | preDestroy reference => exact later_runPhase .preDestroy reference d w

theorem Later.eq_of_resolved (h : Later d d')
    {result : Except Failure (LifecycleChains host.Routine)}
    (hresolved : d.resolved = some result) : d' = d := by
  rcases h with rfl | rfl
  · rfl
  · exact settled_of_resolved hresolved

theorem ownAttempts_self (d : Definition host) : d.ownAttempts d = [] := by
  rw [ownAttempts]
  cases d.resolved <;> rfl

theorem ownAttempts_settled (h : d.resolved = none) :
    d.ownAttempts d.settled = [⟨false, d.chains⟩] := by
  rw [ownAttempts, h, resolved_settled]

/-- What a definition finds out on its way are its chains. -/
theorem Later.result_of_mem_ownAttempts (h : Later d d') {a : Attempt host}
    (ha : a ∈ d.ownAttempts d') : a.result = d.chains := by
  rcases h with rfl | rfl
  · rw [ownAttempts_self] at ha
    cases ha
  · cases hresolved : d.resolved with
    | some result =>
      rw [settled_of_resolved hresolved, ownAttempts_self] at ha
      cases ha
    | none =>
      rw [ownAttempts_settled hresolved] at ha
      rw [List.mem_singleton.1 ha]

/-- **The first result stays.**  From a definition that knows it, every history leads to one that
    knows the same. -/
theorem History.resolved_eq {attempts : List (Attempt host)} (h : History first attempts d w)
    {result : Except Failure (LifecycleChains host.Routine)}
    (hresolved : first.resolved = some result) : d.resolved = some result := by
  induction h with
  | start w => exact hresolved
  | direct _ ih => exact ih
  | @use attempts d w α x _ hx ih =>
    rw [(hx.later d w).eq_of_resolved ih]
    exact ih
  | produce _ _ _ _ ih => exact ih
  | inject _ _ _ _ ih => exact ih
  | elsewhere _ _ ih => exact ih

/-! ## Who came first -/

/-- `a.Late first` — the attempt came too late for the binding interceptors of `first`. -/
def Attempt.Late (first : Definition host) (a : Attempt host) : Prop :=
  a.result = .error (.alreadyResolved first.name)

/-- `Standing first attempts d` — how it stands with the chains of a definition with declared
    interceptors. -/
inductive Standing (first : Definition host) : List (Attempt host) → Definition host → Prop where
  /-- Nobody has asked. -/
  | untouched : Standing first [] first
  /-- The definition asked first; since then, only others have. -/
  | owned {rest} (hrest : ∀ a ∈ rest, a.direct = true ∧ a.Late first) :
    Standing first (⟨false, .ok first.classChains⟩ :: rest) first.settled
  /-- Somebody else asked first, and the definition has not asked. -/
  | robbed {rest} (hrest : ∀ a ∈ rest, a.Late first) :
    Standing first (⟨true, .ok first.classChains⟩ :: rest) first.spent
  /-- Somebody else asked first, and the definition knows by now. -/
  | refused {rest} (hrest : ∀ a ∈ rest, a.Late first) :
    Standing first (⟨true, .ok first.classChains⟩ :: rest) first.spent.settled

namespace Standing

variable {attempts : List (Attempt host)} {rest : List (Attempt host)}

/-- A use makes the definition ask, unless it has asked before. -/
theorem use (hfirst : first.Fresh) (hdeclared : first.component.declarations.isSome)
    (h : Standing first attempts d) (hlater : Later d d') :
    Standing first (attempts ++ d.ownAttempts d') d' := by
  rcases hlater with rfl | rfl
  · rw [ownAttempts_self, List.append_nil]
    exact h
  · cases h with
    | untouched =>
      rw [ownAttempts_settled hfirst.resolved, hfirst.chains_eq]
      exact .owned nofun
    | owned hrest =>
      rw [settled_settled, ownAttempts_self, List.append_nil]
      exact .owned hrest
    | robbed hrest =>
      -- too late for the definition, which keeps the refusal for its result
      have hresolved : first.spent.resolved = none := hfirst.resolved
      rw [ownAttempts_settled hresolved, hfirst.chains_spent hdeclared]
      apply Standing.refused
      exact List.forall_mem_append.2 ⟨hrest, List.forall_mem_singleton.2 rfl⟩
    | refused hrest =>
      rw [settled_settled, ownAttempts_self, List.append_nil]
      exact .refused hrest

/-- Once anybody has asked, the component has nothing left. -/
theorem component_eq (hfirst : first.Fresh) (hdeclared : first.component.declarations.isSome)
    (h : Standing first attempts d) (hne : attempts ≠ []) :
    d.component = first.component.spent := by
  cases h with
  | untouched => exact absurd rfl hne
  | owned _ => rw [hfirst.settled_eq]; rfl
  | robbed _ => rfl
  | refused _ => exact hfirst.component_settled_spent hdeclared

theorem takeDirectly_eq (hfirst : first.Fresh) (hdeclared : first.component.declarations.isSome)
    (h : Standing first attempts d) (hne : attempts ≠ []) :
    takeDirectly d = (.error (.alreadyResolved first.name), d) :=
  takeDirectly_of_spent hdeclared (h.component_eq hfirst hdeclared hne)

/-- A direct request gets the binding interceptors if it is the very first; else it gets nothing,
    and changes nothing. -/
theorem direct (hfirst : first.Fresh) (hdeclared : first.component.declarations.isSome)
    (h : Standing first attempts d) :
    Standing first (attempts ++ [⟨true, (takeDirectly d).1⟩]) (takeDirectly d).2 := by
  have htake := h.takeDirectly_eq hfirst hdeclared
  cases h with
  | untouched =>
    rw [hfirst.takeDirectly_eq]
    exact .robbed nofun
  | owned hrest =>
    rw [htake (List.cons_ne_nil _ _)]
    apply Standing.owned
    exact List.forall_mem_append.2 ⟨hrest, List.forall_mem_singleton.2 ⟨rfl, rfl⟩⟩
  | robbed hrest =>
    rw [htake (List.cons_ne_nil _ _)]
    apply Standing.robbed
    exact List.forall_mem_append.2 ⟨hrest, List.forall_mem_singleton.2 rfl⟩
  | refused hrest =>
    rw [htake (List.cons_ne_nil _ _)]
    apply Standing.refused
    exact List.forall_mem_append.2 ⟨hrest, List.forall_mem_singleton.2 rfl⟩

end Standing

/-- The INVARIANT of histories, where interceptors are declared. -/
theorem History.standing {attempts : List (Attempt host)} (h : History first attempts d w)
    (hfirst : first.Fresh) (hdeclared : first.component.declarations.isSome) :
    Standing first attempts d := by
  induction h with
  | start w => exact .untouched
  | direct _ ih => exact ih.direct hfirst hdeclared
  | @use attempts d w α x _ hx ih => exact ih.use hfirst hdeclared (hx.later d w)
  | produce _ _ _ _ ih => exact ih
  | inject _ _ _ _ ih => exact ih
  | elsewhere _ _ ih => exact ih

/-- Where none are declared, every attempt gives empty chains, and nothing is ever lost. -/
theorem History.of_undeclared {attempts : List (Attempt host)} (h : History first attempts d w)
    (hfirst : first.Fresh) (hnone : first.component.declarations = none) :
    Later first d ∧ d.component.declarations = none ∧ ∀ a ∈ attempts, a.result = .ok .none := by
  have hchains : first.chains = .ok .none := by
    rw [chains, lifecycleChains, hfirst.resolved, Component.takeLifecycle_of_none hnone]
  have hcomponent : ∀ {d}, Later first d → d.component.declarations = none := by
    rintro d (rfl | rfl)
    · exact hnone
    · rw [settled, lifecycleChains, hfirst.resolved, Component.takeLifecycle_of_none hnone]
      exact hnone
  induction h with
  | start w => exact ⟨.refl first, hnone, List.forall_mem_nil _⟩
  | @direct attempts d w _ ih =>
    obtain ⟨hlater, hd, hresults⟩ := ih
    have htake : takeDirectly d = (.ok .none, d) := by
      rw [takeDirectly, Effect.focus, Component.takeLifecycle_of_none hd]
    rw [htake]
    exact ⟨hlater, hd, List.forall_mem_append.2 ⟨hresults, List.forall_mem_singleton.2 rfl⟩⟩
  | @use attempts d w α x _ hx ih =>
    obtain ⟨hlater, hd, hresults⟩ := ih
    have hd' := hx.later d w
    refine ⟨hlater.trans hd', hcomponent (hlater.trans hd'),
      List.forall_mem_append.2 ⟨hresults, fun a ha => ?_⟩⟩
    rw [hd'.result_of_mem_ownAttempts ha]
    exact hlater.chains_eq.trans hchains
  | produce _ _ _ _ ih => exact ih
  | inject _ _ _ _ ih => exact ih
  | elsewhere _ _ ih => exact ih

/-! ## What the chains decide -/

/-- `d.Barred f` — every use that wants the chains fails with `f`.  A lifecycle phase wants them
    unless the scope proxy that it runs on fails, or there is no interception proxy and no callback. -/
structure Barred (d : Definition host) (f : Failure) : Prop where
  lifecycleChains : (lifecycleChains d).1 = .error f
  needsProxy : (needsProxy d).1 = .error f
  interceptors : ∀ w, (interceptors (d, w)).1 = .error f
  wrap : ∀ made live w, (wrap made live (d, w)).1 = .error f
  runPhase : ∀ phase reference w, (runPhase phase reference (d, w)).1 =
    match (d.present reference w).1 with
    | .error g => .error g
    | .ok current =>
      if d.scheme.carrier? current = none ∧ d.component.callbacks phase = [] then .ok ()
      else .error f

/-- `d.Serves chains` — no use fails for want of the chains, and they are `chains`. -/
structure Serves (d : Definition host) (chains : LifecycleChains host.Routine) : Prop where
  lifecycleChains : (lifecycleChains d).1 = .ok chains
  needsProxy : (needsProxy d).1 = .ok (d.wanted chains)
  wrap : ∀ made live w, ∃ reference, (wrap made live (d, w)).1 = .ok reference
  interceptors : ∀ w name, (interceptors (d, w)).1 ≠ .error (.alreadyResolved name)
  runPhase : ∀ phase reference w name,
    (runPhase phase reference (d, w)).1 ≠ .error (.alreadyResolved name)

theorem barred_of_chains {f : Failure} (h : d.chains = .error f) : d.Barred f where
  lifecycleChains := h
  needsProxy := by
    rw [needsProxy_apply, h]
    rfl
  interceptors w := by rw [interceptors_apply, h]
  wrap made live w := by rw [wrap_apply, h]
  runPhase phase reference w := by
    rw [runPhase_apply, h]
    rcases d.present reference w with ⟨g | current, w'⟩
    · rfl
    · dsimp only
      have hcondition : ((d.scheme.carrier? current).isNone &&
          (d.component.callbacks phase).isEmpty) = true ↔
          d.scheme.carrier? current = none ∧ d.component.callbacks phase = [] := by
        rw [Bool.and_eq_true, Option.isNone_iff_eq_none, List.isEmpty_iff]
      by_cases hidle : d.scheme.carrier? current = none ∧ d.component.callbacks phase = []
      · rw [if_pos hidle, if_pos (hcondition.2 hidle)]
      · rw [if_neg hidle, if_neg (mt hcondition.1 hidle)]

/-- What an interceptor factory fails with names the interceptor. -/
theorem recruit_ne_alreadyResolved (chain : List (Interceptor host.Routine)) (name : String) :
    ∀ enlisted w, (recruit chain enlisted w).1 ≠ .error (.alreadyResolved name) := by
  induction chain with
  | nil =>
    intro enlisted w h
    cases h
  | cons i rest ih =>
    intro enlisted w
    by_cases hknown : enlisted.contains i.name
    · rw [recruit, if_pos hknown]
      exact ih enlisted w
    · rw [recruit_cons hknown]
      rcases host.make i.maker w with ⟨f | it, w'⟩
      · intro h
        cases h
      · exact ih _ w'

theorem present_ne_alreadyResolved (d : Definition host) (reference : host.Ref) (w : host.World)
    (name : String) : (d.present reference w).1 ≠ .error (.alreadyResolved name) := by
  rw [present, Effect.bind_pure_apply, Effect.blaming_apply]
  rcases (d.scheme.current reference w).1 with f | current
  · intro h
    cases h
  · intro h
    cases h

theorem serves_of_chains {chains : LifecycleChains host.Routine} (h : d.chains = .ok chains) :
    d.Serves chains where
  lifecycleChains := h
  needsProxy := by
    rw [needsProxy_apply, h, ← (Later.settled d).wanted_eq chains]
    rfl
  wrap made live w := by
    rw [wrap_apply, h]
    dsimp only
    split
    · exact ⟨_, rfl⟩
    · exact ⟨made, rfl⟩
  interceptors w name := by
    rw [interceptors_apply, h]
    exact recruit_ne_alreadyResolved _ name ∅ w
  runPhase phase reference w name := by
    have hpresent := d.present_ne_alreadyResolved reference w name
    rw [runPhase_apply, h]
    rcases hr : d.present reference w with ⟨f | current, w'⟩
    · rw [hr] at hpresent
      intro heq
      cases heq
      exact hpresent rfl
    · dsimp only
      split
      · exact nofun
      · -- what the callbacks fail with is told as a failure of the phase
        cases (Invocation.during _ Invocation.proceed w').1 with
        | error f => exact nofun
        | ok _ => exact nofun

/-! ## Making instances -/

variable {P : Type}

/-- Neither the constructor nor its chain is a class-level matter. -/
theorem produce_spent (d : Definition host) (live : host.LiveSet) (provide : Provider host P) :
    d.spent.produce live provide = d.produce live provide := by
  have hconstruct : d.spent.construct = d.construct := by
    funext k live arguments
    have hchain : d.spent.component.constructionChain k = d.component.constructionChain k :=
      d.component.constructionChain_spent k
    rw [construct, construct, hchain]
    rfl
  have hconstructor : d.spent.component.constructor = d.component.constructor := rfl
  rw [produce, produce, hconstructor]
  cases d.component.constructor with
  | none => rfl
  | some k =>
    dsimp only
    rw [hconstruct]
    rfl

/-- `d.MakesLike first` — instances of `d` are made and wired like those of `first`. -/
def MakesLike (d first : Definition host) : Prop :=
  ∀ (P : Type) (provide : Provider host P),
    (∀ live, d.produce live provide = first.produce live provide) ∧
    ∀ receiver, d.inject receiver provide = first.inject receiver provide

theorem makesLike_spent (d : Definition host) : d.spent.MakesLike d :=
  fun _ provide => ⟨fun live => d.produce_spent live provide, fun _ => rfl⟩

/-- What has been resolved is nothing to an instance. -/
theorem makesLike_resolved (d : Definition host)
    (result : Option (Except Failure (LifecycleChains host.Routine))) :
    MakesLike { d with resolved := result } d :=
  fun _ _ => ⟨fun _ => rfl, fun _ => rfl⟩

theorem MakesLike.trans {d'' : Definition host} (h : d.MakesLike d') (h' : d'.MakesLike d'') :
    d.MakesLike d'' := fun P provide =>
  ⟨fun live => ((h P provide).1 live).trans ((h' P provide).1 live),
    fun receiver => ((h P provide).2 receiver).trans ((h' P provide).2 receiver)⟩

theorem Fresh.makesLike_settled (h : first.Fresh) : first.settled.MakesLike first := by
  rw [h.settled_eq]
  exact (makesLike_resolved _ _).trans first.makesLike_spent

/-- Somebody else's asking is nothing to it, either. -/
theorem Fresh.makesLike_refused (h : first.Fresh)
    (hdeclared : first.component.declarations.isSome) : first.spent.settled.MakesLike first := by
  have hsettled :
      first.spent.settled = { first.spent with resolved := first.spent.settled.resolved } := by
    have hsettings := (Later.settled first.spent).settings_eq
    rw [h.component_settled_spent hdeclared] at hsettings
    exact hsettings
  rw [hsettled]
  exact (makesLike_resolved _ _).trans first.makesLike_spent

theorem Standing.makesLike {attempts : List (Attempt host)} (h : Standing first attempts d)
    (hfirst : first.Fresh) (hdeclared : first.component.declarations.isSome) :
    d.MakesLike first := by
  cases h with
  | untouched => exact fun _ _ => ⟨fun _ => rfl, fun _ => rfl⟩
  | owned _ => exact hfirst.makesLike_settled
  | robbed _ => exact first.makesLike_spent
  | refused _ => exact hfirst.makesLike_refused hdeclared

/-- **Lifecycle chains are resolved once and stay.**  Let `first` be a definition that nobody has
    asked for its lifecycle chains, and let any uses and direct requests have led to `d`.
    1. Whatever is done from here on, the first result of `lifecycleChains` is the result of every
       later call.
    2. With declared interceptors, the first attempt of all gets the chains of the class, and every
       other is told that they are resolved already.
       If it was a direct request, the definition is barred for ever.
       If it was the definition, direct requests are all that fails, and the definition serves its
       chains for ever.
    3. Without declared interceptors, every attempt gets empty chains, and the definition serves
       them.
    4. The making and the wiring of instances are the same as ever. -/
theorem lifecycleChains_resolved_once {host : Host} {first d : Definition host} {w : host.World}
    {attempts : List (Attempt host)} (hfirst : first.Fresh) (h : History first attempts d w) :
    (∀ more d' w', History (lifecycleChains d).2 more d' w' →
      lifecycleChains d' = ((lifecycleChains d).1, d')) ∧
    (first.component.declarations.isSome → ∀ a rest, attempts = a :: rest →
      a.result = .ok first.classChains ∧ (∀ b ∈ rest, b.Late first) ∧
      (a.direct = true → d.Barred (.alreadyResolved first.name)) ∧
      (a.direct = false → d.Serves first.classChains ∧ (∀ b ∈ rest, b.direct = true) ∧
        (takeDirectly d).1 = .error (.alreadyResolved first.name))) ∧
    (first.component.declarations = none → (∀ a ∈ attempts, a.result = .ok .none) ∧
      (takeDirectly d).1 = .ok .none ∧ d.Serves .none) ∧
    d.MakesLike first := by
  refine ⟨fun more d' w' hmore => ?_, fun hdeclared a rest hattempts => ?_, fun hnone => ?_, ?_⟩
  · have hresolved := hmore.resolved_eq d.resolved_settled
    rw [lifecycleChains_apply d', chains_of_resolved hresolved, settled_of_resolved hresolved]
    rfl
  · have hstanding := h.standing hfirst hdeclared
    have hne : attempts ≠ [] := by rw [hattempts]; exact nofun
    have htake : (takeDirectly d).1 = .error (.alreadyResolved first.name) := by
      rw [hstanding.takeDirectly_eq hfirst hdeclared hne]
    cases hstanding with
    | untouched => cases hattempts
    | owned hrest =>
      cases hattempts
      have hchains := (Later.settled first).chains_eq.trans hfirst.chains_eq
      exact ⟨rfl, fun b hb => (hrest b hb).2, nofun,
        fun _ => ⟨serves_of_chains hchains, fun b hb => (hrest b hb).1, htake⟩⟩
    | robbed hrest =>
      cases hattempts
      exact ⟨rfl, hrest, fun _ => barred_of_chains (hfirst.chains_spent hdeclared), nofun⟩
    | refused hrest =>
      cases hattempts
      have hchains := (Later.settled first.spent).chains_eq.trans (hfirst.chains_spent hdeclared)
      exact ⟨rfl, hrest, fun _ => barred_of_chains hchains, nofun⟩
  · obtain ⟨hlater, hd, hresults⟩ := h.of_undeclared hfirst hnone
    have hchains : d.chains = .ok .none := by
      rw [hlater.chains_eq, chains, lifecycleChains, hfirst.resolved,
        Component.takeLifecycle_of_none hnone]
    refine ⟨hresults, ?_, serves_of_chains hchains⟩
    rw [takeDirectly, Effect.focus, Component.takeLifecycle_of_none hd]
  · cases hdeclared : first.component.declarations with
    | some declared =>
      have hsome : first.component.declarations.isSome := by rw [hdeclared]; rfl
      exact (h.standing hfirst hsome).makesLike hfirst hsome
    | none =>
      rcases (h.of_undeclared hfirst hdeclared).1 with rfl | rfl
      · exact fun _ _ => ⟨fun _ => rfl, fun _ => rfl⟩
      · exact hfirst.makesLike_settled

/-- Somebody else asks first: the definition is barred, its callback before destruction cannot run,
    and only the phase without callbacks goes by on a plain instance.  The definition asks first: it
    serves the chains, whoever asks after it. -/
theorem lifecycleChains_resolved_once_both_ways :
    let outer : Interceptor Nat := .everywhere "outer" 2
    let inner : Interceptor Nat := .everywhere "inner" 4
    let first : Definition Host.numbers :=
      { component := { Component.closing 7 "P" 5 with
          declarations := some { environment := [outer], classBinding := some [inner] } } }
    first.Fresh ∧
    (∃ attempts d w, History first attempts d w ∧ attempts.map (·.direct) = [true, true, false] ∧
      d.Barred (.alreadyResolved "P") ∧
      (runPhase .preDestroy (.plain (7 : Nat)) (d, w)).1 = .error (.alreadyResolved "P") ∧
      (runPhase .postConstruct (.plain (7 : Nat)) (d, w)).1 = .ok ()) ∧
    ∃ attempts d w, History first attempts d w ∧ attempts.map (·.direct) = [false, true] ∧
      d.Serves ⟨[outer, inner], [outer, inner]⟩ := by
  intro outer inner first
  have hfirst : first.Fresh := ⟨rfl, fun declared h => by cases h; rfl⟩
  have hstart := @History.start _ first []
  have hrobbed := hstart.direct.direct.use (.preDestroy (.plain (7 : Nat)))
  have howned := (hstart.use .needsProxy).direct
  refine ⟨hfirst, ⟨_, _, _, hrobbed, by cbv, ?_⟩, _, _, _, howned, by cbv, ?_⟩
  · obtain ⟨-, hdeclared, -, -⟩ := lifecycleChains_resolved_once hfirst hrobbed
    obtain ⟨-, -, hdirect, -⟩ := hdeclared rfl _ _ rfl
    have hbarred := hdirect rfl
    exact ⟨hbarred, (hbarred.runPhase ..).trans rfl, (hbarred.runPhase ..).trans rfl⟩
  · obtain ⟨-, hdeclared, -, -⟩ := lifecycleChains_resolved_once hfirst howned
    obtain ⟨-, -, -, hown⟩ := hdeclared rfl _ _ rfl
    exact (hown rfl).1

end Definition

end Wiring
