/-
  Interceptors that only pass on are invisible.

  1. Two shortcuts are taken where a chain is empty: a business method and a constructor are called
     directly.  Both are the general path through an empty chain (`invoke_eq_during`,
     `construct_eq_during`), so they need no further attention.
  2. On the general path a call starts at the beginning of its chain, and what is done afterwards —
     the instance is taken, or the constructor called once more — does not look at the chain
     (`constructing_rechained`).  So a thinned chain does what the whole one does.
  3. `Invisible host live chain chain'` is said of every host.  On `host.overlooking unseen` it speaks
     of the journal: nobody else is entered, left or called in another order or with other arguments.
-/
import Mathlib
import Wiring.Proofs.Definition.Interleaved
import Wiring.Proofs.Invocation.Transparent

namespace Wiring

variable {host : Host}

/-- A business call goes through its chain, also if that is empty. -/
theorem Proxy.invoke_eq_during {p : Proxy host.toVocabulary host.Ref} {name : String}
    {g : Guarded host.Routine} (hg : p.methods.get? name = some g) (arguments : List host.Ref) :
    p.invoke host name arguments =
      Effect.blaming (.businessCall p.component g.method.member.name) (do
        let result ← (Invocation.business p.target g.method g.chain (some p.interceptors)
          arguments).during Invocation.proceed
        return result.getD (.plain host.unit)) := by
  rw [invoke, hg]
  dsimp only
  by_cases hchain : g.chain = []
  · rw [if_pos (List.isEmpty_iff.2 hchain), hchain]
    refine congrArg _ (funext fun w => ?_)
    rw [Effect.bind_pure_apply, Invocation.during, Invocation.proceed_of_start rfl rfl]
    show host.call g.method.routine p.target arguments w = _
    rcases hcall : host.call g.method.routine p.target arguments w with ⟨f | result, w'⟩
    all_goals
      simp only [Invocation.business, Invocation.route, Invocation.passage, Route.run, Route.arrive,
        Ending.goal, hcall]
      rfl
  · rw [if_neg (mt List.isEmpty_iff.1 hchain)]

/-- At the end of an empty chain is the constructor. -/
theorem Invocation.proceed_construction_nil (live : host.LiveSet) (k : Constructor host.Routine)
    (arguments : List host.Ref) (w : host.World) :
    let inv : Invocation host.toVocabulary := construction [] (some live) k arguments
    proceed (inv, w) = match host.construct k.routine arguments w with
      | (.ok made, w) =>
        (.ok none, { inv with status := .completed, ending := .construct k (some made) }, w)
      | (.error f, w) => (.error f, { inv with status := .failed }, w) := by
  intro inv
  have hroute : inv.route = ⟨.aroundConstruct, some live, .construct k⟩ := rfl
  rw [proceed_of_start rfl rfl, hroute]
  simp only [inv, construction, passage, Route.run, Route.arrive]
  rcases host.construct k.routine arguments w with ⟨f | made, w'⟩
  · rfl
  · rfl

namespace Definition

variable {P : Type}

/-- A constructor is called through its chain, also if that is empty. -/
theorem construct_eq_during (d : Definition host) (k : Constructor host.Routine)
    (live : host.LiveSet) (arguments : List host.Ref) :
    d.construct k live arguments =
      (Invocation.construction (d.component.constructionChain k) (some live) k arguments).during
        (d.constructing k) := by
  rw [construct]
  by_cases hchain : d.component.constructionChain k = []
  · rw [if_pos (List.isEmpty_iff.2 hchain), hchain]
    funext w
    have hproceed := Invocation.proceed_construction_nil live k arguments w
    rw [Invocation.during]
    rcases hcall : host.construct k.routine arguments w with ⟨f | made, w'⟩
    · rw [hcall] at hproceed
      rw [constructing, Effect.bind_error hproceed]
    · rw [hcall] at hproceed
      rw [constructing, Effect.bind_ok hproceed]
      rfl
  · rw [if_neg (mt List.isEmpty_iff.1 hchain)]

/-- What follows on the chain around a constructor does not look at it. -/
theorem constructing_rechained (d : Definition host) (k : Constructor host.Routine)
    {inv : Invocation host.toVocabulary} {chain : List (Interceptor host.Routine)} {w : host.World}
    (h : Invocation.SameRechained Invocation.proceed inv chain w) :
    Invocation.SameRechained (d.constructing k) inv chain w := by
  have hdone : ∀ {α : Type} (x : Except Failure α) inv w,
      Invocation.SameRechained (Effect.ofExcept x : Run host α) inv chain w := fun _ _ _ => rfl
  have htaken := fun (inv : Invocation host.toVocabulary) w =>
    Invocation.takeNewInstance_rechained inv chain w
  rw [constructing]
  refine h.bind fun _ inv w => (htaken inv w).bind fun made inv w => ?_
  cases made with
  | some made => exact hdone (.ok made) inv w
  | none =>
    dsimp only
    split
    · exact hdone (.error _) inv w
    · refine (Invocation.proceedDirectly_rechained inv chain w).bind fun _ inv w =>
        (htaken inv w).bind fun made inv w => ?_
      cases made with
      | some made => exact hdone (.ok made) inv w
      | none => exact hdone (.error _) inv w

/-- A constructor is called through a thinned chain as through the whole one. -/
theorem construct_thinned {unseen : host.Live → Bool} (hunseen : host.PassesOn unseen)
    (d : Definition host) (c : Component host.Routine) (k : Constructor host.Routine)
    {live : host.LiveSet}
    (h : Thinned live unseen (d.component.constructionChain k) (c.constructionChain k))
    (arguments : List host.Ref) :
    (d.of c).construct k live arguments = d.construct k live arguments := by
  have hproceed : ∀ w, Invocation.SameRechained Invocation.proceed
      (.construction (d.component.constructionChain k) (some live) k arguments)
      (c.constructionChain k) w := fun w => Invocation.proceed_rechained hunseen rfl rfl h w
  rw [construct_eq_during, construct_eq_during]
  exact funext fun w => (constructing_rechained d k (hproceed w)).during

end Definition

/-- `Invisible host live chain chain'` — with the live interceptors of `live`, it makes no difference
    whether `chain` is gone through or `chain'`. -/
structure Invisible (host : Host) (live : host.LiveSet)
    (chain chain' : List (Interceptor host.Routine)) : Prop where
  /-- A call from the start has the same outcome, leaves the same world, and leaves an invocation that
      differs in its chain alone. -/
  proceed : ∀ {inv : Invocation host.toVocabulary}, inv.supplied = some live → inv.chain = chain →
    inv.cursor = 0 → ∀ w, Invocation.SameRechained Invocation.proceed inv chain' w
  /-- A business call through a proxy has the same outcome and leaves the same world. -/
  invoke : ∀ {p p' : Proxy host.toVocabulary host.Ref} {name : String}
    {method : Operation host.Routine}, p.interceptors = live → p'.interceptors = live →
    p'.component = p.component → p'.target = p.target →
    p.methods.get? name = some ⟨method, chain⟩ → p'.methods.get? name = some ⟨method, chain'⟩ →
    ∀ arguments, p'.invoke host name arguments = p.invoke host name arguments
  /-- So has the making of an instance, whether the definition is strict or not. -/
  produce : ∀ {d : Definition host} {declarations : Option (Declarations host.Routine)}
    {k : Constructor host.Routine}, d.component.constructor = some k →
    d.component.constructionChain k = chain →
    Component.constructionChain { d.component with declarations := declarations } k = chain' →
    ∀ {P : Type} (provide : Provider host P),
      (d.of { d.component with declarations := declarations }).produce live provide =
        d.produce live provide

theorem Thinned.invisible {unseen : host.Live → Bool} (hunseen : host.PassesOn unseen)
    {live : host.LiveSet} {chain chain' : List (Interceptor host.Routine)}
    (h : Thinned live unseen chain chain') : Invisible host live chain chain' where
  proceed hsupplied hchain hcursor w :=
    Invocation.proceed_rechained hunseen hsupplied hcursor (hchain ▸ h) w
  invoke {p p' name method} hlive hlive' hcomponent htarget hp hp' arguments := by
    rw [Proxy.invoke_eq_during hp, Proxy.invoke_eq_during hp', hcomponent, htarget, hlive, hlive']
    have hproceed : ∀ w, Invocation.SameRechained Invocation.proceed
        (.business p.target method chain (some live) arguments) chain' w :=
      fun w => Invocation.proceed_rechained hunseen rfl rfl h w
    have hduring : (Invocation.business p.target method chain' (some live) arguments).during
        Invocation.proceed = (Invocation.business p.target method chain (some live)
          arguments).during Invocation.proceed := funext fun w => (hproceed w).during
    rw [hduring]
  produce {d declarations k} hk hchain hchain' {P} provide := by
    have hconstruct : (d.of { d.component with declarations := declarations }).construct k live =
        d.construct k live := funext fun arguments =>
      Definition.construct_thinned hunseen d _ k (hchain ▸ hchain' ▸ h) arguments
    have hk' : (d.of { d.component with declarations := declarations }).component.constructor =
      some k := hk
    rw [Definition.produce, Definition.produce, hk, hk']
    dsimp only
    rw [hconstruct]
    rfl

/-- Where nobody else is left, nobody is left to be asked. -/
theorem Thinned.of_forall {unseen : host.Live → Bool} {live : host.LiveSet}
    {chain : List (Interceptor host.Routine)}
    (h : ∀ i ∈ chain, ∃ it, live.get? i.name = some it ∧ unseen it = true) :
    Thinned live unseen chain [] := by
  induction chain with
  | nil => exact .nil
  | cons i chain ih =>
    rw [List.forall_mem_cons] at h
    obtain ⟨⟨it, hit, hunseen⟩, h⟩ := h
    exact .deleted hit hunseen (ih h)

/-- **Interceptors that only pass on are invisible.**  Let unseen live interceptors be such that each
    proceeds once, in every phase, and returns what comes of it.

    1. A chain from which some of those are deleted that were supplied with an unseen one is run like
       the whole chain: whatever the phase, the goal, the parameters and the other interceptors,
       outcome, world and invocation are the same.  So are business calls and the making of instances.
    2. They are the same on the host that writes down everything but what the unseen ones are asked:
       the others are entered and left, and everything is called, in the same order and with the same
       arguments and outcomes.
    3. Through a chain of unseen ones alone, a business method and a constructor are called as
       directly as without a chain. -/
theorem pass_through_invisible {host : Host} {unseen : host.Live → Bool}
    (hunseen : host.PassesOn unseen) {live : host.LiveSet}
    {chain chain' : List (Interceptor host.Routine)} (h : Thinned live unseen chain chain') :
    Invisible host live chain chain' ∧ Invisible (host.overlooking unseen) live chain chain' ∧
    ((∀ i ∈ chain, ∃ it, live.get? i.name = some it ∧ unseen it = true) →
      (∀ (p : Proxy host.toVocabulary host.Ref) (name : String) (method : Operation host.Routine),
        p.interceptors = live → p.methods.get? name = some ⟨method, chain⟩ → ∀ arguments,
          p.invoke host name arguments = (host.call method.routine p.target arguments).blaming
            (.businessCall p.component method.member.name)) ∧
      ∀ (d : Definition host) (k : Constructor host.Routine),
        d.component.constructionChain k = chain → ∀ arguments,
          d.construct k live arguments = host.construct k.routine arguments) := by
  have hover : Invisible (host.overlooking unseen) live chain chain' :=
    Thinned.invisible hunseen.overlooking h
  refine ⟨h.invisible hunseen, hover, fun hall => ⟨fun p name method hlive hp arguments => ?_,
    fun d k hchain arguments => ?_⟩⟩
  · let bare : Table String (Guarded host.Routine) := ∅
    let p' := { p with methods := bare.insert name ⟨method, []⟩ }
    have hp' : p'.methods.get? name = some ⟨method, []⟩ :=
      (Table.get?_insert ..).trans (if_pos rfl)
    have hlive' : p'.interceptors = live := hlive
    have hbare := ((Thinned.of_forall hall).invisible hunseen).invoke hlive hlive'
      (show p'.component = p.component from rfl) rfl hp hp' arguments
    rw [← hbare, Proxy.invoke, hp']
    rfl
  · have hnone : Thinned live unseen (d.component.constructionChain k) [] :=
      hchain ▸ Thinned.of_forall hall
    have hbare := Definition.construct_thinned hunseen d { d.component with declarations := none } k
      hnone arguments
    rw [← hbare, Definition.construct]
    rfl

/-- Around a constructor, `audit` and `trail` only pass on, and `twice` proceeds twice.  Without the
    two, the constructor 7 is still called twice, both times from `twice`. -/
theorem pass_through_invisible_around_twice :
    let unseen : Host.numbers.Live → Bool := fun it => decide (4 ≤ (show Nat from it) % 10)
    let audit : Interceptor Nat := .everywhere "audit" 4
    let twice : Interceptor Nat := .everywhere "twice" 2
    let trail : Interceptor Nat := .everywhere "trail" 5
    let live : Host.numbers.LiveSet :=
      Table.ofList [("audit", (14 : Nat)), ("twice", (12 : Nat)), ("trail", (15 : Nat))]
    let inv : Invocation Host.numbers.toVocabulary :=
      .construction [audit, twice, trail] (some live) ⟨⟨⟨"P", "new"⟩, (7 : Nat)⟩, 0⟩ []
    let proceed : Run (Host.numbers.overlooking unseen) _ := Invocation.proceed
    let made : Event Host.numbers.toVocabulary := .constructed (7 : Nat) [] (.ok (.plain (7 : Nat)))
    Host.numbers.PassesOn unseen ∧
      Thinned (V := Host.numbers.toVocabulary) live unseen [audit, twice, trail] [twice] ∧
      (proceed (inv.rechained [twice], [], [])).2.2.2 = (proceed (inv, [], [])).2.2.2 ∧
      (proceed (inv, [], [])).2.2.2 =
        [.entered (12 : Nat) .aroundConstruct, made, made,
          .left (12 : Nat) .aroundConstruct (.ok none)] := by
  intro unseen audit twice trail live inv proceed made
  have hpass : Host.numbers.PassesOn unseen := by
    intro it hit phase
    have hdigit : 4 ≤ (show Nat from it) % 10 := of_decide_eq_true hit
    dsimp only [Host.numbers]
    split
    all_goals first | rfl | simp_all
  have haudit : live.get? "audit" = some (14 : Nat) := by cbv
  have htrail : live.get? "trail" = some (15 : Nat) := by cbv
  have hthinned : Thinned (V := Host.numbers.toVocabulary) live unseen [audit, twice, trail]
      [twice] :=
    .deleted haudit rfl (.kept (.deleted htrail rfl .nil))
  obtain ⟨-, hover, -⟩ := pass_through_invisible hpass hthinned
  have hsame : Invocation.SameRechained proceed inv [twice] ([], []) :=
    hover.proceed rfl rfl rfl ([], [])
  exact ⟨hpass, hthinned, congrArg (·.2.2.2) hsame, by cbv⟩

end Wiring
