/-
  After a chain around a constructor.

  1. `d.conclude k slot ps` is what is left to do when the chain has returned: hand over the
     instance in the slot; or else call the constructor directly, with the parameters as they are by
     then, or fail where the definition is strict.
  2. A construction is its chain and this conclusion (`construct_conclude`).
  3. The slot is read off the journal of the chain (`Journal.latest`), so the direct call and the
     failure are for chains in which no constructor call succeeded.  That is more than the chains
     which never reached the constructor: an interceptor may have swallowed the failure of a call.
-/
import Mathlib
import Wiring.Proofs.Definition.Served
import Wiring.Proofs.Invocation.Made
import Wiring.Proofs.Host.Numbers

namespace Wiring

variable {host : Host}

namespace Invocation

/-- A chain around a constructor leaves the slot as the constructor calls have filled it. -/
theorem proceed_construction (chain : List (Interceptor host.journaled.Routine))
    (supplied : Option host.journaled.LiveSet) (k : Constructor host.journaled.Routine)
    (arguments : List host.journaled.Ref) (w : host.journaled.World) :
    let after := proceed (construction chain supplied k arguments, w)
    ∃ pass, after.2.2.2 = w.2 ++ pass ∧ after.2.1.ending = .construct k (Journal.latest none pass) ∧
      (after.1.isOk = true → after.2.1.status ≠ .failed) := by
  intro after
  let inv : Invocation host.journaled.toVocabulary := construction chain supplied k arguments
  have hpending : inv.status = .pending := rfl
  have hcursor : inv.cursor = 0 := rfl
  have hafter : after = _ := proceed_of_start hpending hcursor w
  obtain ⟨pass, hpass, hmade⟩ := (Route.making_run (r := inv.route) rfl chain).keeps (inv.passage, w)
  rw [hafter]
  refine ⟨pass, hpass, ?_, fun hok => ?_⟩
  · exact (ending_settled_carrying ..).trans (congrArg (Ending.construct k) hmade)
  · show (inv.settled _).status ≠ _
    rw [hok]
    exact Status.noConfusion

/-- A direct call with an empty slot gives what the constructor gives. -/
theorem takeNewInstance_direct {inv : Invocation host.toVocabulary}
    {k : Constructor host.Routine} (hending : inv.ending = .construct k none)
    (hstatus : inv.status ≠ .failed) (w : host.World) :
    ∃ inv', (proceedDirectly >>= fun _ => takeNewInstance : Run host (Option host.Ref)) (inv, w) =
      ((host.construct k.routine inv.parameters w).1.map some, inv',
        (host.construct k.routine inv.parameters w).2) := by
  have hreach := reachEnding_apply (inv, w)
  simp only [hending] at hreach
  rw [Effect.bind_apply, proceedDirectly, if_neg hstatus, hreach]
  rcases host.construct k.routine inv.parameters w with ⟨f | made, w'⟩
  · exact ⟨_, rfl⟩
  · have hfilled : (inv.filled made).ending = .construct k (some made) := by rw [filled, hending]
    dsimp only
    rw [takeNewInstance]
    dsimp only
    rw [takeMade_apply]
    split
    · exact ⟨_, by rw [show ((inv.filled made).finished _).ending = _ from hfilled]; rfl⟩
    · exact ⟨_, by rw [hfilled]; rfl⟩

end Invocation

namespace Definition

/-- `d.conclude k slot ps` — what is left to do after a chain around `k`, with what it has left in
    the slot for the new instance and as parameters. -/
def conclude (d : Definition host) (k : Constructor host.Routine) (slot : Option host.Ref)
    (ps : List host.Ref) : Effect host.World host.Ref :=
  match slot with
  | some made => .done made
  | none => if d.strict then .fail (.constructorNotInvoked k.member.name)
    else host.construct k.routine ps

/-- After the chain comes the conclusion, unless the chain has failed. -/
theorem constructing_conclude (d : Definition host) {k : Constructor host.Routine}
    {s : Invocation host.toVocabulary × host.World} {slot : Option host.Ref}
    (hending : (Invocation.proceed s).2.1.ending = .construct k slot)
    (hstatus : (Invocation.proceed s).1.isOk = true → (Invocation.proceed s).2.1.status ≠ .failed) :
    (∀ f, (Invocation.proceed s).1 = .error f →
      ((d.constructing k s).1, (d.constructing k s).2.2) = (.error f, (Invocation.proceed s).2.2)) ∧
    ∀ result, (Invocation.proceed s).1 = .ok result →
      ((d.constructing k s).1, (d.constructing k s).2.2) =
        d.conclude k slot (Invocation.proceed s).2.1.parameters (Invocation.proceed s).2.2 := by
  rw [constructing]
  rcases hr : Invocation.proceed s with ⟨f | result, inv, w⟩
  · refine ⟨fun g hg => ?_, fun result hresult => ?_⟩
    · cases hg
      rw [Effect.bind_error hr]
    · cases hresult
  · refine ⟨fun g hg => ?_, fun _ _ => ?_⟩
    · cases hg
    rw [hr] at hending hstatus
    have htaken : Invocation.takeNewInstance (inv, w) = (.ok slot, inv.takeMade.2, w) := by
      rw [Invocation.takeNewInstance, Invocation.takeMade_apply, hending]
      rfl
    rw [Effect.bind_ok hr, Effect.bind_ok htaken]
    cases slot with
    | some made => rfl
    | none =>
      dsimp only
      rw [conclude]
      by_cases hstrict : d.strict = true
      · rw [if_pos hstrict, if_pos hstrict]
        rfl
      · rw [if_neg hstrict, if_neg hstrict]
        have hempty : inv.takeMade.2.ending = .construct k none := by
          rw [Invocation.takeMade, hending]
        have hopen : inv.takeMade.2.status ≠ .failed := by
          rw [Invocation.takeMade, hending]
          exact hstatus rfl
        obtain ⟨inv', hdirect⟩ := Invocation.takeNewInstance_direct hempty hopen w
        rw [Invocation.parameters_takeMade] at hdirect
        rw [← bind_assoc]
        rcases hcall : host.construct k.routine inv.parameters w with ⟨f | made, w'⟩
        · rw [hcall] at hdirect
          rw [Effect.bind_error hdirect]
        · rw [hcall] at hdirect
          rw [Effect.bind_ok hdirect]
          rfl

/-- A construction through a chain is the chain and the conclusion. -/
theorem construct_conclude (d : Definition host.journaled) {k : Constructor host.journaled.Routine}
    (hchain : d.component.constructionChain k ≠ []) (live : host.journaled.LiveSet)
    (arguments : List host.journaled.Ref) (w : host.journaled.World) :
    let after := Invocation.proceed
      (Invocation.construction (d.component.constructionChain k) (some live) k arguments, w)
    ∃ (pass : Journal host.toVocabulary) (slot : Option host.journaled.Ref),
      after.2.2.2 = w.2 ++ pass ∧ slot = Journal.latest none pass ∧
      (∀ f, after.1 = .error f → d.construct k live arguments w = (.error f, after.2.2)) ∧
      ∀ result, after.1 = .ok result → d.construct k live arguments w =
        d.conclude k slot after.2.1.parameters after.2.2 := by
  intro after
  obtain ⟨pass, hpass, hending, hstatus⟩ := Invocation.proceed_construction
    (d.component.constructionChain k) (some live) k arguments w
  rw [construct, if_neg fun h => hchain (List.isEmpty_iff.1 h)]
  exact ⟨pass, _, hpass, rfl, d.constructing_conclude hending hstatus⟩

/-- An instance is produced by a construction with the arguments that the provider has given. -/
theorem produce_of_arguments {P : Type} {d : Definition host} {k : Constructor host.Routine}
    (hk : d.component.constructor = some k) (live : host.LiveSet) {provide : Provider host P}
    {s : P × host.World} {arguments : List host.Ref} {p : P} {w : host.World}
    (harguments : d.arguments provide k.member s = (.ok arguments, p, w)) :
    d.produce live provide s =
      ((d.construct k live arguments w).1.mapError (.instantiation d.name (.member k.member)), p,
        (d.construct k live arguments w).2) := by
  rw [produce, hk]
  dsimp only
  rw [Effect.bind_ok harguments]
  rfl

/-- **A direct call follows a chain in which no constructor call succeeded, and no other.**  Let
    construction be intercepted.  Whatever the interceptors, the constructor and the provider do,
    1. if the provider cannot give an argument, neither the chain nor the constructor runs;
    2. a chain that fails is the end of the production;
    3. after a chain that returned, and in which a constructor call succeeded, the instance of the
       last such call is produced, and nothing else runs;
    4. after one in which none did, the strict definition reports that the constructor was not
       invoked, and the lenient one calls it once more, with the parameters that the chain has left,
       and has the outcome of that call;
    5. so if moreover no constructor call failed on the way, then 4 is only for a chain that never
       reached the constructor. -/
theorem direct_call_of_unmade {P : Type} (d : Definition host.journaled)
    {k : Constructor host.journaled.Routine} (hk : d.component.constructor = some k)
    (hchain : d.component.constructionChain k ≠ []) (live : host.journaled.LiveSet)
    (provide : Provider host.journaled P) (s : P × host.journaled.World) :
    (∀ f t, d.arguments provide k.member s = (.error f, t) →
      d.produce live provide s = (.error f, t)) ∧
    ∀ arguments p w, d.arguments provide k.member s = (.ok arguments, p, w) →
      let blame := Failure.instantiation d.name (.member k.member)
      let after := Invocation.proceed
        (Invocation.construction (d.component.constructionChain k) (some live) k arguments, w)
      let call := host.construct k.routine after.2.1.parameters after.2.2.1
      ∃ pass, after.2.2.2 = w.2 ++ pass ∧
        (∀ f, after.1 = .error f → d.produce live provide s = (.error (blame f), p, after.2.2)) ∧
        ∀ result, after.1 = .ok result →
          ((∃ outcome ∈ Journal.constructions pass, outcome.isOk = true) →
            ∃ made, Journal.latest none pass = some made ∧
              d.produce live provide s = (.ok made, p, after.2.2)) ∧
          ((∀ outcome ∈ Journal.constructions pass, outcome.isOk = false) →
            (d.strict = true → d.produce live provide s =
              (.error (blame (.constructorNotInvoked k.member.name)), p, after.2.2)) ∧
            (d.strict = false → d.produce live provide s = (call.1.mapError blame, p, call.2,
              after.2.2.2 ++ [.constructed k.routine after.2.1.parameters call.1]))) ∧
          ((∀ outcome ∈ Journal.constructions pass, outcome.isOk = true) →
            Journal.latest none pass = none → Journal.constructions pass = []) := by
  constructor
  · intro f t herror
    rw [produce, hk]
    exact Effect.bind_error herror
  intro arguments p w harguments blame after call
  obtain ⟨pass, slot, hpass, hslot, herror, hok⟩ := d.construct_conclude hchain live arguments w
  rw [produce_of_arguments hk live harguments]
  refine ⟨pass, hpass, fun f hf => ?_, fun result hresult => ?_⟩
  · rw [herror f hf]
    rfl
  rw [hok result hresult]
  refine ⟨?_, ?_, ?_⟩
  · rintro ⟨outcome, hmem, hmade⟩
    cases slot with
    | none => simp [(Journal.latest_eq_none.1 hslot.symm).2 outcome hmem] at hmade
    | some made => exact ⟨made, hslot.symm, rfl⟩
  · intro hnone
    have hempty : slot = none := hslot.trans (Journal.latest_eq_none.2 ⟨rfl, hnone⟩)
    rw [hempty, conclude]
    constructor
    · intro hstrict
      rw [if_pos hstrict]
      rfl
    · intro hlenient
      rw [if_neg (by rw [hlenient]; exact Bool.noConfusion)]
      rfl
  · intro hall hlatest
    refine List.eq_nil_iff_forall_not_mem.2 fun outcome hmem => ?_
    have hfailed := (Journal.latest_eq_none.1 hlatest).2 outcome hmem
    rw [hall outcome hmem] at hfailed
    cases hfailed

/-- A chain that is cut short: the constructor is called directly. -/
theorem direct_call_of_unmade_cut :
    let k : Constructor Nat := ⟨⟨⟨"P", "new"⟩, 7⟩, 0⟩
    let d : Definition Host.numbers.journaled :=
      { component := Component.guarded 7 "P" [Interceptor.everywhere "cut" 1] }
    let live : Host.numbers.LiveSet := Table.ofList [("cut", (1 : Nat))]
    let provide : Provider Host.numbers.journaled Unit :=
      fun point s => (.ok (.plain point.requires.number), s)
    d.component.constructor = some k ∧ d.component.constructionChain k ≠ [] ∧
      d.produce live provide ((), [], []) =
        (.ok (.plain (7 : Nat)), (), [7],
          [.entered (1 : Nat) .aroundConstruct, .left (1 : Nat) .aroundConstruct (.ok none),
            .constructed (7 : Nat) [] (.ok (.plain (7 : Nat)))]) := by
  intro k d live provide
  have hk : d.component.constructor = some k := rfl
  have hchain : d.component.constructionChain k ≠ [] := List.cons_ne_nil _ _
  refine ⟨hk, hchain, ?_⟩
  have harguments : d.arguments provide k.member ((), [], []) = (.ok [], (), [], []) := by
    dsimp only [d, k, provide]
    cbv
  obtain ⟨pass, hpass, -, hok⟩ :=
    (direct_call_of_unmade d hk hchain live provide ((), [], [])).2 [] () ([], []) harguments
  obtain ⟨-, hdirect, -⟩ := hok none rfl
  obtain rfl : pass = [.entered (1 : Nat) .aroundConstruct,
    .left (1 : Nat) .aroundConstruct (.ok none)] := hpass.symm
  exact (hdirect (List.forall_mem_nil _)).2 rfl

/-- A small host whose interceptors all proceed and swallow the failure of it. -/
def forgiving : Host := { Host.numbers with intercept := fun _ _ => .proceed fun _ => .done (.ok none) }

/-- A constructor that fails is reached by the chain, and its failure swallowed.  It is called once
    more all the same, and where the definition is strict, it is not to have been invoked. -/
theorem direct_call_after_swallowed_failure :
    let k : Constructor Nat := ⟨⟨⟨"P", "new"⟩, 9⟩, 0⟩
    let d : Definition forgiving.journaled :=
      { component := Component.guarded 9 "P" [Interceptor.everywhere "audit" 4] }
    let live : forgiving.LiveSet := Table.ofList [("audit", (4 : Nat))]
    let provide : Provider forgiving.journaled Unit :=
      fun point s => (.ok (.plain point.requires.number), s)
    let failed : Event forgiving.toVocabulary := .constructed (9 : Nat) [] (.error (.raised "nine"))
    let pass : Journal forgiving.toVocabulary :=
      [.entered (4 : Nat) .aroundConstruct, failed, .left (4 : Nat) .aroundConstruct (.ok none)]
    let after := Invocation.proceed
      (Invocation.construction (d.component.constructionChain k) (some live) k [], [], [])
    let blame := Failure.instantiation "P" (.member k.member)
    after.1 = .ok none ∧ after.2.2 = ([9], pass) ∧ Journal.constructions pass ≠ [] ∧
      d.produce live provide ((), [], []) =
        (.error (blame (.raised "nine")), (), [9, 9], pass ++ [failed]) ∧
      { d with strict := true }.produce live provide ((), [], []) =
        (.error (blame (.constructorNotInvoked "new")), (), [9], pass) := by
  intro k d live provide failed pass after blame
  refine ⟨rfl, rfl, List.cons_ne_nil _ _, ?_, ?_⟩
  all_goals
    dsimp only [d, k, live, provide, failed, pass, blame]
    cbv

end Definition

end Wiring
