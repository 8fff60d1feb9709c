/-
  What comes of producing an instance.

  1. `provide.noted` notes down what it answers, and leaves the journal alone, so that it can be told
     what was asked for, and that nothing was called before.
  2. `d.Makes k live values w outcome t` — what may come of a construction, from the arguments on.  An
     empty chain is a single call.  Otherwise the chain decides: it fails; or it returns, and then the
     instance of the last call that succeeded counts, and where there is none, it is a failure or one
     more call.
  3. `d.Produces live s outcome t` puts the requests in front of it: without a constructor nothing is
     done, and the first request that is refused is the last thing that happens.
  4. Both have one rule for each case of the program, which exclude one another, so a production that
     satisfies them (`produces_produce`) is told what it does.
-/
import Mathlib
import Wiring.Proofs.Definition.Fallback
import Wiring.Proofs.Injection.Requests

namespace Wiring

variable {host : Host} {P : Type}

/-! ## Requests that are noted -/

/-- `Note V` — an injection point, and what it was answered with. -/
abbrev Note (V : Vocabulary) : Type := Point V.Routine × Except Failure (Reference V)

/-- `provide.noted` — `provide`, with its answers noted beside its state.  The journal is not its
    business. -/
def Provider.noted (provide : Provider host P) :
    Provider host.journaled (P × List (Note host.toVocabulary)) := fun point s =>
  let (outcome, p, w) := provide point (s.1.1, s.2.1)
  let note : Note host.toVocabulary := (point, outcome)
  (outcome, (p, s.1.2 ++ [note]), w, s.2.2)

/-- `noting` — what is noted, while nothing is written in the journal. -/
def Note.noting : Course ((P × List (Note host.toVocabulary)) × host.journaled.World)
    (Note host.toVocabulary) where
  rel notes s t := t.1.2 = s.1.2 ++ notes ∧ t.2.2 = s.2.2
  stay s := ⟨(List.append_nil s.1.2).symm, rfl⟩
  append := by
    rintro notes notes' s t u ⟨h, hlog⟩ ⟨h', hlog'⟩
    exact ⟨by rw [h', h, List.append_assoc], hlog'.trans hlog⟩

theorem Note.noting_provide (provide : Provider host P) (p : Point host.Routine)
    (s : (P × List (Note host.toVocabulary)) × host.journaled.World) :
    noting.rel [(p, (provide.noted p s).1)] s (provide.noted p s).2 := ⟨rfl, rfl⟩

namespace Definition

/-! ## From the arguments on -/

section

variable (d : Definition host.journaled) (k : Constructor host.journaled.Routine)
  (live : host.journaled.LiveSet) (values : List host.journaled.Ref) (w : host.journaled.World)

/-- `d.Makes k live values w outcome t` — with the arguments `values`, the construction by `k` leads
    from `w` to `t` and has the outcome. -/
inductive Makes : Except Failure host.journaled.Ref → host.journaled.World → Prop where
  /-- Without interceptors, the constructor is called once, and decides. -/
  | direct {outcome w'} (hchain : d.component.constructionChain k = [])
    (hcall : host.construct k.routine values w.1 = (outcome, w')) :
    Makes outcome (w', w.2 ++ [.constructed k.routine values outcome])
  /-- A chain that fails is the end of it, whatever was made on the way. -/
  | failed {f inv t} (hchain : d.component.constructionChain k ≠ [])
    (hafter : Invocation.proceed (Invocation.construction (d.component.constructionChain k)
      (some live) k values, w) = (.error f, inv, t)) : Makes (.error f) t
  /-- A chain has returned, and the last call in it that succeeded has made the instance. -/
  | made {result inv t pass before made after} (hchain : d.component.constructionChain k ≠ [])
    (hafter : Invocation.proceed (Invocation.construction (d.component.constructionChain k)
      (some live) k values, w) = (.ok result, inv, t)) (hpass : t.2 = w.2 ++ pass)
    (hlast : Journal.constructions pass = before ++ .ok made :: after)
    (hnone : ∀ outcome ∈ after, outcome.isOk = false) : Makes (.ok made) t
  /-- A chain has returned, and no call in it has succeeded: a strict definition leaves it at that. -/
  | strict {result inv t pass} (hchain : d.component.constructionChain k ≠ [])
    (hafter : Invocation.proceed (Invocation.construction (d.component.constructionChain k)
      (some live) k values, w) = (.ok result, inv, t)) (hpass : t.2 = w.2 ++ pass)
    (hnone : ∀ outcome ∈ Journal.constructions pass, outcome.isOk = false)
    (hstrict : d.strict = true) : Makes (.error (.constructorNotInvoked k.member.name)) t
  /-- A lenient one calls the constructor, once, with the parameters as they are by then. -/
  | lenient {result inv t pass outcome w'} (hchain : d.component.constructionChain k ≠ [])
    (hafter : Invocation.proceed (Invocation.construction (d.component.constructionChain k)
      (some live) k values, w) = (.ok result, inv, t)) (hpass : t.2 = w.2 ++ pass)
    (hnone : ∀ outcome ∈ Journal.constructions pass, outcome.isOk = false)
    (hlenient : d.strict = false)
    (hcall : host.construct k.routine inv.parameters t.1 = (outcome, w')) :
    Makes outcome (w', t.2 ++ [.constructed k.routine inv.parameters outcome])

end

/-- Every construction is made in one of these ways. -/
theorem makes_construct (d : Definition host.journaled) (k : Constructor host.journaled.Routine)
    (live : host.journaled.LiveSet) (values : List host.journaled.Ref) (w : host.journaled.World) :
    d.Makes k live values w (d.construct k live values w).1 (d.construct k live values w).2 := by
  by_cases hchain : d.component.constructionChain k = []
  · have hdirect : d.construct k live values w = host.journaled.construct k.routine values w := by
      rw [construct, hchain]
      rfl
    rw [hdirect]
    exact .direct hchain rfl
  · obtain ⟨pass, slot, hpass, hslot, herror, hok⟩ := d.construct_conclude hchain live values w
    rcases hafter : Invocation.proceed (Invocation.construction (d.component.constructionChain k)
      (some live) k values, w) with ⟨f | result, inv, t⟩
    · rw [hafter] at herror
      rw [herror f rfl]
      exact .failed hchain hafter
    · rw [hafter] at hok hpass
      rw [hok result rfl]
      -- the slot is what the journal of the chain says of its calls, so its cases are cases of this
      cases slot with
      | some made =>
        obtain ⟨before, after, hlast, hnone⟩ := Journal.latest_eq_some hslot.symm
        exact .made hchain hafter hpass hlast hnone
      | none =>
        have hnone := (Journal.latest_eq_none.1 hslot.symm).2
        rw [conclude]
        dsimp only
        split
        · next hstrict => exact .strict hchain hafter hpass hnone hstrict
        · next hlenient =>
          exact .lenient hchain hafter hpass hnone (Bool.eq_false_iff.2 hlenient) rfl

/-! ## From the requests on -/

/-- `d.Produces live s outcome t` — the production of an instance leads from `s` to `t` and has the
    outcome; beside the state of the provider is what it has noted. -/
inductive Produces (d : Definition host.journaled) (live : host.journaled.LiveSet)
    (s : (P × List (Note host.toVocabulary)) × host.journaled.World) :
    Except Failure host.journaled.Ref →
      (P × List (Note host.toVocabulary)) × host.journaled.World → Prop where
  /-- Without a constructor, nothing is asked for and nothing called. -/
  | missing (hk : d.component.constructor = none) :
    Produces d live s (.error (.missingConstructor d.name)) s
  /-- The first request that is refused is the end of it, before anything is called. -/
  | refused {k before p after values f q w} (hk : d.component.constructor = some k)
    (hpoints : d.component.parameterPoints k.member = before ++ p :: after)
    (hvalues : values.length = before.length) :
    Produces d live s (.error (.instantiation d.name (.member k.member) f))
      ((q, s.1.2 ++ marks (V := host.toVocabulary) Prod.mk before values ++ [(p, .error f)]),
        w, s.2.2)
  /-- When all requests have been answered, the answers are the arguments. -/
  | asked {k values outcome q w t} (hk : d.component.constructor = some k)
    (hvalues : values.length = (d.component.parameterPoints k.member).length)
    (hmakes : d.Makes k live values (w, s.2.2) outcome t) :
    Produces d live s (outcome.mapError (.instantiation d.name (.member k.member)))
      ((q, s.1.2 ++ marks (V := host.toVocabulary) Prod.mk
        (d.component.parameterPoints k.member) values), t)

/-- Every instance is produced in one of these ways. -/
theorem produces_produce (d : Definition host.journaled) (live : host.journaled.LiveSet)
    (provide : Provider host P)
    (s : (P × List (Note host.toVocabulary)) × host.journaled.World) :
    d.Produces live s (d.produce live provide.noted s).1 (d.produce live provide.noted s).2 := by
  cases hk : d.component.constructor with
  | none =>
    rw [produce, hk]
    exact .missing hk
  | some k =>
    rcases d.arguments_asked (Note.noting_provide provide) k.member s with
      ⟨values, ⟨⟨q, notes⟩, w, log⟩, hasked, hlength, hnotes, hlog⟩ |
        ⟨before, p, after, values, f, ⟨⟨q, notes⟩, w, log⟩, hpoints, hlength, hasked, hnotes, hlog⟩
    · obtain rfl : notes = s.1.2 ++ marks (V := host.toVocabulary) Prod.mk
        (d.component.parameterPoints k.member) values := hnotes
      obtain rfl : log = s.2.2 := hlog
      rw [produce_of_arguments hk live hasked]
      exact .asked hk hlength (d.makes_construct k live values (w, s.2.2))
    · obtain rfl : notes = s.1.2 ++ (marks (V := host.toVocabulary) Prod.mk before values ++
        [((p, .error f) : Note host.toVocabulary)]) := hnotes
      obtain rfl : log = s.2.2 := hlog
      rw [produce, hk]
      dsimp only
      rw [Effect.bind_error hasked, ← List.append_assoc]
      exact .refused hk hpoints hlength

/-- **What comes of producing an instance.**  Whatever the definition, its mode and its interceptors
    are, and whatever the provider, the interceptors and the constructor do:
    1. Without a constructor, the production fails with that, and nothing is asked for or called.
       Otherwise the arguments are asked for, before anything else; the first request that is refused
       ends it, as a failure of the constructor.
    2. With an empty chain, the constructor is called once, with what was given, and decides.
    3. A chain that fails is the cause of the failure, and no call follows it, even if it has made an
       instance.  After a chain that returned, the last call in it that succeeded has made the result;
       if none did, a strict definition fails without another call, and a lenient one makes exactly
       one, with the parameters as the interceptors have left them, and has the outcome of that.
    4. What is asked for is all parameter points with the key of the constructor, by position. -/
theorem outcome_of_production (d : Definition host.journaled) (live : host.journaled.LiveSet)
    (provide : Provider host P) (s : (P × List (Note host.toVocabulary)) × host.journaled.World) :
    d.Produces live s (d.produce live provide.noted s).1 (d.produce live provide.noted s).2 ∧
    ∀ key, (d.component.parameterPoints key).Perm
        (d.component.points.filter fun p => p.member = key ∧ p.parameter?.isSome) ∧
      ((d.component.parameterPoints key).filterMap fun p =>
        p.parameter?.map Prod.snd).Pairwise (· ≤ ·) :=
  ⟨d.produces_produce live provide s, fun key =>
    ⟨d.component.parameterPoints_perm key, d.component.parameterPoints_sorted key⟩⟩

/-- An interceptor proceeds, and then fails: the instance that was made is not the result, and the
    constructor is not called again, although the definition is lenient. -/
example :
    let d : Definition Host.numbers.journaled :=
      { component := Component.guarded 7 "P" [Interceptor.everywhere "late" 3] }
    let live : Host.numbers.LiveSet := Table.ofList [("late", (3 : Nat))]
    d.strict = false ∧ d.produce live Provider.numbers.noted (((), []), [], []) =
      (.error (.instantiation "P" (.member ⟨"P", "new"⟩) (.raised "three")), ((), []), [7],
        [.entered (3 : Nat) .aroundConstruct, .constructed (7 : Nat) [] (.ok (.plain (7 : Nat))),
          .left (3 : Nat) .aroundConstruct (.error (.raised "three"))]) := by
  intro d live
  refine ⟨rfl, ?_⟩
  dsimp only [d, live]
  cbv

end Definition

end Wiring
