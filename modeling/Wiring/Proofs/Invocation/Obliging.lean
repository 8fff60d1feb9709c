/-
  Chains on an obliging host reach their ending.

  A host is obliging if its routines succeed and its interceptors pass through: whatever else an
  interceptor does, it proceeds once and returns what comes back.  Then a whole chain has the
  outcome of its ending, which is a success; and after a construction there is an instance.
-/
import Wiring.Definition.Instance
import Wiring.Definition.Lifecycle
import Wiring.Proofs.Effect.Verdict
import Wiring.Proofs.Invocation.Recursion

namespace Wiring

namespace Advice

variable {V : Vocabulary} {W α : Type}

/-- `x.Returns r` — whatever `x` still does, it does not proceed, and its result is `r`. -/
def Returns (r : α) : Advice V W α → Prop
  | .done a => a = r
  | .proceed _ => False
  | .observe next => ∀ v, (next v).Returns r
  | .setParameters _ next => ∀ outcome, (next outcome).Returns r
  | .setData _ next => next.Returns r
  | .readWorld next => ∀ w, (next w).Returns r
  | .writeWorld _ next => next.Returns r

/-- `x.PassesThrough` — `x` proceeds exactly once, and returns what comes back. -/
def PassesThrough : Advice V W (Except Failure (Option (Reference V))) → Prop
  | .done _ => False
  | .proceed next => ∀ r, (next r).Returns r
  | .observe next => ∀ v, (next v).PassesThrough
  | .setParameters _ next => ∀ outcome, (next outcome).PassesThrough
  | .setData _ next => next.PassesThrough
  | .readWorld next => ∀ w, (next w).PassesThrough
  | .writeWorld _ next => next.PassesThrough

end Advice

/-- `host.Obliging` — callbacks, makers and suppliers succeed, and interceptors pass through. -/
structure Host.Obliging (host : Host) : Prop where
  assign : ∀ r receiver value, (host.assign r receiver value).Sure
  perform : ∀ r receiver args, (host.perform r receiver args).Sure
  construct : ∀ r args, (host.construct r args).Sure
  notify : ∀ r receiver, (host.notify r receiver).Sure
  supply : ∀ r receiver, (host.supply r receiver).Sure
  make : ∀ r, (host.make r).Sure
  intercept : ∀ it phase, (host.intercept it phase).PassesThrough

variable {host : Host}

namespace Route

/-- What comes after proceeding changes neither the outcome nor the instance. -/
theorem follow_returns {α : Type} {a : α} (r : Route host.toVocabulary)
    (rest : Trip host (Option host.Ref)) (x : Advice host.toVocabulary host.World α) :
    ∀ s, x.Returns a → (r.follow rest x s).1 = a ∧ (r.follow rest x s).2.1.made = s.1.made := by
  have hreplace : ∀ (p : Passage host.toVocabulary) ps, (r.replace p ps).2.made = p.made := by
    intro p ps
    rw [replace]
    cases r.goal with
    | callbacks target operations => rfl
    | construct k =>
      dsimp only
      split <;> rfl
    | call target method =>
      dsimp only
      split <;> rfl
  induction x with
  | done b => exact fun s h => ⟨h, rfl⟩
  | proceed next ih => exact fun s h => h.elim
  | observe next ih => exact fun s h => ih _ s (h _)
  | setParameters ps next ih =>
    intro s h
    obtain ⟨hresult, hmade⟩ := ih _ ((r.replace s.1 ps).2, s.2) (h (r.replace s.1 ps).1)
    exact ⟨hresult, hmade.trans (hreplace s.1 ps)⟩
  | setData data next ih => exact fun s h => ih ({ s.1 with data := data }, s.2) h
  | readWorld next ih => exact fun s h => ih s.2 s (h s.2)
  | writeWorld w next ih => exact fun s h => ih (s.1, w) h

/-- Passing through gives what the rest gives, from some state. -/
theorem follow_passesThrough (r : Route host.toVocabulary) (rest : Trip host (Option host.Ref))
    (x : Advice host.toVocabulary host.World (Except Failure (Option host.Ref))) :
    ∀ s, x.PassesThrough →
      ∃ t, (r.follow rest x s).1 = (rest t).1 ∧
        (r.follow rest x s).2.1.made = (rest t).2.1.made := by
  induction x with
  | done b => exact fun s h => h.elim
  | proceed next ih =>
    exact fun s h => ⟨s, r.follow_returns rest (next (rest s).1) (rest s).2 (h (rest s).1)⟩
  | observe next ih => exact fun s h => ih _ s (h _)
  | setParameters ps next ih => exact fun s h => ih _ ((r.replace s.1 ps).2, s.2) (h _)
  | setData data next ih => exact fun s h => ih ({ s.1 with data := data }, s.2) h
  | readWorld next ih => exact fun s h => ih s.2 s (h s.2)
  | writeWorld w next ih => exact fun s h => ih (s.1, w) h

/-- A chain that is not around a business call succeeds, and after a construction there is an
    instance. -/
theorem run_obliging (hhost : host.Obliging) {r : Route host.toVocabulary}
    (hcall : ∀ target method, r.goal ≠ .call target method)
    (chain : List (Interceptor host.Routine)) :
    ∀ s, (∃ result, (r.run chain s).1 = .ok result) ∧
      ∀ k, r.goal = .construct k → ∃ made, (r.run chain s).2.1.made = some made := by
  induction chain with
  | nil =>
    rintro ⟨p, w⟩
    rw [run]
    cases hgoal : r.goal with
    | callbacks target operations =>
      obtain ⟨_, w', hr⟩ := Effect.Sure.each
        (fun op (_ : op ∈ operations) => hhost.notify op.routine target) w
      rw [arrive_of_each hgoal hr]
      refine ⟨⟨none, rfl⟩, fun k hk => ?_⟩
      cases hk
    | construct k =>
      obtain ⟨made, w', hr⟩ := hhost.construct k.routine p.parameters w
      rw [arrive_of_construct hgoal hr]
      exact ⟨⟨none, rfl⟩, fun _ _ => ⟨made, rfl⟩⟩
    | call target method => exact absurd hgoal (hcall target method)
  | cons i rest ih =>
    intro s
    have hlive : ∃ it t, r.materialise i s = (.ok it, t) := by
      obtain ⟨p, w⟩ := s
      cases hknown : r.known? p i.name with
      | some it => exact ⟨it, _, materialise_of_known hknown⟩
      | none =>
        obtain ⟨it, w', hr⟩ := hhost.make i.maker w
        exact ⟨it, _, materialise_of_make hknown hr⟩
    obtain ⟨it, t, ht⟩ := hlive
    rw [run_of_live ht]
    obtain ⟨u, hresult, hmade⟩ :=
      r.follow_passesThrough (r.run rest) (host.intercept it r.phase) t (hhost.intercept it r.phase)
    rw [hresult, hmade]
    exact ih u

end Route

namespace Invocation

/-- The callbacks of a lifecycle phase run, through whatever chain. -/
theorem sure_lifecycle (hhost : host.Obliging) (phase : Phase) (target : host.Ref)
    (chain : List (Interceptor host.Routine)) (supplied : Option host.LiveSet)
    (callbacks : List (Operation host.Routine)) :
    ((lifecycle phase target chain supplied callbacks).during proceed : Effect host.World _).Sure := by
  intro w
  obtain ⟨⟨result, hresult⟩, -⟩ := Route.run_obliging hhost
    (r := (lifecycle phase target chain supplied callbacks).route) nofun chain
    ((lifecycle phase target chain supplied callbacks).passage, w)
  refine ⟨result, _, Prod.ext ?_ rfl⟩
  show (proceed (lifecycle phase target chain supplied callbacks, w)).1 = _
  rw [proceed_of_start rfl rfl]
  exact hresult

end Invocation

namespace Definition

/-- A constructor makes an instance, through whatever chain. -/
theorem sure_construct (hhost : host.Obliging) (d : Definition host) (k : Constructor host.Routine)
    (interceptors : host.LiveSet) (arguments : List host.Ref) :
    (d.construct k interceptors arguments).Sure := by
  intro w
  by_cases hempty : (d.component.constructionChain k).isEmpty
  · rw [construct, if_pos hempty]
    exact hhost.construct k.routine arguments w
  · let inv : Invocation host.toVocabulary :=
      Invocation.construction (d.component.constructionChain k) (some interceptors) k arguments
    obtain ⟨⟨result, hresult⟩, hmade⟩ := Route.run_obliging hhost (r := inv.route) nofun
      (d.component.constructionChain k) (inv.passage, w)
    obtain ⟨made, hmade⟩ := hmade k rfl
    let t := inv.route.run (d.component.constructionChain k) (inv.passage, w)
    have hproceed : Invocation.proceed (inv, w) =
        (.ok result, (inv.settled true).carrying t.2.1, t.2.2) := by
      have h : Invocation.proceed (inv, w) =
          (t.1, (inv.settled t.1.isOk).carrying t.2.1, t.2.2) :=
        Invocation.proceed_of_start rfl rfl w
      rw [h, show t.1 = .ok result from hresult]
      rfl
    -- the chain has left the new instance in the invocation, from where it is taken
    have htake : (Invocation.takeNewInstance ((inv.settled true).carrying t.2.1, t.2.2)).1 =
        .ok (some made) := congrArg Except.ok hmade
    rw [construct, if_neg hempty]
    refine ⟨made, _, Prod.ext ?_ rfl⟩
    show ((Invocation.proceed >>= fun _ => Invocation.takeNewInstance >>= _ : Run host host.Ref)
      (inv, w)).1 = _
    rw [Effect.bind_ok hproceed, Effect.bind_ok (Prod.ext htake rfl)]
    rfl

end Definition

end Wiring
