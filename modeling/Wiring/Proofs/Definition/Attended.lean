/-
  How a definition runs a lifecycle phase, on any reference and with any scheme of proxies.

  1. `runPhase_apply` is a phase in one equation: looking behind a scope proxy, finding out what
     carries the live interceptors, and the chain around the callbacks.
  2. `d.Attends phase reference w outcome t` tells what is behind an outcome.  If the instance is not
     known, or there is nothing to run, nothing is run; otherwise the journal has a pass through the
     chain that `d` has for the phase, towards the callbacks that `d` has for it, and the outcome is
     that of the pass.  Every phase is like that (`runPhase_attends`).
  3. What a definition has become runs its phases as it did (`Later.runPhase_eq`).
-/
import Wiring.Proofs.Effect.Asking
import Wiring.Proofs.Invocation.Passed
import Wiring.Proofs.Journal.Modest

namespace Wiring

variable {host : Host}

namespace Definition

/-- A phase, from looking behind the reference to the end of its chain. -/
theorem runPhase_apply (d : Definition host) (phase : Phase) (reference : host.Ref)
    (w : host.World) :
    runPhase phase reference (d, w) = match d.present reference w with
      | (.error f, w') => (.error f, d, w')
      | (.ok current, w') =>
        if (d.scheme.carrier? current).isNone && (d.component.callbacks phase).isEmpty
        then (.ok (), d, w')
        else match d.chains with
          | .error f => (.error f, d.settled, w')
          | .ok chains =>
            let r := (Invocation.lifecycle phase
              (((d.scheme.carrier? current).map (·.target)).getD current) (chains.forPhase phase)
              ((d.scheme.carrier? current).map (·.interceptors))
              (d.component.callbacks phase)).during Invocation.proceed w'
            ((r.1.map fun _ => ()).mapError (.lifecycle d.name phase), d.settled, r.2) := by
  show (Effect.onWorld (d.present reference) >>= _ :
    Effect (Definition host × host.World) Unit) (d, w) = _
  rw [Effect.bind_apply, Effect.onWorld_apply]
  rcases d.present reference w with ⟨f | current, w'⟩
  · rfl
  · dsimp only
    split
    · rfl
    · rw [Effect.bind_apply, Effect.onLayer_apply, lifecycleChains_apply]
      cases d.chains with
      | error f => rfl
      | ok chains =>
        dsimp only
        rw [Effect.onWorld_apply, Effect.blaming_apply]
        dsimp only
        rw [Effect.bind_pure_apply]

/-- A phase resolves the chains of the definition at most. -/
theorem later_runPhase (phase : Phase) (reference : host.Ref) (d : Definition host)
    (w : host.World) : Later d (runPhase phase reference (d, w)).2.1 := by
  rw [runPhase_apply]
  rcases d.present reference w with ⟨f | current, w'⟩
  · exact .refl d
  · dsimp only
    split
    · exact .refl d
    · cases d.chains with
      | error f => exact .settled d
      | ok chains => exact .settled d

/-- Looking behind a reference fails only for want of an answer. -/
theorem present_error {d : Definition host} {reference : host.Ref} {w t : host.World} {f : Failure}
    (h : d.present reference w = (.error f, t)) :
    ∃ cause, d.scheme.current reference w = (.error cause, t) ∧ f = .scopeUnavailable cause := by
  rw [present, Effect.bind_pure_apply] at h
  refine Effect.error_of_blaming (x := d.scheme.current reference) ?_
  rcases hr : (d.scheme.current reference).blaming .scopeUnavailable w with ⟨g | current, v⟩
  · rw [hr] at h
    cases h
    rfl
  · rw [hr] at h
    cases h

/-- It asks scopes at most. -/
theorem present_asked {d : Definition host.journaled} (hscheme : d.scheme.Modest)
    (reference : host.journaled.Ref) (s : host.journaled.World) :
    ∃ asked, (d.present reference s).2.2 = s.2 ++ asked ∧ ∀ e ∈ asked, e.IsAsked := by
  have hpresent : (Journal.writing fun e : Event host.toVocabulary => e.IsAsked).Along []
      (d.present reference) :=
    ((hscheme.current reference).blaming _).after fun _ => Course.along_pure _
  exact hpresent.keeps s

/-! ## What is behind an outcome -/

/-- `d.Attends phase reference w outcome t` — the definition `d` has run a phase on `reference` with
    the outcome, from the world `w` to the world `t`. -/
inductive Attends (d : Definition host.journaled) (phase : Phase) (reference : host.journaled.Ref)
    (w : host.journaled.World) : Except Failure Unit → host.journaled.World → Prop where
  /-- Nobody knows what instance the scope proxy stands for. -/
  | unavailable {f t} (hpresent : d.present reference w = (.error (.scopeUnavailable f), t)) :
    Attends d phase reference w (.error (.scopeUnavailable f)) t
  /-- There is nothing to run. -/
  | idle {current t} (hpresent : d.present reference w = (.ok current, t))
    (hcarrier : d.scheme.carrier? current = none) (hcallbacks : d.component.callbacks phase = []) :
    Attends d phase reference w (.ok ()) t
  /-- The chains of `d` are needed, but could never be resolved. -/
  | unresolved {current t f} (hpresent : d.present reference w = (.ok current, t))
    (hneeded : ¬ (d.scheme.carrier? current = none ∧ d.component.callbacks phase = []))
    (hchains : d.chains = .error f) : Attends d phase reference w (.error f) t
  /-- The chain is passed through, and its outcome is that of the phase. -/
  | passed {current t chains pass made result u}
    (hpresent : d.present reference w = (.ok current, t))
    (hneeded : ¬ (d.scheme.carrier? current = none ∧ d.component.callbacks phase = []))
    (hchains : d.chains = .ok chains) (hlog : u.2 = t.2 ++ pass)
    (hpass : Crosses phase (((d.scheme.carrier? current).map (·.target)).getD current)
      (d.component.callbacks phase) ((d.scheme.carrier? current).map (·.interceptors))
      (chains.forPhase phase) ∅ pass made result) :
    Attends d phase reference w ((result.map fun _ => ()).mapError (.lifecycle d.name phase)) u

namespace Attends

variable {d : Definition host.journaled} {phase : Phase} {reference : host.journaled.Ref}
  {w t : host.journaled.World} {outcome : Except Failure Unit}

/-- Every event of the phase is a question to a scope, or of a pass. -/
theorem ofPass (h : d.Attends phase reference w outcome t) (hscheme : d.scheme.Modest) :
    ∃ seg, t.2 = w.2 ++ seg ∧ ∀ e ∈ seg, e.IsAsked ∨
      ∃ target, e.OfPass phase (.callbacks target (d.component.callbacks phase)) := by
  obtain ⟨asked, hasked, hall⟩ := present_asked hscheme reference w
  cases h with
  | unavailable hpresent =>
    rw [hpresent] at hasked
    exact ⟨asked, hasked, fun e he => Or.inl (hall e he)⟩
  | idle hpresent =>
    rw [hpresent] at hasked
    exact ⟨asked, hasked, fun e he => Or.inl (hall e he)⟩
  | unresolved hpresent =>
    rw [hpresent] at hasked
    exact ⟨asked, hasked, fun e he => Or.inl (hall e he)⟩
  | @passed _ t' _ pass _ _ _ hpresent _ _ hlog hpass =>
    rw [hpresent] at hasked
    have hasked : t'.2 = w.2 ++ asked := hasked
    refine ⟨asked ++ pass, by rw [hlog, hasked, List.append_assoc], fun e he => ?_⟩
    rcases List.mem_append.1 he with he | he
    · exact Or.inl (hall e he)
    · exact Or.inr ⟨_, hpass.ofPass e he⟩

/-- Whatever is notified in the phase is notified by a callback of `d`. -/
theorem notified (h : d.Attends phase reference w outcome t) (hscheme : d.scheme.Modest)
    {seg : Journal host.toVocabulary} (hlog : t.2 = w.2 ++ seg) {r : host.Routine}
    {receiver : host.Ref} {result : Except Failure Unit} (hmem : .notified r receiver result ∈ seg) :
    ∃ op ∈ d.component.callbacks phase, op.routine = r := by
  obtain ⟨seg', hlog', hof⟩ := h.ofPass hscheme
  obtain rfl := List.append_cancel_left (hlog.symm.trans hlog')
  rcases hof _ hmem with ⟨_, _, heq⟩ | ⟨_, ⟨_, _, heq⟩ | ⟨_, heq⟩ | ⟨_, _, heq⟩ | ⟨-, hop⟩⟩
  · cases heq
  · cases heq
  · cases heq
  · cases heq
  · exact hop

end Attends

/-- Every phase is run like that. -/
theorem runPhase_attends (d : Definition host.journaled) (phase : Phase)
    (reference : host.journaled.Ref) (w : host.journaled.World) :
    d.Attends phase reference w (runPhase phase reference (d, w)).1
      (runPhase phase reference (d, w)).2.2 := by
  rw [runPhase_apply]
  rcases hpresent : d.present reference w with ⟨f | current, t⟩
  · obtain ⟨cause, -, rfl⟩ := present_error hpresent
    exact .unavailable hpresent
  · dsimp only
    split
    · next hidle =>
      rw [Bool.and_eq_true, Option.isNone_iff_eq_none, List.isEmpty_iff] at hidle
      exact .idle hpresent hidle.1 hidle.2
    · next hneeded =>
      rw [Bool.and_eq_true, Option.isNone_iff_eq_none, List.isEmpty_iff] at hneeded
      cases hchains : d.chains with
      | error f => exact .unresolved hpresent hneeded hchains
      | ok chains =>
        obtain ⟨pass, made, hlog, hpass⟩ := Invocation.lifecycle_crosses phase
          (((d.scheme.carrier? current).map (·.target)).getD current) (chains.forPhase phase)
          ((d.scheme.carrier? current).map (·.interceptors)) (d.component.callbacks phase) t
        exact .passed hpresent hneeded hchains hlog hpass

/-! ## Later definitions -/

namespace Later

theorem present_eq {d d' : Definition host} (h : Later d d') : d'.present = d.present := by
  funext reference
  rw [present, present, h.scheme_eq]

theorem callbacks_eq {d d' : Definition host} (h : Later d d') (phase : Phase) :
    d'.component.callbacks phase = d.component.callbacks phase := by
  rw [h.component_eq]
  cases phase <;> rfl

/-- What a definition has become runs its phases as it did. -/
theorem runPhase_eq {d d' : Definition host} (h : Later d d') (phase : Phase) (reference : host.Ref)
    (w : host.World) :
    (runPhase phase reference (d', w)).1 = (runPhase phase reference (d, w)).1 ∧
      (runPhase phase reference (d', w)).2.2 = (runPhase phase reference (d, w)).2.2 := by
  rw [runPhase_apply, runPhase_apply, h.present_eq, h.scheme_eq, h.callbacks_eq, h.chains_eq,
    h.name_eq]
  rcases d.present reference w with ⟨f | current, t⟩
  · exact ⟨rfl, rfl⟩
  · dsimp only
    split
    · exact ⟨rfl, rfl⟩
    · cases d.chains <;> exact ⟨rfl, rfl⟩

end Later

end Definition

end Wiring
