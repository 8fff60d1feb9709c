/-
  What an effect asks for on its way, and whose failure its failure is.

  1. An effect that keeps to a course gains as much as it came to before it failed; this does not
     tell why it failed.  `Fault` does: either the failure is the effect's `own`, or the next thing to
     be gained was asked for and `refused`.
  2. `R.Asks I own refused ls x` — under the invariant `I`, `x` asks for all of `ls` before it
     succeeds, and a failure of it is a fault.  The rules follow the way effects are put together.
-/
import Wiring.Proofs.Effect.Course

namespace Wiring

namespace Effect

variable {σ α : Type} {s t : σ} {f : Failure}

/-- Blaming is for failures only. -/
theorem ok_of_blaming {x : Effect σ α} {g : Failure → Failure} {a : α}
    (h : x.blaming g s = (.ok a, t)) : x s = (.ok a, t) := by
  rw [blaming_apply] at h
  rcases hx : x s with ⟨cause | b, u⟩
  · rw [hx] at h
    cases h
  · rw [hx] at h
    cases h
    rfl

/-- A failure with a blame has a cause. -/
theorem error_of_blaming {x : Effect σ α} {g : Failure → Failure}
    (h : x.blaming g s = (.error f, t)) : ∃ cause, x s = (.error cause, t) ∧ f = g cause := by
  rw [blaming_apply] at h
  rcases hx : x s with ⟨cause | a, u⟩
  · rw [hx] at h
    cases h
    exact ⟨cause, rfl, rfl⟩
  · rw [hx] at h
    cases h

/-- Of effects one after the other, one has failed last. -/
theorem error_of_each {x : α → Effect σ Unit} {xs : List α} :
    ∀ {s}, each x xs s = (.error f, t) → ∃ a ∈ xs, ∃ u, x a u = (.error f, t) := by
  induction xs with
  | nil => exact nofun
  | cons a xs ih =>
    intro s h
    rcases hx : x a s with ⟨g | _, u⟩
    · rw [each, bind_error hx] at h
      cases h
      exact ⟨a, List.mem_cons_self, s, hx⟩
    · rw [each, bind_ok hx] at h
      obtain ⟨b, hb, hrest⟩ := ih h
      exact ⟨b, List.mem_cons_of_mem a hb, hrest⟩

end Effect

namespace Course

variable {σ ℓ α β : Type} {R : Course σ ℓ} {I : σ → Prop} {own : Failure → σ → Prop}
  {refused : ℓ → Failure → σ → σ → Prop} {ls ms : List ℓ} {s t u : σ} {f : Failure}

/-- `R.Fault own refused ls s f t` — on the way from `s` to the gains `ls`, the failure `f` ended it in
    the state `t`. -/
inductive Fault (R : Course σ ℓ) (own : Failure → σ → Prop)
    (refused : ℓ → Failure → σ → σ → Prop) (ls : List ℓ) (s : σ) (f : Failure) (t : σ) : Prop where
  /-- Some of `ls` had been gained. -/
  | own {l} (hl : l <+: ls) (hgain : R.rel l s t) (h : own f t) : Fault R own refused ls s f t
  /-- Some of `ls` had been gained, in the state `v`, and the next was refused. -/
  | refused {l a v} (hl : l ++ [a] <+: ls) (hgain : R.rel l s v) (h : refused a f v t) :
    Fault R own refused ls s f t

/-- What would have been gained afterwards does not matter. -/
theorem Fault.before (h : R.Fault own refused ls s f t) (ms : List ℓ) :
    R.Fault own refused (ls ++ ms) s f t := by
  cases h with
  | own hl hgain h => exact .own (hl.trans (List.prefix_append ls ms)) hgain h
  | refused hl hgain h => exact .refused (hl.trans (List.prefix_append ls ms)) hgain h

/-- What has been gained before adds up. -/
theorem Fault.after (hst : R.rel ls s t) (h : R.Fault own refused ms t f u) :
    R.Fault own refused (ls ++ ms) s f u := by
  cases h with
  | own hl hgain h => exact .own ((List.prefix_append_right_inj ls).2 hl) (R.append hst hgain) h
  | refused hl hgain h =>
    refine .refused ?_ (R.append hst hgain) h
    rw [List.append_assoc]
    exact (List.prefix_append_right_inj ls).2 hl

/-- `R.Asks I own refused ls x` — from `I`, a success of `x` gains `ls`, and a failure is a fault on
    the way. -/
structure Asks (R : Course σ ℓ) (I : σ → Prop) (own : Failure → σ → Prop)
    (refused : ℓ → Failure → σ → σ → Prop) (ls : List ℓ) (x : Effect σ α) : Prop where
  ok : ∀ {s a t}, I s → x s = (.ok a, t) → I t ∧ R.rel ls s t
  error : ∀ {s f t}, I s → x s = (.error f, t) → I t ∧ R.Fault own refused ls s f t

namespace Asks

/-- An effect that asks for nothing has only failures of its own. -/
theorem of_own {x : Effect σ α} (hkeeps : ∀ {s}, I s → I (x s).2 ∧ R.rel [] s (x s).2)
    (hown : ∀ {s f t}, I s → x s = (.error f, t) → own f t) : R.Asks I own refused [] x where
  ok {s a t} hs hx := by
    have h := hkeeps hs
    rwa [hx] at h
  error {s f t} hs hx := by
    have h := hkeeps hs
    rw [hx] at h
    exact ⟨h.1, .own List.prefix_rfl h.2 (hown hs hx)⟩

theorem pure (a : α) : R.Asks I own refused [] (Pure.pure a : Effect σ α) :=
  of_own (fun hs => ⟨hs, R.stay _⟩) nofun

/-- Giving up at once, whatever was to be asked for. -/
theorem fail (hown : ∀ s, I s → own f s) : R.Asks I own refused ls (Effect.fail f : Effect σ α) where
  ok _ hx := by cases hx
  error hs hx := by
    cases hx
    exact ⟨hs, .own List.nil_prefix (R.stay _) (hown _ hs)⟩

theorem bind {x : Effect σ α} {k : α → Effect σ β} (hx : R.Asks I own refused ls x)
    (hk : ∀ a, R.Asks I own refused ms (k a)) : R.Asks I own refused (ls ++ ms) (x >>= k) where
  ok {s b t} hs h := by
    rcases hr : x s with ⟨f | a, u⟩
    · rw [Effect.bind_error hr] at h
      cases h
    · rw [Effect.bind_ok hr] at h
      obtain ⟨hu, hgain⟩ := hx.ok hs hr
      exact ((hk a).ok hu h).imp_right (R.append hgain)
  error {s f t} hs h := by
    rcases hr : x s with ⟨g | a, u⟩
    · rw [Effect.bind_error hr] at h
      cases h
      exact (hx.error hs hr).imp_right (·.before ms)
    · rw [Effect.bind_ok hr] at h
      obtain ⟨hu, hgain⟩ := hx.ok hs hr
      exact ((hk a).error hu h).imp_right (.after hgain)

/-- What comes before without asking for anything changes nothing. -/
theorem after {x : Effect σ α} {k : α → Effect σ β} (hx : R.Asks I own refused [] x)
    (hk : ∀ a, R.Asks I own refused ms (k a)) : R.Asks I own refused ms (x >>= k) :=
  hx.bind hk

/-- What comes after without asking for anything changes nothing. -/
theorem before {x : Effect σ α} {k : α → Effect σ β} (hx : R.Asks I own refused ls x)
    (hk : ∀ a, R.Asks I own refused [] (k a)) : R.Asks I own refused ls (x >>= k) := by
  have h := hx.bind hk
  rwa [List.append_nil] at h

theorem collect {x : α → Effect σ β} {g : α → List ℓ} {xs : List α}
    (h : ∀ a ∈ xs, R.Asks I own refused (g a) (x a)) :
    R.Asks I own refused (xs.flatMap g) (Effect.collect x xs) := by
  induction xs with
  | nil => exact pure []
  | cons a xs ih =>
    rw [List.forall_mem_cons] at h
    exact h.1.bind fun b => (ih h.2).before fun bs => pure (b :: bs)

theorem each {x : α → Effect σ Unit} {g : α → List ℓ} {xs : List α}
    (h : ∀ a ∈ xs, R.Asks I own refused (g a) (x a)) :
    R.Asks I own refused (xs.flatMap g) (Effect.each x xs) := by
  induction xs with
  | nil => exact pure ()
  | cons a xs ih =>
    rw [List.forall_mem_cons] at h
    exact h.1.bind fun _ => ih h.2

end Asks

end Course

end Wiring
