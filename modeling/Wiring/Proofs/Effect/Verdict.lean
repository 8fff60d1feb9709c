/-
  `Decides I Q φ x` — under the invariant `I`, the outcome of `x` settles whether `φ`.

  If `x` succeeds then `φ`; if it fails then not `φ`, with a failure that satisfies `Q`; and `I` holds
  afterwards either way.  So under `I` the effect succeeds if and only if `φ`, and the rules turn
  doing one thing after the other into a conjunction.  An effect that is `Sure` never fails.
-/
import Wiring.Effect

namespace Wiring

namespace Effect

variable {σ τ α β : Type} {I : σ → Prop} {Q : Failure → Prop} {φ ψ : Prop} {x : Effect σ α}

/-- `Decides I Q φ x` — from `I`, a success of `x` means `φ`, and a failure means `¬ φ` and is in `Q`. -/
structure Decides (I : σ → Prop) (Q : Failure → Prop) (φ : Prop) (x : Effect σ α) : Prop where
  ok : ∀ {s a t}, I s → x s = (.ok a, t) → I t ∧ φ
  error : ∀ {s f t}, I s → x s = (.error f, t) → I t ∧ ¬ φ ∧ Q f

/-- `x.Sure` — `x` succeeds in every state. -/
def Sure (x : Effect σ α) : Prop := ∀ s, ∃ a t, x s = (.ok a, t)

namespace Decides

theorem congr (h : Decides I Q φ x) (hiff : φ ↔ ψ) : Decides I Q ψ x where
  ok hs hx := ⟨(h.ok hs hx).1, hiff.1 (h.ok hs hx).2⟩
  error hs hx :=
    have ⟨ht, hnot, hf⟩ := h.error hs hx
    ⟨ht, fun hψ => hnot (hiff.2 hψ), hf⟩

/-- A success of `x` is all that `φ` takes. -/
theorem isOk_iff (h : Decides I Q φ x) {s : σ} (hs : I s) : (∃ a, (x s).1 = .ok a) ↔ φ := by
  rcases hx : x s with ⟨f | a, t⟩
  · refine ⟨fun ⟨a, ha⟩ => (by cases ha), fun hφ => absurd hφ (h.error hs hx).2.1⟩
  · exact ⟨fun _ => (h.ok hs hx).2, fun _ => ⟨a, rfl⟩⟩

theorem pure (a : α) : Decides I Q True (Pure.pure a : Effect σ α) where
  ok hs hx := by
    cases hx
    exact ⟨hs, trivial⟩
  error _ hx := by cases hx

theorem fail {f : Failure} (hf : Q f) : Decides I Q False (Effect.fail f : Effect σ α) where
  ok _ hx := by cases hx
  error hs hx := by
    cases hx
    exact ⟨hs, id, hf⟩

theorem bind {k : α → Effect σ β} (hx : Decides I Q φ x) (hk : ∀ a, Decides I Q ψ (k a)) :
    Decides I Q (φ ∧ ψ) (x >>= k) where
  ok {s b t} hs h := by
    rcases hr : x s with ⟨f | a, u⟩
    · rw [bind_error hr] at h
      cases h
    · rw [bind_ok hr] at h
      obtain ⟨hu, hφ⟩ := hx.ok hs hr
      obtain ⟨ht, hψ⟩ := (hk a).ok hu h
      exact ⟨ht, hφ, hψ⟩
  error {s f t} hs h := by
    rcases hr : x s with ⟨g | a, u⟩
    · rw [bind_error hr] at h
      cases h
      obtain ⟨ht, hnot, hf⟩ := hx.error hs hr
      exact ⟨ht, fun hboth => hnot hboth.1, hf⟩
    · rw [bind_ok hr] at h
      obtain ⟨hu, -⟩ := hx.ok hs hr
      obtain ⟨ht, hnot, hf⟩ := (hk a).error hu h
      exact ⟨ht, fun hboth => hnot hboth.2, hf⟩

/-- The state that is read satisfies the invariant. -/
theorem read {k : σ → Effect σ α} (hk : ∀ s, I s → Decides I Q φ (k s)) :
    Decides I Q φ (do let s ← get; k s) where
  ok hs h := (hk _ hs).ok hs h
  error hs h := (hk _ hs).error hs h

/-- What cannot fail first decides nothing. -/
theorem after {k : α → Effect σ β} (hx : Decides I Q True x) (hk : ∀ a, Decides I Q φ (k a)) :
    Decides I Q φ (x >>= k) :=
  (hx.bind hk).congr (Iff.of_eq (true_and φ))

/-- What cannot fail afterwards decides nothing. -/
theorem before {k : α → Effect σ β} (hx : Decides I Q φ x) (hk : ∀ a, Decides I Q True (k a)) :
    Decides I Q φ (x >>= k) :=
  (hx.bind hk).congr (Iff.of_eq (and_true φ))

/-- The failure may be another one by the blame. -/
theorem blaming {Q' : Failure → Prop} (hx : Decides I Q φ x) {g : Failure → Failure}
    (hg : ∀ f, Q f → Q' (g f)) : Decides I Q' φ (x.blaming g) where
  ok {s a t} hs h := by
    rw [blaming_apply] at h
    rcases hr : x s with ⟨f | b, u⟩
    · rw [hr] at h
      cases h
    · rw [hr] at h
      cases h
      exact hx.ok hs hr
  error {s f t} hs h := by
    rw [blaming_apply] at h
    rcases hr : x s with ⟨e | b, u⟩
    · rw [hr] at h
      cases h
      obtain ⟨ht, hnot, he⟩ := hx.error hs hr
      exact ⟨ht, hnot, hg e he⟩
    · rw [hr] at h
      cases h

/-- All of a list have to succeed. -/
theorem collect {f : α → Effect σ β} {p : α → Prop} {xs : List α}
    (h : ∀ a ∈ xs, Decides I Q (p a) (f a)) : Decides I Q (∀ a ∈ xs, p a) (Effect.collect f xs) := by
  induction xs with
  | nil => exact (pure []).congr (iff_of_true trivial (List.forall_mem_nil p))
  | cons a xs ih =>
    rw [List.forall_mem_cons] at h
    refine (h.1.bind fun b => (ih h.2).before fun bs => pure (b :: bs)).congr ?_
    exact List.forall_mem_cons.symm

theorem each {f : α → Effect σ Unit} {p : α → Prop} {xs : List α}
    (h : ∀ a ∈ xs, Decides I Q (p a) (f a)) : Decides I Q (∀ a ∈ xs, p a) (Effect.each f xs) := by
  induction xs with
  | nil => exact (pure ()).congr (iff_of_true trivial (List.forall_mem_nil p))
  | cons a xs ih =>
    rw [List.forall_mem_cons] at h
    exact (h.1.bind fun _ => ih h.2).congr List.forall_mem_cons.symm

/-- Whatever keeps the invariant and cannot fail under it. -/
theorem of_ok (h : ∀ s, I s → ∃ a t, x s = (.ok a, t) ∧ I t) : Decides I Q True x where
  ok hs hx := by
    obtain ⟨a, t, hr, ht⟩ := h _ hs
    rw [hr] at hx
    cases hx
    exact ⟨ht, trivial⟩
  error hs hx := by
    obtain ⟨a, t, hr, -⟩ := h _ hs
    rw [hr] at hx
    cases hx

/-- A sure effect below a layer, where the invariant is about the layer alone. -/
theorem onWorld {J : τ → Prop} (hx : x.Sure) :
    Decides (fun s : τ × σ => J s.1) Q True (Effect.onWorld x : Effect (τ × σ) α) :=
  of_ok fun s hs => by
    obtain ⟨a, t, hr⟩ := hx s.2
    refine ⟨a, (s.1, t), ?_, hs⟩
    rw [onWorld_apply, hr]

end Decides

namespace Sure

theorem pure (a : α) : (Pure.pure a : Effect σ α).Sure := fun s => ⟨a, s, rfl⟩

theorem bind {k : α → Effect σ β} (hx : x.Sure) (hk : ∀ a, (k a).Sure) : (x >>= k).Sure := by
  intro s
  obtain ⟨a, t, hr⟩ := hx s
  rw [bind_ok hr]
  exact hk a t

theorem blaming (hx : x.Sure) (g : Failure → Failure) : (x.blaming g).Sure := by
  intro s
  obtain ⟨a, t, hr⟩ := hx s
  exact ⟨a, t, by rw [blaming_apply, hr]; rfl⟩

theorem each {f : α → Effect σ Unit} {xs : List α} (h : ∀ a ∈ xs, (f a).Sure) :
    (Effect.each f xs).Sure := by
  induction xs with
  | nil => exact pure ()
  | cons a xs ih =>
    rw [List.forall_mem_cons] at h
    exact h.1.bind fun _ => ih h.2

end Sure

end Effect

end Wiring
