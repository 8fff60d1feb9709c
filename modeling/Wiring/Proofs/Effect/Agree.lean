/-
  `Agree I x y` — under the invariant `I`, `x` and `y` cannot be told apart.

  Started in a state that satisfies `I`, both have the same outcome and lead to the same state, which
  satisfies `I` again.  The rules follow the way effects are put together: two effects of one shape
  agree as soon as the parts in which they differ do.
-/
import Wiring.Effect

namespace Wiring

namespace Effect

variable {σ τ α β : Type} {I : σ → Prop} {x y : Effect σ α}

/-- `Agree I x y` — from states that satisfy `I`, `x` does the same as `y`, and `I` holds again. -/
def Agree (I : σ → Prop) (x y : Effect σ α) : Prop := ∀ s, I s → x s = y s ∧ I (x s).2

namespace Agree

theorem of_keeps (h : ∀ s, I s → I (x s).2) : Agree I x x := fun s hs => ⟨rfl, h s hs⟩

theorem pure (a : α) : Agree I (Pure.pure a) (Pure.pure a) := of_keeps fun _ => id

theorem fail (f : Failure) : Agree I (Effect.fail f : Effect σ α) (Effect.fail f) :=
  of_keeps fun _ => id

theorem bind {k l : α → Effect σ β} (h : Agree I x y) (hk : ∀ a, Agree I (k a) (l a)) :
    Agree I (x >>= k) (y >>= l) := by
  intro s hs
  obtain ⟨heq, ht⟩ := h s hs
  rcases hr : x s with ⟨f | a, t⟩
  · rw [hr] at heq ht
    rw [bind_error hr, bind_error heq.symm]
    exact ⟨rfl, ht⟩
  · rw [hr] at heq ht
    rw [bind_ok hr, bind_ok heq.symm]
    exact hk a t ht

theorem map (h : Agree I x y) (g : α → β) : Agree I (g <$> x) (g <$> y) := by
  rw [← bind_pure_comp, ← bind_pure_comp]
  exact h.bind fun a => pure (g a)

/-- The state that is read satisfies the invariant. -/
theorem read {k l : σ → Effect σ α} (hk : ∀ s, I s → Agree I (k s) (l s)) :
    Agree I (do let s ← get; k s) (do let s ← get; l s) :=
  fun s hs => hk s hs s hs

theorem blaming (h : Agree I x y) (g : Failure → Failure) :
    Agree I (x.blaming g) (y.blaming g) := by
  intro s hs
  obtain ⟨heq, ht⟩ := h s hs
  rw [blaming_apply, blaming_apply, heq]
  exact ⟨rfl, heq ▸ ht⟩

theorem collect {f g : α → Effect σ β} {xs : List α} (h : ∀ a ∈ xs, Agree I (f a) (g a)) :
    Agree I (Effect.collect f xs) (Effect.collect g xs) := by
  induction xs with
  | nil => exact pure []
  | cons a xs ih =>
    rw [List.forall_mem_cons] at h
    exact h.1.bind fun b => (ih h.2).bind fun bs => pure (b :: bs)

theorem each {f g : α → Effect σ Unit} {xs : List α} (h : ∀ a ∈ xs, Agree I (f a) (g a)) :
    Agree I (Effect.each f xs) (Effect.each g xs) := by
  induction xs with
  | nil => exact pure ()
  | cons a xs ih =>
    rw [List.forall_mem_cons] at h
    exact h.1.bind fun _ => ih h.2

/-- Nothing below a layer touches an invariant of the layer. -/
theorem onWorld {J : τ → Prop} (x : Effect σ α) :
    Agree (fun s : τ × σ => J s.1) (Effect.onWorld x) (Effect.onWorld x) :=
  of_keeps fun _ => id

end Agree

end Effect

end Wiring
