/-
  `Effect σ α` — a step over states `σ` that ends in an `α` or in a failure.

  1. What a step has done to the state stays done, also when the step fails: the state after it is
     part of every outcome.
  2. Layers are stacked as pairs: an effect on the world becomes an effect on a layer above the
     world with `onWorld`, and any effect on a part of a state one on the whole with `focus`.
  3. A failure is explained by wrapping it (`blaming`), never by rewording it.
-/
import Wiring.Failure

namespace Wiring

/-- `Effect σ α` — from a state, an outcome and the state after it. -/
def Effect (σ α : Type) : Type := σ → Except Failure α × σ

namespace Effect

variable {σ τ α β : Type}

/-- `done a` — `a`, with the state as it was. -/
def done (a : α) : Effect σ α := fun s => (.ok a, s)

/-- `fail f` — the failure `f`, with the state as it was. -/
def fail (f : Failure) : Effect σ α := fun s => (.error f, s)

/-- `x.andThen k` — `x`, then `k` on its value; if `x` fails, nothing more. -/
def andThen (x : Effect σ α) (k : α → Effect σ β) : Effect σ β := fun s =>
  match x s with
  | (.ok a, s) => k a s
  | (.error f, s) => (.error f, s)

instance : Monad (Effect σ) where
  pure := done
  bind := andThen

/-- The state is read and written in place. -/
instance : MonadStateOf σ (Effect σ) where
  get := fun s => (.ok s, s)
  set := fun s _ => (.ok (), s)
  modifyGet := fun f s => (.ok (f s).1, (f s).2)

/-- `ofExcept r` — an outcome that is known already. -/
def ofExcept (r : Except Failure α) : Effect σ α := fun s => (r, s)

/-- `x.attempt` — the outcome of `x` as a value; never fails. -/
def attempt (x : Effect σ α) : Effect σ (Except Failure α) := fun s => (.ok (x s).1, (x s).2)

/-- `x.blaming f` — `x`, a failure of which becomes `f` of it. -/
def blaming (f : Failure → Failure) (x : Effect σ α) : Effect σ α := fun s =>
  ((x s).1.mapError f, (x s).2)

/-- `focus get put x` — `x` on the part of the state that `get` reads and `put` writes back. -/
def focus (get : σ → τ) (put : σ → τ → σ) (x : Effect τ α) : Effect σ α := fun s =>
  ((x (get s)).1, put s (x (get s)).2)

/-- `onWorld x` — `x` below a layer that it does not touch. -/
def onWorld (x : Effect τ α) : Effect (σ × τ) α := focus Prod.snd (fun s w => (s.1, w)) x

/-- `onLayer x` — `x` above a world that it does not touch. -/
def onLayer (x : Effect σ α) : Effect (σ × τ) α := focus Prod.fst (fun s l => (l, s.2)) x

/-- `collect f xs` — `f` on each of `xs` in order, and the values; the first failure ends it. -/
def collect (f : α → Effect σ β) : List α → Effect σ (List β)
  | [] => done []
  | x :: xs => do
    let y ← f x
    let ys ← collect f xs
    return y :: ys

/-- `each f xs` — `f` on each of `xs` in order; the first failure ends it. -/
def each (f : α → Effect σ Unit) : List α → Effect σ Unit
  | [] => done ()
  | x :: xs => do
    f x
    each f xs

/-! ## Laws -/

theorem bind_apply (x : Effect σ α) (k : α → Effect σ β) (s : σ) :
    (x >>= k) s = match x s with
      | (.ok a, t) => k a t
      | (.error f, t) => (.error f, t) := rfl

theorem bind_ok {x : Effect σ α} {k : α → Effect σ β} {s t : σ} {a : α}
    (h : x s = (.ok a, t)) : (x >>= k) s = k a t := by
  rw [bind_apply, h]

theorem bind_error {x : Effect σ α} {k : α → Effect σ β} {s t : σ} {f : Failure}
    (h : x s = (.error f, t)) : (x >>= k) s = (.error f, t) := by
  rw [bind_apply, h]

/-- What is done with the value at the end changes nothing else. -/
theorem bind_pure_apply (x : Effect σ α) (g : α → β) (s : σ) :
    (x >>= fun a => pure (g a)) s = ((x s).1.map g, (x s).2) := by
  rw [bind_apply]
  rcases x s with ⟨_ | _, _⟩ <;> rfl

private theorem andThen_pure (x : Effect σ α) : x >>= pure = x := funext fun s => by
  rw [bind_apply]
  rcases x s with ⟨_ | _, _⟩ <;> rfl

private theorem andThen_assoc {γ : Type} (x : Effect σ α) (k : α → Effect σ β)
    (l : β → Effect σ γ) : x >>= k >>= l = x >>= fun a => k a >>= l := funext fun s => by
  simp only [bind_apply]
  rcases x s with ⟨_ | _, _⟩ <;> rfl

instance : LawfulMonad (Effect σ) :=
  LawfulMonad.mk' _ andThen_pure (fun _ _ => rfl) andThen_assoc

theorem onWorld_apply (x : Effect τ α) (s : σ × τ) :
    (onWorld x : Effect (σ × τ) α) s = ((x s.2).1, (s.1, (x s.2).2)) := rfl

theorem onLayer_apply (x : Effect σ α) (s : σ × τ) :
    (onLayer x : Effect (σ × τ) α) s = ((x s.1).1, ((x s.1).2, s.2)) := rfl

theorem blaming_apply (f : Failure → Failure) (x : Effect σ α) (s : σ) :
    (x.blaming f) s = ((x s).1.mapError f, (x s).2) := rfl

end Effect

end Wiring
