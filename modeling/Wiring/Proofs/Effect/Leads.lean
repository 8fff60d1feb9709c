/-
  `x.Leads s Q E` — where an effect leads from one state.

  If `x`, started in `s`, succeeds with `a`, then `Q a` holds of the state after it; if it fails, then
  `E` does.  What is known of `s` goes into the rules as they are applied, so that one stage of an
  effect hands over to the next exactly what it has achieved, and every failure ends in `E`.
-/
import Wiring.Effect

namespace Wiring

namespace Effect

variable {σ τ α β : Type}

/-- `x.Leads s Q E` — from `s`, a success of `x` ends in `Q` and a failure in `E`. -/
structure Leads (x : Effect σ α) (s : σ) (Q : α → σ → Prop) (E : σ → Prop) : Prop where
  ok : ∀ {a t}, x s = (.ok a, t) → Q a t
  error : ∀ {f t}, x s = (.error f, t) → E t

variable {x : Effect σ α} {s : σ} {Q Q' : α → σ → Prop} {R : β → σ → Prop} {E E' : σ → Prop}

theorem leads_pure {a : α} (h : Q a s) : (pure a : Effect σ α).Leads s Q E where
  ok hx := by
    cases hx
    exact h
  error hx := by cases hx

theorem leads_fail {f : Failure} (h : E s) : (fail f : Effect σ α).Leads s Q E where
  ok hx := by cases hx
  error hx := by
    cases hx
    exact h

namespace Leads

theorem mono (h : x.Leads s Q E) (hQ : ∀ a t, Q a t → Q' a t) (hE : ∀ t, E t → E' t) :
    x.Leads s Q' E' where
  ok hx := hQ _ _ (h.ok hx)
  error hx := hE _ (h.error hx)

/-- One thing after the other: the second starts where the first ended. -/
theorem bind {k : α → Effect σ β} (h : x.Leads s Q E) (hk : ∀ a t, Q a t → (k a).Leads t R E) :
    (x >>= k).Leads s R E where
  ok {b t} hx := by
    rcases hr : x s with ⟨f | a, u⟩
    · rw [bind_error hr] at hx
      cases hx
    · rw [bind_ok hr] at hx
      exact (hk a u (h.ok hr)).ok hx
  error {f t} hx := by
    rcases hr : x s with ⟨g | a, u⟩
    · rw [bind_error hr] at hx
      cases hx
      exact h.error hr
    · rw [bind_ok hr] at hx
      exact (hk a u (h.ok hr)).error hx

/-- Blaming somebody for a failure changes nothing else. -/
theorem blaming (h : x.Leads s Q E) (g : Failure → Failure) : (x.blaming g).Leads s Q E where
  ok {a t} hx := by
    rw [blaming_apply] at hx
    rcases hr : x s with ⟨f | b, u⟩
    · rw [hr] at hx
      cases hx
    · rw [hr] at hx
      cases hx
      exact h.ok hr
  error {f t} hx := by
    rw [blaming_apply] at hx
    rcases hr : x s with ⟨e | b, u⟩
    · rw [hr] at hx
      cases hx
      exact h.error hr
    · rw [hr] at hx
      cases hx

end Leads

/-- An effect below a layer leaves the layer alone. -/
theorem leads_onWorld {y : Effect τ α} {s : σ × τ} {Q : α → σ × τ → Prop} {E : σ × τ → Prop}
    (h : y.Leads s.2 (fun a w => Q a (s.1, w)) fun w => E (s.1, w)) :
    (onWorld y : Effect (σ × τ) α).Leads s Q E where
  ok {a t} hx := by
    rw [onWorld_apply] at hx
    rcases hr : y s.2 with ⟨f | b, w⟩
    · rw [hr] at hx
      cases hx
    · rw [hr] at hx
      cases hx
      exact h.ok hr
  error {f t} hx := by
    rw [onWorld_apply] at hx
    rcases hr : y s.2 with ⟨e | b, w⟩
    · rw [hr] at hx
      cases hx
      exact h.error hr
    · rw [hr] at hx
      cases hx

/-- On a list, `Q` is said of the part that has been gone through, and of its values. -/
theorem leads_collect {f : α → Effect σ β} {Q : List α → List β → σ → Prop} {xs : List α}
    (hf : ∀ done a left, xs = done ++ a :: left → ∀ bs t, Q done bs t →
      (f a).Leads t (fun b => Q (done ++ [a]) (bs ++ [b])) E) {s : σ} (hs : Q [] [] s) :
    (collect f xs).Leads s (Q xs) E := by
  have hfrom : ∀ left done, xs = done ++ left → ∀ bs t, Q done bs t →
      (collect f left).Leads t (fun cs => Q xs (bs ++ cs)) E := by
    intro left
    induction left with
    | nil =>
      intro done hsplit bs t ht
      rw [List.append_nil] at hsplit
      subst hsplit
      exact leads_pure (by rwa [List.append_nil])
    | cons a left ih =>
      intro done hsplit bs t ht
      refine (hf done a left hsplit bs t ht).bind fun b u hu => ?_
      refine (ih (done ++ [a]) (by rw [hsplit, List.append_assoc]; rfl) _ u hu).bind
        fun cs v hv => leads_pure ?_
      rwa [List.append_assoc] at hv
  exact hfrom xs [] rfl [] s hs

/-- The same where there are no values. -/
theorem leads_each {f : α → Effect σ Unit} {Q : List α → σ → Prop} {xs : List α}
    (hf : ∀ done a left, xs = done ++ a :: left → ∀ t, Q done t →
      (f a).Leads t (fun _ => Q (done ++ [a])) E) {s : σ} (hs : Q [] s) :
    (each f xs).Leads s (fun _ => Q xs) E := by
  have hfrom : ∀ left done, xs = done ++ left → ∀ t, Q done t →
      (each f left).Leads t (fun _ => Q xs) E := by
    intro left
    induction left with
    | nil =>
      intro done hsplit t ht
      rw [List.append_nil] at hsplit
      subst hsplit
      exact leads_pure ht
    | cons a left ih =>
      intro done hsplit t ht
      refine (hf done a left hsplit t ht).bind fun _ u hu => ?_
      exact ih (done ++ [a]) (by rw [hsplit, List.append_assoc]; rfl) u hu
  exact hfrom xs [] rfl s hs

end Effect

end Wiring
