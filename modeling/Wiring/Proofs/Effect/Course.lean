/-
  `Course σ ℓ` — how a state may move on, and what is gained on the way.

  A course relates the states before and after a step by the list of things gained in between;
  nothing is gained by staying, and gains of consecutive steps add up.  `R.Along ls x` says that an
  effect `x` keeps to the course `R`: it gains `ls` if it succeeds, and a beginning of `ls` if it
  fails.

  1. The rules follow the way effects are put together, so an effect keeps to a course as soon as
     the single steps that it consists of do.
  2. A course on a part of the state is one on the whole (`below`), may be joined by an order on
     the other part (`beside`), and may hold under an invariant only (`given`).
  3. Sometimes nothing can be said of failures: `R.Yields ls x` is about successes only.  What both
     ways of keeping to a course have in common is a `Manner`; whatever is proved of all manners
     need not be proved twice.
-/
import Wiring.Effect

namespace Wiring

/-- `Course σ ℓ` — moves between states `σ`, each with its list of gains in `ℓ`. -/
structure Course (σ ℓ : Type) where
  rel : List ℓ → σ → σ → Prop
  stay : ∀ s, rel [] s s
  append : ∀ {l m s t u}, rel l s t → rel m t u → rel (l ++ m) s u

namespace Course

variable {σ τ ℓ α β : Type}

/-- Two moves without gains are one. -/
theorem trans (R : Course σ ℓ) {s t u : σ} (h : R.rel [] s t) (h' : R.rel [] t u) :
    R.rel [] s u :=
  R.append h h'

/-! ## Courses from others -/

/-- `free` — every move, with whatever gains. -/
def free : Course σ ℓ where
  rel _ _ _ := True
  stay _ := trivial
  append _ _ := trivial

/-- `R.below` — `R` on the second part; the first may change in any way. -/
def below (R : Course τ ℓ) : Course (σ × τ) ℓ where
  rel l s t := R.rel l s.2 t.2
  stay s := R.stay s.2
  append h h' := R.append h h'

/-- `R.beside A hrefl htrans` — `R` on the second part, where the first goes up in the order `A`. -/
def beside (R : Course τ ℓ) (A : σ → σ → Prop) (hrefl : ∀ a, A a a)
    (htrans : ∀ {a b c}, A a b → A b c → A a c) : Course (σ × τ) ℓ where
  rel l s t := A s.1 t.1 ∧ R.rel l s.2 t.2
  stay s := ⟨hrefl s.1, R.stay s.2⟩
  append h h' := ⟨htrans h.1 h'.1, R.append h.2 h'.2⟩

/-- `R.given I` — `R`, kept only by moves that start where `I` holds; these must also keep `I`. -/
def given (R : Course σ ℓ) (I : σ → Prop) : Course σ ℓ where
  rel l s t := I s → I t ∧ R.rel l s t
  stay s hs := ⟨hs, R.stay s⟩
  append h h' hs :=
    have ⟨ht, hst⟩ := h hs
    have ⟨hu, htu⟩ := h' ht
    ⟨hu, R.append hst htu⟩

/-! ## Effects that keep to a course -/

/-- `R.Along ls x` — a success of `x` gains `ls`, a failure a beginning of `ls`. -/
structure Along (R : Course σ ℓ) (ls : List ℓ) (x : Effect σ α) : Prop where
  ok : ∀ {s a t}, x s = (.ok a, t) → R.rel ls s t
  error : ∀ {s f t}, x s = (.error f, t) → ∃ l, l <+: ls ∧ R.rel l s t

variable {R : Course σ ℓ} {ls ms : List ℓ} {x : Effect σ α}

/-- An effect without gains has none either way. -/
theorem Along.keeps (h : R.Along [] x) (s : σ) : R.rel [] s (x s).2 := by
  rcases hx : x s with ⟨f | a, t⟩
  · obtain ⟨l, hl, hrel⟩ := h.error hx
    rwa [List.prefix_nil.1 hl] at hrel
  · exact h.ok hx

theorem Along.of_keeps (h : ∀ s, R.rel [] s (x s).2) : R.Along [] x where
  ok {s _ _} hx := by
    have hs := h s
    rwa [hx] at hs
  error {s _ _} hx := by
    have hs := h s
    rw [hx] at hs
    exact ⟨[], List.nil_prefix, hs⟩

/-- Whoever keeps still keeps to every course, whatever it was to gain on success. -/
theorem along_fail (f : Failure) : R.Along ls (Effect.fail f : Effect σ α) where
  ok hx := by cases hx
  error hx := by
    cases hx
    exact ⟨[], List.nil_prefix, R.stay _⟩

theorem along_pure (a : α) : R.Along [] (pure a : Effect σ α) := .of_keeps fun s => R.stay s

theorem along_get : R.Along [] (get : Effect σ σ) := .of_keeps fun s => R.stay s

theorem Along.bind {k : α → Effect σ β} (hx : R.Along ls x) (hk : ∀ a, R.Along ms (k a)) :
    R.Along (ls ++ ms) (x >>= k) where
  ok {s b t} h := by
    rcases hs : x s with ⟨f | a, u⟩
    · rw [Effect.bind_error hs] at h
      cases h
    · rw [Effect.bind_ok hs] at h
      exact R.append (hx.ok hs) ((hk a).ok h)
  error {s f t} h := by
    rcases hs : x s with ⟨g | a, u⟩
    · rw [Effect.bind_error hs] at h
      cases h
      obtain ⟨l, hl, hrel⟩ := hx.error hs
      exact ⟨l, hl.trans (List.prefix_append ls ms), hrel⟩
    · rw [Effect.bind_ok hs] at h
      obtain ⟨m, hm, hrel⟩ := (hk a).error h
      exact ⟨ls ++ m, (List.prefix_append_right_inj ls).2 hm, R.append (hx.ok hs) hrel⟩

/-- What comes before without a gain changes nothing. -/
theorem Along.after {k : α → Effect σ β} (hx : R.Along [] x) (hk : ∀ a, R.Along ms (k a)) :
    R.Along ms (x >>= k) :=
  hx.bind hk

/-- What comes after without a gain changes nothing. -/
theorem Along.before {k : α → Effect σ β} (hx : R.Along ls x) (hk : ∀ a, R.Along [] (k a)) :
    R.Along ls (x >>= k) := by
  have h := hx.bind hk
  rwa [List.append_nil] at h

theorem Along.map (hx : R.Along ls x) (g : α → β) : R.Along ls (g <$> x) := by
  rw [← bind_pure_comp]
  exact hx.before fun a => along_pure (g a)

theorem Along.blaming (hx : R.Along ls x) (g : Failure → Failure) : R.Along ls (x.blaming g) where
  ok {s a t} h := by
    rw [Effect.blaming_apply] at h
    rcases hs : x s with ⟨f | b, u⟩
    · rw [hs] at h
      cases h
    · rw [hs] at h
      cases h
      exact hx.ok hs
  error {s f t} h := by
    rw [Effect.blaming_apply] at h
    rcases hs : x s with ⟨e | b, u⟩
    · rw [hs] at h
      cases h
      exact hx.error hs
    · rw [hs] at h
      cases h

/-! ## Manners of keeping to a course -/

/-- `R.Yields ls x` — a success of `x` gains `ls`. -/
def Yields (R : Course σ ℓ) (ls : List ℓ) (x : Effect σ α) : Prop :=
  ∀ s a t, x s = (.ok a, t) → R.rel ls s t

theorem Yields.bind {k : α → Effect σ β} (hx : R.Yields ls x) (hk : ∀ a, R.Yields ms (k a)) :
    R.Yields (ls ++ ms) (x >>= k) := by
  intro s b t h
  rcases hs : x s with ⟨f | a, u⟩
  · rw [Effect.bind_error hs] at h
    cases h
  · rw [Effect.bind_ok hs] at h
    exact R.append (hx s a u hs) (hk a u b t h)

theorem Yields.blaming (hx : R.Yields ls x) (g : Failure → Failure) :
    R.Yields ls (x.blaming g) := by
  intro s a t h
  rw [Effect.blaming_apply] at h
  rcases hs : x s with ⟨f | b, u⟩
  · rw [hs] at h
    cases h
  · rw [hs] at h
    cases h
    exact hx s _ _ hs

theorem Yields.onWorld (hx : R.Yields ls x) :
    (R.below (σ := τ)).Yields ls (Effect.onWorld x : Effect (τ × σ) α) := by
  intro s a t h
  rw [Effect.onWorld_apply] at h
  rcases hs : x s.2 with ⟨f | b, w⟩
  · rw [hs] at h
    cases h
  · rw [hs] at h
    cases h
    exact hx s.2 _ _ hs

/-- `R.Manner` — a manner of keeping to `R`, in which one may do one thing after the other. -/
structure Manner (R : Course σ ℓ) where
  Holds : ∀ {α : Type}, List ℓ → Effect σ α → Prop
  of_along : ∀ {α : Type} {ls : List ℓ} {x : Effect σ α}, R.Along ls x → Holds ls x
  bind : ∀ {α β : Type} {ls ms : List ℓ} {x : Effect σ α} {k : α → Effect σ β},
    Holds ls x → (∀ a, Holds ms (k a)) → Holds (ls ++ ms) (x >>= k)
  blaming : ∀ {α : Type} {ls : List ℓ} {x : Effect σ α},
    Holds ls x → ∀ g : Failure → Failure, Holds ls (x.blaming g)

/-- `R.along` — whatever comes of it. -/
def along (R : Course σ ℓ) : R.Manner where
  Holds := R.Along
  of_along := id
  bind := Along.bind
  blaming := Along.blaming

/-- `R.yielding` — as long as it succeeds. -/
def yielding (R : Course σ ℓ) : R.Manner where
  Holds := R.Yields
  of_along h _ _ _ hx := h.ok hx
  bind := Yields.bind
  blaming := Yields.blaming

namespace Manner

variable {K : R.Manner}

theorem after {k : α → Effect σ β} (hx : K.Holds [] x) (hk : ∀ a, K.Holds ms (k a)) :
    K.Holds ms (x >>= k) :=
  K.bind hx hk

theorem before {k : α → Effect σ β} (hx : K.Holds ls x) (hk : ∀ a, K.Holds [] (k a)) :
    K.Holds ls (x >>= k) := by
  have h := K.bind hx hk
  rwa [List.append_nil] at h

theorem collect {f : α → Effect σ β} {g : α → List ℓ} {xs : List α}
    (h : ∀ a ∈ xs, K.Holds (g a) (f a)) : K.Holds (xs.flatMap g) (Effect.collect f xs) := by
  induction xs with
  | nil => exact K.of_along (along_pure [])
  | cons a xs ih =>
    rw [List.forall_mem_cons] at h
    exact K.bind h.1 fun b => before (ih h.2) fun bs => K.of_along (along_pure (b :: bs))

theorem each {f : α → Effect σ Unit} {g : α → List ℓ} {xs : List α}
    (h : ∀ a ∈ xs, K.Holds (g a) (f a)) : K.Holds (xs.flatMap g) (Effect.each f xs) := by
  induction xs with
  | nil => exact K.of_along (along_pure ())
  | cons a xs ih =>
    rw [List.forall_mem_cons] at h
    exact K.bind h.1 fun _ => ih h.2

end Manner

/-- Steps without gains have none together. -/
theorem along_each_nil {f : α → Effect σ Unit} {xs : List α}
    (h : ∀ a ∈ xs, R.Along [] (f a)) : R.Along [] (Effect.each f xs) := by
  have hall : R.Along (xs.flatMap fun _ => []) (Effect.each f xs) := R.along.each h
  rwa [List.flatMap_eq_nil_iff.2 fun _ _ => rfl] at hall

/-- An effect on a part keeps to a course on the whole that allows all moves of that part. -/
theorem Along.onWorld {S : Course (τ × σ) ℓ} (hx : R.Along ls x)
    (h : ∀ {l s t} (a : τ), R.rel l s t → S.rel l (a, s) (a, t)) :
    S.Along ls (Effect.onWorld x : Effect (τ × σ) α) where
  ok {s a t} hs := by
    rw [Effect.onWorld_apply] at hs
    rcases hw : x s.2 with ⟨f | b, w⟩
    · rw [hw] at hs
      cases hs
    · rw [hw] at hs
      cases hs
      exact h s.1 (hx.ok hw)
  error {s f t} hs := by
    rw [Effect.onWorld_apply] at hs
    rcases hw : x s.2 with ⟨g | b, w⟩
    · rw [hw] at hs
      cases hs
      obtain ⟨l, hl, hrel⟩ := hx.error hw
      exact ⟨l, hl, h s.1 hrel⟩
    · rw [hw] at hs
      cases hs

end Course

end Wiring
