/-
  In a quoted text every character can be told.

  What is written for a character is a single one, or begins with a backslash and shows its own end.
  So of two texts in which characters are written like this, the first characters agree if the texts
  do (`Escapes.cancel`), and by induction all of them (`quote_injective`).
-/
import Mathlib.Logic.Function.Basic
import Wiring.Text.Quoted

namespace Wiring.Text

/-! ## Numbers in base 16 -/

theorem digitChar_injOn : ∀ a < 16, ∀ b < 16, Nat.digitChar a = Nat.digitChar b → a = b := by
  decide

theorem not_mem_toDigits (n : Nat) : '\x7d' ∉ Nat.toDigits 16 n := by
  have hdigit : ∀ a < 16, '\x7d' ≠ Nat.digitChar a := by decide
  induction n using Nat.strongRecOn with
  | _ n ih =>
    rw [Nat.toDigits_eq_if (by decide)]
    split
    · next hn => exact fun hmem => hdigit n hn (List.mem_singleton.1 hmem)
    · next hn =>
      rw [List.mem_append, not_or]
      have hless : n / 16 < n := by omega
      exact ⟨ih _ hless, fun hmem =>
        hdigit _ (Nat.mod_lt n (by decide)) (List.mem_singleton.1 hmem)⟩

theorem toDigits_injective : ∀ {n m : Nat}, Nat.toDigits 16 n = Nat.toDigits 16 m → n = m := by
  intro n
  induction n using Nat.strongRecOn with
  | _ n ih =>
    intro m h
    rw [Nat.toDigits_eq_if (by decide), Nat.toDigits_eq_if (n := m) (by decide)] at h
    have hnil : ∀ k, Nat.toDigits 16 k ≠ [] := fun k => Nat.toDigits_ne_nil
    split at h
    · next hn =>
      split at h
      · next hm => exact digitChar_injOn n hn m hm (List.singleton_inj.1 h)
      · exact absurd (List.append_eq_singleton_iff.1 h.symm) (by simp [hnil])
    · next hn =>
      split at h
      · exact absurd (List.append_eq_singleton_iff.1 h) (by simp [hnil])
      · next hm =>
        obtain ⟨hleading, hlast⟩ := List.append_inj' h rfl
        have hdiv : n / 16 = m / 16 := ih _ (by omega) hleading
        have hmod : n % 16 = m % 16 := digitChar_injOn _ (Nat.mod_lt n (by decide)) _
          (Nat.mod_lt m (by decide)) (List.singleton_inj.1 hlast)
        omega

/-- Two runs up to their first closing brackets. -/
theorem append_close_inj {ds ds' xs xs' : List Char} (h : '\x7d' ∉ ds) (h' : '\x7d' ∉ ds')
    (heq : ds ++ '\x7d' :: xs = ds' ++ '\x7d' :: xs') : ds = ds' ∧ xs = xs' := by
  induction ds generalizing ds' with
  | nil =>
    cases ds' with
    | nil => exact ⟨rfl, (List.cons.inj heq).2⟩
    | cons d ds' => exact absurd (List.cons.inj heq).1 (List.ne_of_not_mem_cons h')
  | cons d ds ih =>
    cases ds' with
    | nil => exact absurd (List.cons.inj heq).1.symm (List.ne_of_not_mem_cons h)
    | cons d' ds' =>
      obtain ⟨rfl, htail⟩ := List.cons.inj heq
      obtain ⟨rfl, hxs⟩ :=
        ih (List.not_mem_of_not_mem_cons h) (List.not_mem_of_not_mem_cons h') htail
      exact ⟨rfl, hxs⟩

/-! ## Single characters -/

/-- `letters` — the characters that are written by a letter behind a backslash, each behind its
    letter. -/
def letters : List (Char × Char) :=
  [('0', '\x00'), ('t', '\t'), ('r', '\r'), ('n', '\n'), ('"', '"'), ('\\', '\\')]

/-- `Escapes c cs` — `cs` is written for `c`. -/
inductive Escapes (c : Char) : List Char → Prop where
  | letter {l} (h : (l, c) ∈ letters) : Escapes c ['\\', l]
  | number : Escapes c ('\\' :: 'u' :: '\x7b' :: (Nat.toDigits 16 c.toNat ++ ['\x7d']))
  | plain (h : c ≠ '\\') : Escapes c [c]

theorem escapes_escape (c : Char) : Escapes c (escape c) := by
  rw [escape.eq_def]
  split
  iterate 6 exact .letter (by decide)
  split
  · exact .number
  · exact .plain ‹_›

/-- The text that is written for a character shows its own end. -/
theorem Escapes.cancel {c c' : Char} {cs cs' xs xs' : List Char} (h : Escapes c cs)
    (h' : Escapes c' cs') (heq : cs ++ xs = cs' ++ xs') : c = c' ∧ xs = xs' := by
  have hletters : ∀ x ∈ letters, x.1 ≠ 'u' ∧ ∀ y ∈ letters, x.1 = y.1 → x.2 = y.2 := by decide
  cases h with
  | letter h =>
    cases h' with
    | letter h' =>
      cases heq
      exact ⟨(hletters _ h).2 _ h' rfl, rfl⟩
    | number =>
      cases heq
      exact absurd rfl (hletters _ h).1
    | plain h' =>
      cases heq
      exact absurd rfl h'
  | number =>
    cases h' with
    | letter h' =>
      cases heq
      exact absurd rfl (hletters _ h').1
    | number =>
      -- no digit is the bracket behind the digits, so the two runs of digits end together
      have htail : Nat.toDigits 16 c.toNat ++ '\x7d' :: xs =
          Nat.toDigits 16 c'.toNat ++ '\x7d' :: xs' := by simpa using heq
      obtain ⟨hdigits, hxs⟩ := append_close_inj (not_mem_toDigits _) (not_mem_toDigits _) htail
      exact ⟨Char.toNat_inj.1 (toDigits_injective hdigits), hxs⟩
    | plain h' =>
      cases heq
      exact absurd rfl h'
  | plain h =>
    cases h' with
    | plain h' =>
      cases heq
      exact ⟨rfl, rfl⟩
    | letter | number =>
      cases heq
      exact absurd rfl h

/-! ## Texts -/

theorem escapes_ne_nil {c : Char} {cs : List Char} (h : Escapes c cs) : cs ≠ [] := by
  cases h <;> exact List.cons_ne_nil _ _

theorem flatMap_escape_injective : ∀ {cs cs' : List Char},
    cs.flatMap escape = cs'.flatMap escape → cs = cs' := by
  intro cs
  induction cs with
  | nil =>
    intro cs' h
    cases cs' with
    | nil => rfl
    | cons c cs' =>
      exact absurd (List.append_eq_nil_iff.1 h.symm).1 (escapes_ne_nil (escapes_escape c))
  | cons c cs ih =>
    intro cs' h
    cases cs' with
    | nil => exact absurd (List.append_eq_nil_iff.1 h).1 (escapes_ne_nil (escapes_escape c))
    | cons c' cs' =>
      obtain ⟨rfl, hrest⟩ := (escapes_escape c).cancel (escapes_escape c') h
      rw [ih hrest]

/-- **No two texts are quoted alike.** -/
theorem quote_injective : Function.Injective quote := by
  intro s t h
  have hlists := String.ofList_injective h
  have hmarked := List.append_cancel_right (List.cons.inj hlists).2
  exact String.toList_injective (flatMap_escape_injective hmarked)

end Wiring.Text
