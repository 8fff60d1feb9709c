/-
  Lists without duplicates of a key.

  Of the elements with one key the first is left, so the keys stay the same, none of them twice, and
  nothing new comes in.
-/
namespace Wiring

/-- Erasing duplicates by a key leaves, for each element, one with the same key. -/
theorem exists_mem_eraseDupsBy {α κ : Type} [DecidableEq κ] (key : α → κ) :
    ∀ {xs : List α} {a : α}, a ∈ xs →
      ∃ b ∈ xs.eraseDupsBy (fun x y => key x = key y), key b = key a
  | [], _, h => by cases h
  | x :: xs, a, h => by
    rw [List.eraseDupsBy_cons]
    by_cases hkey : key a = key x
    · exact ⟨x, List.mem_cons_self, hkey.symm⟩
    · -- `a` survives the first round, so the rest of the list has the witness
      have hmem : a ∈ xs.filter fun b => decide (key b = key x) = false := by
        rcases List.mem_cons.1 h with rfl | h
        · exact absurd rfl hkey
        · exact List.mem_filter.2 ⟨h, by simp [hkey]⟩
      obtain ⟨b, hb, heq⟩ := exists_mem_eraseDupsBy key hmem
      exact ⟨b, List.mem_cons_of_mem x hb, heq⟩
termination_by xs => xs.length
decreasing_by exact Nat.lt_succ_of_le (List.length_filter_le _ _)

theorem mem_of_mem_eraseDupsBy {α κ : Type} [DecidableEq κ] (key : α → κ) :
    ∀ {xs : List α} {a : α}, a ∈ xs.eraseDupsBy (fun x y => key x = key y) → a ∈ xs
  | [], _, h => h
  | x :: xs, a, h => by
    rw [List.eraseDupsBy_cons] at h
    rcases List.mem_cons.1 h with rfl | h
    · exact List.mem_cons_self
    · exact List.mem_cons_of_mem x (List.mem_filter.1 (mem_of_mem_eraseDupsBy key h)).1
termination_by xs => xs.length
decreasing_by exact Nat.lt_succ_of_le (List.length_filter_le _ _)

/-- Erasing duplicates of a key, and choosing by a property of the key, may change places. -/
theorem filter_eraseDupsBy {α κ : Type} [DecidableEq κ] (key : α → κ) {p : α → Bool}
    (hp : ∀ x y, key x = key y → p x = p y) :
    ∀ xs : List α, (xs.eraseDupsBy fun x y => key x = key y).filter p =
      (xs.filter p).eraseDupsBy fun x y => key x = key y
  | [] => rfl
  | x :: xs => by
    rw [List.eraseDupsBy_cons, List.filter_cons, List.filter_cons,
      filter_eraseDupsBy key hp, List.filter_filter]
    cases hx : p x with
    | true =>
      rw [if_pos rfl, if_pos rfl, List.eraseDupsBy_cons, List.filter_filter]
      simp only [Bool.and_comm]
    | false =>
      rw [if_neg nofun, if_neg nofun]
      -- what has the key of `x` is not chosen anyway
      congr 1
      refine List.filter_congr fun y _ => ?_
      by_cases hkey : key y = key x
      · rw [hp y x hkey, hx, Bool.false_and]
      · simp [hkey]
termination_by xs => xs.length
decreasing_by exact Nat.lt_succ_of_le (List.length_filter_le _ _)

/-- Of the elements with one key one is left, so no key occurs twice. -/
theorem nodup_map_eraseDupsBy {α κ : Type} [DecidableEq κ] (key : α → κ) :
    ∀ xs : List α, ((xs.eraseDupsBy fun x y => key x = key y).map key).Nodup
  | [] => List.nodup_nil
  | x :: xs => by
    rw [List.eraseDupsBy_cons, List.map_cons]
    refine List.nodup_cons.2 ⟨fun hmem => ?_, nodup_map_eraseDupsBy key _⟩
    obtain ⟨y, hy, heq⟩ := List.mem_map.1 hmem
    have hne := (List.mem_filter.1 (mem_of_mem_eraseDupsBy key hy)).2
    simp [heq] at hne
termination_by xs => xs.length
decreasing_by exact Nat.lt_succ_of_le (List.length_filter_le _ _)

/-- The one that is left is the first with its key. -/
theorem find?_of_mem_eraseDupsBy {α κ : Type} [DecidableEq κ] (key : α → κ) :
    ∀ {xs : List α} {a : α}, a ∈ xs.eraseDupsBy (fun x y => key x = key y) →
      xs.find? (fun x => key x = key a) = some a
  | [], _, h => by cases h
  | x :: xs, a, h => by
    rw [List.eraseDupsBy_cons] at h
    rcases List.mem_cons.1 h with rfl | h
    · exact List.find?_cons_of_pos (by simp)
    · have hne : key a ≠ key x := by
        simpa using (List.mem_filter.1 (mem_of_mem_eraseDupsBy key h)).2
      have hfirst := find?_of_mem_eraseDupsBy key h
      rw [List.find?_filter] at hfirst
      rw [List.find?_cons_of_neg (by simpa using hne.symm), ← hfirst]
      -- what has the key of `x` is passed over anyway
      refine congrArg (List.find? · xs) (funext fun y => ?_)
      by_cases hy : key y = key a
      · simp [hy, hne]
      · simp [hy]
termination_by xs => xs.length
decreasing_by exact Nat.lt_succ_of_le (List.length_filter_le _ _)

theorem mem_eraseDupsBy_iff {α κ : Type} [DecidableEq κ] (key : α → κ) {xs : List α} {a : α} :
    a ∈ xs.eraseDupsBy (fun x y => key x = key y) ↔ xs.find? (fun x => key x = key a) = some a := by
  refine ⟨find?_of_mem_eraseDupsBy key, fun hfound => ?_⟩
  obtain ⟨b, hb, hkey⟩ := exists_mem_eraseDupsBy key (List.mem_of_find?_eq_some hfound)
  have hfirst := find?_of_mem_eraseDupsBy key hb
  rw [hkey, hfound] at hfirst
  rwa [Option.some.inj hfirst]

/-- The keys that are left come in the order of their first elements. -/
theorem map_eraseDupsBy {α κ : Type} [DecidableEq κ] (key : α → κ) :
    ∀ xs : List α, (xs.eraseDupsBy fun x y => key x = key y).map key = (xs.map key).eraseDups
  | [] => rfl
  | x :: xs => by
    rw [List.eraseDupsBy_cons, List.map_cons, List.map_cons, List.eraseDups_cons,
      map_eraseDupsBy key, List.filter_map]
    refine congrArg (fun ys => key x :: (List.map key ys).eraseDups) (List.filter_congr fun y _ => ?_)
    by_cases hy : key y = key x <;> simp [hy]
termination_by xs => xs.length
decreasing_by exact Nat.lt_succ_of_le (List.length_filter_le _ _)

end Wiring
