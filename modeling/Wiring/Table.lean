/-
  `Table κ α` — a finite map, kept as the list of its entries in the order in which their keys
  first arrived.

  1. The INVARIANT — no key occurs twice — is a field, so each operation discharges it once and
     no caller ever meets a table that breaks it.
  2. `insert` replaces the value of a known key where it stands and appends an unknown key;
     `erase` drops the one entry of a key, if it is there.
  3. The view is `get?`: one lemma per operation says what the operation does to it.
-/

namespace Wiring

/-- `Table κ α` — entries with pairwise distinct keys, oldest key first. -/
structure Table (κ α : Type) where
  /-- The entries themselves, oldest key first. -/
  entries : List (κ × α)
  /-- No key has two entries. -/
  distinct : (entries.map Prod.fst).Nodup

namespace Table

variable {κ α : Type}

/-! ## Views -/

/-- `t.keys` — the keys in order of arrival. -/
def keys (t : Table κ α) : List κ := t.entries.map Prod.fst

/-- `t.values` — the values in the order of their keys. -/
def values (t : Table κ α) : List α := t.entries.map Prod.snd

/-- `t.size` — how many keys there are. -/
def size (t : Table κ α) : Nat := t.entries.length

/-- `empty` — the table without entries. -/
def empty : Table κ α := ⟨[], List.nodup_nil⟩

instance : EmptyCollection (Table κ α) := ⟨empty⟩

instance : Inhabited (Table κ α) := ⟨empty⟩

theorem keys_nodup (t : Table κ α) : t.keys.Nodup := t.distinct

theorem length_keys (t : Table κ α) : t.keys.length = t.size := by simp [keys, size]

/-- Under pairwise distinct keys, a key has one value. -/
private theorem value_unique {es : List (κ × α)} (hes : (es.map Prod.fst).Nodup) {k : κ} {a b : α}
    (ha : (k, a) ∈ es) (hb : (k, b) ∈ es) : a = b := by
  induction es with
  | nil => cases ha
  | cons e es ih =>
    rw [List.map_cons, List.nodup_cons] at hes
    have hother : ∀ c, (k, c) ∈ es → e.1 ≠ k := fun c hc he =>
      hes.1 (he ▸ List.mem_map_of_mem (f := Prod.fst) hc)
    rcases List.mem_cons.1 ha with he | ha
    · rcases List.mem_cons.1 hb with he' | hb
      · cases he.trans he'.symm
        rfl
      · exact absurd (he ▸ rfl) (hother b hb)
    · rcases List.mem_cons.1 hb with he' | hb
      · exact absurd (he' ▸ rfl) (hother a ha)
      · exact ih hes.2 ha hb

variable [DecidableEq κ]

/-- `t.get? k` — the value of `k`. -/
def get? (t : Table κ α) (k : κ) : Option α :=
  (t.entries.find? fun e => e.1 = k).map Prod.snd

/-- `t.contains k` — whether `k` has an entry. -/
def contains (t : Table κ α) (k : κ) : Bool := (t.get? k).isSome

/-! ## Updates -/

/-- The keys stay the same when only values change. -/
private theorem map_fst_setValue (es : List (κ × α)) (k : κ) (a : α) :
    (es.map fun e => if e.1 = k then (e.1, a) else e).map Prod.fst = es.map Prod.fst := by
  rw [List.map_map]
  refine List.map_congr_left fun e _ => ?_
  by_cases h : e.1 = k <;> simp [h]

/-- `t.insert k a` — the value of `k` becomes `a`. -/
def insert (t : Table κ α) (k : κ) (a : α) : Table κ α :=
  if h : k ∈ t.keys then
    ⟨t.entries.map fun e => if e.1 = k then (e.1, a) else e, by
      rw [map_fst_setValue]; exact t.distinct⟩
  else
    ⟨t.entries ++ [(k, a)], by
      rw [List.map_append, List.nodup_append]
      refine ⟨t.distinct, by simp, ?_⟩
      intro x hx y hy hxy
      simp only [List.map_cons, List.map_nil, List.mem_singleton] at hy
      exact h (hy ▸ hxy ▸ hx)⟩

/-- `t.erase k` — `k` has no entry any more. -/
def erase (t : Table κ α) (k : κ) : Table κ α :=
  ⟨t.entries.filter fun e => e.1 ≠ k,
    List.Sublist.nodup (List.filter_sublist.map Prod.fst) t.distinct⟩

/-- `ofList es` — the entries of `es` inserted one after the other, so the last value of a key
    counts. -/
def ofList (es : List (κ × α)) : Table κ α :=
  es.foldl (fun t e => t.insert e.1 e.2) empty

/-! ## What the updates do to the views -/

@[simp] theorem get?_empty (k : κ) : (empty : Table κ α).get? k = none := rfl

theorem get?_eq_none_iff {t : Table κ α} {k : κ} : t.get? k = none ↔ k ∉ t.keys := by
  simp only [get?, keys, Option.map_eq_none_iff, List.find?_eq_none, List.mem_map,
    decide_eq_true_eq, not_exists, not_and]

theorem contains_iff {t : Table κ α} {k : κ} : t.contains k = true ↔ k ∈ t.keys := by
  rw [contains, ← Option.isNone_eq_false_iff, Bool.eq_false_iff, Ne, Option.isNone_iff_eq_none,
    get?_eq_none_iff, Classical.not_not]

theorem mem_entries_of_get? {t : Table κ α} {k : κ} {a : α} (h : t.get? k = some a) :
    (k, a) ∈ t.entries := by
  obtain ⟨e, he, rfl⟩ := Option.map_eq_some_iff.1 h
  have hk := List.find?_some he
  simp only [decide_eq_true_eq] at hk
  exact hk ▸ List.mem_of_find?_eq_some he

/-- What is found under a key is its one entry. -/
theorem get?_eq_some_iff {t : Table κ α} {k : κ} {a : α} :
    t.get? k = some a ↔ (k, a) ∈ t.entries := by
  refine ⟨mem_entries_of_get?, fun h => ?_⟩
  cases hget : t.get? k with
  | none => exact absurd (List.mem_map_of_mem (f := Prod.fst) h) (get?_eq_none_iff.1 hget)
  | some b => rw [value_unique t.distinct (mem_entries_of_get? hget) h]

/-- Setting the value of `k` and then searching for `x`. -/
private theorem find?_setValue (es : List (κ × α)) (k x : κ) (a : α) :
    (es.map fun e => if e.1 = k then (e.1, a) else e).find? (fun e => e.1 = x)
      = (es.find? fun e => e.1 = x).map fun e => if e.1 = k then (e.1, a) else e := by
  induction es with
  | nil => rfl
  | cons e es ih =>
    have hkey : (if e.1 = k then (e.1, a) else e).1 = e.1 := by by_cases h : e.1 = k <;> simp [h]
    simp only [List.map_cons, List.find?_cons, hkey]
    by_cases hx : e.1 = x
    · simp [hx]
    · simp [hx, ih]

theorem get?_insert (t : Table κ α) (k x : κ) (a : α) :
    (t.insert k a).get? x = if x = k then some a else t.get? x := by
  by_cases hk : k ∈ t.keys
  · rw [insert, dif_pos hk, get?, find?_setValue]
    by_cases hx : x = k
    · subst hx
      have hsome : t.get? x ≠ none := fun h => get?_eq_none_iff.1 h hk
      cases hf : t.entries.find? (fun e => e.1 = x) with
      | none => simp [get?, hf] at hsome
      | some e =>
        have he := List.find?_some hf
        simp only [decide_eq_true_eq] at he
        simp [he]
    · cases hf : t.entries.find? (fun e => e.1 = x) with
      | none => simp [get?, hf, hx]
      | some e =>
        have he := List.find?_some hf
        simp only [decide_eq_true_eq] at he
        simp [get?, hf, he, hx]
  · rw [insert, dif_neg hk, get?, List.find?_append]
    by_cases hx : x = k
    · subst hx
      have hf : t.entries.find? (fun e => e.1 = x) = none :=
        Option.map_eq_none_iff.1 (get?_eq_none_iff.2 hk)
      simp [hf]
    · cases hf : t.entries.find? (fun e => e.1 = x) with
      | none => simp [get?, hf, hx, Ne.symm hx]
      | some e => simp [get?, hf, hx]

private theorem get?_foldl (es : List (κ × α)) {t : Table κ α} {k : κ} :
    (es.foldl (fun t e => t.insert e.1 e.2) t).get? k =
      (((es.filter fun e => e.1 = k).getLast?).map Prod.snd).or (t.get? k) := by
  induction es generalizing t with
  | nil => rfl
  | cons e es ih =>
    rw [List.foldl_cons, ih, get?_insert]
    by_cases hk : e.1 = k
    · rw [List.filter_cons_of_pos (by simpa using hk), if_pos hk.symm, List.getLast?_cons]
      cases (es.filter fun e => e.1 = k).getLast? <;> rfl
    · rw [List.filter_cons_of_neg (by simpa using hk), if_neg (Ne.symm hk)]

/-- What is found in a table of entries is the last of the values that the key was given. -/
theorem get?_ofList (es : List (κ × α)) (k : κ) :
    (ofList es).get? k = ((es.filter fun e => e.1 = k).getLast?).map Prod.snd := by
  rw [ofList, get?_foldl, get?_empty, Option.or_none]

/-- Whatever is found in a table of entries is one of the entries. -/
theorem mem_of_get?_ofList {es : List (κ × α)} {k : κ} {a : α} (h : (ofList es).get? k = some a) :
    (k, a) ∈ es := by
  rw [get?_ofList] at h
  obtain ⟨e, he, rfl⟩ := Option.map_eq_some_iff.1 h
  obtain ⟨hmem, hk⟩ := List.mem_filter.1 (List.mem_of_getLast? he)
  exact of_decide_eq_true hk ▸ hmem

theorem mem_keys_insert {t : Table κ α} {k x : κ} {a : α} :
    x ∈ (t.insert k a).keys ↔ x ∈ t.keys ∨ x = k := by
  rw [← contains_iff, ← contains_iff, contains, contains, get?_insert]
  by_cases hx : x = k <;> simp [hx]

private theorem mem_keys_foldl (es : List (κ × α)) {t : Table κ α} {k : κ} :
    k ∈ (es.foldl (fun t e => t.insert e.1 e.2) t).keys ↔
      k ∈ t.keys ∨ k ∈ es.map Prod.fst := by
  induction es generalizing t with
  | nil => simp
  | cons e es ih => rw [List.foldl_cons, ih, mem_keys_insert, List.map_cons, List.mem_cons, or_assoc]

/-- The keys of a table of entries are those of the entries. -/
theorem mem_keys_ofList {es : List (κ × α)} {k : κ} :
    k ∈ (ofList es).keys ↔ k ∈ es.map Prod.fst := by
  have hempty : k ∉ (empty : Table κ α).keys := List.not_mem_nil
  rw [ofList, mem_keys_foldl, or_iff_right hempty]

theorem get?_erase (t : Table κ α) (k x : κ) :
    (t.erase k).get? x = if x = k then none else t.get? x := by
  rw [get?, get?, erase]
  simp only [List.find?_filter]
  by_cases hx : x = k
  · subst hx
    simp
  · rw [if_neg hx]
    congr 2
    funext e
    by_cases he : e.1 = x
    · simp [he, hx]
    · simp [he]

theorem keys_insert (t : Table κ α) (k : κ) (a : α) :
    (t.insert k a).keys = if k ∈ t.keys then t.keys else t.keys ++ [k] := by
  by_cases hk : k ∈ t.keys
  · rw [insert, dif_pos hk, if_pos hk, keys, map_fst_setValue]; rfl
  · rw [insert, dif_neg hk, if_neg hk, keys, List.map_append]; rfl

theorem keys_erase (t : Table κ α) (k : κ) : (t.erase k).keys = t.keys.filter (· ≠ k) := by
  rw [keys, keys, erase, List.filter_map]; rfl

theorem entries_insert_of_not_mem {t : Table κ α} {k : κ} (h : k ∉ t.keys) (a : α) :
    (t.insert k a).entries = t.entries ++ [(k, a)] := by
  rw [insert, dif_neg h]

theorem erase_of_not_mem {t : Table κ α} {k : κ} (h : k ∉ t.keys) : t.erase k = t := by
  have : t.entries.filter (fun e => e.1 ≠ k) = t.entries :=
    List.filter_eq_self.2 fun e he => decide_eq_true fun hk =>
      h (hk ▸ List.mem_map_of_mem he)
  cases t
  simp_all only [erase]

theorem size_erase_lt {t : Table κ α} {k : κ} {a : α} (h : t.get? k = some a) :
    (t.erase k).size < t.size := by
  rw [size, size, erase]
  exact List.length_filter_lt_length_iff_exists.2 ⟨(k, a), mem_entries_of_get? h, by simp⟩

end Table

end Wiring
