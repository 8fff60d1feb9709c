/-
  What the settings are, and why they may be refused.

  1. `giving name settings` — what a place gives for a name, in turn.  `given` folds it, the file
     first and then the environment (`given_eq`).
  2. `Decides name layers g` — the last place that gives anything for the name gives it as a whole.
     Then this alone is what the name has, whatever was given before (`inForce_of_decides`).
  3. INVARIANT of the fold: a value that is said to come from a place was given there, under the
     plain name (`given_comes`).  So a refusal names the switch, and the place where the value that
     was found is to be found (`load_refuses`).
-/
import Wiring.Settings.Load

namespace Wiring.Settings

/-! ## What is given -/

/-- `opened file` — the document in the settings file; null if there is no file. -/
def opened : Option String → Option Document
  | none => some .null
  | some s => Document.read? s

/-- `layer document environment place` — the settings of a place. -/
def layer (document : Document) (environment : List (String × String)) :
    Place → Table String Document
  | .file => document.entries
  | .environment => Table.ofList (environment.filterMap ofVariable)

/-- `giving name settings` — what the settings give for the name, each under the key that it has. -/
def giving (name : String) (settings : Table String Document) : List (Key × Document) :=
  (settings.entries.map fun x => (Key.read x.1, x.2)).filter fun x => x.1.name = name

/-- `inForce name layers` — what the name has after the file and the environment. -/
def inForce (name : String) (layers : Place → Table String Document) : Option Given :=
  given name .environment (layers .environment) (given name .file (layers .file) none)

variable {name : String} {place : Place} {key : Key} {d : Document} {earlier : Option Given}

theorem given_eq (name : String) (place : Place) (settings : Table String Document)
    (earlier : Option Given) :
    given name place settings earlier =
      (giving name settings).foldl (fun earlier x => some (put place x.1 x.2 earlier)) earlier := by
  rw [given, giving, List.foldl_filter, List.foldl_map]
  simp only [decide_eq_true_eq]

/-- Nothing counts but the two switches. -/
theorem load_apply (file : Option String) (environment : List (String × String)) :
    load file environment = match opened file with
      | none => .error .unreadable
      | some document => do
        let strict ← switch "strict_around_construct"
          (inForce "strict_around_construct" (layer document environment))
        let overriding ← switch "allow_definition_overriding"
          (inForce "allow_definition_overriding" (layer document environment))
        return { strict := strict.getD false, overriding := overriding.getD false } := by
  cases file with
  | none => rfl
  | some s =>
    rw [load.eq_def, opened]
    dsimp only
    cases Document.read? s <;> rfl

/-! ## The last place counts -/

/-- `Decides name layers g` — `g` is given for the name as a whole by the last place that gives
    anything for it; or nobody gives anything. -/
inductive Decides (name : String) (layers : Place → Table String Document) : Option Given → Prop where
  | environment {before d} (hd : ∀ es, d ≠ .table es)
    (hgiving : giving name (layers .environment) = before ++ [(⟨name, none⟩, d)]) :
    Decides name layers (some ⟨d, some .environment⟩)
  | file {before d} (hd : ∀ es, d ≠ .table es) (hnone : giving name (layers .environment) = [])
    (hgiving : giving name (layers .file) = before ++ [(⟨name, none⟩, d)]) :
    Decides name layers (some ⟨d, some .file⟩)
  | nobody (hnone : ∀ place, giving name (layers place) = []) : Decides name layers none

/-- A value that is given as a whole takes the place of whatever there was. -/
theorem put_whole (hd : ∀ es, d ≠ .table es) (name : String) (earlier : Option Given) :
    put place ⟨name, none⟩ d earlier = ⟨d, some place⟩ := by
  cases d with
  | table es => exact absurd rfl (hd es)
  | null | bool | number | text | sequence => rfl

theorem given_whole {settings : Table String Document} {before : List (Key × Document)}
    (hd : ∀ es, d ≠ .table es) (h : giving name settings = before ++ [(⟨name, none⟩, d)])
    (earlier : Option Given) : given name place settings earlier = some ⟨d, some place⟩ := by
  rw [given_eq, h, List.foldl_append, List.foldl_cons, put_whole hd]
  rfl

theorem given_of_nothing {settings : Table String Document} (h : giving name settings = [])
    (place : Place) (earlier : Option Given) : given name place settings earlier = earlier := by
  rw [given_eq, h]
  rfl

theorem inForce_of_decides {layers : Place → Table String Document} {g : Option Given}
    (h : Decides name layers g) : inForce name layers = g := by
  rw [inForce]
  cases h with
  | environment hd hgiving => exact given_whole hd hgiving _
  | file hd hnone hgiving => rw [given_of_nothing hnone, given_whole hd hgiving]
  | nobody hnone => rw [given_of_nothing (hnone _), given_of_nothing (hnone _)]

/-- **The environment counts before the file, and the file before the defaults.**  If the last place
    that gives anything for a switch gives it as a whole, the switch is what is said there, whatever
    the other places say; and it is off where nobody says anything. -/
theorem load_of_decides {file : Option String} {environment : List (String × String)}
    {document : Document} {strict overriding : Option Given} (hfile : opened file = some document)
    (hstrict : Decides "strict_around_construct" (layer document environment) strict)
    (hoverriding : Decides "allow_definition_overriding" (layer document environment) overriding) :
    load file environment = do
      let strict ← switch "strict_around_construct" strict
      let overriding ← switch "allow_definition_overriding" overriding
      return { strict := strict.getD false, overriding := overriding.getD false } := by
  rw [load_apply, hfile]
  dsimp only
  rw [inForce_of_decides hstrict, inForce_of_decides hoverriding]

/-- Without a file and variables, both switches are off. -/
example : load none [] = .ok {} :=
  load_of_decides rfl (.nobody fun place => by cases place <;> rfl)
    (.nobody fun place => by cases place <;> rfl)

/-! ## Refusals -/

/-- `misfit? d` — what is found where `d` is no switch. -/
def misfit? : Document → Option Found
  | .null | .bool _ | .number _ => none
  | .text s => if (word? (Text.lowercase s)).isSome then none else some (.text (Text.lowercase s))
  | .sequence _ => some .sequence
  | .table _ => some .table

theorem switch_eq_error {g : Option Given} {m : Misfit} (h : switch name g = .error m) :
    ∃ value place kind, g = some ⟨value, place⟩ ∧ misfit? value = some kind ∧
      m = .notASwitch kind name place := by
  rcases g with _ | ⟨value, place⟩
  · cases h
  · cases value with
    | null | bool | number => cases h
    | text s =>
      rw [switch] at h
      cases hword : word? (Text.lowercase s) with
      | some b =>
        rw [hword] at h
        cases h
      | none =>
        rw [hword] at h
        cases h
        exact ⟨_, _, .text (Text.lowercase s), rfl, by rw [misfit?, hword]; rfl, rfl⟩
    | sequence items =>
      cases h
      exact ⟨_, _, _, rfl, rfl, rfl⟩
    | table es =>
      cases h
      exact ⟨_, _, _, rfl, rfl, rfl⟩

/-- `Comes name layers g` — if `g` is said to come from one place, it was given there as a whole. -/
def Comes (name : String) (layers : Place → Table String Document) (g : Given) : Prop :=
  ∀ place, g.place = some place → (⟨name, none⟩, g.value) ∈ giving name (layers place)

variable {layers : Place → Table String Document}

theorem put_comes (hx : (key, d) ∈ giving name (layers place))
    (hearlier : ∀ g ∈ earlier, Comes name layers g) : Comes name layers (put place key d earlier) := by
  have hname : key.name = name := of_decide_eq_true (List.mem_filter.1 hx).2
  have hnowhere : ∀ value, Comes name layers ⟨value, none⟩ := fun _ _ hplace => nomatch hplace
  obtain ⟨keyName, inner⟩ := key
  cases hname
  rw [put.eq_def]
  dsimp only
  split
  · exact hearlier _ rfl
  · exact hnowhere _
  · exact hearlier _ rfl
  · exact hnowhere _
  · exact hnowhere _
  · rintro _ hplace
    cases hplace
    exact hx

/-- Each place gives what it is said to have given. -/
theorem given_comes (place : Place) (hearlier : ∀ g ∈ earlier, Comes name layers g) :
    ∀ g ∈ given name place (layers place) earlier, Comes name layers g := by
  rw [given_eq]
  -- the fold goes through a list of what was given, of which any part will do
  suffices h : ∀ (xs : List (Key × Document)) earlier, (∀ x ∈ xs, x ∈ giving name (layers place)) →
      (∀ g ∈ earlier, Comes name layers g) →
      ∀ g ∈ xs.foldl (fun earlier x => some (put place x.1 x.2 earlier)) earlier,
        Comes name layers g from h _ _ (fun _ hx => hx) hearlier
  intro xs
  induction xs with
  | nil => exact fun _ _ hearlier => hearlier
  | cons x xs ih =>
    intro earlier hxs hearlier
    rw [List.forall_mem_cons] at hxs
    refine ih _ hxs.2 fun g hg => ?_
    cases hg
    exact put_comes hxs.1 hearlier

theorem inForce_comes : ∀ g ∈ inForce name layers, Comes name layers g :=
  given_comes .environment (given_comes .file nofun)

/-- What takes two results is refused with one of them. -/
theorem error_of_both {α β ε : Type} {x y : Except ε α} {f : α → α → β} {e : ε}
    (h : (do let a ← x; let b ← y; return f a b) = .error e) : x = .error e ∨ y = .error e := by
  rcases x with e' | a
  · cases h
    exact Or.inl rfl
  · rcases y with e' | b
    · cases h
      exact Or.inr rfl
    · cases h

/-- **A refusal says what was found, what for, and where.**  Settings are refused only if the file is
    no document, or if one of the two switches is none; and if that is said to come from one place,
    it was given there, under the name of the switch. -/
theorem load_refuses {file : Option String} {environment : List (String × String)} {m : Misfit}
    (h : load file environment = .error m) :
    (opened file = none ∧ m = .unreadable) ∨
    ∃ document name kind place, opened file = some document ∧
      name ∈ ["strict_around_construct", "allow_definition_overriding"] ∧
      m = .notASwitch kind name place ∧
      ∀ p, place = some p → ∃ d, (⟨name, none⟩, d) ∈ giving name (layer document environment p) ∧
        misfit? d = some kind := by
  rw [load_apply] at h
  cases hfile : opened file with
  | none =>
    rw [hfile] at h
    cases h
    exact Or.inl ⟨rfl, rfl⟩
  | some document =>
    rw [hfile] at h
    have hrefused : ∃ name ∈ ["strict_around_construct", "allow_definition_overriding"],
        switch name (inForce name (layer document environment)) = .error m := by
      rcases error_of_both h with h | h
      · exact ⟨_, List.mem_cons_self, h⟩
      · exact ⟨_, List.mem_cons_of_mem _ List.mem_cons_self, h⟩
    obtain ⟨name, hname, hswitch⟩ := hrefused
    obtain ⟨value, place, kind, hfound, hkind, hm⟩ := switch_eq_error hswitch
    exact Or.inr ⟨document, name, kind, place, rfl, hname, hm,
      fun p hp => ⟨value, inForce_comes _ hfound p hp, hkind⟩⟩

end Wiring.Settings
