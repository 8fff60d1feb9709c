/-
  How the arguments of a member are asked for.

  1. The points that are asked for are all parameter points of the member, by position
     (`parameterPoints_perm`, `parameterPoints_sorted`).
  2. They are asked for in turn, each once, and the first request that is refused is the last one
     (`requests_asked`); for the arguments of a member, this is a failure of the member
     (`arguments_asked`).  What there is to see of a request is what the course `R` gains by it, a
     mark of the point with the answer.  So the same lemma is about a trace of everything that is
     done, and about a provider that notes down its answers.
-/
import Wiring.Proofs.Component.Positions
import Wiring.Proofs.Effect.Course
import Wiring.Definition.Instance

namespace Wiring

/-! ## Which points -/

namespace Component

variable {ρ : Type}

/-- `placed? m p` — the point with its position, if it is of a parameter of member `m`. -/
def placed? (m : Member) (p : Point ρ) : Option (Nat × Point ρ) :=
  if p.member = m then p.parameter?.map fun parameter => (parameter.2, p) else none

theorem map_snd_placed? (m : Member) (p : Point ρ) :
    (placed? m p).map Prod.snd = if p.member = m ∧ p.parameter?.isSome then some p else none := by
  rw [placed?]
  by_cases hm : p.member = m <;> cases p.parameter? <;> simp [hm]

theorem position_of_placed? {m : Member} {p : Point ρ} {x : Nat × Point ρ}
    (h : placed? m p = some x) : x.2.parameter?.map Prod.snd = some x.1 := by
  rw [placed?] at h
  split at h
  · obtain ⟨parameter, hparameter, rfl⟩ := Option.map_eq_some_iff.1 h
    rw [hparameter]
    rfl
  · cases h

/-- All parameter points of a member are asked for, and no others. -/
theorem parameterPoints_perm (c : Component ρ) (m : Member) :
    (c.parameterPoints m).Perm (c.points.filter fun p => p.member = m ∧ p.parameter?.isSome) := by
  have hplaced : (c.points.filterMap (placed? m)).map Prod.snd =
      c.points.filter fun p => p.member = m ∧ p.parameter?.isSome := by
    rw [List.map_filterMap, ← List.filterMap_eq_filter]
    refine congrArg (List.filterMap · c.points) (funext fun p => ?_)
    rw [map_snd_placed?, Option.guard]
    simp only [decide_eq_true_eq]
  rw [← hplaced]
  exact (List.mergeSort_perm ..).map Prod.snd

theorem member_of_mem_parameterPoints {c : Component ρ} {m : Member} {p : Point ρ}
    (h : p ∈ c.parameterPoints m) : p.member = m :=
  (of_decide_eq_true (List.mem_filter.1 ((c.parameterPoints_perm m).mem_iff.1 h)).2).1

/-- They are asked for by position. -/
theorem parameterPoints_sorted (c : Component ρ) (m : Member) :
    ((c.parameterPoints m).filterMap fun p => p.parameter?.map Prod.snd).Pairwise (· ≤ ·) := by
  let sorted := (c.points.filterMap (placed? m)).mergeSort fun p q => p.1 ≤ q.1
  have hpositions : (c.parameterPoints m).filterMap (fun p => p.parameter?.map Prod.snd) =
      sorted.map Prod.fst := by
    show (sorted.map Prod.snd).filterMap _ = _
    rw [List.filterMap_map, ← List.filterMap_eq_map]
    refine List.filterMap_congr fun x hx => ?_
    obtain ⟨p, -, hp⟩ := List.mem_filterMap.1 (List.mem_mergeSort.1 hx)
    exact position_of_placed? hp
  rw [hpositions]
  exact positions_sorted _

end Component

/-! ## One after the other -/

variable {V : Vocabulary} {ℓ : Type}

/-- `marks mark points values` — a mark for each point, with the value that was given for it. -/
def marks (mark : Point V.Routine → Except Failure (Reference V) → ℓ) (points : List (Point V.Routine))
    (values : List (Reference V)) : List ℓ :=
  (points.zip values).map fun answer => mark answer.1 (.ok answer.2)

namespace Definition

variable {host : Host} {P : Type} {R : Course (P × host.World) ℓ} {provide : Provider host P}
  {mark : Point host.Routine → Except Failure host.Ref → ℓ}

/-- Requests are made in turn, until one is refused. -/
theorem requests_asked (d : Definition host)
    (hmark : ∀ p s, R.rel [mark p (provide p s).1] s (provide p s).2)
    (points : List (Point host.Routine)) :
    ∀ s, (∃ values t, Effect.collect (d.request provide) points s = (.ok values, t) ∧
        values.length = points.length ∧ R.rel (marks mark points values) s t) ∨
      ∃ before p after values f t, points = before ++ p :: after ∧ values.length = before.length ∧
        Effect.collect (d.request provide) points s =
          (.error (.instantiation d.name (.member p.member) f), t) ∧
        R.rel (marks mark before values ++ [mark p (.error f)]) s t := by
  induction points with
  | nil => exact fun s => Or.inl ⟨[], s, rfl, rfl, R.stay s⟩
  | cons p points ih =>
    intro s
    have hfirst := hmark p s
    rw [Effect.collect]
    rcases hr : provide p s with ⟨f | value, u⟩
    · rw [hr] at hfirst
      have hrequest : d.request provide p s =
          (.error (.instantiation d.name (.member p.member) f), u) := by
        rw [request, blame, Effect.blaming_apply, hr]
        rfl
      rw [Effect.bind_error hrequest]
      exact Or.inr ⟨[], p, points, [], f, u, rfl, rfl, rfl, hfirst⟩
    · rw [hr] at hfirst
      have hrequest : d.request provide p s = (.ok value, u) := by
        rw [request, blame, Effect.blaming_apply, hr]
        rfl
      rw [Effect.bind_ok hrequest]
      rcases ih u with ⟨values, t, hrest, hlength, hrel⟩ |
        ⟨before, q, after, values, f, t, rfl, hlength, hrest, hrel⟩
      · rw [Effect.bind_ok hrest]
        exact Or.inl ⟨value :: values, t, rfl, congrArg _ hlength, R.append hfirst hrel⟩
      · have hboth : R.rel ([mark p (.ok value)] ++ (marks mark before values ++ [mark q (.error f)]))
            s t := R.append hfirst hrel
        rw [Effect.bind_error hrest]
        exact Or.inr ⟨p :: before, q, after, value :: values, f, t, rfl, congrArg _ hlength, rfl,
          hboth⟩

/-- The arguments of a member are asked for in turn, and a refusal is a failure of the member. -/
theorem arguments_asked (d : Definition host)
    (hmark : ∀ p s, R.rel [mark p (provide p s).1] s (provide p s).2) (m : Member)
    (s : P × host.World) :
    (∃ values t, d.arguments provide m s = (.ok values, t) ∧
        values.length = (d.component.parameterPoints m).length ∧
        R.rel (marks mark (d.component.parameterPoints m) values) s t) ∨
      ∃ before p after values f t, d.component.parameterPoints m = before ++ p :: after ∧
        values.length = before.length ∧
        d.arguments provide m s = (.error (.instantiation d.name (.member m) f), t) ∧
        R.rel (marks mark before values ++ [mark p (.error f)]) s t := by
  rcases d.requests_asked hmark (d.component.parameterPoints m) s with hall |
    ⟨before, p, after, values, f, t, hpoints, hlength, hasked, hrel⟩
  · exact Or.inl hall
  · have hmem : p ∈ d.component.parameterPoints m := by
      rw [hpoints]
      exact List.mem_append_right before List.mem_cons_self
    rw [Component.member_of_mem_parameterPoints hmem] at hasked
    exact Or.inr ⟨before, p, after, values, f, t, hpoints, hlength, hasked, hrel⟩

end Definition

end Wiring
