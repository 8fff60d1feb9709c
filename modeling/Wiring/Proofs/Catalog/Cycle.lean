/-
  What a failed creation tells of a cycle.

  The failure is wrapped once for each type that was under construction, the type asked for first
  on the outside, and names a component inside.  If the failure is a report, then the wrappers spell
  a path of dependencies without a repetition, the last type on it depends on the type of the
  component inside, and this type lies on the path (`Reports.exists_way`).
-/
import Wiring.Proofs.Catalog.Dependency

namespace Wiring

namespace Failure

/-- `f.root` — the innermost cause. -/
def root (f : Failure) : Failure := f.causes.getLast?.getD f

/-- `f.blamed` — the components that could not be instantiated, the one asked for first in front. -/
def blamed : Failure → List String
  | instantiation component _ cause => component :: cause.blamed
  | _ => []

theorem root_instantiation (component : String) (site : Site) (cause : Failure) :
    (instantiation component site cause).root = cause.root := by
  show ((cause :: cause.causes).getLast?).getD _ = _
  rw [List.getLast?_cons, Option.getD_some, root]

end Failure

namespace Catalog

variable {host : Host} {c : Catalog host} {path : List TypeKey} {t : TypeKey} {f : Failure}

/-- `c.name? t` — the name of the component of type `t`. -/
def name? (c : Catalog host) (t : TypeKey) : Option String := (c.byType? t).map (·.name)

/-- `c.recipe? t` — the types that an instance of type `t` needs something of, if it can be
    constructed. -/
def recipe? (c : Catalog host) (t : TypeKey) : Option (List TypeKey) :=
  (c.byType? t).bind fun d =>
    if d.component.constructor.isSome then some d.component.requirements else none

theorem recipe?_eq_some_iff {us : List TypeKey} : c.recipe? t = some us ↔
    ∃ d, c.byType? t = some d ∧ d.component.constructor.isSome ∧ d.component.requirements = us := by
  simp only [recipe?, Option.bind_eq_some_iff, Option.ite_none_right_eq_some, Option.some.injEq]

/-- What can be constructed has a definition, and with a definition come its needs. -/
theorem needs?_of_recipe? {us : List TypeKey} (h : c.recipe? t = some us) :
    c.needs? t = some us := by
  obtain ⟨d, hd, -, rfl⟩ := recipe?_eq_some_iff.1 h
  rw [needs?, hd, Option.map_some]

/-- `c.Reports path t f` — creating `t`, which `path` leads to from the inside out, comes upon a type
    on the path, and `f` is the failure. -/
inductive Reports (c : Catalog host) : List TypeKey → TypeKey → Failure → Prop where
  | here {path : List TypeKey} {t : TypeKey} {d : Definition host} (hpath : t ∈ path)
      (hd : c.byType? t = some d) : Reports c path t (.dependencyCycle d.name)
  | deeper {path : List TypeKey} {t u : TypeKey} {d : Definition host} {site : Site} {f : Failure}
      (hpath : t ∉ path) (hd : c.byType? t = some d) (hu : u ∈ d.component.requirements)
      (h : Reports c (t :: path) u f) : Reports c path t (.instantiation d.name site f)

theorem edge_of_mem_requirements {u : TypeKey} {d : Definition host} (hd : c.byType? t = some d)
    (hu : u ∈ d.component.requirements) : Edge c.needs? t u :=
  ⟨_, by rw [needs?, hd, Option.map_some], hu⟩

/-- The path goes on from where the creation began, and what is come upon is next and lies on it. -/
theorem Reports.exists_path (h : c.Reports path t f) :
    path.Nodup → List.IsChain (fun a b => Edge c.needs? b a) (t :: path) →
      ∃ more v name, List.IsChain (fun a b => Edge c.needs? b a) (v :: (more ++ path)) ∧
        (more ++ path).Nodup ∧ v ∈ more ++ path ∧ c.name? v = some name ∧
        f.root = .dependencyCycle name ∧ f.blamed.map some = more.reverse.map c.name? := by
  induction h with
  | @here path t d hpath hd =>
    intro hnodup hchain
    exact ⟨[], t, d.name, hchain, hnodup, hpath, by rw [name?, hd, Option.map_some], rfl, rfl⟩
  | @deeper path t u d site f hpath hd hu _ ih =>
    intro hnodup hchain
    obtain ⟨more, v, name, hchain, hnodup, hmem, hname, hroot, hblamed⟩ :=
      ih (List.nodup_cons.2 ⟨hpath, hnodup⟩)
        (List.isChain_cons_cons.2 ⟨edge_of_mem_requirements hd hu, hchain⟩)
    have happend : more ++ [t] ++ path = more ++ t :: path := by
      rw [List.append_assoc, List.singleton_append]
    refine ⟨more ++ [t], v, name, ?_, ?_, ?_, hname, ?_, ?_⟩
    · rwa [happend]
    · rwa [happend]
    · rwa [happend]
    · rw [Failure.root_instantiation, hroot]
    · -- the wrapper of `t` is outside, in front of those that came deeper down
      rw [List.reverse_concat, List.map_cons, ← hblamed, name?, hd]
      rfl

/-- A report of a creation that nothing leads to tells a path of dependencies from its type. -/
theorem Reports.exists_way (h : c.Reports [] t f) :
    ∃ way v name, List.IsChain (Edge c.needs?) (t :: (way ++ [v])) ∧ (t :: way).Nodup ∧
      v ∈ t :: way ∧ c.name? v = some name ∧ f.root = .dependencyCycle name ∧
      f.blamed.map some = (t :: way).map c.name? := by
  cases h with
  | here hpath => cases hpath
  | @deeper _ _ u d site f _ hd hu h =>
    obtain ⟨more, v, name, hchain, hnodup, hmem, hname, hroot, hblamed⟩ :=
      h.exists_path (List.nodup_singleton t)
        (List.isChain_cons_cons.2 ⟨edge_of_mem_requirements hd hu, .singleton t⟩)
    have hreverse : (more ++ [t]).reverse = t :: more.reverse := List.reverse_concat
    refine ⟨more.reverse, v, name, ?_, ?_, ?_, hname, ?_, ?_⟩
    · have hway := List.isChain_reverse.2 hchain
      rwa [List.reverse_cons, hreverse, List.cons_append] at hway
    · rw [← hreverse]
      exact List.nodup_reverse.2 hnodup
    · rw [← hreverse]
      exact List.mem_reverse.2 hmem
    · rw [Failure.root_instantiation, hroot]
    · rw [List.map_cons, ← hblamed, name?, hd]
      rfl

end Catalog

end Wiring
