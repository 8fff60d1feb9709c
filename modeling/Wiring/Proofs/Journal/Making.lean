/-
  What a part of a journal does to the creations in progress.

  Only the beginning of a creation and the storing of its instance change what is being made
  (`making_foldl`).  So there are three kinds of parts:
  1. those in which nothing begins and nothing is stored;
  2. those that credit the innermost creation with new instances, whatever happened in between
     (`Credits`);
  3. those that leave new creations in progress, one within the other (`Leaves`): this is where a
     creation is when it fails.
-/
import Wiring.Proofs.Journal.Scene

namespace Wiring

variable {V : Vocabulary}

/-- `e.making?` — the type whose creation begins with `e`, or the handle under which its instance is
    stored. -/
def Event.making? : Event V → Option (TypeKey ⊕ Handle)
  | begun t => some (.inl t)
  | stored h _ => some (.inr h)
  | _ => none

theorem Event.ofStore_making? : Journal.OfStore (making? : Event V → Option _) := by
  intro e he
  cases e <;> first | rfl | cases he

/-- Where nothing begins and nothing is stored, the same is being made. -/
theorem Scene.making_foldl {seg : Journal V} (hseg : seg.filterMap Event.making? = []) :
    ∀ σ : Scene V, (seg.foldl next σ).making = σ.making := by
  induction seg with
  | nil => exact fun _ => rfl
  | cons e seg ih =>
    intro σ
    obtain ⟨he, hseg⟩ := List.forall_mem_cons.1 (List.filterMap_eq_nil_iff.1 hseg)
    rw [List.foldl_cons, ih (List.filterMap_eq_nil_iff.2 hseg)]
    cases e <;> first | rfl | cases he

namespace Journal

variable {made made' : List Handle} {path : List (TypeKey × List Handle)} {seg seg' : Journal V}

/-- `Credits made seg` — over `seg`, the innermost creation is credited with `made`. -/
def Credits (made : List Handle) (seg : Journal V) : Prop :=
  ∀ σ : Scene V, (seg.foldl Scene.next σ).making = made.foldl (fun making h => credit h making) σ.making

/-- `Leaves path seg` — after `seg`, the creations of `path` are in progress, the first one outermost,
    within those that were before. -/
def Leaves (path : List (TypeKey × List Handle)) (seg : Journal V) : Prop :=
  ∀ σ : Scene V, (seg.foldl Scene.next σ).making = path.reverse ++ σ.making

theorem credits_nil (hseg : seg.filterMap Event.making? = []) : Credits [] seg :=
  Scene.making_foldl hseg

theorem Credits.append (h : Credits made seg) (h' : Credits made' seg') :
    Credits (made ++ made') (seg ++ seg') := by
  intro σ
  rw [List.foldl_append, h', h, List.foldl_append]

/-- What is made is added to what was made before, in its order. -/
theorem foldl_credit (t : TypeKey) (outer : List (TypeKey × List Handle)) :
    ∀ before, made.foldl (fun making h => credit h making) ((t, before) :: outer) =
      (t, before ++ made) :: outer := by
  induction made with
  | nil => exact fun before => by rw [List.foldl_nil, List.append_nil]
  | cons h made ih =>
    intro before
    rw [List.foldl_cons, credit, ih, List.append_assoc]
    rfl

/-- After its beginning, what a creation is credited with is its own. -/
theorem Credits.foldl_begun (h : Credits made seg) (t : TypeKey) (σ : Scene V) :
    ((Event.begun t :: seg).foldl Scene.next σ).making = (t, made) :: σ.making := by
  rw [List.foldl_cons, h, Scene.next, foldl_credit, List.nil_append]

/-- A whole creation credits the one around it with its instance. -/
theorem Credits.stored (h : Credits made seg) (t : TypeKey) (k : Handle) (e : Stored V) :
    Credits [k] (.begun t :: seg ++ [.stored k e]) := by
  intro σ
  rw [List.foldl_append, List.foldl_cons (l := []), List.foldl_nil, Scene.next, h.foldl_begun]
  rfl

/-- A creation that gets no further is the last one in progress. -/
theorem Credits.leaves (h : Credits made seg) (t : TypeKey) :
    Leaves [(t, made)] (.begun t :: seg) := h.foldl_begun t

/-- Those within a creation come after it. -/
theorem Credits.leaves_append (h : Credits made seg) (t : TypeKey) (h' : Leaves path seg') :
    Leaves ((t, made) :: path) (.begun t :: seg ++ seg') := by
  intro σ
  rw [List.foldl_append, h', h.foldl_begun, List.reverse_cons, List.append_assoc]
  rfl

/-- Before any creation has begun, what is left in progress is all there is. -/
theorem Leaves.making (h : Leaves path seg) : (Scene.of seg).making = path.reverse :=
  (h {}).trans (List.append_nil _)

end Journal

end Wiring
