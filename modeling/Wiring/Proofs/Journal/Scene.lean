/-
  What a journal tells of a container at a moment.

  1. `Scene.of log` is drawn from the events of `log` alone: what is live, by what was stored and
     released; the creations in progress, by what began and was stored, each with the handles of what
     was made for it; and the instance whose callbacks before destruction run, from its release
     until it is retired, or a new creation begins.
  2. A creation that fails is not reported.  It stays in the scene below whatever begins after it, so
     the innermost creation is in progress as long as no creation has failed.
  3. `e.Within log start finish` — at the end of `log`, `e` is what a step writes next that lets the
     journal grow from `start` to `finish`.
-/
import Mathlib.Data.List.Forall2
import Mathlib.Data.List.Induction
import Wiring.Proofs.Journal.Ledger

namespace Wiring

variable {V : Vocabulary}

/-- `Scene V` — live entries, creations in progress, and who is leaving. -/
structure Scene (V : Vocabulary) where
  live : List (Handle × Stored V) := []
  /-- The types under construction, innermost first, with what was made for each of them. -/
  making : List (TypeKey × List Handle) := []
  leaving : Option (Handle × Stored V) := none

/-- `credit h making` — `h` was made for the innermost creation. -/
def credit (h : Handle) : List (TypeKey × List Handle) → List (TypeKey × List Handle)
  | [] => []
  | (t, made) :: outer => (t, made ++ [h]) :: outer

namespace Scene

/-- `σ.next e` — the scene after `e`. -/
def next (σ : Scene V) : Event V → Scene V
  | .begun t => { σ with making := (t, []) :: σ.making, leaving := none }
  | .stored h e => { σ with live := σ.live ++ [(h, e)], making := credit h σ.making.tail }
  | .released h _ =>
    { σ with live := σ.live.filter (·.1 ≠ h), leaving := σ.live.find? (·.1 = h) }
  | .retired _ _ _ => { σ with leaving := none }
  | _ => σ

/-- `of log` — the scene at the end of `log`. -/
def of (log : Journal V) : Scene V := log.foldl next {}

theorem of_append (log seg : Journal V) : of (log ++ seg) = seg.foldl next (of log) :=
  List.foldl_append

theorem of_concat (log : Journal V) (e : Event V) : of (log ++ [e]) = (of log).next e :=
  of_append log [e]

/-- Only a container changes the scene. -/
theorem next_of_plain (σ : Scene V) {e : Event V} (he : e.isOfStore = false) : σ.next e = σ := by
  cases e <;> first | rfl | cases he

theorem of_append_of_plain (log : Journal V) {seg : Journal V}
    (hseg : ∀ e ∈ seg, e.isOfStore = false) : of (log ++ seg) = of log := by
  rw [of_append]
  induction seg with
  | nil => rfl
  | cons e seg ih =>
    obtain ⟨he, hseg⟩ := List.forall_mem_cons.1 hseg
    rw [List.foldl_cons, next_of_plain _ he, ih hseg]

/-- Whatever is live has been stored before. -/
theorem stored_of_mem_live {log : Journal V} {x : Handle × Stored V} (hx : x ∈ (of log).live) :
    ∃ before, before ++ [.stored x.1 x.2] <+: log := by
  induction log using List.reverseRecOn with
  | nil => cases hx
  | append_singleton log e ih =>
    have hearlier : x ∈ (of log).live → ∃ before, before ++ [.stored x.1 x.2] <+: log ++ [e] :=
      fun hold => (ih hold).imp fun _ h => h.trans (List.prefix_append log [e])
    rw [of_concat] at hx
    cases e with
    | stored h entry =>
      rcases List.mem_append.1 hx with hold | hnew
      · exact hearlier hold
      · cases List.mem_singleton.1 hnew
        exact ⟨log, List.prefix_rfl⟩
    | released h live => exact hearlier (List.mem_filter.1 hx).1
    | _ => exact hearlier hx

/-! ## What can be seen in a scene -/

/-- `σ.handles` — the live handles. -/
def handles (σ : Scene V) : List Handle := σ.live.map Prod.fst

/-- `σ.Makes t made` — an instance of `t` is being made, which `made` were made for so far, and
    nobody is leaving. -/
structure Makes (σ : Scene V) (t : TypeKey) (made : List Handle) : Prop where
  innermost : ∃ outer, σ.making = (t, made) :: outer
  settled : σ.leaving = none

/-- `σ.Meets made ts` — the instances `made` are live, and of the types `ts` in this order. -/
def Meets (σ : Scene V) (made : List Handle) (ts : List TypeKey) : Prop :=
  List.Forall₂ (fun h t => ∃ e, (h, e) ∈ σ.live ∧ e.type = t) made ts

/-- `σ.Refers made arguments` — the instances `made` are live, and stored under the references
    `arguments` in this order. -/
def Refers (σ : Scene V) (made : List Handle) (arguments : List (Reference V)) : Prop :=
  List.Forall₂ (fun h r => ∃ e, (h, e) ∈ σ.live ∧ e.reference = r) made arguments

variable {σ σ' : Scene V} {made : List Handle}

theorem Refers.mono {arguments : List (Reference V)} (h : σ.Refers made arguments)
    (hlive : ∀ x ∈ σ.live, x ∈ σ'.live) : σ'.Refers made arguments :=
  h.imp fun _ _ ⟨e, he, hr⟩ => ⟨e, hlive _ he, hr⟩

end Scene

/-- `e.Within log start finish` — `e` comes next after `log` on the way from `start` to `finish`. -/
def Event.Within (e : Event V) (log start finish : Journal V) : Prop :=
  start <+: log ∧ log ++ [e] <+: finish

/-- Each event of a segment is on the way from its beginning to its end. -/
theorem Event.within_of_split {start finish before after : Journal V} {e : Event V}
    (h : finish = start ++ (before ++ e :: after)) : e.Within (start ++ before) start finish := by
  refine ⟨List.prefix_append start before, after, ?_⟩
  rw [h, List.append_assoc, List.append_assoc, List.singleton_append]

end Wiring
