/-
  A quiet host stays quiet while an instance of a definition is made, wired and retired.

  What a definition does to the world goes through routines of the host and through its own proxy
  scheme, so the scheme has to be quiet as well.  The scheme never changes, and of the rest of the
  definition only the lifecycle chains do (`Later`).
-/
import Wiring.Definition.Instance
import Wiring.Definition.Lifecycle
import Wiring.Proofs.Definition.Later
import Wiring.Proofs.Invocation.Quiet

namespace Wiring

namespace Course

variable {σ ℓ α : Type} {R : Course σ ℓ} {I : σ → Prop}

/-- Under an invariant, the state that is read satisfies it. -/
theorem along_given_get {ls : List ℓ} {k : σ → Effect σ α}
    (h : ∀ s, I s → (R.given I).Along ls (k s)) :
    (R.given I).Along ls (do let s ← get; k s) where
  ok {s a t} hx hs := (h s hs).ok hx hs
  error {s f t} hx := by
    by_cases hs : I s
    · exact (h s hs).error hx
    · exact ⟨[], List.nil_prefix, fun hI => absurd hI hs⟩

end Course

namespace Definition

variable {host : Host} {ℓ : Type} {L : Course host.World ℓ}

/-- `course L` — moves of a definition and the world in which the definition becomes a later one
    and the world keeps to `L`, as long as the proxy scheme is quiet. -/
def course (L : Course host.World ℓ) : Course (Definition host × host.World) ℓ :=
  (L.beside Later Later.refl Later.trans).given fun s => s.1.scheme.Quiet L

theorem rel_course {ls : List ℓ} {d d' : Definition host} {w w' : host.World} (hd : Later d d')
    (hw : L.rel ls w w') : (course L).rel ls (d, w) (d', w') := by
  intro hs
  refine ⟨?_, hd, hw⟩
  show d'.scheme.Quiet L
  rw [hd.scheme_eq]
  exact hs

theorem along_onWorld {α : Type} {ls : List ℓ} {x : Effect host.World α} (hx : L.Along ls x) :
    (course L).Along ls (Effect.onWorld x : Effect (Definition host × host.World) α) :=
  hx.onWorld fun d h => rel_course (Later.refl d) h

theorem along_onLayer {α : Type} {x : Effect (Definition host) α} (hx : ∀ d, Later d (x d).2) :
    (course L).Along [] (Effect.onLayer x : Effect (Definition host × host.World) α) :=
  .of_keeps fun s => rel_course (hx s.1) (L.stay s.2)

theorem later_lifecycleChains (d : Definition host) : Later d (lifecycleChains d).2 :=
  Later.settled d

theorem later_needsProxy (d : Definition host) : Later d (needsProxy d).2 := by
  rw [needsProxy_apply]
  exact Later.settled d

/-! ## Making an instance -/

theorem along_recruit (hq : host.Quiet L) (chain : List (Interceptor host.Routine)) :
    ∀ enlisted, L.Along [] (recruit chain enlisted) := by
  induction chain with
  | nil => exact fun enlisted => Course.along_pure enlisted
  | cons i rest ih =>
    intro enlisted
    rw [recruit]
    split
    · exact ih enlisted
    · exact ((hq.make i.maker).blaming _).after fun it => ih _

theorem along_interceptors (hq : host.Quiet L) :
    (course L).Along [] (interceptors : Effect (Definition host × host.World) host.LiveSet) :=
  (along_onLayer later_lifecycleChains).after fun _ =>
    Course.along_get.after fun _ => along_onWorld (along_recruit hq _ _)

theorem along_wrap (made : host.Ref) (interceptors : host.LiveSet) :
    (course L).Along [] (wrap made interceptors) := by
  refine (along_onLayer later_needsProxy).after fun needed => ?_
  cases needed with
  | false => exact Course.along_pure made
  | true =>
    refine Course.along_given_get fun s hs => along_onWorld (.of_keeps fun w => ?_)
    exact hs.wrap _ _ _ _ w

theorem along_constructing (hq : host.Quiet L) (d : Definition host)
    (k : Constructor host.Routine) : L.below.Along [] (d.constructing k) := by
  refine (Invocation.along_proceed hq).after fun _ =>
    Invocation.along_takeNewInstance.after fun made => ?_
  cases made with
  | some made => exact Course.along_pure made
  | none =>
    dsimp only
    split
    · exact Course.along_fail _
    · refine (Invocation.along_proceedDirectly hq).after fun _ =>
        Invocation.along_takeNewInstance.after fun made => ?_
      cases made with
      | some made => exact Course.along_pure made
      | none => exact Course.along_fail _

theorem along_construct (hq : host.Quiet L) (d : Definition host) (k : Constructor host.Routine)
    (interceptors : host.LiveSet) (arguments : List host.Ref) :
    L.Along [] (d.construct k interceptors arguments) := by
  rw [construct]
  split
  · exact hq.construct k.routine arguments
  · exact Invocation.along_during (along_constructing hq d k) _

theorem along_supply (hq : host.QuietInWiring L) (d : Definition host) (receiver : host.Ref) :
    L.Along [] (d.supply receiver) := by
  rw [supply]
  cases d.resources with
  | none => exact Course.along_pure ()
  | some supplier => exact (hq.supply supplier receiver).blaming _

/-! ## Lifecycle phases -/

theorem along_runPhase (hq : host.Quiet L) (phase : Phase) (reference : host.Ref) :
    (course L).Along [] (runPhase phase reference) := by
  refine Course.along_given_get fun s hs => ?_
  have hpresent : L.Along [] (s.1.present reference) :=
    ((hs.current reference).blaming _).after fun _ => Course.along_pure _
  refine (along_onWorld hpresent).after fun reference => ?_
  dsimp only
  split
  · exact Course.along_pure ()
  · refine (along_onLayer later_lifecycleChains).after fun chains => along_onWorld ?_
    refine Course.Along.blaming ?_ _
    exact (Invocation.along_during (Invocation.along_proceed hq) _).after fun _ =>
      Course.along_pure ()

end Definition

end Wiring
