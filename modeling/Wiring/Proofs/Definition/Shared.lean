/-
  What is behind the references that definitions share.

  1. `host.MakesObjects` — no constructor hands out an interception proxy.
  2. Then none is ever made, whatever the interceptors around a constructor do: a slot for the new
     instance that is filled, is filled by a constructor (`run_objective`), so what `produce` gives is no
     interception proxy either (`produce_object`).
  3. `host.Shared reference` — the references that there are to hand around: whatever is no
     interception proxy, and the interception proxies that `wrap` has put around an instance from
     `produce`.  Behind such a proxy there is no other (`Shared.target_object`).
-/
import Wiring.Proofs.Definition.Fallback

namespace Wiring

variable {host : Host}

/-- `r.IsObject` — `r` is no interception proxy. -/
def Reference.IsObject {V : Vocabulary} (r : Reference V) : Prop := r.proxy? = none

/-- `host.MakesObjects` — what constructors make are no interception proxies. -/
def Host.MakesObjects (host : Host) : Prop :=
  ∀ c args w made, (host.construct c args w).1 = .ok made → made.IsObject

/-! ## The slot for the new instance -/

namespace Route

/-- `p.Objective` — if there is a new instance, it is no interception proxy. -/
def Objective {V : Vocabulary} (p : Passage V) : Prop := ∀ made, p.made = some made → made.IsObject

variable {r : Route host.toVocabulary} {rest : Trip host (Option host.Ref)}

/-- Interceptors do not touch the slot but by proceeding. -/
theorem follow_objective {α : Type} (hrest : ∀ s, Objective s.1 → Objective (rest s).2.1)
    (x : Advice host.toVocabulary host.World α) :
    ∀ s, Objective s.1 → Objective (r.follow rest x s).2.1 := by
  induction x with
  | done a => exact fun s hs => hs
  | proceed next ih => exact fun s hs => ih _ _ (hrest s hs)
  | observe next ih => exact fun s hs => ih _ s hs
  | setParameters ps next ih =>
    intro s hs
    refine ih _ ((r.replace s.1 ps).2, s.2) fun made hmade => hs made ?_
    exact (r.replace_keeps s.1 ps).2.symm.trans hmade
  | setData data next ih => exact fun s hs => ih ({ s.1 with data := data }, s.2) hs
  | readWorld next ih => exact fun s hs => ih s.2 s hs
  | writeWorld w next ih => exact fun s hs => ih (s.1, w) hs

theorem arrive_objective (hmakes : host.MakesObjects) (s : Passage host.toVocabulary × host.World)
    (hs : Objective s.1) : Objective (r.arrive s).2.1 := by
  obtain ⟨p, w⟩ := s
  cases hgoal : r.goal with
  | callbacks target operations =>
    rw [arrive_of_each hgoal rfl]
    exact hs
  | construct k =>
    rcases hr : host.construct k.routine p.parameters w with ⟨f | made, w'⟩
    all_goals rw [arrive_of_construct hgoal hr]
    · exact hs
    · intro made' hmade'
      cases hmade'
      exact hmakes k.routine p.parameters w made (by rw [hr])
  | call target method =>
    rw [arrive_of_call hgoal rfl]
    exact hs

/-- What is made on a pass is no interception proxy. -/
theorem run_objective (hmakes : host.MakesObjects) (chain : List (Interceptor host.Routine)) :
    ∀ s, Objective s.1 → Objective (r.run chain s).2.1 := by
  induction chain with
  | nil => exact fun s hs => arrive_objective hmakes s hs
  | cons i rest ih =>
    intro ⟨p, w⟩ hs
    have hmade : (r.materialise i (p, w)).2.1.made = p.made := by
      cases hknown : r.known? p i.name with
      | some it => rw [materialise_of_known hknown]
      | none => rw [materialise_of_make hknown rfl]
    rcases hr : r.materialise i (p, w) with ⟨f | it, t⟩
    all_goals
      rw [hr] at hmade
      have ht : Objective t.1 := fun made h => hs made (hmade.symm.trans h)
    · rw [run_of_unmade hr]
      exact ht
    · rw [run_of_live hr]
      exact follow_objective ih _ t ht

end Route

namespace Definition

/-! ## Production -/

variable {d : Definition host}

/-- What is left to do after a chain makes no interception proxy either. -/
theorem conclude_object (hmakes : host.MakesObjects) {k : Constructor host.Routine}
    {slot : Option host.Ref} (hslot : ∀ made, slot = some made → made.IsObject)
    {ps : List host.Ref} {w : host.World} {made : host.Ref}
    (h : (d.conclude k slot ps w).1 = .ok made) : made.IsObject := by
  cases slot with
  | some made' =>
    cases h
    exact hslot made rfl
  | none =>
    rw [conclude] at h
    split at h
    · cases h
    · exact hmakes _ _ _ _ h

theorem construct_object (hmakes : host.MakesObjects) {k : Constructor host.Routine}
    {live : host.LiveSet} {arguments : List host.Ref} {w : host.World} {made : host.Ref}
    (h : (d.construct k live arguments w).1 = .ok made) : made.IsObject := by
  rw [construct] at h
  split at h
  · exact hmakes _ _ _ _ h
  · let inv : Invocation host.toVocabulary :=
      .construction (d.component.constructionChain k) (some live) k arguments
    let run := inv.route.run inv.chain (inv.passage, w)
    have hafter : Invocation.proceed (inv, w) = _ := Invocation.proceed_of_start rfl rfl w
    have hslot : Route.Objective run.2.1 :=
      Route.run_objective hmakes inv.chain _ fun made hmade =>
        absurd hmade (Option.some_ne_none made).symm
    have hending : (Invocation.proceed (inv, w)).2.1.ending = .construct k run.2.1.made := by
      rw [hafter]
      exact Invocation.ending_settled_carrying ..
    have hstatus : (Invocation.proceed (inv, w)).1.isOk = true →
        (Invocation.proceed (inv, w)).2.1.status ≠ .failed := by
      rw [hafter]
      intro hok
      show (inv.settled _).status ≠ _
      rw [hok]
      exact Status.noConfusion
    obtain ⟨herror, hok⟩ := d.constructing_conclude hending hstatus
    have h : (d.constructing k (inv, w)).1 = .ok made := h
    cases hresult : (Invocation.proceed (inv, w)).1 with
    | error f =>
      rw [(Prod.mk.inj (herror f hresult)).1] at h
      cases h
    | ok result =>
      rw [congrArg Prod.fst (hok result hresult)] at h
      exact conclude_object hmakes hslot h

/-- What is produced is no interception proxy. -/
theorem produce_object (hmakes : host.MakesObjects) {P : Type} {live : host.LiveSet}
    {provide : Provider host P} {s : P × host.World} {made : host.Ref}
    (h : (d.produce live provide s).1 = .ok made) : made.IsObject := by
  cases hk : d.component.constructor with
  | none =>
    rw [produce, hk] at h
    cases h
  | some k =>
    rcases harguments : d.arguments provide k.member s with ⟨f | arguments, p, w⟩
    · rw [produce, hk] at h
      dsimp only at h
      rw [Effect.bind_error harguments] at h
      cases h
    · rw [produce_of_arguments hk live harguments] at h
      cases hmade : (d.construct k live arguments w).1 with
      | error f =>
        rw [hmade] at h
        cases h
      | ok made' =>
        rw [hmade] at h
        cases h
        exact construct_object hmakes hmade

end Definition

/-! ## Shared references -/

/-- `host.Shared reference` — the reference is no interception proxy, or it is the standard one that
    `wrap` has put around an instance from `produce`. -/
inductive Host.Shared (host : Host) : host.Ref → Prop where
  | object {reference} (h : reference.IsObject) : Shared host reference
  | wrapped {P : Type} {d d' : Definition host} {provide : Provider host P} {live live' s made w}
    {reference} (hscheme : d'.scheme = ProxyScheme.standard host)
    (hmade : (d.produce live provide s).1 = .ok made)
    (hwrap : (Definition.wrap made live' (d', w)).1 = .ok reference) : Shared host reference

/-- Behind a shared proxy there is no other. -/
theorem Host.Shared.target_object (hmakes : host.MakesObjects) {reference : host.Ref}
    (h : host.Shared reference) {p : Proxy host.toVocabulary host.Ref}
    (hp : reference = .intercepted p) : p.target.IsObject := by
  subst hp
  cases h with
  | object h => cases h
  | wrapped hscheme hmade hwrap =>
    have hobject := Definition.produce_object hmakes hmade
    rw [Definition.wrap_apply] at hwrap
    split at hwrap
    · split at hwrap
      · rw [hscheme] at hwrap
        cases hwrap
        exact hobject
      · cases hwrap
        cases hobject
    · cases hwrap

end Wiring
