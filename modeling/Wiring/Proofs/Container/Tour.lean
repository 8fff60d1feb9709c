/-
  A destruction is a complete depth-first walk.

  1. `Tour visits s t` — all that may happen between `s` and `t` are the visits, one after the other,
     and notices of handles that are not live.  A visit is a release, and then the callbacks before
     destruction, run once by whatever definition the type of the instance has by then (`Retires`).
  2. Every destruction is such a tour (`tour_destroyAll`): the definition of a tour has a rule for each
     case of the program.  So nothing is called that does not belong to a visit.
  3. Which instances are visited, and in which order, the store alone decides: those that can be
     reached, in depth-first order.  It may hold anything.
  4. Failures are outcomes of visits.  They are gathered and never looked at on the way, so the result
     is a fold over the visits.
-/
import Wiring.Proofs.Container.Walk
import Wiring.Proofs.Store.Reach

namespace Wiring

namespace Visit

variable {V : Vocabulary} {v : Visit V}

theorem failure?_eq_none_iff : v.failure? = none ↔ v.outcome = .ok () := by
  rw [failure?]
  cases v.outcome <;> simp

theorem failure?_eq_some_iff {f : Failure} : v.failure? = some f ↔ v.outcome = .error f := by
  rw [failure?]
  cases v.outcome <;> simp

end Visit

namespace Container

variable {host : Host}

/-! ## Tours -/

/-- `Retires v s t` — the callbacks before the destruction of the visited instance are run, by the
    definition of its type, and have the outcome of the visit.  Where the type has no definition,
    nothing is run. -/
inductive Retires (v : Visit host.toVocabulary) :
    Container host × host.World → Container host × host.World → Prop where
  | unknown {s} (hd : s.1.catalog.byType? v.entry.type = none)
    (houtcome : v.outcome = .error (.unknownComponent (.identity v.entry.type))) : Retires v s s
  | known {s d d' w} (hd : s.1.catalog.byType? v.entry.type = some d)
    (hrun : Definition.preDestroy v.entry.reference (d, s.2) = (v.outcome, d', w)) :
    Retires v s ({ s.1 with catalog := s.1.catalog.updated v.entry.type d' },
      s.1.listener.retired v.handle v.entry v.outcome w)

/-- `Tour visits s t` — from `s` to `t`, the `visits` are made in their order, each to an instance that
    is live and is released first; beside them, the listener hears of handles that are not live. -/
inductive Tour : List (Visit host.toVocabulary) → Container host × host.World →
    Container host × host.World → Prop where
  | done (s : Container host × host.World) : Tour [] s s
  | notice {visits s t h} (hdead : s.1.store.find? h = none)
    (hrest : Tour visits (s.1, s.1.listener.released h false s.2) t) : Tour visits s t
  | visit {v visits s t u} (hlive : s.1.store.find? v.handle = some v.entry)
    (hretires : Retires v ({ s.1 with store := s.1.store.release v.handle },
      s.1.listener.released v.handle true s.2) u)
    (hrest : Tour visits u t) : Tour (v :: visits) s t

variable {s : Container host × host.World}

/-- The callbacks of a released instance are run once. -/
theorem retires_retire (h : Handle) (e : Stored host.toVocabulary)
    (s : Container host × host.World) :
    Retires ⟨h, e, (retire h e s).1⟩ s (retire h e s).2 := by
  cases hd : s.1.catalog.byType? e.type with
  | none =>
    rw [retire_of_none hd]
    exact .unknown hd rfl
  | some d =>
    rw [retire_of_some hd]
    exact .known hd rfl

theorem release_of_dead {h : Handle} (hdead : s.1.store.find? h = none) :
    (release h s).2 = (s.1, s.1.listener.released h false s.2) := by
  rw [release, hdead, Store.release_of_not_live hdead]
  rfl

theorem release_of_live {h : Handle} {e : Stored host.toVocabulary}
    (hlive : s.1.store.find? h = some e) :
    (release h s).2 = ({ s.1 with store := s.1.store.release h },
      s.1.listener.released h true s.2) := by
  rw [release, hlive]
  rfl

/-- Every destruction is a tour. -/
theorem tour_destroyAll (pending : List Handle) (s : Container host × host.World) :
    Tour (destroyAll pending s).1 s (destroyAll pending s).2 := by
  fun_induction destroyAll pending s with
  | case1 s => exact .done s
  | case2 h rest s hdead ih =>
    refine .notice hdead ?_
    rwa [← release_of_dead hdead]
  | case3 h rest s e hlive retired others ih =>
    have hretires : Retires ⟨h, e, retired.1⟩ (release h s).2 retired.2 := retires_retire h e _
    rw [release_of_live hlive] at hretires
    exact .visit hlive hretires ih

/-! ## The result -/

theorem handles_entriesOf (visits : List (Visit host.toVocabulary)) :
    (entriesOf visits).map Prod.fst = visits.map (·.handle) := by
  rw [entriesOf, List.map_map]
  rfl

/-- The result is `ok` when no visit failed. -/
theorem destroy_eq_ok_iff {h : Handle} :
    (Container.destroy h s).1 = .ok () ↔ ∀ v ∈ (destroyAll [h] s).1, v.outcome = .ok () := by
  have hnone : (destroyAll [h] s).1.findSome? (·.failure?) = none ↔
      ∀ v ∈ (destroyAll [h] s).1, v.outcome = .ok () := by
    rw [List.findSome?_eq_none_iff]
    exact forall₂_congr fun v _ => v.failure?_eq_none_iff
  rw [destroy_outcome, ← hnone]
  cases (destroyAll [h] s).1.findSome? (·.failure?) <;> simp

/-- Otherwise it is the failure of the first visit that failed. -/
theorem destroy_eq_error_iff {h : Handle} {f : Failure} :
    (Container.destroy h s).1 = .error f ↔ ∃ before v after,
      (destroyAll [h] s).1 = before ++ v :: after ∧ v.outcome = .error f ∧
        ∀ earlier ∈ before, earlier.outcome = .ok () := by
  have hsome : (Container.destroy h s).1 = .error f ↔
      (destroyAll [h] s).1.findSome? (·.failure?) = some f := by
    rw [destroy_outcome]
    cases (destroyAll [h] s).1.findSome? (·.failure?) <;> simp
  rw [hsome, List.findSome?_eq_some_iff]
  simp only [Visit.failure?_eq_none_iff, Visit.failure?_eq_some_iff]

/-- A destruction, on any store: it visits what is live and can be reached from the handle, each once
    and in depth-first order, whatever fails; it leaves everything else as it was; and the first
    failure on the way is its result. -/
theorem destroy_tour (h : Handle) (s : Container host × host.World) :
    ∃ visits, Tour visits s (Container.destroy h s).2 ∧
      s.1.store.DepthFirst h (entriesOf visits) ∧ (visits.map (·.handle)).Nodup ∧
      (∀ k e, (k, e) ∈ entriesOf visits ↔ s.1.store.find? k = some e ∧ s.1.store.Reaches h k) ∧
      (∀ k e, (Container.destroy h s).2.1.store.find? k = some e ↔
        s.1.store.find? k = some e ∧ ¬ s.1.store.Reaches h k) ∧
      (Container.destroy h s).2.1.store.next = s.1.store.next ∧
      Undisturbed s.1 (Container.destroy h s).2.1 ∧
      ((Container.destroy h s).1 = .ok () ↔ ∀ v ∈ visits, v.outcome = .ok ()) ∧
      ∀ f, (Container.destroy h s).1 = .error f ↔ ∃ before v after,
        visits = before ++ v :: after ∧ v.outcome = .error f ∧
          ∀ earlier ∈ before, earlier.outcome = .ok () := by
  have hwalk := walk_destroy h s
  have hpending : ∀ {k}, (∃ root ∈ [h], s.1.store.Reaches root k) ↔ s.1.store.Reaches h k := by
    simp
  refine ⟨(destroyAll [h] s).1, ?_, hwalk.depthFirst, ?_, fun k e => ?_, fun k e => ?_, hwalk.next,
    undisturbed_destroy h s, destroy_eq_ok_iff, fun f => destroy_eq_error_iff⟩
  · rw [destroy_state]
    exact tour_destroyAll [h] s
  · rw [← handles_entriesOf]
    exact hwalk.nodup_gone
  · rw [hwalk.mem_gone_iff, hpending, Store.find?_eq_some_iff]
  · rw [hwalk.find?_iff, List.forall_mem_singleton]

end Container

end Wiring
