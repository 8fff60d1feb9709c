/-
  Creating and destroying cancel out.

  Between the creation of an instance and its destruction anything else may be created, destroyed
  and registered.  `Meanwhile` is such an interlude, with the account that it keeps: a list of
  entries, to which is added what the calls of the interlude store and from which is taken what they
  take away.  Started with what was live before the creation, the account says in the end what would
  be live if that creation had never been; and this is what is live once its instance is destroyed.
-/
import Mathlib
import Wiring.Proofs.Container.Walk
import Wiring.Proofs.Host.Numbers
import Wiring.Proofs.Store.Tree

namespace Wiring

namespace Container

variable {host : Host} {listener : Listener host}

/-- `Meanwhile c es c' es'` — registrations, creations and destructions lead from the container `c`
    to `c'`, and what they store and take away turns the entries `es` into `es'`. -/
inductive Meanwhile (c : Container host) (es : List (Handle × Stored host.toVocabulary)) :
    Container host → List (Handle × Stored host.toVocabulary) → Prop where
  | nothing : Meanwhile c es c es
  | register {c' es' d c''} (h : Meanwhile c es c' es') (hregister : c'.register d = .ok c'') :
    Meanwhile c es c'' es'
  | create {c' es' make} (h : Meanwhile c es c' es') (hmake : Requested make) (w : host.World) :
    Meanwhile c es (make (c', w)).2.1 (c'.store.carried (make (c', w)).2.1.store es')
  | destroy {c' es'} (h : Meanwhile c es c' es') (k : Handle) (w : host.World) :
    Meanwhile c es (Container.destroy k (c', w)).2.1
      (c'.store.carried (Container.destroy k (c', w)).2.1.store es')

variable {c c' : Container host} {es es' new rest : List (Handle × Stored host.toVocabulary)}
  {h : Handle}

theorem Meanwhile.reached (hmeanwhile : Meanwhile c es c' es')
    (hc : Reached (fun _ => True) listener c) : Reached (fun _ => True) listener c' := by
  induction hmeanwhile with
  | nothing => exact hc
  | register _ hregister ih => exact ih.register trivial hregister
  | create _ hmake w ih => exact ih.create hmake w
  | destroy _ k w ih => exact ih.destroy k w

/-- What holds of a store whatever is added to it and wherever a walk starts holds throughout. -/
theorem Meanwhile.induction {P : Store host.toVocabulary → List _ → Prop}
    (hmeanwhile : Meanwhile c es c' es') (hc : Reached (fun _ => True) listener c)
    (hadd : ∀ {s t added es}, P s es → Store.Added added s t → P t (s.carried t es))
    (hwalk : ∀ {s t pending gone es}, P s es → Store.Walk pending gone s t → P t (s.carried t es))
    (hstart : P c.store es) : P c'.store es' := by
  induction hmeanwhile with
  | nothing => exact hstart
  | register _ hregister ih =>
    obtain ⟨catalog, -, rfl⟩ := register_eq hregister
    exact ih
  | @create c' es' make h hmake w ih =>
    obtain ⟨hkeeps, -⟩ := (h.reached hc).keeps_idle host.quiet_free
      (fun d _ => d.scheme.quiet_free) listener.enters_free
    obtain ⟨added, hadded⟩ := hmake.adds (s := (c', w)) host.quiet_free hkeeps
    exact hadd ih hadded
  | @destroy c' es' h k w ih => exact hwalk ih (walk_destroy k (c', w))

/-- The tree stands throughout, and the account is what is live beside it. -/
theorem Meanwhile.standing (hmeanwhile : Meanwhile c es c' es')
    (hc : Reached (fun _ => True) listener c) (hstart : Store.Standing h new es c.store) :
    Store.Standing h new es' c'.store :=
  hmeanwhile.induction (P := fun s es => Store.Standing h new es s) hc Store.Standing.add
    Store.Standing.walk hstart

/-- A handle that was issued before and is not live is never live again. -/
theorem Meanwhile.dead (hmeanwhile : Meanwhile c es c' es')
    (hc : Reached (fun _ => True) listener c) (hissued : h.number < c.store.next)
    (hdead : h ∉ c.store.entries.keys) : c'.store.find? h = none := by
  have hboth := hmeanwhile.induction
    (P := fun s _ => h.number < s.next ∧ h ∉ s.entries.keys) hc
    (fun ⟨hissued, hdead⟩ hadded => ?_) (fun ⟨hissued, hdead⟩ hwalk => ?_) ⟨hissued, hdead⟩
  · exact Table.get?_eq_none_iff.2 hboth.2
  · refine ⟨Nat.lt_of_lt_of_le hissued hadded.next, fun hlive => ?_⟩
    rw [Table.keys, hadded.entries, List.map_append, List.mem_append] at hlive
    refine hlive.elim hdead fun hnew => ?_
    obtain ⟨x, hx, rfl⟩ := List.mem_map.1 hnew
    exact Nat.lt_irrefl _ (Nat.lt_of_lt_of_le hissued (hadded.fresh x hx))
  · exact ⟨hwalk.next ▸ hissued, fun hlive => hdead (hwalk.keys_subset hlive)⟩

/-- **Creating and destroying cancel out.**  In every container that can be reached, let a creation
    return `h`, let anything else be registered, created and destroyed afterwards, and let `h` be
    destroyed then, whatever callbacks fail.
    1. What is live in the end is what the account of the interlude says, which knows nothing of the
       creation.
    2. What the creation had added is gone, all of it, and every other entry that was live just
       before the destruction is there as it was.
    3. However it goes on from there, to destroy `h` again succeeds, changes nothing and calls
       nothing; the listener alone hears that the handle was not live. -/
theorem create_destroy_cancel {host : Host} {listener : Listener host} {c₀ c₂ : Container host}
    {make : Act host Handle} {w₀ w₂ : host.World} {h : Handle}
    {es : List (Handle × Stored host.toVocabulary)} (hc : Reached (fun _ => True) listener c₀)
    (hmake : Requested make) (hok : (make (c₀, w₀)).1 = .ok h)
    (hmeanwhile : Meanwhile (make (c₀, w₀)).2.1 c₀.store.entries.entries c₂ es) :
    (Container.destroy h (c₂, w₂)).2.1.store.entries.entries = es ∧
      (∃ new : List (Handle × Stored host.toVocabulary), h ∈ new.map Prod.fst ∧
        (make (c₀, w₀)).2.1.store.entries.entries = c₀.store.entries.entries ++ new ∧
        (Container.destroy h (c₂, w₂)).2.1.store.entries.entries =
          c₂.store.entries.entries.filter fun x => x.1 ∉ new.map Prod.fst) ∧
      ∀ {c₄ es₃ es₄}, Meanwhile (Container.destroy h (c₂, w₂)).2.1 es₃ c₄ es₄ →
        ∀ w, Container.destroy h (c₄, w) = (.ok (), c₄, c₄.listener.released h false w) := by
  obtain ⟨hkeeps, -⟩ :=
    hc.keeps_idle host.quiet_free (fun d _ => d.scheme.quiet_free) listener.enters_free
  obtain ⟨e, sub, hgrowth, -⟩ := hmake.growth_of_ok (s := (c₀, w₀)) host.quiet_free hkeeps hok
  have htree : Store.Tree h (sub ++ [(h, e)]) := hgrowth.tree
  have hcreated := hc.create hmake w₀
  have hstanding := hmeanwhile.standing hcreated
    (.start htree hgrowth.added fun x hx => (hgrowth.fresh x hx).2)
  have hwalk := walk_destroy h (c₂, w₂)
  obtain ⟨hrest, hleft⟩ := hstanding.cleared htree hwalk
  refine ⟨hrest, ⟨sub ++ [(h, e)], htree.root, hgrowth.entries, hleft⟩, fun hlater w => ?_⟩
  have hissued : h.number < (Container.destroy h (c₂, w₂)).2.1.store.next := by
    rw [hwalk.next]
    exact hstanding.issued (h, e) (List.mem_append_right _ (List.mem_singleton.2 rfl))
  exact destroy_of_dead (s := (_, w)) (hlater.dead
    ((hmeanwhile.reached hcreated).destroy h w₂) hissued
    (hwalk.pending_dead h (List.mem_singleton.2 rfl)))

/-- Before the creation there is one tree, which is destroyed meanwhile, and another instance is
    created; the callback of the dependency fails whenever it runs. -/
theorem create_destroy_cancel_two :
    ∃ (w : Host.numbers.World) (c₀ c₂ : Container Host.numbers)
      (es : List (Handle × Stored Host.numbers.toVocabulary)),
      Reached (fun _ => True) Listener.silent c₀ ∧ c₀.store.entries.keys = [⟨0⟩, ⟨1⟩] ∧
      (create ⟨2⟩ (c₀, w)).1 = .ok ⟨3⟩ ∧
      Meanwhile (create ⟨2⟩ (c₀, w)).2.1 c₀.store.entries.entries c₂ es ∧
      c₂.store.entries.keys = [⟨2⟩, ⟨3⟩, ⟨4⟩] ∧ es.map Prod.fst = [⟨4⟩] ∧
      (Container.destroy ⟨3⟩ (c₂, w)).1 =
        .error (.lifecycle "Leaf" .preDestroy (.raised "nine")) ∧
      (Container.destroy ⟨3⟩ (c₂, w)).2.1.store.entries.entries = es := by
  let w : Host.numbers.World := ([] : List Nat)
  let leaf : Definition Host.numbers :=
    { component := { Component.numbered 1 "Leaf" [] [] with
        preDestroy := [⟨⟨"Leaf", "close"⟩, (9 : Nat)⟩] } }
  have hempty : Reached (fun _ => True) (Listener.silent : Listener Host.numbers) _ := .empty {}
  have hleaf := hempty.register (d := leaf) trivial rfl
  have hroot := hleaf.register (d := .numbered 2 "Root" [1] []) trivial rfl
  have hfirst := hroot.create (.type ⟨2⟩) w
  generalize hc₀ : (create ⟨2⟩ (_, w)).2.1 = c₀ at hfirst
  have hcreated : Meanwhile (create ⟨2⟩ (c₀, w)).2.1 c₀.store.entries.entries _ _ :=
    .create (.destroy .nothing ⟨1⟩ w) (.type ⟨1⟩) w
  have hok : (create ⟨2⟩ (c₀, w)).1 = .ok ⟨3⟩ := by subst hc₀; cbv
  have hcancel : (Container.destroy ⟨3⟩ (_, w)).2.1.store.entries.entries = _ :=
    (create_destroy_cancel hfirst (.type ⟨2⟩) hok hcreated).1
  subst hc₀
  exact ⟨w, _, _, _, hfirst, by cbv, hok, hcreated, by cbv, by cbv, by cbv, hcancel⟩

end Container

end Wiring
