/-
  What one creation does to a container, whether it succeeds or fails.

  `Creation L d s r` is what may come of creating an instance of `d` in the state `s`: on success one
  whole tree has been added, whose root is the new instance; on failure nothing has.  Either way the
  frames and the types under construction are back to what they were.

  1. If nested creations do no more than this, then assembling keeps to the course `growth L`: each
     dependency adds its tree, and its root to the frame (`along_supplying`).
  2. The creation around an assembly turns the frame into the dependents of the new root, or else
     destroys what the frame holds (`creation_createBy`).
  3. So creations of any depth of nesting do no more than this, by induction on the depth.
-/
import Wiring.Proofs.Container.Clearing

namespace Wiring

namespace Container

variable {host : Host} {L : Course host.World (Mark host.toVocabulary)}

/-! ## Ways in which growth ends -/

namespace Growth

variable {ts : List TypeKey} {roots : List Handle}
  {new : List (Handle × Stored host.toVocabulary)} {s t u : Container host × host.World}

/-- What has been added has handles of its own. -/
theorem distinct (h : Growth L ts roots new s t) :
    (new.map Prod.fst).Nodup ∧
      ∀ x ∈ s.1.store.entries.entries, x.1 ∉ new.map Prod.fst := by
  have hdistinct := t.1.store.entries.distinct
  rw [h.entries, List.map_append, List.nodup_append] at hdistinct
  obtain ⟨-, hnew, hcross⟩ := hdistinct
  exact ⟨hnew, fun x hx hmem => hcross _ (List.mem_map_of_mem hx) _ hmem rfl⟩

/-- If all that was added is cleared away, nothing was added. -/
theorem clear (h : Growth L ts roots new s t) (hcleared : Cleared L new t u) :
    Growth L [] [] [] s u where
  entries := by
    have hold : s.1.store.entries.entries.filter (fun x => x.1 ∉ new.map Prod.fst) =
        s.1.store.entries.entries :=
      List.filter_eq_self.2 fun x hx => decide_eq_true (h.distinct.2 x hx)
    have hnew : new.filter (fun x => x.1 ∉ new.map Prod.fst) = [] :=
      List.filter_eq_nil_iff.2 fun x hx hnot =>
        of_decide_eq_true hnot (List.mem_map_of_mem hx)
    rw [hcleared.entries, h.entries, List.filter_append, hold, hnew]
  next := hcleared.next ▸ h.next
  grove := Grove.bare
  underConstruction := hcleared.underConstruction.trans h.underConstruction
  listener := hcleared.listener.trans h.listener
  catalog := h.catalog.trans hcleared.catalog
  ledger := by
    obtain ⟨marks, hmarks, hbalanced⟩ := h.ledger
    obtain ⟨marks', hmarks', hstored, hretired⟩ := hcleared.ledger
    rw [hcleared.next]
    exact ⟨marks ++ marks', L.append hmarks hmarks', hbalanced.clear hstored hretired⟩

/-- What was added becomes one tree when an instance that needed it is stored. -/
theorem keep (h : Growth L ts roots new s t) (ht : t.1.Keeps L)
    {e : Stored host.toVocabulary} (hneeds : s.1.catalog.needs? e.type = some ts)
    (hdependents : e.dependents = roots) :
    Growth L [e.type] [t.1.store.upcoming] (new ++ [(t.1.store.upcoming, e)]) s
      (Container.keep e t).2 where
  entries := by
    show (t.1.store.keep e).entries.entries = _
    rw [Store.entries_keep, h.entries, List.append_assoc]
  next := Nat.le_succ_of_le h.next
  grove := Grove.tree (hdependents ▸ h.grove) hneeds
  underConstruction := h.underConstruction
  listener := h.listener
  catalog := h.catalog
  ledger := by
    obtain ⟨marks, hmarks, hbalanced⟩ := h.ledger
    exact ⟨marks ++ [.stored t.1.store.upcoming e],
      L.append hmarks (ht.2.stored t.1.store.upcoming e t.2),
      hbalanced.append (Balanced.store t.1.store.next e) h.next (Nat.le_succ _)⟩

/-- A type that was under construction is under construction no more. -/
theorem ended {t : TypeKey} {c : Container host} {w₀ w : host.World}
    (h : Growth L ts roots new (s.1.begun t, w₀) (c, w)) (hw₀ : L.rel [] s.2 w₀)
    (hframes : c.frames = roots :: s.1.frames) :
    ∃ c', c.ended t = (roots, c') ∧ c'.frames = s.1.frames ∧
      Growth L ts roots new s (c', w) := by
  have htypes : c.underConstruction = t :: s.1.underConstruction := h.underConstruction
  refine ⟨{ c with underConstruction := s.1.underConstruction, frames := s.1.frames }, ?_, rfl, ?_⟩
  · rw [Container.ended, hframes, htypes, List.erase_cons_head]
    rfl
  · obtain ⟨marks, hmarks, hbalanced⟩ := h.ledger
    exact ⟨h.entries, h.next, h.grove, rfl, h.listener, h.catalog, marks,
      L.append hw₀ hmarks, hbalanced⟩

end Growth

/-! ## One creation -/

/-- `Creation L d s r` — in the state `s`, creating an instance of `d` had the outcome `r`. -/
structure Creation (L : Course host.World (Mark host.toVocabulary)) (d : Definition host)
    (s : Container host × host.World)
    (r : Except Failure (Handle × host.Ref) × Container host × host.World) : Prop where
  frames : r.2.1.frames = s.1.frames
  ok : ∀ {h reference}, r.1 = .ok (h, reference) →
    ∃ e sub, e.type = d.component.type ∧ e.reference = reference ∧
      Growth L [e.type] [h] (sub ++ [(h, e)]) s r.2
  error : ∀ {f}, r.1 = .error f → Growth L [] [] [] s r.2

/-- `Creates L make` — `make` creates instances of all definitions that the catalog has. -/
def Creates (L : Course host.World (Mark host.toVocabulary))
    (make : Definition host → Act host (Handle × host.Ref)) : Prop :=
  ∀ d s, s.1.Keeps L →
    s.1.catalog.needs? d.component.type = some d.component.requirements → Creation L d s (make d s)

/-- A definition that is found has the requests of its type. -/
theorem Keeps.needs?_eq {c : Container host} (h : c.Keeps L) {t : TypeKey}
    {d : Definition host} (hd : c.catalog.byType? t = some d) :
    d.component.type = t ∧
      c.catalog.needs? d.component.type = some d.component.requirements := by
  obtain ⟨rfl, -⟩ := h.1 t d hd
  exact ⟨rfl, by rw [Catalog.needs?, hd, Option.map_some]⟩

/-- Failing at once leaves everything as it was. -/
theorem Creation.refused (d : Definition host) (s : Container host × host.World) (f : Failure) :
    Creation L d s (.error f, s) where
  frames := rfl
  ok h := by cases h
  error _ := Growth.refl L s

/-- A dependency is made by the definition that its type has now, and credited once it is there. -/
theorem supplying_apply (nested : Definition host → Act host (Handle × host.Ref))
    (p : Point host.Routine) (s : Container host × host.World) :
    supplying nested p s = match s.1.catalog.byType? p.requires with
      | none => (.error (.unknownComponent (.required p.requires)), s)
      | some d => match nested d s with
        | (.ok (h, reference), t) => (.ok reference, t.1.credited h, t.2)
        | (.error f, t) => (.error f, t) := by
  show (match s.1.catalog.byType? p.requires with
    | none => _
    | some d => _ : Act host host.Ref) s = _
  cases s.1.catalog.byType? p.requires with
  | none => rfl
  | some d =>
    show ((nested d >>= _ : Act host host.Ref) s) = _
    rw [Effect.bind_apply]
    dsimp only
    rcases nested d s with ⟨_ | ⟨h, reference⟩, t⟩ <;> rfl

/-- Each dependency adds its tree to the store and its root to the innermost frame. -/
theorem along_supplying {nested : Definition host → Act host (Handle × host.Ref)}
    (hnested : Creates L nested) (p : Point host.Routine) :
    (growth L).Along [p.requires] (supplying nested p) := by
  constructor
  · intro s reference t ht hs
    rw [supplying_apply] at ht
    cases hd : s.1.catalog.byType? p.requires with
    | none =>
      rw [hd] at ht
      cases ht
    | some d =>
      obtain ⟨htype, hneeds⟩ := hs.needs?_eq hd
      have hcreation := hnested d s hs hneeds
      rw [hd] at ht
      dsimp only at ht
      rcases hr : nested d s with ⟨f | ⟨h, made⟩, u⟩
      · rw [hr] at ht
        cases ht
      · rw [hr] at ht hcreation
        cases ht
        obtain ⟨e, sub, he, -, hgrowth⟩ := hcreation.ok rfl
        rw [he, htype] at hgrowth
        have hframes : u.1.frames = s.1.frames := hcreation.frames
        refine ⟨[h], sub ++ [(h, e)], ?_, ?_⟩
        · rw [credited]
          split
          · exact hgrowth
          · exact ⟨hgrowth.entries, hgrowth.next, hgrowth.grove, hgrowth.underConstruction,
              hgrowth.listener, hgrowth.catalog, hgrowth.ledger⟩
        · rw [credited, hframes]
          cases hs' : s.1.frames with
          | nil => exact hframes.trans hs'
          | cons frame outer => rfl
  · intro s f t ht
    refine ⟨[], List.nil_prefix, fun hs => ⟨[], [], ?_⟩⟩
    rw [supplying_apply] at ht
    cases hd : s.1.catalog.byType? p.requires with
    | none =>
      rw [hd] at ht
      cases ht
      exact ⟨Growth.refl L s, by cases s.1.frames <;> simp⟩
    | some d =>
      have hcreation := hnested d s hs (hs.needs?_eq hd).2
      rw [hd] at ht
      dsimp only at ht
      rcases hr : nested d s with ⟨g | ⟨h, made⟩, u⟩
      · rw [hr] at ht hcreation
        cases ht
        have hframes : t.1.frames = s.1.frames := hcreation.frames
        exact ⟨hcreation.error rfl, by rw [hframes]; cases s.1.frames <;> simp⟩
      · rw [hr] at ht
        cases ht

/-- A creation stores what it has assembled with what it needed, or takes all of it back. -/
theorem creation_createBy (hq : host.Quiet L)
    {nested : Definition host → Act host (Handle × host.Ref)} (hnested : Creates L nested) :
    Creates L (createBy nested) := by
  intro d s hs hneeds
  by_cases hcycle : d.component.type ∈ s.1.underConstruction
  · rw [createBy_of_cycle hcycle]
    exact Creation.refused d s _
  · have hassemble : (growth L).Along d.component.requirements (assemble d (supplying nested)) := by
      have h := along_assemble hq allows_growth along_onDefinition (along_supplying hnested) d
      rwa [← List.map_eq_flatMap] at h
    have hbegun : (s.1.begun d.component.type).Keeps L := hs
    have hnotice : L.rel [] s.2 (s.1.listener.begun d.component.type s.2) :=
      hs.2.begun d.component.type s.2
    rcases hr : assemble d (supplying nested)
        (s.1.begun d.component.type, s.1.listener.begun d.component.type s.2) with
      ⟨f | reference, c, w⟩
    · obtain ⟨ts, -, hrel⟩ := hassemble.error hr
      obtain ⟨roots, new, hgrowth, hframes⟩ := hrel hbegun
      obtain ⟨c', hended, hframes', hgrowth'⟩ := hgrowth.ended hnotice hframes
      -- the frame holds the roots of all that was made so far
      obtain ⟨t, hwalk, hcleared⟩ := destroyAll_grove hq hgrowth'.grove [] (c', w)
        (hgrowth'.keeps hs) hgrowth'.catalog.needs?_eq.symm
        (fun x hx => by rw [hgrowth'.entries]; exact List.mem_append_right _ hx)
        hgrowth'.distinct.1
      rw [List.append_nil, destroyAll_nil] at hwalk
      rw [createBy_of_error hcycle hr, hended, hwalk]
      exact {
        frames := hcleared.frames.trans hframes'
        ok := nofun
        error := fun _ => hgrowth'.clear hcleared }
    · obtain ⟨roots, new, hgrowth, hframes⟩ := hassemble.ok hr hbegun
      obtain ⟨c', hended, hframes', hgrowth'⟩ := hgrowth.ended hnotice hframes
      rw [createBy_of_ok hcycle hr, hended]
      exact {
        frames := hframes'
        ok := by
          intro h _ hok
          cases hok
          exact ⟨⟨d.component.type, reference, roots⟩, new, rfl, rfl,
            hgrowth'.keep (hgrowth'.keeps hs) hneeds rfl⟩
        error := nofun }

/-- Creations nested to any depth. -/
theorem creation_createWithin (hq : host.Quiet L) (n : Nat) :
    Creates L (createWithin n) := by
  induction n with
  | zero => exact creation_createBy hq fun d s _ _ => Creation.refused d s _
  | succ n ih => exact creation_createBy hq ih

end Container

end Wiring
