/-
  Creations, to any depth of nesting, while whatever they make is there.

  1. A creation that begins shows in the scene with nothing made for it (`begun_staged`).
  2. When its assembly is over, what was made for it is listed for nobody (`Ready.ended`).  If the
     assembly has failed, all that is destroyed; otherwise the instance is stored with it, and counts
     as made for the creation around it (`Staged.store`).
  3. So creations play by the rules if nested ones do (`plays_createBy`), and by induction on the depth
     all of them do.
-/
import Wiring.Proofs.Container.Lifetime.Assembly

namespace Wiring

namespace Container

variable {host : Host} {l : Listener host} {catalog : Catalog host.journaled} {struck : List Handle}
  {d : Definition host.journaled} {s t u : Container host.journaled × host.journaled.World}
  {roots : List Handle}

/-! ## Creating -/

/-- Crediting the innermost creation is seen in the scene. -/
theorem credit_zip (c : Container host.journaled) (h : Handle)
    (stale : List (TypeKey × List Handle)) :
    ∃ stale', credit h (c.underConstruction.zip c.frames ++ stale) =
      (c.credited h).underConstruction.zip (c.credited h).frames ++ stale' := by
  rw [credited]
  cases hframes : c.frames with
  | nil => exact ⟨credit h stale, by simp [hframes]⟩
  | cons frame outer =>
    cases htypes : c.underConstruction with
    | nil => exact ⟨credit h stale, by simp⟩
    | cons t under => exact ⟨stale, by simp [credit]⟩

/-- A creation begins with nothing made yet. -/
theorem begun_staged (hs : Ready l catalog struck s)
    (hd : s.1.catalog.byType? d.component.type = some d) (hshows : Shows s) (hworking : Working s) :
    let u := (s.1.begun d.component.type, s.1.listener.begun d.component.type s.2)
    Begun l catalog struck d u ∧ Staged catalog struck u [] [] u ∧ Played catalog struck s u := by
  intro u
  have hlog : u.2.2 = s.2.2 ++ [.begun d.component.type] := by
    show (s.1.listener.begun d.component.type s.2).2 = _
    rw [hs.minded.listener]
    rfl
  have hissued : issuedIn u.2.2 = issuedIn s.2.2 := by
    rw [hlog, issuedIn_append]
    exact List.append_nil _
  have hu : Ready l catalog struck u :=
    ⟨hs.minded.of_follows (Catalog.Follows.refl _) rfl, hs.catalog, hs.sheltered,
      hs.issued.of_eq hissued⟩
  refine ⟨⟨hu, hd, ⟨_, rfl⟩, ⟨_, rfl⟩⟩, ⟨⟨[], Growth.refl _ _⟩, rfl, .refl _, ?_, ?_, ?_⟩,
    .of_event hlog trivial⟩
  · rw [Shows, hlog, Scene.of_concat]
    exact hshows
  · obtain ⟨stale, hmaking⟩ := hworking
    refine ⟨stale, ?_⟩
    rw [hlog, Scene.of_concat]
    exact congrArg _ hmaking
  · rw [hlog, Scene.of_concat]
    rfl

/-- Once it has ended, what was made for it is listed for nobody. -/
theorem Ready.ended (hs : Ready l catalog struck s) {v : TypeKey} {ts : List TypeKey}
    {new : List (Handle × Stored host.journaled.toVocabulary)}
    (hgrowth : Growth host.ledger ts roots new (s.1.begun v, s.1.listener.begun v s.2) t)
    (hframes : t.1.frames = roots :: s.1.frames) (hshows : Shows t) :
    ∃ c, t.1.ended v = (roots, c) ∧ t.1.underConstruction = v :: c.underConstruction ∧
      t.1.frames = roots :: c.frames ∧ Ready l catalog struck (c, t.2) ∧ Shows (c, t.2) ∧
      ∀ k ∈ roots, c.store.Loose struck k := by
  obtain ⟨c, hended, houter, hgrowth'⟩ := hgrowth.ended (hs.minded.keeps.2.begun v s.2) hframes
  refine ⟨c, hended, ?_, houter ▸ hframes, hs.of_growth hgrowth', ?_,
    fun k hk => Or.inr ((hgrowth'.sheltered hs.sheltered).2 k hk)⟩
  · rw [hgrowth'.underConstruction]
    exact hgrowth.underConstruction
  · exact hshows.trans (hgrowth.entries.trans hgrowth'.entries.symm)

/-- An instance that has been assembled is stored, with what was made for it. -/
theorem Staged.store (hu : Begun l catalog struck d u)
    (h : Staged catalog struck u d.component.requirements roots t) {reference : host.journaled.Ref}
    (hopened : Opened catalog d reference t.2.2) {c : Container host.journaled}
    (htypes : t.1.underConstruction = d.component.type :: c.underConstruction)
    (hframes : t.1.frames = roots :: c.frames) (hc : Ready l catalog struck (c, t.2))
    (hshows : Shows (c, t.2)) :
    let r := (keep ⟨d.component.type, reference, roots⟩ (c, t.2)).2
    Played catalog struck (c, t.2) r ∧ Shows r ∧ Working (r.1.credited c.store.upcoming, r.2) ∧
      (Scene.of r.2.2).leaving = none := by
  intro r
  let e : Stored host.journaled.toVocabulary := ⟨d.component.type, reference, roots⟩
  have hlog : r.2.2 = t.2.2 ++ [.stored c.store.upcoming e] := log_keep hc.minded.listener e
  have hstoring : Storing catalog t.2.2 c.store.upcoming e := by
    obtain ⟨d', v, hhas, hrequirements, hok, hjournal⟩ := hopened
    refine ⟨h.makes hu, fun hmem => Nat.lt_irrefl _ (hc.issued.below _ hmem), d', v, hhas, ?_, hok,
      hjournal⟩
    rw [hrequirements]
    exact h.meets
  refine ⟨.of_event hlog hstoring, ?_, ?_, ?_⟩
  · rw [Shows, hlog, Scene.of_concat]
    exact (congrArg (· ++ [(c.store.upcoming, e)]) hshows).trans (Store.entries_keep ..).symm
  · obtain ⟨stale, hmaking⟩ := h.working
    rw [hframes, htypes] at hmaking
    rw [Working, hlog, Scene.of_concat]
    show ∃ stale', credit c.store.upcoming (Scene.of t.2.2).making.tail = _
    rw [hmaking]
    exact credit_zip r.1 c.store.upcoming stale
  · rw [hlog, Scene.of_concat]
    exact h.settled

variable {nested : Definition host.journaled → Act host.journaled (Handle × host.journaled.Ref)}

/-- One creation, around nested ones that are accepted. -/
theorem plays_createBy (hplays : Plays l catalog struck nested)
    (hcreates : Creates host.ledger nested) : Plays l catalog struck (createBy nested) := by
  intro d s hs hd hshows hworking
  by_cases hcycle : d.component.type ∈ s.1.underConstruction
  · constructor <;> intro _ _ hx
    all_goals
      rw [createBy_of_cycle hcycle] at hx
      cases hx
    exact ⟨.refl s, hshows⟩
  · obtain ⟨hu, hstaged, hplayed⟩ := begun_staged hs hd hshows hworking
    have hassembled := leads_assemble hplays hcreates hu hstaged
    rcases hr : assemble d (supplying nested) (s.1.begun d.component.type,
      s.1.listener.begun d.component.type s.2) with ⟨f | reference, t⟩
    · -- the frame holds the roots of what was made, and the walk starts from them
      have hstopped := hassembled.error hr
      obtain ⟨ts, roots, new, hgrowth, hframes⟩ := hstopped.growth
      obtain ⟨c, hended, -, -, hc, hshown, hloose⟩ := hs.ended hgrowth hframes hstopped.shows
      obtain ⟨hundone, hleft, -⟩ := played_destroyAll roots (c, t.2) hc.minded hc.catalog
        hc.sheltered hloose hshown
      constructor <;> intro _ _ hx
      all_goals
        rw [createBy_of_error hcycle hr, hended] at hx
        cases hx
      exact ⟨(hplayed.trans hstopped.played).trans hundone, hleft⟩
    · -- between the end of the callbacks and the storing, nothing is written down
      obtain ⟨⟨roots, hmade⟩, hopened⟩ := hassembled.ok hr
      obtain ⟨new, hgrowth⟩ := hmade.growth
      obtain ⟨c, hended, htypes, hframes, hc, hshown, -⟩ :=
        hs.ended hgrowth hmade.frames hmade.shows
      obtain ⟨hstored, hafter⟩ := hmade.store hu hopened htypes hframes hc hshown
      constructor <;> intro _ _ hx
      all_goals
        rw [createBy_of_ok hcycle hr, hended] at hx
        cases hx
      exact ⟨(hplayed.trans hmade.played).trans hstored, hafter⟩

/-- Creations of any depth. -/
theorem plays_createWithin (n : Nat) : Plays l catalog struck (createWithin n) := by
  induction n with
  | zero =>
    refine plays_createBy (fun d s _ _ hshows _ => Effect.leads_fail ⟨.refl s, hshows⟩)
      fun d s _ _ => Creation.refused d s _
  | succ n ih => exact plays_createBy ih (creation_createWithin host.quiet_ledger n)

/-- Whatever is requested, its whole creation is accepted. -/
theorem played_requested {make : Act host.journaled Handle} (hmake : Requested make)
    (hs : Ready l catalog struck s) (hidle : s.1.Idle) (hshows : Shows s) :
    Played catalog struck s (make s).2 ∧ Shows (make s).2 := by
  rcases hmake.cases s with ⟨f, hf⟩ | ⟨t, d, hd, hcreate⟩
  · rw [hf]
    exact ⟨.refl s, hshows⟩
  · have hcurrent : s.1.catalog.byType? d.component.type = some d :=
      (hs.minded.modest t d hd).1.symm ▸ hd
    -- whatever the scene shows in progress has failed in an earlier call
    have hworking : Working s := ⟨(Scene.of s.2.2).making, by rw [hidle.1]; rfl⟩
    have hcreated := plays_createWithin s.1.catalog.size d s hs hcurrent hshows hworking
    rw [hcreate]
    show Played catalog struck s (createWithin s.1.catalog.size d s).2 ∧
      Shows (createWithin s.1.catalog.size d s).2
    rcases hr : createWithin s.1.catalog.size d s with ⟨f | made, v⟩
    · exact hcreated.error hr
    · obtain ⟨hplayed, hshown, -⟩ := hcreated.ok hr
      exact ⟨hplayed, hshown⟩

end Container

end Wiring
