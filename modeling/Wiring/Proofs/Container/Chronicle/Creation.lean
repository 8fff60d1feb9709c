/-
  Creations that the journal tells.

  `telling l` is the course of moves that keep a container `Told` and write `Work`.

  1. An assembly goes through its stages one after the other — live interceptors, arguments and
     construction, wiring, proxy and callbacks.  Whatever stage it fails at, it is told as far as it
     came, and if it succeeds to the end (`told_assemble`).
  2. The creation around it stores the object, or undoes what was made for it (`tells_createBy`); so
     creations of any depth of nesting are told, by induction on the depth.
-/
import Wiring.Proofs.Container.Chronicle.Invariant

namespace Wiring

namespace Container

variable {host : Host} {l : Listener host} {objs : List (Object host.journaled)}
  {s : Container host.journaled × host.journaled.World}

/-! ## Assembling -/

/-- `telling l` — moves that are told: what they write is `Work`. -/
def telling (l : Listener host) :
    Course (Container host.journaled × host.journaled.World) Empty where
  rel _ s t := ∀ objs, Told l objs s.1 →
    ∃ objs', Told l objs' t.1 ∧ Work objs s.2.2 objs' t.2.2 ∧ s.1.catalog.Follows t.1.catalog
  stay _ objs h := ⟨objs, h, .rest, Catalog.Follows.refl _⟩
  append h h' objs hs :=
    have ⟨objs', ht, hwork, hfollows⟩ := h objs hs
    have ⟨objs'', hu, hwork', hfollows'⟩ := h' objs' ht
    ⟨objs'', hu, hwork.trans hwork', hfollows.trans hfollows'⟩

/-- Wiring an instance writes down nothing but wiring. -/
theorem quietInWiring_writing (host : Host) : host.journaled.QuietInWiring
    (Journal.writing fun e : Event host.toVocabulary => e.isWiring = true) where
  assign _ _ _ := Journal.writing_noting (fun _ => by rfl) _
  perform _ _ _ := Journal.writing_noting (fun _ => by rfl) _
  supply _ _ := Journal.writing_noting (fun _ => by rfl) _

theorem telling_allows : Definition.Allows (telling l)
    (Journal.writing fun e : Event host.toVocabulary => e.isWiring = true) := by
  rintro c w w' ⟨seg, hseg, hwiring⟩ objs h
  rw [hseg]
  exact ⟨objs, h, .of_wiring hwiring, Catalog.Follows.refl _⟩

section

variable {provide : Provider host.journaled (Container host.journaled)}
  (hprovide : ∀ p, (telling l).Along [] (provide p)) {d : Definition host.journaled}
  {chains : LifecycleChains host.journaled.Routine} {live : host.journaled.LiveSet}
  {calls : Journal host.toVocabulary}

include hprovide in
theorem telling_arguments (m : Member) : (telling l).Along [] (d.arguments provide m) := by
  have h := Definition.along_arguments hprovide d m
  rwa [List.flatMap_eq_nil_iff.2 fun _ _ => rfl] at h

include hprovide in
theorem telling_inject (made : host.journaled.Ref) :
    (telling l).Along [] (d.inject made provide) := by
  have h := Definition.along_inject (quietInWiring_writing host) telling_allows hprovide d made
  rwa [List.flatMap_eq_nil_iff.2 fun _ _ => rfl] at h

/-- The live interceptors come first, or as many of them as there could be. -/
theorem told_interceptors (h : Told l objs s.1)
    (hd : s.1.catalog.byType? d.component.type = some d) {r : Except Failure host.journaled.LiveSet}
    {t : Container host.journaled × host.journaled.World}
    (hr : onDefinition d.component.type Definition.interceptors s = (r, t)) :
    Told l objs t.1 ∧ s.1.catalog.Follows t.1.catalog ∧
      ∃ calls : Journal host.toVocabulary, t.2.2 = s.2.2 ++ calls ∧ d.Tries calls ∧
        ∀ live, r = .ok live →
          ∃ chains, d.Enlists calls chains live := by
  obtain ⟨hlater, hcalls⟩ := Definition.interceptors_calls d s.2
  rw [onDefinition_of_some hd] at hr
  cases hr
  have hfollows : s.1.catalog.Follows (s.1.catalog.updated d.component.type
      (Definition.interceptors (d, s.2)).2.1) :=
    Catalog.follows_updated hd (hlater ▸ Definition.Later.settled d)
  exact ⟨h.of_follows hfollows rfl rfl, hfollows, hcalls⟩

include hprovide in
/-- Then come the arguments of the constructor, and the construction. -/
theorem told_produce (hcrew : Covers live (d.crew chains)) (h : Told l objs s.1)
    {r : Except Failure host.journaled.Ref} {t : Container host.journaled × host.journaled.World}
    (hr : d.produce live provide s = (r, t)) :
    ∃ (objs' : _) (log con : Journal host.toVocabulary), Told l objs' t.1 ∧
      s.1.catalog.Follows t.1.catalog ∧ Work objs s.2.2 objs' log ∧ t.2.2 = log ++ con ∧
      (con = [] ∨ d.Constructs live con) ∧ ∀ made, r = .ok made → d.Constructs live con := by
  rw [Definition.produce] at hr
  cases hk : d.component.constructor with
  | none =>
    rw [hk] at hr
    cases hr
    refine ⟨objs, s.2.2, [], h, Catalog.Follows.refl _, .rest, (List.append_nil _).symm,
      Or.inl rfl, fun made hok => ?_⟩
    cases hok
  | some k =>
    rw [hk] at hr
    dsimp only at hr
    obtain ⟨objs', ht, hwork, hfollows⟩ := (telling_arguments hprovide k.member).keeps s objs h
    rcases ha : d.arguments provide k.member s with ⟨f | arguments, u⟩
    · rw [ha] at ht hwork hfollows
      rw [Effect.bind_error ha] at hr
      cases hr
      refine ⟨objs', t.2.2, [], ht, hfollows, hwork, (List.append_nil _).symm, Or.inl rfl,
        fun made hok => ?_⟩
      cases hok
    · rw [ha] at ht hwork hfollows
      rw [Effect.bind_ok ha] at hr
      have hcovers : Covers live (d.component.constructionChain k) :=
        fun i hi => hcrew i (Definition.mem_crew_of_constructionChain hk hi)
      obtain ⟨con, hcon, hconstructs⟩ := Definition.construct_writes hk hcovers arguments u.2
      cases hr
      exact ⟨objs', u.2.2, con, ht, hfollows, hwork, hcon, Or.inr hconstructs,
        fun _ _ => hconstructs⟩

/-- After the wiring, the instance is wrapped, and its callbacks run. -/
theorem told_present {d' : Definition host.journaled} (hchains : d.chains = .ok chains)
    (hcrew : Covers live (d.crew chains)) (h : Told l objs s.1)
    (hd' : s.1.catalog.byType? d.component.type = some d') (hlater : Definition.Later d d')
    (made : host.journaled.Ref) {r : Except Failure host.journaled.Ref}
    {t : Container host.journaled × host.journaled.World}
    (hr : (do
      let reference ← onDefinition d.component.type (Definition.wrap made live)
      onDefinition d.component.type (Definition.postConstruct reference)
      return reference : Act host.journaled host.journaled.Ref) s = (r, t)) :
    ∃ post : Journal host.toVocabulary, Told l objs t.1 ∧ s.1.catalog.Follows t.1.catalog ∧
      t.2.2 = s.2.2 ++ post ∧ d.Undergoes chains .postConstruct live post ∧
      ∀ reference, r = .ok reference → d.Carries chains live reference := by
  have hscheme' : d'.scheme = ProxyScheme.standard host.journaled := (h.sound _ _ hd').2
  have hscheme : d.scheme = ProxyScheme.standard host.journaled :=
    hlater.scheme_eq.symm.trans hscheme'
  obtain ⟨reference, hcarries, hpresent⟩ :=
    present_apply hscheme hchains hd' hlater made live
  have hlater' : Definition.Later d d'.settled := hlater.trans (Definition.Later.settled d')
  obtain ⟨post, hpost, hundergoes, hphase⟩ := Definition.runPhase_writes
    ((Definition.Later.settled d').scheme_eq.trans hscheme')
    (hlater'.chains_eq.trans hchains) .postConstruct (hlater'.carries.2 hcarries)
    (fun i hi => hcrew i (Definition.mem_crew_of_forPhase hi)) s.2
  have hsettled : (s.1.catalog.updated d.component.type d'.settled).byType? d.component.type =
      some d'.settled := (Catalog.byType?_updated ..).trans (if_pos rfl)
  have hfollows := (Catalog.follows_updated hd' (Definition.Later.settled d')).trans
    (Catalog.follows_updated hsettled hphase)
  have hshared : ∀ reference, r = .ok reference → d.Carries chains live reference :=
    fun reference hok => carries_of_present hscheme hchains hd' hlater (hok ▸ hr)
  rw [hpresent] at hr
  cases hr
  exact ⟨post, h.of_follows hfollows rfl rfl, hfollows, hpost, hlater'.undergoes.1 hundergoes,
    hshared⟩

include hprovide in
/-- An assembly is told as far as it came. -/
theorem told_assemble (h : Told l objs s.1)
    (hd : s.1.catalog.byType? d.component.type = some d) {log : Journal host.toVocabulary}
    (hlog : s.2.2 = log ++ [.begun d.component.type]) {r : Except Failure host.journaled.Ref}
    {t : Container host.journaled × host.journaled.World} (hr : assemble d provide s = (r, t)) :
    ∃ objs', Told l objs' t.1 ∧ s.1.catalog.Follows t.1.catalog ∧
      (∀ f, r = .error f → Attempted d objs log objs' t.2.2) ∧
      ∀ reference, r = .ok reference → Completed d objs log objs' t.2.2 reference := by
  rw [assemble] at hr
  -- the live interceptors, directly behind the beginning
  rcases h₁ : onDefinition d.component.type Definition.interceptors s with ⟨f | live, s₁⟩
  all_goals
    obtain ⟨ht₁, hfollows₁, calls, hcalls, htries, hready⟩ := told_interceptors h hd h₁
    have hbegun : s₁.2.2 = log ++ .begun d.component.type :: calls := by
      rw [hcalls, hlog, List.append_assoc]
      rfl
  · rw [Effect.bind_error h₁] at hr
    cases hr
    rw [hbegun]
    exact ⟨objs, ht₁, hfollows₁, fun _ _ => .of_calls htries, nofun⟩
  · obtain ⟨chains, henlists⟩ := hready live rfl
    have hcrew : Covers live (d.crew chains) := henlists.2.covers
    rw [Effect.bind_ok h₁] at hr
    -- the arguments and the construction, with the whole crew at hand
    rcases h₂ : d.produce live provide s₁ with ⟨f | made, s₂⟩
    all_goals
      obtain ⟨objs₂, log₂, con, ht₂, hfollows₂, hwork, hcon, hattempt, hconstructs⟩ :=
        told_produce hprovide hcrew ht₁ h₂
      have hfollows₂ := hfollows₁.trans hfollows₂
      have hattempt : con = [] ∨ ∃ chains live, d.Enlists calls chains live ∧
          d.Constructs live con :=
        hattempt.imp_right fun hcon => ⟨chains, live, henlists, hcon⟩
      rw [hbegun] at hwork
    · rw [Effect.bind_error h₂] at hr
      cases hr
      rw [hcon]
      exact ⟨objs₂, ht₂, hfollows₂, fun _ _ => .of_wiring htries hwork hattempt .rest, nofun⟩
    · rw [Effect.bind_ok h₂] at hr
      -- the wiring, behind which no stage but the last is left
      obtain ⟨objs₃, ht₃, hwiring, hfollows₃⟩ := (telling_inject hprovide made).keeps s₂ objs₂ ht₂
      have hfollows₃ := hfollows₂.trans hfollows₃
      rw [hcon] at hwiring
      rcases h₃ : d.inject made provide s₂ with ⟨f | _, s₃⟩
      all_goals
        rw [h₃] at ht₃ hwiring hfollows₃
      · rw [Effect.bind_error h₃] at hr
        cases hr
        exact ⟨objs₃, ht₃, hfollows₃, fun _ _ => .of_wiring htries hwork hattempt hwiring, nofun⟩
      · rw [Effect.bind_ok h₃] at hr
        obtain ⟨d', hd', hlater⟩ := hfollows₃.later hd
        obtain ⟨post, ht, hfollows, hpost, hundergoes, hcarries⟩ :=
          told_present henlists.1 hcrew ht₃ hd' hlater made hr
        exact ⟨objs₃, ht, hfollows₃.trans hfollows,
          fun _ _ => ⟨calls, con, post, objs₂, log₂, s₃.2.2, htries, hwork, hattempt, hwiring,
            Or.inr ⟨chains, live, henlists, hundergoes⟩, hpost⟩,
          fun reference hok => ⟨chains, live, calls, con, post, objs₂, log₂, s₃.2.2, henlists,
            hwork, hconstructs made rfl, hwiring, hundergoes, hcarries reference hok, hpost⟩⟩

end

/-! ## Creating -/

/-- `Tells l make` — whatever `make` creates, by a definition of the catalog, is told. -/
def Tells (l : Listener host)
    (make : Definition host.journaled → Act host.journaled (Handle × host.journaled.Ref)) : Prop :=
  ∀ d s, s.1.catalog.byType? d.component.type = some d → (telling l).rel [] s (make d s).2

variable {nested : Definition host.journaled → Act host.journaled (Handle × host.journaled.Ref)}

theorem telling_supplying (hnested : Tells l nested) (p : Point host.journaled.Routine) :
    (telling l).Along [] (supplying nested p) := by
  refine .of_keeps fun s objs h => ?_
  rw [supplying_apply]
  cases hd : s.1.catalog.byType? p.requires with
  | none => exact ⟨objs, h, .rest, Catalog.Follows.refl _⟩
  | some d =>
    have hcreated := hnested d s ((h.sound _ _ hd).1.symm ▸ hd) objs h
    dsimp only
    rcases hr : nested d s with ⟨f | ⟨k, reference⟩, t⟩
    · rw [hr] at hcreated
      exact hcreated
    · rw [hr] at hcreated
      obtain ⟨objs', ht, hwork, hfollows⟩ := hcreated
      show ∃ objs', Told l objs' (t.1.credited k) ∧ Work objs s.2.2 objs' t.2.2 ∧
        s.1.catalog.Follows (t.1.credited k).catalog
      rw [credited]
      split
      · exact ⟨objs', ht, hwork, hfollows⟩
      · exact ⟨objs', ht.of_eq rfl rfl rfl, hwork,
          hfollows⟩

/-- One creation, around whatever is told of the nested ones. -/
theorem tells_createBy (hnested : Tells l nested) : Tells l (createBy nested) := by
  intro d s hd objs h
  by_cases hcycle : d.component.type ∈ s.1.underConstruction
  · rw [createBy_of_cycle hcycle]
    exact ⟨objs, h, .rest, Catalog.Follows.refl _⟩
  · have hbegan : Told l objs (s.1.begun d.component.type) :=
      h.of_eq rfl rfl rfl
    have hnotice : (s.1.listener.begun d.component.type s.2).2 =
        s.2.2 ++ [.begun d.component.type] := by
      rw [h.listener]
      rfl
    let u : Container host.journaled × host.journaled.World :=
      (s.1.begun d.component.type, s.1.listener.begun d.component.type s.2)
    rcases hr : assemble d (supplying nested) u with ⟨f | reference, c, w⟩
    all_goals
      obtain ⟨objs', ht, hfollows, hattempted, hcompleted⟩ :=
        told_assemble (s := u) (telling_supplying hnested) hbegan hd hnotice hr
      have hended : Told l objs' (c.ended d.component.type).2 :=
        ht.of_eq rfl rfl rfl
    · rw [createBy_of_error hcycle hr]
      obtain ⟨hundo, htold⟩ := told_destroyAll (c.ended d.component.type).1
        ((c.ended d.component.type).2, w) hended
      have hgone := (undisturbed_destroyAll (c.ended d.component.type).1
        ((c.ended d.component.type).2, w)).catalog
      exact ⟨objs', htold, (hattempted f rfl).undo hundo, hfollows.trans hgone⟩
    · rw [createBy_of_ok hcycle hr]
      obtain ⟨d', hd', hlater⟩ := hfollows.later hd
      let e : Stored host.journaled.toVocabulary :=
        ⟨d.component.type, reference, (c.ended d.component.type).1⟩
      obtain ⟨o, hhandle, hentry, hdefinition, hformed, hwork⟩ :=
        (hcompleted reference rfl).store c.store.upcoming (e := e) rfl rfl
      have hstored : (c.listener.stored c.store.upcoming e w).2 =
          w.2 ++ [.stored c.store.upcoming e] := by
        rw [ht.listener]
        rfl
      have hcurrent : c.catalog.byType? o.entry.type = some d' := by
        rw [hentry]
        exact hd'
      have htold := hended.keep hformed hhandle hcurrent (hdefinition ▸ hlater)
      rw [hentry] at htold
      refine ⟨objs' ++ [o], htold, ?_, hfollows⟩
      show Work objs s.2.2 (objs' ++ [o]) (c.listener.stored c.store.upcoming e w).2
      rw [hstored]
      exact hwork

theorem tells_createWithin (n : Nat) : Tells l (createWithin n) := by
  induction n with
  | zero => exact tells_createBy fun d s _ => (telling l).stay s
  | succ n ih => exact tells_createBy ih

/-- Requests are refused at once, or told as creations. -/
theorem telling_requested {make : Act host.journaled Handle} (hmake : Requested make)
    (s : Container host.journaled × host.journaled.World) : (telling l).rel [] s (make s).2 := by
  intro objs h
  rcases hmake.cases s with ⟨f, hf⟩ | ⟨t, d, hd, hcreate⟩
  · rw [hf]
    exact ⟨objs, h, .rest, Catalog.Follows.refl _⟩
  · have hcurrent : s.1.catalog.byType? d.component.type = some d := (h.sound t d hd).1.symm ▸ hd
    rw [hcreate]
    exact tells_createWithin s.1.catalog.size d s hcurrent objs h

end Container

end Wiring
