/-
  Where the live instances come from.

  1. `Provenance d chains live h e log` — the journal tells how the entry `e` came under the handle
     `h`: its creation began, the factories were called for the whole crew of the definition `d`,
     which gave the live interceptors `live`, and in the end it was stored.
  2. `Founded s t` — whatever is live in `t` was live in `s` or has its provenance in the journal, by
     the definition that its type has, and whatever was retired on the way has run its callbacks.
     This is kept by every single step of a creation, and by the destruction after one that has
     failed, so it is a course (`founding`), and creations of any depth of nesting keep to it
     (`founding_requested`).

  While a type is under construction its creation does not begin anew, so between the beginning and
  the end of a provenance there is no other beginning of the same type.
-/
import Wiring.Proofs.Container.Retirement
import Wiring.Proofs.Definition.Served

namespace Wiring

/-- `e.begun?` — the type whose creation begins. -/
def Event.begun? {V : Vocabulary} : Event V → Option TypeKey
  | begun t => some t
  | _ => none

theorem Event.ofStore_begun? {V : Vocabulary} :
    Journal.OfStore (begun? : Event V → Option TypeKey) := by
  intro e he
  cases e <;> first | rfl | cases he

/-- Where no type is picked, no creation begins. -/
theorem begun_not_mem {V : Vocabulary} {seg : Journal V} (h : seg.filterMap Event.begun? = [])
    (t : TypeKey) : Event.begun t ∉ seg := by
  intro hmem
  have hnone := List.filterMap_eq_nil_iff.1 h _ hmem
  cases hnone

/-- `Provenance d chains live h e log` — the journal tells that `e` was made by the definition `d`,
    with the lifecycle chains `chains` and the live interceptors `live`, and stored under `h`. -/
structure Provenance {host : Host} (d : Definition host) (chains : LifecycleChains host.Routine)
    (live : host.LiveSet) (h : Handle) (e : Stored host.toVocabulary)
    (log : Journal host.toVocabulary) : Prop where
  type : d.component.type = e.type
  chains_eq : d.chains = .ok chains
  /-- A standard proxy takes the live interceptors with it. -/
  carries : d.scheme = ProxyScheme.standard host → d.Carries chains live e.reference
  recorded : ∃ before calls making after,
    log = before ++ (.begun e.type :: calls ++ making ++ .stored h e :: after) ∧
      Recruits (d.crew chains) live calls ∧ Event.begun e.type ∉ making

theorem Provenance.append {host : Host} {d : Definition host} {chains : LifecycleChains host.Routine}
    {live : host.LiveSet} {h : Handle} {e : Stored host.toVocabulary}
    {log : Journal host.toVocabulary} (hp : Provenance d chains live h e log)
    (seg : Journal host.toVocabulary) : Provenance d chains live h e (log ++ seg) where
  type := hp.type
  chains_eq := hp.chains_eq
  carries := hp.carries
  recorded := by
    obtain ⟨before, calls, making, after, rfl, hcalls, hmaking⟩ := hp.recorded
    exact ⟨before, calls, making, after ++ seg, by simp, hcalls, hmaking⟩

/-- A definition and what has become of it have made the same instances. -/
theorem Definition.Later.provenance {host : Host} {d d' : Definition host}
    (hlater : Definition.Later d d') {chains : LifecycleChains host.Routine} {live : host.LiveSet}
    {h : Handle} {e : Stored host.toVocabulary} {log : Journal host.toVocabulary} :
    Provenance d' chains live h e log ↔ Provenance d chains live h e log := by
  constructor
  · intro hp
    refine ⟨hlater.type_eq.symm.trans hp.type, hlater.chains_eq.symm.trans hp.chains_eq,
      fun hscheme => hlater.carries.1 (hp.carries (hlater.scheme_eq.trans hscheme)), ?_⟩
    rw [← hlater.crew_eq]
    exact hp.recorded
  · intro hp
    refine ⟨hlater.type_eq.trans hp.type, hlater.chains_eq.trans hp.chains_eq,
      fun hscheme => hlater.carries.2 (hp.carries (hlater.scheme_eq.symm.trans hscheme)), ?_⟩
    rw [hlater.crew_eq]
    exact hp.recorded

/-- A phase of the instance, as the definition runs it that made it, is received by the live
    interceptors that were made for it. -/
theorem Provenance.undergoes {host : Host} {d d' : Definition host.journaled}
    {chains : LifecycleChains host.journaled.Routine} {live : host.journaled.LiveSet} {h : Handle}
    {e : Stored host.journaled.toVocabulary} {log : Journal host.toVocabulary}
    (hp : Provenance d chains live h e log) (hlater : Definition.Later d d')
    (hscheme : d.scheme = ProxyScheme.standard host.journaled) (phase : Phase)
    (w : host.journaled.World) :
    ∃ seg, (Definition.runPhase phase e.reference (d', w)).2.2.2 = w.2 ++ seg ∧
      d.Undergoes chains phase live seg := by
  obtain ⟨before, calls, making, after, -, hcrew, -⟩ := hp.recorded
  obtain ⟨seg, hseg, hundergoes, -⟩ := Definition.runPhase_writes
    (hlater.scheme_eq.trans hscheme) (hlater.chains_eq.trans hp.chains_eq) phase
    (hlater.carries.2 (hp.carries hscheme))
    (fun i hi => hcrew.covers i (Definition.mem_crew_of_forPhase hi)) w
  exact ⟨seg, hseg, hlater.undergoes.1 hundergoes⟩

namespace Container

variable {host : Host} {l : Listener host} {s t u : Container host.journaled × host.journaled.World}

/-! ## The course of creations -/

/-- `Known h e t` — `e` has its provenance in the journal, by the definition that its type has. -/
def Known (h : Handle) (e : Stored host.journaled.toVocabulary)
    (t : Container host.journaled × host.journaled.World) : Prop :=
  ∃ d chains live, t.1.catalog.byType? e.type = some d ∧ Provenance d chains live h e t.2.2

/-- What is known stays known while the journal grows. -/
theorem Known.append {h : Handle} {e : Stored host.journaled.toVocabulary} (hknown : Known h e s)
    (hcatalog : s.1.catalog.Follows t.1.catalog) {seg : Journal host.toVocabulary}
    (hlog : t.2.2 = s.2.2 ++ seg) : Known h e t := by
  obtain ⟨d, chains, live, hd, hp⟩ := hknown
  obtain ⟨d', hd', hlater⟩ := hcatalog.later hd
  rw [Known, hlog]
  exact ⟨d', chains, live, hd', (hlater.provenance.2 hp).append seg⟩

theorem log_keep (hs : s.1.listener = l.journaled) (e : Stored host.journaled.toVocabulary) :
    (Container.keep e s).2.2.2 = s.2.2 ++ [.stored s.1.store.upcoming e] := by
  show (s.1.listener.stored s.1.store.upcoming e s.2).2 = _
  rw [hs]
  rfl

/-- `Founded s t` — from `s` to `t`, every instance that has become live has its provenance in
    the journal, where no creation of a type under construction has begun, and every retirement is
    attested. -/
structure Founded (s t : Container host.journaled × host.journaled.World) : Prop where
  catalog : s.1.catalog.Follows t.1.catalog
  listener : t.1.listener = s.1.listener
  underConstruction : t.1.underConstruction = s.1.underConstruction
  log : ∃ seg : Journal host.toVocabulary, t.2.2 = s.2.2 ++ seg ∧
    (∀ v ∈ s.1.underConstruction, .begun v ∉ seg) ∧ Attested s.1.catalog s.2.2 seg
  known : ∀ h e, t.1.store.find? h = some e →
    s.1.store.find? h = some e ∨ Known h e t

namespace Founded

/-- A move that leaves the store alone, and of which no listener hears. -/
theorem still {c : Catalog host.journaled} {w : host.journaled.World}
    (hcatalog : s.1.catalog.Follows c) (hw : (Journal.course Event.notice?).rel [] s.2 w) :
    Founded s ({ s.1 with catalog := c }, w) where
  catalog := hcatalog
  listener := rfl
  underConstruction := rfl
  log := by
    obtain ⟨seg, hseg, hnone⟩ := hw
    have hplain := Journal.plain_of_notice? hnone
    exact ⟨seg, hseg, fun v _ hmem => Bool.noConfusion (hplain _ hmem), .of_plain hplain⟩
  known _ _ he := Or.inl he

theorem refl (s : Container host.journaled × host.journaled.World) : Founded s s :=
  still (Catalog.Follows.refl _) ((Journal.course Event.notice?).stay s.2)

theorem trans (h : Founded s t) (h' : Founded t u) : Founded s u where
  catalog := h.catalog.trans h'.catalog
  listener := h'.listener.trans h.listener
  underConstruction := h'.underConstruction.trans h.underConstruction
  log := by
    obtain ⟨seg, hseg, hnone, hattested⟩ := h.log
    obtain ⟨seg', hseg', hnone', hattested'⟩ := h'.log
    rw [h.underConstruction] at hnone'
    rw [hseg] at hattested'
    refine ⟨seg ++ seg', by rw [hseg', hseg, List.append_assoc], fun v hv hmem => ?_,
      hattested.append hattested' h.catalog⟩
    exact (List.mem_append.1 hmem).elim (hnone v hv) (hnone' v hv)
  known k e he := (h'.known k e he).elim
    (fun hbefore => (h.known k e hbefore).imp id fun hknown =>
      have ⟨_, hseg, _⟩ := h'.log
      hknown.append h'.catalog hseg) Or.inr

theorem minded (h : Founded s t) (hs : Minded l s.1) : Minded l t.1 :=
  hs.of_follows h.catalog h.listener

/-- Whatever is destroyed, nothing becomes live. -/
theorem destroyAll (hs : Minded l s.1) (pending : List Handle) :
    Founded s (Container.destroyAll pending s).2 where
  catalog := (undisturbed_destroyAll pending s).catalog
  listener := (undisturbed_destroyAll pending s).listener
  underConstruction := (undisturbed_destroyAll pending s).underConstruction
  log := by
    have hstill : s.1.Still (Journal.course Event.begun?) :=
      hs.still (fun _ _ => rfl) (fun _ _ => rfl) fun _ _ _ => rfl
    obtain ⟨seg, hseg, hnone⟩ :=
      hstill.destroyAll (host.quiet_journaled Event.ofStore_begun?) pending
    obtain ⟨seg', hseg', hattested⟩ := attested_destroyAll pending s hs
    obtain rfl := List.append_cancel_left (hseg.symm.trans hseg')
    exact ⟨seg, hseg, fun v _ => begun_not_mem hnone v, hattested⟩
  known k e he := Or.inl (Store.find?_eq_some_iff.2
    ((walk_destroyAll pending s).mem_entries.1 (Store.find?_eq_some_iff.1 he)).1)

theorem credited (h : Founded s t) (k : Handle) : Founded s (t.1.credited k, t.2) := by
  rw [Container.credited]
  split
  · exact h
  · exact ⟨h.catalog, h.listener, h.underConstruction, h.log, h.known⟩

/-- A creation from its beginning to its end, whatever it came to. -/
theorem ended {v : TypeKey} (hs : s.1.listener = l.journaled)
    (hv : v ∉ s.1.underConstruction)
    (h : Founded (s.1.begun v, s.1.listener.begun v s.2) t) : Founded s ((t.1.ended v).2, t.2) where
  catalog := h.catalog
  listener := h.listener
  underConstruction := by
    show t.1.underConstruction.erase v = s.1.underConstruction
    rw [h.underConstruction]
    exact List.erase_cons_head v s.1.underConstruction
  log := by
    obtain ⟨seg, hseg, hnone, hattested⟩ := h.log
    have hbegun : (s.1.listener.begun v s.2).2 = s.2.2 ++ [.begun v] := by
      rw [hs]
      rfl
    have hnotice : Attested s.1.catalog s.2.2 [.begun v] := .of_not_mem (by simp)
    rw [hbegun] at hseg hattested
    refine ⟨_, hseg.trans (List.append_assoc ..), fun u hu hmem => ?_,
      hnotice.append hattested (.refl _)⟩
    rcases List.mem_append.1 hmem with hmem | hmem
    · cases List.mem_singleton.1 hmem
      exact hv hu
    · exact hnone u (List.mem_cons_of_mem v hu) hmem
  known := h.known

/-- An instance enters the store with its provenance. -/
theorem keep (ht : t.1.listener = l.journaled) (h : Founded s t)
    {e : Stored host.journaled.toVocabulary}
    (hknown : Known t.1.store.upcoming e (Container.keep e t).2) :
    Founded s (Container.keep e t).2 := by
  have hstored := log_keep ht e
  obtain ⟨seg, hseg, hnone, hattested⟩ := h.log
  have hnotice : Attested s.1.catalog (s.2.2 ++ seg) [.stored t.1.store.upcoming e] :=
    .of_not_mem (by simp)
  refine ⟨h.catalog, h.listener, h.underConstruction,
    ⟨seg ++ [.stored t.1.store.upcoming e], ?_, fun v hv hmem => ?_,
      hattested.append hnotice (.refl _)⟩, fun k e' he' => ?_⟩
  · rw [hstored, hseg, List.append_assoc]
  · rcases List.mem_append.1 hmem with hmem | hmem
    · exact hnone v hv hmem
    · cases List.mem_singleton.1 hmem
  · have hfind := (Store.find?_keep t.1.store e k).symm.trans he'
    split at hfind
    · next hk =>
      cases hfind
      rw [hk]
      exact Or.inr hknown
    · exact (h.known k e' hfind).imp id fun hbefore =>
        hbefore.append (Catalog.Follows.refl t.1.catalog) hstored

end Founded

/-- `founding l` — moves that found what they make. -/
def founding (l : Listener host) :
    Course (Container host.journaled × host.journaled.World) Empty where
  rel _ s t := Minded l s.1 → Founded s t
  stay s _ := Founded.refl s
  append h h' hs := (h hs).trans (h' ((h hs).minded hs))

theorem founding_allows : Definition.Allows (founding l)
    (Journal.course (Event.notice? : Event host.toVocabulary → Option _)) :=
  fun c _ _ hw _ => Founded.still (Catalog.Follows.refl c.catalog) hw

theorem founding_onDefinition {α : Type} (v : TypeKey)
    (x : Effect (Definition host.journaled × host.journaled.World) α)
    (hx : (Definition.course (Journal.course Event.notice?)).Along [] x) :
    (founding l).Along [] (onDefinition v x) := by
  apply along_onDefinition_of_rel hx
  intro s d d' w hd hrel hs
  have hquiet : d.scheme.Quiet (Journal.course Event.notice?) :=
    (hs.modest v d hd).2.quiet fun _ _ => rfl
  obtain ⟨-, hlater, hw⟩ := hrel hquiet
  exact Founded.still (Catalog.follows_updated hd hlater) hw

/-! ## Assembling -/

/-- No host does a listener's work. -/
theorem quiet_notice (host : Host) : host.journaled.Quiet
    (Journal.course (Event.notice? : Event host.toVocabulary → Option _)) :=
  host.quiet_journaled Event.ofStore_notice?

variable {d : Definition host.journaled}

section

variable {provide : Provider host.journaled (Container host.journaled)}
  (hprovide : ∀ p, (founding l).Along [] (provide p))

include hprovide

theorem founding_produce (live : host.journaled.LiveSet) :
    (founding l).Along [] (d.produce live provide) := by
  have h := Definition.along_produce founding_allows hprovide (quiet_notice host) d live
  rwa [List.flatMap_eq_nil_iff.2 fun _ _ => rfl] at h

theorem founding_inject (made : host.journaled.Ref) :
    (founding l).Along [] (d.inject made provide) := by
  have h := Definition.along_inject (quiet_notice host).toQuietInWiring founding_allows hprovide d
    made
  rwa [List.flatMap_eq_nil_iff.2 fun _ _ => rfl] at h

theorem founding_assemble : (founding l).Along [] (assemble d provide) := by
  have h := along_assemble (quiet_notice host) founding_allows founding_onDefinition hprovide d
  rwa [List.flatMap_eq_nil_iff.2 fun _ _ => rfl] at h

end

/-- The instance is wrapped, and its callbacks run. -/
theorem founding_present (made : host.journaled.Ref) (live : host.journaled.LiveSet) :
    (founding l).Along [] (do
      let reference ← onDefinition d.component.type (Definition.wrap made live)
      onDefinition d.component.type (Definition.postConstruct reference)
      return reference) := by
  refine (founding_onDefinition _ _ (Definition.along_wrap made live)).after fun reference => ?_
  exact (founding_onDefinition _ _
    (Definition.along_runPhase (quiet_notice host) .postConstruct reference)).after fun _ =>
      Course.along_pure reference

section

variable {provide : Provider host.journaled (Container host.journaled)}
  (hprovide : ∀ p, (founding l).Along [] (provide p))

include hprovide

/-- A successful assembly calls the factories first, and what it gives carries what they made. -/
theorem assemble_recruits (hs : Minded l s.1) (hd : s.1.catalog.byType? d.component.type = some d)
    (hbegun : d.component.type ∈ s.1.underConstruction) {reference : host.journaled.Ref}
    (hr : assemble d provide s = (.ok reference, t)) :
    ∃ (chains : _) (live : _) (calls making : Journal host.toVocabulary), d.chains = .ok chains ∧
      (d.scheme = ProxyScheme.standard host.journaled → d.Carries chains live reference) ∧
      t.2.2 = s.2.2 ++ (calls ++ making) ∧ Recruits (d.crew chains) live calls ∧
      Event.begun d.component.type ∉ making := by
  rw [assemble] at hr
  have hfounded := (founding_onDefinition (l := l) d.component.type _
    (Definition.along_interceptors (quiet_notice host))).keeps s hs
  rcases h₁ : onDefinition d.component.type Definition.interceptors s with ⟨f | live, s₁⟩
  · rw [Effect.bind_error h₁] at hr
    cases hr
  rw [Effect.bind_ok h₁] at hr
  rw [h₁] at hfounded
  obtain ⟨d₁, hd₁, hlater₁⟩ := hfounded.catalog.later hd
  have hs₁ := hfounded.minded hs
  -- the factories
  obtain ⟨-, calls, hcalls, -, hready⟩ := Definition.interceptors_calls d s.2
  rw [onDefinition_of_some hd] at h₁
  obtain ⟨chains, hchains, hrecruits⟩ := hready live (congrArg Prod.fst h₁)
  have hlog₁ : s₁.2.2 = s.2.2 ++ calls := by
    rw [← congrArg (·.2.2.2) h₁]
    exact hcalls
  -- the other stages
  rcases h₂ : d.produce live provide s₁ with ⟨f | made, s₂⟩
  · rw [Effect.bind_error h₂] at hr
    cases hr
  have hfounded₂ := (founding_produce hprovide (d := d) live).keeps s₁ hs₁
  rw [h₂] at hfounded₂
  rw [Effect.bind_ok h₂] at hr
  have hs₂ := hfounded₂.minded hs₁
  rcases h₃ : d.inject made provide s₂ with ⟨f | _, s₃⟩
  · rw [Effect.bind_error h₃] at hr
    cases hr
  have hfounded₃ := (founding_inject hprovide (d := d) made).keeps s₂ hs₂
  rw [h₃] at hfounded₃
  rw [Effect.bind_ok h₃] at hr
  have hfounded₃ := hfounded₂.trans hfounded₃
  have hfounded₄ := (founding_present (d := d) made live).keeps s₃ (hfounded₃.minded hs₁)
  rw [hr] at hfounded₄
  obtain ⟨making, hmaking, hnone, -⟩ := (hfounded₃.trans hfounded₄).log
  refine ⟨chains, live, calls, making, hchains, fun hscheme => ?_, ?_, hrecruits, ?_⟩
  · obtain ⟨d₃, hd₃, hlater₃⟩ := hfounded₃.catalog.later hd₁
    exact carries_of_present hscheme hchains hd₃ (hlater₁.trans hlater₃) hr
  · rw [hmaking, hlog₁, List.append_assoc]
  · exact hnone _ (hfounded.underConstruction ▸ hbegun)

end

/-! ## Creating -/

/-- `Founds l make` — whatever `make` creates, by a definition of the catalog, has its
    provenance. -/
def Founds (l : Listener host)
    (make : Definition host.journaled → Act host.journaled (Handle × host.journaled.Ref)) : Prop :=
  ∀ d s, s.1.catalog.byType? d.component.type = some d → (founding l).rel [] s (make d s).2

variable {nested : Definition host.journaled → Act host.journaled (Handle × host.journaled.Ref)}

theorem founding_supplying (hnested : Founds l nested) (p : Point host.journaled.Routine) :
    (founding l).Along [] (supplying nested p) := by
  refine .of_keeps fun s hs => ?_
  rw [supplying_apply]
  cases hd : s.1.catalog.byType? p.requires with
  | none => exact Founded.refl s
  | some d =>
    have hfounded := hnested d s ((hs.modest _ _ hd).1.symm ▸ hd) hs
    dsimp only
    rcases hr : nested d s with ⟨f | ⟨k, reference⟩, u⟩
    · rw [hr] at hfounded
      exact hfounded
    · rw [hr] at hfounded
      exact hfounded.credited k

/-- One creation, around whatever is founded of the nested ones. -/
theorem founds_createBy (hnested : Founds l nested) : Founds l (createBy nested) := by
  intro d s hd hs
  by_cases hcycle : d.component.type ∈ s.1.underConstruction
  · rw [createBy_of_cycle hcycle]
    exact Founded.refl s
  · let u : Container host.journaled × host.journaled.World :=
      (s.1.begun d.component.type, s.1.listener.begun d.component.type s.2)
    have hu : Minded l u.1 := hs.of_follows (Catalog.Follows.refl _) rfl
    have hnotice : u.2.2 = s.2.2 ++ [.begun d.component.type] := by
      show (s.1.listener.begun d.component.type s.2).2 = _
      rw [hs.listener]
      rfl
    have hfounded := (founding_assemble (d := d) (founding_supplying hnested)).keeps u hu
    rcases hr : assemble d (supplying nested) u with ⟨f | reference, c, w⟩
    all_goals
      rw [hr] at hfounded
      have hended : Founded s ((c.ended d.component.type).2, w) := hfounded.ended hs.listener hcycle
    · rw [createBy_of_error hcycle hr]
      exact hended.trans (Founded.destroyAll (hended.minded hs) _)
    · rw [createBy_of_ok hcycle hr]
      obtain ⟨chains, live, calls, making, hchains, hcarries, hlog, hrecruits, hnone⟩ :=
        assemble_recruits (founding_supplying hnested) hu hd List.mem_cons_self hr
      have hlog : w.2 = u.2.2 ++ (calls ++ making) := hlog
      obtain ⟨d', hd', hlater⟩ := hfounded.catalog.later hd
      have hlistener := (hended.minded hs).listener
      refine hended.keep hlistener ⟨d', chains, live, hd', hlater.provenance.2
        ⟨rfl, hchains, hcarries, s.2.2, calls, making, [], ?_, hrecruits, hnone⟩⟩
      have hwhole : ∀ (log : Journal host.toVocabulary) (first last : Event host.toVocabulary),
          log ++ [first] ++ (calls ++ making) ++ [last] =
            log ++ (first :: calls ++ making ++ [last]) := by simp
      rw [log_keep hlistener]
      show w.2 ++ _ = _
      rw [hlog, hnotice]
      exact hwhole ..

theorem founds_createWithin (n : Nat) : Founds l (createWithin n) := by
  induction n with
  | zero => exact founds_createBy fun d s _ => (founding l).stay s
  | succ n ih => exact founds_createBy ih

/-- Whatever is requested, what becomes live by it has its provenance. -/
theorem founding_requested {make : Act host.journaled Handle} (hmake : Requested make)
    (s : Container host.journaled × host.journaled.World) : (founding l).rel [] s (make s).2 := by
  intro hs
  rcases hmake.cases s with ⟨f, hf⟩ | ⟨t, d, hd, hcreate⟩
  · rw [hf]
    exact Founded.refl s
  · rw [hcreate]
    exact founds_createWithin s.1.catalog.size d s ((hs.modest t d hd).1.symm ▸ hd) hs

end Container

end Wiring
