/-
  One crew for life.

  `Ran l c s` — what may happen to a container on a journaled host, and to its proxies: definitions
  are registered, instances created and destroyed, business methods called on the proxies that were
  obtained, in any order and as often as one likes, and anything at all happens in the world in
  between.  In every such run, the chronicle tells of each object who made its crew and that nobody
  else ever served it.
-/
import Mathlib
import Wiring.Proofs.Container.Chronicle.Creation
import Wiring.Proofs.Host.Numbers

namespace Wiring

namespace Container

variable {host : Host}

/-- `Obtained c log p` — `p` is the proxy of an object that was stored, in place of an instance that
    needs one. -/
def Obtained (c : Container host) (log : Journal host.toVocabulary)
    (p : Proxy host.toVocabulary host.Ref) : Prop :=
  ∃ h e d, Event.stored h e ∈ log ∧ e.reference = .intercepted p ∧
    c.catalog.byType? e.type = some d ∧ (Definition.needsProxy d).1 = .ok true

/-- `Ran l c s` — a run of creations, destructions and business calls has led to the container `c`
    in the world `s`; definitions have standard proxies, and none may replace another. -/
inductive Ran (l : Listener host) : Container host.journaled → host.journaled.World → Prop where
  | empty (settings : Settings) (hover : settings.overriding = false) (w : host.World) :
    Ran l { Container.ofSettings settings with listener := l.journaled } (w, [])
  | register {c s c' d} (h : Ran l c s) (hd : d.scheme = ProxyScheme.standard host.journaled)
    (hregister : c.register d = .ok c') : Ran l c' s
  | create {c s make} (h : Ran l c s) (hmake : Requested make) :
    Ran l (make (c, s)).2.1 (make (c, s)).2.2
  | destroy {c s} (h : Ran l c s) (k : Handle) :
    Ran l (Container.destroy k (c, s)).2.1 (Container.destroy k (c, s)).2.2
  | invoke {c s p} (h : Ran l c s) (hp : Obtained c s.2 p) (name : String)
    (arguments : List host.journaled.Ref) :
    Ran l c (p.invoke host.journaled name arguments
      (s.1, s.2 ++ [.invoked p name arguments])).2
  | elsewhere {c s} (h : Ran l c s) (w : host.World) : Ran l c (w, s.2)

variable {l : Listener host} {objs : List (Object host.journaled)} {c c' : Container host.journaled}
  {s : host.journaled.World}

/-- A new definition is of a new type. -/
theorem Told.register (h : Told l objs c) {d : Definition host.journaled}
    (hd : d.scheme = ProxyScheme.standard host.journaled) (hregister : c.register d = .ok c') :
    Told l objs c' := by
  obtain ⟨catalog, hcatalog, rfl⟩ := register_eq hregister
  constructor
  · exact h.sound.register hd hcatalog
  · obtain ⟨-, rfl⟩ := Catalog.register_of_not_overriding h.overriding hcatalog
    exact h.overriding
  · exact h.listener
  · exact h.known
  · exact h.formed
  · intro o ho
    obtain ⟨d', hd', hlater⟩ := h.current o ho
    exact ⟨d', Catalog.byType?_of_register_of_not_overriding h.overriding hcatalog hd', hlater⟩
  · exact h.issued
  · exact h.distinct

/-- The proxy that was obtained for an object carries its live interceptors and its methods. -/
theorem Told.obtained (h : Told l objs c) {log : Journal host.journaled.toVocabulary}
    (hlog : Chronicle objs log) {p : Proxy host.journaled.toVocabulary host.journaled.Ref}
    (hp : Obtained c log p) :
    ∃ o ∈ objs, o.entry.reference = .intercepted p ∧ p.interceptors = o.live ∧
      p.methods = o.definition.businessMethods := by
  obtain ⟨k, e, d, hstored, hreference, hd, hneeds⟩ := hp
  obtain ⟨o, ho, -, rfl⟩ := hlog.adds.stored k e hstored
  obtain ⟨d', hd', hlater⟩ := h.current o ho
  rw [hd] at hd'
  cases hd'
  have hformed := h.formed o ho
  have hwanted : o.definition.wanted o.chains = true := by
    rw [Definition.needsProxy_apply, hlater.chains_eq.trans hformed.chains] at hneeds
    rw [← hlater.wanted_eq, ← (Definition.Later.settled d).wanted_eq]
    exact Except.ok.inj hneeds
  obtain ⟨target, hproxy⟩ := hformed.carries hwanted
  rw [hproxy] at hreference
  cases hreference
  exact ⟨o, ho, hproxy, rfl, rfl⟩

/-- A business call on it is received by these live interceptors, or by nobody. -/
theorem Told.invoked (h : Told l objs c) (hlog : Chronicle objs s.2)
    {p : Proxy host.journaled.toVocabulary host.journaled.Ref} (hp : Obtained c s.2 p)
    (name : String) (arguments : List host.journaled.Ref) :
    Chronicle objs (p.invoke host.journaled name arguments
      (s.1, s.2 ++ [.invoked p name arguments])).2.2 := by
  obtain ⟨o, ho, hproxy, hlive, hmethods⟩ := h.obtained hlog hp
  let t : host.journaled.World := (s.1, s.2 ++ [.invoked p name arguments])
  show Chronicle objs (p.invoke host.journaled name arguments t).2.2
  cases hg : p.methods.get? name with
  | none =>
    rw [Proxy.invoke_of_none hg arguments t]
    exact hlog.refuse ho hproxy (hmethods ▸ hg)
  | some g =>
    have hg' : o.definition.businessMethods.get? name = some g := hmethods ▸ hg
    have hcovers : Covers p.interceptors g.chain := by
      rw [hlive]
      exact fun i hi => (h.formed o ho).covers i (Definition.mem_crew_of_businessMethods hg' hi)
    obtain ⟨seg, hseg, hserved⟩ := Proxy.invoke_writes hg hcovers arguments t
    rw [hlive] at hserved
    rw [hseg, List.append_assoc]
    exact hlog.invoke ho hproxy hg' hserved

/-- A run is told, call by call. -/
theorem Ran.told (h : Ran l c s) :
    ∃ objs : List (Object host.journaled), Told l objs c ∧ Chronicle objs s.2 := by
  induction h with
  | @empty settings hover w =>
    refine ⟨[], ?_, .empty⟩
    exact ⟨Catalog.sound_ofSettings settings, hover, rfl, nofun, nofun, nofun, nofun,
      List.nodup_nil⟩
  | register _ hd hregister ih =>
    obtain ⟨objs, htold, hlog⟩ := ih
    exact ⟨objs, htold.register hd hregister, hlog⟩
  | @create c s make _ hmake ih =>
    obtain ⟨objs, htold, hlog⟩ := ih
    obtain ⟨objs', htold', hwork, -⟩ := telling_requested hmake (c, s) objs htold
    exact ⟨objs', htold', hlog.create hwork⟩
  | @destroy c s _ k ih =>
    obtain ⟨objs, htold, hlog⟩ := ih
    obtain ⟨hundo, htold'⟩ := told_destroyAll [k] (c, s) htold
    rw [destroy_state]
    exact ⟨objs, htold', hlog.destroy hundo⟩
  | @invoke c s p _ hp name arguments ih =>
    obtain ⟨objs, htold, hlog⟩ := ih
    exact ⟨objs, htold, htold.invoked hlog hp name arguments⟩
  | elsewhere _ w ih => exact ih

/-- **One crew for life.**  Whatever is created, destroyed and called, in any order, and whatever the
    host and the interceptors do, the journal is a chronicle of objects:
    1. What is passed through for an object, around its construction, its callbacks and its business
       methods, is received by its own live interceptors, under the names in the chain (`Chronicle`).
    2. Each object was made by the definition of its type.  It has live interceptors for its whole
       crew, and they go with it in its proxy unless there is nothing left to intercept (`Formed`).
       They come from one factory call for each name, made at the place where its story begins,
       before its constructor runs (`Recorded`).
    3. No two objects have a factory call or a handle in common, and everything that is stored is
       one of them.
    4. No interceptor factory is called anywhere else (`CallsBegun`). -/
theorem one_crew_for_life {host : Host} {l : Listener host} {c : Container host.journaled}
    {s : host.journaled.World} (h : Ran l c s) :
    ∃ objs : List (Object host.journaled), Chronicle objs s.2 ∧
      (∀ o ∈ objs, o.Formed ∧ o.Recorded s.2 ∧
        ∃ d, c.catalog.byType? o.entry.type = some d ∧ Definition.Later o.definition d) ∧
      (objs.Pairwise fun o o' => ∀ n ∈ o.places, n ∉ o'.places) ∧ (objs.map (·.handle)).Nodup ∧
      (∀ k e, (c.store.find? k = some e ∨ Event.stored k e ∈ s.2) →
        ∃ o ∈ objs, o.handle = k ∧ o.entry = e) ∧
      Journal.CallsBegun false s.2 := by
  obtain ⟨objs, htold, hlog⟩ := h.told
  have hadds := hlog.adds
  refine ⟨objs, hlog, fun o ho => ⟨hadds.formed o ho, hadds.recorded o ho, htold.current o ho⟩, ?_,
    htold.distinct, fun k e hk => ?_, hadds.calls false⟩
  · refine (List.pairwise_map.1 hadds.distinct).imp_of_mem fun ho ho' hne => ?_
    exact (hadds.recorded _ ho).disjoint_places (hadds.recorded _ ho') hne
  · rcases hk with hlive | hstored
    · exact htold.known k e hlive
    · exact hadds.stored k e hstored

/-- Two objects with two interceptors, one of which proceeds twice: each factory runs once for each
    object, and every routine that is intercepted runs twice. -/
theorem one_crew_for_life_twice :
    ∃ (c : Container Host.numbers.journaled) (s : Host.numbers.journaled.World),
      Ran Listener.silent c s ∧
      s.1 = ([4, 2, 5, 5, 6, 6] ++ [7, 7] ++ [8, 8] ++ [4, 2, 5, 5, 6, 6] : List Nat) ∧
      ∃ objs : List (Object Host.numbers.journaled), Chronicle objs s.2 ∧
        (∃ o ∈ objs, o.handle = ⟨0⟩ ∧ o.Recorded s.2) ∧
        ∃ o ∈ objs, o.handle = ⟨1⟩ ∧ o.Recorded s.2 := by
  let d : Definition Host.numbers.journaled :=
    { component := .guarded 5 "Guarded" [.everywhere "audit" 4, .everywhere "twice" 2] }
  let p : Proxy Host.numbers.journaled.toVocabulary Host.numbers.journaled.Ref :=
    ⟨"Guarded", .plain (5 : Nat), Table.ofList [("audit", (4 : Nat)), ("twice", (2 : Nat))],
      d.businessMethods⟩
  let e : Stored Host.numbers.journaled.toVocabulary := ⟨⟨5⟩, .intercepted p, []⟩
  have hempty : Ran (Listener.silent : Listener Host.numbers) _ _ := .empty {} rfl ([] : List Nat)
  have hregistered := hempty.register (d := d) rfl rfl
  have hcreated := hregistered.create (.type ⟨5⟩)
  have hinvoked := hcreated.invoke
    (⟨⟨0⟩, e, d.settled, List.mem_of_getElem? (i := 15) (by cbv), rfl, by cbv, by cbv⟩ :
      Obtained _ _ p) "run" []
  have hdestroyed := hinvoked.destroy ⟨0⟩
  have hagain := hdestroyed.create (.type ⟨5⟩)
  obtain ⟨objs, hlog, hobjs, -, -, hall, -⟩ := one_crew_for_life hagain
  obtain ⟨o, ho, hhandle, -⟩ := hall ⟨0⟩ e (Or.inr (List.mem_of_getElem? (i := 15) (by cbv)))
  obtain ⟨o', ho', hhandle', -⟩ := hall ⟨1⟩ e (Or.inl (by cbv))
  exact ⟨_, _, hagain, by cbv, objs, hlog, ⟨o, ho, hhandle, (hobjs o ho).2.1⟩,
    o', ho', hhandle', (hobjs o' ho').2.1⟩

end Container

end Wiring
