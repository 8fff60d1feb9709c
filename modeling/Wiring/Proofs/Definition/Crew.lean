/-
  The crew of an object: its live interceptors.

  1. `d.crew chains` lists all interceptors that may ever be entered for an object of `d`: around its
     construction, around the two lifecycle phases, around its business methods.
  2. `Recruits chain live calls` — `calls` are the calls of interceptor factories that made `live`:
     one for each name in `chain`, in the order in which the names first occur.
  3. What `interceptors` makes covers the crew, so whatever runs with it later on makes no live
     interceptor, and what is run around is written down as `Served`.
-/
import Wiring.Definition.Instance
import Wiring.Definition.Lifecycle
import Wiring.Proofs.Definition.Later
import Wiring.Proofs.Distinct
import Wiring.Proofs.Invocation.Served

namespace Wiring

/-! ## One factory call for each name -/

namespace Interceptor

variable {ρ : Type}

/-- `distinct chain` — of the interceptors with one name, the first. -/
def distinct (chain : List (Interceptor ρ)) : List (Interceptor ρ) :=
  chain.eraseDupsBy fun i j => i.name = j.name

theorem exists_mem_distinct {chain : List (Interceptor ρ)} {i : Interceptor ρ} (h : i ∈ chain) :
    ∃ j ∈ distinct chain, j.name = i.name :=
  exists_mem_eraseDupsBy (fun i : Interceptor ρ => i.name) h

theorem distinct_cons (i : Interceptor ρ) (chain : List (Interceptor ρ)) :
    distinct (i :: chain) = i :: distinct (chain.filter fun j => decide (j.name ≠ i.name)) := by
  rw [distinct, List.eraseDupsBy_cons, distinct]
  congr 2
  refine List.filter_congr fun j _ => ?_
  by_cases h : j.name = i.name <;> simp [h]

end Interceptor

/-- `Recruits chain live calls` — for each name in `chain`, one interceptor factory was called, and
    what it made stands under this name in `live`. -/
structure Recruits {V : Vocabulary} (chain : List (Interceptor V.Routine))
    (live : Table String V.Live) (calls : Journal V) : Prop where
  names : live.keys = (Interceptor.distinct chain).map (·.name)
  calls : calls = List.zipWith (fun i it => .made i.maker (.ok it))
    (Interceptor.distinct chain) live.values

/-- `Recruitment chain outcome calls` — what comes of making a live interceptor for each name in
    `chain`, and the factory calls on the way. -/
inductive Recruitment {V : Vocabulary} (chain : List (Interceptor V.Routine)) :
    Except Failure (Table String V.Live) → Journal V → Prop where
  | whole {live calls} (h : Recruits chain live calls) : Recruitment chain (.ok live) calls
  /-- A factory fails, and those behind it are not called. -/
  | stopped {outer rest i its f} (hfirsts : Interceptor.distinct chain = outer ++ i :: rest)
    (hlength : its.length = outer.length) :
    Recruitment chain (.error (.interceptorCreation i.name f))
      (List.zipWith (fun i it => .made i.maker (.ok it)) outer its ++ [.made i.maker (.error f)])

/-- `Calls chain calls` — all of `calls` are calls of interceptor factories for `chain`. -/
def Calls {V : Vocabulary} (chain : List (Interceptor V.Routine)) (calls : Journal V) : Prop :=
  ∀ e ∈ calls, ∃ i ∈ chain, ∃ outcome, e = .made i.maker outcome

theorem Recruits.length_values {V : Vocabulary} {chain : List (Interceptor V.Routine)}
    {live : Table String V.Live} {calls : Journal V} (h : Recruits chain live calls) :
    live.values.length = (Interceptor.distinct chain).length := by
  rw [Table.values, List.length_map, ← List.length_map (f := Prod.fst)]
  show live.keys.length = _
  rw [h.names, List.length_map]

theorem Recruits.covers {V : Vocabulary} {chain : List (Interceptor V.Routine)}
    {live : Table String V.Live} {calls : Journal V} (h : Recruits chain live calls) :
    Covers live chain := by
  intro i hi
  obtain ⟨j, hj, hname⟩ := Interceptor.exists_mem_distinct hi
  cases hget : live.get? i.name with
  | some it => exact ⟨it, rfl⟩
  | none =>
    refine absurd ?_ (Table.get?_eq_none_iff.1 hget)
    rw [h.names, ← hname]
    exact List.mem_map_of_mem hj

/-- Of the interceptors with one name only the first is ever asked for. -/
theorem Interceptor.mem_of_mem_distinct {ρ : Type} {chain : List (Interceptor ρ)}
    {i : Interceptor ρ} (h : i ∈ distinct chain) : i ∈ chain :=
  mem_of_mem_eraseDupsBy (fun i : Interceptor ρ => i.name) h

/-- Whatever comes of it, the factories that are called are those of the chain. -/
theorem Recruitment.calls {V : Vocabulary} {chain : List (Interceptor V.Routine)}
    {outcome : Except Failure (Table String V.Live)} {calls : Journal V}
    (h : Recruitment chain outcome calls) : Calls chain calls := by
  have hmaking : ∀ {outer : List (Interceptor V.Routine)} {its : List V.Live},
      (∀ i ∈ outer, i ∈ chain) → Calls chain
        (List.zipWith (fun i it => .made i.maker (.ok it)) outer its) := by
    intro outer its houter e he
    rw [← List.map_uncurry_zip_eq_zipWith, List.mem_map] at he
    obtain ⟨x, hx, rfl⟩ := he
    exact ⟨x.1, houter x.1 (List.of_mem_zip hx).1, _, rfl⟩
  cases h with
  | whole h =>
    rw [h.calls]
    exact hmaking fun _ => Interceptor.mem_of_mem_distinct
  | @stopped outer rest i its f hfirsts hlength =>
    have hmem : ∀ j, j ∈ outer ++ i :: rest → j ∈ chain := fun j hj =>
      Interceptor.mem_of_mem_distinct (hfirsts ▸ hj)
    refine List.forall_mem_append.2 ⟨hmaking fun j hj => hmem j (List.mem_append_left _ hj), ?_⟩
    exact List.forall_mem_singleton.2
      ⟨i, hmem i (List.mem_append_right _ List.mem_cons_self), _, rfl⟩

theorem Recruits.made {V : Vocabulary} {chain : List (Interceptor V.Routine)}
    {live : Table String V.Live} {calls : Journal V} (h : Recruits chain live calls) :
    ∀ e ∈ calls, ∃ r outcome, e = .made r outcome := by
  intro e he
  obtain ⟨i, -, outcome, heq⟩ := Recruitment.calls (.whole h) e he
  exact ⟨i.maker, outcome, heq⟩

theorem Recruits.length_calls {V : Vocabulary} {chain : List (Interceptor V.Routine)}
    {live : Table String V.Live} {calls : Journal V} (h : Recruits chain live calls) :
    calls.length = (Interceptor.distinct chain).length := by
  rw [h.calls, List.length_zipWith, h.length_values, Nat.min_self]

namespace Definition

variable {host : Host}

/-- The interceptors of `chain` whose names are not enlisted yet. -/
def wanting (enlisted : host.LiveSet) (chain : List (Interceptor host.Routine)) :
    List (Interceptor host.Routine) :=
  chain.filter fun i => !enlisted.contains i.name

theorem wanting_insert (enlisted : host.LiveSet) (name : String) (it : host.Live)
    (chain : List (Interceptor host.Routine)) :
    wanting (enlisted.insert name it) chain =
      (wanting enlisted chain).filter fun j => decide (j.name ≠ name) := by
  rw [wanting, wanting, List.filter_filter]
  refine List.filter_congr fun j _ => ?_
  rw [Table.contains, Table.contains, Table.get?_insert]
  by_cases h : j.name = name <;> simp [h]

theorem recruit_cons {i : Interceptor host.Routine} {rest : List (Interceptor host.Routine)}
    {enlisted : host.LiveSet} (h : ¬ enlisted.contains i.name) (w : host.World) :
    recruit (i :: rest) enlisted w = match host.make i.maker w with
      | (.ok it, w') => recruit rest (enlisted.insert i.name it) w'
      | (.error f, w') => (.error (.interceptorCreation i.name f), w') := by
  rw [recruit, if_neg h, Effect.bind_apply, Host.enlist, Effect.blaming_apply]
  rcases host.make i.maker w with ⟨_ | _, _⟩ <;> rfl

/-- The factories are called for what is wanting, one call for each name, up to the first that
    fails. -/
theorem recruit_course (chain : List (Interceptor host.journaled.Routine)) :
    ∀ (enlisted : host.journaled.LiveSet) (s : host.journaled.World),
      let firsts := Interceptor.distinct (wanting enlisted chain)
      let making := List.zipWith fun (i : Interceptor host.journaled.Routine) it =>
        (.made i.maker (.ok it) : Event host.toVocabulary)
      let run := recruit chain enlisted s
      (∃ (its : List host.journaled.Live) (live : host.journaled.LiveSet),
        its.length = firsts.length ∧
        live.entries = enlisted.entries ++ (firsts.map (·.name)).zip its ∧
        run.1 = .ok live ∧ run.2.2 = s.2 ++ making firsts its) ∨
      ∃ (outer rest : List (Interceptor host.journaled.Routine))
        (i : Interceptor host.journaled.Routine) (its : List host.journaled.Live) (f : Failure),
        firsts = outer ++ i :: rest ∧ its.length = outer.length ∧ run.1 = .error (.interceptorCreation i.name f) ∧
        run.2.2 = s.2 ++ (making outer its ++ [.made i.maker (.error f)]) := by
  induction chain with
  | nil =>
    exact fun enlisted s => Or.inl
      ⟨[], enlisted, rfl, (List.append_nil _).symm, rfl, (List.append_nil _).symm⟩
  | cons i rest ih =>
    intro enlisted s
    by_cases hknown : enlisted.contains i.name
    · have hwanting : wanting enlisted (i :: rest) = wanting enlisted rest :=
        List.filter_cons_of_neg (by simp [hknown])
      rw [recruit, if_pos hknown, hwanting]
      exact ih enlisted s
    · have hnew : i.name ∉ enlisted.keys := fun hmem => hknown (Table.contains_iff.2 hmem)
      have hwanting : ∀ it, Interceptor.distinct (wanting enlisted (i :: rest)) =
          i :: Interceptor.distinct (wanting (enlisted.insert i.name it) rest) := by
        intro it
        rw [wanting_insert, wanting, List.filter_cons_of_pos (by simp [hknown]),
          Interceptor.distinct_cons, ← wanting]
      -- whatever comes of the call, it is written down first
      have hmake : (host.journaled.make i.maker s).2.2 =
          s.2 ++ [.made i.maker (host.journaled.make i.maker s).1] := rfl
      rw [recruit_cons hknown]
      rcases hr : host.journaled.make i.maker s with ⟨f | it, u⟩
      · rw [hr] at hmake
        obtain ⟨rest', hfirsts⟩ : ∃ rest', Interceptor.distinct (wanting enlisted (i :: rest)) =
            i :: rest' := by
          rw [wanting, List.filter_cons_of_pos (by simp [hknown]), Interceptor.distinct_cons]
          exact ⟨_, rfl⟩
        exact Or.inr ⟨[], rest', i, [], f, hfirsts, rfl, rfl, hmake⟩
      · rw [hr] at hmake
        have hmake : u.2 = s.2 ++ [.made i.maker (.ok it)] := hmake
        dsimp only
        rw [hwanting it]
        rcases ih (enlisted.insert i.name it) u with
          ⟨its, live, hlength, hentries, hok, hlog⟩ |
          ⟨outer, last, j, its, f, hfirsts, hlength, herror, hlog⟩
        · refine Or.inl ⟨it :: its, live, congrArg Nat.succ hlength, ?_, hok, ?_⟩
          · rw [hentries, Table.entries_insert_of_not_mem hnew, List.map_cons, List.zip_cons_cons,
              List.append_assoc, List.singleton_append]
          · rw [hlog, hmake, List.append_assoc]
            rfl
        · refine Or.inr ⟨i :: outer, last, j, it :: its, f, ?_, congrArg Nat.succ hlength, herror, ?_⟩
          · rw [hfirsts, List.cons_append]
          · rw [hlog, hmake, List.append_assoc]
            rfl

/-- Starting with nobody, the whole chain is recruited, or as much of it as could be. -/
theorem recruit_empty (chain : List (Interceptor host.journaled.Routine))
    (s : host.journaled.World) :
    ∃ calls : Journal host.toVocabulary, (recruit chain ∅ s).2.2 = s.2 ++ calls ∧
      Recruitment chain (recruit chain ∅ s).1 calls := by
  have hall : wanting (∅ : host.journaled.LiveSet) chain = chain :=
    List.filter_eq_self.2 fun _ _ => rfl
  have hcourse := recruit_course chain ∅ s
  dsimp only at hcourse
  rw [hall] at hcourse
  rcases hcourse with ⟨its, live, hlength, hentries, hok, hlog⟩ |
    ⟨outer, rest, i, its, f, hfirsts, hlength, herror, hlog⟩
  · have hentries : live.entries = ((Interceptor.distinct chain).map (·.name)).zip its := hentries
    have hvalues : live.values = its := by
      rw [Table.values, hentries]
      exact List.map_snd_zip (by rw [List.length_map]; omega)
    refine ⟨_, hlog, ?_⟩
    rw [hok]
    refine .whole ⟨?_, by rw [hvalues]; rfl⟩
    rw [Table.keys, hentries]
    exact List.map_fst_zip (by rw [List.length_map]; omega)
  · refine ⟨_, hlog, ?_⟩
    rw [herror]
    exact .stopped hfirsts hlength

/-! ## The crew of a definition -/

/-- `d.crew chains` — the interceptors of all chains of `d`: of construction first, then those of
    the two lifecycle phases, which are `chains`, then those of the business methods. -/
def crew (d : Definition host) (chains : LifecycleChains host.Routine) :
    List (Interceptor host.Routine) :=
  d.constructionChain ++ chains.postConstruct ++ chains.preDestroy ++
    d.businessMethods.values.flatMap (·.chain)

theorem Later.constructionChain_eq {d d' : Definition host} (h : Later d d')
    (k : Constructor host.Routine) :
    d'.component.constructionChain k = d.component.constructionChain k := by
  rcases h with rfl | rfl
  · rfl
  · rw [Definition.settled, lifecycleChains]
    split
    · rfl
    · exact d.component.constructionChain_takeLifecycle k

theorem Later.businessMethods_eq {d d' : Definition host} (h : Later d d') :
    d'.businessMethods = d.businessMethods := by
  have hchain : ∀ name, d'.component.invocationChain name = d.component.invocationChain name := by
    intro name
    rcases h with rfl | rfl
    · rfl
    · rw [Definition.settled, lifecycleChains]
      split
      · rfl
      · exact d.component.invocationChain_takeLifecycle name
  have hbusiness : d'.component.business = d.component.business := by rw [h.component_eq]
  rw [businessMethods, businessMethods, hbusiness]
  congr 1
  exact List.map_congr_left fun method _ => by rw [hchain]

theorem Later.constructionChain_selected {d d' : Definition host} (h : Later d d') :
    d'.constructionChain = d.constructionChain := by
  rw [constructionChain, constructionChain, h.constructor_eq]
  cases d.component.constructor with
  | none => rfl
  | some k => exact h.constructionChain_eq k

theorem Later.crew_eq {d d' : Definition host} (h : Later d d')
    (chains : LifecycleChains host.Routine) : d'.crew chains = d.crew chains := by
  rw [crew, crew, h.constructionChain_selected, h.businessMethods_eq]

theorem Later.wanted_eq {d d' : Definition host} (h : Later d d')
    (chains : LifecycleChains host.Routine) : d'.wanted chains = d.wanted chains := by
  rw [wanted, wanted, h.businessMethods_eq]

/-- The chains of a definition are parts of its crew. -/
theorem mem_crew_of_constructionChain {d : Definition host}
    {chains : LifecycleChains host.Routine} {k : Constructor host.Routine}
    (hk : d.component.constructor = some k) {i : Interceptor host.Routine}
    (hi : i ∈ d.component.constructionChain k) : i ∈ d.crew chains := by
  have hmem : i ∈ d.constructionChain := by rwa [constructionChain, hk]
  exact List.mem_append_left _ (List.mem_append_left _ (List.mem_append_left _ hmem))

theorem mem_crew_of_forPhase {d : Definition host} {chains : LifecycleChains host.Routine}
    {phase : Phase} {i : Interceptor host.Routine} (hi : i ∈ chains.forPhase phase) :
    i ∈ d.crew chains := by
  cases phase with
  | postConstruct =>
    exact List.mem_append_left _ (List.mem_append_left _ (List.mem_append_right _ hi))
  | preDestroy => exact List.mem_append_left _ (List.mem_append_right _ hi)
  | aroundConstruct => cases hi
  | aroundInvoke => cases hi

theorem mem_crew_of_businessMethods {d : Definition host} {chains : LifecycleChains host.Routine}
    {name : String} {g : Guarded host.Routine} (hg : d.businessMethods.get? name = some g)
    {i : Interceptor host.Routine} (hi : i ∈ g.chain) : i ∈ d.crew chains := by
  have hvalue : g ∈ d.businessMethods.values :=
    List.mem_map_of_mem (f := Prod.snd) (Table.mem_entries_of_get? hg)
  exact List.mem_append_right _ (List.mem_flatMap.2 ⟨g, hvalue, hi⟩)

/-- `d.Enlists calls chains live` — `calls` made `live`, the whole crew of `d` with the lifecycle
    chains `chains`. -/
def Enlists (d : Definition host) (calls : Journal host.toVocabulary)
    (chains : LifecycleChains host.Routine) (live : host.LiveSet) : Prop :=
  d.chains = .ok chains ∧ Recruits (d.crew chains) live calls

/-- `d.Tries calls` — all of `calls` are calls of interceptor factories for the crew of `d`. -/
def Tries (d : Definition host) (calls : Journal host.toVocabulary) : Prop :=
  ∀ e ∈ calls, ∃ chains, d.chains = .ok chains ∧ ∃ i ∈ d.crew chains, ∃ outcome,
    e = .made i.maker outcome

theorem interceptors_apply (d : Definition host) (w : host.World) :
    interceptors (d, w) = match d.chains with
      | .ok chains =>
        ((recruit (d.crew chains) ∅ w).1, d.settled, (recruit (d.crew chains) ∅ w).2)
      | .error f => (.error f, d.settled, w) := by
  rw [interceptors, Effect.bind_apply, Effect.onLayer_apply, lifecycleChains_apply]
  cases hchains : d.chains with
  | error f => rfl
  | ok chains =>
    show _ = ((recruit (d.crew chains) ∅ w).1, d.settled, (recruit (d.crew chains) ∅ w).2)
    rw [← (Later.settled d).crew_eq chains]
    rfl

theorem wrap_apply (d : Definition host) (made : host.Ref) (live : host.LiveSet) (w : host.World) :
    wrap made live (d, w) = match d.chains with
      | .ok chains => if d.wanted chains
        then
          let r := d.scheme.wrap d.name made live d.businessMethods w
          (.ok r.1, d.settled, r.2)
        else (.ok made, d.settled, w)
      | .error f => (.error f, d.settled, w) := by
  cases hchains : d.chains with
  | error f =>
    have hneeds : needsProxy d = (.error f, d.settled) := by
      rw [needsProxy_apply, hchains]
      rfl
    rw [wrap, Effect.bind_apply, Effect.onLayer_apply, hneeds]
  | ok chains =>
    have hlater := Later.settled d
    have hneeds : needsProxy d = (.ok (d.wanted chains), d.settled) := by
      rw [needsProxy_apply, hchains, ← hlater.wanted_eq chains]
      rfl
    rw [wrap, Effect.bind_apply, Effect.onLayer_apply, hneeds]
    dsimp only
    cases d.wanted chains with
    | false => rfl
    | true =>
      rw [← hlater.scheme_eq, ← hlater.name_eq, ← hlater.businessMethods_eq]
      rfl

/-- The interceptors of a definition are recruited for its whole crew, or as many as could be. -/
theorem interceptors_calls (d : Definition host.journaled) (s : host.journaled.World) :
    (interceptors (d, s)).2.1 = d.settled ∧
    ∃ calls : Journal host.toVocabulary, (interceptors (d, s)).2.2.2 = s.2 ++ calls ∧
      d.Tries calls ∧
      ∀ live, (interceptors (d, s)).1 = .ok live →
        ∃ chains, d.Enlists calls chains live := by
  rw [interceptors_apply]
  cases hchains : d.chains with
  | error f => exact ⟨rfl, [], (List.append_nil s.2).symm, nofun, nofun⟩
  | ok chains =>
    obtain ⟨calls, hlog, hcourse⟩ := recruit_empty (d.crew chains) s
    refine ⟨rfl, calls, hlog, fun e he => ⟨chains, hchains, hcourse.calls e he⟩, fun live h => ?_⟩
    have h : (recruit (d.crew chains) ∅ s).1 = .ok live := h
    rw [h] at hcourse
    cases hcourse with
    | whole hrecruits => exact ⟨chains, hchains, hrecruits⟩

end Definition

end Wiring
