/-
  The live interceptors that are made for an object before the object itself.

  All chains of the component are gone through: that around the constructor first, then those of the
  two lifecycle phases, then those of the business methods.  In which order the business methods are
  visited is not known; so `interceptorsIn visited` visits them in any order, and `interceptors` is
  one case of it.

  1. `d.Occurs chains name` says that some chain has an interceptor of this name.  It does not
     mention an order.
  2. Factories are tried one after the other, each for a name that was not tried before, and the
     first interceptor that carries the name is the one (`Recruitment.exists_tried`).
  3. A failure ends it; otherwise what was tried is the result, and its names are those that occur.
-/
import Mathlib
import Wiring.Proofs.Definition.Crew
import Wiring.Proofs.Definition.Enclosure

namespace Wiring

/-! ## What was tried -/

namespace Interceptor

variable {ρ : Type}

/-- The names that are left come in the order of their first interceptors. -/
theorem names_distinct (chain : List (Interceptor ρ)) :
    (distinct chain).map (·.name) = (chain.map (·.name)).eraseDups :=
  map_eraseDupsBy (fun i : Interceptor ρ => i.name) chain

/-- The interceptor that is left of those with one name is the first. -/
theorem mem_distinct_iff {chain : List (Interceptor ρ)} {i : Interceptor ρ} :
    i ∈ distinct chain ↔ chain.find? (fun j => j.name = i.name) = some i :=
  mem_eraseDupsBy_iff fun i : Interceptor ρ => i.name

end Interceptor

variable {V : Vocabulary}

/-- `making outer its` — the factories of `outer` were tried, and made `its`. -/
def making (outer : List (Interceptor V.Routine)) (its : List V.Live) :
    List (Interceptor V.Routine × Except Failure V.Live) :=
  (outer.zip its).map fun x => (x.1, .ok x.2)

theorem map_fst_making {outer : List (Interceptor V.Routine)} {its : List V.Live}
    (hlength : its.length = outer.length) : (making outer its).map Prod.fst = outer := by
  rw [making, List.map_map]
  exact List.map_fst_zip hlength.ge

theorem map_made_making (outer : List (Interceptor V.Routine)) (its : List V.Live) :
    (making outer its).map (fun x => .made x.1.maker x.2) =
      List.zipWith (fun i it => (.made i.maker (.ok it) : Event V)) outer its := by
  rw [making, List.map_map, ← List.map_uncurry_zip_eq_zipWith]
  rfl

theorem isOk_of_mem_making {outer : List (Interceptor V.Routine)} {its : List V.Live} :
    ∀ x ∈ making outer its, x.2.isOk = true := by
  intro x hx
  obtain ⟨_, -, rfl⟩ := List.mem_map.1 hx
  rfl

/-- What was recruited is what was tried, under the names of the interceptors. -/
theorem Recruits.entries_eq {chain : List (Interceptor V.Routine)} {live : Table String V.Live}
    {calls : Journal V} (h : Recruits chain live calls) :
    live.entries.map (fun e => (e.1, Except.ok e.2)) =
      (making (Interceptor.distinct chain) live.values).map fun x => (x.1.name, x.2) := by
  have hentries : live.entries = (live.keys).zip live.values := by
    rw [Table.keys, Table.values, List.zip_map']
    exact (List.map_id _).symm
  conv_lhs => rw [hentries, h.names, List.zip_map_left, List.map_map]
  rw [making, List.map_map]
  rfl

/-- Factories are tried for the distinct names of a chain, as far as the first that fails. -/
theorem Recruitment.exists_tried {chain : List (Interceptor V.Routine)}
    {outcome : Except Failure (Table String V.Live)} {calls : Journal V}
    (h : Recruitment chain outcome calls) :
    ∃ tried : List (Interceptor V.Routine × Except Failure V.Live),
      calls = tried.map (fun x => .made x.1.maker x.2) ∧
      tried.map Prod.fst <+: Interceptor.distinct chain ∧
      (∀ g, outcome = .error g → ∃ before i f, tried = before ++ [(i, .error f)] ∧
        g = .interceptorCreation i.name f ∧ ∀ x ∈ before, x.2.isOk = true) ∧
      ∀ live, outcome = .ok live →
        live.entries.map (fun e => (e.1, Except.ok e.2)) = tried.map fun x => (x.1.name, x.2) := by
  cases h with
  | @whole live calls h =>
    refine ⟨making (Interceptor.distinct chain) live.values, ?_, ?_, nofun, ?_⟩
    · rw [map_made_making, h.calls]
    · rw [map_fst_making h.length_values]
    · rintro _ ⟨⟩
      exact h.entries_eq
  | @stopped outer rest i its f hfirsts hlength =>
    refine ⟨making outer its ++ [(i, .error f)], ?_, ?_, ?_, nofun⟩
    · rw [List.map_append, map_made_making]
      rfl
    · rw [List.map_append, map_fst_making hlength, hfirsts]
      exact ⟨rest, by simp⟩
    · rintro _ ⟨⟩
      exact ⟨_, i, f, rfl, rfl, isOk_of_mem_making⟩

/-! ## Business methods visited in any order -/

variable {host : Host}

namespace Definition

/-- `d.crewIn visited chains` — the interceptors of all chains of `d`, with the business methods in the
    order of `visited`. -/
def crewIn (d : Definition host) (visited : List (Guarded host.Routine))
    (chains : LifecycleChains host.Routine) : List (Interceptor host.Routine) :=
  d.constructionChain ++ chains.postConstruct ++ chains.preDestroy ++ visited.flatMap (·.chain)

/-- `interceptorsIn visited` — one live interceptor per name occurring in any chain, where the business
    methods are visited in the order of `visited`. -/
def interceptorsIn (visited : List (Guarded host.Routine)) :
    Effect (Definition host × host.World) host.LiveSet := do
  let chains ← Effect.onLayer lifecycleChains
  let d := (← get).1
  Effect.onWorld <| recruit (d.crewIn visited chains) ∅

/-- `d.Occurs chains name` — an interceptor called `name` is in some chain of `d`. -/
def Occurs (d : Definition host) (chains : LifecycleChains host.Routine) (name : String) : Prop :=
  name ∈ d.constructionChain.map (·.name) ∨ name ∈ chains.postConstruct.map (·.name) ∨
    name ∈ chains.preDestroy.map (·.name) ∨
    ∃ method ∈ d.component.business,
      name ∈ (d.component.invocationChain method.member.name).map (·.name)

theorem Later.crewIn_eq {d d' : Definition host} (h : Later d d')
    (visited : List (Guarded host.Routine)) (chains : LifecycleChains host.Routine) :
    d'.crewIn visited chains = d.crewIn visited chains := by
  rw [crewIn, crewIn, h.constructionChain_selected]

theorem interceptorsIn_apply (d : Definition host) (visited : List (Guarded host.Routine))
    (w : host.World) :
    interceptorsIn visited (d, w) = match d.chains with
      | .ok chains => ((recruit (d.crewIn visited chains) ∅ w).1, d.settled,
          (recruit (d.crewIn visited chains) ∅ w).2)
      | .error f => (.error f, d.settled, w) := by
  rw [interceptorsIn, Effect.bind_apply, Effect.onLayer_apply, lifecycleChains_apply]
  cases hchains : d.chains with
  | error f => rfl
  | ok chains =>
    dsimp only
    rw [← (Later.settled d).crewIn_eq visited chains]
    rfl

/-- The names do not depend on the order in which the business methods are visited. -/
theorem mem_crewIn_iff {d : Definition host} {visited : List (Guarded host.Routine)}
    (hvisited : visited.Perm d.businessMethods.values) (chains : LifecycleChains host.Routine)
    (name : String) : name ∈ (d.crewIn visited chains).map (·.name) ↔ d.Occurs chains name := by
  have hbusiness : name ∈ (visited.flatMap (·.chain)).map (·.name) ↔
      ∃ method ∈ d.component.business,
        name ∈ (d.component.invocationChain method.member.name).map (·.name) := by
    rw [← d.exists_businessMethods_iff (P := fun chain => name ∈ chain.map (·.name)),
      List.map_flatMap, List.mem_flatMap]
    exact exists_congr fun g => and_congr_left fun _ => hvisited.mem_iff
  rw [crewIn, Occurs, List.map_append, List.map_append, List.map_append, List.mem_append,
    List.mem_append, List.mem_append, hbusiness, or_assoc, or_assoc]

/-- **The live interceptors of an object are made first come, first served.**  Let the business methods
    of `d` be visited in any order.
    1. `interceptors` is the case of the order in which they are declared.
    2. If the lifecycle chains cannot be resolved, that is the failure, and no factory is called.
    3. Otherwise factories are tried one after the other: for no name twice, in the order in which
       the names come up around the constructor, after construction, before destruction and around
       the business methods, and of the interceptors with one name the one that comes first.
    4. If a factory fails, it is the last that is called, and the failure names its interceptor.
    5. Otherwise what was made stands under the names of the interceptors.  These are all the names
       that occur in a chain, and no others, so they are the same whatever the order was. -/
theorem interceptors_first_come (d : Definition host.journaled)
    {visited : List (Guarded host.journaled.Routine)}
    (hvisited : visited.Perm d.businessMethods.values) (s : host.journaled.World) :
    interceptors (d, s) = interceptorsIn d.businessMethods.values (d, s) ∧
    let run := interceptorsIn visited (d, s)
    (∀ f, d.chains = .error f → run = (.error f, d.settled, s)) ∧
    ∀ chains, d.chains = .ok chains →
      let crew := d.constructionChain ++ chains.postConstruct ++ chains.preDestroy ++
        visited.flatMap (·.chain)
      ∃ tried : List (Interceptor host.journaled.Routine × Except Failure host.journaled.Live),
        run.2.1 = d.settled ∧ run.2.2.2 = s.2 ++ tried.map (fun x => .made x.1.maker x.2) ∧
        (tried.map (·.1.name)).Nodup ∧ tried.map (·.1.name) <+: (crew.map (·.name)).eraseDups ∧
        (∀ x ∈ tried, crew.find? (fun i => i.name = x.1.name) = some x.1) ∧
        (∀ g, run.1 = .error g → ∃ before i f, tried = before ++ [(i, .error f)] ∧
          g = .interceptorCreation i.name f ∧ ∀ x ∈ before, x.2.isOk = true) ∧
        ∀ live, run.1 = .ok live →
          live.entries.map (fun e => (e.1, Except.ok e.2)) = tried.map (fun x => (x.1.name, x.2)) ∧
          (∀ name, name ∈ live.keys ↔ d.Occurs chains name) ∧
          ∀ (visited' : List (Guarded host.journaled.Routine)) (s' : host.journaled.World)
            (live' : host.journaled.LiveSet), visited'.Perm d.businessMethods.values →
            (interceptorsIn visited' (d, s')).1 = .ok live' →
              ∀ name, name ∈ live'.keys ↔ name ∈ live.keys := by
  -- a success has all names, in whatever order the business methods were visited
  have hnames : ∀ {chains}, d.chains = .ok chains →
      ∀ {visited : List (Guarded host.journaled.Routine)} {s : host.journaled.World}
        {live : host.journaled.LiveSet}, visited.Perm d.businessMethods.values →
        (interceptorsIn visited (d, s)).1 = .ok live →
          ∀ name, name ∈ live.keys ↔ d.Occurs chains name := by
    intro chains hchains visited s live hvisited hok name
    obtain ⟨calls, -, hcourse⟩ := recruit_empty (d.crewIn visited chains) s
    rw [interceptorsIn_apply, hchains] at hok
    have hok : (recruit (d.crewIn visited chains) ∅ s).1 = .ok live := hok
    rw [hok] at hcourse
    cases hcourse with
    | whole h =>
      rw [← mem_crewIn_iff hvisited chains name, h.names, Interceptor.names_distinct,
        List.mem_eraseDups]
  refine ⟨?_, fun f hf => ?_, ?_⟩
  · rw [interceptors_apply, interceptorsIn_apply]
    rfl
  · rw [interceptorsIn_apply, hf]
  · intro chains hchains crew
    obtain ⟨calls, hlog, hcourse⟩ := recruit_empty crew s
    obtain ⟨tried, hcalls, hbegins, herror, hok⟩ := hcourse.exists_tried
    have hrun : interceptorsIn visited (d, s) =
        ((recruit crew ∅ s).1, d.settled, (recruit crew ∅ s).2) := by
      rw [interceptorsIn_apply, hchains]
      rfl
    rw [hrun]
    have hdistinct : tried.map (·.1.name) <+: (Interceptor.distinct crew).map (·.name) := by
      have hmap := hbegins.map (·.name)
      rwa [List.map_map] at hmap
    refine ⟨tried, rfl, hlog.trans (congrArg (s.2 ++ ·) hcalls), ?_, ?_, fun x hx => ?_, herror,
      fun live hlive => ?_⟩
    · exact (nodup_map_eraseDupsBy (fun i : Interceptor _ => i.name) crew).sublist hdistinct.sublist
    · rwa [← Interceptor.names_distinct]
    · exact (Interceptor.mem_distinct_iff).1 (hbegins.subset (List.mem_map_of_mem hx))
    · have hlive' : (interceptorsIn visited (d, s)).1 = .ok live := by rw [hrun]; exact hlive
      refine ⟨hok live hlive, hnames hchains hvisited hlive', ?_⟩
      intro visited' s' live' hperm hrun' name
      rw [hnames hchains hperm hrun', hnames hchains hvisited hlive']

/-- Two business methods, of which the one declared last is visited first: of the two interceptors
    called log, that of this method is made, and of the two called audit, that of the class. -/
theorem interceptors_first_come_reversed :
    let d : Definition Host.numbers.journaled :=
      { component := { Component.numbered 7 "P" [] [] with
          business := [⟨⟨"P", "run"⟩, (5 : Nat)⟩, ⟨⟨"P", "stop"⟩, (6 : Nat)⟩]
          declarations := some {
            environment := [.everywhere "audit" 4]
            constructorBinding := [.everywhere "trace" 8]
            business := Table.ofList [
              ("run", ⟨[.everywhere "log" 14, .everywhere "audit" 24], []⟩),
              ("stop", ⟨[.everywhere "log" 34], []⟩)] } } }
    let visited := d.businessMethods.values.reverse
    let made : Journal Host.numbers.toVocabulary :=
      [.made (8 : Nat) (.ok (8 : Nat)), .made (4 : Nat) (.ok (4 : Nat)),
        .made (34 : Nat) (.ok (34 : Nat))]
    visited.Perm d.businessMethods.values ∧ (interceptorsIn visited (d, [], [])).2.2.2 = made ∧
      ∃ tried : List (Interceptor Nat × Except Failure Nat),
        made = tried.map (fun x => .made x.1.maker x.2) ∧ (tried.map (·.1.name)).Nodup := by
  intro d visited made
  have hvisited : visited.Perm d.businessMethods.values := List.reverse_perm _
  have hmade : (interceptorsIn visited (d, [], [])).2.2.2 = made := by
    dsimp only [visited, d, made]
    cbv
  have hchains : d.chains = .ok ⟨[.everywhere "audit" 4], [.everywhere "audit" 4]⟩ := rfl
  obtain ⟨tried, -, hlog, hnodup, -⟩ :=
    (interceptors_first_come d hvisited ([], [])).2.2 _ hchains
  exact ⟨hvisited, hmade, tried, hmade.symm.trans hlog, hnodup⟩

end Definition

end Wiring
