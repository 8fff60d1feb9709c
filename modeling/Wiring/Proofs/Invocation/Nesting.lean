/-
  How interceptors nest.

  1. `Passes phase goal known chain seg` — `seg` records a pass through `chain`, where `known` tells
     the live interceptor under each name.  An interceptor is entered, made before if need be; the
     rest is passed through as often as it proceeds; and it is left.  An interceptor that could not
     be made is the end of the pass.  Every pass is like that (`run_passes`), whatever was supplied
     and whatever the interceptors do; `known` is what is known at its end.
  2. `Moment phase goal known chain active e` — what may happen with `active`: they are a beginning
     of the chain, and `e` brings in the next interceptor, or lets the innermost go; and the goal is
     only reached with the whole chain around it.
  3. Every moment of a pass is like that, and nobody is left active at its end (`Passes.observes`).
     The induction is on the chain: a pass through what is left of it, started with a beginning
     active, gives back that beginning.
-/
import Mathlib.Data.List.Forall2
import Wiring.Proofs.Invocation.Served
import Wiring.Proofs.Journal.Active

namespace Wiring

variable {V : Vocabulary}

/-! ## Passes and their moments -/

/-- `Passes phase goal known chain seg` — `seg` records a pass through `chain` towards `goal`. -/
def Passes (phase : Phase) (goal : Goal V) (known : String → Option V.Live) :
    List (Interceptor V.Routine) → Journal V → Prop
  | [], seg => ∀ e ∈ seg, goal.Writes e
  | i :: rest, seg =>
    (∃ it making inner outcome, known i.name = some it ∧
      (making = [] ∨ making = [.made i.maker (.ok it)]) ∧
      (∀ pass ∈ inner, Passes phase goal known rest pass) ∧
      seg = making ++ .entered it phase :: (List.flatten inner ++ [.left it phase outcome])) ∨
    ∃ f, seg = [.made i.maker (.error f)]

/-- `Stand known chain its` — `its` are the live interceptors of `chain`, in its order. -/
abbrev Stand (known : String → Option V.Live) (chain : List (Interceptor V.Routine))
    (its : List V.Live) : Prop :=
  List.Forall₂ (fun i it => known i.name = some it) chain its

/-- `e.Brings phase known i` — `e` brings in `i`: it is made, or it is entered. -/
def Event.Brings (phase : Phase) (known : String → Option V.Live) (i : Interceptor V.Routine) :
    Event V → Prop
  | .made r _ => r = i.maker
  | .entered it p => known i.name = some it ∧ p = phase
  | _ => False

/-- `Moment phase goal known chain active e` — `e` may happen while `active` are. -/
inductive Moment (phase : Phase) (goal : Goal V) (known : String → Option V.Live)
    (chain : List (Interceptor V.Routine)) : List V.Live → Event V → Prop where
  | next {outer i rest active e} (hchain : chain = outer ++ i :: rest)
    (hactive : Stand known outer active) (he : e.Brings phase known i) :
    Moment phase goal known chain active e
  | goal {active e} (hactive : Stand known chain active) (he : goal.Writes e) :
    Moment phase goal known chain active e
  | back {outer i rest active it outcome} (hchain : chain = outer ++ i :: rest)
    (hactive : Stand known outer active) (hit : known i.name = some it) :
    Moment phase goal known chain (active ++ [it]) (.left it phase outcome)

variable {phase : Phase} {goal : Goal V} {known known' : String → Option V.Live}
  {chain : List (Interceptor V.Routine)} {seg : Journal V}

/-- A pass stays one when more interceptors become known. -/
theorem Passes.mono (h : Passes phase goal known chain seg)
    (hle : ∀ {name it}, known name = some it → known' name = some it) :
    Passes phase goal known' chain seg := by
  induction chain generalizing seg with
  | nil => exact h
  | cons i rest ih =>
    rcases h with ⟨it, making, inner, outcome, hit, hmaking, hinner, rfl⟩ | ⟨f, rfl⟩
    · exact Or.inl ⟨it, making, inner, outcome, hle hit, hmaking,
        fun pass hpass => ih (hinner pass hpass), rfl⟩
    · exact Or.inr ⟨f, rfl⟩

/-- Without interceptors, the goal is all of the pass. -/
theorem Passes.of_writes {e : Event V} (h : goal.Writes e) : Passes phase goal known [] [e] :=
  List.forall_mem_singleton.2 h

/-- At every moment, those who are active are a beginning of the chain. -/
theorem Moment.prefix_active {active : List V.Live} {e : Event V}
    (h : Moment phase goal known chain active e) :
    ∃ outer, outer <+: chain ∧ Stand known outer active := by
  cases h with
  | next hchain hactive => exact ⟨_, ⟨_, hchain.symm⟩, hactive⟩
  | goal hactive => exact ⟨chain, List.prefix_rfl, hactive⟩
  | @back outer i rest active it outcome hchain hactive hit =>
    refine ⟨outer ++ [i], ⟨rest, ?_⟩, List.rel_append hactive (.cons hit .nil)⟩
    rw [hchain, List.append_assoc, List.singleton_append]

theorem Goal.Writes.activate {e : Event V} (h : goal.Writes e) (active : List V.Live) :
    e.activate active = active := by
  cases goal <;> cases e <;> first | rfl | cases h

/-- Of passes that each give back who was active, any number does. -/
theorem Journal.observes_flatten {P : List V.Live → Event V → Prop} {active : List V.Live}
    {segs : List (Journal V)}
    (h : ∀ seg ∈ segs, Journal.Observes P active seg ∧ Journal.activeAfter active seg = active) :
    Journal.Observes P active segs.flatten ∧
      Journal.activeAfter active segs.flatten = active := by
  induction segs with
  | nil => exact ⟨trivial, rfl⟩
  | cons seg segs ih =>
    obtain ⟨⟨hseg, hback⟩, hsegs⟩ := List.forall_mem_cons.1 h
    obtain ⟨hrest, hrestback⟩ := ih hsegs
    rw [List.flatten_cons, Journal.activeAfter_append, hback]
    exact ⟨hseg.append hback hrest, hrestback⟩

/-- A pass through what is left of a chain, with the beginning of the chain active all the time. -/
theorem Passes.observes_from {whole outer : List (Interceptor V.Routine)} {active : List V.Live}
    (h : Passes phase goal known chain seg) (hwhole : whole = outer ++ chain)
    (hactive : Stand known outer active) :
    Journal.Observes (fun its e => active <+: its ∧ Moment phase goal known whole its e) active seg ∧
      Journal.activeAfter active seg = active := by
  induction chain generalizing outer active seg with
  | nil =>
    rw [List.append_nil] at hwhole
    subst hwhole
    rw [Passes] at h
    induction seg with
    | nil => exact ⟨trivial, rfl⟩
    | cons e seg ih =>
      obtain ⟨he, hseg⟩ := List.forall_mem_cons.1 h
      obtain ⟨hobserves, hback⟩ := ih hseg
      rw [Journal.Observes, Journal.activeAfter, List.foldl_cons, he.activate active]
      exact ⟨⟨⟨List.prefix_rfl, .goal hactive he⟩, hobserves⟩, hback⟩
  | cons i rest ih =>
    have hnext : ∀ e : Event V, e.Brings phase known i →
        active <+: active ∧ Moment phase goal known whole active e := fun e he =>
      ⟨List.prefix_rfl, .next hwhole hactive he⟩
    rcases h with ⟨it, making, inner, outcome, hit, hmaking, hinner, rfl⟩ | ⟨f, rfl⟩
    · have hmade : Journal.Observes (fun its e => active <+: its ∧ Moment phase goal known whole its e)
          active making ∧ Journal.activeAfter active making = active := by
        rcases hmaking with rfl | rfl
        · exact ⟨trivial, rfl⟩
        · exact ⟨⟨hnext _ rfl, trivial⟩, rfl⟩
      -- inside the interceptor, the beginning that is active is longer by it
      have houter : whole = outer ++ [i] ++ rest := by
        rw [hwhole, List.append_assoc, List.singleton_append]
      have hstand : Stand known (outer ++ [i]) (active ++ [it]) :=
        List.rel_append hactive (.cons hit .nil)
      obtain ⟨hobserves, hback⟩ := Journal.observes_flatten fun pass hpass =>
        ih (hinner pass hpass) houter hstand
      have hlonger : active <+: active ++ [it] := List.prefix_append active [it]
      rw [Journal.observes_append, Journal.activeAfter_append, hmade.2]
      refine ⟨⟨hmade.1, hnext _ ⟨hit, rfl⟩, ?_⟩, ?_⟩
      · show Journal.Observes _ (active ++ [it]) _
        rw [Journal.observes_append, hback]
        exact ⟨hobserves.mono fun its e h => ⟨hlonger.trans h.1, h.2⟩,
          ⟨hlonger, .back hwhole hactive hit⟩, trivial⟩
      · show Journal.activeAfter (active ++ [it]) _ = active
        rw [Journal.activeAfter_append, hback]
        exact List.dropLast_concat
    · exact ⟨⟨hnext _ rfl, trivial⟩, rfl⟩

/-- Every moment of a pass is one, and at its end nobody is active. -/
theorem Passes.observes (h : Passes phase goal known chain seg) :
    Journal.Observes (Moment phase goal known chain) [] seg ∧ Journal.active seg = [] := by
  have hwhole : chain = [] ++ chain := rfl
  obtain ⟨hobserves, hback⟩ := h.observes_from hwhole .nil
  exact ⟨hobserves.mono fun _ _ h => h.2, hback⟩

/-- Every event of a pass is one. -/
theorem Passes.ofPass (h : Passes phase goal known chain seg) : ∀ e ∈ seg, e.OfPass phase goal := by
  intro e he
  obtain ⟨before, after, hsplit⟩ := List.append_of_mem he
  have hmoment := h.observes.1.moment hsplit
  generalize Journal.activeAfter [] before = active at hmoment
  cases hmoment with
  | goal _ hwrites => exact Or.inr (Or.inr (Or.inr hwrites))
  | back => exact Or.inr (Or.inr (Or.inl ⟨_, _, rfl⟩))
  | next _ _ hbrings =>
    cases e with
    | made r outcome => exact Or.inl ⟨r, outcome, rfl⟩
    | entered it p => exact Or.inr (Or.inl ⟨it, congrArg (Event.entered it) hbrings.2⟩)
    | _ => cases hbrings

/-- What is written down at the goal opens nothing and leaves those active who are. -/
theorem Goal.Writes.keeps (h : ∀ e ∈ seg, goal.Writes e) (active : List V.Live) :
    Journal.activeAfter active seg = active ∧ Journal.openingsFrom active seg = 0 := by
  induction seg with
  | nil => exact ⟨rfl, rfl⟩
  | cons e seg ih =>
    obtain ⟨he, hseg⟩ := List.forall_mem_cons.1 h
    have hopens : e.opens active = false := by
      cases goal <;> cases e <;> first | rfl | cases he
    rw [Journal.openingsFrom, Journal.activeAfter, List.foldl_cons, he.activate active, hopens]
    exact ⟨(ih hseg).1, by rw [(ih hseg).2]; rfl⟩

/-- At the goal, those who are active are so all the time. -/
theorem Goal.Writes.observes (h : ∀ e ∈ seg, goal.Writes e) (active : List V.Live) :
    Journal.Observes (fun its e => its = active ∧ goal.Writes e) active seg := by
  induction seg with
  | nil => trivial
  | cons e seg ih =>
    obtain ⟨he, hseg⟩ := List.forall_mem_cons.1 h
    rw [Journal.Observes, he.activate active]
    exact ⟨⟨rfl, he⟩, ih hseg⟩

/-- Once the first interceptor of a pass is entered, it stays active to the end of the pass: nobody
    is entered outside it. -/
theorem Passes.openings_le (h : Passes phase goal known chain seg) : Journal.openings seg ≤ 1 := by
  cases chain with
  | nil => exact Nat.le_trans (Nat.le_of_eq (Goal.Writes.keeps h []).2) (Nat.zero_le 1)
  | cons i rest =>
    rcases h with ⟨it, making, inner, outcome, hit, hmaking, hinner, rfl⟩ | ⟨f, rfl⟩
    · have hmade : Journal.openingsFrom ([] : List V.Live) making = 0 ∧
          Journal.activeAfter [] making = [] := by
        rcases hmaking with rfl | rfl <;> exact ⟨rfl, rfl⟩
      have hwhole : i :: rest = [i] ++ rest := rfl
      obtain ⟨hobserves, hback⟩ := Journal.observes_flatten fun pass hpass =>
        (hinner pass hpass).observes_from hwhole (.cons hit .nil)
      have hinside : Journal.openingsFrom [it] inner.flatten = 0 :=
        (hobserves.mono fun its _ h hnil => by
          rw [hnil, List.prefix_nil] at h
          cases h.1).openingsFrom_eq_zero
      rw [Journal.openings, Journal.openingsFrom_append, hmade.1, hmade.2, Nat.zero_add]
      show 1 + Journal.openingsFrom [it] _ ≤ 1
      rw [Journal.openingsFrom_append, hinside, hback]
      exact Nat.le_refl 1
    · exact Nat.zero_le 1

/-! ## Every pass is one -/

variable {host : Host}

namespace Route

/-- `r.Grows p q` — whoever was known stays the same. -/
def Grows {V : Vocabulary} (r : Route V) (p q : Passage V) : Prop :=
  ∀ {name it}, r.known? p name = some it → r.known? q name = some it

theorem known?_eq {V : Vocabulary} {r : Route V} {p q : Passage V} (h : q.created = p.created) :
    r.known? q = r.known? p := by
  funext name
  rw [known?, known?, h]

/-- `passing r chain` — moves that pass through `chain` any number of times. -/
def passing (r : Route host.journaled.toVocabulary)
    (chain : List (Interceptor host.journaled.Routine)) :
    Course (Passage host.journaled.toVocabulary × host.journaled.World) Empty where
  rel _ s t := r.Grows s.1 t.1 ∧ ∃ inner : List (Journal host.toVocabulary),
    (∀ pass ∈ inner, Passes r.phase r.goal (r.known? t.1) chain pass) ∧
      t.2.2 = s.2.2 ++ inner.flatten
  stay _ := ⟨id, [], nofun, (List.append_nil _).symm⟩
  append := by
    rintro _ _ s t u ⟨hst, inner, hinner, ht⟩ ⟨htu, inner', hinner', hu⟩
    refine ⟨fun h => htu (hst h), inner ++ inner', List.forall_mem_append.2
      ⟨fun pass hpass => (hinner pass hpass).mono htu, hinner'⟩, ?_⟩
    rw [hu, ht, List.append_assoc, List.flatten_append]

theorem passing_indifferent (r : Route host.journaled.toVocabulary)
    (chain : List (Interceptor host.journaled.Routine)) : Indifferent (r.passing chain) := by
  intro s p w hcreated _
  refine ⟨fun h => ?_, [], nofun, (List.append_nil _).symm⟩
  rwa [known?_eq hcreated]

/-- Whoever is made for a name that nobody was known under is known from then on. -/
theorem known?_insert {V : Vocabulary} {r : Route V} {p : Passage V} {name : String}
    (hnone : r.known? p name = none) (it : V.Live) (other : String) :
    r.known? { p with created := p.created.insert name it } other =
      if other = name then some it else r.known? p other := by
  rw [known?] at hnone ⊢
  rw [known?]
  dsimp only
  rw [Table.get?_insert]
  cases hsupplied : r.supplied with
  | none => rfl
  | some live =>
    rw [hsupplied] at hnone
    dsimp only at hnone ⊢
    by_cases hother : other = name
    · rw [hother, if_pos rfl, if_pos rfl]
      cases hlive : live.get? name with
      | none => rfl
      | some it' =>
        rw [hlive] at hnone
        cases hnone
    · rw [if_neg hother, if_neg hother]

/-- After an interceptor has been found or made, it is known, and so is whoever was known before. -/
theorem materialise_known (r : Route host.journaled.toVocabulary)
    (i : Interceptor host.journaled.Routine)
    (s : Passage host.journaled.toVocabulary × host.journaled.World) :
    (∃ it p w, ∃ making : Journal host.toVocabulary, r.materialise i s = (.ok it, p, w) ∧
      w.2 = s.2.2 ++ making ∧ (making = [] ∨ making = [.made i.maker (.ok it)]) ∧
      r.known? p i.name = some it ∧ r.Grows s.1 p) ∨
    ∃ f g w, r.materialise i s = (.error g, s.1, w) ∧ w.2 = s.2.2 ++ [.made i.maker (.error f)] := by
  obtain ⟨p, w⟩ := s
  cases hknown : r.known? p i.name with
  | some it =>
    exact Or.inl ⟨it, p, w, [], materialise_of_known hknown, (List.append_nil _).symm, Or.inl rfl,
      hknown, id⟩
  | none =>
    rcases hmake : host.make i.maker w.1 with ⟨f | it, w'⟩
    · exact Or.inr ⟨f, _, _, materialise_of_make_journaled hknown hmake, rfl⟩
    · have hinsert := known?_insert hknown it
      refine Or.inl ⟨it, { p with created := p.created.insert i.name it }, _, _,
        materialise_of_make_journaled hknown hmake, rfl, Or.inr rfl, ?_, fun {name it'} h => ?_⟩
      · exact (hinsert i.name).trans (if_pos rfl)
      · have hname : name ≠ i.name := by
          rintro rfl
          rw [hknown] at h
          cases h
        exact (hinsert name).trans ((if_neg hname).trans h)

/-- Nobody is made at the goal. -/
theorem created_arrive (r : Route host.toVocabulary)
    (s : Passage host.toVocabulary × host.World) : (r.arrive s).2.1.created = s.1.created := by
  obtain ⟨p, w⟩ := s
  cases hgoal : r.goal with
  | callbacks target operations => rw [arrive_of_each hgoal rfl]
  | construct k => rw [arrive_of_construct hgoal rfl]
  | call target method => rw [arrive_of_call hgoal rfl]

/-- An interceptor is entered, passes on as often as it proceeds, and is left. -/
theorem passing_intercept {r : Route host.journaled.toVocabulary}
    {chain : List (Interceptor host.journaled.Routine)}
    (hrest : ∀ s, (r.passing chain).rel [] s (r.run chain s).2) (it : host.Live)
    (s : Passage host.journaled.toVocabulary × host.journaled.World) :
    let t := r.follow (r.run chain) (host.journaled.intercept it r.phase) s
    r.Grows s.1 t.2.1 ∧ ∃ (inner : List (Journal host.toVocabulary))
      (outcome : Except Failure (Option host.Ref)),
      (∀ pass ∈ inner, Passes r.phase r.goal (r.known? t.2.1) chain pass) ∧
        t.2.2.2 = s.2.2 ++ Event.entered it r.phase ::
          (List.flatten inner ++ [.left it r.phase outcome]) := by
  intro t
  let u := r.follow (r.run chain) ((host.intercept it r.phase).beside it)
    (s.1, s.2.1, s.2.2 ++ [.entered it r.phase])
  have ht : t = (u.1, u.2.1, u.2.2.1, u.2.2.2 ++ [.left it r.phase u.1]) := follow_journaled ..
  obtain ⟨hgrows, inner, hinner, hu⟩ := (r.passing_indifferent chain).follow (r := r) hrest it
    (host.intercept it r.phase) (s.1, s.2.1, s.2.2 ++ [.entered it r.phase])
  have hu : u.2.2.2 = (s.2.2 ++ [.entered it r.phase]) ++ inner.flatten := hu
  rw [ht]
  refine ⟨hgrows, inner, u.1, hinner, ?_⟩
  dsimp only
  rw [hu, List.append_assoc, List.append_assoc]
  rfl

/-- Every pass is one. -/
theorem run_passes (r : Route host.journaled.toVocabulary)
    (chain : List (Interceptor host.journaled.Routine))
    (s : Passage host.journaled.toVocabulary × host.journaled.World) :
    r.Grows s.1 (r.run chain s).2.1 ∧ ∃ seg, (r.run chain s).2.2.2 = s.2.2 ++ seg ∧
      Passes r.phase r.goal (r.known? (r.run chain s).2.1) chain seg := by
  induction chain generalizing s with
  | nil =>
    refine ⟨fun h => ?_, r.arrive_writes s.1 s.2⟩
    rw [run]
    rwa [known?_eq (r.created_arrive s)]
  | cons i rest ih =>
    have hrest : ∀ s, (r.passing rest).rel [] s (r.run rest s).2 := fun s => by
      obtain ⟨hgrows, seg, hseg, hpasses⟩ := ih s
      exact ⟨hgrows, [seg], List.forall_mem_singleton.2 hpasses, by rw [hseg, List.flatten_singleton]⟩
    rcases r.materialise_known i s with
      ⟨it, p, w, making, hr, hlog, hmaking, hit, hgrows⟩ | ⟨f, g, w, hr, hlog⟩
    · rw [run_of_live hr]
      obtain ⟨hinside, inner, outcome, hinner, hpass⟩ := passing_intercept hrest it (p, w)
      refine ⟨fun h => hinside (hgrows h), _, ?_,
        Or.inl ⟨it, making, inner, outcome, hinside hit, hmaking, hinner, rfl⟩⟩
      rw [hpass, hlog, List.append_assoc]
      rfl
    · rw [run_of_unmade hr]
      exact ⟨id, _, hlog, Or.inr ⟨f, rfl⟩⟩

end Route

/-- `Knows known supplied` — `known` has everybody who was supplied. -/
def Knows (known : String → Option V.Live) (supplied : Option (Table String V.Live)) : Prop :=
  ∀ live, supplied = some live → ∀ name it, live.get? name = some it → known name = some it

theorem knows_bind (supplied : Option (Table String V.Live)) :
    Knows (fun name => supplied.bind (·.get? name)) supplied := by
  rintro live rfl name it hit
  exact hit

namespace Invocation

theorem knows_live? (inv : Invocation V) : Knows inv.live? inv.supplied := by
  intro live hlive name it hit
  show (inv.supplied.bind (·.get? name) <|> _) = _
  rw [hlive, Option.bind_some, hit]
  rfl

/-- A whole chain, from the start: what is known are the live interceptors of the invocation
    afterwards. -/
theorem proceed_passes (inv : Invocation host.journaled.toVocabulary)
    (hpending : inv.status = .pending) (hcursor : inv.cursor = 0) (s : host.journaled.World) :
    let t := proceed (inv, s)
    Knows t.2.1.live? inv.supplied ∧ ∃ seg, t.2.2.2 = s.2 ++ seg ∧
      Passes inv.phase inv.ending.goal t.2.1.live? inv.chain seg := by
  intro t
  obtain ⟨hgrows, seg, hseg, hpasses⟩ := inv.route.run_passes inv.chain (inv.passage, s)
  let p := (inv.route.run inv.chain (inv.passage, s)).2.1
  have ht : t = _ := proceed_of_start hpending hcursor s
  have hlive : t.2.1.live? = inv.route.known? p := by
    funext name
    rw [ht]
    refine (live?_carrying _ p name).trans ?_
    rw [route_settled]
  refine ⟨fun live hsupplied name it hit => ?_, seg, by rw [ht]; exact hseg,
    by rw [hlive]; exact hpasses⟩
  rw [hlive]
  refine hgrows ?_
  rw [← live?_carrying, carrying_passage]
  exact inv.knows_live? live hsupplied name it hit

end Invocation

end Wiring
