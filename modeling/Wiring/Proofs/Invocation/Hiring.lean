/-
  For each name one live interceptor: the rule, and a pass through a chain.

  1. `answer? supplied made name` — who answers to a name: whoever was supplied under it, and only if
     nobody was, whoever has been made under it.
  2. The interceptor whose turn it is stands in the chain where the active ones end.  So the journal
     and the chain say under which name a factory was called, or somebody was entered; `hires` are
     the factory calls that succeeded, with their names.
  3. `Turn` is the rule for one event: a factory is called only if nobody answers to the name, only a
     success is remembered, and whoever is entered is the one who answers.  The INVARIANT is `Turns`:
     every event, up to the moment, went by the rule.
  4. A pass through a chain goes by the rule, whatever the interceptors do (`run_turns`, by induction
     on the chain).
-/
import Wiring.Proofs.Invocation.Nesting
import Wiring.Proofs.Invocation.Passed

namespace Wiring

/-! ## Who answers -/

variable {V : Vocabulary}

/-- `answer? supplied made name` — the live interceptor that answers to `name`: a supplied one before
    one that was made. -/
def answer? (supplied : Option (Table String V.Live)) (made : Table String V.Live)
    (name : String) : Option V.Live :=
  match supplied.bind (·.get? name) with
  | some it => some it
  | none => made.get? name

variable {supplied : Option (Table String V.Live)} {made made' made'' : Table String V.Live}
  {name : String}

theorem answer?_of_supplied {live : Table String V.Live} {it : V.Live} (hlive : supplied = some live)
    (hit : live.get? name = some it) : answer? supplied made name = some it := by
  rw [answer?, hlive, Option.bind_some, hit]

theorem answer?_of_unsupplied (h : Unsupplied supplied name) :
    answer? supplied made name = made.get? name := by
  have hnone : supplied.bind (·.get? name) = none := by
    cases supplied with
    | none => rfl
    | some live => exact h live rfl
  rw [answer?, hnone]

/-- Who answers was supplied, or was made where nobody was supplied. -/
theorem answer?_eq_some_iff {it : V.Live} :
    answer? supplied made name = some it ↔
      (∃ live, supplied = some live ∧ live.get? name = some it) ∨
        (Unsupplied supplied name ∧ made.get? name = some it) := by
  constructor
  · intro h
    rcases supplied_or_unsupplied supplied name with ⟨live, it', hlive, hit'⟩ | hnone
    · rw [answer?_of_supplied hlive hit'] at h
      cases h
      exact Or.inl ⟨live, hlive, hit'⟩
    · exact Or.inr ⟨hnone, answer?_of_unsupplied hnone ▸ h⟩
  · rintro (⟨live, hlive, hit⟩ | ⟨hnone, hit⟩)
    · exact answer?_of_supplied hlive hit
    · rw [answer?_of_unsupplied hnone, hit]

/-- Nobody answers to a name, if nobody was supplied or made under it. -/
theorem answer?_eq_none_iff :
    answer? supplied made name = none ↔ Unsupplied supplied name ∧ made.get? name = none := by
  constructor
  · intro h
    rcases supplied_or_unsupplied supplied name with ⟨live, it, hlive, hit⟩ | hnone
    · rw [answer?_of_supplied hlive hit] at h
      cases h
    · exact ⟨hnone, answer?_of_unsupplied hnone ▸ h⟩
  · rintro ⟨hnone, hmade⟩
    rw [answer?_of_unsupplied hnone, hmade]

theorem Route.known?_eq_answer? (r : Route V) (p : Passage V) (name : String) :
    r.known? p name = answer? r.supplied p.created name := by
  rw [known?, answer?]
  cases r.supplied <;> rfl

/-! ## Turns -/

/-- `Turn phase supplied chain active made e made'` — while `active` are active, and `made` have been
    made, `e` may happen; after it, `made'` have been made. -/
inductive Turn (phase : Phase) (supplied : Option (Table String V.Live))
    (chain : List (Interceptor V.Routine)) (active : List V.Live) (made : Table String V.Live) :
    Event V → Table String V.Live → Prop where
  /-- Whoever answers to the name is entered. -/
  | entered {i it} (hi : chain[active.length]? = some i)
    (hit : answer? supplied made i.name = some it) :
    Turn phase supplied chain active made (.entered it phase) made
  /-- Nobody answers to the name, and what is made is remembered. -/
  | made {i it} (hi : chain[active.length]? = some i) (hnone : answer? supplied made i.name = none) :
    Turn phase supplied chain active made (.made i.maker (.ok it)) (made.insert i.name it)
  /-- Nobody answers to the name, and nobody can be made. -/
  | failed {i f} (hi : chain[active.length]? = some i) (hnone : answer? supplied made i.name = none) :
    Turn phase supplied chain active made (.made i.maker (.error f)) made
  /-- It is not about finding an interceptor. -/
  | other {e} (hmade : ∀ r outcome, e ≠ .made r outcome) (hentered : ∀ it p, e ≠ .entered it p) :
    Turn phase supplied chain active made e made

/-- `Turns phase supplied chain active made seg made'` — every event of `seg` goes by the rule. -/
def Turns (phase : Phase) (supplied : Option (Table String V.Live))
    (chain : List (Interceptor V.Routine)) :
    List V.Live → Table String V.Live → Journal V → Table String V.Live → Prop
  | _, made, [], made' => made' = made
  | active, made, e :: seg, made' => ∃ made₁, Turn phase supplied chain active made e made₁ ∧
      Turns phase supplied chain (e.activate active) made₁ seg made'

variable {phase : Phase} {chain : List (Interceptor V.Routine)} {active : List V.Live}
  {seg seg' : Journal V} {e : Event V}

theorem turns_append :
    Turns phase supplied chain active made (seg ++ seg') made' ↔
      ∃ made₁, Turns phase supplied chain active made seg made₁ ∧
        Turns phase supplied chain (Journal.activeAfter active seg) made₁ seg' made' := by
  induction seg generalizing active made with
  | nil =>
    constructor
    · exact fun h => ⟨made, rfl, h⟩
    · rintro ⟨made₁, rfl, h⟩
      exact h
  | cons e seg ih =>
    constructor
    · rintro ⟨made₁, hturn, h⟩
      obtain ⟨made₂, hseg, hseg'⟩ := ih.1 h
      exact ⟨made₂, ⟨made₁, hturn, hseg⟩, hseg'⟩
    · rintro ⟨made₂, ⟨made₁, hturn, hseg⟩, hseg'⟩
      exact ⟨made₁, hturn, ih.2 ⟨made₂, hseg, hseg'⟩⟩

/-- Behind a segment that gives back who was active, the rule goes on. -/
theorem Turns.append (h : Turns phase supplied chain active made seg made')
    (hback : Journal.activeAfter active seg = active)
    (h' : Turns phase supplied chain active made' seg' made'') :
    Turns phase supplied chain active made (seg ++ seg') made'' :=
  turns_append.2 ⟨made', h, by rwa [hback]⟩

/-- Whoever answers to a name goes on answering to it. -/
theorem Turn.grows (h : Turn phase supplied chain active made e made') {it : V.Live}
    (hit : answer? supplied made name = some it) : answer? supplied made' name = some it := by
  cases h with
  | entered => exact hit
  | failed => exact hit
  | other => exact hit
  | @made i it' hi hnone =>
    have hname : name ≠ i.name := by
      rintro rfl
      rw [hnone] at hit
      cases hit
    rw [answer?] at hit ⊢
    rwa [Table.get?_insert, if_neg hname]

theorem Turns.grows (h : Turns phase supplied chain active made seg made') {it : V.Live}
    (hit : answer? supplied made name = some it) : answer? supplied made' name = some it := by
  induction seg generalizing active made with
  | nil => exact h ▸ hit
  | cons e seg ih =>
    obtain ⟨made₁, hturn, hrest⟩ := h
    exact ih hrest (hturn.grows hit)

/-! ## Who was made under which name -/

/-- `e.hire i` — who was made by `e`, under the name of `i`. -/
def Event.hire (e : Event V) (i : Interceptor V.Routine) : List (String × V.Live) :=
  match e with
  | .made _ (.ok it) => [(i.name, it)]
  | _ => []

namespace Journal

/-- `hiresFrom chain active seg` — the factory calls of `seg` that succeeded, with the names for which
    they were made, if `active` were active before. -/
def hiresFrom (chain : List (Interceptor V.Routine)) :
    List V.Live → Journal V → List (String × V.Live)
  | _, [] => []
  | active, e :: seg =>
    (chain[active.length]?.map e.hire).getD [] ++ hiresFrom chain (e.activate active) seg

/-- `hires chain seg` — the factory calls of `seg` that succeeded, with the names for which they were
    made. -/
def hires (chain : List (Interceptor V.Routine)) (seg : Journal V) : List (String × V.Live) :=
  hiresFrom chain [] seg

end Journal

theorem Turn.entries (h : Turn phase supplied chain active made e made') :
    made'.entries = made.entries ++ (chain[active.length]?.map e.hire).getD [] := by
  cases h with
  | @entered i it hi =>
    rw [hi]
    exact (List.append_nil _).symm
  | @failed i f hi =>
    rw [hi]
    exact (List.append_nil _).symm
  | @made i it hi hnone =>
    rw [hi]
    exact Table.entries_insert_of_not_mem
      (Table.get?_eq_none_iff.1 (answer?_eq_none_iff.1 hnone).2) it
  | other hmade =>
    have hnobody : ∀ i, e.hire i = [] := fun i => by
      cases e with
      | made r outcome => exact absurd rfl (hmade r outcome)
      | _ => rfl
    cases chain[active.length]? with
    | none => exact (List.append_nil _).symm
    | some i => rw [Option.map_some, Option.getD_some, hnobody, List.append_nil]

/-- Those who have been made are those who were hired, under the same names. -/
theorem Turns.entries (h : Turns phase supplied chain active made seg made') :
    made'.entries = made.entries ++ Journal.hiresFrom chain active seg := by
  induction seg generalizing active made with
  | nil => rw [h, Journal.hiresFrom, List.append_nil]
  | cons e seg ih =>
    obtain ⟨made₁, hturn, hrest⟩ := h
    rw [ih hrest, hturn.entries, Journal.hiresFrom, List.append_assoc]

/-- From the start, nobody has been made who was not hired. -/
theorem Turns.hires (h : Turns phase supplied chain [] ∅ seg made') :
    made'.entries = Journal.hires chain seg :=
  h.entries

/-- At the moment of an event, it goes by the rule. -/
theorem Turns.moment {before after : Journal V}
    (h : Turns phase supplied chain active made (before ++ e :: after) made') :
    ∃ made₁ made₂, Turns phase supplied chain active made before made₁ ∧
      Turn phase supplied chain (Journal.activeAfter active before) made₁ e made₂ ∧
      Turns phase supplied chain (e.activate (Journal.activeAfter active before)) made₂ after
        made' := by
  obtain ⟨made₁, hbefore, made₂, hturn, hafter⟩ := turns_append.1 h
  exact ⟨made₁, made₂, hbefore, hturn, hafter⟩

/-- At the goal nobody is found or made. -/
theorem Goal.Writes.turns {goal : Goal V} (h : ∀ e ∈ seg, goal.Writes e) :
    Turns phase supplied chain active made seg made := by
  induction seg with
  | nil => rfl
  | cons e seg ih =>
    obtain ⟨he, hseg⟩ := List.forall_mem_cons.1 h
    refine ⟨made, .other ?_ ?_, by rw [he.activate active]; exact ih hseg⟩
    · rintro r outcome rfl
      cases goal <;> cases he
    · rintro it p rfl
      cases goal <;> cases he

/-! ## A pass goes by the rule -/

variable {host : Host}

namespace Route

/-- `r.turning whole n` — moves on which every event goes by the rule of the chain `whole`, with `n`
    active before, and the same after. -/
def turning (r : Route host.journaled.toVocabulary)
    (whole : List (Interceptor host.journaled.Routine)) (n : Nat) :
    Course (Passage host.journaled.toVocabulary × host.journaled.World) Empty where
  rel _ s t := ∃ seg : Journal host.toVocabulary, t.2.2 = s.2.2 ++ seg ∧
    ∀ active : List host.Live, active.length = n →
      Journal.activeAfter active seg = active ∧
        Turns r.phase r.supplied whole active s.1.created seg t.1.created
  stay _ := ⟨[], (List.append_nil _).symm, fun _ _ => ⟨rfl, rfl⟩⟩
  append := by
    rintro _ _ s t u ⟨seg, ht, hseg⟩ ⟨seg', hu, hseg'⟩
    refine ⟨seg ++ seg', by rw [hu, ht, List.append_assoc], fun active hn => ?_⟩
    obtain ⟨hback, hturns⟩ := hseg active hn
    obtain ⟨hback', hturns'⟩ := hseg' active hn
    exact ⟨by rw [Journal.activeAfter_append, hback, hback'], hturns.append hback hturns'⟩

theorem turning_indifferent (r : Route host.journaled.toVocabulary)
    (whole : List (Interceptor host.journaled.Routine)) (n : Nat) :
    Indifferent (r.turning whole n) := by
  intro s p w hcreated _
  exact ⟨[], (List.append_nil _).symm, fun _ _ => ⟨rfl, hcreated⟩⟩

variable {r : Route host.journaled.toVocabulary}
  {whole rest : List (Interceptor host.journaled.Routine)}
  {i : Interceptor host.journaled.Routine} {n : Nat}

/-- The goal alone. -/
theorem arrive_turns (r : Route host.journaled.toVocabulary)
    (whole : List (Interceptor host.journaled.Routine)) (n : Nat)
    (s : Passage host.journaled.toVocabulary × host.journaled.World) :
    (r.turning whole n).rel [] s (r.arrive s).2 := by
  obtain ⟨seg, hlog, hwrites⟩ := r.arrive_writes s.1 s.2
  refine ⟨seg, hlog, fun active _ => ⟨(Goal.Writes.keeps hwrites active).1, ?_⟩⟩
  rw [r.created_arrive s]
  exact Goal.Writes.turns hwrites

/-- Whoever's turn it is, is found, or made and remembered, or cannot be made, by the rule. -/
theorem materialise_turns (r : Route host.journaled.toVocabulary) (hi : whole[n]? = some i)
    (s : Passage host.journaled.toVocabulary × host.journaled.World) :
    (r.turning whole n).rel [] s (r.materialise i s).2 ∧
      ∀ it t, r.materialise i s = (.ok it, t) →
        answer? r.supplied t.1.created i.name = some it := by
  obtain ⟨p, w⟩ := s
  have hrule := r.known?_eq_answer? p i.name
  cases hknown : answer? r.supplied p.created i.name with
  | some it =>
    rw [materialise_of_known (hrule.trans hknown)]
    refine ⟨(r.turning whole n).stay _, ?_⟩
    rintro _ _ ⟨⟩
    exact hknown
  | none =>
    rcases hmake : host.make i.maker w.1 with ⟨f | it, w'⟩
    all_goals rw [materialise_of_make_journaled (hrule.trans hknown) hmake]
    · refine ⟨⟨_, rfl, fun active hn => ⟨rfl, _, .failed (hn ▸ hi) hknown, rfl⟩⟩, ?_⟩
      rintro _ _ ⟨⟩
    · refine ⟨⟨_, rfl, fun active hn => ⟨rfl, _, .made (hn ▸ hi) hknown, rfl⟩⟩, ?_⟩
      rintro _ _ ⟨⟩
      obtain ⟨hnone, -⟩ := answer?_eq_none_iff.1 hknown
      exact (answer?_of_unsupplied hnone).trans ((Table.get?_insert ..).trans (if_pos rfl))

/-- An interceptor is entered, and left again, and what it proceeds into goes by the rule. -/
theorem intercept_turns (hi : whole[n]? = some i)
    (hrest : ∀ s, (r.turning whole (n + 1)).rel [] s (r.run rest s).2) {it : host.Live}
    {s : Passage host.journaled.toVocabulary × host.journaled.World}
    (hit : answer? r.supplied s.1.created i.name = some it) :
    (r.turning whole n).rel [] s
      (r.follow (r.run rest) (host.journaled.intercept it r.phase) s).2 := by
  let t : Passage host.journaled.toVocabulary × host.journaled.World :=
    (s.1, s.2.1, s.2.2 ++ [.entered it r.phase])
  let u := r.follow (r.run rest) ((host.intercept it r.phase).beside it) t
  obtain ⟨seg, hlog, hseg⟩ := (r.turning_indifferent whole (n + 1)).follow (r := r) hrest it
    (host.intercept it r.phase) t
  have hlog : u.2.2.2 = (s.2.2 ++ [.entered it r.phase]) ++ seg := hlog
  rw [follow_journaled]
  refine ⟨.entered it r.phase :: (seg ++ [.left it r.phase u.1]), ?_, fun active hn => ?_⟩
  · show u.2.2.2 ++ [.left it r.phase u.1] = _
    rw [hlog, List.append_assoc, List.append_assoc]
    rfl
  · -- inside, one more is active
    obtain ⟨hback, hturns⟩ := hseg (active ++ [it]) (by rw [List.length_append, hn]; rfl)
    refine ⟨?_, _, .entered (hn ▸ hi) hit, turns_append.2 ⟨_, hturns, _, .other nofun nofun, rfl⟩⟩
    show Journal.activeAfter (active ++ [it]) _ = active
    rw [Journal.activeAfter_append, hback]
    exact List.dropLast_concat

/-- A pass through the end of a chain goes by the rule, with all before it active. -/
theorem run_turns (r : Route host.journaled.toVocabulary)
    (chain : List (Interceptor host.journaled.Routine)) :
    ∀ {outer}, whole = outer ++ chain →
      ∀ s, (r.turning whole outer.length).rel [] s (r.run chain s).2 := by
  induction chain with
  | nil => exact fun _ s => r.arrive_turns whole _ s
  | cons i rest ih =>
    intro outer hwhole s
    have hi : whole[outer.length]? = some i := by
      rw [hwhole, List.getElem?_append_right (Nat.le_refl _), Nat.sub_self, List.getElem?_cons_zero]
    have hrest : ∀ s, (r.turning whole (outer.length + 1)).rel [] s (r.run rest s).2 := by
      have hlength : (outer ++ [i]).length = outer.length + 1 := List.length_append
      rw [← hlength]
      exact ih (by rw [hwhole, List.append_assoc, List.singleton_append])
    obtain ⟨hfind, hfound⟩ := r.materialise_turns hi s
    rcases hr : r.materialise i s with ⟨f | it, t⟩
    · rw [hr] at hfind
      rw [run_of_unmade hr]
      exact hfind
    · rw [hr] at hfind
      rw [run_of_live hr]
      exact (r.turning whole outer.length).trans hfind (intercept_turns hi hrest (hfound it t hr))

/-- Where somebody answers, nobody is made. -/
theorem run_of_answer {s : Passage host.journaled.toVocabulary × host.journaled.World}
    {it : host.Live} (hit : answer? r.supplied s.1.created i.name = some it) :
    ∃ seg : Journal host.toVocabulary,
      (r.run (i :: rest) s).2.2.2 = s.2.2 ++ .entered it r.phase :: seg := by
  have hfind : r.materialise i s = (.ok it, s) :=
    materialise_of_known ((r.known?_eq_answer? s.1 i.name).trans hit)
  obtain ⟨inner, outcome, -, hlog⟩ := follow_intercept (r := r) (P := fun _ => True)
    (fun s => (r.run_passes rest s).2.imp fun _ h => ⟨h.1, trivial⟩) it s
  rw [run_of_live hfind]
  exact ⟨_, hlog⟩

/-- Where nobody answers, the factory is called; a failure of it is all that comes of it. -/
theorem run_of_nobody {s : Passage host.journaled.toVocabulary × host.journaled.World}
    (hnone : answer? r.supplied s.1.created i.name = none) :
    let outcome := (host.make i.maker s.2.1).1
    let run := r.run (i :: rest) s
    ∃ seg : Journal host.toVocabulary, run.2.2.2 = s.2.2 ++ .made i.maker outcome :: seg ∧
      (∀ it, outcome = .ok it → ∃ seg', seg = .entered it r.phase :: seg') ∧
      ∀ f, outcome = .error f →
        seg = [] ∧ run.1 = .error (.interceptorCreation i.name f) ∧ run.2.1 = s.1 := by
  obtain ⟨p, w⟩ := s
  have hnobody : r.known? p i.name = none := (r.known?_eq_answer? p i.name).trans hnone
  rcases hmake : host.make i.maker w.1 with ⟨f | it, w'⟩
  all_goals have hr := materialise_of_make_journaled hnobody hmake
  · rw [run_of_unmade hr]
    refine ⟨[], rfl, ?_, ?_⟩
    · rintro _ ⟨⟩
    · rintro _ ⟨⟩
      exact ⟨rfl, rfl, rfl⟩
  · rw [run_of_live hr]
    obtain ⟨inner, result, -, hlog⟩ := follow_intercept (r := r) (P := fun _ => True)
      (fun s => (r.run_passes rest s).2.imp fun _ h => ⟨h.1, trivial⟩) it
      ({ p with created := p.created.insert i.name it }, w', w.2 ++ [.made i.maker (.ok it)])
    refine ⟨.entered it r.phase :: (inner.flatten ++ [.left it r.phase result]), ?_, ?_, ?_⟩
    · refine hlog.trans ?_
      rw [List.append_assoc]
      rfl
    · rintro _ ⟨⟩
      exact ⟨_, rfl⟩
    · rintro _ ⟨⟩

end Route

end Wiring
