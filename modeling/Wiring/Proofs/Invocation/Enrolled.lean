/-
  For each name one live interceptor, within the life of an invocation.

  1. `Enrolled s t seg` — what was written down between `s` and `t` went by the rule of turns, event
     by event, and the cursor stands where the active interceptors end.
  2. Every call on an idle invocation keeps it, and so does a whole life (`Life.enrolled`).
  3. It holds up to every single moment at which an interceptor proceeds, too (`Reached.enrolled`).
     So what the next event is, is decided by who has been hired up to that moment
     (`one_live_per_name`).
-/
import Wiring.Proofs.Invocation.Called
import Wiring.Proofs.Invocation.Hiring
import Wiring.Proofs.Recording.Moments

namespace Wiring

variable {host : Host}

namespace Invocation

theorem live?_eq_answer? {V : Vocabulary} (inv : Invocation V) :
    inv.live? = answer? inv.supplied inv.created := by
  rw [live?_eq_known?]
  exact funext fun name => Route.known?_eq_answer? inv.route inv.passage name

/-! ## A life goes by the rule -/

/-- `Enrolled s t seg` — of what was written down between `s` and `t`, which is `seg`, every event
    went by the rule; the cursor stands where the active ones end. -/
structure Enrolled (s t : Invocation host.journaled.toVocabulary × host.journaled.World)
    (seg : Journal host.toVocabulary) : Prop where
  chain : t.1.chain = s.1.chain
  route : t.1.route = s.1.route
  log : t.2.2 = s.2.2 ++ seg
  cursor : (Journal.active seg).length = t.1.cursor
  turns : Turns s.1.phase s.1.supplied s.1.chain [] ∅ seg t.1.created

variable {s t u : Invocation host.journaled.toVocabulary × host.journaled.World}
  {seg : Journal host.toVocabulary}

/-- A move by the rule keeps it. -/
theorem Enrolled.move (h : Enrolled s t seg) (hchain : u.1.chain = t.1.chain)
    (hroute : u.1.route = t.1.route) (hcursor : u.1.cursor = t.1.cursor)
    (hmove : (t.1.route.turning t.1.chain t.1.cursor).rel [] (t.1.passage, t.2)
      (u.1.passage, u.2)) : ∃ seg', Enrolled s u (seg ++ seg') := by
  obtain ⟨seg', hlog, hturns⟩ := hmove
  obtain ⟨hback, hturns⟩ := hturns _ h.cursor
  have hphase : t.1.phase = s.1.phase := congrArg Route.phase h.route
  have hsupplied : t.1.supplied = s.1.supplied := congrArg Route.supplied h.route
  have hturns : Turns t.1.phase t.1.supplied t.1.chain (Journal.active seg) t.1.created seg'
      u.1.created := hturns
  rw [hphase, hsupplied, h.chain] at hturns
  refine ⟨seg', hchain.trans h.chain, hroute.trans h.route, ?_, ?_,
    turns_append.2 ⟨_, h.turns, hturns⟩⟩
  · rw [show u.2.2 = t.2.2 ++ seg' from hlog, h.log, List.append_assoc]
  · rw [hcursor, ← h.cursor, Journal.active, Journal.activeAfter_append]
    exact congrArg List.length hback

/-- Every call on an idle invocation goes by the rule. -/
theorem Called.turns {inv : Invocation host.journaled.toVocabulary} {w : host.journaled.World}
    {c : Call host.journaled.toVocabulary} (h : Called inv w c u) :
    (inv.route.turning inv.chain 0).rel [] (inv.passage, w) (u.1.passage, u.2) := by
  cases h with
  | pass _ _ hr =>
    subst hr
    have hwhole : inv.chain = [] ++ inv.chain := rfl
    exact inv.route.run_turns inv.chain hwhole (inv.passage, w)
  | goal _ hr =>
    subst hr
    exact inv.route.arrive_turns inv.chain 0 (inv.passage, w)
  | refused => exact (inv.route.turning inv.chain 0).stay _
  | take => exact (inv.route.turning inv.chain 0).stay _
  | replace ps =>
    have hcreated := (inv.route.replace_keeps inv.passage ps).1
    exact ⟨[], (List.append_nil _).symm, fun _ _ => ⟨rfl, hcreated⟩⟩
  | share => exact (inv.route.turning inv.chain 0).stay _

theorem Fresh.created {inv : Invocation host.toVocabulary} (h : inv.Fresh) : inv.created = ∅ := by
  cases h <;> rfl

theorem Life.enrolled {history : List (Call host.journaled.toVocabulary × Bool)}
    (h : Life s history t) (hfresh : s.1.Fresh) :
    t.1.Idle ∧ ∃ seg, Enrolled s t seg := by
  induction h with
  | start =>
    exact ⟨hfresh.idle, [], rfl, rfl, (List.append_nil _).symm, hfresh.idle.cursor.symm,
      hfresh.created⟩
  | @call history t h c ih =>
    obtain ⟨hidle, seg, henrolled⟩ := ih
    have hcalled := run_called hidle c t.2
    obtain ⟨hidle', hchain, hroute⟩ := hcalled.idle hidle
    have hmove := hcalled.turns
    rw [← hidle.cursor] at hmove
    obtain ⟨seg', henrolled'⟩ := henrolled.move hchain hroute
      (hidle'.cursor.trans hidle.cursor.symm) hmove
    exact ⟨hidle', _, henrolled'⟩
  | elsewhere h w ih =>
    obtain ⟨hidle, seg, henrolled⟩ := ih
    exact ⟨hidle, seg, henrolled.chain, henrolled.route, henrolled.log, henrolled.cursor,
      henrolled.turns⟩

/-! ## Wherever somebody proceeds -/

/-- What is left of a chain is passed through by the rule. -/
theorem rest_turns (inv : Invocation host.journaled.toVocabulary)
    (s : Passage host.journaled.toVocabulary × host.journaled.World) :
    (inv.route.turning inv.chain inv.cursor).rel [] s (inv.route.run inv.rest s).2 := by
  by_cases hcursor : inv.cursor ≤ inv.chain.length
  · have hturns := inv.route.run_turns inv.rest (List.take_append_drop inv.cursor inv.chain).symm s
    rwa [List.length_take, Nat.min_eq_left hcursor] at hturns
  · have hrest : inv.rest = [] := List.drop_eq_nil_of_le (by omega)
    rw [hrest]
    exact inv.route.arrive_turns inv.chain inv.cursor s

/-- Whoever answers is entered by the rule. -/
theorem Enrolled.enter {i : Interceptor host.journaled.Routine} {it : host.Live}
    (h : Enrolled s t seg) (hi : t.1.chain[t.1.cursor]? = some i)
    (hit : answer? t.1.supplied t.1.created i.name = some it) :
    Enrolled s (t.1.past, t.2.1, t.2.2 ++ [.entered it t.1.phase])
      (seg ++ [.entered it t.1.phase]) := by
  have hphase : t.1.phase = s.1.phase := congrArg Route.phase h.route
  have hsupplied : t.1.supplied = s.1.supplied := congrArg Route.supplied h.route
  rw [← h.cursor, h.chain] at hi
  rw [hsupplied] at hit
  refine ⟨h.chain, h.route, ?_, ?_, ?_⟩
  · show t.2.2 ++ _ = _
    rw [h.log, List.append_assoc]
  · rw [Journal.active, Journal.activeAfter_append]
    show (Journal.activeAfter [] seg ++ [it]).length = t.1.cursor + 1
    rw [List.length_append, ← h.cursor, Journal.active]
    rfl
  · rw [hphase]
    exact turns_append.2 ⟨_, h.turns, _, .entered hi hit, rfl⟩

/-- The interceptor at the cursor proceeds in states up to which every event went by the rule. -/
theorem Enrolled.inside {i : Interceptor host.journaled.Routine} {it : host.Live}
    {v : Invocation host.journaled.toVocabulary × host.journaled.World} (h : Enrolled s t seg)
    (hi : t.1.chain[t.1.cursor]? = some i) (hlive : live i (t.1.entered, t.2) = (.ok it, u))
    (hproceeds : (host.journaled.intercept it t.1.phase).ProceedsAt proceed (u.1.past, u.2) v) :
    v.1.status = .running ∧ ∃ seg, Enrolled s v seg := by
  let f := t.1.entered
  have hf : Enrolled s (f, t.2) seg := ⟨h.chain, h.route, h.log, h.cursor, h.turns⟩
  obtain ⟨p, hr, hp⟩ := materialise_of_live hlive
  obtain ⟨u', w⟩ := u
  subst hp
  obtain ⟨hmove, hfound⟩ := f.route.materialise_turns hi (f.passage, t.2)
  rw [hr] at hmove
  obtain ⟨seg', hu⟩ := hf.move (u := (f.carrying p, w)) rfl (route_carrying f p) rfl hmove
  have hentered := hu.enter (i := i) hi (hfound it _ hr)
  -- the program is the interceptor's own, in the frame past it
  let g := f.past
  let start : Passage host.journaled.toVocabulary × host.journaled.World :=
    (p, w.1, w.2 ++ [.entered it t.1.phase])
  have hadmits := (g.route.turning_indifferent g.chain g.cursor).admits g.route it
  have hprogram := hadmits.asks (rest_turns g) rfl (Nat.succ_ne_zero _)
    (host.intercept it t.1.phase) start.1 start.2 ((g.route.turning g.chain g.cursor).stay start)
  obtain ⟨q, hq, hmoves⟩ := (Advice.asks_intercept hprogram).proceedsAt hproceeds
  obtain ⟨v', w'⟩ := v
  obtain rfl : v' = g.carrying q := hq
  obtain ⟨seg'', hv⟩ := hentered.move (u := (g.carrying q, w')) rfl
    ((route_carrying g q).trans (route_carrying g p).symm) rfl hmoves
  exact ⟨rfl, _, hv⟩

/-- **Wherever an invocation proceeds, every event went by the rule.** -/
theorem Reached.enrolled (h : Reached t u) (ht : ∃ seg, Enrolled s t seg) :
    (u.1.status = .pending ∨ u.1.status = .running) ∧ ∃ seg, Enrolled s u seg := by
  induction h with
  | outside hopen => exact ⟨hopen, ht⟩
  | inside _ hi hlive hproceeds ih =>
    obtain ⟨_, seg, hu⟩ := ih
    obtain ⟨hrunning, hv⟩ := hu.inside hi hlive hproceeds
    exact ⟨Or.inr hrunning, hv⟩

/-! ## What was written down, and what comes next -/

theorem Enrolled.hired (h : Enrolled s t seg) :
    t.1.supplied = s.1.supplied ∧ t.1.created.entries = Journal.hires s.1.chain seg ∧
      ((Journal.hires s.1.chain seg).map Prod.fst).Nodup :=
  ⟨congrArg Route.supplied h.route, h.turns.hires, h.turns.hires ▸ t.1.created.distinct⟩

/-- Live is whoever was supplied, or else whoever has been hired. -/
theorem Enrolled.live?_eq_some_iff {name : String} {it : host.journaled.Live} (h : Enrolled s t seg) :
    t.1.live? name = some it ↔
      (∃ live, s.1.supplied = some live ∧ live.get? name = some it) ∨
        (Unsupplied s.1.supplied name ∧ (name, it) ∈ Journal.hires s.1.chain seg) := by
  rw [live?_eq_answer?, answer?_eq_some_iff, h.hired.1, Table.get?_eq_some_iff, h.hired.2.1]

theorem Enrolled.live?_eq_none_iff {name : String} (h : Enrolled s t seg) :
    t.1.live? name = none ↔ Unsupplied s.1.supplied name ∧
      name ∉ (Journal.hires s.1.chain seg).map Prod.fst := by
  rw [live?_eq_answer?, answer?_eq_none_iff, h.hired.1, Table.get?_eq_none_iff, Table.keys,
    h.hired.2.1]

/-- A factory is called where nobody was supplied, and nobody has been hired before. -/
theorem Enrolled.made {before after : Journal host.toVocabulary} {r : host.Routine}
    {outcome : Except Failure host.Live}
    (h : Enrolled s t (before ++ .made r outcome :: after)) :
    ∃ i, s.1.chain[(Journal.active before).length]? = some i ∧ r = i.maker ∧
      Unsupplied s.1.supplied i.name ∧
        i.name ∉ (Journal.hires s.1.chain before).map Prod.fst := by
  obtain ⟨made, _, hbefore, hturn, _⟩ := h.turns.moment
  have hnobody : ∀ {i : Interceptor host.Routine}, answer? s.1.supplied made i.name = none →
      Unsupplied s.1.supplied i.name ∧
        i.name ∉ (Journal.hires s.1.chain before).map Prod.fst := fun hnone => by
    obtain ⟨hunsupplied, hmade⟩ := answer?_eq_none_iff.1 hnone
    rw [← hbefore.hires]
    exact ⟨hunsupplied, Table.get?_eq_none_iff.1 hmade⟩
  cases hturn with
  | @made i it hi hnone => exact ⟨i, hi, rfl, hnobody hnone⟩
  | @failed i f hi hnone => exact ⟨i, hi, rfl, hnobody hnone⟩
  | other hmade => exact absurd rfl (hmade r outcome)

/-- Whoever is entered was supplied, or else hired before, and is live to the end. -/
theorem Enrolled.entered {before after : Journal host.toVocabulary} {it : host.Live}
    {phase : Phase} (h : Enrolled s t (before ++ .entered it phase :: after)) :
    ∃ i, s.1.chain[(Journal.active before).length]? = some i ∧ t.1.live? i.name = some it ∧
      ((∃ live, s.1.supplied = some live ∧ live.get? i.name = some it) ∨
        (Unsupplied s.1.supplied i.name ∧
          (i.name, it) ∈ Journal.hires s.1.chain before)) := by
  obtain ⟨made, made', hbefore, hturn, hafter⟩ := h.turns.moment
  cases hturn with
  | @entered i it hi hit =>
    have hlive : t.1.live? i.name = some it := by
      rw [live?_eq_answer?, h.hired.1]
      exact hafter.grows hit
    refine ⟨i, hi, hlive, (answer?_eq_some_iff.1 hit).imp_right fun ⟨hunsupplied, hmade⟩ => ?_⟩
    rw [← hbefore.hires]
    exact ⟨hunsupplied, Table.mem_entries_of_get? hmade⟩
  | other _ hentered => exact absurd rfl (hentered it phase)

/-- What is left is the interceptor at the cursor, and what is left past it. -/
theorem rest_of_getElem? {V : Vocabulary} {inv : Invocation V} {i : Interceptor V.Routine}
    (hi : inv.chain[inv.cursor]? = some i) : inv.rest = i :: inv.past.rest := by
  obtain ⟨hlt, rfl⟩ := List.getElem?_eq_some_iff.1 hi
  exact List.drop_eq_getElem_cons hlt

/-- `Next i u` — what comes of proceeding in `u`, where `i` is the interceptor at the cursor: whoever
    answers to its name is entered, and only if nobody does, its factory is called; if that fails,
    nothing more comes of it, and nobody has been made. -/
structure Next (i : Interceptor host.journaled.Routine)
    (u : Invocation host.journaled.toVocabulary × host.journaled.World) : Prop where
  answered : ∀ it, u.1.live? i.name = some it → ∃ seg : Journal host.toVocabulary,
    (proceed u).2.2.2 = u.2.2 ++ .entered it u.1.phase :: seg
  made : u.1.live? i.name = none → ∃ seg : Journal host.toVocabulary,
    (proceed u).2.2.2 = u.2.2 ++ .made i.maker (host.make i.maker u.2.1).1 :: seg ∧
      (∀ it, (host.make i.maker u.2.1).1 = .ok it →
        ∃ seg', seg = .entered it u.1.phase :: seg') ∧
      ∀ f, (host.make i.maker u.2.1).1 = .error f →
        seg = [] ∧ (proceed u).1 = .error (.interceptorCreation i.name f) ∧
          (proceed u).2.1.created = u.1.created

theorem next_of_open {i : Interceptor host.journaled.Routine}
    (hopen : u.1.status = .pending ∨ u.1.status = .running)
    (hi : u.1.chain[u.1.cursor]? = some i) : Next i u := by
  have hproceed := proceed_of_open hopen u.2
  rw [rest_of_getElem? hi] at hproceed
  have hlog : (proceed u).2.2 = (u.1.route.run (i :: u.1.past.rest) (u.1.passage, u.2)).2.2 :=
    congrArg (·.2.2) hproceed
  have houtcome : (proceed u).1 = (u.1.route.run (i :: u.1.past.rest) (u.1.passage, u.2)).1 :=
    congrArg (·.1) hproceed
  have hcreated : (proceed u).2.1.created =
      (u.1.route.run (i :: u.1.past.rest) (u.1.passage, u.2)).2.1.created :=
    congrArg (·.2.1.created) hproceed
  constructor
  · intro it hit
    rw [live?_eq_answer?] at hit
    rw [hlog]
    exact Route.run_of_answer (r := u.1.route) (s := (u.1.passage, u.2)) hit
  · intro hnone
    rw [live?_eq_answer?] at hnone
    obtain ⟨seg, hseg, hok, herror⟩ :=
      Route.run_of_nobody (r := u.1.route) (s := (u.1.passage, u.2)) hnone
    rw [hlog, houtcome, hcreated]
    exact ⟨seg, hseg, hok, fun f hf => ⟨(herror f hf).1, (herror f hf).2.1,
      congrArg Passage.created (herror f hf).2.2⟩⟩

/-- **Under each name one interceptor is live.**  Let an invocation be new, and let any calls be made
    on it, with any interceptors and any outcomes, while others change the world in between.
    1. Who was supplied stays so.  Who has been made here are those whose factory calls succeeded, in
       order, each under the name it was called for, and no name among them is there twice.
    2. A factory is called only when it is the turn of its interceptor, if nobody was supplied under
       the name, and no factory call for the name has succeeded before.
    3. Whoever is entered is the one who was supplied under the name of the interceptor whose turn it
       is, or, where nobody was, the one who was hired before under that name; and this one is live to
       the end.
    4. At every moment at which somebody proceeds, however deep inside whatever interceptors, it is
       decided by the factory calls up to that moment who is live under the name of the interceptor
       at the cursor.  Whoever is live is entered next.  If nobody is, the factory is called next, no
       matter how often it has failed; whoever is made is entered, and if the factory fails, nothing
       more is written down, proceeding fails, and nobody is remembered. -/
theorem one_live_per_name {inv : Invocation host.journaled.toVocabulary} (hfresh : inv.Fresh)
    (w : host.journaled.World) {history : List (Call host.journaled.toVocabulary × Bool)}
    {t : Invocation host.journaled.toVocabulary × host.journaled.World}
    (h : Life (inv, w) history t) :
    (∃ seg : Journal host.toVocabulary, t.2.2 = w.2 ++ seg ∧
      (t.1.supplied = inv.supplied ∧ t.1.created.entries = Journal.hires inv.chain seg ∧
        ((Journal.hires inv.chain seg).map Prod.fst).Nodup) ∧
      (∀ before r outcome after, seg = before ++ .made r outcome :: after →
        ∃ i, inv.chain[(Journal.active before).length]? = some i ∧ r = i.maker ∧
          Unsupplied inv.supplied i.name ∧
            i.name ∉ (Journal.hires inv.chain before).map Prod.fst) ∧
      ∀ before it phase after, seg = before ++ .entered it phase :: after →
        ∃ i, inv.chain[(Journal.active before).length]? = some i ∧ t.1.live? i.name = some it ∧
          ((∃ live, inv.supplied = some live ∧ live.get? i.name = some it) ∨
            (Unsupplied inv.supplied i.name ∧ (i.name, it) ∈ Journal.hires inv.chain before))) ∧
    ∀ u, Reached t u → ∀ i, inv.chain[u.1.cursor]? = some i →
      ∃ seg : Journal host.toVocabulary, u.2.2 = w.2 ++ seg ∧
        (∀ it, u.1.live? i.name = some it ↔
          (∃ live, inv.supplied = some live ∧ live.get? i.name = some it) ∨
            (Unsupplied inv.supplied i.name ∧ (i.name, it) ∈ Journal.hires inv.chain seg)) ∧
        (u.1.live? i.name = none ↔ Unsupplied inv.supplied i.name ∧
          i.name ∉ (Journal.hires inv.chain seg).map Prod.fst) ∧
        Next i u := by
  obtain ⟨-, henrolled⟩ := h.enrolled hfresh
  refine ⟨?_, fun u hu i hi => ?_⟩
  · obtain ⟨seg, hseg⟩ := henrolled
    refine ⟨seg, hseg.log, hseg.hired, ?_, ?_⟩
    · rintro before r outcome after rfl
      exact hseg.made
    · rintro before it phase after rfl
      exact hseg.entered
  · obtain ⟨hopen, seg, hseg⟩ := hu.enrolled henrolled
    have hcursor : u.1.chain[u.1.cursor]? = some i := by rwa [hseg.chain]
    exact ⟨seg, hseg.log, fun it => hseg.live?_eq_some_iff, hseg.live?_eq_none_iff,
      next_of_open hopen hcursor⟩

/-- Someone who was supplied proceeds twice.  The one live `log` is entered twice each time, though
    the second factory of that name would have made another; and `audit`, which cannot be made, is
    tried each time. -/
theorem one_live_per_name_retried :
    let supplied : Option (Table String Nat) := some (Table.ofList [("twice", 12)])
    let inv : Invocation Host.numbers.journaled.toVocabulary :=
      business (.plain (5 : Nat)) ⟨⟨"Account", "run"⟩, (7 : Nat)⟩
        [.everywhere "twice" 2, .everywhere "log" 4, .everywhere "log" 5, .everywhere "audit" 9]
        supplied []
    let refused : Failure := .interceptorCreation "audit" (.raised "nine")
    let again : Journal Host.numbers.toVocabulary :=
      [.entered (4 : Nat) .aroundInvoke, .entered (4 : Nat) .aroundInvoke,
        .made (9 : Nat) (.error (.raised "nine")), .left (4 : Nat) .aroundInvoke (.error refused),
        .left (4 : Nat) .aroundInvoke (.error refused)]
    let seg : Journal Host.numbers.toVocabulary :=
      .entered (12 : Nat) .aroundInvoke :: .made (4 : Nat) (.ok (4 : Nat)) ::
        (again ++ again ++ [.left (12 : Nat) .aroundInvoke (.error refused)])
    inv.Fresh ∧ ∃ t, Life (inv, [], []) [(.proceed, false)] t ∧ t.2.2 = seg ∧
      t.1.created.entries = [("log", (4 : Nat))] := by
  intro supplied inv refused again seg
  have hfresh : inv.Fresh := .business ..
  have h := (Life.start (s := (inv, [], []))).call .proceed
  have hfailed : (Call.proceed.run (inv, [], [])).1.isOk = false := by cbv
  have hlog : (Call.proceed.run (inv, [], [])).2.2.2 = seg := by cbv
  rw [hfailed] at h
  refine ⟨hfresh, _, h, hlog, ?_⟩
  obtain ⟨⟨seg', hseg, ⟨-, hcreated, -⟩, -⟩, -⟩ := one_live_per_name hfresh _ h
  have hsame : seg' = seg := hseg.symm.trans hlog
  rw [hcreated, hsame]
  cbv

end Invocation

end Wiring
