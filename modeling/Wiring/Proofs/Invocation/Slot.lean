/-
  The slot for the new instance of a construction.

  1. `Minutes.slot` reads the slot off the minutes: it holds the instance that was made last since the
     slot was last emptied.  A call of the constructor that fails does not count.
  2. `seg.Faithful` — each minute of `seg` shows the slot as the minutes before it have left it: as the
     target that an interceptor sees, and as what is handed out.  Then whatever was handed out, and
     what the slot still holds, has come of different calls of the constructor (`Faithful.sublist`).
  3. The INVARIANT is that the minutes are faithful and the slot is as they have left it
     (`Route.Holding`).  Whatever may become of a construction at one time keeps it
     (`honours_holding`); so do the episodes, and so does every state in which the program of an
     interceptor comes by (`comesBy_holding`).
-/
import Wiring.Proofs.Invocation.Minutes
import Wiring.Proofs.Recording.Overheard

namespace Wiring

variable {V : Vocabulary} {m : Minute V} {seg : Minutes V}

/-! ## One minute -/

namespace Minute

/-- `m.empties` — whether the slot was emptied. -/
def empties : Minute V → Bool
  | .taken _ => true
  | _ => false

/-- `m.built?` — the instance that a constructor has made. -/
def built? : Minute V → Option (Reference V)
  | .reached _ (.ok new) => some new
  | _ => none

/-- `m.handed?` — the instance that was handed out. -/
def handed? : Minute V → Option (Reference V)
  | .taken made => made
  | _ => none

/-- `m.Shows made` — `m` tells of a construction whose slot holds `made`. -/
def Shows (made : Option (Reference V)) : Minute V → Prop
  | .seen v => v.target = made
  | .taken handed => handed = made
  | .replaced _ _ | .reached _ _ => True

/-- `m.refill made` — what the slot holds after `m`, if it held `made` before. -/
def refill (made : Option (Reference V)) : Minute V → Option (Reference V)
  | .reached _ (.ok new) => some new
  | .taken _ => none
  | _ => made

end Minute

/-! ## Minutes one after the other -/

namespace Minutes

/-- `built seg` — the instances that constructors have made, in their order. -/
def built (seg : Minutes V) : List (Reference V) := seg.filterMap Minute.built?

/-- `handed seg` — the instances that were handed out, in their order. -/
def handed (seg : Minutes V) : List (Reference V) := seg.filterMap Minute.handed?

/-- `sinceEmptied seg` — the minutes since the slot was last emptied. -/
def sinceEmptied (seg : Minutes V) : Minutes V := seg.rtakeWhile fun m => !m.empties

/-- `slot seg` — the instance that was made last since the slot was last emptied. -/
def slot (seg : Minutes V) : Option (Reference V) := (built (sinceEmptied seg)).getLast?

/-- `seg.Faithful` — each minute of `seg` shows the slot as those before it have left it. -/
def Faithful (seg : Minutes V) : Prop := ∀ before m, before ++ [m] <+: seg → m.Shows (slot before)

theorem sinceEmptied_concat (seg : Minutes V) (m : Minute V) :
    sinceEmptied (seg ++ [m]) = if m.empties then [] else sinceEmptied seg ++ [m] := by
  rw [sinceEmptied, List.rtakeWhile_concat]
  cases m.empties <;> rfl

theorem built_concat (seg : Minutes V) (m : Minute V) :
    built (seg ++ [m]) = built seg ++ m.built?.toList := by
  rw [built, List.filterMap_append]
  cases h : m.built? <;> simp [built, h]

theorem handed_concat (seg : Minutes V) (m : Minute V) :
    handed (seg ++ [m]) = handed seg ++ m.handed?.toList := by
  rw [handed, List.filterMap_append]
  cases h : m.handed? <;> simp [handed, h]

/-- One more minute refills the slot, or leaves it. -/
theorem slot_concat (seg : Minutes V) (m : Minute V) : slot (seg ++ [m]) = m.refill (slot seg) := by
  rw [slot, sinceEmptied_concat]
  rcases m with v | ⟨ps, outcome⟩ | ⟨args, f | new⟩ | handed
  case taken => rfl
  all_goals
    rw [if_neg Bool.noConfusion, built_concat]
    simp [Minute.built?, Minute.refill, slot]

theorem Faithful.concat (h : Faithful seg) (hm : m.Shows (slot seg)) : Faithful (seg ++ [m]) := by
  intro before m' hbegins
  rcases List.prefix_concat_iff.1 hbegins with heq | hbegins
  · obtain ⟨rfl, hlast⟩ := List.append_inj' heq rfl
    cases hlast
    exact hm
  · exact h before m' hbegins

/-- Each instance that was handed out, and the one that the slot still holds, has come of a call of its
    own. -/
theorem Faithful.sublist (h : Faithful seg) :
    (handed seg ++ (slot seg).toList).Sublist (built seg) := by
  induction seg using List.reverseRecOn with
  | nil => exact List.Sublist.refl []
  | append_singleton seg m ih =>
    have hseg : Faithful seg := fun before m' hbegins =>
      h before m' (hbegins.trans (List.prefix_append seg [m]))
    have hshows : m.Shows (slot seg) := h seg m List.prefix_rfl
    have hheld := ih hseg
    rw [slot_concat, handed_concat, built_concat]
    rcases m with v | ⟨ps, outcome⟩ | ⟨args, f | new⟩ | taken
    case reached.ok =>
      -- what was in the slot is lost, so those handed out are all that is left of it
      have hhanded := (List.sublist_append_left (handed seg) (slot seg).toList).trans hheld
      simpa [Minute.refill, Minute.built?, Minute.handed?] using hhanded
    case taken =>
      cases hshows
      simpa [Minute.refill, Minute.built?, Minute.handed?] using hheld
    all_goals simpa [Minute.refill, Minute.built?, Minute.handed?] using hheld

end Minutes

/-! ## Whatever may become of a construction -/

variable {host : Host} {start : Minutes host.toVocabulary}
  {k : Constructor host.minuted.Routine}

namespace Route

variable {r : Route host.minuted.toVocabulary}
  {s t : Passage host.minuted.toVocabulary × host.minuted.World}

/-- `Holding start s` — the minutes put down after `start` are faithful, and the slot holds what they
    have left there. -/
def Holding (start : Minutes host.toVocabulary)
    (s : Passage host.minuted.toVocabulary × host.minuted.World) : Prop :=
  ∃ seg : Minutes host.toVocabulary,
    s.2.2 = start ++ seg ∧ seg.Faithful ∧ s.1.made = seg.slot

/-- Nothing but the slot and the minutes counts. -/
theorem Holding.congr (h : Holding start s) (hmade : t.1.made = s.1.made) (hlog : t.2.2 = s.2.2) :
    Holding start t := by
  obtain ⟨seg, hseg, hfaithful, hslot⟩ := h
  exact ⟨seg, hlog.trans hseg, hfaithful, hmade.trans hslot⟩

/-- One more minute. -/
theorem Holding.put {m : Minute host.toVocabulary} (h : Holding start s)
    (hlog : t.2.2 = s.2.2 ++ [m]) (hshows : m.Shows s.1.made)
    (hmade : t.1.made = m.refill s.1.made) : Holding start t := by
  obtain ⟨seg, hseg, hfaithful, hslot⟩ := h
  rw [hslot] at hshows hmade
  refine ⟨seg ++ [m], ?_, hfaithful.concat hshows, hmade.trans (Minutes.slot_concat seg m).symm⟩
  rw [hlog, hseg, List.append_assoc]

/-- A constructor call fills the slot if it succeeds, and leaves it if it fails. -/
theorem Holding.arrive (hgoal : r.goal = .construct k) (h : Holding start s) :
    Holding start (r.arrive s).2 := by
  obtain ⟨p, w⟩ := s
  rcases hr : host.minuted.construct k.routine p.parameters w with ⟨outcome, w'⟩
  have hput : w'.2 = w.2 ++ [.reached p.parameters outcome] := by
    cases hr
    rfl
  rw [arrive_of_construct hgoal hr]
  cases outcome <;> exact h.put hput trivial rfl

/-- Whatever may become of a construction at one time, the slot holds what the minutes say. -/
theorem honours_holding (hgoal : r.goal = .construct k) :
    r.Honours (Course.free.given (Holding start)) where
  aside _ hmade hlog h := ⟨h.congr (hmade k hgoal) hlog, trivial⟩
  seen p w m h := by
    have htarget : (r.view p).target = p.made := by rw [view, hgoal]
    exact ⟨h.put rfl htarget rfl, trivial⟩
  replaced p w m ps h := ⟨h.put rfl trivial (r.replace_keeps p ps).2, trivial⟩
  reached s h := ⟨h.arrive hgoal, trivial⟩
  taken p w m h := ⟨h.put rfl rfl rfl, trivial⟩

end Route

/-! ## Moments of a construction -/

namespace Invocation

open Route (Holding honours_holding)

/-- In whatever state the program of an interceptor comes by, the slot holds what the minutes say; even
    where it has already looked, or replaced the parameters, and that is not put down yet. -/
theorem comesBy_holding {α : Type} {f : Invocation host.minuted.toVocabulary}
    (hgoal : f.ending.goal = .construct k) (hstatus : f.status = .running) (hdepth : f.depth ≠ 0)
    (it : host.Live) (x : Advice host.toVocabulary host.World α) :
    ∀ p w u, Holding start (p, w) →
      (x.recording (Minute.recorder host.toVocabulary) it).ComesBy proceed (f.carrying p, w) u →
        ∃ q, u.1 = f.carrying q ∧ Holding start (q, u.2) := by
  have hhonours : f.route.Honours (Course.free.given (Holding start)) := honours_holding hgoal
  induction x with
  | done a =>
    rintro p w u h rfl
    exact ⟨p, rfl, h⟩
  | proceed next ih =>
    rintro p w u h (rfl | hu)
    · exact ⟨p, rfl, h⟩
    · have hrun : proceed (f.carrying p, w) = _ := matches_proceed hstatus hdepth p w
      rw [hrun] at hu
      exact ih _ _ _ u (hhonours.run f.rest (p, w) h).1 hu
  | observe next ih =>
    rintro p w u h (rfl | rfl | rfl | hu)
    · exact ⟨p, rfl, h⟩
    · exact ⟨p, rfl, h⟩
    · exact ⟨p, rfl, h⟩
    · have hsees : (f.carrying p).view = f.route.view p := view_carrying f p
      rw [hsees] at hu
      exact ih _ p _ u (hhonours.seen p w.1 w.2 h).1 hu
  | setParameters ps next ih =>
    have hset : ∀ p, (f.carrying p).setParameters ps = _ := fun p => setParameters_carrying f p ps
    rintro p w u h (rfl | hu)
    · exact ⟨p, rfl, h⟩
    · have hreplaced : Holding start ((f.route.replace p ps).2, w) :=
        h.congr (f.route.replace_keeps p ps).2 rfl
      rw [hset] at hu
      rcases hu with rfl | rfl | hu
      · exact ⟨_, rfl, hreplaced⟩
      · exact ⟨_, rfl, hreplaced⟩
      · exact ih _ _ _ u (hhonours.replaced p w.1 w.2 ps h).1 hu
  | setData data next ih =>
    rintro p w u h (rfl | hu)
    · exact ⟨p, rfl, h⟩
    · exact ih { p with data := data } w u (h.congr rfl rfl) hu
  | readWorld next ih =>
    rintro p w u h (rfl | hu)
    · exact ⟨p, rfl, h⟩
    · exact ih w.1 p w u h hu
  | writeWorld w' next ih =>
    rintro p w u h (rfl | rfl | hu)
    · exact ⟨p, rfl, h⟩
    · exact ⟨p, rfl, h⟩
    · exact ih p (w', w.2) u (h.congr rfl rfl) hu

/-- `Slotted k start u seg` — `seg` was put down after `start`, all of it is faithful, and in `u` the slot
    of the construction with `k` holds what `seg` has left there; this is the target, too. -/
structure Slotted (k : Constructor host.minuted.Routine) (start : Minutes host.toVocabulary)
    (u : Invocation host.minuted.toVocabulary × host.minuted.World)
    (seg : Minutes host.toVocabulary) : Prop where
  log : u.2.2 = start ++ seg
  ending : u.1.ending = .construct k seg.slot
  target : u.1.view.target = seg.slot
  faithful : seg.Faithful

/-- Where the chain leads to a constructor, the slot is all that can change there. -/
theorem ending_eq_construct {inv : Invocation V} {k : Constructor V.Routine}
    (h : inv.ending.goal = .construct k) : inv.ending = .construct k inv.passage.made := by
  rcases inv with ⟨_, _, _, _, _, _, _, _, _, ending⟩
  cases ending <;> cases h
  rfl

variable {u : Invocation host.minuted.toVocabulary × host.minuted.World}

theorem slotted_of_holding (hgoal : u.1.ending.goal = .construct k)
    (h : Holding start (u.1.passage, u.2)) : ∃ seg, Slotted k start u seg := by
  obtain ⟨seg, hlog, hfaithful, hslot⟩ := h
  have hending : u.1.ending = .construct k u.1.passage.made := ending_eq_construct hgoal
  have htarget : u.1.view.target = u.1.passage.made := by
    rw [view, hending]
    rfl
  exact ⟨seg, hlog, hending.trans (congrArg (Ending.construct k) hslot), htarget.trans hslot,
    hfaithful⟩

/-- Whatever comes by inside a call, the slot holds what the minutes say. -/
theorem Within.slotted {s : Invocation host.minuted.toVocabulary × host.minuted.World}
    (hwithin : Within s u) (hgoal : s.1.ending.goal = .construct k)
    (h : Holding start (s.1.passage, s.2)) : ∃ seg, Slotted k start u seg := by
  have hhonours : s.1.route.Honours (Course.free.given (Holding start)) := honours_holding hgoal
  cases hwithin with
  | @inside v i it t u hreached _ hlive hcomes =>
    obtain ⟨-, hroute, hmoves⟩ := hhonours.proceeding rfl hreached
    -- the interceptor is found or made first, and its program runs with the cursor past it
    obtain ⟨p, hr, hp⟩ := materialise_of_live hlive
    obtain ⟨t, w⟩ := t
    subst hp
    let f := v.1.entered
    have hf : f.route = s.1.route := hroute
    have hgoal' : f.past.ending.goal = .construct k := (congrArg Route.goal hf).trans hgoal
    have hfind := hhonours.materialise i (f.passage, v.2) (hmoves h).1
    rw [← hf, hr] at hfind
    rw [host.intercept_minuted] at hcomes
    obtain ⟨q, hq, hholding⟩ := comesBy_holding (f := f.past) hgoal' rfl (Nat.succ_ne_zero _) it
      (host.intercept it v.1.phase) p w u hfind.1 hcomes
    have hcarried : u.1.passage.made = q.made := by
      rw [hq]
      exact made_passage_carrying (k := k) hgoal' q
    refine slotted_of_holding ?_ (hholding.congr hcarried rfl)
    rw [hq]
    exact (goal_carrying f.past q).trans hgoal'

/-- Whoever takes the new instance gets what the slot holds, and empties it. -/
theorem Slotted.takeNewInstance {seg : Minutes host.toVocabulary} (h : Slotted k start u seg) :
    Invocation.takeNewInstance u =
      (.ok seg.slot, { u.1 with ending := .construct k none }, u.2) := by
  rw [Invocation.takeNewInstance, takeMade, h.ending]

/-- A constructor that fails leaves the invocation as it was, an earlier instance included. -/
theorem Slotted.eq_of_error {seg : Minutes host.toVocabulary} (h : Slotted k start u seg) {e : Failure}
    {v : Invocation host.minuted.toVocabulary × host.minuted.World}
    (herror : reachEnding u = (.error e, v)) : v.1 = u.1 := by
  rw [reachEnding_apply, h.ending] at herror
  dsimp only at herror
  rcases hr : host.minuted.construct k.routine u.1.parameters u.2 with ⟨f | new, w⟩
  all_goals
    rw [hr] at herror
    cases herror
  rfl

/-- **The slot holds the latest instance, and hands it out once.**  Let a construction be new, and let
    any calls be made on it, with any interceptors and any outcomes of the constructor, while others
    change the world in between.
    1. Between the calls the slot holds the instance of the last call of the constructor that has
       succeeded since the slot was last emptied, or nothing if there was none.  So does the target.
       It was like that at every single minute before: what an interceptor saw as the target, and
       what was handed out, was what the slot held then.
    2. So it is in every state in which the program of an interceptor comes by, at whatever depth.
    3. At all these moments: whoever takes the new instance gets what the slot holds, and leaves it
       empty and all else as it was; a constructor that fails leaves the invocation as it was; and
       those that were handed out, with the one in the slot at the end, are among those that were
       made, in the same order and each at most once.  So if no two are the same of those that were
       made, none was handed out twice, and the one in the slot was not handed out.
    4. All this is so without minutes: whatever is called has the same outcome, and leaves the same
       invocation and world behind, and the programs of interceptors come by in the same states. -/
theorem slot_holds_latest (chain : List (Interceptor host.minuted.Routine))
    (supplied : Option (Table String host.minuted.Live)) (k : Constructor host.minuted.Routine)
    (parameters : List host.minuted.Ref) (w : host.minuted.World)
    {t : Invocation host.minuted.toVocabulary × host.minuted.World}
    (h : Episode (construction chain supplied k parameters, w) t) :
    (∃ seg, Slotted k w.2 t seg) ∧
    (∀ u, Within t u → ∃ seg, Slotted k w.2 u seg) ∧
    (∀ u (seg : Minutes host.toVocabulary), Slotted k w.2 u seg →
      Invocation.takeNewInstance u =
        (.ok seg.slot, { u.1 with ending := .construct k none }, u.2) ∧
      (∀ e v, reachEnding u = (.error e, v) → v.1 = u.1) ∧
      (seg.handed ++ seg.slot.toList).Sublist seg.built ∧
      (seg.built.Nodup → seg.handed.Nodup ∧ ∀ made, seg.slot = some made → made ∉ seg.handed)) ∧
    (∀ (c : Call host.toVocabulary) inv (w : host.World) m,
      ∃ m', @Call.run host.minuted c (inv, w, m) =
        ((c.run (inv, w)).1, (c.run (inv, w)).2.1, (c.run (inv, w)).2.2, m')) ∧
    ∀ (s u : Invocation host.toVocabulary × host.World), Within s u →
      ∀ m, ∃ m', @Within host.minuted (s.1, s.2, m) (u.1, u.2, m') := by
  have hhonours : (construction chain supplied k parameters).route.Honours
      (Course.free.given (Holding w.2)) := honours_holding rfl
  have hstart : Holding w.2 ((construction chain supplied k parameters).passage, w) :=
    ⟨[], (List.append_nil _).symm, fun _ _ hbegins => by simp at hbegins, rfl⟩
  obtain ⟨-, hroute, hmoves⟩ := hhonours.episode rfl (Fresh.construction ..).idle h
  have hgoal : t.1.ending.goal = .construct k := congrArg Route.goal hroute
  have hholding : Holding w.2 (t.1.passage, t.2) := (hmoves hstart).1
  refine ⟨slotted_of_holding hgoal hholding, fun u hu => hu.slotted hgoal hholding, ?_,
    fun c inv w m => Call.run_overhears (R := Minute.recorder host.toVocabulary) rfl m,
    fun s u hu m => hu.overhears (R := Minute.recorder host.toVocabulary) m⟩
  intro u seg hu
  have hsublist := hu.faithful.sublist
  refine ⟨hu.takeNewInstance, fun e v herror => hu.eq_of_error herror, hsublist, fun hdistinct => ?_⟩
  have hnodup := hsublist.nodup hdistinct
  refine ⟨(List.nodup_append.1 hnodup).1, fun made hmade hhanded => ?_⟩
  rw [hmade] at hnodup
  exact (List.nodup_append.1 hnodup).2.2 made hhanded made (List.mem_singleton_self made) rfl

end Invocation

/-- `rebuilding` — the host of numbers, where a constructor makes its parameter, if that does not end in
    9; and each interceptor looks, proceeds, puts another parameter in place, proceeds once more
    whatever came of it, and looks again. -/
def Host.rebuilding : Host :=
  { Host.numbers with
    construct := fun _ args => match args with
      | [.plain n] => ran n (.plain n)
      | _ => ran 0 (.plain (0 : Nat))
    intercept := fun (it : Nat) _ =>
      .observe fun _ => .proceed fun _ => .setParameters [.plain (it + 4)] fun _ =>
        .proceed fun _ => .observe fun _ => .done (.ok none) }

/-- The first call inside the chain makes 3 and the second fails, so 3 is seen and handed out, and
    nothing the next time.  A direct call with another parameter makes 4, which is still there. -/
theorem Invocation.slot_holds_latest_rebuilding :
    let k : Constructor Host.rebuilding.minuted.Routine := ⟨⟨⟨"Account", "new"⟩, (7 : Nat)⟩, 1⟩
    let inv : Invocation Host.rebuilding.minuted.toVocabulary :=
      construction [.everywhere "again" 5] none k [.plain (3 : Nat)]
    let seen (made : Option Host.rebuilding.Ref) (ps : List Host.rebuilding.Ref) :
        Minute Host.rebuilding.toVocabulary :=
      .seen ⟨.aroundConstruct, made, some ⟨"Account", "new"⟩, ps, ∅⟩
    let three : Host.rebuilding.Ref := .plain (3 : Nat)
    let four : Host.rebuilding.Ref := .plain (4 : Nat)
    let nine : Host.rebuilding.Ref := .plain (9 : Nat)
    let seg : Minutes Host.rebuilding.toVocabulary :=
      [seen none [three], .reached [three] (.ok three), .replaced [nine] (.ok ()),
        .reached [nine] (.error (.raised "nine")), seen (some three) [nine], .taken (some three),
        .taken none, .replaced [four] (.ok ()), .reached [four] (.ok four)]
    ∃ t, Episode (inv, [], []) t ∧ t.2.2 = seg ∧ t.1.ending = .construct k (some four) ∧
      seg.handed = [three] ∧ seg.built = [three, four] := by
  intro k inv seen three four nine seg
  have hcalls := (((((Episode.start (s := (inv, [], []))).call .proceed).call .takeNewInstance).call
    .takeNewInstance).call (.setParameters [four])).call .proceedDirectly
  obtain ⟨t, h, hlog⟩ : ∃ t, Episode (inv, [], []) t ∧ t.2.2 = seg := ⟨_, hcalls, by cbv⟩
  obtain ⟨seg', hslotted⟩ :=
    (@slot_holds_latest Host.rebuilding [.everywhere "again" 5] none k [three] ([], []) t h).1
  have hsame : seg' = seg := hslotted.log.symm.trans hlog
  refine ⟨t, h, hlog, ?_, rfl, rfl⟩
  rw [hslotted.ending, hsame]
  rfl

end Wiring
