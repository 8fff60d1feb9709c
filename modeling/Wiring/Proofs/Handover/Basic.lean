/-
  `Host.observant` — a host that remembers what is handed over.

  1. The world of the observant host is the old world with a list of `Handover`s beside it: the
     arguments that constructors and injected methods are called with, and the parameters that
     interceptors put in their place.  The old host never sees the list.
  2. `provide.observant` remembers which value a provider gave for which injection point.
  3. Parameters of a construction are carried from one interceptor to the next: whenever the
     constructor is called on the way, it is with the parameters that were put there last
     (`Carried`), through any chain and whatever the interceptors do (`carried_run`).
-/
import Wiring.Definition.Instance
import Wiring.Proofs.Effect.Course
import Wiring.Proofs.Invocation.Recursion
import Wiring.Proofs.Recording.Passing

namespace Wiring

/-- `Handover V` — a value given for an injection point, parameters put in the place of others, or a
    call of a constructor or of an injected method. -/
inductive Handover (V : Vocabulary) where
  | provided (point : Point V.Routine) (value : Reference V)
  | replaced (parameters : List (Reference V))
  | constructed (routine : V.Routine) (arguments : List (Reference V))
  | performed (routine : V.Routine) (receiver : Reference V) (arguments : List (Reference V))

/-- `Handover.recorder V` — arguments are noted, whatever comes of the call, and parameters that were put
    in the place of others. -/
def Handover.recorder (V : Vocabulary) : Recorder V (Handover V) where
  performed c r args _ := some (.performed c r args)
  constructed c args _ := some (.constructed c args)
  replaced ps outcome := if outcome.isOk then some (.replaced ps) else none

/-- `host.observant` — `host`, with a list of what was handed over. -/
def Host.observant (host : Host) : Host := host.recording (Handover.recorder host.toVocabulary)

/-- `provide.observant` — `provide`, with a list of the values that it gave. -/
def Provider.observant {host : Host} {P : Type} (provide : Provider host P) :
    Provider host.observant P := fun point s =>
  let (outcome, p, w) := provide point (s.1, s.2.1)
  (outcome, p, w, s.2.2 ++ outcome.toOption.toList.map (.provided point))

/-! ## Parameters on their way -/

/-- `Carried routine ps seg qs` — on the way that `seg` records, parameters went from `ps` to `qs`,
    and the constructor was called with those that it found. -/
inductive Carried {V : Vocabulary} (routine : V.Routine) :
    List (Reference V) → List (Handover V) → List (Reference V) → Prop where
  | rest {ps} : Carried routine ps [] ps
  | replaced {ps qs seg rs} (h : Carried routine qs seg rs) :
    Carried routine ps (.replaced qs :: seg) rs
  | constructed {ps seg rs} (h : Carried routine ps seg rs) :
    Carried routine ps (.constructed routine ps :: seg) rs

namespace Carried

variable {V : Vocabulary} {routine : V.Routine} {ps qs rs : List (Reference V)}
  {seg seg' : List (Handover V)}

theorem trans (h : Carried routine ps seg qs) (h' : Carried routine qs seg' rs) :
    Carried routine ps (seg ++ seg') rs := by
  induction h with
  | rest => exact h'
  | replaced _ ih => exact .replaced (ih h')
  | constructed _ ih => exact .constructed (ih h')

/-- Where nothing is replaced, every call is with the parameters of the beginning. -/
theorem eq_constructed (h : Carried routine ps seg qs) (hkept : ∀ rs, .replaced rs ∉ seg) :
    ∀ e ∈ seg, e = .constructed routine ps := by
  induction h with
  | rest => exact nofun
  | replaced _ ih => exact absurd List.mem_cons_self (hkept _)
  | constructed _ ih =>
    rw [List.forall_mem_cons]
    exact ⟨rfl, ih fun rs hmem => hkept rs (List.mem_cons_of_mem _ hmem)⟩

end Carried

variable {host : Host}

/-- `carrying routine` — moves on which parameters are carried. -/
def Handover.carrying (routine : host.observant.Routine) :
    Course (Passage host.observant.toVocabulary × host.observant.World) Empty where
  rel _ s t := ∃ seg, t.2.2 = s.2.2 ++ seg ∧ Carried routine s.1.parameters seg t.1.parameters
  stay s := ⟨[], (List.append_nil _).symm, .rest⟩
  append := by
    rintro _ _ s t u ⟨seg, hseg, hcarried⟩ ⟨seg', hseg', hcarried'⟩
    exact ⟨seg ++ seg', by rw [hseg', hseg, List.append_assoc], hcarried.trans hcarried'⟩

open Handover (carrying)

namespace Route

variable {k : Constructor host.observant.Routine} {r : Route host.observant.toVocabulary}

theorem carried_materialise (r : Route host.observant.toVocabulary)
    (i : Interceptor host.observant.Routine) :
    (carrying k.routine).Along [] (r.materialise i) := by
  refine .of_keeps fun ⟨p, w⟩ => ?_
  cases hknown : r.known? p i.name with
  | some it =>
    rw [materialise_of_known hknown]
    exact (carrying k.routine).stay (p, w)
  | none =>
    rw [materialise_of_make hknown rfl]
    exact ⟨[], (List.append_nil _).symm, .rest⟩

theorem carried_arrive (hgoal : r.goal = .construct k) :
    (carrying k.routine).Along [] r.arrive := by
  refine .of_keeps fun ⟨p, w⟩ => ?_
  rw [arrive_of_construct hgoal rfl]
  exact ⟨[.constructed k.routine p.parameters], rfl, .constructed .rest⟩

/-- Parameters are replaced, or the replacement is refused. -/
theorem replace_of_construct (hgoal : r.goal = .construct k)
    (p : Passage host.observant.toVocabulary) (ps : List host.observant.Ref) :
    r.replace p ps = (.ok (), { p with parameters := ps }) ∨
      ∃ f, r.replace p ps = (.error f, p) := by
  rw [replace, hgoal]
  dsimp only
  split
  · exact Or.inl rfl
  · exact Or.inr ⟨_, rfl⟩

/-- The parameters that are put in the place of others are those that are carried on. -/
theorem carried_replace (hgoal : r.goal = .construct k) (p : Passage host.observant.toVocabulary)
    (w : host.World) (notes : List (Handover host.toVocabulary)) (ps : List host.observant.Ref) :
    (carrying k.routine).rel [] (p, w, notes) ((r.replace p ps).2, w,
      noted notes ((Handover.recorder host.toVocabulary).replaced ps (r.replace p ps).1)) := by
  rcases replace_of_construct hgoal p ps with h | ⟨f, h⟩
  · rw [h]
    exact ⟨[.replaced ps], rfl, .replaced .rest⟩
  · rw [h]
    exact ⟨[], (List.append_nil _).symm, .rest⟩

theorem carried_admits (hgoal : r.goal = .construct k) (it : host.Live) :
    r.Admits (Handover.recorder host.toVocabulary) it (carrying k.routine) where
  shared _ _ _ := ⟨[], (List.append_nil _).symm, .rest⟩
  elsewhere _ _ _ _ := ⟨[], (List.append_nil _).symm, .rest⟩
  seen _ _ _ := ⟨[], (List.append_nil _).symm, .rest⟩
  replaced := carried_replace hgoal

/-- Parameters are carried through the whole chain. -/
theorem carried_run (hgoal : r.goal = .construct k)
    (chain : List (Interceptor host.observant.Routine)) :
    (carrying k.routine).Along [] (r.run chain) := by
  refine .of_keeps (rel_run (carried_arrive hgoal).keeps ?_ (fun hrest it s => ?_) chain)
  · exact fun i => (carried_materialise r i).keeps
  · have hprogram : host.observant.intercept it r.phase =
        (host.intercept it r.phase).recording (Handover.recorder host.toVocabulary) it :=
      Host.intercept_recording rfl fun _ => rfl
    rw [hprogram]
    exact (carried_admits hgoal it).follow hrest (host.intercept it r.phase) s

end Route

end Wiring
