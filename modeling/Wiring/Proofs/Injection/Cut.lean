/-
  What wiring an instance does, and where it is cut short.

  1. `d.tasksOf level` is what there is to do on one level: its duties, and then to have platform
     resources supplied, where a supplier is configured.
  2. `c.Completes receiver task deeds` and `c.Breaks receiver task deeds cause` — the two ways in which
     a task may turn out: all requests for it are answered and its call succeeds; or one of these fails,
     and with this the deeds end.
  3. `c.Enacted receiver tasks deeds stop` — the tasks are completed one after the other, up to the first
     that breaks, if one does.  An effect `Enacts` tasks if this is what it leaves in the trace, and its
     outcome says where it stopped.  What enacts one list of tasks and then another enacts both
     (`Enacts.andThen`), so wiring enacts the tasks of all levels because each step enacts its own.
-/
import Mathlib
import Wiring.Proofs.Injection.Once
import Wiring.Proofs.Injection.Requests

namespace Wiring

/-- `Task ρ` — one thing to do: a duty, or to have resources supplied. -/
inductive Task (ρ : Type) where
  | duty (duty : Duty ρ)
  | supply (supplier : ρ)

/-- `task.site` — what is to blame when the task breaks. -/
def Task.site {ρ : Type} : Task ρ → Site
  | duty (.field _ f) => .member f.member
  | duty (.method m) | duty (.initializer m) => .member m.member
  | supply _ => .resources

/-- `p.tasks` — the field of the point is to be filled; a point of a parameter has none. -/
def Point.tasks {ρ : Type} (p : Point ρ) : List (Task ρ) :=
  (p.field?.map fun f => Task.duty (.field p f)).toList

theorem Point.member_of_field? {ρ : Type} {p : Point ρ} {f : Operation ρ} (h : p.field? = some f) :
    p.member = f.member := by
  rw [field?] at h
  split at h
  · next hslot =>
    cases h
    rw [member, hslot]
    rfl
  · cases h

/-- `d.tasksOf level` — what is to be done on one level, in this order. -/
def Definition.tasksOf {host : Host} (d : Definition host) (level : String) :
    List (Task host.Routine) :=
  (d.component.dutiesOf level).map .duty ++ d.resources.toList.map .supply

theorem Definition.tasksOf_eq {host : Host} (d : Definition host) (level : String) :
    d.tasksOf level = (d.component.pointsOf level).flatMap Point.tasks ++
      (d.component.injectedMethods level).map (.duty ∘ .method) ++
      (d.component.initializers level).map (.duty ∘ .initializer) ++
      d.resources.toList.map .supply := by
  have hfields : (Duty.ofFields (d.component.pointsOf level)).map Task.duty =
      (d.component.pointsOf level).flatMap Point.tasks := by
    rw [Duty.ofFields, List.map_filterMap, List.filterMap_eq_flatMap_toList]
    exact List.flatMap_congr fun p _ => by rw [Point.tasks, Option.map_map]; rfl
  rw [tasksOf, Component.dutiesOf, List.map_append, List.map_append, hfields, List.map_map,
    List.map_map]

namespace Component

variable {V : Vocabulary}

/-! ## How a task turns out -/

/-- `c.Completes receiver task deeds` — the task is done by the deeds: the duty is fulfilled, or the
    supplier is called without a failure. -/
inductive Completes (c : Component V.Routine) (receiver : Reference V) :
    Task V.Routine → List (Deed V) → Prop where
  | duty {duty deeds} (h : c.Fulfils receiver duty deeds) : Completes c receiver (.duty duty) deeds
  | supply {supplier} : Completes c receiver (.supply supplier) [.supplied supplier receiver (.ok ())]

/-- `c.Breaks receiver task deeds cause` — the last of the deeds fails with the cause, and before it all
    has been done for the task that comes before. -/
inductive Breaks (c : Component V.Routine) (receiver : Reference V) :
    Task V.Routine → List (Deed V) → Failure → Prop where
  | fieldRefused {p f cause} : Breaks c receiver (.duty (.field p f)) [.requested p (.error cause)] cause
  | field {p f cause} (value : Reference V) : Breaks c receiver (.duty (.field p f))
      [.requested p (.ok value), .assigned f.routine receiver value (.error cause)] cause
  | methodRefused {m : Method V.Routine} {before p after cause} {values : List (Reference V)}
      (hpoints : c.parameterPoints m.member = before ++ p :: after)
      (h : values.length = before.length) : Breaks c receiver (.duty (.method m))
        (Deed.answers before values ++ [.requested p (.error cause)]) cause
  | method {m : Method V.Routine} {values : List (Reference V)} {cause}
      (h : values.length = (c.parameterPoints m.member).length) :
      Breaks c receiver (.duty (.method m)) (Deed.answers (c.parameterPoints m.member) values ++
        [.performed m.routine receiver values (.error cause)]) cause
  | initializer {m : Method V.Routine} {cause} : Breaks c receiver (.duty (.initializer m))
      [.performed m.routine receiver [] (.error cause)] cause
  | supply {supplier cause} : Breaks c receiver (.supply supplier)
      [.supplied supplier receiver (.error cause)] cause

/-- `c.Enacted receiver tasks deeds stop` — the tasks are completed by the deeds, one after the other;
    or else those before the one that breaks are, and `stop` says what was to blame, and the cause. -/
inductive Enacted (c : Component V.Routine) (receiver : Reference V) :
    List (Task V.Routine) → List (Deed V) → Option (Site × Failure) → Prop where
  | nil : Enacted c receiver [] [] none
  | completes {task tasks deeds deeds' stop} (h : c.Completes receiver task deeds)
    (hrest : Enacted c receiver tasks deeds' stop) :
    Enacted c receiver (task :: tasks) (deeds ++ deeds') stop
  | breaks {task tasks deeds cause} (h : c.Breaks receiver task deeds cause) :
    Enacted c receiver (task :: tasks) deeds (some (task.site, cause))

namespace Enacted

variable {c : Component V.Routine} {receiver : Reference V} {task : Task V.Routine}
  {tasks tasks' : List (Task V.Routine)} {deeds deeds' : List (Deed V)}
  {stop : Option (Site × Failure)}

theorem of_completes (h : c.Completes receiver task deeds) : c.Enacted receiver [task] deeds none := by
  rw [← List.append_nil deeds]
  exact .completes h .nil

/-- When all of some tasks have been completed, others may follow. -/
theorem append (h : c.Enacted receiver tasks deeds none)
    (h' : c.Enacted receiver tasks' deeds' stop) :
    c.Enacted receiver (tasks ++ tasks') (deeds ++ deeds') stop := by
  generalize hnone : (none : Option (Site × Failure)) = stop₀ at h
  induction h with
  | nil => exact h'
  | @completes task tasks deeds deeds₁ stop₁ hfirst _ ih =>
    rw [List.append_assoc]
    exact .completes hfirst (ih hnone)
  | breaks => cases hnone

/-- When one of some tasks has broken, others make no difference. -/
theorem cut {x : Site × Failure} (h : c.Enacted receiver tasks deeds (some x)) :
    c.Enacted receiver (tasks ++ tasks') deeds (some x) := by
  generalize hsome : some x = stop at h
  induction h with
  | nil => cases hsome
  | completes hfirst _ ih => exact .completes hfirst (ih hsome)
  | breaks hbreaks => exact .breaks hbreaks

end Enacted

end Component

namespace Definition

variable {host : Host} {P σ τ : Type} {d : Definition host.traced} {receiver : host.traced.Ref}

/-! ## Effects that enact tasks -/

/-- `d.verdict stop` — how wiring ends that has stopped, or has not. -/
def verdict (d : Definition host) (stop : Option (Site × Failure)) : Except Failure Unit :=
  stop.elim (.ok ()) fun x => .error (.instantiation d.name x.1 x.2)

/-- `d.Ends receiver tasks log log' outcome` — the trace has gone from `log` to `log'` because the tasks
    were enacted, and the outcome is the verdict on it. -/
def Ends (d : Definition host.traced) (receiver : host.traced.Ref) (tasks : List (Task host.Routine))
    (log log' : List (Deed host.toVocabulary)) (outcome : Except Failure Unit) : Prop :=
  ∃ deeds stop, log' = log ++ deeds ∧
    Component.Enacted (V := host.toVocabulary) d.component receiver tasks deeds stop ∧
      outcome = d.verdict stop

/-- `d.Enacts receiver trace tasks x` — from every state, `x` enacts the tasks. -/
def Enacts (d : Definition host.traced) (receiver : host.traced.Ref)
    (trace : σ → List (Deed host.toVocabulary)) (tasks : List (Task host.Routine))
    (x : Effect σ Unit) : Prop :=
  ∀ s, d.Ends receiver tasks (trace s) (trace (x s).2) (x s).1

namespace Enacts

variable {trace : σ → List (Deed host.toVocabulary)} {tasks tasks' : List (Task host.Routine)}
  {x y : Effect σ Unit}

theorem nothing : d.Enacts receiver trace [] (.done ()) :=
  fun _ => ⟨[], none, (List.append_nil _).symm, .nil, rfl⟩

/-- One thing after the other, unless the first has stopped. -/
theorem andThen (hx : d.Enacts receiver trace tasks x) (hy : d.Enacts receiver trace tasks' y) :
    d.Enacts receiver trace (tasks ++ tasks') (x >>= fun _ => y) := by
  intro s
  obtain ⟨deeds, stop, htrace, henacted, houtcome⟩ := hx s
  rcases hr : x s with ⟨outcome, t⟩
  rw [hr] at htrace houtcome
  -- the outcome is the verdict, so whether `y` is run at all depends on where `x` has stopped
  cases stop with
  | some stop =>
    obtain rfl : outcome = .error (.instantiation d.name stop.1 stop.2) := houtcome
    rw [Effect.bind_error hr]
    exact ⟨deeds, some stop, htrace, henacted.cut, rfl⟩
  | none =>
    obtain rfl : outcome = .ok () := houtcome
    obtain ⟨deeds', stop, htrace', henacted', houtcome'⟩ := hy t
    rw [Effect.bind_ok hr]
    refine ⟨deeds ++ deeds', stop, ?_, henacted.append henacted', houtcome'⟩
    rw [htrace', ← List.append_assoc]
    exact congrArg (· ++ deeds') htrace

theorem each {α : Type} {f : α → Effect σ Unit} {g : α → List (Task host.Routine)} {xs : List α}
    (h : ∀ a ∈ xs, d.Enacts receiver trace (g a) (f a)) :
    d.Enacts receiver trace (xs.flatMap g) (Effect.each f xs) := by
  induction xs with
  | nil => exact nothing
  | cons a xs ih =>
    obtain ⟨hfirst, hrest⟩ := List.forall_mem_cons.1 h
    exact hfirst.andThen (ih hrest)

/-- The layer above the world leaves no trace. -/
theorem onWorld (hx : d.Enacts receiver trace tasks x) :
    d.Enacts receiver (fun s : τ × σ => trace s.2) tasks (Effect.onWorld x) :=
  fun s => hx s.2

end Enacts

/-! ## Single steps -/

variable {provide : Provider host P}

/-- `tracing` — what is added to the trace. -/
def tracing : Course (P × host.traced.World) (Deed host.toVocabulary) where
  rel deeds s t := t.2.2 = s.2.2 ++ deeds
  stay s := (List.append_nil s.2.2).symm
  append := by
    intro deeds deeds' s t u h h'
    rw [h', h, List.append_assoc]

theorem tracing_provide (provide : Provider host P) (p : Point host.Routine)
    (s : P × host.traced.World) :
    tracing.rel [.requested p (provide.traced p s).1] s (provide.traced p s).2 := rfl

/-- A call that is noted comes last: it completes the task, or breaks it. -/
theorem ends_call (d : Definition host.traced) {task : Task host.Routine}
    {mark : Except Failure Unit → Deed host.toVocabulary}
    {log deeds : List (Deed host.toVocabulary)} (outcome : Except Failure Unit)
    (hok : Component.Completes (V := host.toVocabulary) d.component receiver task
      (deeds ++ [mark (.ok ())]))
    (herror : ∀ cause, Component.Breaks (V := host.toVocabulary) d.component receiver task
      (deeds ++ [mark (.error cause)]) cause) :
    d.Ends receiver [task] log (log ++ deeds ++ [mark outcome])
      (outcome.mapError (.instantiation d.name task.site)) := by
  rw [List.append_assoc]
  cases outcome with
  | ok => exact ⟨_, none, rfl, .of_completes hok, rfl⟩
  | error cause => exact ⟨_, _, rfl, .breaks (herror cause), rfl⟩

/-- A call for which nothing has to be asked. -/
theorem enacts_call (d : Definition host.traced) {task : Task host.Routine}
    {mark : Except Failure Unit → Deed host.toVocabulary}
    (hok : Component.Completes (V := host.toVocabulary) d.component receiver task [mark (.ok ())])
    (herror : ∀ cause, Component.Breaks (V := host.toVocabulary) d.component receiver task
      [mark (.error cause)] cause) (x : Effect host.World Unit) :
    d.Enacts receiver Prod.snd [task] (d.blame task.site (x.noting fun r => some (mark r))) := by
  intro s
  have hends : d.Ends receiver [task] s.2 (s.2 ++ [] ++ [mark (x s.1).1]) _ :=
    d.ends_call (x s.1).1 hok herror
  rwa [List.append_nil] at hends

/-- First something is asked for, which completes nothing but may break the task; then comes a call
    with the answers. -/
theorem enacts_asking (d : Definition host.traced) {β : Type} (task : Task host.Routine)
    (mark : β → Except Failure Unit → Deed host.toVocabulary) (y : β → Effect host.World Unit)
    {x : Effect (P × host.traced.World) β}
    (hasked : ∀ s, (∃ b t deeds, x s = (.ok b, t) ∧ tracing.rel deeds s t ∧
        Component.Completes (V := host.toVocabulary) d.component receiver task
          (deeds ++ [mark b (.ok ())]) ∧
        ∀ cause, Component.Breaks (V := host.toVocabulary) d.component receiver task
          (deeds ++ [mark b (.error cause)]) cause) ∨
      ∃ cause t deeds, x s = (.error (.instantiation d.name task.site cause), t) ∧
        tracing.rel deeds s t ∧
        Component.Breaks (V := host.toVocabulary) d.component receiver task deeds cause) :
    d.Enacts receiver (fun s : P × host.traced.World => s.2.2) [task]
      (x >>= fun b => d.blame task.site (Effect.onWorld ((y b).noting fun r => some (mark b r)))) := by
  intro s
  rcases hasked s with ⟨b, t, deeds, hx, ht, hok, herror⟩ | ⟨cause, t, deeds, hx, ht, hbreaks⟩
  · have hends : d.Ends receiver [task] s.2.2 (s.2.2 ++ deeds ++ [mark b (y b t.2.1).1]) _ :=
      d.ends_call (y b t.2.1).1 hok herror
    have htrace : t.2.2 = s.2.2 ++ deeds := ht
    rw [Effect.bind_ok hx]
    rw [← htrace] at hends
    exact hends
  · rw [Effect.bind_error hx]
    exact ⟨deeds, _, ht, .breaks hbreaks, rfl⟩

/-! ## What wiring consists of -/

/-- The field of a point is filled. -/
theorem enacts_injectField (p : Point host.traced.Routine) :
    d.Enacts receiver (fun s : P × host.traced.World => s.2.2) p.tasks
      (d.injectField receiver provide.traced p) := by
  rw [injectField, Point.tasks]
  cases hfield : p.field? with
  | none => exact .nothing
  | some f =>
    have hmember : p.member = f.member := Point.member_of_field? hfield
    refine d.enacts_asking (.duty (.field p f)) (.assigned f.routine receiver)
      (host.assign f.routine receiver) fun s => ?_
    have hasked := tracing_provide provide p s
    rw [request, blame, Effect.blaming_apply, hmember]
    rcases hr : provide.traced p s with ⟨cause | value, t⟩
    · rw [hr] at hasked
      exact Or.inr ⟨cause, t, _, rfl, hasked, .fieldRefused⟩
    · rw [hr] at hasked
      exact Or.inl ⟨value, t, _, rfl, hasked, .duty (.field value), fun cause => .field value⟩

/-- A method is called with what was given for its points. -/
theorem enacts_injectMethod (m : Method host.traced.Routine) :
    d.Enacts receiver (fun s : P × host.traced.World => s.2.2) [.duty (.method m)]
      (d.injectMethod receiver provide.traced m) := by
  rw [injectMethod]
  refine d.enacts_asking (.duty (.method m)) (.performed m.routine receiver)
    (host.perform m.routine receiver) fun s => ?_
  rcases d.arguments_asked (tracing_provide provide) m.member s with
    ⟨values, t, hasked, hlength, htrace⟩ |
      ⟨before, p, after, values, cause, t, hpoints, hlength, hasked, htrace⟩
  · exact Or.inl ⟨values, t, _, hasked, htrace, .duty (.method hlength),
      fun cause => .method hlength⟩
  · exact Or.inr ⟨cause, t, _, hasked, htrace, .methodRefused hpoints hlength⟩

theorem enacts_callInitializer (m : Method host.traced.Routine) :
    d.Enacts receiver Prod.snd [.duty (.initializer m)] (d.callInitializer receiver m) :=
  d.enacts_call (.duty .initializer) (fun _ => .initializer) (host.perform m.routine receiver [])

/-- Resources are supplied, where a supplier is configured. -/
theorem enacts_supply (d : Definition host.traced) (receiver : host.traced.Ref) :
    d.Enacts receiver Prod.snd (d.resources.toList.map .supply) (d.supply receiver) := by
  rw [supply]
  cases d.resources with
  | none => exact .nothing
  | some supplier => exact d.enacts_call .supply (fun _ => .supply) (host.supply supplier receiver)

/-- A level does what is to be done on it. -/
theorem enacts_injectLevel (level : String) :
    d.Enacts receiver (fun s : P × host.traced.World => s.2.2) (d.tasksOf level)
      (d.injectLevel receiver provide.traced level) := by
  rw [injectLevel, d.tasksOf_eq, List.append_assoc, List.append_assoc, List.map_eq_flatMap,
    List.map_eq_flatMap]
  refine .andThen (.each fun p _ => enacts_injectField p) ?_
  refine .andThen (.each fun m _ => enacts_injectMethod m) ?_
  refine .andThen (.onWorld (.each fun m _ => enacts_callInitializer m)) ?_
  exact .onWorld (d.enacts_supply receiver)

/-- All levels do what is to be done on them, in the order of the hierarchy. -/
theorem enacts_inject (d : Definition host.traced) (receiver : host.traced.Ref)
    (provide : Provider host P) :
    d.Enacts receiver (fun s : P × host.traced.World => s.2.2)
      (d.component.hierarchy.flatMap d.tasksOf) (d.inject receiver provide.traced) :=
  .each fun level _ => enacts_injectLevel level

/-- **What injection does, up to the first failure.**  Whatever the definition, the provider and the
    instance are, and whatever the callbacks do:
    1. The trace of an injection is that of the tasks of all levels, in the order of the hierarchy: to
       fill the fields of the level, in the order of their points; to call its injected methods, and
       then its initializers; and to have resources supplied, where a supplier is configured.
    2. If a request or a call fails, the trace ends with it, and the result is that the component could
       not be instantiated, for the member of the task or the resources, and by that cause; otherwise
       the result is `ok`.
    3. A method is injected if it has a point of plain role on the level, and as the first such point
       has it; each key once, in the order of these first points.
    4. What is asked for to call it is all parameter points with its key, by position. -/
theorem injection_trace (d : Definition host.traced) (receiver : host.traced.Ref)
    (provide : Provider host P) (s : P × host.traced.World) :
    (∃ deeds stop, (d.inject receiver provide.traced s).2.2.2 = s.2.2 ++ deeds ∧
      Component.Enacted (V := host.toVocabulary) d.component receiver
        (d.component.hierarchy.flatMap d.tasksOf) deeds stop ∧
      (d.inject receiver provide.traced s).1 = d.verdict stop) ∧
    (∀ level m, m ∈ d.component.injectedMethods level ↔
      ((d.component.pointsOf level).filterMap (·.plainMethod?)).find?
        (fun n => n.member = m.member) = some m) ∧
    (∀ level, (d.component.injectedMethods level).map (·.member) =
      (((d.component.pointsOf level).filterMap (·.plainMethod?)).map (·.member)).eraseDups) ∧
    ∀ key, (d.component.parameterPoints key).Perm
        (d.component.points.filter fun p => p.member = key ∧ p.parameter?.isSome) ∧
      ((d.component.parameterPoints key).filterMap fun p =>
        p.parameter?.map Prod.snd).Pairwise (· ≤ ·) := by
  refine ⟨d.enacts_inject receiver provide s, fun level m => ?_, fun level => ?_,
    fun key => ⟨d.component.parameterPoints_perm key, d.component.parameterPoints_sorted key⟩⟩
  · exact mem_eraseDupsBy_iff (fun m : Method host.traced.Routine => m.member)
  · exact map_eraseDupsBy (fun m : Method host.traced.Routine => m.member) _

/-- Of three fields the second cannot be set, and the third is not asked for. -/
example :
    let d : Definition Host.numbers.traced := { component := Component.numbered 8 "Leaf" [4, 9, 5] [] }
    let receiver : Host.numbers.traced.Ref := .plain (8 : Nat)
    let point (n : Nat) : Point Nat := ⟨.field ⟨⟨"Leaf", "field"⟩, n⟩, ⟨n⟩, .plain⟩
    let deeds : List (Deed Host.numbers.toVocabulary) :=
      [.requested (point 4) (.ok (.plain (4 : Nat))),
        .assigned (4 : Nat) receiver (.plain (4 : Nat)) (.ok ()),
        .requested (point 9) (.ok (.plain (9 : Nat))),
        .assigned (9 : Nat) receiver (.plain (9 : Nat)) (.error (.raised "nine"))]
    d.inject receiver Provider.numbers.traced ((), [], []) =
      (.error (.instantiation "Leaf" (.member ⟨"Leaf", "field"⟩) (.raised "nine")), (), [4, 9],
        deeds) := by
  intro d receiver point deeds
  dsimp only [d, receiver, point, deeds]
  cbv

end Definition

end Wiring
