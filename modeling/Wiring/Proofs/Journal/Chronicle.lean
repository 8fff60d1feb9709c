/-
  The journal of a container read as a chronicle of its objects.

  1. `Object` is what has to be remembered of an object that was created: where its story begins in
     the journal, its definition with the lifecycle chains, and the live interceptors of its crew.
  2. `Undoing`, `Work` and `Chronicle` are the grammar of the journal: what destroying writes down,
     what creating does, and what a whole run does.  An interceptor factory is called behind the
     beginning of a creation and nowhere else; what is passed through for an object later on is
     `Served` by the live interceptors that were made there.
  3. The journal itself says where the parts begin: creations begin with `begun` and objects are
     complete with `stored`, what surrounds a destruction is `released` and `retired`, and a
     business call is announced by `invoked`.
  4. `Attempted` and `Completed` are a single creation on its way into the grammar: as far as it
     came, or ready to be stored.
-/
import Wiring.Proofs.Definition.Served

namespace Wiring

variable {host : Host}

/-- `Object host` — an object that was created. -/
structure Object (host : Host) where
  /-- The place in the journal where its creation began. -/
  start : Nat
  handle : Handle
  entry : Stored host.toVocabulary
  definition : Definition host
  chains : LifecycleChains host.Routine
  live : host.LiveSet

namespace Object

/-- `o.crew` — the interceptors of all chains of the object. -/
def crew (o : Object host) : List (Interceptor host.Routine) := o.definition.crew o.chains

/-- `o.Formed` — the object is of its definition, carries its live interceptors if there is anything
    to intercept, and has one for each interceptor of its crew. -/
structure Formed (o : Object host) : Prop where
  type : o.definition.component.type = o.entry.type
  chains : o.definition.chains = .ok o.chains
  carries : o.definition.Carries o.chains o.live o.entry.reference
  covers : Covers o.live o.crew

/-- `o.Recorded log` — where the story of the object begins, the factories are called that its live
    interceptors come from, one call for each name in its crew; its constructor and its callbacks
    run behind that, with these live interceptors, and then it is stored. -/
def Recorded (o : Object host) (log : Journal host.toVocabulary) : Prop :=
  ∃ before calls arguments con wiring post after,
    log = before ++ (.begun o.entry.type :: calls ++ (arguments ++ con ++ wiring ++ post) ++
      .stored o.handle o.entry :: after) ∧
    before.length = o.start ∧ Recruits o.crew o.live calls ∧ o.definition.Constructs o.live con ∧
    o.definition.Undergoes o.chains .postConstruct o.live post

theorem Recorded.append {o : Object host} {log : Journal host.toVocabulary} (h : o.Recorded log)
    (seg : Journal host.toVocabulary) : o.Recorded (log ++ seg) := by
  obtain ⟨before, calls, arguments, con, wiring, post, after, rfl, hstory⟩ := h
  exact ⟨before, calls, arguments, con, wiring, post, after ++ seg, by simp, hstory⟩

/-- `o.places` — the places in the journal of the factory calls for the object. -/
def places (o : Object host) : List Nat :=
  List.range' (o.start + 1) (Interceptor.distinct o.crew).length

theorem Recorded.getElem?_start {o : Object host} {log : Journal host.toVocabulary}
    (h : o.Recorded log) : log[o.start]? = some (.begun o.entry.type) := by
  obtain ⟨before, calls, arguments, con, wiring, post, after, rfl, hstart, -⟩ := h
  rw [← hstart]
  simp

/-- At its places, there are factory calls. -/
theorem Recorded.getElem?_of_mem_places {o : Object host} {log : Journal host.toVocabulary}
    (h : o.Recorded log) {n : Nat} (hn : n ∈ o.places) :
    ∃ r outcome, log[n]? = some (.made r outcome) := by
  obtain ⟨before, calls, arguments, con, wiring, post, after, rfl, hstart, hcalls, -, -⟩ := h
  rw [places, List.mem_range'_1, ← hcalls.length_calls, ← hstart] at hn
  obtain ⟨k, rfl⟩ : ∃ k, n = before.length + (k + 1) := ⟨n - before.length - 1, by omega⟩
  have hk : k < calls.length := by omega
  obtain ⟨r, outcome, hmade⟩ := hcalls.made calls[k] (List.getElem_mem hk)
  refine ⟨r, outcome, ?_⟩
  rw [List.getElem?_append_right (Nat.le_add_right ..), Nat.add_sub_cancel_left, List.append_assoc,
    List.cons_append, List.getElem?_cons_succ, List.getElem?_append_left hk,
    List.getElem?_eq_getElem hk, hmade]

/-- Two objects that began apart have no factory call in common. -/
theorem Recorded.disjoint_places {o o' : Object host} {log : Journal host.toVocabulary}
    (h : o.Recorded log) (h' : o'.Recorded log) (hne : o.start ≠ o'.start) :
    ∀ n ∈ o.places, n ∉ o'.places := by
  -- among the calls for the one, the story of the other cannot begin
  have hbefore : ∀ {a b : Object host}, a.Recorded log → b.Recorded log → a.start < b.start →
      ∀ n ∈ a.places, n ∉ b.places := by
    intro a b ha hb hlt n hn hn'
    rw [places, List.mem_range'_1] at hn hn'
    have hmem : b.start ∈ a.places := by
      rw [places, List.mem_range'_1]
      omega
    obtain ⟨r, outcome, hmade⟩ := ha.getElem?_of_mem_places hmem
    rw [hb.getElem?_start] at hmade
    cases hmade
  intro n hn hn'
  rcases Nat.lt_or_gt_of_ne hne with hlt | hgt
  · exact hbefore h h' hlt n hn hn'
  · exact hbefore h' h hgt n hn' hn

end Object

/-! ## The grammar -/

/-- `Undoing objs log log'` — objects out of `objs` were destroyed, which led from `log` to `log'`. -/
inductive Undoing (objs : List (Object host)) :
    Journal host.toVocabulary → Journal host.toVocabulary → Prop where
  | done {log} : Undoing objs log log
  | dead {log log' h} (rest : Undoing objs (log ++ [.released h false]) log') : Undoing objs log log'
  | live {log log' o seg outcome} (ho : o ∈ objs)
      (hseg : o.definition.Undergoes o.chains .preDestroy o.live seg)
      (rest : Undoing objs (log ++ (.released o.handle true :: seg ++
        [.retired o.handle o.entry outcome])) log') : Undoing objs log log'

/-- `e.isWiring` — whether `e` is written down when an instance is wired. -/
def Event.isWiring {V : Vocabulary} : Event V → Bool
  | .assigned _ _ _ _ | .performed _ _ _ _ | .supplied _ _ _ => true
  | _ => false

/-- `Work objs log objs' log'` — while instances were made and wired, the journal went from `log` to
    `log'`, and the objects from `objs` to `objs'`. -/
inductive Work : List (Object host) → Journal host.toVocabulary → List (Object host) →
    Journal host.toVocabulary → Prop where
  | rest {objs log} : Work objs log objs log
  | wired {objs log objs' log' e} (before : Work objs log objs' log') (he : e.isWiring = true) :
      Work objs log objs' (log' ++ [e])
  /-- A creation that succeeded: the factories are called first, then come the arguments, the
      construction, the wiring, and the callbacks. -/
  | made {objs log objs₁ log₁ objs₂ log₂ objs₃ log₃ calls con post} {o : Object host}
      (before : Work objs log objs₁ log₁) (hstart : o.start = log₁.length)
      (hcalls : Recruits o.crew o.live calls)
      (arguments : Work objs₁ (log₁ ++ .begun o.entry.type :: calls) objs₂ log₂)
      (hcon : o.definition.Constructs o.live con)
      (wiring : Work objs₂ (log₂ ++ con) objs₃ log₃)
      (hpost : o.definition.Undergoes o.chains .postConstruct o.live post) (hformed : o.Formed) :
      Work objs log (objs₃ ++ [o]) (log₃ ++ post ++ [.stored o.handle o.entry])
  /-- A creation that was cut short, at whatever point, and undone. -/
  | failed {objs log objs₁ log₁ objs₂ log₂ objs₃ log₃ log₄ calls con post} {d : Definition host}
      (before : Work objs log objs₁ log₁) (hcalls : d.Tries calls)
      (arguments : Work objs₁ (log₁ ++ .begun d.component.type :: calls) objs₂ log₂)
      (hcon : con = [] ∨ ∃ chains live, d.Enlists calls chains live ∧ d.Constructs live con)
      (wiring : Work objs₂ (log₂ ++ con) objs₃ log₃)
      (hpost : post = [] ∨ ∃ chains live, d.Enlists calls chains live ∧
        d.Undergoes chains .postConstruct live post)
      (undo : Undoing objs₃ (log₃ ++ post) log₄) : Work objs log objs₃ log₄

/-- `Chronicle objs log` — `log` is the journal of a run in which `objs` were created. -/
inductive Chronicle : List (Object host) → Journal host.toVocabulary → Prop where
  | empty : Chronicle [] []
  | create {objs log objs' log'} (h : Chronicle objs log) (hwork : Work objs log objs' log') :
      Chronicle objs' log'
  | destroy {objs log log'} (h : Chronicle objs log) (hundo : Undoing objs log log') :
      Chronicle objs log'
  | invoke {objs log o p name arguments g seg} (h : Chronicle objs log) (ho : o ∈ objs)
      (hp : o.entry.reference = .intercepted p)
      (hg : o.definition.businessMethods.get? name = some g)
      (hseg : Served .aroundInvoke (.call p.target g.method) o.live g.chain seg) :
      Chronicle objs (log ++ .invoked p name arguments :: seg)
  | refuse {objs log o p name arguments} (h : Chronicle objs log) (ho : o ∈ objs)
      (hp : o.entry.reference = .intercepted p)
      (hg : o.definition.businessMethods.get? name = none) :
      Chronicle objs (log ++ [.invoked p name arguments])

theorem Work.trans {objs objs' objs'' : List (Object host)}
    {log log' log'' : Journal host.toVocabulary} (h : Work objs log objs' log')
    (h' : Work objs' log' objs'' log'') : Work objs log objs'' log'' := by
  induction h' with
  | rest => exact h
  | wired _ he ih => exact (ih h).wired he
  | made _ hstart hcalls arguments hcon wiring hpost hformed ih =>
    exact (ih h).made hstart hcalls arguments hcon wiring hpost hformed
  | failed _ hcalls arguments hcon wiring hpost undo ih =>
    exact (ih h).failed hcalls arguments hcon wiring hpost undo

/-- Wiring is written down event by event. -/
theorem Work.of_wiring {objs : List (Object host)} {log seg : Journal host.toVocabulary}
    (h : ∀ e ∈ seg, e.isWiring = true) : Work objs log objs (log ++ seg) := by
  induction seg generalizing log with
  | nil =>
    rw [List.append_nil]
    exact .rest
  | cons e seg ih =>
    rw [List.forall_mem_cons] at h
    have hrest : Work objs (log ++ [e]) objs (log ++ [e] ++ seg) := ih h.2
    rw [List.append_assoc, List.singleton_append] at hrest
    exact (Work.rest.wired h.1).trans hrest

/-! ## Single creations -/

/-- `Attempted d objs log objs' log'` — behind `log`, the creation of an instance of `d` came as far
    as `log'`. -/
def Attempted (d : Definition host) (objs : List (Object host)) (log : Journal host.toVocabulary)
    (objs' : List (Object host)) (log' : Journal host.toVocabulary) : Prop :=
  ∃ calls con post objs₁ log₁ log₂, d.Tries calls ∧
    Work objs (log ++ .begun d.component.type :: calls) objs₁ log₁ ∧
    (con = [] ∨ ∃ chains live, d.Enlists calls chains live ∧ d.Constructs live con) ∧
    Work objs₁ (log₁ ++ con) objs' log₂ ∧
    (post = [] ∨ ∃ chains live, d.Enlists calls chains live ∧
      d.Undergoes chains .postConstruct live post) ∧
    log' = log₂ ++ post

/-- `Completed d objs log objs' log' reference` — behind `log`, an instance of `d` was made and
    wired, and its callbacks have run; it is ready under `reference`. -/
def Completed (d : Definition host) (objs : List (Object host)) (log : Journal host.toVocabulary)
    (objs' : List (Object host)) (log' : Journal host.toVocabulary) (reference : host.Ref) : Prop :=
  ∃ chains live calls con post objs₁ log₁ log₂, d.Enlists calls chains live ∧
    Work objs (log ++ .begun d.component.type :: calls) objs₁ log₁ ∧
    d.Constructs live con ∧ Work objs₁ (log₁ ++ con) objs' log₂ ∧
    d.Undergoes chains .postConstruct live post ∧ d.Carries chains live reference ∧
    log' = log₂ ++ post

variable {d : Definition host} {objs objs' : List (Object host)}
  {log log' log'' : Journal host.toVocabulary}

/-- It came as far as the factories. -/
theorem Attempted.of_calls {calls : Journal host.toVocabulary} (hcalls : d.Tries calls) :
    Attempted d objs log objs (log ++ .begun d.component.type :: calls) :=
  ⟨calls, [], [], objs, _, _, hcalls, .rest, Or.inl rfl, .rest, Or.inl rfl, by simp⟩

/-- It came as far as the wiring. -/
theorem Attempted.of_wiring {calls con log₁ : Journal host.toVocabulary}
    {objs₁ : List (Object host)} (hcalls : d.Tries calls)
    (harguments : Work objs (log ++ .begun d.component.type :: calls) objs₁ log₁)
    (hcon : con = [] ∨ ∃ chains live, d.Enlists calls chains live ∧ d.Constructs live con)
    (hwiring : Work objs₁ (log₁ ++ con) objs' log') : Attempted d objs log objs' log' :=
  ⟨calls, con, [], objs₁, log₁, log', hcalls, harguments, hcon, hwiring, Or.inl rfl,
    (List.append_nil log').symm⟩

theorem Attempted.undo (h : Attempted d objs log objs' log') (hundo : Undoing objs' log' log'') :
    Work objs log objs' log'' := by
  obtain ⟨calls, con, post, objs₁, log₁, log₂, hcalls, harguments, hcon, hwiring, hpost, rfl⟩ := h
  exact .failed .rest hcalls harguments hcon hwiring hpost hundo

/-- What is ready and stored is an object. -/
theorem Completed.store {reference : host.Ref} (h : Completed d objs log objs' log' reference)
    (handle : Handle) {e : Stored host.toVocabulary} (htype : e.type = d.component.type)
    (hreference : e.reference = reference) :
    ∃ o : Object host, o.handle = handle ∧ o.entry = e ∧ o.definition = d ∧ o.Formed ∧
      Work objs log (objs' ++ [o]) (log' ++ [.stored handle e]) := by
  obtain ⟨chains, live, calls, con, post, objs₁, log₁, log₂, ⟨hchains, hcalls⟩, harguments, hcon,
    hwiring, hpost, hcarries, rfl⟩ := h
  let o : Object host := ⟨log.length, handle, e, d, chains, live⟩
  have hformed : o.Formed := ⟨htype.symm, hchains, hreference ▸ hcarries, hcalls.covers⟩
  rw [← htype] at harguments
  exact ⟨o, rfl, rfl, rfl, hformed,
    Work.made (o := o) .rest rfl hcalls harguments hcon hwiring hpost hformed⟩

end Wiring
