/-
  Environment interceptors around binding interceptors, and both around the goal.

  1. `s.Admits phase goal known active e` says what may happen in a pass through the chain of the
     sources `s`.  An environment interceptor is brought in by those before it in its source; a
     binding interceptor by all environment interceptors and those before it in its own source; the
     goal is reached with everybody active; and whoever is left is the innermost.
  2. `s.Encloses phase goal known seg` — every moment of `seg` is like that.
  3. Construction, lifecycle phases and business calls each draw their chain from a source of their
     own: of the constructor, of the class, of the method.  What they write down is enclosed by it.
-/
import Mathlib
import Wiring.Proofs.Definition.Attended
import Wiring.Proofs.Definition.Served
import Wiring.Proofs.Invocation.Nesting
import Wiring.Proofs.Host.Numbers

namespace Wiring

/-! ## Sources -/

namespace Sources

variable {ρ : Type} {V : Vocabulary}

/-- `s.outer p` — the environment interceptors that take part in `p`, in declared order. -/
def outer (s : Sources ρ) (p : Phase) : List (Interceptor ρ) :=
  s.environment.filter (·.intercepts p)

/-- `s.inner p` — the binding interceptors that take part in `p`, in declared order. -/
def inner (s : Sources ρ) (p : Phase) : List (Interceptor ρ) := s.binding.filter (·.intercepts p)

/-- `s.Admits p goal known active e` — `e` may happen in phase `p` while `active` are. -/
inductive Admits (s : Sources V.Routine) (p : Phase) (goal : Goal V)
    (known : String → Option V.Live) : List V.Live → Event V → Prop where
  | environment {before i after active e} (hsource : s.outer p = before ++ i :: after)
    (hactive : Stand known before active) (he : e.Brings p known i) : s.Admits p goal known active e
  | binding {before i after active e} (hsource : s.inner p = before ++ i :: after)
    (hactive : Stand known (s.outer p ++ before) active) (he : e.Brings p known i) :
    s.Admits p goal known active e
  | goal {active e} (hactive : Stand known (s.outer p ++ s.inner p) active) (he : goal.Writes e) :
    s.Admits p goal known active e
  | back {before i active it outcome} (hchain : before ++ [i] <+: s.outer p ++ s.inner p)
    (hactive : Stand known before active) (hit : known i.name = some it) :
    s.Admits p goal known (active ++ [it]) (.left it p outcome)

/-- `s.Encloses p goal known seg` — in `seg`, those who are active are a beginning of the chain of `s`
    at any time, each event is admitted by them, and nobody is left active. -/
structure Encloses (s : Sources V.Routine) (p : Phase) (goal : Goal V)
    (known : String → Option V.Live) (seg : Journal V) : Prop where
  prefix_active : ∀ before, before <+: seg →
    ∃ chain, chain <+: s.outer p ++ s.inner p ∧ Stand known chain (Journal.active before)
  moment : ∀ before e after, seg = before ++ e :: after →
    s.Admits p goal known (Journal.active before) e
  closed : Journal.active seg = []

variable {s : Sources V.Routine} {p : Phase} {goal : Goal V} {known : String → Option V.Live}

/-- A moment of the chain, by the source of the interceptor that it brings in. -/
theorem Admits.of_moment {active : List V.Live} {e : Event V}
    (h : Moment p goal known (s.chain p) active e) : s.Admits p goal known active e := by
  have hchain : s.chain p = s.outer p ++ s.inner p := s.chain_eq_append p
  rw [hchain] at h
  cases h with
  | goal hactive he => exact .goal hactive he
  | @next before i after _ _ hsplit hactive he =>
    rcases List.append_eq_append_iff.1 hsplit with ⟨mid, rfl, hinner⟩ | ⟨mid, houter, hrest⟩
    · exact .binding hinner hactive he
    · cases mid with
      | nil =>
        rw [List.append_nil] at houter
        have hfirst : s.inner p = [] ++ i :: after := hrest.symm
        exact .binding hfirst (by rwa [List.append_nil, houter]) he
      | cons j mid =>
        cases hrest
        exact .environment houter hactive he
  | @back before i after active it outcome hsplit hactive hit =>
    refine .back ⟨after, ?_⟩ hactive hit
    rw [hsplit, List.append_assoc, List.singleton_append]

/-- Nothing is enclosed by any sources. -/
theorem Encloses.nil : s.Encloses p goal known [] where
  prefix_active before h := by
    rw [List.prefix_nil.1 h]
    exact ⟨[], List.nil_prefix, .nil⟩
  moment before e after h := by cases before <;> cases h
  closed := rfl

/-- What happens on a pass through the chain of `s` is enclosed by `s`. -/
theorem Encloses.of_passes {seg : Journal V} (h : Passes p goal known (s.chain p) seg) :
    s.Encloses p goal known seg := by
  obtain ⟨hobserves, hover⟩ := h.observes
  refine ⟨fun before hbefore => ?_, fun before e after hsplit => .of_moment (hobserves.moment hsplit),
    hover⟩
  obtain ⟨after, rfl⟩ := hbefore
  cases after with
  | nil =>
    rw [List.append_nil] at hover
    exact ⟨[], List.nil_prefix, by rw [hover]; exact .nil⟩
  | cons e after =>
    obtain ⟨chain, hchain, hactive⟩ := (hobserves.moment rfl).prefix_active
    rw [s.chain_eq_append p] at hchain
    exact ⟨chain, hchain, hactive⟩

end Sources

namespace Component

variable {ρ : Type}

/-- `c.constructorSources k` — what the chain around constructor `k` is drawn from. -/
def constructorSources (c : Component ρ) (k : Constructor ρ) : Sources ρ :=
  (c.declarations.map (·.constructorSources k.member)).getD .none

/-- `c.methodSources name` — what the chain of the business method `name` is drawn from. -/
def methodSources (c : Component ρ) (name : String) : Sources ρ :=
  (c.declarations.map (·.methodSources name)).getD .none

/-- `c.classSources` — what the lifecycle chains are drawn from; binding interceptors that were taken
    before are there no more. -/
def classSources (c : Component ρ) : Sources ρ :=
  (c.declarations.map fun d => ⟨d.environment, d.classBinding.getD []⟩).getD .none

theorem constructionChain_eq_chain (c : Component ρ) (k : Constructor ρ) :
    c.constructionChain k = (c.constructorSources k).chain .aroundConstruct := by
  rw [constructionChain, constructorSources]
  cases c.declarations <;> rfl

theorem invocationChain_eq_chain (c : Component ρ) (name : String) :
    c.invocationChain name = (c.methodSources name).chain .aroundInvoke := by
  rw [invocationChain, methodSources]
  cases c.declarations <;> rfl

/-- The lifecycle chains are drawn from the sources of the class. -/
theorem takeLifecycle_eq_ofSources {c : Component ρ} {chains : LifecycleChains ρ}
    (h : (takeLifecycle c).1 = .ok chains) : chains = .ofSources c.classSources := by
  rw [takeLifecycle] at h
  rw [classSources]
  cases hd : c.declarations with
  | none =>
    rw [hd] at h
    cases h
    rfl
  | some d =>
    rw [hd] at h
    dsimp only at h
    cases hb : d.classBinding with
    | none => rw [hb] at h; cases h
    | some binding =>
      rw [hb] at h
      cases h
      rw [Option.map_some, Option.getD_some, hb, Option.getD_some]

end Component

theorem LifecycleChains.forPhase_ofSources {ρ : Type} (s : Sources ρ) {p : Phase}
    (hp : p = .postConstruct ∨ p = .preDestroy) : (ofSources s).forPhase p = s.chain p := by
  rcases hp with rfl | rfl <;> rfl

/-! ## What a definition does -/

variable {host : Host}

namespace Definition

/-- The chains that are resolved first are those of the class. -/
theorem chains_eq_ofSources {d : Definition host} (hd : d.resolved = none)
    {chains : LifecycleChains host.Routine} (h : d.chains = .ok chains) :
    chains = .ofSources d.component.classSources := by
  rw [Definition.chains, lifecycleChains, hd] at h
  exact Component.takeLifecycle_eq_ofSources h

/-- The chain of a business method is drawn from the sources of that method. -/
theorem chain_of_businessMethods {d : Definition host} {name : String}
    {g : Guarded host.Routine} (hg : d.businessMethods.get? name = some g) :
    g.chain = (d.component.methodSources name).chain .aroundInvoke := by
  obtain ⟨method, -, heq⟩ := List.mem_map.1 (Table.mem_of_get?_ofList hg)
  cases heq
  exact d.component.invocationChain_eq_chain _

/-- The chains in the table of business methods are those of the methods that are declared. -/
theorem exists_businessMethods_iff (d : Definition host)
    {P : List (Interceptor host.Routine) → Prop} :
    (∃ g ∈ d.businessMethods.values, P g.chain) ↔
      ∃ method ∈ d.component.business, P (d.component.invocationChain method.member.name) := by
  have hchain : ∀ {name g}, d.businessMethods.get? name = some g →
      g.chain = d.component.invocationChain name := fun hg =>
    (chain_of_businessMethods hg).trans (d.component.invocationChain_eq_chain _).symm
  constructor
  · rintro ⟨g, hg, hP⟩
    obtain ⟨⟨name, _⟩, hentry, rfl⟩ := List.mem_map.1 hg
    have hget := Table.get?_eq_some_iff.2 hentry
    obtain ⟨method, hmethod, heq⟩ := List.mem_map.1 (Table.mem_of_get?_ofList hget)
    obtain rfl : method.member.name = name := congrArg Prod.fst heq
    exact ⟨method, hmethod, hchain hget ▸ hP⟩
  · rintro ⟨method, hmethod, hP⟩
    have hkey : method.member.name ∈ d.businessMethods.keys := by
      rw [businessMethods, Table.mem_keys_ofList, List.map_map]
      exact List.mem_map_of_mem (f := fun method => method.member.name) hmethod
    obtain ⟨g, hg⟩ := Option.isSome_iff_exists.1 (Table.contains_iff.2 hkey)
    exact ⟨g, List.mem_map_of_mem (f := Prod.snd) (Table.mem_entries_of_get? hg), hchain hg ▸ hP⟩

/-- A construction is a pass through its chain, and perhaps direct calls after it. -/
theorem construct_passes (d : Definition host.journaled) (k : Constructor host.journaled.Routine)
    (live : host.journaled.LiveSet) (arguments : List host.journaled.Ref)
    (s : host.journaled.World) :
    ∃ (pass direct : Journal host.toVocabulary) (known : String → Option host.Live),
      (d.construct k live arguments s).2.2 = s.2 ++ (pass ++ direct) ∧ Knows known (some live) ∧
      Passes .aroundConstruct (.construct k) known (d.component.constructionChain k) pass ∧
      ∀ e ∈ direct, (Goal.construct k).Writes e := by
  by_cases hempty : (d.component.constructionChain k).isEmpty
  · -- without a chain, the call of the constructor is all of the pass
    rw [construct, if_pos hempty]
    refine ⟨[_], [], _, rfl, knows_bind (some live), ?_, List.forall_mem_nil _⟩
    rw [List.isEmpty_iff.1 hempty]
    exact .of_writes rfl
  · obtain ⟨direct, hdirect, hwrites⟩ := d.construct_direct hempty live arguments s
    obtain ⟨hknown, pass, hpass, hpasses⟩ := (Invocation.construction
      (d.component.constructionChain k) (some live) k arguments).proceed_passes rfl rfl s
    rw [hpass, List.append_assoc] at hdirect
    exact ⟨pass, direct, _, hdirect, hknown, hpasses, hwrites⟩

/-- A construction, up to the end of its chain. -/
theorem construct_encloses {d : Definition host.journaled}
    {k : Constructor host.journaled.Routine} {sources : Sources host.journaled.Routine}
    (hchain : d.component.constructionChain k = sources.chain .aroundConstruct)
    (live : host.journaled.LiveSet) (arguments : List host.journaled.Ref)
    (s : host.journaled.World) :
    ∃ (pass direct : Journal host.toVocabulary) (known : String → Option host.Live),
      (d.construct k live arguments s).2.2 = s.2 ++ (pass ++ direct) ∧ Knows known (some live) ∧
      sources.Encloses .aroundConstruct (.construct k) known pass ∧
      ∀ e ∈ direct, (Goal.construct k).Writes e := by
  obtain ⟨pass, direct, known, hlog, hknown, hpasses, hwrites⟩ :=
    d.construct_passes k live arguments s
  exact ⟨pass, direct, known, hlog, hknown, .of_passes (hchain ▸ hpasses), hwrites⟩

/-- A lifecycle phase, after the reference has been looked behind. -/
theorem runPhase_encloses {d : Definition host.journaled}
    {sources : Sources host.journaled.Routine}
    (hsources : ∀ chains, d.chains = .ok chains → chains = .ofSources sources) {phase : Phase}
    (hphase : phase = .postConstruct ∨ phase = .preDestroy) (reference : host.journaled.Ref)
    (s : host.journaled.World) :
    ∃ (pass : Journal host.toVocabulary) (known : String → Option host.Live) (target : host.Ref),
      (runPhase phase reference (d, s)).2.2.2 = (d.present reference s).2.2 ++ pass ∧
      (∀ current, (d.present reference s).1 = .ok current →
        Knows known ((d.scheme.carrier? current).map (·.interceptors))) ∧
      sources.Encloses phase (.callbacks target (d.component.callbacks phase)) known pass := by
  rw [runPhase_apply]
  rcases hr : d.present reference s with ⟨f | current, t⟩
  · exact ⟨[], fun _ => none, reference, (List.append_nil _).symm, nofun, .nil⟩
  · let supplied := (d.scheme.carrier? current).map (·.interceptors)
    let target := ((d.scheme.carrier? current).map (·.target)).getD current
    have hsupplied : ∀ known, Knows known supplied → ∀ other,
        (.ok current : Except Failure host.Ref) = .ok other →
          Knows known ((d.scheme.carrier? other).map (·.interceptors)) := by
      rintro known hknows _ ⟨⟩
      exact hknows
    dsimp only
    split
    · exact ⟨[], _, target, (List.append_nil _).symm, hsupplied _ (knows_bind supplied), .nil⟩
    · cases hchains : d.chains with
      | error f =>
        exact ⟨[], _, target, (List.append_nil _).symm, hsupplied _ (knows_bind supplied), .nil⟩
      | ok chains =>
        obtain ⟨hknows, pass, hpass, hpasses⟩ := (Invocation.lifecycle phase target
          (chains.forPhase phase) supplied (d.component.callbacks phase)).proceed_passes rfl rfl t
        refine ⟨pass, _, target, hpass, hsupplied _ hknows, .of_passes ?_⟩
        have hchain : chains.forPhase phase = sources.chain phase := by
          rw [hsources chains hchains]
          exact LifecycleChains.forPhase_ofSources sources hphase
        rw [← hchain]
        exact hpasses

/-- A business call. -/
theorem invoke_encloses {proxy : Proxy host.journaled.toVocabulary host.journaled.Ref}
    {name : String} {g : Guarded host.journaled.Routine} (hg : proxy.methods.get? name = some g)
    {sources : Sources host.journaled.Routine} (hchain : g.chain = sources.chain .aroundInvoke)
    (arguments : List host.journaled.Ref) (s : host.journaled.World) :
    ∃ (pass : Journal host.toVocabulary) (known : String → Option host.Live),
      (proxy.invoke host.journaled name arguments s).2.2 = s.2 ++ pass ∧
      Knows known (some proxy.interceptors) ∧
      sources.Encloses .aroundInvoke (.call proxy.target g.method) known pass := by
  rw [Proxy.invoke, hg]
  by_cases hempty : g.chain.isEmpty
  · dsimp only
    rw [if_pos hempty]
    refine ⟨[_], _, rfl, knows_bind (some proxy.interceptors), .of_passes ?_⟩
    rw [← hchain, List.isEmpty_iff.1 hempty]
    exact .of_writes ⟨rfl, rfl⟩
  · obtain ⟨hknown, pass, hpass, hpasses⟩ := (Invocation.business proxy.target g.method g.chain
      (some proxy.interceptors) arguments).proceed_passes rfl rfl s
    refine ⟨pass, _, ?_, hknown, .of_passes (hchain ▸ hpasses)⟩
    dsimp only
    rw [if_neg hempty, Effect.blaming_apply]
    show ((Invocation.during _ Invocation.proceed >>= fun result => pure _ :
      Effect host.journaled.World _) s).2.2 = _
    rw [Effect.bind_pure_apply]
    exact hpass

/-- **Environment interceptors are around binding interceptors, and both around the goal.**  Let `c`
    be the component of a definition whose lifecycle chains were not resolved yet, and `d` what has
    become of the definition since.  In each phase the chain is the environment interceptors of one
    source that take part, followed by its binding interceptors that do, each in declared order.
    Whatever was supplied, and whatever the interceptors do, at every moment those who are active
    are a beginning of this chain; a binding interceptor is made or entered only with all environment
    interceptors active; callbacks, constructor and method run only with everybody active; and
    whoever is left is the innermost one.
    1. Around constructor `k`, the source is that of `k`.  After the chain there may be a direct
       call, with nobody active.
    2. In a lifecycle phase, it is that of the class; before the chain, a reference is looked behind.
    3. In a business call, it is that of the method. -/
theorem environment_around_binding {first d : Definition host.journaled}
    (hfirst : first.resolved = none) (hlater : Later first d) :
    let c := first.component
    (∀ k live arguments s, ∃ (pass direct : Journal host.toVocabulary)
        (known : String → Option host.Live),
      (d.construct k live arguments s).2.2 = s.2 ++ (pass ++ direct) ∧ Knows known (some live) ∧
      (c.constructorSources k).Encloses .aroundConstruct (.construct k) known pass ∧
      ∀ e ∈ direct, (Goal.construct k).Writes e) ∧
    (∀ phase, phase = .postConstruct ∨ phase = .preDestroy → ∀ reference s,
      ∃ (pass : Journal host.toVocabulary) (known : String → Option host.Live) (target : host.Ref),
        (runPhase phase reference (d, s)).2.2.2 = (d.present reference s).2.2 ++ pass ∧
        (∀ current, (d.present reference s).1 = .ok current →
          Knows known ((d.scheme.carrier? current).map (·.interceptors))) ∧
        c.classSources.Encloses phase (.callbacks target (d.component.callbacks phase)) known
          pass) ∧
    (∀ proxy : Proxy host.journaled.toVocabulary host.journaled.Ref,
      proxy.methods = d.businessMethods → ∀ name g, proxy.methods.get? name = some g →
        ∀ arguments s, ∃ (pass : Journal host.toVocabulary) (known : String → Option host.Live),
          (proxy.invoke host.journaled name arguments s).2.2 = s.2 ++ pass ∧
          Knows known (some proxy.interceptors) ∧
          (c.methodSources name).Encloses .aroundInvoke (.call proxy.target g.method) known
            pass) ∧
    (∀ k, d.component.constructionChain k = (c.constructorSources k).outer .aroundConstruct ++
      (c.constructorSources k).inner .aroundConstruct) ∧
    (∀ chains, d.chains = .ok chains → ∀ phase, phase = .postConstruct ∨ phase = .preDestroy →
      chains.forPhase phase = c.classSources.outer phase ++ c.classSources.inner phase) ∧
    ∀ name g, d.businessMethods.get? name = some g →
      g.chain = (c.methodSources name).outer .aroundInvoke ++
        (c.methodSources name).inner .aroundInvoke := by
  intro c
  have hconstruction : ∀ k, d.component.constructionChain k =
      (c.constructorSources k).chain .aroundConstruct := fun k =>
    (hlater.constructionChain_eq k).trans (c.constructionChain_eq_chain k)
  have hlifecycle : ∀ chains, d.chains = .ok chains → chains = .ofSources c.classSources :=
    fun chains h => chains_eq_ofSources hfirst (hlater.chains_eq ▸ h)
  have hbusiness : ∀ name g, d.businessMethods.get? name = some g →
      g.chain = (c.methodSources name).chain .aroundInvoke := fun name g hg =>
    chain_of_businessMethods (hlater.businessMethods_eq ▸ hg)
  refine ⟨fun k => construct_encloses (hconstruction k),
    fun phase hphase => runPhase_encloses hlifecycle hphase,
    fun proxy hproxy name g hg => invoke_encloses hg (hbusiness name g (hproxy ▸ hg)),
    fun k => (hconstruction k).trans (Sources.chain_eq_append ..),
    fun chains h phase hphase => ?_, fun name g hg =>
      (hbusiness name g hg).trans (Sources.chain_eq_append ..)⟩
  rw [hlifecycle chains h, LifecycleChains.forPhase_ofSources _ hphase]
  exact Sources.chain_eq_append ..

/-- An environment interceptor that proceeds twice, around a binding interceptor that proceeds once,
    around a callback. -/
theorem environment_around_binding_twice :
    let p : Phase := .preDestroy
    let sources : Sources Nat := ⟨[.everywhere "twice" 2], [.everywhere "once" 4]⟩
    let declarations : Declarations Nat :=
      { environment := sources.environment, classBinding := some sources.binding }
    let d : Definition Host.numbers.journaled :=
      { component := { Component.closing 7 "P" 5 with declarations := some declarations } }
    let target : Host.numbers.journaled.Ref := .plain (7 : Nat)
    let once : Journal Host.numbers.toVocabulary :=
      [.entered (4 : Nat) p, .notified (5 : Nat) target (.ok ()), .left (4 : Nat) p (.ok none)]
    let pass : Journal Host.numbers.toVocabulary :=
      [.made (2 : Nat) (.ok (2 : Nat)), .entered (2 : Nat) p, .made (4 : Nat) (.ok (4 : Nat))] ++
        once ++ once ++ [.left (2 : Nat) p (.ok none)]
    d.resolved = none ∧ Later d d ∧ (runPhase p target (d, [], [])).2.2.2 = pass ∧
      ∃ known target', sources.Encloses p (.callbacks target' (d.component.callbacks p)) known
        pass := by
  intro p sources declarations d target once pass
  have hpass : (runPhase p target (d, [], [])).2.2.2 = pass := by
    dsimp only [p, target, d, declarations, sources, pass, once]
    cbv
  have hresolved : d.resolved = none := rfl
  obtain ⟨pass', known, target', hlog, -, hencloses⟩ :=
    (environment_around_binding hresolved (.refl d)).2.1 p (Or.inr rfl) target ([], [])
  obtain rfl : pass = pass' := hpass.symm.trans hlog
  exact ⟨hresolved, .refl d, hpass, known, target', hencloses⟩

end Definition

end Wiring
