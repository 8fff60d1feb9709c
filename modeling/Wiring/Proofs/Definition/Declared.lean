/-
  Which declaration a business call runs.

  1. `draft.declared name` — the declarations of a business method, in the order in which they were
     added, on whatever levels.  The table of business methods has the last of them, with the chain
     that is configured for the name (`businessMethods_get?`).
  2. A business call is a pass along the route to the method that the table has (`invoke_of_get?`).
  3. So on a proxy of an accepted component the last declaration runs (`last_declaration_runs`).  Depth
     plays no part in that: the deepest one runs if it is also the last, for example if ancestors were
     added first; and it does not if an ancestor's was added later (`ancestor_added_last_runs`).
-/
import Wiring.Proofs.Component.LevelOrder
import Wiring.Proofs.Definition.Shared
import Wiring.Proofs.Definition.Transparent
import Wiring.Proofs.Invocation.Nesting

namespace Wiring

/-! ## Declarations of one name -/

/-- `draft.declared name` — the declarations of the business method, in the order in which they were
    added. -/
def Draft.declared {ρ : Type} (draft : Draft ρ) (name : String) : List (Operation ρ) :=
  draft.business.filter fun m => m.member.name = name

namespace Draft

variable {ρ : Type} {draft : Draft ρ} {c : Component ρ} {name : String} {m : Operation ρ}

theorem mem_declared :
    m ∈ draft.declared name ↔ m ∈ draft.business ∧ m.member.name = name := by
  rw [declared, List.mem_filter, decide_eq_true_iff]

/-- The business methods of an accepted component are on levels of its hierarchy. -/
theorem level_of_business (h : draft.build = .ok c) (hm : m ∈ draft.business) :
    m.member.level ∈ c.hierarchy := by
  obtain ⟨hcheck, rfl⟩ := build_eq_ok_iff.1 h
  obtain ⟨-, hmembers, -⟩ := check_eq_none_iff.1 hcheck
  exact hmembers m.member (List.mem_append_right _ (List.mem_map_of_mem hm))

/-- Where ancestors were added first, the last one added is on the deepest level. -/
theorem depth_le_of_getLast? {ops : List (Operation ρ)}
    (hsorted : ops.Pairwise fun a b => draft.depth a.member.level ≤ draft.depth b.member.level)
    (hlast : ops.getLast? = some m) :
    ∀ m' ∈ ops, draft.depth m'.member.level ≤ draft.depth m.member.level := by
  obtain ⟨before, rfl⟩ := List.getLast?_eq_some_iff.1 hlast
  intro m' hm'
  rcases List.mem_append.1 hm' with hm' | hm'
  · exact (List.pairwise_append.1 hsorted).2.2 m' hm' m (List.mem_singleton_self m)
  · rw [List.mem_singleton.1 hm']

end Draft

variable {host : Host}

theorem Route.knows_known? {V : Vocabulary} (r : Route V) (p : Passage V) :
    Knows (r.known? p) r.supplied := by
  intro live hlive name it hit
  rw [known?, hlive]
  dsimp only
  rw [hit]

/-- A business call, as a pass along the route to the method. -/
theorem Invocation.business_during (target : host.Ref) (method : Operation host.Routine)
    (chain : List (Interceptor host.Routine)) (supplied : Option host.LiveSet)
    (arguments : List host.Ref) (w : host.World) :
    (Invocation.business target method chain supplied arguments).during Invocation.proceed w =
      let r := Route.run ⟨.aroundInvoke, supplied, .call target method⟩ chain
        (⟨∅, arguments, ∅, none⟩, w)
      (r.1, r.2.2) := by
  let inv : Invocation host.toVocabulary :=
    Invocation.business target method chain supplied arguments
  have hstart : Invocation.proceed (inv, w) = _ := Invocation.proceed_of_start rfl rfl w
  rw [Invocation.during, hstart]
  rfl

theorem Proxy.invoke_of_get? {p : Proxy host.toVocabulary host.Ref} {name : String}
    {g : Guarded host.Routine} (hg : p.methods.get? name = some g) (arguments : List host.Ref)
    (w : host.World) :
    p.invoke host name arguments w =
      let r := Route.run ⟨.aroundInvoke, some p.interceptors, .call p.target g.method⟩ g.chain
        (⟨∅, arguments, ∅, none⟩, w)
      ((r.1.map (·.getD (.plain host.unit))).mapError (.businessCall p.component g.method.member.name),
        r.2.2) := by
  rw [invoke_eq_during hg, Effect.blaming_apply, Effect.bind_pure_apply, Invocation.business_during]

namespace Definition

/-- Of the declarations of one name the table has the last, with the chain of the name. -/
theorem businessMethods_get? (d : Definition host) (name : String) :
    d.businessMethods.get? name =
      ((d.component.business.filter fun m => m.member.name = name).getLast?).map fun m =>
        ⟨m, d.component.invocationChain name⟩ := by
  rw [businessMethods, Table.get?_ofList, List.filter_map, List.getLast?_map, Option.map_map]
  show Option.map _ (d.component.business.filter fun m => m.member.name = name).getLast? = _
  cases hlast : (d.component.business.filter fun m => m.member.name = name).getLast? with
  | none => rfl
  | some m =>
    obtain ⟨-, hname⟩ := List.mem_filter.1 (List.mem_of_getLast? hlast)
    rw [Option.map_some, Option.map_some, ← of_decide_eq_true hname]
    rfl

/-- A proxy around an instance carries it, its interceptors, and the table of business methods. -/
theorem eq_of_wrap {d : Definition host} (hscheme : d.scheme = ProxyScheme.standard host)
    {made : host.Ref} (hmade : made.IsObject) {live : host.LiveSet} {w : host.World}
    {p : Proxy host.toVocabulary host.Ref} (hwrap : (wrap made live (d, w)).1 = .ok (.intercepted p)) :
    p = ⟨d.name, made, live, d.businessMethods⟩ := by
  rw [wrap_apply, hscheme] at hwrap
  split at hwrap
  · split at hwrap
    · cases hwrap
      rfl
    · cases hwrap
      cases hmade
  · cases hwrap

/-- **The declaration that was added last runs.**  Let a draft be accepted, and let a proxy be made
    around an instance by a standard definition of the component, whatever was resolved for it before.
    1. A name that was not declared is refused, and nothing is run.
    2. If `m` is the last declaration of a name that was added, on whatever level, a call of the name is
       the pass through the chain that is configured for the name, with the live interceptors of the
       proxy, to `m` on the instance; whatever that fails with is blamed on the call.  What is written
       down is such a pass.
    3. The level of `m` is one of the hierarchy.  If ancestors were added first, it is the deepest on
       which the name is declared. -/
theorem last_declaration_runs {draft : Draft host.journaled.Routine}
    {c : Component host.journaled.Routine} (hbuild : draft.build = .ok c)
    {first d : Definition host.journaled} (hfirst : first.component = c) (hlater : Later first d)
    (hscheme : d.scheme = ProxyScheme.standard host.journaled) {made : host.journaled.Ref}
    (hmade : made.IsObject) {live : host.journaled.LiveSet} {w : host.journaled.World}
    {p : Proxy host.journaled.toVocabulary host.journaled.Ref}
    (hwrap : (wrap made live (d, w)).1 = .ok (.intercepted p)) (name : String)
    (arguments : List host.journaled.Ref) (s : host.journaled.World) :
    (draft.declared name = [] →
      p.invoke host.journaled name arguments s = (.error (.unknownMethod c.name name), s)) ∧
    ∀ m, (draft.declared name).getLast? = some m →
      let r := Route.run ⟨.aroundInvoke, some live, .call made m⟩ (c.invocationChain name)
        (⟨∅, arguments, ∅, none⟩, s)
      p.invoke host.journaled name arguments s =
        ((r.1.map (·.getD (.plain host.journaled.unit))).mapError (.businessCall c.name name),
          r.2.2) ∧
      (∃ (seg : Journal host.toVocabulary) (known : String → Option host.Live),
        r.2.2.2 = s.2 ++ seg ∧ Knows known (some live) ∧
          Passes .aroundInvoke (.call made m) known (c.invocationChain name) seg) ∧
      m.member.level ∈ c.hierarchy ∧
      ((draft.declared name).Pairwise
          (fun a b => draft.depth a.member.level ≤ draft.depth b.member.level) →
        ∀ m' ∈ draft.declared name, draft.depth m'.member.level ≤ draft.depth m.member.level) := by
  obtain rfl := eq_of_wrap hscheme hmade hwrap
  have hname : d.name = c.name := by rw [hlater.name_eq, Definition.name, hfirst]
  have hbusiness : c.business = draft.business := by
    obtain ⟨-, rfl⟩ := Draft.build_eq_ok_iff.1 hbuild
    rfl
  have hget : d.businessMethods.get? name =
      (draft.declared name).getLast?.map fun m => ⟨m, c.invocationChain name⟩ := by
    rw [hlater.businessMethods_eq, businessMethods_get?, hfirst, hbusiness]
    rfl
  refine ⟨fun hnone => ?_, fun m hm => ?_⟩
  · rw [hnone] at hget
    rw [Proxy.invoke, hget, hname]
    rfl
  · rw [hm] at hget
    obtain ⟨hdeclared, hcalled⟩ := Draft.mem_declared.1 (List.mem_of_getLast? hm)
    have hcall := Proxy.invoke_of_get? (p := ⟨d.name, made, live, d.businessMethods⟩) hget arguments s
    refine ⟨?_, ?_, Draft.level_of_business hbuild hdeclared,
      fun hsorted => Draft.depth_le_of_getLast? hsorted hm⟩
    · rw [hcall, hname, hcalled]
    · let r : Route host.journaled.toVocabulary := ⟨.aroundInvoke, some live, .call made m⟩
      obtain ⟨-, seg, hlog, hpasses⟩ :=
        r.run_passes (c.invocationChain name) (⟨∅, arguments, ∅, none⟩, s)
      exact ⟨seg, _, hlog, r.knows_known? _, hpasses⟩

/-- `overriddenDraft` — the draft of a component with one ancestor, both of which declare `run`; the
    declaration of the ancestor was added last. -/
def overriddenDraft : Draft Nat where
  type := ⟨7⟩
  name := "Account"
  superclasses := ["Base"]
  business := [⟨⟨"Account", "run"⟩, 5⟩, ⟨⟨"Base", "run"⟩, 6⟩]
  declarations := some { business := Table.ofList [("run", ⟨[.everywhere "log" 4], []⟩)] }

/-- If the ancestor's declaration was added first, that of the component runs. -/
theorem last_declaration_runs_reversed :
    let draft : Draft Nat := { overriddenDraft with business := overriddenDraft.business.reverse }
    let d : Definition Host.numbers.journaled := { component := draft.component }
    let live : Host.numbers.journaled.LiveSet := Table.ofList [("log", (4 : Nat))]
    let account : Host.numbers.journaled.Ref := .plain (7 : Nat)
    let own : Operation Nat := ⟨⟨"Account", "run"⟩, 5⟩
    ∃ p : Proxy Host.numbers.journaled.toVocabulary Host.numbers.journaled.Ref,
      draft.build = .ok draft.component ∧ Later d d ∧
      d.scheme = ProxyScheme.standard Host.numbers.journaled ∧ account.IsObject ∧
      (wrap account live (d, [], [])).1 = .ok (.intercepted p) ∧
      (draft.declared "run").getLast? = some own ∧
      (p.invoke Host.numbers.journaled "run" [] ([], [])).2.2 =
        [.entered (4 : Nat) .aroundInvoke, .called (5 : Nat) account [] (.ok (.plain (5 : Nat))),
          .left (4 : Nat) .aroundInvoke (.ok (some (.plain (5 : Nat))))] ∧
      ∀ m ∈ draft.declared "run", draft.depth m.member.level ≤ draft.depth own.member.level := by
  intro draft d live account own
  let p : Proxy Host.numbers.journaled.toVocabulary Host.numbers.journaled.Ref :=
    ⟨"Account", account, live, d.businessMethods⟩
  have hbuild : draft.build = .ok draft.component := by cbv
  have hwrap : (wrap account live (d, [], [])).1 = .ok (.intercepted p) := by cbv
  have hlast : (draft.declared "run").getLast? = some own := by cbv
  obtain ⟨hcall, -, -, hdeepest⟩ := (last_declaration_runs hbuild (rfl : d.component = _) (.refl d) rfl
    (rfl : account.IsObject) hwrap "run" [] ([], [])).2 own hlast
  refine ⟨p, hbuild, .refl d, rfl, rfl, hwrap, hlast, ?_, hdeepest (by decide)⟩
  rw [hcall]
  cbv

/-- The deepest declaration need not run: the ancestor's, which was added later, takes its place. -/
theorem ancestor_added_last_runs :
    let c : Component Nat := overriddenDraft.component
    let d : Definition Host.numbers.journaled := { component := c }
    let live : Host.numbers.journaled.LiveSet := Table.ofList [("log", (4 : Nat))]
    let account : Host.numbers.journaled.Ref := .plain (7 : Nat)
    ∃ p : Proxy Host.numbers.journaled.toVocabulary Host.numbers.journaled.Ref,
      overriddenDraft.build = .ok c ∧ (wrap account live (d, [], [])).1 = .ok (.intercepted p) ∧
      overriddenDraft.depth "Base" < overriddenDraft.depth "Account" ∧
      (p.invoke Host.numbers.journaled "run" [] ([], [])).2.2 =
        [.entered (4 : Nat) .aroundInvoke, .called (6 : Nat) account [] (.ok (.plain (6 : Nat))),
          .left (4 : Nat) .aroundInvoke (.ok (some (.plain (6 : Nat))))] := by
  intro c d live account
  exact ⟨⟨"Account", account, live, d.businessMethods⟩, by cbv, by cbv, by decide, by cbv⟩

end Definition

end Wiring
