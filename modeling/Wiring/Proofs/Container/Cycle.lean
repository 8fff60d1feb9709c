/-
  The detection of dependency cycles is exact.

  On an obliging host, whether a creation succeeds can be read off the declared dependencies: there
  must be nothing that cannot be constructed in reach, and no cycle.  Then there is one new instance
  for each path of requests; and a failure that names a cycle tells a path that runs into itself.
-/
import Mathlib
import Wiring.Proofs.Component.Dependency
import Wiring.Proofs.Container.Paths
import Wiring.Proofs.Container.Verdict
import Wiring.Proofs.Host.Willing

namespace Wiring

open Relation

/-- `d.Accepted` — the component of `d` is one that a draft can be built into, and `d` is able. -/
structure Definition.Accepted {host : Host} (d : Definition host) : Prop where
  built : ∃ draft : Draft host.Routine, draft.build = .ok d.component
  able : d.Able

namespace Container

variable {host : Host} {c : Container host}

/-- `c.Depends t u` — the component of type `t` depends on the type `u`. -/
def Depends (c : Container host) (t u : TypeKey) : Prop :=
  ∃ d, c.catalog.byType? t = some d ∧ d.component.DependsOn u

/-- `c.Constructible t` — type `t` is registered, and its component has a constructor. -/
def Constructible (c : Container host) (t : TypeKey) : Prop :=
  ∃ d, c.catalog.byType? t = some d ∧ d.component.constructor.isSome

theorem isSome_recipe?_iff {t : TypeKey} :
    (c.catalog.recipe? t).isSome ↔ c.Constructible t := by
  rw [Option.isSome_iff_exists]
  constructor
  · rintro ⟨us, hus⟩
    obtain ⟨d, hd, hconstructor, -⟩ := Catalog.recipe?_eq_some_iff.1 hus
    exact ⟨d, hd, hconstructor⟩
  · rintro ⟨d, hd, hconstructor⟩
    exact ⟨_, Catalog.recipe?_eq_some_iff.2 ⟨d, hd, hconstructor, rfl⟩⟩

/-- The requests of a creation are the declared dependencies. -/
theorem edge_eq_depends (hc : c.catalog.Sound (·.component.Levelled)) :
    Edge c.catalog.needs? = c.Depends := by
  funext t u
  refine propext ⟨?_, ?_⟩
  · rintro ⟨us, hus, hu⟩
    obtain ⟨d, hd, rfl⟩ := Option.map_eq_some_iff.1 hus
    exact ⟨d, hd, (Component.mem_requirements_iff (hc t d hd).2).1 hu⟩
  · rintro ⟨d, hd, hu⟩
    exact Catalog.edge_of_mem_requirements hd
      ((Component.mem_requirements_iff (hc t d hd).2).2 hu)

/-- Between calls, a container of accepted definitions has able ones, all of whose points are
    declared on a level. -/
theorem Reached.sound_of_accepted {listener : Listener host}
    (hc : Reached Definition.Accepted listener c) :
    c.catalog.Sound Definition.Able ∧ c.catalog.Sound (·.component.Levelled) := by
  refine ⟨hc.sound (fun d hd => hd.able) fun hlater hable => hable.later hlater,
    hc.sound (fun d hd => ?_) fun hlater hlevelled => ?_⟩
  · obtain ⟨draft, hdraft⟩ := hd.built
    exact Component.levelled_of_build hdraft
  · show Component.Levelled _
    rw [hlater.component_eq]
    exact hlevelled

/-- A request that succeeds has made an instance for each path from its type. -/
theorem exists_paths_of_create {listener : Listener host} {allowed : Definition host → Prop}
    (hc : Reached allowed listener c) {t : TypeKey} {w : host.World} {h : Handle}
    (hok : (create t (c, w)).1 = .ok h) :
    ∃ new paths, (create t (c, w)).2.1.store.entries.entries = c.store.entries.entries ++ new ∧
      paths.Nodup ∧ (∀ p, p ∈ paths ↔ ∃ v, Leads c.catalog.needs? t p v) ∧
      List.Forall₂ (fun p x => Leads c.catalog.needs? t p x.2.type) paths new := by
  obtain ⟨hkeeps, -⟩ :=
    hc.keeps_idle host.quiet_free (fun d _ => d.scheme.quiet_free) listener.enters_free
  rw [create_eq] at hok ⊢
  cases hd : c.catalog.byType? t with
  | none =>
    rw [hd] at hok
    cases hok
  | some d =>
    obtain ⟨htype, hneeds⟩ := hkeeps.needs?_eq hd
    have hcreation := creation_createFrom host.quiet_free d (c, w) hkeeps hneeds
    rw [hd] at hok
    dsimp only at hok ⊢
    cases hr : (createFrom d (c, w)).1 with
    | error f =>
      rw [hr] at hok
      cases hok
    | ok made =>
      have hmade : (createFrom d (c, w)).1 = .ok (made.1, made.2) := hr
      obtain ⟨e, sub, he, -, hgrowth⟩ := hcreation.ok hmade
      have hgrove := hgrowth.grove
      rw [he, htype] at hgrove
      obtain ⟨paths, hpaths⟩ := hgrove.exists_paths_of_tree
      exact ⟨_, paths, hgrowth.entries, hpaths⟩

/-- **Cycle detection is exact.**  On an obliging host, in every container that can be reached with
    accepted definitions, for every type `t`:
    1. A request for `t` succeeds if and only if all types that its dependencies reach can be
       constructed, and none of them reaches itself.
    2. If it succeeds, the new instances are one for each path of requests from `t`, whether or not
       several paths lead to one type.
    3. If it fails because of a cycle, then the types whose components are blamed, in the order of
       the blame, are a path of dependencies from `t` without a repetition, and the component that
       the cycle is reported for is on this path and needed by the last type on it. -/
theorem cycle_detection_exact (host : Host) (hhost : host.Obliging) (listener : Listener host)
    (c : Container host) (hc : Reached Definition.Accepted listener c) (t : TypeKey)
    (w : host.World) :
    ((∃ h, (create t (c, w)).1 = .ok h) ↔
      (∀ u, ReflTransGen c.Depends t u → c.Constructible u) ∧
        ∀ u, ReflTransGen c.Depends t u → ¬ TransGen c.Depends u u) ∧
    (∀ h, (create t (c, w)).1 = .ok h →
      ∃ new paths, (create t (c, w)).2.1.store.entries.entries = c.store.entries.entries ++ new ∧
        paths.Nodup ∧ (∀ p, p ∈ paths ↔ ∃ v, Leads c.catalog.needs? t p v) ∧
        List.Forall₂ (fun p x => Leads c.catalog.needs? t p x.2.type) paths new) ∧
    ∀ f name, (create t (c, w)).1 = .error f → f.root = .dependencyCycle name →
      ∃ way u, List.IsChain c.Depends (t :: (way ++ [u])) ∧ (t :: way).Nodup ∧ u ∈ t :: way ∧
        c.catalog.name? u = some name ∧ f.blamed.map some = (t :: way).map c.catalog.name? := by
  obtain ⟨hable, hlevelled⟩ := hc.sound_of_accepted
  have hamid : Amid c.catalog [] c :=
    ⟨Catalog.Follows.refl _, (hc.keeps_idle host.quiet_free
      (fun d _ => d.scheme.quiet_free) listener.enters_free).2.1⟩
  have hdecides := decides_create hhost hable t
  have htypes : ∀ u, (c.catalog.recipe? u).isSome → u ∈ c.catalog.definitions.keys := by
    intro u hu
    obtain ⟨d, hd, -⟩ := isSome_recipe?_iff.1 hu
    exact List.mem_map_of_mem (Table.mem_entries_of_get? hd)
  refine ⟨?_, fun h hok => exists_paths_of_create hc hok, ?_⟩
  · rw [hdecides.isOk_iff (s := (c, w)) hamid,
      creatable_iff_acyclic (fun _ _ => Catalog.needs?_of_recipe?) htypes,
      edge_eq_depends hlevelled]
    simp only [isSome_recipe?_iff]
  · intro f name hf hroot
    obtain ⟨-, -, hhonest⟩ := hdecides.error (s := (c, w)) hamid (Prod.ext hf rfl)
    obtain ⟨way, u, name', hchain, hnodup, hmem, hname, hroot', hblamed⟩ :=
      (hhonest name hroot).exists_way
    rw [hroot] at hroot'
    cases hroot'
    rw [edge_eq_depends hlevelled] at hchain
    exact ⟨way, u, hchain, hnodup, hmem, hname, hblamed⟩

/-- A type that is needed on two paths: it is made twice, and there is no cycle. -/
theorem cycle_detection_exact_diamond : ∃ c : Container Host.willing, Host.willing.Obliging ∧
    Reached Definition.Accepted Listener.silent c ∧ (create ⟨1⟩ (c, ())).1 = .ok ⟨4⟩ ∧
    ∀ u, ReflTransGen c.Depends ⟨1⟩ u → ¬ TransGen c.Depends u u := by
  have haccepted : ∀ n name needs, (Draft.numbered n name needs).check = none →
      (Definition.willing n name needs).Accepted := fun n name needs hcheck =>
    ⟨⟨_, Draft.build_eq_ok_iff.2 ⟨hcheck, rfl⟩⟩, Definition.able_willing n name needs⟩
  have hempty : Reached Definition.Accepted (Listener.silent : Listener Host.willing) _ :=
    .empty {}
  have hbase := hempty.register (d := .willing 4 "Base" []) (haccepted _ _ _ (by cbv)) rfl
  have hleft := hbase.register (d := .willing 2 "Left" [4]) (haccepted _ _ _ (by cbv)) rfl
  have hright := hleft.register (d := .willing 3 "Right" [4]) (haccepted _ _ _ (by cbv)) rfl
  have htop := hright.register (d := .willing 1 "Top" [2, 3]) (haccepted _ _ _ (by cbv)) rfl
  have hexact := (cycle_detection_exact Host.willing Host.obliging_willing Listener.silent _ htop
    ⟨1⟩ ()).1.1 ⟨⟨4⟩, by cbv⟩
  exact ⟨_, Host.obliging_willing, htop, by cbv, hexact.2⟩

end Container

end Wiring
