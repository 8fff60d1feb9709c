/-
  Which definition an instance is destroyed by.

  An entry of the store knows its type, but not the definition that it was made by, and a catalog
  that allows overriding may have replaced the definition of the type since, or taken it away with
  its name.

  1. `Revised l makers overtaken c s` — a run of registrations, creations and destructions; `makers`
     has the definition that each instance was made by, and `overtaken` the instances whose
     definition was replaced or taken away while they were live.
  2. `Traced` is the invariant: each live instance has its provenance in the journal, and unless it
     is overtaken, the definition that made it is still the one of its type.
  3. `Parting` tells which definition runs the callbacks of one visit of a destruction, and `Partings`
     tells it of the whole walk.  The run is that of `Definition.preDestroy`, exactly (`RetiredBy`).
-/
import Mathlib
import Wiring.Proofs.Container.Provenance
import Wiring.Proofs.Host.Numbers

namespace Wiring

/-! ## Catalogs that are overridden -/

namespace Catalog

variable {host : Host}

/-- Where overriding is allowed, nothing is refused. -/
theorem register_of_overriding {c : Catalog host} (h : c.overriding = true) (d : Definition host) :
    let rest := (c.withoutType d.component.type).withoutName d.name
    c.register d = .ok { rest with
      definitions := rest.definitions.insert d.component.type d
      names := rest.names.insert d.name d.component.type } := by
  rw [register, conflict?, if_pos h]

/-- `c.claims d t` — `d` takes the place of whatever definition type `t` has: it is of type `t`, or
    its name stands for `t`. -/
def claims (c : Catalog host) (d : Definition host) (t : TypeKey) : Bool :=
  decide (t = d.component.type) || decide (c.names.get? d.name = some t)

/-- A registration leaves the types alone that it has no claim to. -/
theorem byType?_of_register_of_not_claims {c c' : Catalog host} {d : Definition host}
    (h : c.register d = .ok c') {t : TypeKey} (ht : c.claims d t = false) :
    c'.byType? t = c.byType? t := by
  rw [claims, Bool.or_eq_false_iff, decide_eq_false_iff_not, decide_eq_false_iff_not] at ht
  obtain ⟨htype, hname⟩ := ht
  -- first the definition of the type goes, with its name,
  have hfirst : (c.withoutType d.component.type).byType? t = c.byType? t ∧
      (c.withoutType d.component.type).names.get? d.name ≠ some t := by
    rw [withoutType]
    cases c.definitions.get? d.component.type with
    | none => exact ⟨rfl, hname⟩
    | some previous =>
      refine ⟨(Table.get?_erase ..).trans (if_neg htype), ?_⟩
      show (c.names.erase previous.name).get? d.name ≠ some t
      rw [Table.get?_erase]
      split
      · exact (Option.some_ne_none t).symm
      · exact hname
  -- then the definition that the name stands for,
  have hsecond : ((c.withoutType d.component.type).withoutName d.name).byType? t =
      c.byType? t := by
    rw [withoutName, ← hfirst.1]
    cases hnamed : (c.withoutType d.component.type).names.get? d.name with
    | none => rfl
    | some u =>
      have hu : t ≠ u := fun heq => hfirst.2 (hnamed.trans (congrArg some heq.symm))
      exact (Table.get?_erase ..).trans (if_neg hu)
  rw [register] at h
  split at h
  · cases h
  · cases h
    exact ((Table.get?_insert ..).trans (if_neg htype)).trans hsecond

end Catalog

namespace Container

theorem register_of_overriding {host : Host} {c : Container host} (h : c.catalog.overriding = true)
    (d : Definition host) :
    let rest := (c.catalog.withoutType d.component.type).withoutName d.name
    c.register d = .ok { c with catalog := { rest with
      definitions := rest.definitions.insert d.component.type d
      names := rest.names.insert d.name d.component.type } } := by
  rw [register, Catalog.register_of_overriding h]
  rfl

/-! ## Runs -/

section

variable {host : Host}

/-- `c.overtakenBy d` — the live instances of the types that `d` claims. -/
def overtakenBy (c : Container host) (d : Definition host) : List Handle :=
  (c.store.entries.entries.filter fun x => c.catalog.claims d x.2.type).map Prod.fst

/-- `madeIn c t makers` — `makers`, after instances were made that led from `c` to `t`: each new one
    was made by the definition of its type. -/
def madeIn (c t : Container host) (makers : Handle → Option (Definition host)) :
    Handle → Option (Definition host) := fun h =>
  match c.store.find? h, t.store.find? h with
  | none, some e => c.catalog.byType? e.type
  | _, _ => makers h

/-- `Revised l makers overtaken c s` — a run of registrations, creations and destructions has led to
    the container `c` in the world `s`. -/
inductive Revised (l : Listener host) : (Handle → Option (Definition host.journaled)) →
    List Handle → Container host.journaled → host.journaled.World → Prop where
  | empty (settings : Settings) (w : host.World) :
    Revised l (fun _ => none) [] { Container.ofSettings settings with listener := l.journaled }
      (w, [])
  | register {makers overtaken c s c' d} (h : Revised l makers overtaken c s)
    (hd : d.scheme.Modest) (hregister : c.register d = .ok c') :
    Revised l makers (overtaken ++ c.overtakenBy d) c' s
  | create {makers overtaken c s make} (h : Revised l makers overtaken c s)
    (hmake : Requested make) :
    Revised l (madeIn c (make (c, s)).2.1 makers) overtaken (make (c, s)).2.1 (make (c, s)).2.2
  | destroy {makers overtaken c s} (h : Revised l makers overtaken c s) (k : Handle) :
    Revised l makers overtaken (Container.destroy k (c, s)).2.1 (Container.destroy k (c, s)).2.2
  | elsewhere {makers overtaken c s} (h : Revised l makers overtaken c s) (w : host.World) :
    Revised l makers overtaken c (w, s.2)

end

variable {host : Host} {l : Listener host} {makers : Handle → Option (Definition host.journaled)}
  {overtaken : List Handle} {c c' : Container host.journaled} {s : host.journaled.World}
  {log : Journal host.toVocabulary}

/-- `Made makers overtaken c log h e` — the journal has the provenance of the entry, from the
    definition that is remembered; it is still the one of the type, unless it was overtaken. -/
def Made (makers : Handle → Option (Definition host.journaled)) (overtaken : List Handle)
    (c : Container host.journaled) (log : Journal host.toVocabulary) (h : Handle)
    (e : Stored host.journaled.toVocabulary) : Prop :=
  ∃ d chains live, makers h = some d ∧ Provenance d chains live h e log ∧
    (h ∉ overtaken → ∃ d', c.catalog.byType? e.type = some d' ∧ Definition.Later d d')

/-- What was made stays made while definitions become later ones and the journal grows. -/
theorem Made.of_follows {h : Handle} {e : Stored host.journaled.toVocabulary}
    (hmade : Made makers overtaken c log h e) (hfollows : c.catalog.Follows c'.catalog)
    {log' seg : Journal host.toVocabulary} (hlog : log' = log ++ seg) :
    Made makers overtaken c' log' h e := by
  obtain ⟨d, chains, live, hmaker, hp, hcurrent⟩ := hmade
  rw [hlog]
  refine ⟨d, chains, live, hmaker, hp.append seg, fun hh => ?_⟩
  obtain ⟨d', hd', hlater⟩ := hcurrent hh
  obtain ⟨d'', hd'', hlater'⟩ := hfollows.later hd'
  exact ⟨d'', hd'', hlater.trans hlater'⟩

/-- `Traced l makers overtaken c log` — the INVARIANT of a run. -/
structure Traced (l : Listener host) (makers : Handle → Option (Definition host.journaled))
    (overtaken : List Handle) (c : Container host.journaled) (log : Journal host.toVocabulary) :
    Prop where
  minded : Minded l c
  made : ∀ h e, c.store.find? h = some e → Made makers overtaken c log h e

namespace Traced

theorem register (h : Traced l makers overtaken c log) {d : Definition host.journaled}
    (hd : d.scheme.Modest) (hregister : c.register d = .ok c') :
    Traced l makers (overtaken ++ c.overtakenBy d) c' log := by
  obtain ⟨catalog, hcatalog, rfl⟩ := register_eq hregister
  refine ⟨h.minded.register hd hcatalog, fun k e he => ?_⟩
  obtain ⟨maker, chains, live, hmaker, hp, hcurrent⟩ := h.made k e he
  refine ⟨maker, chains, live, hmaker, hp, fun hk => ?_⟩
  rw [List.mem_append, not_or] at hk
  have hclaims : c.catalog.claims d e.type = false := by
    rw [Bool.eq_false_iff]
    exact fun hclaims => hk.2 (List.mem_map.2
      ⟨(k, e), List.mem_filter.2 ⟨Store.find?_eq_some_iff.1 he, hclaims⟩, rfl⟩)
  rw [Catalog.byType?_of_register_of_not_claims hcatalog hclaims]
  exact hcurrent hk.1

/-- What was there before a creation is there after it, as it was; what is new was made by the
    definition of its type. -/
theorem create (h : Traced l makers overtaken c s.2) {make : Act host.journaled Handle}
    (hmake : Requested make) :
    Traced l (madeIn c (make (c, s)).2.1 makers) overtaken (make (c, s)).2.1
      (make (c, s)).2.2.2 := by
  obtain ⟨added, hadded⟩ := hmake.adds (s := (c, s)) host.quiet_ledger h.minded.keeps
  have hfounded : Founded (c, s) (make (c, s)).2 := founding_requested hmake (c, s) h.minded
  obtain ⟨seg, hseg, -⟩ := hfounded.log
  refine ⟨hfounded.minded h.minded, fun k e he => ?_⟩
  cases hbefore : c.store.find? k with
  | some e' =>
    have hkept : (make (c, s)).2.1.store.find? k = some e' := by
      rw [Store.find?_eq_some_iff, hadded.entries]
      exact List.mem_append_left _ (Store.find?_eq_some_iff.1 hbefore)
    rw [hkept] at he
    cases he
    have hmade : Made makers overtaken (make (c, s)).2.1 _ k e :=
      (h.made k e hbefore).of_follows hfounded.catalog hseg
    obtain ⟨d, chains, live, hmaker, hlater⟩ := hmade
    refine ⟨d, chains, live, ?_, hlater⟩
    rw [madeIn, hbefore]
    exact hmaker
  | none =>
    rcases hfounded.known k e he with hlive | ⟨d', chains, live, hd', hp⟩
    · rw [hbefore] at hlive
      cases hlive
    · obtain ⟨d, hd, hlater⟩ := hfounded.catalog.earlier hd'
      refine ⟨d, chains, live, ?_, hlater.provenance.1 hp, fun _ => ⟨d', hd', hlater⟩⟩
      rw [madeIn, hbefore, he]
      exact hd

/-- What a destruction leaves is what it was. -/
theorem destroy (h : Traced l makers overtaken c s.2) (k : Handle) :
    Traced l makers overtaken (Container.destroy k (c, s)).2.1
      (Container.destroy k (c, s)).2.2.2 := by
  have hfounded : Founded (c, s) (Container.destroy k (c, s)).2 := by
    rw [destroy_state]
    exact Founded.destroyAll h.minded [k]
  obtain ⟨seg, hseg, -⟩ := hfounded.log
  refine ⟨hfounded.minded h.minded, fun k' e he => ?_⟩
  have hbefore := ((walk_destroy k (c, s)).mem_entries.1 (Store.find?_eq_some_iff.1 he)).1
  exact (h.made k' e (Store.find?_eq_some_iff.2 hbefore)).of_follows hfounded.catalog hseg

end Traced

theorem Revised.traced (h : Revised l makers overtaken c s) : Traced l makers overtaken c s.2 := by
  induction h with
  | empty settings w => exact ⟨.empty l settings, nofun⟩
  | register _ hd hregister ih => exact ih.register hd hregister
  | create _ hmake ih => exact ih.create hmake
  | destroy _ k ih => exact ih.destroy k
  | elsewhere _ w ih => exact ih

/-! ## Partings -/

/-- `Parting l makers overtaken c log v s t` — the visited instance is released in `s` already; from
    there to `t` its callbacks are run, by a destruction that has started from the container `c` with
    the journal `log`, and `l` is told of their outcome. -/
inductive Parting (l : Listener host) (makers : Handle → Option (Definition host.journaled))
    (overtaken : List Handle) (c : Container host.journaled) (log : Journal host.toVocabulary)
    (v : Visit host.journaled.toVocabulary) : Container host.journaled × host.journaled.World →
      Container host.journaled × host.journaled.World → Prop where
  /-- By the definition that it was made by: with a standard proxy, what runs around the callbacks
      is received by the live interceptors that were made for it. -/
  | maker {s d d' chains live w} (hcurrent : v.handle ∉ overtaken)
    (hmaker : makers v.handle = some d) (hmade : Provenance d chains live v.handle v.entry log)
    (hrun : RetiredBy d v s.2 w)
    (hcrew : d.scheme = ProxyScheme.standard host.journaled →
      ∃ seg : Journal host.toVocabulary, w.2 = s.2.2 ++ seg ∧
        d.Undergoes chains .preDestroy live seg)
    (hlater : Definition.Later d d') :
    Parting l makers overtaken c log v s
      ({ s.1 with catalog := s.1.catalog.updated v.entry.type d' },
        l.journaled.retired v.handle v.entry v.outcome w)
  /-- By the definition that has taken the place of that one. -/
  | successor {s d d' w} (hovertaken : v.handle ∈ overtaken)
    (hd : c.catalog.byType? v.entry.type = some d) (hrun : RetiredBy d v s.2 w)
    (hlater : Definition.Later d d') :
    Parting l makers overtaken c log v s
      ({ s.1 with catalog := s.1.catalog.updated v.entry.type d' },
        l.journaled.retired v.handle v.entry v.outcome w)
  /-- By nobody: there is no definition any more, so nothing runs. -/
  | nobody {s : Container host.journaled × host.journaled.World} (hovertaken : v.handle ∈ overtaken)
    (hnone : c.catalog.byType? v.entry.type = none)
    (houtcome : v.outcome = .error (.unknownComponent (.identity v.entry.type))) :
    Parting l makers overtaken c log v s s

/-- `Partings l makers overtaken c log visits s t` — all that happens between `s` and `t` are the
    partings of the visits, each after the release of its instance, and notices of handles that are
    not live. -/
inductive Partings (l : Listener host) (makers : Handle → Option (Definition host.journaled))
    (overtaken : List Handle) (c : Container host.journaled) (log : Journal host.toVocabulary) :
    List (Visit host.journaled.toVocabulary) → Container host.journaled × host.journaled.World →
      Container host.journaled × host.journaled.World → Prop where
  | done (s : Container host.journaled × host.journaled.World) :
    Partings l makers overtaken c log [] s s
  | dead {visits s t k} (hdead : s.1.store.find? k = none)
    (rest : Partings l makers overtaken c log visits
      (s.1, l.journaled.released k false s.2) t) : Partings l makers overtaken c log visits s t
  | live {v visits s t u} (hlive : s.1.store.find? v.handle = some v.entry)
    (hv : Parting l makers overtaken c log v
      ({ s.1 with store := s.1.store.release v.handle }, l.journaled.released v.handle true s.2) t)
    (rest : Partings l makers overtaken c log visits t u) :
    Partings l makers overtaken c log (v :: visits) s u

section

variable {t : Container host.journaled × host.journaled.World} {k : Handle}
  {e : Stored host.journaled.toVocabulary}

/-- What becomes of an instance that was live when the destruction started. -/
theorem Traced.parting (h : Traced l makers overtaken c log) (he : c.store.find? k = some e)
    (ht : Minded l t.1) (hfollows : c.catalog.Follows t.1.catalog) :
    Parting l makers overtaken c log ⟨k, e, (retire k e t).1⟩ t (retire k e t).2 := by
  obtain ⟨d, chains, live, hmaker, hp, hcurrent⟩ := h.made k e he
  cases hd' : t.1.catalog.byType? e.type with
  | none =>
    have hnone : c.catalog.byType? e.type = none := by
      cases hd : c.catalog.byType? e.type with
      | none => rfl
      | some d =>
        obtain ⟨d', hsome, -⟩ := hfollows.later hd
        rw [hd'] at hsome
        cases hsome
    have hovertaken : k ∈ overtaken := by
      by_contra hk
      obtain ⟨d', hsome, -⟩ := hcurrent hk
      rw [hnone] at hsome
      cases hsome
    rw [retire_of_none hd']
    exact .nobody hovertaken hnone rfl
  | some d' =>
    -- the definition may have resolved its chains since the destruction started
    obtain ⟨d₁, hd₁, hlater⟩ := hfollows.earlier hd'
    have hsettled := Definition.later_runPhase .preDestroy e.reference d' t.2
    rw [retire_of_some hd', ht.listener]
    by_cases hk : k ∈ overtaken
    · exact .successor hk hd₁ ((retiredBy_preDestroy d' k e t.2).of_later hlater)
        (hlater.trans hsettled)
    · obtain ⟨d₂, hd₂, hlater₂⟩ := hcurrent hk
      rw [hd₁] at hd₂
      cases hd₂
      have hlater := hlater₂.trans hlater
      exact .maker hk hmaker hp ((retiredBy_preDestroy d' k e t.2).of_later hlater)
        (fun hscheme => hp.undergoes hlater hscheme .preDestroy t.2) (hlater.trans hsettled)

/-- A whole walk is a series of partings. -/
theorem Traced.partings (h : Traced l makers overtaken c log) (pending : List Handle)
    (t : Container host.journaled × host.journaled.World) :
    Minded l t.1 → c.catalog.Follows t.1.catalog →
    (∀ k e, t.1.store.find? k = some e → c.store.find? k = some e) →
    Partings l makers overtaken c log (destroyAll pending t).1 t (destroyAll pending t).2 := by
  fun_induction destroyAll pending t with
  | case1 t => exact fun _ _ _ => .done t
  | case2 k rest t hdead ih =>
    intro ht hfollows hkept
    rw [release_of_dead hdead, ht.listener] at ih ⊢
    exact .dead hdead (ih ht hfollows hkept)
  | case3 k rest t e hlive retired others ih =>
    intro ht hfollows hkept
    have hreleased : (release k t).2 = ({ t.1 with store := t.1.store.release k },
        l.journaled.released k true t.2) := by rw [release_of_live hlive, ht.listener]
    have hparting := h.parting (t := (release k t).2) (hkept k e hlive)
      (ht.of_follows (undisturbed_release k t).catalog (undisturbed_release k t).listener)
      (hfollows.trans (undisturbed_release k t).catalog)
    have hsame : Undisturbed t.1 retired.2.1 := undisturbed_visit k e t
    have hleft : ∀ k' e', retired.2.1.store.find? k' = some e' → c.store.find? k' = some e' := by
      intro k' e' he'
      rw [store_retire, store_release] at he'
      exact hkept k' e' (Store.find?_of_release he')
    have hrest := ih (ht.of_follows hsame.catalog hsame.listener) (hfollows.trans hsame.catalog) hleft
    refine .live hlive ?_ hrest
    rw [← hreleased]
    exact hparting

end

/-- **An instance is destroyed by the definition that its type has.**  Whatever has been registered,
    created and destroyed, also where definitions replace others and whatever fails on the way, a
    destruction is a series of partings (`Partings`), that of the handle itself first if it is live,
    and its outcome is the first failure among them:
    1. Unless an instance was overtaken, its callbacks before destruction and the chain around them
       are run, whole and with the outcome that is reported, by the definition that it was made by
       (`RetiredBy`); with a standard proxy, the chain is received by the live interceptors that
       were made for it when it was created (`Parting.maker`).
    2. If it was overtaken, they are run by the definition that its type has now
       (`Parting.successor`), or there is none; then nothing runs, and the instance is gone all the
       same (`Parting.nobody`). -/
theorem retired_by_current_definition {host : Host} {l : Listener host}
    {makers : Handle → Option (Definition host.journaled)} {overtaken : List Handle}
    {c : Container host.journaled} {s : host.journaled.World}
    (h : Revised l makers overtaken c s) (k : Handle) :
    ∃ visits,
      Partings l makers overtaken c s.2 visits (c, s) (Container.destroy k (c, s)).2 ∧
      (Container.destroy k (c, s)).1 = (visits.findSome? (·.failure?)).elim (.ok ()) .error ∧
      Store.Walk [k] (entriesOf visits) c.store (Container.destroy k (c, s)).2.1.store ∧
      ∀ e, c.store.find? k = some e → ∃ outcome rest, visits = ⟨k, e, outcome⟩ :: rest := by
  have htraced := h.traced
  refine ⟨(destroyAll [k] (c, s)).1, ?_, destroy_outcome k (c, s), walk_destroy k (c, s),
    fun e he => ?_⟩
  · rw [destroy_state]
    exact htraced.partings [k] (c, s) htraced.minded (Catalog.Follows.refl _) fun _ _ he => he
  · rw [destroyAll_of_live (s := (c, s)) he]
    exact ⟨_, _, rfl⟩

/-- `closing n name r` — the definition of the component with number `n` and the callback `r` before
    destruction. -/
def closing (n : Nat) (name : String) (r : Nat) : Definition Host.numbers.journaled where
  component := .closing n name r

/-- Two instances, of which the second one's definition is taken away with its name: the first is
    destroyed by its maker, with the live interceptor 4 that was made for it around the callback 13,
    and the second by nobody. -/
theorem retired_by_current_definition_two :
    ∃ (makers : Handle → Option (Definition Host.numbers.journaled)) (overtaken : List Handle)
      (c : Container Host.numbers.journaled) (s : Host.numbers.journaled.World)
      (e : Stored Host.numbers.journaled.toVocabulary),
      Revised Listener.silent makers overtaken c s ∧ overtaken = [⟨1⟩] ∧
      c.store.entries.keys = [⟨0⟩, ⟨1⟩] ∧ c.store.find? ⟨0⟩ = some e ∧
      (∃ visits, Partings Listener.silent makers overtaken c s.2 visits (c, s)
          (Container.destroy ⟨0⟩ (c, s)).2 ∧
        (Container.destroy ⟨0⟩ (c, s)).2.2.2 = s.2 ++ [.released ⟨0⟩ true,
          .entered (4 : Nat) .preDestroy, .notified (13 : Nat) (.plain (10 : Nat)) (.ok ()),
          .left (4 : Nat) .preDestroy (.ok none), .retired ⟨0⟩ e (.ok ())]) ∧
      ∃ visits, Partings Listener.silent makers overtaken c s.2 visits (c, s)
          (Container.destroy ⟨1⟩ (c, s)).2 ∧
        (Container.destroy ⟨1⟩ (c, s)).1 = .error (.unknownComponent (.identity ⟨2⟩)) ∧
        (Container.destroy ⟨1⟩ (c, s)).2.2.2 = s.2 ++ [.released ⟨1⟩ true] := by
  let guarded : Definition Host.numbers.journaled :=
    { component := .guarded 10 "Guarded" [.everywhere "audit" 4] }
  have hempty : Revised (Listener.silent : Listener Host.numbers) _ _ _ _ :=
    .empty { overriding := true } ([] : List Nat)
  have hguarded := hempty.register (d := guarded) ProxyScheme.modest_standard rfl
  have hplain := hguarded.register (d := closing 2 "Plain" 5) ProxyScheme.modest_standard rfl
  have hcreated := (hplain.create (.type ⟨10⟩)).create (.name "Plain")
  have hnamed := hcreated.register (d := closing 3 "Plain" 6) ProxyScheme.modest_standard
    (register_of_overriding (by cbv) _)
  obtain ⟨visits₀, hpartings₀, -⟩ := retired_by_current_definition hnamed ⟨0⟩
  obtain ⟨visits₁, hpartings₁, -⟩ := retired_by_current_definition hnamed ⟨1⟩
  let live : Host.numbers.journaled.LiveSet := ∅
  let e : Stored Host.numbers.journaled.toVocabulary := ⟨⟨10⟩, .intercepted ⟨"Guarded",
    .plain (10 : Nat), live.insert "audit" (4 : Nat), guarded.businessMethods⟩, []⟩
  refine ⟨_, _, _, _, e, hnamed, by cbv, by cbv, by cbv, ⟨visits₀, hpartings₀, by cbv⟩,
    visits₁, hpartings₁, by cbv, by cbv⟩

/-- `bare host` — a scheme without proxies: instances stand for themselves. -/
def bare (host : Host) : ProxyScheme host where
  wrap _ made _ _ w := (made, w)
  carrier? _ := none
  current _ := .done none

theorem modest_bare (host : Host) : (bare host.journaled).Modest where
  wrap _ _ _ _ w := ⟨[], (List.append_nil w.2).symm, nofun⟩
  current _ := .of_keeps fun w => ⟨[], (List.append_nil w.2).symm, nofun⟩

/-- An instance of a type that was redefined since is not destroyed by its maker: the callback that
    runs is 6, and that of its maker was 5.  An instance without a proxy is destroyed by its maker,
    but not with the live interceptor that was made for it: the factory is called anew. -/
theorem retired_by_another_than_maker :
    (∃ (makers : Handle → Option (Definition Host.numbers.journaled)) (overtaken : List Handle)
      (c : Container Host.numbers.journaled) (s : Host.numbers.journaled.World)
      (e : Stored Host.numbers.journaled.toVocabulary) (d : Definition Host.numbers.journaled)
      (seg : Journal Host.numbers.toVocabulary),
      Revised Listener.silent makers overtaken c s ∧ c.store.find? ⟨0⟩ = some e ∧
      makers ⟨0⟩ = some d ∧ (Container.destroy ⟨0⟩ (c, s)).2.2.2 =
        s.2 ++ (.released ⟨0⟩ true :: seg ++ [.retired ⟨0⟩ e (.ok ())]) ∧
      ∀ outcome w w', w'.2 = w.2 ++ seg → ¬ d.Attends .preDestroy e.reference w outcome w') ∧
    ∃ (makers : Handle → Option (Definition Host.numbers.journaled))
      (c : Container Host.numbers.journaled) (s : Host.numbers.journaled.World)
      (seg : Journal Host.numbers.toVocabulary),
      Revised Listener.silent makers [] c s ∧
      (Container.destroy ⟨0⟩ (c, s)).2.2.2 =
        s.2 ++ (.released ⟨0⟩ true :: .made (4 : Nat) (.ok (4 : Nat)) :: seg) := by
  have hempty : Revised (Listener.silent : Listener Host.numbers) _ _ _ _ :=
    .empty { overriding := true } ([] : List Nat)
  constructor
  · have hplain := hempty.register (d := closing 2 "Plain" 5) ProxyScheme.modest_standard rfl
    have hcreated := hplain.create (.type ⟨2⟩)
    have hredefined := hcreated.register (d := closing 2 "Plain" 6) ProxyScheme.modest_standard
      (register_of_overriding (by cbv) _)
    let e : Stored Host.numbers.journaled.toVocabulary := ⟨⟨2⟩, .plain (2 : Nat), []⟩
    refine ⟨_, _, _, _, e, closing 2 "Plain" 5, [.notified (6 : Nat) e.reference (.ok ())],
      hredefined, by cbv, by cbv, by cbv, fun outcome w w' hlog hattends => ?_⟩
    obtain ⟨op, hop, hroutine⟩ :=
      hattends.notified ProxyScheme.modest_standard hlog List.mem_cons_self
    cases List.mem_singleton.1 hop
    cases hroutine
  · let guarded : Definition Host.numbers.journaled :=
      { component := .guarded 10 "Guarded" [.everywhere "audit" 4], scheme := bare _ }
    have hguarded := hempty.register (d := guarded) (modest_bare _) rfl
    have hcreated := hguarded.create (.type ⟨10⟩)
    refine ⟨_, _, _, [.entered (4 : Nat) .preDestroy,
      .notified (13 : Nat) (.plain (10 : Nat)) (.ok ()), .left (4 : Nat) .preDestroy (.ok none),
      .retired ⟨0⟩ ⟨⟨10⟩, .plain (10 : Nat), []⟩ (.ok ())], hcreated, by cbv⟩

end Container

end Wiring
