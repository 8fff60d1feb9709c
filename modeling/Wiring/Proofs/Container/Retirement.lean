/-
  Every retirement that the journal tells of is the end of a run.

  1. `RetiredBy d v w w'` — the whole phase before destruction is run by the definition `d` on the
     visited instance, from the world `w` to the world `w'`, and its outcome is that of the visit.
  2. `Dismissed c v log` — the journal `log` ends with the release of the visited instance and, right
     behind it, such a run by the definition that `c` has for its type.
  3. `Attested c log seg` — behind `log` comes `seg`, and whatever is retired in it has been dismissed
     just before.  Nothing but a destruction retires instances, and what it writes down is attested
     (`attested_destroyAll`).
-/
import Wiring.Proofs.Container.Tour
import Wiring.Proofs.Definition.Attended

namespace Wiring

variable {host : Host}

/-- `e.notice?` — the event, if a listener has written it. -/
def Event.notice? {V : Vocabulary} (e : Event V) : Option (Event V) :=
  if e.isOfStore then some e else none

theorem Event.ofStore_notice? {V : Vocabulary} :
    Journal.OfStore (notice? : Event V → Option (Event V)) := by
  intro e he
  rw [notice?, he]
  rfl

/-- Where there is no notice, a host has written everything. -/
theorem Journal.plain_of_notice? {V : Vocabulary} {seg : Journal V}
    (h : seg.filterMap Event.notice? = []) : ∀ e ∈ seg, e.isOfStore = false := by
  intro e he
  have hnone := List.filterMap_eq_nil_iff.1 h e he
  rw [Event.notice?] at hnone
  cases hstore : e.isOfStore with
  | false => rfl
  | true =>
    rw [hstore] at hnone
    cases hnone

namespace Container

variable {l : Listener host} {s : Container host.journaled × host.journaled.World}
  {c c' : Catalog host.journaled} {d d' : Definition host.journaled}
  {v : Visit host.journaled.toVocabulary} {w w' : host.journaled.World}
  {log seg seg' : Journal host.toVocabulary}

/-! ## One retirement -/

/-- `RetiredBy d v w w'` — the whole of the callbacks before destruction of the visited instance, and
    of the chain around them, is run by the definition `d` from `w` to `w'`, and has the outcome of
    the visit. -/
structure RetiredBy (d : Definition host.journaled) (v : Visit host.journaled.toVocabulary)
    (w w' : host.journaled.World) : Prop where
  run : ∃ d', Definition.preDestroy v.entry.reference (d, w) = (v.outcome, d', w')
  attends : d.Attends .preDestroy v.entry.reference w v.outcome w'

theorem retiredBy_preDestroy (d : Definition host.journaled) (k : Handle)
    (e : Stored host.journaled.toVocabulary) (w : host.journaled.World) :
    RetiredBy d ⟨k, e, (Definition.preDestroy e.reference (d, w)).1⟩ w
      (Definition.preDestroy e.reference (d, w)).2.2 :=
  ⟨⟨_, rfl⟩, d.runPhase_attends .preDestroy e.reference w⟩

/-- What a definition has become runs them as the definition itself does. -/
theorem RetiredBy.of_later (h : RetiredBy d' v w w') (hlater : Definition.Later d d') :
    RetiredBy d v w w' := by
  obtain ⟨d₁, hrun⟩ := h.run
  obtain ⟨houtcome, hworld⟩ := hlater.runPhase_eq .preDestroy v.entry.reference w
  have hretired := retiredBy_preDestroy d v.handle v.entry w
  rw [Definition.preDestroy] at hrun hretired
  rw [← houtcome, ← hworld, hrun] at hretired
  exact hretired

/-- `Dismissed c v log` — `log` ends with the release of the visited instance and, right behind it,
    the run of its callbacks before destruction by the definition that `c` has for its type. -/
def Dismissed (c : Catalog host.journaled) (v : Visit host.journaled.toVocabulary)
    (log : Journal host.toVocabulary) : Prop :=
  ∃ d before w w', c.byType? v.entry.type = some d ∧ w.2 = before ++ [.released v.handle true] ∧
    RetiredBy d v w w' ∧ w'.2 = log

/-- The definitions of the catalog may have become later ones before the run. -/
theorem Dismissed.of_follows (h : Dismissed c' v log) (hfollows : c.Follows c') :
    Dismissed c v log := by
  obtain ⟨d', before, w, w', hd', hreleased, hrun, hlog⟩ := h
  obtain ⟨d, hd, hlater⟩ := hfollows.earlier hd'
  exact ⟨d, before, w, w', hd, hreleased, hrun.of_later hlater, hlog⟩

/-! ## Journals -/

/-- `Attested c log seg` — each retirement in `seg`, which comes behind `log`, is that of an instance
    dismissed just before, by the definitions of `c`. -/
def Attested (c : Catalog host.journaled) (log seg : Journal host.toVocabulary) : Prop :=
  ∀ before h e outcome after, seg = before ++ .retired h e outcome :: after →
    Dismissed c ⟨h, e, outcome⟩ (log ++ before)

namespace Attested

/-- Where nothing is retired, there is nothing to attest. -/
theorem of_not_mem (h : ∀ k e outcome, .retired k e outcome ∉ seg) : Attested c log seg := by
  rintro before k e outcome after rfl
  exact absurd (List.mem_append_right before List.mem_cons_self) (h k e outcome)

theorem of_plain (h : ∀ e ∈ seg, e.isOfStore = false) : Attested c log seg :=
  of_not_mem fun _ _ _ hmem => Bool.noConfusion (h _ hmem)

theorem append (h : Attested c log seg) (h' : Attested c' (log ++ seg) seg')
    (hfollows : c.Follows c') : Attested c log (seg ++ seg') := by
  intro before k e outcome after heq
  rcases List.append_eq_append_iff.1 heq with ⟨rest, rfl, hseg'⟩ | ⟨rest, hseg, hrest⟩
  · have hdismissed := h' rest k e outcome after hseg'
    rw [List.append_assoc] at hdismissed
    exact hdismissed.of_follows hfollows
  · cases rest with
    | nil =>
      have hdismissed := h' [] k e outcome after hrest.symm
      rw [List.append_nil, hseg, List.append_nil] at hdismissed
      exact hdismissed.of_follows hfollows
    | cons x rest =>
      cases hrest
      exact h before k e outcome rest hseg

theorem retired {k : Handle} {e : Stored host.journaled.toVocabulary}
    {outcome : Except Failure Unit} (h : Dismissed c ⟨k, e, outcome⟩ log) :
    Attested c log [.retired k e outcome] := by
  intro before k' e' outcome' after heq
  rcases List.append_eq_singleton_iff.1 heq.symm with ⟨rfl, hsingle⟩ | ⟨-, hnil⟩
  · cases hsingle
    rwa [List.append_nil]
  · cases hnil

end Attested

/-! ## Destructions -/

theorem log_release (hs : s.1.listener = l.journaled) (h : Handle) :
    (release h s).2.2.2 = s.2.2 ++ [.released h (s.1.store.find? h).isSome] := by
  show (s.1.listener.released h (s.1.store.find? h).isSome s.2).2 = _
  rw [hs]
  rfl

/-- While callbacks run, nothing is stored or retired. -/
theorem plain_preDestroy (hscheme : d.scheme.Modest) (reference : host.journaled.Ref)
    (w : host.journaled.World) :
    ∃ seg : Journal host.toVocabulary,
      (Definition.preDestroy reference (d, w)).2.2.2 = w.2 ++ seg ∧
        ∀ e ∈ seg, e.isOfStore = false := by
  have hquiet := host.quiet_journaled Event.ofStore_notice?
  have hphase := (Definition.along_runPhase hquiet .preDestroy reference).keeps (d, w)
  obtain ⟨-, -, seg, hseg, hnotices⟩ := hphase (hscheme.quiet fun _ _ => rfl)
  exact ⟨seg, hseg, Journal.plain_of_notice? hnotices⟩

/-- The visit of a live handle: its release, the run, and the retirement. -/
theorem attested_visit (hs : Minded l s.1) {k : Handle} {e : Stored host.journaled.toVocabulary}
    (hlive : s.1.store.find? k = some e) :
    ∃ seg : Journal host.toVocabulary,
      (retire k e (release k s).2).2.2.2 = s.2.2 ++ seg ∧ Attested s.1.catalog s.2.2 seg := by
  have hreleased : (release k s).2.2.2 = s.2.2 ++ [.released k true] := by
    rw [log_release hs.listener, hlive]
    rfl
  have hrelease : Attested s.1.catalog s.2.2 [.released k true] := .of_not_mem (by simp)
  cases hd : s.1.catalog.byType? e.type with
  | none =>
    have hnone : (release k s).2.1.catalog.byType? e.type = none := hd
    rw [retire_of_none hnone]
    exact ⟨_, hreleased, hrelease⟩
  | some d =>
    have hsome : (release k s).2.1.catalog.byType? e.type = some d := hd
    let u := (release k s).2.2
    let r := Definition.preDestroy e.reference (d, u)
    obtain ⟨seg, hseg, hplain⟩ := plain_preDestroy (hs.modest _ _ hd).2 e.reference u
    have hrun : r.2.2.2 = s.2.2 ++ [.released k true] ++ seg := by rw [hseg, hreleased]
    have hretired : Attested s.1.catalog (s.2.2 ++ ([.released k true] ++ seg))
        [.retired k e r.1] := by
      rw [← List.append_assoc]
      exact .retired ⟨d, s.2.2, u, r.2.2, hd, hreleased, retiredBy_preDestroy d k e u, hrun⟩
    refine ⟨[.released k true] ++ seg ++ [.retired k e r.1], ?_,
      (hrelease.append (.of_plain hplain) (.refl _)).append hretired (.refl _)⟩
    rw [retire_of_some hsome]
    show (s.1.listener.retired k e r.1 r.2.2).2 = _
    rw [hs.listener]
    show r.2.2.2 ++ [_] = _
    rw [hrun, List.append_assoc, List.append_assoc, List.append_assoc]

/-- Whatever is destroyed, its retirement is attested. -/
theorem attested_destroyAll (pending : List Handle)
    (s : Container host.journaled × host.journaled.World) :
    Minded l s.1 → ∃ seg : Journal host.toVocabulary,
      (destroyAll pending s).2.2.2 = s.2.2 ++ seg ∧ Attested s.1.catalog s.2.2 seg := by
  fun_induction destroyAll pending s with
  | case1 s => exact fun _ => ⟨[], (List.append_nil _).symm, .of_not_mem (by simp)⟩
  | case2 k rest s hdead ih =>
    intro hs
    have hreleased := log_release hs.listener k
    rw [hdead] at hreleased
    obtain ⟨seg, hseg, hattested⟩ := ih (hs.of_follows (.refl _) rfl)
    rw [hreleased] at hseg hattested
    have hrelease : Attested s.1.catalog s.2.2 [.released k false] := .of_not_mem (by simp)
    exact ⟨_, hseg.trans (List.append_assoc ..), hrelease.append hattested (.refl _)⟩
  | case3 k rest s e hlive retired others ih =>
    intro hs
    obtain ⟨here, hhere, hattested⟩ := attested_visit hs hlive
    have hsame : Undisturbed s.1 retired.2.1 := undisturbed_visit k e s
    obtain ⟨there, hthere, hattested'⟩ := ih (hs.of_follows hsame.catalog hsame.listener)
    have hhere : retired.2.2.2 = s.2.2 ++ here := hhere
    rw [hhere] at hthere hattested'
    exact ⟨_, hthere.trans (List.append_assoc ..), hattested.append hattested' hsame.catalog⟩

end Container

end Wiring
