/-
  Proxy schemes that leave the journal alone.

  A scheme is `Modest` if all that it may write down are questions to scopes.  The standard scheme
  is, and so is every scheme that is carried over to the journaled host.  A container is `Minded` if
  all its schemes are modest and its listener has been carried over; what it writes down otherwise,
  it has been told to by the host or by its own doings.
-/
import Wiring.Proofs.Container.Grove
import Wiring.Proofs.Journal.Container

namespace Wiring

variable {host : Host}

/-- `e.IsAsked` — a scope was asked for its instance. -/
def Event.IsAsked {V : Vocabulary} (e : Event V) : Prop := ∃ scope outcome, e = .asked scope outcome

/-- `s.Modest` — all that the scheme writes down are questions to scopes. -/
def ProxyScheme.Modest (s : ProxyScheme host.journaled) : Prop :=
  s.Quiet (Journal.writing fun e : Event host.toVocabulary => e.IsAsked)

namespace ProxyScheme

theorem modest_standard : (standard host.journaled).Modest where
  wrap _ _ _ _ w := ⟨[], (List.append_nil w.2).symm, nofun⟩
  current r := by
    cases r with
    | plain value => exact .of_keeps fun s => ⟨[], (List.append_nil s.2).symm, nofun⟩
    | intercepted p => exact .of_keeps fun s => ⟨[], (List.append_nil s.2).symm, nofun⟩
    | «scoped» scope =>
      have hasks : (Journal.writing fun e : Event host.toVocabulary => e.IsAsked).Along []
          (host.journaled.contextual scope) :=
        Journal.writing_noting (fun outcome => ⟨scope, outcome, rfl⟩) (host.contextual scope)
      exact hasks.map some

theorem modest_journaled (s : ProxyScheme host) : s.journaled.Modest where
  wrap _ _ _ _ w := ⟨[], (List.append_nil w.2).symm, nofun⟩
  current _ := .of_keeps fun w => ⟨[], (List.append_nil w.2).symm, nofun⟩

/-- A modest scheme is quiet about everything but questions to scopes. -/
theorem Modest.quiet {s : ProxyScheme host.journaled} (h : s.Modest) {ℓ : Type}
    {pick : Event host.toVocabulary → Option ℓ}
    (hpick : ∀ scope outcome, pick (.asked scope outcome) = none) :
    s.Quiet (Journal.course pick) := by
  have hrel : ∀ {w w' : host.journaled.World},
      (Journal.writing fun e : Event host.toVocabulary => e.IsAsked).rel [] w w' →
        (Journal.course pick).rel [] w w' := by
    rintro w w' ⟨seg, hseg, hasked⟩
    refine ⟨seg, hseg, List.filterMap_eq_nil_iff.2 fun e he => ?_⟩
    obtain ⟨scope, outcome, rfl⟩ := hasked e he
    exact hpick scope outcome
  exact ⟨fun _ _ _ _ w => hrel (h.wrap _ _ _ _ w),
    fun r => .of_keeps fun w => hrel ((h.current r).keeps w)⟩

end ProxyScheme

/-- What a modest definition has become is modest. -/
theorem Definition.Later.modest {d d' : Definition host.journaled} (h : Definition.Later d d')
    (hmodest : d.scheme.Modest) : d'.scheme.Modest := by
  rw [h.scheme_eq]
  exact hmodest

namespace Container

/-- `Minded l c` — the schemes of `c` are modest, and its listener is `l`, which writes down what it
    is told. -/
structure Minded (l : Listener host) (c : Container host.journaled) : Prop where
  modest : c.catalog.Sound (·.scheme.Modest)
  listener : c.listener = l.journaled

namespace Minded

variable {l : Listener host} {c c' : Container host.journaled}

theorem empty (l : Listener host) (settings : Settings) :
    Minded l { Container.ofSettings settings with listener := l.journaled } :=
  ⟨Catalog.sound_ofSettings settings, rfl⟩

theorem of_follows (h : Minded l c) (hcatalog : c.catalog.Follows c'.catalog)
    (hlistener : c'.listener = c.listener) : Minded l c' where
  modest := hcatalog.sound Definition.Later.modest h.modest
  listener := hlistener.trans h.listener

/-- Its journal is the ledger of what it stores and retires. -/
theorem keeps (h : Minded l c) : c.Keeps host.ledger := by
  refine ⟨fun t d hd => ?_, h.listener ▸ l.enters_ledger⟩
  exact (h.modest t d hd).imp id fun hmodest => hmodest.quiet fun _ _ => rfl

theorem register (h : Minded l c) {d : Definition host.journaled} (hd : d.scheme.Modest)
    {catalog : Catalog host.journaled} (hcatalog : c.catalog.register d = .ok catalog) :
    Minded l { c with catalog := catalog } :=
  ⟨h.modest.register hd hcatalog, h.listener⟩

end Minded

end Container

end Wiring
