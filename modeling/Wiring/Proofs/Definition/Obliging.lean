/-
  A definition on an obliging host does its part.

  Apart from its host, a definition can fail for two reasons of its own: its lifecycle chains were
  resolved elsewhere, or its proxy scheme does not find what a reference stands for.  A definition
  that is `Able` has neither, and stays able for as long as it is in use.
-/
import Wiring.Proofs.Definition.Later
import Wiring.Proofs.Invocation.Obliging

namespace Wiring

namespace Definition

variable {host : Host} {d d' d₀ : Definition host} {Q : Failure → Prop}

/-- `d.Able` — the lifecycle chains of `d` can be had, and its proxy scheme finds what it looks
    for. -/
structure Able (d : Definition host) : Prop where
  chains : ∃ chains, d.chains = .ok chains
  current : ∀ r, (d.scheme.current r).Sure

theorem Able.later (h : d.Able) (hlater : Later d d') : d'.Able where
  chains := hlater.chains_eq ▸ h.chains
  current := hlater.scheme_eq ▸ h.current

/-- `Since d₀ s` — the definition has come from `d₀`. -/
def Since (d₀ : Definition host) (s : Definition host × host.World) : Prop := Later d₀ s.1

theorem decides_lifecycleChains (h : d₀.Able) :
    Effect.Decides (Since d₀) Q True (Effect.onLayer lifecycleChains) :=
  .of_ok fun s hs => by
    obtain ⟨chains, hchains⟩ := (h.later hs).chains
    refine ⟨chains, (s.1.settled, s.2), ?_, hs.trans (Later.settled s.1)⟩
    rw [Effect.onLayer_apply, lifecycleChains_apply, hchains]

theorem decides_needsProxy (h : d₀.Able) :
    Effect.Decides (Since d₀) Q True (Effect.onLayer needsProxy) :=
  .of_ok fun s hs => by
    obtain ⟨chains, hchains⟩ := (h.later hs).chains
    refine ⟨s.1.settled.wanted chains, (s.1.settled, s.2), ?_, hs.trans (Later.settled s.1)⟩
    rw [Effect.onLayer_apply, needsProxy_apply, hchains]
    rfl

theorem sure_recruit (hhost : host.Obliging) (chain : List (Interceptor host.Routine)) :
    ∀ enlisted, (recruit chain enlisted).Sure := by
  induction chain with
  | nil => exact fun enlisted => Effect.Sure.pure enlisted
  | cons i rest ih =>
    intro enlisted
    rw [recruit]
    split
    · exact ih enlisted
    · exact ((hhost.make i.maker).blaming _).bind fun it => ih _

theorem decides_interceptors (hhost : host.Obliging) (h : d₀.Able) :
    Effect.Decides (Since d₀) Q True interceptors :=
  (decides_lifecycleChains h).after fun _ => .read fun _ _ =>
    Effect.Decides.onWorld (J := Later d₀) (sure_recruit hhost _ _)

theorem decides_wrap (h : d₀.Able) (made : host.Ref) (interceptors : host.LiveSet) :
    Effect.Decides (Since d₀) Q True (wrap made interceptors) := by
  refine (decides_needsProxy h).after fun needed => ?_
  cases needed with
  | false => exact .pure made
  | true => exact .read fun _ _ => Effect.Decides.onWorld (J := Later d₀) fun w => ⟨_, _, rfl⟩

theorem decides_runPhase (hhost : host.Obliging) (h : d₀.Able) (phase : Phase)
    (reference : host.Ref) : Effect.Decides (Since d₀) Q True (runPhase phase reference) := by
  refine .read fun s hs => ?_
  have hpresent : (s.1.present reference).Sure :=
    (((h.later hs).current reference).blaming _).bind fun _ => Effect.Sure.pure _
  refine (Effect.Decides.onWorld (J := Later d₀) hpresent).after fun reference => ?_
  dsimp only
  split
  · exact .pure ()
  · refine (decides_lifecycleChains h).after fun chains =>
      Effect.Decides.onWorld (J := Later d₀) (Effect.Sure.blaming ?_ _)
    exact (Invocation.sure_lifecycle hhost _ _ _ _ _).bind fun _ => Effect.Sure.pure ()

theorem sure_supply (hhost : host.Obliging) (d : Definition host) (receiver : host.Ref) :
    (d.supply receiver).Sure := by
  rw [supply]
  cases d.resources with
  | none => exact Effect.Sure.pure ()
  | some supplier => exact (hhost.supply supplier receiver).blaming _

end Definition

end Wiring
