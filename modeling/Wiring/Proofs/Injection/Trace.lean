/-
  `Host.traced` — a host that traces how instances are made and wired.

  1. The world of the traced host is the old world with a list of `Deed`s beside it, which the old
     host never sees: every call of a constructor, a setter, an injected method or an initializer,
     and every supply of resources, each with its outcome.
  2. `provide.traced` adds the requests to it, so that requests and calls are in one order.
  3. The arguments of a member are asked for one after the other, by position
     (`arguments_traced`).
-/
import Wiring.Definition.Instance
import Wiring.Proofs.Effect.Leads
import Wiring.Proofs.Recording.Basic

namespace Wiring

/-- `Deed V` — one thing done to make or to wire an instance, with its outcome. -/
inductive Deed (V : Vocabulary) where
  | requested (point : Point V.Routine) (outcome : Except Failure (Reference V))
  | constructed (routine : V.Routine) (arguments : List (Reference V))
      (outcome : Except Failure (Reference V))
  | assigned (routine : V.Routine) (receiver value : Reference V) (outcome : Except Failure Unit)
  | performed (routine : V.Routine) (receiver : Reference V) (arguments : List (Reference V))
      (outcome : Except Failure Unit)
  | supplied (routine : V.Routine) (receiver : Reference V) (outcome : Except Failure Unit)

/-- `d.isSupply` — whether resources were supplied, which is done for no member in particular. -/
def Deed.isSupply {V : Vocabulary} : Deed V → Bool
  | supplied .. => true
  | _ => false

/-- `Deed.recorder V` — constructors, setters, injected methods, initializers and supplies are noted. -/
def Deed.recorder (V : Vocabulary) : Recorder V (Deed V) where
  assigned c r v outcome := some (.assigned c r v outcome)
  performed c r args outcome := some (.performed c r args outcome)
  constructed c args outcome := some (.constructed c args outcome)
  supplied c r outcome := some (.supplied c r outcome)

/-- `host.traced` — `host`, with a trace of what is done to make and to wire instances. -/
def Host.traced (host : Host) : Host := host.recording (Deed.recorder host.toVocabulary)

variable {host : Host} {P : Type}

/-- `provide.traced` — `provide`, with its answers in the trace. -/
def Provider.traced (provide : Provider host P) : Provider host.traced P := fun point s =>
  let (outcome, p, w) := provide point (s.1, s.2.1)
  (outcome, p, w, s.2.2 ++ [.requested point outcome])

/-- `answers points values` — the requests for `points`, answered by `values` in turn. -/
def Deed.answers {V : Vocabulary} (points : List (Point V.Routine)) (values : List (Reference V)) :
    List (Deed V) :=
  (points.zip values).map fun answer => .requested answer.1 (.ok answer.2)

/-- A success is noted. -/
theorem Effect.leads_noting {W N α : Type} (mark : Except Failure α → N) (x : Effect W α)
    (s : W × List N) :
    (x.noting fun r => some (mark r)).Leads s (fun a t => t.2 = s.2 ++ [mark (.ok a)])
      fun _ => True where
  ok {a t} h := by
    rw [noting] at h
    rcases hr : x s.1 with ⟨outcome, w⟩
    rw [hr] at h
    cases h
    rfl
  error _ := trivial

namespace Definition

/-- What is requested is in the trace, with the answer. -/
theorem request_traced (d : Definition host.traced) (provide : Provider host P)
    (point : Point host.Routine) (s : P × host.traced.World) :
    (d.request provide.traced point).Leads s
      (fun value t => t.2.2 = s.2.2 ++ [.requested point (.ok value)]) fun _ => True := by
  refine Effect.Leads.blaming ⟨fun {value t} h => ?_, fun _ => trivial⟩ _
  dsimp only [Provider.traced] at h
  rcases hr : provide point (s.1, s.2.1) with ⟨outcome, p, w⟩
  rw [hr] at h
  cases h
  rfl

/-- The points of a member are asked for in turn, each with one answer. -/
theorem arguments_traced (d : Definition host.traced) (provide : Provider host P) (m : Member)
    (s : P × host.traced.World) :
    (d.arguments provide.traced m).Leads s
      (fun values t => values.length = (d.component.parameterPoints m).length ∧ t.2.2 = s.2.2 ++
        Deed.answers (V := host.toVocabulary) (d.component.parameterPoints m) values)
      fun _ => True := by
  refine Effect.leads_collect
    (Q := fun points values (t : P × host.traced.World) => values.length = points.length ∧
      t.2.2 = s.2.2 ++ Deed.answers (V := host.toVocabulary) points values)
    ?_ ⟨rfl, (List.append_nil _).symm⟩
  rintro points point - - values t ⟨hlength, ht⟩
  refine (request_traced d provide point t).mono (fun value u hu => ⟨?_, ?_⟩) fun _ h => h
  · rw [List.length_append, List.length_append, hlength]
    rfl
  · rw [hu, ht, Deed.answers, Deed.answers, List.zip_append hlength.symm,
      List.map_append, List.append_assoc]
    rfl

end Definition

end Wiring
