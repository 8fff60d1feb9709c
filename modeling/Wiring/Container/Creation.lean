/-
  Creating instances.

  1. `assemble` takes an instance through its whole making: live interceptors, constructor, wiring,
     proxy, callbacks after construction.
  2. `createBy nested` surrounds it: a type that is under construction already is a cycle; an
     instance that was made is stored with those made for it; one that was not takes those with it.
     Dependencies are themselves created, by `nested`.
  3. `createWithin n` closes the circle for `n` levels of nesting.  Types under construction are
     distinct and registered, so as many levels as there are definitions always suffice.
-/
import Wiring.Container.Destruction
import Wiring.Definition.Instance

namespace Wiring

namespace Container

variable {host : Host}

/-- `assemble d provide` — an instance of `d`, ready for use but not stored. -/
def assemble (d : Definition host) (provide : Provider host (Container host)) :
    Act host host.Ref := do
  let t := d.component.type
  let interceptors ← onDefinition t Definition.interceptors
  let made ← d.produce interceptors provide
  d.inject made provide
  let reference ← onDefinition t (Definition.wrap made interceptors)
  onDefinition t (Definition.postConstruct reference)
  return reference

/-- `begun t` — type `t` is under construction, and nothing has been made for it yet. -/
def begun (c : Container host) (t : TypeKey) : Container host :=
  { c with underConstruction := t :: c.underConstruction, frames := [] :: c.frames }

/-- `ended t` — type `t` is no longer under construction; gives what was made for it. -/
def ended (c : Container host) (t : TypeKey) : List Handle × Container host :=
  (c.frames.headD [],
    { c with underConstruction := c.underConstruction.erase t, frames := c.frames.tail })

/-- `c.credited h` — `h` was made for the innermost type under construction, if there is one. -/
def credited (c : Container host) (h : Handle) : Container host :=
  match c.frames with
  | [] => c
  | frame :: outer => { c with frames := (frame ++ [h]) :: outer }

/-- `supplying nested` — dependencies made by `nested`, each anew, and credited to whatever is
    under construction. -/
def supplying (nested : Definition host → Act host (Handle × host.Ref)) :
    Provider host (Container host) := fun point => do
  let c := (← get).1
  match c.catalog.byType? point.requires with
  | none => Effect.fail (.unknownComponent (.required point.requires))
  | some d =>
    let (h, reference) ← nested d
    modify fun s => (s.1.credited h, s.2)
    return reference

/-- `createBy nested d` — a stored instance of `d`, with dependencies made by `nested`. -/
def createBy (nested : Definition host → Act host (Handle × host.Ref)) (d : Definition host) :
    Act host (Handle × host.Ref) := fun s =>
  let t := d.component.type
  if t ∈ s.1.underConstruction then (.error (.dependencyCycle d.name), s)
  else
    let (outcome, c, w) := assemble d (supplying nested) (s.1.begun t, s.1.listener.begun t s.2)
    let (dependents, c) := c.ended t
    match outcome with
    | .ok reference =>
      (do let h ← keep ⟨t, reference, dependents⟩
          return (h, reference)) (c, w)
    | .error failure => (.error failure, (destroyAll dependents (c, w)).2)

section

variable {nested : Definition host → Act host (Handle × host.Ref)} {d : Definition host}
  {s : Container host × host.World} {c : Container host} {w : host.World}

theorem createBy_of_cycle (h : d.component.type ∈ s.1.underConstruction) :
    createBy nested d s = (.error (.dependencyCycle d.name), s) :=
  if_pos h

/-- What was assembled is stored, with the handles that its frame holds. -/
theorem createBy_of_ok {reference : host.Ref} (h : d.component.type ∉ s.1.underConstruction)
    (hr : assemble d (supplying nested) (s.1.begun d.component.type,
      s.1.listener.begun d.component.type s.2) = (.ok reference, c, w)) :
    createBy nested d s = (.ok ((c.ended d.component.type).2.store.upcoming, reference),
      (keep ⟨d.component.type, reference, (c.ended d.component.type).1⟩
        ((c.ended d.component.type).2, w)).2) := by
  rw [createBy]
  dsimp only
  rw [if_neg h, hr]
  rfl

/-- What was made for an instance that could not be assembled is destroyed. -/
theorem createBy_of_error {f : Failure} (h : d.component.type ∉ s.1.underConstruction)
    (hr : assemble d (supplying nested) (s.1.begun d.component.type,
      s.1.listener.begun d.component.type s.2) = (.error f, c, w)) :
    createBy nested d s = (.error f, (destroyAll (c.ended d.component.type).1
      ((c.ended d.component.type).2, w)).2) := by
  rw [createBy]
  dsimp only
  rw [if_neg h, hr]

end

/-- `createWithin n d` — a stored instance of `d`, with at most `n` creations nested in it. -/
def createWithin : Nat → Definition host → Act host (Handle × host.Ref)
  | 0 => createBy fun d => .fail (.dependencyCycle d.name)
  | n + 1 => createBy (createWithin n)

/-- `createFrom d` — a stored instance of `d`. -/
def createFrom (d : Definition host) : Act host (Handle × host.Ref) := fun s =>
  createWithin s.1.catalog.size d s

/-- `create t` — a new instance of type `t`; its handle. -/
def create (t : TypeKey) : Act host Handle := do
  let c := (← get).1
  match c.catalog.byType? t with
  | none => Effect.fail (.unknownComponent (.identity t))
  | some d => Prod.fst <$> createFrom d

/-- `createByName name` — a new instance of the component called `name`; its handle. -/
def createByName (name : String) : Act host Handle := do
  let c := (← get).1
  match c.catalog.byName? name with
  | none => Effect.fail (.unknownComponent (.component name))
  | some d => Prod.fst <$> createFrom d

/-- `provide point` — the container as a source of dependencies: an instance of the required type,
    created for the occasion. -/
def provide : Provider host (Container host) := supplying createFrom

end Container

end Wiring
