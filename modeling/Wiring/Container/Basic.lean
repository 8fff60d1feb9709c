/-
  `Container host` — a catalog of definitions and the store of the instances made from them.

  While instances are being made, the container also knows which types are under construction, and
  has a frame for each of them with the handles of the instances made for it so far, the innermost
  first.
-/
import Wiring.Catalog
import Wiring.Store
import Wiring.Definition.Lifecycle

namespace Wiring

/-- `Listener host` — what happens in the world when the making of an instance begins, when it
    enters or leaves the store, and after its callbacks before destruction have run. -/
structure Listener (host : Host) where
  begun : TypeKey → host.World → host.World := fun _ w => w
  stored : Handle → Stored host.toVocabulary → host.World → host.World
  /-- The handle, and whether it was live. -/
  released : Handle → Bool → host.World → host.World
  /-- The handle and the entry that were released, and the outcome of the callbacks. -/
  retired : Handle → Stored host.toVocabulary → Except Failure Unit → host.World → host.World :=
    fun _ _ _ w => w

/-- `Listener.silent` — nothing happens. -/
def Listener.silent {host : Host} : Listener host where
  stored _ _ w := w
  released _ _ w := w

/-- `Container host` — definitions, live instances, and the creations in progress. -/
structure Container (host : Host) where
  catalog : Catalog host := {}
  store : Store host.toVocabulary := ∅
  listener : Listener host := Listener.silent
  /-- The types under construction, innermost first. -/
  underConstruction : List TypeKey := []
  /-- The instances made so far for each of them. -/
  frames : List (List Handle) := []

namespace Container

variable {host : Host}

/-- `Act host α` — an effect on a container and the world. -/
abbrev Act (host : Host) (α : Type) : Type := Effect (Container host × host.World) α

/-- `ofSettings settings` — the empty container under the settings. -/
def ofSettings (settings : Settings) : Container host where
  catalog := Catalog.ofSettings settings

/-- `c.register d` — `d` joins the catalog, unless there is a reason to refuse it. -/
def register (c : Container host) (d : Definition host) : Except Rejection (Container host) :=
  (c.catalog.register d).map fun catalog => { c with catalog := catalog }

/-- `c.reference? h` — the live instance under `h`. -/
def reference? (c : Container host) (h : Handle) : Option host.Ref := c.store.reference? h

/-- `onDefinition t x` — `x` on the definition of type `t`, which may change by it. -/
def onDefinition {α : Type} (t : TypeKey) (x : Effect (Definition host × host.World) α) :
    Act host α := fun s =>
  match s.1.catalog.byType? t with
  | none => (.error (.unknownComponent (.identity t)), s)
  | some d =>
    let (outcome, d, w) := x (d, s.2)
    (outcome, { s.1 with catalog := s.1.catalog.updated t d }, w)

theorem onDefinition_of_none {α : Type} {t : TypeKey}
    {x : Effect (Definition host × host.World) α} {s : Container host × host.World}
    (h : s.1.catalog.byType? t = none) :
    onDefinition t x s = (.error (.unknownComponent (.identity t)), s) := by
  rw [onDefinition, h]

theorem onDefinition_of_some {α : Type} {t : TypeKey}
    {x : Effect (Definition host × host.World) α} {s : Container host × host.World}
    {d : Definition host} (h : s.1.catalog.byType? t = some d) :
    onDefinition t x s = ((x (d, s.2)).1,
      { s.1 with catalog := s.1.catalog.updated t (x (d, s.2)).2.1 }, (x (d, s.2)).2.2) := by
  rw [onDefinition, h]

theorem store_onDefinition {α : Type} (t : TypeKey)
    (x : Effect (Definition host × host.World) α) (s : Container host × host.World) :
    (onDefinition t x s).2.1.store = s.1.store := by
  rw [onDefinition]
  split <;> rfl

/-- `keep e` — `e` enters the store. -/
def keep (e : Stored host.toVocabulary) : Act host Handle := fun s =>
  let h := s.1.store.upcoming
  (.ok h, { s.1 with store := s.1.store.keep e }, s.1.listener.stored h e s.2)

/-- `release h` — `h` leaves the store, with the entry that was under it. -/
def release (h : Handle) (s : Container host × host.World) :
    Option (Stored host.toVocabulary) × Container host × host.World :=
  let entry := s.1.store.find? h
  (entry, { s.1 with store := s.1.store.release h }, s.1.listener.released h entry.isSome s.2)

theorem store_release (h : Handle) (s : Container host × host.World) :
    (release h s).2.1.store = s.1.store.release h := rfl

end Container

end Wiring
