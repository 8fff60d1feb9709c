/-
  Destroying instances.

  `destroyAll` works through a list of handles, the next one first.  A live handle leaves the store
  before its callbacks run, and the instances made for it come before all others that are left, so
  the walk is depth-first.  A failure never stops it.  Each handle that is released makes the store
  smaller, and any other only the list, so the walk ends on every store, whatever it holds.
-/
import Wiring.Container.Basic

namespace Wiring

/-- `Visit V` — what the walk did at one live handle: the entry it released, and the outcome of the
    callbacks. -/
structure Visit (V : Vocabulary) where
  handle : Handle
  entry : Stored V
  outcome : Except Failure Unit

/-- `v.failure?` — why the callbacks of the visited instance failed, if they did. -/
def Visit.failure? {V : Vocabulary} (v : Visit V) : Option Failure :=
  match v.outcome with
  | .ok _ => none
  | .error f => some f

namespace Container

variable {host : Host}

/-- `retire h e` — the callbacks before the destruction of an instance that was released from `h`,
    by the definition that its type has now. -/
def retire (h : Handle) (e : Stored host.toVocabulary) : Act host Unit := fun s =>
  onDefinition e.type (fun t =>
    let (outcome, d, w) := Definition.preDestroy e.reference t
    (outcome, d, s.1.listener.retired h e outcome w)) s

theorem retire_of_none {h : Handle} {e : Stored host.toVocabulary}
    {s : Container host × host.World} (hd : s.1.catalog.byType? e.type = none) :
    retire h e s = (.error (.unknownComponent (.identity e.type)), s) :=
  onDefinition_of_none hd

/-- The callbacks run, and then the listener is told of their outcome. -/
theorem retire_of_some {h : Handle} {e : Stored host.toVocabulary}
    {s : Container host × host.World} {d : Definition host}
    (hd : s.1.catalog.byType? e.type = some d) :
    retire h e s =
      let (outcome, d, w) := Definition.preDestroy e.reference (d, s.2)
      (outcome, { s.1 with catalog := s.1.catalog.updated e.type d },
        s.1.listener.retired h e outcome w) :=
  onDefinition_of_some hd

theorem store_retire (h : Handle) (e : Stored host.toVocabulary)
    (s : Container host × host.World) : (retire h e s).2.1.store = s.1.store :=
  store_onDefinition ..

-- `live` serves the termination proof alone, which the linter does not see.
set_option linter.unusedVariables false in
/-- `destroyAll pending s` — every live handle reachable from `pending` is released and retired;
    gives the visits in the order of the walk. -/
def destroyAll : List Handle → Container host × host.World →
    List (Visit host.toVocabulary) × Container host × host.World
  | [], s => ([], s)
  | h :: rest, s =>
    match live : s.1.store.find? h with
    | none => destroyAll rest (release h s).2
    | some e =>
      let retired := retire h e (release h s).2
      let others := destroyAll (e.dependents ++ rest) retired.2
      (⟨h, e, retired.1⟩ :: others.1, others.2)
termination_by pending s => (s.1.store.size, pending.length)
decreasing_by
  · rw [store_release, Store.release_of_not_live live]
    exact Prod.Lex.right _ (Nat.lt_succ_self _)
  · rw [store_retire, store_release]
    exact Prod.Lex.left _ _ (Store.size_release_lt live)

theorem destroyAll_nil (s : Container host × host.World) : destroyAll [] s = ([], s) := by
  rw [destroyAll]

/-- A handle that is not live costs the walk nothing but the listener's notice. -/
theorem destroyAll_of_dead {h : Handle} {rest : List Handle} {s : Container host × host.World}
    (hs : s.1.store.find? h = none) :
    destroyAll (h :: rest) s = destroyAll rest (release h s).2 := by
  rw [destroyAll]
  split
  · rfl
  · next e he => rw [hs] at he; cases he

/-- A live handle is released, retired, and followed by the instances made for it. -/
theorem destroyAll_of_live {h : Handle} {rest : List Handle} {s : Container host × host.World}
    {e : Stored host.toVocabulary} (hs : s.1.store.find? h = some e) :
    destroyAll (h :: rest) s =
      let retired := retire h e (release h s).2
      let others := destroyAll (e.dependents ++ rest) retired.2
      (⟨h, e, retired.1⟩ :: others.1, others.2) := by
  rw [destroyAll]
  split
  · next he => rw [hs] at he; cases he
  · next e' he => rw [hs] at he; cases he; rfl

/-- `destroy h` — the instance under `h` and all that were made for it are destroyed; of the
    failures on the way, the first is the outcome.  A handle that is not live is left alone. -/
def destroy (h : Handle) : Act host Unit := fun s =>
  let (visits, t) := destroyAll [h] s
  match visits.findSome? (·.failure?) with
  | none => (.ok (), t)
  | some failure => (.error failure, t)

/-- The outcome of a destruction is all that the failures on the way decide. -/
theorem destroy_state (h : Handle) (s : Container host × host.World) :
    (destroy h s).2 = (destroyAll [h] s).2 := by
  rw [destroy]
  dsimp only
  cases (destroyAll [h] s).1.findSome? (·.failure?) <;> rfl

end Container

end Wiring
