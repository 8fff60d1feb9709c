/-
  One step of an invocation at a time.

  Each function that a call of `proceed` goes through has one equation here, which says what comes
  of it in terms of the host's own routines.  Proofs about whole calls cite the equations and do
  not open the functions.
-/
import Wiring.Invocation.Run

namespace Wiring

namespace Invocation

variable {host : Host}

theorem live_apply (i : Interceptor host.Routine) (s : Invocation host.toVocabulary × host.World) :
    live i s = match s.1.live? i.name with
      | some it => (.ok it, s)
      | none => match host.make i.maker s.2 with
        | (.ok it, w) => (.ok it, s.1.enlisted i.name it, w)
        | (.error f, w) => (.error (.interceptorCreation i.name f), s.1, w) := by
  rw [live]
  show (match s.1.live? i.name with
    | some it => _
    | none => _ : Run host host.Live) s = _
  cases s.1.live? i.name with
  | some it => rfl
  | none =>
    show (Effect.onWorld (host.enlist i) >>= _ : Run host host.Live) s = _
    rw [Effect.bind_apply, Effect.onWorld_apply, Host.enlist, Effect.blaming_apply]
    rcases host.make i.maker s.2 with ⟨_ | _, _⟩ <;> rfl

theorem reachEnding_apply (s : Invocation host.toVocabulary × host.World) :
    reachEnding s = match s.1.ending with
      | .callbacks target operations =>
        match Effect.each (fun op => host.notify op.routine target) operations s.2 with
        | (.ok _, w) => (.ok none, s.1, w)
        | (.error f, w) => (.error f, s.1, w)
      | .construct k _ =>
        match host.construct k.routine s.1.parameters s.2 with
        | (.ok made, w) => (.ok none, s.1.filled made, w)
        | (.error f, w) => (.error f, s.1, w)
      | .call target method =>
        match host.call method.routine target s.1.parameters s.2 with
        | (.ok result, w) => (.ok (some result), s.1, w)
        | (.error f, w) => (.error f, s.1, w) := by
  rw [reachEnding]
  show (match s.1.ending with
    | .callbacks _ _ => _
    | .construct _ _ => _
    | .call _ _ => _ : Run host (Option host.Ref)) s = _
  cases s.1.ending with
  | callbacks target operations =>
    show (Effect.onWorld _ >>= _ : Run host (Option host.Ref)) s = _
    rw [Effect.bind_apply, Effect.onWorld_apply]
    dsimp only
    rcases Effect.each _ operations s.2 with ⟨_ | _, _⟩ <;> rfl
  | construct k earlier =>
    show (Effect.onWorld _ >>= _ : Run host (Option host.Ref)) s = _
    rw [Effect.bind_apply, Effect.onWorld_apply]
    dsimp only
    rcases host.construct k.routine s.1.parameters s.2 with ⟨_ | _, _⟩ <;> rfl
  | call target method =>
    show (Effect.onWorld _ >>= _ : Run host (Option host.Ref)) s = _
    rw [Effect.bind_apply, Effect.onWorld_apply]
    dsimp only
    rcases host.call method.routine target s.1.parameters s.2 with ⟨_ | _, _⟩ <;> rfl

theorem around_apply (it : host.Live) (proceed : Run host (Option host.Ref))
    (s : Invocation host.toVocabulary × host.World) :
    around it proceed s =
      let r := (host.intercept it s.1.phase).run proceed
        ({ s.1 with cursor := s.1.cursor + 1 }, s.2)
      (r.1, { r.2.1 with cursor := r.2.1.cursor - 1 }, r.2.2) := rfl

theorem advance_apply (proceed : Run host (Option host.Ref))
    (s : Invocation host.toVocabulary × host.World) :
    advance proceed s = match s.1.chain[s.1.cursor]? with
      | none => reachEnding s
      | some i => match live i s with
        | (.ok it, t) => around it proceed t
        | (.error f, t) => (.error f, t) := by
  rw [advance]
  show (match s.1.chain[s.1.cursor]? with
    | none => _
    | some i => _ : Run host (Option host.Ref)) s = _
  cases s.1.chain[s.1.cursor]? with
  | none => rfl
  | some i =>
    show (live i >>= fun it => around it proceed : Run host (Option host.Ref)) s = _
    rw [Effect.bind_apply]
    dsimp only
    rcases live i s with ⟨_ | _, _⟩ <;> rfl

end Invocation

end Wiring
