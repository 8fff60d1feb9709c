/-
  One call on an idle invocation, and everything that proceeds inside it.

  1. `Called inv w c u` says once what may become of an idle invocation and the world by one call
     from outside: a pass through the chain, the goal alone, one of three changes of the passage, or
     nothing.  Every call is like that (`run_called`), and leaves the invocation idle
     (`Called.idle`).
  2. `x.ProceedsAt proceed s u` — the program `x` of an interceptor, started in `s`, proceeds in the
     state `u`; `x.ComesBy proceed s u` — it is in the state `u` at one time or another.
  3. `Reached s u` — the call that proceeds in `s` leads, through any number of interceptors, to a
     call that proceeds in `u`.  A property of states holds wherever the invocation proceeds, if it
     holds in `s` and each interceptor hands it on.
  4. `Within s v` — the call that proceeds in `s` leads to an interceptor, at whatever depth, whose
     program is in the state `v` at one time or another.
-/
import Wiring.Proofs.Invocation.Life

namespace Wiring

variable {host : Host}

/-! ## One call -/

/-- What is refused was meant to reach the goal. -/
theorem Status.drives_of_refuses {V : Vocabulary} {status : Status} {c : Call V}
    (h : status.refuses c = true) : c.drives = true := by
  cases c with
  | proceed => rfl
  | proceedDirectly => rfl
  | _ => cases status <;> cases h

namespace Invocation

/-- `Called inv w c u` — what may become of the idle `inv` and the world `w` by the call `c`. -/
inductive Called (inv : Invocation host.toVocabulary) (w : host.World) :
    Call host.toVocabulary → Invocation host.toVocabulary × host.World → Prop where
  /-- The chain is passed through. -/
  | pass {status r} (hpending : inv.status = .pending) (hstatus : status ≠ .running)
    (hr : r = inv.route.run inv.chain (inv.passage, w)) :
    Called inv w .proceed ((inv.marked status).carrying r.2.1, r.2.2)
  /-- The goal is reached at once. -/
  | goal {status r} (hstatus : status ≠ .running) (hr : r = inv.route.arrive (inv.passage, w)) :
    Called inv w .proceedDirectly ((inv.marked status).carrying r.2.1, r.2.2)
  | refused {c} (hdrives : c.drives = true) (hrefuses : inv.status.refuses c = true) :
    Called inv w c (inv, w)
  | take : Called inv w .takeNewInstance (inv.carrying { inv.passage with made := none }, w)
  | replace (ps) :
    Called inv w (.setParameters ps) (inv.carrying (inv.route.replace inv.passage ps).2, w)
  | share (data) : Called inv w (.setData data) (inv.carrying { inv.passage with data := data }, w)

/-- The status that a call leaves behind which was not refused. -/
private theorem over_ne_running (ok : Bool) : (if ok then Status.completed else .failed) ≠ .running := by
  cases ok <;> exact Status.noConfusion

theorem run_called {inv : Invocation host.toVocabulary} (hidle : inv.Idle)
    (c : Call host.toVocabulary) (w : host.World) : Called inv w c (c.run (inv, w)).2 := by
  cases hrefuses : inv.status.refuses c with
  | true =>
    rw [run_of_refuses hrefuses]
    exact .refused (Status.drives_of_refuses hrefuses) hrefuses
  | false =>
    cases c with
    | proceed =>
      have hpending : inv.status = .pending := by
        have hrunning := hidle.status
        cases h : inv.status <;> simp_all [Status.refuses]
      have hrun : proceed (inv, w) = _ := proceed_of_start hpending hidle.cursor w
      show Called inv w .proceed (proceed (inv, w)).2
      rw [hrun, settled, if_pos hidle.depth]
      exact .pass hpending (over_ne_running _) rfl
    | proceedDirectly =>
      have hopen : inv.status ≠ .failed := by
        rintro h
        rw [h] at hrefuses
        cases hrefuses
      show Called inv w .proceedDirectly (proceedDirectly (inv, w)).2
      rw [proceedDirectly_of_idle hidle.depth hopen]
      exact .goal (over_ne_running _) rfl
    | takeNewInstance =>
      show Called inv w .takeNewInstance (inv.takeMade.2, w)
      rw [takeMade_apply]
      exact .take
    | setParameters ps =>
      show Called inv w (.setParameters ps) ((inv.setParameters ps).2, w)
      rw [setParameters_apply]
      exact .replace ps
    | setData data =>
      show Called inv w (.setData data) ({ inv with data := data }, w)
      rw [setData_apply]
      exact .share data

/-- A call leaves the invocation idle, with the chain and the route that it had. -/
theorem Called.idle {inv : Invocation host.toVocabulary} {w : host.World}
    {c : Call host.toVocabulary} {u : Invocation host.toVocabulary × host.World}
    (h : Called inv w c u) (hidle : inv.Idle) :
    u.1.Idle ∧ u.1.chain = inv.chain ∧ u.1.route = inv.route := by
  cases h with
  | pass _ hstatus => exact ⟨⟨hidle.cursor, hidle.depth, hstatus⟩, rfl, route_carrying _ _⟩
  | goal hstatus => exact ⟨⟨hidle.cursor, hidle.depth, hstatus⟩, rfl, route_carrying _ _⟩
  | refused => exact ⟨hidle, rfl, rfl⟩
  | take => exact ⟨⟨hidle.cursor, hidle.depth, hidle.status⟩, rfl, route_carrying inv _⟩
  | replace => exact ⟨⟨hidle.cursor, hidle.depth, hidle.status⟩, rfl, route_carrying inv _⟩
  | share => exact ⟨⟨hidle.cursor, hidle.depth, hidle.status⟩, rfl, route_carrying inv _⟩

theorem Fresh.idle {V : Vocabulary} {inv : Invocation V} (h : inv.Fresh) : inv.Idle := by
  cases h <;> exact ⟨rfl, rfl, Status.noConfusion⟩

end Invocation

/-! ## Where programs proceed -/

namespace Advice

variable {α β : Type} {P : Invocation host.toVocabulary × host.World → Prop}
  {proceed : Run host (Option host.Ref)}

/-- `x.ProceedsAt proceed s u` — the program `x`, started in `s`, proceeds in the state `u`. -/
def ProceedsAt (proceed : Run host (Option host.Ref)) :
    Advice host.toVocabulary host.World α → Invocation host.toVocabulary × host.World →
      Invocation host.toVocabulary × host.World → Prop
  | .done _, _, _ => False
  | .proceed next, s, u => u = s ∨ (next (proceed s).1).ProceedsAt proceed (proceed s).2 u
  | .observe next, s, u => (next s.1.view).ProceedsAt proceed s u
  | .setParameters ps next, s, u =>
    (next (s.1.setParameters ps).1).ProceedsAt proceed ((s.1.setParameters ps).2, s.2) u
  | .setData data next, s, u => next.ProceedsAt proceed ({ s.1 with data := data }, s.2) u
  | .readWorld next, s, u => (next s.2).ProceedsAt proceed s u
  | .writeWorld w next, s, u => next.ProceedsAt proceed (s.1, w) u

/-- `x.ComesBy proceed s u` — the program `x`, started in `s`, is in the state `u` before one of its
    requests, or at its end. -/
def ComesBy (proceed : Run host (Option host.Ref)) :
    Advice host.toVocabulary host.World α → Invocation host.toVocabulary × host.World →
      Invocation host.toVocabulary × host.World → Prop
  | .done _, s, u => u = s
  | .proceed next, s, u => u = s ∨ (next (proceed s).1).ComesBy proceed (proceed s).2 u
  | .observe next, s, u => u = s ∨ (next s.1.view).ComesBy proceed s u
  | .setParameters ps next, s, u =>
    u = s ∨ (next (s.1.setParameters ps).1).ComesBy proceed ((s.1.setParameters ps).2, s.2) u
  | .setData data next, s, u => u = s ∨ next.ComesBy proceed ({ s.1 with data := data }, s.2) u
  | .readWorld next, s, u => u = s ∨ (next s.2).ComesBy proceed s u
  | .writeWorld w next, s, u => u = s ∨ next.ComesBy proceed (s.1, w) u

/-- A program is at first where it is started. -/
theorem comesBy_self (x : Advice host.toVocabulary host.World α)
    (s : Invocation host.toVocabulary × host.World) : x.ComesBy proceed s s := by
  cases x with
  | done a => rfl
  | _ => exact Or.inl rfl

/-- What holds whenever a program proceeds holds wherever it does. -/
theorem Asks.proceedsAt {x : Advice host.toVocabulary host.World α}
    {s u : Invocation host.toVocabulary × host.World} (h : x.Asks P proceed s)
    (hu : x.ProceedsAt proceed s u) : P u := by
  induction x generalizing s with
  | done a => cases hu
  | proceed next ih =>
    rcases hu with rfl | hu
    · exact h.1
    · exact ih _ h.2 hu
  | observe next ih => exact ih _ h hu
  | setParameters ps next ih => exact ih _ h hu
  | setData data next ih => exact ih h hu
  | readWorld next ih => exact ih _ h hu
  | writeWorld w next ih => exact ih h hu

/-- A program followed by another proceeds where either of them does. -/
theorem asks_andThen {x : Advice host.toVocabulary host.World α}
    {k : α → Advice host.toVocabulary host.World β}
    {s : Invocation host.toVocabulary × host.World} (hx : x.Asks P proceed s)
    (hk : ∀ a t, (k a).Asks P proceed t) : (x.andThen k).Asks P proceed s := by
  induction x generalizing s with
  | done a => exact hk a s
  | proceed next ih => exact ⟨hx.1, ih _ hx.2⟩
  | observe next ih => exact ih _ hx
  | setParameters ps next ih => exact ih _ hx
  | setData data next ih => exact ih hx
  | readWorld next ih => exact ih _ hx
  | writeWorld w next ih => exact ih hx

end Advice

namespace Invocation

/-- `Reached s u` — a call that proceeds in `s`, and is not refused, comes to a call that proceeds in
    `u`. -/
inductive Reached (s : Invocation host.toVocabulary × host.World) :
    Invocation host.toVocabulary × host.World → Prop where
  | outside (hopen : s.1.status = .pending ∨ s.1.status = .running) : Reached s s
  /-- The interceptor at the cursor is found or made, and its program proceeds. -/
  | inside {u i it t v} (h : Reached s u) (hi : u.1.chain[u.1.cursor]? = some i)
    (hlive : live i (u.1.entered, u.2) = (.ok it, t))
    (hproceeds : (host.intercept it u.1.phase).ProceedsAt proceed (t.1.past, t.2) v) : Reached s v

/-- `Within s v` — a call that proceeds in `s`, and is not refused, comes to an interceptor whose
    program is in the state `v` at one time or another. -/
inductive Within (s : Invocation host.toVocabulary × host.World) :
    Invocation host.toVocabulary × host.World → Prop where
  | inside {u i it t v} (h : Reached s u) (hi : u.1.chain[u.1.cursor]? = some i)
    (hlive : live i (u.1.entered, u.2) = (.ok it, t))
    (hcomes : (host.intercept it u.1.phase).ComesBy proceed (t.1.past, t.2) v) : Within s v

end Invocation

end Wiring
