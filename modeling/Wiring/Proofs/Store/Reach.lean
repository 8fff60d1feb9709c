/-
  What a walk takes away, and in which order.

  1. `s.Reaches h k` — from `h` one comes to `k` by going, again and again, from a live instance to
     something that is listed for it.  A walk takes away what is live and can be reached from where
     it starts, no less and no more (`Walk.mem_gone_iff`), however the lists are tangled: a handle
     may be listed twice, for several instances or for itself, and need not be live.
  2. `s.next? before` — what comes next in a depth-first order, behind the visited `before`: of the
     last visited instance for which anything is left to visit, the first that is left.  So there is
     one depth-first order from each handle (`DepthFirst`).
  3. `Stacked` is the INVARIANT that makes a walk depth-first (`Walk.depthFirst`): what is pending are
     the rests of the lists of the visited instances, those of the last visited first, and nothing is
     left of what was taken off a list.
-/
import Mathlib.Logic.Relation
import Mathlib.Data.List.Nodup
import Wiring.Proofs.Store.Walk

namespace Wiring

namespace Store

variable {V : Vocabulary} {s t u : Store V} {pending : List Handle} {h k : Handle}
  {gone before visited : List (Handle × Stored V)}

/-! ## What can be reached -/

/-- `s.Lists h k` — `k` is listed as made for the live instance under `h`. -/
def Lists (s : Store V) (h k : Handle) : Prop := ∃ e, s.find? h = some e ∧ k ∈ e.dependents

/-- `s.Reaches h k` — `k` is `h`, or is listed for a live instance that can be reached from `h`. -/
def Reaches (s : Store V) : Handle → Handle → Prop := Relation.ReflTransGen s.Lists

namespace Walk

/-- Nothing that can be reached from what was pending is live afterwards. -/
theorem reached_dead (hwalk : Walk pending gone s t) (hh : h ∈ pending) (hk : s.Reaches h k) :
    k ∉ t.entries.keys := by
  induction hk with
  | refl => exact hwalk.pending_dead h hh
  | @tail l m _ hlists ih =>
    obtain ⟨e, he, hm⟩ := hlists
    have hlive : l ∈ s.entries.keys := List.mem_map_of_mem (find?_eq_some_iff.1 he)
    -- `l` has gone, and so has whatever is listed for it
    have hgone : l ∈ gone.map Prod.fst :=
      Decidable.byContradiction fun hnot => ih (hwalk.mem_keys.2 ⟨hlive, hnot⟩)
    obtain ⟨⟨_, e'⟩, hx, rfl⟩ := List.mem_map.1 hgone
    have he' := find?_eq_some_iff.2 (hwalk.known _ hx)
    rw [he] at he'
    cases he'
    exact hwalk.dependents_dead _ hx m hm

/-- What goes is live and can be reached, and whatever is live and can be reached goes. -/
theorem mem_gone_iff (hwalk : Walk pending gone s t) {x : Handle × Stored V} :
    x ∈ gone ↔ x ∈ s.entries.entries ∧ ∃ h ∈ pending, s.Reaches h x.1 := by
  constructor
  · intro hx
    refine ⟨hwalk.known x hx, ?_⟩
    refine hwalk.least (P := fun k => ∃ h ∈ pending, s.Reaches h k) (fun k hk => ⟨k, hk, .refl⟩)
      ?_ x hx
    rintro y hy ⟨h, hh, hreach⟩ k hk
    exact ⟨h, hh, hreach.tail ⟨y.2, find?_eq_some_iff.2 hy, hk⟩⟩
  · rintro ⟨hx, h, hh, hreach⟩
    have hgone : x.1 ∈ gone.map Prod.fst := Decidable.byContradiction fun hnot =>
      hwalk.reached_dead hh hreach (List.mem_map_of_mem (hwalk.mem_entries.2 ⟨hx, hnot⟩))
    obtain ⟨y, hy, heq⟩ := List.mem_map.1 hgone
    have hfound := find?_eq_some_iff.2 (hwalk.known y hy)
    rw [heq, find?_eq_some_iff.2 hx] at hfound
    rwa [Prod.ext heq (Option.some.inj hfound).symm] at hy

/-- What is found afterwards is what was found before and could not be reached. -/
theorem find?_iff (hwalk : Walk pending gone s t) {e : Stored V} :
    t.find? k = some e ↔ s.find? k = some e ∧ ∀ h ∈ pending, ¬ s.Reaches h k := by
  rw [find?_eq_some_iff, find?_eq_some_iff, hwalk.mem_entries]
  refine and_congr_right fun hx => ?_
  constructor
  · intro hnot h hh hreach
    exact hnot (List.mem_map_of_mem (hwalk.mem_gone_iff.2 ⟨hx, h, hh, hreach⟩))
  · intro hnone hmem
    obtain ⟨y, hy, heq⟩ := List.mem_map.1 hmem
    obtain ⟨-, h, hh, hreach⟩ := hwalk.mem_gone_iff.1 hy
    rw [heq] at hreach
    exact hnone h hh hreach

/-- No handle goes twice. -/
theorem nodup_gone (hwalk : Walk pending gone s t) : (gone.map Prod.fst).Nodup := by
  induction hwalk with
  | done => exact List.nodup_nil
  | dead _ _ ih => exact ih
  | @live h e rest gone s t hs hrest ih =>
    refine List.nodup_cons.2 ⟨fun hmem => ?_, ih⟩
    obtain ⟨x, hx, rfl⟩ := List.mem_map.1 hmem
    have hleft := (List.mem_filter.1 (hrest.known x hx)).2
    exact of_decide_eq_true hleft rfl

end Walk

/-! ## Depth-first orders -/

/-- `s.isLeft before k` — `k` is left to visit: it is live, and not among the visited `before`. -/
def isLeft (s : Store V) (before : List (Handle × Stored V)) (k : Handle) : Bool :=
  k ∈ s.entries.keys ∧ k ∉ before.map Prod.fst

/-- `s.next? before` — what is to be visited next, behind `before`: for the last visited instance that
    lists anything that is left, the first of this. -/
def next? (s : Store V) (before : List (Handle × Stored V)) : Option Handle :=
  before.reverse.findSome? fun y => y.2.dependents.find? (s.isLeft before)

/-- `s.DepthFirst h order` — `order` is the depth-first order from `h`: it begins with `h`, if that is
    live, and goes on with what is next until nothing is left. -/
structure DepthFirst (s : Store V) (h : Handle) (order : List (Handle × Stored V)) : Prop where
  known : ∀ x ∈ order, x ∈ s.entries.entries
  first : (order.map Prod.fst).head? = if h ∈ s.entries.keys then some h else none
  next : ∀ before x after, order = before ++ x :: after → before ≠ [] → s.next? before = some x.1
  last : order ≠ [] → s.next? order = none

theorem isLeft_nil : s.isLeft [] k = (s.find? k).isSome := by
  rw [Bool.eq_iff_iff, find?, ← Table.contains, Table.contains_iff]
  simp [isLeft]

/-- A visit is one less to do. -/
theorem isLeft_append (x : Handle × Stored V) :
    s.isLeft (before ++ [x]) k = if k = x.1 then false else s.isLeft before k := by
  by_cases hk : k = x.1
  · simp [isLeft, hk]
  · simp [isLeft, hk, -Prod.exists, -List.mem_map]

/-- What is left is what is live, if it is so before each release. -/
theorem isSome_find?_release (hleft : ∀ k, (u.find? k).isSome = s.isLeft before k)
    (x : Handle × Stored V) (k : Handle) :
    ((u.release x.1).find? k).isSome = s.isLeft (before ++ [x]) k := by
  rw [find?_release, isLeft_append]
  split
  · rfl
  · exact hleft k

/-- `Stacked s before visited pending` — `pending` are the rests of what is listed for the `visited`,
    the last visited first, and nothing is left of what was listed ahead of these. -/
inductive Stacked (s : Store V) (before : List (Handle × Stored V)) :
    List (Handle × Stored V) → List Handle → Prop where
  | nil : Stacked s before [] []
  | push {visited pending x ahead behind} (h : Stacked s before visited pending)
    (hx : x.2.dependents = ahead ++ behind) (hahead : ∀ k ∈ ahead, s.isLeft before k = false) :
    Stacked s before (visited ++ [x]) (behind ++ pending)

namespace Stacked

/-- What is next is the first on the stack that is left. -/
theorem findSome?_eq (h : Stacked s before visited pending) :
    (visited.reverse.findSome? fun y => y.2.dependents.find? (s.isLeft before)) =
      pending.find? (s.isLeft before) := by
  induction h with
  | nil => rfl
  | @push visited pending x ahead behind _ hx hahead ih =>
    have hnone : ahead.find? (s.isLeft before) = none :=
      List.find?_eq_none.2 fun k hk => by rw [hahead k hk]; exact Bool.false_ne_true
    rw [List.reverse_append, List.reverse_singleton, List.singleton_append, List.findSome?_cons, ih,
      hx, List.find?_append, List.find?_append, hnone, Option.none_or]
    cases behind.find? (s.isLeft before) <;> rfl

theorem next?_eq (h : Stacked s before before pending) :
    s.next? before = pending.find? (s.isLeft before) := h.findSome?_eq

/-- After another visit the lists are what they were. -/
theorem visit (h : Stacked s before visited pending) (x : Handle × Stored V) :
    Stacked s (before ++ [x]) visited pending := by
  induction h with
  | nil => exact .nil
  | push _ hx hahead ih =>
    refine .push ih hx fun k hk => ?_
    rw [isLeft_append, hahead k hk, ite_self]

/-- What is not left may be taken off. -/
theorem pop (h : Stacked s before visited pending) {rest : List Handle}
    (hpending : pending = k :: rest) (hk : s.isLeft before k = false) :
    Stacked s before visited rest := by
  induction h with
  | nil => cases hpending
  | @push visited pending x ahead behind hvisited hx hahead ih =>
    cases behind with
    | nil =>
      have hpopped := Stacked.push (ih hpending) hx hahead
      exact hpopped
    | cons l behind =>
      cases hpending
      have hx' : x.2.dependents = (ahead ++ [k]) ++ behind := by rw [hx, List.append_assoc]; rfl
      exact .push hvisited hx' (List.forall_mem_append.2 ⟨hahead, List.forall_mem_singleton.2 hk⟩)

end Stacked

/-- From any moment, a walk goes on in depth-first order until nothing is left. -/
theorem Walk.next_of_stacked (hwalk : Walk pending gone u t) :
    ∀ {before}, (∀ k, (u.find? k).isSome = s.isLeft before k) → Stacked s before before pending →
      (∀ between x after, gone = between ++ x :: after →
        s.next? (before ++ between) = some x.1) ∧ s.next? (before ++ gone) = none := by
  induction hwalk with
  | done u =>
    intro before _ hstacked
    refine ⟨fun between x after hsplit => ?_, ?_⟩
    · exact absurd hsplit.symm (List.append_ne_nil_of_right_ne_nil _ (List.cons_ne_nil _ _))
    · rw [List.append_nil]
      exact hstacked.next?_eq
  | dead hdead _ ih =>
    intro before hleft hstacked
    exact ih hleft (hstacked.pop rfl (by rw [← hleft, hdead]; rfl))
  | @live h e rest gone u t hlive _ ih =>
    intro before hleft hstacked
    have hhere : s.isLeft before h = true := by rw [← hleft, hlive]; rfl
    have hvisited : s.isLeft (before ++ [(h, e)]) h = false := by rw [isLeft_append, if_pos rfl]
    have hlisted : (h, e).2.dependents = [] ++ e.dependents := rfl
    have hpushed : Stacked s (before ++ [(h, e)]) (before ++ [(h, e)]) (e.dependents ++ rest) :=
      .push ((hstacked.visit (h, e)).pop rfl hvisited) hlisted nofun
    obtain ⟨hnext, hlast⟩ := ih (isSome_find?_release hleft (h, e)) hpushed
    rw [List.append_assoc] at hlast
    refine ⟨fun between x after hsplit => ?_, hlast⟩
    cases between with
    | nil =>
      cases hsplit
      rw [List.append_nil, hstacked.next?_eq, List.find?_cons_of_pos hhere]
    | cons y between =>
      cases hsplit
      rw [← List.singleton_append, ← List.append_assoc]
      exact hnext between x after rfl

/-- A walk from one handle visits what it takes away in depth-first order. -/
theorem Walk.depthFirst (hwalk : Walk [h] gone s t) : s.DepthFirst h gone := by
  have hknown := hwalk.known
  cases hwalk with
  | dead hdead hrest =>
    cases hrest
    refine ⟨hknown, ?_, fun before x after hsplit => ?_, fun hne => absurd rfl hne⟩
    · rw [if_neg (Table.get?_eq_none_iff.1 hdead)]
      rfl
    · exact absurd hsplit.symm (List.append_ne_nil_of_right_ne_nil _ (List.cons_ne_nil _ _))
  | @live _ e _ gone _ _ hlive hrest =>
    have hstart : ∀ k, (s.find? k).isSome = s.isLeft [] k := fun _ => isLeft_nil.symm
    have hleft : ∀ k, ((s.release h).find? k).isSome = s.isLeft [(h, e)] k :=
      isSome_find?_release hstart (h, e)
    have hlisted : (h, e).2.dependents = [] ++ e.dependents := rfl
    have hpushed : Stacked s [(h, e)] ([] ++ [(h, e)]) (e.dependents ++ []) :=
      .push .nil hlisted nofun
    obtain ⟨hnext, hlast⟩ := hrest.next_of_stacked hleft hpushed
    refine ⟨hknown, ?_, fun before x after hsplit hbefore => ?_, fun _ => hlast⟩
    · have hmem : h ∈ s.entries.keys := List.mem_map_of_mem (find?_eq_some_iff.1 hlive)
      rw [if_pos hmem]
      rfl
    · cases before with
      | nil => exact absurd rfl hbefore
      | cons y before =>
        cases hsplit
        exact hnext before x after rfl

end Store

end Wiring
