/-
  What the store records of a creation.

  1. An `Assembly` is a new instance with the assemblies that were made for it; `a.entries` lists
     all of its instances, parts first.
  2. `Furnished provide make points parts s t` — on the way from `s` to `t`, `provide` was asked for
     the `points` in turn, and `parts` were made for them.  Apart from these requests, nothing is
     stored on the way, and nothing credited to whatever is under construction.
  3. `Recorded nested make d a s t` — one creation made the assembly `a`, whose parts are what it
     was furnished with.  `recordedWithin n` says so of creations nested `n` deep; it follows their
     own recursion.
  4. All requests of a creation, and no others, are credited to its own frame
     (`Furnished.undisturbed`), so what it stores as dependents are its parts (`records_createBy`,
     `records_createWithin`).
  5. Whatever is recorded comes to the end of the store under consecutive handles, each instance
     right after its parts (`accounted_recordedWithin`).
-/
import Mathlib
import Wiring.Proofs.Container.Reached
import Wiring.Proofs.Host.Numbers

namespace Wiring

/-! ## Assemblies -/

/-- `Assembly V` — a stored instance and the assemblies that were made for it, in the order of the
    requests. -/
structure Assembly (V : Vocabulary) where
  handle : Handle
  entry : Stored V
  parts : List (Assembly V)

namespace Assembly

variable {V : Vocabulary}

/-- `a.entries` — all instances of the assembly, in post-order. -/
def entries : Assembly V → List (Handle × Stored V)
  | ⟨handle, entry, parts⟩ => parts.flatMap entries ++ [(handle, entry)]

theorem entries_eq (a : Assembly V) :
    a.entries = a.parts.flatMap entries ++ [(a.handle, a.entry)] := by
  cases a
  rw [entries]

end Assembly

namespace Store

variable {V : Vocabulary} {es es' : List (Handle × Stored V)} {s t u : Store V}

/-- `s.Appended es t` — from `s` to `t`, the entries `es` have been stored, one right after the
    other, and nothing else has changed. -/
structure Appended (s : Store V) (es : List (Handle × Stored V)) (t : Store V) : Prop where
  entries : t.entries.entries = s.entries.entries ++ es
  consecutive : es.map (·.1.number) = List.range' s.next es.length
  next : t.next = s.next + es.length

namespace Appended

theorem refl (s : Store V) : s.Appended [] s := ⟨(List.append_nil _).symm, rfl, rfl⟩

theorem append (h : s.Appended es t) (h' : t.Appended es' u) : s.Appended (es ++ es') u where
  entries := by rw [h'.entries, h.entries, List.append_assoc]
  consecutive := by
    rw [List.map_append, h.consecutive, h'.consecutive, h.next, List.range'_append_1,
      List.length_append]
  next := by rw [h'.next, h.next, List.length_append, Nat.add_assoc]

/-- What is kept comes next. -/
theorem keep (h : s.Appended es t) (e : Stored V) :
    s.Appended (es ++ [(t.upcoming, e)]) (t.keep e) :=
  h.append ⟨entries_keep t e, rfl, rfl⟩

end Appended

end Store

namespace Container

variable {host : Host}

/-! ## Requests -/

/-- `c.crediting hs` — all of `hs` were made for the innermost type under construction. -/
def crediting (c : Container host) (hs : List Handle) : Container host :=
  { c with frames := c.frames.modifyHead (· ++ hs) }

theorem credited_eq (c : Container host) (h : Handle) : c.credited h = c.crediting [h] := by
  obtain ⟨catalog, store, listener, types, frames⟩ := c
  cases frames <;> rfl

theorem crediting_nil (c : Container host) : c.crediting [] = c := by
  obtain ⟨catalog, store, listener, types, frames⟩ := c
  cases frames <;> simp [crediting]

theorem crediting_crediting (c : Container host) (hs hs' : List Handle) :
    (c.crediting hs).crediting hs' = c.crediting (hs ++ hs') := by
  simp only [crediting, List.modifyHead_modifyHead]
  congr 2
  funext frame
  exact List.append_assoc frame hs hs'

theorem Undisturbed.crediting {c c' : Container host} (h : Undisturbed c c') (hs : List Handle) :
    Undisturbed (c.crediting hs) (c'.crediting hs) :=
  ⟨h.underConstruction, congrArg (List.modifyHead (· ++ hs)) h.frames, h.listener, h.catalog⟩

/-- `Making host` — relates a definition, an assembly with an instance of it at the root, and the
    states before and after it was made. -/
abbrev Making (host : Host) : Type :=
  Definition host → Assembly host.toVocabulary → Container host × host.World →
    Container host × host.World → Prop

/-- `Calm make` — what is made leaves the creations in progress as they were. -/
def Calm (make : Making host) : Prop := ∀ d a s t, make d a s t → Undisturbed s.1 t.1

/-- `Accounted make` — what is made is what comes to the store. -/
def Accounted (make : Making host) : Prop :=
  ∀ d a s t, make d a s t → s.1.store.Appended a.entries t.1.store

/-- `Furnished provide make points parts s t` — from `s` to `t`, each of the `points` has been asked
    for in turn, and `parts` were made for them by the definitions of the required types; the root
    of each was the answer, and was credited once it was there.  Between requests the world may
    change, and definitions may be resolved. -/
inductive Furnished (provide : Provider host (Container host)) (make : Making host) :
    List (Point host.Routine) → List (Assembly host.toVocabulary) → Container host × host.World →
    Container host × host.World → Prop where
  | rest (s) : Furnished provide make [] [] s s
  | still {points parts s t} (h : Furnished provide make points parts s t) {catalog : Catalog host}
      (hcatalog : t.1.catalog.Follows catalog) (w : host.World) :
      Furnished provide make points parts s ({ t.1 with catalog := catalog }, w)
  | asked {points parts s t u} (h : Furnished provide make points parts s t)
      {p : Point host.Routine} {d : Definition host} {a : Assembly host.toVocabulary}
      (hd : t.1.catalog.byType? p.requires = some d) (htype : a.entry.type = p.requires)
      (ha : make d a t u)
      (hp : provide p t = (.ok a.entry.reference, u.1.credited a.handle, u.2)) :
      Furnished provide make (points ++ [p]) (parts ++ [a]) s (u.1.credited a.handle, u.2)

namespace Furnished

variable {provide : Provider host (Container host)} {make : Making host}
  {points points' : List (Point host.Routine)} {parts parts' : List (Assembly host.toVocabulary)}
  {s t u : Container host × host.World}

theorem append (h : Furnished provide make points parts s t)
    (h' : Furnished provide make points' parts' t u) :
    Furnished provide make (points ++ points') (parts ++ parts') s u := by
  induction h' with
  | rest =>
    rw [List.append_nil, List.append_nil]
    exact h
  | still _ hcatalog w ih => exact (ih h).still hcatalog w
  | asked _ hd htype ha hp ih =>
    rw [← List.append_assoc, ← List.append_assoc]
    exact (ih h).asked hd htype ha hp

/-- One part for each request, of the type that it required. -/
theorem types_eq (h : Furnished provide make points parts s t) :
    parts.map (·.entry.type) = points.map (·.requires) := by
  induction h with
  | rest => rfl
  | still _ _ _ ih => exact ih
  | asked _ _ htype _ _ ih =>
    rw [List.map_append, List.map_append, ih, List.map_singleton, List.map_singleton, htype]

/-- Nobody but the innermost frame has noticed, and this has gained the parts. -/
theorem undisturbed (hmake : Calm make) (h : Furnished provide make points parts s t) :
    Undisturbed (s.1.crediting (parts.map (·.handle))) t.1 := by
  induction h with
  | rest s =>
    rw [List.map_nil, crediting_nil]
    exact Undisturbed.refl s.1
  | still _ hcatalog _ ih => exact ih.trans ⟨rfl, rfl, rfl, hcatalog⟩
  | asked _ _ _ ha _ ih =>
    rw [credited_eq, List.map_append, ← crediting_crediting]
    exact (ih.trans (hmake _ _ _ _ ha)).crediting _

/-- A type that was under construction is under construction no more, and its frame has held the
    parts. -/
theorem ended {t : TypeKey} {c : Container host} {w₀ w : host.World} (hmake : Calm make)
    (h : Furnished provide make points parts (s.1.begun t, w₀) (c, w)) :
    ∃ c', c.ended t = (parts.map (·.handle), c') ∧ c'.store = c.store ∧ Undisturbed s.1 c' := by
  have hparts := h.undisturbed hmake
  have htypes : c.underConstruction = t :: s.1.underConstruction := hparts.underConstruction
  have hframes : c.frames = parts.map (·.handle) :: s.1.frames := hparts.frames
  refine ⟨{ c with underConstruction := s.1.underConstruction, frames := s.1.frames }, ?_, rfl,
    rfl, rfl, hparts.listener, hparts.catalog⟩
  rw [Container.ended, hframes, htypes, List.erase_cons_head]
  rfl

/-- All parts have come to the store, one after the other. -/
theorem appended (hmake : Accounted make) (h : Furnished provide make points parts s t) :
    s.1.store.Appended (parts.flatMap (·.entries)) t.1.store := by
  induction h with
  | rest s => exact .refl s.1.store
  | still _ _ _ ih => exact ih
  | asked _ _ _ ha _ ih =>
    have ha := hmake _ _ _ _ ha
    rw [credited_eq, List.flatMap_append, List.flatMap_singleton]
    exact ih.append ha

end Furnished

/-! ## Creations -/

/-- `Recorded nested make d a s t` — creating an instance of `d` went from `s` to `t` and gave the
    root of `a`: it was furnished with the parts of `a`, one for each request of `d`, while its type
    was under construction; then the root was stored, with the handles of the parts for its
    dependents. -/
structure Recorded (nested : Definition host → Act host (Handle × host.Ref)) (make : Making host)
    (d : Definition host) (a : Assembly host.toVocabulary)
    (s t : Container host × host.World) : Prop where
  run : createBy nested d s = (.ok (a.handle, a.entry.reference), t)
  type : a.entry.type = d.component.type
  dependents : a.entry.dependents = a.parts.map (·.handle)
  furnished : ∃ u,
    Furnished (supplying nested) make d.component.requests a.parts
      (s.1.begun d.component.type, s.1.listener.begun d.component.type s.2) u ∧
    a.handle = u.1.store.upcoming ∧ t.1.store = u.1.store.keep a.entry
  undisturbed : Undisturbed s.1 t.1

/-- `recordedWithin n` — what creations with at most `n` others nested in them record: parts are
    themselves recorded by creations with fewer. -/
def recordedWithin : Nat → Making host
  | 0 => Recorded (fun d => .fail (.dependencyCycle d.name)) fun _ _ _ _ => False
  | n + 1 => Recorded (createWithin n) (recordedWithin n)

theorem recorded_of_recordedWithin {n : Nat} {d : Definition host}
    {a : Assembly host.toVocabulary} {s t : Container host × host.World}
    (h : recordedWithin n d a s t) : ∃ nested make, Recorded nested make d a s t := by
  cases n with
  | zero => exact ⟨_, _, h⟩
  | succ n => exact ⟨_, _, h⟩

theorem calm_recordedWithin (n : Nat) : Calm (recordedWithin n : Making host) := by
  intro d a s t h
  obtain ⟨nested, make, hrecorded⟩ := recorded_of_recordedWithin h
  exact hrecorded.undisturbed

/-- The root comes right after the parts. -/
theorem accounted_recorded (nested : Definition host → Act host (Handle × host.Ref))
    {make : Making host} (hmake : Accounted make) : Accounted (Recorded nested make) := by
  intro d a s t h
  obtain ⟨u, hfurnished, hhandle, hstore⟩ := h.furnished
  rw [Assembly.entries_eq, hhandle, hstore]
  exact (hfurnished.appended hmake).keep a.entry

theorem accounted_recordedWithin (n : Nat) : Accounted (recordedWithin n : Making host) := by
  induction n with
  | zero =>
    apply accounted_recorded
    intro d a s t h
    exact h.elim
  | succ n ih => exact accounted_recorded _ ih

/-! ## Creations record what they do -/

/-- `furnishing provide hmake` — the course on which `provide` is asked. -/
def furnishing (provide : Provider host (Container host)) {make : Making host}
    (hmake : Calm make) : Course (Container host × host.World) (Point host.Routine) where
  rel points s t := s.1.catalog.Sound (fun _ => True) →
    ∃ parts, Furnished provide make points parts s t
  stay s _ := ⟨[], .rest s⟩
  append := by
    intro points points' s t u h h' hs
    obtain ⟨parts, hparts⟩ := h hs
    have hfollows : s.1.catalog.Follows t.1.catalog := (hparts.undisturbed hmake).catalog
    obtain ⟨parts', hparts'⟩ := h' (hfollows.sound (fun _ _ => trivial) hs)
    exact ⟨parts ++ parts', hparts.append hparts'⟩

section

variable {provide : Provider host (Container host)} {make : Making host} {hmake : Calm make}

theorem rel_furnishing_still {s : Container host × host.World} {catalog : Catalog host}
    (hcatalog : s.1.catalog.Follows catalog) (w : host.World) :
    (furnishing provide hmake).rel [] s ({ s.1 with catalog := catalog }, w) :=
  fun _ => ⟨[], (Furnished.rest s).still hcatalog w⟩

theorem allows_furnishing :
    Definition.Allows (furnishing provide hmake) (Course.free : Course host.World Empty) :=
  fun c _ w' _ => rel_furnishing_still (Catalog.Follows.refl c.catalog) w'

theorem furnishing_onDefinition {α : Type} (t : TypeKey)
    {x : Effect (Definition host × host.World) α}
    (hx : (Definition.course (Course.free : Course host.World Empty)).Along [] x) :
    (furnishing provide hmake).Along [] (onDefinition t x) := by
  apply along_onDefinition_of_rel hx
  intro s d d' w hd hrel
  obtain ⟨-, hlater, -⟩ := hrel d.scheme.quiet_free
  exact rel_furnishing_still (Catalog.follows_updated hd hlater) w

/-- `Records create make` — whatever `create` makes is recorded by `make`. -/
def Records (create : Definition host → Act host (Handle × host.Ref)) (make : Making host) :
    Prop :=
  ∀ d s h reference t, s.1.catalog.Sound (fun _ => True) →
    create d s = (.ok (h, reference), t) →
    ∃ a : Assembly host.toVocabulary, a.handle = h ∧ a.entry.reference = reference ∧
      a.entry.type = d.component.type ∧ make d a s t

variable {nested : Definition host → Act host (Handle × host.Ref)}

/-- A request that is met asks for one point. -/
theorem yields_supplying (hnested : Records nested make) (p : Point host.Routine) :
    (furnishing (supplying nested) hmake).Yields [p] (supplying nested p) := by
  intro s reference t hp hs
  have ht := hp
  rw [supplying_apply] at ht
  cases hd : s.1.catalog.byType? p.requires with
  | none =>
    rw [hd] at ht
    cases ht
  | some d =>
    rw [hd] at ht
    dsimp only at ht
    rcases hr : nested d s with ⟨f | ⟨h, made⟩, u⟩
    · rw [hr] at ht
      cases ht
    · rw [hr] at ht
      cases ht
      obtain ⟨a, rfl, hreference, htype, ha⟩ := hnested d s h _ u hs hr
      obtain rfl := hreference
      exact ⟨[a], (Furnished.rest s).asked hd (htype.trans (hs _ d hd).1) ha hp⟩

/-- A creation takes its frame for the dependents, and this has gained the parts only. -/
theorem records_createBy (hmake : Calm make) (hnested : Records nested make) :
    Records (createBy nested) (Recorded nested make) := by
  intro d s h reference t hs hr
  by_cases hcycle : d.component.type ∈ s.1.underConstruction
  · rw [createBy_of_cycle hcycle] at hr
    cases hr
  · have hassemble : (furnishing (supplying nested) hmake).Yields d.component.requests
        (assemble d (supplying nested)) := by
      have hyields := holds_assemble (K := (furnishing (supplying nested) hmake).yielding)
        host.quiet_free allows_furnishing furnishing_onDefinition (yields_supplying hnested) d
      rwa [List.flatMap_singleton'] at hyields
    rcases hmade : assemble d (supplying nested)
        (s.1.begun d.component.type, s.1.listener.begun d.component.type s.2) with
      ⟨f | made, c, w⟩
    · rw [createBy_of_error hcycle hmade] at hr
      cases hr
    · -- the frame was empty to begin with, so the parts are all that it holds in the end
      obtain ⟨parts, hfurnished⟩ := hassemble _ _ _ hmade hs
      obtain ⟨c', hended, hstore, hc'⟩ := hfurnished.ended hmake
      have hrun := hr
      rw [createBy_of_ok hcycle hmade, hended] at hr
      cases hr
      let root : Stored host.toVocabulary :=
        ⟨d.component.type, reference, parts.map (·.handle)⟩
      have hkept : c'.store.keep root = c.store.keep root := by rw [hstore]
      exact ⟨⟨_, root, parts⟩, rfl, rfl, rfl, {
        run := hrun
        type := rfl
        dependents := rfl
        furnished := ⟨(c, w), hfurnished, congrArg Store.upcoming hstore, hkept⟩
        undisturbed := ⟨hc'.underConstruction, hc'.frames, hc'.listener, hc'.catalog⟩ }⟩

end

/-- Creations nested to any depth. -/
theorem records_createWithin (n : Nat) :
    Records (createWithin n) (recordedWithin n : Making host) := by
  induction n with
  | zero =>
    -- all requests at this depth are refused, so there is nothing for `make` to record
    apply records_createBy
    · intro d a s t h
      exact h.elim
    · intro d s h reference t hs hr
      cases hr
  | succ n ih => exact records_createBy (calm_recordedWithin n) ih

/-- **A created tree records exactly what was injected.**  Let an instance of type `t` be created in
    a container that can be reached, under any host: around-construct interceptors may call the
    constructor again, or not at all.
    1. An assembly `a` was made, with an instance of type `t` at its root; the handle that was given
       is that of the root.
    2. The store has gained the instances of the assembly and nothing else: under consecutive
       handles, in post-order.
    3. The creation was a recorded one (`Recorded`): the provider was asked once for each of the
       requests of the definition, in their order (the parameters of the constructor by position;
       then, level by level from the root ancestor down, the fields as declared and the parameters
       of the injected methods), and its answers were the roots of the parts; the handles of these
       are the dependents of the root, in the same order.
    4. The same is true of each part, since it was itself recorded (`recordedWithin`). -/
theorem create_records_assembly {listener : Listener host} {c : Container host}
    (hc : Reached (fun _ => True) listener c) {t : TypeKey} {w : host.World} {h : Handle}
    {s : Container host × host.World} (hok : create t (c, w) = (.ok h, s)) :
    ∃ d a, c.catalog.byType? t = some d ∧
      a.handle = h ∧ a.entry.type = t ∧ s.1.store.find? h = some a.entry ∧
      a.entry.dependents = a.parts.map (·.handle) ∧
      a.parts.map (·.entry.type) = d.component.requests.map (·.requires) ∧
      c.store.Appended a.entries s.1.store ∧
      recordedWithin c.catalog.size d a (c, w) s := by
  have hsound : c.catalog.Sound fun _ => True := hc.sound (fun _ _ => trivial) fun _ _ => trivial
  rw [create_eq] at hok
  cases hd : c.catalog.byType? t with
  | none =>
    rw [hd] at hok
    cases hok
  | some d =>
    rw [hd] at hok
    dsimp only at hok
    rcases hr : createFrom d (c, w) with ⟨f | ⟨made, reference⟩, v⟩
    · rw [hr] at hok
      cases hok
    · rw [hr] at hok
      cases hok
      obtain ⟨a, rfl, -, htype, ha⟩ := records_createWithin c.catalog.size d (c, w) _ _ _ hsound hr
      obtain ⟨nested, make, hrecorded⟩ := recorded_of_recordedWithin ha
      obtain ⟨u, hfurnished, -⟩ := hrecorded.furnished
      have happended := accounted_recordedWithin c.catalog.size d a (c, w) v ha
      have hlive : v.1.store.find? a.handle = some a.entry := by
        rw [Store.find?_eq_some_iff, happended.entries, Assembly.entries_eq]
        simp
      exact ⟨d, a, rfl, rfl, htype.trans (hsound t d hd).1, hlive, hrecorded.dependents,
        hfurnished.types_eq, happended, ha⟩

/-- A component with two constructor parameters, the last of which was described first, and with a
    field, described before both; an interceptor calls the constructor twice. -/
def demanding : Component Nat :=
  { Component.numbered 1 "A" [3] [] with
    points := [
      ⟨.field ⟨⟨"A", "field"⟩, 3⟩, ⟨3⟩, .plain⟩,
      ⟨.constructorParameter ⟨⟨⟨"A", "new"⟩, 1⟩, 2⟩ 1, ⟨4⟩, .plain⟩,
      ⟨.constructorParameter ⟨⟨⟨"A", "new"⟩, 1⟩, 2⟩ 0, ⟨2⟩, .plain⟩]
    declarations := some { constructorBinding := [Interceptor.everywhere "twice" 12] } }

/-- The constructor is called twice, and each request is made once: for the first parameter, whose
    instance needs another, for the second, and for the field. -/
theorem create_records_assembly_twice :
    ∃ (c : Container Host.numbers) (s : Container Host.numbers × List Nat),
      create ⟨1⟩ (c, []) = (.ok ⟨4⟩, s) ∧ s.2.count 1 = 2 ∧
      ∃ d a, recordedWithin c.catalog.size d a (c, []) s ∧
        a.entries.map (fun x => (x.1.number, x.2.type.number, x.2.dependents.map (·.number))) =
          [(0, 4, []), (1, 2, [0]), (2, 4, []), (3, 3, []), (4, 1, [1, 2, 3])] := by
  have hempty : Reached (fun _ => True) (Listener.silent : Listener Host.numbers) _ := .empty {}
  have hregistered := (((hempty.register (d := .ofComponent {} demanding) trivial
    rfl).register (d := Definition.numbered 2 "B" [4] []) trivial rfl).register
    (d := Definition.numbered 3 "C" [] []) trivial rfl).register
    (d := Definition.numbered 4 "D" [] []) trivial rfl
  obtain ⟨c, hc, hnone, hgiven, hcount, hentries⟩ : ∃ c, Reached (fun _ => True) Listener.silent c ∧
      c.store.entries.entries = [] ∧ (create ⟨1⟩ (c, [])).1.toOption = some ⟨4⟩ ∧
      List.count (α := Nat) 1 (create ⟨1⟩ (c, [])).2.2 = 2 ∧
      (create ⟨1⟩ (c, [])).2.1.store.entries.entries.map
        (fun x => (x.1.number, x.2.type.number, x.2.dependents.map (·.number))) =
          [(0, 4, []), (1, 2, [0]), (2, 4, []), (3, 3, []), (4, 1, [1, 2, 3])] :=
    ⟨_, hregistered, by cbv, by cbv, by cbv, by cbv⟩
  rcases hrun : create ⟨1⟩ (c, ([] : List Nat)) with ⟨f | h, s⟩
  · rw [hrun] at hgiven
    cases hgiven
  · rw [hrun] at hgiven hcount hentries
    obtain ⟨d, a, -, -, -, -, -, -, happended, ha⟩ := create_records_assembly hc hrun
    obtain rfl : h = ⟨4⟩ := Option.some.inj hgiven
    rw [happended.entries, hnone, List.nil_append] at hentries
    exact ⟨c, s, hrun, hcount, d, a, ha, hentries⟩

end Container

end Wiring
