/-
  What creations leave in a store: whole trees of instances, and nothing else.

  1. `Grove needs ts roots es` — `es` are the instances that were made because instances of the types
     `ts` were needed: these themselves, which `roots` are the handles of, and everything made for
     them in turn.  Each instance comes after all that were made for it, as its own dependents say,
     and these are what its type needs.
  2. `Balanced marks new m n` — the ledger tells the truth: what was stored and has not been retired
     is `new`, and all of it was stored under handles of its own from `m` up to `n`.
  3. `growth L` is the course of a container while instances are made: what is gained are types that
     were needed, and for these a grove has come to the end of the store and its roots to the
     innermost frame, with a balanced ledger.  The types under construction are as before.
-/
import Wiring.Proofs.Catalog.Follows

namespace Wiring

variable {V : Vocabulary}

/-! ## Groves -/

/-- `Grove needs ts roots es` — the trees over `roots`, one for each type of `ts`, have the entries
    `es`; `needs` says what the instances of a type are made with. -/
inductive Grove (needs : TypeKey → Option (List TypeKey)) :
    List TypeKey → List Handle → List (Handle × Stored V) → Prop where
  | bare : Grove needs [] [] []
  | plant {ts roots es us sub} {h : Handle} {e : Stored V} (others : Grove needs ts roots es)
      (tree : Grove needs us e.dependents sub) (hneeds : needs e.type = some us) :
      Grove needs (ts ++ [e.type]) (roots ++ [h]) (es ++ sub ++ [(h, e)])

namespace Grove

variable {needs : TypeKey → Option (List TypeKey)} {ts ts' us : List TypeKey}
  {roots roots' : List Handle} {es es' sub : List (Handle × Stored V)}

/-- One tree. -/
theorem tree {h : Handle} {e : Stored V} (hsub : Grove needs us e.dependents sub)
    (hneeds : needs e.type = some us) : Grove needs [e.type] [h] (sub ++ [(h, e)]) :=
  plant bare hsub hneeds

theorem append (hes : Grove needs ts roots es) (hes' : Grove needs ts' roots' es') :
    Grove needs (ts ++ ts') (roots ++ roots') (es ++ es') := by
  induction hes' with
  | bare =>
    rw [List.append_nil, List.append_nil, List.append_nil]
    exact hes
  | @plant _ _ _ _ _ h e _ htree hneeds ih _ =>
    have hplant := ih.plant (h := h) htree hneeds
    simp only [List.append_assoc] at hplant ⊢
    exact hplant

/-! ### The shape of a grove -/

/-- Every entry is a root or was made for exactly one of the others. -/
theorem perm (hes : Grove needs ts roots es) :
    (es.map Prod.fst).Perm (roots ++ es.flatMap (·.2.dependents)) := by
  induction hes with
  | bare => exact List.Perm.nil
  | @plant _ roots es _ sub h e _ _ _ ih ihtree =>
    refine List.perm_iff_count.2 fun k => ?_
    have hes := ih.count_eq k
    have hsub := ihtree.count_eq k
    simp only [List.map_append, List.flatMap_append, List.map_cons, List.map_nil,
      List.flatMap_singleton, List.count_append] at hes hsub ⊢
    omega

/-- What was made for an entry belongs to the grove. -/
theorem dependents_subset (hes : Grove needs ts roots es) {x : Handle × Stored V} (hx : x ∈ es)
    {k : Handle} (hk : k ∈ x.2.dependents) : k ∈ es.map Prod.fst :=
  hes.perm.mem_iff.2 (List.mem_append_right _ (List.mem_flatMap.2 ⟨x, hx, hk⟩))

/-- What was made for an entry has a smaller handle, if later entries have larger ones. -/
theorem number_lt (hes : Grove needs ts roots es)
    (hascending : (es.map Prod.fst).Pairwise (·.number < ·.number)) :
    ∀ x ∈ es, ∀ k ∈ x.2.dependents, k.number < x.1.number := by
  induction hes with
  | bare => exact nofun
  | @plant _ _ es _ sub h e _ htree _ ih ihtree =>
    rw [List.map_append, List.map_append] at hascending
    obtain ⟨hbefore, -, hlast⟩ := List.pairwise_append.1 hascending
    obtain ⟨hes, hsub, -⟩ := List.pairwise_append.1 hbefore
    intro x hx k hk
    rcases List.mem_append.1 hx with hx | hx
    · rcases List.mem_append.1 hx with hx | hx
      · exact ih hes x hx k hk
      · exact ihtree hsub x hx k hk
    · -- the root comes right after its own tree
      rw [List.mem_singleton.1 hx] at hk ⊢
      have hmem : k ∈ sub.map Prod.fst := htree.perm.mem_iff.2 (List.mem_append_left _ hk)
      exact hlast k (List.mem_append_right _ hmem) h (List.mem_singleton.2 rfl)

end Grove

/-! ## Balanced ledgers -/

/-- `storedIn marks` — what has been stored, in order. -/
def storedIn (marks : List (Mark V)) : List (Handle × Stored V) := marks.filterMap Mark.stored?

/-- `retiredIn marks` — what has been retired, in order. -/
def retiredIn (marks : List (Mark V)) : List (Handle × Stored V) := marks.filterMap Mark.retired?

theorem storedIn_append (marks marks' : List (Mark V)) :
    storedIn (marks ++ marks') = storedIn marks ++ storedIn marks' :=
  List.filterMap_append

theorem retiredIn_append (marks marks' : List (Mark V)) :
    retiredIn (marks ++ marks') = retiredIn marks ++ retiredIn marks' :=
  List.filterMap_append

/-- `Balanced marks new m n` — of what was stored, `new` is left and the rest retired; all was stored
    under different handles, from `m` up to `n`. -/
structure Balanced (marks : List (Mark V)) (new : List (Handle × Stored V)) (m n : Nat) : Prop where
  perm : (storedIn marks).Perm (new ++ retiredIn marks)
  distinct : ((storedIn marks).map Prod.fst).Nodup
  fresh : ∀ x ∈ storedIn marks, m ≤ x.1.number ∧ x.1.number < n

namespace Balanced

variable {marks marks' : List (Mark V)} {new new' : List (Handle × Stored V)} {l m n : Nat}

theorem nil (m n : Nat) : Balanced ([] : List (Mark V)) [] m n :=
  ⟨List.Perm.nil, List.nodup_nil, nofun⟩

/-- The entry that is stored now, under the next handle. -/
theorem store (m : Nat) (e : Stored V) : Balanced [.stored ⟨m⟩ e] [(⟨m⟩, e)] m (m + 1) where
  perm := List.Perm.refl _
  distinct := List.pairwise_singleton _ _
  fresh x hx := by
    rw [List.mem_singleton.1 hx]
    exact ⟨Nat.le_refl m, Nat.lt_succ_self m⟩

theorem append (h : Balanced marks new l m) (h' : Balanced marks' new' m n) (hlm : l ≤ m)
    (hmn : m ≤ n) : Balanced (marks ++ marks') (new ++ new') l n where
  perm := by
    rw [storedIn_append, retiredIn_append]
    refine (h.perm.append h'.perm).trans ?_
    rw [List.append_assoc, List.append_assoc]
    refine List.Perm.append_left new ?_
    exact List.perm_append_comm_assoc _ _ _
  distinct := by
    rw [storedIn_append, List.map_append, List.nodup_append]
    refine ⟨h.distinct, h'.distinct, ?_⟩
    intro k hk k' hk' heq
    obtain ⟨x, hx, rfl⟩ := List.mem_map.1 hk
    obtain ⟨x', hx', rfl⟩ := List.mem_map.1 hk'
    have hlt := (h.fresh x hx).2
    have hle := (h'.fresh x' hx').1
    rw [heq] at hlt
    omega
  fresh x hx := by
    rw [storedIn_append, List.mem_append] at hx
    rcases hx with hx | hx
    · have := h.fresh x hx
      omega
    · have := h'.fresh x hx
      omega

/-- Once all that is left has been retired, nothing is left. -/
theorem clear (h : Balanced marks new m n) (hstored : storedIn marks' = [])
    (hretired : (retiredIn marks').Perm new) : Balanced (marks ++ marks') [] m n where
  perm := by
    rw [storedIn_append, hstored, List.append_nil, retiredIn_append, List.nil_append]
    refine h.perm.trans (List.perm_append_comm.trans ?_)
    exact List.Perm.append_left _ hretired.symm
  distinct := by
    rw [storedIn_append, hstored, List.append_nil]
    exact h.distinct
  fresh x hx := by
    rw [storedIn_append, hstored, List.append_nil] at hx
    exact h.fresh x hx

end Balanced

/-! ## Growth of a container -/

namespace Container

variable {host : Host} {L : Course host.World (Mark host.toVocabulary)}

/-- `c.Keeps L` — the container is one that `L` is the ledger of: its proxy schemes are quiet and
    its listener makes the marks. -/
def Keeps (L : Course host.World (Mark host.toVocabulary)) (c : Container host) : Prop :=
  c.catalog.Sound (·.scheme.Quiet L) ∧ c.listener.Enters L

theorem Keeps.of_follows {c c' : Container host} (h : c.Keeps L)
    (hcatalog : c.catalog.Follows c'.catalog) (hlistener : c'.listener = c.listener) :
    c'.Keeps L := by
  refine ⟨hcatalog.sound (fun hlater hquiet => ?_) h.1, ?_⟩
  · show ProxyScheme.Quiet _ L
    rwa [hlater.scheme_eq]
  · rw [hlistener]
    exact h.2

/-- `Growth L ts roots new s t` — from `s` to `t`, the grove `new` over `roots` has been added for
    the types `ts`. -/
structure Growth (L : Course host.World (Mark host.toVocabulary)) (ts : List TypeKey) (roots : List Handle)
    (new : List (Handle × Stored host.toVocabulary))
    (s t : Container host × host.World) : Prop where
  entries : t.1.store.entries.entries = s.1.store.entries.entries ++ new
  next : s.1.store.next ≤ t.1.store.next
  grove : Grove s.1.catalog.needs? ts roots new
  underConstruction : t.1.underConstruction = s.1.underConstruction
  listener : t.1.listener = s.1.listener
  catalog : s.1.catalog.Follows t.1.catalog
  ledger : ∃ marks, L.rel marks s.2 t.2 ∧ Balanced marks new s.1.store.next t.1.store.next

namespace Growth

variable {ts ts' : List TypeKey} {roots roots' : List Handle}
  {new new' : List (Handle × Stored host.toVocabulary)} {s t u : Container host × host.World}

/-- A quiet move that touches the definitions at most. -/
theorem still {c : Catalog host} {w : host.World} (hc : s.1.catalog.Follows c)
    (hw : L.rel [] s.2 w) : Growth L [] [] [] s ({ s.1 with catalog := c }, w) where
  entries := (List.append_nil _).symm
  next := Nat.le_refl _
  grove := Grove.bare
  underConstruction := rfl
  listener := rfl
  catalog := hc
  ledger := ⟨[], hw, Balanced.nil _ _⟩

theorem refl (L : Course host.World (Mark host.toVocabulary)) (s : Container host × host.World) :
    Growth L [] [] [] s s :=
  still (Catalog.Follows.refl _) (L.stay s.2)

theorem append (h : Growth L ts roots new s t) (h' : Growth L ts' roots' new' t u) :
    Growth L (ts ++ ts') (roots ++ roots') (new ++ new') s u where
  entries := by rw [h'.entries, h.entries, List.append_assoc]
  next := Nat.le_trans h.next h'.next
  grove := by
    have hgrove := h'.grove
    rw [h.catalog.needs?_eq] at hgrove
    exact h.grove.append hgrove
  underConstruction := h'.underConstruction.trans h.underConstruction
  listener := h'.listener.trans h.listener
  catalog := h.catalog.trans h'.catalog
  ledger :=
    have ⟨marks, hmarks, hbalanced⟩ := h.ledger
    have ⟨marks', hmarks', hbalanced'⟩ := h'.ledger
    ⟨marks ++ marks', L.append hmarks hmarks', hbalanced.append hbalanced' h.next h'.next⟩

theorem keeps (h : Growth L ts roots new s t) (hs : s.1.Keeps L) : t.1.Keeps L :=
  hs.of_follows h.catalog h.listener

end Growth

/-- `growth L` — a grove has been added to the store, and its roots to the innermost frame. -/
def growth (L : Course host.World (Mark host.toVocabulary)) :
    Course (Container host × host.World) TypeKey where
  rel ts s t := s.1.Keeps L → ∃ roots new, Growth L ts roots new s t ∧
    t.1.frames = s.1.frames.modifyHead (· ++ roots)
  stay s _ := ⟨[], [], Growth.refl L s, by cases s.1.frames <;> simp⟩
  append := by
    intro ts ts' s t u h h' hs
    obtain ⟨roots, new, hgrowth, hframes⟩ := h hs
    obtain ⟨roots', new', hgrowth', hframes'⟩ := h' (hgrowth.keeps hs)
    refine ⟨roots ++ roots', new ++ new', hgrowth.append hgrowth', ?_⟩
    rw [hframes', hframes, List.modifyHead_modifyHead]
    congr 1
    funext frame
    exact List.append_assoc frame roots roots'

theorem rel_growth_still {s : Container host × host.World} {c : Catalog host} {w : host.World}
    (hc : s.1.catalog.Follows c) (hw : L.rel [] s.2 w) :
    (growth L).rel [] s ({ s.1 with catalog := c }, w) := by
  intro _
  refine ⟨[], [], Growth.still hc hw, ?_⟩
  cases s.1.frames <;> simp

theorem allows_growth : Definition.Allows (growth L) L := fun c _ _ hw =>
  rel_growth_still (Catalog.Follows.refl c.catalog) hw

/-- Nothing is added by what happens to a definition. -/
theorem along_onDefinition {α : Type} (t : TypeKey)
    {x : Effect (Definition host × host.World) α} (hx : (Definition.course L).Along [] x) :
    (growth L).Along [] (onDefinition t x) := by
  apply along_onDefinition_of_rel hx
  intro s d d' w hd hrel hs
  obtain ⟨-, hlater, hw⟩ := hrel (hs.1 t d hd).2
  exact rel_growth_still (Catalog.follows_updated hd hlater) hw hs

end Container

end Wiring
