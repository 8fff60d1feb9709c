/-
  Creation ends on every registry.

  1. The types under construction are distinct and registered, so the chain of nested creations is
     never longer than there are registered types (`Catalog.Admits.length_le`).
  2. `watched beyond n chain` creates as `createBy` does, for `n` levels, and looks at the container
     whenever a creation is asked for, has begun, is assembled, or is over.  As soon as anything is
     out of order there, or the levels are used up, `beyond` takes over.
  3. `Grounded c₀ chain make` — amid `chain`, the recursion of `make` has an end: `make` is one level
     around makers that are grounded amid longer chains.  The crux is that grounded makers cannot be
     told apart (`Grounded.same`), by induction on the levels of one of them.  Bounded, watched and
     unbounded creation are all grounded, because chains end.
-/
import Mathlib
import Wiring.Proofs.Container.Nested
import Wiring.Proofs.Host.Numbers

namespace Wiring

namespace Container

variable {host : Host} {c₀ : Catalog host} {chain : List TypeKey} {c : Container host}
  {d : Definition host} {s : Container host × host.World} {make make' : Maker host}

/-! ## Watching a creation -/

/-- `c.Orderly chain` — exactly the types on `chain` are under construction, innermost first; they
    are registered and distinct, so there are not too many of them; and each has its frame. -/
structure Orderly (c : Container host) (chain : List TypeKey) : Prop where
  underConstruction : c.underConstruction = chain
  frames : c.frames.length = chain.length
  admitted : c.catalog.Admits chain
  depth : chain.length ≤ c.catalog.size

instance (c : Container host) (chain : List TypeKey) : Decidable (c.Orderly chain) :=
  decidable_of_iff ((c.underConstruction = chain ∧ c.frames.length = chain.length) ∧
      c.catalog.Admits chain ∧ chain.length ≤ c.catalog.size)
    ⟨fun ⟨⟨hunder, hframes⟩, hadmitted, hdepth⟩ => ⟨hunder, hframes, hadmitted, hdepth⟩,
    fun h => ⟨⟨h.underConstruction, h.frames⟩, h.admitted, h.depth⟩⟩

/-- What is tidy amid distinct registered types is orderly. -/
theorem Tidy.orderly (h : Tidy c₀ chain c) (hchain : c₀.Admits chain) : c.Orderly chain where
  underConstruction := h.underConstruction
  frames := h.frames
  admitted := ⟨hchain.distinct, fun t ht => by
    rw [h.catalog.hasType_eq]
    exact hchain.registered t ht⟩
  depth := by
    rw [h.catalog.size_eq]
    exact hchain.length_le

theorem Orderly.tidy (h : c.Orderly chain) : Tidy c.catalog chain c :=
  ⟨⟨Catalog.Follows.refl _, h.underConstruction⟩, h.frames⟩

/-- `entering d s` — the state `s` after the creation of an instance of `d` has begun. -/
def entering (d : Definition host) (s : Container host × host.World) :
    Container host × host.World :=
  (s.1.begun d.component.type, s.1.listener.begun d.component.type s.2)

/-- `InOrder chain nested d s` — creating an instance of `d` amid `chain`, with dependencies made by
    `nested`, finds and leaves the container orderly, and so do its assembly and what comes of it. -/
structure InOrder (chain : List TypeKey) (nested : Maker host) (d : Definition host)
    (s : Container host × host.World) : Prop where
  before : s.1.Orderly chain
  begun : d.component.type ∉ chain → (entering d s).1.Orderly (d.component.type :: chain)
  assembled : d.component.type ∉ chain →
    (assemble d (supplying nested) (entering d s)).2.1.Orderly (d.component.type :: chain)
  after : (createBy nested d s).2.1.Orderly chain

instance (chain : List TypeKey) (nested : Maker host) (d : Definition host)
    (s : Container host × host.World) : Decidable (InOrder chain nested d s) :=
  decidable_of_iff ((s.1.Orderly chain ∧
      (d.component.type ∉ chain → (entering d s).1.Orderly (d.component.type :: chain))) ∧
      (d.component.type ∉ chain →
        (assemble d (supplying nested) (entering d s)).2.1.Orderly (d.component.type :: chain)) ∧
      (createBy nested d s).2.1.Orderly chain)
    ⟨fun ⟨⟨hbefore, hbegun⟩, hassembled, hafter⟩ => ⟨hbefore, hbegun, hassembled, hafter⟩,
    fun h => ⟨⟨h.before, h.begun⟩, h.assembled, h.after⟩⟩

/-- `watched beyond n chain` — creation amid `chain` with `n` levels to go; as soon as these are used
    up, or anything is out of order, `beyond` takes over. -/
def watched (beyond : Maker host) : Nat → List TypeKey → Maker host
  | 0, _ => beyond
  | n + 1, chain => fun d s =>
    let nested := watched beyond n (d.component.type :: chain)
    if InOrder chain nested d s then createBy nested d s else beyond d s

/-! ## Recursion that has an end -/

/-- `Grounded c₀ chain make` — amid `chain`, what `make` does to a definition is one level around
    a maker that is grounded amid the longer chain. -/
inductive Grounded (c₀ : Catalog host) : List TypeKey → Maker host → Prop where
  | level {chain : List TypeKey} {make : Maker host} (nested : TypeKey → Maker host)
    (deeper : ∀ t, c₀.hasType t → t ∉ chain → Grounded c₀ (t :: chain) (nested t))
    (eq : ∀ d s, c₀.hasType d.component.type → Tidy c₀ chain s.1 →
      make d s = createBy (nested d.component.type) d s) :
    Grounded c₀ chain make

/-- **There is only one way for a recursion to end.**  Induction on the levels of the first maker:
    amid a longer chain the nested makers are the same, and one level asks for no others. -/
theorem Grounded.same (hsound : c₀.Sound fun _ => True) (h : Grounded c₀ chain make) :
    ∀ {make'}, Grounded c₀ chain make' → SameAmid c₀ chain make make' := by
  induction h with
  | level nested deeper eq ih =>
    rintro make' ⟨nested', deeper', eq'⟩ d hd s hs
    rw [eq d s hd hs, eq' d s hd hs]
    exact agree_createBy hsound (fun hchain => ih _ hd hchain (deeper' _ hd hchain)) s hs

/-- Grounded creations leave the creations in progress as they were. -/
theorem Grounded.inOrder (hsound : c₀.Sound fun _ => True) (hchain : c₀.Admits chain)
    (hd : c₀.hasType d.component.type) (hs : Tidy c₀ chain s.1) {nested : Maker host}
    (h : d.component.type ∉ chain → Grounded c₀ (d.component.type :: chain) nested) :
    InOrder chain nested d s where
  before := hs.orderly hchain
  begun hfree := (hs.begun _).orderly (hchain.cons hd hfree)
  assembled hfree := by
    have hsame := (h hfree).same hsound (h hfree)
    have htidy := (agree_assemble (d := d) (agree_supplying hsound hsame) (entering d s)
      (hs.begun _)).2
    exact htidy.orderly (hchain.cons hd hfree)
  after := (agree_createBy hsound (fun hfree => (h hfree).same hsound (h hfree)) s hs).2.orderly
    hchain

/-- **Chains end, so recursion does.**  Each level makes the chain longer by a type that was not on
    it, so more levels than there are registered types are never used up.  What a level does may be
    known only of levels around grounded ones. -/
theorem grounded_of_levels (makers : Nat → List TypeKey → Maker host)
    (hlevel : ∀ n chain d s, c₀.Admits chain → c₀.hasType d.component.type → Tidy c₀ chain s.1 →
      (d.component.type ∉ chain → Grounded c₀ (d.component.type :: chain)
        (makers n (d.component.type :: chain))) →
      makers (n + 1) chain d s = createBy (makers n (d.component.type :: chain)) d s) (n : Nat) :
    ∀ chain, c₀.Admits chain → c₀.size < n + chain.length → Grounded c₀ chain (makers n chain) := by
  induction n with
  | zero =>
    intro chain hchain hsize
    have hle := hchain.length_le
    omega
  | succ n ih =>
    intro chain hchain hsize
    have hdeeper : ∀ t, c₀.hasType t → t ∉ chain →
        Grounded c₀ (t :: chain) (makers n (t :: chain)) := by
      intro t ht hfree
      refine ih (t :: chain) (hchain.cons ht hfree) ?_
      rw [List.length_cons]
      omega
    exact .level (fun t => makers n (t :: chain)) hdeeper fun d s hd hs =>
      hlevel n chain d s hchain hd hs (hdeeper _ hd)

/-- The failure at the end of the levels is out of reach. -/
theorem grounded_createWithin {n : Nat} (hchain : c₀.Admits chain)
    (hsize : c₀.size ≤ n + chain.length) : Grounded c₀ chain (createWithin n) := by
  let makers : Nat → List TypeKey → Maker host
    | 0, _ => fun d => .fail (.dependencyCycle d.name)
    | n + 1, _ => createWithin n
  refine grounded_of_levels makers (fun n _ d s _ _ _ _ => ?_) (n + 1) chain hchain ?_
  · cases n <;> rfl
  · omega

/-- Nothing out of order is ever seen. -/
theorem grounded_watched (hsound : c₀.Sound fun _ => True) {beyond : Maker host} {n : Nat}
    (hchain : c₀.Admits chain) (hsize : c₀.size < n + chain.length) :
    Grounded c₀ chain (watched beyond n chain) :=
  grounded_of_levels (watched beyond)
    (fun _ _ _ _ hchain hd hs hnested => if_pos (Grounded.inOrder hsound hchain hd hs hnested))
    n chain hchain hsize

/-- `Recursive make` — `make` creates with dependencies that it makes itself, however deep they are
    nested, in all containers in which creations may be in progress. -/
def Recursive (make : Maker host) : Prop :=
  ∀ chain d s, s.1.catalog.Sound (fun _ => True) → s.1.Orderly chain →
    s.1.catalog.hasType d.component.type → make d s = createBy make d s

/-- Recursion without a bound is recursion within any bound. -/
theorem grounded_of_recursive (hsound : c₀.Sound fun _ => True) (hmake : Recursive make)
    (hchain : c₀.Admits chain) : Grounded c₀ chain make := by
  refine grounded_of_levels (fun _ _ => make) (fun _ chain d s hchain hd hs _ => ?_)
    (c₀.size + 1) chain hchain (by omega)
  refine hmake chain d s (hs.catalog.sound (fun _ _ => trivial) hsound) (hs.orderly hchain) ?_
  rw [hs.catalog.hasType_eq]
  exact hd

/-- The levels are counted by the catalog of the moment, which has as many types as `c₀`. -/
theorem grounded_createFrom (hchain : c₀.Admits chain) : Grounded c₀ chain createFrom := by
  obtain ⟨nested, deeper, eq⟩ :=
    grounded_createWithin hchain (Nat.le_add_right c₀.size chain.length)
  refine .level nested deeper fun d s hd hs => ?_
  rw [createFrom, hs.catalog.size_eq]
  exact eq d s hd hs

theorem recursive_createFrom : Recursive (@createFrom host) := by
  intro chain d s hsound hs hd
  have hunfolded : Grounded s.1.catalog chain (createBy createFrom) :=
    .level (fun _ => createFrom) (fun t ht hfree => grounded_createFrom (hs.admitted.cons ht hfree))
      fun _ _ _ _ => rfl
  exact ((grounded_createFrom hs.admitted).same hsound hunfolded d hd s hs.tidy).1

/-! ## Requests -/

/-- `answered make found request` — the answer to a request for which `found` is the definition: a
    new instance of it from `make`; its handle. -/
def answered (make : Maker host) (found : Option (Definition host)) (request : Request) :
    Act host Handle :=
  match found with
  | none => .fail (.unknownComponent request)
  | some d => Prod.fst <$> make d

/-- `c.MadeBy make` — whatever is requested of `c`, by type or by name and in whatever world, is what
    `make` makes of the definition. -/
def MadeBy (make : Maker host) (c : Container host) : Prop :=
  ∀ w : host.World,
    (∀ t, create t (c, w) = answered make (c.catalog.byType? t) (.identity t) (c, w)) ∧
    ∀ name, createByName name (c, w) =
      answered make (c.catalog.byName? name) (.component name) (c, w)

theorem madeBy_of_same (hc : Tidy c.catalog [] c) (hsound : c.catalog.Sound fun _ => True)
    (h : SameAmid c.catalog [] createFrom make) : c.MadeBy make := by
  have hanswered : ∀ (found : Option (Definition host)) (request : Request) (w : host.World),
      (∀ d, found = some d → ∃ t, c.catalog.byType? t = some d) →
      answered createFrom found request (c, w) = answered make found request (c, w) := by
    intro found request w hfound
    cases hd : found with
    | none => rfl
    | some d =>
      obtain ⟨t, ht⟩ := hfound d hd
      have hregistered : c.catalog.hasType d.component.type = true := by
        rw [(hsound t d ht).1]
        exact Option.isSome_iff_exists.2 ⟨d, ht⟩
      exact (((h d hregistered).map Prod.fst) (c, w) hc).1
  refine fun w => ⟨fun t => ?_, fun name => ?_⟩
  · exact hanswered _ _ w fun d hd => ⟨t, hd⟩
  · refine hanswered _ _ w fun d hd => ?_
    obtain ⟨t, -, ht⟩ := Option.bind_eq_some_iff.1 hd
    exact ⟨t, ht⟩

/-- **Creation ends on every registry.**  In every container that can be reached, whatever is
    registered there and whatever its callbacks do, let a new instance be requested, by type or by
    name.

    1. More levels of nesting than there are registered types are never used up, and at all moments
       the types under construction are the distinct registered types on the chain of nested
       creations, with one frame for each: what lies `beyond` does not matter.
    2. So a recursion bounded by that number, not counting the outermost creation, has the same
       outcome as one with any higher bound.
    3. Creation is recursive without a bound, and whatever else is recursive does the same. -/
theorem creation_ends (host : Host) (listener : Listener host) (c : Container host)
    (hc : Reached (fun _ => True) listener c) :
    (∀ n beyond, c.catalog.size < n → c.MadeBy (watched beyond n [])) ∧
    (∀ n, c.catalog.size ≤ n → c.MadeBy (createWithin n)) ∧
    Recursive (@createFrom host) ∧ ∀ make, Recursive make → c.MadeBy make := by
  have hsound : c.catalog.Sound fun _ => True := hc.sound (fun _ => id) fun _ => id
  obtain ⟨-, hunder, hframes⟩ :=
    hc.keeps_idle host.quiet_free (fun d _ => d.scheme.quiet_free) listener.enters_free
  have htidy : Tidy c.catalog [] c :=
    ⟨⟨Catalog.Follows.refl _, hunder⟩, congrArg List.length hframes⟩
  have hgrounded : ∀ make, Grounded c.catalog [] make → c.MadeBy make := fun make hmake =>
    madeBy_of_same htidy hsound ((grounded_createFrom .nil).same hsound hmake)
  refine ⟨fun n beyond hn => ?_, fun n hn => ?_, recursive_createFrom, fun make hmake => ?_⟩
  · exact hgrounded _ (grounded_watched hsound .nil hn)
  · exact hgrounded _ (grounded_createWithin .nil hn)
  · exact hgrounded _ (grounded_of_recursive hsound hmake .nil)

/-- Two types that need each other, one that needs itself, and one that needs a type without a
    definition: every request is refused, and five levels for four types are not used up. -/
theorem creation_ends_four : ∃ c : Container Host.numbers,
    Reached (fun _ => True) Listener.silent c ∧ c.catalog.size = 4 ∧
    c.MadeBy (watched (fun _ => .fail (.raised "beyond")) 5 []) ∧ c.MadeBy createFrom ∧
    [1, 2, 3, 4].map (fun n => (create ⟨n⟩ (c, [])).1) =
      [.error (.instantiation "First" (.member ⟨"First", "field"⟩)
        (.instantiation "Second" (.member ⟨"Second", "field"⟩) (.dependencyCycle "First"))),
      .error (.instantiation "Second" (.member ⟨"Second", "field"⟩)
        (.instantiation "First" (.member ⟨"First", "field"⟩) (.dependencyCycle "Second"))),
      .error (.instantiation "Selfish" (.member ⟨"Selfish", "field"⟩) (.dependencyCycle "Selfish")),
      .error (.instantiation "Lost" (.member ⟨"Lost", "field"⟩)
        (.unknownComponent (.required ⟨5⟩)))] := by
  have hempty : Reached (fun _ => True) (Listener.silent : Listener Host.numbers) _ := .empty {}
  have hfirst := hempty.register (d := .numbered 1 "First" [2] []) trivial rfl
  have hsecond := hfirst.register (d := .numbered 2 "Second" [1] []) trivial rfl
  have hselfish := hsecond.register (d := .numbered 3 "Selfish" [3] []) trivial rfl
  have hlost := hselfish.register (d := .numbered 4 "Lost" [5] []) trivial rfl
  obtain ⟨hwatched, -, hrecursive, hunbounded⟩ := creation_ends Host.numbers Listener.silent _ hlost
  exact ⟨_, hlost, by cbv, hwatched 5 _ (by cbv), hunbounded _ hrecursive, by cbv⟩

end Container

end Wiring
