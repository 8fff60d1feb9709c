/-
  What a host enters into a ledger.

  1. A ledger is a course on the host's world.  A host is quiet about it if none of its routines,
     and nothing that an interceptor does between proceeding, gains anything; so is a proxy scheme.
  2. A journal is read as a ledger by a choice of events (`Journal.course`): moves append to the
     journal, and the chosen ones among the appended events are what is gained.
  3. The ledger of a container has a `Mark` for every instance that is stored and for every one
     whose callbacks before destruction have run.  Only a listener makes such marks.
-/
import Wiring.Proofs.Effect.Course
import Wiring.Proofs.Journal.Basic
import Wiring.Container.Basic

namespace Wiring

/-- `Mark V` — an instance has been stored, or its callbacks before destruction have run. -/
inductive Mark (V : Vocabulary) where
  | stored (handle : Handle) (entry : Stored V)
  | retired (handle : Handle) (entry : Stored V)

namespace Mark

variable {V : Vocabulary}

/-- `m.stored?` — what has been stored. -/
def stored? : Mark V → Option (Handle × Stored V)
  | stored h e => some (h, e)
  | retired _ _ => none

/-- `m.retired?` — the instance whose callbacks have run. -/
def retired? : Mark V → Option (Handle × Stored V)
  | stored _ _ => none
  | retired h e => some (h, e)

end Mark

/-! ## Quiet hosts -/

variable {ℓ : Type}

/-- `x.QuietFrom L w` — the program `x`, started in the world `w`, gains nothing by what it does
    itself; what it proceeds into is taken to gain nothing either. -/
def Advice.QuietFrom {V : Vocabulary} {W α : Type} (L : Course W ℓ) : Advice V W α → W → Prop
  | .done _, _ => True
  | .proceed next, w => ∀ r w', L.rel [] w w' → (next r).QuietFrom L w'
  | .observe next, w => ∀ v, (next v).QuietFrom L w
  | .setParameters _ next, w => ∀ r, (next r).QuietFrom L w
  | .setData _ next, w => next.QuietFrom L w
  | .readWorld next, w => (next w).QuietFrom L w
  | .writeWorld w' next, w => L.rel [] w w' ∧ next.QuietFrom L w'

/-- `host.QuietInWiring L` — no routine gains anything by which an instance is wired. -/
structure Host.QuietInWiring (host : Host) (L : Course host.World ℓ) : Prop where
  assign : ∀ r receiver value, L.Along [] (host.assign r receiver value)
  perform : ∀ r receiver args, L.Along [] (host.perform r receiver args)
  supply : ∀ r receiver, L.Along [] (host.supply r receiver)

/-- `host.Quiet L` — no routine of the host and no live interceptor gains anything. -/
structure Host.Quiet (host : Host) (L : Course host.World ℓ) : Prop extends
    host.QuietInWiring L where
  construct : ∀ r args, L.Along [] (host.construct r args)
  notify : ∀ r receiver, L.Along [] (host.notify r receiver)
  call : ∀ r receiver args, L.Along [] (host.call r receiver args)
  make : ∀ r, L.Along [] (host.make r)
  intercept : ∀ it phase w, (host.intercept it phase).QuietFrom L w
  contextual : ∀ scope, L.Along [] (host.contextual scope)

/-- `s.Quiet L` — neither making proxies nor looking behind them gains anything. -/
structure ProxyScheme.Quiet {host : Host} (s : ProxyScheme host) (L : Course host.World ℓ) :
    Prop where
  wrap : ∀ name target interceptors methods w,
    L.rel [] w (s.wrap name target interceptors methods w).2
  current : ∀ r, L.Along [] (s.current r)

/-- `l.Enters L` — the listener enters the marks of `L`, and nothing else. -/
structure Listener.Enters {host : Host} (l : Listener host)
    (L : Course host.World (Mark host.toVocabulary)) : Prop where
  begun : ∀ t w, L.rel [] w (l.begun t w)
  stored : ∀ h e w, L.rel [.stored h e] w (l.stored h e w)
  released : ∀ h live w, L.rel [] w (l.released h live w)
  retired : ∀ h e outcome w, L.rel [.retired h e] w (l.retired h e outcome w)

/-! ## The free ledger

  Every host is quiet about the ledger that allows everything, and every listener keeps it. -/

theorem Course.along_free {σ α : Type} (ls : List ℓ) (x : Effect σ α) :
    (free : Course σ ℓ).Along ls x :=
  ⟨fun _ => trivial, fun _ => ⟨[], List.nil_prefix, trivial⟩⟩

theorem Advice.quietFrom_free {V : Vocabulary} {W α : Type} (x : Advice V W α) :
    ∀ w, x.QuietFrom (Course.free : Course W ℓ) w := by
  induction x with
  | done a => exact fun _ => trivial
  | proceed next ih => exact fun _ r w' _ => ih r w'
  | observe next ih => exact fun w v => ih v w
  | setParameters ps next ih => exact fun w r => ih r w
  | setData data next ih => exact ih
  | readWorld next ih => exact fun w => ih w w
  | writeWorld w' next ih => exact fun _ => ⟨trivial, ih w'⟩

theorem Host.quiet_free (host : Host) : host.Quiet (Course.free : Course host.World ℓ) where
  assign _ _ _ := Course.along_free ..
  perform _ _ _ := Course.along_free ..
  construct _ _ := Course.along_free ..
  notify _ _ := Course.along_free ..
  call _ _ _ := Course.along_free ..
  supply _ _ := Course.along_free ..
  make _ := Course.along_free ..
  intercept it phase := (host.intercept it phase).quietFrom_free
  contextual _ := Course.along_free ..

theorem ProxyScheme.quiet_free {host : Host} (s : ProxyScheme host) :
    s.Quiet (Course.free : Course host.World ℓ) :=
  ⟨fun _ _ _ _ _ => trivial, fun _ => Course.along_free ..⟩

theorem Listener.enters_free {host : Host} (l : Listener host) : l.Enters Course.free :=
  ⟨fun _ _ => trivial, fun _ _ _ => trivial, fun _ _ _ => trivial, fun _ _ _ _ => trivial⟩

/-! ## Journals as ledgers -/

variable {V : Vocabulary} {W : Type}

/-- `Journal.course pick` — moves append to the journal and gain what `pick` takes of that. -/
def Journal.course (pick : Event V → Option ℓ) : Course (W × Journal V) ℓ where
  rel l s t := ∃ seg, t.2 = s.2 ++ seg ∧ seg.filterMap pick = l
  stay s := ⟨[], (List.append_nil s.2).symm, rfl⟩
  append := by
    rintro l m s t u ⟨seg, ht, rfl⟩ ⟨seg', hu, rfl⟩
    exact ⟨seg ++ seg', by rw [hu, ht, List.append_assoc], List.filterMap_append⟩

theorem Journal.rel_append {pick : Event V → Option ℓ} (w w' : W) (log : Journal V) (e : Event V) :
    (Journal.course pick).rel (pick e).toList (w, log) (w', log ++ [e]) := by
  refine ⟨[e], rfl, ?_⟩
  cases h : pick e with
  | none => rw [List.filterMap_cons_none h]; rfl
  | some m => rw [List.filterMap_cons_some h]; rfl

theorem Journal.rel_append_nil {pick : Event V → Option ℓ} {e : Event V} (h : pick e = none)
    (w w' : W) (log : Journal V) :
    (Journal.course pick).rel [] (w, log) (w', log ++ [e]) := by
  have hrel : (Journal.course pick).rel (pick e).toList (w, log) (w', log ++ [e]) :=
    Journal.rel_append w w' log e
  rwa [h] at hrel

theorem Journal.along_noting {α : Type} {pick : Event V → Option ℓ}
    {event : Except Failure α → Event V} (h : ∀ r, pick (event r) = none) (x : Effect W α) :
    (Journal.course pick).Along [] (x.noting fun r => some (event r)) :=
  .of_keeps fun s => Journal.rel_append_nil (h _) s.1 _ s.2

/-- `Journal.writing P` — moves append to the journal, and what they append satisfies `P`. -/
def Journal.writing (P : Event V → Prop) : Course (W × Journal V) Empty where
  rel _ s t := ∃ seg, t.2 = s.2 ++ seg ∧ ∀ e ∈ seg, P e
  stay s := ⟨[], (List.append_nil s.2).symm, nofun⟩
  append := by
    rintro l m s t u ⟨seg, ht, hseg⟩ ⟨seg', hu, hseg'⟩
    exact ⟨seg ++ seg', by rw [hu, ht, List.append_assoc], List.forall_mem_append.2 ⟨hseg, hseg'⟩⟩

theorem Journal.writing_noting {α : Type} {P : Event V → Prop}
    {event : Except Failure α → Event V} (h : ∀ r, P (event r)) (x : Effect W α) :
    (Journal.writing P).Along [] (x.noting fun r => some (event r)) := by
  refine .of_keeps fun s => ⟨[event (x s.1).1], rfl, fun e he => ?_⟩
  rw [List.mem_singleton.1 he]
  exact h _

/-- A program beside the journal gains nothing there before it is over. -/
theorem Advice.quietFrom_beside {α β : Type} {pick : Event V → Option ℓ} (it : V.Live)
    (x : Advice V W α) (k : α → Advice V (W × Journal V) β)
    (h : ∀ a s, (k a).QuietFrom (Journal.course pick) s) :
    ∀ s, ((x.beside it).andThen k).QuietFrom (Journal.course pick) s := by
  induction x with
  | done a => exact h a
  | proceed next ih => exact fun _ r s' _ => ih r s'
  | observe next ih => exact fun s v => ih v s
  | setParameters ps next ih => exact fun s r => ih r s
  | setData data next ih => exact ih
  | readWorld next ih => exact fun s => ih s.1 s
  | writeWorld w next ih =>
    exact fun s => ⟨⟨[], (List.append_nil s.2).symm, rfl⟩, ih (w, s.2)⟩

/-- `e.isOfStore` — whether `e` is written by a listener and not by a host. -/
def Event.isOfStore : Event V → Bool
  | .begun _ | .stored _ _ | .released _ _ | .retired _ _ _ => true
  | _ => false

/-- `OfStore pick` — `pick` takes only events that a listener writes. -/
def Journal.OfStore (pick : Event V → Option ℓ) : Prop := ∀ e, e.isOfStore = false → pick e = none

/-- A journaled host is quiet about everything that only a container does. -/
theorem Host.quiet_journaled (host : Host) {pick : Event host.toVocabulary → Option ℓ}
    (h : Journal.OfStore pick) : host.journaled.Quiet (Journal.course pick) where
  assign _ _ _ := Journal.along_noting (fun _ => h _ rfl) _
  perform _ _ _ := Journal.along_noting (fun _ => h _ rfl) _
  construct _ _ := Journal.along_noting (fun _ => h _ rfl) _
  notify _ _ := Journal.along_noting (fun _ => h _ rfl) _
  call _ _ _ := Journal.along_noting (fun _ => h _ rfl) _
  supply _ _ := Journal.along_noting (fun _ => h _ rfl) _
  make _ := Journal.along_noting (fun _ => h _ rfl) _
  intercept it phase s := by
    let leaving (outcome : Except Failure (Option host.Ref)) :
        Advice host.toVocabulary host.journaled.World (Except Failure (Option host.Ref)) :=
      .noting (some (.left it phase outcome)) (.done outcome)
    have hleft : ∀ outcome s, (leaving outcome).QuietFrom (Journal.course pick) s :=
      fun _ s => ⟨Journal.rel_append_nil (h _ rfl) s.1 s.1 s.2, trivial⟩
    exact ⟨Journal.rel_append_nil (h _ rfl) s.1 s.1 s.2,
      (host.intercept it phase).quietFrom_beside it leaving hleft _⟩
  contextual _ := Journal.along_noting (fun _ => h _ rfl) _

end Wiring
