/-
  What a chronicle says of the journal as a whole.

  `Adds log seg new` — the segment `seg` behind `log` adds the objects `new`: for each of them the
  factory calls are recorded in a place of its own, all that was stored is among them, and an
  interceptor factory is called only directly behind the beginning of a creation.  Segments add up
  (`Adds.append`), so the objects of a whole chronicle are what its journal adds to nothing.
-/
import Wiring.Proofs.Journal.Chronicle

namespace Wiring

variable {V : Vocabulary} {host : Host}

/-- `e.isPlain` — whether `e` is neither a factory call, nor the beginning of a creation, nor the
    end of one that succeeded. -/
def Event.isPlain : Event V → Bool
  | .made _ _ | .begun _ | .stored _ _ => false
  | _ => true

/-- `CallsBegun open log` — interceptor factories are called directly behind the beginning of a
    creation, or behind such a call; `open` says whether one may be called at once. -/
def Journal.CallsBegun : Bool → Journal V → Prop
  | _, [] => True
  | «open», .made _ _ :: log => «open» = true ∧ CallsBegun true log
  | _, .begun _ :: log => CallsBegun true log
  | _, _ :: log => CallsBegun false log

namespace Journal

theorem CallsBegun.append {log : Journal V} :
    ∀ {b}, CallsBegun b log → ∀ {seg}, (∀ b, CallsBegun b seg) → CallsBegun b (log ++ seg) := by
  induction log with
  | nil => exact fun _ _ hseg => hseg _
  | cons e log ih =>
    intro b h seg hseg
    cases e with
    | made r outcome => exact ⟨h.1, ih h.2 hseg⟩
    | _ => exact ih h hseg

theorem callsBegun_of_plain {seg : Journal V} (h : ∀ e ∈ seg, e.isPlain = true) :
    ∀ b, CallsBegun b seg := by
  induction seg with
  | nil => exact fun _ => trivial
  | cons e seg ih =>
    intro b
    rw [List.forall_mem_cons] at h
    have hseg := ih h.2
    cases e with
    | made r outcome => cases h.1
    | begun t => cases h.1
    | _ => exact hseg false

theorem callsBegun_of_calls {calls : Journal V} (h : ∀ e ∈ calls, ∃ r outcome, e = .made r outcome) :
    CallsBegun true calls := by
  induction calls with
  | nil => trivial
  | cons e calls ih =>
    rw [List.forall_mem_cons] at h
    obtain ⟨⟨r, outcome, rfl⟩, hcalls⟩ := h
    exact ⟨rfl, ih hcalls⟩

end Journal

/-! ## Plain segments -/

theorem Goal.Writes.plain {g : Goal V} {e : Event V} (h : g.Writes e) : e.isPlain = true := by
  cases g <;> cases e <;> first | rfl | cases h

/-- A pass through a chain calls no factory, and no creation begins or ends in it. -/
theorem Served.plain {phase : Phase} {goal : Goal V} {live : Table String V.Live}
    {chain : List (Interceptor V.Routine)} :
    ∀ {seg : Journal V}, Served phase goal live chain seg → ∀ e ∈ seg, e.isPlain = true := by
  induction chain with
  | nil => exact fun h e he => (h e he).plain
  | cons i rest ih =>
    rintro _ ⟨it, inner, outcome, -, hinner, rfl⟩ e he
    rcases List.mem_cons.1 he with rfl | he
    · rfl
    · rcases List.mem_append.1 he with he | he
      · obtain ⟨pass, hpass, he⟩ := List.mem_flatten.1 he
        exact ih (hinner pass hpass) e he
      · rw [List.mem_singleton.1 he]
        rfl

theorem Definition.Constructs.plain {d : Definition host} {live : host.LiveSet}
    {seg : Journal host.toVocabulary} (h : d.Constructs live seg) : ∀ e ∈ seg, e.isPlain = true := by
  obtain ⟨k, pass, direct, -, hpass, hdirect, rfl⟩ := h
  exact List.forall_mem_append.2 ⟨hpass.plain, fun e he => (hdirect e he).plain⟩

theorem Definition.Undergoes.plain {d : Definition host} {chains : LifecycleChains host.Routine}
    {phase : Phase} {live : host.LiveSet} {seg : Journal host.toVocabulary}
    (h : d.Undergoes chains phase live seg) : ∀ e ∈ seg, e.isPlain = true := by
  obtain ⟨asked, pass, target, hasked, hpass, rfl⟩ := h
  refine List.forall_mem_append.2 ⟨fun e he => ?_, hpass.plain⟩
  obtain ⟨scope, outcome, rfl⟩ := hasked e he
  rfl

theorem Undoing.exists_plain {objs : List (Object host)} {log log' : Journal host.toVocabulary}
    (h : Undoing objs log log') : ∃ seg, log' = log ++ seg ∧ ∀ e ∈ seg, e.isPlain = true := by
  induction h with
  | done => exact ⟨[], (List.append_nil _).symm, nofun⟩
  | @dead log _ h _ ih =>
    obtain ⟨seg, rfl, hseg⟩ := ih
    exact ⟨.released h false :: seg, by simp, List.forall_mem_cons.2 ⟨rfl, hseg⟩⟩
  | @live log _ o seg outcome _ hseg _ ih =>
    obtain ⟨rest, rfl, hrest⟩ := ih
    refine ⟨.released o.handle true :: seg ++ [.retired o.handle o.entry outcome] ++ rest,
      by simp, ?_⟩
    refine List.forall_mem_append.2 ⟨List.forall_mem_append.2
      ⟨List.forall_mem_cons.2 ⟨rfl, hseg.plain⟩, ?_⟩, hrest⟩
    exact fun e he => by rw [List.mem_singleton.1 he]; rfl

/-! ## Objects that a segment adds -/

/-- `Adds log seg new` — with `seg` behind `log`, the objects `new` have been created. -/
structure Adds (log seg : Journal host.toVocabulary) (new : List (Object host)) : Prop where
  formed : ∀ o ∈ new, o.Formed
  recorded : ∀ o ∈ new, o.Recorded (log ++ seg)
  within : ∀ o ∈ new, log.length ≤ o.start ∧ o.start < (log ++ seg).length
  distinct : (new.map (·.start)).Nodup
  stored : ∀ h e, .stored h e ∈ seg → ∃ o ∈ new, o.handle = h ∧ o.entry = e
  calls : ∀ b, Journal.CallsBegun b seg

namespace Adds

variable {log seg seg' : Journal host.toVocabulary} {new new' : List (Object host)}

theorem of_plain (h : ∀ e ∈ seg, e.isPlain = true) : Adds log seg [] where
  formed := nofun
  recorded := nofun
  within := nofun
  distinct := List.nodup_nil
  stored _ _ hmem := by cases h _ hmem
  calls := Journal.callsBegun_of_plain h

/-- The beginning of a creation. -/
theorem of_begun (t : TypeKey) {calls : Journal host.toVocabulary}
    (h : ∀ e ∈ calls, ∃ r outcome, e = .made r outcome) : Adds log (.begun t :: calls) [] where
  formed := nofun
  recorded := nofun
  within := nofun
  distinct := List.nodup_nil
  stored _ _ hmem := by
    rcases List.mem_cons.1 hmem with heq | hmem
    · cases heq
    · obtain ⟨r, outcome, heq⟩ := h _ hmem
      cases heq
  calls _ := Journal.callsBegun_of_calls h

theorem append (h : Adds log seg new) (h' : Adds (log ++ seg) seg' new') :
    Adds log (seg ++ seg') (new ++ new') where
  formed := List.forall_mem_append.2 ⟨h.formed, h'.formed⟩
  recorded := by
    rw [← List.append_assoc]
    exact List.forall_mem_append.2
      ⟨fun o ho => (h.recorded o ho).append seg', h'.recorded⟩
  within := by
    rw [← List.append_assoc]
    refine List.forall_mem_append.2 ⟨fun o ho => ?_, fun o ho => ?_⟩
    · have hwithin := h.within o ho
      rw [List.length_append] at hwithin ⊢
      rw [List.length_append]
      omega
    · have hwithin := h'.within o ho
      rw [List.length_append] at hwithin
      omega
  distinct := by
    rw [List.map_append]
    refine List.nodup_append.2 ⟨h.distinct, h'.distinct, ?_⟩
    -- what came first began before the second segment
    intro n hn m hm
    obtain ⟨o, ho, rfl⟩ := List.mem_map.1 hn
    obtain ⟨o', ho', rfl⟩ := List.mem_map.1 hm
    have hbefore := (h.within o ho).2
    have hbehind := (h'.within o' ho').1
    omega
  stored k e hmem := by
    rcases List.mem_append.1 hmem with hmem | hmem
    · obtain ⟨o, ho, heq⟩ := h.stored k e hmem
      exact ⟨o, List.mem_append_left _ ho, heq⟩
    · obtain ⟨o, ho, heq⟩ := h'.stored k e hmem
      exact ⟨o, List.mem_append_right _ ho, heq⟩
  calls b := (h.calls b).append h'.calls

/-- A creation that succeeded adds its object to those that were created for it. -/
theorem store {o : Object host} {calls arguments con wiring post : Journal host.toVocabulary}
    (hstart : o.start = log.length) (hcalls : Recruits o.crew o.live calls)
    (hcon : o.definition.Constructs o.live con)
    (hpost : o.definition.Undergoes o.chains .postConstruct o.live post) (hformed : o.Formed)
    (hseg : seg = arguments ++ con ++ wiring ++ post)
    (h : Adds (log ++ .begun o.entry.type :: calls) seg new) :
    Adds log (.begun o.entry.type :: calls ++ seg ++ [.stored o.handle o.entry]) (new ++ [o]) := by
  have hinner : Adds log (.begun o.entry.type :: calls ++ seg) new :=
    (of_begun _ hcalls.made).append h
  have hlog : log ++ (.begun o.entry.type :: calls ++ seg ++ [.stored o.handle o.entry]) =
      log ++ (.begun o.entry.type :: calls ++ seg) ++ [.stored o.handle o.entry] :=
    (List.append_assoc ..).symm
  constructor
  · exact List.forall_mem_append.2 ⟨h.formed, List.forall_mem_singleton.2 hformed⟩
  · refine List.forall_mem_append.2 ⟨fun o' ho' => ?_, List.forall_mem_singleton.2 ?_⟩
    · rw [hlog]
      exact (hinner.recorded o' ho').append _
    · exact ⟨log, calls, arguments, con, wiring, post, [], by rw [hseg], hstart.symm, hcalls, hcon,
        hpost⟩
  · refine List.forall_mem_append.2 ⟨fun o' ho' => ?_, List.forall_mem_singleton.2 ?_⟩
    · have hwithin := hinner.within o' ho'
      rw [hlog, List.length_append]
      omega
    · rw [hstart, List.length_append, List.length_append, List.length_append, List.length_cons]
      omega
  · rw [List.map_append]
    refine List.nodup_append.2 ⟨h.distinct, List.pairwise_singleton _ _, ?_⟩
    -- all others began behind the factory calls
    intro n hn m hm
    obtain ⟨o', ho', rfl⟩ := List.mem_map.1 hn
    have hbehind := (h.within o' ho').1
    rw [List.length_append, List.length_cons] at hbehind
    have hm : m = o.start := List.mem_singleton.1 hm
    omega
  · intro k e hmem
    rcases List.mem_append.1 hmem with hmem | hmem
    · obtain ⟨o', ho', heq⟩ := hinner.stored k e hmem
      exact ⟨o', List.mem_append_left _ ho', heq⟩
    · cases List.mem_singleton.1 hmem
      exact ⟨o, List.mem_append_right _ (List.mem_singleton_self o), rfl, rfl⟩
  · exact fun b => (hinner.calls b).append fun _ => trivial

end Adds

/-- What was made and wired adds the objects that it says. -/
theorem Work.adds {objs objs' : List (Object host)} {log log' : Journal host.toVocabulary}
    (h : Work objs log objs' log') :
    ∃ new seg, objs' = objs ++ new ∧ log' = log ++ seg ∧ Adds log seg new := by
  induction h with
  | @rest objs log =>
    exact ⟨[], [], (List.append_nil _).symm, (List.append_nil _).symm, .of_plain nofun⟩
  | @wired _ log _ _ e _ he ih =>
    obtain ⟨new, seg, rfl, rfl, hseg⟩ := ih
    refine ⟨new ++ [], seg ++ [e], by simp, by simp, hseg.append (.of_plain fun e' he' => ?_)⟩
    rw [List.mem_singleton.1 he']
    cases e <;> first | rfl | cases he
  | @made _ log _ _ _ _ _ _ calls con post o _ hstart hcalls _ hcon _ hpost hformed ih₁ ih₂ ih₃ =>
    obtain ⟨new₁, seg₁, rfl, rfl, hseg₁⟩ := ih₁
    obtain ⟨new₂, seg₂, rfl, rfl, hseg₂⟩ := ih₂
    obtain ⟨new₃, seg₃, rfl, rfl, hseg₃⟩ := ih₃
    have hinner : Adds (log ++ seg₁ ++ .begun o.entry.type :: calls) (seg₂ ++ con ++ seg₃ ++ post)
        (new₂ ++ [] ++ new₃ ++ []) := by
      have hwiring : Adds (log ++ seg₁ ++ .begun o.entry.type :: calls ++ (seg₂ ++ con)) seg₃ new₃ := by
        rwa [← List.append_assoc]
      exact ((hseg₂.append (.of_plain hcon.plain)).append hwiring).append (.of_plain hpost.plain)
    refine ⟨new₁ ++ (new₂ ++ [] ++ new₃ ++ [] ++ [o]), _, by simp, ?_,
      hseg₁.append (hinner.store hstart hcalls hcon hpost hformed rfl)⟩
    simp
  | @failed _ log _ _ _ _ _ _ _ calls con post d _ hcalls _ hcon _ hpost undo ih₁ ih₂ ih₃ =>
    obtain ⟨new₁, seg₁, rfl, rfl, hseg₁⟩ := ih₁
    obtain ⟨new₂, seg₂, rfl, rfl, hseg₂⟩ := ih₂
    obtain ⟨new₃, seg₃, rfl, rfl, hseg₃⟩ := ih₃
    obtain ⟨seg₄, rfl, hseg₄⟩ := undo.exists_plain
    have hmade : ∀ e ∈ calls, ∃ r outcome, e = .made r outcome := by
      intro e he
      obtain ⟨-, -, i, -, outcome, heq⟩ := hcalls e he
      exact ⟨i.maker, outcome, heq⟩
    have hcon : ∀ e ∈ con, e.isPlain = true := by
      rcases hcon with rfl | ⟨_, _, _, hcon⟩
      · exact nofun
      · exact hcon.plain
    have hpost : ∀ e ∈ post, e.isPlain = true := by
      rcases hpost with rfl | ⟨_, _, _, hpost⟩
      · exact nofun
      · exact hpost.plain
    have hwiring : Adds (log ++ seg₁ ++ .begun d.component.type :: calls ++ (seg₂ ++ con)) seg₃
        new₃ := by
      rwa [← List.append_assoc]
    have hbegun : Adds (log ++ seg₁) (.begun d.component.type :: calls) ([] : List (Object host)) :=
      .of_begun _ hmade
    have hinner := hbegun.append
      (((hseg₂.append (.of_plain hcon)).append hwiring).append
        (.of_plain (List.forall_mem_append.2 ⟨hpost, hseg₄⟩)))
    refine ⟨new₁ ++ ([] ++ (new₂ ++ [] ++ new₃ ++ [])), _, by simp, ?_, hseg₁.append hinner⟩
    simp

/-- A whole run: what its journal adds to nothing are the objects of its chronicle. -/
theorem Chronicle.adds {objs : List (Object host)} {log : Journal host.toVocabulary}
    (h : Chronicle objs log) : Adds [] log objs := by
  have hplain : ∀ {objs : List (Object host)} {log seg : Journal host.toVocabulary},
      Adds [] log objs → (∀ e ∈ seg, e.isPlain = true) → Adds [] (log ++ seg) objs := by
    intro objs log seg hlog hseg
    have hsegment : Adds ([] ++ log) seg ([] : List (Object host)) := .of_plain hseg
    have hboth := hlog.append hsegment
    rwa [List.append_nil] at hboth
  induction h with
  | empty => exact .of_plain nofun
  | create _ hwork ih =>
    obtain ⟨new, seg, rfl, rfl, hseg⟩ := hwork.adds
    exact ih.append hseg
  | destroy _ hundo ih =>
    obtain ⟨seg, rfl, hseg⟩ := hundo.exists_plain
    exact hplain ih hseg
  | invoke _ _ _ _ hseg ih => exact hplain ih (List.forall_mem_cons.2 ⟨rfl, hseg.plain⟩)
  | refuse _ _ _ _ ih => exact hplain ih (List.forall_mem_singleton.2 rfl)

end Wiring
