import CryptoCollector.Storage.Barrier.Deliveries

/-!
# Final barriers are all-or-nothing

In every run a group is published only when all of it is durable, and its result is set once; and
from every state a group that is not settled can still be settled by the callbacks of its own
tasks.
-/

namespace CryptoCollector.Storage

open Lib

namespace Session

variable {s s' : Session} {id : Nat} {cmd : BarrierCommand} {slo : Nat}

/-! ## Runs -/

theorem lawful_initial (configSha256 : String) (configGeneration : Nat) (clock : Clock) :
    (initial configSha256 configGeneration clock).Lawful where
  accounted := fun _ _ hp => by cases hp
  busy := fun _ hw => by cases hw
  accounts := fun id => {
    command := fun _ hcmd => by cases hcmd
    known := fun hsome => by cases hsome
    settled := fun _ ho => by cases ho
    complete := fun _ _ hmem => by cases hmem
    posted := fun _ hmem => by cases hmem
    once := fun _ _ hmem => by cases hmem
    answered := fun _ hcmd => by cases hcmd }
  owned := fun _ _ hg => by cases hg
  queue := fun _ hm => by cases hm
  awaits := ⟨fun _ hcb => (by cases hcb), fun _ hcb => by cases hcb⟩

/-- A lawful session and what became of its results. -/
structure Advances (s s' : Session) : Prop where
  lawful : s'.Lawful
  results : ∀ k outcome, s.result k = some outcome → s'.result k = some outcome

theorem Lawful.advances_around (h : s.Lawful) {core : Core}
    (hq : Core.Quiet s.reported s.core core) : Advances s { s with core } where
  lawful := h.around hq
  results := by
    intro k outcome hk
    unfold result at hk ⊢
    rw [hq.barrier]
    exact hk

/-- One event. -/
theorem Lawful.step {event : SessionEvent} (h : s.Lawful) (hstep : s.step slo event = some s') :
    Advances s s' := by
  unfold Session.step at hstep
  cases event with
  | install path createdAtNs receivedHour configSha256 configGeneration =>
    dsimp only at hstep
    split at hstep
    · simp at hstep
    · next hfree =>
      obtain rfl := Option.some.inj hstep
      exact h.advances_around (Core.quiet_install (by simpa using hfree) rfl rfl rfl rfl)
  | append g limit r =>
    obtain rfl := Option.some.inj hstep
    exact h.advances_around (Core.quiet_append s.core g limit r)
  | sealForSync g =>
    dsimp only at hstep
    split at hstep
    · simp at hstep
    · next hfree =>
      obtain rfl := Option.some.inj hstep
      refine h.advances_around (Core.quiet_seal (Dict.get?_eq_none.2 ?_) false)
      rw [← Dict.contains_iff]
      exact hfree
  | sealOversized g limit r =>
    dsimp only at hstep
    split at hstep
    · simp at hstep
    · next hfree =>
      obtain rfl := Option.some.inj hstep
      refine h.advances_around (Core.quiet_oversized (Dict.get?_eq_none.2 ?_) limit r)
      rw [← Dict.contains_iff]
      exact hfree
  | startBatch gs trigger =>
    dsimp only at hstep
    split at hstep
    · simp at hstep
    · next hgs =>
      obtain rfl := Option.some.inj hstep
      refine h.advances_around (Core.quiet_startBatch trigger fun g hg => ?_)
      rw [Bool.not_eq_true, List.any_eq_false] at hgs
      have hone := hgs g hg
      rw [decide_eq_true_eq, not_or] at hone
      refine ⟨Dict.get?_eq_none.2 ?_, Option.isSome_iff_ne_none.2 (by simpa using hone.2)⟩
      rw [← Dict.contains_iff]
      exact hone.1
  | report batch b =>
    obtain rfl := Option.some.inj hstep
    exact h.advances_around (Core.quiet_disk (fun _ hw => hw) rfl rfl)
  | start member members trigger deps =>
    obtain rfl := Option.some.inj hstep
    refine ⟨h.start (List.cons_ne_nil member members) trigger deps, fun k outcome hk => ?_⟩
    obtain ⟨-, -, -, hfree⟩ := h.fresh
    have hresults : (Core.startMixedCloseGroup (member :: members) trigger deps
        s.core).2.barrier.results = s.core.barrier.results := by
      rcases Core.startMixedCloseGroup_spec trigger deps (List.cons_ne_nil member members)
        h.accounted h.busy hfree with ⟨e, hrefused⟩ | ⟨-, hs⟩
      · rw [hrefused]
      · exact hs.results
    exact (congrArg (·.get? k) hresults).trans hk
  | deliver m =>
    dsimp only at hstep
    split at hstep
    · next hpermits =>
      obtain rfl := Option.some.inj hstep
      have hdelivered := h.deliver slo hpermits
      exact ⟨hdelivered.lawful, hdelivered.results⟩
    · simp at hstep
  | publishPart id =>
    obtain rfl := Option.some.inj hstep
    refine ⟨h.publishPart id, fun k outcome hk => ?_⟩
    have hresults : (s.core.publishPart id).barrier.results = s.core.barrier.results := by
      unfold Core.publishPart
      split
      · split <;> rfl
      · rfl
    exact (congrArg (·.get? k) hresults).trans hk
  | endPublication id failed =>
    obtain rfl := Option.some.inj hstep
    refine ⟨h.endPublication id failed, fun k outcome hk => ?_⟩
    have hresults : (s.core.endPublication id failed).barrier.results =
        s.core.barrier.results := by
      unfold Core.endPublication
      split
      · rfl
      · split
        · rfl
        · split <;> rfl
        · rfl
        · rfl
    exact (congrArg (·.get? k) hresults).trans hk
  | settlePublication id =>
    obtain rfl := Option.some.inj hstep
    refine ⟨h.settlePublication id, fun k outcome hk => ?_⟩
    have hresults : (s.core.settlePublication id).barrier.results = s.core.barrier.results := by
      unfold Core.settlePublication
      split <;> rfl
    exact (congrArg (·.get? k) hresults).trans hk

theorem Lawful.run {events : List SessionEvent} (h : s.Lawful)
    (hrun : s.run slo events = some s') : Advances s s' := by
  induction events generalizing s with
  | nil =>
    obtain rfl := Option.some.inj hrun
    exact ⟨h, fun _ _ hk => hk⟩
  | cons event events ih =>
    obtain ⟨s₁, hstep, hrest⟩ := Option.bind_eq_some_iff.1 hrun
    have hone := h.step hstep
    have hmany := ih hone.lawful hrest
    exact ⟨hmany.lawful, fun k outcome hk => hmany.results k outcome (hone.results k outcome hk)⟩

/-! ## Safety -/

/-- All of a group is durable: every row of its parts was reported, every control record it
depends on was reported, and each of its events is in each of its targets exactly once. -/
structure GroupDurable (s : Session) (parts : List GenerationId) (deps : List ControlDependency) :
    Prop where
  parts : ∀ g ∈ parts, ∃ p, s.core.parts.part? g = some p ∧ p.accumulator.frozen = true ∧
    ∀ r ∈ p.rows, (g, r) ∈ s.reported
  control : ∀ dep ∈ deps, ∃ r, (dep.controlPart, r) ∈ s.reported ∧
    r.identity = dep.controlIdentity
  events : ∀ dep ∈ deps, ∀ g ∈ dep.targets, ∃ p, s.core.parts.part? g = some p ∧
    p.accumulator.controlEventIds.count dep.association.controlEventId = 1

theorem Lawful.groupDurable {parts : List GenerationId} {deps : List ControlDependency}
    (h : s.Lawful) (hcomplete : Core.Complete s.reported s.core parts deps) :
    s.GroupDurable parts deps where
  parts := by
    intro g hg
    obtain ⟨p, hp, hfrozen⟩ := hcomplete.frozen g hg
    exact ⟨p, hp, hfrozen, (h.accounted g p hp).frozen hfrozen⟩
  control := fun dep hdep => (hcomplete.deps dep hdep).1
  events := by
    intro dep hdep g hg
    obtain ⟨p, hp, hmem⟩ := (hcomplete.deps dep hdep).2 g hg
    exact ⟨p, hp, List.count_eq_one_of_mem (h.accounted g p hp).events hmem⟩

/-- Final barriers are all-or-nothing. -/
structure AllOrNothing (slo : Nat) (s : Session) : Prop where
  /-- `handle_message` raises for no message that may come. -/
  handles : ∀ m, s.permits m = true →
    ∃ handled, ((s.received m).handleMessage slo m).1 = .ok handled
  /-- A started group has a command or a result, and not both. -/
  started : ∀ id, (s.groups.get? id).isSome ↔
    (s.core.command id).isSome ∧ s.result id = none ∨
      s.core.command id = none ∧ (s.result id).isSome
  /-- A generation belongs to a command that is not settled. -/
  owned : ∀ g id, s.core.owner g = some id → (s.core.command id).isSome ∧ s.result id = none
  /-- Nothing of a group is published before all of it is durable. -/
  published : ∀ id g m, (id, g, m) ∈ s.published → ∃ parts deps,
    s.groups.get? id = some (parts, deps) ∧ g ∈ parts ∧ s.GroupDurable parts deps ∧
      ∃ p, s.core.parts.part? g = some p ∧ m.Describes p
  /-- The descriptors of a settled group are closed, and its result says what was published. -/
  settled : ∀ id outcome, s.result id = some outcome → ∃ parts deps,
    s.groups.get? id = some (parts, deps) ∧ (∀ g ∈ parts, (s.core.disk.file g).closed = true) ∧
      Published parts (s.publishedBy id) (some (.finished outcome))
  /-- A row that is not reported is buffered or in flight, or its part has counted a failure. -/
  rows : ∀ g p, s.core.parts.part? g = some p → ∀ r ∈ p.rows,
    (g, r) ∈ s.reported ∨ r ∈ p.pending ∨ r ∈ p.claimRows ∨ p.failures ≠ 0

theorem Lawful.allOrNothing (slo : Nat) (h : s.Lawful) : s.AllOrNothing slo where
  handles := fun m hpermits => (h.deliver slo hpermits).handled
  started := by
    intro id
    have hopen : (s.core.command id).isSome → s.result id = none := by
      intro hlive
      cases hresult : s.result id with
      | none => rfl
      | some outcome =>
        rw [((h.accounts id).settled outcome hresult).1] at hlive
        simp at hlive
    constructor
    · intro hgroup
      rcases ((h.accounts id).known hgroup).2 with hlive | hresult
      · exact .inl ⟨hlive, hopen hlive⟩
      · obtain ⟨outcome, houtcome⟩ := Option.isSome_iff_exists.1 hresult
        exact .inr ⟨((h.accounts id).settled outcome houtcome).1, hresult⟩
    · rintro (⟨hlive, -⟩ | ⟨-, hresult⟩)
      · obtain ⟨cmd, hcmd⟩ := Option.isSome_iff_exists.1 hlive
        obtain ⟨deps, hgroup, -⟩ := (h.accounts id).command cmd hcmd
        simp [hgroup]
      · obtain ⟨outcome, houtcome⟩ := Option.isSome_iff_exists.1 hresult
        obtain ⟨-, parts, deps, hgroup, -⟩ := (h.accounts id).settled outcome houtcome
        simp [hgroup]
  owned := by
    intro g id hg
    have hlive := h.owned g id hg
    refine ⟨hlive, ?_⟩
    cases hresult : s.result id with
    | none => rfl
    | some outcome =>
      rw [((h.accounts id).settled outcome hresult).1] at hlive
      simp at hlive
  published := by
    intro id g m hmem
    obtain ⟨parts, deps, hgroup, hg, hcomplete, p, hp, -, hm⟩ :=
      (h.accounts id).complete g m (mem_publishedBy.2 hmem)
    exact ⟨parts, deps, hgroup, hg, h.groupDurable hcomplete, p, hp, hm⟩
  settled := by
    intro id outcome houtcome
    obtain ⟨-, parts, deps, hgroup, hclosed, hpublished⟩ := (h.accounts id).settled outcome houtcome
    exact ⟨parts, deps, hgroup, hclosed, hpublished⟩
  rows := fun g p hp => (h.accounted g p hp).rows

/-- Final barriers are all-or-nothing in every state of every run, and a result that is set
stays. -/
theorem run_allOrNothing {slo : Nat} {configSha256 : String} {configGeneration : Nat}
    {clock : Clock} {events later : List SessionEvent} {s s' : Session}
    (hrun : (initial configSha256 configGeneration clock).run slo events = some s)
    (hlater : s.run slo later = some s') : s.AllOrNothing slo ∧
      ∀ id outcome, s.result id = some outcome → s'.result id = some outcome := by
  have hlawful := (lawful_initial configSha256 configGeneration clock).run hrun
  exact ⟨hlawful.lawful.allOrNothing slo, (hlawful.lawful.run hlater).results⟩

/-! A trade and a gap event that targets its part. The claim of the gap event is in flight when
the part of the trade is closed. -/

/-- The path of a part of trades. -/
def tradePath : PartPath := ⟨⟨some .spot, some "BTC-USDT", "trades"⟩, 0, 0⟩

/-- A trade. -/
def trade : Record := ⟨⟨tradePath.key, 1, 1, "c", 1⟩, 100, 100, 10⟩

/-- The control record of a gap. -/
def gap : Record := ⟨⟨.control, 1, 2, "c", 1⟩, 100, 100, 10⟩

/-- The gap event is to be folded into the part of the trade. -/
def gapDependency : ControlDependency :=
  ⟨1, gap.identity, ⟨"gap_detected", "gap", [⟨0, tradePath⟩], 2, 1⟩, [0]⟩

/-- The result of a file with one row that became durable after 100 ns. -/
def oneRow (g : GenerationId) : FileDurabilityResult where
  generationId := g
  wasDirty := true
  recordCount := 1
  syncCompletedMonotonicNs := some 200
  syncDurationNs := 5
  lagP50Ns := some 100000
  lagP95Ns := some 100000
  lagP99Ns := some 100000
  lagMaxNs := some 100
  fits := by decide

/-- The events up to the start of the group. -/
def gapStart : List SessionEvent :=
  [.install tradePath 100 0 "c" 1, .install ⟨.control, 0, 1⟩ 100 0 "c" 1, .append 0 1000 trade,
    .append 1 1000 gap, .sealForSync 1, .startBatch [1] .periodic,
    .start ⟨0, .shutdown, 500⟩ [] .shutdown [gapDependency]]

/-- The events that publish the group. -/
def gapClose : List SessionEvent :=
  gapStart ++ [.deliver (.completed (oneRow 1)), .deliver (.completed (oneRow 0)),
    .deliver (.batchSettled 0 none), .publishPart 0, .endPublication 0 false, .settlePublication 0]

theorem gapClose_allOrNothing : ∃ s s',
    (initial "c" 1 ⟨50, [], []⟩).run 1000 gapClose = some s ∧
      s.run 1000 (s.core.disk.queue.map .deliver) = some s' ∧ (s'.result 0).isSome ∧
      s.AllOrNothing 1000 ∧
      ∀ id outcome, s.result id = some outcome → s'.result id = some outcome := by
  have hrun : (((initial "c" 1 ⟨50, [], []⟩).run 1000 gapClose).bind fun s =>
      (s.run 1000 (s.core.disk.queue.map .deliver)).map fun s' => (s'.result 0).isSome) =
        some true := by
    decide +kernel
  obtain ⟨s, hs, hrest⟩ := Option.bind_eq_some_iff.1 hrun
  obtain ⟨s', hs', hresult⟩ := Option.map_eq_some_iff.1 hrest
  exact ⟨s, s', hs, hs', hresult, run_allOrNothing hs hs'⟩

/-! ## Progress -/

/-- An event of the tasks of a command: the settlement of one of its batches, or the end of its
publication. -/
def Settles (id : Nat) : SessionEvent → Prop
  | .deliver (.prerequisiteSettled k _ _) => k = id
  | .deliver (.batchSettled k _) => k = id
  | .deliver (.publicationSettled k _) => k = id
  | .endPublication k _ => k = id
  | .settlePublication k => k = id
  | _ => False

/-- The tasks of a command lead to its result. -/
def CanSettle (slo : Nat) (s : Session) (id : Nat) : Prop :=
  ∃ events s', (∀ event ∈ events, Settles id event) ∧ s.run slo events = some s' ∧
    (s'.result id).isSome

theorem CanSettle.of_step (event : SessionEvent) (hsettles : Settles id event)
    (hstep : s.step slo event = some s') (h : s'.CanSettle slo id) : s.CanSettle slo id := by
  obtain ⟨events, s'', hall, hrun, hresult⟩ := h
  refine ⟨event :: events, s'', fun e he => ?_, ?_, hresult⟩
  · rcases List.mem_cons.1 he with rfl | he
    · exact hsettles
    · exact hall e he
  · unfold Session.run
    rw [List.foldlM_cons, hstep]
    exact hrun

theorem canSettle_posted (slo : Nat) (h : s.Lawful) (hcmd : s.core.command id = some cmd)
    (hsettled : cmd.publication = some .settled) : s.CanSettle slo id := by
  obtain ⟨outcome, hmem⟩ := (h.accounts id).answered cmd hcmd hsettled
  have hstep : s.step slo (.deliver (.publicationSettled id outcome)) =
      some (s.deliver slo (.publicationSettled id outcome)) :=
    if_pos (by simpa [permits] using hmem)
  refine .of_step (.deliver (.publicationSettled id outcome)) rfl hstep
    ⟨[], _, by simp, rfl, ?_⟩
  rw [(h.deliver_publication slo hmem).2]
  rfl

theorem canSettle_finished {outcome : Except Err (List Manifest)} (slo : Nat) (h : s.Lawful)
    (hcmd : s.core.command id = some cmd) (hfinished : cmd.publication = some (.finished outcome)) :
    s.CanSettle slo id := by
  have hstep : s.step slo (.settlePublication id) =
      some { s with core := s.core.settlePublication id } := rfl
  have hcmd' : (s.core.settlePublication id).command id =
      some { cmd with publication := some .settled } := by
    have hget : (s.core.barrier.commands.get? id).bind (·.publication) =
        some (.finished outcome) := by
      rw [show s.core.barrier.commands.get? id = some cmd from hcmd]
      exact hfinished
    unfold Core.settlePublication
    simp only [hget]
    refine (Core.command_updateCommand s.core id _ id).trans ?_
    rw [if_pos rfl, hcmd]
    rfl
  exact .of_step (.settlePublication id) rfl hstep
    (canSettle_posted slo (h.step hstep).lawful hcmd' rfl)

/-- The publication task of a command can end. -/
theorem exists_endPublication (hcmd : s.core.command id = some cmd)
    (hopen : cmd.publication ≠ none)
    (hrunning : ∀ outcome, cmd.publication ≠ some (.finished outcome))
    (hunsettled : cmd.publication ≠ some .settled) : ∃ failed outcome,
    (s.core.endPublication id failed).command id =
      some { cmd with publication := some (.finished outcome) } := by
  have hget : s.core.barrier.commands.get? id = some cmd := hcmd
  have hfinish : ∀ (outcome : Except Err (List Manifest)) (c : Core), c.barrier = s.core.barrier →
      (c.updateCommand id fun cmd => { cmd with publication := some (.finished outcome) }).command
        id = some { cmd with publication := some (.finished outcome) } := by
    intro outcome c hc
    rw [Core.command_updateCommand, if_pos rfl]
    unfold Core.command
    rw [hc, hget]
    rfl
  cases hp : cmd.publication with
  | none => exact absurd hp hopen
  | some p =>
    cases p with
    | publishing done rest =>
      cases rest with
      | nil =>
        refine ⟨false, .ok done, ?_⟩
        unfold Core.endPublication
        simp only [hget, hp]
        exact hfinish _ _ rfl
      | cons g rest =>
        refine ⟨true, .error (.writerCritical .publicationFailed (g :: rest)
          "raw immutable publication failed"), ?_⟩
        unfold Core.endPublication
        simp only [hget, hp, if_true]
        exact hfinish _ _ rfl
    | cleaning e =>
      refine ⟨false, .error e, ?_⟩
      unfold Core.endPublication
      simp only [hget, hp]
      exact hfinish _ _ rfl
    | finished outcome => exact absurd hp (hrunning outcome)
    | settled => exact absurd hp hunsettled

theorem canSettle_ending (slo : Nat) (h : s.Lawful) (hcmd : s.core.command id = some cmd)
    (hopen : cmd.publication ≠ none) : s.CanSettle slo id := by
  by_cases hsettled : cmd.publication = some .settled
  · exact canSettle_posted slo h hcmd hsettled
  · by_cases hfinished : ∃ outcome, cmd.publication = some (.finished outcome)
    · obtain ⟨outcome, hfinished⟩ := hfinished
      exact canSettle_finished slo h hcmd hfinished
    · obtain ⟨failed, outcome, hcmd'⟩ := exists_endPublication hcmd hopen
        (fun outcome heq => hfinished ⟨outcome, heq⟩) hsettled
      have hstep : s.step slo (.endPublication id failed) =
          some { s with core := s.core.endPublication id failed } := rfl
      exact .of_step (.endPublication id failed) rfl hstep
        (canSettle_finished slo (h.step hstep).lawful hcmd' rfl)

theorem canSettle_syncing (slo : Nat) (h : s.Lawful) (hcmd : s.core.command id = some cmd)
    (htask : cmd.batchTask.isSome) (hunsettled : cmd.batchSettled = false) :
    s.CanSettle slo id := by
  obtain ⟨hdelivered, cmd', hcmd', htask', hsettled'⟩ := h.deliver_batch slo none hcmd htask
    hunsettled
  have hawaited : .batch id ∈ s.awaited := h.awaits.pending _ (Core.mem_callbacks.2
    ⟨cmd, hcmd, BarrierCommand.mem_callbacks_batch.2 ⟨rfl, htask, hunsettled⟩⟩)
  have hstep : s.step slo (.deliver (.batchSettled id none)) =
      some (s.deliver slo (.batchSettled id none)) := if_pos (by simpa [permits] using hawaited)
  refine .of_step (.deliver (.batchSettled id none)) rfl hstep
    (canSettle_ending slo hdelivered.lawful hcmd' ?_)
  obtain ⟨deps, -, -, hsound, -⟩ := (hdelivered.lawful.accounts id).command cmd' hcmd'
  rcases hsound with ⟨hwait, -⟩ | ⟨-, hfalse⟩ | hend
  · simp [hwait.task] at htask'
  · simp [hsettled'] at hfalse
  · exact Option.isSome_iff_ne_none.1 hend.publication_isSome

/-- A command waits for fewer prerequisite batches after each of their settlements. -/
theorem canSettle_command (slo : Nat) (h : s.Lawful) (hcmd : s.core.command id = some cmd) :
    s.CanSettle slo id := by
  induction hn : cmd.prerequisiteBatches.entries.length using Nat.strong_induction_on
    generalizing s cmd with
  | _ n ih =>
    obtain ⟨deps, -, -, hsound, -⟩ := (h.accounts id).command cmd hcmd
    rcases hsound with ⟨-, hlisted, hne⟩ | ⟨hsync, hunsettled⟩ | hend
    · obtain ⟨g, hg⟩ := List.exists_mem_of_ne_nil _ hne
      obtain ⟨batch, gs, hbatch, -⟩ := hlisted.exists_batch g hg
      have hkey := Dict.mem_keys_of_get? hbatch
      obtain ⟨hdelivered, cmd', hcmd', hbatches⟩ := h.deliver_prerequisite slo none hcmd hkey
      have hawaited : .prerequisite id batch ∈ s.awaited := h.awaits.pending _
        (Core.mem_callbacks.2 ⟨cmd, hcmd, BarrierCommand.mem_callbacks_prerequisite.2 ⟨rfl, hkey⟩⟩)
      have hstep : s.step slo (.deliver (.prerequisiteSettled id batch none)) =
          some (s.deliver slo (.prerequisiteSettled id batch none)) :=
        if_pos (by simpa [permits] using hawaited)
      refine .of_step (.deliver (.prerequisiteSettled id batch none)) rfl hstep
        (ih cmd'.prerequisiteBatches.entries.length ?_ hdelivered.lawful hcmd' rfl)
      have hlength := Dict.length_erase cmd.prerequisiteBatches hbatch
      rw [hbatches]
      omega
    · obtain ⟨batch, htask, -⟩ := hsync.task
      exact canSettle_syncing slo h hcmd (by rw [htask]; rfl) hunsettled
    · exact canSettle_ending slo h hcmd (Option.isSome_iff_ne_none.1 hend.publication_isSome)

/-- No close hangs: in every state of every run the tasks of a started group can still lead to
its result. -/
theorem run_canSettle {slo : Nat} {configSha256 : String} {configGeneration : Nat}
    {clock : Clock} {events : List SessionEvent} {s : Session} {id : Nat}
    (hrun : (initial configSha256 configGeneration clock).run slo events = some s)
    (hstarted : (s.groups.get? id).isSome) : s.CanSettle slo id := by
  have hlawful := ((lawful_initial configSha256 configGeneration clock).run hrun).lawful
  rcases ((hlawful.accounts id).known hstarted).2 with hlive | hresult
  · obtain ⟨cmd, hcmd⟩ := Option.isSome_iff_exists.1 hlive
    exact canSettle_command slo hlawful hcmd
  · exact ⟨[], s, by simp, rfl, hresult⟩

theorem gapStart_canSettle : ∃ s, (initial "c" 1 ⟨50, [], []⟩).run 1000 gapStart = some s ∧
    s.result 0 = none ∧ s.CanSettle 1000 0 := by
  have hrun : ((initial "c" 1 ⟨50, [], []⟩).run 1000 gapStart).map (fun s =>
      ((s.groups.get? 0).isSome, s.result 0)) = some (true, none) := by
    decide +kernel
  obtain ⟨s, hs, hfacts⟩ := Option.map_eq_some_iff.1 hrun
  obtain ⟨hgroup, hresult⟩ := Prod.mk.inj hfacts
  exact ⟨s, hs, hresult, run_canSettle hs hgroup⟩

end Session

end CryptoCollector.Storage
