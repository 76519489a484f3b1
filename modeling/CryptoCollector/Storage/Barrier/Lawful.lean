import CryptoCollector.Storage.Barrier.Start

/-!
# Lawful sessions

What holds of a session between two events: every command that is not settled is sound, it owns
what it waits for, and the publications, the queue and the awaited callbacks belong to commands.
Most events leave most commands alone (`Untouched`), so a step is checked for one command at a
time.
-/

namespace CryptoCollector.Storage

open Lib

/-! ## Callbacks -/

/-- The command whose task a callback belongs to. -/
def Callback.command : Callback → Nat
  | .prerequisite id _ => id
  | .batch id => id

theorem BarrierCommand.mem_callbacks_prerequisite {cmd : BarrierCommand} {id k batch : Nat} :
    .prerequisite k batch ∈ cmd.callbacks id ↔ k = id ∧ batch ∈ cmd.prerequisiteBatches.keys := by
  unfold callbacks
  rw [List.mem_append, List.mem_map]
  constructor
  · rintro (⟨b, hb, heq⟩ | h)
    · simp only [Callback.prerequisite.injEq] at heq
      exact ⟨heq.1.symm, heq.2 ▸ hb⟩
    · split at h <;> simp at h
  · rintro ⟨rfl, hb⟩
    exact .inl ⟨batch, hb, rfl⟩

theorem BarrierCommand.mem_callbacks_batch {cmd : BarrierCommand} {id k : Nat} :
    .batch k ∈ cmd.callbacks id ↔ k = id ∧ cmd.batchTask.isSome ∧ cmd.batchSettled = false := by
  unfold callbacks
  rw [List.mem_append, List.mem_map]
  constructor
  · rintro (⟨b, hb, heq⟩ | h)
    · simp at heq
    · split at h
      · next hopen => exact ⟨by simpa using h, by simpa using hopen⟩
      · simp at h
  · rintro ⟨rfl, htask, hsettled⟩
    exact .inr (by simp [htask, hsettled])

namespace Core

variable {c c' : Core} {id k : Nat} {cb : Callback}

theorem mem_callbacks : cb ∈ c.callbacks ↔
    ∃ cmd, c.command cb.command = some cmd ∧ cb ∈ cmd.callbacks cb.command := by
  have hid : ∀ id (cmd : BarrierCommand), cb ∈ cmd.callbacks id → cb.command = id := by
    intro id cmd h
    cases cb with
    | prerequisite k batch => exact (BarrierCommand.mem_callbacks_prerequisite.1 h).1
    | batch k => exact (BarrierCommand.mem_callbacks_batch.1 h).1
  unfold callbacks
  rw [List.mem_flatMap]
  constructor
  · rintro ⟨⟨id, cmd⟩, he, hmem⟩
    obtain rfl := hid id cmd hmem
    exact ⟨cmd, Dict.get?_eq_some.2 he, hmem⟩
  · rintro ⟨cmd, hcmd, hmem⟩
    exact ⟨(cb.command, cmd), Dict.get?_eq_some.1 hcmd, hmem⟩

theorem mem_callbacks_congr (h : c'.command cb.command = c.command cb.command) :
    cb ∈ c'.callbacks ↔ cb ∈ c.callbacks := by
  rw [mem_callbacks, mem_callbacks, h]

/-- A callback of a prerequisite batch whose command has been settled without it. -/
def Orphan (c : Core) : Callback → Prop
  | .prerequisite id _ => id < c.barrier.nextCommand ∧ c.command id = none
  | .batch _ => False

/-- The callbacks that have not run are those that the commands wait for, and orphans. -/
structure Awaits (c : Core) (awaited : List Callback) : Prop where
  pending : ∀ cb ∈ c.callbacks, cb ∈ awaited
  live : ∀ cb ∈ awaited, cb ∈ c.callbacks ∨ c.Orphan cb

theorem Orphan.later (h : c.Orphan cb) (hnext : c.barrier.nextCommand ≤ c'.barrier.nextCommand)
    (hdead : ∀ k, k < c.barrier.nextCommand → c.command k = none → c'.command k = none) :
    c'.Orphan cb := by
  cases cb with
  | prerequisite id batch => exact ⟨h.1.trans_le hnext, hdead id h.1 h.2⟩
  | batch id => exact h.elim

theorem Awaits.congr {awaited : List Callback} (h : c.Awaits awaited)
    (hcallbacks : ∀ cb, cb ∈ c'.callbacks ↔ cb ∈ c.callbacks)
    (hdead : ∀ k, c.command k = none → c'.command k = none)
    (hnext : c'.barrier.nextCommand = c.barrier.nextCommand) : c'.Awaits awaited where
  pending := fun cb hcb => h.pending cb ((hcallbacks cb).1 hcb)
  live := fun cb hcb => (h.live cb hcb).imp (hcallbacks cb).2
    fun horphan => horphan.later hnext.ge fun k _ => hdead k

/-- A callback runs and new tasks are created. -/
theorem Awaits.observe {awaited : List Callback} (h : c.Awaits awaited) (done : Option Callback)
    (hkeep : ∀ cb ∈ c.callbacks, done ≠ some cb → cb ∈ c'.callbacks ∨ c'.Orphan cb)
    (horphan : ∀ cb, c.Orphan cb → c'.Orphan cb)
    (hgone : ∀ cb, done = some cb → cb ∉ c'.callbacks) :
    c'.Awaits ((awaited ++ c'.callbacks.filter (· ∉ c.callbacks)).filter fun cb =>
      done ≠ some cb) where
  pending := by
    intro cb hcb
    refine List.mem_filter.2 ⟨List.mem_append.2 ?_, ?_⟩
    · by_cases hold : cb ∈ c.callbacks
      · exact .inl (h.pending cb hold)
      · exact .inr (List.mem_filter.2 ⟨hcb, by simpa using hold⟩)
    · have hne : done ≠ some cb := fun hd => hgone cb hd hcb
      simpa using hne
  live := by
    intro cb hcb
    obtain ⟨hmem, hne⟩ := List.mem_filter.1 hcb
    have hne : done ≠ some cb := by simpa using hne
    rcases List.mem_append.1 hmem with hmem | hmem
    · rcases h.live cb hmem with hold | hold
      · exact hkeep cb hold hne
      · exact .inr (horphan cb hold)
    · exact .inl (List.mem_filter.1 hmem).1

end Core

/-! ## Publications -/

/-- A manifest describes the part it was built from. -/
structure Manifest.Describes (m : Manifest) (p : Part) : Prop where
  path : m.path = p.path
  events : m.controlEventIds = p.accumulator.controlEventIds

/-- What a command has published of its parts, by the state of its publication. -/
def Published (parts : List GenerationId) (published : List (GenerationId × Manifest)) :
    Option Publication → Prop
  | none => published = []
  | some (.publishing done rest) =>
    published.map (·.1) ++ rest = parts ∧ published.map (·.2) = done
  | some (.cleaning _) => published = []
  | some (.finished (.ok manifests)) =>
    published.map (·.1) = parts ∧ published.map (·.2) = manifests
  | some (.finished (.error _)) => published.map (·.1) <+: parts
  | some .settled => True

theorem published_opens {parts : List GenerationId} {publication : Option Publication}
    (h : Core.Opens parts publication) : Published parts [] publication := by
  cases publication with
  | none => exact h.elim
  | some p =>
    cases p with
    | publishing done rest =>
      obtain ⟨rfl, rfl⟩ := h
      exact ⟨rfl, rfl⟩
    | cleaning e => rfl
    | finished o => exact h.elim
    | settled => exact h.elim

namespace Session

/-- The parts that a command has published and their manifests. -/
def publishedBy (s : Session) (id : Nat) : List (GenerationId × Manifest) :=
  (s.published.filter (·.1 = id)).map (·.2)

theorem mem_publishedBy {s : Session} {id : Nat} {g : GenerationId} {m : Manifest} :
    (g, m) ∈ s.publishedBy id ↔ (id, g, m) ∈ s.published := by
  unfold publishedBy
  simp only [List.mem_map, List.mem_filter, decide_eq_true_eq, Prod.exists]
  constructor
  · rintro ⟨k, a, n, ⟨hmem, rfl⟩, heq⟩
    obtain ⟨rfl, rfl⟩ := Prod.mk.inj heq
    exact hmem
  · exact fun h => ⟨id, g, m, ⟨h, rfl⟩, rfl⟩

/-- The result that a command was settled with. -/
def result (s : Session) (id : Nat) : Option (Except Err (List Manifest)) :=
  s.core.barrier.results.get? id

/-- The facts of one command. -/
structure Account (s : Session) (id : Nat) : Prop where
  command : ∀ cmd, s.core.command id = some cmd → ∃ deps,
    s.groups.get? id = some (cmd.parts, deps) ∧ Core.Shaped cmd deps ∧
      Core.Sound s.reported deps s.core id cmd ∧
      Published cmd.parts (s.publishedBy id) cmd.publication
  known : (s.groups.get? id).isSome → id < s.core.barrier.nextCommand ∧
    ((s.core.command id).isSome ∨ (s.result id).isSome)
  settled : ∀ outcome, s.result id = some outcome → s.core.command id = none ∧
    ∃ parts deps, s.groups.get? id = some (parts, deps) ∧ s.core.Closed parts ∧
      Published parts (s.publishedBy id) (some (.finished outcome))
  complete : ∀ g m, (g, m) ∈ s.publishedBy id → ∃ parts deps,
    s.groups.get? id = some (parts, deps) ∧ g ∈ parts ∧
      Core.Complete s.reported s.core parts deps ∧
      ∃ p, s.core.parts.part? g = some p ∧ p.accumulator.frozen = true ∧ m.Describes p
  posted : ∀ outcome, .publicationSettled id outcome ∈ s.core.disk.queue →
    ∃ cmd, s.core.command id = some cmd ∧ cmd.publication = some .settled ∧
      Published cmd.parts (s.publishedBy id) (some (.finished outcome))
  once : ∀ outcome outcome', .publicationSettled id outcome ∈ s.core.disk.queue →
    .publicationSettled id outcome' ∈ s.core.disk.queue → outcome = outcome'
  answered : ∀ cmd, s.core.command id = some cmd → cmd.publication = some .settled →
    ∃ outcome, .publicationSettled id outcome ∈ s.core.disk.queue

/-- What holds of a session between two events. -/
structure Lawful (s : Session) : Prop where
  accounted : s.core.Accounted s.reported
  busy : s.core.Busy
  accounts : ∀ id, s.Account id
  owned : ∀ g id, s.core.owner g = some id → (s.core.command id).isSome
  queue : ∀ m ∈ s.core.disk.queue, ∃ id outcome, m = .publicationSettled id outcome
  awaits : s.core.Awaits s.awaited

/-- A step leaves command `k` alone. -/
structure Untouched (k : Nat) (s s' : Session) : Prop where
  later : s.core.Later s'.core
  reported : ∀ x ∈ s.reported, x ∈ s'.reported
  spares : Core.Spares k s.core s'.core
  work : Core.NewWorkElsewhere k s.core s'.core
  groups : s'.groups.get? k = s.groups.get? k
  result : s'.result k = s.result k
  next : s.core.barrier.nextCommand ≤ s'.core.barrier.nextCommand
  published : s'.publishedBy k = s.publishedBy k
  queue : ∀ outcome, .publicationSettled k outcome ∈ s'.core.disk.queue ↔
    .publicationSettled k outcome ∈ s.core.disk.queue

section Untouched

variable {s s' : Session} {id k : Nat}

/-- A complete publication stays complete. -/
theorem complete_later {g : GenerationId} {m : Manifest} {parts : List GenerationId}
    {deps : List ControlDependency} (hl : s.core.Later s'.core)
    (hsub : ∀ x ∈ s.reported, x ∈ s'.reported)
    (h : Core.Complete s.reported s.core parts deps ∧
      ∃ p, s.core.parts.part? g = some p ∧ p.accumulator.frozen = true ∧ m.Describes p) :
    Core.Complete s'.reported s'.core parts deps ∧
      ∃ p, s'.core.parts.part? g = some p ∧ p.accumulator.frozen = true ∧ m.Describes p := by
  obtain ⟨hcomplete, p, hp, hfrozen, hm⟩ := h
  obtain ⟨q, hq, hpq⟩ := hl.parts g p hp
  obtain ⟨hq', -, hevents⟩ := hpq.frozen hfrozen
  exact ⟨hcomplete.later hsub hl, q, hq, hq', hm.path.trans hpq.path.symm,
    hm.events.trans hevents.symm⟩

theorem Account.untouched (h : s.Account k) (hu : Untouched k s s') : s'.Account k where
  command := by
    intro cmd hcmd
    rw [hu.spares.command] at hcmd
    obtain ⟨deps, hgroup, hshape, hsound, hpublished⟩ := h.command cmd hcmd
    exact ⟨deps, hu.groups.trans hgroup, hshape,
      hsound.spared hu.reported hu.spares hu.later hu.work, by rw [hu.published]; exact hpublished⟩
  known := by
    rw [hu.groups, hu.result, hu.spares.command]
    exact fun hgroup => ⟨(h.known hgroup).1.trans_le hu.next, (h.known hgroup).2⟩
  settled := by
    intro outcome houtcome
    rw [hu.result] at houtcome
    obtain ⟨hnone, parts, deps, hgroup, hclosed, hpublished⟩ := h.settled outcome houtcome
    exact ⟨hu.spares.command.trans hnone, parts, deps, hu.groups.trans hgroup,
      hclosed.later hu.later, by rw [hu.published]; exact hpublished⟩
  complete := by
    intro g m hmem
    rw [hu.published] at hmem
    obtain ⟨parts, deps, hgroup, hg, hcomplete⟩ := h.complete g m hmem
    exact ⟨parts, deps, hu.groups.trans hgroup, hg, complete_later hu.later hu.reported hcomplete⟩
  posted := by
    intro outcome hmem
    rw [hu.spares.command, hu.published]
    exact h.posted outcome ((hu.queue outcome).1 hmem)
  once := fun o o' ho ho' => h.once o o' ((hu.queue o).1 ho) ((hu.queue o').1 ho')
  answered := by
    intro cmd hcmd hsettled
    rw [hu.spares.command] at hcmd
    obtain ⟨outcome, hmem⟩ := h.answered cmd hcmd hsettled
    exact ⟨outcome, (hu.queue outcome).2 hmem⟩

end Untouched

end Session

end CryptoCollector.Storage
