import CryptoCollector.Storage.Barrier.Steps

/-!
# Starts and deliveries

Starting a group and delivering a message lead from a lawful session to a lawful session, and
`handle_message` does not raise.
-/

namespace CryptoCollector.Storage

open Lib

namespace Session

variable {s s' : Session} {id k : Nat} {cmd cmd' : BarrierCommand}
  {deps : List ControlDependency} {m : Message} {g : GenerationId}

/-! ## Starting a group -/

theorem observe_self (s : Session) : s.observe s.core = s := by
  unfold observe
  have hnil : s.core.callbacks.filter (· ∉ s.core.callbacks) = [] := by
    simp [List.filter_eq_nil_iff]
  rw [hnil, List.append_nil]

/-- A started group has a lawful command. -/
theorem Lawful.starts {parts : List GenerationId} (h : s.Lawful)
    (hs : Core.Starts s.reported deps s.core.barrier.nextCommand parts s.core s'.core)
    (hreported : s'.reported = s.reported) (hpublished : s'.published = s.published)
    (hgroups : s'.groups = s.groups.set s.core.barrier.nextCommand (parts, deps))
    (hawaited : s'.awaited = (s.observe s'.core).awaited) : s'.Lawful := by
  obtain ⟨hgroup, hdead, hby, hfree⟩ := h.fresh
  obtain ⟨cmd, hcmd, hparts, hunpublished, hshape, hsound⟩ := hs.command
  have hold := h.accounts s.core.barrier.nextCommand
  have hnext := hs.next
  generalize hid : s.core.barrier.nextCommand = id at *
  have hpublishedBy : ∀ k, s'.publishedBy k = s.publishedBy k := by
    intro k
    unfold publishedBy
    rw [hpublished]
  have hresult : ∀ k, s'.result k = s.result k := by
    intro k
    unfold result
    rw [hs.results]
  have hnew : s'.groups.get? id = some (parts, deps) := by rw [hgroups, Dict.get?_set_self]
  have hposted : ∀ outcome, .publicationSettled id outcome ∉ s'.core.disk.queue := by
    intro outcome hmem
    rw [hs.queue] at hmem
    obtain ⟨cmd₁, hcmd₁, -⟩ := hold.posted outcome hmem
    simp [hdead] at hcmd₁
  have hself : s'.Account id := {
    command := by
      intro cmd₁ hcmd₁
      obtain rfl := Option.some.inj (hcmd.symm.trans hcmd₁)
      refine ⟨deps, by rw [hnew, hparts], hshape, by rw [hreported]; exact hsound, ?_⟩
      rw [hunpublished, hpublishedBy, hby]
      rfl
    known := fun _ => ⟨by rw [hnext]; exact Nat.lt_succ_self id, .inl (by rw [hcmd]; rfl)⟩
    settled := by
      intro outcome houtcome
      rw [hresult] at houtcome
      obtain ⟨-, parts', deps', hsome, -⟩ := hold.settled outcome houtcome
      simp [hgroup] at hsome
    complete := by
      intro g m hmem
      rw [hpublishedBy, hby] at hmem
      simp at hmem
    posted := fun outcome hmem => absurd hmem (hposted outcome)
    once := fun outcome _ hmem => absurd hmem (hposted outcome)
    answered := by
      intro cmd₁ hcmd₁ hsettled
      obtain rfl := Option.some.inj (hcmd.symm.trans hcmd₁)
      simp [hunpublished] at hsettled }
  exact {
    accounted := by rw [hreported]; exact hs.accounted
    busy := hs.busy
    accounts := by
      intro k
      by_cases hk : k = id
      · exact hk ▸ hself
      · exact (h.accounts k).untouched {
          later := hs.later
          reported := by rw [hreported]; exact fun _ hx => hx
          spares := hs.spares k hk
          work := hs.work k hk
          groups := by rw [hgroups, Dict.get?_set_ne _ _ hk]
          result := hresult k
          next := by rw [hnext, hid]; exact Nat.le_succ id
          published := hpublishedBy k
          queue := fun outcome => by rw [hs.queue] }
    owned := by
      intro g k hg
      by_cases hk : k = id
      · rw [hk, hcmd]
        rfl
      · rw [(hs.spares k hk).command]
        exact h.owned g k ((hs.owner g k hg).resolve_left hk)
    queue := by rw [hs.queue]; exact h.queue
    awaits := by
      have hawaits : s'.core.Awaits _ := h.awaits.observe none (fun cb hcb _ => .inl ?_)
        (fun cb horphan => ?_) (fun cb hcb => by simp at hcb)
      · rw [hawaited]
        simpa [observe] using hawaits
      · refine (Core.mem_callbacks_congr ?_).2 hcb
        obtain ⟨cmd₁, hcmd₁, -⟩ := Core.mem_callbacks.1 hcb
        refine (hs.spares _ fun hk => ?_).command
        rw [hk, hdead] at hcmd₁
        simp at hcmd₁
      · refine horphan.later (by rw [hnext, hid]; exact Nat.le_succ id) fun k hk hnone => ?_
        exact (hs.spares k (hid ▸ hk.ne)).command.trans hnone }

theorem Lawful.start {members : List CloseMember} (h : s.Lawful) (hne : members ≠ [])
    (trigger : DurabilityTrigger) (deps : List ControlDependency) :
    (s.start members trigger deps).Lawful := by
  obtain ⟨-, hdead, -, hfree⟩ := h.fresh
  rcases Core.startMixedCloseGroup_spec trigger deps hne h.accounted h.busy hfree with
    ⟨e, hrefused⟩ | ⟨-, hs⟩
  · have hnot : s.core.barrier.commands.contains s.core.barrier.nextCommand = false := by
      rw [← Bool.not_eq_true, Dict.contains_iff, ← Dict.get?_eq_none]
      exact hdead
    unfold Session.start
    simp only [hrefused, hnot, Bool.false_eq_true, if_false, observe_self]
    exact h
  · obtain ⟨cmd, hcmd, -⟩ := hs.command
    exact h.starts hs rfl rfl (if_pos (Dict.contains_iff.2 (Dict.mem_keys_of_get? hcmd))) rfl

/-! ## Deliveries -/

/-- The session after a message was handled with the state `core` as its outcome. -/
def delivered (s : Session) (m : Message) (core : Core) : Session :=
  { s with
    core
    awaited := (s.awaited ++ core.callbacks.filter (· ∉ s.core.callbacks)).filter fun callback =>
      callbackOf m ≠ some callback
    reported := s.reported ++ s.reports m }

theorem deliver_own {slo : Nat} {core : Core}
    (h : (s.received m).handleMessage slo m = (.ok false, core)) :
    s.deliver slo m = s.delivered m (core.settleOwn slo m) := by
  unfold deliver
  rw [h]
  rfl

theorem deliver_handled {slo : Nat} (h : ((s.received m).handleMessage slo m).1 = .ok true) :
    s.deliver slo m = s.delivered m ((s.received m).handleMessage slo m).2 := by
  unfold deliver
  generalize (s.received m).handleMessage slo m = r at h ⊢
  obtain ⟨r, core⟩ := r
  obtain rfl : r = .ok true := h
  rfl

/-- A message is handled without an error, and no settled result changes. -/
structure Delivered (slo : Nat) (s : Session) (m : Message) : Prop where
  handled : ∃ handled, ((s.received m).handleMessage slo m).1 = .ok handled
  lawful : (s.deliver slo m).Lawful
  results : ∀ k outcome, s.result k = some outcome → (s.deliver slo m).result k = some outcome

theorem result_delivered {reported : List (GenerationId × Record)} {c c' : Core}
    (hq : Core.Quiet reported s.core c) (hresults : c'.barrier.results = c.barrier.results)
    (k : Nat) : (s.delivered m c').result k = s.result k := by
  unfold result
  rw [show (s.delivered m c').core.barrier.results = c'.barrier.results from rfl, hresults,
    hq.barrier]

/-- The file of a message, if it is about one. -/
theorem isFileMessage_cases (m : Message) : (∃ g, Core.IsFileMessage g m) ∨
    (∃ id batch e, m = .prerequisiteSettled id batch e) ∨ (∃ id e, m = .batchSettled id e) ∨
      ∃ id outcome, m = .publicationSettled id outcome := by
  cases m with
  | completed result => exact .inl ⟨_, rfl⟩
  | failed g e => exact .inl ⟨g, rfl⟩
  | prerequisiteSettled id batch e => exact .inr (.inl ⟨id, batch, e, rfl⟩)
  | batchSettled id e => exact .inr (.inr (.inl ⟨id, e, rfl⟩))
  | publicationSettled id outcome => exact .inr (.inr (.inr ⟨id, outcome, rfl⟩))

/-- The callbacks after something was handled for a command. -/
theorem Lawful.awaits_handled {reported : List (GenerationId × Record)} {c c' : Core}
    (h : s.Lawful) (hq : Core.Quiet reported s.core c) (hserves : Core.Serves reported id c c')
    (hcmd : s.core.command id = some cmd) (hcmd' : c'.command id = some cmd')
    (hkeep : ∀ cb ∈ cmd.callbacks id, callbackOf m ≠ some cb → cb ∈ cmd'.callbacks id)
    (hgone : ∀ cb, callbackOf m = some cb → cb.command = id ∧ cb ∉ cmd'.callbacks id) :
    (s.delivered m c').core.Awaits (s.delivered m c').awaited := by
  have hcommand : ∀ k, k ≠ id → c'.command k = s.core.command k := fun k hk =>
    (hserves.spares k hk).command.trans (hq.command k)
  refine h.awaits.observe (callbackOf m) (fun cb hcb hne => .inl ?_) (fun cb horphan => ?_)
    (fun cb hcb hmem => ?_)
  · by_cases hid : cb.command = id
    · obtain ⟨cmd₁, hcmd₁, hmem⟩ := Core.mem_callbacks.1 hcb
      rw [hid] at hcmd₁ hmem
      obtain rfl := Option.some.inj (hcmd.symm.trans hcmd₁)
      exact Core.mem_callbacks.2 ⟨cmd', by rw [hid]; exact hcmd', hid ▸ hkeep cb hmem hne⟩
    · exact (Core.mem_callbacks_congr (hcommand _ hid)).2 hcb
  · refine horphan.later (le_of_eq ?_) fun k _ hnone => ?_
    · change _ = c'.barrier.nextCommand
      rw [hserves.next, hq.barrier]
    · refine (hcommand k ?_).trans hnone
      rintro rfl
      simp [hcmd] at hnone
  · obtain ⟨hid, hnot⟩ := hgone cb hcb
    obtain ⟨cmd₁, hcmd₁, hmem⟩ := Core.mem_callbacks.1 hmem
    rw [hid] at hcmd₁ hmem
    obtain rfl := Option.some.inj (hcmd'.symm.trans hcmd₁)
    exact hnot hmem

theorem callbacks_continues (hnext : Core.Continues cmd cmd') {cb : Callback}
    (hcb : cb ∈ cmd.callbacks id) : cb ∈ cmd'.callbacks id := by
  cases cb with
  | prerequisite k batch =>
    obtain ⟨rfl, hmem⟩ := BarrierCommand.mem_callbacks_prerequisite.1 hcb
    exact BarrierCommand.mem_callbacks_prerequisite.2 ⟨rfl, by rw [hnext.batches]; exact hmem⟩
  | batch k =>
    obtain ⟨rfl, htask, hsettled⟩ := BarrierCommand.mem_callbacks_batch.1 hcb
    obtain ⟨htask', hsettled'⟩ := hnext.task htask
    exact BarrierCommand.mem_callbacks_batch.2
      ⟨rfl, by rw [htask']; exact htask, hsettled'.trans hsettled⟩

section File

variable {slo : Nat}

theorem received_file (hm : Core.IsFileMessage g m) : s.received m = s.core.dropWork g := by
  cases m with
  | completed result =>
    obtain rfl : result.generationId = g := hm
    rfl
  | failed a e =>
    obtain rfl : a = g := hm
    rfl
  | prerequisiteSettled => exact hm.elim
  | batchSettled => exact hm.elim
  | publicationSettled => exact hm.elim

theorem handleMessage_file (slo : Nat) (hm : Core.IsFileMessage g m) (c : Core) :
    c.handleMessage slo m = c.handleFileMessage slo g m := by
  cases m with
  | completed result =>
    obtain rfl : result.generationId = g := hm
    rfl
  | failed a e =>
    obtain rfl : a = g := hm
    rfl
  | prerequisiteSettled => exact hm.elim
  | batchSettled => exact hm.elim
  | publicationSettled => exact hm.elim

theorem callbackOf_file (hm : Core.IsFileMessage g m) : callbackOf m = none := by
  cases m with
  | completed result => rfl
  | failed a e => rfl
  | prerequisiteSettled => exact hm.elim
  | batchSettled => exact hm.elim
  | publicationSettled => exact hm.elim

theorem exists_work_of_permits (hm : Core.IsFileMessage g m) (h : s.permits m = true) :
    ∃ w ∈ s.core.disk.works, w.generationId = g := by
  cases m with
  | completed result =>
    obtain rfl : result.generationId = g := hm
    simpa [permits] using h
  | failed a e =>
    obtain rfl : a = g := hm
    simpa [permits] using h
  | prerequisiteSettled => exact hm.elim
  | batchSettled => exact hm.elim
  | publicationSettled => exact hm.elim

/-- A completion reports the rows of the claim in flight. -/
theorem reports_file (hm : Core.IsFileMessage g m) :
    Core.Reports (s.reported ++ s.reports m) (s.core.dropWork g) g m := by
  cases m with
  | completed result =>
    obtain rfl : result.generationId = g := hm
    intro r hr
    exact List.mem_append_right _ (List.mem_map.2 ⟨r, hr, rfl⟩)
  | failed a e => trivial
  | prerequisiteSettled => exact hm.elim
  | batchSettled => exact hm.elim
  | publicationSettled => exact hm.elim

/-- The outcome of a file is delivered. -/
theorem Lawful.deliver_file (h : s.Lawful) (hm : Core.IsFileMessage g m)
    (hpermits : s.permits m = true) : Delivered slo s m := by
  obtain ⟨w, hw, hwg⟩ := exists_work_of_permits hm hpermits
  obtain ⟨p, hp, hclaimed, -⟩ := h.busy w hw
  rw [hwg] at hp
  have hclaim : (s.core.claimOf g).isSome := by
    unfold Core.claimOf
    rw [hp]
    exact hclaimed
  have hdrop : ∀ reported, Core.Quiet reported s.core (s.core.dropWork g) := fun reported =>
    Core.quiet_disk (fun w hw => (List.mem_filter.1 hw).1) rfl rfl
  have hworks : ∀ w ∈ (s.core.dropWork g).disk.works, w.generationId ≠ g := by
    intro w hw
    simpa using (List.mem_filter.1 hw).2
  have hreports := reports_file (s := s) hm
  have hsub : ∀ x ∈ s.reported, x ∈ s.reported ++ s.reports m :=
    fun x hx => List.mem_append_left _ hx
  have hreceived := received_file (s := s) hm
  have hhandle := handleMessage_file slo hm (s.core.dropWork g)
  have hcallback := callbackOf_file hm
  cases howner : s.core.owner g with
  | none =>
    have hfile : (s.core.dropWork g).handleFileMessage slo g m =
        (.ok false, s.core.dropWork g) := by
      have hindex : (s.core.dropWork g).barrier.commandByGeneration.get? g = none := howner
      unfold Core.handleFileMessage
      simp only [hindex]
    have hdeliver := deliver_own (s := s) (m := m) (by rw [hreceived, hhandle, hfile])
    have hq := (hdrop (s.reported ++ s.reports m)).trans
      (Core.quiet_settleOwn slo hm hreports howner hworks)
    refine ⟨⟨false, by rw [hreceived, hhandle, hfile]⟩, ?_, fun k outcome hk => ?_⟩
    · rw [hdeliver]
      exact h.quiet hq hsub rfl rfl (h.awaits.observe (callbackOf m)
        (fun cb hcb _ => .inl ((Core.mem_callbacks_congr (hq.command _)).2 hcb))
        (fun cb hcb => hcb.later hq.nextCommand.ge fun k _ => (hq.command k).trans)
        (fun cb hcb => by simp [hcallback] at hcb))
    · rw [hdeliver, result_delivered hq rfl]
      exact hk
  | some id =>
    obtain ⟨cmd, hcmd⟩ := Option.isSome_iff_exists.1 (h.owned g id howner)
    obtain ⟨deps, hgroup, hshape, hsound, hpublished⟩ := (h.accounts id).command cmd hcmd
    have hq := hdrop (s.reported ++ s.reports m)
    have hacc : (s.core.dropWork g).Accounted (s.reported ++ s.reports m) :=
      hq.accounted fun a q hq => (h.accounted a q hq).mono hsub
    obtain ⟨hok, hhandled⟩ := Core.handleFileMessage_spec slo hm hreports hcmd hshape
      (hsound.spared hsub (hq.spares id) hq.later (hq.work id)) howner
      hclaim hacc (hq.busy h.busy) hworks
    have hdeliver := deliver_handled (s := s) (m := m) (by rw [hreceived, hhandle]; exact hok)
    rw [hreceived, hhandle] at hdeliver
    refine ⟨⟨true, by rw [hreceived, hhandle]; exact hok⟩, ?_, fun k outcome hk => by
      rw [hdeliver, result_delivered hq hhandled.serves.results]
      exact hk⟩
    rw [hdeliver]
    obtain ⟨cmd', hcmd', hnext, -⟩ := hhandled.command
    exact h.handled hq hcmd hgroup hshape hpublished hhandled rfl rfl rfl hsub rfl rfl
      (h.awaits_handled hq hhandled.serves hcmd hcmd'
        (fun cb hcb _ => callbacks_continues hnext hcb) fun cb hcb => by simp [hcallback] at hcb)

end File

theorem quiet_dropBatch (reported : List (GenerationId × Record)) (batch : Nat) (c : Core) :
    Core.Quiet reported c (c.dropBatch batch) :=
  Core.quiet_disk (fun _ hw => (List.mem_filter.1 hw).1) rfl rfl

theorem works_dropBatch (batch : Nat) (c : Core) :
    ∀ w ∈ (c.dropBatch batch).disk.works, w.batch ≠ batch := by
  intro w hw
  simpa using (List.mem_filter.1 hw).2

/-- A settlement of a prerequisite batch whose command is settled already. -/
theorem Lawful.deliver_orphan {slo batch : Nat} {e : Option Err} (h : s.Lawful)
    (hdead : s.core.command id = none) : Delivered slo s (.prerequisiteSettled id batch e) := by
  have hq := quiet_dropBatch (s.reported ++ []) batch s.core
  have hhandle : (s.received (.prerequisiteSettled id batch e)).handleMessage slo
      (.prerequisiteSettled id batch e) = (.ok true, s.core.dropBatch batch) := by
    have hget : (s.core.dropBatch batch).barrier.commands.get? id = none := hdead
    change (s.core.dropBatch batch).handleMessage slo _ = _
    unfold Core.handleMessage
    simp only [hget]
  have hdeliver := deliver_handled (congrArg Prod.fst hhandle)
  rw [hhandle] at hdeliver
  refine ⟨⟨true, by rw [hhandle]⟩, ?_, fun k outcome hk => ?_⟩
  · rw [hdeliver]
    refine h.quiet hq (fun x hx => List.mem_append_left _ hx) rfl rfl (h.awaits.observe _
      (fun cb hcb _ => .inl ((Core.mem_callbacks_congr (hq.command _)).2 hcb))
      (fun cb hcb => hcb.later hq.nextCommand.ge fun k _ => (hq.command k).trans)
      (fun cb hcb hmem => ?_))
    obtain rfl : Callback.prerequisite id batch = cb := Option.some.inj hcb
    obtain ⟨cmd, hsome, -⟩ := Core.mem_callbacks.1 hmem
    have hsome : s.core.command id = some cmd := hsome
    simp [hdead] at hsome
  · rw [hdeliver, result_delivered hq rfl]
    exact hk

/-- The settlement of a prerequisite batch is delivered. -/
theorem Lawful.deliver_prerequisite {batch : Nat} (slo : Nat) (e : Option Err) (h : s.Lawful)
    (hcmd : s.core.command id = some cmd) (hbatch : batch ∈ cmd.prerequisiteBatches.keys) :
    Delivered slo s (.prerequisiteSettled id batch e) ∧
      ∃ cmd', (s.deliver slo (.prerequisiteSettled id batch e)).core.command id = some cmd' ∧
        cmd'.prerequisiteBatches = cmd.prerequisiteBatches.erase batch := by
  have hq := quiet_dropBatch (s.reported ++ []) batch s.core
  obtain ⟨deps, hgroup, hshape, hsound, hpublished⟩ := (h.accounts id).command cmd hcmd
  obtain ⟨gs, hgs⟩ := Dict.exists_of_mem_keys hbatch
  have hsub : ∀ x ∈ s.reported, x ∈ s.reported ++ [] := fun x hx => List.mem_append_left _ hx
  obtain ⟨hok, hhandled⟩ := Core.prerequisiteSettled_spec (c := s.core.dropBatch batch) slo e hcmd
    hshape (hsound.spared hsub (hq.spares id) hq.later (hq.work id))
    (hq.accounted fun a q hq => (h.accounted a q hq).mono hsub) (hq.busy h.busy) hgs
    (works_dropBatch batch s.core)
  obtain ⟨cmd', hcmd', hnext, -⟩ := hhandled.command
  have hbatches : cmd'.prerequisiteBatches = cmd.prerequisiteBatches.erase batch := hnext.batches
  have hdeliver := deliver_handled (s := s) (m := .prerequisiteSettled id batch e) hok
  refine ⟨⟨⟨true, hok⟩, ?_, fun k outcome hk => ?_⟩, cmd', by rw [hdeliver]; exact hcmd', hbatches⟩
  · rw [hdeliver]
    refine h.handled hq hcmd hgroup hshape hpublished hhandled rfl rfl rfl hsub rfl rfl
      (h.awaits_handled hq hhandled.serves hcmd hcmd' (fun cb hcb hne => ?_) fun cb hcb => ?_)
    · refine callbacks_continues hnext ?_
      cases cb with
      | prerequisite k b =>
        obtain ⟨rfl, hmem⟩ := BarrierCommand.mem_callbacks_prerequisite.1 hcb
        refine BarrierCommand.mem_callbacks_prerequisite.2 ⟨rfl, Dict.mem_keys_erase.2 ?_⟩
        exact ⟨hmem, fun heq => hne (by rw [heq]; rfl)⟩
      | batch k =>
        obtain ⟨hk, htask, hopen⟩ := BarrierCommand.mem_callbacks_batch.1 hcb
        exact BarrierCommand.mem_callbacks_batch.2 ⟨hk, htask, hopen⟩
    · obtain rfl : Callback.prerequisite id batch = cb := Option.some.inj hcb
      refine ⟨rfl, fun hmem => ?_⟩
      have hkey := (BarrierCommand.mem_callbacks_prerequisite.1 hmem).2
      rw [hbatches, Dict.mem_keys_erase] at hkey
      tauto
  · rw [hdeliver]
    exact (result_delivered hq hhandled.serves.results k).trans hk

/-- The settlement of a final batch is delivered. -/
theorem Lawful.deliver_batch (slo : Nat) (e : Option Err) (h : s.Lawful)
    (hcmd : s.core.command id = some cmd) (htask : cmd.batchTask.isSome)
    (hunsettled : cmd.batchSettled = false) :
    Delivered slo s (.batchSettled id e) ∧
      ∃ cmd', (s.deliver slo (.batchSettled id e)).core.command id = some cmd' ∧
        cmd'.batchTask.isSome ∧ cmd'.batchSettled = true := by
  obtain ⟨deps, hgroup, hshape, hsound, hpublished⟩ := (h.accounts id).command cmd hcmd
  obtain ⟨task, htask⟩ := Option.isSome_iff_exists.1 htask
  have hreceived : s.received (.batchSettled id e) = s.core.dropBatch task := by
    have hget : (s.core.barrier.commands.get? id).bind (·.batchTask) = some task := by
      rw [show s.core.barrier.commands.get? id = some cmd from hcmd]
      exact htask
    unfold received
    simp only [hget]
  have hsync : Core.Syncing s.reported deps s.core id cmd := by
    rcases hsound with ⟨hwait, -⟩ | ⟨hsync, -⟩ | hend
    · simp [hwait.task] at htask
    · exact hsync
    · simp [hend.task (by rw [htask]; rfl)] at hunsettled
  have hq := quiet_dropBatch (s.reported ++ []) task s.core
  have hsub : ∀ x ∈ s.reported, x ∈ s.reported ++ [] := fun x hx => List.mem_append_left _ hx
  obtain ⟨hok, hhandled⟩ := Core.batchSettled_spec (c := s.core.dropBatch task) slo e hcmd
    (hsync.spared hsub (hq.spares id) hq.later (hq.work id)) hunsettled htask
    (works_dropBatch task s.core)
  obtain ⟨cmd', hcmd', hnext, -⟩ := hhandled.command
  obtain ⟨htask', hsettled⟩ := hnext.task (by rw [show _ = some task from htask]; rfl)
  have hsettled : cmd'.batchSettled = true := hsettled
  have hdeliver := deliver_handled (s := s) (m := .batchSettled id e) (by rw [hreceived]; exact hok)
  rw [hreceived] at hdeliver
  refine ⟨⟨⟨true, by rw [hreceived]; exact hok⟩, ?_, fun k outcome hk => by
    rw [hdeliver, result_delivered hq hhandled.serves.results]
    exact hk⟩, cmd', by rw [hdeliver]; exact hcmd', by
      rw [htask', show _ = some task from htask]; rfl, hsettled⟩
  rw [hdeliver]
  refine h.handled hq hcmd hgroup hshape hpublished hhandled rfl rfl rfl hsub rfl rfl
    (h.awaits_handled hq hhandled.serves hcmd hcmd' (fun cb hcb hne => ?_) fun cb hcb => ?_)
  · cases cb with
    | prerequisite k batch =>
      refine callbacks_continues hnext ?_
      obtain ⟨hk, hmem⟩ := BarrierCommand.mem_callbacks_prerequisite.1 hcb
      exact BarrierCommand.mem_callbacks_prerequisite.2 ⟨hk, hmem⟩
    | batch k =>
      obtain ⟨rfl, -⟩ := BarrierCommand.mem_callbacks_batch.1 hcb
      exact absurd rfl hne
  · obtain rfl : Callback.batch id = cb := Option.some.inj hcb
    refine ⟨rfl, fun hmem => ?_⟩
    obtain ⟨-, -, hfalse⟩ := BarrierCommand.mem_callbacks_batch.1 hmem
    simp [hsettled] at hfalse

/-- The state in which a command has been settled with an outcome. -/
def settle (s : Session) (id : Nat) (outcome : Except Err (List Manifest)) : Core :=
  { s.core.dropMessage (.publicationSettled id outcome) with
    barrier := { s.core.barrier with
      commands := s.core.barrier.commands.erase id
      results := s.core.barrier.results.set id outcome } }

theorem handleMessage_publication (slo : Nat) (outcome : Except Err (List Manifest))
    (hcmd : s.core.command id = some cmd) (hsettled : cmd.publication = some .settled)
    (hfree : ∀ g, s.core.owner g ≠ some id) :
    (s.received (.publicationSettled id outcome)).handleMessage slo
      (.publicationSettled id outcome) = (.ok true, s.settle id outcome) := by
  change (s.core.dropMessage (.publicationSettled id outcome)).handleMessage slo _ = _
  have hget : (s.core.dropMessage (.publicationSettled id outcome)).barrier.commands.get? id =
    some cmd := hcmd
  unfold Core.handleMessage
  simp only [hget, hsettled, Option.isNone_some, Bool.false_eq_true, if_false]
  unfold Core.finishCommand
  rw [if_neg]
  · rfl
  · rw [List.any_eq_true]
    rintro ⟨g, -, hg⟩
    exact hfree g (of_decide_eq_true hg)

/-- A command is settled with the outcome of its publication. -/
theorem Lawful.settles {outcome : Except Err (List Manifest)} (h : s.Lawful)
    (hcmd : s.core.command id = some cmd) (hsettled : cmd.publication = some .settled)
    (hmem : .publicationSettled id outcome ∈ s.core.disk.queue)
    (hgroup : s.groups.get? id = some (cmd.parts, deps))
    (hend : Core.Ending s.reported deps s.core id cmd) :
    (s.delivered (.publicationSettled id outcome) (s.settle id outcome)).Lawful := by
  generalize hs' : s.delivered (.publicationSettled id outcome) (s.settle id outcome) = s'
  have hpublished : Published cmd.parts (s.publishedBy id) (some (.finished outcome)) := by
    obtain ⟨cmd₁, hcmd₁, -, hpublished⟩ := (h.accounts id).posted outcome hmem
    obtain rfl := Option.some.inj (hcmd.symm.trans hcmd₁)
    exact hpublished
  have hclosed : s.core.Closed cmd.parts := by
    have hpublishes := hend.publication
    rw [hsettled] at hpublishes
    exact hpublishes
  have hcommand : ∀ k, s'.core.command k = if k = id then none else s.core.command k := by
    intro k
    rw [← hs']
    exact Dict.get?_erase _ _ _
  have hself : s'.core.command id = none := by rw [hcommand, if_pos rfl]
  have hresult : ∀ k, s'.result k = if k = id then some outcome else s.result k := by
    intro k
    rw [← hs']
    exact Dict.get?_set _ _ _ _
  have hqueue : ∀ n, n ∈ s'.core.disk.queue ↔
      n ∈ s.core.disk.queue ∧ n ≠ .publicationSettled id outcome := by
    intro n
    rw [← hs']
    exact (List.mem_filter.trans (and_congr_right fun _ => by simp))
  have howner : ∀ g, s'.core.owner g = s.core.owner g := by rw [← hs']; exact fun _ => rfl
  have hsub : ∀ x ∈ s.reported, x ∈ s'.reported := by
    rw [← hs']
    exact fun x hx => List.mem_append_left _ hx
  have hlater : s.core.Later s'.core := by
    rw [← hs']
    exact ⟨fun _ p hp => ⟨p, hp, .refl p⟩, fun _ hg => hg⟩
  have hby : ∀ k, s'.publishedBy k = s.publishedBy k := by rw [← hs']; exact fun _ => rfl
  have hgroups : s'.groups = s.groups := by rw [← hs']; rfl
  have hnext : s'.core.barrier.nextCommand = s.core.barrier.nextCommand := by rw [← hs']; rfl
  have hgone : ∀ o, .publicationSettled id o ∉ s'.core.disk.queue := by
    intro o ho
    obtain ⟨ho, hne⟩ := (hqueue _).1 ho
    exact hne (by rw [(h.accounts id).once o outcome ho hmem])
  have hself' : s'.Account id := {
    command := fun cmd₁ hcmd₁ => by simp [hself] at hcmd₁
    known := by
      rw [hgroups, hnext]
      exact fun hsome => ⟨((h.accounts id).known hsome).1, .inr (by rw [hresult, if_pos rfl]; rfl)⟩
    settled := by
      intro o ho
      rw [hresult, if_pos rfl] at ho
      obtain rfl := Option.some.inj ho
      exact ⟨hself, cmd.parts, deps, by rw [hgroups]; exact hgroup, hclosed.later hlater,
        by rw [hby]; exact hpublished⟩
    complete := by
      intro g m hm
      rw [hby] at hm
      obtain ⟨parts, deps', hgroup', hg, hcomplete⟩ := (h.accounts id).complete g m hm
      exact ⟨parts, deps', by rw [hgroups]; exact hgroup', hg, complete_later hlater hsub hcomplete⟩
    posted := fun o ho => absurd ho (hgone o)
    once := fun o _ ho => absurd ho (hgone o)
    answered := fun cmd₁ hcmd₁ => by simp [hself] at hcmd₁ }
  exact {
    accounted := by
      rw [← hs']
      exact fun g p hp => (h.accounted g p hp).mono fun x hx => List.mem_append_left _ hx
    busy := by rw [← hs']; exact h.busy
    accounts := by
      intro k
      by_cases hk : k = id
      · exact hk ▸ hself'
      · exact (h.accounts k).untouched {
          later := hlater
          reported := hsub
          spares := ⟨by rw [hcommand, if_neg hk], fun g => by rw [howner],
            fun g _ => by rw [← hs']; rfl⟩
          work := by rw [← hs']; exact fun w hw => .inl hw
          groups := by rw [hgroups]
          result := by rw [hresult, if_neg hk]
          next := hnext.ge
          published := hby k
          queue := fun o => (hqueue _).trans (and_iff_left (by simp [hk])) }
    owned := by
      intro g k hg
      rw [howner] at hg
      rw [hcommand, if_neg]
      · exact h.owned g k hg
      · rintro rfl
        exact hend.owned g hg
    queue := fun m hm => h.queue m ((hqueue m).1 hm).1
    awaits := by
      have hawaits : s'.core.Awaits _ := h.awaits.observe none (fun cb hcb _ => ?_)
        (fun cb horphan => horphan.later hnext.ge fun k _ hnone => ?_)
        (fun cb hcb => by simp at hcb)
      · rw [← hs'] at hawaits ⊢
        exact hawaits
      · by_cases hid : cb.command = id
        · obtain ⟨cmd₁, hcmd₁, hcb⟩ := Core.mem_callbacks.1 hcb
          rw [hid] at hcmd₁ hcb
          obtain rfl := Option.some.inj (hcmd.symm.trans hcmd₁)
          cases cb with
          | prerequisite k batch =>
            obtain rfl : k = id := hid
            exact .inr ⟨by rw [hnext]; exact h.lt_next hcmd, hself⟩
          | batch k =>
            obtain ⟨-, htask, hopen⟩ := BarrierCommand.mem_callbacks_batch.1 hcb
            simp [hend.task htask] at hopen
        · exact .inl ((Core.mem_callbacks_congr (by rw [hcommand, if_neg hid])).2 hcb)
      · rw [hcommand, hnone]
        split <;> rfl }

/-- The outcome of a publication task is delivered. -/
theorem Lawful.deliver_publication (slo : Nat) {outcome : Except Err (List Manifest)}
    (h : s.Lawful) (hmem : .publicationSettled id outcome ∈ s.core.disk.queue) :
    Delivered slo s (.publicationSettled id outcome) ∧
      (s.deliver slo (.publicationSettled id outcome)).result id = some outcome := by
  obtain ⟨cmd, hcmd, hsettled, -⟩ := (h.accounts id).posted outcome hmem
  obtain ⟨deps, hgroup, -, hend, -⟩ := h.ending hcmd (by rw [hsettled]; simp)
  have hhandle := handleMessage_publication slo outcome hcmd hsettled hend.owned
  have hdeliver := deliver_handled (congrArg Prod.fst hhandle)
  rw [hhandle] at hdeliver
  have hresult : ∀ k, (s.deliver slo (.publicationSettled id outcome)).result k =
      if k = id then some outcome else s.result k := by
    intro k
    rw [hdeliver]
    exact Dict.get?_set _ _ _ _
  refine ⟨⟨⟨true, by rw [hhandle]⟩, ?_, fun k o hk => ?_⟩, by rw [hresult, if_pos rfl]⟩
  · rw [hdeliver]
    exact h.settles hcmd hsettled hmem hgroup hend
  · rw [hresult, if_neg]
    · exact hk
    · rintro rfl
      have hdead := ((h.accounts k).settled o hk).1
      simp [hcmd] at hdead

/-- Every message that may come is handled without an error. -/
theorem Lawful.deliver (slo : Nat) (h : s.Lawful) (hpermits : s.permits m = true) :
    Delivered slo s m := by
  rcases isFileMessage_cases m with ⟨g, hm⟩ | ⟨id, batch, e, rfl⟩ | ⟨id, e, rfl⟩ |
    ⟨id, outcome, rfl⟩
  · exact h.deliver_file hm hpermits
  · have hawaited : .prerequisite id batch ∈ s.awaited := by simpa [permits] using hpermits
    rcases h.awaits.live _ hawaited with hmem | ⟨-, hdead⟩
    · obtain ⟨cmd, hcmd, hmem⟩ := Core.mem_callbacks.1 hmem
      exact (h.deliver_prerequisite slo e hcmd
        (BarrierCommand.mem_callbacks_prerequisite.1 hmem).2).1
    · exact h.deliver_orphan hdead
  · have hawaited : .batch id ∈ s.awaited := by simpa [permits] using hpermits
    rcases h.awaits.live _ hawaited with hmem | horphan
    · obtain ⟨cmd, hcmd, hmem⟩ := Core.mem_callbacks.1 hmem
      obtain ⟨-, htask, hopen⟩ := BarrierCommand.mem_callbacks_batch.1 hmem
      exact (h.deliver_batch slo e hcmd htask hopen).1
    · exact horphan.elim
  · exact (h.deliver_publication slo (by simpa [permits] using hpermits)).1

end Session

end CryptoCollector.Storage
