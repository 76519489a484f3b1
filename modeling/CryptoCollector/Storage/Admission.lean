import Mathlib.Data.List.Induction
import CryptoCollector.Storage.Ingress

/-!
# Admission over runs

`storage/ingress.py: RawIngress` with any resolver of control associations, and with the faults
that `try_accept` rolls back. An `Intake` is a current ingress with the budget and the clock that it
uses, the ingresses that it has replaced, and the records that were accepted and drained.

* `tryAccept_eq`: the service's admission is the one with the service's resolver.
* `tryAcceptWith_cases`: what a call of `try_accept` can do.
* `Numbered`: the numbers of the accepted records, the order of the queues and their bytes.
* `run_accepts`: all of it after every run.
-/

namespace CryptoCollector.Storage

open Lib

/-- `ControlAssociationResolver`. -/
abbrev ControlAssociationResolver :=
  ControlDraft → Identity → Except Err (Option ControlAssociation)

/-- What stops `try_accept` after its reservation, before or after it has created the queue of the
shard: `QueueFull`, or another exception. -/
structure Fault where
  created : Bool
  error : Option Err

/-- A call of `try_accept`, with what its surroundings do to it: `buildError` is raised by the
clock or the encoder in `_build_candidate`. -/
structure Offer where
  draft : Draft
  shard : String
  buildError : Option Err := none
  fault : Option Fault := none

namespace RawIngress

/-- `_resolve_control_association`. -/
def resolveWith (resolver : Option ControlAssociationResolver) (control : Option ControlDraft)
    (identity : Identity) : Except Err (Option ControlAssociation) :=
  match control with
  | none => .ok none
  | some control =>
    match resolver with
    | none =>
      if control.associationRequest.isSome then
        .error (.admissionContract "storage association request requires an association resolver")
      else .ok none
    | some resolver =>
      match resolver control identity with
      | .error e => .error e
      | .ok none =>
        if control.associationRequest.isSome then
          .error (.admissionContract
            "association resolver did not resolve every requested target")
        else .ok none
      | .ok (some association) =>
        if association.controlKind ≠ control.controlKind ∨
            association.acceptanceOrdinal ≠ identity.acceptanceOrdinal ∨
            association.configGeneration ≠ identity.configGeneration then
          .error (.admissionContract
            "resolved control association does not match its candidate identity")
        else
          match control.associationRequest with
          | none => .ok (some association)
          | some request =>
            if association.controlEventId ≠ request.controlEventId then
              .error (.admissionContract
                "resolved control association event ID does not match its request")
            else if association.targets.length ≠ request.targets.length then
              .error (.admissionContract
                "resolved control association must cover every requested target")
            else if ¬ (association.targets.map (·.path.key)).Perm request.targets then
              .error (.admissionContract
                "resolved control association does not match requested logical targets")
            else .ok (some association)

/-- The resolver that the service configures. -/
def serviceResolver (resolve : LogicalKey → Option ControlTarget)
    (sortTargets : List ControlTarget → List ControlTarget) : ControlAssociationResolver :=
  fun control identity =>
    match control.associationRequest with
    | none => .ok none
    | some request =>
      match request.targets.mapM resolve with
      | none =>
        .error (.admissionContract "control association target has no active raw generation")
      | some targets =>
        .ok (some {
          controlKind := control.controlKind
          controlEventId := request.controlEventId
          targets := sortTargets targets
          acceptanceOrdinal := identity.acceptanceOrdinal
          configGeneration := identity.configGeneration })

/-- The `except` clause of `try_accept`: the reservation is released, and the queue is deleted
when this call has created it. -/
def rollBack (fault : Fault) (shard : String) (ordinal : Nat) (capacityClass : CapacityClass)
    (reserved : ResidentBudget) (w : Admission) : Except Err EnqueueResult × Admission :=
  let createdQueue := !w.ingress.queues.contains shard
  let queues :=
    if createdQueue && fault.created then w.ingress.queues.set shard [] else w.ingress.queues
  let queues :=
    if createdQueue && decide (queues.get? shard = some []) then queues.erase shard else queues
  let w := { w with
    ingress := { w.ingress with queues }
    budget := (ResidentBudget.release ordinal reserved).2 }
  match fault.error with
  | none => (.ok (w.ingress.overflow capacityClass).1,
      { w with ingress := (w.ingress.overflow capacityClass).2 })
  | some e => (.error e, w)

/-- `admitCandidate`, when a fault may strike after the reservation. -/
def admitCandidateUnder (cfg : IngressConfig) (fault : Option Fault) (shard : String)
    (capacityClass : CapacityClass) (record : Record) (association : Option ControlAssociation)
    (charge : Nat) (w : Admission) : Except Err EnqueueResult × Admission :=
  match fault with
  | none => admitCandidate cfg shard capacityClass record association charge w
  | some fault =>
    if cfg.shardMaxRecords ≤ (w.ingress.queue shard).length ∨
        cfg.shardMaxBytes < (w.ingress.queuedBytes.get? shard).getD 0 + charge ∨
        !w.budget.fits capacityClass charge then
      (.ok (w.ingress.overflow capacityClass).1,
        { w with ingress := (w.ingress.overflow capacityClass).2 })
    else
      match w.budget.reserve record.identity.acceptanceOrdinal capacityClass charge with
      | (some e, budget) => (.error e, { w with budget })
      | (none, reserved) =>
        rollBack fault shard record.identity.acceptanceOrdinal capacityClass reserved w

/-- `try_accept`, with any resolver. -/
def tryAcceptWith (cfg : IngressConfig) (resolver : Option ControlAssociationResolver) (o : Offer)
    (w : Admission) : Except Err EnqueueResult × Admission :=
  if w.ingress.superseded then (.ok ⟨.notAccepting, none⟩, w)
  else
    match validate o.draft o.shard with
    | .error e => (.error e, w)
    | .ok capacityClass =>
      if ((w.ingress.shardBySequenceKey.get? o.draft.key).getD o.shard) ≠ o.shard then
        (.error (.admissionContract "logical identity is already bound to a different shard"), w)
      else
        let record := w.ingress.buildCandidate w.clock o.draft
        let w := { w with clock := w.clock.afterTime.afterMonotonic }
        match o.buildError with
        | some e => (.error e, w)
        | none =>
          match resolveWith resolver
              (if capacityClass = .control then o.draft.control else none) record.identity with
          | .error e => (.error e, w)
          | .ok association =>
            admitCandidateUnder cfg o.fault o.shard capacityClass record association
              (record.size + (if association.isSome then o.draft.associationBytes else 0)) w

/-- `drain_one`. -/
def drainOneFrom (i : RawIngress) (b : ResidentBudget) (shard : String) :
    Except Err (Option Record) × RawIngress :=
  if !normalized shard then
    (.error (.valueError "shard must be a normalized nonempty string"), i)
  else
    match i.queues.get? shard with
    | none => (.ok none, i)
    | some [] => (.ok none, i)
    | some (r :: rest) =>
      let popped := { i with queues := i.queues.set shard rest }
      match b.charges.get? r.identity.acceptanceOrdinal with
      | none => (.error (.keyError "unknown resident charge identity"), popped)
      | some charge =>
        if (i.queuedBytes.get? shard).getD 0 < charge.chargeBytes then
          (.error (.assertionError "ingress queued byte accounting underflow"), popped)
        else (.ok (some r), i.drainOne shard charge.chargeBytes)

/-- `replacement_for_config`: the replacement, and the superseded ingress. -/
def supersede (i : RawIngress) (b : ResidentBudget) (sha : String) (generation : Int) :
    Except Err (RawIngress × RawIngress) :=
  if !isSha256 sha then
    .error (.valueError "config_sha256 must be 64 lowercase hexadecimal characters")
  else if generation < 0 then
    .error (.valueError "config_generation must be non-negative")
  else if (maxSignedInt64 : Int) < generation then
    .error (.valueError "config_generation must fit a signed 64-bit integer")
  else
    (i.replacementForConfig b sha generation.toNat).map fun replacement =>
      (replacement, { i with superseded := true })

/-! ## The service's admission -/

theorem length_mapM {α β : Type} {f : α → Option β} {l : List α} {l' : List β}
    (h : l.mapM f = some l') : l'.length = l.length := by
  induction l generalizing l' with
  | nil =>
    rw [List.mapM_nil] at h
    cases h
    rfl
  | cons a l ih =>
    rw [List.mapM_cons] at h
    obtain ⟨b, -, h⟩ := Option.bind_eq_some_iff.mp h
    obtain ⟨bs, hbs, h⟩ := Option.bind_eq_some_iff.mp h
    cases h
    rw [List.length_cons, List.length_cons, ih hbs]

theorem resolveControlAssociation_eq {resolve : LogicalKey → Option ControlTarget}
    {sortTargets : List ControlTarget → List ControlTarget}
    (hsort : ∀ targets, (sortTargets targets).Perm targets) (control : Option ControlDraft)
    (identity : Identity) :
    resolveControlAssociation resolve sortTargets control identity =
      resolveWith (some (serviceResolver resolve sortTargets)) control identity := by
  cases control with
  | none => rfl
  | some control =>
    cases hrequest : control.associationRequest with
    | none => simp [resolveControlAssociation, resolveWith, serviceResolver, hrequest]
    | some request =>
      cases htargets : request.targets.mapM resolve with
      | none =>
        simp [resolveControlAssociation, resolveWith, serviceResolver, hrequest, htargets]
      | some targets =>
        have hlength : (sortTargets targets).length = request.targets.length := by
          rw [(hsort targets).length_eq]
          exact length_mapM htargets
        have hperm : ((sortTargets targets).map (·.path.key)).Perm request.targets ↔
            (targets.map (·.path.key)).Perm request.targets :=
          ⟨((hsort targets).map _).symm.trans, ((hsort targets).map _).trans⟩
        simp [resolveControlAssociation, resolveWith, serviceResolver, hrequest, htargets,
          hlength, hperm]

theorem tryAccept_eq (cfg : IngressConfig) {resolve : LogicalKey → Option ControlTarget}
    {sortTargets : List ControlTarget → List ControlTarget}
    (hsort : ∀ targets, (sortTargets targets).Perm targets) (d : Draft) (shard : String)
    (w : Admission) :
    tryAccept cfg resolve sortTargets d shard w =
      tryAcceptWith cfg (some (serviceResolver resolve sortTargets)) ⟨d, shard, none, none⟩ w := by
  unfold tryAccept tryAcceptWith
  simp only [resolveControlAssociation_eq hsort]
  rfl

end RawIngress

/-! ## One call -/

namespace ResidentBudget

variable {b b' : ResidentBudget} {ordinal charge : Nat} {capacityClass : CapacityClass}

theorem reserve_error {e : Err} (h : reserve ordinal capacityClass charge b = (some e, b')) :
    b' = b := by
  unfold reserve at h
  split_ifs at h
  · exact (congrArg Prod.snd h).symm
  · exact (congrArg Prod.snd h).symm
  · cases h

/-- A reservation is of a new ordinal. -/
theorem reserve_ok (h : reserve ordinal capacityClass charge b = (none, b')) :
    ordinal ∉ b.charges.keys ∧ b'.charges = b.charges.set ordinal ⟨capacityClass, charge⟩ := by
  unfold reserve at h
  split_ifs at h with hnew
  · cases h
  · cases h
  · rw [Dict.contains_iff] at hnew
    cases capacityClass with
    | normal => cases h; exact ⟨hnew, rfl⟩
    | control => cases h; exact ⟨hnew, rfl⟩

theorem erase_set_of_not_mem {κ α : Type} [DecidableEq κ] {d : Dict κ α} {k : κ} (v : α)
    (h : k ∉ d.keys) : (d.set k v).erase k = d := by
  apply Dict.ext
  rw [Dict.entries_erase, Dict.entries_set_of_not_mem h, List.filter_append]
  have hkeep : d.entries.filter (fun e => e.1 ≠ k) = d.entries := by
    rw [List.filter_eq_self]
    intro e he
    have : e.1 ≠ k := fun heq => h (heq ▸ List.mem_map_of_mem he)
    simpa using this
  rw [hkeep]
  simp

/-- Releasing what was just reserved restores the budget. -/
theorem release_reserve (h : reserve ordinal capacityClass charge b = (none, b')) :
    (release ordinal b').2 = b := by
  have hnew := (reserve_ok h).1
  unfold reserve at h
  split_ifs at h
  · cases h
  · cases h
  · cases capacityClass with
    | normal => cases h; simp [release, erase_set_of_not_mem _ hnew]
    | control => cases h; simp [release, erase_set_of_not_mem _ hnew]

theorem release_charges (ordinal : Nat) (b : ResidentBudget) :
    (release ordinal b).2.charges = b.charges.erase ordinal := by
  unfold release
  cases hget : b.charges.get? ordinal with
  | none => exact (Dict.erase_of_not_mem (Dict.get?_eq_none.mp hget)).symm
  | some charge =>
    obtain ⟨capacityClass, chargeBytes⟩ := charge
    cases capacityClass <;> rfl

end ResidentBudget

namespace RawIngress

/-- A call that takes nothing in: of the ingress only a count of overflows may change. -/
structure Left (w : Admission) (r : Except Err EnqueueResult × Admission) : Prop where
  record : r.1.toOption.bind (·.record) = none
  status : ∀ result, r.1 = .ok result →
    result.status ≠ .accepted ∧ result.status ≠ .acceptedHighWater
  budget : r.2.budget = w.budget
  ingress : r.2.ingress = { w.ingress with
    normalOverflowCount := r.2.ingress.normalOverflowCount
    controlOverflowCount := r.2.ingress.controlOverflowCount }

/-- A call that takes the next record of its logical key in. -/
structure Taken (shard : String) (record : Record) (w : Admission)
    (r : Except Err EnqueueResult × Admission) (capacityClass : CapacityClass) (charge : Nat)
    (association : Option ControlAssociation) : Prop where
  result : ∃ status, r.1 = .ok ⟨status, some record⟩ ∧
    (status = .accepted ∨ status = .acceptedHighWater)
  budget : w.budget.reserve record.identity.acceptanceOrdinal capacityClass charge =
    (none, r.2.budget)
  ingress : r.2.ingress = { w.ingress.enqueue shard record charge association with
    enqueueHighWaterCount := r.2.ingress.enqueueHighWaterCount }

theorem left_error (e : Err) {w w' : Admission} (hb : w'.budget = w.budget)
    (hi : w'.ingress = w.ingress) : Left w (.error e, w') :=
  ⟨rfl, by simp, hb, by rw [hi]⟩

theorem left_overflow (capacityClass : CapacityClass) {w w' : Admission}
    (hb : w'.budget = w.budget) (hi : w'.ingress = w.ingress) :
    Left w (.ok (w'.ingress.overflow capacityClass).1,
      { w' with ingress := (w'.ingress.overflow capacityClass).2 }) := by
  cases capacityClass
  · exact ⟨rfl, by simp [overflow], hb, by rw [hi]; rfl⟩
  · exact ⟨rfl, by simp [overflow], hb, by rw [hi]; rfl⟩

/-- The `except` clause undoes the reservation and the creation of the queue. -/
theorem left_rollBack (fault : Fault) (shard : String) {ordinal charge : Nat}
    {capacityClass : CapacityClass} {reserved : ResidentBudget} {w : Admission}
    (h : w.budget.reserve ordinal capacityClass charge = (none, reserved)) :
    Left w (rollBack fault shard ordinal capacityClass reserved w) := by
  have hqueues :
      (let createdQueue := !w.ingress.queues.contains shard
      let queues := if createdQueue && fault.created then w.ingress.queues.set shard []
        else w.ingress.queues
      if createdQueue && decide (queues.get? shard = some []) then queues.erase shard
      else queues) = w.ingress.queues := by
    cases hcontains : w.ingress.queues.contains shard with
    | true => simp
    | false =>
      have hnew : shard ∉ w.ingress.queues.keys := by
        rw [← Dict.contains_iff, hcontains]
        exact Bool.false_ne_true
      cases fault.created with
      | true => simp [ResidentBudget.erase_set_of_not_mem _ hnew]
      | false => simp [Dict.get?_eq_none.mpr hnew]
  unfold rollBack
  dsimp only at hqueues ⊢
  rw [hqueues, ResidentBudget.release_reserve h]
  cases fault.error with
  | none => exact left_overflow capacityClass rfl rfl
  | some e => exact left_error e rfl rfl

theorem admitCandidateUnder_cases (cfg : IngressConfig) (fault : Option Fault) (shard : String)
    (capacityClass : CapacityClass) (record : Record) (association : Option ControlAssociation)
    (charge : Nat) (w : Admission) :
    Left w (admitCandidateUnder cfg fault shard capacityClass record association charge w) ∨
      Taken shard record w
        (admitCandidateUnder cfg fault shard capacityClass record association charge w)
        capacityClass charge association := by
  unfold admitCandidateUnder
  cases fault with
  | some fault =>
    dsimp only
    split
    · exact .inl (left_overflow capacityClass rfl rfl)
    split
    · next e budget he => exact .inl (left_error e (ResidentBudget.reserve_error he) rfl)
    · next reserved he => exact .inl (left_rollBack fault shard he)
  | none =>
    unfold admitCandidate
    dsimp only
    split
    · exact .inl (left_overflow capacityClass rfl rfl)
    split
    · next e budget he => exact .inl (left_error e (ResidentBudget.reserve_error he) rfl)
    · next budget he =>
      refine .inr ⟨⟨_, rfl, ?_⟩, he, ?_⟩
      · split
        · exact .inr rfl
        · exact .inl rfl
      · dsimp only
        split <;> rfl

/-- What `try_accept` can do. -/
theorem tryAcceptWith_cases (cfg : IngressConfig) (resolver : Option ControlAssociationResolver)
    (o : Offer) (w : Admission) :
    Left w (tryAcceptWith cfg resolver o w) ∨
      w.ingress.superseded = false ∧
      (w.ingress.shardBySequenceKey.get? o.draft.key).getD o.shard = o.shard ∧
      ∃ capacityClass charge association,
        Taken o.shard (w.ingress.buildCandidate w.clock o.draft) w
          (tryAcceptWith cfg resolver o w) capacityClass charge association := by
  unfold tryAcceptWith
  split
  · exact .inl ⟨rfl, by simp, rfl, rfl⟩
  next hopen =>
  split
  · exact .inl (left_error _ rfl rfl)
  next capacityClass hvalid =>
  split
  · exact .inl (left_error _ rfl rfl)
  next hbound =>
  dsimp only
  split
  · exact .inl (left_error _ rfl rfl)
  split
  · exact .inl (left_error _ rfl rfl)
  next association hassociation =>
  obtain h | h := admitCandidateUnder_cases cfg o.fault o.shard capacityClass
    (w.ingress.buildCandidate w.clock o.draft) association
    ((w.ingress.buildCandidate w.clock o.draft).size +
      (if association.isSome then o.draft.associationBytes else 0))
    { w with clock := w.clock.afterTime.afterMonotonic }
  · exact .inl ⟨h.record, h.status, h.budget, h.ingress⟩
  · exact .inr ⟨by simpa using hopen, not_not.mp hbound, capacityClass, _, association,
      ⟨h.result, h.budget, h.ingress⟩⟩

end RawIngress

/-! ## Runs -/

/-- The current ingress with its budget and its clock, the superseded ones, and what was taken in
and drained so far, by shard. -/
structure Intake where
  admission : Admission
  superseded : List RawIngress := []
  accepted : List (String × Record) := []
  drained : List (String × Record) := []

namespace Intake

/-- A first ingress with a budget of its own. -/
def start (cfg : IngressConfig) (sha : String) (generation : Nat) (clock : Clock) : Intake where
  admission :=
    { ingress := { configSha256 := sha, configGeneration := generation }
      budget :=
        { workerMaxBytes := cfg.workerMaxBytes, controlReserveBytes := cfg.controlReserveBytes }
      clock }

/-- A call on the current ingress, or the release of the `n`-th drained record. -/
inductive Op where
  | tryAccept (o : Offer)
  | drainOne (shard : String)
  | takeControlAssociation (id : Identity)
  | release (n : Nat)
  | replacementForConfig (sha : String) (generation : Int)

variable (cfg : IngressConfig) (resolver : Option ControlAssociationResolver)

/-- One call, whatever it raises. -/
def exec (s : Intake) : Op → Intake
  | .tryAccept o =>
    let r := RawIngress.tryAcceptWith cfg resolver o s.admission
    { s with
      admission := r.2
      accepted := s.accepted ++ ((r.1.toOption.bind (·.record)).map (o.shard, ·)).toList }
  | .drainOne shard =>
    let r := s.admission.ingress.drainOneFrom s.admission.budget shard
    { s with
      admission := { s.admission with ingress := r.2 }
      drained := s.drained ++ (r.1.toOption.join.map (shard, ·)).toList }
  | .takeControlAssociation id =>
    { s with admission := { s.admission with
      ingress := (s.admission.ingress.takeControlAssociation id).2 } }
  | .release n =>
    match s.drained[n]? with
    | none => s
    | some (_, r) =>
      { s with admission := { s.admission with
        budget := (ResidentBudget.release r.identity.acceptanceOrdinal s.admission.budget).2 } }
  | .replacementForConfig sha generation =>
    match s.admission.ingress.supersede s.admission.budget sha generation with
    | .error _ => s
    | .ok (replacement, superseded) =>
      { s with
        admission := { s.admission with ingress := replacement }
        superseded := s.superseded ++ [superseded] }

/-- The intake after some calls. -/
def run (s : Intake) (ops : List Op) : Intake := ops.foldl (exec cfg resolver) s

/-- The records of one shard. -/
def on (shard : String) (records : List (String × Record)) : List Record :=
  (records.filter fun e => e.1 = shard).map Prod.snd

@[simp] theorem on_append (shard : String) (front back : List (String × Record)) :
    on shard (front ++ back) = on shard front ++ on shard back := by
  simp [on]

@[simp] theorem on_nil (shard : String) : on shard [] = [] := rfl

@[simp] theorem on_self (shard : String) (r : Record) : on shard [(shard, r)] = [r] := by
  simp [on]

theorem on_other {shard other : String} (h : other ≠ shard) (r : Record) :
    on shard [(other, r)] = [] := by
  simp [on, h]

theorem mem_on {shard : String} {records : List (String × Record)} {r : Record} :
    r ∈ on shard records ↔ (shard, r) ∈ records := by
  simp [on]

/-- The resident charge of a record. -/
def chargeOf (b : ResidentBudget) (r : Record) : Nat :=
  ((b.charges.get? r.identity.acceptanceOrdinal).map (·.chargeBytes)).getD 0

/-- A superseded ingress, which has nothing left. -/
structure Retired (i : RawIngress) : Prop where
  superseded : i.superseded = true
  queues : ∀ shard, i.queue shard = []
  pending : i.pendingControlAssociations.entries = []

/-- The accepted records are numbered without gap or repeat, the queues are what is accepted and
not drained, in order, and their bytes are the charges of their records. -/
structure Numbered (s : Intake) : Prop where
  ordinals : s.accepted.map (·.2.identity.acceptanceOrdinal) =
    List.range s.admission.ingress.nextAcceptanceOrdinal
  sequences : ∀ key, (s.accepted.filter (·.2.key = key)).map (·.2.identity.writerSequence) =
    List.range ((s.admission.ingress.nextSequences.get? key).getD 0)
  fifo : ∀ shard, on shard s.accepted = on shard s.drained ++ s.admission.ingress.queue shard
  charged : ∀ shard, ∀ r ∈ s.admission.ingress.queue shard,
    r.identity.acceptanceOrdinal ∈ s.admission.budget.charges.keys
  bytes : ∀ shard, (s.admission.ingress.queuedBytes.get? shard).getD 0 =
    ((s.admission.ingress.queue shard).map (chargeOf s.admission.budget)).sum
  current : s.admission.ingress.superseded = false
  retired : ∀ i ∈ s.superseded, Retired i

theorem numbered_start (sha : String) (generation : Nat) (clock : Clock) :
    Numbered (start cfg sha generation clock) := by
  constructor <;> simp [start, RawIngress.queue]

variable {cfg resolver} {s : Intake}

/-! ### Acceptance -/

@[simp] theorem queue_enqueue (i : RawIngress) (shard : String) (r : Record) (charge : Nat)
    (association : Option ControlAssociation) (other : String) :
    (i.enqueue shard r charge association).queue other =
      if other = shard then i.queue shard ++ [r] else i.queue other := by
  unfold RawIngress.queue RawIngress.enqueue
  dsimp only
  rw [Dict.get?_set]
  split <;> rfl

/-- The numbers depend on a part of the ingress only. -/
theorem Numbered.congr (h : s.Numbered) {a : Admission}
    (hordinal : a.ingress.nextAcceptanceOrdinal = s.admission.ingress.nextAcceptanceOrdinal)
    (hsequences : a.ingress.nextSequences = s.admission.ingress.nextSequences)
    (hqueues : a.ingress.queues = s.admission.ingress.queues)
    (hbytes : a.ingress.queuedBytes = s.admission.ingress.queuedBytes)
    (hsuperseded : a.ingress.superseded = s.admission.ingress.superseded)
    (hcharges : a.budget.charges = s.admission.budget.charges) :
    Numbered { s with admission := a } := by
  have hqueue : a.ingress.queue = s.admission.ingress.queue := by
    funext shard
    simp only [RawIngress.queue, hqueues]
  have hcharge : chargeOf a.budget = chargeOf s.admission.budget := by
    funext r
    simp only [chargeOf, hcharges]
  constructor
  · simp only [hordinal]; exact h.ordinals
  · simp only [hsequences]; exact h.sequences
  · simp only [hqueue]; exact h.fifo
  · simp only [hqueue, hcharges]; exact h.charged
  · simp only [hqueue, hbytes, hcharge]; exact h.bytes
  · simp only [hsuperseded]; exact h.current
  · exact h.retired

theorem Numbered.taken (h : s.Numbered) {o : Offer} {r : Except Err EnqueueResult × Admission}
    {capacityClass : CapacityClass} {charge : Nat} {association : Option ControlAssociation}
    (hr : RawIngress.Taken o.shard
      (s.admission.ingress.buildCandidate s.admission.clock o.draft) s.admission r capacityClass
      charge association) :
    Numbered { s with
      admission := r.2
      accepted := s.accepted ++
        [(o.shard, s.admission.ingress.buildCandidate s.admission.clock o.draft)] } := by
  obtain ⟨-, hbudget, hingress⟩ := hr
  obtain ⟨hnew, hcharges⟩ := ResidentBudget.reserve_ok hbudget
  set record := s.admission.ingress.buildCandidate s.admission.clock o.draft with hrecord
  have hordinal : record.identity.acceptanceOrdinal =
      s.admission.ingress.nextAcceptanceOrdinal := rfl
  -- the charges of the records that were queued before are those of before
  have hold : ∀ shard, ∀ q ∈ s.admission.ingress.queue shard,
      chargeOf r.2.budget q = chargeOf s.admission.budget q := by
    intro shard q hq
    have hne : q.identity.acceptanceOrdinal ≠ record.identity.acceptanceOrdinal :=
      fun heq => hnew (heq ▸ h.charged shard q hq)
    simp only [chargeOf, hcharges, Dict.get?_set_ne _ _ hne]
  have hown : chargeOf r.2.budget record = charge := by
    simp [chargeOf, hcharges]
  have hqueue (shard : String) : r.2.ingress.queue shard =
      if shard = o.shard then s.admission.ingress.queue o.shard ++ [record]
      else s.admission.ingress.queue shard := by
    rw [← queue_enqueue _ _ _ charge association, hingress]
    rfl
  constructor
  · have hnext : r.2.ingress.nextAcceptanceOrdinal =
        s.admission.ingress.nextAcceptanceOrdinal + 1 := by rw [hingress]; rfl
    simp only [hnext, List.map_append, h.ordinals, List.range_succ, List.map_cons, List.map_nil,
      hordinal]
  · intro key
    have hnext : r.2.ingress.nextSequences = s.admission.ingress.nextSequences.set o.draft.key
        ((s.admission.ingress.nextSequences.get? o.draft.key).getD 0 + 1) := by
      rw [hingress]; rfl
    have hkey : record.key = o.draft.key := rfl
    simp only [hnext, Dict.get?_set, List.filter_append, List.map_append, h.sequences key]
    by_cases heq : key = o.draft.key
    · subst heq
      have hsequence : record.identity.writerSequence =
          (s.admission.ingress.nextSequences.get? o.draft.key).getD 0 := rfl
      rw [if_pos rfl, Option.getD_some, List.range_succ, List.filter_cons_of_pos (by simp [hkey])]
      simp [hsequence]
    · have hne : ¬ record.key = key := fun h => heq (h ▸ hkey)
      simp [heq, hne]
  · intro shard
    simp only [on_append, h.fifo shard, hqueue]
    split
    · next heq => subst heq; simp
    · next hne => rw [on_other (Ne.symm hne), List.append_nil]
  · intro shard q hq
    simp only [hqueue] at hq
    rw [hcharges, Dict.mem_keys_set]
    split at hq
    · obtain hq | hq := List.mem_append.mp hq
      · exact .inl (h.charged _ q hq)
      · exact .inr (by rw [List.mem_singleton.mp hq])
    · exact .inl (h.charged _ q hq)
  · intro shard
    have hbytes : r.2.ingress.queuedBytes = s.admission.ingress.queuedBytes.set o.shard
        ((s.admission.ingress.queuedBytes.get? o.shard).getD 0 + charge) := by
      rw [hingress]; rfl
    simp only [hbytes, hqueue, Dict.get?_set]
    split
    · rw [List.map_append, List.sum_append, List.map_congr_left (hold o.shard),
        Option.getD_some, h.bytes]
      simp [hown]
    · rw [List.map_congr_left (hold shard)]
      exact h.bytes shard
  · simp only
    rw [hingress]
    exact h.current
  · exact h.retired

theorem Numbered.tryAccept (h : s.Numbered) (o : Offer) :
    (s.exec cfg resolver (.tryAccept o)).Numbered := by
  obtain hleft | ⟨-, -, capacityClass, charge, association, htaken⟩ :=
    RawIngress.tryAcceptWith_cases cfg resolver o s.admission
  · have hingress := hleft.ingress
    simp only [exec, hleft.record, Option.map_none, Option.toList_none, List.append_nil]
    refine h.congr ?_ ?_ ?_ ?_ ?_ (by rw [hleft.budget])
    all_goals rw [hingress]
  · obtain ⟨status, hstatus, -⟩ := htaken.result
    have hnumbered := h.taken htaken
    simp only [exec]
    rw [hstatus]
    exact hnumbered

/-! ### Draining, releasing, replacing -/

/-- What `drain_one` does: it raises for a shard that is no name, and else takes the head of the
queue. -/
theorem Numbered.drainOneFrom_cases (h : s.Numbered) (shard : String) :
    ∃ i, i = (s.admission.ingress.drainOneFrom s.admission.budget shard).2 ∧
    ((∃ e, (s.admission.ingress.drainOneFrom s.admission.budget shard).1 = .error e) ∧
        normalized shard = false ∧ i = s.admission.ingress ∨
      (s.admission.ingress.drainOneFrom s.admission.budget shard).1 = .ok none ∧
        s.admission.ingress.queue shard = [] ∧ i = s.admission.ingress ∨
      ∃ r rest, (s.admission.ingress.drainOneFrom s.admission.budget shard).1 = .ok (some r) ∧
        s.admission.ingress.queue shard = r :: rest ∧
        i = s.admission.ingress.drainOne shard (chargeOf s.admission.budget r)) := by
  refine ⟨_, rfl, ?_⟩
  unfold RawIngress.drainOneFrom
  split
  · next hshard => exact .inl ⟨⟨_, rfl⟩, by simpa using hshard, rfl⟩
  split
  · next hq => exact .inr (.inl ⟨rfl, by simp [RawIngress.queue, hq], rfl⟩)
  · next hq => exact .inr (.inl ⟨rfl, by simp [RawIngress.queue, hq], rfl⟩)
  · next r rest hq =>
    have hqueue : s.admission.ingress.queue shard = r :: rest := by simp [RawIngress.queue, hq]
    have hmem := h.charged shard r (hqueue ▸ List.mem_cons_self)
    obtain ⟨charge, hcharge⟩ := Dict.exists_of_mem_keys hmem
    have hown : chargeOf s.admission.budget r = charge.chargeBytes := by
      simp [chargeOf, hcharge]
    have hbytes := h.bytes shard
    rw [hqueue, List.map_cons, List.sum_cons, hown] at hbytes
    dsimp only
    rw [hcharge]
    dsimp only
    rw [if_neg (by omega)]
    exact .inr (.inr ⟨r, rest, rfl, hqueue, by rw [hown]⟩)

@[simp] theorem queue_drainOne (i : RawIngress) (shard : String) (charge : Nat) (other : String) :
    (i.drainOne shard charge).queue other =
      if other = shard then (i.queue shard).tail else i.queue other := by
  unfold RawIngress.queue RawIngress.drainOne
  dsimp only
  rw [Dict.get?_set]
  split <;> rfl

theorem Numbered.drainOne (h : s.Numbered) (shard : String) :
    (s.exec cfg resolver (.drainOne shard)).Numbered := by
  obtain ⟨i, hi, ⟨⟨e, he⟩, -, hsame⟩ | ⟨hnone, -, hsame⟩ | ⟨r, rest, hsome, hqueue, hdrained⟩⟩ :=
    h.drainOneFrom_cases shard
  · simp only [exec, he, ← hi, hsame]
    simpa [Except.toOption] using h
  · simp only [exec, hnone, ← hi, hsame]
    simpa [Except.toOption] using h
  · simp only [exec, hsome, ← hi, hdrained]
    refine ⟨h.ordinals, h.sequences, ?_, ?_, ?_, h.current, h.retired⟩
    · intro other
      have hfifo := h.fifo other
      simp only [on_append, queue_drainOne, Except.toOption, Option.join_some, Option.map_some,
        Option.toList_some]
      split
      · next heq =>
        subst heq
        rw [hfifo, hqueue]
        simp
      · next hne => rw [hfifo, on_other (Ne.symm hne), List.append_nil]
    · intro other q hq
      simp only [queue_drainOne] at hq
      split at hq
      · exact h.charged shard q (List.mem_of_mem_tail hq)
      · exact h.charged other q hq
    · intro other
      have hbytes := h.bytes other
      simp only [queue_drainOne]
      unfold RawIngress.drainOne
      simp only [Dict.get?_set]
      split
      · next heq =>
        subst heq
        rw [hqueue, List.map_cons, List.sum_cons] at hbytes
        rw [hqueue, List.tail_cons, Option.getD_some, hbytes, Nat.add_sub_cancel_left]
      · exact hbytes

/-- An accepted record is in one shard only. -/
theorem Numbered.accepted_unique (h : s.Numbered) {e e' : String × Record}
    (he : e ∈ s.accepted) (he' : e' ∈ s.accepted)
    (heq : e.2.identity.acceptanceOrdinal = e'.2.identity.acceptanceOrdinal) : e = e' := by
  have hnodup : (s.accepted.map (·.2.identity.acceptanceOrdinal)).Nodup := by
    rw [h.ordinals]
    exact List.nodup_range
  exact List.inj_on_of_nodup_map hnodup he he' heq

/-- A drained record is not in a queue. -/
theorem Numbered.drained_ne (h : s.Numbered) {shard other : String} {r q : Record}
    (hr : (shard, r) ∈ s.drained) (hq : q ∈ s.admission.ingress.queue other) :
    q.identity.acceptanceOrdinal ≠ r.identity.acceptanceOrdinal := by
  intro heq
  have hr' : r ∈ on shard s.accepted := by
    rw [h.fifo]
    exact List.mem_append_left _ (mem_on.mpr hr)
  have hq' : q ∈ on other s.accepted := by
    rw [h.fifo]
    exact List.mem_append_right _ hq
  have hsame := h.accepted_unique (mem_on.mp hq') (mem_on.mp hr') heq
  cases hsame
  have hnodup : (on shard s.accepted).Nodup := by
    have hnodup : (s.accepted.map (·.2.identity.acceptanceOrdinal)).Nodup := by
      rw [h.ordinals]
      exact List.nodup_range
    refine List.Nodup.map_on ?_ (hnodup.of_map.filter _)
    intro e he e' he' hee
    obtain ⟨-, he⟩ := List.mem_filter.mp he
    obtain ⟨-, he'⟩ := List.mem_filter.mp he'
    rw [decide_eq_true_eq] at he he'
    exact Prod.ext (he.trans he'.symm) hee
  rw [h.fifo] at hnodup
  exact (List.nodup_append.mp hnodup).2.2 r (mem_on.mpr hr) r hq rfl

theorem Numbered.release (h : s.Numbered) (n : Nat) :
    (s.exec cfg resolver (.release n)).Numbered := by
  simp only [exec]
  cases hn : s.drained[n]? with
  | none => exact h
  | some e =>
    obtain ⟨shard, r⟩ := e
    have hr : (shard, r) ∈ s.drained := List.mem_of_getElem? hn
    have hne : ∀ other, ∀ q ∈ s.admission.ingress.queue other,
        q.identity.acceptanceOrdinal ≠ r.identity.acceptanceOrdinal :=
      fun other q hq => h.drained_ne hr hq
    refine ⟨h.ordinals, h.sequences, h.fifo, ?_, ?_, h.current, h.retired⟩
    · intro other q hq
      simp only [ResidentBudget.release_charges, Dict.mem_keys_erase]
      exact ⟨h.charged other q hq, hne other q hq⟩
    · intro other
      have hcharge : ∀ q ∈ s.admission.ingress.queue other,
          chargeOf (ResidentBudget.release r.identity.acceptanceOrdinal s.admission.budget).2 q =
            chargeOf s.admission.budget q := by
        intro q hq
        simp only [chargeOf, ResidentBudget.release_charges, Dict.get?_erase_ne _ (hne other q hq)]
      simp only
      rw [List.map_congr_left hcharge]
      exact h.bytes other

/-- A replacement starts where the superseded ingress stopped. -/
theorem supersede_ok {i j old : RawIngress} {b : ResidentBudget} {sha : String} {generation : Int}
    (h : i.supersede b sha generation = .ok (j, old)) :
    i.superseded = false ∧ i.quiescent b = true ∧ old = { i with superseded := true } ∧
      j.superseded = false ∧
      j.queues = Dict.empty ∧ j.queuedBytes = Dict.empty ∧
      j.nextSequences = i.nextSequences ∧
      j.nextAcceptanceOrdinal = i.nextAcceptanceOrdinal := by
  unfold RawIngress.supersede at h
  split_ifs at h
  cases hr : i.replacementForConfig b sha generation.toNat with
  | error e =>
    rw [hr] at h
    cases h
  | ok replacement =>
    rw [hr] at h
    cases h
    unfold RawIngress.replacementForConfig at hr
    split_ifs at hr with _ hopen hquiescent
    cases hr
    exact ⟨by simpa using hopen, by simpa using hquiescent, rfl, rfl, rfl, rfl, rfl, rfl⟩

theorem queue_of_quiescent {i : RawIngress} {b : ResidentBudget} (h : i.quiescent b = true)
    (shard : String) : i.queue shard = [] := by
  unfold RawIngress.quiescent at h
  simp only [Bool.and_eq_true, List.all_eq_true] at h
  unfold RawIngress.queue
  cases hq : i.queues.get? shard with
  | none => rfl
  | some queue =>
    have := h.1.1.1 _ (Dict.get?_eq_some.mp hq)
    simpa using this

theorem Numbered.replacementForConfig (h : s.Numbered) (sha : String) (generation : Int) :
    (s.exec cfg resolver (.replacementForConfig sha generation)).Numbered := by
  simp only [exec]
  split
  · exact h
  next replacement old hok =>
  obtain ⟨-, hquiescent, hold, hcurrent, hqueues, hbytes, hsequences, hordinal⟩ := supersede_ok hok
  have hempty := queue_of_quiescent hquiescent
  have hqueue (shard : String) : replacement.queue shard = [] := by
    simp [RawIngress.queue, hqueues]
  constructor
  · simp only [hordinal]; exact h.ordinals
  · simp only [hsequences]; exact h.sequences
  · intro shard
    simp only [hqueue]
    rw [h.fifo, hempty]
  · intro shard q hq
    simp only [hqueue] at hq
    cases hq
  · intro shard
    simp [hqueue, hbytes]
  · exact hcurrent
  · intro i hi
    obtain hi | hi := List.mem_append.mp hi
    · exact h.retired i hi
    · rw [List.mem_singleton.mp hi, hold]
      refine ⟨rfl, hempty, ?_⟩
      unfold RawIngress.quiescent at hquiescent
      simp only [Bool.and_eq_true, List.isEmpty_iff] at hquiescent
      exact hquiescent.2

theorem Numbered.exec (h : s.Numbered) (op : Op) : (s.exec cfg resolver op).Numbered := by
  cases op with
  | tryAccept o => exact h.tryAccept o
  | drainOne shard => exact h.drainOne shard
  | takeControlAssociation id => exact h.congr rfl rfl rfl rfl rfl rfl
  | release n => exact h.release n
  | replacementForConfig sha generation => exact h.replacementForConfig sha generation

theorem Numbered.run (h : s.Numbered) (ops : List Op) : (s.run cfg resolver ops).Numbered := by
  induction ops generalizing s with
  | nil => exact h
  | cons op ops ih => exact ih (h.exec op)

/-- What holds of an intake, whatever was called before. -/
structure Lawful (cfg : IngressConfig) (resolver : Option ControlAssociationResolver)
    (s : Intake) : Prop where
  numbered : s.Numbered
  /-- `drain_one` takes the head of the queue of a shard. -/
  drains : ∀ shard, normalized shard = true →
    (s.admission.ingress.drainOneFrom s.admission.budget shard).1 =
      .ok (s.admission.ingress.queue shard).head?
  /-- A call that raises or overflows takes nothing in. -/
  left : ∀ o, (∃ e, (RawIngress.tryAcceptWith cfg resolver o s.admission).1 = .error e) ∨
      (∃ record, (RawIngress.tryAcceptWith cfg resolver o s.admission).1 =
        .ok ⟨.overflow, record⟩) ∨
      (∃ record, (RawIngress.tryAcceptWith cfg resolver o s.admission).1 =
        .ok ⟨.controlOverflow, record⟩) →
    RawIngress.Left s.admission (RawIngress.tryAcceptWith cfg resolver o s.admission)
  /-- A call that accepts returns the record that is taken in. -/
  taken : ∀ o result, (RawIngress.tryAcceptWith cfg resolver o s.admission).1 = .ok result →
    (result.status = .accepted ∨ result.status = .acceptedHighWater) →
      ∃ record, result.record = some record ∧
        (s.exec cfg resolver (.tryAccept o)).accepted = s.accepted ++ [(o.shard, record)]
  /-- A superseded ingress does not accept, and has nothing left to drain, take or hand over. -/
  never : ∀ i ∈ s.superseded, ∀ budget clock o,
    RawIngress.tryAcceptWith cfg resolver o ⟨i, budget, clock⟩ =
      (.ok ⟨.notAccepting, none⟩, ⟨i, budget, clock⟩)
  inert : ∀ i ∈ s.superseded, ∀ budget,
    (∀ shard, (i.drainOneFrom budget shard).2 = i ∧
      (i.drainOneFrom budget shard).1.toOption.join = none) ∧
    (∀ id, i.takeControlAssociation id = (none, i)) ∧
    ∀ sha generation, ∃ e, i.supersede budget sha generation = .error e

theorem Retired.inert {i : RawIngress} (h : Retired i) (budget : ResidentBudget) :
    (∀ shard, (i.drainOneFrom budget shard).2 = i ∧
      (i.drainOneFrom budget shard).1.toOption.join = none) ∧
    (∀ id, i.takeControlAssociation id = (none, i)) ∧
    ∀ sha generation, ∃ e, i.supersede budget sha generation = .error e := by
  have hpending : i.pendingControlAssociations = Dict.empty := Dict.ext h.pending
  refine ⟨?_, ?_, ?_⟩
  · intro shard
    have hqueue := h.queues shard
    unfold RawIngress.queue at hqueue
    unfold RawIngress.drainOneFrom
    split
    · exact ⟨rfl, rfl⟩
    split
    · exact ⟨rfl, rfl⟩
    · exact ⟨rfl, rfl⟩
    · next r rest hq =>
      rw [hq] at hqueue
      cases hqueue
  · intro id
    simp only [RawIngress.takeControlAssociation, hpending, Dict.get?_empty]
    rw [Dict.erase_of_not_mem (by simp [Dict.keys]), ← hpending]
  · intro sha generation
    cases hr : i.supersede budget sha generation with
    | error e => exact ⟨e, rfl⟩
    | ok replaced =>
      have hopen := (supersede_ok hr).1
      rw [h.superseded] at hopen
      cases hopen

theorem Numbered.lawful (h : s.Numbered) : s.Lawful cfg resolver := by
  refine ⟨h, ?_, ?_, ?_, ?_, fun i hi => (h.retired i hi).inert⟩
  · intro shard hshard
    obtain ⟨i, -, ⟨-, hfalse, -⟩ | ⟨hnone, hqueue, -⟩ | ⟨r, rest, hsome, hqueue, -⟩⟩ :=
      h.drainOneFrom_cases shard
    · rw [hshard] at hfalse
      cases hfalse
    · rw [hnone, hqueue]; rfl
    · rw [hsome, hqueue]; rfl
  · intro o hresult
    obtain hleft | ⟨-, -, capacityClass, charge, association, htaken⟩ :=
      RawIngress.tryAcceptWith_cases cfg resolver o s.admission
    · exact hleft
    · obtain ⟨status, hstatus, haccepted⟩ := htaken.result
      rw [hstatus] at hresult
      obtain ⟨e, he⟩ | ⟨record, he⟩ | ⟨record, he⟩ := hresult
      · cases he
      · cases he
        obtain h | h := haccepted <;> cases h
      · cases he
        obtain h | h := haccepted <;> cases h
  · intro o result hresult haccepted
    obtain hleft | ⟨-, -, capacityClass, charge, association, htaken⟩ :=
      RawIngress.tryAcceptWith_cases cfg resolver o s.admission
    · obtain ⟨hne, hne'⟩ := hleft.status result hresult
      obtain h | h := haccepted
      · exact absurd h hne
      · exact absurd h hne'
    · obtain ⟨status, hstatus, -⟩ := htaken.result
      rw [hstatus, Except.ok.injEq] at hresult
      subst hresult
      refine ⟨_, rfl, ?_⟩
      simp only [Intake.exec]
      rw [hstatus]
      rfl
  · intro i hi budget clock o
    unfold RawIngress.tryAcceptWith
    rw [if_pos (h.retired i hi).superseded]

/-- After every run on an ingress and its replacements, the accepted records are numbered from
zero without gap or repeat, the queues are in order and account for their bytes, superseded
ingresses stay shut, and a call that raises or overflows takes nothing in. -/
theorem run_accepts (cfg : IngressConfig) (resolver : Option ControlAssociationResolver)
    (sha : String) (generation : Nat) (clock : Clock) (ops : List Op) :
    ((start cfg sha generation clock).run cfg resolver ops).Lawful cfg resolver :=
  ((numbered_start cfg sha generation clock).run ops).lawful

end Intake

end CryptoCollector.Storage
