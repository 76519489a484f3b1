import CryptoCollector.Storage.Ingress

/-!
# The resident budget on its own

`storage/ingress.py: ResidentBudget` with the checks of its arguments and with counters that could
go below zero. A value of a wrong type is `none`. The keys of the charges are any type: the
source's are pairs of a worker instance id and an acceptance ordinal, of which the admission model
keeps the ordinal.

* `Balanced`: what the counters say and which bounds hold.
* `run_balanced`: so it is after every sequence of calls, and a control charge within its reserve
  always fits.
* `reserve_ofResident`, `release_ofResident`: the budget of the admission model is this one.
-/

namespace CryptoCollector.Storage.Residency

open Lib

/-- The exceptions of the budget, with their messages. -/
inductive BudgetError where
  | typeError (message : String)
  | valueError (message : String)
  | keyError (message : String)
  deriving DecidableEq

/-- `_MAX_SIGNED_INT64`. -/
def maxSignedInt64 : Int := 9223372036854775807

/-- `_integer`. -/
def integer (value : Option Int) (fieldName : String) : Except BudgetError Nat :=
  match value with
  | none => .error (.typeError (fieldName ++ " must be an integer"))
  | some value =>
    if value < 0 then .error (.valueError (fieldName ++ " must be non-negative"))
    else if maxSignedInt64 < value then
      .error (.valueError (fieldName ++ " must fit a signed 64-bit integer"))
    else .ok value.toNat

/-- `ResidentBudget`. -/
structure Budget (κ : Type) where
  workerMaxBytes : Nat
  controlReserveBytes : Nat
  charges : Dict κ ResidentCharge := Dict.empty
  normalResidentRecords : Int := 0
  normalResidentBytes : Int := 0
  controlResidentRecords : Int := 0
  controlResidentBytes : Int := 0

namespace Budget

variable {κ : Type} [DecidableEq κ]

/-- `ResidentBudget.__init__`. -/
def new (workerMaxBytes controlReserveBytes : Option Int) : Except BudgetError (Budget κ) := do
  let maximum ← integer workerMaxBytes "worker_max_bytes"
  let reserve ← integer controlReserveBytes "control_reserve_bytes"
  if maximum = 0 then throw (.valueError "worker_max_bytes must be positive")
  if reserve = 0 ∨ maximum ≤ reserve then
    throw (.valueError "control_reserve_bytes must be positive and below worker_max_bytes")
  return { workerMaxBytes := maximum, controlReserveBytes := reserve }

/-- `normal_capacity_bytes`. -/
def normalCapacityBytes (b : Budget κ) : Int := b.workerMaxBytes - b.controlReserveBytes

/-- `resident_bytes`. -/
def residentBytes (b : Budget κ) : Int := b.normalResidentBytes + b.controlResidentBytes

/-- `fits`. -/
def fits (b : Budget κ) (capacityClass : Option CapacityClass) (chargeBytes : Option Int) :
    Except BudgetError Bool :=
  match capacityClass with
  | none => .error (.typeError "capacity_class must be CapacityClass")
  | some capacityClass => do
    let charge ← integer chargeBytes "charge_bytes"
    if charge = 0 then throw (.valueError "charge_bytes must be positive")
    if b.workerMaxBytes < b.residentBytes + charge then return false
    match capacityClass with
    | .normal => return b.normalResidentBytes + charge ≤ b.normalCapacityBytes
    | .control => return true

/-- `_charge_key`. -/
def chargeKey (identity : Option κ) : Except BudgetError κ :=
  identity.elim (.error (.typeError "identity must be AcceptedRecordIdentityV1")) .ok

/-- The bookkeeping of `reserve`. -/
def add (b : Budget κ) (key : κ) (capacityClass : CapacityClass) (charge : Nat) : Budget κ :=
  let b := { b with charges := b.charges.set key ⟨capacityClass, charge⟩ }
  match capacityClass with
  | .normal => { b with
      normalResidentRecords := b.normalResidentRecords + 1
      normalResidentBytes := b.normalResidentBytes + charge }
  | .control => { b with
      controlResidentRecords := b.controlResidentRecords + 1
      controlResidentBytes := b.controlResidentBytes + charge }

/-- `reserve`. -/
def reserve (identity : Option κ) (capacityClass : Option CapacityClass)
    (chargeBytes : Option Int) : Proc BudgetError (Budget κ) := fun b =>
  match chargeKey identity with
  | .error e => (some e, b)
  | .ok key =>
    if b.charges.contains key then (some (.valueError "duplicate resident charge identity"), b)
    else
      match integer chargeBytes "charge_bytes" with
      | .error e => (some e, b)
      | .ok charge =>
        match b.fits capacityClass (some charge), capacityClass with
        | .error e, _ => (some e, b)
        | .ok true, some capacityClass => (none, b.add key capacityClass charge)
        | .ok _, _ => (some (.valueError "resident charge exceeds its capacity"), b)

/-- The bookkeeping of `release`. -/
def remove (b : Budget κ) (key : κ) (charge : ResidentCharge) : Budget κ :=
  let b := { b with charges := b.charges.erase key }
  match charge.capacityClass with
  | .normal => { b with
      normalResidentRecords := b.normalResidentRecords - 1
      normalResidentBytes := b.normalResidentBytes - charge.chargeBytes }
  | .control => { b with
      controlResidentRecords := b.controlResidentRecords - 1
      controlResidentBytes := b.controlResidentBytes - charge.chargeBytes }

/-- `release`. -/
def release (identity : Option κ) : Proc BudgetError (Budget κ) := fun b =>
  match chargeKey identity with
  | .error e => (some e, b)
  | .ok key =>
    match b.charges.get? key with
    | none => (some (.keyError "unknown resident charge identity"), b)
    | some charge => (none, b.remove key charge)

/-! ## Runs -/

/-- A call that may change the budget. -/
inductive Call (κ : Type) where
  | reserve (identity : Option κ) (capacityClass : Option CapacityClass)
      (chargeBytes : Option Int)
  | release (identity : Option κ)

/-- What a call does. -/
def Call.exec : Call κ → Proc BudgetError (Budget κ)
  | .reserve identity capacityClass chargeBytes =>
    Budget.reserve identity capacityClass chargeBytes
  | .release identity => Budget.release identity

/-- The budget after some calls, whether they raise or not. -/
def run (b : Budget κ) : List (Call κ) → Budget κ
  | [] => b
  | call :: calls => (call.exec b).2.run calls

/-! ## The books -/

/-- The number of live charges of a class. -/
def liveRecords (b : Budget κ) (capacityClass : CapacityClass) : Nat :=
  (b.charges.entries.map fun e => if e.2.capacityClass = capacityClass then 1 else 0).sum

/-- The bytes of the live charges of a class. -/
def liveBytes (b : Budget κ) (capacityClass : CapacityClass) : Nat :=
  (b.charges.entries.map fun e =>
    if e.2.capacityClass = capacityClass then e.2.chargeBytes else 0).sum

/-- The record counter of a class. -/
def recordsOf (b : Budget κ) : CapacityClass → Int
  | .normal => b.normalResidentRecords
  | .control => b.controlResidentRecords

/-- The byte counter of a class. -/
def bytesOf (b : Budget κ) : CapacityClass → Int
  | .normal => b.normalResidentBytes
  | .control => b.controlResidentBytes

/-- The counters are the sums over the live charges, and the two bounds hold. -/
structure Balanced (b : Budget κ) : Prop where
  records : ∀ capacityClass, b.recordsOf capacityClass = b.liveRecords capacityClass
  bytes : ∀ capacityClass, b.bytesOf capacityClass = b.liveBytes capacityClass
  resident_le : b.residentBytes ≤ b.workerMaxBytes
  normal_le : b.normalResidentBytes ≤ b.workerMaxBytes - b.controlReserveBytes

theorem integer_ok {value : Nat} (h : (value : Int) ≤ maxSignedInt64) (fieldName : String) :
    integer (some value) fieldName = .ok value := by
  have hneg : ¬ (value : Int) < 0 := by omega
  simp only [integer, if_neg hneg, if_neg (not_lt.mpr h), Int.toNat_natCast]

theorem integer_le {value : Option Int} {fieldName : String} {n : Nat}
    (h : integer value fieldName = .ok n) : (n : Int) ≤ maxSignedInt64 := by
  unfold integer at h
  split at h
  · cases h
  split at h
  · cases h
  split at h
  · cases h
  · cases h
    omega

omit [DecidableEq κ] in
/-- What `fits` has checked. -/
theorem fits_eq_ok_true {b : Budget κ} {capacityClass : CapacityClass} {charge : Nat}
    (h : (charge : Int) ≤ maxSignedInt64) :
    b.fits (some capacityClass) (some charge) = .ok true ↔
      0 < charge ∧ b.residentBytes + charge ≤ b.workerMaxBytes ∧
        (capacityClass = .normal → b.normalResidentBytes + charge ≤ b.normalCapacityBytes) := by
  simp only [fits, integer_ok h]
  by_cases hzero : charge = 0
  · simp [hzero, bind, Except.bind, throw, throwThe, MonadExceptOf.throw]
  by_cases hmax : b.workerMaxBytes < b.residentBytes + charge
  · simp [hzero, hmax, bind, Except.bind, pure, Except.pure]
  have hpos : 0 < charge := Nat.pos_of_ne_zero hzero
  cases capacityClass with
  | normal => simp [hzero, hmax, hpos, not_lt.mp hmax, bind, Except.bind, pure, Except.pure]
  | control => simp [hzero, hmax, hpos, not_lt.mp hmax, bind, Except.bind, pure, Except.pure]

/-- A call that raises leaves the budget as it is, `reserve` adds a fresh charge that fits, and
`release` removes a live one. -/
theorem exec_cases (call : Call κ) (b : Budget κ) :
    (∃ e, call.exec b = (some e, b)) ∨
    (∃ key capacityClass, ∃ charge : Nat, key ∉ b.charges.keys ∧
      (charge : Int) ≤ maxSignedInt64 ∧
      b.fits (some capacityClass) (some charge) = .ok true ∧
      call.exec b = (none, b.add key capacityClass charge)) ∨
    (∃ key charge, b.charges.get? key = some charge ∧
      call.exec b = (none, b.remove key charge)) := by
  cases call with
  | reserve identity capacityClass chargeBytes =>
    simp only [Call.exec, reserve]
    split
    · exact .inl ⟨_, rfl⟩
    split
    · exact .inl ⟨_, rfl⟩
    next key _ hfresh =>
      split
      · exact .inl ⟨_, rfl⟩
      next charge hcharge =>
        split
        · exact .inl ⟨_, rfl⟩
        · next capacityClass hfits =>
          refine .inr (.inl ⟨key, capacityClass, charge, ?_, integer_le hcharge, hfits, rfl⟩)
          rwa [← Dict.contains_iff]
        · exact .inl ⟨_, rfl⟩
  | release identity =>
    simp only [Call.exec, release]
    split
    · exact .inl ⟨_, rfl⟩
    next key _ =>
      split
      · exact .inl ⟨_, rfl⟩
      next charge hcharge => exact .inr (.inr ⟨key, charge, hcharge, rfl⟩)

section Steps

variable {b : Budget κ} {key : κ} {capacityClass : CapacityClass}

/-- A charge is added to the sums and to the counters of its class. -/
theorem live_add (hfresh : key ∉ b.charges.keys) (charge : Nat) (other : CapacityClass) :
    (b.add key capacityClass charge).liveRecords other =
        b.liveRecords other + (if capacityClass = other then 1 else 0) ∧
      (b.add key capacityClass charge).liveBytes other =
        b.liveBytes other + (if capacityClass = other then charge else 0) := by
  have hcharges : (b.add key capacityClass charge).charges =
      b.charges.set key ⟨capacityClass, charge⟩ := by
    cases capacityClass <;> rfl
  unfold liveRecords liveBytes
  rw [hcharges]
  exact ⟨Dict.sum_set_of_not_mem _ _ _ hfresh, Dict.sum_set_of_not_mem _ _ _ hfresh⟩

theorem counters_add (charge : Nat) (other : CapacityClass) :
    (b.add key capacityClass charge).recordsOf other =
        b.recordsOf other + (if capacityClass = other then 1 else 0) ∧
      (b.add key capacityClass charge).bytesOf other =
        b.bytesOf other + (if capacityClass = other then charge else 0) := by
  cases capacityClass <;> cases other <;> simp [add, recordsOf, bytesOf]

/-- A charge is taken from the sums and from the counters of its class. -/
theorem live_remove {charge : ResidentCharge} (h : b.charges.get? key = some charge)
    (other : CapacityClass) :
    (b.remove key charge).liveRecords other +
        (if charge.capacityClass = other then 1 else 0) = b.liveRecords other ∧
      (b.remove key charge).liveBytes other +
        (if charge.capacityClass = other then charge.chargeBytes else 0) = b.liveBytes other := by
  have hcharges : (b.remove key charge).charges = b.charges.erase key := by
    unfold remove
    split <;> rfl
  unfold liveRecords liveBytes
  rw [hcharges]
  exact ⟨Dict.sum_erase _ (fun e => if e.2.capacityClass = other then 1 else 0) h,
    Dict.sum_erase _ (fun e => if e.2.capacityClass = other then e.2.chargeBytes else 0) h⟩

theorem counters_remove (charge : ResidentCharge) (other : CapacityClass) :
    (b.remove key charge).recordsOf other =
        b.recordsOf other - (if charge.capacityClass = other then 1 else 0) ∧
      (b.remove key charge).bytesOf other =
        b.bytesOf other - (if charge.capacityClass = other then charge.chargeBytes else 0) := by
  obtain ⟨capacityClass, chargeBytes⟩ := charge
  cases capacityClass <;> cases other <;> simp [remove, recordsOf, bytesOf]

@[simp] theorem workerMaxBytes_add (charge : Nat) :
    (b.add key capacityClass charge).workerMaxBytes = b.workerMaxBytes := by
  cases capacityClass <;> rfl

@[simp] theorem controlReserveBytes_add (charge : Nat) :
    (b.add key capacityClass charge).controlReserveBytes = b.controlReserveBytes := by
  cases capacityClass <;> rfl

@[simp] theorem workerMaxBytes_remove (charge : ResidentCharge) :
    (b.remove key charge).workerMaxBytes = b.workerMaxBytes := by
  unfold remove
  split <;> rfl

@[simp] theorem controlReserveBytes_remove (charge : ResidentCharge) :
    (b.remove key charge).controlReserveBytes = b.controlReserveBytes := by
  unfold remove
  split <;> rfl

omit [DecidableEq κ] in
theorem residentBytes_eq (b : Budget κ) :
    b.residentBytes = b.bytesOf .normal + b.bytesOf .control := rfl

theorem balanced_add (h : b.Balanced) (hfresh : key ∉ b.charges.keys) {charge : Nat}
    (hle : (charge : Int) ≤ maxSignedInt64)
    (hfits : b.fits (some capacityClass) (some charge) = .ok true) :
    (b.add key capacityClass charge).Balanced := by
  obtain ⟨hpos, hmax, hnormal⟩ := (fits_eq_ok_true hle).1 hfits
  refine ⟨fun other => ?_, fun other => ?_, ?_, ?_⟩
  · rw [(counters_add charge other).1, (live_add hfresh charge other).1, h.records]
    split <;> simp
  · rw [(counters_add charge other).2, (live_add hfresh charge other).2, h.bytes]
    split <;> simp
  · rw [residentBytes_eq, (counters_add charge _).2, (counters_add charge _).2,
      workerMaxBytes_add]
    rw [residentBytes_eq] at hmax
    cases capacityClass <;> simp only [reduceCtorEq, if_true, if_false] <;> omega
  · have hcapacity := h.normal_le
    change (b.add key capacityClass charge).bytesOf .normal ≤ _
    rw [(counters_add charge _).2, workerMaxBytes_add, controlReserveBytes_add]
    cases capacityClass with
    | normal => exact hnormal rfl
    | control => exact (Int.add_zero _).trans_le hcapacity

theorem balanced_remove (h : b.Balanced) {charge : ResidentCharge}
    (hlive : b.charges.get? key = some charge) : (b.remove key charge).Balanced := by
  refine ⟨fun other => ?_, fun other => ?_, ?_, ?_⟩
  · have hrecords := (live_remove hlive other).1
    rw [(counters_remove charge other).1, h.records, ← hrecords]
    split <;> simp
  · have hbytes := (live_remove hlive other).2
    rw [(counters_remove charge other).2, h.bytes, ← hbytes]
    split <;> simp
  · have hle := h.resident_le
    rw [residentBytes_eq] at hle ⊢
    rw [(counters_remove charge _).2, (counters_remove charge _).2, workerMaxBytes_remove]
    split <;> split <;> omega
  · have hle := h.normal_le
    change (b.remove key charge).bytesOf .normal ≤ _
    change b.bytesOf .normal ≤ _ at hle
    rw [(counters_remove charge _).2, workerMaxBytes_remove, controlReserveBytes_remove]
    split <;> omega

/-- Every call keeps the books balanced, and the limits as they are. -/
theorem balanced_exec (h : b.Balanced) (call : Call κ) :
    (call.exec b).2.Balanced ∧ (call.exec b).2.workerMaxBytes = b.workerMaxBytes ∧
      (call.exec b).2.controlReserveBytes = b.controlReserveBytes := by
  rcases exec_cases call b with ⟨e, he⟩ | ⟨key, capacityClass, charge, hfresh, hle, hfits, he⟩ |
    ⟨key, charge, hlive, he⟩
  · rw [he]
    exact ⟨h, rfl, rfl⟩
  · rw [he]
    exact ⟨balanced_add h hfresh hle hfits, workerMaxBytes_add _, controlReserveBytes_add _⟩
  · rw [he]
    exact ⟨balanced_remove h hlive, workerMaxBytes_remove _, controlReserveBytes_remove _⟩

theorem balanced_after (h : b.Balanced) (calls : List (Call κ)) :
    (b.run calls).Balanced ∧ (b.run calls).workerMaxBytes = b.workerMaxBytes ∧
      (b.run calls).controlReserveBytes = b.controlReserveBytes := by
  induction calls generalizing b with
  | nil => exact ⟨h, rfl, rfl⟩
  | cons call calls ih =>
    obtain ⟨hstep, hmax, hreserve⟩ := balanced_exec h call
    obtain ⟨hrest, hmax', hreserve'⟩ := ih hstep
    exact ⟨hrest, hmax'.trans hmax, hreserve'.trans hreserve⟩

end Steps

omit [DecidableEq κ] in
/-- A new budget is empty, and its reserve is below its limit. -/
theorem new_eq_ok {workerMaxBytes controlReserveBytes : Option Int} {b : Budget κ}
    (h : new workerMaxBytes controlReserveBytes = .ok b) :
    b.Balanced ∧ (b.workerMaxBytes : Int) ≤ maxSignedInt64 ∧
      b.controlReserveBytes < b.workerMaxBytes := by
  unfold new at h
  cases hmax : integer workerMaxBytes "worker_max_bytes" with
  | error e =>
    rw [hmax] at h
    cases h
  | ok maximum =>
    cases hres : integer controlReserveBytes "control_reserve_bytes" with
    | error e =>
      rw [hmax, hres] at h
      cases h
    | ok reserve =>
      rw [hmax, hres] at h
      simp only [bind, Except.bind, pure, Except.pure, throw, throwThe, MonadExceptOf.throw] at h
      split at h
      · cases h
      split at h
      · cases h
      next hlimits =>
        cases h
        have hlt : reserve < maximum := by omega
        refine ⟨⟨?_, ?_, ?_, ?_⟩, integer_le hmax, hlt⟩
        · intro capacityClass
          cases capacityClass <;> rfl
        · intro capacityClass
          cases capacityClass <;> rfl
        · simp [residentBytes]
        · simp
          omega

/-- Two workers share a budget: a normal charge too many is refused, a control charge still fits,
a release refunds its own class, and one of an unknown identity raises. -/
def twoWorkers : List (Call (String × Nat)) :=
  [.reserve (some ("a", 0)) (some .normal) (some 6), .reserve (some ("b", 0)) (some .normal) (some 2),
    .reserve (some ("b", 0)) (some .control) (some 3), .release (some ("a", 0)),
    .release (some ("a", 0)), .reserve (some ("a", 1)) none (some 1)]

/-- The budget that the ingress and the service share. -/
def ofResident (b : ResidentBudget) : Budget Nat where
  workerMaxBytes := b.workerMaxBytes
  controlReserveBytes := b.controlReserveBytes
  charges := b.charges
  normalResidentRecords := b.normalResidentRecords
  normalResidentBytes := b.normalResidentBytes
  controlResidentRecords := b.controlResidentRecords
  controlResidentBytes := b.controlResidentBytes

theorem fits_ofResident (b : ResidentBudget) (capacityClass : CapacityClass) {charge : Nat}
    (hpos : 0 < charge) (hle : (charge : Int) ≤ maxSignedInt64) :
    (ofResident b).fits (some capacityClass) (some charge) = .ok (b.fits capacityClass charge) := by
  have hzero : charge ≠ 0 := hpos.ne'
  have hmax : ((ofResident b).workerMaxBytes : Int) < (ofResident b).residentBytes + charge ↔
      b.workerMaxBytes < b.residentBytes + charge := by
    simp only [ofResident, residentBytes, ResidentBudget.residentBytes]
    omega
  simp only [fits, integer_ok hle, ResidentBudget.fits, bind, Except.bind, pure, Except.pure,
    if_neg hzero, hmax]
  split
  · rfl
  · cases capacityClass with
    | normal =>
      have hnormal : (ofResident b).normalResidentBytes + charge ≤
          (ofResident b).normalCapacityBytes ↔
          b.normalResidentBytes + charge ≤ b.workerMaxBytes - b.controlReserveBytes := by
        simp only [ofResident, normalCapacityBytes]
        omega
      simp only [hnormal]
    | control => rfl

/-- A charge that is not empty is reserved alike. -/
theorem reserve_ofResident (b : ResidentBudget) (ordinal : Nat) (capacityClass : CapacityClass)
    {charge : Nat} (hpos : 0 < charge) (hle : (charge : Int) ≤ maxSignedInt64) :
    ((ofResident b).reserve (some ordinal) (some capacityClass) (some charge)).2 =
        ofResident (b.reserve ordinal capacityClass charge).2 ∧
      (((ofResident b).reserve (some ordinal) (some capacityClass) (some charge)).1 = none ↔
        (b.reserve ordinal capacityClass charge).1 = none) := by
  have hkey : chargeKey (some ordinal) = .ok ordinal := rfl
  have hcharges : (ofResident b).charges = b.charges := rfl
  unfold reserve ResidentBudget.reserve
  rw [hkey]
  simp only [hcharges, integer_ok hle, fits_ofResident b capacityClass hpos hle]
  by_cases hlive : b.charges.contains ordinal = true
  · simp [hlive]
  · cases hfits : b.fits capacityClass charge with
    | false => simp [hlive]
    | true => cases capacityClass <;> simp [hlive, add, ofResident]

/-- While the books are balanced a charge is released alike. -/
theorem release_ofResident (b : ResidentBudget) (h : (ofResident b).Balanced) (ordinal : Nat) :
    ((ofResident b).release (some ordinal)).2 = ofResident (b.release ordinal).2 ∧
      (((ofResident b).release (some ordinal)).1 = none ↔ (b.release ordinal).1 = none) := by
  have hkey : chargeKey (some ordinal) = .ok ordinal := rfl
  have hcharges : (ofResident b).charges = b.charges := rfl
  unfold release ResidentBudget.release
  rw [hkey]
  simp only [hcharges]
  cases hlive : b.charges.get? ordinal with
  | none => simp
  | some charge =>
    obtain ⟨capacityClass, chargeBytes⟩ := charge
    have hlive' : (ofResident b).charges.get? ordinal = some ⟨capacityClass, chargeBytes⟩ := hlive
    obtain ⟨hone, hcharge⟩ := live_remove hlive' capacityClass
    simp only [if_true] at hone hcharge
    have hrecords := h.records capacityClass
    have hbytes := h.bytes capacityClass
    refine ⟨?_, by simp⟩
    -- the sums cover the charge, so no counter goes below zero
    cases capacityClass with
    | normal =>
      have hpos : 1 ≤ b.normalResidentRecords := by
        simp only [recordsOf, ofResident] at hrecords hone
        omega
      have hle : chargeBytes ≤ b.normalResidentBytes := by
        simp only [bytesOf, ofResident] at hbytes hcharge
        omega
      simp [remove, ofResident]
      omega
    | control =>
      have hpos : 1 ≤ b.controlResidentRecords := by
        simp only [recordsOf, ofResident] at hrecords hone
        omega
      have hle : chargeBytes ≤ b.controlResidentBytes := by
        simp only [bytesOf, ofResident] at hbytes hcharge
        omega
      simp [remove, ofResident]
      omega

end Budget

end CryptoCollector.Storage.Residency
