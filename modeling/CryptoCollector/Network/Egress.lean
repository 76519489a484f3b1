import Mathlib.Data.List.Basic

/-!
# Egresses and their health

`config/models.py: EgressConfig`, which `network/models.py` calls `Egress`, and
`network/health.py: HealthSnapshot`.
-/

namespace CryptoCollector.Network

/-- An exchange, with a quota group or with an egress. -/
abbrev Key := String × String

/-- `EgressConfig`, with the fields that the network reads. -/
structure Egress where
  id : String
  quotaGroup : String
  maxWsConnections : Nat
  id_ne : id ≠ ""
  quotaGroup_ne : quotaGroup ≠ ""
  maxWsConnections_pos : 0 < maxWsConnections
  deriving DecidableEq

/-- `HealthSnapshot`. -/
structure HealthSnapshot where
  unavailable : List Key := []
  probeEligible : List Key := []
  subset : ∀ key ∈ probeEligible, key ∈ unavailable := by simp

/-- `HealthSnapshot.is_available`. -/
def HealthSnapshot.isAvailable (h : HealthSnapshot) (exchange egressId : String) : Bool :=
  (exchange, egressId) ∉ h.unavailable

end CryptoCollector.Network
