import CryptoCollector.Lib.Ranking
import CryptoCollector.Selection.Capacity

/-!
# Ties at the limit of an admission

`selection/capacity.py: _admission_order, _eviction_order`. The two orders reverse each other on
the priorities and on the ranks or times, but both put the smaller instrument key first. So
`admit` keeps the prefix of the admission order, which `_connection_chunk` has counted on, exactly
when no group of tied candidates lies across the limit.

* `mem_take_admission`, `mem_evicted_iff`: who is in the prefix, and who is evicted, by counting.
* `keepsPrefix_iff`: when the two agree.
-/

namespace CryptoCollector.Selection

open Lib

/-- What the two orders compare before the keys. -/
def tier (c : CapacityCandidate) : ℕ ×ₗ ℤ :=
  match c.priority with
  | .fixed => toLex (0, 0)
  | .newListing => toLex (1, (c.firstSeenNs : Int))
  | .topN => toLex (2, ((c.topNRank.getD 0 : Nat) : Int))

/-- Candidates of one tier with smaller keys come first in the admission order. -/
theorem admissionOrder_lt {c d : CapacityCandidate} : admissionOrder c < admissionOrder d ↔
    tier c < tier d ∨ tier c = tier d ∧ c.instrumentKey < d.instrumentKey := by
  cases hc : c.priority <;> cases hd : d.priority <;>
    simp [admissionOrder, tier, hc, hd, Prod.Lex.toLex_lt_toLex]

/-- The eviction order goes through the tiers backwards, and through each of them forwards. -/
theorem evictionOrder_lt {c d : CapacityCandidate} : evictionOrder c < evictionOrder d ↔
    tier d < tier c ∨ tier c = tier d ∧ c.instrumentKey < d.instrumentKey := by
  cases hc : c.priority <;> cases hd : d.priority <;>
    simp [evictionOrder, tier, hc, hd, Prod.Lex.toLex_lt_toLex]

/-- The fixed candidates are the lowest tier. -/
theorem tier_fixed_le {c : CapacityCandidate} (hc : c.priority = .fixed) (d : CapacityCandidate) :
    tier c ≤ tier d := by
  cases hd : d.priority <;> simp [tier, hc, hd, Prod.Lex.toLex_le_toLex]

theorem fixed_of_tier_eq {c d : CapacityCandidate} (hc : c.priority = .fixed)
    (h : tier c = tier d) : d.priority = .fixed := by
  cases hd : d.priority <;> simp_all [tier]

/-! ## Places -/

variable {candidates : List CapacityCandidate}

/-- The candidates of lower tiers. -/
def before (candidates : List CapacityCandidate) (c : CapacityCandidate) : Nat :=
  candidates.countP fun d => tier d < tier c

/-- The candidates of lower tiers and of its own. -/
def upTo (candidates : List CapacityCandidate) (c : CapacityCandidate) : Nat :=
  candidates.countP fun d => tier d ≤ tier c

/-- The tied candidates with smaller keys. -/
def tiedBefore (candidates : List CapacityCandidate) (c : CapacityCandidate) : Nat :=
  candidates.countP fun d => tier d = tier c ∧ d.instrumentKey < c.instrumentKey

theorem upTo_le (candidates : List CapacityCandidate) (c : CapacityCandidate) :
    upTo candidates c ≤ candidates.length := List.countP_le_length

/-- A candidate is itself one of its tier. -/
theorem before_add_tiedBefore_lt {c : CapacityCandidate} (hc : c ∈ candidates) :
    before candidates c + tiedBefore candidates c < upTo candidates c := by
  have htied : upTo candidates c =
      before candidates c + candidates.countP fun d => tier d = tier c := by
    refine countP_eq_add fun d _ => ?_
    simp only [decide_eq_true_eq]
    exact ⟨le_iff_lt_or_eq, fun h => h.1.ne h.2⟩
  have hrest : (candidates.countP fun d => tier d = tier c) = tiedBefore candidates c +
      candidates.countP fun d => tier d = tier c ∧ ¬ d.instrumentKey < c.instrumentKey := by
    refine countP_eq_add fun d _ => ?_
    simp only [decide_eq_true_eq]
    by_cases hd : d.instrumentKey < c.instrumentKey <;> simp [hd]
  have hself : 0 < candidates.countP fun d =>
      tier d = tier c ∧ ¬ d.instrumentKey < c.instrumentKey :=
    List.countP_pos_iff.mpr ⟨c, hc, by simp⟩
  omega

theorem nodup_map_admissionOrder (h : (candidates.map (·.instrumentKey)).Nodup) :
    (candidates.map admissionOrder).Nodup := by
  refine List.Nodup.of_map (fun o => (ofLex (ofLex o).2).2) ?_
  rw [List.map_map]
  exact (List.map_congr_left fun c _ => admissionOrder_key c).symm ▸ h

theorem nodup_map_evictionOrder (h : (candidates.map (·.instrumentKey)).Nodup) :
    (candidates.map evictionOrder).Nodup := by
  refine List.Nodup.of_map (fun o => (ofLex (ofLex o).2).2) ?_
  rw [List.map_map]
  exact (List.map_congr_left fun c _ => evictionOrder_key c).symm ▸ h

/-- The prefix of the admission order has the candidates with few candidates before them. -/
theorem mem_take_admission (hkeys : (candidates.map (·.instrumentKey)).Nodup)
    {c : CapacityCandidate} (hc : c ∈ candidates) (slots : Nat) :
    c ∈ (sortedBy admissionOrder candidates).take slots ↔
      before candidates c + tiedBefore candidates c < slots := by
  rw [mem_take_sortedBy (nodup_map_admissionOrder hkeys) hc]
  rw [countP_eq_add (q := fun d => tier d < tier c)
    (r := fun d => tier d = tier c ∧ d.instrumentKey < c.instrumentKey)]
  · rfl
  intro d _
  simp only [decide_eq_true_eq, admissionOrder_lt, true_and]
  exact fun h => h.1.ne h.2.1

/-- Those that are evicted have few candidates of higher tiers, and few tied ones of smaller keys,
among the candidates that are not fixed. -/
theorem mem_evicted_iff (hkeys : (candidates.map (·.instrumentKey)).Nodup)
    {c : CapacityCandidate} (hc : c ∈ candidates) (slots : Nat) :
    c ∈ evicted candidates slots ↔ c.priority ≠ .fixed ∧
      slots + tiedBefore candidates c < upTo candidates c := by
  have hsub : ((candidates.filter (·.priority ≠ .fixed)).map (·.instrumentKey)).Nodup :=
    hkeys.sublist (List.filter_sublist.map _)
  by_cases hfixed : c.priority = .fixed
  · exact iff_of_false (fun h => (mem_of_mem_evicted h).2 hfixed) fun h => h.1 hfixed
  have hmem : c ∈ candidates.filter (·.priority ≠ .fixed) :=
    List.mem_filter.mpr ⟨hc, by simpa using hfixed⟩
  have hcount : (candidates.filter (·.priority ≠ .fixed)).countP
        (fun d => evictionOrder d < evictionOrder c) =
      (candidates.countP fun d => tier c < tier d) + tiedBefore candidates c := by
    rw [List.countP_filter]
    refine countP_eq_add fun d _ => ?_
    have hother : d.priority = .fixed → ¬ tier c < tier d ∧ ¬ tier d = tier c := fun hd =>
      ⟨not_lt.mpr (tier_fixed_le hd c), fun h => hfixed (fixed_of_tier_eq hd h)⟩
    simp only [decide_eq_true_eq, Bool.and_eq_true, evictionOrder_lt, ne_eq]
    constructor
    · constructor
      · exact fun h => h.1
      · intro h
        refine ⟨h, fun hd => ?_⟩
        exact h.elim (hother hd).1 fun h => (hother hd).2 h.1
    · exact fun h => h.1.ne' h.2.1
  have hlength : candidates.length =
      upTo candidates c + candidates.countP fun d => tier c < tier d := by
    have htrue : candidates.countP (fun _ => true) = candidates.length :=
      congrFun List.countP_true candidates
    rw [← htrue]
    refine countP_eq_add fun d _ => ?_
    simp only [decide_eq_true_eq, true_iff]
    exact ⟨le_or_gt _ _, fun h => h.1.not_gt h.2⟩
  rw [evicted, mem_take_sortedBy (nodup_map_evictionOrder hsub) hmem, hcount]
  constructor
  · exact fun h => ⟨hfixed, by omega⟩
  · rintro ⟨-, h⟩
    omega

/-! ## The prefix -/

/-- `admit` keeps the first candidates of the admission order and rejects the others. -/
def KeepsPrefix (candidates : List CapacityCandidate) (slots : Nat) (a : CapacityAdmission) :
    Prop :=
  a.admitted = ((sortedBy admissionOrder candidates).take
      (min candidates.length slots)).map (·.instrumentKey) ∧
    a.rejected.Perm (((sortedBy admissionOrder candidates).drop
      (min candidates.length slots)).map (·.instrumentKey))

/-- A group of tied candidates begins before the limit and ends after it. -/
def Straddled (candidates : List CapacityCandidate) (slots : Nat) : Prop :=
  ∃ c ∈ candidates, before candidates c < slots ∧ slots < upTo candidates c

instance decidableStraddled (candidates : List CapacityCandidate) (slots : Nat) :
    Decidable (Straddled candidates slots) :=
  inferInstanceAs (Decidable (∃ c ∈ candidates, _ ∧ _))

/-- A tier has a candidate of the smallest key. -/
theorem exists_tiedBefore_eq_zero {c : CapacityCandidate} (hc : c ∈ candidates) :
    ∃ d ∈ candidates, tier d = tier c ∧ tiedBefore candidates d = 0 := by
  have hmem : c ∈ candidates.filter (tier · = tier c) := List.mem_filter.mpr ⟨hc, by simp⟩
  cases hmin : (candidates.filter (tier · = tier c)).argmin (·.instrumentKey) with
  | none =>
    rw [List.argmin_eq_none] at hmin
    rw [hmin] at hmem
    cases hmem
  | some d =>
    have hd := List.mem_filter.mp (List.argmin_mem hmin)
    have htier : tier d = tier c := by simpa using hd.2
    refine ⟨d, hd.1, htier, ?_⟩
    rw [tiedBefore, List.countP_eq_zero]
    intro e he
    simp only [decide_eq_true_eq, not_and, htier]
    intro hte
    exact List.not_lt_of_mem_argmin (List.mem_filter.mpr ⟨he, by simpa using hte⟩) hmin

/-- The candidates that are not evicted are those of the prefix, unless a tie is straddled. -/
theorem kept_iff_prefix (hkeys : (candidates.map (·.instrumentKey)).Nodup) {slots : Nat}
    (hfixed : fixedCount candidates ≤ slots) :
    (∀ c ∈ candidates, c ∉ evicted candidates slots ↔
        c ∈ (sortedBy admissionOrder candidates).take slots) ↔
      ¬ Straddled candidates slots := by
  constructor
  · rintro h ⟨c, hc, hbefore, hupTo⟩
    obtain ⟨d, hd, htier, hfirst⟩ := exists_tiedBefore_eq_zero hc
    have hbefore' : before candidates d = before candidates c := by
      simp only [before, htier]
    have hupTo' : upTo candidates d = upTo candidates c := by
      simp only [upTo, htier]
    -- the fixed candidates are within the limit, so the tie is not theirs
    have hpriority : d.priority ≠ .fixed := by
      intro hdf
      have hle : upTo candidates d ≤ fixedCount candidates := by
        refine List.countP_mono_left fun e _ he => ?_
        rw [decide_eq_true_eq] at he ⊢
        exact fixed_of_tier_eq hdf ((tier_fixed_le hdf e).antisymm he)
      omega
    have hevicted : d ∈ evicted candidates slots :=
      (mem_evicted_iff hkeys hd slots).mpr ⟨hpriority, by omega⟩
    exact (h d hd).mpr ((mem_take_admission hkeys hd slots).mpr (by omega)) hevicted
  · intro h c hc
    have hplace := before_add_tiedBefore_lt hc
    have hout : ¬ (before candidates c < slots ∧ slots < upTo candidates c) :=
      fun hin => h ⟨c, hc, hin⟩
    rw [mem_evicted_iff hkeys hc, mem_take_admission hkeys hc]
    by_cases hcf : c.priority = .fixed
    · have hle : upTo candidates c ≤ slots := by
        refine le_trans (List.countP_mono_left fun e _ he => ?_) hfixed
        rw [decide_eq_true_eq] at he ⊢
        exact fixed_of_tier_eq hcf ((tier_fixed_le hcf e).antisymm he)
      exact iff_of_true (fun hev => hev.1 hcf) (by omega)
    · rw [and_iff_right hcf]
      omega

/-- What `admit` returns without a failure policy. -/
theorem admit_eq {slots : Int} {configSha256 : String} {a : CapacityAdmission}
    (h : admitCandidates candidates slots configSha256 .degradeLowPriorityWithWarning = .ok a) :
    (candidates.map (·.instrumentKey)).Nodup ∧ fixedCount candidates ≤ slots.toNat ∧
      a.admitted = ((sortedBy admissionOrder candidates).filter (·.instrumentKey ∉
        (evicted candidates slots.toNat).map (·.instrumentKey))).map (·.instrumentKey) ∧
      a.rejected = (evicted candidates slots.toNat).map (·.instrumentKey) := by
  obtain ⟨hchecks, h⟩ := checked_eq_ok.mp h
  simp only [orElse_eq_none, integer_eq_none, ite_eq_right_iff, reduceCtorEq, imp_false,
    not_not, not_lt] at hchecks
  obtain ⟨⟨hslots, -⟩, -, hkeys, hfixed⟩ := hchecks
  refine ⟨hkeys, by omega, ?_⟩
  dsimp only at h
  split at h
  · next hfits =>
    cases h
    have hnone : evicted candidates slots.toNat = [] := by
      rw [evicted, Nat.sub_eq_zero_of_le hfits, List.take_zero]
    simp [hnone]
  · rw [if_neg (by simp)] at h
    cases h
    exact ⟨rfl, rfl⟩

/-- An admission with the `degrade` policy keeps the first candidates of the admission order
exactly when no tie lies across the limit. -/
theorem keepsPrefix_iff {slots : Int} {configSha256 : String} {a : CapacityAdmission}
    (h : admitCandidates candidates slots configSha256 .degradeLowPriorityWithWarning = .ok a) :
    KeepsPrefix candidates slots.toNat a ↔ ¬ Straddled candidates slots.toNat := by
  obtain ⟨hkeys, hfixed, hadmitted, hrejected⟩ := admit_eq h
  rw [← kept_iff_prefix hkeys hfixed]
  generalize slots.toNat = n at *
  generalize hS : sortedBy admissionOrder candidates = S at *
  have hlength : S.length = candidates.length := hS ▸ length_sortedBy
  have hmem : ∀ c, c ∈ S ↔ c ∈ candidates := fun c => hS ▸ mem_sortedBy
  have hSkeys : (S.map (·.instrumentKey)).Nodup := by
    rw [← hS]
    exact ((sortedBy_perm admissionOrder candidates).map _).nodup_iff.mpr hkeys
  have hSnodup : S.Nodup := List.Nodup.of_map _ hSkeys
  have hprefix : S.take (min candidates.length n) = S.take n ∧
      S.drop (min candidates.length n) = S.drop n := by
    rcases le_total n candidates.length with hle | hle
    · rw [min_eq_right hle]
      exact ⟨rfl, rfl⟩
    · rw [min_eq_left hle, ← hlength, List.take_length, List.drop_length,
        List.take_of_length_le (hlength ▸ hle), List.drop_of_length_le (hlength ▸ hle)]
      exact ⟨rfl, rfl⟩
  unfold KeepsPrefix
  rw [hS, hprefix.1, hprefix.2, hadmitted, hrejected]
  constructor
  · rintro ⟨hkept, -⟩ c hc
    have hkey := congrArg (c.instrumentKey ∈ ·) hkept
    simp only [List.mem_map, List.mem_filter, decide_eq_true_eq, eq_iff_iff] at hkey
    constructor
    · intro hout
      obtain ⟨d, hd, hdc⟩ := hkey.mp ⟨c, ⟨(hmem c).mpr hc,
        fun h => hout ((key_mem_evicted hkeys hc).mp (List.mem_map.mpr h))⟩, rfl⟩
      rwa [← keyed_of_nodup_map hSkeys d (List.mem_of_mem_take hd) c ((hmem c).mpr hc) hdc]
    · intro hin hevicted
      obtain ⟨d, ⟨hd, hout⟩, hdc⟩ := hkey.mpr ⟨c, hin, rfl⟩
      exact hout ⟨c, hevicted, hdc.symm⟩
  · intro hagree
    have hfilter : S.filter (·.instrumentKey ∉
        (evicted candidates n).map (·.instrumentKey)) = S.take n := by
      refine filter_eq_take hSnodup fun c hc => ?_
      rw [decide_eq_true_eq, key_mem_evicted hkeys ((hmem c).mp hc)]
      exact hagree c ((hmem c).mp hc)
    refine ⟨by rw [hfilter], List.Perm.map _ ?_⟩
    have hnodup : candidates.Nodup := List.Nodup.of_map _ hkeys
    rw [List.perm_ext_iff_of_nodup (evicted_nodup hnodup n) (hSnodup.sublist (List.drop_sublist _ _))]
    intro c
    have hsplit : c ∈ S ↔ c ∈ S.take n ∨ c ∈ S.drop n := by
      rw [← List.mem_append, List.take_append_drop]
    have hdisjoint := List.disjoint_take_drop hSnodup (le_refl n)
    constructor
    · intro hevicted
      have hc := (mem_of_mem_evicted hevicted).1
      exact (hsplit.mp ((hmem c).mpr hc)).resolve_left fun h => (hagree c hc).mpr h hevicted
    · intro hdrop
      have hc := (hmem c).mp (List.mem_of_mem_drop hdrop)
      by_contra hout
      exact hdisjoint ((hagree c hc).mp hout) hdrop

/-- The chunks that `_connection_chunk` has counted on for some connections are the prefix. -/
theorem flatten_connectionChunk (d : ScopedCapacityDemand) (connections : Nat) :
    ((List.range connections).map (connectionChunk d)).flatten =
      (sortedBy admissionOrder d.candidates).take
        (connections * d.instrumentsPerConnection) :=
  flatten_slices _ _ _

/-- Two candidates of rank one, of different quotes, and one of rank two. -/
def tiedPair : List CapacityCandidate :=
  [ranked "BTC" 1 btc_ne rank_one_mem, ranked "ETH" 1 eth_ne rank_one_mem,
    ranked "SOL" 2 (by decide) rank_two_mem]

theorem tiedPair_keepsPrefix :
    ∃ a, admitCandidates tiedPair 2 (String.ofList (List.replicate 64 'a'))
        .degradeLowPriorityWithWarning = .ok a ∧ a.admitted = ["BTC", "ETH"] ∧
      (KeepsPrefix tiedPair 2 a ↔ ¬ Straddled tiedPair 2) := by
  obtain ⟨a, ha, hadmitted⟩ : ∃ a, admitCandidates tiedPair 2
      (String.ofList (List.replicate 64 'a')) .degradeLowPriorityWithWarning = .ok a ∧
      a.admitted = ["BTC", "ETH"] := ⟨_, rfl, by decide +kernel⟩
  exact ⟨a, ha, hadmitted, keepsPrefix_iff ha⟩

/-- With one slot the larger key of the tie is kept. -/
theorem tie_keeps_later :
    ∃ a, admitCandidates tiedPair 1 (String.ofList (List.replicate 64 'a'))
        .degradeLowPriorityWithWarning = .ok a ∧ a.admitted = ["ETH"] ∧
      (sortedBy admissionOrder tiedPair).map (·.instrumentKey) = ["BTC", "ETH", "SOL"] ∧
      ¬ KeepsPrefix tiedPair 1 a := by
  obtain ⟨a, ha, hadmitted⟩ : ∃ a, admitCandidates tiedPair 1
      (String.ofList (List.replicate 64 'a')) .degradeLowPriorityWithWarning = .ok a ∧
      a.admitted = ["ETH"] := ⟨_, rfl, by decide +kernel⟩
  have hsorted : (sortedBy admissionOrder tiedPair).map (·.instrumentKey) =
      ["BTC", "ETH", "SOL"] := by decide +kernel
  refine ⟨a, ha, hadmitted, hsorted, fun h => ?_⟩
  have hkept := h.1
  rw [hadmitted, List.map_take, hsorted] at hkept
  exact absurd hkept (by decide)

end CryptoCollector.Selection
