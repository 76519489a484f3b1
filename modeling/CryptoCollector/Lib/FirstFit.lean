import Mathlib.Algebra.BigOperators.Group.List.Basic
import Mathlib.Algebra.Order.BigOperators.Group.List
import Mathlib.Algebra.Order.Ring.Nat
import Mathlib.Data.List.Nodup
import Mathlib.Logic.Function.Basic

/-!
# First fit

Every item is given to the first agent of its own preference list that has room left. An agent is
known by a name, and its load and its capacity are kept under its name. When every preference list
holds every agent, no order of the items can lead to a dead end: first fit succeeds if and only if
there is room for all items (`firstFit_isSome_iff`).
-/

namespace Lib

variable {ι κ ν : Type} [DecidableEq ν]

/-- Give each item to the first agent that it prefers and that has room. -/
def firstFit (name : κ → ν) (capacity : ν → Nat) (prefer : ι → List κ) :
    (ν → Nat) → List ι → Option (List (ι × κ))
  | _, [] => some []
  | used, i :: items =>
    match (prefer i).find? fun k => used (name k) < capacity (name k) with
    | none => none
    | some k =>
      (firstFit name capacity prefer (Function.update used (name k) (used (name k) + 1)) items).map
        ((i, k) :: ·)

variable {name : κ → ν} {capacity used : ν → Nat} {prefer : ι → List κ} {items : List ι}
  {given : List (ι × κ)}

theorem firstFit_cons {i : ι} (h : firstFit name capacity prefer used (i :: items) = some given) :
    ∃ k rest, (prefer i).find? (fun k => used (name k) < capacity (name k)) = some k ∧
      firstFit name capacity prefer (Function.update used (name k) (used (name k) + 1)) items =
        some rest ∧ given = (i, k) :: rest := by
  unfold firstFit at h
  split at h
  · cases h
  · next k hk =>
    obtain ⟨rest, hrest, rfl⟩ := Option.map_eq_some_iff.mp h
    exact ⟨k, rest, hk, hrest, rfl⟩

/-- Every item is given once, in order. -/
theorem map_fst_of_firstFit (h : firstFit name capacity prefer used items = some given) :
    given.map Prod.fst = items := by
  induction items generalizing used given with
  | nil =>
    cases h
    rfl
  | cons i items ih =>
    obtain ⟨k, rest, -, hrest, rfl⟩ := firstFit_cons h
    rw [List.map_cons, ih hrest]

/-- Every item is given to an agent that it prefers. -/
theorem mem_prefer_of_firstFit (h : firstFit name capacity prefer used items = some given) :
    ∀ g ∈ given, g.2 ∈ prefer g.1 := by
  induction items generalizing used given with
  | nil =>
    cases h
    simp
  | cons i items ih =>
    obtain ⟨k, rest, hk, hrest, rfl⟩ := firstFit_cons h
    intro g hg
    obtain rfl | hg := List.mem_cons.mp hg
    · exact List.mem_of_find?_eq_some hk
    · exact ih hrest g hg

/-- No agent is given more than it has room for. -/
theorem load_of_firstFit (h : firstFit name capacity prefer used items = some given) (n : ν)
    (hn : used n ≤ capacity n) :
    used n + given.countP (fun g => name g.2 = n) ≤ capacity n := by
  induction items generalizing used given with
  | nil =>
    cases h
    simpa using hn
  | cons i items ih =>
    obtain ⟨k, rest, hk, hrest, rfl⟩ := firstFit_cons h
    have hroom : used (name k) < capacity (name k) := by simpa using List.find?_some hk
    by_cases hkn : name k = n
    · subst hkn
      have := ih hrest (by rw [Function.update_self]; exact hroom)
      rw [Function.update_self] at this
      rw [List.countP_cons_of_pos (by simp)]
      omega
    · have hne : n ≠ name k := fun h => hkn h.symm
      have := ih hrest (by rwa [Function.update_of_ne hne])
      rw [Function.update_of_ne hne] at this
      rwa [List.countP_cons_of_neg (by simpa using hkn)]

/-! ## No dead ends -/

variable {agents : List κ}

omit [DecidableEq ν] in
/-- A load that does not fill the capacities leaves room somewhere. -/
theorem exists_room
    (hlt : (agents.map fun k => used (name k)).sum < (agents.map fun k => capacity (name k)).sum) :
    ∃ k ∈ agents, used (name k) < capacity (name k) := by
  by_contra hnone
  have hfull : ∀ k ∈ agents, capacity (name k) ≤ used (name k) :=
    fun k hk => not_lt.mp fun hroom => hnone ⟨k, hk, hroom⟩
  have := List.sum_le_sum hfull
  omega

theorem sum_update_of_mem (hnodup : (agents.map name).Nodup) {k : κ} (hk : k ∈ agents) :
    (agents.map fun a => Function.update used (name k) (used (name k) + 1) (name a)).sum =
      (agents.map fun a => used (name a)).sum + 1 := by
  induction agents with
  | nil => cases hk
  | cons a agents ih =>
    rw [List.map_cons, List.nodup_cons] at hnodup
    rw [List.map_cons, List.sum_cons, List.map_cons, List.sum_cons]
    obtain rfl | hk := List.mem_cons.mp hk
    · rw [Function.update_self]
      have hothers : agents.map (fun a => Function.update used (name k) (used (name k) + 1) (name a))
          = agents.map fun a => used (name a) := by
        apply List.map_congr_left
        intro a ha
        rw [Function.update_of_ne]
        rintro h
        exact hnodup.1 (h ▸ List.mem_map_of_mem ha)
      rw [hothers]
      omega
    · rw [ih hnodup.2 hk, Function.update_of_ne]
      · omega
      · rintro h
        exact hnodup.1 (h ▸ List.mem_map_of_mem hk)

/-- First fit succeeds if and only if there is room for all items. -/
theorem firstFit_isSome_iff (hnodup : (agents.map name).Nodup)
    (hprefer : ∀ i ∈ items, ∀ k, k ∈ prefer i ↔ k ∈ agents)
    (hle : ∀ k ∈ agents, used (name k) ≤ capacity (name k)) :
    (firstFit name capacity prefer used items).isSome ↔
      items.length + (agents.map fun k => used (name k)).sum ≤
        (agents.map fun k => capacity (name k)).sum := by
  induction items generalizing used with
  | nil =>
    have := List.sum_le_sum hle
    simpa [firstFit] using this
  | cons i items ih =>
    have htail : ∀ j ∈ items, ∀ k, k ∈ prefer j ↔ k ∈ agents :=
      fun j hj => hprefer j (List.mem_cons_of_mem _ hj)
    unfold firstFit
    cases hfind : (prefer i).find? fun k => used (name k) < capacity (name k) with
    | none =>
      have hfull : ∀ k ∈ agents, ¬ used (name k) < capacity (name k) := by
        intro k hk
        simpa using List.find?_eq_none.mp hfind k ((hprefer i List.mem_cons_self k).mpr hk)
      have : ¬ (agents.map fun k => used (name k)).sum <
          (agents.map fun k => capacity (name k)).sum := by
        intro hlt
        obtain ⟨k, hk, hroom⟩ := exists_room hlt
        exact hfull k hk hroom
      simp only [Option.isSome_none, Bool.false_eq_true, List.length_cons, false_iff]
      omega
    | some k =>
      have hk : k ∈ agents :=
        (hprefer i List.mem_cons_self k).mp (List.mem_of_find?_eq_some hfind)
      have hroom : used (name k) < capacity (name k) := by simpa using List.find?_some hfind
      have hle' : ∀ a ∈ agents,
          Function.update used (name k) (used (name k) + 1) (name a) ≤ capacity (name a) := by
        intro a ha
        by_cases h : name a = name k
        · rw [h, Function.update_self]
          exact hroom
        · rw [Function.update_of_ne h]
          exact hle a ha
      simp only [Option.isSome_map]
      rw [ih htail hle', sum_update_of_mem hnodup hk, List.length_cons]
      omega

/-! ## Ranks

An item ranks the names of the agents strictly, and its preference list comes in that order. -/

section Ranks

variable {better : ι → ν → ν → Prop}

omit [DecidableEq ν] in
/-- What a search finds comes first among what it looks for. -/
theorem eq_or_rel_of_find? {R : κ → κ → Prop} {ks : List κ} (hsorted : ks.Pairwise R)
    {p : κ → Bool} {k l : κ} (hk : ks.find? p = some k) (hl : l ∈ ks) (hp : p l = true) :
    l = k ∨ R k l := by
  obtain ⟨-, before, after, rfl, hbefore⟩ := List.find?_eq_some_iff_append.mp hk
  rw [List.pairwise_append, List.pairwise_cons] at hsorted
  rcases List.mem_append.mp hl with hl | hl
  · have := hbefore l hl
    simp [hp] at this
  · rcases List.mem_cons.mp hl with rfl | hl
    · exact .inl rfl
    · exact .inr (hsorted.2.1.1 l hl)

/-- An agent that an item ranks above its own is full. -/
theorem full_of_better (better : ι → ν → ν → Prop)
    (hsorted : ∀ i ∈ items, (prefer i).Pairwise fun k l => better i (name k) (name l))
    (hasymm : ∀ i m n, better i m n → ¬ better i n m)
    (h : firstFit name capacity prefer used items = some given) {g : ι × κ} (hg : g ∈ given)
    {k : κ} (hk : k ∈ prefer g.1) (hbetter : better g.1 (name k) (name g.2)) :
    capacity (name k) ≤ used (name k) + given.countP fun g => name g.2 = name k := by
  induction items generalizing used given with
  | nil =>
    cases h
    cases hg
  | cons i items ih =>
    obtain ⟨k', rest, hk', hrest, rfl⟩ := firstFit_cons h
    rcases List.mem_cons.mp hg with rfl | hg
    · by_contra hroom
      have hspare : used (name k) < capacity (name k) := by omega
      rcases eq_or_rel_of_find? (hsorted i List.mem_cons_self) hk' hk (by simpa using hspare)
        with rfl | hrel
      · exact hasymm _ _ _ hbetter hbetter
      · exact hasymm _ _ _ hbetter hrel
    · have hfull := ih (fun j hj => hsorted j (List.mem_cons_of_mem _ hj)) hrest hg
      rw [List.countP_cons]
      by_cases hname : name k' = name k
      · rw [hname, Function.update_self] at hfull
        simp only [hname, decide_true, if_true]
        omega
      · rw [Function.update_of_ne (Ne.symm hname)] at hfull
        omega

/-- An agent with room left was never skipped: when none is full, everybody gets the first. -/
theorem head?_of_spare (better : ι → ν → ν → Prop)
    (hsorted : ∀ i ∈ items, (prefer i).Pairwise fun k l => better i (name k) (name l))
    (hasymm : ∀ i m n, better i m n → ¬ better i n m)
    (h : firstFit name capacity prefer used items = some given) {g : ι × κ} (hg : g ∈ given)
    (hspare : ∀ k ∈ prefer g.1,
      used (name k) + given.countP (fun g => name g.2 = name k) < capacity (name k)) :
    (prefer g.1).head? = some g.2 := by
  have hitem : g.1 ∈ items := by
    rw [← map_fst_of_firstFit h]
    exact List.mem_map_of_mem hg
  have hmem := mem_prefer_of_firstFit h g hg
  have hpairwise := hsorted g.1 hitem
  have hfull {k : κ} (hk : k ∈ prefer g.1) : ¬ better g.1 (name k) (name g.2) := by
    intro hbetter
    have := full_of_better better hsorted hasymm h hg hk hbetter
    have := hspare k hk
    omega
  cases hprefer : prefer g.1 with
  | nil =>
    rw [hprefer] at hmem
    cases hmem
  | cons k ks =>
    rw [hprefer] at hmem hpairwise
    rcases List.mem_cons.mp hmem with heq | hmem
    · rw [heq]
      rfl
    · refine absurd ((List.pairwise_cons.mp hpairwise).1 _ hmem) (hfull ?_)
      rw [hprefer]
      exact List.mem_cons_self

variable {capacity' used' : ν → Nat} {prefer' : ι → List κ} {given' : List (ι × κ)}

/-- With more agents and no greater loads of the old ones, every item keeps its agent or gets one
that it ranks higher. -/
theorem firstFit_mono (better : ι → ν → ν → Prop) (old : ν → Prop)
    (hsorted : ∀ i ∈ items, (prefer i).Pairwise fun k l => better i (name k) (name l))
    (hsorted' : ∀ i ∈ items, (prefer' i).Pairwise fun k l => better i (name k) (name l))
    (hasymm : ∀ i m n, better i m n → ¬ better i n m)
    (hold : ∀ i ∈ items, ∀ n, old n ↔ ∃ k ∈ prefer i, name k = n)
    (hmore : ∀ i ∈ items, ∀ n, old n → ∃ k ∈ prefer' i, name k = n)
    (hcapacity : ∀ n, old n → capacity' n = capacity n) (hused : ∀ n, old n → used' n ≤ used n)
    (h : firstFit name capacity prefer used items = some given)
    (h' : firstFit name capacity' prefer' used' items = some given') :
    List.Forall₂ (fun g g' => g'.1 = g.1 ∧
      (name g'.2 = name g.2 ∨ better g.1 (name g'.2) (name g.2))) given given' := by
  induction items generalizing used used' given given' with
  | nil =>
    cases h
    cases h'
    exact .nil
  | cons i items ih =>
    obtain ⟨k, rest, hk, hrest, rfl⟩ := firstFit_cons h
    obtain ⟨k', rest', hk', hrest', rfl⟩ := firstFit_cons h'
    have hkold : old (name k) :=
      (hold i List.mem_cons_self _).mpr ⟨k, List.mem_of_find?_eq_some hk, rfl⟩
    have hroom : used (name k) < capacity (name k) := by simpa using List.find?_some hk
    have hroom' : used' (name k') < capacity' (name k') := by simpa using List.find?_some hk'
    -- the agent of the first run has room in the second one
    have hfirst : name k' = name k ∨ better i (name k') (name k) := by
      obtain ⟨k₀, hk₀, hname⟩ := hmore i List.mem_cons_self _ hkold
      have hspare : used' (name k₀) < capacity' (name k₀) := by
        rw [hname, hcapacity _ hkold]
        exact (hused _ hkold).trans_lt hroom
      rcases eq_or_rel_of_find? (hsorted' i List.mem_cons_self) hk' hk₀ (by simpa using hspare)
        with rfl | hrel
      · exact .inl hname
      · exact .inr (hname ▸ hrel)
    -- an old agent that is ranked higher was full in the first run
    have hstep : ∀ n, old n → Function.update used' (name k') (used' (name k') + 1) n ≤
        Function.update used (name k) (used (name k) + 1) n := by
      intro n hn
      have hle := hused n hn
      rcases hfirst with heq | hbetter
      · rw [heq]
        by_cases hnk : n = name k
        · subst hnk
          rw [Function.update_self, Function.update_self]
          omega
        · rw [Function.update_of_ne hnk, Function.update_of_ne hnk]
          exact hle
      · have hne : name k' ≠ name k := fun heq => hasymm _ _ _ hbetter (by rwa [heq] at hbetter ⊢)
        by_cases hnk' : n = name k'
        · subst hnk'
          obtain ⟨k₁, hk₁, hname⟩ := (hold i List.mem_cons_self _).mp hn
          have hfull : ¬ used (name k₁) < capacity (name k₁) := by
            intro hspare
            rcases eq_or_rel_of_find? (hsorted i List.mem_cons_self) hk hk₁ (by simpa using hspare)
              with rfl | hrel
            · exact hne hname.symm
            · exact hasymm _ _ _ hbetter (hname ▸ hrel)
          rw [hname, ← hcapacity _ hn] at hfull
          rw [Function.update_self, Function.update_of_ne hne]
          omega
        · rw [Function.update_of_ne hnk']
          by_cases hnk : n = name k
          · subst hnk
            rw [Function.update_self]
            omega
          · rwa [Function.update_of_ne hnk]
    exact .cons ⟨rfl, hfirst⟩ (ih (fun j hj => hsorted j (List.mem_cons_of_mem _ hj))
      (fun j hj => hsorted' j (List.mem_cons_of_mem _ hj))
      (fun j hj => hold j (List.mem_cons_of_mem _ hj))
      (fun j hj => hmore j (List.mem_cons_of_mem _ hj)) hstep hrest hrest')

end Ranks

end Lib
