import CryptoCollector.Lib.Except
import Mathlib.Data.List.Nodup
import Mathlib.Logic.Function.Basic

/-!
# Records with named fields

A record type is the list of its fields and their names. A record is dumped as a list of names and
values in the order of the fields, and read back by name.

* `lookup_dump`: a field is found under its name.
* `exists_dump`: a list with the names of a record is the dump of a record.
* `foldlM_assign`: assigning some fields in turn changes these fields only.
-/

namespace Lib

/-- The fields of a record type, in order, and their names. -/
structure Schema (F : Type) where
  fields : List F
  name : F → String
  complete : ∀ f, f ∈ fields
  nodup : (fields.map name).Nodup

/-- Assign to a name that is present. -/
def assign {V : Type} (entries : List (String × V)) (name : String) (value : V) :
    List (String × V) :=
  entries.map fun entry => if entry.1 = name then (name, value) else entry

namespace Schema

variable {F V W ε : Type} (S : Schema F)

/-- The names of the fields. -/
def names : List String := S.fields.map S.name

/-- The names and the values of a record. -/
def dump (value : F → V) : List (String × V) := S.fields.map fun f => (S.name f, value f)

theorem name_injective : Function.Injective S.name := fun f g h =>
  List.inj_on_of_nodup_map S.nodup (S.complete f) (S.complete g) h

theorem fields_nodup : S.fields.Nodup := S.nodup.of_map _

@[simp] theorem map_fst_dump (value : F → V) : (S.dump value).map Prod.fst = S.names := by
  rw [dump, List.map_map]
  rfl

theorem map_dump (value : F → V) (g : V → W) :
    (S.dump value).map (fun entry => (entry.1, g entry.2)) = S.dump (g ∘ value) := by
  rw [dump, List.map_map]
  rfl

/-- A field is found under its name. -/
@[simp] theorem lookup_dump (value : F → V) (f : F) :
    (S.dump value).lookup (S.name f) = some (value f) := by
  obtain ⟨before, after, h⟩ := List.append_of_mem (S.complete f)
  refine List.lookup_eq_some_iff.mpr ⟨before.map fun g => (S.name g, value g),
    after.map fun g => (S.name g, value g), ?_, ?_⟩
  · rw [dump, h, List.map_append, List.map_cons]
  · intro entry hentry
    obtain ⟨g, hg, rfl⟩ := List.mem_map.mp hentry
    have hnodup := S.fields_nodup
    rw [h, List.nodup_append] at hnodup
    have hne : g ≠ f := hnodup.2.2 g hg f List.mem_cons_self
    have hname : S.name f ≠ S.name g := fun heq => hne (S.name_injective heq).symm
    exact bne_iff_ne.mpr hname

/-- The names and the values of some fields. -/
def select (fields : List F) (value : F → V) : List (String × V) :=
  fields.map fun f => (S.name f, value f)

theorem lookup_select [DecidableEq F] (fields : List F) (value : F → V) (f : F) :
    (S.select fields value).lookup (S.name f) = if f ∈ fields then some (value f) else none := by
  induction fields with
  | nil => rfl
  | cons g fields ih =>
    rw [select, List.map_cons, List.lookup_cons]
    by_cases hg : f = g
    · subst hg
      simp
    · have hname : (S.name f == S.name g) = false := by
        rw [beq_eq_false_iff_ne]
        exact fun heq => hg (S.name_injective heq)
      rw [hname]
      simp only [List.mem_cons, hg, false_or]
      exact ih

/-- Every name of a record is known. -/
theorem all_known (value : F → V) : ((S.dump value).all fun e => S.names.contains e.1) = true := by
  rw [List.all_eq_true]
  intro entry hentry
  rw [List.contains_iff_mem, ← S.map_fst_dump value]
  exact List.mem_map_of_mem hentry

/-- Assigning to a field of a record. -/
theorem assign_dump [DecidableEq F] (value : F → V) (f : F) (v : V) :
    assign (S.dump value) (S.name f) v = S.dump (Function.update value f v) := by
  rw [assign, dump, dump, List.map_map]
  refine List.map_congr_left fun g _ => ?_
  dsimp only [Function.comp]
  by_cases hg : g = f
  · subst hg
    rw [if_pos rfl, Function.update_self]
  · rw [if_neg fun h => hg (S.name_injective h), Function.update_of_ne hg]

/-- Assigning some fields in turn changes these fields only. -/
theorem foldlM_assign [DecidableEq F] {step : List (String × V) → F → Except ε (List (String × V))}
    {fields : List F} (value target : F → V)
    (hstep : ∀ f ∈ fields, ∀ current : F → V, current f = value f →
      step (S.dump current) f = .ok (S.dump (Function.update current f (target f))))
    (hnodup : fields.Nodup) :
    fields.foldlM step (S.dump value) =
      .ok (S.dump fun f => if f ∈ fields then target f else value f) := by
  induction fields generalizing value with
  | nil => simp [pure, Except.pure]
  | cons f fields ih =>
    have hnotmem : f ∉ fields := (List.nodup_cons.mp hnodup).1
    have hrest : ∀ g ∈ fields, ∀ current : F → V,
        current g = Function.update value f (target f) g →
        step (S.dump current) g = .ok (S.dump (Function.update current g (target g))) := by
      intro g hg current hcurrent
      have hne : g ≠ f := fun h => hnotmem (h ▸ hg)
      rw [Function.update_of_ne hne] at hcurrent
      exact hstep g (List.mem_cons_of_mem _ hg) current hcurrent
    rw [List.foldlM_cons, hstep f List.mem_cons_self value rfl, ok_bind,
      ih _ hrest (List.nodup_cons.mp hnodup).2]
    congr 2
    funext g
    by_cases hg : g = f
    · subst hg
      simp [hnotmem]
    · simp [hg]

/-- A record is known by its dump. -/
theorem dump_injective {value other : F → V} (h : S.dump value = S.dump other) : value = other := by
  funext f
  have hlookup := congrArg (List.lookup (S.name f)) h
  rw [S.lookup_dump, S.lookup_dump] at hlookup
  exact Option.some.inj hlookup

theorem forall₂_dump {R : V → W → Prop} {value : F → V} {other : F → W}
    (h : ∀ f, R (value f) (other f)) :
    List.Forall₂ (fun x y => y.1 = x.1 ∧ R x.2 y.2) (S.dump value) (S.dump other) := by
  rw [dump, dump, List.forall₂_map_left_iff, List.forall₂_map_right_iff]
  exact List.forall₂_same.mpr fun f _ => ⟨rfl, h f⟩

/-- A list with the names of a record, and values that are related to its values, is the dump of a
record. -/
theorem exists_dump {R : V → W → Prop} {value : F → V} {entries : List (String × W)}
    (h : List.Forall₂ (fun x y => y.1 = x.1 ∧ R x.2 y.2) (S.dump value) entries) :
    ∃ other : F → W, entries = S.dump other ∧ ∀ f, R (value f) (other f) := by
  have hnames : entries.map Prod.fst = S.names := by
    rw [← S.map_fst_dump value]
    exact map_eq_of_forall₂ h fun _ _ hxy => hxy.1
  have hentry : ∀ f, ∃ w, (S.name f, w) ∈ entries ∧ R (value f) w := by
    intro f
    obtain ⟨y, hy, hname, hR⟩ := exists_right_of_forall₂ h (List.mem_map_of_mem (S.complete f))
    exact ⟨y.2, by rwa [← show y.1 = S.name f from hname], hR⟩
  choose other hmem hR using hentry
  refine ⟨other, ?_, hR⟩
  have hlength : entries.length = S.fields.length := by
    simpa [names] using congrArg List.length hnames
  refine List.ext_getElem (by rw [hlength, dump, List.length_map]) fun i hi _ => ?_
  have hfield : i < S.fields.length := hlength ▸ hi
  have hnodup : (entries.map Prod.fst).Nodup := hnames ▸ S.nodup
  have hfst : entries[i].1 = S.name S.fields[i] := by
    have heq : (entries.map Prod.fst)[i]? = S.names[i]? := by rw [hnames]
    rw [names, List.getElem?_map, List.getElem?_map, List.getElem?_eq_getElem hi,
      List.getElem?_eq_getElem hfield] at heq
    simpa using heq
  rw [List.inj_on_of_nodup_map hnodup (List.getElem_mem hi) (hmem _) hfst]
  simp [dump]

end Schema

end Lib
