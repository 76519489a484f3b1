import CryptoCollector.Lib.Sorting
import CryptoCollector.Selection.TypedJson
import CryptoCollector.Storage.Serialize

/-!
# Frozen payloads and their typed encoding

`selection/models.py: _freeze_json, mutable_json_copy` and `selection/catalog_store.py:
_typed_json_node` on mappings that keep the order in which their keys were inserted. The encoding
sorts the keys, so it is the typed node of the ordered value (`typedJsonNode_canonical`).

* `typedNode_total_iff`: the encoding raises only for an integer that has too many digits.
* `same_iff_canonical`: being the same payload up to the order of keys, by the ordered values.
* `typedNode_lawful`: decoding gives the same payload back, and two encodings are equal exactly
  when the payloads are the same.
-/

namespace CryptoCollector.Selection

open Lib
open Storage (Json Err)

/-! ## Values -/

/-- A frozen value as it is built: tuples, and mappings in the order of their keys' insertion. -/
inductive FrozenValue where
  | null
  | bool (b : Bool)
  | int (n : Int)
  | decimal (negative : Bool) (coefficient : Nat) (exponent : Int)
  | str (s : String)
  | tuple (items : List FrozenValue)
  | mapping (fields : List (String × FrozenValue))

namespace FrozenValue

mutual

/-- `_freeze_json`. -/
def freeze : Json → FrozenValue
  | .null => .null
  | .bool b => .bool b
  | .int n => .int n
  | .decimal s c e => .decimal s c e
  | .str s => .str s
  | .list items => .tuple (freezeItems items)
  | .object fields => .mapping (freezeFields fields)

/-- Freeze the items of a list. -/
def freezeItems : List Json → List FrozenValue
  | [] => []
  | item :: items => freeze item :: freezeItems items

/-- Freeze the values of an object. -/
def freezeFields : List (String × Json) → List (String × FrozenValue)
  | [] => []
  | (name, value) :: fields => (name, freeze value) :: freezeFields fields

end

mutual

/-- `mutable_json_copy`. -/
def mutableJsonCopy : FrozenValue → Json
  | .null => .null
  | .bool b => .bool b
  | .int n => .int n
  | .decimal s c e => .decimal s c e
  | .str s => .str s
  | .tuple items => .list (copyItems items)
  | .mapping fields => .object (copyFields fields)

/-- Copy the items of a tuple. -/
def copyItems : List FrozenValue → List Json
  | [] => []
  | item :: items => mutableJsonCopy item :: copyItems items

/-- Copy the values of a mapping. -/
def copyFields : List (String × FrozenValue) → List (String × Json)
  | [] => []
  | (name, value) :: fields => (name, mutableJsonCopy value) :: copyFields fields

end

mutual

/-- `_typed_json_node`. The nodes of the values come before the keys are sorted here. -/
def typedNode : FrozenValue → Except Err Json
  | .mapping fields => do
    let pairs ← typedPairs fields
    return .list [.str "object",
      .list ((sortedBy Prod.fst pairs).map fun pair => .list [.str pair.1, pair.2])]
  | .tuple items => do return .list [.str "array", .list (← typedTuple items)]
  | .null => .ok (.list [.str "null"])
  | .bool b => .ok (.list [.str "bool", .bool b])
  | .int n => do return .list [.str "int", .str (← intStr n)]
  | .decimal s c e => .ok (.list [.str "decimal", .str (decimalStr ⟨s, c, e⟩)])
  | .str s => .ok (.list [.str "string", .str s])

/-- The nodes of the items of a tuple. -/
def typedTuple : List FrozenValue → Except Err (List Json)
  | [] => .ok []
  | item :: items => do return (← typedNode item) :: (← typedTuple items)

/-- The keys of a mapping with the nodes of its values. -/
def typedPairs : List (String × FrozenValue) → Except Err (List (String × Json))
  | [] => .ok []
  | (name, value) :: fields => do return (name, ← typedNode value) :: (← typedPairs fields)

end

mutual

/-- The same payload: the same kinds with the same contents, mappings in any order of keys. -/
def same : FrozenValue → FrozenValue → Bool
  | .tuple xs, .tuple ys => sameItems xs ys
  | .mapping fs, .mapping gs => fs.length = gs.length && sameFields fs gs
  | .null, .null => true
  | .bool a, .bool b => a = b
  | .int m, .int n => m = n
  | .decimal s c e, .decimal s' c' e' => s = s' ∧ c = c' ∧ e = e'
  | .str s, .str t => s = t
  | _, _ => false

/-- The same items. -/
def sameItems : List FrozenValue → List FrozenValue → Bool
  | [], [] => true
  | x :: xs, y :: ys => same x y && sameItems xs ys
  | _, _ => false

/-- Every field of a mapping is in the other mapping. -/
def sameFields : List (String × FrozenValue) → List (String × FrozenValue) → Bool
  | [], _ => true
  | (name, value) :: fs, gs =>
    (match gs.lookup name with
      | some other => same value other
      | none => false) && sameFields fs gs

end

mutual

/-- The integers have few enough digits for `str`. -/
def Fits : FrozenValue → Prop
  | .int n => n.natAbs < 10 ^ maxStrDigits
  | .tuple items => FitsItems items
  | .mapping fields => FitsFields fields
  | _ => True

/-- The items fit. -/
def FitsItems : List FrozenValue → Prop
  | [] => True
  | item :: items => Fits item ∧ FitsItems items

/-- The values of the fields fit. -/
def FitsFields : List (String × FrozenValue) → Prop
  | [] => True
  | (_, value) :: fields => Fits value ∧ FitsFields fields

end

/-- The keys of every mapping are distinct. -/
def Distinct (v : FrozenValue) : Prop := v.mutableJsonCopy.Distinct

/-- `==`. -/
def equal (v w : FrozenValue) : Bool := v.mutableJsonCopy.equal w.mutableJsonCopy

/-- The value with the fields of its mappings in the order of their keys. -/
def canonical (v : FrozenValue) : Json := v.mutableJsonCopy.freezeJson

end FrozenValue

/-- `FrozenJsonPayload`: a frozen value whose mappings have distinct keys. -/
abbrev FrozenPayload := {v : FrozenValue // v.Distinct}

namespace FrozenValue

/-! ## Freezing and copying -/

mutual

@[simp] theorem freeze_mutableJsonCopy : (v : FrozenValue) → freeze v.mutableJsonCopy = v
  | .tuple items => congrArg tuple (freezeItems_copyItems items)
  | .mapping fields => congrArg mapping (freezeFields_copyFields fields)
  | .null => rfl
  | .bool _ => rfl
  | .int _ => rfl
  | .decimal _ _ _ => rfl
  | .str _ => rfl

theorem freezeItems_copyItems : (items : List FrozenValue) → freezeItems (copyItems items) = items
  | [] => rfl
  | item :: items => congrArg₂ List.cons (freeze_mutableJsonCopy item)
      (freezeItems_copyItems items)

theorem freezeFields_copyFields : (fields : List (String × FrozenValue)) →
    freezeFields (copyFields fields) = fields
  | [] => rfl
  | (name, value) :: fields => by
    rw [copyFields, freezeFields, freeze_mutableJsonCopy value, freezeFields_copyFields fields]

end

mutual

@[simp] theorem mutableJsonCopy_freeze : (j : Json) → (freeze j).mutableJsonCopy = j
  | .list items => congrArg Json.list (copyItems_freezeItems items)
  | .object fields => congrArg Json.object (copyFields_freezeFields fields)
  | .null => rfl
  | .bool _ => rfl
  | .int _ => rfl
  | .decimal _ _ _ => rfl
  | .str _ => rfl

theorem copyItems_freezeItems : (items : List Json) → copyItems (freezeItems items) = items
  | [] => rfl
  | item :: items => congrArg₂ List.cons (mutableJsonCopy_freeze item)
      (copyItems_freezeItems items)

theorem copyFields_freezeFields : (fields : List (String × Json)) →
    copyFields (freezeFields fields) = fields
  | [] => rfl
  | (name, value) :: fields => by
    rw [freezeFields, copyFields, mutableJsonCopy_freeze value, copyFields_freezeFields fields]

end

theorem copyFields_eq_map (fields : List (String × FrozenValue)) :
    copyFields fields = fields.map fun field => (field.1, field.2.mutableJsonCopy) := by
  induction fields with
  | nil => rfl
  | cons field fields ih => rw [copyFields, ih, List.map_cons]

theorem copyItems_eq_map (items : List FrozenValue) :
    copyItems items = items.map mutableJsonCopy := by
  induction items with
  | nil => rfl
  | cons item items ih => rw [copyItems, ih, List.map_cons]

/-! ## The ordered value -/

theorem insertField_eq_orderedInsert {name : String} {value : Json}
    {fields : List (String × Json)} (h : name ∉ fields.map Prod.fst) :
    Json.insertField name value fields =
      fields.orderedInsert (fun a b => a.1 ≤ b.1) (name, value) := by
  induction fields with
  | nil => rfl
  | cons field fields ih =>
    rw [List.map_cons, List.mem_cons, not_or] at h
    rw [Json.insertField, List.orderedInsert]
    rcases lt_or_gt_of_ne h.1 with hlt | hgt
    · rw [if_pos hlt, if_pos hlt.le]
    · rw [if_neg hgt.not_gt, if_pos hgt, if_neg hgt.not_ge, ih h.2]

theorem freezeFields_eq_sortedBy {fields : List (String × Json)}
    (h : (fields.map Prod.fst).Nodup) :
    Json.freezeFields fields =
      sortedBy Prod.fst (fields.map fun field => (field.1, field.2.freezeJson)) := by
  induction fields with
  | nil => rfl
  | cons field fields ih =>
    obtain ⟨hfield, hfields⟩ := List.nodup_cons.mp h
    have hname : field.1 ∉ (sortedBy Prod.fst
        (fields.map fun field => (field.1, field.2.freezeJson))).map Prod.fst := by
      rw [((sortedBy_perm _ _).map _).mem_iff, List.map_map]
      exact hfield
    rw [Json.freezeFields, ih hfields, insertField_eq_orderedInsert hname]
    rfl

theorem freezeItems_eq_map (items : List Json) :
    Json.freezeItems items = items.map Json.freezeJson := by
  induction items with
  | nil => rfl
  | cons item items ih => rw [Json.freezeItems, ih, List.map_cons]

@[simp] theorem canonical_tuple (items : List FrozenValue) :
    (tuple items).canonical = .list (items.map canonical) := by
  rw [canonical, mutableJsonCopy, Json.freezeJson, copyItems_eq_map, freezeItems_eq_map,
    List.map_map]
  rfl

theorem distinct_mapping_iff {fields : List (String × FrozenValue)} :
    (mapping fields).Distinct ↔
      (fields.map Prod.fst).Nodup ∧ ∀ field ∈ fields, field.2.Distinct := by
  rw [Distinct, mutableJsonCopy, Json.Distinct, Json.distinctFields_iff, copyFields_eq_map,
    List.map_map, List.forall_mem_map]
  rfl

theorem distinct_tuple_iff {items : List FrozenValue} :
    (tuple items).Distinct ↔ ∀ item ∈ items, item.Distinct := by
  have hiff : ∀ items : List Json, Json.DistinctItems items ↔ ∀ item ∈ items, item.Distinct := by
    intro items
    induction items with
    | nil => simp [Json.DistinctItems]
    | cons item items ih => simp [Json.DistinctItems, ih]
  rw [Distinct, mutableJsonCopy, Json.Distinct, hiff, copyItems_eq_map, List.forall_mem_map]
  rfl

/-- The keys of a mapping with the ordered values. -/
def orderedFields (fields : List (String × FrozenValue)) : List (String × Json) :=
  fields.map fun field => (field.1, field.2.canonical)

theorem map_fst_orderedFields (fields : List (String × FrozenValue)) :
    (orderedFields fields).map Prod.fst = fields.map Prod.fst := by
  rw [orderedFields, List.map_map]
  rfl

/-- The fields of a mapping with their ordered values, in the order of the keys. -/
theorem canonical_mapping {fields : List (String × FrozenValue)}
    (h : (fields.map Prod.fst).Nodup) : (mapping fields).canonical =
      .object (sortedBy Prod.fst (orderedFields fields)) := by
  have hcopy : ((copyFields fields).map Prod.fst).Nodup := by
    rw [copyFields_eq_map, List.map_map]
    exact h
  rw [canonical, mutableJsonCopy, Json.freezeJson, freezeFields_eq_sortedBy hcopy,
    copyFields_eq_map, List.map_map]
  rfl

/-! ## The encoding is the typed node of the ordered value -/

theorem typedItems_of_forall₂ {items nodes : List Json}
    (h : List.Forall₂ (fun item node => typedJsonNode item = .ok node) items nodes) :
    typedItems items = .ok nodes := by
  induction h with
  | nil => rfl
  | cons hnode _ ih =>
    rw [typedItems, hnode, ok_bind, ih]
    rfl

/-- A pair has the key of a field and the node of its value. -/
def PairOf (field pair : String × Json) : Prop :=
  field.1 = pair.1 ∧ typedJsonNode field.2 = .ok pair.2

theorem typedFields_of_forall₂ {fields pairs : List (String × Json)}
    (h : List.Forall₂ PairOf fields pairs) :
    typedFields fields = .ok (pairs.map fun pair => .list [.str pair.1, pair.2]) := by
  induction h with
  | nil => rfl
  | @cons field pair _ _ hpair _ ih =>
    obtain ⟨name, value⟩ := field
    obtain rfl : name = pair.1 := hpair.1
    rw [typedFields, hpair.2, ok_bind, ih]
    rfl

mutual

/-- The encoding of a value is the typed node of the ordered value. -/
theorem typedJsonNode_canonical : (v : FrozenValue) → v.Distinct → {node : Json} →
    v.typedNode = .ok node → typedJsonNode v.canonical = .ok node
  | .tuple items, hv, node, h => by
    obtain ⟨nodes, hnodes, h⟩ := bind_eq_ok.mp h
    cases h
    rw [canonical_tuple, typedJsonNode,
      typedItems_of_forall₂ (forall₂_typedTuple items (distinct_tuple_iff.mp hv) hnodes)]
    rfl
  | .mapping fields, hv, node, h => by
    obtain ⟨pairs, hpairs, h⟩ := bind_eq_ok.mp h
    cases h
    obtain ⟨hkeys, hvalues⟩ := distinct_mapping_iff.mp hv
    have hsorted := @forall₂_sortedBy _ _ _ Prod.fst _ _ PairOf Prod.fst
      (fun _ _ hpair => hpair.1) _ (forall₂_typedPairs fields hvalues hpairs)
    rw [canonical_mapping hkeys, typedJsonNode, typedFields_of_forall₂ hsorted]
    rfl
  | .null, _, _, h => h
  | .bool _, _, _, h => h
  | .int _, _, _, h => h
  | .decimal _ _ _, _, _, h => h
  | .str _, _, _, h => h

theorem forall₂_typedTuple : (items : List FrozenValue) → (∀ item ∈ items, item.Distinct) →
    {nodes : List Json} → typedTuple items = .ok nodes →
    List.Forall₂ (fun item node => typedJsonNode item = .ok node) (items.map canonical) nodes
  | [], _, nodes, h => by
    cases h
    exact .nil
  | item :: items, hv, nodes, h => by
    obtain ⟨node, hnode, h⟩ := bind_eq_ok.mp h
    obtain ⟨rest, hrest, h⟩ := bind_eq_ok.mp h
    cases h
    exact .cons (typedJsonNode_canonical item (hv item List.mem_cons_self) hnode)
      (forall₂_typedTuple items (fun i hi => hv i (List.mem_cons_of_mem _ hi)) hrest)

theorem forall₂_typedPairs : (fields : List (String × FrozenValue)) →
    (∀ field ∈ fields, field.2.Distinct) → {pairs : List (String × Json)} →
    typedPairs fields = .ok pairs →
    List.Forall₂ PairOf (orderedFields fields) pairs
  | [], _, pairs, h => by
    cases h
    exact .nil
  | (name, value) :: fields, hv, pairs, h => by
    obtain ⟨node, hnode, h⟩ := bind_eq_ok.mp h
    obtain ⟨rest, hrest, h⟩ := bind_eq_ok.mp h
    cases h
    exact .cons ⟨rfl, typedJsonNode_canonical value (hv (name, value) List.mem_cons_self) hnode⟩
      (forall₂_typedPairs fields (fun f hf => hv f (List.mem_cons_of_mem _ hf)) hrest)

end

/-! ## When the encoding raises -/

theorem intStr_ok_iff {n : Int} :
    (∃ text, intStr n = .ok text) ↔ n.natAbs < 10 ^ maxStrDigits := by
  have hdigits : (Nat.toDigits 10 n.natAbs).length ≤ maxStrDigits ↔
      n.natAbs < 10 ^ maxStrDigits := Nat.length_toDigits_le_iff (by decide) (by decide)
  unfold intStr
  split_ifs with h <;> simp [← hdigits, h]

mutual

/-- The encoding raises only for an integer that has too many digits. -/
theorem typedNode_total_iff : (v : FrozenValue) → ((∃ node, v.typedNode = .ok node) ↔ v.Fits)
  | .tuple items => by
    rw [Fits, ← typedTuple_total_iff items, typedNode]
    simp only [bind_eq_ok]
    exact ⟨fun ⟨_, nodes, hnodes, _⟩ => ⟨nodes, hnodes⟩,
      fun ⟨nodes, hnodes⟩ => ⟨_, nodes, hnodes, rfl⟩⟩
  | .mapping fields => by
    rw [Fits, ← typedPairs_total_iff fields, typedNode]
    simp only [bind_eq_ok]
    exact ⟨fun ⟨_, pairs, hpairs, _⟩ => ⟨pairs, hpairs⟩,
      fun ⟨pairs, hpairs⟩ => ⟨_, pairs, hpairs, rfl⟩⟩
  | .int n => by
    rw [Fits, ← intStr_ok_iff, typedNode]
    simp only [bind_eq_ok]
    exact ⟨fun ⟨_, text, htext, _⟩ => ⟨text, htext⟩, fun ⟨text, htext⟩ => ⟨_, text, htext, rfl⟩⟩
  | .null => by simp [typedNode, Fits]
  | .bool _ => by simp [typedNode, Fits]
  | .decimal _ _ _ => by simp [typedNode, Fits]
  | .str _ => by simp [typedNode, Fits]

theorem typedTuple_total_iff : (items : List FrozenValue) →
    ((∃ nodes, typedTuple items = .ok nodes) ↔ FitsItems items)
  | [] => by simp [typedTuple, FitsItems]
  | item :: items => by
    rw [FitsItems, ← typedNode_total_iff item, ← typedTuple_total_iff items, typedTuple]
    simp only [bind_eq_ok]
    exact ⟨fun ⟨_, node, hnode, nodes, hnodes, _⟩ => ⟨⟨node, hnode⟩, nodes, hnodes⟩,
      fun ⟨⟨node, hnode⟩, nodes, hnodes⟩ => ⟨_, node, hnode, nodes, hnodes, rfl⟩⟩

theorem typedPairs_total_iff : (fields : List (String × FrozenValue)) →
    ((∃ pairs, typedPairs fields = .ok pairs) ↔ FitsFields fields)
  | [] => by simp [typedPairs, FitsFields]
  | (name, value) :: fields => by
    rw [FitsFields, ← typedNode_total_iff value, ← typedPairs_total_iff fields, typedPairs]
    simp only [bind_eq_ok]
    exact ⟨fun ⟨_, node, hnode, pairs, hpairs, _⟩ => ⟨⟨node, hnode⟩, pairs, hpairs⟩,
      fun ⟨⟨node, hnode⟩, pairs, hpairs⟩ => ⟨_, node, hnode, pairs, hpairs, rfl⟩⟩

end

/-! ## The same payload -/

theorem lookup_eq_some_iff_mem {fields : List (String × FrozenValue)}
    (h : (fields.map Prod.fst).Nodup) {name : String} {value : FrozenValue} :
    fields.lookup name = some value ↔ (name, value) ∈ fields := by
  constructor
  · intro hlookup
    obtain ⟨before, after, rfl, -⟩ := List.lookup_eq_some_iff.mp hlookup
    simp
  · intro hmem
    obtain ⟨before, after, rfl⟩ := List.append_of_mem hmem
    refine List.lookup_eq_some_iff.mpr ⟨before, after, rfl, fun field hfield => ?_⟩
    rw [List.map_append, List.map_cons, List.nodup_append] at h
    have hne := h.2.2 field.1 (List.mem_map_of_mem hfield) name List.mem_cons_self
    simpa using Ne.symm hne

/-- Mappings have the same ordered fields exactly when these are a permutation of each other. -/
theorem canonical_mapping_eq_iff {fields others : List (String × FrozenValue)}
    (h : (fields.map Prod.fst).Nodup) (h' : (others.map Prod.fst).Nodup) :
    (mapping fields).canonical = (mapping others).canonical ↔
      (orderedFields fields).Perm (orderedFields others) := by
  rw [canonical_mapping h, canonical_mapping h', Json.object.injEq]
  constructor
  · intro heq
    have hsorted := sortedBy_perm Prod.fst (orderedFields fields)
    rw [heq] at hsorted
    exact hsorted.symm.trans (sortedBy_perm _ _)
  · intro hperm
    refine sortedBy_eq_of_perm hperm (keyed_of_nodup_map ?_)
    rw [map_fst_orderedFields]
    exact h

mutual

/-- Two values are the same exactly when their ordered values are. -/
theorem same_iff_canonical : (v : FrozenValue) → v.Distinct → (w : FrozenValue) → w.Distinct →
    (same v w = true ↔ v.canonical = w.canonical)
  | .tuple items, hv, w, hw => by
    cases w with
    | tuple others =>
      rw [same, sameItems_iff_canonical items (distinct_tuple_iff.mp hv) others
        (distinct_tuple_iff.mp hw), canonical_tuple, canonical_tuple, Json.list.injEq]
    | _ => simp [same, canonical, mutableJsonCopy, Json.freezeJson]
  | .mapping fields, hv, w, hw => by
    cases w with
    | mapping others =>
      obtain ⟨hkeys, hvalues⟩ := distinct_mapping_iff.mp hv
      obtain ⟨hkeys', hvalues'⟩ := distinct_mapping_iff.mp hw
      rw [same, Bool.and_eq_true, decide_eq_true_eq, canonical_mapping_eq_iff hkeys hkeys',
        sameFields_iff_canonical fields hvalues others hkeys' hvalues']
      constructor
      · rintro ⟨hlength, hsub⟩
        have hnodup : (orderedFields fields).Nodup := by
          rw [← map_fst_orderedFields] at hkeys
          exact hkeys.of_map
        refine (List.subperm_of_subset hnodup hsub).perm_of_length_le ?_
        simp [orderedFields, hlength]
      · intro hperm
        refine ⟨?_, hperm.subset⟩
        simpa [orderedFields] using hperm.length_eq
    | _ => simp [same, canonical, mutableJsonCopy, Json.freezeJson]
  | .null, _, w, _ => by cases w <;> simp [same, canonical, mutableJsonCopy, Json.freezeJson]
  | .bool _, _, w, _ => by cases w <;> simp [same, canonical, mutableJsonCopy, Json.freezeJson]
  | .int _, _, w, _ => by cases w <;> simp [same, canonical, mutableJsonCopy, Json.freezeJson]
  | .decimal _ _ _, _, w, _ => by
    cases w <;> simp [same, canonical, mutableJsonCopy, Json.freezeJson]
  | .str _, _, w, _ => by cases w <;> simp [same, canonical, mutableJsonCopy, Json.freezeJson]

theorem sameItems_iff_canonical : (items : List FrozenValue) → (∀ item ∈ items, item.Distinct) →
    (others : List FrozenValue) → (∀ item ∈ others, item.Distinct) →
    (sameItems items others = true ↔ items.map canonical = others.map canonical)
  | [], _, others, _ => by cases others <;> simp [sameItems]
  | item :: items, hv, others, hw => by
    cases others with
    | nil => simp [sameItems]
    | cons other others =>
      rw [sameItems, Bool.and_eq_true, same_iff_canonical item (hv item List.mem_cons_self) other
        (hw other List.mem_cons_self), sameItems_iff_canonical items
        (fun i hi => hv i (List.mem_cons_of_mem _ hi)) others
        (fun i hi => hw i (List.mem_cons_of_mem _ hi)), List.map_cons, List.map_cons,
        List.cons.injEq]

/-- The fields of a mapping are in another exactly when the ordered ones are. -/
theorem sameFields_iff_canonical : (fields : List (String × FrozenValue)) →
    (∀ field ∈ fields, field.2.Distinct) → (others : List (String × FrozenValue)) →
    (others.map Prod.fst).Nodup → (∀ field ∈ others, field.2.Distinct) →
    (sameFields fields others = true ↔ orderedFields fields ⊆ orderedFields others)
  | [], _, others, _, _ => by simp [sameFields, orderedFields]
  | (name, value) :: fields, hv, others, hkeys, hw => by
    have hvalue := hv (name, value) List.mem_cons_self
    have hfirst : (match others.lookup name with
        | some other => same value other
        | none => false) = true ↔ (name, value.canonical) ∈ orderedFields others := by
      constructor
      · intro h
        cases hother : others.lookup name with
        | none => simp [hother] at h
        | some other =>
          rw [hother] at h
          have hmem := (lookup_eq_some_iff_mem hkeys).mp hother
          rw [(same_iff_canonical value hvalue other (hw _ hmem)).mp h]
          exact List.mem_map_of_mem (f := fun field => (field.1, field.2.canonical)) hmem
      · intro h
        obtain ⟨⟨name', other⟩, hmem, heq⟩ := List.mem_map.mp h
        obtain ⟨rfl, hcanonical⟩ : name' = name ∧ other.canonical = value.canonical := by
          simpa using heq
        rw [(lookup_eq_some_iff_mem hkeys).mpr hmem]
        exact (same_iff_canonical value hvalue other (hw _ hmem)).mpr hcanonical.symm
    rw [sameFields, Bool.and_eq_true, hfirst, sameFields_iff_canonical fields
      (fun f hf => hv f (List.mem_cons_of_mem _ hf)) others hkeys hw]
    exact List.cons_subset.symm

end

/-- What a payload becomes when it is decoded: the same, and ordered. -/
theorem same_freeze_canonical {v : FrozenValue} (hv : v.Distinct) :
    (freeze v.canonical).Distinct ∧ same (freeze v.canonical) v = true := by
  have hordered : v.canonical.Ordered := Json.ordered_freezeJson _
  have hdistinct : (freeze v.canonical).Distinct := by
    rw [Distinct, mutableJsonCopy_freeze]
    exact Json.distinct_of_ordered _ hordered
  refine ⟨hdistinct, (same_iff_canonical _ hdistinct v hv).mpr ?_⟩
  rw [canonical, mutableJsonCopy_freeze]
  exact Json.freezeJson_of_ordered _ hordered

/-! ## The encoding is canonical and injective -/

theorem decodeTypedJsonNode_typedNode {v : FrozenValue} (hv : v.Distinct) {node : Json}
    (h : v.typedNode = .ok node) : decodeTypedJsonNode node = .ok v.canonical :=
  decodeTypedJsonNode_typedJsonNode (Json.ordered_freezeJson _) (typedJsonNode_canonical v hv h)

/-- Two values have the same encoding exactly when their ordered values are the same. -/
theorem typedNode_eq_iff {v w : FrozenValue} (hv : v.Distinct) (hw : w.Distinct)
    {node node' : Json} (h : v.typedNode = .ok node) (h' : w.typedNode = .ok node') :
    node = node' ↔ v.canonical = w.canonical := by
  constructor
  · rintro rfl
    exact Except.ok.inj ((decodeTypedJsonNode_typedNode hv h).symm.trans
      (decodeTypedJsonNode_typedNode hw h'))
  · intro heq
    have hnode := typedJsonNode_canonical v hv h
    rw [heq] at hnode
    exact Except.ok.inj (hnode.symm.trans (typedJsonNode_canonical w hw h'))

end FrozenValue

open FrozenValue

theorem natAbs_ten_pow (k : Nat) : ((10 : Int) ^ k).natAbs = 10 ^ k := by
  rw [Int.natAbs_pow]
  rfl

/-- A payload whose integers have at most 4300 digits is encoded, and no other. What it is encoded
to is decoded to a value that freezes to the same payload, and the encodings of two payloads are
equal exactly when the payloads are the same. -/
theorem typedNode_lawful (v w : FrozenPayload) :
    ((∃ node, v.1.typedNode = .ok node) ↔ v.1.Fits) ∧
      (∀ node, v.1.typedNode = .ok node → ∃ j, decodeTypedJsonNode node = .ok j ∧
        (freeze j).Distinct ∧ same (freeze j) v.1 = true) ∧
      ∀ node node', v.1.typedNode = .ok node → w.1.typedNode = .ok node' →
        (node = node' ↔ same v.1 w.1 = true) := by
  refine ⟨typedNode_total_iff v.1, fun node h => ?_, fun node node' h h' => ?_⟩
  · exact ⟨_, decodeTypedJsonNode_typedNode v.2 h, same_freeze_canonical v.2⟩
  · rw [same_iff_canonical v.1 v.2 w.1 w.2]
    exact typedNode_eq_iff v.2 w.2 h h'

/-- The least integer of 4301 digits is not encoded, and `1 == True` although their encodings
differ. -/
theorem typedNode_looks_alike :
    ¬ (∀ v : FrozenPayload, ∃ node, v.1.typedNode = .ok node) ∧
      ¬ ∀ (v w : FrozenPayload) (node node' : Json), v.1.typedNode = .ok node →
        w.1.typedNode = .ok node' → v.1.equal w.1 = true → node = node' := by
  refine ⟨fun hall => ?_, fun hall => ?_⟩
  · have hfits := (typedNode_total_iff _).mp (hall ⟨.int (10 ^ maxStrDigits), trivial⟩)
    rw [Fits, natAbs_ten_pow] at hfits
    exact lt_irrefl _ hfits
  · have hnode := hall ⟨.int 1, trivial⟩ ⟨.bool true, trivial⟩ _ _ rfl rfl (by decide)
    simp at hnode

end CryptoCollector.Selection
