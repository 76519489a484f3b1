import CryptoCollector.Lib.Except
import CryptoCollector.Lib.Numerals
import CryptoCollector.Storage.Types
import CryptoCollector.Storage.Json
import Mathlib.Data.List.Sort
import Mathlib.Data.String.Basic

/-!
# Frozen JSON and its typed nodes

`selection/models.py: _freeze_json` and `selection/catalog_store.py: _typed_json_node,
_decode_typed_json_node`. A frozen value is JSON whose objects list their fields in the order of
their names, so that a mapping is one list. The JSON encoder and SHA-256 are the fields of a
`CatalogCodec`, with what the store relies on.

* `decodeTypedNode_typedNode`: a typed node decodes to the value that it was made of.
-/

namespace CryptoCollector.Storage.Json

mutual

/-- The fields of every object come in the order of their names. -/
def Ordered : Json → Prop
  | .list items => OrderedItems items
  | .object fields => (fields.map Prod.fst).Pairwise (· < ·) ∧ OrderedFields fields
  | _ => True

/-- The items are ordered. -/
def OrderedItems : List Json → Prop
  | [] => True
  | item :: items => Ordered item ∧ OrderedItems items

/-- The values of the fields are ordered. -/
def OrderedFields : List (String × Json) → Prop
  | [] => True
  | (_, value) :: fields => Ordered value ∧ OrderedFields fields

end

mutual

/-- No decimals, integers of 64 bits, and the names of the fields of an object are distinct. -/
def Plain : Json → Prop
  | .list items => PlainItems items
  | .object fields => (fields.map Prod.fst).Nodup ∧ PlainFields fields
  | .decimal _ _ _ => False
  | .int n => -2 ^ 63 ≤ n ∧ n < 2 ^ 63
  | _ => True

/-- The items are plain. -/
def PlainItems : List Json → Prop
  | [] => True
  | item :: items => Plain item ∧ PlainItems items

/-- The values of the fields are plain. -/
def PlainFields : List (String × Json) → Prop
  | [] => True
  | (_, value) :: fields => Plain value ∧ PlainFields fields

end

theorem plainItems_iff {items : List Json} : PlainItems items ↔ ∀ item ∈ items, Plain item := by
  induction items with
  | nil => simp [PlainItems]
  | cons item items ih => simp [PlainItems, ih]

theorem plainFields_iff {fields : List (String × Json)} :
    PlainFields fields ↔ ∀ field ∈ fields, Plain field.2 := by
  induction fields with
  | nil => simp [PlainFields]
  | cons field fields ih => simp [PlainFields, ih]

/-- Insert a field at the place of its name, instead of a field of that name. -/
def insertField (name : String) (value : Json) : List (String × Json) → List (String × Json)
  | [] => [(name, value)]
  | field :: fields =>
    if name < field.1 then (name, value) :: field :: fields
    else if field.1 < name then field :: insertField name value fields
    else (name, value) :: fields

mutual

/-- `_freeze_json`. -/
def freezeJson : Json → Json
  | .list items => .list (freezeItems items)
  | .object fields => .object (freezeFields fields)
  | .null => .null
  | .bool b => .bool b
  | .int n => .int n
  | .decimal s c e => .decimal s c e
  | .str s => .str s

/-- Freeze items. -/
def freezeItems : List Json → List Json
  | [] => []
  | item :: items => freezeJson item :: freezeItems items

/-- Freeze the values of fields. -/
def freezeFields : List (String × Json) → List (String × Json)
  | [] => []
  | (name, value) :: fields => insertField name (freezeJson value) (freezeFields fields)

end

theorem mem_insertField {name : String} {value : Json} {fields : List (String × Json)}
    {field : String × Json} (h : field ∈ insertField name value fields) :
    field = (name, value) ∨ field ∈ fields := by
  induction fields with
  | nil => simpa [insertField] using h
  | cons head fields ih =>
    unfold insertField at h
    split_ifs at h
    · simpa using h
    · rcases List.mem_cons.1 h with rfl | h
      · exact .inr List.mem_cons_self
      · exact (ih h).imp_right (List.mem_cons_of_mem _)
    · rcases List.mem_cons.1 h with rfl | h
      · exact .inl rfl
      · exact .inr (List.mem_cons_of_mem _ h)

theorem pairwise_insertField (name : String) (value : Json) {fields : List (String × Json)}
    (h : (fields.map Prod.fst).Pairwise (· < ·)) :
    ((insertField name value fields).map Prod.fst).Pairwise (· < ·) := by
  induction fields with
  | nil => simp [insertField]
  | cons head fields ih =>
    obtain ⟨hhead, htail⟩ := List.pairwise_cons.1 h
    unfold insertField
    split_ifs with hlt hgt
    · refine List.pairwise_cons.2 ⟨fun other hother => ?_, h⟩
      rcases List.mem_cons.1 hother with rfl | hother
      · exact hlt
      · exact hlt.trans (hhead other hother)
    · refine List.pairwise_cons.2 ⟨fun other hother => ?_, ih htail⟩
      obtain ⟨field, hfield, rfl⟩ := List.mem_map.1 hother
      rcases mem_insertField hfield with rfl | hfield
      · exact hgt
      · exact hhead _ (List.mem_map_of_mem hfield)
    · obtain rfl : name = head.1 := le_antisymm (not_lt.1 hgt) (not_lt.1 hlt)
      exact List.pairwise_cons.2 ⟨hhead, htail⟩

theorem orderedFields_iff {fields : List (String × Json)} :
    OrderedFields fields ↔ ∀ field ∈ fields, Ordered field.2 := by
  induction fields with
  | nil => simp [OrderedFields]
  | cons field fields ih => simp [OrderedFields, ih]

theorem pairwise_freezeFields (fields : List (String × Json)) :
    ((freezeFields fields).map Prod.fst).Pairwise (· < ·) := by
  induction fields with
  | nil => simp [freezeFields]
  | cons field fields ih => exact pairwise_insertField _ _ ih

mutual

theorem ordered_freezeJson : (j : Json) → (freezeJson j).Ordered
  | .list items => ordered_freezeItems items
  | .object fields => ⟨pairwise_freezeFields fields, ordered_freezeFields fields⟩
  | .null => trivial
  | .bool _ => trivial
  | .int _ => trivial
  | .decimal _ _ _ => trivial
  | .str _ => trivial

theorem ordered_freezeItems : (items : List Json) → OrderedItems (freezeItems items)
  | [] => trivial
  | item :: items => ⟨ordered_freezeJson item, ordered_freezeItems items⟩

theorem ordered_freezeFields : (fields : List (String × Json)) →
    OrderedFields (freezeFields fields)
  | [] => trivial
  | (name, value) :: fields => by
    rw [orderedFields_iff]
    intro field hfield
    rcases mem_insertField hfield with rfl | hfield
    · exact ordered_freezeJson value
    · exact orderedFields_iff.1 (ordered_freezeFields fields) field hfield

end

theorem insertField_of_lt {name : String} {value : Json} {fields : List (String × Json)}
    (h : ∀ other ∈ fields.map Prod.fst, name < other) :
    insertField name value fields = (name, value) :: fields := by
  cases fields with
  | nil => rfl
  | cons field fields => exact if_pos (h field.1 (by simp))

mutual

/-- A frozen value is frozen to itself. -/
theorem freezeJson_of_ordered : (j : Json) → j.Ordered → freezeJson j = j
  | .list items, h => congrArg Json.list (freezeItems_of_ordered items h)
  | .object fields, h => congrArg Json.object (freezeFields_of_ordered fields h.1 h.2)
  | .null, _ => rfl
  | .bool _, _ => rfl
  | .int _, _ => rfl
  | .decimal _ _ _, _ => rfl
  | .str _, _ => rfl

theorem freezeItems_of_ordered : (items : List Json) → OrderedItems items →
    freezeItems items = items
  | [], _ => rfl
  | item :: items, h => congrArg₂ List.cons (freezeJson_of_ordered item h.1)
      (freezeItems_of_ordered items h.2)

theorem freezeFields_of_ordered : (fields : List (String × Json)) →
    (fields.map Prod.fst).Pairwise (· < ·) → OrderedFields fields → freezeFields fields = fields
  | [], _, _ => rfl
  | (name, value) :: fields, hkeys, h => by
    obtain ⟨hhead, htail⟩ := List.pairwise_cons.1 hkeys
    rw [freezeFields, freezeJson_of_ordered value h.1,
      freezeFields_of_ordered fields htail h.2, insertField_of_lt hhead]

end

mutual

/-- The names of the fields of an ordered value are distinct. -/
theorem distinct_of_ordered : (j : Json) → j.Ordered → j.Distinct
  | .list items, h => distinctItems_of_ordered items h
  | .object fields, h => ⟨h.1.imp fun hlt => hlt.ne, distinctFields_of_ordered fields h.2⟩
  | .null, _ => trivial
  | .bool _, _ => trivial
  | .int _, _ => trivial
  | .decimal _ _ _, _ => trivial
  | .str _, _ => trivial

theorem distinctItems_of_ordered : (items : List Json) → OrderedItems items →
    DistinctItems items
  | [], _ => trivial
  | item :: items, h => ⟨distinct_of_ordered item h.1, distinctItems_of_ordered items h.2⟩

theorem distinctFields_of_ordered : (fields : List (String × Json)) → OrderedFields fields →
    DistinctFields fields
  | [], _ => trivial
  | (_, value) :: fields, h =>
    ⟨distinct_of_ordered value h.1, distinctFields_of_ordered fields h.2⟩

end

end CryptoCollector.Storage.Json

namespace CryptoCollector.Selection

open Lib
open Storage (Json Err)

/-- `FrozenJsonPayload`. -/
abbrev FrozenJson := {j : Json // j.Ordered}

/-- `_freeze_json`. -/
def freezeJson (j : Json) : FrozenJson := ⟨j.freezeJson, j.ordered_freezeJson⟩

theorem freezeJson_val (j : FrozenJson) : freezeJson j.1 = j :=
  Subtype.ext (j.1.freezeJson_of_ordered j.2)

/-! ## The texts of numbers -/

/-- `sys.get_int_max_str_digits()`. -/
def maxStrDigits : Nat := 4300

/-- `str` of an integer. -/
def intStr (n : Int) : Except Err String :=
  if (Nat.toDigits 10 n.natAbs).length ≤ maxStrDigits then .ok (String.ofList (intText n))
  else .error (.valueError
    ("Exceeds the limit (4300 digits) for integer string conversion; " ++
      "use sys.set_int_max_str_digits() to increase the limit"))

/-- `int` of the text of an integer. -/
def intOfStr (s : String) : Option Int :=
  (readInt s.toList).filter fun n => (Nat.toDigits 10 n.natAbs).length ≤ maxStrDigits

/-- `str` of a decimal number. -/
def decimalStr (d : Decimal) : String := String.ofList d.text

/-- `Decimal` of the text of a number. -/
def decimalOfStr (s : String) : Option Decimal := Decimal.ofText s.toList

theorem intOfStr_intStr {n : Int} {s : String} (h : intStr n = .ok s) : intOfStr s = some n := by
  unfold intStr at h
  split_ifs at h with hlength
  cases h
  simp [intOfStr, String.toList_ofList, readInt_intText, hlength]

theorem decimalOfStr_decimalStr (d : Decimal) : decimalOfStr (decimalStr d) = some d := by
  simp [decimalOfStr, decimalStr, String.toList_ofList, Decimal.ofText_text]

/-! ## Typed nodes -/

mutual

/-- `_typed_json_node`. -/
def typedJsonNode : Json → Except Err Json
  | .object fields => do return .list [.str "object", .list (← typedFields fields)]
  | .list items => do return .list [.str "array", .list (← typedItems items)]
  | .null => .ok (.list [.str "null"])
  | .bool b => .ok (.list [.str "bool", .bool b])
  | .int n => do return .list [.str "int", .str (← intStr n)]
  | .decimal s c e => .ok (.list [.str "decimal", .str (decimalStr ⟨s, c, e⟩)])
  | .str s => .ok (.list [.str "string", .str s])

/-- The nodes of the items of a tuple. -/
def typedItems : List Json → Except Err (List Json)
  | [] => .ok []
  | item :: items => do return (← typedJsonNode item) :: (← typedItems items)

/-- The pairs of the fields of a mapping. -/
def typedFields : List (String × Json) → Except Err (List Json)
  | [] => .ok []
  | (name, value) :: fields => do
    return .list [.str name, ← typedJsonNode value] :: (← typedFields fields)

end

mutual

/-- `_decode_typed_json_node`. -/
def decodeTypedJsonNode : Json → Except Err Json
  | .list [.str "null"] => .ok .null
  | .list [.str "bool", .bool b] => .ok (.bool b)
  | .list [.str "int", .str text] =>
    match intOfStr text with
    | some n => .ok (.int n)
    | none => .error (.runtimeError "catalog lifecycle contains invalid integer")
  | .list [.str "decimal", .str text] =>
    match decimalOfStr text with
    | some d => .ok (.decimal d.negative d.coefficient d.exponent)
    | none => .error (.runtimeError "catalog lifecycle contains invalid Decimal")
  | .list [.str "string", .str s] => .ok (.str s)
  | .list [.str "array", .list nodes] => do return .list (← decodeItems nodes)
  | .list [.str "object", .list pairs] => do return .object (← decodeFields [] pairs)
  | .list (.str _ :: _) => .error (.runtimeError "catalog lifecycle contains unknown typed JSON node")
  | _ => .error (.runtimeError "catalog lifecycle contains malformed typed JSON")

/-- The items of an array. -/
def decodeItems : List Json → Except Err (List Json)
  | [] => .ok []
  | node :: nodes => do return (← decodeTypedJsonNode node) :: (← decodeItems nodes)

/-- The fields of an object, after those with the names that were read before. -/
def decodeFields (names : List String) : List Json → Except Err (List (String × Json))
  | [] => .ok []
  | .list [.str name, node] :: pairs =>
    if name ∈ names then .error (.runtimeError "catalog lifecycle contains malformed object")
    else do return (name, ← decodeTypedJsonNode node) :: (← decodeFields (name :: names) pairs)
  | _ :: _ => .error (.runtimeError "catalog lifecycle contains malformed object")

end

mutual

/-- A typed node decodes to the value that it was made of. -/
theorem decodeTypedJsonNode_typedJsonNode : {j : Json} → j.Ordered → {node : Json} →
    typedJsonNode j = .ok node → decodeTypedJsonNode node = .ok j
  | .list items, hj, node, h => by
    obtain ⟨nodes, hnodes, h⟩ := bind_eq_ok.1 h
    cases h
    simp only [decodeTypedJsonNode, decodeItems_typedItems hj hnodes]
    rfl
  | .object fields, hj, node, h => by
    obtain ⟨pairs, hpairs, h⟩ := bind_eq_ok.1 h
    cases h
    have hnone : ∀ name ∈ fields.map Prod.fst, name ∉ ([] : List String) := by simp
    simp only [decodeTypedJsonNode, decodeFields_typedFields hj.1 hj.2 hnone hpairs]
    rfl
  | .null, _, node, h => by
    cases h
    rfl
  | .bool _, _, node, h => by
    cases h
    rfl
  | .int n, _, node, h => by
    obtain ⟨text, htext, h⟩ := bind_eq_ok.1 h
    cases h
    simp only [decodeTypedJsonNode, intOfStr_intStr htext]
  | .decimal s c e, _, node, h => by
    cases h
    simp only [decodeTypedJsonNode, decimalOfStr_decimalStr]
  | .str _, _, node, h => by
    cases h
    rfl

theorem decodeItems_typedItems : {items : List Json} → Json.OrderedItems items →
    {nodes : List Json} → typedItems items = .ok nodes → decodeItems nodes = .ok items
  | [], _, nodes, h => by
    cases h
    rfl
  | item :: items, hj, nodes, h => by
    obtain ⟨node, hnode, h⟩ := bind_eq_ok.1 h
    obtain ⟨rest, hrest, h⟩ := bind_eq_ok.1 h
    cases h
    simp only [decodeItems, decodeTypedJsonNode_typedJsonNode hj.1 hnode,
      decodeItems_typedItems hj.2 hrest]
    rfl

theorem decodeFields_typedFields : {fields : List (String × Json)} →
    (fields.map Prod.fst).Pairwise (· < ·) → Json.OrderedFields fields →
    {names : List String} → (∀ name ∈ fields.map Prod.fst, name ∉ names) →
    {pairs : List Json} → typedFields fields = .ok pairs →
    decodeFields names pairs = .ok fields
  | [], _, _, names, _, pairs, h => by
    cases h
    rfl
  | (name, value) :: fields, hkeys, hj, names, hnames, pairs, h => by
    obtain ⟨node, hnode, h⟩ := bind_eq_ok.1 h
    obtain ⟨rest, hrest, h⟩ := bind_eq_ok.1 h
    cases h
    obtain ⟨hhead, htail⟩ := List.pairwise_cons.1 hkeys
    have hfresh : ∀ other ∈ fields.map Prod.fst, other ∉ name :: names := by
      intro other hother
      rw [List.mem_cons, not_or]
      exact ⟨(hhead other hother).ne', hnames other (List.mem_cons_of_mem _ hother)⟩
    simp only [decodeFields, if_neg (hnames name (by simp)),
      decodeTypedJsonNode_typedJsonNode hj.1 hnode,
      decodeFields_typedFields htail hj.2 hfresh hrest]
    rfl

end

mutual

/-- A typed node has lists, texts and booleans only. -/
theorem plain_typedJsonNode : {j node : Json} → typedJsonNode j = .ok node → node.Plain
  | .list items, node, h => by
    obtain ⟨nodes, hnodes, h⟩ := bind_eq_ok.1 h
    cases h
    exact ⟨trivial, plain_typedItems hnodes, trivial⟩
  | .object fields, node, h => by
    obtain ⟨pairs, hpairs, h⟩ := bind_eq_ok.1 h
    cases h
    exact ⟨trivial, plain_typedFields hpairs, trivial⟩
  | .null, node, h => by
    cases h
    exact ⟨trivial, trivial⟩
  | .bool _, node, h => by
    cases h
    exact ⟨trivial, trivial, trivial⟩
  | .int n, node, h => by
    obtain ⟨text, -, h⟩ := bind_eq_ok.1 h
    cases h
    exact ⟨trivial, trivial, trivial⟩
  | .decimal _ _ _, node, h => by
    cases h
    exact ⟨trivial, trivial, trivial⟩
  | .str _, node, h => by
    cases h
    exact ⟨trivial, trivial, trivial⟩

theorem plain_typedItems : {items nodes : List Json} → typedItems items = .ok nodes →
    Json.PlainItems nodes
  | [], nodes, h => by
    cases h
    trivial
  | item :: items, nodes, h => by
    obtain ⟨node, hnode, h⟩ := bind_eq_ok.1 h
    obtain ⟨rest, hrest, h⟩ := bind_eq_ok.1 h
    cases h
    exact ⟨plain_typedJsonNode hnode, plain_typedItems hrest⟩

theorem plain_typedFields : {fields : List (String × Json)} → {pairs : List Json} →
    typedFields fields = .ok pairs → Json.PlainItems pairs
  | [], pairs, h => by
    cases h
    trivial
  | (name, value) :: fields, pairs, h => by
    obtain ⟨node, hnode, h⟩ := bind_eq_ok.1 h
    obtain ⟨rest, hrest, h⟩ := bind_eq_ok.1 h
    cases h
    exact ⟨⟨trivial, plain_typedJsonNode hnode, trivial⟩, plain_typedFields hrest⟩

end

/-! ## The codec -/

/-- `encode_json`, `decode_json` and SHA-256. A `Digest` is what `hexdigest` returns. -/
structure CatalogCodec where
  Blob : Type
  Digest : Type
  decEqBlob : DecidableEq Blob
  decEqDigest : DecidableEq Digest
  encodeJson : Json → Blob
  decodeJson : Blob → Except Err Json
  sha256 : Blob → Digest
  decodeJson_encodeJson : ∀ j : Json, j.Plain → decodeJson (encodeJson j) = .ok j
  sha256_injective : Function.Injective sha256

namespace CatalogCodec

instance (codec : CatalogCodec) : DecidableEq codec.Blob := codec.decEqBlob

instance (codec : CatalogCodec) : DecidableEq codec.Digest := codec.decEqDigest

/-- The codec whose texts are the values themselves. -/
def plain : CatalogCodec where
  Blob := Json
  Digest := Json
  decEqBlob := inferInstance
  decEqDigest := inferInstance
  encodeJson := id
  decodeJson := .ok
  sha256 := id
  decodeJson_encodeJson _ _ := rfl
  sha256_injective := Function.injective_id

/-- `_encode_typed_json`. -/
def encodeTypedJson (codec : CatalogCodec) (value : FrozenJson) : Except Err codec.Blob := do
  return codec.encodeJson (← typedJsonNode value.1)

/-- `_decode_typed_json`. -/
def decodeTypedJson (codec : CatalogCodec) (value : codec.Blob) : Except Err Json := do
  decodeTypedJsonNode (← codec.decodeJson value)

variable {codec : CatalogCodec}

theorem decodeTypedJson_encodeTypedJson {value : FrozenJson} {blob : codec.Blob}
    (h : codec.encodeTypedJson value = .ok blob) : codec.decodeTypedJson blob = .ok value.1 := by
  obtain ⟨node, hnode, h⟩ := bind_eq_ok.1 h
  cases h
  rw [decodeTypedJson, codec.decodeJson_encodeJson node (plain_typedJsonNode hnode), ok_bind]
  exact decodeTypedJsonNode_typedJsonNode value.2 hnode

theorem encodeJson_inj {a b : Json} (ha : a.Plain) (hb : b.Plain)
    (h : codec.encodeJson a = codec.encodeJson b) : a = b := by
  have hdecode := congrArg codec.decodeJson h
  rw [codec.decodeJson_encodeJson a ha, codec.decodeJson_encodeJson b hb] at hdecode
  exact Except.ok.inj hdecode

end CatalogCodec

end CryptoCollector.Selection
