import CryptoCollector.Benchmarks.Documents
import CryptoCollector.Benchmarks.Identities
import CryptoCollector.Storage.Decode

/-!
# Payload bytes

`benchmarks/oracle.py: _payload_bytes`. The payload of an event is encoded with an empty padding; the
padding that brings it to its size is then spliced into the encoded text.

* `exists_padding`: the spliced bytes are the compact text of the payload with a plain padding.
* `compactPayloads_documented`: a writer and a reader of compact JSON keep what orjson and simplejson
  promise.
-/

namespace CryptoCollector.Benchmarks

open Lib Storage

/-! ## JSON libraries -/

/-- A value that `orjson.loads` returns. The value of a float is not read. -/
inductive OrjsonValue where
  | null
  | bool (b : Bool)
  | int (n : Int)
  | float
  | str (s : String)
  | list (items : List OrjsonValue)
  | object (fields : List (String × OrjsonValue))

namespace OrjsonValue

mutual

/-- A value in which `_has_lossy_orjson_number` finds no float. -/
def lossless : OrjsonValue → Option Json
  | .null => some .null
  | .bool b => some (.bool b)
  | .int n => some (.int n)
  | .float => none
  | .str s => some (.str s)
  | .list items => (losslessItems items).map .list
  | .object fields => (losslessFields fields).map .object

/-- The items of a list. -/
def losslessItems : List OrjsonValue → Option (List Json)
  | [] => some []
  | item :: items =>
    (lossless item).bind fun j => (losslessItems items).map fun js => j :: js

/-- The fields of a dictionary. -/
def losslessFields : List (String × OrjsonValue) → Option (List (String × Json))
  | [] => some []
  | (name, value) :: fields =>
    (lossless value).bind fun j => (losslessFields fields).map fun js => (name, j) :: js

end

end OrjsonValue

/-- `orjson` and `simplejson`, with `orjson.loads`. -/
structure PayloadLibraries extends JsonLibraries where
  orjsonLoads : Bytes → Option OrjsonValue

/-- A value of a plain document: a plain text, a list of plain texts or an integer. -/
def PlainValue : Json → Prop
  | .str s => isPlainText s = true
  | .int _ => True
  | .list items => ∀ item ∈ items, ∃ s, item = .str s ∧ isPlainText s = true
  | _ => False

/-- Whether a value is no integer, or an integer of 64 bits. -/
def Fits64 : Json → Prop
  | .int n => -(2 ^ 63) ≤ n ∧ n < 2 ^ 64
  | _ => True

/-- A dictionary of plain values. -/
structure PlainDocument (fields : List (String × Json)) : Prop where
  names_nodup : (fields.map Prod.fst).Nodup
  names : ∀ field ∈ fields, isPlainText field.1 = true
  values : ∀ field ∈ fields, PlainValue field.2

/-- A dictionary as orjson receives it. -/
def wireFields (fields : List (String × Json)) : List (String × WireValue) :=
  fields.map fun field => (field.1, .json field.2)

/-- What the libraries promise of plain documents: they write the compact text and read it back,
and orjson refuses integers of more than 64 bits. -/
structure PayloadLibraries.Documented (L : PayloadLibraries) : Prop where
  orjson_dumps : ∀ fields, PlainDocument fields → (∀ field ∈ fields, Fits64 field.2) →
    L.orjsonDumps (wireFields fields) = some (compact (.object fields))
  orjson_refuses : ∀ fields, PlainDocument fields → (∃ field ∈ fields, ¬ Fits64 field.2) →
    L.orjsonDumps (wireFields fields) = none
  orjson_loads : ∀ fields, PlainDocument fields → (∀ field ∈ fields, Fits64 field.2) →
    ∃ value, L.orjsonLoads (compact (.object fields)) = some value ∧
      value.lossless = some (.object fields)
  simplejson_dumps : ∀ fields, PlainDocument fields → (∀ field ∈ fields, Fits64 field.2) →
    L.simplejsonDumps (.object fields) = some (compact (.object fields))
  simplejson_loads : ∀ fields, PlainDocument fields → (∀ field ∈ fields, Fits64 field.2) →
    L.simplejsonLoads (compact (.object fields)) = some (.object fields)

/-! ## Payloads -/

/-- `_PADDING_ALPHABET`. -/
def paddingAlphabet : String := "ABCDEFGHIJKLMNOPQRSTUVWXYZabcdefghijklmnopqrstuvwxyz0123456789-_"

/-- The character that `_PADDING_TRANSLATION` gives for a byte. -/
def paddingChar (b : UInt8) : Char := paddingAlphabet.toList.getD (b.toNat &&& 0x3F) 'A'

/-- `_CONTROL_KIND`. -/
def controlKind : String := "writer_gate_control"

section Selection

variable (H : Hashlib)

/-- `_selector_lane`. -/
def selectorLane (eventId selectorName : String) : Nat :=
  H.lane (ascii ("gate-payload-v1:" ++ eventId ++ ":" ++ selectorName))

/-- `_fraction_selected`. -/
def fractionSelected (eventId selectorName : String) (fraction : Decimal) : Bool :=
  let ratio := asIntegerRatio fraction
  let threshold := ratio.1 * 2 ^ 64 / ratio.2
  (selectorLane H eventId selectorName : Int) < threshold

/-- The key of the value of a payload. -/
def payloadValueKey (s : StreamPlanFields) (eventId : String) : String :=
  if fractionSelected H eventId "common-key" s.repeatedKeyFraction then "value"
  else "value_" ++ padded 2 (selectorLane H eventId "uncommon-key" % 16)

/-- The value of a payload. -/
def payloadValue (s : StreamPlanFields) (eventId : String) : Json :=
  let whole := selectorLane H eventId "decimal-whole" % 100000000
  if fractionSelected H eventId "decimal" s.decimalStringFraction then
    let fraction := selectorLane H eventId "decimal-fraction" % 100000000
    .str (toString whole ++ "." ++ padded 8 fraction)
  else .ofNat whole

/-- The fields of a payload with a padding. -/
def payloadFields (s : StreamPlanFields) (eventId : String) (identity : IdentityFacts)
    (localSequence : Nat) (padding : String) : List (String × Json) :=
  [("algorithm", .str s.algorithms.payload), ("event_id", .str eventId),
    ("stream", .str identity.logicalStream.value), ("identity", .str identity.canonicalIdentity),
    ("local_sequence", .ofNat localSequence),
    (payloadValueKey H s eventId, payloadValue H s eventId)] ++
  (if identity.logicalStream = .control then
    [("kind", .str controlKind), ("affected_markets", .list [.str "spot", .str "perpetual"])]
  else []) ++
  [("padding", .str padding)]

/-- `_payload_target_bytes`. -/
def payloadTargetBytes (s : StreamPlanFields) (eventId : String) : Nat :=
  let percentile := selectorLane H eventId "size" % 100
  if percentile < 50 then s.payloadP50Bytes
  else if percentile < 95 then s.payloadP95Bytes
  else s.payloadMaxBytes

/-- The padding of some length. -/
def paddingBytes (s : StreamPlanFields) (eventId : String) (length : Nat) : Bytes :=
  if fractionSelected H eventId "incompressible" s.incompressibleFraction then
    (H.shake256 (ascii ("gate-padding-v1:" ++ eventId)) length).map (asciiByte ∘ paddingChar)
  else List.replicate length (asciiByte 'A')

/-- `_payload_bytes`. -/
def payloadBytes (L : PayloadLibraries) (s : StreamPlanFields) (eventId : String)
    (identity : IdentityFacts) (localSequence : Nat) : Except GenerationError Bytes :=
  let targetBytes := payloadTargetBytes H s eventId
  match L.orjsonDumps (wireFields (payloadFields H s eventId identity localSequence "")) with
  | none => .error .jsonEncodeError
  | some baseBytes =>
    if targetBytes < baseBytes.length then
      .error (.valueError
        (s.streamGroup.value ++ " payload target is below its canonical base size"))
    else
      let padding := paddingBytes H s eventId (targetBytes - baseBytes.length)
      if !(ascii "\"\"\x7d").isSuffixOf baseBytes then
        .error (.assertionError "canonical payload padding suffix changed")
      else
        let encoded := baseBytes.take (baseBytes.length - 2) ++ padding ++ ascii "\"\x7d"
        if encoded.length ≠ targetBytes then
          .error (.assertionError "payload padding did not produce its exact target size")
        else .ok encoded

end Selection

/-! ## Payloads are plain -/

theorem isPlainChar_paddingChar (b : UInt8) : isPlainChar (paddingChar b) = true := by
  have hall : paddingAlphabet.toList.all isPlainChar = true := by decide
  rw [paddingChar, List.getD_eq_getElem?_getD]
  cases hget : paddingAlphabet.toList[b.toNat &&& 0x3F]? with
  | none => decide
  | some c => exact List.all_eq_true.mp hall c (List.mem_of_getElem? hget)

/-- The padding is a plain text. -/
theorem exists_paddingText (H : Hashlib) (s : StreamPlanFields) (eventId : String) (length : Nat) :
    ∃ padding : List Char, padding.all isPlainChar = true ∧
      paddingBytes H s eventId length = utf8 padding := by
  have hbytes (cs : List Char) (hcs : cs.all isPlainChar = true) : cs.map asciiByte = utf8 cs :=
    (utf8_eq_map fun c hc => toNat_lt_of_isPlainChar (List.all_eq_true.mp hcs c hc)).symm
  unfold paddingBytes
  split_ifs
  · have hplain : ((H.shake256 (ascii ("gate-padding-v1:" ++ eventId)) length).map
        paddingChar).all isPlainChar = true := by
      rw [List.all_map, List.all_eq_true]
      exact fun b _ => isPlainChar_paddingChar b
    exact ⟨_, hplain, by rw [← hbytes _ hplain, List.map_map]⟩
  · have hplain : (List.replicate length 'A').all isPlainChar = true := by
      rw [List.all_eq_true]
      intro c hc
      rw [List.eq_of_mem_replicate hc]
      decide
    exact ⟨_, hplain, by rw [← hbytes _ hplain, List.map_replicate]⟩

theorem isPlainText_toString (n : Nat) : isPlainText (toString n) = true := by
  change isPlainText (Nat.repr n) = true
  rw [Nat.repr_eq_ofList_toDigits, isPlainText_ofList]
  exact all_isPlainChar_toDigits n

theorem isPlainText_instrumentKey {i : IdentityFacts} {key : String} (h : key ∈ i.instrumentKey) :
    isPlainText key = true := by
  obtain ⟨scope, -, rfl⟩ := Option.mem_map.mp h
  have hexchange : isPlainText (upper i.exchange.value) = true := by
    cases i.exchange <;> decide
  have hmarket : isPlainText (upper scope.market.value) = true := by
    cases scope.market <;> decide
  simp only [isPlainText_append, isPlainText_padded, hexchange, hmarket, Bool.and_true]
  decide

theorem isPlainText_canonicalIdentity (i : IdentityFacts) :
    isPlainText i.canonicalIdentity = true := by
  have hexchange : isPlainText i.exchange.value = true := by
    cases i.exchange <;> decide
  have hstream : isPlainText i.logicalStream.value = true := by
    cases i.logicalStream <;> decide
  unfold IdentityFacts.canonicalIdentity
  cases hmarket : i.market with
  | none =>
    simp only [isPlainText_append, hexchange, Bool.and_true]
    decide
  | some market =>
    have hvalue : isPlainText market.value = true := by
      cases market <;> decide
    cases hkey : i.instrumentKey with
    | none =>
      simp only [isPlainText_append, hexchange, Bool.and_true]
      decide
    | some key =>
      simp only [isPlainText_append, hexchange, hstream, hvalue, isPlainText_instrumentKey hkey,
        Bool.and_true]
      decide

section Plain

variable {H : Hashlib} {s : StreamPlanFields} {eventId : String}

/-- The canonical value keys. -/
def payloadValueKeys : List String :=
  "value" :: (List.range 16).map fun index => "value_" ++ padded 2 index

theorem payloadValueKey_mem (H : Hashlib) (s : StreamPlanFields) (eventId : String) :
    payloadValueKey H s eventId ∈ payloadValueKeys := by
  unfold payloadValueKey payloadValueKeys
  split_ifs
  · exact List.mem_cons_self
  · exact List.mem_cons_of_mem _ (List.mem_map_of_mem (List.mem_range.mpr (Nat.mod_lt _ (by decide))))

theorem isPlainText_of_mem_payloadValueKeys {key : String} (h : key ∈ payloadValueKeys) :
    isPlainText key = true ∧ key.toList.take 5 = "value".toList := by
  obtain rfl | h := List.mem_cons.mp h
  · exact ⟨by decide, by decide⟩
  · obtain ⟨index, -, rfl⟩ := List.mem_map.mp h
    refine ⟨?_, ?_⟩
    · rw [isPlainText_append, isPlainText_padded, Bool.and_true]
      decide
    · rw [String.toList_append, List.take_append_of_le_length (by decide)]
      decide

theorem plainValue_payloadValue : PlainValue (payloadValue H s eventId) := by
  unfold payloadValue
  dsimp only
  split_ifs
  · change isPlainText _ = true
    rw [isPlainText_append, isPlainText_append, isPlainText_toString, isPlainText_padded]
    decide
  · trivial

theorem ne_payloadValueKey (H : Hashlib) (s : StreamPlanFields) (eventId : String) {name : String}
    (hname : name.toList.take 5 ≠ "value".toList) : name ≠ payloadValueKey H s eventId := by
  rintro rfl
  exact hname (isPlainText_of_mem_payloadValueKeys (payloadValueKey_mem H s eventId)).2

/-- A payload is a plain document. -/
theorem plainDocument_payloadFields (h : s.Lawful) (hid : isPlainText eventId = true)
    (identity : IdentityFacts) (localSequence : Nat) {padding : String}
    (hpadding : isPlainText padding = true) :
    PlainDocument (payloadFields H s eventId identity localSequence padding) := by
  have hkey := isPlainText_of_mem_payloadValueKeys (payloadValueKey_mem H s eventId)
  have hne (name : String) (hname : name.toList.take 5 ≠ "value".toList) :
      name ≠ payloadValueKey H s eventId := ne_payloadValueKey H s eventId hname
  have halgorithm : isPlainText s.algorithms.payload = true := by
    rw [h.algorithms]
    decide
  have hstream : isPlainText identity.logicalStream.value = true := by
    cases identity.logicalStream <;> decide
  have hcontrol : ∀ field ∈ (if identity.logicalStream = .control then
      [("kind", Json.str controlKind), ("affected_markets", .list [.str "spot", .str "perpetual"])]
      else []), isPlainText field.1 = true ∧ PlainValue field.2 := by
    split_ifs
    · rintro field hfield
      obtain rfl | rfl := List.mem_pair.mp hfield
      · exact ⟨by decide, (by decide : isPlainText controlKind = true)⟩
      · refine ⟨by decide, fun item hitem => ?_⟩
        obtain rfl | rfl := List.mem_pair.mp hitem
        · exact ⟨"spot", rfl, by decide⟩
        · exact ⟨"perpetual", rfl, by decide⟩
    · exact fun _ h => absurd h List.not_mem_nil
  have hall : ∀ field ∈ payloadFields H s eventId identity localSequence padding,
      isPlainText field.1 = true ∧ PlainValue field.2 := by
    unfold payloadFields
    simp only [List.forall_mem_append, List.forall_mem_cons, List.not_mem_nil, IsEmpty.forall_iff,
      implies_true, and_true]
    exact ⟨⟨⟨⟨by decide, halgorithm⟩, ⟨by decide, hid⟩, ⟨by decide, hstream⟩,
      ⟨by decide, isPlainText_canonicalIdentity identity⟩, ⟨by decide, trivial⟩,
      hkey.1, plainValue_payloadValue⟩, hcontrol⟩, by decide, hpadding⟩
  have hnodup : (["algorithm", "event_id", "stream", "identity", "local_sequence",
      payloadValueKey H s eventId] ++ (["kind", "affected_markets"] ++ ["padding"])).Nodup := by
    simp [hne "algorithm" (by decide), hne "event_id" (by decide), hne "stream" (by decide),
      hne "identity" (by decide), hne "local_sequence" (by decide),
      (hne "kind" (by decide)).symm, (hne "affected_markets" (by decide)).symm,
      (hne "padding" (by decide)).symm]
  refine ⟨?_, fun field hfield => (hall field hfield).1, fun field hfield => (hall field hfield).2⟩
  unfold payloadFields
  split_ifs
  · exact hnodup
  · have hsublist : (["algorithm", "event_id", "stream", "identity", "local_sequence",
        payloadValueKey H s eventId] ++ ["padding"]).Nodup :=
      hnodup.sublist ((List.sublist_append_right _ _).append_left _)
    exact hsublist

end Plain

theorem payloadTargetBytes_pos {H : Hashlib} {s : StreamPlanFields} (h : s.Lawful)
    {eventId : String} : 0 < payloadTargetBytes H s eventId := by
  have hp95 := h.payload_le_p95
  have hmax := h.payload_le_max
  have hpos := h.payload_pos
  unfold payloadTargetBytes
  dsimp only
  split_ifs <;> omega

/-- A control payload has a kind and no storage association. -/
theorem lookup_of_control {H : Hashlib} {s : StreamPlanFields} {eventId : String}
    {identity : IdentityFacts} {localSequence : Nat} {padding : String}
    (hnodup : ((payloadFields H s eventId identity localSequence padding).map Prod.fst).Nodup)
    (hcontrol : identity.logicalStream = .control) :
    (payloadFields H s eventId identity localSequence padding).lookup "kind" =
        some (.str controlKind) ∧
      (payloadFields H s eventId identity localSequence padding).lookup "storage_association" =
        none := by
  refine ⟨Json.lookup_of_mem hnodup ?_, List.lookup_eq_none_iff.mpr fun field hfield => ?_⟩
  · unfold payloadFields
    rw [if_pos hcontrol]
    simp
  · have hkey := ne_payloadValueKey H s eventId
      (show "storage_association".toList.take 5 ≠ "value".toList by decide)
    unfold payloadFields at hfield
    rw [if_pos hcontrol] at hfield
    simp only [List.cons_append, List.nil_append, List.mem_cons, List.not_mem_nil, or_false]
      at hfield
    obtain rfl | rfl | rfl | rfl | rfl | rfl | rfl | rfl | rfl := hfield <;>
      first | exact bne_iff_ne.mpr hkey | rfl

/-! ## Splicing -/

theorem ascii_eq_utf8 (s : String) : ascii s = utf8 s.toList := by
  rw [ascii, utf8, String.ofList_toList]

theorem payloadFields_append (H : Hashlib) (s : StreamPlanFields) (eventId : String)
    (identity : IdentityFacts) (localSequence : Nat) : ∃ before, ∀ padding,
    payloadFields H s eventId identity localSequence padding =
      before ++ [("padding", Json.str padding)] :=
  ⟨_, fun _ => rfl⟩

/-- A padding between the last two quotes of a text becomes the last string of the document. -/
theorem compact_splice (fields : List (String × Json)) (name : String) {padding : List Char}
    (hpadding : padding.all isPlainChar = true) :
    (compact (.object (fields ++ [(name, .str "")]))).take
        ((compact (.object (fields ++ [(name, .str "")]))).length - 2) ++ utf8 padding ++
        ascii "\"\x7d" =
      compact (.object (fields ++ [(name, .str (String.ofList padding))])) := by
  obtain ⟨before, hbefore⟩ := Json.exists_write_append fields name
  have hsuffix : utf8 ['\x22', '\x7d'] = ascii "\"\x7d" := by
    rw [ascii_eq_utf8]
    rfl
  have hbase : compact (.object (fields ++ [(name, .str "")])) =
      utf8 (before ++ ['\x22']) ++ utf8 ['\x22', '\x7d'] := by
    rw [compact, hbefore, ← utf8_append, List.append_assoc]
    rfl
  have hlength : (utf8 ['\x22', '\x7d']).length = 2 := by
    rw [hsuffix]
    decide
  rw [hbase, List.length_append, hlength, Nat.add_sub_cancel, List.take_left', ← hsuffix,
    ← utf8_append, ← utf8_append, compact, hbefore, String.toList_ofList, flatMap_escape hpadding]
  · simp
  · rfl

/-- A document that orjson writes holds integers of 64 bits only. -/
theorem fits64_of_orjsonDumps {L : PayloadLibraries} (hL : L.Documented)
    {fields : List (String × Json)} (hplain : PlainDocument fields) {text : Bytes}
    (h : L.orjsonDumps (wireFields fields) = some text) : ∀ field ∈ fields, Fits64 field.2 := by
  intro field hfield
  by_contra hlong
  rw [hL.orjson_refuses fields hplain ⟨field, hfield, hlong⟩] at h
  cases h

/-- The spliced bytes are the compact text of the payload with a plain padding. -/
theorem exists_padding {H : Hashlib} {L : PayloadLibraries} (hL : L.Documented)
    {s : StreamPlanFields} (hs : s.Lawful) {eventId : String} (hid : isPlainText eventId = true)
    {identity : IdentityFacts} {localSequence : Nat} {bytes : Bytes}
    (h : payloadBytes H L s eventId identity localSequence = .ok bytes) :
    ∃ padding, PlainDocument (payloadFields H s eventId identity localSequence padding) ∧
      (∀ field ∈ payloadFields H s eventId identity localSequence padding, Fits64 field.2) ∧
      bytes = compact (.object (payloadFields H s eventId identity localSequence padding)) ∧
      bytes.length = payloadTargetBytes H s eventId := by
  have hempty := plainDocument_payloadFields (H := H) hs hid identity localSequence
    (show isPlainText "" = true from rfl)
  obtain ⟨before, hbefore⟩ := payloadFields_append H s eventId identity localSequence
  unfold payloadBytes at h
  dsimp only at h
  split at h
  · cases h
  rename_i base hdumps
  have hfits := fits64_of_orjsonDumps hL hempty hdumps
  have hbase := (hL.orjson_dumps _ hempty hfits).symm.trans hdumps
  split_ifs at h with hshort hsuffix hlength
  cases h
  obtain ⟨padding, hpadding, hbytes⟩ := exists_paddingText H s eventId
    (payloadTargetBytes H s eventId - base.length)
  refine ⟨String.ofList padding, plainDocument_payloadFields hs hid identity localSequence
    ((isPlainText_ofList _).trans hpadding), fun field hfield => ?_, ?_, not_not.mp hlength⟩
  · rw [hbefore, List.mem_append, List.mem_singleton] at hfield
    obtain hfield | rfl := hfield
    · refine hfits field ?_
      rw [hbefore]
      exact List.mem_append_left _ hfield
    · trivial
  · obtain rfl := Option.some.inj hbase
    rw [hbytes, hbefore, hbefore]
    exact compact_splice before "padding" hpadding

/-! ## A library of compact texts -/

namespace OrjsonValue

mutual

/-- A value of JSON as orjson returns it. -/
def ofJson : Json → OrjsonValue
  | .null => .null
  | .bool b => .bool b
  | .int n => .int n
  | .decimal _ _ _ => .float
  | .str s => .str s
  | .list items => .list (ofItems items)
  | .object fields => .object (ofFields fields)

/-- The items of a list as orjson returns them. -/
def ofItems : List Json → List OrjsonValue
  | [] => []
  | item :: items => ofJson item :: ofItems items

/-- The fields of an object as orjson returns them. -/
def ofFields : List (String × Json) → List (String × OrjsonValue)
  | [] => []
  | (name, value) :: fields => (name, ofJson value) :: ofFields fields

end

mutual

/-- A value without decimal numbers is not changed. -/
theorem lossless_ofJson : (j : Json) → j.Exact → lossless (ofJson j) = some j
  | .null, _ | .bool _, _ | .int _, _ | .str _, _ => rfl
  | .decimal _ _ _, h => h.elim
  | .list items, h => by
    rw [ofJson, lossless, losslessItems_ofItems items h]
    rfl
  | .object fields, h => by
    rw [ofJson, lossless, losslessFields_ofFields fields h]
    rfl

theorem losslessItems_ofItems : (items : List Json) → Json.ExactItems items →
    losslessItems (ofItems items) = some items
  | [], _ => rfl
  | item :: items, h => by
    rw [ofItems, losslessItems, lossless_ofJson item h.1, losslessItems_ofItems items h.2]
    rfl

theorem losslessFields_ofFields : (fields : List (String × Json)) → Json.ExactFields fields →
    losslessFields (ofFields fields) = some fields
  | [], _ => rfl
  | (name, value) :: fields, h => by
    rw [ofFields, losslessFields, lossless_ofJson value h.1, losslessFields_ofFields fields h.2]
    rfl

end

end OrjsonValue

/-- An integer that orjson writes. -/
def fits64 : Json → Bool
  | .int n => -(2 ^ 63) ≤ n && n < 2 ^ 64
  | _ => true

theorem fits64_iff {j : Json} : fits64 j = true ↔ Fits64 j := by
  cases j <;> simp [fits64, Fits64]

/-- A writer and a reader of compact JSON. -/
def compactPayloads : PayloadLibraries where
  toJsonLibraries := { compactLibraries with
    orjsonDumps := fun fields =>
      if fields.all fun field => fits64 field.2.toJson then
        some (compact (.object (fields.map fun field => (field.1, field.2.toJson))))
      else none }
  orjsonLoads := fun bytes => (parseCompact bytes).map .ofJson

theorem exactItems_of_plain {items : List Json} (h : ∀ item ∈ items, ∃ s, item = .str s) :
    Json.ExactItems items := by
  induction items with
  | nil => trivial
  | cons item items ih =>
    obtain ⟨⟨s, rfl⟩, hrest⟩ := List.forall_mem_cons.mp h
    exact ⟨trivial, ih hrest⟩

theorem PlainDocument.exact {fields : List (String × Json)} (h : PlainDocument fields) :
    (Json.object fields).Exact := by
  obtain ⟨-, -, hvalues⟩ := h
  induction fields with
  | nil => trivial
  | cons field fields ih =>
    obtain ⟨hvalue, hvalues⟩ := List.forall_mem_cons.mp hvalues
    refine ⟨?_, ih hvalues⟩
    cases hfield : field.2 <;> rw [hfield] at hvalue
    case list => exact exactItems_of_plain fun item hitem => (hvalue item hitem).imp fun _ => And.left
    case int | str => trivial
    all_goals exact hvalue.elim

theorem parseCompact_compact {fields : List (String × Json)} (h : PlainDocument fields) :
    parseCompact (compact (.object fields)) = some (.object fields) := by
  have hspaces : ([] : List Char).all isJsonSpace = true := rfl
  have hread := parseCompact_append h.exact hspaces
  rwa [show utf8 [] = [] from rfl, List.append_nil] at hread

theorem map_wireFields (fields : List (String × Json)) :
    ((wireFields fields).map fun field => (field.1, field.2.toJson)) = fields := by
  rw [wireFields, List.map_map]
  exact List.map_id _

theorem all_wireFields (fields : List (String × Json)) :
    ((wireFields fields).all fun field => fits64 field.2.toJson) =
      fields.all fun field => fits64 field.2 := by
  rw [wireFields, List.all_map]
  rfl

theorem tooLong_of_fits64 {j : Json} (h : Fits64 j) : tooLong j = false := by
  cases j with
  | int n =>
    have hlimit : 10 ^ 20 ≤ textLimit := pow_le_textLimit (by decide)
    obtain ⟨hlow, hhigh⟩ := h
    exact decide_eq_false (by omega)
  | _ => rfl

/-- A writer and a reader of compact JSON keep what orjson and simplejson promise. -/
theorem compactPayloads_documented : compactPayloads.Documented where
  orjson_dumps fields _ hfits := by
    have hall : (fields.all fun field => fits64 field.2) = true :=
      List.all_eq_true.mpr fun field hfield => fits64_iff.mpr (hfits field hfield)
    change (if _ then some (compact (.object _)) else none) = _
    rw [all_wireFields, map_wireFields, if_pos hall]
  orjson_refuses fields _ hlong := by
    obtain ⟨field, hfield, hlong⟩ := hlong
    have hall : ¬ (fields.all fun field => fits64 field.2) = true := fun h =>
      hlong (fits64_iff.mp (List.all_eq_true.mp h field hfield))
    change (if _ then some (compact (.object _)) else none) = _
    rw [all_wireFields, if_neg hall]
  orjson_loads fields hplain _ := by
    refine ⟨.ofJson (.object fields), ?_, OrjsonValue.lossless_ofJson _ hplain.exact⟩
    change (parseCompact _).map OrjsonValue.ofJson = _
    rw [parseCompact_compact hplain, Option.map_some]
  simplejson_dumps fields _ hfits := by
    have hshort : (fields.any fun field => tooLong field.2) = false := by
      rw [List.any_eq_false]
      intro field hfield
      rw [tooLong_of_fits64 (hfits field hfield)]
      decide
    change (if fields.any fun field => tooLong field.2 then none
      else some (compact (.object fields))) = _
    rw [hshort]
    rfl
  simplejson_loads _ hplain _ := parseCompact_compact hplain

end CryptoCollector.Benchmarks
