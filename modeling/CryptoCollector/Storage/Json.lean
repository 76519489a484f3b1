import CryptoCollector.Storage.Envelope
import Mathlib.Algebra.Ring.Int.Defs

/-!
# JSON values

Decidable identity of JSON values, and `==` of the values that `decode_json` returns: numbers of
every kind are compared by their value, and objects whatever the order of their keys. Lines of JSON are built from encoded fields.
-/

namespace CryptoCollector.Storage

namespace Json

mutual

/-- Equality of JSON is decidable. -/
def decEq : (a b : Json) → Decidable (a = b)
  | .null, b => match b with
    | .null => isTrue rfl
    | .bool _ | .int _ | .decimal _ _ _ | .str _ | .list _ | .object _ => isFalse nofun
  | .bool x, b => match b with
    | .bool y => decidable_of_iff (x = y) (by simp)
    | .null | .int _ | .decimal _ _ _ | .str _ | .list _ | .object _ => isFalse nofun
  | .int x, b => match b with
    | .int y => decidable_of_iff (x = y) (by simp)
    | .null | .bool _ | .decimal _ _ _ | .str _ | .list _ | .object _ => isFalse nofun
  | .decimal s c e, b => match b with
    | .decimal s' c' e' => decidable_of_iff (s = s' ∧ c = c' ∧ e = e') (by simp)
    | .null | .bool _ | .int _ | .str _ | .list _ | .object _ => isFalse nofun
  | .str x, b => match b with
    | .str y => decidable_of_iff (x = y) (by simp)
    | .null | .bool _ | .int _ | .decimal _ _ _ | .list _ | .object _ => isFalse nofun
  | .list xs, b => match b with
    | .list ys => match decEqItems xs ys with
      | isTrue h => isTrue (h ▸ rfl)
      | isFalse h => isFalse fun heq => h (by simpa using heq)
    | .null | .bool _ | .int _ | .decimal _ _ _ | .str _ | .object _ => isFalse nofun
  | .object xs, b => match b with
    | .object ys => match decEqFields xs ys with
      | isTrue h => isTrue (h ▸ rfl)
      | isFalse h => isFalse fun heq => h (by simpa using heq)
    | .null | .bool _ | .int _ | .decimal _ _ _ | .str _ | .list _ => isFalse nofun

/-- Equality of lists of JSON is decidable. -/
def decEqItems : (xs ys : List Json) → Decidable (xs = ys)
  | [], [] => isTrue rfl
  | [], _ :: _ => isFalse nofun
  | _ :: _, [] => isFalse nofun
  | x :: xs, y :: ys => match decEq x y, decEqItems xs ys with
    | isTrue h, isTrue hs => isTrue (h ▸ hs ▸ rfl)
    | isFalse h, _ => isFalse fun heq => h (List.cons.inj heq).1
    | _, isFalse hs => isFalse fun heq => hs (List.cons.inj heq).2

/-- Equality of lists of fields is decidable. -/
def decEqFields : (xs ys : List (String × Json)) → Decidable (xs = ys)
  | [], [] => isTrue rfl
  | [], _ :: _ => isFalse nofun
  | _ :: _, [] => isFalse nofun
  | (name, x) :: xs, (name', y) :: ys =>
    if hname : name = name' then
      match decEq x y, decEqFields xs ys with
      | isTrue h, isTrue hs => isTrue (hname ▸ h ▸ hs ▸ rfl)
      | isFalse h, _ => isFalse fun heq => h (Prod.ext_iff.1 (List.cons.inj heq).1).2
      | _, isFalse hs => isFalse fun heq => hs (List.cons.inj heq).2
    else isFalse fun heq => hname (Prod.ext_iff.1 (List.cons.inj heq).1).1

end

instance : DecidableEq Json := decEq

/-- The value of a number as a coefficient and an exponent of ten. A boolean is a number. -/
def number : Json → Option (Int × Int)
  | .bool b => some (if b then 1 else 0, 0)
  | .int n => some (n, 0)
  | .decimal negative coefficient exponent =>
    some (if negative then -(coefficient : Int) else coefficient, exponent)
  | _ => none

/-- Two numbers have the same value. -/
def sameNumber (x y : Int × Int) : Bool :=
  let low := min x.2 y.2
  x.1 * 10 ^ (x.2 - low).toNat = y.1 * 10 ^ (y.2 - low).toNat

/-- Equality of values that have no parts. -/
def sameAtom : Json → Json → Bool
  | .null, .null => true
  | .str s, .str t => s = t
  | a, b =>
    match a.number, b.number with
    | some x, some y => sameNumber x y
    | _, _ => false

mutual

/-- `==`. -/
def equal : Json → Json → Bool
  | .list xs, .list ys => equalItems xs ys
  | .object fs, .object gs => fs.length = gs.length && equalFields fs gs
  | a, b => sameAtom a b

/-- `==` of lists. -/
def equalItems : List Json → List Json → Bool
  | [], [] => true
  | x :: xs, y :: ys => equal x y && equalItems xs ys
  | _, _ => false

/-- Every field of an object is in the other object. -/
def equalFields : List (String × Json) → List (String × Json) → Bool
  | [], _ => true
  | (name, value) :: fs, gs =>
    (match gs.lookup name with
      | some other => equal value other
      | none => false) && equalFields fs gs

end

mutual

/-- The names of the fields of every object are distinct. -/
def Distinct : Json → Prop
  | .list items => DistinctItems items
  | .object fields => (fields.map Prod.fst).Nodup ∧ DistinctFields fields
  | _ => True

/-- The items have distinct names. -/
def DistinctItems : List Json → Prop
  | [] => True
  | item :: items => Distinct item ∧ DistinctItems items

/-- The values of the fields have distinct names. -/
def DistinctFields : List (String × Json) → Prop
  | [] => True
  | (_, value) :: fields => Distinct value ∧ DistinctFields fields

end

theorem lookup_of_mem {fields : List (String × Json)} (h : (fields.map Prod.fst).Nodup)
    {name : String} {value : Json} (hmem : (name, value) ∈ fields) :
    fields.lookup name = some value := by
  obtain ⟨before, after, rfl⟩ := List.append_of_mem hmem
  refine List.lookup_eq_some_iff.mpr ⟨before, after, rfl, fun field hfield => ?_⟩
  rw [List.map_append, List.map_cons, List.nodup_append] at h
  have hne := h.2.2 field.1 (List.mem_map_of_mem hfield) name List.mem_cons_self
  simpa using Ne.symm hne

example : equal (.object [("a", .int 1), ("b", .str "x")])
    (.object [("b", .str "x"), ("a", .decimal false 10 (-1))]) = true := by
  decide

end Json

/-- `==` of envelopes. -/
def EnvelopeFields.equal (e f : EnvelopeFields) : Bool :=
  (e.exchange, e.market, e.instrumentKey, e.wireSymbol, e.logicalStream, e.nativeChannel) =
    (f.exchange, f.market, f.instrumentKey, f.wireSymbol, f.logicalStream, f.nativeChannel) &&
  (e.transport, e.eventTimeNs, e.eventTimeSource) =
    (f.transport, f.eventTimeNs, f.eventTimeSource) &&
  (e.integrityMode, e.coverage, e.restMetadata) =
    (f.integrityMode, f.coverage, f.restMetadata) &&
  e.payload.equal f.payload &&
  (e.receivedAtNs, e.monotonicNs, e.workerInstanceId, e.connectionId, e.connectionGeneration) =
    (f.receivedAtNs, f.monotonicNs, f.workerInstanceId, f.connectionId,
      f.connectionGeneration) &&
  (e.writerSequence, e.egressId, e.configSha256) =
    (f.writerSequence, f.egressId, f.configSha256)

/-! ## Lines -/

/-- The bytes of an ASCII text. -/
def ascii (s : String) : Bytes := s.toUTF8.data.toList

/-- The line of a JSON object, from the names and the encoded values of its fields. -/
def jsonLine (fields : List (String × String)) : Bytes :=
  ascii "\x7b" ++ (ascii ",").intercalate (fields.map fun field =>
    ascii "\"" ++ ascii field.1 ++ ascii "\":" ++ ascii field.2) ++ ascii "\x7d\n"

end CryptoCollector.Storage
