import CryptoCollector.Storage.Envelope

/-!
# Layout of the data root

The paths of `storage/layout.py`, the path checks of `storage/models.py` and the sibling paths of
`storage/manifest.py`. A path is a string of segments joined by `/`, relative to the data root.
-/

namespace CryptoCollector.Storage

/-! ## Texts -/

/-- The segments of a text: `str.split(separator)`. -/
def split (separator : Char) (s : String) : List String :=
  (s.toList.splitOn separator).map String.ofList

/-- The segments of a path. -/
def segments (path : String) : List String := split '/' path

/-- `"/".join(parts)`. -/
def joinPath (parts : List String) : String :=
  String.ofList (['/'].intercalate (parts.map String.toList))

/-- `str.endswith`. -/
def endsWith (s suffix : String) : Bool := suffix.toList.isSuffixOf s.toList

/-- `str.removesuffix`. -/
def removeSuffix (s suffix : String) : String :=
  if endsWith s suffix then String.ofList (s.toList.take (s.toList.length - suffix.toList.length))
  else s

/-- The value of a canonical decimal `0|[1-9][0-9]*`. -/
def canonicalDecimal (digits : List Char) : Option Nat :=
  match digits with
  | [] => none
  | ['0'] => some 0
  | c :: cs =>
    if c ≠ '0' ∧ (c :: cs).all Char.isDigit then some (Nat.ofDigitChars 10 (c :: cs) 0) else none

/-- The format `{n:0{width}d}`. -/
def padded (width n : Nat) : String :=
  String.ofList (List.replicate (width - (Nat.toDigits 10 n).length) '0' ++ Nat.toDigits 10 n)

/-! ## UTC hours -/

/-- A UTC hour of the proleptic Gregorian calendar. -/
structure UtcHour where
  year : Nat
  month : Nat
  day : Nat
  hour : Nat
  deriving DecidableEq

namespace UtcHour

/-- `datetime.fromtimestamp(seconds, tz=UTC)`, for times from 1970 on. The calendar year starts on
the first of March, so that the leap day is its last day. -/
def ofSeconds (seconds : Nat) : UtcHour :=
  let day := seconds / 86400 + 719468
  let era := day / 146097
  let dayOfEra := day % 146097
  let yearOfEra := (dayOfEra - dayOfEra / 1460 + dayOfEra / 36524 - dayOfEra / 146096) / 365
  let dayOfYear := dayOfEra - (365 * yearOfEra + yearOfEra / 4 - yearOfEra / 100)
  let monthFromMarch := (5 * dayOfYear + 2) / 153
  let month := if monthFromMarch < 10 then monthFromMarch + 3 else monthFromMarch - 9
  { year := yearOfEra + era * 400 + (if month ≤ 2 then 1 else 0)
    month
    day := dayOfYear - (153 * monthFromMarch + 2) / 5 + 1
    hour := seconds % 86400 / 3600 }

/-- The days of a month. -/
def daysInMonth (year month : Nat) : Nat :=
  if month = 2 then
    if year % 4 = 0 ∧ (year % 100 ≠ 0 ∨ year % 400 = 0) then 29 else 28
  else if month = 4 ∨ month = 6 ∨ month = 9 ∨ month = 11 then 30
  else 31

/-- The ranges that the `datetime` constructor checks. -/
def isValid (h : UtcHour) : Bool :=
  1 ≤ h.year && h.year ≤ 9999 && 1 ≤ h.month && h.month ≤ 12 && 1 ≤ h.day &&
    h.day ≤ daysInMonth h.year h.month && h.hour < 24

/-- `int(datetime.timestamp())`. -/
def timestamp (h : UtcHour) : Int :=
  let year := if h.month ≤ 2 then h.year - 1 else h.year
  let yearOfEra := year % 400
  let monthFromMarch := if h.month ≤ 2 then h.month + 9 else h.month - 3
  let dayOfYear := (153 * monthFromMarch + 2) / 5 + h.day - 1
  let dayOfEra := yearOfEra * 365 + yearOfEra / 4 - yearOfEra / 100 + dayOfYear
  ((year / 400 * 146097 + dayOfEra : Nat) - 719468) * 86400 + h.hour * 3600

/-- The four directory names of an hour. -/
def names (h : UtcHour) : List String :=
  [padded 4 h.year, padded 2 h.month, padded 2 h.day, padded 2 h.hour]

end UtcHour

/-- The last second of year 9999, the range of `datetime`. -/
def maxUtcSecond : Nat := 253402300799

/-- `_utc_storage_hour`, split at its slashes. -/
def utcStorageHour (timestampNs : Nat) : Except Err (List String) :=
  let seconds := timestampNs / 1000000000
  if maxUtcSecond < seconds then
    .error (.valueError "timestamp is outside the supported UTC range")
  else .ok (UtcHour.ofSeconds seconds).names

example : utcStorageHour 1709164800000000000 = .ok ["2024", "02", "29", "00"] := by decide

example : (⟨2024, 2, 29, 0⟩ : UtcHour).timestamp = 1709164800 := by decide

/-! ## Paths -/

/-- `validate_normalized_data_relative_path`. -/
def isNormalizedRelativePath (value : String) : Bool :=
  value ≠ "" && !value.toList.contains '\x00' && !value.toList.contains '\\' &&
    value.toList.head? ≠ some '/' && (segments value).all fun part =>
      !(["", ".", ".."].contains part)

/-- The bytes that `_SAFE` keeps in an instrument segment. -/
def isSafeByte (b : UInt8) : Bool :=
  let c := Char.ofNat b.toNat
  b < 128 && (c.isAlphanum || c == '-' || c == '.' || c == '~')

/-- An upper case hexadecimal digit. -/
def upperHex (n : Nat) : Char := if n < 10 then Char.ofNat (48 + n) else Char.ofNat (55 + n)

/-- The escape `%XX` of a byte. -/
def percentEscape (b : UInt8) : List Char :=
  ['%', upperHex (b.toNat / 16), upperHex (b.toNat % 16)]

/-- What a byte of an instrument key is encoded as. -/
def encodeByte (b : UInt8) : List Char :=
  if isSafeByte b then [Char.ofNat b.toNat] else percentEscape b

/-- `domain/paths.py: encode_instrument_key`. -/
def encodeInstrumentKey (key : String) : Except Err String :=
  if key = "" || key = "." || key = ".." || key.toList.contains '\x00' then
    .error (.valueError "instrument key is not path-safe")
  else
    .ok (String.ofList (key.toUTF8.data.toList.flatMap encodeByte))

/-- The value of a hexadecimal digit. -/
def hexValue (c : Char) : Option Nat :=
  if '0' ≤ c ∧ c ≤ '9' then some (c.toNat - 48)
  else if 'A' ≤ c ∧ c ≤ 'F' then some (c.toNat - 55)
  else if 'a' ≤ c ∧ c ≤ 'f' then some (c.toNat - 87)
  else none

/-- `unquote_to_bytes` of an ASCII text; a `%` without two digits stands for itself. -/
def unquoteBytes : List Char → List UInt8
  | [] => []
  | '%' :: a :: b :: cs =>
    match hexValue a, hexValue b with
    | some x, some y => (16 * x + y).toUInt8 :: unquoteBytes cs
    | _, _ => 37 :: unquoteBytes (a :: b :: cs)
  | c :: cs => c.toNat.toUInt8 :: unquoteBytes cs

/-- `domain/paths.py: decode_instrument_key`, for the ASCII segments. A segment with other
characters decodes to a key whose encoding is ASCII, so that no caller keeps it. -/
def decodeInstrumentKey (encoded : String) : Except Err String :=
  if encoded.toList.any fun c => 128 ≤ c.toNat then
    .error (.valueError "source path instrument encoding is not canonical")
  else
    match String.fromUTF8? ⟨(unquoteBytes encoded.toList).toArray⟩ with
    | some key => .ok key
    | none => .error (.valueError "invalid start byte")

/-- `_path_segment`. -/
def pathSegment (value : String) : Except Err String :=
  if value = "." || value = ".." || value.toList.contains '\x00' || value.toList.contains '/' ||
      value.toList.contains '\\' then
    .error (.valueError "logical_stream must be a path-safe segment without traversal")
  else .ok value

/-- `_scope_segments`. -/
def scopeSegments (e : EnvelopeFields) : Except Err (List String) :=
  if e.logicalStream = "_control" then .ok ["raw", e.exchange.value, "_control"]
  else
    match e.market with
    | none => .error (.valueError "non-control storage records require a market")
    | some market => do
      let stream ← pathSegment e.logicalStream
      match e.instrumentKey with
      | none => return ["raw", e.exchange.value, market.value, "_market", stream]
      | some key =>
        return ["raw", e.exchange.value, market.value, ← encodeInstrumentKey key, stream]

/-- The name of a part. -/
def partName (partStartNs sequence : Nat) : String :=
  "part-" ++ toString partStartNs ++ "-" ++ toString sequence ++ ".jsonl.zst"

/-- `raw_partial_path` below the data root, without the suffix `.partial`. -/
def rawDataPath (e : EnvelopeFields) (partStartNs sequence : Nat) : Except Err String := do
  let hour ← utcStorageHour e.receivedAtNs
  let scope ← scopeSegments e
  return joinPath (scope ++ hour ++ [partName partStartNs sequence])

/-- The start and the sequence of a name that `_FINAL_PART_NAME` matches. -/
def parsePartName (name : String) : Option (Nat × Nat) :=
  if "part-".toList.isPrefixOf name.toList && endsWith name ".jsonl.zst" then
    match (((removeSuffix name ".jsonl.zst").toList.drop 5).splitOn '-').map canonicalDecimal with
    | [some start, some sequence] => some (start, sequence)
    | _ => none
  else none

example : parsePartName (partName 1709164800000000000 12) = some (1709164800000000000, 12) := by
  decide

/-- `_sibling_path`. -/
def siblingPath (path suffix : String) : Except Err String :=
  let parts := segments path
  let name := parts.getLastD ""
  let stem := removeSuffix name ".jsonl.zst"
  if !endsWith name ".jsonl.zst" || ["", ".", ".."].contains stem then
    .error (.valueError "data path must name a complete .jsonl.zst file")
  else .ok (joinPath (parts.dropLast ++ [stem ++ suffix]))

/-- `manifest_path_for_data`. -/
def manifestPathForData (path : String) : Except Err String := siblingPath path ".manifest.json"

end CryptoCollector.Storage
