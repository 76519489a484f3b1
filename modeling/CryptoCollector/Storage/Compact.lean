import CryptoCollector.Lib.Numerals
import CryptoCollector.Storage.Json

/-!
# Compact JSON

The text of JSON without white space between its tokens, in which a string escapes quotes,
backslashes and control characters only, and a reader of such texts. The exponent and the fraction
of a number are not read.

* `read_write`: a value without decimal numbers is read from its own text.
* `fromUtf8_utf8`: a text is decoded from its own bytes.
-/

namespace CryptoCollector.Storage

open Lib

/-! ## Strings -/

/-- A hexadecimal digit. -/
def lowerHexDigit (n : Nat) : Char := if n < 10 then Char.ofNat (48 + n) else Char.ofNat (87 + n)

/-- The value of a hexadecimal digit. -/
def lowerHexValue (c : Char) : Nat :=
  if c.isDigit then c.toNat - 48 else c.toNat - 87

/-- A character of a string. -/
def escape (c : Char) : List Char :=
  if c = '\x22' then ['\\', '\x22']
  else if c = '\\' then ['\\', '\\']
  else if c = '\n' then ['\\', 'n']
  else if c = '\r' then ['\\', 'r']
  else if c = '\t' then ['\\', 't']
  else if c = '\x08' then ['\\', 'b']
  else if c = '\x0c' then ['\\', 'f']
  else if c.toNat < 32 then
    ['\\', 'u', '0', '0', lowerHexDigit (c.toNat / 16), lowerHexDigit (c.toNat % 16)]
  else [c]

/-- The character of an escape of two characters. -/
def unescape (c : Char) : Option Char :=
  [('\x22', '\x22'), ('\\', '\\'), ('/', '/'), ('n', '\n'), ('r', '\r'), ('t', '\t'),
    ('b', '\x08'), ('f', '\x0c')].lookup c

/-- The rest of a string, after its opening quote. -/
def readString : List Char → Option (List Char × List Char)
  | '\x22' :: rest => some ([], rest)
  | '\\' :: 'u' :: a :: b :: c :: d :: rest =>
    (readString rest).map fun p =>
      (Char.ofNat (((lowerHexValue a * 16 + lowerHexValue b) * 16 + lowerHexValue c) * 16 + lowerHexValue d) :: p.1, p.2)
  | '\\' :: c :: rest =>
    (unescape c).bind fun c => (readString rest).map fun p => (c :: p.1, p.2)
  | c :: rest => (readString rest).map fun p => (c :: p.1, p.2)
  | [] => none

/-- A string with its quotes. -/
def writeString (cs : List Char) : List Char := '\x22' :: (cs.flatMap escape ++ ['\x22'])

theorem lowerHexValue_lowerHexDigit {n : Nat} (h : n < 16) : lowerHexValue (lowerHexDigit n) = n := by
  have : ∀ n < 16, lowerHexValue (lowerHexDigit n) = n := by decide
  exact this n h

theorem readString_pair {d e : Char} (hd : d ≠ 'u') (he : unescape d = some e) (rest : List Char) :
    readString ('\\' :: d :: rest) = (readString rest).map fun p => (e :: p.1, p.2) := by
  rw [readString.eq_def]
  split
  · simp_all
  · simp_all
  · rename_i heq
    cases heq
    rw [he, Option.bind_some]
  · rename_i hpair heq
    cases heq
    exact absurd rfl (hpair d rest rfl)
  · simp_all

/-- A character is read from its escape. -/
theorem readString_escape (c : Char) (rest : List Char) :
    readString (escape c ++ rest) = (readString rest).map fun p => (c :: p.1, p.2) := by
  unfold escape
  split_ifs with hquote hslash hn hr ht hb hf hcontrol
  · subst hquote
    exact readString_pair (by decide) (by decide) rest
  · subst hslash
    exact readString_pair (by decide) (by decide) rest
  · subst hn
    exact readString_pair (by decide) (by decide) rest
  · subst hr
    exact readString_pair (by decide) (by decide) rest
  · subst ht
    exact readString_pair (by decide) (by decide) rest
  · subst hb
    exact readString_pair (by decide) (by decide) rest
  · subst hf
    exact readString_pair (by decide) (by decide) rest
  · have hzero : lowerHexValue '0' = 0 := by decide
    have hvalue : (0 * 16 + c.toNat / 16) * 16 + c.toNat % 16 = c.toNat := by omega
    simp only [List.cons_append, List.nil_append]
    rw [readString, hzero, lowerHexValue_lowerHexDigit (by omega), lowerHexValue_lowerHexDigit (by omega)]
    simp only [Nat.zero_mul, Nat.zero_add] at hvalue ⊢
    rw [hvalue, Char.ofNat_toNat]
  · rw [List.singleton_append, readString.eq_def]
    split <;> simp_all

theorem readString_flatMap (cs rest : List Char) :
    readString (cs.flatMap escape ++ '\x22' :: rest) = some (cs, rest) := by
  induction cs with
  | nil => rfl
  | cons c cs ih =>
    rw [List.flatMap_cons, List.append_assoc, readString_escape, ih]
    rfl

/-! ## Values -/

namespace Json

mutual

/-- The compact text of a value. A decimal number is written as its `str`. -/
def write : Json → List Char
  | .null => ['n', 'u', 'l', 'l']
  | .bool true => ['t', 'r', 'u', 'e']
  | .bool false => ['f', 'a', 'l', 's', 'e']
  | .int n => intText n
  | .decimal negative coefficient exponent => Decimal.text ⟨negative, coefficient, exponent⟩
  | .str s => writeString s.toList
  | .list [] => ['[', ']']
  | .list (item :: items) => '[' :: (write item ++ writeItems items)
  | .object [] => ['\x7b', '\x7d']
  | .object ((name, value) :: fields) =>
    '\x7b' :: (writeString name.toList ++ ':' :: (write value ++ writeFields fields))

/-- The text of the items that follow another one. -/
def writeItems : List Json → List Char
  | [] => [']']
  | item :: items => ',' :: (write item ++ writeItems items)

/-- The text of the fields that follow another one. -/
def writeFields : List (String × Json) → List Char
  | [] => ['\x7d']
  | (name, value) :: fields =>
    ',' :: (writeString name.toList ++ ':' :: (write value ++ writeFields fields))

end

/-- A quote, a name and its quote, and the colon. -/
def readName : List Char → Option (String × List Char)
  | '\x22' :: cs =>
    match readString cs with
    | some (name, ':' :: rest) => some (String.ofList name, rest)
    | _ => none
  | _ => none

/-- An integer. -/
def readNumber : List Char → Option (Json × List Char)
  | '-' :: cs => (readNat (cs.takeWhile Char.isDigit)).map fun n : Nat =>
      (.int (-n), cs.dropWhile Char.isDigit)
  | cs => (readNat (cs.takeWhile Char.isDigit)).map fun n : Nat =>
      (.int n, cs.dropWhile Char.isDigit)

mutual

/-- A value at the beginning of a text. -/
def read : Nat → List Char → Option (Json × List Char)
  | 0, _ => none
  | _ + 1, 'n' :: 'u' :: 'l' :: 'l' :: rest => some (.null, rest)
  | _ + 1, 't' :: 'r' :: 'u' :: 'e' :: rest => some (.bool true, rest)
  | _ + 1, 'f' :: 'a' :: 'l' :: 's' :: 'e' :: rest => some (.bool false, rest)
  | _ + 1, '\x22' :: cs => (readString cs).map fun p => (.str (String.ofList p.1), p.2)
  | _ + 1, '[' :: ']' :: rest => some (.list [], rest)
  | fuel + 1, '[' :: cs =>
    (read fuel cs).bind fun p => (readItems fuel p.2).map fun q => (.list (p.1 :: q.1), q.2)
  | _ + 1, '\x7b' :: '\x7d' :: rest => some (.object [], rest)
  | fuel + 1, '\x7b' :: cs =>
    (readName cs).bind fun name => (read fuel name.2).bind fun p =>
      (readFields fuel p.2).map fun q => (.object ((name.1, p.1) :: q.1), q.2)
  | _ + 1, cs => readNumber cs

/-- The items that follow another one. -/
def readItems : Nat → List Char → Option (List Json × List Char)
  | _ + 1, ']' :: rest => some ([], rest)
  | fuel + 1, ',' :: cs =>
    (read fuel cs).bind fun p => (readItems fuel p.2).map fun q => (p.1 :: q.1, q.2)
  | _, _ => none

/-- The fields that follow another one. -/
def readFields : Nat → List Char → Option (List (String × Json) × List Char)
  | _ + 1, '\x7d' :: rest => some ([], rest)
  | fuel + 1, ',' :: cs =>
    (readName cs).bind fun name => (read fuel name.2).bind fun p =>
      (readFields fuel p.2).map fun q => ((name.1, p.1) :: q.1, q.2)
  | _, _ => none

end

mutual

/-- A value without decimal numbers. -/
def Exact : Json → Prop
  | .decimal _ _ _ => False
  | .list items => ExactItems items
  | .object fields => ExactFields fields
  | _ => True

/-- Items without decimal numbers. -/
def ExactItems : List Json → Prop
  | [] => True
  | item :: items => Exact item ∧ ExactItems items

/-- Fields without decimal numbers. -/
def ExactFields : List (String × Json) → Prop
  | [] => True
  | (_, value) :: fields => Exact value ∧ ExactFields fields

end

/-- A text that does not go on with a digit. -/
def NoDigit (rest : List Char) : Prop := ∀ c ∈ rest.head?, c.isDigit = false

theorem span_digits {n : Nat} {rest : List Char} (h : NoDigit rest) :
    (Nat.toDigits 10 n ++ rest).takeWhile Char.isDigit = Nat.toDigits 10 n ∧
      (Nat.toDigits 10 n ++ rest).dropWhile Char.isDigit = rest := by
  have hall : ∀ c ∈ Nat.toDigits 10 n, c.isDigit = true := fun _ => isDigit_of_mem_toDigits
  rw [List.takeWhile_append_of_pos hall, List.dropWhile_append_of_pos hall]
  cases rest with
  | nil => simp
  | cons c rest =>
    have hc : c.isDigit = false := h c rfl
    simp [hc]

theorem readNumber_intText (n : Int) {rest : List Char} (h : NoDigit rest) :
    readNumber (intText n ++ rest) = some (.int n, rest) := by
  unfold intText
  obtain ⟨htake, hdrop⟩ := span_digits (n := n.natAbs) h
  by_cases hn : n < 0
  · rw [if_pos hn, List.cons_append, List.nil_append, List.cons_append, readNumber, htake, hdrop,
      readNat_toDigits, Option.map_some]
    congr 2
    congr 1
    omega
  · rw [if_neg hn, List.nil_append]
    have hnumber : readNumber (Nat.toDigits 10 n.natAbs ++ rest) =
        (readNat ((Nat.toDigits 10 n.natAbs ++ rest).takeWhile Char.isDigit)).map fun m =>
          (.int (m : Int), (Nat.toDigits 10 n.natAbs ++ rest).dropWhile Char.isDigit) := by
      rw [readNumber.eq_def]
      split
      · rename_i cs heq
        obtain ⟨d, ds, hd⟩ := List.exists_cons_of_ne_nil (Nat.toDigits_ne_nil (n := n.natAbs) (b := 10))
        rw [hd] at heq
        cases heq
        have hdigit : '-'.isDigit = true := isDigit_of_mem_toDigits (by rw [hd]; simp)
        exact absurd hdigit (by decide)
      · rfl
    rw [hnumber, htake, hdrop, readNat_toDigits, Option.map_some]
    congr 2
    congr 1
    omega

theorem read_of_number {c : Char} (hc : c = '-' ∨ c.isDigit = true) (fuel : Nat) (cs : List Char) :
    read (fuel + 1) (c :: cs) = readNumber (c :: cs) := by
  rw [read.eq_def]
  split <;> first | rfl | simp_all

theorem noDigit_writeItems (items : List Json) (rest : List Char) :
    NoDigit (writeItems items ++ rest) := by
  intro c hc
  cases items <;> cases hc <;> decide

theorem noDigit_writeFields (fields : List (String × Json)) (rest : List Char) :
    NoDigit (writeFields fields ++ rest) := by
  intro c hc
  cases fields with
  | nil => cases hc; decide
  | cons field fields => cases hc; decide

theorem exists_head_intText (n : Int) :
    ∃ c cs, intText n = c :: cs ∧ (c = '-' ∨ c.isDigit = true) := by
  obtain ⟨d, ds, hd⟩ := List.exists_cons_of_ne_nil (Nat.toDigits_ne_nil (n := n.natAbs) (b := 10))
  have hdigit : d.isDigit = true := isDigit_of_mem_toDigits (by rw [hd]; simp)
  rw [intText, hd]
  split_ifs
  · exact ⟨_, _, rfl, .inl rfl⟩
  · exact ⟨_, _, rfl, .inr hdigit⟩

/-- The first character of a text of a value. -/
theorem exists_head_write {j : Json} (h : j.Exact) : ∃ c cs, write j = c :: cs ∧ c ≠ ']' := by
  cases j with
  | null => exact ⟨_, _, rfl, by decide⟩
  | bool b => cases b <;> exact ⟨_, _, rfl, by decide⟩
  | int n =>
    obtain ⟨c, cs, hcs, hc⟩ := exists_head_intText n
    refine ⟨c, cs, hcs, ?_⟩
    rintro rfl
    exact absurd hc (by decide)
  | decimal negative coefficient exponent => exact h.elim
  | str s => exact ⟨_, _, rfl, by decide⟩
  | list items => cases items <;> exact ⟨_, _, rfl, by decide⟩
  | object fields =>
    cases fields with
    | nil => exact ⟨_, _, rfl, by decide⟩
    | cons field fields => exact ⟨_, _, rfl, by decide⟩

theorem readName_writeString (name : String) (rest : List Char) :
    readName (writeString name.toList ++ ':' :: rest) = some (name, rest) := by
  rw [writeString, List.cons_append, List.append_assoc, readName]
  rw [show ['\x22'] ++ ':' :: rest = '\x22' :: (':' :: rest) from rfl, readString_flatMap]
  simp

mutual

/-- A value is read from its own text. -/
theorem read_write : (j : Json) → j.Exact → (fuel : Nat) → (write j).length ≤ fuel →
    (rest : List Char) → NoDigit rest → read fuel (write j ++ rest) = some (j, rest)
  | .null, _, fuel + 1, _, rest, _ => by simp [write, read]
  | .bool true, _, fuel + 1, _, rest, _ => by simp [write, read]
  | .bool false, _, fuel + 1, _, rest, _ => by simp [write, read]
  | .int n, _, fuel, hfuel, rest, hrest => by
    obtain ⟨c, cs, hcs, hc⟩ := exists_head_intText n
    rw [write] at hfuel ⊢
    obtain ⟨fuel, rfl⟩ : ∃ m, fuel = m + 1 := by
      rw [hcs, List.length_cons] at hfuel
      exact ⟨fuel - 1, by omega⟩
    rw [← readNumber_intText n hrest, hcs]
    exact read_of_number hc fuel (cs ++ rest)
  | .str s, _, fuel + 1, _, rest, _ => by
    rw [write, writeString, List.cons_append, List.append_assoc, List.singleton_append, read,
      readString_flatMap]
    simp
  | .list [], _, fuel + 1, _, rest, _ => by simp [write, read]
  | .list (item :: items), h, fuel + 1, hfuel, rest, _ => by
    rw [write, List.length_cons, List.length_append] at hfuel
    have hitem := read_write item h.1 fuel (by omega) (writeItems items ++ rest)
      (noDigit_writeItems items rest)
    have hitems := readItems_writeItems items h.2 fuel (by omega) rest
    obtain ⟨c, cs, hc, hne⟩ := exists_head_write h.1
    rw [write, List.cons_append, List.append_assoc]
    have hlist : read (fuel + 1) ('[' :: (write item ++ (writeItems items ++ rest))) =
        (read fuel (write item ++ (writeItems items ++ rest))).bind fun p =>
          (readItems fuel p.2).map fun q => (.list (p.1 :: q.1), q.2) := by
      rw [hc, List.cons_append, read]
      rintro _ heq
      cases heq
      exact hne rfl
    rw [hlist, hitem, Option.bind_some, hitems, Option.map_some]
  | .object [], _, fuel + 1, _, rest, _ => by simp [write, read]
  | .object ((name, value) :: fields), h, fuel + 1, hfuel, rest, _ => by
    rw [write, List.length_cons, List.length_append, List.length_cons, List.length_append] at hfuel
    have hvalue := read_write value h.1 fuel (by omega) (writeFields fields ++ rest)
      (noDigit_writeFields fields rest)
    have hfields := readFields_writeFields fields h.2 fuel (by omega) rest
    have hname : read (fuel + 1) ('\x7b' :: (writeString name.toList ++
          ':' :: (write value ++ (writeFields fields ++ rest)))) =
        (readName (writeString name.toList ++ ':' :: (write value ++
          (writeFields fields ++ rest)))).bind fun name => (read fuel name.2).bind fun p =>
            (readFields fuel p.2).map fun q => (.object ((name.1, p.1) :: q.1), q.2) := by
      rw [writeString, List.cons_append, read]
      rintro _ heq
      cases heq
    rw [write, List.cons_append, List.append_assoc, List.cons_append, List.append_assoc, hname,
      readName_writeString, Option.bind_some, hvalue, Option.bind_some, hfields, Option.map_some]

theorem readItems_writeItems : (items : List Json) → ExactItems items → (fuel : Nat) →
    (writeItems items).length ≤ fuel → (rest : List Char) →
    readItems fuel (writeItems items ++ rest) = some (items, rest)
  | [], _, fuel + 1, _, rest => by simp [writeItems, readItems]
  | item :: items, h, fuel + 1, hfuel, rest => by
    rw [writeItems, List.length_cons, List.length_append] at hfuel
    have hitem := read_write item h.1 fuel (by omega) (writeItems items ++ rest)
      (noDigit_writeItems items rest)
    have hitems := readItems_writeItems items h.2 fuel (by omega) rest
    rw [writeItems, List.cons_append, List.append_assoc, readItems, hitem, Option.bind_some,
      hitems, Option.map_some]

theorem readFields_writeFields : (fields : List (String × Json)) → ExactFields fields →
    (fuel : Nat) → (writeFields fields).length ≤ fuel → (rest : List Char) →
    readFields fuel (writeFields fields ++ rest) = some (fields, rest)
  | [], _, fuel + 1, _, rest => by simp [writeFields, readFields]
  | (name, value) :: fields, h, fuel + 1, hfuel, rest => by
    rw [writeFields, List.length_cons, List.length_append, List.length_cons, List.length_append]
      at hfuel
    have hvalue := read_write value h.1 fuel (by omega) (writeFields fields ++ rest)
      (noDigit_writeFields fields rest)
    have hfields := readFields_writeFields fields h.2 fuel (by omega) rest
    rw [writeFields, List.cons_append, List.append_assoc, List.cons_append, List.append_assoc,
      readFields, readName_writeString, Option.bind_some, hvalue, Option.bind_some, hfields,
      Option.map_some]

end

end Json

/-- The text of the fields ends with the string that the last field holds. -/
theorem Json.exists_writeFields_append (fields : List (String × Json)) (name : String) :
    ∃ before : List Char, ∀ s : String, writeFields (fields ++ [(name, .str s)]) =
      before ++ '\x22' :: (s.toList.flatMap escape ++ ['\x22', '\x7d']) := by
  induction fields with
  | nil =>
    refine ⟨',' :: (writeString name.toList ++ [':']), fun s => ?_⟩
    rw [List.nil_append, writeFields, write, writeFields, writeString.eq_def s.toList]
    simp
  | cons field fields ih =>
    obtain ⟨before, hbefore⟩ := ih
    refine ⟨',' :: (writeString field.1.toList ++ ':' :: (write field.2 ++ before)), fun s => ?_⟩
    rw [List.cons_append, writeFields, hbefore]
    simp

/-- The text of an object ends with the string that the last field holds. -/
theorem Json.exists_write_append (fields : List (String × Json)) (name : String) :
    ∃ before : List Char, ∀ s : String, write (.object (fields ++ [(name, .str s)])) =
      before ++ '\x22' :: (s.toList.flatMap escape ++ ['\x22', '\x7d']) := by
  cases fields with
  | nil =>
    refine ⟨'\x7b' :: (writeString name.toList ++ [':']), fun s => ?_⟩
    rw [List.nil_append, write, write, writeFields, writeString.eq_def s.toList]
    simp
  | cons field fields =>
    obtain ⟨before, hbefore⟩ := exists_writeFields_append fields name
    refine ⟨'\x7b' :: (writeString field.1.toList ++ ':' :: (write field.2 ++ before)),
      fun s => ?_⟩
    rw [List.cons_append, write, hbefore]
    simp

/-! ## Bytes -/

/-- The bytes of a text. -/
def utf8 (cs : List Char) : Bytes := (String.ofList cs).toUTF8.data.toList

theorem utf8_eq (cs : List Char) : utf8 cs = cs.utf8Encode.data.toList := by
  rw [utf8, String.toUTF8, String.toByteArray_ofList]

/-- The text of some bytes. -/
def fromUtf8 (bytes : Bytes) : Option (List Char) :=
  (ByteArray.mk bytes.toArray).utf8Decode?.map Array.toList

/-- White space of JSON. -/
def isJsonSpace (c : Char) : Bool := [' ', '\n', '\r', '\t'].contains c

/-- The compact text of a value, in bytes. -/
def compact (j : Json) : Bytes := utf8 j.write

/-- A compact text with white space after it. -/
def parseCompact (bytes : Bytes) : Option Json :=
  (fromUtf8 bytes).bind fun cs => (Json.read cs.length cs).bind fun p =>
    if p.2.all isJsonSpace then some p.1 else none

/-- A text is decoded from its own bytes. -/
theorem fromUtf8_utf8 (cs : List Char) : fromUtf8 (utf8 cs) = some cs := by
  rw [fromUtf8, utf8_eq, Array.toArray_toList, List.utf8Decode?_utf8Encode, Option.map_some]

theorem utf8_append (cs ds : List Char) : utf8 (cs ++ ds) = utf8 cs ++ utf8 ds := by
  rw [utf8_eq, utf8_eq, utf8_eq, List.utf8Encode_append]
  simp

/-- A value is parsed from its own text. -/
theorem parseCompact_append {j : Json} (h : j.Exact) {spaces : List Char}
    (hspaces : spaces.all isJsonSpace = true) : parseCompact (compact j ++ utf8 spaces) = some j := by
  have hdigit : Json.NoDigit spaces := by
    intro c hc
    have hspace := List.all_eq_true.mp hspaces c (List.mem_of_mem_head? hc)
    have hall : [' ', '\n', '\r', '\t'].all (fun c => !c.isDigit) = true := by decide
    simpa using List.all_eq_true.mp hall c (List.contains_iff_mem.mp hspace)
  have hread := Json.read_write j h (j.write ++ spaces).length (by simp) spaces hdigit
  rw [parseCompact, compact, ← utf8_append, fromUtf8_utf8, Option.bind_some, hread,
    Option.bind_some, if_pos hspaces]

end CryptoCollector.Storage
