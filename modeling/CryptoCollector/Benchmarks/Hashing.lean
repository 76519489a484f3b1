import CryptoCollector.Storage.Compact
import CryptoCollector.Storage.Layout

/-!
# Hashes and ASCII texts

The part of `hashlib` that the generation of events uses, and the texts that its JSON documents
hold: printable ASCII without quotes and backslashes, written as one byte for each character.

* `isSha256_hexdigest`: a hexadecimal digest has the form of a digest.
* `utf8_eq_map`: the bytes of an ASCII text are its characters.
-/

namespace CryptoCollector.Benchmarks

open Lib Storage

/-! ## Digests -/

/-- `hashlib`. -/
structure Hashlib where
  /-- `sha256(data).digest()`. -/
  sha256 : Bytes → Bytes
  /-- `shake_256(data).digest(length)`. -/
  shake256 : Bytes → Nat → Bytes
  length_sha256 : ∀ data, (sha256 data).length = 32
  length_shake256 : ∀ data length, (shake256 data length).length = length

/-- The two digits of a byte. -/
def hexByte (b : UInt8) : List Char := [lowerHexDigit (b.toNat / 16), lowerHexDigit (b.toNat % 16)]

/-- `int.from_bytes(digest, "big")`. -/
def fromBytesBig (digest : Bytes) : Nat := digest.foldl (fun n b => 256 * n + b.toNat) 0

namespace Hashlib

variable (H : Hashlib)

/-- `sha256(data).hexdigest()`. -/
def hexdigest (data : Bytes) : String := String.ofList ((H.sha256 data).flatMap hexByte)

/-- `int.from_bytes(sha256(data).digest()[:8], "big", signed=False)`. -/
def lane (data : Bytes) : Nat := fromBytesBig ((H.sha256 data).take 8)

end Hashlib

theorem isLowerHex_lowerHexDigit {n : Nat} (h : n < 16) : isLowerHex (lowerHexDigit n) = true := by
  have hall : ∀ n < 16, isLowerHex (lowerHexDigit n) = true := by decide
  exact hall n h

theorem isLowerHex_of_mem_hexByte {b : UInt8} {c : Char} (h : c ∈ hexByte b) :
    isLowerHex c = true := by
  have hb : b.toNat < 256 := b.toNat_lt
  rw [hexByte, List.mem_cons, List.mem_singleton] at h
  obtain rfl | rfl := h
  · exact isLowerHex_lowerHexDigit (by omega)
  · exact isLowerHex_lowerHexDigit (by omega)

theorem length_flatMap_hexByte (bytes : Bytes) :
    (bytes.flatMap hexByte).length = 2 * bytes.length := by
  induction bytes with
  | nil => rfl
  | cons b bytes ih =>
    rw [List.flatMap_cons, List.length_append, ih, List.length_cons]
    change 2 + _ = _
    omega

/-- A hexadecimal digest has the form of a digest. -/
theorem Hashlib.isSha256_hexdigest (H : Hashlib) (data : Bytes) :
    isSha256 (H.hexdigest data) = true := by
  rw [isSha256, hexdigest, String.toList_ofList, length_flatMap_hexByte, H.length_sha256,
    Bool.and_eq_true, List.all_eq_true]
  refine ⟨decide_eq_true rfl, fun c hc => ?_⟩
  obtain ⟨b, -, hb⟩ := List.mem_flatMap.mp hc
  exact isLowerHex_of_mem_hexByte hb

theorem hexByte_injective : Function.Injective hexByte := by
  intro a b h
  have ha : a.toNat < 256 := a.toNat_lt
  have hb : b.toNat < 256 := b.toNat_lt
  obtain ⟨hhigh, hlow⟩ := List.cons.inj h
  have hhigh := congrArg lowerHexValue hhigh
  have hlow := congrArg lowerHexValue (List.cons.inj hlow).1
  rw [lowerHexValue_lowerHexDigit (by omega), lowerHexValue_lowerHexDigit (by omega)] at hhigh
  rw [lowerHexValue_lowerHexDigit (by omega), lowerHexValue_lowerHexDigit (by omega)] at hlow
  exact UInt8.toNat_inj.mp (by omega)

/-- A hexadecimal digest gives the digest. -/
theorem Hashlib.sha256_of_hexdigest {H : Hashlib} {a b : Bytes} (h : H.hexdigest a = H.hexdigest b) :
    H.sha256 a = H.sha256 b := by
  have hflat : ∀ xs ys : Bytes, xs.flatMap hexByte = ys.flatMap hexByte → xs = ys := by
    intro xs
    induction xs with
    | nil =>
      intro ys hys
      cases ys with
      | nil => rfl
      | cons y ys => cases hys
    | cons x xs ih =>
      intro ys hys
      cases ys with
      | nil => cases hys
      | cons y ys =>
        rw [List.flatMap_cons, List.flatMap_cons] at hys
        obtain ⟨hbyte, hrest⟩ := List.append_inj hys rfl
        rw [hexByte_injective hbyte, ih ys hrest]
  have hlist := congrArg String.toList h
  rw [Hashlib.hexdigest, Hashlib.hexdigest, String.toList_ofList, String.toList_ofList] at hlist
  exact hflat _ _ hlist

/-! ## Plain texts -/

/-- A printable ASCII character that a JSON string holds without an escape. -/
def isPlainChar (c : Char) : Bool :=
  32 ≤ c.toNat && c.toNat < 127 && c ≠ '\x22' && c ≠ '\\'

/-- A text of such characters. -/
def isPlainText (s : String) : Bool := s.toList.all isPlainChar

theorem isPlainText_append (s t : String) :
    isPlainText (s ++ t) = (isPlainText s && isPlainText t) := by
  rw [isPlainText, String.toList_append, List.all_append, isPlainText, isPlainText]

theorem isPlainText_ofList (cs : List Char) : isPlainText (String.ofList cs) = cs.all isPlainChar := by
  rw [isPlainText, String.toList_ofList]

/-- Letters, digits and some signs are plain. -/
theorem isPlainChar_of_toNat {c : Char} (hlow : 35 ≤ c.toNat) (hhigh : c.toNat < 92) :
    isPlainChar c = true := by
  have hquote : c ≠ '\x22' := by
    rintro rfl
    exact absurd hlow (by decide)
  have hslash : c ≠ '\\' := by
    rintro rfl
    exact absurd hhigh (by decide)
  simp [isPlainChar, hquote, hslash]
  omega

theorem toNat_lt_of_isPlainChar {c : Char} (h : isPlainChar c = true) : c.toNat < 128 := by
  simp only [isPlainChar, Bool.and_eq_true, decide_eq_true_eq] at h
  omega

theorem isPlainChar_of_isDigit {c : Char} (h : c.isDigit = true) : isPlainChar c = true := by
  simp only [Char.isDigit, Bool.and_eq_true, decide_eq_true_eq, UInt32.le_iff_toNat_le] at h
  have hlow : 48 ≤ c.toNat := h.1
  have hhigh : c.toNat ≤ 57 := h.2
  exact isPlainChar_of_toNat (by omega) (by omega)

theorem isPlainChar_lowerHexDigit {n : Nat} (h : n < 16) : isPlainChar (lowerHexDigit n) = true := by
  have hall : ∀ n < 16, isPlainChar (lowerHexDigit n) = true := by decide
  exact hall n h

theorem all_isPlainChar_toDigits (n : Nat) : (Nat.toDigits 10 n).all isPlainChar = true :=
  List.all_eq_true.mpr fun _ hc => isPlainChar_of_isDigit (isDigit_of_mem_toDigits hc)

theorem isPlainText_padded (width n : Nat) : isPlainText (padded width n) = true := by
  rw [padded, isPlainText_ofList, List.all_append, all_isPlainChar_toDigits, Bool.and_true,
    List.all_eq_true]
  intro c hc
  rw [List.eq_of_mem_replicate hc]
  decide

theorem isPlainText_hexdigest (H : Hashlib) (data : Bytes) :
    isPlainText (H.hexdigest data) = true := by
  rw [Hashlib.hexdigest, isPlainText_ofList, List.all_eq_true]
  intro c hc
  obtain ⟨b, -, hb⟩ := List.mem_flatMap.mp hc
  have hlt : b.toNat < 256 := b.toNat_lt
  rw [hexByte, List.mem_cons, List.mem_singleton] at hb
  obtain rfl | rfl := hb
  · exact isPlainChar_lowerHexDigit (by omega)
  · exact isPlainChar_lowerHexDigit (by omega)

/-- A plain character is written as it is. -/
theorem escape_of_isPlainChar {c : Char} (h : isPlainChar c = true) : escape c = [c] := by
  simp only [isPlainChar, Bool.and_eq_true, decide_eq_true_eq] at h
  obtain ⟨⟨⟨hlow, -⟩, hquote⟩, hslash⟩ := h
  have hne (d : Char) (hd : d.toNat < 32) : c ≠ d := by
    rintro rfl
    omega
  rw [escape, if_neg hquote, if_neg hslash, if_neg (hne _ (by decide)), if_neg (hne _ (by decide)),
    if_neg (hne _ (by decide)), if_neg (hne _ (by decide)), if_neg (hne _ (by decide)),
    if_neg (by omega)]

theorem flatMap_escape {cs : List Char} (h : cs.all isPlainChar = true) : cs.flatMap escape = cs := by
  induction cs with
  | nil => rfl
  | cons c cs ih =>
    rw [List.all_cons, Bool.and_eq_true] at h
    rw [List.flatMap_cons, escape_of_isPlainChar h.1, ih h.2]
    rfl

/-! ## Bytes of ASCII texts -/

/-- The byte of an ASCII character. -/
def asciiByte (c : Char) : UInt8 := c.toNat.toUInt8

theorem utf8_singleton {c : Char} (h : c.toNat < 128) : utf8 [c] = [asciiByte c] := by
  have hle : c.val.toNat ≤ 127 := Nat.lt_succ_iff.mp h
  rw [utf8_eq, List.utf8Encode_singleton]
  simp only [String.utf8EncodeChar, hle, ↓reduceIte]
  rfl

/-- The bytes of an ASCII text are its characters. -/
theorem utf8_eq_map {cs : List Char} (h : ∀ c ∈ cs, c.toNat < 128) :
    utf8 cs = cs.map asciiByte := by
  induction cs with
  | nil => rfl
  | cons c cs ih =>
    have htail := ih fun d hd => h d (List.mem_cons_of_mem _ hd)
    rw [← List.singleton_append, utf8_append, utf8_singleton (h c List.mem_cons_self), htail]
    rfl

end CryptoCollector.Benchmarks
