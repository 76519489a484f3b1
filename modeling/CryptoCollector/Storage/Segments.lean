import CryptoCollector.Lib.Texts
import CryptoCollector.Storage.Layout
import Mathlib.Data.List.Basic

/-!
# Segments of a path

Which texts are single path segments, and what joining such segments gives.

* `segments_joinPath` : the segments of a path that was joined from segments.
* `isNormalizedRelativePath_joinPath` : such a path is normalized.
* `parsePartName_partName` : the name of a part gives back its start and its sequence.
-/

namespace CryptoCollector.Storage

/-- A text that is one segment of a normalized path. -/
structure IsSegment (s : String) : Prop where
  proper : s ∉ ["", ".", ".."]
  chars : ∀ c ∈ s.toList, c ≠ '/' ∧ c ≠ '\\' ∧ c ≠ '\x00'

/-- The characters of a closed text are checked one after the other. -/
theorem chars_of_all {l : List Char}
    (h : (l.all fun c => c != '/' && c != '\\' && c != '\x00') = true) :
    ∀ c ∈ l, c ≠ '/' ∧ c ≠ '\\' ∧ c ≠ '\x00' := by
  simpa [and_assoc] using h

/-- A text with a character other than a dot is not one of the special names. -/
theorem isSegment_of_mem {s : String} {c : Char} (hc : c ∈ s.toList) (hdot : c ≠ '.')
    (chars : ∀ c ∈ s.toList, c ≠ '/' ∧ c ≠ '\\' ∧ c ≠ '\x00') : IsSegment s := by
  refine ⟨?_, chars⟩
  intro hs
  simp only [List.mem_cons, List.not_mem_nil, or_false] at hs
  rcases hs with rfl | rfl | rfl <;> simp_all

section Join

variable {parts : List String}

theorem toList_joinPath : (joinPath parts).toList = ['/'].intercalate (parts.map String.toList) := by
  simp [joinPath]

/-- The segments of a joined path. -/
theorem segments_joinPath (hne : parts ≠ []) (hparts : ∀ p ∈ parts, IsSegment p) :
    segments (joinPath parts) = parts := by
  have hsplit : (['/'].intercalate (parts.map String.toList)).splitOn '/' =
      parts.map String.toList := by
    apply List.splitOn_intercalate
    · intro l hl
      obtain ⟨p, hp, rfl⟩ := List.mem_map.1 hl
      exact fun hmem => ((hparts p hp).chars '/' hmem).1 rfl
    · simpa using hne
  rw [segments, split, toList_joinPath, hsplit, List.map_map]
  simp

/-- A path joined from segments is normalized. -/
theorem isNormalizedRelativePath_joinPath (hne : parts ≠ [])
    (hparts : ∀ p ∈ parts, IsSegment p) : isNormalizedRelativePath (joinPath parts) = true := by
  obtain ⟨first, rest, rfl⟩ := List.exists_cons_of_ne_nil hne
  have hfirst := hparts first (by simp)
  have hlist : first.toList ≠ [] := by
    intro hnil
    exact hfirst.proper (by simp [String.toList_eq_nil_iff.1 hnil])
  obtain ⟨c, cs, hcs⟩ := List.exists_cons_of_ne_nil hlist
  -- the path starts with the first segment
  have hpath : ∃ tail, (joinPath (first :: rest)).toList = c :: tail := by
    rw [toList_joinPath]
    cases rest with
    | nil => exact ⟨cs, by simp [List.intercalate, hcs]⟩
    | cons second rest =>
      exact ⟨cs ++ '/' :: ['/'].intercalate ((second :: rest).map String.toList), by
        simp [List.intercalate, hcs]⟩
  obtain ⟨tail, htail⟩ := hpath
  have hchars : ∀ x ∈ (joinPath (first :: rest)).toList, x ≠ '\\' ∧ x ≠ '\x00' := by
    intro x hx
    rw [toList_joinPath] at hx
    rcases Lib.mem_intercalate hx with rfl | ⟨l, hl, hxl⟩
    · decide
    · obtain ⟨p, hp, rfl⟩ := List.mem_map.1 hl
      exact ((hparts p hp).chars x hxl).2
  have hempty : joinPath (first :: rest) ≠ "" := by
    intro h
    rw [h] at htail
    simp at htail
  have hslash : c ≠ '/' := (hfirst.chars c (by simp [hcs])).1
  unfold isNormalizedRelativePath
  rw [segments_joinPath hne hparts]
  simp only [Bool.and_eq_true, decide_eq_true_eq, Bool.not_eq_true', List.contains_eq_mem,
    decide_eq_false_iff_not, List.all_eq_true]
  refine ⟨⟨⟨⟨hempty, ?_⟩, ?_⟩, ?_⟩, ?_⟩
  · exact fun h => (hchars _ h).2 rfl
  · exact fun h => (hchars _ h).1 rfl
  · rw [htail]
    simpa using hslash
  · exact fun p hp => (hparts p hp).proper

end Join

/-! ## The segments of the layout -/

theorem isSegment_exchange (e : Exchange) : IsSegment e.value := by
  cases e <;> exact ⟨by decide, chars_of_all (by decide)⟩

theorem isSegment_market (m : Market) : IsSegment m.value := by
  cases m <;> exact ⟨by decide, chars_of_all (by decide)⟩

theorem isDigit_segmentChar {c : Char} (h : c.isDigit = true) :
    c ≠ '/' ∧ c ≠ '\\' ∧ c ≠ '\x00' ∧ c ≠ '.' ∧ c ≠ '-' := by
  refine ⟨?_, ?_, ?_, ?_, ?_⟩ <;> rintro rfl <;> exact absurd h (by decide)

theorem isDigit_of_mem_decimal {c : Char} {n : Nat} (h : c ∈ Nat.toDigits 10 n) :
    c.isDigit = true :=
  Nat.isDigit_of_mem_toDigits (by decide) (by decide) h

theorem isSegment_padded (width n : Nat) : IsSegment (padded width n) := by
  have hall : ∀ c ∈ (padded width n).toList, c.isDigit = true := by
    intro c hc
    simp only [padded, String.toList_ofList, List.mem_append, List.mem_replicate] at hc
    rcases hc with ⟨-, rfl⟩ | hc
    · decide
    · exact isDigit_of_mem_decimal hc
  obtain ⟨c, hc⟩ := List.exists_mem_of_ne_nil _ (Nat.toDigits_ne_nil (n := n) (b := 10))
  have hmem : c ∈ (padded width n).toList := by simp [padded, hc]
  refine isSegment_of_mem hmem (isDigit_segmentChar (hall c hmem)).2.2.2.1 fun x hx => ?_
  have := isDigit_segmentChar (hall x hx)
  exact ⟨this.1, this.2.1, this.2.2.1⟩

theorem isSegment_of_mem_names {h : UtcHour} {s : String} (hs : s ∈ h.names) : IsSegment s := by
  simp only [UtcHour.names, List.mem_cons, List.not_mem_nil, or_false] at hs
  rcases hs with rfl | rfl | rfl | rfl <;> exact isSegment_padded _ _

/-- The directory names of an hour. -/
theorem isSegment_of_utcStorageHour {ns : Nat} {hour : List String}
    (h : utcStorageHour ns = .ok hour) {s : String} (hs : s ∈ hour) : IsSegment s := by
  unfold utcStorageHour at h
  dsimp only at h
  split_ifs at h
  obtain rfl : _ = hour := by simpa using h
  exact isSegment_of_mem_names hs

/-- The name of a part without its suffix. -/
def partStem (a b : Nat) : String := "part-" ++ toString a ++ "-" ++ toString b

theorem partName_eq (a b : Nat) : partName a b = partStem a b ++ ".jsonl.zst" := rfl

theorem toList_partStem (a b : Nat) : (partStem a b).toList =
    "part-".toList ++ ['-'].intercalate [Nat.toDigits 10 a, Nat.toDigits 10 b] := by
  simp [partStem, List.intercalate]

theorem isSegment_partStem_append (a b : Nat) {suffix : String}
    (hsuffix : ∀ c ∈ suffix.toList, c ≠ '/' ∧ c ≠ '\\' ∧ c ≠ '\x00') :
    IsSegment (partStem a b ++ suffix) := by
  have hdigit : ∀ n, ∀ c ∈ Nat.toDigits 10 n, c ≠ '/' ∧ c ≠ '\\' ∧ c ≠ '\x00' := by
    intro n c hc
    have := isDigit_segmentChar (isDigit_of_mem_decimal hc)
    exact ⟨this.1, this.2.1, this.2.2.1⟩
  refine isSegment_of_mem (c := 'p') ?_ (by decide) fun x hx => ?_
  · rw [String.toList_append, toList_partStem]
    exact List.mem_append_left _ (List.mem_append_left _ (by decide))
  · rw [String.toList_append, toList_partStem] at hx
    rcases List.mem_append.1 hx with hx | hx
    · rcases List.mem_append.1 hx with hx | hx
      · exact chars_of_all (by decide) x hx
      · rcases Lib.mem_intercalate hx with rfl | ⟨l, hl, hxl⟩
        · decide
        · simp only [List.mem_cons, List.not_mem_nil, or_false] at hl
          rcases hl with rfl | rfl <;> exact hdigit _ x hxl
    · exact hsuffix x hx

theorem isSegment_partName (a b : Nat) : IsSegment (partName a b) :=
  isSegment_partStem_append a b (chars_of_all (by decide))

theorem endsWith_append (s suffix : String) : endsWith (s ++ suffix) suffix = true := by
  simp [endsWith]

theorem removeSuffix_append (s suffix : String) : removeSuffix (s ++ suffix) suffix = s := by
  rw [removeSuffix, if_pos (endsWith_append s suffix)]
  simp

/-- Only zero starts with a zero digit. -/
theorem decimal_head_ne_zero {n : Nat} {cs : List Char} (h : Nat.toDigits 10 n = '0' :: cs) :
    n = 0 := by
  induction n using Nat.strongRecOn generalizing cs with
  | _ n ih =>
    by_cases hn : n < 10
    · rw [Nat.toDigits_of_lt_base hn] at h
      have hdigit : n.digitChar = '0' := by simpa using congrArg List.head? h
      have : ∀ m < 10, m.digitChar = '0' → m = 0 := by decide
      exact this n hn hdigit
    · rw [Nat.toDigits_of_base_le (by decide) (by omega)] at h
      have hne := Nat.toDigits_ne_nil (n := n / 10) (b := 10)
      obtain ⟨d, ds, hds⟩ := List.exists_cons_of_ne_nil hne
      rw [hds] at h
      obtain ⟨rfl, -⟩ : d = '0' ∧ _ := by simpa using h
      have := ih (n / 10) (by omega) hds
      omega

theorem canonicalDecimal_toDigits (n : Nat) : canonicalDecimal (Nat.toDigits 10 n) = some n := by
  by_cases hn : n = 0
  · subst hn
    decide
  have hdigits : ∀ c ∈ Nat.toDigits 10 n, c.isDigit = true := fun c => isDigit_of_mem_decimal
  have hvalue : Nat.ofDigitChars 10 (Nat.toDigits 10 n) 0 = n := Nat.ofDigitChars_ten_toDigits
  obtain ⟨c, cs, hcs⟩ := List.exists_cons_of_ne_nil (Nat.toDigits_ne_nil (n := n) (b := 10))
  have hhead : c ≠ '0' := by
    rintro rfl
    exact hn (decimal_head_ne_zero hcs)
  rw [hcs] at hdigits hvalue ⊢
  unfold canonicalDecimal
  split
  · simp_all
  · simp_all
  · rename_i d ds _ heq
    obtain ⟨rfl, rfl⟩ : c = d ∧ cs = ds := by simpa using heq
    rw [if_pos ⟨hhead, by simpa using hdigits⟩, hvalue]

/-- The name of a part gives back its start and its sequence. -/
theorem parsePartName_partName (a b : Nat) : parsePartName (partName a b) = some (a, b) := by
  have hdash : ∀ n, '-' ∉ Nat.toDigits 10 n := by
    intro n h
    exact (isDigit_segmentChar (isDigit_of_mem_decimal h)).2.2.2.2 rfl
  have hstart : "part-".toList.isPrefixOf (partName a b).toList = true := by
    rw [List.isPrefixOf_iff_prefix, partName_eq, String.toList_append, toList_partStem,
      List.append_assoc]
    exact List.prefix_append _ _
  have hend : endsWith (partName a b) ".jsonl.zst" = true := endsWith_append _ _
  have hmiddle : (removeSuffix (partName a b) ".jsonl.zst").toList.drop 5 =
      ['-'].intercalate [Nat.toDigits 10 a, Nat.toDigits 10 b] := by
    have hlength : "part-".toList.length = 5 := by decide
    rw [partName_eq, removeSuffix_append, toList_partStem, List.drop_left' hlength]
  unfold parsePartName
  rw [hstart, hend, hmiddle]
  rw [List.splitOn_intercalate '-' (by simp [hdash]) (by simp)]
  simp [canonicalDecimal_toDigits]

/-- The path of a sibling of a part. -/
theorem siblingPath_joinPath {dirs : List String} (hdirs : ∀ d ∈ dirs, IsSegment d) (a b : Nat)
    (suffix : String) : siblingPath (joinPath (dirs ++ [partName a b])) suffix =
      .ok (joinPath (dirs ++ [partStem a b ++ suffix])) := by
  have hsegments : segments (joinPath (dirs ++ [partName a b])) = dirs ++ [partName a b] := by
    refine segments_joinPath (by simp) fun p hp => ?_
    rcases List.mem_append.1 hp with hp | hp
    · exact hdirs p hp
    · obtain rfl : p = partName a b := by simpa using hp
      exact isSegment_partName a b
  have hstem : IsSegment (partStem a b) := by
    have := @isSegment_partStem_append a b "" (chars_of_all (by decide))
    simpa using this
  unfold siblingPath
  dsimp only
  rw [hsegments, List.getLastD_concat, List.dropLast_concat, if_neg]
  · rw [partName_eq, removeSuffix_append]
  · rw [partName_eq, removeSuffix_append, endsWith_append]
    have := hstem.proper
    simpa using this

/-! ## Instrument segments -/

theorem encodeByte_cases (b : UInt8) :
    (∀ c ∈ encodeByte b, c ≠ '/' ∧ c ≠ '\\' ∧ c ≠ '\x00') ∧
      (b = 46 ∧ encodeByte b = ['.'] ∨ ∃ c ∈ encodeByte b, c ≠ '.') := by
  have hall : ∀ n < 256, (encodeByte (UInt8.ofNat n)).all (fun c =>
      c != '/' && c != '\\' && c != '\x00') = true ∧
      (UInt8.ofNat n = 46 ∧ encodeByte (UInt8.ofNat n) = ['.'] ∨
        (encodeByte (UInt8.ofNat n)).any (· != '.') = true) := by
    decide +kernel
  obtain ⟨hchars, hdot⟩ := hall b.toNat b.toNat_lt
  rw [UInt8.ofNat_toNat] at hchars hdot
  exact ⟨chars_of_all hchars, hdot.imp id fun h => by simpa using h⟩

/-- An encoding of dots only is the text itself. -/
theorem flatMap_encodeByte_dots {bytes : List UInt8}
    (h : ∀ c ∈ bytes.flatMap encodeByte, c = '.') :
    bytes = List.replicate bytes.length 46 ∧
      (bytes.flatMap encodeByte).length = bytes.length := by
  induction bytes with
  | nil => simp
  | cons b bytes ih =>
    simp only [List.flatMap_cons, List.mem_append] at h
    obtain ⟨hbytes, hlength⟩ := ih fun c hc => h c (.inr hc)
    rcases (encodeByte_cases b).2 with ⟨rfl, hdot⟩ | ⟨c, hc, hne⟩
    · refine ⟨?_, ?_⟩
      · rw [List.length_cons, List.replicate_succ, ← hbytes]
      · rw [List.flatMap_cons, List.length_append, hdot, hlength, List.length_singleton,
          List.length_cons, Nat.add_comm]
    · exact absurd (h c (.inl hc)) hne

/-- An encoded instrument key is one segment. -/
theorem isSegment_encodeInstrumentKey {key encoded : String}
    (h : encodeInstrumentKey key = .ok encoded) : IsSegment encoded := by
  unfold encodeInstrumentKey at h
  split_ifs at h with hrefused
  obtain rfl : String.ofList (key.toUTF8.data.toList.flatMap encodeByte) = encoded := by
    simpa using h
  constructor
  · -- a special name would have to be the encoding of itself
    intro hmem
    have hdots : ∀ c ∈ key.toUTF8.data.toList.flatMap encodeByte, c = '.' := by
      intro c hc
      have hspecial : ∀ s ∈ ["", ".", ".."], s.toList.all (· == '.') = true := by decide
      have hlist := hspecial _ hmem
      rw [String.toList_ofList, List.all_eq_true] at hlist
      simpa using hlist c hc
    obtain ⟨hbytes, hlength⟩ := flatMap_encodeByte_dots hdots
    have hkey : ∀ s : String, s.toUTF8.data.toList = key.toUTF8.data.toList → key = s := by
      intro s hs
      rw [String.toUTF8_eq_toByteArray, String.toUTF8_eq_toByteArray] at hs
      apply String.toByteArray_inj.1
      apply ByteArray.ext
      exact (Array.toList_inj.1 hs).symm
    apply hrefused
    simp only [List.mem_cons, List.not_mem_nil, or_false] at hmem
    rcases hmem with hmem | hmem | hmem <;>
      (have hlist := congrArg (fun s => s.toList.length) hmem
       simp only [String.toList_ofList] at hlist
       rw [hlength] at hlist
       rw [hlist] at hbytes)
    · simp [hkey "" (by rw [hbytes]; decide)]
    · simp [hkey "." (by rw [hbytes]; decide)]
    · simp [hkey ".." (by rw [hbytes]; decide)]
  · intro c hc
    rw [String.toList_ofList] at hc
    obtain ⟨b, -, hb⟩ := List.mem_flatMap.1 hc
    exact (encodeByte_cases b).1 c hb

theorem isSegment_pathSegment {value stream : String} (hne : value ≠ "")
    (h : pathSegment value = .ok stream) : stream = value ∧ IsSegment stream := by
  unfold pathSegment at h
  split_ifs at h with hrefused
  obtain rfl : value = stream := by simpa using h
  simp only [Bool.or_eq_true, decide_eq_true_eq, List.contains_eq_mem, not_or] at hrefused
  obtain ⟨⟨⟨⟨hdot, hdots⟩, hnul⟩, hslash⟩, hback⟩ := hrefused
  refine ⟨rfl, by simp [hne, hdot, hdots], fun c hc => ⟨?_, ?_, ?_⟩⟩
  · rintro rfl
    exact hslash hc
  · rintro rfl
    exact hback hc
  · rintro rfl
    exact hnul hc

end CryptoCollector.Storage
