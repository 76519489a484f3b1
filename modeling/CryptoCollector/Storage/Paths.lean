import CryptoCollector.Storage.Calendar
import CryptoCollector.Storage.Manifest.Valid

/-!
# Agreement on paths

Draft validation, the path builder and the layout check of the manifest each have their own rules
for the scope of a stream. `AcceptedEnvelope` is what `RawIngress` builds from a draft that passes
its checks.

* `decode_encodeInstrumentKey`: an instrument key is read back from its segment.
* `scopeSegments_injective`: the directories name the identity.
* `rawPartialPath_agrees`: for which accepted drafts there is a path, and what it agrees with.
-/

namespace CryptoCollector.Storage

open Lib

/-! ## Instrument segments -/

theorem hexValue_upperHex : ∀ n < 16, hexValue (upperHex n) = some n := by decide

/-- What a safe byte is kept as. -/
theorem safeByte_char (b : UInt8) (h : isSafeByte b = true) :
    Char.ofNat b.toNat ≠ '%' ∧ Char.ofNat b.toNat ≠ '_' ∧ (Char.ofNat b.toNat).toNat < 128 ∧
      (Char.ofNat b.toNat).toNat.toUInt8 = b := by
  have hall : ∀ n < 256, isSafeByte (UInt8.ofNat n) = true →
      Char.ofNat n ≠ '%' ∧ Char.ofNat n ≠ '_' ∧ (Char.ofNat n).toNat < 128 ∧
        (Char.ofNat n).toNat.toUInt8 = UInt8.ofNat n := by
    decide +kernel
  have := hall b.toNat b.toNat_lt
  rw [UInt8.ofNat_toNat] at this
  exact this h

theorem upperHex_char : ∀ n < 16, upperHex n ≠ '_' ∧ (upperHex n).toNat < 128 := by decide

/-- The characters of an encoded byte. -/
theorem encodeByte_char (b : UInt8) : ∀ c ∈ encodeByte b, c ≠ '_' ∧ c.toNat < 128 := by
  intro c hc
  unfold encodeByte at hc
  split at hc
  · next hsafe =>
    obtain ⟨-, hne, hlt, -⟩ := safeByte_char b hsafe
    rw [List.mem_singleton.mp hc]
    exact ⟨hne, hlt⟩
  · have hb := b.toNat_lt
    simp only [percentEscape, List.mem_cons, List.not_mem_nil, or_false] at hc
    obtain rfl | rfl | rfl := hc
    · decide
    · exact upperHex_char _ (by omega)
    · exact upperHex_char _ (by omega)

theorem unquoteBytes_cons {c : Char} (h : c ≠ '%') (cs : List Char) :
    unquoteBytes (c :: cs) = c.toNat.toUInt8 :: unquoteBytes cs := by
  rw [unquoteBytes]
  intro a b tail hc
  exact absurd hc h

/-- An encoded byte is read back. -/
theorem unquoteBytes_encodeByte (b : UInt8) (cs : List Char) :
    unquoteBytes (encodeByte b ++ cs) = b :: unquoteBytes cs := by
  unfold encodeByte
  split
  · next hsafe =>
    obtain ⟨hne, -, -, hvalue⟩ := safeByte_char b hsafe
    rw [List.singleton_append, unquoteBytes_cons hne, hvalue]
  · have hb := b.toNat_lt
    have hvalue : (16 * (b.toNat / 16) + b.toNat % 16).toUInt8 = b := by
      rw [Nat.div_add_mod]
      exact UInt8.ofNat_toNat
    simp only [percentEscape, List.cons_append, List.nil_append]
    rw [unquoteBytes, hexValue_upperHex _ (by omega), hexValue_upperHex _ (by omega)]
    dsimp only
    rw [hvalue]

theorem unquoteBytes_flatMap (bytes : List UInt8) :
    unquoteBytes (bytes.flatMap encodeByte) = bytes := by
  induction bytes with
  | nil => rfl
  | cons b bytes ih => rw [List.flatMap_cons, unquoteBytes_encodeByte, ih]

theorem fromUTF8_toUTF8 (s : String) : String.fromUTF8? s.toUTF8 = some s := by
  unfold String.fromUTF8?
  exact dif_pos s.isValidUTF8

/-- An instrument key is read back from its segment. -/
theorem decode_encodeInstrumentKey {key encoded : String}
    (h : encodeInstrumentKey key = .ok encoded) : decodeInstrumentKey encoded = .ok key := by
  unfold encodeInstrumentKey at h
  split_ifs at h
  obtain rfl := Except.ok.inj h
  have hascii : (String.ofList (key.toUTF8.data.toList.flatMap encodeByte)).toList.any
      (fun c => 128 ≤ c.toNat) = false := by
    rw [String.toList_ofList, List.any_eq_false]
    intro c hc
    obtain ⟨b, -, hb⟩ := List.mem_flatMap.mp hc
    have := (encodeByte_char b c hb).2
    simpa using this
  unfold decodeInstrumentKey
  rw [hascii, String.toList_ofList, unquoteBytes_flatMap, Array.toArray_toList]
  simp only [Bool.false_eq_true, if_false]
  rw [fromUTF8_toUTF8]

/-- No instrument key is encoded as a reserved name. -/
theorem encodeInstrumentKey_not_reserved {key encoded : String}
    (h : encodeInstrumentKey key = .ok encoded) : '_' ∉ encoded.toList := by
  unfold encodeInstrumentKey at h
  split_ifs at h
  obtain rfl := Except.ok.inj h
  rw [String.toList_ofList]
  intro hc
  obtain ⟨b, -, hb⟩ := List.mem_flatMap.mp hc
  exact (encodeByte_char b _ hb).1 rfl

/-! ## Accepted drafts -/

/-- `models.py: validate_control_draft`; `parseRequest` stands for `_parse_control_request`. -/
def EnvelopeFields.validateControlDraft (parseRequest : Json → Option Err) (e : EnvelopeFields) :
    Option Err :=
  if e.logicalStream ≠ "_control" then
    some (.valueError "control draft must use the _control stream")
  else if e.market.isSome || e.instrumentKey.isSome || e.wireSymbol.isSome ||
      e.nativeChannel.isSome || e.transport ≠ .internal then
    some (.valueError "control draft must use exchange-only internal scope")
  else
    match e.payload with
    | .object fields =>
      match fields.lookup "kind" with
      | some (.str kind) =>
        if !normalized kind then
          some (.valueError "control payload requires a normalized kind")
        else (fields.lookup "storage_association").bind parseRequest
      | _ => some (.valueError "control payload requires a normalized kind")
    | _ => some (.valueError "control payload must be an object")

/-- What `RawIngress` builds from a draft that passes its own validation and the checks of
`try_accept`, at a reading of the clock. -/
structure AcceptedEnvelope (parseRequest : Json → Option Err) extends RawEnvelope where
  control : logicalStream = "_control" →
    toEnvelopeFields.validateControlDraft parseRequest = none
  received_le : receivedAtNs ≤ maxSignedInt64

/-- `raw_partial_path`, below the data root. -/
def rawPartialPath (e : EnvelopeFields) (partStartNs sequence : Nat) : Except Err String :=
  (rawDataPath e partStartNs sequence).map (· ++ ".partial")

/-- The names of an envelope can be segments of a path. -/
structure PathSafe (e : EnvelopeFields) : Prop where
  stream : e.logicalStream ∉ [".", ".."] ∧
    ∀ c ∈ e.logicalStream.toList, c ≠ '/' ∧ c ≠ '\\' ∧ c ≠ '\x00'
  key : ∀ key, e.instrumentKey = some key → key ∉ [".", ".."] ∧ '\x00' ∉ key.toList

theorem pathSegment_isOk (value : String) :
    (pathSegment value = .ok value ∧ value ∉ [".", ".."] ∧
      ∀ c ∈ value.toList, c ≠ '/' ∧ c ≠ '\\' ∧ c ≠ '\x00') ∨
    (∃ e, pathSegment value = .error e) ∧ ¬ (value ∉ [".", ".."] ∧
      ∀ c ∈ value.toList, c ≠ '/' ∧ c ≠ '\\' ∧ c ≠ '\x00') := by
  unfold pathSegment
  split
  · next hrefused =>
    refine .inr ⟨⟨_, rfl⟩, ?_⟩
    rintro ⟨hdots, hchars⟩
    simp only [List.mem_cons, List.not_mem_nil, or_false, not_or] at hdots
    simp only [Bool.or_eq_true, decide_eq_true_eq, List.contains_eq_mem, hdots, false_or] at hrefused
    obtain (hmem | hmem) | hmem := hrefused
    · exact (hchars _ hmem).2.2 rfl
    · exact (hchars _ hmem).1 rfl
    · exact (hchars _ hmem).2.1 rfl
  · next hrefused =>
    simp only [Bool.or_eq_true, decide_eq_true_eq, List.contains_eq_mem, not_or] at hrefused
    obtain ⟨⟨⟨⟨hdot, hdots⟩, hnul⟩, hslash⟩, hback⟩ := hrefused
    refine .inl ⟨rfl, by simp [hdot, hdots], fun c hc => ⟨?_, ?_, ?_⟩⟩
    · rintro rfl; exact hslash hc
    · rintro rfl; exact hback hc
    · rintro rfl; exact hnul hc

theorem encodeInstrumentKey_isOk {key : String} (hne : key ≠ "") :
    (∃ encoded, encodeInstrumentKey key = .ok encoded) ∧ key ∉ [".", ".."] ∧
      '\x00' ∉ key.toList ∨
    (∃ e, encodeInstrumentKey key = .error e) ∧
      ¬ (key ∉ [".", ".."] ∧ '\x00' ∉ key.toList) := by
  unfold encodeInstrumentKey
  split
  · next hrefused =>
    refine .inr ⟨⟨_, rfl⟩, ?_⟩
    rintro ⟨hdots, hnul⟩
    simp only [List.mem_cons, List.not_mem_nil, or_false, not_or] at hdots
    simp [hne, hdots, hnul] at hrefused
  · next hrefused =>
    simp only [Bool.or_eq_true, decide_eq_true_eq, List.contains_eq_mem, not_or] at hrefused
    exact .inl ⟨⟨_, rfl⟩, by simp [hrefused.1.1.2, hrefused.1.2], hrefused.2⟩

section Accepted

variable {parseRequest : Json → Option Err}

/-- An accepted control draft names neither market nor instrument. -/
theorem AcceptedEnvelope.control_scope (e : AcceptedEnvelope parseRequest)
    (h : e.logicalStream = "_control") : e.market = none ∧ e.instrumentKey = none := by
  have hcontrol := e.control h
  unfold EnvelopeFields.validateControlDraft at hcontrol
  rw [if_neg (not_not.mpr h)] at hcontrol
  split at hcontrol
  · cases hcontrol
  · next hscope =>
    simp only [Bool.or_eq_true, Option.isSome_iff_ne_none, not_or, not_not] at hscope
    exact ⟨hscope.1.1.1.1, hscope.1.1.1.2⟩

/-- Another accepted draft names a market. -/
theorem AcceptedEnvelope.market_isSome (e : AcceptedEnvelope parseRequest)
    (h : e.logicalStream ≠ "_control") : ∃ market, e.market = some market := by
  have hvalid := e.valid
  unfold EnvelopeFields.validate at hvalid
  rw [orElse_eq_none] at hvalid
  have hscope := (orElse_eq_none.mp hvalid.2).1
  unfold EnvelopeFields.validateScopeAndTransport at hscope
  cases hmarket : e.market with
  | some market => exact ⟨market, rfl⟩
  | none =>
    rw [hmarket] at hscope
    simp [h] at hscope

/-- Readings of the clock are in the range of `datetime`. -/
theorem AcceptedEnvelope.hour_isOk (e : AcceptedEnvelope parseRequest) :
    ∃ hour, utcStorageHour e.receivedAtNs = .ok hour ∧ hour.length = 4 := by
  have hle := e.received_le
  unfold maxSignedInt64 at hle
  unfold utcStorageHour
  dsimp only
  rw [if_neg (by unfold maxUtcSecond; omega)]
  exact ⟨_, rfl, rfl⟩

/-- The directories of an accepted draft. -/
inductive ScopeOf (e : EnvelopeFields) (scope : List String) : Prop where
  | control (stream : e.logicalStream = "_control") (market : e.market = none)
      (key : e.instrumentKey = none) (eq : scope = ["raw", e.exchange.value, "_control"])
  | market (m : Market) (stream : e.logicalStream ≠ "_control") (market : e.market = some m)
      (key : e.instrumentKey = none)
      (eq : scope = ["raw", e.exchange.value, m.value, "_market", e.logicalStream])
  | instrument (m : Market) (k encoded : String) (stream : e.logicalStream ≠ "_control")
      (market : e.market = some m) (key : e.instrumentKey = some k)
      (encodes : encodeInstrumentKey k = .ok encoded)
      (eq : scope = ["raw", e.exchange.value, m.value, encoded, e.logicalStream])

/-- An accepted draft has directories exactly when its names can be segments. -/
theorem scopeSegments_cases (e : AcceptedEnvelope parseRequest) :
    (∃ scope, scopeSegments e.toEnvelopeFields = .ok scope ∧ ScopeOf e.toEnvelopeFields scope) ∧
        PathSafe e.toEnvelopeFields ∨
      (∃ err, scopeSegments e.toEnvelopeFields = .error err) ∧
        ¬ PathSafe e.toEnvelopeFields := by
  unfold scopeSegments
  by_cases hcontrol : e.logicalStream = "_control"
  · obtain ⟨hmarket, hkey⟩ := e.control_scope hcontrol
    rw [if_pos hcontrol]
    refine .inl ⟨⟨_, rfl, .control hcontrol hmarket hkey rfl⟩, ?_, ?_⟩
    · rw [hcontrol]; exact ⟨by decide, chars_of_all (by decide)⟩
    · rw [hkey]; exact fun key h => by cases h
  · obtain ⟨market, hmarket⟩ := e.market_isSome hcontrol
    rw [if_neg hcontrol, hmarket]
    dsimp only
    obtain ⟨hsegment, hstream⟩ | ⟨⟨err, hsegment⟩, hstream⟩ := pathSegment_isOk e.logicalStream
    · rw [hsegment, ok_bind]
      cases hkey : e.instrumentKey with
      | none =>
        refine .inl ⟨⟨_, rfl, .market market hcontrol hmarket hkey rfl⟩, hstream, ?_⟩
        rw [hkey]; exact fun key h => by cases h
      | some key =>
        have hne : key ≠ "" := fun h =>
          (ActivePart.envelope_fields e.toRawEnvelope).1 (by rw [hkey, h])
        dsimp only
        obtain ⟨⟨encoded, hencoded⟩, hsafe⟩ | ⟨⟨err, hencoded⟩, hsafe⟩ :=
          encodeInstrumentKey_isOk hne
        · rw [hencoded]
          refine .inl ⟨⟨_, rfl, .instrument market key encoded hcontrol hmarket hkey hencoded
            rfl⟩, hstream, ?_⟩
          rw [hkey]
          rintro _ ⟨⟩
          exact hsafe
        · rw [hencoded]
          exact .inr ⟨⟨err, rfl⟩, fun h => hsafe (h.key key hkey)⟩
    · rw [hsegment]
      exact .inr ⟨⟨err, rfl⟩, fun h => hstream h.stream⟩

/-- The directories name the identity. -/
theorem scopeSegments_injective {e e' : EnvelopeFields} {scope : List String}
    (h : ScopeOf e scope) (h' : ScopeOf e' scope) : e.exchange = e'.exchange ∧ e.key = e'.key := by
  have hreserved {k encoded : String} (h : encodeInstrumentKey k = .ok encoded) :
      encoded ≠ "_market" := by
    rintro rfl
    exact encodeInstrumentKey_not_reserved h (by decide)
  unfold EnvelopeFields.key
  cases h with
  | control hstream hmarket hkey heq =>
    cases h' with
    | control hstream' hmarket' hkey' heq' =>
      simp only [heq, List.cons.injEq, and_true, true_and] at heq'
      exact ⟨Exchange.value_injective heq', by rw [hstream, hstream', hmarket, hmarket', hkey, hkey']⟩
    | market m hstream' hmarket' hkey' heq' => simp [heq] at heq'
    | instrument m k encoded hstream' hmarket' hkey' hencodes heq' => simp [heq] at heq'
  | market m hstream hmarket hkey heq =>
    cases h' with
    | control hstream' hmarket' hkey' heq' => simp [heq] at heq'
    | market m' hstream' hmarket' hkey' heq' =>
      simp only [heq, List.cons.injEq, and_true, true_and] at heq'
      obtain ⟨hexchange, hm, hs⟩ := heq'
      rw [hmarket, hmarket', hkey, hkey', hs, Market.value_injective hm]
      exact ⟨Exchange.value_injective hexchange, rfl⟩
    | instrument m' k encoded hstream' hmarket' hkey' hencodes heq' =>
      simp only [heq, List.cons.injEq, and_true, true_and] at heq'
      exact absurd heq'.2.2.1.symm (hreserved hencodes)
  | instrument m k encoded hstream hmarket hkey hencodes heq =>
    cases h' with
    | control hstream' hmarket' hkey' heq' => simp [heq] at heq'
    | market m' hstream' hmarket' hkey' heq' =>
      simp only [heq, List.cons.injEq, and_true, true_and] at heq'
      exact absurd heq'.2.2.1 (hreserved hencodes)
    | instrument m' k' encoded' hstream' hmarket' hkey' hencodes' heq' =>
      simp only [heq, List.cons.injEq, and_true, true_and] at heq'
      obtain ⟨hexchange, hm, hencoded, hs⟩ := heq'
      have hk : k = k' := by
        have hdecode := decode_encodeInstrumentKey hencodes
        rw [hencoded, decode_encodeInstrumentKey hencodes'] at hdecode
        exact (Except.ok.inj hdecode).symm
      rw [hmarket, hmarket', hkey, hkey', hs, hk, Market.value_injective hm]
      exact ⟨Exchange.value_injective hexchange, rfl⟩

/-! ## The path -/

theorem intercalate_append_last (d : Char) (ls : List (List Char)) (a s : List Char) :
    [d].intercalate (ls ++ [a ++ s]) = [d].intercalate (ls ++ [a]) ++ s := by
  induction ls with
  | nil => simp [List.intercalate]
  | cons l ls ih =>
    have hcons (x : List Char) : [d].intercalate (l :: ls ++ [x]) =
        l ++ [d] ++ [d].intercalate (ls ++ [x]) := by
      cases ls <;> simp [List.intercalate, List.intersperse]
    rw [hcons, hcons, ih, ← List.append_assoc]

/-- A suffix of the last segment is one of the path. -/
theorem joinPath_append_last (dirs : List String) (name suffix : String) :
    joinPath (dirs ++ [name ++ suffix]) = joinPath (dirs ++ [name]) ++ suffix := by
  rw [← String.toList_inj, String.toList_append, toList_joinPath, toList_joinPath,
    List.map_append, List.map_append, List.map_singleton, List.map_singleton,
    String.toList_append]
  exact intercalate_append_last _ _ _ _

/-- A path of an accepted draft, with what it was joined from. -/
structure Laid (e : AcceptedEnvelope parseRequest) (start sequence : Nat) (path : String)
    (scope hour : List String) (data : String) : Prop where
  scopeOf : ScopeOf e.toEnvelopeFields scope
  inScope : scopeSegments e.toEnvelopeFields = .ok scope
  inHour : utcStorageHour e.receivedAtNs = .ok hour
  hour_length : hour.length = 4
  data_eq : data = joinPath (scope ++ hour ++ [partName start sequence])
  dataPath : rawDataPath e.toEnvelopeFields start sequence = .ok data
  path_eq : path = data ++ ".partial"

theorem rawPartialPath_cases (e : AcceptedEnvelope parseRequest) (start sequence : Nat) :
    (∃ path scope hour data, rawPartialPath e.toEnvelopeFields start sequence = .ok path ∧
        Laid e start sequence path scope hour data) ∧ PathSafe e.toEnvelopeFields ∨
      (∃ err, rawPartialPath e.toEnvelopeFields start sequence = .error err) ∧
        ¬ PathSafe e.toEnvelopeFields := by
  obtain ⟨hour, hhour, hlength⟩ := e.hour_isOk
  obtain ⟨⟨scope, hscope, hof⟩, hsafe⟩ | ⟨⟨err, hscope⟩, hsafe⟩ := scopeSegments_cases e
  · have hdata : rawDataPath e.toEnvelopeFields start sequence =
        .ok (joinPath (scope ++ hour ++ [partName start sequence])) := by
      simp only [rawDataPath, hhour, hscope, ok_bind]
      rfl
    refine .inl ⟨⟨_, scope, hour, _, ?_, hof, hscope, hhour, hlength, rfl, hdata, rfl⟩, hsafe⟩
    rw [rawPartialPath, hdata]
    rfl
  · refine .inr ⟨⟨err, ?_⟩, hsafe⟩
    simp only [rawPartialPath, rawDataPath, hhour, hscope, ok_bind]
    rfl

namespace Laid

variable {e : AcceptedEnvelope parseRequest} {start sequence : Nat} {path data : String}
  {scope hour : List String}

theorem partial_eq (h : Laid e start sequence path scope hour data) :
    path = joinPath (scope ++ hour ++ [partName start sequence ++ ".partial"]) := by
  rw [h.path_eq, h.data_eq, joinPath_append_last]

theorem isSegment (h : Laid e start sequence path scope hour data) {s : String}
    (hs : s ∈ scope ++ hour ++ [partName start sequence ++ ".partial"]) : IsSegment s := by
  obtain hs | hs := List.mem_append.mp hs
  · obtain hs | hs := List.mem_append.mp hs
    · exact isSegment_of_scopeSegments h.inScope hs
    · exact isSegment_of_utcStorageHour h.inHour hs
  · rw [List.mem_singleton.mp hs, partName_eq, String.append_assoc]
    exact isSegment_partStem_append start sequence (chars_of_all (by decide))

theorem segments_eq (h : Laid e start sequence path scope hour data) :
    segments path = scope ++ hour ++ [partName start sequence ++ ".partial"] := by
  rw [h.partial_eq]
  exact segments_joinPath (by simp) fun s hs => h.isSegment hs

/-- The paths of the part and of its manifest. -/
theorem placed (h : Laid e start sequence path scope hour data) :
    ∃ manifest, Placed e.toRawEnvelope start sequence scope hour data manifest := by
  have hdirs : ∀ d ∈ scope ++ hour, IsSegment d := fun d hd =>
    h.isSegment (List.mem_append_left _ hd)
  have hsibling := siblingPath_joinPath hdirs start sequence ".manifest.json"
  rw [← h.data_eq] at hsibling
  exact ⟨_, h.inScope, h.inHour, h.data_eq, hsibling⟩

/-- One path is of one identity, one hour and one part. -/
theorem unique {e' : AcceptedEnvelope parseRequest} {start' sequence' : Nat} {data' : String}
    {scope' hour' : List String} (h : Laid e start sequence path scope hour data)
    (h' : Laid e' start' sequence' path scope' hour' data') :
    e'.exchange = e.exchange ∧ e'.key = e.key ∧
      e'.receivedAtNs / hourNs = e.receivedAtNs / hourNs ∧ start' = start ∧
      sequence' = sequence := by
  have hsegments := h'.segments_eq
  rw [h.segments_eq] at hsegments
  obtain ⟨hdirs, hname⟩ := List.append_inj' hsegments rfl
  obtain ⟨hscope, hhour⟩ := List.append_inj' hdirs (h.hour_length.trans h'.hour_length.symm)
  have hpart : partName start sequence = partName start' sequence' := by
    have := List.singleton_inj.mp hname
    rwa [← String.toList_inj, String.toList_append, String.toList_append,
      List.append_cancel_right_eq, String.toList_inj] at this
  have hnumbers := parsePartName_partName start sequence
  rw [hpart, parsePartName_partName, Option.some.injEq, Prod.mk.injEq] at hnumbers
  obtain ⟨hexchange, hkey⟩ := scopeSegments_injective (hscope ▸ h'.scopeOf) h.scopeOf
  exact ⟨hexchange, hkey, hour_eq_of_utcStorageHour (hhour ▸ h'.inHour) h.inHour, hnumbers.1,
    hnumbers.2⟩

end Laid

/-- What the path of an accepted draft agrees with. -/
structure PathAgreement (e : AcceptedEnvelope parseRequest) (start sequence : Nat)
    (path : String) : Prop where
  /-- The path stays below the data root. -/
  below : isNormalizedRelativePath path = true
  /-- No other identity, hour or part has the path. -/
  apart : ∀ (e' : AcceptedEnvelope parseRequest) (start' sequence' : Nat),
    rawPartialPath e'.toEnvelopeFields start' sequence' = .ok path →
      e'.exchange = e.exchange ∧ e'.key = e.key ∧
        e'.receivedAtNs / hourNs = e.receivedAtNs / hourNs ∧ start' = start ∧
        sequence' = sequence
  /-- The segment of an instrument key gives the key back and is no reserved name. -/
  segment : ∀ key, e.instrumentKey = some key → ∃ encoded, (segments path)[3]? = some encoded ∧
    decodeInstrumentKey encoded = .ok key ∧ encoded ∉ ["_market", "_control", ".", ".."] ∧
    '/' ∉ encoded.toList
  /-- The layout of every manifest for this identity and this hour is accepted, if a market-scoped
  stream names no instrument. -/
  publishable : (e.logicalStream ∈ marketScopedStreams → e.instrumentKey = none) →
    ∃ data manifest, path = data ++ ".partial" ∧ manifestPathForData data = .ok manifest ∧
      ∀ m : ManifestFields, Scoped m e.toEnvelopeFields → m.dataRelativePath = data →
        m.manifestRelativePath = manifest →
        m.firstReceivedAtNs / hourNs = e.receivedAtNs / hourNs →
        m.lastReceivedAtNs / hourNs = e.receivedAtNs / hourNs → m.validateLayout = .ok ()

/-- A manifest for the identity of a path names a key that is in the scope of manifests. -/
theorem AcceptedEnvelope.inScope (e : AcceptedEnvelope parseRequest)
    (h : e.logicalStream ∈ marketScopedStreams → e.instrumentKey = none) : e.key.InScope :=
  ⟨fun hstream => e.control_scope hstream, h⟩

theorem Laid.agreement {e : AcceptedEnvelope parseRequest} {start sequence : Nat}
    {path data : String} {scope hour : List String}
    (h : Laid e start sequence path scope hour data) : PathAgreement e start sequence path := by
  have hsegments := h.segments_eq
  refine ⟨?_, ?_, ?_, ?_⟩
  · rw [h.partial_eq]
    exact isNormalizedRelativePath_joinPath (by simp) fun s hs => h.isSegment hs
  · intro e' start' sequence' hpath
    obtain ⟨⟨path', scope', hour', data', hok, hlaid⟩, -⟩ | ⟨⟨err, herr⟩, -⟩ :=
      rawPartialPath_cases e' start' sequence'
    · rw [hpath, Except.ok.injEq] at hok
      exact h.unique (hok ▸ hlaid)
    · rw [hpath] at herr
      cases herr
  · intro key hkey
    cases h.scopeOf with
    | control hstream hmarket hnone heq => rw [hkey] at hnone; cases hnone
    | market m hstream hmarket hnone heq => rw [hkey] at hnone; cases hnone
    | instrument m k encoded hstream hmarket hsome hencodes heq =>
      rw [hkey, Option.some.injEq] at hsome
      subst hsome
      have hproper := (isSegment_encodeInstrumentKey hencodes)
      have hreserved := encodeInstrumentKey_not_reserved hencodes
      refine ⟨encoded, ?_, decode_encodeInstrumentKey hencodes, ?_, fun hslash =>
        (hproper.chars _ hslash).1 rfl⟩
      · rw [hsegments, heq]
        rfl
      · have hdots := hproper.proper
        simp only [List.mem_cons, List.not_mem_nil, or_false, not_or] at hdots ⊢
        refine ⟨?_, ?_, hdots.2.1, hdots.2.2⟩
        · rintro rfl
          exact hreserved (by decide)
        · rintro rfl
          exact hreserved (by decide)
  · intro hscope
    obtain ⟨manifest, hplaced⟩ := h.placed
    refine ⟨data, manifest, h.path_eq, hplaced.sibling, ?_⟩
    rintro m hm rfl rfl hfirst hlast
    exact (hplaced.validateLayout_iff hm).mpr ⟨e.inScope hscope,
      (utcStorageHour_congr hfirst).trans h.inHour, (utcStorageHour_congr hlast).trans h.inHour⟩

/-- An accepted draft has a path exactly when its names can be segments, and the path agrees with
the data root, with the paths of all other drafts, with the decoder of instrument keys and with
the layout of manifests. -/
theorem rawPartialPath_agrees (parseRequest : Json → Option Err)
    (e : AcceptedEnvelope parseRequest) (start sequence : Nat) :
    ((∃ path, rawPartialPath e.toEnvelopeFields start sequence = .ok path) ↔
      PathSafe e.toEnvelopeFields) ∧
    ∀ path, rawPartialPath e.toEnvelopeFields start sequence = .ok path →
      PathAgreement e start sequence path := by
  obtain ⟨⟨path, scope, hour, data, hok, hlaid⟩, hsafe⟩ | ⟨⟨err, herr⟩, hsafe⟩ :=
    rawPartialPath_cases e start sequence
  · refine ⟨⟨fun _ => hsafe, fun _ => ⟨path, hok⟩⟩, fun path' hpath => ?_⟩
    rw [hok, Except.ok.injEq] at hpath
    exact hpath ▸ hlaid.agreement
  · refine ⟨⟨fun ⟨path, hok⟩ => ?_, fun h => absurd h hsafe⟩, fun path hok => ?_⟩
    · rw [herr] at hok; cases hok
    · rw [herr] at hok; cases hok

end Accepted

/-- A record of one instrument, on some stream. -/
def streamFields (stream : String) : EnvelopeFields where
  exchange := .kraken
  market := some .spot
  instrumentKey := some "BTC/USDT"
  wireSymbol := some "BTC/USDT"
  logicalStream := stream
  nativeChannel := some "channel"
  transport := .websocket
  eventTimeNs := none
  eventTimeSource := none
  integrityMode := none
  coverage := none
  restMetadata := none
  payload := .null
  receivedAtNs := 1785470400000000000
  monotonicNs := 123
  workerInstanceId := "worker-1"
  connectionId := some "connection-1"
  connectionGeneration := some 1
  writerSequence := 7
  egressId := some "direct-primary"
  configSha256 := "aaaaaaaaaaaaaaaaaaaaaaaaaaaaaaaaaaaaaaaaaaaaaaaaaaaaaaaaaaaaaaaa"

/-- A stream whose name is no segment. -/
def nestedStream : AcceptedEnvelope fun _ => none where
  toEnvelopeFields := streamFields "nested/escape"
  valid := by decide +kernel
  control := fun h => absurd h (by decide)
  received_le := by decide

/-- A status, which is of a market, of one instrument. -/
def namedStatus : AcceptedEnvelope fun _ => none where
  toEnvelopeFields := streamFields "status"
  valid := by decide +kernel
  control := fun h => absurd h (by decide)
  received_le := by decide

/-- The first of these accepted drafts has no path, and the path of the second is refused by the
layout of every manifest. -/
theorem nestedStream_disagrees :
    (∃ err, rawPartialPath nestedStream.toEnvelopeFields 1 0 = .error err) ∧
    ∃ data manifest, rawDataPath namedStatus.toEnvelopeFields 1 0 = .ok data ∧
      manifestPathForData data = .ok manifest ∧
      ∀ m : ManifestFields, Scoped m namedStatus.toEnvelopeFields → m.dataRelativePath = data →
        m.manifestRelativePath = manifest → m.validateLayout ≠ .ok () := by
  constructor
  · obtain ⟨-, hsafe⟩ | ⟨herr, -⟩ := rawPartialPath_cases nestedStream 1 0
    · exact absurd rfl (hsafe.stream.2 '/' (by decide)).1
    · exact herr
  · obtain ⟨⟨path, scope, hour, data, -, hlaid⟩, -⟩ | ⟨-, hunsafe⟩ :=
      rawPartialPath_cases namedStatus 1 0
    · obtain ⟨manifest, hplaced⟩ := hlaid.placed
      refine ⟨data, manifest, hlaid.dataPath, hplaced.sibling, ?_⟩
      rintro m hm rfl rfl hvalid
      have hin := ((hplaced.validateLayout_iff hm).mp hvalid).1
      exact absurd hin (by decide)
    · refine absurd ⟨⟨by decide, chars_of_all (by decide)⟩, ?_⟩ hunsafe
      rintro key ⟨⟩
      decide

end CryptoCollector.Storage
