import CryptoCollector.Storage.Serialize

/-!
# What a decoder returns

The JSON decoder builds dictionaries, so that no name comes twice in an object. An envelope that is
decoded from a line inherits that.

* `Lawful.distinct_of_decode`: the names in a decoded envelope are distinct.
-/

namespace CryptoCollector.Storage

open Lib

namespace JsonLibraries

/-- What the libraries promise, with the dictionaries that the decoder builds. -/
structure Lawful (L : JsonLibraries) : Prop extends L.Documented where
  loads_distinct : ∀ text j, L.simplejsonLoads text = some j → j.Distinct

/-- `encode_json`. -/
def encodeJson (L : JsonLibraries) (j : Json) : Except Err Bytes :=
  match L.simplejsonDumps j with
  | some text => .ok text
  | none => .error (.valueError "not serializable")

/-- `decode_json`. -/
def decodeJson (L : JsonLibraries) (text : Bytes) : Except Err Json :=
  match L.simplejsonLoads text with
  | some j => .ok j
  | none => .error (.valueError "invalid JSON")

theorem encodeJson_eq_ok {L : JsonLibraries} {j : Json} {text : Bytes} :
    L.encodeJson j = .ok text ↔ L.simplejsonDumps j = some text := by
  unfold encodeJson
  cases L.simplejsonDumps j <;> simp

theorem decodeJson_eq_ok {L : JsonLibraries} {text : Bytes} {j : Json} :
    L.decodeJson text = .ok j ↔ L.simplejsonLoads text = some j := by
  unfold decodeJson
  cases L.simplejsonLoads text <;> simp

/-- Two values that are written as one text are read as one value. -/
theorem Documented.exists_reads {L : JsonLibraries} (hL : L.Documented) {a b : Json} {text : Bytes}
    (ha : L.encodeJson a = .ok text) (hb : L.encodeJson b = .ok text) (hda : a.Distinct)
    (hdb : b.Distinct) :
    ∃ read, L.decodeJson text = .ok read ∧ Json.Reads a read ∧ Json.Reads b read := by
  obtain ⟨-, read, hread, hra⟩ := hL.simplejson_holds a text (encodeJson_eq_ok.mp ha) hda
  obtain ⟨-, other, hother, hrb⟩ := hL.simplejson_holds b text (encodeJson_eq_ok.mp hb) hdb
  obtain rfl : read = other := Option.some.inj (hread.symm.trans hother)
  exact ⟨read, decodeJson_eq_ok.mpr hread, hra, hrb⟩

end JsonLibraries

/-! ## Wires of distinct names -/

/-- A value of a decoded wire: JSON with distinct names, or a member of an enumeration. -/
def WireValue.Plain : WireValue → Prop
  | .json j => j.Distinct
  | .member _ => True
  | .model _ => False

/-- A wire whose values are plain. -/
def PlainWire (wire : List (String × WireValue)) : Prop := ∀ entry ∈ wire, entry.2.Plain

theorem PlainWire.of_lookup {wire : List (String × WireValue)} (h : PlainWire wire) {name : String}
    {value : WireValue} (hvalue : wire.lookup name = some value) : value.Plain := by
  obtain ⟨before, after, rfl, -⟩ := List.lookup_eq_some_iff.mp hvalue
  exact h (name, value) (by simp)

theorem PlainWire.assign_member {wire : List (String × WireValue)} (h : PlainWire wire)
    (name : String) (m : Member) : PlainWire (assign wire name (.member m)) := by
  intro entry hentry
  obtain ⟨old, hold, rfl⟩ := List.mem_map.mp hentry
  split
  · trivial
  · exact h old hold

theorem PlainWire.convertEnum {wire wire' : List (String × WireValue)} (h : PlainWire wire)
    {f : EnvelopeField} (hwire : convertEnum wire f = .ok wire') : PlainWire wire' := by
  unfold CryptoCollector.Storage.convertEnum at hwire
  split at hwire
  · cases hwire
    exact h
  · cases hwire
    exact h
  · split at hwire
    · cases hwire
      exact h.assign_member _ _
    · cases hwire
  · cases hwire

theorem PlainWire.foldlM_convertEnum {fields : List EnvelopeField}
    {wire wire' : List (String × WireValue)} (h : PlainWire wire)
    (hwire : fields.foldlM CryptoCollector.Storage.convertEnum wire = .ok wire') :
    PlainWire wire' := by
  induction fields generalizing wire with
  | nil =>
    cases hwire
    exact h
  | cons f fields ih =>
    obtain ⟨next, hnext, hrest⟩ := bind_eq_ok.mp hwire
    exact ih (h.convertEnum hnext) hrest

theorem plainWire_json {fields : List (String × Json)} (h : (Json.object fields).Distinct) :
    PlainWire (fields.map fun field => (field.1, .json field.2)) := by
  intro entry hentry
  obtain ⟨field, hfield, rfl⟩ := List.mem_map.mp hentry
  exact Json.distinctFields_iff.mp h.2 field hfield

/-! ## Models of plain wires -/

theorem required_eq_ok {V α : Type} {entries : List (String × V)} {name : String}
    {read : V → Except Err α} {a : α} (h : required entries name read = .ok a) :
    ∃ value, entries.lookup name = some value ∧ read value = .ok a := by
  unfold required at h
  split at h
  · next value hvalue => exact ⟨value, hvalue, h⟩
  · cases h

theorem optional_eq_ok {V α : Type} {entries : List (String × V)} {name : String}
    {read : V → Except Err α} {default a : α} (h : optional entries name read default = .ok a) :
    (∃ value, entries.lookup name = some value ∧ read value = .ok a) ∨ a = default := by
  unfold optional at h
  split at h
  · next value hvalue => exact .inl ⟨value, hvalue, h⟩
  · cases h
    exact .inr rfl

theorem Json.distinct_of_lookup {fields : List (String × Json)} (h : (Json.object fields).Distinct)
    {name : String} {value : Json} (hvalue : fields.lookup name = some value) : value.Distinct := by
  obtain ⟨before, after, rfl, -⟩ := List.lookup_eq_some_iff.mp hvalue
  exact Json.distinctFields_iff.mp h.2 (name, value) (by simp)

theorem Json.distinct_of_readParams {j : Json} {params : List (String × Json)} (h : j.Distinct)
    (hparams : j.readParams = .ok params) : (Json.object params).Distinct := by
  unfold Json.readParams at hparams
  split at hparams
  · cases hparams
    exact h
  · cases hparams

theorem Json.distinct_of_readHeaders {j : Json} {headers : List (String × String)} (h : j.Distinct)
    (hheaders : j.readHeaders = .ok headers) : (Json.ofHeaders headers).Distinct := by
  unfold Json.readHeaders at hheaders
  split at hheaders
  · next fields =>
    have hnames : headers.map Prod.fst = fields.map Prod.fst := by
      refine map_eq_of_forall₂ (forall₂_of_mapM hheaders) fun field header hread => ?_
      obtain ⟨s, -, rfl⟩ := map_eq_ok.mp hread
      rfl
    refine ⟨?_, Json.distinctFields_iff.mpr fun field hfield => ?_⟩
    · rw [List.map_map]
      exact hnames ▸ h.1
    · obtain ⟨header, -, rfl⟩ := List.mem_map.mp hfield
      trivial
  · cases hheaders

/-- Metadata that is read of a dictionary with distinct names has distinct names. -/
theorem RestRecord.distinct_of_modelValidate {fields : List (String × Json)} {r : ValidRest}
    (h : (Json.object fields).Distinct) (hr : modelValidate fields = .ok r) :
    (Json.object r.dump).Distinct := by
  iterate 5 obtain ⟨_, -, hr⟩ := bind_eq_ok.mp hr
  obtain ⟨params, hparams, hr⟩ := bind_eq_ok.mp hr
  iterate 2 obtain ⟨_, -, hr⟩ := bind_eq_ok.mp hr
  obtain ⟨headers, hheaders, hr⟩ := bind_eq_ok.mp hr
  iterate 2 obtain ⟨_, -, hr⟩ := bind_eq_ok.mp hr
  obtain ⟨value, hvalue, hparams⟩ := required_eq_ok hparams
  obtain ⟨other, hother, hheaders⟩ := required_eq_ok hheaders
  unfold construct at hr
  split at hr
  · cases hr
    refine (Json.distinct_dump restSchema _).mpr fun f => ?_
    by_cases hfparams : f = .params
    · rw [hfparams]
      exact Json.distinct_of_readParams (Json.distinct_of_lookup h hvalue) hparams
    by_cases hfheaders : f = .rateLimitHeaders
    · rw [hfheaders]
      exact Json.distinct_of_readHeaders (Json.distinct_of_lookup h hother) hheaders
    · exact Json.distinct_of_atom (atom_get _ hfparams hfheaders)
  · cases hr

theorem WireValue.distinct_of_readRest {value : WireValue} {rest : Option ValidRest}
    (h : value.Plain) (hrest : readNullable readRest value = .ok rest) :
    ∀ r ∈ rest, (Json.object r.dump).Distinct := by
  rintro r hr
  unfold readNullable at hrest
  split at hrest
  · cases hrest
    cases hr
  · obtain ⟨s, hs, rfl⟩ := map_eq_ok.mp hrest
    cases hr
    unfold readRest at hs
    split at hs
    · exact RestRecord.distinct_of_modelValidate h hs
    · exact h.elim
    · cases hs

namespace EnvelopeRecord

/-- An envelope that is validated from a plain wire has distinct names. -/
theorem distinct_of_modelValidate {wire : List (String × WireValue)} {e : ValidEnvelope}
    (h : PlainWire wire) (he : modelValidate wire = .ok e) : e.Distinct := by
  iterate 12 obtain ⟨_, -, he⟩ := bind_eq_ok.mp he
  obtain ⟨rest, hrest, he⟩ := bind_eq_ok.mp he
  obtain ⟨payload, hpayload, he⟩ := bind_eq_ok.mp he
  iterate 9 obtain ⟨_, -, he⟩ := bind_eq_ok.mp he
  obtain ⟨value, hvalue, hread⟩ := required_eq_ok hpayload
  have hdistinct := h.of_lookup hvalue
  have hpayload : payload.Distinct := by
    cases value with
    | json j =>
      cases hread
      exact hdistinct
    | member m => cases hread
    | model r => cases hread
  have hdumps : ∀ r ∈ rest, (Json.object r.dump).Distinct := by
    obtain ⟨value, hvalue, hread⟩ | rfl := optional_eq_ok hrest
    · exact WireValue.distinct_of_readRest (h.of_lookup hvalue) hread
    · nofun
  unfold construct at he
  split at he
  · cases he
    exact distinct_of_parts hpayload hdumps
  · cases he

end EnvelopeRecord

/-- The names in a decoded envelope are distinct. -/
theorem JsonLibraries.Lawful.distinct_of_decode {L : JsonLibraries} (hL : L.Lawful) {line : Bytes}
    {e : ValidEnvelope} (h : L.decodeEnvelopeJsonl line = .ok e) : e.Distinct := by
  unfold decodeEnvelopeJsonl at h
  split at h
  · cases h
  unfold decodeText at h
  split at h
  · next fields hfields =>
    obtain ⟨wire, hwire, he⟩ := bind_eq_ok.mp h
    have hplain := plainWire_json (hL.loads_distinct _ _ hfields)
    exact EnvelopeRecord.distinct_of_modelValidate (hplain.foldlM_convertEnum hwire) he
  · cases h
  · cases h

end CryptoCollector.Storage
