/-
This file compares the legacy reader of audit rows with the envelopes it reads.
-/

import Adjudicate.Audit.BuiltRecord
import Adjudicate.Audit.Integrity
import Adjudicate.Audit.Replay
import Adjudicate.AuditPostgres.Row
import Adjudicate.Js.Comparison
import Adjudicate.Js.Conversion

namespace Adjudicate.AuditPostgres

open Js Canonical Adjudicate.Core Audit

/-- This is `JSON.parse`, which reads the text of its argument. -/
def jsonParse (value : JsValue) : Except Thrown JsValue := do
  let text ← value.toText
  match JsValue.parse text with
  | some parsed => return parsed
  | none => .error (.error "SyntaxError" (utf16 "\"" ++ text ++ utf16 "\" is not valid JSON"))

/-- An empty nonce counts as missing. -/
def usableNonce : JsValue → Option JsString
  | .str text => if text = [] then none else some text
  | _ => none

/-- These are the values that the reader hands to `buildEnvelope`, which computes the hash and
sets the default origin. -/
def remintEnvelope (host : Host) (clock : JsString)
    (kind payload actor taint nonce createdAt resourceRefs : JsValue) : Except Thrown JsValue := do
  let instant := if isNullish createdAt then .str clock else createdAt
  let intentHash ← sha256Canonical host (.obj [("version", .num intentEnvelopeVersion),
    ("kind", kind), ("payload", payload), ("nonce", nonce), ("actor", actor), ("taint", taint),
    ("origin", .str defaultOrigin.text), ("resourceRefs", resourceRefs)])
  return .obj ([(utf16 "version", JsValue.num intentEnvelopeVersion), (utf16 "kind", kind),
      (utf16 "payload", payload), (utf16 "createdAt", instant), (utf16 "nonce", nonce),
      (utf16 "actor", actor), (utf16 "taint", taint),
      (utf16 "origin", .str defaultOrigin.text), (utf16 "intentHash", .str intentHash)] ++
    optionalProp "resourceRefs" (if resourceRefs.isUndefined then none else some resourceRefs))

def missingNonce (row : IntentAuditRow) : Thrown :=
  .error "Error" (utf16 "legacyV1ToV2: v2+ row (record_version=" ++ row.recordVersion.toString ++
    utf16 ", intent_hash=" ++ row.intentHash ++ utf16 ") is missing a nonce — " ++
    utf16 "both the nonce column and the stored envelope nonce are null/empty. " ++
    utf16 "A v2+ record MUST carry the nonce it was hashed with; refusing to " ++
    utf16 "synthesize one from createdAt (which would forge a hash input).")

/-- The reader takes no origin from the stored envelope. -/
def legacyV1ToV2 (host : Host) (clock : JsString) (row : IntentAuditRow) :
    Except Thrown JsValue := do
  let stored ← jsonParse row.envelopeJsonb
  let rowNonce := usableNonce ((row.nonce.map .str).getD .null)
  let storedNonce := usableNonce (← readProp stored "nonce")
  if (JsNumber.ofNat 2).atMost row.recordVersion && rowNonce.isNone && storedNonce.isNone then
    .error (missingNonce row)
  else
    let nonce := ((rowNonce.or storedNonce).map .str).getD (stored.getOwn "createdAt")
    remintEnvelope host clock (stored.getOwn "kind") (stored.getOwn "payload")
      (stored.getOwn "actor") (stored.getOwn "taint") nonce (stored.getOwn "createdAt")
      (stored.getOwn "resourceRefs")

/-- The reader returns an envelope with the same properties as the persisted one. -/
def ReadsFaithfully (host : Host) (clock : JsString) (row : IntentAuditRow)
    (envelope : IntentEnvelope) : Prop :=
  ∃ read, legacyV1ToV2 host clock row = .ok read ∧
    ∀ name, read.getOwn name = (reload envelope.toJs).getOwn name

section

variable {host : Host} {clock : JsString} {envelope : IntentEnvelope} {row : IntentAuditRow}

/-- Parsing an object reads the text `[object Object]`. -/
theorem jsonParse_object {props : Props JsValue} (plain : utf16 "toString" ∉ keys props) :
    jsonParse (.obj props) =
      .error (.error "SyntaxError" (utf16 "\"[object Object]\" is not valid JSON")) := by
  rw [jsonParse, JsValue.toText, if_neg plain]
  have invalid : JsValue.parse (utf16 "[object Object]") = none := by decide
  change (match JsValue.parse (utf16 "[object Object]") with
    | some parsed => Except.ok parsed
    | none => _) = _
  rw [invalid]
  rfl

theorem jsonParse_text {value : JsValue} (present : value.isUndefined = false) :
    jsonParse (jsonText value) = .ok (reload value) := by
  rw [jsonParse, jsonText, JsValue.toText]
  change (match JsValue.parse (value.stringify.getD []) with
    | some parsed => Except.ok parsed
    | none => _) = _
  rw [parse_stringify present]

theorem toJs_nodup (envelope : IntentEnvelope) :
    ∃ props, envelope.toJs = .obj props ∧ (keys props).Nodup := by
  refine ⟨_, rfl, ?_⟩
  cases envelope.resourceRefs with
  | none => simp [keys, optionalProp]
  | some resourceRefs => simp [keys, optionalProp]

theorem getOwn_stored (envelope : IntentEnvelope) (name : JsString) :
    (reload envelope.toJs).getOwn name = reload (envelope.toJs.getOwn name) := by
  obtain ⟨props, shape, distinct⟩ := toJs_nodup envelope
  rw [shape, getOwn_reload distinct]

theorem readProp_stored (envelope : IntentEnvelope) (name : JsString) :
    readProp (reload envelope.toJs) name = .ok ((reload envelope.toJs).getOwn name) := by
  obtain ⟨props, shape, distinct⟩ := toJs_nodup envelope
  rw [shape, reload_obj distinct]
  rfl

/-- The envelope has no further properties. -/
theorem getOwn_other {name : JsString} (other : name ∉ [utf16 "version", utf16 "kind",
    utf16 "payload", utf16 "createdAt", utf16 "nonce", utf16 "actor", utf16 "taint",
    utf16 "origin", utf16 "intentHash", utf16 "resourceRefs"]) :
    envelope.toJs.getOwn name = .undefined := by
  simp only [List.mem_cons, List.not_mem_nil, or_false, not_or] at other
  obtain ⟨_, _, _, _, _, _, _, _, _, _⟩ := other
  cases refs : envelope.resourceRefs with
  | none => simp [IntentEnvelope.toJs, JsValue.getOwn, lookup_cons_if, optionalProp, *]
  | some resourceRefs =>
      simp [IntentEnvelope.toJs, JsValue.getOwn, lookup_cons_if, optionalProp, *]

theorem remintEnvelope_ok {kind payload actor taint nonce createdAt resourceRefs read : JsValue}
    (minted : remintEnvelope host clock kind payload actor taint nonce createdAt resourceRefs =
      .ok read) :
    read.getOwn "origin" = .str defaultOrigin.text ∧ read.getOwn "nonce" = nonce := by
  obtain ⟨hash, -, returned⟩ := bind_eq_ok.mp minted
  cases returned
  exact ⟨rfl, rfl⟩

/-- The recomputed hash is the stored one when the origin is the default. -/
theorem remintEnvelope_faithful {minted : JsString} {input : BuildEnvelopeInput}
    (built : buildEnvelope host minted input = .ok envelope) (payload : input.payload.IsJson)
    (origin : envelope.origin = defaultOrigin) :
    let stored := reload envelope.toJs
    ∃ read, remintEnvelope host clock (stored.getOwn "kind") (stored.getOwn "payload")
        (stored.getOwn "actor") (stored.getOwn "taint") (.str envelope.nonce)
        (stored.getOwn "createdAt") (stored.getOwn "resourceRefs") = .ok read ∧
      ∀ name, read.getOwn name = stored.getOwn name := by
  intro stored
  obtain ⟨fields, -, -⟩ := buildEnvelope_eq_ok.mp built
  have version : envelope.version = intentEnvelopeVersion := by rw [fields]; rfl
  have finite : envelope.version.isFinite = true := by rw [version]; decide +kernel
  have whole : envelope.toJs.IsJson := by
    apply envelope_isJson finite
    rw [fields]
    exact payload
  have versionAt : stored.getOwn "version" = .num intentEnvelopeVersion := by
    refine (getOwn_stored envelope _).trans ((reload_num finite).trans ?_)
    rw [version]
    exact congrArg JsValue.num (by decide +kernel)
  have originAt : stored.getOwn "origin" = .str defaultOrigin.text := by
    refine (getOwn_stored envelope _).trans ((reload_str _).trans ?_)
    rw [origin]
  have nonceAt : stored.getOwn "nonce" = .str envelope.nonce :=
    (getOwn_stored envelope _).trans (reload_str _)
  have instant : stored.getOwn "createdAt" = .str envelope.createdAt :=
    (getOwn_stored envelope _).trans (reload_str _)
  have hashAt : stored.getOwn "intentHash" = .str envelope.intentHash :=
    (getOwn_stored envelope _).trans (reload_str _)
  have hashed : sha256Canonical host (.obj [("version", .num intentEnvelopeVersion),
      ("kind", stored.getOwn "kind"), ("payload", stored.getOwn "payload"),
      ("nonce", .str envelope.nonce), ("actor", stored.getOwn "actor"),
      ("taint", stored.getOwn "taint"), ("origin", .str defaultOrigin.text),
      ("resourceRefs", stored.getOwn "resourceRefs")]) = .ok envelope.intentHash := by
    rw [← versionAt, ← originAt, ← nonceAt]
    obtain ⟨props, shape, -⟩ := toJs_nodup envelope
    have reread := storedHashInput_reload host (shape ▸ whole)
    rw [← shape, storedHashInput_toJs] at reread
    exact reread.trans (deriveIntentHash_of_buildEnvelope built)
  rw [remintEnvelope, hashed]
  refine ⟨_, rfl, ?_⟩
  have kept : (if isNullish (stored.getOwn "createdAt") then .str clock
      else stored.getOwn "createdAt") = stored.getOwn "createdAt" := by
    rw [instant]
    rfl
  have refs (name : JsString) : (JsValue.obj (optionalProp "resourceRefs"
      (if (stored.getOwn "resourceRefs").isUndefined then none
        else some (stored.getOwn "resourceRefs")))).getOwn name =
      if name = utf16 "resourceRefs" then stored.getOwn "resourceRefs" else .undefined := by
    cases read : stored.getOwn "resourceRefs" <;>
      simp [optionalProp, getOwn_cons, getOwn_nil, JsValue.isUndefined]
  intro name
  simp only [List.cons_append, List.nil_append, getOwn_cons, kept, refs]
  split_ifs with versionName kindName payloadName instantName nonceName actorName taintName
    originName hashName refsName
  · rw [versionName, versionAt]
  · rw [kindName]
  · rw [payloadName]
  · rw [instantName]
  · rw [nonceName, nonceAt]
  · rw [actorName]
  · rw [taintName]
  · rw [originName, originAt]
  · rw [hashName, hashAt]
  · rw [refsName]
  · rw [getOwn_stored, getOwn_other (by simp [*])]
    rw [reload_eq]
    rfl

theorem origin_text_inj {left right : Origin} (same : left.text = right.text) : left = right := by
  revert same
  cases left <;> cases right <;> decide

/-- What the reader makes of the text of an envelope with the nonce. -/
def remintStored (host : Host) (clock : JsString) (stored : JsValue) (nonce : JsString) :
    Except Thrown JsValue :=
  remintEnvelope host clock (stored.getOwn "kind") (stored.getOwn "payload")
    (stored.getOwn "actor") (stored.getOwn "taint") (.str nonce) (stored.getOwn "createdAt")
    (stored.getOwn "resourceRefs")

theorem legacyV1ToV2_text (text : row.envelopeJsonb = jsonText envelope.toJs)
    (nonce : row.nonce = some envelope.nonce) :
    legacyV1ToV2 host clock row =
      if envelope.nonce = [] then
        if (JsNumber.ofNat 2).atMost row.recordVersion then .error (missingNonce row)
        else remintStored host clock (reload envelope.toJs) envelope.createdAt
      else remintStored host clock (reload envelope.toJs) envelope.nonce := by
  have nonceAt : (reload envelope.toJs).getOwn "nonce" = .str envelope.nonce :=
    (getOwn_stored envelope _).trans (reload_str _)
  have instant : (reload envelope.toJs).getOwn "createdAt" = .str envelope.createdAt :=
    (getOwn_stored envelope _).trans (reload_str _)
  rw [legacyV1ToV2, text, jsonParse_text rfl, ok_bind, readProp_stored, ok_bind, nonce, nonceAt]
  by_cases empty : envelope.nonce = []
  · rw [empty]
    cases (JsNumber.ofNat 2).atMost row.recordVersion with
    | true => rfl
    | false =>
        change remintEnvelope host clock _ _ _ _ ((reload envelope.toJs).getOwn "createdAt") _ _ = _
        rw [remintStored, instant]
        rfl
  · simp only [Option.map_some, Option.getD_some, usableNonce, if_neg empty, Option.isNone_some,
      Bool.and_false, Bool.false_eq_true, if_false, Option.some_or]
    rfl

/-- A row as text reads faithfully exactly when the envelope has the default origin and the reader
finds its nonce. -/
theorem readsFaithfully_text {minted : JsString} {input : BuildEnvelopeInput}
    (built : buildEnvelope host minted input = .ok envelope) (payload : input.payload.IsJson)
    (text : row.envelopeJsonb = jsonText envelope.toJs) (nonce : row.nonce = some envelope.nonce) :
    ReadsFaithfully host clock row envelope ↔ envelope.origin = defaultOrigin ∧
      (envelope.nonce ≠ [] ∨
        (JsNumber.ofNat 2).atMost row.recordVersion = false ∧ envelope.createdAt = []) := by
  have nonceAt : (reload envelope.toJs).getOwn "nonce" = .str envelope.nonce :=
    (getOwn_stored envelope _).trans (reload_str _)
  have originAt : (reload envelope.toJs).getOwn "origin" = .str envelope.origin.text :=
    (getOwn_stored envelope _).trans (reload_str _)
  rw [ReadsFaithfully, legacyV1ToV2_text text nonce]
  constructor
  · rintro ⟨read, returned, same⟩
    have answers {used : JsString}
        (minted : remintStored host clock (reload envelope.toJs) used = .ok read) :
        envelope.origin = defaultOrigin ∧ used = envelope.nonce := by
      obtain ⟨originRead, nonceRead⟩ := remintEnvelope_ok minted
      rw [same, originAt] at originRead
      rw [same, nonceAt] at nonceRead
      exact ⟨origin_text_inj (JsValue.str.inj originRead), (JsValue.str.inj nonceRead).symm⟩
    by_cases empty : envelope.nonce = []
    · rw [if_pos empty] at returned
      cases version : (JsNumber.ofNat 2).atMost row.recordVersion with
      | true =>
          rw [version, if_pos rfl] at returned
          cases returned
      | false =>
          rw [version, if_neg Bool.false_ne_true] at returned
          obtain ⟨origin, used⟩ := answers returned
          exact ⟨origin, .inr ⟨rfl, used.trans empty⟩⟩
    · rw [if_neg empty] at returned
      exact ⟨(answers returned).1, .inl empty⟩
  · rintro ⟨origin, found⟩
    obtain ⟨read, minted, same⟩ := 
      @remintEnvelope_faithful host clock envelope minted input built payload origin
    refine ⟨read, ?_, same⟩
    by_cases empty : envelope.nonce = []
    · obtain filled | ⟨version, instant⟩ := found
      · exact absurd empty filled
      · rw [if_pos empty, version, if_neg Bool.false_ne_true, instant, ← empty]
        exact minted
    · rw [if_neg empty]
      exact minted

theorem stored_plain (envelope : IntentEnvelope) :
    ∃ props, reload envelope.toJs = .obj props ∧ utf16 "toString" ∉ keys props := by
  obtain ⟨props, shape, distinct⟩ := toJs_nodup envelope
  refine ⟨_, (congrArg reload shape).trans (reload_obj distinct), ?_⟩
  rw [keys_mapValues, (keys_perm (enumerate_perm _)).mem_iff]
  intro inside
  obtain ⟨member, memberIn, name⟩ := List.mem_map.mp inside
  rw [serializeProps_eq] at memberIn
  obtain ⟨property, propertyIn, found⟩ := List.mem_filterMap.mp memberIn
  obtain ⟨tree, -, rfl⟩ := Option.map_eq_some_iff.mp found
  have listed : utf16 "toString" ∈ keys props := List.mem_map.mpr ⟨property, propertyIn, name⟩
  have names : keys props = keys envelope.toJs.ownProps := by rw [shape]; rfl
  rw [names, IntentEnvelope.toJs] at listed
  cases refs : envelope.resourceRefs with
  | none => simp [refs, keys, optionalProp, JsValue.ownProps] at listed
  | some resourceRefs => simp [refs, keys, optionalProp, JsValue.ownProps] at listed

/-- The reader refuses a column that the driver has parsed. -/
theorem not_readsFaithfully_parsed (host : Host) (clock : JsString) (row : IntentAuditRow)
    (envelope : IntentEnvelope) :
    ¬ReadsFaithfully host clock (row.parsed (reload envelope.toJs)) envelope := by
  rintro ⟨read, returned, -⟩
  obtain ⟨props, shape, plain⟩ := stored_plain envelope
  rw [legacyV1ToV2, IntentAuditRow.parsed, shape, jsonParse_object plain] at returned
  cases returned

/-- A row reads faithfully exactly as text, for the default origin and a nonce that the reader
finds. -/
theorem legacyRead_faithful_iff {minted : JsString} {input : BuildEnvelopeInput}
    {record : AuditRecord} (built : buildEnvelope host minted input = .ok envelope)
    (payload : input.payload.IsJson) (subject : record.envelope = envelope)
    (mapped : recordToRow record = .ok row) :
    (ReadsFaithfully host clock row envelope ↔ envelope.origin = defaultOrigin ∧
        (envelope.nonce ≠ [] ∨
          (JsNumber.ofNat 2).atMost record.version = false ∧ envelope.createdAt = [])) ∧
      ¬ReadsFaithfully host clock (row.parsed (reload envelope.toJs)) envelope := by
  obtain ⟨text, nonce, version⟩ := recordToRow_eq_ok mapped
  rw [subject] at text nonce
  rw [← version]
  exact ⟨readsFaithfully_text built payload text nonce,
    not_readsFaithfully_parsed host clock row envelope⟩

end

def paymentEnvelope : IntentEnvelope := auditedEnvelope .llm auditedIntentHash

def recordOver (envelope : IntentEnvelope) : AuditRecord :=
  { linkedRecord envelope.intentHash "2026-01-01T00:00:00.000Z" none with envelope }

theorem paymentEnvelope_built :
    buildEnvelope replayHost "2026-01-01T00:00:00.000Z" (samplePayment 1) = .ok paymentEnvelope := by
  have hash : sha256Canonical replayHost (intentHashInput (samplePayment 1).hashedFields) =
      .ok auditedIntentHash := by
    unfold replayHost samplePaymentText auditedRecordText auditedIntentHash retrievedIntentHash
      retrievedHash
    repeat rw [utf16_ofList]
    decide +kernel
  exact buildEnvelope_eq_ok.mpr ⟨rfl, rfl, hash⟩

theorem recordToRow_recordOver (envelope : IntentEnvelope) :
    ∃ row, recordToRow (recordOver envelope) = .ok row := ⟨_, rfl⟩

theorem legacyRead_faithful_iff_payment :
    ∃ row, recordToRow (recordOver paymentEnvelope) = .ok row ∧
      (ReadsFaithfully replayHost [] row paymentEnvelope ↔ paymentEnvelope.origin = defaultOrigin ∧
        (paymentEnvelope.nonce ≠ [] ∨
          (JsNumber.ofNat 2).atMost (recordOver paymentEnvelope).version = false ∧
            paymentEnvelope.createdAt = [])) ∧
      ¬ReadsFaithfully replayHost [] (row.parsed (reload paymentEnvelope.toJs)) paymentEnvelope := by
  obtain ⟨row, mapped⟩ := recordToRow_recordOver paymentEnvelope
  have payload : (samplePayment 1).payload.IsJson := by
    simp only [samplePayment, JsValue.IsJson, IsJsonProps, and_true]
    decide +kernel
  exact ⟨row, mapped, legacyRead_faithful_iff paymentEnvelope_built payload rfl mapped⟩

/-- The payment from retrieved content does not read back, and no parsed column does. -/
theorem legacyRead_unfaithful :
    buildEnvelope replayHost "2026-01-01T00:00:00.000Z" retrievedPayment = .ok retrievedEnvelope ∧
      ∃ row, recordToRow (recordOver retrievedEnvelope) = .ok row ∧
        ¬ReadsFaithfully replayHost [] row retrievedEnvelope ∧
        legacyV1ToV2 replayHost [] (row.parsed (reload retrievedEnvelope.toJs)) =
          .error (.error "SyntaxError" (utf16 "\"[object Object]\" is not valid JSON")) := by
  obtain ⟨row, mapped⟩ := recordToRow_recordOver retrievedEnvelope
  obtain ⟨text, nonce, -⟩ := recordToRow_eq_ok mapped
  refine ⟨retrievedEnvelope_built, row, mapped, ?_, ?_⟩
  · intro faithful
    have payload : retrievedPayment.payload.IsJson := by
      simp only [retrievedPayment, samplePayment, JsValue.IsJson, IsJsonProps, and_true]
      decide +kernel
    obtain ⟨origin, -⟩ :=
      (readsFaithfully_text retrievedEnvelope_built payload text nonce).mp faithful
    cases origin
  · obtain ⟨props, shape, plain⟩ := stored_plain retrievedEnvelope
    rw [legacyV1ToV2, IntentAuditRow.parsed, shape, jsonParse_object plain]
    rfl

end Adjudicate.AuditPostgres
