/-
This file models the reader of audit rows and shows that a row loses nothing of its record.
-/

import Adjudicate.AdminSdk.WireRecord
import Adjudicate.AuditPostgres.LegacyCompat
import Adjudicate.Js.Coercion

namespace Adjudicate.AuditPostgres

open Js Canonical Adjudicate.Core Audit

/-- Only a text is parsed; a driver may have parsed the column before. -/
def parseJsonb : JsValue → Except Thrown JsValue
  | .str text => jsonParse (.str text)
  | value => .ok value

def readVersion (recordVersion : JsNumber) : Nat :=
  if recordVersion.equals 5 then 5
  else if recordVersion.equals 4 then 4
  else if recordVersion.equals 3 then 3
  else if recordVersion.equals 2 then 2
  else 1

/-- An optional column is read from its version on, unless its value is falsy. -/
def readColumn (since version : Nat) (column : Option JsValue) :
    Except Thrown (Option JsValue) :=
  match column with
  | none => return none
  | some value => if since ≤ version && value.truthy then some <$> parseJsonb value else return none

/-- An optional text is read from its version on, even when it is empty. -/
def readText (since version : Nat) (column : Option JsString) : Option JsValue :=
  if since ≤ version then column.map .str else none

/-- A slot without a value is no property. -/
def slotProps (slots : Props (Option JsValue)) : Props JsValue :=
  slots.flatMap fun slot => optionalProp slot.1 slot.2

/-- The bases come from the decision and not from their own column. -/
def rowToRecord (row : IntentAuditRow) : Except Thrown (Props JsValue) := do
  let envelope ← parseJsonb row.envelopeJsonb
  let decision ← parseJsonb row.decisionJsonb
  let version := readVersion row.recordVersion
  let plan ← readColumn 2 version row.planJsonb
  let supersedes ← readColumn 3 version row.supersedesJsonb
  let kernelIdentity ← readColumn 3 version row.kernelIdentityJsonb
  let signature ← readColumn 4 version row.signatureJsonb
  let metadata ← readColumn 5 version row.metadataJsonb
  let authoritySnapshot ← readColumn 4 version row.authoritySnapshotJsonb
  let aggregateSnapshot ← readColumn 4 version row.aggregateSnapshotJsonb
  let basis ← readProp decision "basis"
  return slotProps
    [("version", some (.num (JsNumber.ofNat version))), ("intentHash", some (.str row.intentHash)),
      ("envelope", some envelope), ("decision", some decision), ("decision_basis", some basis),
      ("resourceVersion", some ((row.resourceVersion.map .str).getD .undefined)),
      ("at", some (.str row.recordedAt)), ("durationMs", some (.num row.durationMs)),
      ("plan", plan), ("supersedes", supersedes), ("kernelIdentity", kernelIdentity),
      ("policyVersion", readText 4 version row.policyVersion),
      ("kernelVersion", readText 4 version row.kernelVersion),
      ("authoritySnapshot", authoritySnapshot), ("aggregateSnapshot", aggregateSnapshot),
      ("auditHash", readText 4 version row.auditHash), ("signature", signature),
      ("metadata", metadata), ("prevAuditHash", row.prevAuditHash.map .str)]

/-- A driver gives back a written JSON column as a text or as a parsed value, with the keys in any
order. -/
inductive ColumnFetched (written : JsValue) : JsValue → Prop where
  | text {value read : JsValue} {text : JsString} :
      jsonParse written = .ok value → JsValue.parse text = some read →
      Rearranged False value read → ColumnFetched written (.str text)
  | parsed {value read : JsValue} :
      jsonParse written = .ok value → Rearranged False value read → ColumnFetched written read

/-- The columns that are not JSON come back as they were written, but for the sign of a zero. -/
structure RowFetched (written fetched : IntentAuditRow) : Prop where
  plain : fetched = { written with
    durationMs := written.durationMs.unsigned
    envelopeJsonb := fetched.envelopeJsonb
    decisionJsonb := fetched.decisionJsonb
    planJsonb := fetched.planJsonb
    supersedesJsonb := fetched.supersedesJsonb
    kernelIdentityJsonb := fetched.kernelIdentityJsonb
    signatureJsonb := fetched.signatureJsonb
    metadataJsonb := fetched.metadataJsonb
    authoritySnapshotJsonb := fetched.authoritySnapshotJsonb
    aggregateSnapshotJsonb := fetched.aggregateSnapshotJsonb }
  envelopeJsonb : ColumnFetched written.envelopeJsonb fetched.envelopeJsonb
  decisionJsonb : ColumnFetched written.decisionJsonb fetched.decisionJsonb
  planJsonb : Option.Rel ColumnFetched written.planJsonb fetched.planJsonb
  supersedesJsonb : Option.Rel ColumnFetched written.supersedesJsonb fetched.supersedesJsonb
  kernelIdentityJsonb :
    Option.Rel ColumnFetched written.kernelIdentityJsonb fetched.kernelIdentityJsonb
  signatureJsonb : Option.Rel ColumnFetched written.signatureJsonb fetched.signatureJsonb
  metadataJsonb : Option.Rel ColumnFetched written.metadataJsonb fetched.metadataJsonb
  authoritySnapshotJsonb :
    Option.Rel ColumnFetched written.authoritySnapshotJsonb fetched.authoritySnapshotJsonb
  aggregateSnapshotJsonb :
    Option.Rel ColumnFetched written.aggregateSnapshotJsonb fetched.aggregateSnapshotJsonb

section Columns

variable {value column : JsValue} {props : Props JsValue}

/-- An object column is read as the written object with its keys in some order. -/
theorem parseJsonb_fetched (distinct : (keys props).Nodup)
    (fetched : ColumnFetched (jsonText (.obj props)) column) :
    column.truthy = true ∧ ∃ members, parseJsonb column = .ok (.obj members) ∧
      (keys members).Nodup ∧ Rearranged False (reload (.obj props)) (.obj members) := by
  have shape (read : JsValue) (rearranged : Rearranged False (reload (.obj props)) read) :
      ∃ members, read = .obj members ∧ (keys members).Nodup := by
    have reordered := rearranged
    rw [reload_obj distinct] at reordered
    exact reordered.obj_members (reload_nodup distinct)
  cases fetched with
  | @text value read text written parsed rearranged =>
      rw [jsonParse_text rfl] at written
      obtain rfl := Except.ok.inj written
      obtain ⟨members, rfl, fresh⟩ := shape read rearranged
      have nonempty : text ≠ [] := by
        rintro rfl
        have failed : JsValue.parse [] = none := by decide +kernel
        rw [failed] at parsed
        cases parsed
      refine ⟨decide_eq_true nonempty, members, ?_, fresh, rearranged⟩
      simp only [parseJsonb, jsonParse, JsValue.toText, ok_bind, parsed]
      rfl
  | @parsed value read written rearranged =>
      rw [jsonParse_text rfl] at written
      obtain rfl := Except.ok.inj written
      obtain ⟨members, rfl, fresh⟩ := shape column rearranged
      exact ⟨rfl, members, rfl, fresh, rearranged⟩

/-- An optional column of an object is read as the object, and a missing one as missing. -/
theorem readColumn_fetched {since version : Nat} {value column : Option JsValue}
    (shape : ∀ inner ∈ value, ∃ props, inner = .obj props ∧ (keys props).Nodup)
    (reached : since ≤ version) (fetched : Option.Rel ColumnFetched (value.map jsonText) column) :
    ∃ read, readColumn since version column = .ok read ∧
      Rearranged False (reload (value.getD .undefined)) (read.getD .undefined) := by
  cases value with
  | none =>
      cases fetched
      refine ⟨none, rfl, ?_⟩
      change Rearranged False (reload .undefined) .undefined
      rw [reload_eq]
      exact .same _
  | some inner =>
      cases fetched with
      | @some _ fetchedColumn returned =>
          obtain ⟨props, rfl, distinct⟩ := shape inner rfl
          obtain ⟨truthy, members, parsed, -, rearranged⟩ := parseJsonb_fetched distinct returned
          refine ⟨some (.obj members), ?_, rearranged⟩
          rw [readColumn, truthy, Bool.and_true, if_pos (decide_eq_true reached), parsed]
          rfl

end Columns

section Slots

theorem lookup_slotProps {slots : Props (Option JsValue)} (distinct : (keys slots).Nodup)
    (name : JsString) : (slotProps slots).lookup name = (slots.lookup name).join := by
  induction slots with
  | nil => rfl
  | cons slot slots ih =>
      obtain ⟨other, value⟩ := slot
      rw [keys, List.map_cons, List.nodup_cons] at distinct
      rw [slotProps, List.flatMap_cons, List.lookup_append, lookup_optionalProp, ← slotProps,
        ih distinct.2, lookup_cons_if]
      split
      · next same =>
          have absent : slots.lookup name = none := lookup_eq_none.mpr (same ▸ distinct.1)
          rw [absent]
          exact Option.or_none
      · exact Option.none_or

/-- Slots that are related one by one have related values under every name. -/
theorem field_slotProps {R : JsValue → JsValue → Prop} {left right : Props (Option JsValue)}
    (absent : R .undefined .undefined) (leftDistinct : (keys left).Nodup)
    (rightDistinct : (keys right).Nodup)
    (related : List.Forall₂ (fun one other => one.1 = other.1 ∧
      R (one.2.getD .undefined) (other.2.getD .undefined)) left right) (name : JsString) :
    R (field (slotProps left) name) (field (slotProps right) name) := by
  rw [field, field, JsValue.getOwn, JsValue.getOwn, lookup_slotProps leftDistinct,
    lookup_slotProps rightDistinct]
  clear leftDistinct rightDistinct
  induction related with
  | nil => exact absent
  | @cons one other left right both _ ih =>
      obtain ⟨leftName, leftValue⟩ := one
      obtain ⟨rightName, rightValue⟩ := other
      obtain ⟨rfl, values⟩ := both
      rw [lookup_cons_if, lookup_cons_if]
      split
      · exact values
      · exact ih

theorem slotProps_nodup {slots : Props (Option JsValue)} (distinct : (keys slots).Nodup) :
    (keys (slotProps slots)).Nodup := by
  refine distinct.sublist ?_
  clear distinct
  induction slots with
  | nil => exact List.Sublist.refl _
  | cons slot slots ih =>
      rw [slotProps, List.flatMap_cons, keys_append]
      exact (keys_optionalProp slot.1 slot.2).append ih

end Slots

section RoundTrip

/-- The slots of a record in the order in which the reader fills them. -/
def recordSlots (record : AuditRecord) : Props (Option JsValue) :=
  [("version", some (.num record.version)), ("intentHash", some (.str record.intentHash)),
    ("envelope", some record.envelope.toJs), ("decision", some record.decision.toJs),
    ("decision_basis", some (.arr (record.decisionBasis.map DecisionBasis.toJs))),
    ("resourceVersion", record.resourceVersion.map .str), ("at", some (.str record.at)),
    ("durationMs", some (.num record.durationMs)), ("plan", record.plan.map AuditPlanSnapshot.toJs),
    ("supersedes", record.supersedes.map Supersession.toJs),
    ("kernelIdentity", record.kernelIdentity.map KernelIdentity.toJs),
    ("policyVersion", record.policyVersion.map .str),
    ("kernelVersion", record.kernelVersion.map .str),
    ("authoritySnapshot", record.authoritySnapshot.map RecordedAuthoritySnapshot.toJs),
    ("aggregateSnapshot", record.aggregateSnapshot.map RecordedAggregateSnapshot.toJs),
    ("auditHash", record.auditHash.map .str), ("signature", record.signature.map AuditSignature.toJs),
    ("metadata", record.metadata.map .obj), ("prevAuditHash", record.prevAuditHash.map .str)]

theorem keys_recordSlots (record : AuditRecord) : keys (recordSlots record) =
    [utf16 "version", "intentHash", "envelope", "decision", "decision_basis", "resourceVersion",
      "at", "durationMs", "plan", "supersedes", "kernelIdentity", "policyVersion", "kernelVersion",
      "authoritySnapshot", "aggregateSnapshot", "auditHash", "signature", "metadata",
      "prevAuditHash"] := rfl

theorem recordSlots_nodup (record : AuditRecord) : (keys (recordSlots record)).Nodup := by
  rw [keys_recordSlots]
  decide

/-- The properties of a record fill its slots, though in another order. -/
theorem field_recordSlots (record : AuditRecord) (name : JsString) :
    field (slotProps (recordSlots record)) name = field record.ownProps name := by
  have order : (recordSlots record).Perm ((recordSlots record).take 15 ++
      [(utf16 "metadata", record.metadata.map .obj), (utf16 "auditHash", record.auditHash.map .str),
        (utf16 "signature", record.signature.map AuditSignature.toJs),
        (utf16 "prevAuditHash", record.prevAuditHash.map .str)]) := by
    refine List.Perm.append_left ((recordSlots record).take 15) ?_
    exact @List.perm_middle _ (utf16 "metadata", record.metadata.map JsValue.obj) [_, _] [_]
  have perm : (slotProps (recordSlots record)).Perm record.ownProps := by
    refine (order.flatMap_right _).trans (List.Perm.of_eq ?_)
    rw [auditRecord_ownProps]
    simp [recordSlots, BaseRecord.props, optionalProp]
  rw [field, field, JsValue.getOwn, JsValue.getOwn,
    lookup_perm perm (slotProps_nodup (recordSlots_nodup record))]

theorem reload_undefined : reload .undefined = .undefined := reload_eq _

theorem rearranged_optionalText (value : Option JsString) :
    Rearranged False (reload ((value.map JsValue.str).getD .undefined))
      ((value.map JsValue.str).getD .undefined) := by
  cases value with
  | none =>
      change Rearranged False (reload .undefined) .undefined
      rw [reload_undefined]
      exact .same _
  | some text =>
      change Rearranged False (reload (.str text)) (.str text)
      rw [reload_str]
      exact .same _

theorem decision_obj {decision : Decision} (json : decision.toJs.IsJson) :
    ∃ props, decision.toJs = .obj props ∧ (keys props).Nodup := by
  cases decision <;> exact ⟨_, rfl, json.1⟩

/-- What is stored as an object has distinct keys. -/
structure RowShaped (record : AuditRecord) : Prop where
  version : record.version = auditRecordVersion
  basis : record.decisionBasis = record.decision.basis
  decision : record.decision.toJs.IsJson
  durationMs : record.durationMs.isFinite = true
  metadata : ∀ metadata ∈ record.metadata, (keys metadata).Nodup

theorem readColumn_map {A : Type} (since : Nat) (toJs : A → JsValue) {value : Option A}
    {column : Option JsValue}
    (shape : ∀ inner ∈ value, ∃ props, toJs inner = .obj props ∧ (keys props).Nodup)
    (reached : since ≤ 5)
    (fetched : Option.Rel ColumnFetched (value.map fun inner => jsonText (toJs inner)) column) :
    ∃ read, readColumn since 5 column = .ok read ∧
      Rearranged False (reload ((value.map toJs).getD .undefined)) (read.getD .undefined) := by
  refine readColumn_fetched (fun inner inside => ?_) reached ?_
  · obtain ⟨one, member, rfl⟩ := Option.mem_map.mp inside
    exact shape one member
  · rwa [Option.map_map]

theorem shaped_json {A : Type} {toJs : A → JsValue} (inner : A) (json : (toJs inner).IsJson)
    (props : Props JsValue) (shape : toJs inner = .obj props) :
    ∃ props, toJs inner = .obj props ∧ (keys props).Nodup :=
  ⟨props, shape, (shape ▸ json : (JsValue.obj props).IsJson).1⟩

variable {record : AuditRecord} {written fetched : IntentAuditRow}

/-- The reader returns a record with the reloaded fields of the written one in some order. -/
theorem rowToRecord_fetched (shaped : RowShaped record) (mapped : recordToRow record = .ok written)
    (fetches : RowFetched written fetched) :
    ∃ read, rowToRecord fetched = .ok read ∧ (keys read).Nodup ∧
      ∀ name, Rearranged False (reload (field record.ownProps name)) (field read name) := by
  obtain ⟨month, -, returned⟩ := bind_eq_ok.mp mapped
  cases returned
  obtain ⟨envelopeProps, envelopeShape, envelopeDistinct⟩ := toJs_nodup record.envelope
  obtain ⟨decisionProps, decisionShape, decisionDistinct⟩ := decision_obj shaped.decision
  obtain ⟨-, envelope, envelopeRead, -, envelopeSame⟩ :=
    parseJsonb_fetched envelopeDistinct (envelopeShape ▸ fetches.envelopeJsonb)
  obtain ⟨-, decision, decisionRead, decisionFresh, decisionSame⟩ :=
    parseJsonb_fetched decisionDistinct (decisionShape ▸ fetches.decisionJsonb)
  obtain ⟨plan, planRead, planSame⟩ := readColumn_map 2 AuditPlanSnapshot.toJs
    (fun inner _ => shaped_json inner (auditPlanSnapshot_isJson inner) _ rfl)
    (by decide) fetches.planJsonb
  obtain ⟨supersedes, supersedesRead, supersedesSame⟩ := readColumn_map 3 Supersession.toJs
    (fun inner _ => shaped_json inner (supersession_isJson inner) _ rfl)
    (by decide) fetches.supersedesJsonb
  obtain ⟨kernelIdentity, identityRead, identitySame⟩ := readColumn_map 3 KernelIdentity.toJs
    (fun inner _ => ⟨_, rfl, by simp [keys]⟩)
    (by decide) fetches.kernelIdentityJsonb
  obtain ⟨signature, signatureRead, signatureSame⟩ := readColumn_map 4 AuditSignature.toJs
    (fun inner _ => ⟨_, rfl, by simp [keys]⟩)
    (by decide) fetches.signatureJsonb
  obtain ⟨metadata, metadataRead, metadataSame⟩ := readColumn_map 5 JsValue.obj
    (fun inner inside => ⟨_, rfl, shaped.metadata inner inside⟩)
    (by decide) fetches.metadataJsonb
  obtain ⟨authoritySnapshot, authorityRead, authoritySame⟩ := readColumn_map 4 RecordedAuthoritySnapshot.toJs
    (fun inner _ => ⟨_, rfl, by simp [keys]⟩)
    (by decide) fetches.authoritySnapshotJsonb
  obtain ⟨aggregateSnapshot, aggregateRead, aggregateSame⟩ := readColumn_map 4 RecordedAggregateSnapshot.toJs
    (fun inner _ => ⟨_, rfl, by simp [keys]⟩)
    (by decide) fetches.aggregateSnapshotJsonb
  have version : readVersion fetched.recordVersion = 5 := by
    rw [fetches.plain]
    change readVersion record.version = 5
    rw [shaped.version]
    decide +kernel
  have basisSame : Rearranged False
      (reload (.arr (record.decisionBasis.map DecisionBasis.toJs))) (field decision "basis") := by
    have member := decisionSame.getOwn "basis" nofun
    rw [getOwn_reload decisionDistinct, ← decisionShape] at member
    rw [shaped.basis]
    have basisIs : record.decision.toJs.getOwn "basis" =
        .arr (record.decision.basis.map DecisionBasis.toJs) := by
      cases record.decision <;> rfl
    rwa [basisIs] at member
  refine ⟨slotProps
    [("version", some (.num 5)), ("intentHash", some (.str record.intentHash)),
      ("envelope", some (.obj envelope)), ("decision", some (.obj decision)),
      ("decision_basis", some (field decision "basis")),
      ("resourceVersion", some ((record.resourceVersion.map .str).getD .undefined)),
      ("at", some (.str record.at)), ("durationMs", some (.num record.durationMs.unsigned)),
      ("plan", plan), ("supersedes", supersedes), ("kernelIdentity", kernelIdentity),
      ("policyVersion", record.policyVersion.map .str),
      ("kernelVersion", record.kernelVersion.map .str),
      ("authoritySnapshot", authoritySnapshot), ("aggregateSnapshot", aggregateSnapshot),
      ("auditHash", record.auditHash.map .str), ("signature", signature),
      ("metadata", metadata), ("prevAuditHash", record.prevAuditHash.map .str)], ?_, ?_, ?_⟩
  · rw [rowToRecord, envelopeRead, decisionRead, version]
    simp only [ok_bind, planRead, supersedesRead, identityRead, signatureRead, metadataRead,
      authorityRead, aggregateRead]
    rw [congrArg IntentAuditRow.intentHash fetches.plain,
      congrArg IntentAuditRow.resourceVersion fetches.plain,
      congrArg IntentAuditRow.recordedAt fetches.plain,
      congrArg IntentAuditRow.durationMs fetches.plain,
      congrArg IntentAuditRow.policyVersion fetches.plain,
      congrArg IntentAuditRow.kernelVersion fetches.plain,
      congrArg IntentAuditRow.auditHash fetches.plain,
      congrArg IntentAuditRow.prevAuditHash fetches.plain]
    rfl
  · apply slotProps_nodup
    change (keys (recordSlots record)).Nodup
    exact recordSlots_nodup record
  · intro name
    rw [← field_recordSlots record name]
    refine @field_slotProps (fun value read => Rearranged False (reload value) read) _ _ ?_
      (recordSlots_nodup record) ?_ ?_ name
    · rw [reload_undefined]
      exact .same _
    · change (keys (recordSlots record)).Nodup
      exact recordSlots_nodup record
    · refine .cons ⟨rfl, ?_⟩ <| .cons ⟨rfl, rearranged_optionalText (some _)⟩ <|
        .cons ⟨rfl, envelopeShape ▸ envelopeSame⟩ <| .cons ⟨rfl, decisionShape ▸ decisionSame⟩ <|
        .cons ⟨rfl, basisSame⟩ <| .cons ⟨rfl, rearranged_optionalText _⟩ <|
        .cons ⟨rfl, rearranged_optionalText (some _)⟩ <| .cons ⟨rfl, ?_⟩ <| .cons ⟨rfl, planSame⟩ <|
        .cons ⟨rfl, supersedesSame⟩ <| .cons ⟨rfl, identitySame⟩ <|
        .cons ⟨rfl, rearranged_optionalText _⟩ <| .cons ⟨rfl, rearranged_optionalText _⟩ <|
        .cons ⟨rfl, authoritySame⟩ <| .cons ⟨rfl, aggregateSame⟩ <|
        .cons ⟨rfl, rearranged_optionalText _⟩ <| .cons ⟨rfl, signatureSame⟩ <|
        .cons ⟨rfl, metadataSame⟩ <| .cons ⟨rfl, rearranged_optionalText _⟩ .nil
      · change Rearranged False (reload (.num record.version)) (.num 5)
        have finite : auditRecordVersion.isFinite = true := by decide +kernel
        have same : auditRecordVersion.unsigned = 5 := by decide +kernel
        rw [shaped.version, reload_num finite, same]
        exact .same _
      · change Rearranged False (reload (.num record.durationMs)) (.num record.durationMs.unsigned)
        rw [reload_num shaped.durationMs]
        exact .same _

end RoundTrip

section Verification

theorem rearranged_isJson {value wire : JsValue} (rearranged : Rearranged False value wire)
    (json : value.IsJson) : wire.IsJson := by
  induction rearranged with
  | same => exact json
  | @arr left right length _ ih =>
      rw [JsValue.IsJson, isJsonItems_iff] at json ⊢
      intro item inside
      obtain ⟨index, found⟩ := List.mem_iff_getElem?.mp inside
      have bound : index < left.length := by
        rw [length]
        exact (List.getElem?_eq_some_iff.mp found).1
      exact ih index left[index] item (List.getElem?_eq_getElem bound) found
        (json _ (List.getElem_mem bound))
  | @obj left right distinct _ members ih =>
      apply isJson_of_getOwn distinct
      intro name present
      have kept : ¬(False ∧ (JsValue.obj right).getOwn name = .undefined) := fun both => both.1
      exact ih name kept (getOwn_isJson json name ((members name kept).isUndefined.trans present))

/-- A member text of a rearranged object is the text. -/
theorem getOwn_rearranged {value wire : JsValue} {name text : JsString}
    (rearranged : Rearranged False value wire) (member : value.getOwn name = .str text) :
    wire.getOwn name = .str text := by
  have same := rearranged.getOwn name nofun
  rw [member] at same
  exact AdminSdk.rearranged_text same

/-- The seal does not see the order of the keys. -/
theorem sealed_rearranged {host : Host} {stored : JsString} {record read : Props JsValue}
    (whole : Sealed host stored record) (distinct : (keys read).Nodup)
    (same : ∀ name, Rearranged False (field record name) (field read name)) :
    Sealed host stored read := by
  have objects {name : JsString} {props : Props JsValue} (bound : name ∉ annotationFields)
      (present : field record name = .obj props) :
      ∃ members, field read name = .obj members ∧
        Rearranged False (.obj props) (.obj members) := by
    have rearranged := same name
    have json := whole.json name bound (by rw [present]; rfl)
    rw [present] at rearranged json
    obtain ⟨members, shape, -⟩ := rearranged.obj_members json.1
    exact ⟨members, shape, shape ▸ rearranged⟩
  refine ⟨distinct, ?_, ?_, ?_, ?_, ?_⟩
  · intro name bound present
    exact rearranged_isJson (same name)
      (whole.json name bound ((same name).isUndefined.trans present))
  · obtain ⟨envelope, intentHash, present, derived, hash⟩ := whole.envelope
    obtain ⟨members, shape, rearranged⟩ := objects (by decide) present
    obtain ⟨other, rederived, unchanged⟩ :=
      sha256Canonical_rearranged (AdminSdk.storedHashInput_rearranged rearranged) derived
    exact ⟨members, intentHash, shape, unchanged id ▸ rederived, getOwn_rearranged rearranged hash⟩
  · have rearranged := same "auditHash"
    rw [whole.auditHash] at rearranged
    exact AdminSdk.rearranged_text rearranged
  · have order : Rearranged False (.obj record) (.obj read) :=
      .obj distinct (.inr whole.distinct) fun name _ => same name
    obtain ⟨other, rehashed, unchanged⟩ := sha256Canonical_rearranged
      (AdminSdk.strip_rearranged whole.distinct distinct order) whole.hash
    exact unchanged id ▸ rehashed
  · obtain absent | ⟨signature, keyId, value, present, alg, key, bound, expected⟩ := whole.signature
    · left
      have rearranged := same "signature"
      rw [absent] at rearranged
      generalize field read "signature" = bound at rearranged
      cases rearranged
      rfl
    · right
      obtain ⟨members, shape, rearranged⟩ := objects (by decide) present
      exact ⟨members, keyId, value, shape, getOwn_rearranged rearranged alg,
        getOwn_rearranged rearranged key, getOwn_rearranged rearranged bound, expected⟩

variable {host : Host} {record : AuditRecord} {stored : JsString} {written fetched : IntentAuditRow}

/-- The row of a sealed record is read as a sealed record. -/
theorem rowToRecord_sealed (whole : Sealed host stored record.ownProps) (shaped : RowShaped record)
    (mapped : recordToRow record = .ok written) (fetches : RowFetched written fetched) :
    ∃ read, rowToRecord fetched = .ok read ∧
      (∀ name, Rearranged False (reload (field record.ownProps name)) (field read name)) ∧
      Sealed host stored read := by
  obtain ⟨read, returned, distinct, same⟩ := rowToRecord_fetched shaped mapped fetches
  -- The reader sees the reloaded record.
  obtain ⟨reloaded, shape⟩ : ∃ reloaded, reload (.obj record.ownProps) = .obj reloaded :=
    ⟨_, reload_obj whole.distinct⟩
  refine ⟨read, returned, same, sealed_rearranged (whole.reload shape) distinct fun name => ?_⟩
  have property : field reloaded name = reload (field record.ownProps name) := by
    rw [field, ← shape, getOwn_reload whole.distinct]
    rfl
  rw [property]
  exact same name

theorem rowShaped_built {clock : JsString} {input : BuildAuditInput} (json : input.IsJson)
    (metadata : ∀ metadata ∈ input.metadata, (keys metadata).Nodup)
    (recorded : buildAuditRecord host clock input = .ok record) : RowShaped record := by
  obtain ⟨plan, stored, signature, -, -, -, rfl⟩ := buildAuditRecord_eq_ok.mp recorded
  exact ⟨rfl, rfl, json.decision, json.durationMs, metadata⟩

/-- A stored record is read back as the record up to the order of its keys, and it verifies. -/
theorem storedRecord_readsBack (clock : JsString) {envelopeClock : JsString}
    {envelopeInput : BuildEnvelopeInput} {input : BuildAuditInput}
    (built : buildEnvelope host envelopeClock envelopeInput = .ok input.envelope)
    (json : input.IsJson) (metadata : ∀ metadata ∈ input.metadata, (keys metadata).Nodup)
    (signer : ∀ signer ∈ input.signer, ∃ keyId, signer = hashBindAuditSigner host keyId)
    (recorded : buildAuditRecord host clock input = .ok record)
    (mapped : recordToRow record = .ok written) (fetches : RowFetched written fetched) :
    ∃ read, rowToRecord fetched = .ok read ∧
      (∀ name, Rearranged False (reload (field record.ownProps name)) (field read name)) ∧
      ∀ verifySignature, verifyAuditRecord host verifySignature record.ownProps = .ok .verified ∧
        verifyAuditRecord host verifySignature read = .ok .verified := by
  obtain ⟨other, stored, again, whole⟩ := buildAuditRecord_sealed clock built json signer
  obtain rfl := Except.ok.inj (again.symm.trans recorded)
  obtain ⟨read, returned, same, resealed⟩ :=
    rowToRecord_sealed whole (rowShaped_built json metadata recorded) mapped fetches
  exact ⟨read, returned, same, fun verifySignature =>
    ⟨whole.verified verifySignature, resealed.verified verifySignature⟩⟩

/-- A driver may return the written text. -/
theorem columnFetched_text {value : JsValue} (present : value.isUndefined = false) :
    ColumnFetched (jsonText value) (jsonText value) :=
  .text (jsonParse_text present) (parse_stringify present) (.same _)

theorem columnsFetched_text {A : Type} {toJs : A → JsValue} {value : Option A}
    (present : ∀ inner, (toJs inner).isUndefined = false) :
    Option.Rel ColumnFetched (value.map fun inner => jsonText (toJs inner))
      (value.map fun inner => jsonText (toJs inner)) := by
  cases value with
  | none => exact .none
  | some inner => exact .some (columnFetched_text (present inner))

theorem rowFetched_text {record : AuditRecord} {written : IntentAuditRow}
    (mapped : recordToRow record = .ok written) :
    RowFetched written { written with durationMs := written.durationMs.unsigned } := by
  obtain ⟨month, -, returned⟩ := bind_eq_ok.mp mapped
  cases returned
  have decision : record.decision.toJs.isUndefined = false := by cases record.decision <;> rfl
  exact ⟨rfl, columnFetched_text rfl, columnFetched_text decision, columnsFetched_text fun _ => rfl,
    columnsFetched_text fun _ => rfl, columnsFetched_text fun _ => rfl,
    columnsFetched_text fun _ => rfl, columnsFetched_text fun _ => rfl,
    columnsFetched_text fun _ => rfl, columnsFetched_text fun _ => rfl⟩

/-- The sample records were all made in one millisecond. -/
def auditedInstant : JsString := "2026-01-01T00:00:00.005Z"

theorem recordToRow_audited {envelope : IntentEnvelope}
    (recorded : buildAuditRecord host [] (auditedInput envelope none) = .ok record) :
    ∃ written, recordToRow record = .ok written ∧ written.recordedAt = auditedInstant ∧
      written.intentHash = envelope.intentHash := by
  obtain ⟨plan, stored, signature, -, -, -, rfl⟩ := buildAuditRecord_eq_ok.mp recorded
  have month : partitionMonthOf auditedInstant = .ok "2026-01" := by decide +kernel
  rw [recordToRow]
  change ∃ written, (partitionMonthOf auditedInstant >>= _) = .ok written ∧ _
  rw [month]
  exact ⟨_, rfl, rfl, rfl⟩

/-- The record of the sample payment is read back from the texts of its row. -/
theorem storedRecord_readsBack_payment :
    ∃ record written read, buildAuditRecord replayHost [] (auditedInput paymentEnvelope none) = .ok record ∧
      recordToRow record = .ok written ∧
      rowToRecord { written with durationMs := written.durationMs.unsigned } = .ok read ∧
      ∀ verifySignature, verifyAuditRecord replayHost verifySignature record.ownProps = .ok .verified ∧
        verifyAuditRecord replayHost verifySignature read = .ok .verified := by
  have json := auditedInput_isJson .llm auditedIntentHash none
  obtain ⟨record, -, recorded, -⟩ := buildAuditRecord_sealed [] paymentEnvelope_built json nofun
  obtain ⟨written, mapped, -⟩ := recordToRow_audited recorded
  obtain ⟨read, returned, -, verified⟩ := storedRecord_readsBack [] paymentEnvelope_built json nofun
    nofun recorded mapped (rowFetched_text mapped)
  exact ⟨record, written, read, recorded, mapped, returned, verified⟩

end Verification

end Adjudicate.AuditPostgres
