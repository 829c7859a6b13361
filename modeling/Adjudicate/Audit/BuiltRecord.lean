/-
This file proves that built records are sealed and stay verifiable.
-/

import Adjudicate.Audit.Integrity

namespace Adjudicate.Audit

open Js Canonical Adjudicate.Core

/-- These are the hashed field names in the order of the builder. -/
def baseFields : List JsString :=
  ["version", "intentHash", "envelope", "decision", "decision_basis", "resourceVersion", "at",
    "durationMs", "plan", "supersedes", "kernelIdentity", "policyVersion", "kernelVersion",
    "authoritySnapshot", "aggregateSnapshot"]

/-- These are the fields that can be replaced without touching the envelope or the hash. -/
def boundFields : List JsString :=
  ["at", "durationMs", "decision", "decision_basis", "plan", "supersedes", "policyVersion",
    "kernelVersion", "resourceVersion", "authoritySnapshot", "aggregateSnapshot"]

def AuditRecord.ownProps (record : AuditRecord) : Props JsValue := record.toJs.ownProps

theorem keys_optionalProp (name : JsString) (value : Option JsValue) :
    List.Sublist (keys (optionalProp name value)) [name] := by
  cases value with
  | none => exact List.nil_sublist _
  | some value => exact List.Sublist.refl _

theorem lookup_optionalProp (name : JsString) (value : Option JsValue) (key : JsString) :
    (optionalProp name value).lookup key = if key = name then value else none := by
  cases value with
  | none => rw [optionalProp, List.lookup_nil, ite_self]
  | some value => rw [optionalProp, lookup_cons_if, List.lookup_nil]

theorem forall_mem_optionalProp {P : JsString × JsValue → Prop} (name : JsString)
    (value : Option JsValue) :
    (∀ property ∈ optionalProp name value, P property) ↔ ∀ some ∈ value, P (name, some) := by
  cases value <;> simp [optionalProp]

theorem keys_append (left right : Props JsValue) : keys (left ++ right) = keys left ++ keys right :=
  List.map_append

theorem baseRecord_keys (record : BaseRecord) : List.Sublist (keys record.props) baseFields := by
  have fields : baseFields =
      [utf16 "version", "intentHash", "envelope", "decision", "decision_basis"] ++
        [utf16 "resourceVersion"] ++ [utf16 "at", "durationMs"] ++ [utf16 "plan"] ++
        [utf16 "supersedes"] ++ [utf16 "kernelIdentity"] ++ [utf16 "policyVersion"] ++
        [utf16 "kernelVersion"] ++ [utf16 "authoritySnapshot"] ++
        [utf16 "aggregateSnapshot"] := rfl
  rw [fields, BaseRecord.props]
  simp only [keys_append]
  repeat' apply List.Sublist.append
  all_goals first | exact keys_optionalProp _ _ | exact List.Sublist.refl _

theorem auditRecord_ownProps (record : AuditRecord) :
    record.ownProps = record.props ++
      (optionalProp "metadata" (record.metadata.map .obj) ++
        optionalProp "auditHash" (record.auditHash.map .str) ++
        optionalProp "signature" (record.signature.map AuditSignature.toJs) ++
        optionalProp "prevAuditHash" (record.prevAuditHash.map .str)) := by
  simp [AuditRecord.ownProps, AuditRecord.toJs, JsValue.ownProps]

theorem auditRecord_nodup (record : AuditRecord) : (keys record.ownProps).Nodup := by
  have fields : (baseFields ++ ([utf16 "metadata"] ++ [utf16 "auditHash"] ++ [utf16 "signature"] ++
      [utf16 "prevAuditHash"])).Nodup := by decide
  rw [auditRecord_ownProps]
  refine List.Nodup.sublist ?_ fields
  simp only [keys_append]
  apply (baseRecord_keys _).append
  repeat' apply List.Sublist.append
  all_goals exact keys_optionalProp _ _

theorem baseRecord_nodup (record : BaseRecord) : (keys record.props).Nodup :=
  List.Nodup.sublist (baseRecord_keys record) (by decide)

/-- The hash covers none of the stripped fields. -/
theorem lookup_base_of_stripped (record : BaseRecord) {name : JsString}
    (stripped : name ∈ strippedFields) : record.props.lookup name = none := by
  have disjoint : ∀ name ∈ strippedFields, name ∉ baseFields := by decide
  rw [lookup_eq_none]
  intro inside
  exact disjoint name stripped ((baseRecord_keys record).subset inside)

theorem field_auditRecord (record : AuditRecord) {name : JsString}
    (kept : name ∉ strippedFields) : field record.ownProps name = field record.props name := by
  simp only [strippedFields, List.mem_cons, List.not_mem_nil, or_false, not_or] at kept
  rw [field, JsValue.getOwn, auditRecord_ownProps, List.lookup_append]
  simp [lookup_optionalProp, kept, List.lookup_append, field, JsValue.getOwn]

/-- A stripped field comes from the properties after the hashed ones. -/
theorem field_of_stripped (record : AuditRecord) {name : JsString}
    (stripped : name ∈ strippedFields) :
    field record.ownProps name =
      (((if name = utf16 "metadata" then record.metadata.map JsValue.obj else none).or
        ((if name = utf16 "auditHash" then record.auditHash.map .str else none).or
          ((if name = utf16 "signature" then record.signature.map AuditSignature.toJs else none).or
            (if name = utf16 "prevAuditHash" then record.prevAuditHash.map .str
              else none))))).getD .undefined := by
  rw [field, JsValue.getOwn, auditRecord_ownProps, List.lookup_append,
    lookup_base_of_stripped _ stripped]
  simp only [List.lookup_append, lookup_optionalProp, Option.none_or, Option.or_assoc]

theorem field_auditHash (record : AuditRecord) :
    field record.ownProps "auditHash" = (record.auditHash.map .str).getD .undefined := by
  rw [field_of_stripped record (by decide)]
  simp

theorem field_signature (record : AuditRecord) :
    field record.ownProps "signature" =
      (record.signature.map AuditSignature.toJs).getD .undefined := by
  rw [field_of_stripped record (by decide)]
  simp

theorem field_metadata (record : AuditRecord) :
    field record.ownProps "metadata" = (record.metadata.map .obj).getD .undefined := by
  rw [field_of_stripped record (by decide)]
  simp

/-- The annotation of a record in the program has the fields of the annotated object. -/
theorem field_attachMetadata (record : AuditRecord) (metadata : Props JsValue) (name : JsString) :
    field (record.attachMetadata metadata).ownProps name =
      field (attachAuditMetadata record.ownProps metadata) name := by
  rw [field_attachAuditMetadata (auditRecord_nodup record), field_metadata]
  by_cases stripped : name ∈ strippedFields
  · rw [field_of_stripped _ stripped]
    split
    · next same =>
        subst same
        cases present : record.metadata <;>
          simp [AuditRecord.attachMetadata, present, JsValue.ownProps]
    · next different =>
        rw [field_of_stripped record stripped, if_neg different]
        rfl
  · have different : name ≠ utf16 "metadata" := by
      rintro rfl
      exact stripped (by decide)
    rw [if_neg different, field_auditRecord _ stripped, field_auditRecord record stripped]
    rfl

/-- These are the JSON-representable values of a record. -/
structure BaseRecord.IsJson (record : BaseRecord) : Prop where
  version : record.version.isFinite = true
  envelope : record.envelope.toJs.IsJson
  decision : record.decision.toJs.IsJson
  decisionBasis : (JsValue.arr (record.decisionBasis.map DecisionBasis.toJs)).IsJson
  durationMs : record.durationMs.isFinite = true
  authoritySnapshot : ∀ recorded ∈ record.authoritySnapshot, recorded.graph.IsJson
  aggregateSnapshot : ∀ recorded ∈ record.aggregateSnapshot, recorded.snapshot.IsJson

theorem texts_isJson (texts : List JsString) : (JsValue.arr (texts.map .str)).IsJson := by
  rw [JsValue.IsJson, isJsonItems_iff]
  intro item inside
  obtain ⟨text, -, rfl⟩ := List.mem_map.mp inside
  trivial

theorem planSnapshot_isJson (plan : PlanSnapshot) : plan.toJs.IsJson := by
  simp only [PlanSnapshot.toJs, JsValue.IsJson, IsJsonProps]
  exact ⟨by simp [keys], fun _ => texts_isJson _, fun _ => texts_isJson _, trivial⟩

theorem auditPlanSnapshot_isJson (plan : AuditPlanSnapshot) : plan.toJs.IsJson := by
  simp only [AuditPlanSnapshot.toJs, JsValue.IsJson, IsJsonProps]
  exact ⟨by simp [keys], fun _ => texts_isJson _, fun _ => texts_isJson _, fun _ => trivial,
    trivial⟩

theorem supersession_isJson (supersession : Supersession) : supersession.toJs.IsJson := by
  obtain ⟨predecessorIntentHash, predecessorAt, reason, token, binding⟩ := supersession
  have bindingJson (binding : SupersessionBinding) : binding.toJs.IsJson := by
    obtain ⟨capability, approver, channel⟩ := binding
    cases capability <;> cases approver <;> cases channel <;>
      simp [SupersessionBinding.toJs, optionalProp, JsValue.IsJson, keys]
  cases token <;> cases binding <;>
    simp [Supersession.toJs, optionalProp, JsValue.IsJson, keys, bindingJson]

theorem snapshot_isJson (name : JsString) {value : JsValue} (snapshotHash : JsString)
    (different : name ≠ utf16 "snapshotHash") (json : value.IsJson) :
    (JsValue.obj [(name, value), ("snapshotHash", .str snapshotHash)]).IsJson := by
  simp only [JsValue.IsJson, IsJsonProps]
  exact ⟨by simpa [keys] using different, fun _ => json, fun _ => trivial, trivial⟩

/-- The hashed part of a record of JSON values is a JSON value. -/
theorem baseRecord_isJson {record : BaseRecord} (json : record.IsJson) :
    (JsValue.obj record.props).IsJson := by
  rw [JsValue.IsJson, isJsonProps_iff]
  refine ⟨baseRecord_nodup record, ?_⟩
  simp only [BaseRecord.props, List.forall_mem_append, List.forall_mem_cons,
    forall_mem_optionalProp, Option.mem_map, forall_exists_index, and_imp,
    forall_apply_eq_imp_iff₂, List.not_mem_nil, false_implies, implies_true, and_true, and_assoc]
  refine ⟨fun _ => json.version, fun _ => trivial, fun _ => json.envelope, fun _ => json.decision,
    fun _ => json.decisionBasis, fun _ _ _ => trivial, fun _ => trivial, fun _ => json.durationMs,
    fun plan _ _ => auditPlanSnapshot_isJson plan, fun link _ _ => supersession_isJson link,
    ?_, fun _ _ _ => trivial, fun _ _ _ => trivial, ?_, ?_⟩
  · intro identity _ _
    simp [KernelIdentity.toJs, JsValue.IsJson, keys]
  · intro recorded present _
    exact snapshot_isJson "graph" _ (by decide) (json.authoritySnapshot recorded present)
  · intro recorded present _
    exact snapshot_isJson "snapshot" _ (by decide) (json.aggregateSnapshot recorded present)

/-- The verifier reads the hash input of the kernel from a stored envelope. -/
theorem storedHashInput_toJs (envelope : IntentEnvelope) :
    storedHashInput envelope.toJs = intentHashInput envelope.toHashedFields := by
  cases refs : envelope.resourceRefs with
  | none =>
      simp only [storedHashInput, intentHashInput, IntentEnvelope.toJs, refs, optionalProp,
        JsValue.getOwn, Option.map_none, List.append_nil, lookup_cons_if, utf16_inj]
      simp
  | some resourceRefs =>
      simp only [storedHashInput, intentHashInput, IntentEnvelope.toJs, refs, optionalProp,
        JsValue.getOwn, Option.map_some, List.cons_append, List.nil_append, lookup_cons_if,
        utf16_inj]
      simp

/-- A record is sealed when its hash, its envelope hash and its signature are in place. -/
theorem auditRecord_sealed {host : Host} {record : AuditRecord} {stored : JsString}
    (json : record.toBaseRecord.IsJson) (auditHash : record.auditHash = some stored)
    (hash : sha256Canonical host (.obj record.props) = .ok stored)
    (envelope : deriveIntentHash host record.envelope = .ok record.envelope.intentHash)
    (signature : ∀ signature ∈ record.signature, signature.alg = auditHashbindAlg ∧
      hashBindValue host (.str stored) (.str signature.keyId) = .ok signature.value) :
    Sealed host stored record.ownProps := by
  have distinct := auditRecord_nodup record
  have baseJson := baseRecord_isJson json
  have auditField : field record.ownProps "auditHash" = .str stored := by
    rw [field_auditHash, auditHash]
    rfl
  have whole (name : JsString) (bound : name ∉ annotationFields)
      (present : (field record.ownProps name).isUndefined = false) :
      (field record.ownProps name).IsJson := by
    by_cases stripped : name ∈ strippedFields
    · have cases : name = utf16 "auditHash" ∨ name = utf16 "signature" := by
        obtain first | rest := List.mem_cons.mp stripped
        · exact .inl first
        · exact .inr ((List.mem_cons.mp rest).resolve_right bound)
      obtain rfl | rfl := cases
      · rw [auditField]
        trivial
      · rw [field_signature] at present ⊢
        cases found : record.signature with
        | none => rw [found] at present; cases present
        | some signature => simp [AuditSignature.toJs, JsValue.IsJson, keys]
    · rw [field_auditRecord record stripped] at present ⊢
      exact getOwn_isJson baseJson name present
  refine ⟨distinct, whole, ?_, auditField, ?_, ?_⟩
  · refine ⟨record.envelope.toJs.ownProps, record.envelope.intentHash, ?_, ?_, ?_⟩
    · rw [field_auditRecord record (by decide)]
      rfl
    · rw [← envelope, deriveIntentHash, ← storedHashInput_toJs]
      rfl
    · rfl
  · rw [← hash, sha256Canonical_eq host (strip_isJson distinct whole),
      sha256Canonical_eq host baseJson,
      (canonicalTree_obj_iff host (strip_nodup distinct) (baseRecord_nodup _)).mpr]
    intro name _
    change encodingOf host (field (strip record.ownProps) name) =
      encodingOf host (field record.props name)
    rw [getOwn_strip distinct]
    split
    · next stripped =>
        rw [field, JsValue.getOwn, lookup_base_of_stripped _ stripped]
        rfl
    · next kept => rw [field_auditRecord record kept]
  · rw [field_signature]
    cases present : record.signature with
    | none => exact .inl rfl
    | some bound =>
        obtain ⟨alg, value⟩ := signature bound present
        refine .inr ⟨_, bound.keyId, bound.value, rfl, ?_, rfl, rfl, value⟩
        rw [← alg]
        rfl

theorem envelope_isJson {envelope : IntentEnvelope} (version : envelope.version.isFinite = true)
    (payload : envelope.payload.IsJson) : envelope.toJs.IsJson := by
  cases refs : envelope.resourceRefs with
  | none =>
      simp [IntentEnvelope.toJs, refs, optionalProp, JsValue.IsJson, keys, version, payload,
        actor_isJson]
  | some resourceRefs =>
      simp [IntentEnvelope.toJs, refs, optionalProp, JsValue.IsJson, keys, version, payload,
        actor_isJson, resourceRefs_isJson]

theorem decisionBasis_isJson {decision : Decision} (json : decision.toJs.IsJson) :
    (JsValue.arr (decision.basis.map DecisionBasis.toJs)).IsJson := by
  cases decision <;> exact getOwn_isJson json "basis" rfl

/-- These are the JSON-representable values of the builder's input. -/
structure BuildAuditInput.IsJson (input : BuildAuditInput) : Prop where
  payload : input.envelope.payload.IsJson
  decision : input.decision.toJs.IsJson
  durationMs : input.durationMs.isFinite = true
  authoritySnapshot : ∀ recorded ∈ input.authoritySnapshot, recorded.graph.IsJson
  aggregateSnapshot : ∀ recorded ∈ input.aggregateSnapshot, recorded.snapshot.IsJson

/-- The plan always has a fingerprint. -/
theorem fingerprintedPlan_ok (host : Host) (plan : Option PlanSnapshot) :
    ∃ fingerprinted, plan.mapM (fingerprintedPlan host) = .ok fingerprinted := by
  cases plan with
  | none => exact ⟨none, rfl⟩
  | some plan =>
      obtain ⟨planFingerprint, hash⟩ : ∃ hash, planFingerprintOf host plan = .ok hash :=
        ⟨_, sha256Canonical_eq host (planSnapshot_isJson plan)⟩
      refine ⟨some { plan with planFingerprint }, ?_⟩
      rw [Option.mapM_some, fingerprintedPlan, hash]
      rfl

/-- The hash-bind signer always signs, and its value verifies. -/
theorem bindAuditSignature_ok (host : Host) (auditHash keyId : JsString) :
    ∃ value, hashBindValue host (.str auditHash) (.str keyId) = .ok value ∧
      bindAuditSignature host auditHash keyId =
        .ok { keyId := keyId, alg := auditHashbindAlg, value := value } := by
  have body : (JsValue.obj [("auditHash", .str auditHash), ("keyId", .str keyId)]).IsJson := by
    simp [JsValue.IsJson, keys]
  have hashed (text : JsString) : ∃ hash, sha256Canonical host (.str text) = .ok hash :=
    ⟨_, sha256Canonical_eq host (show (JsValue.str text).IsJson from trivial)⟩
  obtain ⟨value, expected⟩ : ∃ value,
      hashBindValue host (.str auditHash) (.str keyId) = .ok value := by
    rw [hashBindValue, auditSignaturePreimage, sha256Canonical_eq host body]
    exact hashed _
  refine ⟨value, expected, ?_⟩
  rw [bindAuditSignature, expected]
  rfl

/-- A supplied hash-bind signer gives a signature that verifies. -/
theorem signed_ok (host : Host) (auditHash : JsString) {supplied : Option AuditSigner}
    (hashBind : ∀ signer ∈ supplied, ∃ keyId, signer = hashBindAuditSigner host keyId) :
    ∃ signature : Option AuditSignature,
      (supplied.mapM fun signer => signer.sign auditHash) = .ok signature ∧
        ∀ bound ∈ signature, bound.alg = auditHashbindAlg ∧
          hashBindValue host (.str auditHash) (.str bound.keyId) = .ok bound.value := by
  cases supplied with
  | none => exact ⟨none, rfl, nofun⟩
  | some signer =>
      obtain ⟨keyId, rfl⟩ := hashBind signer rfl
      obtain ⟨value, expected, signature⟩ := bindAuditSignature_ok host auditHash keyId
      refine ⟨some { keyId := keyId, alg := auditHashbindAlg, value := value }, ?_, ?_⟩
      · rw [Option.mapM_some]
        change some <$> bindAuditSignature host auditHash keyId = _
        rw [signature]
        rfl
      · rintro _ ⟨⟩
        exact ⟨rfl, expected⟩

theorem baseRecord_ofInput_isJson {host : Host} {envelopeClock : JsString}
    {envelopeInput : BuildEnvelopeInput} {input : BuildAuditInput}
    (built : buildEnvelope host envelopeClock envelopeInput = .ok input.envelope)
    (json : input.IsJson) (clock : JsString) (plan : Option AuditPlanSnapshot) :
    (input.baseRecord clock plan).IsJson := by
  have version : input.envelope.version.isFinite = true := by
    rw [(buildEnvelope_eq_ok.mp built).1]
    exact version_isFinite
  have recordVersion : auditRecordVersion.isFinite = true := by decide +kernel
  exact
    { version := recordVersion
      envelope := envelope_isJson version json.payload
      decision := json.decision
      decisionBasis := decisionBasis_isJson json.decision
      durationMs := json.durationMs
      authoritySnapshot := json.authoritySnapshot
      aggregateSnapshot := json.aggregateSnapshot }

/-- The builder seals every record of JSON values whose envelope was built. -/
theorem buildAuditRecord_sealed {host : Host} (clock : JsString) {envelopeClock : JsString}
    {envelopeInput : BuildEnvelopeInput} {input : BuildAuditInput}
    (built : buildEnvelope host envelopeClock envelopeInput = .ok input.envelope)
    (json : input.IsJson)
    (signer : ∀ signer ∈ input.signer, ∃ keyId, signer = hashBindAuditSigner host keyId) :
    ∃ record stored, buildAuditRecord host clock input = .ok record ∧
      Sealed host stored record.ownProps := by
  obtain ⟨plan, fingerprinted⟩ := fingerprintedPlan_ok host input.plan
  have baseJson := baseRecord_ofInput_isJson built json clock plan
  obtain ⟨stored, hash⟩ : ∃ stored,
      sha256Canonical host (.obj (input.baseRecord clock plan).props) = .ok stored :=
    ⟨_, sha256Canonical_eq host (baseRecord_isJson baseJson)⟩
  obtain ⟨signature, signed, verifies⟩ := signed_ok host stored signer
  let record : AuditRecord :=
    { input.baseRecord clock plan with
      metadata := input.metadata
      auditHash := some stored
      signature
      prevAuditHash := input.prevAuditHash }
  refine ⟨record, stored, ?_, ?_⟩
  · exact buildAuditRecord_eq_ok.mpr ⟨plan, stored, signature, fingerprinted, hash, signed, rfl⟩
  · exact @auditRecord_sealed host record stored baseJson rfl hash
      (deriveIntentHash_of_buildEnvelope built) verifies

/-- A built record verifies after any annotations, chain links and reloads, and without hash
collisions every other value of a bound field shows. -/
theorem builtRecord_staysVerifiable {host : Host} (clock : JsString) {envelopeClock : JsString}
    {envelopeInput : BuildEnvelopeInput} {input : BuildAuditInput}
    (built : buildEnvelope host envelopeClock envelopeInput = .ok input.envelope)
    (json : input.IsJson)
    (signer : ∀ signer ∈ input.signer, ∃ keyId, signer = hashBindAuditSigner host keyId) :
    ∃ record, buildAuditRecord host clock input = .ok record ∧
      ∀ current, Persisted record.ownProps current → ∀ verifySignature,
        verifyAuditRecord host verifySignature current = .ok .verified ∧
          (host.CollisionFree → ∀ name ∈ boundFields, ∀ value : JsValue,
            (value.isUndefined = false → value.IsJson) →
            encodingOf host value ≠ encodingOf host (field current name) →
            ∃ derived stored, verifyAuditRecord host verifySignature (setOwn current name value) =
              .ok (.tampered derived stored)) := by
  obtain ⟨record, stored, recorded, whole⟩ := buildAuditRecord_sealed clock built json signer
  refine ⟨record, recorded, ?_⟩
  intro current persisted verifySignature
  have currentSealed := whole.persisted persisted
  refine ⟨currentSealed.verified verifySignature, ?_⟩
  intro free name bound value valueJson changed
  have free' : ∀ name ∈ boundFields, name ∉ strippedFields ∧ name ≠ utf16 "envelope" ∧
      name ≠ protoKey := by decide
  obtain ⟨kept, notEnvelope, notProto⟩ := free' name bound
  obtain ⟨derived, tampered⟩ := currentSealed.tampered free verifySignature kept notEnvelope
    notProto valueJson changed
  exact ⟨derived, _, tampered⟩

def auditedEnvelope (origin : Origin) (intentHash : JsString) : IntentEnvelope where
  toHashedFields := { (samplePayment 1).hashedFields with origin }
  createdAt := "2026-01-01T00:00:00.000Z"
  intentHash := intentHash

def auditedInput (envelope : IntentEnvelope) (signer : Option AuditSigner) : BuildAuditInput where
  envelope := envelope
  decision := .execute []
  durationMs := 5
  resourceVersion := none
  «at» := some "2026-01-01T00:00:00.005Z"
  plan := none
  supersedes := none
  policyVersion := none
  kernelVersion := none
  kernelIdentity := none
  authoritySnapshot := none
  aggregateSnapshot := none
  metadata := none
  prevAuditHash := none
  signer := signer

/-- This is the canonical text of the record over the sample payment. -/
def auditedRecordText (origin intentHash : JsString) : JsString :=
  utf16 "\x7b\"at\":\"2026-01-01T00:00:00.005Z\",\"decision\":\x7b\"basis\":[],\"kind\":" ++
    utf16 "\"EXECUTE\"\x7d,\"decision_basis\":[],\"durationMs\":5,\"envelope\":\x7b\"actor\":" ++
    utf16 "\x7b\"principal\":\"llm\",\"sessionId\":\"s-1\"\x7d,\"createdAt\":" ++
    utf16 "\"2026-01-01T00:00:00.000Z\",\"intentHash\":\"" ++ intentHash ++
    utf16 "\",\"kind\":\"payment.send\",\"nonce\":\"n-1\",\"origin\":\"" ++ origin ++
    utf16 "\",\"payload\":\x7b\"amount\":1\x7d,\"taint\":\"UNTRUSTED\",\"version\":2\x7d," ++
    utf16 "\"intentHash\":\"" ++ intentHash ++ utf16 "\",\"version\":5\x7d"

def auditedIntentHash : JsString :=
  "1daba7c0306f6af2025d02a343346fb68d1df58b818fa16e1f9c1961b3edd90d"

def auditedHash : JsString := "eec3d95fe10346f67cb1b0a7007a8202687500c6d76dd7785dce65006810d19e"

/-- The digests of the sample envelope, its record and the signature over it are their SHA-256
digests. -/
def auditHost : Host := .ofDigests
  [(samplePaymentText "1", auditedIntentHash),
    (auditedRecordText "LLM" auditedIntentHash, auditedHash),
    (utf16 "\x7b\"auditHash\":\"" ++ auditedHash ++ utf16 "\",\"keyId\":\"k-1\"\x7d",
      "f00df6620212f41a832960d50ca4239b0a6db837a25b3e0c74f65099efb8a341"),
    (utf16 "\"adjudicate-audit-signature-v1\\nf00df6620212f41a832960d50ca4239b0a6db837a25b3e0c7" ++
        utf16 "4f65099efb8a341\"",
      "f4abfab93d2b92f46bb5df6ff2f87c4736bdebe8e070091e95d1d5240fdb070b")]

theorem auditedInput_isJson (origin : Origin) (intentHash : JsString)
    (signer : Option AuditSigner) : (auditedInput (auditedEnvelope origin intentHash) signer).IsJson := by
  have finite : (JsNumber.isFinite 1 && JsNumber.isFinite 5) = true := by decide +kernel
  rw [Bool.and_eq_true] at finite
  exact
    { payload := by
        simp only [auditedInput, auditedEnvelope, samplePayment, BuildEnvelopeInput.hashedFields,
          JsValue.IsJson, IsJsonProps]
        exact ⟨by decide, fun _ => finite.1, trivial⟩
      decision := by simp [auditedInput, Decision.toJs, JsValue.IsJson, keys]
      durationMs := finite.2
      authoritySnapshot := nofun
      aggregateSnapshot := nofun }

/-- The signed record of the sample payment stays verifiable. -/
theorem builtRecord_staysVerifiable_auditedInput :
    ∃ record, buildAuditRecord auditHost []
        (auditedInput (auditedEnvelope .llm auditedIntentHash)
          (some (hashBindAuditSigner auditHost "k-1"))) = .ok record ∧
      ∀ current, Persisted record.ownProps current → ∀ verifySignature,
        verifyAuditRecord auditHost verifySignature current = .ok .verified ∧
          (auditHost.CollisionFree → ∀ name ∈ boundFields, ∀ value : JsValue,
            (value.isUndefined = false → value.IsJson) →
            encodingOf auditHost value ≠ encodingOf auditHost (field current name) →
            ∃ derived stored,
              verifyAuditRecord auditHost verifySignature (setOwn current name value) =
                .ok (.tampered derived stored)) := by
  have hash : sha256Canonical auditHost (intentHashInput (samplePayment 1).hashedFields) =
      .ok auditedIntentHash := by decide +kernel
  have built : buildEnvelope auditHost "2026-01-01T00:00:00.000Z" (samplePayment 1) =
      .ok (auditedEnvelope .llm auditedIntentHash) := buildEnvelope_eq_ok.mpr ⟨rfl, rfl, hash⟩
  refine builtRecord_staysVerifiable [] built (auditedInput_isJson _ _ _) ?_
  rintro _ ⟨⟩
  exact ⟨"k-1", rfl⟩

end Adjudicate.Audit
