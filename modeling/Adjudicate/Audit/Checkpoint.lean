/-
This file models signed checkpoints and proves what a checkpoint says about a record segment.
-/

import Adjudicate.Audit.ChainDetection

namespace Adjudicate.Audit

open Js Canonical Chain Adjudicate.Core

/-- This is `AUDIT_CHECKPOINT_PREIMAGE_VERSION`. -/
def auditCheckpointPreimageVersion : JsString := "adjudicate-audit-checkpoint-v1"

/-- An absent tip is `null`. -/
structure AuditCheckpoint where
  sequence : JsNumber
  tipAuditHash : Option JsString
  count : Nat
  signature : AuditSignature

def checkpointBody (sequence : JsNumber) (tipAuditHash : Option JsString) (count : Nat) : JsValue :=
  .obj [("sequence", .num sequence), ("tipAuditHash", (tipAuditHash.map JsValue.str).getD .null),
    ("count", .num (JsNumber.ofNat count))]

def auditCheckpointPreimage (host : Host) (sequence : JsNumber) (tipAuditHash : Option JsString)
    (count : Nat) : Except Thrown JsString := do
  let bodyHash ← sha256Canonical host (checkpointBody sequence tipAuditHash count)
  return auditCheckpointPreimageVersion ++ utf16 "\n" ++ bodyHash

/-- The tip of a segment that ends with a record without a hash is `null` too. -/
def chainTipOf (records : List AuditRecord) : Option JsString × Nat :=
  (records.getLast?.bind (·.auditHash), records.length)

def emitAuditCheckpoint (host : Host) (records : List AuditRecord) (signer : AuditSigner)
    (sequence : JsNumber) : Except Thrown AuditCheckpoint := do
  let (tipAuditHash, count) := chainTipOf records
  let preimage ← auditCheckpointPreimage host sequence tipAuditHash count
  let signature ← signer.sign preimage
  return { sequence, tipAuditHash, count, signature }

inductive AuditCheckpointVerification where
  | valid
  | tipMismatch (expected actual : Option JsString)
  | countMismatch (expected actual : Nat)
  | invalidSignature
deriving DecidableEq

/-- A signature that cannot be checked here passes without a supplied verifier. -/
def checkpointSignatureValid (host : Host)
    (verifySignature : Option (JsString → AuditSignature → Except Thrown Bool))
    (signedPreimage : JsString) (sig : AuditSignature) : Except Thrown Bool := do
  if sig.alg = auditHashbindAlg then
    let expected ← hashBindValue host (.str signedPreimage) (.str sig.keyId)
    return timingSafeHexEqual (.str sig.value) (.str expected)
  else
    match verifySignature with
    | some verify => verify signedPreimage sig
    | none => return true

def tipMatches : Option JsString → Option JsString → Bool
  | some actual, some expected => timingSafeHexEqual (.str actual) (.str expected)
  | none, none => true
  | _, _ => false

def verifyAuditCheckpoint (host : Host)
    (verifySignature : Option (JsString → AuditSignature → Except Thrown Bool))
    (records : List AuditRecord) (checkpoint : AuditCheckpoint) :
    Except Thrown AuditCheckpointVerification := do
  let signedPreimage ← auditCheckpointPreimage host checkpoint.sequence checkpoint.tipAuditHash
    checkpoint.count
  if !(← checkpointSignatureValid host verifySignature signedPreimage checkpoint.signature) then
    return .invalidSignature
  let (tipAuditHash, count) := chainTipOf records
  if count ≠ checkpoint.count then return .countMismatch checkpoint.count count
  if !tipMatches tipAuditHash checkpoint.tipAuditHash then
    return .tipMismatch checkpoint.tipAuditHash tipAuditHash
  return .valid

theorem tipMatches_iff (actual expected : Option JsString) :
    tipMatches actual expected = true ↔ actual = expected := by
  cases actual with
  | none => cases expected <;> simp [tipMatches]
  | some actual =>
      cases expected with
      | none => simp [tipMatches]
      | some expected => simp [tipMatches, timingSafeHexEqual_iff]

/-- An accepted segment has the signed tip and the signed count. -/
theorem verifyAuditCheckpoint_eq_valid {host : Host}
    {verifySignature : Option (JsString → AuditSignature → Except Thrown Bool)}
    {records : List AuditRecord} {checkpoint : AuditCheckpoint} :
    verifyAuditCheckpoint host verifySignature records checkpoint = .ok .valid ↔
      (∃ signedPreimage, auditCheckpointPreimage host checkpoint.sequence checkpoint.tipAuditHash
          checkpoint.count = .ok signedPreimage ∧
        checkpointSignatureValid host verifySignature signedPreimage checkpoint.signature =
          .ok true) ∧
      chainTipOf records = (checkpoint.tipAuditHash, checkpoint.count) := by
  rw [verifyAuditCheckpoint]
  constructor
  · intro accepted
    obtain ⟨signedPreimage, derived, continued⟩ := bind_eq_ok.mp accepted
    obtain ⟨authentic, checked, compared⟩ := bind_eq_ok.mp continued
    cases authentic with
    | false => cases compared
    | true =>
        refine ⟨⟨signedPreimage, derived, checked⟩, ?_⟩
        simp only [Bool.not_true, Bool.false_eq_true, if_false] at compared
        split at compared
        · cases compared
        · next sameCount =>
            split at compared
            · cases compared
            · next sameTip =>
                rw [Bool.not_eq_true, Bool.not_eq_false', tipMatches_iff] at sameTip
                exact Prod.ext sameTip (not_not.mp sameCount)
  · rintro ⟨⟨signedPreimage, derived, checked⟩, tip⟩
    have same : tipMatches checkpoint.tipAuditHash checkpoint.tipAuditHash = true :=
      (tipMatches_iff _ _).mpr rfl
    rw [derived, ok_bind, checked, ok_bind, tip]
    simp [same]
    rfl

/-- A record that adds no failure was verified or has no hash. -/
theorem replayRecord_clean {host : Host} {adjudicator : Adjudicator} {state next : ReplayState}
    {record : AuditRecord} (step : replayRecord host adjudicator state record = .ok next)
    (clean : next.integrityFailures = []) :
    state.integrityFailures = [] ∧ ∀ stored, record.auditHash = some stored →
      sha256Canonical host (.obj (strip record.ownProps)) = .ok stored := by
  rw [replayRecord] at step
  obtain ⟨derived, hash, continued⟩ := bind_eq_ok.mp step
  obtain ⟨verdict, verdictOf, returned⟩ := bind_eq_ok.mp continued
  cases returned
  simp only [List.append_eq_nil_iff] at clean
  obtain ⟨⟨⟨before, intent⟩, verification⟩, -⟩ := clean
  refine ⟨before, ?_⟩
  intro stored present
  have same : derived = record.envelope.intentHash := by
    by_contra different
    have unequal : (derived == record.envelope.intentHash) = false := by simpa using different
    rw [unequal] at intent
    cases intent
  have envelope : envelopeMismatch host (field record.ownProps "envelope") = .ok none := by
    have equal : timingSafeHexEqual (.str derived) (.str record.envelope.intentHash) = true :=
      (timingSafeHexEqual_iff _ _).mpr same
    have input : sha256Canonical host (storedHashInput record.envelope.toJs) = .ok derived := by
      rw [storedHashInput_toJs]
      exact hash
    have subject : field record.ownProps "envelope" = record.envelope.toJs :=
      field_auditRecord record (by decide)
    have intentField : record.envelope.toJs.getOwn "intentHash" = .str record.envelope.intentHash :=
      rfl
    rw [subject, envelopeMismatch, input, ok_bind, intentField]
    dsimp only
    rw [if_pos equal]
    rfl
  rw [verifyAuditRecord, envelope, ok_bind, field_auditHash, present] at verdictOf
  obtain ⟨rederived, rehash, compared⟩ := bind_eq_ok.mp verdictOf
  cases equal : timingSafeHexEqual (.str rederived) (.str stored) with
  | true =>
      rw [rehash, (timingSafeHexEqual_iff _ _).mp equal]
  | false =>
      simp only [Option.map_some, Option.getD_some, equal] at compared
      cases compared
      cases verification

/-- A replay without failures rederives the hash of every record. -/
theorem replayRecords_clean {host : Host} {adjudicator : Adjudicator} {state final : ReplayState}
    {records : List AuditRecord}
    (run : records.foldlM (replayRecord host adjudicator) state = .ok final)
    (clean : final.integrityFailures = []) :
    state.integrityFailures = [] ∧ ∀ record ∈ records, ∀ stored, record.auditHash = some stored →
      sha256Canonical host (.obj (strip record.ownProps)) = .ok stored := by
  induction records generalizing state with
  | nil =>
      cases run
      exact ⟨clean, fun record absent => absurd absent List.not_mem_nil⟩
  | cons record rest ih =>
      rw [List.foldlM_cons] at run
      obtain ⟨next, step, continued⟩ := bind_eq_ok.mp run
      obtain ⟨nextClean, later⟩ := ih continued
      obtain ⟨before, own⟩ := replayRecord_clean step nextClean
      exact ⟨before, List.forall_mem_cons.mpr ⟨own, later⟩⟩

/-- Canonical texts are well formed whatever value they come from. -/
theorem canonicalJson_isWellFormed {host : Host} {value : JsValue} {text : JsString}
    (canonical : canonicalJson host value = .ok text) : isWellFormed text = true := by
  obtain ⟨tree, -, printed⟩ := bind_eq_ok.mp canonical
  cases printed
  rw [JsValue.stringify]
  cases found : tree.serialize with
  | none => rfl
  | some json => exact print_isWellFormed json (serialize_valid tree json found)

/-- Without collisions, values with one hash have one canonical text. -/
theorem canonicalJson_of_sha256Canonical {host : Host} (free : host.CollisionFree)
    {left right : JsValue} {hash : JsString} (leftHash : sha256Canonical host left = .ok hash)
    (rightHash : sha256Canonical host right = .ok hash) :
    canonicalJson host left = canonicalJson host right := by
  obtain ⟨leftText, leftCanonical, leftDigest⟩ := bind_eq_ok.mp leftHash
  obtain ⟨rightText, rightCanonical, rightDigest⟩ := bind_eq_ok.mp rightHash
  cases leftDigest
  have digest : host.sha256Hex rightText = host.sha256Hex leftText := Except.ok.inj rightDigest
  have texts := free leftText rightText (canonicalJson_isWellFormed leftCanonical)
    (canonicalJson_isWellFormed rightCanonical) digest.symm
  rw [leftCanonical, rightCanonical, texts]

/-- The records agree in all fields that the audit hash covers. -/
def SameBound (host : Host) (left right : AuditRecord) : Prop :=
  canonicalJson host (.obj (strip left.ownProps)) = canonicalJson host (.obj (strip right.ownProps))

/-- These are the records of one session from its first one, without an integrity failure. -/
structure IntactSegment (host : Host) (adjudicator : Adjudicator) (session : JsString)
    (records : List AuditRecord) : Prop where
  session : ∀ record ∈ records, record.stream = session
  intact : ∃ report, replayWithIntegrity host adjudicator records = .ok report ∧
    report.integrityFailures = []
  genesis : ∃ first ∈ records.head?, first.prevAuditHash = none
  linked : ∀ record ∈ records.tail, ∃ link, record.prevAuditHash = some link

/-- Every hash of an intact segment is the hash of the bound fields of its record. -/
theorem IntactSegment.hash {host : Host} {adjudicator : Adjudicator} {session : JsString}
    {records : List AuditRecord} (segment : IntactSegment host adjudicator session records)
    {record : AuditRecord} (member : record ∈ records) {stored : JsString}
    (present : record.auditHash = some stored) :
    sha256Canonical host (.obj (strip record.ownProps)) = .ok stored := by
  obtain ⟨report, replayed, clean⟩ := segment.intact
  obtain ⟨final, run, returned⟩ := bind_eq_ok.mp replayed
  cases returned
  exact (replayRecords_clean run clean).2 record member stored present

/-- An array has fewer than `2 ^ 32` elements, which a number counts exactly. -/
theorem emitAuditCheckpoint_returns (host : Host) (records : List AuditRecord) (keyId : JsString)
    {sequence : JsNumber} (finite : sequence.isFinite = true) (bounded : records.length < 2 ^ 32) :
    ∃ checkpoint, emitAuditCheckpoint host records (hashBindAuditSigner host keyId) sequence =
      .ok checkpoint := by
  have count : (JsNumber.ofNat records.length).isFinite = true :=
    JsNumber.isFinite_ofNat (bounded.trans (by decide))
  have body (tipAuditHash : Option JsString) :
      (checkpointBody sequence tipAuditHash records.length).IsJson := by
    have tip : ((tipAuditHash.map JsValue.str).getD .null).IsJson := by
      cases tipAuditHash <;> trivial
    have names : [utf16 "sequence", "tipAuditHash", "count"].Nodup := by decide
    simp only [checkpointBody, JsValue.IsJson, IsJsonProps]
    exact ⟨names, fun _ => finite, fun _ => tip, fun _ => count, trivial⟩
  obtain ⟨preimage, derived⟩ : ∃ preimage, auditCheckpointPreimage host sequence
      (chainTipOf records).1 records.length = .ok preimage := by
    rw [auditCheckpointPreimage, sha256Canonical_eq host (body _)]
    exact ⟨_, rfl⟩
  obtain ⟨value, -, signed⟩ := bindAuditSignature_ok host preimage keyId
  refine ⟨⟨sequence, (chainTipOf records).1, records.length, keyId, auditHashbindAlg, value⟩, ?_⟩
  have run : emitAuditCheckpoint host records (hashBindAuditSigner host keyId) sequence =
      (do
        let preimage ← auditCheckpointPreimage host sequence (chainTipOf records).1 records.length
        let signature ← bindAuditSignature host preimage keyId
        return ⟨sequence, (chainTipOf records).1, records.length, signature⟩) := rfl
  rw [run, derived, ok_bind, signed]
  rfl

/-- The verifier accepts what the hash-bind signer emitted over the same records. -/
theorem verifyAuditCheckpoint_emitted {host : Host} {records : List AuditRecord} {keyId : JsString}
    {sequence : JsNumber} {checkpoint : AuditCheckpoint}
    (emitted : emitAuditCheckpoint host records (hashBindAuditSigner host keyId) sequence =
      .ok checkpoint)
    (verifySignature : Option (JsString → AuditSignature → Except Thrown Bool)) :
    verifyAuditCheckpoint host verifySignature records checkpoint = .ok .valid := by
  rw [verifyAuditCheckpoint_eq_valid]
  obtain ⟨preimage, derived, continued⟩ := bind_eq_ok.mp emitted
  obtain ⟨signature, signed, returned⟩ := bind_eq_ok.mp continued
  obtain ⟨value, bound, returnedSignature⟩ := bind_eq_ok.mp signed
  cases returned
  cases returnedSignature
  refine ⟨⟨preimage, derived, ?_⟩, rfl⟩
  have equal : timingSafeHexEqual (.str value) (.str value) = true :=
    (timingSafeHexEqual_iff _ _).mpr rfl
  unfold checkpointSignatureValid
  rw [if_pos rfl, bound, ok_bind, equal]
  rfl

/-- Verified records with matching links form an intact segment. -/
theorem intactSegment_of_sessionChain {host : Host} {adjudicator : Adjudicator}
    {session : JsString} {records : List AuditRecord}
    (own : ∀ record ∈ records, record.stream = session)
    (verifies : ∀ record ∈ records, verifyAuditRecord host none record.ownProps = .ok .verified)
    (chained : records.IsChain LinkedTo)
    (genesis : ∃ first ∈ records.head?, first.prevAuditHash = none)
    (linked : ∀ record ∈ records.tail, ∃ link, record.prevAuditHash = some link) :
    IntactSegment host adjudicator session records where
  session := own
  intact := by
    obtain ⟨final, run⟩ := replayRecords_returns adjudicator ReplayState.initial
      fun record member => ⟨.verified, verifies record member⟩
    refine ⟨_, by rw [replayWithIntegrity, run]; rfl, ?_⟩
    apply replayRecords_intact verifies _ run
    rw [broken_eq_nil_iff]
    intro other
    rw [ReplayState.initial, quiet_none_iff]
    have agrees := chained.imp fun before record => agrees_of_linkedTo
    by_cases same : other = session
    · rw [List.filter_eq_self.mpr fun record member => by simpa [same] using own record member]
      exact agrees
    · have none : records.filter (fun record => record.stream = other) = [] := by
        rw [List.filter_eq_nil_iff]
        intro record member
        simpa [own record member] using Ne.symm same
      rw [none]
      exact List.IsChain.nil
  genesis := genesis
  linked := linked

/-- A checkpoint fixes the length of an intact segment and the bound fields of its last record; the
records before it are not anchored. -/
theorem checkpoint_anchorsTip {host : Host} (free : host.CollisionFree) :
    (∀ adjudicator session left right checkpoint verifySignature,
      IntactSegment host adjudicator session left → IntactSegment host adjudicator session right →
      verifyAuditCheckpoint host verifySignature left checkpoint = .ok .valid →
      verifyAuditCheckpoint host verifySignature right checkpoint = .ok .valid →
      left.length = right.length ∧ ∀ tip, checkpoint.tipAuditHash = some tip →
        ∃ leftLast ∈ left.getLast?, ∃ rightLast ∈ right.getLast?,
          SameBound host leftLast rightLast) ∧
      ∀ records keyId sequence, sequence.isFinite = true → records.length < 2 ^ 32 →
        ∀ verifySignature, ∃ checkpoint,
          emitAuditCheckpoint host records (hashBindAuditSigner host keyId) sequence =
              .ok checkpoint ∧
            verifyAuditCheckpoint host verifySignature records checkpoint = .ok .valid := by
  constructor
  · intro adjudicator session left right checkpoint verifySignature leftSegment rightSegment
      leftAccepted rightAccepted
    have leftTip := (verifyAuditCheckpoint_eq_valid.mp leftAccepted).2
    have rightTip := (verifyAuditCheckpoint_eq_valid.mp rightAccepted).2
    refine ⟨congrArg Prod.snd (leftTip.trans rightTip.symm), ?_⟩
    intro tip present
    have last {records : List AuditRecord}
        (segment : IntactSegment host adjudicator session records)
        (accepted : chainTipOf records = (checkpoint.tipAuditHash, checkpoint.count)) :
        ∃ record ∈ records.getLast?,
          sha256Canonical host (.obj (strip record.ownProps)) = .ok tip := by
      have hash : records.getLast?.bind (·.auditHash) = some tip :=
        (congrArg Prod.fst accepted).trans present
      obtain ⟨record, ending, stored⟩ := Option.bind_eq_some_iff.mp hash
      exact ⟨record, ending, segment.hash (List.mem_of_getLast? ending) stored⟩
    obtain ⟨leftLast, leftEnding, leftHash⟩ := last leftSegment leftTip
    obtain ⟨rightLast, rightEnding, rightHash⟩ := last rightSegment rightTip
    exact ⟨leftLast, leftEnding, rightLast, rightEnding,
      canonicalJson_of_sha256Canonical free leftHash rightHash⟩
  · intro records keyId sequence finite bounded verifySignature
    obtain ⟨checkpoint, emitted⟩ := emitAuditCheckpoint_returns host records keyId finite bounded
    exact ⟨checkpoint, emitted, verifyAuditCheckpoint_emitted emitted verifySignature⟩

/-- These are the SHA-256 digests behind the checkpoint of two records. -/
def checkpointDigests : Props JsString :=
  [(utf16 "\x7b\"count\":2,\"sequence\":1,\"tipAuditHash\":\"" ++ retrievedHash ++ utf16 "\"\x7d",
      "2486d92f8193e2357d0cc89a6d2d322b82a05d3aaacabe9b3c98ec03a959b8de"),
    (utf16 "\x7b\"auditHash\":\"adjudicate-audit-checkpoint-v1\\n2486d92f8193e2357d0cc89a6d2d322b82a0" ++
        utf16 "5d3aaacabe9b3c98ec03a959b8de\",\"keyId\":\"k-1\"\x7d",
      "6f4184b904627d1e8dca2302fa1cdf6408f41cfccb874fba22a3e63d456e0672"),
    (utf16 "\"adjudicate-audit-signature-v1\\n6f4184b904627d1e8dca2302fa1cdf6408f41cfccb874fba22a3" ++
        utf16 "e63d456e0672\"",
      "71ac26709319946148c49742894694f001bfabe80ed5aa716d9bbf6073bb7f5f")]

def checkpointHost : Host := .ofDigests (chainDigests ++ checkpointDigests)

theorem checkpointHost_collisionFree : checkpointHost.CollisionFree := by
  apply Host.ofDigests_collisionFree
  all_goals
    unfold chainDigests checkpointDigests auditedIntentHash retrievedIntentHash auditedHash
      retrievedHash
    repeat rw [utf16_ofList]
    decide +kernel

def checkpointedRecords : List AuditRecord := [paymentRecord, retrievedRecord (some auditedHash)]

/-- The first record is replaced and the second one is linked to the replacement. -/
def relinkedRecords : List AuditRecord := [retrievedRecord none, retrievedRecord (some retrievedHash)]

def sampleCheckpoint : AuditCheckpoint where
  sequence := 1
  tipAuditHash := some retrievedHash
  count := 2
  signature :=
    { keyId := "k-1"
      alg := auditHashbindAlg
      value := "71ac26709319946148c49742894694f001bfabe80ed5aa716d9bbf6073bb7f5f" }

theorem sampleCheckpoint_emitted :
    emitAuditCheckpoint checkpointHost checkpointedRecords (hashBindAuditSigner checkpointHost "k-1") 1 =
      .ok sampleCheckpoint := by
  have preimage : auditCheckpointPreimage checkpointHost 1 (chainTipOf checkpointedRecords).1
      checkpointedRecords.length = .ok (utf16 "adjudicate-audit-checkpoint-v1\n2486d92f8193e235" ++
        utf16 "7d0cc89a6d2d322b82a05d3aaacabe9b3c98ec03a959b8de") := by
    unfold checkpointHost chainDigests checkpointDigests samplePaymentText auditedRecordText
      auditedIntentHash retrievedIntentHash auditedHash checkpointedRecords
      retrievedRecord retrievedHash
    repeat rw [utf16_ofList]
    decide +kernel
  have signed : bindAuditSignature checkpointHost (utf16 "adjudicate-audit-checkpoint-v1\n2486d92f8193e235" ++
      utf16 "7d0cc89a6d2d322b82a05d3aaacabe9b3c98ec03a959b8de") "k-1" =
        .ok sampleCheckpoint.signature := by
    unfold checkpointHost chainDigests checkpointDigests samplePaymentText auditedRecordText
      auditedIntentHash retrievedIntentHash auditedHash retrievedHash sampleCheckpoint
    repeat rw [utf16_ofList]
    decide +kernel
  have run : emitAuditCheckpoint checkpointHost checkpointedRecords
      (hashBindAuditSigner checkpointHost "k-1") 1 =
      (do
        let preimage ← auditCheckpointPreimage checkpointHost 1 (chainTipOf checkpointedRecords).1
          checkpointedRecords.length
        let signature ← bindAuditSignature checkpointHost preimage "k-1"
        return ⟨1, (chainTipOf checkpointedRecords).1, checkpointedRecords.length, signature⟩) := rfl
  rw [run, preimage, ok_bind, signed]
  rfl

theorem paymentRecord_checkpointed :
    verifyAuditRecord checkpointHost none paymentRecord.ownProps = .ok .verified := by
  apply chainRecord_verified
  all_goals
    unfold checkpointHost chainDigests checkpointDigests samplePaymentText auditedRecordText
      auditedIntentHash retrievedIntentHash auditedHash retrievedHash
    repeat rw [utf16_ofList]
    decide +kernel

theorem retrievedRecord_checkpointed (prevAuditHash : Option JsString) :
    verifyAuditRecord checkpointHost none (retrievedRecord prevAuditHash).ownProps =
      .ok .verified := by
  apply chainRecord_verified
  all_goals
    unfold checkpointHost chainDigests checkpointDigests samplePaymentText auditedRecordText
      auditedIntentHash retrievedIntentHash auditedHash retrievedHash
    repeat rw [utf16_ofList]
    decide +kernel

theorem checkpointedRecords_intact :
    IntactSegment checkpointHost recordedDecision "s-1" checkpointedRecords := by
  apply intactSegment_of_sessionChain
  · intro record member
    simp only [checkpointedRecords, List.mem_cons, List.not_mem_nil, or_false] at member
    obtain rfl | rfl := member <;> rfl
  · intro record member
    simp only [checkpointedRecords, List.mem_cons, List.not_mem_nil, or_false] at member
    obtain rfl | rfl := member
    · exact paymentRecord_checkpointed
    · exact retrievedRecord_checkpointed _
  · exact List.isChain_pair.mpr rfl
  · exact ⟨paymentRecord, rfl, rfl⟩
  · intro record member
    obtain rfl := List.mem_singleton.mp member
    exact ⟨auditedHash, rfl⟩

theorem relinkedRecords_intact :
    IntactSegment checkpointHost recordedDecision "s-1" relinkedRecords := by
  apply intactSegment_of_sessionChain
  · intro record member
    simp only [relinkedRecords, List.mem_cons, List.not_mem_nil, or_false] at member
    obtain rfl | rfl := member <;> rfl
  · intro record member
    simp only [relinkedRecords, List.mem_cons, List.not_mem_nil, or_false] at member
    obtain rfl | rfl := member <;> exact retrievedRecord_checkpointed _
  · exact List.isChain_pair.mpr rfl
  · exact ⟨retrievedRecord none, rfl, rfl⟩
  · intro record member
    obtain rfl := List.mem_singleton.mp member
    exact ⟨retrievedHash, rfl⟩

/-- Both segments satisfy the checkpoint of the first one. -/
theorem sampleCheckpoint_accepts :
    verifyAuditCheckpoint checkpointHost none checkpointedRecords sampleCheckpoint = .ok .valid ∧
      verifyAuditCheckpoint checkpointHost none relinkedRecords sampleCheckpoint = .ok .valid := by
  have accepted := verifyAuditCheckpoint_emitted sampleCheckpoint_emitted none
  have authentic := (verifyAuditCheckpoint_eq_valid.mp accepted).1
  exact ⟨accepted, verifyAuditCheckpoint_eq_valid.mpr ⟨authentic, rfl⟩⟩

theorem checkpoint_anchorsTip_relinked :
    (checkpointedRecords.length = relinkedRecords.length ∧
      ∀ tip, sampleCheckpoint.tipAuditHash = some tip →
        ∃ leftLast ∈ checkpointedRecords.getLast?, ∃ rightLast ∈ relinkedRecords.getLast?,
          SameBound checkpointHost leftLast rightLast) ∧
      ∃ checkpoint,
        emitAuditCheckpoint checkpointHost checkpointedRecords
            (hashBindAuditSigner checkpointHost "k-1") 1 = .ok checkpoint ∧
          verifyAuditCheckpoint checkpointHost none checkpointedRecords checkpoint = .ok .valid := by
  obtain ⟨anchors, emits⟩ := checkpoint_anchorsTip checkpointHost_collisionFree
  obtain ⟨left, right⟩ := sampleCheckpoint_accepts
  exact ⟨anchors _ _ _ _ _ _ checkpointedRecords_intact relinkedRecords_intact left right,
    emits _ _ _ (by decide +kernel) (by decide) none⟩

/-- The checkpoint accepts a segment whose first record is another one. -/
theorem relinkedSegment_accepted :
    checkpointHost.CollisionFree ∧
      IntactSegment checkpointHost recordedDecision "s-1" checkpointedRecords ∧
      IntactSegment checkpointHost recordedDecision "s-1" relinkedRecords ∧
      (verifyAuditCheckpoint checkpointHost none checkpointedRecords sampleCheckpoint = .ok .valid ∧
        verifyAuditCheckpoint checkpointHost none relinkedRecords sampleCheckpoint = .ok .valid) ∧
      ¬ List.Forall₂ (SameBound checkpointHost) checkpointedRecords relinkedRecords := by
  refine ⟨checkpointHost_collisionFree, checkpointedRecords_intact, relinkedRecords_intact,
    sampleCheckpoint_accepts, ?_⟩
  intro same
  obtain ⟨first, -⟩ := List.forall₂_cons.mp same
  obtain ⟨stored, present, hash⟩ := hash_of_verified paymentRecord_checkpointed
  obtain ⟨otherStored, otherPresent, otherHash⟩ :=
    hash_of_verified (retrievedRecord_checkpointed none)
  have equal : stored = otherStored := by
    rw [sha256Canonical, first, ← sha256Canonical, otherHash] at hash
    exact (Except.ok.inj hash).symm
  have different : some auditedHash ≠ some retrievedHash := by decide
  exact different (present.trans (equal ▸ otherPresent.symm))

end Adjudicate.Audit
