/-
This file proves which deletions and reorderings the replay of a record chain detects.
-/

import Adjudicate.Audit.Replay
import Adjudicate.Audit.ReplayIntegrity

namespace Adjudicate.Audit

open Js Canonical Chain Adjudicate.Core

/-- The verifier derives the envelope hash before it returns any verdict. -/
theorem deriveIntentHash_of_verifyAuditRecord {host : Host} {record : AuditRecord}
    {verifySignature : Option (JsValue → JsValue → Except Thrown Bool)}
    {verdict : AuditRecordVerification}
    (verdictOf : verifyAuditRecord host verifySignature record.ownProps = .ok verdict) :
    ∃ derived, deriveIntentHash host record.envelope = .ok derived := by
  have envelope : field record.ownProps "envelope" = record.envelope.toJs :=
    field_auditRecord record (by decide)
  rw [verifyAuditRecord, envelope] at verdictOf
  obtain ⟨mismatch, checked, -⟩ := bind_eq_ok.mp verdictOf
  have present : isNullish record.envelope.toJs = false := rfl
  rw [envelopeMismatch, present] at checked
  obtain ⟨derived, hash, -⟩ := bind_eq_ok.mp checked
  refine ⟨derived, ?_⟩
  rw [deriveIntentHash, ← storedHashInput_toJs]
  exact hash

/-- A mismatch of the envelope is not the verdict that the record is intact. -/
theorem envelopeMismatch_ne_verified {host : Host} {envelope : JsValue} :
    envelopeMismatch host envelope ≠ .ok (some .verified) := by
  intro checked
  rw [envelopeMismatch] at checked
  split at checked
  · cases checked
  · obtain ⟨derived, -, compared⟩ := bind_eq_ok.mp checked
    dsimp only at compared
    split at compared <;> cases compared

/-- The envelope of a verified record carries its own hash. -/
theorem intentHash_of_verified {host : Host} {record : AuditRecord}
    {verifySignature : Option (JsValue → JsValue → Except Thrown Bool)}
    (verified : verifyAuditRecord host verifySignature record.ownProps = .ok .verified) :
    deriveIntentHash host record.envelope = .ok record.envelope.intentHash := by
  have envelope : field record.ownProps "envelope" = record.envelope.toJs :=
    field_auditRecord record (by decide)
  rw [verifyAuditRecord, envelope] at verified
  obtain ⟨mismatch, checked, continued⟩ := bind_eq_ok.mp verified
  cases mismatch with
  | some mismatch =>
      cases continued
      exact absurd checked envelopeMismatch_ne_verified
  | none =>
      have present : isNullish record.envelope.toJs = false := rfl
      rw [envelopeMismatch, present, storedHashInput_toJs] at checked
      obtain ⟨derived, hash, compared⟩ := bind_eq_ok.mp checked
      dsimp only at compared
      split at compared
      · next equal =>
          have intentField : record.envelope.toJs.getOwn "intentHash" =
              .str record.envelope.intentHash := rfl
          rw [intentField, timingSafeHexEqual_iff] at equal
          rw [← equal]
          exact hash
      · cases compared

/-- A verified record carries the hash of its bound fields. -/
theorem hash_of_verified {host : Host} {record : AuditRecord}
    {verifySignature : Option (JsValue → JsValue → Except Thrown Bool)}
    (verified : verifyAuditRecord host verifySignature record.ownProps = .ok .verified) :
    ∃ stored, record.auditHash = some stored ∧
      sha256Canonical host (.obj (strip record.ownProps)) = .ok stored := by
  rw [verifyAuditRecord, field_auditHash] at verified
  obtain ⟨mismatch, checked, continued⟩ := bind_eq_ok.mp verified
  cases mismatch with
  | some mismatch =>
      cases continued
      exact absurd checked envelopeMismatch_ne_verified
  | none =>
      cases present : record.auditHash with
      | none =>
          rw [present] at continued
          cases continued
      | some stored =>
          rw [present] at continued
          obtain ⟨derived, hash, compared⟩ := bind_eq_ok.mp continued
          cases equal : timingSafeHexEqual (.str derived) (.str stored) with
          | false =>
              simp only [Option.map_some, Option.getD_some, equal] at compared
              cases compared
          | true =>
              obtain rfl := (timingSafeHexEqual_iff _ _).mp equal
              exact ⟨derived, rfl, hash⟩

def ReplayIntegrityReport.chainBroken (report : ReplayIntegrityReport) : Prop :=
  ∃ failure ∈ report.integrityFailures, failure.kind = .auditChainBroken

/-- The chain axis is silent exactly when the link agrees with the tip of the stream. -/
theorem chainFailure_eq_none_iff (chainTip : JsString → Option JsString) (record : AuditRecord) :
    chainFailure chainTip record = none ↔
      Agrees (chainTip record.stream) record.prevAuditHash := by
  rw [chainFailure, Agrees]
  cases record.prevAuditHash with
  | none => simp
  | some prevLink =>
      cases chainTip record.stream with
      | none => simp
      | some expectedTip => simp [timingSafeHexEqual_iff]

theorem chainFailure_kind {chainTip : JsString → Option JsString} {record : AuditRecord}
    {failure : IntegrityFailure} (broken : chainFailure chainTip record = some failure) :
    failure.kind = .auditChainBroken := by
  rw [chainFailure] at broken
  split at broken
  · split at broken
    · cases broken
    · cases broken
      rfl
  · cases broken

theorem verificationFailure_kind {record : AuditRecord} {verdict : AuditRecordVerification}
    {failure : IntegrityFailure} (failed : verificationFailure record verdict = some failure) :
    failure.kind ≠ .auditChainBroken := by
  cases verdict <;> cases failed <;> exact nofun

/-- These are the failures of the chain axis. -/
def chainFailures (failures : List IntegrityFailure) : List IntegrityFailure :=
  failures.filter fun failure => failure.kind = .auditChainBroken

/-- One record adds exactly its own failure to the chain axis and becomes the tip. -/
theorem replayRecord_chain {host : Host} {adjudicator : Adjudicator} {state next : ReplayState}
    {record : AuditRecord} (step : replayRecord host adjudicator state record = .ok next) :
    chainFailures next.integrityFailures = chainFailures state.integrityFailures ++
        (chainFailure state.chainTip record).toList ∧
      next.chainTip = Function.update state.chainTip record.stream record.auditHash := by
  rw [replayRecord] at step
  obtain ⟨derived, -, continued⟩ := bind_eq_ok.mp step
  obtain ⟨verdict, -, returned⟩ := bind_eq_ok.mp continued
  cases returned
  refine ⟨?_, rfl⟩
  have intent : chainFailures (Option.toList (if (derived == record.envelope.intentHash) = true
      then none else some ⟨record.intentHash, .intentHashMismatch, .str record.envelope.intentHash,
        .str derived⟩)) = [] := by
    split <;> rfl
  have verification : chainFailures (verificationFailure record verdict).toList = [] := by
    cases failed : verificationFailure record verdict with
    | none => rfl
    | some failure => simp [chainFailures, verificationFailure_kind failed]
  have chain : chainFailures (chainFailure state.chainTip record).toList =
      (chainFailure state.chainTip record).toList := by
    cases broken : chainFailure state.chainTip record with
    | none => rfl
    | some failure => simp [chainFailures, chainFailure_kind broken]
  simp only [chainFailures, List.filter_append] at intent verification chain ⊢
  rw [intent, verification, chain, List.append_nil, List.append_nil]

/-- A run over the records adds a failure for each record that is broken in its stream. -/
theorem replayRecords_chain {host : Host} {adjudicator : Adjudicator} {state final : ReplayState}
    {records : List AuditRecord}
    (run : records.foldlM (replayRecord host adjudicator) state = .ok final) :
    (chainFailures final.integrityFailures).length =
      (chainFailures state.integrityFailures).length +
        (broken AuditRecord.prevAuditHash AuditRecord.auditHash AuditRecord.stream state.chainTip
          records).length := by
  induction records generalizing state with
  | nil =>
      cases run
      rfl
  | cons record rest ih =>
      rw [List.foldlM_cons] at run
      obtain ⟨next, step, continued⟩ := bind_eq_ok.mp run
      obtain ⟨failures, tips⟩ := replayRecord_chain step
      rw [ih continued, failures, tips, broken, List.length_append]
      cases found : chainFailure state.chainTip record with
      | none =>
          rw [if_pos ((chainFailure_eq_none_iff _ _).mp found)]
          rfl
      | some failure =>
          have disagrees : ¬ Agrees (state.chainTip record.stream) record.prevAuditHash := by
            rw [← chainFailure_eq_none_iff, found]
            exact Option.some_ne_none _
          rw [if_neg disagrees, List.length_cons]
          simp only [Option.toList_some, List.length_singleton]
          omega

/-- The replay returns a report when the verifier returns a verdict for every record. -/
theorem replayRecords_returns {host : Host} (adjudicator : Adjudicator) (state : ReplayState)
    {records : List AuditRecord}
    (readable : ∀ record ∈ records, ∃ verdict,
      verifyAuditRecord host none record.ownProps = .ok verdict) :
    ∃ final, records.foldlM (replayRecord host adjudicator) state = .ok final := by
  induction records generalizing state with
  | nil => exact ⟨state, rfl⟩
  | cons record rest ih =>
      obtain ⟨verdict, verdictOf⟩ := readable record List.mem_cons_self
      obtain ⟨derived, hash⟩ := deriveIntentHash_of_verifyAuditRecord verdictOf
      rw [List.foldlM_cons, replayRecord, hash, ok_bind, verdictOf, ok_bind]
      exact ih _ fun other member => readable other (List.mem_cons_of_mem _ member)

/-- Verified records whose links agree give no failure on any axis of the integrity. -/
theorem replayRecords_intact {host : Host} {adjudicator : Adjudicator} {state final : ReplayState}
    {records : List AuditRecord}
    (verified : ∀ record ∈ records,
      verifyAuditRecord host none record.ownProps = .ok .verified)
    (linked : broken AuditRecord.prevAuditHash AuditRecord.auditHash AuditRecord.stream
      state.chainTip records = [])
    (run : records.foldlM (replayRecord host adjudicator) state = .ok final) :
    final.integrityFailures = state.integrityFailures := by
  induction records generalizing state with
  | nil =>
      cases run
      rfl
  | cons record rest ih =>
      rw [List.foldlM_cons] at run
      obtain ⟨next, step, continued⟩ := bind_eq_ok.mp run
      have tips := (replayRecord_chain step).2
      have own := verified record List.mem_cons_self
      rw [broken] at linked
      split at linked
      · next agrees =>
          rw [← tips] at linked
          rw [ih (fun other member => verified other (List.mem_cons_of_mem _ member)) linked
            continued]
          rw [replayRecord, intentHash_of_verified own, ok_bind, own, ok_bind,
            (chainFailure_eq_none_iff _ _).mpr agrees] at step
          cases step
          simp [verificationFailure]
      · cases linked

/-- The report names a broken chain unless every session is quiet. -/
theorem replayWithIntegrity_chainBroken_iff {host : Host} (adjudicator : Adjudicator)
    {records : List AuditRecord}
    (readable : ∀ record ∈ records, ∃ verdict,
      verifyAuditRecord host none record.ownProps = .ok verdict) :
    ∃ report, replayWithIntegrity host adjudicator records = .ok report ∧
      (¬ report.chainBroken ↔ ∀ session, (records.filter (·.stream = session)).IsChain
        fun before record => Agrees before.auditHash record.prevAuditHash) := by
  obtain ⟨final, run⟩ := replayRecords_returns adjudicator ReplayState.initial readable
  refine ⟨_, by rw [replayWithIntegrity, run]; rfl, ?_⟩
  have counted := replayRecords_chain run
  have start : chainFailures ReplayState.initial.integrityFailures = [] := rfl
  rw [start, List.length_nil, Nat.zero_add] at counted
  have none : (chainFailures final.integrityFailures).length = 0 ↔
      ∀ failure ∈ final.integrityFailures, ¬ failure.kind = .auditChainBroken := by
    rw [List.length_eq_zero_iff, chainFailures, List.filter_eq_nil_iff]
    simp
  rw [ReplayIntegrityReport.chainBroken, not_exists]
  simp only [not_and]
  rw [← none, counted, List.length_eq_zero_iff, broken_eq_nil_iff]
  exact forall_congr' fun session => quiet_none_iff _ _ _

/-- A record links to the record before it. -/
def LinkedTo (before record : AuditRecord) : Prop := record.prevAuditHash = before.auditHash

/-- These are the intact records of one session in the order of their chain. -/
structure SessionChain (host : Host) (session : JsString) (records : List AuditRecord) : Prop where
  session : ∀ record ∈ records, record.stream = session
  verifies : ∀ record ∈ records, verifyAuditRecord host none record.ownProps = .ok .verified
  distinct : (records.map (·.auditHash)).Nodup
  linked : records.IsChain LinkedTo

/-- The records of the session are spread between linked records of other sessions. -/
structure Interleaves (host : Host) (session : JsString) (own input : List AuditRecord) : Prop where
  own : input.filter (·.stream = session) = own
  others : ∀ other ≠ session, (input.filter (·.stream = other)).IsChain LinkedTo
  readable : ∀ record ∈ input, record.stream ≠ session →
    ∃ verdict, verifyAuditRecord host none record.ownProps = .ok verdict

/-- Records are removed from the inside of the chain or put in another order. -/
inductive Altered (records altered : List AuditRecord) : Prop where
  | removed : altered.Sublist records → ¬ altered <:+: records → Altered records altered
  | permuted : altered.Perm records → altered ≠ records → Altered records altered

/-- The last record may stand before the first one without a report. -/
def TurnUnchecked (last first : AuditRecord) : Prop :=
  first.prevAuditHash = none ∨ first.prevAuditHash = last.auditHash

section SessionRun

variable {host : Host} {session : JsString} {records : List AuditRecord}

theorem SessionChain.nodup (chain : SessionChain host session records) : records.Nodup :=
  chain.distinct.of_map _

theorem SessionChain.hashed (chain : SessionChain host session records) {record : AuditRecord}
    (member : record ∈ records) : ∃ stored, record.auditHash = some stored := by
  obtain ⟨stored, present, -⟩ := hash_of_verified (chain.verifies record member)
  exact ⟨stored, present⟩

/-- A link that agrees with the hash of a record of the chain points to that record. -/
theorem SessionChain.exact (chain : SessionChain host session records) :
    Exact LinkedTo (fun before record => Agrees before.auditHash record.prevAuditHash) records := by
  intro before member claimed claimedMember record _ linked agrees
  obtain ⟨stored, present⟩ := chain.hashed member
  obtain ⟨claimedHash, claimedPresent⟩ := chain.hashed claimedMember
  have same : stored = claimedHash := agrees claimedHash claimedPresent stored (linked.trans present)
  apply List.inj_on_of_nodup_map chain.distinct claimedMember member
  rw [present, claimedPresent, same]

theorem agrees_of_linkedTo {before record : AuditRecord} (linked : LinkedTo before record) :
    Agrees before.auditHash record.prevAuditHash := by
  intro expected present stored link
  rw [Option.mem_def] at present link
  rw [linked, present] at link
  exact (Option.some.inj link).symm

theorem SessionChain.turn_iff (chain : SessionChain host session records)
    {last first : AuditRecord} (member : last ∈ records) :
    Agrees last.auditHash first.prevAuditHash ↔ TurnUnchecked last first := by
  obtain ⟨stored, present⟩ := chain.hashed member
  rw [TurnUnchecked, present, Agrees]
  cases first.prevAuditHash <;> simp

theorem SessionChain.rotated_iff (chain : SessionChain host session records)
    {altered : List AuditRecord} :
    Rotated (fun before record => Agrees before.auditHash record.prevAuditHash) records altered ↔
      Rotated TurnUnchecked records altered := by
  have turn (first last : AuditRecord) (front back : List AuditRecord)
      (shape : records = first :: front ++ (back ++ [last])) :
      Agrees last.auditHash first.prevAuditHash ↔ TurnUnchecked last first :=
    chain.turn_iff (by rw [shape]; simp)
  constructor
  · rintro ⟨first, front, last, back, shape, order, agrees⟩
    exact ⟨first, front, last, back, shape, order, (turn first last front back shape).mp agrees⟩
  · rintro ⟨first, front, last, back, shape, order, unchecked⟩
    exact ⟨first, front, last, back, shape, order, (turn first last front back shape).mpr unchecked⟩

/-- A removal leaves fewer records than a rotation does. -/
theorem not_rotated_of_removed {altered : List AuditRecord} (kept : altered.Sublist records)
    (inner : ¬ altered <:+: records) : ¬ Rotated TurnUnchecked records altered := by
  rintro ⟨first, front, last, back, rfl, rfl, -⟩
  have whole := kept.eq_of_length (by simp only [List.length_append]; omega)
  exact inner (whole ▸ List.infix_rfl)

/-- The replay stays silent about an altered chain exactly when it is a rotation whose turn is
not checked. -/
theorem SessionChain.accepts_iff (chain : SessionChain host session records)
    {altered : List AuditRecord} (alteration : Altered records altered) :
    altered.IsChain (fun before record => Agrees before.auditHash record.prevAuditHash) ↔
      Rotated TurnUnchecked records altered := by
  have keeps (before record : AuditRecord) := @agrees_of_linkedTo before record
  cases alteration with
  | removed kept inner =>
      rw [accepted_sublist_iff chain.linked chain.nodup chain.exact keeps kept]
      exact iff_of_false inner (not_rotated_of_removed kept inner)
  | permuted perm different =>
      rw [accepted_perm_iff chain.linked chain.nodup chain.exact keeps perm,
        or_iff_right different, chain.rotated_iff]

theorem Altered.subset {altered : List AuditRecord} (alteration : Altered records altered) :
    altered ⊆ records := by
  cases alteration with
  | removed kept _ => exact kept.subset
  | permuted perm _ => exact perm.subset

/-- Other sessions neither hide nor add a report. -/
theorem Interleaves.chainBroken_iff (adjudicator : Adjudicator)
    (chain : SessionChain host session records) {own input : List AuditRecord}
    (spread : Interleaves host session own input) (inside : own ⊆ records) :
    ∃ report, replayWithIntegrity host adjudicator input = .ok report ∧
      (¬ report.chainBroken ↔ own.IsChain
        fun before record => Agrees before.auditHash record.prevAuditHash) := by
  have readable (record : AuditRecord) (member : record ∈ input) :
      ∃ verdict, verifyAuditRecord host none record.ownProps = .ok verdict := by
    by_cases same : record.stream = session
    · have ownMember : record ∈ own := by
        rw [← spread.own]
        exact List.mem_filter.mpr ⟨member, by simpa using same⟩
      exact ⟨.verified, chain.verifies record (inside ownMember)⟩
    · exact spread.readable record member same
  obtain ⟨report, replayed, broken⟩ := replayWithIntegrity_chainBroken_iff adjudicator readable
  refine ⟨report, replayed, broken.trans ⟨fun quiet => ?_, fun quiet other => ?_⟩⟩
  · rw [← spread.own]
    exact quiet session
  · by_cases same : other = session
    · rw [same, spread.own]
      exact quiet
    · exact (spread.others other same).imp fun before record => agrees_of_linkedTo

/-- The replay detects every alteration of a chain but the rotations whose turn is not checked, and
reports no broken chain for a window. -/
theorem chainAlteration_detected_iff (adjudicator : Adjudicator)
    (chain : SessionChain host session records) :
    (∀ altered input, Altered records altered → Interleaves host session altered input →
      ∃ report, replayWithIntegrity host adjudicator input = .ok report ∧
        (report.chainBroken ↔ ¬ Rotated TurnUnchecked records altered)) ∧
      ∀ window input, window <:+: records → Interleaves host session window input →
        ∃ report, replayWithIntegrity host adjudicator input = .ok report ∧
          ¬ report.chainBroken := by
  constructor
  · intro altered input alteration spread
    obtain ⟨report, replayed, silent⟩ :=
      spread.chainBroken_iff adjudicator chain alteration.subset
    refine ⟨report, replayed, ?_⟩
    rw [chain.accepts_iff alteration] at silent
    exact not_iff_comm.mp silent |>.symm
  · intro window input inner spread
    obtain ⟨report, replayed, silent⟩ := spread.chainBroken_iff adjudicator chain inner.subset
    refine ⟨report, replayed, silent.mpr ?_⟩
    have linked := List.IsChain.infix chain.linked inner
    exact linked.imp fun before record => agrees_of_linkedTo

end SessionRun

/-- The sample record over an envelope, at its place in a chain. -/
def chainRecord (origin : Origin) (intentHash auditHash : JsString)
    (prevAuditHash : Option JsString) : AuditRecord :=
  { (auditedInput (auditedEnvelope origin intentHash) none).baseRecord [] none with
    metadata := none, auditHash := some auditHash, signature := none, prevAuditHash }

/-- The first record of the sample chain has no link. -/
def paymentRecord : AuditRecord := chainRecord .llm auditedIntentHash auditedHash none

def retrievedRecord (prevAuditHash : Option JsString) : AuditRecord :=
  chainRecord .retrieved retrievedIntentHash retrievedHash prevAuditHash

/-- The digests of both envelopes and of both records are their SHA-256 digests. -/
def chainDigests : Props JsString :=
  [(samplePaymentText "1", auditedIntentHash),
    (utf16 "\x7b\"actor\":\x7b\"principal\":\"llm\",\"sessionId\":\"s-1\"\x7d,\"kind\":" ++
        utf16 "\"payment.send\",\"nonce\":\"n-1\",\"origin\":\"Retrieved\",\"payload\":" ++
        utf16 "\x7b\"amount\":1\x7d,\"taint\":\"UNTRUSTED\",\"version\":2\x7d",
      retrievedIntentHash),
    (auditedRecordText "LLM" auditedIntentHash, auditedHash),
    (auditedRecordText "Retrieved" retrievedIntentHash, retrievedHash)]

theorem chainRecord_verified {host : Host} {origin : Origin} {intentHash auditHash : JsString}
    (envelope : sha256Canonical host (intentHashInput (auditedEnvelope origin intentHash).toHashedFields) =
      .ok intentHash)
    (hash : sha256Canonical host (.obj ((auditedInput (auditedEnvelope origin intentHash)
      none).baseRecord [] none).props) = .ok auditHash) (prevAuditHash : Option JsString) :
    verifyAuditRecord host none (chainRecord origin intentHash auditHash prevAuditHash).ownProps =
      .ok .verified := by
  have built : buildEnvelope host "2026-01-01T00:00:00.000Z" { samplePayment 1 with origin := some origin } =
      .ok (auditedEnvelope origin intentHash) := buildEnvelope_eq_ok.mpr ⟨rfl, rfl, envelope⟩
  have json : ((auditedInput (auditedEnvelope origin intentHash) none).baseRecord [] none).IsJson :=
    baseRecord_ofInput_isJson built (auditedInput_isJson origin intentHash none) [] none
  have whole : Sealed host auditHash (chainRecord origin intentHash auditHash prevAuditHash).ownProps :=
    auditRecord_sealed json rfl hash envelope nofun
  exact whole.verified none

def chainHost : Host := .ofDigests chainDigests

theorem paymentRecord_verified :
    verifyAuditRecord chainHost none paymentRecord.ownProps = .ok .verified := by
  apply chainRecord_verified
  all_goals
    unfold chainHost chainDigests samplePaymentText auditedRecordText auditedIntentHash
      retrievedIntentHash auditedHash retrievedHash
    repeat rw [utf16_ofList]
    decide +kernel

theorem retrievedRecord_verified (prevAuditHash : Option JsString) :
    verifyAuditRecord chainHost none (retrievedRecord prevAuditHash).ownProps = .ok .verified := by
  apply chainRecord_verified
  all_goals
    unfold chainHost chainDigests samplePaymentText auditedRecordText auditedIntentHash
      retrievedIntentHash auditedHash retrievedHash
    repeat rw [utf16_ofList]
    decide +kernel

/-- The retrieved payment follows the first one in the session. -/
theorem sampleChain :
    SessionChain chainHost "s-1" [paymentRecord, retrievedRecord (some auditedHash)] where
  session := by
    intro record member
    simp only [List.mem_cons, List.not_mem_nil, or_false] at member
    obtain rfl | rfl := member <;> rfl
  verifies := by
    intro record member
    simp only [List.mem_cons, List.not_mem_nil, or_false] at member
    obtain rfl | rfl := member
    · exact paymentRecord_verified
    · exact retrievedRecord_verified _
  distinct := by
    have different : some auditedHash ≠ some retrievedHash := by decide
    simpa [paymentRecord, retrievedRecord, chainRecord] using different
  linked := List.isChain_pair.mpr rfl

/-- Records of one session alone form an input. -/
theorem interleaves_self {host : Host} {session : JsString} {records : List AuditRecord}
    (own : ∀ record ∈ records, record.stream = session) :
    Interleaves host session records records where
  own := List.filter_eq_self.mpr fun record member => by simpa using own record member
  others := by
    intro other different
    have none : records.filter (·.stream = other) = [] := by
      rw [List.filter_eq_nil_iff]
      intro record member
      simpa [own record member] using different.symm
    rw [none]
    exact List.IsChain.nil
  readable := fun record member foreign => absurd (own record member) foreign

def recordedDecision : Adjudicator := fun record => record.decision

theorem chainAlteration_detected_iff_payments :
    (∀ altered input, Altered [paymentRecord, retrievedRecord (some auditedHash)] altered →
      Interleaves chainHost "s-1" altered input →
        ∃ report, replayWithIntegrity chainHost recordedDecision input = .ok report ∧
          (report.chainBroken ↔
            ¬ Rotated TurnUnchecked [paymentRecord, retrievedRecord (some auditedHash)] altered)) ∧
      ∀ window input, window <:+: [paymentRecord, retrievedRecord (some auditedHash)] →
        Interleaves chainHost "s-1" window input →
          ∃ report, replayWithIntegrity chainHost recordedDecision input = .ok report ∧
            ¬ report.chainBroken :=
  chainAlteration_detected_iff recordedDecision sampleChain

/-- The replay does not detect that the two records changed places. -/
theorem swappedRecords_undetected :
    SessionChain chainHost "s-1" [paymentRecord, retrievedRecord (some auditedHash)] ∧
      Altered [paymentRecord, retrievedRecord (some auditedHash)]
        [retrievedRecord (some auditedHash), paymentRecord] ∧
      ∃ report, replayWithIntegrity chainHost recordedDecision
          [retrievedRecord (some auditedHash), paymentRecord] = .ok report ∧
        ¬ report.chainBroken := by
  have perm : [retrievedRecord (some auditedHash), paymentRecord].Perm
      [paymentRecord, retrievedRecord (some auditedHash)] := .swap _ _ _
  have different : [retrievedRecord (some auditedHash), paymentRecord] ≠
      [paymentRecord, retrievedRecord (some auditedHash)] := by
    intro same
    have hashes := congrArg (List.map AuditRecord.auditHash) same
    have unequal : [some retrievedHash, some auditedHash] ≠ [some auditedHash, some retrievedHash] := by
      decide
    exact unequal hashes
  have alteration : Altered [paymentRecord, retrievedRecord (some auditedHash)] _ :=
    .permuted perm different
  have turned : Rotated TurnUnchecked [paymentRecord, retrievedRecord (some auditedHash)]
      [retrievedRecord (some auditedHash), paymentRecord] :=
    ⟨paymentRecord, [], retrievedRecord (some auditedHash), [], rfl, rfl, .inl rfl⟩
  have own : ∀ record ∈ [retrievedRecord (some auditedHash), paymentRecord], record.stream = "s-1" :=
    fun record member => sampleChain.session record (perm.subset member)
  obtain ⟨report, replayed, silent⟩ := (interleaves_self own).chainBroken_iff recordedDecision
    sampleChain alteration.subset
  exact ⟨sampleChain, alteration, report, replayed,
    silent.mpr ((sampleChain.accepts_iff alteration).mpr turned)⟩

end Adjudicate.Audit
