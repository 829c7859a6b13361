/-
This file shows what the schemas of the admin console do to the evidence in an audit record.
-/

import Adjudicate.AdminSdk.Coverage
import Adjudicate.Audit.Replay
import Adjudicate.Canonical.Rearrangement

namespace Adjudicate.AdminSdk

open Js Canonical Adjudicate.Core Adjudicate.Audit

def withoutRole (actor : IntentActor) : IntentActor := { actor with role := none }

def receivedEnvelope (envelope : IntentEnvelope) : IntentEnvelope :=
  { envelope with actor := withoutRole envelope.actor }

def receivedDecision : Decision → Decision
  | .rewrite rewritten reason bases => .rewrite (receivedEnvelope rewritten) reason bases
  | decision => decision

/-- This is the record that the console receives. -/
def received (record : AuditRecord) : AuditRecord :=
  { record with
    envelope := receivedEnvelope record.envelope
    decision := receivedDecision record.decision }

theorem receivedEnvelope_of_roleless {envelope : IntentEnvelope}
    (roleless : envelope.actor.role = none) : receivedEnvelope envelope = envelope := by
  have actor : withoutRole envelope.actor = envelope.actor := by rw [withoutRole, ← roleless]
  rw [receivedEnvelope, actor]

theorem received_of_roleless {record : AuditRecord} (roleless : record.envelope.actor.role = none)
    (substituted : ∀ rewritten reason bases, record.decision = .rewrite rewritten reason bases →
      rewritten.actor.role = none) : received record = record := by
  have decision : receivedDecision record.decision = record.decision := by
    cases plain : record.decision with
    | rewrite rewritten reason bases =>
        rw [receivedDecision, receivedEnvelope_of_roleless (substituted rewritten reason bases plain)]
    | _ => rfl
  rw [received, receivedEnvelope_of_roleless roleless, decision]

/-- The snapshots of a record have their types. -/
structure SnapshotsTyped (record : BaseRecord) : Prop where
  authority : ∀ recorded ∈ record.authoritySnapshot,
    ∃ graph : AuthorityGraph, recorded.graph = graph.toJs
  aggregate : ∀ recorded ∈ record.aggregateSnapshot,
    ∃ snapshot : AggregateSnapshot, recorded.snapshot = snapshot.toJs

section Parsing

variable {datetime : JsString → Bool}

/-- The schema of an actor does not see the role. -/
theorem parse_withoutRole (actor : IntentActor) :
    intentActorSchema.parse (withoutRole actor).toJs = intentActorSchema.parse actor.toJs := by
  rw [intentActorSchema, IntentActor.toJs, IntentActor.toJs, WireSchema.parse, WireSchema.parse]
  refine congrArg (Option.map JsValue.obj) (parseShape_congr ?_)
  simp only [required, optional, List.forall_mem_cons, List.not_mem_nil, false_implies,
    implies_true, and_true]
  cases role : actor.role <;> cases attestation : actor.attestation <;>
    simp [withoutRole, role, attestation, optionalProp, JsValue.getOwn, lookup_cons_if, keys]

theorem parse_receivedEnvelope (envelope : IntentEnvelope) :
    intentEnvelopeSchema.parse (receivedEnvelope envelope).toJs =
      intentEnvelopeSchema.parse envelope.toJs := by
  rw [intentEnvelopeSchema, IntentEnvelope.toJs, IntentEnvelope.toJs, WireSchema.parse,
    WireSchema.parse]
  refine congrArg (Option.map JsValue.obj) (parseShape_congr ?_)
  have actor := parse_withoutRole envelope.actor
  simp only [required, optional, List.forall_mem_cons, List.not_mem_nil, false_implies,
    implies_true, and_true]
  cases refs : envelope.resourceRefs <;>
    simp [receivedEnvelope, refs, optionalProp, JsValue.getOwn, lookup_cons_if, keys, readMember,
      actor]

theorem parse_receivedDecision (decision : Decision) :
    decisionSchema.parse (receivedDecision decision).toJs = decisionSchema.parse decision.toJs := by
  cases decision with
  | rewrite rewritten reason bases =>
      have substitute := parse_receivedEnvelope rewritten
      change decisionRewriteSchema.parse (receivedDecision (.rewrite rewritten reason bases)).toJs =
        decisionRewriteSchema.parse (Decision.rewrite rewritten reason bases).toJs
      rw [decisionRewriteSchema, receivedDecision, Decision.toJs, Decision.toJs, WireSchema.parse,
        WireSchema.parse]
      refine congrArg (Option.map JsValue.obj) (parseShape_congr ?_)
      simp only [required, List.forall_mem_cons, List.not_mem_nil, false_implies, implies_true,
        and_true]
      simp [JsValue.getOwn, lookup_cons_if, keys, readMember, substitute]
  | _ => rfl

/-- These are the nested members of a record. -/
theorem record_members (record : AuditRecord) :
    (JsValue.obj record.ownProps).getOwn "envelope" = record.envelope.toJs ∧
      (JsValue.obj record.ownProps).getOwn "decision" = record.decision.toJs ∧
      (JsValue.obj record.ownProps).getOwn "decision_basis" =
        .arr (record.decisionBasis.map DecisionBasis.toJs) ∧
      (JsValue.obj record.ownProps).getOwn "plan" =
        (record.plan.map AuditPlanSnapshot.toJs).getD .undefined ∧
      (JsValue.obj record.ownProps).getOwn "supersedes" =
        (record.supersedes.map Supersession.toJs).getD .undefined ∧
      (JsValue.obj record.ownProps).getOwn "kernelIdentity" =
        (record.kernelIdentity.map KernelIdentity.toJs).getD .undefined ∧
      (JsValue.obj record.ownProps).getOwn "authoritySnapshot" =
        (record.authoritySnapshot.map RecordedAuthoritySnapshot.toJs).getD .undefined ∧
      (JsValue.obj record.ownProps).getOwn "aggregateSnapshot" =
        (record.aggregateSnapshot.map RecordedAggregateSnapshot.toJs).getD .undefined ∧
      (JsValue.obj record.ownProps).getOwn "signature" =
        (record.signature.map AuditSignature.toJs).getD .undefined := by
  have kept {name : JsString} (bound : name ∉ strippedFields) :
      (JsValue.obj record.ownProps).getOwn name = field record.props name :=
    field_auditRecord record bound
  refine ⟨?_, ?_, ?_, ?_, ?_, ?_, ?_, ?_, field_signature record⟩
  all_goals
    rw [kept (by decide)]
    simp [field, BaseRecord.props, JsValue.getOwn, List.lookup_append, lookup_optionalProp,
      lookup_cons_if]

/-- The schema of a record declares these names. -/
def recordNames : List JsString :=
  ["version", "intentHash", "envelope", "decision", "decision_basis", "resourceVersion", "at",
    "durationMs", "plan", "supersedes", "kernelIdentity", "policyVersion", "kernelVersion",
    "auditHash", "signature", "authoritySnapshot", "aggregateSnapshot", "metadata",
    "prevAuditHash"]

theorem record_keys (record : AuditRecord) : List.Sublist (keys record.ownProps)
    (baseFields ++ ([utf16 "metadata"] ++ [utf16 "auditHash"] ++ [utf16 "signature"] ++
      [utf16 "prevAuditHash"])) := by
  rw [auditRecord_ownProps]
  simp only [keys_append]
  apply (baseRecord_keys _).append
  repeat' apply List.Sublist.append
  all_goals exact keys_optionalProp _ _

/-- A received record is covered in full. -/
theorem covers_received {record : AuditRecord} (typed : SnapshotsTyped record.toBaseRecord) :
    Covers (auditRecordSchema datetime) (received record).toJs := by
  have envelope := @covers_envelope (receivedEnvelope record.envelope) rfl
  have decision : Covers decisionSchema (receivedDecision record.decision).toJs := by
    apply covers_decision
    intro rewritten reason bases same
    cases plain : record.decision with
    | rewrite other _ _ =>
        rw [plain, receivedDecision] at same
        cases same
        rfl
    | _ =>
        rw [plain] at same
        cases same
  obtain ⟨envelopeIs, decisionIs, basisIs, planIs, supersedesIs, identityIs, authorityIs,
    aggregateIs, signatureIs⟩ := record_members (received record)
  change Covers (auditRecordSchema datetime) (.obj (received record).ownProps)
  have declared : ∀ name ∈ baseFields ++ ([utf16 "metadata"] ++ [utf16 "auditHash"] ++
      [utf16 "signature"] ++ [utf16 "prevAuditHash"]), name ∈ recordNames := by decide
  refine covers_object _ (record_keys (received record)) (by decide) declared ?_
  simp only [auditRecordShape, required, optional, List.forall_mem_cons, List.not_mem_nil, false_implies,
    implies_true, and_true]
  refine ⟨.number _ _, .text _ _, ?_, ?_, ?_, .text _ _, .text _ _, .number _ _, ?_, ?_, ?_,
    .text _ _, .text _ _, .text _ _, ?_, ?_, ?_, .record _ _, .text _ _⟩
  · exact envelopeIs ▸ envelope
  · exact decisionIs ▸ decision
  · exact basisIs ▸ covers_bases record.decisionBasis
  · exact planIs ▸ covers_map AuditPlanSnapshot.toJs fun plan _ => covers_plan plan
  · exact supersedesIs ▸ covers_map Supersession.toJs fun link _ => covers_supersession link
  · exact identityIs ▸ covers_map KernelIdentity.toJs fun identity _ => covers_identity identity
  · exact signatureIs ▸ covers_map AuditSignature.toJs
      fun signature _ => covers_signature signature
  · exact authorityIs ▸ covers_map RecordedAuthoritySnapshot.toJs
      fun recorded present => covers_authoritySnapshot (typed.authority recorded present)
  · exact aggregateIs ▸ covers_map RecordedAggregateSnapshot.toJs
      fun recorded present => covers_aggregateSnapshot (typed.aggregate recorded present)

theorem keys_received (record : AuditRecord) :
    keys (received record).ownProps = keys record.ownProps := by
  rw [auditRecord_ownProps, auditRecord_ownProps]
  simp only [BaseRecord.props, keys_append]
  rfl

/-- The received record has the other fields of the record. -/
theorem field_received (record : AuditRecord) {name : JsString} (notEnvelope : name ≠ utf16 "envelope")
    (notDecision : name ≠ utf16 "decision") :
    (JsValue.obj (received record).ownProps).getOwn name =
      (JsValue.obj record.ownProps).getOwn name := by
  simp only [JsValue.getOwn, auditRecord_ownProps, BaseRecord.props, List.lookup_append,
    lookup_cons_if, notEnvelope, notDecision, if_false]
  rfl

/-- The schema does not see what the received record lacks. -/
theorem parse_received (record : AuditRecord) :
    (auditRecordSchema datetime).parse (received record).toJs =
      (auditRecordSchema datetime).parse record.toJs := by
  change (auditRecordSchema datetime).parse (.obj (received record).ownProps) =
    (auditRecordSchema datetime).parse (.obj record.ownProps)
  rw [auditRecordSchema, WireSchema.parse, WireSchema.parse]
  refine congrArg (Option.map JsValue.obj) (parseShape_congr ?_)
  obtain ⟨envelopeIs, decisionIs, -⟩ := record_members record
  obtain ⟨receivedEnvelopeIs, receivedDecisionIs, -⟩ := record_members (received record)
  have kept (name : JsString) (optional : Bool) (parse : JsValue → Option JsValue)
      (notEnvelope : name ≠ utf16 "envelope") (notDecision : name ≠ utf16 "decision") :
      readMember optional parse ((JsValue.obj (received record).ownProps).getOwn name) =
        readMember optional parse ((JsValue.obj record.ownProps).getOwn name) := by
    rw [field_received record notEnvelope notDecision]
  simp only [auditRecordShape, required, optional, keys_received, and_true, List.forall_mem_cons, List.not_mem_nil,
    false_implies, implies_true]
  refine ⟨kept _ _ _ (by decide) (by decide), kept _ _ _ (by decide) (by decide), ?_, ?_,
    kept _ _ _ (by decide) (by decide), kept _ _ _ (by decide) (by decide),
    kept _ _ _ (by decide) (by decide), kept _ _ _ (by decide) (by decide),
    kept _ _ _ (by decide) (by decide), kept _ _ _ (by decide) (by decide),
    kept _ _ _ (by decide) (by decide), kept _ _ _ (by decide) (by decide),
    kept _ _ _ (by decide) (by decide), kept _ _ _ (by decide) (by decide),
    kept _ _ _ (by decide) (by decide), kept _ _ _ (by decide) (by decide),
    kept _ _ _ (by decide) (by decide), kept _ _ _ (by decide) (by decide),
    kept _ _ _ (by decide) (by decide)⟩
  · rw [envelopeIs, receivedEnvelopeIs]
    exact parse_receivedEnvelope record.envelope
  · rw [decisionIs, receivedDecisionIs]
    exact parse_receivedDecision record.decision

/-- The console receives the record without its roles, in another order. -/
theorem parsed_rearranged {record : AuditRecord} {wire : JsValue}
    (typed : SnapshotsTyped record.toBaseRecord)
    (parsed : (auditRecordSchema datetime).parse record.toJs = some wire) :
    ∃ members, wire = .obj members ∧ (keys members).Nodup ∧
      Rearranged False (received record).toJs wire ∧ Rearranged True record.toJs wire := by
  have wellNamed := auditRecordSchema_wellNamed datetime
  have exact : Rearranged False (received record).toJs wire :=
    parse_rearranged wellNamed (.inr (covers_received typed)) ((parse_received record).trans parsed)
  obtain ⟨members, rfl, distinct⟩ :=
    Rearranged.obj_members exact (auditRecord_nodup (received record))
  exact ⟨members, rfl, distinct, exact, parse_rearranged wellNamed (.inl trivial) parsed⟩

/-- A member without members of its own arrives as it is. -/
theorem parsed_leaf {shape : List (JsString × Bool × WireSchema)} {props members : Props JsValue}
    (parsed : parseShape shape props = some members) (distinct : (keys shape).Nodup)
    {name : JsString} {optional : Bool} {schema : WireSchema}
    (inside : (name, optional, schema) ∈ shape)
    (leaf : schema.IsLeaf) :
    (JsValue.obj members).getOwn name = (JsValue.obj props).getOwn name := by
  have read := parseShape_getOwn parsed distinct inside
  dsimp only at read
  unfold readMember at read
  split at read
  · exact (Option.some.inj read).symm
  · exact parse_leaf leaf read

/-- A signature arrives as it is. -/
theorem parse_signature (signature : AuditSignature) :
    (WireSchema.object [required "keyId" anyText, required "alg" anyText,
      required "value" anyText]).parse signature.toJs = some signature.toJs := by
  simp [WireSchema.parse, parseShape, readMember, putMember, required, anyText,
    AuditSignature.toJs, getOwn_cons, JsValue.isUndefined]

theorem parsed_signature {record : AuditRecord} {members : Props JsValue}
    (parsed : (auditRecordSchema datetime).parse record.toJs = some (.obj members)) :
    field members "signature" = field record.ownProps "signature" ∧
      field members "prevAuditHash" = field record.ownProps "prevAuditHash" ∧
      field members "metadata" = field record.ownProps "metadata" := by
  change (auditRecordSchema datetime).parse (.obj record.ownProps) = _ at parsed
  rw [auditRecordSchema, WireSchema.parse, Option.map_eq_some_iff] at parsed
  obtain ⟨_, run, ⟨⟩⟩ := parsed
  have distinct : recordNames.Nodup := by decide
  have link : optional "prevAuditHash" anyText ∈ auditRecordShape datetime := by
    simp [auditRecordShape]
  have metadata : optional "metadata" (.record fun _ => true) ∈ auditRecordShape datetime := by
    simp [auditRecordShape]
  have signature : optional "signature" (.object [required "keyId" anyText, required "alg" anyText,
      required "value" anyText]) ∈ auditRecordShape datetime := by
    simp [auditRecordShape]
  refine ⟨?_, parsed_leaf run distinct link trivial, parsed_leaf run distinct metadata trivial⟩
  have read := parseShape_getOwn run distinct signature
  change readMember true _ (field record.ownProps "signature") =
    some (field members "signature") at read
  rw [field_signature] at read ⊢
  cases signed : record.signature with
  | none =>
      rw [signed] at read
      exact (Option.some.inj read).symm
  | some signature =>
      rw [signed] at read
      change WireSchema.parse _ signature.toJs = some _ at read
      rw [optional, parse_signature] at read
      exact (Option.some.inj read).symm

end Parsing

section Hashing

variable {host : Host}

theorem storedHashInput_rearranged {lossy : Prop} {envelope wire : JsValue}
    (rearranged : Rearranged lossy envelope wire) :
    Rearranged lossy (storedHashInput envelope) (storedHashInput wire) := by
  refine .obj (by simp [keys]) (.inr (by simp [keys])) fun key => ?_
  simp only [getOwn_cons]
  split_ifs
  all_goals first | exact rearranged.getOwn _ | exact fun _ => .same _

theorem strip_rearranged {lossy : Prop} {left right : Props JsValue}
    (leftDistinct : (keys left).Nodup) (rightDistinct : (keys right).Nodup)
    (rearranged : Rearranged lossy (.obj left) (.obj right)) :
    Rearranged lossy (.obj (strip left)) (.obj (strip right)) := by
  refine .obj (strip_nodup rightDistinct) (.inr (strip_nodup leftDistinct)) fun name => ?_
  change ¬(lossy ∧ field (strip right) name = .undefined) →
    Rearranged lossy (field (strip left) name) (field (strip right) name)
  rw [getOwn_strip leftDistinct, getOwn_strip rightDistinct]
  split
  · exact fun _ => .same _
  · exact rearranged.getOwn name

/-- The stripped record is the hashed part of the record. -/
theorem strip_auditRecord (record : AuditRecord) :
    Rearranged False (.obj record.props) (.obj (strip record.ownProps)) := by
  refine .obj (strip_nodup (auditRecord_nodup record)) (.inr (baseRecord_nodup _)) fun name _ => ?_
  change Rearranged False (field record.props name) (field (strip record.ownProps) name)
  rw [getOwn_strip (auditRecord_nodup record)]
  split
  · next stripped =>
      rw [field, JsValue.getOwn, lookup_base_of_stripped _ stripped]
      exact .same _
  · next kept =>
      rw [field_auditRecord record kept]
      exact .same _

/-- Only an invalid signature can be found once both hashes fit. -/
theorem signatureMismatch_invalid {verifySignature : Option (JsValue → JsValue → Except Thrown Bool)}
    {stored sig : JsValue} {mismatch : AuditRecordVerification}
    (found : signatureMismatch host verifySignature stored sig = .ok (some mismatch)) :
    ∃ keyId alg, mismatch = .invalidSignature keyId alg := by
  rw [signatureMismatch] at found
  split at found
  · cases found
  · obtain ⟨alg, -, found⟩ := bind_eq_ok.mp found
    dsimp only at found
    split at found
    · obtain ⟨expected, -, found⟩ := bind_eq_ok.mp found
      split at found
      · cases found
      · cases found
        exact ⟨_, _, rfl⟩
    · split at found
      · obtain ⟨passed, -, found⟩ := bind_eq_ok.mp found
        split at found
        · cases found
        · cases found
          exact ⟨_, _, rfl⟩
      · cases found

/-- The verification of a record whose envelope has its own hash. -/
theorem verify_of_envelope {verifySignature : Option (JsValue → JsValue → Except Thrown Bool)}
    {record : Props JsValue} {stored derived : JsString}
    (envelope : envelopeMismatch host (field record "envelope") = .ok none)
    (auditHash : field record "auditHash" = .str stored)
    (hash : sha256Canonical host (.obj (strip record)) = .ok derived) :
    verifyAuditRecord host verifySignature record =
      if derived = stored then do
        let mismatch ← signatureMismatch host verifySignature (.str stored) (field record "signature")
        return mismatch.getD .verified
      else .ok (.tampered derived (.str stored)) := by
  rw [verifyAuditRecord, envelope, auditHash, hash]
  by_cases same : derived = stored
  · have equal := (timingSafeHexEqual_iff derived stored).mpr same
    simp only [ok_bind, equal, if_pos same]
    cases signatureMismatch host verifySignature (.str stored) (field record "signature") with
    | error raised => rfl
    | ok mismatch => cases mismatch <;> rfl
  · have unequal : timingSafeHexEqual (.str derived) (.str stored) = false := by
      rw [Bool.eq_false_iff, Ne, timingSafeHexEqual_iff]
      exact same
    simp only [ok_bind, unequal, if_neg same]
    rfl

/-- The envelope of the record is checked against the hash it carries. -/
theorem envelopeMismatch_of_hash {envelope : JsValue} {derived stored : JsString}
    (present : isNullish envelope = false)
    (derives : sha256Canonical host (storedHashInput envelope) = .ok derived)
    (carries : envelope.getOwn "intentHash" = .str stored) :
    envelopeMismatch host envelope = .ok (if derived = stored then none
      else some (.envelopeIntentMismatch derived (.str stored))) := by
  rw [envelopeMismatch, present, derives]
  simp only [Bool.false_eq_true, if_false, ok_bind, carries]
  by_cases same : derived = stored
  · simp only [(timingSafeHexEqual_iff derived stored).mpr same, if_pos same]
    rfl
  · have unequal : timingSafeHexEqual (.str derived) (.str stored) = false := by
      rw [Bool.eq_false_iff, Ne, timingSafeHexEqual_iff]
      exact same
    simp only [unequal, if_neg same]
    rfl

theorem rearranged_text {lossy : Prop} {text : JsString} {wire : JsValue}
    (rearranged : Rearranged lossy (.str text) wire) : wire = .str text := by
  cases rearranged
  rfl

theorem actor_nodup (actor : IntentActor) : (keys actor.toJs.ownProps).Nodup := by
  have names : [utf16 "principal", "sessionId", "role", "attestation"].Nodup := by decide
  refine names.sublist ?_
  simp only [IntentActor.toJs, JsValue.ownProps, keys_append]
  exact ((List.Sublist.refl _).append (keys_optionalProp "role" _)).append
    (keys_optionalProp "attestation" _)

theorem envelope_nodup (envelope : IntentEnvelope) : (keys envelope.toJs.ownProps).Nodup := by
  have names : [utf16 "version", "kind", "payload", "createdAt", "nonce", "actor", "taint",
      "origin", "intentHash", "resourceRefs"].Nodup := by decide
  refine names.sublist ?_
  simp only [IntentEnvelope.toJs, JsValue.ownProps, keys_append]
  exact (List.Sublist.refl _).append (keys_optionalProp "resourceRefs" _)

theorem getOwn_role (actor : IntentActor) :
    actor.toJs.getOwn "role" = (actor.role.map .str).getD .undefined := by
  simp [IntentActor.toJs, JsValue.getOwn, lookup_optionalProp, lookup_cons_if, List.lookup_append]

/-- An actor with the text of what the console receives has no role. -/
theorem sameText_actor {actor : IntentActor} {wire : JsValue}
    (rearranged : Rearranged False (withoutRole actor).toJs wire)
    (same : SameText host actor.toJs wire) : actor.role = none := by
  obtain ⟨members, rfl, distinct⟩ := Rearranged.obj_members rearranged (actor_nodup (withoutRole actor))
  have absent := (rearranged.getOwn "role" (fun lost => lost.1)).isUndefined
  rw [getOwn_role] at absent
  have defined := (same.getOwn (actor_nodup actor) distinct (by decide : utf16 "role" ≠ protoKey)).1
  change (actor.toJs.getOwn "role").isUndefined = _ at defined
  rw [getOwn_role, ← absent] at defined
  cases role : actor.role with
  | none => rfl
  | some text =>
      rw [role] at defined
      cases defined

theorem sameText_envelope {envelope : IntentEnvelope} {wire : JsValue}
    (rearranged : Rearranged False (receivedEnvelope envelope).toJs wire)
    (same : SameText host envelope.toJs wire) : envelope.actor.role = none := by
  obtain ⟨members, rfl, distinct⟩ :=
    Rearranged.obj_members rearranged (envelope_nodup (receivedEnvelope envelope))
  apply sameText_actor (rearranged.getOwn "actor" (fun lost => lost.1))
  exact (same.getOwn (envelope_nodup envelope) distinct (by decide : utf16 "actor" ≠ protoKey)).2 rfl

/-- The hash input of an envelope shows its actor. -/
theorem sameText_storedHashInput {envelope : IntentEnvelope} {wire : JsValue}
    (rearranged : Rearranged False (receivedEnvelope envelope).toJs wire)
    (same : SameText host (storedHashInput envelope.toJs) (storedHashInput wire)) :
    envelope.actor.role = none := by
  apply sameText_actor (rearranged.getOwn "actor" (fun lost => lost.1))
  exact (same.getOwn (by simp [keys]) (by simp [keys])
    (by decide : utf16 "actor" ≠ protoKey)).2 rfl

theorem sameText_decision {decision : Decision} {wire : JsValue}
    (rearranged : Rearranged False (receivedDecision decision).toJs wire)
    (same : SameText host decision.toJs wire) (rewritten : IntentEnvelope) (reason : JsString)
    (bases : List DecisionBasis) (substitutes : decision = .rewrite rewritten reason bases) :
    rewritten.actor.role = none := by
  subst substitutes
  obtain ⟨members, rfl, distinct⟩ := Rearranged.obj_members rearranged (by simp [keys])
  apply sameText_envelope (rearranged.getOwn "rewritten" (fun lost => lost.1))
  exact (same.getOwn (by simp [keys]) distinct (by decide : utf16 "rewritten" ≠ protoKey)).2 rfl

end Hashing

/-- The wire record is verified like the record, has the same hashes and metadata, and replays to
the same envelope. -/
structure SameEvidence (host : Host)
    (verifySignature : Option (JsValue → JsValue → Except Thrown Bool)) (record : AuditRecord)
    (wire : JsValue) : Prop where
  verification : verifyAuditRecord host verifySignature wire.ownProps =
    verifyAuditRecord host verifySignature record.ownProps
  auditHash : field wire.ownProps "auditHash" = field record.ownProps "auditHash"
  prevAuditHash : field wire.ownProps "prevAuditHash" = field record.ownProps "prevAuditHash"
  metadata : field wire.ownProps "metadata" = field record.ownProps "metadata"
  replay : ∀ clock, replayEnvelopeFromAudit host clock (received record) =
    replayEnvelopeFromAudit host clock record

section Evidence

variable {host : Host} {envelopeClock clock : JsString} {envelopeInput : BuildEnvelopeInput}
  {input : BuildAuditInput} {record : AuditRecord}

/-- A built record passes both hash checks. -/
theorem built_hashes (built : buildEnvelope host envelopeClock envelopeInput = .ok input.envelope)
    (recorded : buildAuditRecord host clock input = .ok record) :
    sha256Canonical host (storedHashInput record.envelope.toJs) = .ok record.envelope.intentHash ∧
      ∃ stored, field record.ownProps "auditHash" = .str stored ∧
        sha256Canonical host (.obj (strip record.ownProps)) = .ok stored := by
  obtain ⟨fields, -, hash⟩ := buildEnvelope_eq_ok.mp built
  obtain ⟨plan, stored, signature, -, derived, -, whole⟩ := buildAuditRecord_eq_ok.mp recorded
  have base : record.toBaseRecord = input.baseRecord clock plan := by rw [whole]
  have auditHash : record.auditHash = some stored := by rw [whole]
  rw [← base] at derived
  refine ⟨?_, stored, ?_, ?_⟩
  · rw [(buildAuditRecord_subject recorded).1, storedHashInput_toJs, fields]
    exact hash
  · rw [field_auditHash, auditHash]
    rfl
  · obtain ⟨other, run, same⟩ := sha256Canonical_rearranged (strip_auditRecord record) derived
    rw [run, same id]

theorem envelope_carries {envelope : IntentEnvelope} {wire : JsValue}
    (rearranged : Rearranged False envelope.toJs wire) :
    isNullish wire = false ∧ wire.getOwn "intentHash" = .str envelope.intentHash := by
  have carried : envelope.toJs.getOwn "intentHash" = .str envelope.intentHash := by
    simp [IntentEnvelope.toJs, JsValue.getOwn, lookup_cons_if]
  have arrives := rearranged.getOwn "intentHash" (fun lost => lost.1)
  rw [carried] at arrives
  refine ⟨?_, rearranged_text arrives⟩
  obtain ⟨members, rfl, -⟩ := Rearranged.obj_members rearranged (envelope_nodup envelope)
  rfl

/-- No check of a built record finds its hashes wrong. -/
theorem built_verification {verifySignature : Option (JsValue → JsValue → Except Thrown Bool)}
    (built : buildEnvelope host envelopeClock envelopeInput = .ok input.envelope)
    (recorded : buildAuditRecord host clock input = .ok record) (derived : JsString)
    (stored : JsValue) :
    verifyAuditRecord host verifySignature record.ownProps ≠ .ok (.tampered derived stored) ∧
      verifyAuditRecord host verifySignature record.ownProps ≠
        .ok (.envelopeIntentMismatch derived stored) := by
  obtain ⟨intentHash, auditHash, auditField, hash⟩ := built_hashes built recorded
  obtain ⟨present, carries⟩ := envelope_carries (.same record.envelope.toJs)
  have envelopeIs : field record.ownProps "envelope" = record.envelope.toJs :=
    (record_members record).1
  have envelope : envelopeMismatch host (field record.ownProps "envelope") = .ok none := by
    rw [envelopeIs, envelopeMismatch_of_hash present intentHash carries, if_pos rfl]
  rw [verify_of_envelope envelope auditField hash, if_pos rfl]
  cases found : signatureMismatch host verifySignature (.str auditHash)
      (field record.ownProps "signature") with
  | error raised => exact ⟨nofun, nofun⟩
  | ok mismatch =>
      cases mismatch with
      | none => exact ⟨nofun, nofun⟩
      | some mismatch =>
          obtain ⟨keyId, alg, rfl⟩ := signatureMismatch_invalid found
          exact ⟨nofun, nofun⟩

/-- The schemas keep the evidence of a record exactly when no actor in it has a role. -/
theorem auditRecordSchema_keepsEvidence_iff (free : host.CollisionFree) {datetime : JsString → Bool}
    {wire : JsValue}
    (verifySignature : Option (JsValue → JsValue → Except Thrown Bool))
    (built : buildEnvelope host envelopeClock envelopeInput = .ok input.envelope)
    (recorded : buildAuditRecord host clock input = .ok record)
    (typed : SnapshotsTyped record.toBaseRecord)
    (parsed : (auditRecordSchema datetime).parse record.toJs = some wire) :
    Rearranged False (received record).toJs wire ∧
      (SameEvidence host verifySignature record wire ↔
        record.envelope.actor.role = none ∧
          ∀ rewritten reason bases, record.decision = .rewrite rewritten reason bases →
            rewritten.actor.role = none) := by
  obtain ⟨members, rfl, distinct, exact, lossy⟩ := parsed_rearranged typed parsed
  refine ⟨exact, ?_⟩
  obtain ⟨intentHash, stored, auditField, hash⟩ := built_hashes built recorded
  have recordDistinct := auditRecord_nodup record
  obtain ⟨envelopeIs, decisionIs, -⟩ := record_members record
  obtain ⟨receivedEnvelopeIs, receivedDecisionIs, -⟩ := record_members (received record)
  have wireEnvelope : Rearranged False (receivedEnvelope record.envelope).toJs
      (field members "envelope") := by
    have member := exact.getOwn "envelope" (fun lost => lost.1)
    change Rearranged False ((JsValue.obj (received record).ownProps).getOwn "envelope") _ at member
    rwa [receivedEnvelopeIs] at member
  have wireDecision : Rearranged False (receivedDecision record.decision).toJs
      (field members "decision") := by
    have member := exact.getOwn "decision" (fun lost => lost.1)
    change Rearranged False ((JsValue.obj (received record).ownProps).getOwn "decision") _ at member
    rwa [receivedDecisionIs] at member
  have wireAuditHash : field members "auditHash" = .str stored := by
    have member := exact.getOwn "auditHash" (fun lost => lost.1)
    change Rearranged False ((JsValue.obj (received record).ownProps).getOwn "auditHash") _ at member
    rw [field_received record (by decide) (by decide)] at member
    change Rearranged False (field record.ownProps "auditHash") _ at member
    rw [auditField] at member
    exact rearranged_text member
  obtain ⟨present, carries⟩ := envelope_carries wireEnvelope
  change (field members "envelope").getOwn "intentHash" = .str record.envelope.intentHash at carries
  obtain ⟨sameSignature, sameLink, sameMetadata⟩ := parsed_signature parsed
  constructor
  · intro same
    have lossyEnvelope : Rearranged True record.envelope.toJs (field members "envelope") := by
      have member := lossy.getOwn "envelope" (by
        rintro ⟨-, absent⟩
        change field members "envelope" = .undefined at absent
        rw [absent] at present
        cases present)
      change Rearranged True ((JsValue.obj record.ownProps).getOwn "envelope") _ at member
      rwa [envelopeIs] at member
    obtain ⟨derivedIntent, derives, -⟩ :=
      sha256Canonical_rearranged (storedHashInput_rearranged lossyEnvelope) intentHash
    have checked := envelopeMismatch_of_hash present derives carries
    obtain ⟨derived, derivesHash, -⟩ :=
      sha256Canonical_rearranged (strip_rearranged recordDistinct distinct lossy) hash
    have verification := same.verification
    by_cases sameIntent : derivedIntent = record.envelope.intentHash
    · have roleless := sameText_storedHashInput wireEnvelope
        (sameText_of_sha256Canonical free intentHash (sameIntent ▸ derives))
      refine ⟨roleless, ?_⟩
      rw [if_pos sameIntent] at checked
      change verifyAuditRecord host verifySignature members = _ at verification
      rw [verify_of_envelope checked wireAuditHash derivesHash] at verification
      by_cases sameHash : derived = stored
      · have texts := (sameText_of_sha256Canonical free hash (sameHash ▸ derivesHash)).getOwn
          (strip_nodup recordDistinct) (strip_nodup distinct)
          (by decide : utf16 "decision" ≠ protoKey)
        have left : (JsValue.obj (strip record.ownProps)).getOwn "decision" =
            record.decision.toJs := by
          change field (strip record.ownProps) "decision" = _
          rw [getOwn_strip recordDistinct, if_neg (by decide)]
          exact decisionIs
        have right : (JsValue.obj (strip members)).getOwn "decision" = field members "decision" := by
          change field (strip members) "decision" = _
          rw [getOwn_strip distinct, if_neg (by decide)]
        rw [left, right] at texts
        refine sameText_decision wireDecision (texts.2 ?_)
        cases record.decision <;> rfl
      · rw [if_neg sameHash] at verification
        exact absurd verification.symm (built_verification built recorded derived (.str stored)).1
    · rw [if_neg sameIntent] at checked
      have mismatch : verifyAuditRecord host verifySignature members =
          .ok (.envelopeIntentMismatch derivedIntent (.str record.envelope.intentHash)) := by
        rw [verifyAuditRecord, checked]
        rfl
      exact absurd (verification.symm.trans mismatch)
        (built_verification built recorded derivedIntent (.str record.envelope.intentHash)).2
  · rintro ⟨roleless, substituted⟩
    have whole := received_of_roleless roleless substituted
    have actor : receivedEnvelope record.envelope = record.envelope :=
      receivedEnvelope_of_roleless roleless
    rw [whole] at exact
    rw [actor] at wireEnvelope
    obtain ⟨derivedIntent, derives, sameIntent⟩ :=
      sha256Canonical_rearranged (storedHashInput_rearranged wireEnvelope) intentHash
    obtain ⟨derived, derivesHash, sameHash⟩ :=
      sha256Canonical_rearranged (strip_rearranged recordDistinct distinct exact) hash
    have checked : envelopeMismatch host (field members "envelope") = .ok none := by
      rw [envelopeMismatch_of_hash present derives carries, if_pos (sameIntent id)]
    have ownChecked : envelopeMismatch host (field record.ownProps "envelope") = .ok none := by
      obtain ⟨ownPresent, ownCarries⟩ := envelope_carries (.same record.envelope.toJs)
      change envelopeMismatch host ((JsValue.obj record.ownProps).getOwn "envelope") = _
      rw [envelopeIs, envelopeMismatch_of_hash ownPresent intentHash ownCarries, if_pos rfl]
    refine ⟨?_, wireAuditHash.trans auditField.symm, sameLink, sameMetadata,
      fun clock => by rw [whole]⟩
    change verifyAuditRecord host verifySignature members = _
    rw [verify_of_envelope checked wireAuditHash derivesHash,
      verify_of_envelope ownChecked auditField hash, sameSignature, sameHash id]

end Evidence

/-- The datetime check accepts the time of the sample records. -/
def sampleDatetime (text : JsString) : Bool := text = utf16 "2026-01-01T00:00:00.005Z"

/-- The record of the sample payment keeps its evidence. -/
theorem auditRecordSchema_keepsEvidence_iff_samplePayment :
    ∃ record wire, buildAuditRecord auditHost []
        (auditedInput (auditedEnvelope .llm auditedIntentHash) none) = .ok record ∧
      (auditRecordSchema sampleDatetime).parse record.toJs = some wire ∧
        Rearranged False (received record).toJs wire ∧
        (SameEvidence auditHost none record wire ↔
          record.envelope.actor.role = none ∧
            ∀ rewritten reason bases, record.decision = .rewrite rewritten reason bases →
              rewritten.actor.role = none) := by
  have hash : sha256Canonical auditHost (intentHashInput (samplePayment 1).hashedFields) =
      .ok auditedIntentHash := by decide +kernel
  have built : buildEnvelope auditHost "2026-01-01T00:00:00.000Z" (samplePayment 1) =
      .ok (auditedEnvelope .llm auditedIntentHash) := buildEnvelope_eq_ok.mpr ⟨rfl, rfl, hash⟩
  have free : auditHost.CollisionFree := Host.ofDigests_collisionFree (by decide) (by decide)
  have recorded : buildAuditRecord auditHost []
      (auditedInput (auditedEnvelope .llm auditedIntentHash) none) = .ok
        { (auditedInput (auditedEnvelope .llm auditedIntentHash) none).baseRecord [] none with
          metadata := none, auditHash := some auditedHash, signature := none,
          prevAuditHash := none } :=
    buildAuditRecord_eq_ok.mpr ⟨none, auditedHash, none, rfl, by decide +kernel, rfl, rfl⟩
  have accepted : ((auditRecordSchema sampleDatetime).parse (AuditRecord.toJs
      { (auditedInput (auditedEnvelope .llm auditedIntentHash) none).baseRecord [] none with
        metadata := none, auditHash := some auditedHash, signature := none,
        prevAuditHash := none })).isSome = true := by decide +kernel
  obtain ⟨wire, parsed⟩ := Option.isSome_iff_exists.mp accepted
  refine ⟨_, wire, recorded, parsed, ?_⟩
  exact auditRecordSchema_keepsEvidence_iff free none built recorded
    { authority := nofun, aggregate := nofun } parsed

/-- An admin makes this payment. -/
def adminPayment : BuildEnvelopeInput :=
  { samplePayment 1 with
    actor := { principal := .llm, sessionId := "s-1", role := some "admin", attestation := none } }

def adminIntentHash : JsString :=
  "10077995956462f1c2f4c350cf32b8de04034754ea604dd498439e52ee44af5e"

def adminHash : JsString := "4e6c2f37c78c3cbffc15948384da188e20cb9445b0de063254b407b5de1df818"

def adminEnvelope : IntentEnvelope where
  toHashedFields := adminPayment.hashedFields
  createdAt := "2026-01-01T00:00:00.000Z"
  intentHash := adminIntentHash

def adminRecord : AuditRecord :=
  { (auditedInput adminEnvelope none).baseRecord [] none with
    metadata := none, auditHash := some adminHash, signature := none, prevAuditHash := none }

/-- The digests of the envelope, of the envelope without the role and of the record are their
SHA-256 digests. -/
def adminHost : Host := .ofDigests
  [(utf16 "\x7b\"actor\":\x7b\"principal\":\"llm\",\"role\":\"admin\",\"sessionId\":\"s-1\"\x7d," ++
        utf16 "\"kind\":\"payment.send\",\"nonce\":\"n-1\",\"origin\":\"LLM\",\"payload\":" ++
        utf16 "\x7b\"amount\":1\x7d,\"taint\":\"UNTRUSTED\",\"version\":2\x7d",
      adminIntentHash),
    (samplePaymentText "1", auditedIntentHash),
    (utf16 "\x7b\"at\":\"2026-01-01T00:00:00.005Z\",\"decision\":\x7b\"basis\":[],\"kind\":" ++
        utf16 "\"EXECUTE\"\x7d,\"decision_basis\":[],\"durationMs\":5,\"envelope\":\x7b\"actor\":" ++
        utf16 "\x7b\"principal\":\"llm\",\"role\":\"admin\",\"sessionId\":\"s-1\"\x7d," ++
        utf16 "\"createdAt\":\"2026-01-01T00:00:00.000Z\",\"intentHash\":\"" ++ adminIntentHash ++
        utf16 "\",\"kind\":\"payment.send\",\"nonce\":\"n-1\",\"origin\":\"LLM\",\"payload\":" ++
        utf16 "\x7b\"amount\":1\x7d,\"taint\":\"UNTRUSTED\",\"version\":2\x7d,\"intentHash\":\"" ++
        adminIntentHash ++ utf16 "\",\"version\":5\x7d",
      adminHash)]

/-- These digests cover the envelope, the record and the two envelopes that are minted again. -/
theorem adminHost_digests :
    sha256Canonical adminHost (intentHashInput adminPayment.hashedFields) = .ok adminIntentHash ∧
      sha256Canonical adminHost (.obj ((auditedInput adminEnvelope none).baseRecord [] none).props) =
        .ok adminHash ∧
      sha256Canonical adminHost (intentHashInput (replayInput adminEnvelope).hashedFields) =
        .ok adminIntentHash ∧
      sha256Canonical adminHost
        (intentHashInput (replayInput (receivedEnvelope adminEnvelope)).hashedFields) =
          .ok auditedIntentHash := by
  unfold adminEnvelope
  unfold adminHost samplePaymentText auditedIntentHash adminIntentHash adminHash
  repeat rw [utf16_ofList]
  decide +kernel

/-- The console accepts the record and derives the hash without the role. -/
theorem adminRecord_received :
    ((auditRecordSchema sampleDatetime).parse adminRecord.toJs).map (fun wire =>
      sha256Canonical adminHost (storedHashInput (field wire.ownProps "envelope"))) =
        some (.ok auditedIntentHash) := by
  unfold adminRecord adminEnvelope
  unfold adminHost samplePaymentText auditedIntentHash adminIntentHash adminHash
  repeat rw [utf16_ofList]
  decide +kernel

theorem adminEnvelope_built :
    buildEnvelope adminHost "2026-01-01T00:00:00.000Z" adminPayment = .ok adminEnvelope :=
  buildEnvelope_eq_ok.mpr ⟨rfl, rfl, adminHost_digests.1⟩

theorem adminRecord_built :
    buildAuditRecord adminHost [] (auditedInput adminEnvelope none) = .ok adminRecord :=
  buildAuditRecord_eq_ok.mpr ⟨none, adminHash, none, rfl, adminHost_digests.2.1, rfl, rfl⟩

theorem adminRecord_verified :
    verifyAuditRecord adminHost none adminRecord.ownProps = .ok .verified := by
  obtain ⟨intentHash, stored, auditField, derived⟩ :=
    built_hashes adminEnvelope_built adminRecord_built
  obtain ⟨present, carries⟩ := envelope_carries (.same adminRecord.envelope.toJs)
  have envelopeIs : field adminRecord.ownProps "envelope" = adminRecord.envelope.toJs :=
    (record_members adminRecord).1
  have envelope : envelopeMismatch adminHost (field adminRecord.ownProps "envelope") = .ok none := by
    rw [envelopeIs, envelopeMismatch_of_hash present intentHash carries, if_pos rfl]
  rw [verify_of_envelope envelope auditField derived, if_pos rfl, field_signature]
  rfl

/-- The console sees a forged envelope. -/
theorem adminRecord_wire {wire : JsValue}
    (parsed : (auditRecordSchema sampleDatetime).parse adminRecord.toJs = some wire) :
    verifyAuditRecord adminHost none wire.ownProps =
      .ok (.envelopeIntentMismatch auditedIntentHash (.str adminIntentHash)) := by
  have derives := adminRecord_received
  rw [parsed] at derives
  have derived := Option.some.inj derives
  have typed : SnapshotsTyped adminRecord.toBaseRecord :=
    { authority := fun _ => nofun, aggregate := fun _ => nofun }
  obtain ⟨members, rfl, -, exact, -⟩ := parsed_rearranged typed parsed
  have wireEnvelope := exact.getOwn "envelope" (fun lost => lost.1)
  change Rearranged False ((JsValue.obj (received adminRecord).ownProps).getOwn "envelope") _
    at wireEnvelope
  rw [(record_members (received adminRecord)).1] at wireEnvelope
  obtain ⟨present, carries⟩ := envelope_carries wireEnvelope
  have different : auditedIntentHash ≠ adminIntentHash := by decide
  have mismatch := envelopeMismatch_of_hash present derived carries
  change envelopeMismatch adminHost (field members "envelope") = .ok (if
    auditedIntentHash = adminIntentHash then none else _) at mismatch
  rw [if_neg different] at mismatch
  change verifyAuditRecord adminHost none members = _
  rw [verifyAuditRecord, mismatch]
  rfl

theorem adminRecord_replays :
    replayEnvelopeFromAudit adminHost [] adminRecord = .ok adminEnvelope := by
  have built : buildEnvelope adminHost [] (replayInput adminEnvelope) = .ok adminEnvelope :=
    buildEnvelope_eq_ok.mpr ⟨rfl, rfl, adminHost_digests.2.2.1⟩
  exact replayEnvelopeFromAudit_eq_ok.mpr ⟨built, rfl⟩

theorem receivedAdmin_replay_throws :
    replayEnvelopeFromAudit adminHost [] (received adminRecord) =
      .error (replayMismatchError auditedIntentHash adminIntentHash) := by
  have subject : (received adminRecord).envelope = receivedEnvelope adminEnvelope := rfl
  have replayed : buildEnvelope adminHost [] (replayInput (received adminRecord).envelope) =
      .ok (auditedEnvelope .llm auditedIntentHash) := by
    rw [subject]
    exact buildEnvelope_eq_ok.mpr ⟨rfl, rfl, adminHost_digests.2.2.2⟩
  have different : auditedIntentHash ≠ adminIntentHash := by decide
  have mismatch := replayEnvelopeFromAudit_mismatch replayed (by rw [subject]; exact different)
  rw [mismatch, subject]
  rfl

theorem adminRecord_accepted :
    ((auditRecordSchema sampleDatetime).parse adminRecord.toJs).isSome = true := by
  have received := congrArg Option.isSome adminRecord_received
  rwa [Option.isSome_map] at received

/-- The record of the admin is sound, but the console takes its envelope for a forgery and cannot
replay it. -/
theorem adminRecord_flagged :
    buildEnvelope adminHost "2026-01-01T00:00:00.000Z" adminPayment = .ok adminEnvelope ∧
      buildAuditRecord adminHost [] (auditedInput adminEnvelope none) = .ok adminRecord ∧
      verifyAuditRecord adminHost none adminRecord.ownProps = .ok .verified ∧
      replayEnvelopeFromAudit adminHost [] adminRecord = .ok adminEnvelope ∧
      replayEnvelopeFromAudit adminHost [] (received adminRecord) =
        .error (replayMismatchError auditedIntentHash adminIntentHash) ∧
      ∃ wire, (auditRecordSchema sampleDatetime).parse adminRecord.toJs = some wire ∧
        verifyAuditRecord adminHost none wire.ownProps =
          .ok (.envelopeIntentMismatch auditedIntentHash (.str adminIntentHash)) := by
  obtain ⟨wire, parsed⟩ := Option.isSome_iff_exists.mp adminRecord_accepted
  exact ⟨adminEnvelope_built, adminRecord_built, adminRecord_verified, adminRecord_replays,
    receivedAdmin_replay_throws, wire, parsed, adminRecord_wire parsed⟩

end Adjudicate.AdminSdk
