/-
This file shows when the redaction of an access request reaches everything that is stored for it.
-/

import Adjudicate.AccessGovernance.Review
import Adjudicate.Agent.Decisions
import Adjudicate.Canonical.Finite
import Adjudicate.Js.JsonSchema
import Adjudicate.Primitives.RewriteFrame
import Adjudicate.Shell.Emission
import Adjudicate.Shell.Recording

namespace Adjudicate.AccessGovernance

open Js Canonical Adjudicate.Core Adjudicate.Kernel Adjudicate.Primitives Adjudicate.Shell
open Adjudicate.Audit (readProp AuditRecord)
open Adjudicate.Effect

/-- Some pattern of the pack matches the text. -/
def finds (environment : AccessEnvironment) (text : JsString) : Bool :=
  environment.ssn.test text || environment.email.test text

/-- The justification of the payload holds data that a pattern matches. -/
def Leaks (environment : AccessEnvironment) (payload : JsValue) : Prop :=
  ∃ text, payload.getOwn "justification" = .str text ∧ finds environment text = true

def redactText (environment : AccessEnvironment) (text : JsString) : Except Thrown FieldScan :=
  (piiPatterns environment).foldlM (scanPattern .rewrite text) ⟨[], false, text⟩

/-- The redaction of the text returns and leaves nothing that a pattern matches. -/
def Redactable (environment : AccessEnvironment) (text : JsString) : Prop :=
  ∃ scan, redactText environment text = .ok scan ∧ finds environment scan.redacted = false

def withJustification (props : Props JsValue) (text : JsString) : JsValue :=
  .obj (setOwn props "justification" (.str text))

section Frame

variable {props : Props JsValue} {text : JsString}

theorem getOwn_withJustification (key : JsString) :
    (withJustification props text).getOwn key =
      if key = utf16 "justification" then .str text else (JsValue.obj props).getOwn key := by
  rw [withJustification, JsValue.getOwn, lookup_setOwn]
  split <;> rfl

theorem getOwn_kept {key : JsString} (other : key ≠ utf16 "justification") :
    (withJustification props text).getOwn key = (JsValue.obj props).getOwn key := by
  rw [getOwn_withJustification, if_neg other]

theorem readProp_kept {key : JsString} (other : key ≠ utf16 "justification") :
    readProp (withJustification props text) key = readProp (.obj props) key :=
  congrArg Except.ok (getOwn_kept other)

theorem payloadKey_kept : payloadKey (withJustification props text) = payloadKey (.obj props) := by
  rw [payloadKey, payloadKey, readProp_kept (by decide), readProp_kept (by decide)]

theorem levelOf_kept : levelOf (withJustification props text) = levelOf (.obj props) := by
  rw [levelOf, levelOf, readProp_kept (by decide)]

theorem grantable_kept {state : AccessState} :
    Grantable state (withJustification props text) ↔ Grantable state (.obj props) := by
  have principal : (withJustification props text).getOwn "principal" =
      (JsValue.obj props).getOwn "principal" := getOwn_kept (by decide)
  constructor
  · rintro ⟨approved, few⟩
    rw [payloadKey_kept, levelOf_kept] at approved
    rw [principal] at few
    exact ⟨approved, few⟩
  · rintro ⟨approved, few⟩
    rw [← @payloadKey_kept props text, ← @levelOf_kept props text] at approved
    rw [← principal] at few
    exact ⟨approved, few⟩

theorem allFinite_withJustification (finite : AllFinite (.obj props)) :
    AllFinite (withJustification props text) := by
  rw [withJustification, allFinite_obj]
  rw [allFinite_obj] at finite
  intro property inside
  obtain old | new := mem_setOwn inside
  · exact finite property old
  · rw [new]
    trivial

end Frame

section Scan

variable {environment : AccessEnvironment} {text : JsString}

/-- A text without a match passes the scan as it is. -/
theorem redactText_clean (clean : finds environment text = false) :
    redactText environment text = .ok ⟨[], false, text⟩ := by
  rw [finds, Bool.or_eq_false_iff] at clean
  simp [redactText, piiPatterns, scanPattern, clean.1, clean.2, pure, Except.pure]

/-- A match is noticed. -/
theorem redactText_found {scan : FieldScan} (found : finds environment text = true)
    (scanned : redactText environment text = .ok scan) :
    scan.fieldMatched = true ∧ scan.detectedPatterns ≠ [] := by
  have differ : utf16 "email" ≠ utf16 "ssn" := by decide
  simp only [redactText, piiPatterns, List.foldlM_cons, List.foldlM_nil, scanPattern] at scanned
  rw [finds, Bool.or_eq_true] at found
  obtain ⟨first, tested, scanned⟩ := bind_eq_ok.mp scanned
  obtain ⟨second, retested, scanned⟩ := bind_eq_ok.mp scanned
  cases scanned
  split at tested
  · obtain ⟨redacted, -, same⟩ := bind_eq_ok.mp tested
    cases same
    split at retested
    · obtain ⟨again, -, same⟩ := bind_eq_ok.mp retested
      cases same
      exact ⟨rfl, by simp [differ]⟩
    · cases retested
      exact ⟨rfl, by simp⟩
  · next unmatched =>
      cases tested
      obtain absurd' | matched := found
      · exact (unmatched absurd').elim
      · rw [if_pos matched] at retested
        obtain ⟨again, -, same⟩ := bind_eq_ok.mp retested
        cases same
        exact ⟨rfl, by simp⟩

theorem justificationPath : pathSegments "justification" = [utf16 "justification"] := by decide

theorem getPath_justification (props : Props JsValue) :
    getPath (.obj props) "justification" = (JsValue.obj props).getOwn "justification" := by
  rw [getPath, justificationPath, JsValue.walk_cons]
  change (Option.bind (props.lookup (utf16 "justification")) _).getD _ = _
  rw [JsValue.getOwn]
  cases props.lookup (utf16 "justification") <;> rfl

theorem scanPayload_eq (props : Props JsValue) :
    scanPayload (justificationScan environment) (.obj props) =
      scanField (justificationScan environment) (.obj props) ⟨[], [], none⟩ "justification" := by
  change List.foldlM _ _ [utf16 "justification"] = _
  rw [List.foldlM_cons]
  cases scanField (justificationScan environment) (.obj props) ⟨[], [], none⟩
    (utf16 "justification") <;> rfl

/-- The scan of a request sets its justification to the redacted text. -/
theorem scanPayload_found {props : Props JsValue} {scan : FieldScan}
    (holds : (JsValue.obj props).getOwn "justification" = .str text)
    (found : finds environment text = true) (scanned : redactText environment text = .ok scan) :
    scanPayload (justificationScan environment) (.obj props) = .ok
      { detectedPatterns := scan.detectedPatterns
        redactedFields := [utf16 "justification"]
        clone := some (withJustification props scan.redacted) } := by
  have matched := (redactText_found found scanned).1
  have present : utf16 "justification" ∈ keys props := by
    by_contra missing
    rw [JsValue.getOwn, lookup_eq_none.mpr missing] at holds
    cases holds
  have put : (JsValue.obj props).putPath [utf16 "justification"] (.str scan.redacted) =
      withJustification props scan.redacted := by
    change JsValue.obj (if _ then _ else _) = _
    rw [if_pos present]
    rfl
  rw [scanPayload_eq, scanField, getPath_justification, holds]
  change (do
    let found ← redactText environment text
    if found.fieldMatched then
      return {
        detectedPatterns := found.detectedPatterns
        redactedFields := [utf16 "justification"]
        clone := some ((JsValue.obj props).putPath (pathSegments "justification")
          (.str found.redacted)) }
    else return ⟨found.detectedPatterns, [], none⟩ : Except Thrown PayloadScan) = _
  rw [scanned, ok_bind, if_pos matched, justificationPath, put]
  rfl

theorem scanPayload_clean {props : Props JsValue} (clean : ¬Leaks environment (.obj props)) :
    scanPayload (justificationScan environment) (.obj props) = .ok ⟨[], [], none⟩ := by
  rw [scanPayload_eq, scanField, getPath_justification]
  split
  · next text holds =>
      have silent : finds environment text = false := by
        cases found : finds environment text with
        | false => rfl
        | true => exact (clean ⟨text, holds, found⟩).elim
      change (do
        let found ← redactText environment text
        if found.fieldMatched then _ else _ : Except Thrown PayloadScan) = _
      rw [redactText_clean silent]
      rfl
  · rfl

end Scan

section Guards

variable {host : Host} {clock : JsString} {environment : AccessEnvironment}
  {envelope rewritten : IntentEnvelope} {state : AccessState} {props : Props JsValue}
  (request : envelope.kind = utf16 "access.request")

include request

theorem redactJustificationPii_clean (payload : envelope.payload = .obj props)
    (clean : ¬Leaks environment (.obj props)) :
    (redactJustificationPii host clock environment).run envelope state = .ok none := by
  simp only [redactJustificationPii, createDataClassificationGuard, payload]
  rw [scanPayload_clean clean]
  simp [justificationScan, request, JsValue.isObject, pure, Except.pure, bind, Except.bind]

/-- A match makes the guard ask for the request with the redacted text. -/
theorem redactJustificationPii_found (payload : envelope.payload = .obj props) {text : JsString}
    {scan : FieldScan} (holds : (JsValue.obj props).getOwn "justification" = .str text)
    (found : finds environment text = true) (scanned : redactText environment text = .ok scan) :
    ∃ bases, (redactJustificationPii host clock environment).run envelope state =
      (remint host clock envelope (withJustification props scan.redacted)).map fun rewritten =>
        some (.rewrite rewritten "Redacted PII from the access-request justification." bases) := by
  simp only [redactJustificationPii, createDataClassificationGuard, payload]
  rw [scanPayload_found holds found scanned]
  simp only [justificationScan, request, decide_true, ok_bind, Bool.not_true, Bool.false_eq_true,
    if_false, JsValue.isObject, (redactText_found found scanned).2, Option.getD_some]
  cases remint host clock envelope (withJustification props scan.redacted) with
  | error raised => exact ⟨[], rfl⟩
  | ok rewritten => exact ⟨_, rfl⟩

theorem stateGuards_kept (payload : envelope.payload = .obj props) {text : JsString}
    (same : rewritten.kind = envelope.kind)
    (redacted : rewritten.payload = withJustification props text) :
    AllSilent rewritten state (accessPolicyBundle host clock environment).stateGuards ↔
      AllSilent envelope state (accessPolicyBundle host clock environment).stateGuards := by
  have revoke : utf16 "access.request" ≠ utf16 "access.revoke" := by decide
  have resource : validateResource.run rewritten state = validateResource.run envelope state := by
    simp only [validateResource, named, same, payload, redacted]
    rw [readProp_kept (by decide)]
  have level : validatePrivilegeLevel.run rewritten state =
      validatePrivilegeLevel.run envelope state := by
    simp only [validatePrivilegeLevel, named, same, payload, redacted]
    rw [readProp_kept (by decide)]
  have grant : requireActiveGrantForRevoke.run rewritten state =
      requireActiveGrantForRevoke.run envelope state := by
    simp only [requireActiveGrantForRevoke, named, same, request, if_pos revoke]
  have expired : (refuseExpiredGrant environment).run rewritten state =
      (refuseExpiredGrant environment).run envelope state := by
    simp only [refuseExpiredGrant, named, same, request, if_pos revoke]
  simp only [AllSilent, accessPolicyBundle, firstOutcome, resource, level, grant, expired]

omit request in
theorem enforceResourceOwnership_free (free : state.authority = none) :
    enforceResourceOwnership.run envelope state = .ok none := by
  simp [enforceResourceOwnership, createAuthorityGuard, free]
  rfl

/-- With an authority a request without references is refused. -/
theorem enforceResourceOwnership_refuses {authority : AccessAuthorityContext}
    (injected : state.authority = some authority) (undeclared : envelope.resourceRefs = none) :
    ∃ refusal bases, enforceResourceOwnership.run envelope state =
      .ok (some (.refuse refusal bases)) := by
  have gated : accessAuthorityGatedKinds.contains (utf16 "access.request") = true := by decide
  simp only [enforceResourceOwnership, createAuthorityGuard, injected, request, gated,
    Option.isSome_some, Bool.and_self, Bool.not_true, Bool.false_eq_true, if_false, ok_bind,
    ownershipGates, Option.bind_some]
  split
  · exact ⟨_, _, rfl⟩
  · split
    · exact ⟨_, _, rfl⟩
    · next authedPrincipal _ =>
        have owner : (resolveOwnership authority.store envelope ⟨none, none⟩).principal = none := by
          simp [resolveOwnership, declaredRef, undeclared]
        have unowned : authedPrincipal = none ∨
            authedPrincipal ≠ (resolveOwnership authority.store envelope ⟨none, none⟩).principal := by
          rw [owner]
          exact em _
        rw [if_pos unowned]
        exact ⟨_, _, rfl⟩

theorem taintGate_passes :
    canProposeWithOrigin envelope.taint envelope.kind envelope.origin accessTaintPolicy = .ok true := by
  rw [request]
  cases envelope.taint <;>
    simp [canProposeWithOrigin, canPropose, accessTaintPolicy, createSystemTaintPolicy, taintRank,
      pure, Except.pure, bind, Except.bind]

end Guards

/-- A request has a leaking text, the patterns redact it, and the state guards let it through. -/
structure LeakyRequest (host : Host) (clock : JsString) (environment : AccessEnvironment)
    (envelope : IntentEnvelope) (state : AccessState) (props : Props JsValue) (text : JsString)
    (scan : FieldScan) : Prop where
  request : envelope.kind = utf16 "access.request"
  payload : envelope.payload = .obj props
  holds : (JsValue.obj props).getOwn "justification" = .str text
  found : finds environment text = true
  scanned : redactText environment text = .ok scan
  clean : finds environment scan.redacted = false
  passes : AllSilent envelope state (accessPolicyBundle host clock environment).stateGuards

namespace LeakyRequest

variable {host : Host} {clock : JsString} {environment : AccessEnvironment}
  {envelope rewritten : IntentEnvelope} {state : AccessState} {props : Props JsValue}
  {text : JsString} {scan : FieldScan}
  (leaky : LeakyRequest host clock environment envelope state props text scan)

include leaky

theorem leaks : Leaks environment envelope.payload := by
  rw [leaky.payload]
  exact ⟨text, leaky.holds, leaky.found⟩

omit leaky in
theorem clean_withJustification (clean : finds environment scan.redacted = false) :
    ¬Leaks environment (withJustification props scan.redacted) := by
  rintro ⟨other, holds, found⟩
  rw [getOwn_withJustification, if_pos rfl] at holds
  cases holds
  rw [clean] at found
  cases found

omit leaky in
/-- Only the business guards answer a request that nothing stops earlier. -/
theorem answers_iff {wanted : Decision → Prop} {minted : IntentEnvelope}
    (request : minted.kind = utf16 "access.request")
    (silent : AllSilent minted state (accessPolicyBundle host clock environment).stateGuards) :
    Answers host minted state wanted (accessPolicyBundle host clock environment) ↔
      Speaks host minted state wanted [enforceResourceOwnership] ∨
        (enforceResourceOwnership.run minted state = .ok none ∧
          (Speaks host minted state wanted (accessPolicyBundle host clock environment).business ∨
            (AllSilent minted state (accessPolicyBundle host clock environment).business ∧
              wanted (defaultDecision .refuse [])))) := by
  have quiet : AllSilent minted state [enforceResourceOwnership] ↔
      enforceResourceOwnership.run minted state = .ok none := by
    rw [AllSilent, firstOutcome]
    cases enforceResourceOwnership.run minted state with
    | error raised => simp
    | ok opinion => cases opinion <;> simp [firstOutcome]
  have mute : ¬Speaks host minted state wanted
      (accessPolicyBundle host clock environment).stateGuards := by
    rintro ⟨decision, first, -⟩
    rw [AllSilent, first] at silent
    cases silent
  rw [Answers]
  constructor
  · rintro (speaks | ⟨-, -, speaks | ⟨auth, later⟩⟩)
    · exact (mute speaks).elim
    · exact .inl speaks
    · exact .inr ⟨quiet.mp auth, later⟩
  · rintro (speaks | ⟨auth, later⟩)
    · exact .inr ⟨silent, taintGate_passes request, .inl speaks⟩
    · exact .inr ⟨silent, taintGate_passes request, .inr ⟨quiet.mpr auth, later⟩⟩

/-- The redacted request executes exactly when no authority is injected and it can be granted. -/
theorem second_executes_iff {kill : KillSwitchState}
    (minted : remint host clock envelope (withJustification props scan.redacted) = .ok rewritten) :
    Yields (fun decision => decision.kind = .execute)
        (adjudicate host rewritten state kill (accessPolicyBundle host clock environment)) ↔
      kill.active = false ∧ state.authority = none ∧ Grantable state (.obj props) := by
  obtain ⟨fields, -⟩ := remint_fields minted
  have project {A : Type} (read : HashedFields → A) := congrArg read fields
  have kind : rewritten.kind = envelope.kind := project HashedFields.kind
  have payload : rewritten.payload = withJustification props scan.redacted :=
    project HashedFields.payload
  have undeclared : rewritten.resourceRefs = none := project HashedFields.resourceRefs
  have version : rewritten.version = intentEnvelopeVersion := project HashedFields.version
  have request : rewritten.kind = utf16 "access.request" := kind.trans leaky.request
  have silent := (stateGuards_kept leaky.request leaky.payload kind payload).mpr leaky.passes
  have redacted : (redactJustificationPii host clock environment).run rewritten state = .ok none :=
    redactJustificationPii_clean request payload (clean_withJustification leaky.clean)
  have business : Speaks host rewritten state (fun decision => decision.kind = .execute)
      (accessPolicyBundle host clock environment).business ↔ Grantable state (.obj props) := by
    rw [speaks_execute_iff, ← @grantable_kept props scan.redacted state,
      accessPolicyBundle, executes_cons_iff (redacted ▸ never_none)]
    rw [and_iff_right redacted]
    exact business_executes_iff request payload host clock
  rw [yields_adjudicate host rewritten state kill _ actionable_execute, answers_iff request silent,
    business]
  constructor
  · rintro ⟨verified, speaks | ⟨free, grantable | ⟨-, refused⟩⟩⟩
    · cases authority : state.authority with
      | none =>
          obtain ⟨decision, first, -⟩ := speaks
          rw [firstOutcome, enforceResourceOwnership_free authority] at first
          cases first
      | some authority' =>
          obtain ⟨bases, first⟩ := (speaks_execute_iff host _).mp speaks
          obtain ⟨refusal, bases', refuses⟩ :=
            enforceResourceOwnership_refuses request authority undeclared
          rw [firstOutcome, refuses] at first
          cases first
    · refine ⟨verified.1, ?_, grantable⟩
      cases authority : state.authority with
      | none => rfl
      | some authority' =>
          obtain ⟨refusal, bases, refuses⟩ :=
            enforceResourceOwnership_refuses request authority undeclared
          rw [refuses] at free
          cases free
    · cases refused
  · rintro ⟨inactive, free, grantable⟩
    exact ⟨⟨inactive, version, deriveIntentHash_of_buildEnvelope minted⟩,
      .inr ⟨enforceResourceOwnership_free free, .inl grantable⟩⟩

/-- A verified request can be minted again with its redacted text. -/
theorem mints (derived : deriveIntentHash host envelope = .ok envelope.intentHash) :
    ∃ rewritten, remint host clock envelope (withJustification props scan.redacted) = .ok rewritten := by
  have finite := (sha256Canonical_returns host _).mp ⟨_, derived⟩
  rw [intentHashInput, allFinite_obj] at finite
  simp only [List.forall_mem_cons, List.not_mem_nil, false_implies, implies_true, and_true] at finite
  obtain ⟨-, -, payload, -, actor, -⟩ := finite
  rw [leaky.payload] at payload
  have whole : AllFinite (intentHashInput
      { version := intentEnvelopeVersion, kind := envelope.kind,
        payload := withJustification props scan.redacted, nonce := envelope.nonce,
        actor := envelope.actor, taint := envelope.taint, origin := defaultOrigin,
        resourceRefs := none }) := by
    rw [intentHashInput, allFinite_obj]
    simp only [List.forall_mem_cons, List.not_mem_nil, false_implies, implies_true, and_true]
    exact ⟨version_isFinite, trivial, allFinite_withJustification payload, trivial, actor, trivial,
      trivial, trivial⟩
  obtain ⟨hash, returns⟩ := (sha256Canonical_returns host _).mpr whole
  exact ⟨{ toHashedFields := _, createdAt := envelope.createdAt, intentHash := hash },
    buildEnvelope_eq_ok.mpr ⟨rfl, rfl, returns⟩⟩

/-- Without an authority the kernel answers a verified request with its redacted rewriting. -/
theorem first_rewrites {kill : KillSwitchState} (verified : Verified host envelope kill)
    (free : state.authority = none)
    (minted : remint host clock envelope (withJustification props scan.redacted) = .ok rewritten) :
    Yields (RewritesTo rewritten)
      (adjudicate host envelope state kill (accessPolicyBundle host clock environment)) := by
  obtain ⟨fields, -⟩ := remint_fields minted
  have project {A : Type} (read : HashedFields → A) := congrArg read fields
  have taint : rewritten.taint = envelope.taint := project HashedFields.taint
  obtain ⟨bases, run⟩ := @redactJustificationPii_found host clock environment envelope state props
    leaky.request leaky.payload text scan leaky.holds leaky.found leaky.scanned
  rw [minted] at run
  rw [yields_adjudicate host envelope state kill _ (actionable_rewritesTo rewritten)]
  refine ⟨verified, (answers_iff leaky.request leaky.passes).mpr
    (.inr ⟨enforceResourceOwnership_free free, .inl ?_⟩)⟩
  refine ⟨.rewrite rewritten "Redacted PII from the access-request justification." bases, ?_, ?_⟩
  · rw [accessPolicyBundle, firstOutcome, run]
    rfl
  · refine (yields_gateRewrite host envelope (actionable_rewritesTo rewritten) _).mpr ⟨⟨_, _, rfl⟩, ?_⟩
    rintro _ _ _ ⟨⟩
    exact ⟨deriveIntentHash_of_buildEnvelope minted, Nat.le_of_eq (congrArg taintRank taint)⟩

/-- The kernel rewrites a request to nothing but its redaction. -/
theorem rewrites_redacted {kill : KillSwitchState}
    (yields : Yields (RewritesTo rewritten)
      (adjudicate host envelope state kill (accessPolicyBundle host clock environment))) :
    Verified host envelope kill ∧
      remint host clock envelope (withJustification props scan.redacted) = .ok rewritten := by
  obtain ⟨verified, answers⟩ := (yields_adjudicate host envelope state kill _
    (actionable_rewritesTo rewritten)).mp yields
  refine ⟨verified, ?_⟩
  obtain ⟨bases, run⟩ := @redactJustificationPii_found host clock environment envelope state props
    leaky.request leaky.payload text scan leaky.holds leaky.found leaky.scanned
  obtain ⟨replacement, minted⟩ := leaky.mints verified.2.2
  rw [minted] at run
  have first : firstOutcome envelope state (accessPolicyBundle host clock environment).business =
      .ok (some (.rewrite replacement "Redacted PII from the access-request justification." bases)) := by
    rw [accessPolicyBundle, firstOutcome, run]
    rfl
  obtain speaks | ⟨-, speaks | ⟨silent, -⟩⟩ := (answers_iff leaky.request leaky.passes).mp answers
  · obtain ⟨decision, owner, passes⟩ := speaks
    have refuses : decision.kind = .refuse := by
      rw [firstOutcome] at owner
      split at owner
      · cases owner
      · exact createAuthorityGuard_refuses owner
    obtain ⟨⟨_, _, rfl⟩, -⟩ :=
      (yields_gateRewrite host envelope (actionable_rewritesTo rewritten) _).mp passes
    cases refuses
  · obtain ⟨decision, same, yields⟩ := speaks
    rw [first] at same
    cases same
    obtain ⟨⟨_, _, ⟨⟩⟩, -⟩ :=
      (yields_gateRewrite host envelope (actionable_rewritesTo rewritten) _).mp yields
    exact minted
  · rw [AllSilent, first] at silent
    cases silent

end LeakyRequest

section Shell

variable {host : Host} {clock : JsString} {environment : AccessEnvironment} {call : Call AccessState}
  {props : Props JsValue} {text : JsString} {scan : FieldScan}
  (bundle : call.policy = accessPolicyBundle host clock environment)
  (leaky : LeakyRequest host clock environment call.envelope call.state props text scan)

include bundle leaky

/-- A settled rewriting is the redaction of a verified request that no authority binds and that can
be granted. -/
theorem settled_redacted {decision : Decision} {rewritten : IntentEnvelope}
    (settles : settled host call = .ok (decision, some rewritten)) :
    Verified host call.envelope call.kill ∧ call.state.authority = none ∧
      Grantable call.state (.obj props) := by
  obtain ⟨first, adjudicated, passed⟩ := (settled_eq_ok host call).mp settles
  obtain ⟨-, -, ⟨⟩⟩ | ⟨replacement, reason, entries, again, same, second, result⟩ :=
    readjudicated_ok host call passed
  obtain ⟨executes, -, ⟨⟩⟩ | ⟨-, -, ⟨⟩⟩ | ⟨-, -, -, ⟨⟩⟩ := result
  have substitutes : first = .rewrite rewritten reason entries := by
    obtain plain | ⟨-, -, executed⟩ := overridden_cases call first
    · exact plain ▸ same
    · rw [same] at executed
      cases executed
  rw [bundle] at adjudicated second
  obtain ⟨verified, minted⟩ :=
    leaky.rewrites_redacted ⟨first, adjudicated, reason, entries, substitutes⟩
  obtain ⟨-, free, grantable⟩ := (leaky.second_executes_iff minted).mp ⟨again, second, executes⟩
  exact ⟨verified, free, grantable⟩

theorem settles_redacted (verified : Verified host call.envelope call.kill)
    (free : call.state.authority = none) (grantable : Grantable call.state (.obj props)) :
    ∃ rewritten reason bases,
      settled host call = .ok (.rewrite rewritten reason bases, some rewritten) ∧
        ¬Leaks environment rewritten.payload := by
  obtain ⟨rewritten, minted⟩ := leaky.mints verified.2.2
  obtain ⟨first, adjudicated, reason, bases, rfl⟩ := leaky.first_rewrites verified free minted
  obtain ⟨again, second, executes⟩ :=
    (@LeakyRequest.second_executes_iff _ _ _ _ _ _ _ _ _ leaky call.kill minted).mpr
      ⟨verified.1, free, grantable⟩
  rw [← bundle] at adjudicated second
  refine ⟨rewritten, reason, bases, ?_, ?_⟩
  · cases again with
    | execute entries => exact settled_of_rewrite host call adjudicated second
    | _ => cases executes
  · obtain ⟨fields, -⟩ := remint_fields minted
    have project {A : Type} (read : HashedFields → A) := congrArg read fields
    have payload : rewritten.payload = withJustification props scan.redacted :=
      project HashedFields.payload
    rw [payload]
    exact LeakyRequest.clean_withJustification leaky.clean

end Shell

/-- The effect hands no envelope with a leaking payload to the executor or to a store. -/
def Discreet (environment : AccessEnvironment) {C : Type} : Agent.Op AccessState C → Prop
  | .invokeIntent envelope _ => ¬Leaks environment envelope.payload
  | .putConfirmation _ pending => ¬Leaks environment pending.envelope.payload
  | .redis _ (.park args) _ => ¬Leaks environment args.envelope.payload
  | _ => True

/-- Nothing that a run records and nothing that the agent executes or stores for its result leaks. -/
structure RedactionReaches (host : Host) (environment : AccessEnvironment) (call : Call AccessState)
    (trace : List ShellEvent) (outcome : Except Thrown AdjudicateAndAuditResult) : Prop where
  recorded : ∀ record sent, ⟨.emit record, sent⟩ ∈ trace →
    ¬Leaks environment record.envelope.payload ∧
      ∀ rewritten reason bases, record.decision = .rewrite rewritten reason bases →
        ¬Leaks environment rewritten.payload
  translated : ∀ result, outcome = .ok result → ∀ {C : Type}
    (options : Agent.AdjudicatedAgentOptions AccessState) (args : Agent.TranslationArgs AccessState),
    args.decision = result.decision → args.envelope = call.envelope →
      Confined (Discreet environment)
        (Agent.translateDecision host options args : Agent.AgentProgram AccessState C _)

/-- Neither a switch nor the ledger stops the call, no authority is injected, and the request can be
granted without a redaction. -/
structure GoesThrough (host : Host) (call : Call AccessState) (trace : List ShellEvent) : Prop where
  tenantOpen : TenantOpen call trace
  missed : LedgerMissed trace
  verified : Verified host call.envelope call.kill
  free : call.state.authority = none
  grantable : Grantable call.state call.envelope.payload

section Agent

variable {host : Host} {environment : AccessEnvironment} {C : Type}
  {options : Agent.AdjudicatedAgentOptions AccessState} {args : Agent.TranslationArgs AccessState}

theorem confined_redeemCapability (envelope : IntentEnvelope) :
    Confined (Discreet environment)
      (Agent.redeemCapability envelope : Agent.AgentProgram AccessState C Bool) := by
  apply confined_bind
  · apply confined_tryCatch (confined_perform trivial)
    intro raised
    trivial
  · intro burned
    cases burned with
    | none => trivial
    | some capability =>
        apply confined_bind (confined_perform trivial)
        intro valid
        cases valid <;> trivial

theorem confined_runExecute {rewritten : IntentEnvelope} (reason : Option JsString)
    (clean : ¬Leaks environment rewritten.payload) :
    Confined (Discreet environment)
      (Agent.runExecute host options args rewritten reason : Agent.AgentProgram AccessState C _) := by
  have invokes : Confined (Discreet environment)
      (Agent.invokeBound args rewritten reason : Agent.AgentProgram AccessState C _) := by
    apply confined_tryCatch
    · refine confined_bind (confined_perform ?_) ?_
      · exact clean
      · intro executorResult
        trivial
    · intro raised
      trivial
  rw [Agent.runExecute]
  split
  · trivial
  · split
    · apply confined_bind (confined_redeemCapability rewritten)
      intro redeemed
      cases redeemed with
      | false => trivial
      | true => exact invokes
    · exact invokes

end Agent

/-- For an access request with personal data that the state guards let through, the redaction reaches
everything that is recorded, executed or stored exactly when the request goes through. -/
theorem redactionReaches_iff (host : Host) (clock : JsString) (environment : AccessEnvironment)
    (call : Call AccessState) (bundle : call.policy = accessPolicyBundle host clock environment)
    (request : call.envelope.kind = utf16 "access.request") (text : JsString)
    (holds : call.envelope.payload.getOwn "justification" = .str text)
    (found : finds environment text = true) (redactable : Redactable environment text)
    (passes : AllSilent call.envelope call.state call.policy.stateGuards)
    {trace : List ShellEvent} {outcome : Except Thrown AdjudicateAndAuditResult}
    (run : Runs (adjudicateAndAudit host call) trace outcome) :
    ((∃ record sent, ⟨.emit record, sent⟩ ∈ trace) →
        (RedactionReaches host environment call trace outcome ↔ GoesThrough host call trace)) ∧
      ((¬∃ record sent, ⟨.emit record, sent⟩ ∈ trace) →
        RedactionReaches host environment call trace outcome) := by
  obtain ⟨props, payload⟩ : ∃ props, call.envelope.payload = .obj props := by
    cases whole : call.envelope.payload with
    | obj props => exact ⟨props, rfl⟩
    | _ =>
        rw [whole] at holds
        cases holds
  obtain ⟨scan, scanned, clean⟩ := redactable
  have leaky : LeakyRequest host clock environment call.envelope call.state props text scan :=
    { request, payload, holds := payload ▸ holds, found, scanned, clean, passes := bundle ▸ passes }
  constructor
  · rintro ⟨record, sent, emitted⟩
    constructor
    · intro reaches
      have sound := (reaches.recorded record sent emitted).1
      have original {decision : Decision} (documents : Documents record call.envelope decision) :
          False := by
        rw [documents.envelope] at sound
        exact sound leaky.leaks
      have goes {decision : Decision} {rewritten : Option IntentEnvelope} {other : Decision}
          (tenantOpen : TenantOpen call trace) (missed : LedgerMissed trace)
          (settles : settled host call = .ok (decision, rewritten))
          (documents : Documents record (executedEnvelope call.envelope rewritten) other) :
          GoesThrough host call trace := by
        cases rewritten with
        | none => exact (original documents).elim
        | some rewritten =>
            obtain ⟨verified, free, grantable⟩ := settled_redacted bundle leaky settles
            exact ⟨tenantOpen, missed, verified, free, payload ▸ grantable⟩
      cases adjudicateAndAudit_emission host call run emitted with
      | killed context kill closed documents => exact (original documents).elim
      | replayed hit known documents => exact (original documents).elim
      | settled tenantOpen missed decision rewritten settles documents =>
          exact goes tenantOpen missed settles documents
      | lost tenantOpen missed decision rewritten hit settles documents =>
          exact goes tenantOpen missed settles documents
    · intro through
      obtain ⟨rewritten, reason, bases, settles, redacted⟩ :=
        settles_redacted bundle leaky through.verified through.free (payload ▸ through.grantable)
      have documented {record : AuditRecord} {sent : Except Thrown Unit}
          (emitted : ⟨.emit record, sent⟩ ∈ trace) : record.envelope = rewritten ∧
            (record.decision = .rewrite rewritten reason bases ∨
              ∃ hit, record.decision = replaySuppressedRefusal rewritten.intentHash hit) := by
        cases adjudicateAndAudit_emission host call run emitted with
        | killed context kill closed documents => exact (closed through.tenantOpen).elim
        | replayed hit known documents => exact (known through.missed).elim
        | settled tenantOpen missed decision other same documents =>
            rw [settles] at same
            cases same
            exact ⟨documents.envelope, .inl documents.decision⟩
        | lost tenantOpen missed decision other hit same documents =>
            rw [settles] at same
            cases same
            exact ⟨documents.envelope, .inr ⟨hit, documents.decision⟩⟩
      refine ⟨?_, ?_⟩
      · intro record sent emitted
        obtain ⟨envelope, decision⟩ := documented emitted
        refine ⟨envelope ▸ redacted, ?_⟩
        intro other _ _ same
        obtain rewrites | ⟨hit, suppressed⟩ := decision
        · rw [rewrites] at same
          cases same
          exact redacted
        · rw [suppressed] at same
          cases same
      · rintro result rfl C options args decides -
        obtain ⟨same, emitted⟩ := adjudicateAndAudit_recorded host call run
        obtain ⟨-, rewrites | ⟨hit, suppressed⟩⟩ := documented emitted
        · rw [Agent.translateDecision, decides, ← same, rewrites]
          exact confined_runExecute (some reason) redacted
        · rw [Agent.translateDecision, decides, ← same, suppressed]
          trivial
  · intro silent
    refine ⟨?_, ?_⟩
    · intro record sent emitted
      exact (silent ⟨record, sent, emitted⟩).elim
    · rintro result rfl
      exact (silent ⟨_, _, (adjudicateAndAudit_recorded host call run).emitted⟩).elim

/-- The skipped code units belong to the match before them. -/
def replaceLiteral (literal replacement : JsString) : Nat → JsString → JsString
  | _, [] => []
  | skip + 1, _ :: rest => replaceLiteral literal replacement skip rest
  | 0, unit :: rest =>
      if literal.isPrefixOf (unit :: rest) then
        replacement ++ replaceLiteral literal replacement (literal.length - 1) rest
      else unit :: replaceLiteral literal replacement 0 rest

/-- The pattern matches one text literally. -/
def literalRegExp (literal : JsString) : RegExp where
  test text := decide (literal <:+: text)
  replaceAll text replace := do return replaceLiteral literal (← replace literal) 0 text

def sampleEnvironment : AccessEnvironment where
  ssn := literalRegExp "123-45-6789"
  email := literalRegExp "a@b.example"
  parseDate _ := .nan

def sampleJustification : JsString := "SSN 123-45-6789, a@b.example"

def sampleRequest : HashedFields where
  version := intentEnvelopeVersion
  kind := "access.request"
  payload := .obj [("principal", .str "u-1"), ("resourceId", .str "db.prod"),
    ("privilegeLevel", .num 0), ("justification", .str sampleJustification)]
  nonce := "n-1"
  actor := { principal := .llm, sessionId := "s-1", role := none, attestation := none }
  taint := .untrusted
  origin := .llm
  resourceRefs := none

def accessHost : Host := .ofDigests []

def accessCall (state : AccessState) : Call AccessState where
  envelope :=
    { toHashedFields := sampleRequest
      createdAt := "2026-01-01T00:00:00.000Z"
      intentHash := (sha256Canonical accessHost (intentHashInput sampleRequest)).toOption.getD [] }
  state := state
  policy := accessPolicyBundle accessHost "2026-01-01T00:00:01.000Z" sampleEnvironment
  kill := releasedKill
  deps := sampleDeps

/-- A reviewer has approved the request. -/
def approvedState : AccessState where
  reviews := [("db.prod::u-1", ⟨"db.prod", "u-1", .approved, some .read⟩)]
  grants := []
  authority := none

theorem sampleJustification_redactable : Redactable sampleEnvironment sampleJustification :=
  ⟨_, rfl, by decide +kernel⟩

def recordOf? : ShellEvent → Option AuditRecord
  | ⟨.emit record, _⟩ => some record
  | _ => none

/-- What a calm call records is seen in its evaluation. -/
theorem accessCall_emits {state : AccessState} {test : AuditRecord → Bool}
    (emits : (((adjudicateAndAudit accessHost (accessCall state)).interpret calmResponse).1.filterMap
      recordOf?).any test = true) :
    ∃ record sent, ⟨.emit record, sent⟩ ∈
      ((adjudicateAndAudit accessHost (accessCall state)).interpret calmResponse).1 ∧
        test record = true := by
  obtain ⟨record, recorded, tested⟩ := List.any_eq_true.mp emits
  obtain ⟨event, inside, same⟩ := List.mem_filterMap.mp recorded
  unfold recordOf? at same
  split at same
  · cases same
    exact ⟨record, _, inside, tested⟩
  · cases same

theorem allSilent_of_isNone {envelope : IntentEnvelope} {state : AccessState}
    {guards : List (Guard AccessState)}
    (silent : (firstOutcome envelope state guards).toOption.map Option.isNone = some true) :
    AllSilent envelope state guards := by
  rw [AllSilent]
  cases first : firstOutcome envelope state guards with
  | error raised =>
      rw [first] at silent
      cases silent
  | ok opinion =>
      rw [first] at silent
      cases opinion with
      | none => rfl
      | some decision => cases silent

theorem redactionReaches_iff_approved :
    ∃ trace outcome, Runs (adjudicateAndAudit accessHost (accessCall approvedState)) trace outcome ∧
      (RedactionReaches accessHost sampleEnvironment (accessCall approvedState) trace outcome ↔
        GoesThrough accessHost (accessCall approvedState) trace) := by
  have run := runs_interpret calmResponse (adjudicateAndAudit accessHost (accessCall approvedState))
  have silent : AllSilent (accessCall approvedState).envelope (accessCall approvedState).state
      (accessCall approvedState).policy.stateGuards := by
    apply allSilent_of_isNone
    decide +kernel
  have emits : (((adjudicateAndAudit accessHost (accessCall approvedState)).interpret
      calmResponse).1.filterMap recordOf?).any (fun _ => true) = true := by decide +kernel
  obtain ⟨record, sent, emitted, -⟩ := accessCall_emits emits
  refine ⟨_, _, run, ?_⟩
  exact (redactionReaches_iff accessHost "2026-01-01T00:00:01.000Z" sampleEnvironment
    (accessCall approvedState) rfl rfl sampleJustification rfl (by decide +kernel)
    sampleJustification_redactable silent run).1 ⟨record, sent, emitted⟩

/-- No reviewer has seen the request. -/
def unreviewedState : AccessState where
  reviews := []
  grants := []
  authority := none

def rewrittenJustification : Decision → JsValue
  | .rewrite rewritten _ _ => rewritten.payload.getOwn "justification"
  | _ => .undefined

/-- The deferred request is recorded with the personal data that its redaction has removed. -/
theorem unreviewed_leaks :
    (∃ rewritten reason bases, adjudicate accessHost (accessCall unreviewedState).envelope
        unreviewedState releasedKill (accessCall unreviewedState).policy =
          .ok (.rewrite rewritten reason bases) ∧
      isText (rewritten.payload.getOwn "justification") "SSN [REDACTED], [REDACTED]" = true) ∧
    ∃ trace outcome, Runs (adjudicateAndAudit accessHost (accessCall unreviewedState)) trace outcome ∧
      (∃ record sent, ⟨.emit record, sent⟩ ∈ trace ∧ record.decision.kind = .defer ∧
        record.envelope.payload.getOwn "justification" = .str sampleJustification) ∧
      ¬RedactionReaches accessHost sampleEnvironment (accessCall unreviewedState) trace outcome := by
  constructor
  · have rewrites : ((adjudicate accessHost (accessCall unreviewedState).envelope unreviewedState
        releasedKill (accessCall unreviewedState).policy).toOption.map fun decision =>
          isText (rewrittenJustification decision) "SSN [REDACTED], [REDACTED]") = some true := by
      decide +kernel
    generalize adjudicate accessHost (accessCall unreviewedState).envelope unreviewedState
      releasedKill (accessCall unreviewedState).policy = result at rewrites ⊢
    cases result with
    | error raised => cases rewrites
    | ok decision =>
        cases decision with
        | rewrite rewritten reason bases =>
            exact ⟨rewritten, reason, bases, rfl, Option.some.inj rewrites⟩
        | _ => cases rewrites
  · have run := runs_interpret calmResponse
      (adjudicateAndAudit accessHost (accessCall unreviewedState))
    have emits : (((adjudicateAndAudit accessHost (accessCall unreviewedState)).interpret
        calmResponse).1.filterMap recordOf?).any (fun record =>
          record.decision.kind = .defer &&
            isText (record.envelope.payload.getOwn "justification") sampleJustification) = true := by
      decide +kernel
    obtain ⟨record, sent, emitted, tested⟩ := accessCall_emits emits
    rw [Bool.and_eq_true, decide_eq_true_eq] at tested
    have holds : record.envelope.payload.getOwn "justification" = .str sampleJustification := by
      cases read : record.envelope.payload.getOwn "justification" with
      | str text =>
          rw [read] at tested
          exact congrArg JsValue.str (of_decide_eq_true tested.2)
      | _ =>
          rw [read] at tested
          cases tested.2
    refine ⟨_, _, run, ⟨record, sent, emitted, tested.1, holds⟩, ?_⟩
    intro reaches
    exact (reaches.recorded record sent emitted).1 ⟨_, holds, by decide +kernel⟩

end Adjudicate.AccessGovernance
