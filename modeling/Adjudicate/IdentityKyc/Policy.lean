/-
This file models the guards of the identity verification pack.
-/

import Adjudicate.Primitives.GuardFactories

namespace Adjudicate.IdentityKyc

open Js Canonical Adjudicate.Core Adjudicate.Kernel Adjudicate.Primitives
open Adjudicate.Audit (readProp)

inductive KycSessionStatus where
  | init
  | docsRequired
  | vendorPending
  | manualReview
  | verified
  | rejected
deriving DecidableEq

structure KycSession where
  id : JsString
  status : KycSessionStatus

/-- The sessions are keyed by their ids. -/
structure IdentityKycState where
  sessions : Props KycSession
  authority : Option InjectedAuthority

/-- A key that is no string finds nothing. -/
def IdentityKycState.sessionOf (state : IdentityKycState) (sessionId : JsValue) : Option KycSession :=
  match sessionId with
  | .str id => state.sessions.lookup id
  | _ => none

def kycDocumentsUploadedSignal : JsString := "kyc.documents.uploaded"

def kycVendorCompletedSignal : JsString := "kyc.vendor.completed"

def kycRefuseThreshold : JsNumber := 50

def kycExecuteThreshold : JsNumber := 90

def kycSanctionsMatchThreshold : JsNumber := 80

def kycDocumentUploadTimeoutMs : JsNumber := 86400000

def kycVendorTimeoutMs : JsNumber := 1800000

def taint : TaintPolicy := createSystemTaintPolicy ["kyc.vendor.callback"]

def requireDocumentUpload : Guard IdentityKycState :=
  { createStateDeferGuard
      { applies := fun envelope _ => .ok (envelope.kind = utf16 "kyc.start")
        signal := kycDocumentsUploadedSignal
        timeoutMs := kycDocumentUploadTimeoutMs
        basis := [basis .state "transition_valid"
          (some [("reason", "documents_required"), ("transition", "INIT→DOCS_REQUIRED")])] } with
    metadataName := some "requireDocumentUpload" }

def waitForVerification : Guard IdentityKycState :=
  { createStateDeferGuard
      { applies := fun envelope _ => .ok (envelope.kind = utf16 "kyc.document.upload")
        signal := kycVendorCompletedSignal
        timeoutMs := kycVendorTimeoutMs
        basis := [basis .state "transition_valid"
          (some [("reason", "vendor_verification_pending"),
            ("transition", "DOCS_REQUIRED→VENDOR_PENDING")])] } with
    metadataName := some "waitForVerification" }

/-- A field that is there becomes a detail of the basis. -/
def presentDetail (key : JsString) (value : JsValue) : Props JsValue :=
  if value.isUndefined then [] else [(key, value)]

def amlReason (amlMatchEntity amlMatchScore : JsValue) : Except Thrown JsString :=
  if !amlMatchEntity.isUndefined && !amlMatchScore.isUndefined then do
    return utf16 "AML Watchlist Hit: " ++ (← amlMatchScore.toText) ++ utf16 "% match against " ++
      (← amlMatchEntity.toText)
  else .ok (utf16 "AML Watchlist Hit — review required")

def escalateOnAmlFlag : Guard IdentityKycState :=
  constant "escalateOnAmlFlag" fun envelope _ => do
    if envelope.kind ≠ utf16 "kyc.vendor.callback" then return none
    let amlStatus ← readProp envelope.payload "amlStatus"
    if !isText amlStatus "FLAGGED" then return none
    let amlMatchEntity ← readProp envelope.payload "amlMatchEntity"
    let amlMatchScore ← readProp envelope.payload "amlMatchScore"
    let reason ← amlReason amlMatchEntity amlMatchScore
    return some (.escalate .human reason
      [basis .business "rule_violated"
        (some ([(utf16 "rule", JsValue.str "aml_screening"), (utf16 "signal", .str "aml_flag")] ++
          presentDetail "matchScore" amlMatchScore ++
          presentDetail "matchEntity" amlMatchEntity))])

def escalateOnSanctionsMatchScore : Guard IdentityKycState :=
  { createEscalateGuard
      { applies := fun envelope _ => .ok (envelope.kind = utf16 "kyc.vendor.callback")
        extract := fun envelope _ => readProp envelope.payload "amlMatchScore"
        threshold := kycSanctionsMatchThreshold
        comparator := .atLeast
        «to» := .human
        reason := fun value threshold envelope _ => do
          let entity ← readProp envelope.payload "amlMatchEntity"
          let opening := utf16 "Sanctions screening: " ++ (← value.toText) ++
            utf16 "% watchlist match (≥ " ++ threshold.toString
          if entity.isUndefined then return opening ++ utf16 ") — review required"
          else return opening ++ utf16 ") against " ++ (← entity.toText)
        basis := some fun value threshold envelope => do
          let entity ← readProp envelope.payload "amlMatchEntity"
          return [Core.basis .business "rule_violated"
            (some ([(utf16 "rule", JsValue.str "aml_screening"),
                (utf16 "signal", .str "sanctions_match_score"), (utf16 "matchScore", value),
                (utf16 "threshold", .num threshold)] ++
              presentDetail "matchEntity" entity))] } with
    metadataName := some "escalateOnSanctionsMatchScore" }

/-- Both score guards differ in the threshold, the comparison and what they answer. -/
def scoreThreshold (threshold : JsNumber) (comparator : ThresholdComparator)
    (onCross : JsValue → JsNumber → Except Thrown Decision) :
    ThresholdGuardOptions IdentityKycState where
  applies envelope _ := .ok (envelope.kind = utf16 "kyc.vendor.callback")
  extract envelope _ := readProp envelope.payload "score"
  threshold := threshold
  comparator := comparator
  onCross := fun score threshold _ _ => onCross score threshold

def refuseLowScore : Guard IdentityKycState :=
  { createThresholdGuard (scoreThreshold kycRefuseThreshold .below fun score threshold => do
      return .refuse
        (refuse .businessRule "kyc.verification_score_too_low"
          "We couldn't verify your identity. Please contact support."
          (some (utf16 "score=" ++ (← score.toText) ++ utf16 "/100, threshold=" ++
            threshold.toString)))
        [basis .business "rule_violated"
          (some [("rule", "verification_score"), ("score", score), ("threshold", .num threshold)])]) with
    metadataName := some "refuseLowScore" }

/-- The basis records a transition of the session that the guard has not looked at. -/
def executeOnHighScore : Guard IdentityKycState :=
  { createThresholdGuard (scoreThreshold kycExecuteThreshold .atLeast fun score _ =>
      .ok (.execute
        [basis .business "rule_satisfied" (some [("rule", "verification_score"), ("score", score)]),
          basis .state "transition_valid" (some [("transition", "VENDOR_PENDING→VERIFIED")])])) with
    metadataName := some "executeOnHighScore" }

def kycAuthorityGatedKinds : List JsString := ["kyc.start", "kyc.document.upload"]

def enforceResourceOwnership : Guard IdentityKycState :=
  createInjectedAuthorityGuard IdentityKycState.authority kycAuthorityGatedKinds

def policy : PolicyBundle IdentityKycState where
  stateGuards := []
  authGuards := [enforceResourceOwnership]
  taint := taint
  business := [requireDocumentUpload, waitForVerification, escalateOnAmlFlag,
    escalateOnSanctionsMatchScore, refuseLowScore, executeOnHighScore]
  default := .refuse

end Adjudicate.IdentityKyc
