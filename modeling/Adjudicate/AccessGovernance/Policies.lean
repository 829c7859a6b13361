/-
This file models the guards of the access governance pack.
-/

import Adjudicate.AccessGovernance.Types
import Adjudicate.Primitives.GuardFactories
import Adjudicate.Primitives.RewriteGuards

namespace Adjudicate.AccessGovernance

open Js Canonical Adjudicate.Core Adjudicate.Kernel Adjudicate.Primitives
open Adjudicate.Audit (readProp)

/-- The patterns of the pack and the host's `Date.parse`. -/
structure AccessEnvironment where
  ssn : RegExp
  email : RegExp
  parseDate : JsString → JsNumber

def isDigit (unit : CodeUnit) : Bool := 0x30 ≤ unit && unit ≤ 0x39

/-- This is the test `/[T ]\d/`. -/
def hasTime : JsString → Bool
  | first :: second :: rest =>
      ((first = 0x54 || first = 0x20) && isDigit second) || hasTime (second :: rest)
  | _ => false

/-- This is the test `/(Z|[+-]\d{2}:?\d{2})$/i` on the reversed text. -/
def endsInTimezone : JsString → Bool
  | m₂ :: m₁ :: 0x3A :: h₂ :: h₁ :: sign :: _ =>
      m₂ = 0x5A || m₂ = 0x7A || ([m₂, m₁, h₂, h₁].all isDigit && (sign = 0x2B || sign = 0x2D))
  | m₂ :: m₁ :: h₂ :: h₁ :: sign :: _ =>
      m₂ = 0x5A || m₂ = 0x7A || ([m₂, m₁, h₂, h₁].all isDigit && (sign = 0x2B || sign = 0x2D))
  | last :: _ => last = 0x5A || last = 0x7A
  | [] => false

/-- A date with a time needs a time zone. -/
def parseInstant (parseDate : JsString → JsNumber) (text : JsString) : JsNumber :=
  if hasTime text && !endsInTimezone text.reverse then .nan else parseDate text

/-- This is the lookup key of the resource and the principal in a payload. -/
def payloadKey (payload : JsValue) : Except Thrown JsString := do
  let resourceId ← readProp payload "resourceId"
  let principal ← readProp payload "principal"
  accessKey resourceId principal

def reviewFor (state : AccessState) (payload : JsValue) : Except Thrown (Option AccessReview) := do
  return state.reviews.lookup (← payloadKey payload)

/-- The state guards let only numbers through to the guards that compare the level. -/
def levelOf (payload : JsValue) : Except Thrown JsNumber := do
  match ← readProp payload "privilegeLevel" with
  | .num level => return level
  | _ => return .nan

def isOneOf (value : JsValue) (texts : List JsString) : Bool :=
  match value with
  | .str text => texts.contains text
  | _ => false

def isPrivilegeLevel : JsValue → Bool
  | .num level => level.equals 0 || level.equals 1 || level.equals 2
  | _ => false

def orEmpty (value : JsValue) : JsValue :=
  match value with
  | .undefined => .str []
  | .null => .str []
  | value => value

def validateResource : Guard AccessState := named "validateResource" fun envelope _ => do
  if envelope.kind = utf16 "access.review.resolve" then return none
  let resourceId := orEmpty (← readProp envelope.payload "resourceId")
  if !isOneOf resourceId knownResourceIds then
    return some (.refuse (refuseUnknownResource (← resourceId.toText))
      [basis .state "transition_illegal" (some [("resourceId", resourceId)])])
  return none

def validatePrivilegeLevel : Guard AccessState :=
  named "validatePrivilegeLevel" fun envelope _ => do
    if envelope.kind ≠ utf16 "access.request" then return none
    let lvl ← readProp envelope.payload "privilegeLevel"
    if !isPrivilegeLevel lvl then
      return some (.refuse (refuseInvalidPrivilegeLevel (← lvl.toText))
        [basis .business "rule_violated" (some [("rule", "privilege_level")])])
    return none

def requireActiveGrantForRevoke : Guard AccessState :=
  named "requireActiveGrantForRevoke" fun envelope state => do
    if envelope.kind ≠ utf16 "access.revoke" then return none
    let key ← payloadKey envelope.payload
    if (state.grants.lookup key).isNone then
      return some (.refuse (refuseNoActiveGrant key)
        [basis .state "transition_illegal" (some [])])
    return none

/-- A date that cannot be read counts as expired. -/
def refuseExpiredGrant (environment : AccessEnvironment) : Guard AccessState :=
  named "refuseExpiredGrant" fun envelope state => do
    if envelope.kind ≠ utf16 "access.revoke" then return none
    match (state.grants.lookup (← payloadKey envelope.payload)).bind AccessGrant.expiresAt with
    | none => return none
    | some expiry =>
        let expiresAt := parseInstant environment.parseDate expiry
        let createdAt := parseInstant environment.parseDate envelope.createdAt
        let malformed := decide (expiresAt = .nan ∨ createdAt = .nan)
        if malformed || expiresAt.atMost createdAt then
          let detail :=
            if malformed then utf16 "unparseable timestamp (expiresAt=" ++ expiry ++
              utf16 ", createdAt=" ++ envelope.createdAt ++ utf16 ")"
            else utf16 "grant expired at " ++ expiry
          return some (.refuse
            (refuse .state "grant_expired" "That access grant has already expired." (some detail))
            [basis .state "grant_expired"
              (some ([(utf16 "resourceId", ← readProp envelope.payload "resourceId"),
                  (utf16 "principal", ← readProp envelope.payload "principal"),
                  (utf16 "expiresAt", JsValue.str expiry)] ++
                if malformed then [(utf16 "malformed", JsValue.bool true)] else []))])
        return none

def allowResolve : Guard AccessState := named "allowResolve" fun envelope _ =>
  if envelope.kind = utf16 "access.review.resolve" then
    .ok (some (.execute [basis .state "transition_valid" (some [("source", "review")])]))
  else .ok none

def breakglassMaxTtlMs : JsNumber := 3600000

def executeBreakglass : Guard AccessState := named "executeBreakglass" fun envelope _ => do
  if envelope.kind ≠ utf16 "access.breakglass" then return none
  let ttlMs ← readProp envelope.payload "ttlMs"
  let valid :=
    match ttlMs with
    | .num number =>
        isInteger number && !number.atMost 0 && number.atMost breakglassMaxTtlMs
    | _ => false
  if !valid then
    let reported := match ttlMs with
      | .undefined => JsValue.null
      | other => other
    return some (.refuse
      (refuse .businessRule "breakglass_ttl_invalid" "Emergency access requires a valid time limit."
        (some (utf16 "ttlMs must be a positive integer ≤ " ++ breakglassMaxTtlMs.toString)))
      [basis .business "breakglass_ttl_invalid" (some [("ttlMs", reported)])])
  return some (.execute [basis .business "breakglass_granted"
    (some [("resourceId", ← readProp envelope.payload "resourceId"),
      ("principal", ← readProp envelope.payload "principal"),
      ("privilegeLevel", ← readProp envelope.payload "privilegeLevel"),
      ("ttlMs", ttlMs), ("grantedAt", .str envelope.createdAt)])])

def piiPatterns (environment : AccessEnvironment) : List DataClassificationPattern :=
  [{ id := "ssn", pattern := environment.ssn, redact := none },
    { id := "email", pattern := environment.email, redact := none }]

def justificationScan (environment : AccessEnvironment) :
    DataClassificationGuardOptions AccessState where
  applies envelope _ := .ok (envelope.kind = utf16 "access.request")
  patterns := piiPatterns environment
  scannedFields := ["justification"]
  action := .rewrite
  sensitivityLevel := .medium
  maxInputLength := none
  reason := some "Redacted PII from the access-request justification."
  userFacing := none

def redactJustificationPii (host : Host) (clock : JsString) (environment : AccessEnvironment) :
    Guard AccessState :=
  { createDataClassificationGuard host clock (justificationScan environment) with
    metadataName := some "redactJustificationPii" }

def escalateSensitiveResource : Guard AccessState :=
  named "escalateSensitiveResource" fun envelope state => do
    if envelope.kind ≠ utf16 "access.request" then return none
    let review ← reviewFor state envelope.payload
    let resourceId ← readProp envelope.payload "resourceId"
    if isOneOf resourceId sensitiveResourceIds &&
        decide (review.map AccessReview.decision ≠ some .approved) then
      return some (.escalate .human
        (utf16 "Sensitive resource " ++ (← resourceId.toText) ++ utf16 " requires human review.")
        [basis .business "rule_violated" (some [("resourceId", resourceId)])])
    return none

def refuseRejectedRequest : Guard AccessState :=
  named "refuseRejectedRequest" fun envelope state => do
    if envelope.kind ≠ utf16 "access.request" then return none
    let review ← reviewFor state envelope.payload
    if review.map AccessReview.decision = some .rejected then
      let resourceId ← readProp envelope.payload "resourceId"
      return some (.refuse (refuseReviewRejected (← resourceId.toText))
        [basis .business "rule_violated" (some [("resourceId", resourceId)])])
    return none

/-- Without an approved level only a self-service request keeps its level. -/
def maxAllowedLevel (state : AccessState) (payload : JsValue) :
    Except Thrown AccessPrivilegeLevel := do
  match ← reviewFor state payload with
  | some ⟨_, _, .approved, some grantedLevel⟩ => return grantedLevel
  | _ => return maxSelfServiceLevel

def leastPrivilege : RewriteGuardOptions AccessState where
  applies envelope _ := .ok (envelope.kind = utf16 "access.request")
  extract envelope _ := do return some (← levelOf envelope.payload)
  cap := .computed fun state envelope => do
    return (← maxAllowedLevel state envelope.payload).number
  mutateField := "privilegeLevel"
  reason := "Reduced to least-privilege level."
  basis := none

def reduceToLeastPrivilege (host : Host) (clock : JsString) : Guard AccessState :=
  { createRewriteGuard host clock leastPrivilege with
    metadataName := some "reduceToLeastPrivilege" }

def deferPendingReview : Guard AccessState :=
  { createStateDeferGuard
      { applies := fun envelope state =>
          if envelope.kind = utf16 "access.request" then do
            return (← reviewFor state envelope.payload).isNone
          else .ok false
        signal := accessReviewResolvedSignal
        timeoutMs := accessDefaultDeferTimeoutMs
        basis := [basis .state "transition_valid"
          (some [("reason", "awaiting_review"), ("waitFor", .str accessReviewResolvedSignal)])] } with
    metadataName := some "deferPendingReview" }

def confirmRevoke : Guard AccessState := named "confirmRevoke" fun envelope _ => do
  if envelope.kind ≠ utf16 "access.revoke" then return none
  let principal ← (← readProp envelope.payload "principal").toText
  let resourceId ← (← readProp envelope.payload "resourceId").toText
  return some (.requestConfirmation
    (utf16 "Revoke " ++ principal ++ utf16 "'s access to " ++ resourceId ++ utf16 "?")
    [basis .business "rule_violated" (some [("rule", "revoke_confirm")])])

def AccessReview.grantedNumber (review : AccessReview) : JsNumber :=
  (review.grantedLevel.map AccessPrivilegeLevel.number).getD 0

def executeApprovedRequest : Guard AccessState :=
  named "executeApprovedRequest" fun envelope state => do
    if envelope.kind ≠ utf16 "access.request" then return none
    let review ← reviewFor state envelope.payload
    let level ← levelOf envelope.payload
    match review with
    | some review =>
        if review.decision = .approved && level.atMost review.grantedNumber then
          return some (.execute
            [basis .business "rule_satisfied" (some [("rule", "approved_grant")])])
        return none
    | none => return none

def roleExplosionThreshold : Nat := 5

def peerReviewLevel : AccessPrivilegeLevel := .admin

def grantCountFor (state : AccessState) (principal : JsValue) : Nat :=
  (state.grants.filter fun grant => isText principal grant.2.principal).length

def reviewRoleExplosion : Guard AccessState :=
  named "reviewRoleExplosion" fun envelope state => do
    if envelope.kind ≠ utf16 "access.request" then return none
    let principal ← readProp envelope.payload "principal"
    let count := grantCountFor state principal
    if count ≥ roleExplosionThreshold then
      return some (.escalate .human
        (utf16 "Principal " ++ (← principal.toText) ++ utf16 " already holds " ++ digitsText count ++
          utf16 " grants — review for role explosion before adding more.")
        [basis .business "rule_violated"
          (some [("rule", "role_explosion"), ("principal", principal),
            ("grantCount", .num (JsNumber.ofInt count)),
            ("threshold", .num (JsNumber.ofInt roleExplosionThreshold))])])
    return none

def flagRedundantGrant : Guard AccessState :=
  named "flagRedundantGrant" fun envelope state => do
    if envelope.kind ≠ utf16 "access.request" then return none
    let key ← payloadKey envelope.payload
    let level ← levelOf envelope.payload
    match state.grants.lookup key with
    | some existing =>
        if level.atMost existing.privilegeLevel.number then
          let resourceId ← readProp envelope.payload "resourceId"
          let principal ← readProp envelope.payload "principal"
          return some (.escalate .human
            (utf16 "Request for " ++ (← resourceId.toText) ++ utf16 " is redundant: " ++
              (← principal.toText) ++ utf16 " already holds an equal-or-higher grant.")
            [basis .business "rule_violated"
              (some [("rule", "redundant_grant"), ("resourceId", resourceId),
                ("principal", principal), ("existingLevel", .num existing.privilegeLevel.number),
                ("requestedLevel", .num level)])])
        return none
    | none => return none

def requirePeerReviewForAdmin : Guard AccessState :=
  named "requirePeerReviewForAdmin" fun envelope state => do
    if envelope.kind ≠ utf16 "access.request" then return none
    let review ← reviewFor state envelope.payload
    let level ← levelOf envelope.payload
    match review with
    | some review =>
        if peerReviewLevel.number.atMost level && review.decision = .approved &&
            peerReviewLevel.number.atMost review.grantedNumber then
          let resourceId ← readProp envelope.payload "resourceId"
          let principal ← readProp envelope.payload "principal"
          return some (.escalate .human
            (utf16 "Admin-level access to " ++ (← resourceId.toText) ++
              utf16 " requires peer review — a single approval is insufficient.")
            [basis .business "rule_violated"
              (some [("rule", "peer_review_required"), ("resourceId", resourceId),
                ("principal", principal), ("level", .num level)])])
        return none
    | none => return none

def accessAuthorityGatedKinds : List JsString := ["access.request", "access.revoke"]

/-- Without an injected authority the guard stays out of the way. -/
def enforceResourceOwnership : Guard AccessState :=
  createAuthorityGuard
    (fun envelope state =>
      match state.authority with
      | some authority => .ok (resolveOwnership authority.store envelope ⟨none, none⟩)
      | none => .error (.error "TypeError" "Cannot read properties of undefined (reading 'store')"))
    { scope := some fun envelope state =>
        .ok (state.authority.isSome && accessAuthorityGatedKinds.contains envelope.kind)
      authenticatedPrincipal := some fun envelope state =>
        match state.authority.bind AccessAuthorityContext.principalOf with
        | some principalOf => principalOf envelope.actor.sessionId
        | none => .ok none
      refusalUserFacing := none }

def accessTaintPolicy : TaintPolicy :=
  createSystemTaintPolicy ["access.review.resolve", "access.breakglass"]

def accessPolicyBundle (host : Host) (clock : JsString) (environment : AccessEnvironment) :
    PolicyBundle AccessState where
  stateGuards := [validateResource, validatePrivilegeLevel, requireActiveGrantForRevoke,
    refuseExpiredGrant environment]
  authGuards := [enforceResourceOwnership]
  taint := accessTaintPolicy
  business := [redactJustificationPii host clock environment, allowResolve, executeBreakglass,
    escalateSensitiveResource, reviewRoleExplosion, flagRedundantGrant,
    reduceToLeastPrivilege host clock, refuseRejectedRequest, deferPendingReview, confirmRevoke,
    requirePeerReviewForAdmin, executeApprovedRequest]
  default := .refuse

end Adjudicate.AccessGovernance
