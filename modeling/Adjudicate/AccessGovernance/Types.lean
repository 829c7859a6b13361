/-
This file models the state of the access governance pack with its texts and limits.
-/

import Adjudicate.Core.Ownership
import Adjudicate.Js.Conversion

namespace Adjudicate.AccessGovernance

open Js Adjudicate.Core

inductive AccessPrivilegeLevel where
  | read
  | write
  | admin
deriving DecidableEq

def AccessPrivilegeLevel.number : AccessPrivilegeLevel → JsNumber
  | .read => 0
  | .write => 1
  | .admin => 2

inductive ReviewDecision where
  | approved
  | rejected
deriving DecidableEq

structure AccessReview where
  resourceId : JsString
  principal : JsString
  decision : ReviewDecision
  grantedLevel : Option AccessPrivilegeLevel

structure AccessGrant where
  principal : JsString
  resourceId : JsString
  privilegeLevel : AccessPrivilegeLevel
  expiresAt : Option JsString

/-- The host knows the principal of a session. -/
structure AccessAuthorityContext where
  store : AuthorityGraphStore
  principalOf : Option (JsString → Except Thrown (Option JsString))

/-- The maps are keyed by resource and principal. -/
structure AccessState where
  reviews : Props AccessReview
  grants : Props AccessGrant
  authority : Option AccessAuthorityContext

def accessKey (resourceId principal : JsValue) : Except Thrown JsString := do
  return (← resourceId.toText) ++ utf16 "::" ++ (← principal.toText)

def knownResourceIds : List JsString := ["db.analytics", "db.prod", "payroll", "secrets.vault"]

def sensitiveResourceIds : List JsString := ["payroll", "secrets.vault"]

def maxSelfServiceLevel : AccessPrivilegeLevel := .read

def accessReviewResolvedSignal : JsString := "access.review.resolved"

def accessDefaultDeferTimeoutMs : JsNumber := 86400000

def refuseUnknownResource (id : JsString) : Refusal :=
  refuse .state "access.resource_unknown" "That resource doesn't exist."
    (some (utf16 "unknown resource " ++ id))

def refuseInvalidPrivilegeLevel (seen : JsString) : Refusal :=
  refuse .businessRule "access.privilege_level_invalid" "That privilege level is invalid."
    (some (utf16 "got " ++ seen))

def refuseReviewRejected (id : JsString) : Refusal :=
  refuse .businessRule "access.review_rejected" "Your access request was rejected."
    (some (utf16 "review rejected for " ++ id))

def refuseNoActiveGrant (id : JsString) : Refusal :=
  refuse .state "access.no_active_grant" "There's no active grant to revoke."
    (some (utf16 "no grant for " ++ id))

end Adjudicate.AccessGovernance
