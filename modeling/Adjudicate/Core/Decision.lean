/-
This file models decisions, refusals and the basis entries they carry.
-/

import Adjudicate.Core.Envelope

namespace Adjudicate.Core

open Js

inductive BasisCategory where
  | state
  | auth
  | taint
  | ledger
  | schema
  | business
  | validation
  | kill
  | deadline
  | confirmation
  | budget
  | kernel
deriving DecidableEq

def BasisCategory.text : BasisCategory → JsString
  | .state => "state"
  | .auth => "auth"
  | .taint => "taint"
  | .ledger => "ledger"
  | .schema => "schema"
  | .business => "business"
  | .validation => "validation"
  | .kill => "kill"
  | .deadline => "deadline"
  | .confirmation => "confirmation"
  | .budget => "budget"
  | .kernel => "kernel"

/-- Adopters may add codes, so a code is a text rather than a closed type. -/
structure DecisionBasis where
  category : BasisCategory
  code : JsString
  detail : Option (Props JsValue)

namespace BasisCodes

def transitionValid : JsString := "transition_valid"
def scopeSufficient : JsString := "scope_sufficient"
def levelPermitted : JsString := "level_permitted"
def levelInsufficient : JsString := "level_insufficient"
def propagationViolation : JsString := "propagation_violation"
def replaySuppressed : JsString := "replay_suppressed"
def versionSupported : JsString := "version_supported"
def versionUnsupported : JsString := "version_unsupported"
def intentHashMismatch : JsString := "intent_hash_mismatch"
def ruleSatisfied : JsString := "rule_satisfied"
def killActive : JsString := "active"
def confirmationReceived : JsString := "received"
def budgetSatisfied : JsString := "satisfied"
def guardPanic : JsString := "guard_panic"

end BasisCodes

def basis (category : BasisCategory) (code : JsString)
    (detail : Option (Props JsValue)) : DecisionBasis :=
  { category, code, detail }

def DecisionBasis.toJs (entry : DecisionBasis) : JsValue :=
  .obj ([(utf16 "category", JsValue.str entry.category.text), (utf16 "code", .str entry.code)] ++
    optionalProp "detail" (entry.detail.map .obj))

inductive RefusalKind where
  | security
  | businessRule
  | auth
  | state
deriving DecidableEq

def RefusalKind.text : RefusalKind → JsString
  | .security => "SECURITY"
  | .businessRule => "BUSINESS_RULE"
  | .auth => "AUTH"
  | .state => "STATE"

structure Refusal where
  kind : RefusalKind
  code : JsString
  userFacing : JsString
  detail : Option JsString
deriving DecidableEq

def refuse (kind : RefusalKind) (code userFacing : JsString) (detail : Option JsString) : Refusal :=
  { kind, code, userFacing, detail }

def Refusal.toJs (refusal : Refusal) : JsValue :=
  .obj ([(utf16 "kind", JsValue.str refusal.kind.text), (utf16 "code", .str refusal.code),
      (utf16 "userFacing", .str refusal.userFacing)] ++
    optionalProp "detail" (refusal.detail.map .str))

inductive EscalationTarget where
  | human
  | supervisor
deriving DecidableEq

def EscalationTarget.text : EscalationTarget → JsString
  | .human => "human"
  | .supervisor => "supervisor"

inductive DecisionKind where
  | execute
  | refuse
  | escalate
  | requestConfirmation
  | defer
  | rewrite
deriving DecidableEq

def DecisionKind.text : DecisionKind → JsString
  | .execute => "EXECUTE"
  | .refuse => "REFUSE"
  | .escalate => "ESCALATE"
  | .requestConfirmation => "REQUEST_CONFIRMATION"
  | .defer => "DEFER"
  | .rewrite => "REWRITE"

/-- A rewrite proposes another envelope in place of the adjudicated one. -/
inductive Decision where
  | execute (basis : List DecisionBasis)
  | refuse (refusal : Refusal) (basis : List DecisionBasis)
  | escalate (target : EscalationTarget) (reason : JsString) (basis : List DecisionBasis)
  | requestConfirmation (prompt : JsString) (basis : List DecisionBasis)
  | defer (signal : JsString) (timeoutMs : JsNumber) (basis : List DecisionBasis)
  | rewrite (rewritten : IntentEnvelope) (reason : JsString) (basis : List DecisionBasis)

namespace Decision

def kind : Decision → DecisionKind
  | execute _ => .execute
  | refuse _ _ => .refuse
  | escalate _ _ _ => .escalate
  | requestConfirmation _ _ => .requestConfirmation
  | defer _ _ _ => .defer
  | rewrite _ _ _ => .rewrite

def basis : Decision → List DecisionBasis
  | execute basis => basis
  | refuse _ basis => basis
  | escalate _ _ basis => basis
  | requestConfirmation _ basis => basis
  | defer _ _ basis => basis
  | rewrite _ _ basis => basis

end Decision

def IntentEnvelope.toJs (envelope : IntentEnvelope) : JsValue :=
  .obj ([(utf16 "version", JsValue.num envelope.version),
      (utf16 "kind", .str envelope.kind),
      (utf16 "payload", envelope.payload),
      (utf16 "createdAt", .str envelope.createdAt),
      (utf16 "nonce", .str envelope.nonce),
      (utf16 "actor", envelope.actor.toJs),
      (utf16 "taint", .str envelope.taint.text),
      (utf16 "origin", .str envelope.origin.text),
      (utf16 "intentHash", .str envelope.intentHash)] ++
    optionalProp "resourceRefs" (envelope.resourceRefs.map ResourceRefs.toJs))

def Decision.toJs : Decision → JsValue
  | execute basis =>
      .obj [("kind", DecisionKind.execute.text), ("basis", .arr (basis.map DecisionBasis.toJs))]
  | refuse refusal basis =>
      .obj [("kind", DecisionKind.refuse.text), ("refusal", refusal.toJs),
        ("basis", .arr (basis.map DecisionBasis.toJs))]
  | escalate target reason basis =>
      .obj [("kind", DecisionKind.escalate.text), ("to", target.text), ("reason", reason),
        ("basis", .arr (basis.map DecisionBasis.toJs))]
  | requestConfirmation prompt basis =>
      .obj [("kind", DecisionKind.requestConfirmation.text), ("prompt", prompt),
        ("basis", .arr (basis.map DecisionBasis.toJs))]
  | defer signal timeoutMs basis =>
      .obj [("kind", DecisionKind.defer.text), ("signal", signal), ("timeoutMs", .num timeoutMs),
        ("basis", .arr (basis.map DecisionBasis.toJs))]
  | rewrite rewritten reason basis =>
      .obj [("kind", DecisionKind.rewrite.text), ("rewritten", rewritten.toJs),
        ("reason", reason), ("basis", .arr (basis.map DecisionBasis.toJs))]

end Adjudicate.Core
