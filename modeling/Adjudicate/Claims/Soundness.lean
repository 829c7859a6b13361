/-
This file models the soundness predicate that decides whether one claim is validated.
-/

import Adjudicate.Js.Comparison
import Adjudicate.Claims.EvidenceLedger
import Adjudicate.Claims.EvidenceRequirement

namespace Adjudicate.Claims

open Js

inductive ClaimVerdict where
  | validated
  | unknown
  | refused
deriving DecidableEq

inductive ClaimKind where
  | readClaim
  | actionClaim
deriving DecidableEq

inductive PathSegment where
  | name (text : JsString)
  | index (number : JsNumber)
deriving DecidableEq

/-- A number becomes a property key through its text. -/
def PathSegment.key : PathSegment → JsString
  | .name text => text
  | .index number => number.toString

structure ValueBinding where
  key : JsString
  path : Option (List PathSegment)
deriving DecidableEq

structure MinimalClaim extends FalsifierDeclaration where
  requiredEvidence : List EvidenceRequirement
  minSourceIntegrity : SourceIntegrity
  kind : ClaimKind
  actor : JsValue
  resources : Option (Props JsValue)
  value : JsValue
  valueBinding : Option ValueBinding

/-- An injected capability may throw. -/
structure SoundnessDeps where
  owns : JsValue → JsValue → Except Thrown Bool
  outcomeConfirmed : MinimalClaim → Except Thrown Bool
  now : JsNumber

inductive EvidenceVerdict where
  | pass
  | unknown
  | refused
deriving DecidableEq

/-- An entry from the future is not fresh. -/
def freshnessVerdict (requirement : EvidenceRequirement) (entry : EvidenceEntry) (now : JsNumber) :
    EvidenceVerdict :=
  match requirement.freshnessPolicy with
  | .«static» => .pass
  | .actionOutcome => .pass
  | .mustReadThisTurn => if entry.sourceMode = .live then .pass else .unknown
  | .cacheable .reindexBound => .pass
  | .cacheable (.millis ttl) =>
      let age := now.sub entry.fetchedAt
      if JsNumber.atMost 0 age && age.atMost ttl then .pass else .unknown

def provenanceVerdict (requirement : EvidenceRequirement) (entry : EvidenceEntry) :
    EvidenceVerdict :=
  if entry.taint = .untrustedData then .refused
  else if entry.originProvenance = .untrustedData then .refused
  else if requirement.provenancePolicy = .firstPartyOnly then
    if entry.originProvenance = .firstParty then .pass else .refused
  else .pass

/-- The resource of a key is an own property that is defined. -/
def MinimalClaim.resource (claim : MinimalClaim) (key : JsString) : Option JsValue :=
  (claim.resources.bind fun resources => resources.lookup key).filter fun resource =>
    !resource.isUndefined

/-- Without a resource the owner is never asked. -/
def ownershipHolds (claim : MinimalClaim) (requirement : EvidenceRequirement)
    (deps : SoundnessDeps) : Except Thrown Bool :=
  match requirement.ownershipPolicy with
  | .notApplicable => .ok true
  | .required =>
      match claim.resource requirement.key with
      | none => .ok false
      | some resource => deps.owns claim.actor resource

/-- A present entry is refused before it is found stale or too weak. -/
def evaluateEntry (claim : MinimalClaim) (requirement : EvidenceRequirement)
    (entry : EvidenceEntry) (deps : SoundnessDeps) : Except Thrown EvidenceVerdict :=
  match provenanceVerdict requirement entry with
  | .refused => .ok .refused
  | _ => do
      match ← ownershipHolds claim requirement deps with
      | false => .ok .refused
      | true =>
          match freshnessVerdict requirement entry deps.now with
          | .pass =>
              if meetsSourceIntegrityFloor requirement.sourceIntegrity claim.minSourceIntegrity then
                .ok .pass
              else .ok .unknown
          | stale => .ok stale

def evaluateEvidence (claim : MinimalClaim) (requirement : EvidenceRequirement)
    (ledger : EvidenceLedger) (deps : SoundnessDeps) : Except Thrown EvidenceVerdict :=
  match ledger.resolve requirement.key with
  | .present entry => evaluateEntry claim requirement entry deps
  | _ => .ok .unknown

/-- A refusal ends the loop with nothing; otherwise the loop tells whether it saw an unknown. -/
def evaluateAll (claim : MinimalClaim) (ledger : EvidenceLedger) (deps : SoundnessDeps) :
    List EvidenceRequirement → Bool → Except Thrown (Option Bool)
  | [], sawUnknown => .ok (some sawUnknown)
  | requirement :: rest, sawUnknown => do
      match ← evaluateEvidence claim requirement ledger deps with
      | .refused => .ok none
      | .unknown => evaluateAll claim ledger deps rest true
      | .pass => evaluateAll claim ledger deps rest sawUnknown

def assertsActionOutcome (claim : MinimalClaim) : Bool :=
  claim.kind = .actionClaim ||
    claim.requiredEvidence.any fun requirement => requirement.freshnessPolicy = .actionOutcome

def outcomeMissing (claim : MinimalClaim) (deps : SoundnessDeps) : Except Thrown Bool :=
  if assertsActionOutcome claim then do
    let confirmed ← deps.outcomeConfirmed claim
    .ok (!confirmed)
  else .ok false

def withinValueGrammar : JsValue → Bool
  | .null => true
  | .str _ => true
  | .num _ => true
  | .bool _ => true
  | _ => false

/-- An array owns its length beside its items, and a text is not an object. -/
def ownProperty (value : JsValue) (key : JsString) : Option JsValue :=
  match value with
  | .obj props => props.lookup key
  | .arr items =>
      if key = utf16 "length" then some (.num (JsNumber.ofNat items.length))
      else (JsValue.arr items).ownProps.lookup key
  | _ => none

/-- A path that leaves the own properties of an object ends in `undefined`. -/
def projectPath (value : JsValue) : List PathSegment → JsValue
  | [] => value
  | segment :: rest =>
      match ownProperty value segment.key with
      | some next => projectPath next rest
      | none => .undefined

def projectValue (value : JsValue) (path : Option (List PathSegment)) : JsValue :=
  projectPath value (path.getD [])

inductive ValueBindingVerdict where
  | pass
  | abstain
  | refused
deriving DecidableEq

def valueBindingVerdict (claim : MinimalClaim) (binding : ValueBinding) (ledger : EvidenceLedger) :
    ValueBindingVerdict :=
  match ledger.resolve binding.key with
  | .present entry =>
      let claimSide := projectValue claim.value binding.path
      let evidenceSide := projectValue entry.value binding.path
      if !withinValueGrammar claimSide || !withinValueGrammar evidenceSide then .abstain
      else if sameValue claimSide evidenceSide then .pass
      else .refused
  | _ => .abstain

def ungatedBinding (key : JsString) : Thrown :=
  .error "Error" (utf16 "[adjudicate/soundness] C6 valueBinding.key \"" ++ key ++
    utf16 ("\" is not a member of requiredEvidence keys — the binding key must be §5-gated " ++
      "(presence/freshness/provenance/integrity) before C6 compares the value."))

/-- A claim without a binding passes, and a binding outside the required keys throws. -/
def checkBinding (claim : MinimalClaim) (ledger : EvidenceLedger) :
    Except Thrown ValueBindingVerdict :=
  match claim.valueBinding with
  | none => .ok .pass
  | some binding =>
      if binding.key ∈ claim.requiredEvidence.map EvidenceRequirement.key then
        .ok (valueBindingVerdict claim binding ledger)
      else .error (ungatedBinding binding.key)

/-- One required key stands for all of them when the falsifiers are asked. -/
def MinimalClaim.baseKey (claim : MinimalClaim) : Option JsString :=
  match claim.valueBinding with
  | some binding => some binding.key
  | none => claim.requiredEvidence.head?.map EvidenceRequirement.key

def MinimalClaim.falsifierKeys (claim : MinimalClaim) : List JsString :=
  claim.enumerated.map EvidenceRequirement.key

def falsifierFires (claim : MinimalClaim) (ledger : EvidenceLedger) : Bool :=
  if claim.falsifierKeys = [] then false
  else
    match claim.baseKey with
    | none => false
    | some key =>
        match ledger.resolveAgainstFalsifiers key claim.falsifierKeys with
        | .conflict => true
        | _ => false

/-- This is the end of the predicate, where nothing refuses the claim any more. -/
def capVerdict (claim : MinimalClaim) (ledger : EvidenceLedger) (sawUnknown : Bool) :
    ClaimVerdict :=
  if sawUnknown then .unknown
  else if !isFalsifierComplete claim.toFalsifierDeclaration then .unknown
  else if falsifierFires claim ledger then .unknown
  else .validated

/-- The binding may refuse the claim or leave it unknown before the cap is applied. -/
def settleBinding (claim : MinimalClaim) (ledger : EvidenceLedger) (sawUnknown : Bool) :
    Except Thrown ClaimVerdict := do
  match ← checkBinding claim ledger with
  | .refused => .ok .refused
  | .abstain => .ok (capVerdict claim ledger true)
  | .pass => .ok (capVerdict claim ledger sawUnknown)

def claimAllowed (claim : MinimalClaim) (ledger : EvidenceLedger) (deps : SoundnessDeps) :
    Except Thrown ClaimVerdict := do
  assertFalsifierDeclaration claim.toFalsifierDeclaration
  if claim.requiredEvidence.isEmpty then .ok .refused
  else
    match ← evaluateAll claim ledger deps claim.requiredEvidence false with
    | none => .ok .refused
    | some sawUnknown =>
        match ← outcomeMissing claim deps with
        | true => .ok .refused
        | false => settleBinding claim ledger sawUnknown

end Adjudicate.Claims
