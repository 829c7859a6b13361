/-
This file models the claims kernel, which judges the candidates of a turn, gates the validated ones
and mints what they carry.
-/

import Adjudicate.Claims.Consistency

namespace Adjudicate.Claims

open Js

structure CandidateClaim where
  soundness : MinimalClaim
  subject : JsString
  type : JsString
  value : JsValue

structure ClaimSoundnessVerdict where
  subject : JsString
  type : JsString
  verdict : ClaimVerdict

structure CanonicalClaim where
  subject : JsString
  type : JsString
  value : JsValue

structure ClaimsKernelDeps where
  soundness : SoundnessDeps
  consistency : Option (List ConsistencyConstraint)

structure ClaimsKernelResult where
  perClaim : List ClaimSoundnessVerdict
  renderable : List ConsistencyClaim
  terminal : TurnTerminal
  consistency : ConsistencyResult
  renderableCanonical : List CanonicalClaim

/-- The rendered value is the one that the binding is checked against. -/
def CandidateClaim.claim (candidate : CandidateClaim) : MinimalClaim :=
  { candidate.soundness with value := candidate.value }

/-- The soundness stage throws as soon as one candidate does. -/
def soundnessStage (ledger : EvidenceLedger) (candidates : List CandidateClaim)
    (deps : SoundnessDeps) : Except Thrown (List ClaimSoundnessVerdict) :=
  candidates.mapM fun candidate => do
    let verdict ← claimAllowed candidate.claim ledger deps
    .ok ⟨candidate.subject, candidate.type, verdict⟩

def consistencyInput (candidates : List CandidateClaim) (perClaim : List ClaimSoundnessVerdict) :
    List ConsistencyClaim :=
  (candidates.zipIdx.map fun (candidate, position) =>
    ⟨candidate.subject, candidate.type,
      (perClaim[position]?.map ClaimSoundnessVerdict.verdict).getD .unknown,
      candidate.value⟩).filter fun claim => claim.verdict = .validated

def stageFailClosed (perClaim : List ClaimSoundnessVerdict) : ClaimsKernelResult where
  perClaim := perClaim
  renderable := []
  terminal := .escalate
  consistency := ⟨[], .escalate, []⟩
  renderableCanonical := []

/-- The object that owns one name on each level and nothing else. -/
def rebuild (path : List PathSegment) (leaf : JsValue) : JsValue :=
  path.foldr (fun segment rebuilt => .obj [(segment.key, rebuilt)]) leaf

/-- A missing name reads as `undefined`, which owns nothing. -/
def pickLeaf (value : JsValue) (path : List PathSegment) : JsValue :=
  path.foldl (fun leaf segment => (ownProperty leaf segment.key).getD .undefined) value

def pickPath (value : JsValue) (path : Option (List PathSegment)) : JsValue :=
  match path with
  | none => value
  | some [] => value
  | some (segment :: rest) => rebuild (segment :: rest) (pickLeaf value (segment :: rest))

/-- The bindings are found again under this text. -/
def subjectTypeKey (subject type : JsString) : JsString := subject ++ utf16 "|" ++ type

/-- Every candidate writes its binding, validated or not, and also when it has none. -/
def bindingBySubjectType (candidates : List CandidateClaim) : Props (Option ValueBinding) :=
  candidates.foldl (fun bindings candidate =>
    setOwn bindings (subjectTypeKey candidate.subject candidate.type)
      candidate.soundness.valueBinding) []

/-- A claim is minted with the binding that stands under its text. -/
def mintClaim (bindings : Props (Option ValueBinding)) (claim : ConsistencyClaim) :
    CanonicalClaim where
  subject := claim.subject
  type := claim.type
  value :=
    match (bindings.lookup (subjectTypeKey claim.subject claim.type)).join with
    | none => claim.value
    | some binding => pickPath claim.value binding.path

/-- Rendering nothing is not knowing anything. -/
def turnTerminal (consistency : ConsistencyResult) : TurnTerminal :=
  if consistency.terminal = .render ∧ consistency.renderable.length = 0 then .unknown
  else consistency.terminal

def settleTurn (candidates : List CandidateClaim) (perClaim : List ClaimSoundnessVerdict)
    (consistency : ConsistencyResult) : ClaimsKernelResult where
  perClaim := perClaim
  renderable := consistency.renderable
  terminal := turnTerminal consistency
  consistency := consistency
  renderableCanonical :=
    if turnTerminal consistency = .render then
      consistency.renderable.map (mintClaim (bindingBySubjectType candidates))
    else []

/-- A stage that throws ends the turn closed. -/
def runClaimsKernel (ledger : EvidenceLedger) (candidates : List CandidateClaim)
    (deps : ClaimsKernelDeps) : ClaimsKernelResult :=
  match soundnessStage ledger candidates deps.soundness with
  | .error _ => stageFailClosed []
  | .ok perClaim =>
      if perClaim.length ≠ candidates.length then stageFailClosed perClaim
      else
        match checkConsistency (consistencyInput candidates perClaim) deps.consistency with
        | .error _ => stageFailClosed perClaim
        | .ok consistency => settleTurn candidates perClaim consistency

end Adjudicate.Claims
