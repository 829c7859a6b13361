/-
This file models the validator that a claim definition passes when it is loaded.
-/

import Adjudicate.Claims.Allowed
import Adjudicate.Claims.ClaimsKernel

namespace Adjudicate.Claims

open Js

inductive TemplateSlot where
  | literal (text : JsString)
  | proposition (claimType field : JsString)

structure RenderTemplate where
  slots : List TemplateSlot

structure ValueProjection where
  field : JsString
  key : JsString

structure ClaimDefinition extends FalsifierDeclaration where
  type : JsString
  kind : ClaimKind
  requiredEvidence : List EvidenceRequirement
  minSourceIntegrity : SourceIntegrity
  valueBinding : Option ValueBinding
  valueProjections : Option (List ValueProjection)
  renderTemplate : Option RenderTemplate

/-- The types leave these codes to one definition; the others belong to a set of definitions. -/
inductive ValidationFailureCode where
  | emptyRequiredEvidence
  | malformedEvidence
  | provenanceDeny
  | falsifierIncomplete
  | bindingKeyUngated
  | slotUnbacked
deriving DecidableEq

inductive ValidationResult where
  | ok
  | fail (code : ValidationFailureCode) (reason : JsString)
deriving DecidableEq

def errorMessage : Thrown → JsString
  | .error _ message => message
  | _ => utf16 "undefined"

/-- The thrown message becomes the reason of a result. -/
def caught (code : ValidationFailureCode) (opening : JsString) {A : Type} :
    Except Thrown A → ValidationResult
  | .ok _ => .ok
  | .error raised => .fail code (opening ++ errorMessage raised)

def validateRequirement (requirement : EvidenceRequirement) (location : JsString) :
    ValidationResult :=
  caught .malformedEvidence (location ++ utf16 ": ") (parseEvidenceRequirement requirement)

/-- The first check that fails ends the validation. -/
def ValidationResult.andThen (result : ValidationResult) (next : ValidationResult) :
    ValidationResult :=
  match result with
  | .ok => next
  | .fail code reason => .fail code reason

def firstFailure {A : Type} (validate : A → ValidationResult) : List A → ValidationResult
  | [] => .ok
  | item :: rest => (validate item).andThen (firstFailure validate rest)

def quoted (text : JsString) : JsString := utf16 "\"" ++ text ++ utf16 "\""

def ClaimDefinition.requiredKeySet (definition : ClaimDefinition) : List JsString :=
  definition.requiredEvidence.map EvidenceRequirement.key

def propositionText (claimType field : JsString) : JsString :=
  utf16 "prop(" ++ claimType ++ utf16 ", " ++ quoted field ++ utf16 ")"

/-- A slot is backed by a projection of the definition that owns its type. -/
def checkSlotOwner (owner : ClaimDefinition) (claimType field : JsString) : ValidationResult :=
  match (owner.valueProjections.getD []).find? fun projection => projection.field = field with
  | none =>
      .fail .slotUnbacked (utf16 "PROPOSITION slot " ++ propositionText claimType field ++
        utf16 (" has no value projection " ++
          "backing it (INV-1: every slot must bind to a requiredEvidence key)."))
  | some projection =>
      if projection.key ∈ owner.requiredKeySet then .ok
      else .fail .slotUnbacked (utf16 "value projection for " ++ propositionText claimType field ++
        utf16 " binds key " ++ quoted projection.key ++
        utf16 " which is not a member of requiredEvidence keys.")

def checkSlot (definition : ClaimDefinition)
    (lookup : Option (JsString → Option ClaimDefinition)) : TemplateSlot → ValidationResult
  | .literal _ => .ok
  | .proposition claimType field =>
      if claimType = definition.type then checkSlotOwner definition claimType field
      else
        match lookup with
        | none => .ok
        | some known =>
            match known claimType with
            | some owner => checkSlotOwner owner claimType field
            | none =>
                .fail .slotUnbacked (utf16 "PROPOSITION slot " ++
                  propositionText claimType field ++
                  utf16 (" references a claimType " ++ "with no registered ClaimDefinition."))

def checkSlotProjectionAlignment (definition : ClaimDefinition)
    (lookup : Option (JsString → Option ClaimDefinition)) : ValidationResult :=
  match definition.renderTemplate with
  | none => .ok
  | some template => firstFailure (checkSlot definition lookup) template.slots

def checkRequired (definition : ClaimDefinition) : ValidationResult :=
  if definition.requiredEvidence.length = 0 then
    .fail .emptyRequiredEvidence (quoted definition.type ++
      utf16 (" has empty requiredEvidence — C0 non-vacuity: a definition with " ++
        "no backing could only ever vacuously assert."))
  else
    firstFailure (fun requirement =>
      validateRequirement requirement (quoted definition.type ++ utf16 ".requiredEvidence"))
      definition.requiredEvidence

def checkFalsifiers (definition : ClaimDefinition) : ValidationResult :=
  firstFailure (fun falsifier =>
    validateRequirement falsifier (quoted definition.type ++ utf16 ".falsifiers"))
    (definition.falsifiers.getD [])

def checkValueBinding (definition : ClaimDefinition) : ValidationResult :=
  match definition.valueBinding with
  | none => .ok
  | some binding =>
      if binding.key ∈ definition.requiredKeySet then .ok
      else
        .fail .bindingKeyUngated (quoted definition.type ++ utf16 " valueBinding.key " ++
          quoted binding.key ++ utf16 (" is not a member of requiredEvidence " ++
            "keys — a rendered value could be sourced from an un-§5-gated key."))

def checkProjection (definition : ClaimDefinition) (projection : ValueProjection) :
    ValidationResult :=
  if projection.key ∈ definition.requiredKeySet then .ok
  else
    .fail .slotUnbacked (quoted definition.type ++ utf16 " valueProjection for field " ++
      quoted projection.field ++ utf16 " binds key " ++ quoted projection.key ++
      utf16 " which is not a member of requiredEvidence keys.")

def validateClaimDefinition (definition : ClaimDefinition)
    (lookup : Option (JsString → Option ClaimDefinition)) : ValidationResult :=
  (checkRequired definition).andThen
    ((checkFalsifiers definition).andThen
      ((caught .falsifierIncomplete []
          (assertFalsifierDeclaration definition.toFalsifierDeclaration)).andThen
        ((checkValueBinding definition).andThen
          ((firstFailure (checkProjection definition)
              (definition.valueProjections.getD [])).andThen
            (checkSlotProjectionAlignment definition lookup)))))

/-- The claim that carries what its definition declares. -/
def ClaimDefinition.claim (definition : ClaimDefinition) (actor : JsValue)
    (resources : Option (Props JsValue)) (value : JsValue) : MinimalClaim where
  toFalsifierDeclaration := definition.toFalsifierDeclaration
  requiredEvidence := definition.requiredEvidence
  minSourceIntegrity := definition.minSourceIntegrity
  kind := definition.kind
  actor := actor
  resources := resources
  value := value
  valueBinding := definition.valueBinding

@[simp] theorem ValidationResult.andThen_ok {result next : ValidationResult} :
    result.andThen next = .ok ↔ result = .ok ∧ next = .ok := by
  cases result <;> simp [ValidationResult.andThen]

@[simp] theorem caught_ok {code : ValidationFailureCode} {opening : JsString} {A : Type}
    {computation : Except Thrown A} :
    caught code opening computation = .ok ↔ ∃ value, computation = .ok value := by
  cases computation <;> simp [caught]

theorem firstFailure_ok {A : Type} {validate : A → ValidationResult} {items : List A} :
    firstFailure validate items = .ok ↔ ∀ item ∈ items, validate item = .ok := by
  induction items with
  | nil => simp [firstFailure]
  | cons item items ih => simp [firstFailure, ih]

theorem validateRequirement_ok {requirement : EvidenceRequirement} {location : JsString} :
    validateRequirement requirement location = .ok ↔
      isValidEvidenceRequirement requirement = true := by
  unfold validateRequirement parseEvidenceRequirement
  cases isValidEvidenceRequirement requirement <;> simp

theorem checkValueBinding_ok {definition : ClaimDefinition} :
    checkValueBinding definition = .ok ↔
      ∀ binding, definition.valueBinding = some binding →
        binding.key ∈ definition.requiredKeySet := by
  unfold checkValueBinding
  cases definition.valueBinding with
  | none => simp
  | some binding => simp

/-- What an accepted definition guarantees to the predicate that judges its claims. -/
structure ClaimDefinition.Sound (definition : ClaimDefinition) : Prop where
  nonempty : definition.requiredEvidence ≠ []
  requirements : ∀ requirement ∈ definition.requiredEvidence,
    isValidEvidenceRequirement requirement = true
  wellFormed : definition.WellFormed
  gated : ∀ binding, definition.valueBinding = some binding →
    binding.key ∈ definition.requiredEvidence.map EvidenceRequirement.key

theorem sound_of_validated {definition : ClaimDefinition}
    {lookup : Option (JsString → Option ClaimDefinition)}
    (accepted : validateClaimDefinition definition lookup = .ok) : definition.Sound := by
  simp only [validateClaimDefinition, ValidationResult.andThen_ok, caught_ok] at accepted
  obtain ⟨required, -, ⟨⟨⟩, declared⟩, bound, -⟩ := accepted
  unfold checkRequired at required
  split at required
  · cases required
  · rename_i nonempty
    constructor
    · exact fun empty => nonempty (by simp [empty])
    · intro requirement inside
      exact validateRequirement_ok.mp (firstFailure_ok.mp required requirement inside)
    · exact assertFalsifierDeclaration_ok.mp declared
    · exact checkValueBinding_ok.mp bound

/-- The injected capabilities return. -/
structure SoundnessDeps.Returns (deps : SoundnessDeps) : Prop where
  owns : ∀ actor resource, ∃ owned, deps.owns actor resource = .ok owned
  outcomeConfirmed : ∀ claim, ∃ confirmed, deps.outcomeConfirmed claim = .ok confirmed

section

variable {claim : MinimalClaim} {ledger : EvidenceLedger} {deps : SoundnessDeps}

theorem ownershipHolds_returns (returns : deps.Returns) (requirement : EvidenceRequirement) :
    ∃ held, ownershipHolds claim requirement deps = .ok held := by
  unfold ownershipHolds
  cases requirement.ownershipPolicy with
  | notApplicable => exact ⟨true, rfl⟩
  | required =>
      cases claim.resource requirement.key with
      | none => exact ⟨false, rfl⟩
      | some resource => exact returns.owns _ _

theorem evaluateEntry_returns (returns : deps.Returns) (requirement : EvidenceRequirement)
    (entry : EvidenceEntry) : ∃ verdict, evaluateEntry claim requirement entry deps = .ok verdict := by
  obtain ⟨held, asked⟩ := @ownershipHolds_returns claim _ returns requirement
  unfold evaluateEntry
  rw [asked]
  cases provenanceVerdict requirement entry with
  | refused => exact ⟨.refused, rfl⟩
  | pass | unknown =>
      cases held with
      | false => exact ⟨.refused, rfl⟩
      | true =>
          simp only [ok_bind]
          cases freshnessVerdict requirement entry deps.now with
          | pass =>
              by_cases enough : meetsSourceIntegrityFloor requirement.sourceIntegrity
                claim.minSourceIntegrity = true
              · exact ⟨.pass, if_pos enough⟩
              · exact ⟨.unknown, if_neg enough⟩
          | unknown => exact ⟨.unknown, rfl⟩
          | refused => exact ⟨.refused, rfl⟩

theorem evaluateAll_returns (returns : deps.Returns) (requirements : List EvidenceRequirement)
    (sawUnknown : Bool) :
    ∃ outcome, evaluateAll claim ledger deps requirements sawUnknown = .ok outcome := by
  induction requirements generalizing sawUnknown with
  | nil => exact ⟨some sawUnknown, rfl⟩
  | cons requirement rest ih =>
      have evaluated : ∃ verdict, evaluateEvidence claim requirement ledger deps = .ok verdict := by
        unfold evaluateEvidence
        cases ledger.resolve requirement.key with
        | present entry => exact evaluateEntry_returns returns requirement entry
        | absent | error | conflict => exact ⟨.unknown, rfl⟩
      obtain ⟨verdict, evaluated⟩ := evaluated
      rw [evaluateAll, evaluated, ok_bind]
      cases verdict with
      | refused => exact ⟨none, rfl⟩
      | unknown => exact ih true
      | pass => exact ih sawUnknown

theorem outcomeMissing_returns (returns : deps.Returns) :
    ∃ missing, outcomeMissing claim deps = .ok missing := by
  obtain ⟨confirmed, asked⟩ := returns.outcomeConfirmed claim
  unfold outcomeMissing
  rw [asked]
  split
  · exact ⟨!confirmed, rfl⟩
  · exact ⟨false, rfl⟩

theorem settleBinding_returns (gated : Gated claim) (sawUnknown : Bool) :
    ∃ verdict, settleBinding claim ledger sawUnknown = .ok verdict := by
  have checked : ∃ verdict, checkBinding claim ledger = .ok verdict := by
    unfold checkBinding
    cases bound : claim.valueBinding with
    | none => exact ⟨.pass, rfl⟩
    | some binding => exact ⟨_, if_pos (gated binding bound)⟩
  obtain ⟨verdict, checked⟩ := checked
  unfold settleBinding
  rw [checked, ok_bind]
  cases verdict with
  | refused => exact ⟨.refused, rfl⟩
  | abstain | pass => exact ⟨_, rfl⟩

/-- With a sound declaration only an injected capability could throw. -/
theorem claimAllowed_returns (wellFormed : claim.WellFormed) (gated : Gated claim)
    (returns : deps.Returns) : ∃ verdict, claimAllowed claim ledger deps = .ok verdict := by
  unfold claimAllowed
  rw [assertFalsifierDeclaration_ok.mpr wellFormed, ok_bind]
  split
  · exact ⟨.refused, rfl⟩
  · obtain ⟨outcome, evaluated⟩ :=
      @evaluateAll_returns claim ledger _ returns claim.requiredEvidence false
    rw [evaluated, ok_bind]
    cases outcome with
    | none => exact ⟨.refused, rfl⟩
    | some sawUnknown =>
        obtain ⟨missing, asked⟩ := @outcomeMissing_returns claim _ returns
        simp only [asked, ok_bind]
        cases missing with
        | true => exact ⟨.refused, rfl⟩
        | false => exact settleBinding_returns gated sawUnknown

end

/-- The claim of a candidate carries what some accepted definition declares. -/
def CandidateClaim.Loaded (candidate : CandidateClaim) : Prop :=
  ∃ definition lookup actor resources value, validateClaimDefinition definition lookup = .ok ∧
    candidate.soundness = definition.claim actor resources value

theorem claimAllowed_loaded {candidate : CandidateClaim} (loaded : candidate.Loaded)
    (ledger : EvidenceLedger) {deps : SoundnessDeps} (returns : deps.Returns) :
    ∃ verdict, claimAllowed candidate.claim ledger deps = .ok verdict := by
  obtain ⟨definition, lookup, actor, resources, value, accepted, carried⟩ := loaded
  have sound := sound_of_validated accepted
  have carries : candidate.claim = definition.claim actor resources candidate.value := by
    rw [CandidateClaim.claim, carried]
    rfl
  rw [carries]
  exact claimAllowed_returns sound.wellFormed sound.gated returns

/-- The soundness stage gives every candidate one verdict. -/
theorem soundnessStage_loaded {candidates : List CandidateClaim}
    (loaded : ∀ candidate ∈ candidates, candidate.Loaded) (ledger : EvidenceLedger)
    {deps : SoundnessDeps} (returns : deps.Returns) :
    ∃ perClaim, soundnessStage ledger candidates deps = .ok perClaim ∧
      perClaim.length = candidates.length := by
  unfold soundnessStage
  induction candidates with
  | nil => exact ⟨[], rfl, rfl⟩
  | cons candidate candidates ih =>
      obtain ⟨first, rest⟩ := List.forall_mem_cons.mp loaded
      obtain ⟨verdict, judged⟩ := claimAllowed_loaded first ledger returns
      obtain ⟨perClaim, staged, sameLength⟩ := ih rest
      refine ⟨⟨candidate.subject, candidate.type, verdict⟩ :: perClaim, ?_, by simp [sameLength]⟩
      rw [List.mapM_cons, judged]
      simp only [ok_bind]
      rw [staged]
      rfl

/-- An accepted action claim over one key that nobody has read. -/
def purchaseDefinition : ClaimDefinition where
  falsifierComplete := none
  falsifiers := none
  type := utf16 "PURCHASE_COMPLETED"
  kind := .actionClaim
  requiredEvidence := [⟨utf16 "order", .notApplicable, .actionOutcome, .structured, .preserve⟩]
  minSourceIntegrity := .structured
  valueBinding := none
  valueProjections := none
  renderTemplate := none

def unreachableOutcome : SoundnessDeps where
  owns _ _ := .ok true
  outcomeConfirmed _ := .error (.error "Error" (utf16 "outcome store is down"))
  now := 0

def confirmedOutcome : SoundnessDeps where
  owns _ _ := .ok true
  outcomeConfirmed _ := .ok true
  now := 0

end Adjudicate.Claims
