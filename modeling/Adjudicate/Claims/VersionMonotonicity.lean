/-
This file models the guard on versions of a claim type and tells exactly when a newer version is
the safer one.
-/

import Adjudicate.Claims.Tightening

namespace Adjudicate.Claims

open Js

/-- Completeness cannot be declared without a falsifier. -/
inductive FalsifierStance where
  | complete (falsifiers : List EvidenceRequirement) (nonempty : falsifiers ≠ [])
  | omitted

/-- The fields of a definition that its registry row is projected from. -/
structure CompilableClaimDefinition where
  kind : ClaimKind
  minSourceIntegrity : SourceIntegrity
  requiredEvidence : {evidence : List EvidenceRequirement // evidence ≠ []}
  customerScoped : Option Bool
  stance : FalsifierStance
  valueBinding : Option ValueBinding

structure CompiledRegistrySpec extends FalsifierDeclaration where
  kind : ClaimKind
  minSourceIntegrity : SourceIntegrity
  requiredEvidence : List EvidenceRequirement
  customerScoped : Bool
  valueBinding : Option ValueBinding

def FalsifierStance.declaration : FalsifierStance → FalsifierDeclaration
  | .complete falsifiers _ => ⟨some true, some falsifiers⟩
  | .omitted => ⟨none, none⟩

def toRegistrySpec (definition : CompilableClaimDefinition) : CompiledRegistrySpec where
  toFalsifierDeclaration := definition.stance.declaration
  kind := definition.kind
  minSourceIntegrity := definition.minSourceIntegrity
  requiredEvidence := definition.requiredEvidence
  customerScoped := definition.customerScoped.getD false
  valueBinding := definition.valueBinding

/-- A newer version keeps every falsifier and never lowers the floor. -/
def isFalsifierSetMonotone (older newer : CompiledRegistrySpec) : Bool :=
  let oldKeys := falsifierKeys older.toFalsifierDeclaration
  let newKeys := falsifierKeys newer.toFalsifierDeclaration
  (oldKeys.all fun key => decide (key ∈ newKeys)) &&
    !decide (sourceIntegrityRank newer.minSourceIntegrity <
      sourceIntegrityRank older.minSourceIntegrity)

/-- A claim of the type, under one version of its registry row. -/
def CompiledRegistrySpec.claim (spec : CompiledRegistrySpec) (actor : JsValue)
    (resources : Option (Props JsValue)) (value : JsValue) : MinimalClaim where
  toFalsifierDeclaration := spec.toFalsifierDeclaration
  requiredEvidence := spec.requiredEvidence
  minSourceIntegrity := spec.minSourceIntegrity
  kind := spec.kind
  actor := actor
  resources := resources
  value := value
  valueBinding := spec.valueBinding

/-- A compiled row is complete exactly when its definition takes that stance. -/
theorem toRegistrySpec_complete (definition : CompilableClaimDefinition) :
    isFalsifierComplete (toRegistrySpec definition).toFalsifierDeclaration = true ↔
      ∃ falsifiers nonempty, definition.stance = .complete falsifiers nonempty := by
  rw [isFalsifierComplete_iff]
  change definition.stance.declaration.falsifierComplete = _ ∧
    definition.stance.declaration.enumerated ≠ _ ↔ _
  cases definition.stance with
  | complete falsifiers nonempty =>
      exact iff_of_true ⟨rfl, nonempty⟩ ⟨falsifiers, nonempty, rfl⟩
  | omitted => simp [FalsifierStance.declaration]

section

variable {older newer : CompiledRegistrySpec} {ledger : EvidenceLedger} {deps : SoundnessDeps}
  {actor value : JsValue} {resources : Option (Props JsValue)}

theorem isFalsifierSetMonotone_iff :
    isFalsifierSetMonotone older newer = true ↔
      (∀ falsifier ∈ older.enumerated, ∃ other ∈ newer.enumerated, other.key = falsifier.key) ∧
      sourceIntegrityRank older.minSourceIntegrity ≤
        sourceIntegrityRank newer.minSourceIntegrity := by
  simp [isFalsifierSetMonotone, falsifierKeys, List.mem_eraseDups]

/-- A requirement that clears the newer floor clears the older one. -/
theorem supported_older {requirement : EvidenceRequirement} {entry : EvidenceEntry}
    (floor : sourceIntegrityRank older.minSourceIntegrity ≤
      sourceIntegrityRank newer.minSourceIntegrity)
    (supported : Supported (newer.claim actor resources value) requirement ledger deps entry) :
    Supported (older.claim actor resources value) requirement ledger deps entry :=
  ⟨supported.present, supported.trusted, supported.owned, supported.fresh,
    floor.trans supported.integrity⟩

/-- A claim that validates under a newer version with the same evidence and binding validates under
the older one exactly when the older cap and outcome gate let it through. -/
theorem olderVersion_validates_iff (monotone : isFalsifierSetMonotone older newer = true)
    (evidence : newer.requiredEvidence = older.requiredEvidence)
    (binding : newer.valueBinding = older.valueBinding)
    (validated : claimAllowed (newer.claim actor resources value) ledger deps = .ok .validated) :
    claimAllowed (older.claim actor resources value) ledger deps = .ok .validated ↔
      Eligible (older.claim actor resources value) deps := by
  obtain ⟨falsifiers, floor⟩ := isFalsifierSetMonotone_iff.mp monotone
  have revises : Revises (older.claim actor resources value) (newer.claim actor resources value) :=
    ⟨binding, rfl, congrArg (List.map EvidenceRequirement.key) evidence, falsifiers⟩
  rw [validated_before_iff revises validated, and_iff_left]
  intro requirement inside
  have required : requirement ∈ newer.requiredEvidence := evidence ▸ inside
  obtain ⟨entry, supported⟩ :=
    (claimAllowed_validated.mp validated).2.2.supported requirement required
  exact ⟨entry, supported_older floor supported⟩

end

/-- The first version of the definition names no falsifier yet. -/
def firstVersion : CompilableClaimDefinition where
  kind := .readClaim
  minSourceIntegrity := .structured
  requiredEvidence := ⟨[sampleRequirement [0]], by decide⟩
  customerScoped := none
  stance := .omitted
  valueBinding := none

def secondVersion : CompilableClaimDefinition :=
  { firstVersion with stance := .complete [sampleRequirement [2]] (by decide) }

def thirdVersion : CompilableClaimDefinition :=
  { secondVersion with stance := .complete [sampleRequirement [2], sampleRequirement [3]] (by decide) }

theorem olderVersion_validates_iff_sample :
    claimAllowed ((toRegistrySpec secondVersion).claim .null none .null) sampleLedger sampleDeps =
        .ok .validated ↔
      Eligible ((toRegistrySpec secondVersion).claim .null none .null) sampleDeps :=
  @olderVersion_validates_iff (toRegistrySpec secondVersion) (toRegistrySpec thirdVersion)
    sampleLedger sampleDeps .null .null none (by decide +kernel) rfl rfl (by decide +kernel)

/-- The action version asks for an outcome that the read version never asks for. -/
def actionVersion : CompilableClaimDefinition := { secondVersion with kind := .actionClaim }

def unconfirmedDeps : SoundnessDeps := { sampleDeps with outcomeConfirmed := fun _ => .ok false }

/-- The guard passes the first falsifier of a type and the end of its outcome gate, and each time
the newer version validates what the older one did not. -/
theorem newerVersion_validates_more :
    (isFalsifierSetMonotone (toRegistrySpec firstVersion) (toRegistrySpec secondVersion) = true ∧
      claimAllowed ((toRegistrySpec secondVersion).claim .null none .null) sampleLedger
        sampleDeps = .ok .validated ∧
      claimAllowed ((toRegistrySpec firstVersion).claim .null none .null) sampleLedger
        sampleDeps = .ok .unknown) ∧
    (isFalsifierSetMonotone (toRegistrySpec actionVersion) (toRegistrySpec secondVersion) = true ∧
      claimAllowed ((toRegistrySpec secondVersion).claim .null none .null) sampleLedger
        unconfirmedDeps = .ok .validated ∧
      claimAllowed ((toRegistrySpec actionVersion).claim .null none .null) sampleLedger
        unconfirmedDeps = .ok .refused) := by
  decide +kernel

end Adjudicate.Claims
