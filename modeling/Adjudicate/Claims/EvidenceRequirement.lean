/-
This file models the evidence requirements and the falsifier declaration of a claim type.
-/

import Adjudicate.Js.Value

namespace Adjudicate.Claims

open Js

inductive OwnershipPolicy where
  | required
  | notApplicable
deriving DecidableEq

inductive Ttl where
  | millis (window : JsNumber)
  | reindexBound
deriving DecidableEq

inductive FreshnessPolicy where
  | «static»
  | cacheable (ttl : Ttl)
  | mustReadThisTurn
  | actionOutcome
deriving DecidableEq

inductive SourceIntegrity where
  | structured
  | trustedService
  | firstPartyVerified
  | humanReport
  | freeText
deriving DecidableEq

inductive ProvenancePolicy where
  | preserve
  | firstPartyOnly
deriving DecidableEq

structure EvidenceRequirement where
  key : JsString
  ownershipPolicy : OwnershipPolicy
  freshnessPolicy : FreshnessPolicy
  sourceIntegrity : SourceIntegrity
  provenancePolicy : ProvenancePolicy
deriving DecidableEq

/-- `structured` and `first_party_verified` share the top rank. -/
def sourceIntegrityRank : SourceIntegrity → Nat
  | .freeText => 0
  | .humanReport => 1
  | .trustedService => 2
  | .structured => 3
  | .firstPartyVerified => 3

def meetsSourceIntegrityFloor (level floor : SourceIntegrity) : Bool :=
  sourceIntegrityRank floor ≤ sourceIntegrityRank level

/-- The types leave one way to be invalid: a window that is not a finite number. -/
def isValidFreshnessPolicy : FreshnessPolicy → Bool
  | .cacheable (.millis window) => window.isFinite
  | _ => true

def isValidEvidenceRequirement (requirement : EvidenceRequirement) : Bool :=
  isValidFreshnessPolicy requirement.freshnessPolicy

def invalidFreshnessPolicy : Thrown :=
  .error "Error" (utf16 ("parseEvidenceRequirement: invalid freshnessPolicy — a `cacheable` policy " ++
    "MUST carry its `ttl` (number | \"reindex_bound\"); a bare \"cacheable\" or " ++
    "`\x7b kind: 'cacheable' \x7d` leaves fresh(e) unenforceable (SDD §E / v1.1 §5)."))

def parseEvidenceRequirement (requirement : EvidenceRequirement) :
    Except Thrown EvidenceRequirement :=
  if isValidEvidenceRequirement requirement then .ok requirement
  else .error invalidFreshnessPolicy

structure FalsifierDeclaration where
  falsifierComplete : Option Bool
  falsifiers : Option (List EvidenceRequirement)
deriving DecidableEq

/-- A missing list of falsifiers counts as an empty one. -/
def FalsifierDeclaration.enumerated (declaration : FalsifierDeclaration) :
    List EvidenceRequirement :=
  declaration.falsifiers.getD []

def isFalsifierComplete (declaration : FalsifierDeclaration) : Bool :=
  declaration.falsifierComplete == some true && 0 < declaration.enumerated.length

def incompleteFalsifiers : Thrown :=
  .error "Error" (utf16 ("assertFalsifierDeclaration: a type with `falsifierComplete: true` MUST " ++
    "enumerate a non-empty `falsifiers[]` (W6 §R) — claiming completeness " ++
    "while enumerating none is the inconsistent lying case (build failure). " ++
    "Either enumerate the falsifying evidence or drop `falsifierComplete`."))

def assertFalsifierDeclaration (declaration : FalsifierDeclaration) : Except Thrown Unit :=
  if declaration.falsifierComplete == some true && declaration.enumerated.length == 0 then
    .error incompleteFalsifiers
  else forM declaration.enumerated fun falsifier => do let _ ← parseEvidenceRequirement falsifier

/-- A declaration that claims completeness names a falsifier, and its falsifiers are valid. -/
def FalsifierDeclaration.WellFormed (declaration : FalsifierDeclaration) : Prop :=
  (declaration.falsifierComplete = some true → declaration.enumerated ≠ []) ∧
    ∀ falsifier ∈ declaration.enumerated, isValidEvidenceRequirement falsifier = true

/-- Steps that only may throw succeed together exactly when each of them does. -/
theorem forM_eq_ok {A : Type} {items : List A} {body : A → Except Thrown Unit} :
    forM items body = .ok () ↔ ∀ item ∈ items, body item = .ok () := by
  induction items with
  | nil => exact iff_of_true rfl (by simp)
  | cons item items ih =>
      rw [List.forM_cons, bind_eq_ok, List.forall_mem_cons, ← ih]
      exact ⟨fun ⟨_, head, tail⟩ => ⟨head, tail⟩, fun ⟨head, tail⟩ => ⟨(), head, tail⟩⟩

theorem parsed_ok {requirement : EvidenceRequirement} :
    (do let _ ← parseEvidenceRequirement requirement) = (.ok () : Except Thrown Unit) ↔
      isValidEvidenceRequirement requirement = true := by
  unfold parseEvidenceRequirement
  cases valid : isValidEvidenceRequirement requirement with
  | true => exact iff_of_true rfl rfl
  | false => exact iff_of_false nofun nofun

theorem assertFalsifierDeclaration_ok {declaration : FalsifierDeclaration} :
    assertFalsifierDeclaration declaration = .ok () ↔ declaration.WellFormed := by
  unfold assertFalsifierDeclaration FalsifierDeclaration.WellFormed
  split
  · rename_i lying
    obtain ⟨complete, none_named⟩ : declaration.falsifierComplete = some true ∧
        declaration.enumerated = [] := by simpa using lying
    exact iff_of_false nofun fun wellFormed => wellFormed.1 complete none_named
  · rename_i honest
    rw [forM_eq_ok]
    simp only [parsed_ok]
    refine (and_iff_right ?_).symm
    intro complete none_named
    simp [complete, none_named] at honest

theorem isFalsifierComplete_iff {declaration : FalsifierDeclaration} :
    isFalsifierComplete declaration = true ↔
      declaration.falsifierComplete = some true ∧ declaration.enumerated ≠ [] := by
  simp [isFalsifierComplete, List.length_pos_iff]

end Adjudicate.Claims
