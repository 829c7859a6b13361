/-
This file models the lint that tells a tightened registry from a relaxed one.
-/

import Adjudicate.Js.NumberText
import Adjudicate.Claims.Consistency

namespace Adjudicate.Claims

open Js

inductive DiffClassification where
  | additive
  | relaxation
deriving DecidableEq

structure DiffFinding where
  kind : DiffClassification
  detail : JsString
deriving DecidableEq

def relaxationsOf (findings : List DiffFinding) : List DiffFinding :=
  findings.filter fun finding => finding.kind = .relaxation

def relaxationDetected (relaxations : List DiffFinding) : Thrown :=
  .error "Error" (utf16 "registry-diff: RELAXATION detected (requires an explicit waiver) — " ++
    List.intercalate (utf16 "; ") (relaxations.map DiffFinding.detail))

def assertNoRelaxation (findings : List DiffFinding) : Except Thrown Unit :=
  let relaxations := relaxationsOf findings
  if 0 < relaxations.length then .error (relaxationDetected relaxations) else .ok ()

/-- This index keeps the last relation of a pair and never throws. -/
def relationByPair (table : List ConsistencyConstraint) : Props ConsistencyRelation :=
  table.foldl
    (fun pairs constraint =>
      setOwn pairs (pairKey constraint.typeA constraint.typeB) constraint.relation) []

def isPermissive (relation : ConsistencyRelation) : Bool :=
  relation = .compatible || relation = .implication

def inBraces (key : JsString) : JsString := utf16 "\x7b" ++ key ++ utf16 "\x7d"

/-- A new pair may only exclude, and an excluded pair may only stay excluded. -/
def pairFinding (beforeByPair : Props ConsistencyRelation) (key : JsString)
    (relation : ConsistencyRelation) : Option DiffFinding :=
  match beforeByPair.lookup key with
  | none =>
      if relation = .mutualExclusion then
        some ⟨.additive, utf16 "added MUTUAL_EXCLUSION pair " ++ inBraces key⟩
      else
        some ⟨.relaxation, utf16 ("added permissive " ++ relation.name ++ " pair ") ++
          inBraces key ++ utf16 " (was default-deny ESCALATE)"⟩
  | some prior =>
      if prior = relation then none
      else if prior = .mutualExclusion && isPermissive relation then
        some ⟨.relaxation, utf16 "pair " ++ inBraces key ++
          utf16 (" changed MUTUAL_EXCLUSION → " ++ relation.name)⟩
      else
        some ⟨.additive, utf16 "pair " ++ inBraces key ++
          utf16 (" changed " ++ prior.name ++ " → " ++ relation.name)⟩

def removedPair (afterByPair : Props ConsistencyRelation) (key : JsString) : Option DiffFinding :=
  if (afterByPair.lookup key).isSome then none
  else some ⟨.relaxation, utf16 "removed constraint pair " ++ inBraces key⟩

def classifyConsistencyTableDiff (before after : List ConsistencyConstraint) : List DiffFinding :=
  let beforeByPair := relationByPair before
  let afterByPair := relationByPair after
  afterByPair.filterMap (fun pair => pairFinding beforeByPair pair.1 pair.2) ++
    beforeByPair.filterMap fun pair => removedPair afterByPair pair.1

def SourceIntegrity.name : SourceIntegrity → String
  | .structured => "structured"
  | .trustedService => "trusted_service"
  | .firstPartyVerified => "first_party_verified"
  | .humanReport => "human_report"
  | .freeText => "free_text"

/-- A requirement that reads an action outcome ranks with one that reads this turn. -/
def freshnessRank : FreshnessPolicy → Nat
  | .«static» => 0
  | .cacheable _ => 1
  | .mustReadThisTurn => 2
  | .actionOutcome => 2

def cacheableTtl : FreshnessPolicy → Option Ttl
  | .cacheable ttl => some ttl
  | _ => none

def Ttl.text : Ttl → JsString
  | .millis window => window.toString
  | .reindexBound => utf16 "reindex_bound"

def aboutKey (key : JsString) : JsString := utf16 "[" ++ key ++ utf16 "] "

def integrityFinding (key : JsString) (before after : SourceIntegrity) : Option DiffFinding :=
  if sourceIntegrityRank after < sourceIntegrityRank before then
    some ⟨.relaxation, aboutKey key ++
      utf16 ("sourceIntegrity weakened " ++ before.name ++ " → " ++ after.name)⟩
  else if sourceIntegrityRank before < sourceIntegrityRank after then
    some ⟨.additive, aboutKey key ++
      utf16 ("sourceIntegrity raised " ++ before.name ++ " → " ++ after.name)⟩
  else none

def ownershipFinding (key : JsString) : OwnershipPolicy → OwnershipPolicy → Option DiffFinding
  | .required, .notApplicable =>
      some ⟨.relaxation, aboutKey key ++ utf16 "ownershipPolicy weakened required → not_applicable"⟩
  | .notApplicable, .required =>
      some ⟨.additive, aboutKey key ++ utf16 "ownershipPolicy tightened to required"⟩
  | _, _ => none

/-- Two windows compare as numbers; a change from or to the symbolic bound cannot be compared. -/
def ttlFinding (key : JsString) : Ttl → Ttl → Option DiffFinding
  | .reindexBound, .reindexBound => none
  | .millis before, .millis after =>
      if before.equals after then none
      else if before.below after then
        some ⟨.relaxation, aboutKey key ++ utf16 "cacheable ttl widened " ++ before.toString ++
          utf16 " → " ++ after.toString⟩
      else
        some ⟨.additive, aboutKey key ++ utf16 "cacheable ttl shrank " ++ before.toString ++
          utf16 " → " ++ after.toString⟩
  | before, after =>
      some ⟨.relaxation, aboutKey key ++ utf16 "cacheable ttl changed " ++ before.text ++
        utf16 " → " ++ after.text ++ utf16 " — not provably non-loosening (reindex_bound)"⟩

def rankChange (before after : Nat) : JsString :=
  utf16 ("(rank " ++ toString before ++ " → " ++ toString after ++ ")")

/-- Policies compare by rank, and two cacheable ones by their windows. -/
def freshnessFinding (key : JsString) (before after : FreshnessPolicy) : Option DiffFinding :=
  let beforeRank := freshnessRank before
  let afterRank := freshnessRank after
  if afterRank < beforeRank then
    some ⟨.relaxation, aboutKey key ++ utf16 "freshness loosened " ++
      rankChange beforeRank afterRank⟩
  else if beforeRank < afterRank then
    some ⟨.additive, aboutKey key ++ utf16 "freshness tightened " ++
      rankChange beforeRank afterRank⟩
  else
    match cacheableTtl before, cacheableTtl after with
    | some beforeTtl, some afterTtl => ttlFinding key beforeTtl afterTtl
    | _, _ => none

def provenanceFinding (key : JsString) : ProvenancePolicy → ProvenancePolicy → Option DiffFinding
  | .firstPartyOnly, .preserve =>
      some ⟨.relaxation, aboutKey key ++
        utf16 "provenancePolicy weakened first_party_only → preserve"⟩
  | .preserve, .firstPartyOnly =>
      some ⟨.additive, aboutKey key ++ utf16 "provenancePolicy tightened to first_party_only"⟩
  | _, _ => none

/-- Each axis of a requirement gives at most one finding. -/
def classifyEvidenceRequirementDiff (before after : EvidenceRequirement) : List DiffFinding :=
  [integrityFinding after.key before.sourceIntegrity after.sourceIntegrity,
    ownershipFinding after.key before.ownershipPolicy after.ownershipPolicy,
    freshnessFinding after.key before.freshnessPolicy after.freshnessPolicy,
    provenanceFinding after.key before.provenancePolicy after.provenancePolicy].filterMap id

def completenessFinding (before after : Option Bool) : Option DiffFinding :=
  if before = some true && after ≠ some true then
    some ⟨.relaxation, utf16 "falsifierComplete weakened true → false"⟩
  else if before ≠ some true && after = some true then
    some ⟨.additive, utf16 "falsifierComplete tightened to true"⟩
  else none

/-- A set lists its members in the order of their first occurrence. -/
def falsifierKeys (declaration : FalsifierDeclaration) : List JsString :=
  (declaration.enumerated.map EvidenceRequirement.key).eraseDups

def inQuotes (key : JsString) : JsString := utf16 "\"" ++ key ++ utf16 "\""

def classifyFalsifierDiff (before after : FalsifierDeclaration) : List DiffFinding :=
  let beforeKeys := falsifierKeys before
  let afterKeys := falsifierKeys after
  (completenessFinding before.falsifierComplete after.falsifierComplete).toList ++
    beforeKeys.filterMap (fun key =>
      if key ∈ afterKeys then none
      else some ⟨.relaxation, utf16 "removed falsifier " ++ inQuotes key⟩) ++
    afterKeys.filterMap fun key =>
      if key ∈ beforeKeys then none
      else some ⟨.additive, utf16 "added falsifier " ++ inQuotes key⟩

/-- The lint passes a change without a relaxation. -/
def IsTightening (findings : List DiffFinding) : Prop :=
  ∀ finding ∈ findings, finding.kind ≠ .relaxation

instance (findings : List DiffFinding) : Decidable (IsTightening findings) :=
  inferInstanceAs (Decidable (∀ finding ∈ findings, finding.kind ≠ .relaxation))

/-- A single comparison reports no relaxation. -/
def Clean (reported : Option DiffFinding) : Prop :=
  ∀ finding, reported = some finding → finding.kind ≠ .relaxation

@[simp] theorem clean_none : Clean none := nofun

@[simp] theorem clean_some (finding : DiffFinding) :
    Clean (some finding) ↔ finding.kind ≠ .relaxation := by
  simp [Clean]

theorem isTightening_append {first second : List DiffFinding} :
    IsTightening (first ++ second) ↔ IsTightening first ∧ IsTightening second := by
  simp only [IsTightening, List.forall_mem_append]

theorem isTightening_filterMap {X : Type} {items : List X} {compare : X → Option DiffFinding} :
    IsTightening (items.filterMap compare) ↔ ∀ item ∈ items, Clean (compare item) := by
  simp only [IsTightening, Clean, List.mem_filterMap]
  constructor
  · intro clean item inside finding reported
    exact clean finding ⟨item, inside, reported⟩
  · intro clean finding ⟨item, inside, reported⟩
    exact clean item inside finding reported

theorem assertNoRelaxation_ok {findings : List DiffFinding} :
    assertNoRelaxation findings = .ok () ↔ IsTightening findings := by
  have empty : relaxationsOf findings = [] ↔ IsTightening findings := by
    simp [relaxationsOf, IsTightening, List.filter_eq_nil_iff]
  rw [← empty, assertNoRelaxation, ← List.length_eq_zero_iff]
  split
  · rename_i relaxed
    exact iff_of_false nofun (by omega)
  · rename_i clean
    exact iff_of_true rfl (by omega)

end Adjudicate.Claims
