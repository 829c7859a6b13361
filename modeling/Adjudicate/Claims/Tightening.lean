/-
This file tells exactly when a claim that validates under a tightened requirement or falsifier
declaration also validated before.
-/

import Adjudicate.Claims.Allowed
import Adjudicate.Claims.RegistryDiff

namespace Adjudicate.Claims

open Js

/-- Two versions of a claim bind the same value, require the same keys, and only add falsifiers. -/
structure Revises (before after : MinimalClaim) : Prop where
  binding : after.valueBinding = before.valueBinding
  value : after.value = before.value
  required : after.requiredEvidence.map EvidenceRequirement.key =
    before.requiredEvidence.map EvidenceRequirement.key
  falsifiers : ∀ falsifier ∈ before.enumerated,
    ∃ other ∈ after.enumerated, other.key = falsifier.key

/-- The cap and the outcome gate let the claim through, and its falsifiers parse. -/
structure Eligible (claim : MinimalClaim) (deps : SoundnessDeps) : Prop where
  complete : isFalsifierComplete claim.toFalsifierDeclaration = true
  valid : ∀ falsifier ∈ claim.enumerated, isValidEvidenceRequirement falsifier = true
  outcome : AssertsOutcome claim → deps.outcomeConfirmed claim = .ok true

section

variable {before after : MinimalClaim} {ledger : EvidenceLedger} {deps : SoundnessDeps}

theorem bound_congr (revises : Revises before after) (binding : ValueBinding) :
    Bound after binding ledger ↔ Bound before binding ledger := by
  unfold Bound
  rw [revises.value]

/-- A revised claim validates before exactly when its own evidence, cap and outcome did. -/
theorem validated_before_iff (revises : Revises before after)
    (validated : claimAllowed after ledger deps = .ok .validated) :
    claimAllowed before ledger deps = .ok .validated ↔
      Eligible before deps ∧ ∀ requirement ∈ before.requiredEvidence,
        ∃ entry, Supported before requirement ledger deps entry := by
  obtain ⟨-, gated, allowed⟩ := claimAllowed_validated.mp validated
  rw [claimAllowed_validated]
  constructor
  · intro ⟨wellFormed, _, earlier⟩
    have complete := isFalsifierComplete_iff.mpr ⟨earlier.complete, earlier.enumerated⟩
    exact ⟨⟨complete, wellFormed.2, earlier.outcome⟩, earlier.supported⟩
  · intro ⟨eligible, supported⟩
    obtain ⟨complete, enumerated⟩ := isFalsifierComplete_iff.mp eligible.complete
    refine ⟨⟨fun _ => enumerated, eligible.valid⟩, ?_, ?_⟩
    · intro binding bound
      rw [← revises.required]
      exact gated binding (revises.binding.trans bound)
    · have nonempty : before.requiredEvidence ≠ [] := by
        intro empty
        have none_required := revises.required
        rw [empty, List.map_nil, List.map_eq_nil_iff] at none_required
        exact allowed.nonempty none_required
      have bound (binding : ValueBinding) (named : before.valueBinding = some binding) :
          Bound before binding ledger :=
        (bound_congr revises binding).mp (allowed.bound binding (revises.binding.trans named))
      have silent (falsifier : EvidenceRequirement) (inside : falsifier ∈ before.enumerated) :
          ledger.resolve falsifier.key = .absent := by
        obtain ⟨other, added, same⟩ := revises.falsifiers falsifier inside
        rw [← same]
        exact allowed.silent other added
      exact ⟨nonempty, supported, eligible.outcome, bound, complete, enumerated, silent⟩

end

/-- What the earlier policy still asks of an entry that is fresh under the later one, where the
lint compares two policies of different kinds by rank, or a window that is not a number. -/
def StillFresh (before after : FreshnessPolicy) (entry : EvidenceEntry) (now : JsNumber) : Prop :=
  match before, after with
  | .mustReadThisTurn, .actionOutcome => entry.sourceMode = .live
  | .cacheable (.millis window), .cacheable _ => window ≠ .nan
  | .cacheable (.millis window), _ =>
      JsNumber.atMost 0 (now.sub entry.fetchedAt) = true ∧
        (now.sub entry.fetchedAt).atMost window = true
  | _, _ => True

/-- A window that did not widen covers the one it became. -/
theorem window_covers {key : JsString} {before after : JsNumber}
    (clean : Clean (ttlFinding key (.millis before) (.millis after)))
    (beforeNumber : before ≠ .nan) (afterNumber : after ≠ .nan) : after.atMost before = true := by
  unfold ttlFinding at clean
  simp only at clean
  cases same : before.equals after with
  | true =>
      rw [JsNumber.equals, Bool.and_eq_true] at same
      exact same.2
  | false =>
      cases wider : before.below after with
      | true => simp [same, wider] at clean
      | false => exact JsNumber.atMost_of_not_below beforeNumber afterNumber wider

theorem fresh_before_iff {old new : EvidenceRequirement} {key : JsString} {entry : EvidenceEntry}
    {now : JsNumber} (clean : Clean (freshnessFinding key old.freshnessPolicy new.freshnessPolicy))
    (fresh : Fresh new entry now) :
    Fresh old entry now ↔ StillFresh old.freshnessPolicy new.freshnessPolicy entry now := by
  unfold Fresh at fresh ⊢
  unfold freshnessFinding at clean
  cases oldPolicy : old.freshnessPolicy with
  | «static» => simp [StillFresh]
  | actionOutcome => simp [StillFresh]
  | mustReadThisTurn =>
      cases newPolicy : new.freshnessPolicy with
      | «static» => simp [oldPolicy, newPolicy, freshnessRank] at clean
      | cacheable ttl => simp [oldPolicy, newPolicy, freshnessRank] at clean
      | mustReadThisTurn =>
          rw [newPolicy] at fresh
          exact iff_of_true fresh trivial
      | actionOutcome => simp [StillFresh]
  | cacheable ttl =>
      cases ttl with
      | reindexBound => simp [StillFresh]
      | millis window =>
          cases newPolicy : new.freshnessPolicy with
          | «static» => simp [oldPolicy, newPolicy, freshnessRank] at clean
          | mustReadThisTurn => simp [StillFresh]
          | actionOutcome => simp [StillFresh]
          | cacheable after =>
              simp only [oldPolicy, newPolicy, cacheableTtl, freshnessRank, lt_irrefl, if_false]
                at clean
              cases after with
              | reindexBound => simp [ttlFinding] at clean
              | millis narrower =>
                  simp only [newPolicy] at fresh
                  obtain ⟨past, within⟩ := fresh
                  have narrowerNumber := (JsNumber.not_nan_of_atMost within).2
                  constructor
                  · intro ⟨_, covered⟩
                    exact (JsNumber.not_nan_of_atMost covered).2
                  · intro number
                    exact ⟨past, JsNumber.atMost_trans within
                      (window_covers clean number narrowerNumber)⟩

theorem trusted_before {old new : EvidenceRequirement} {key : JsString} {entry : EvidenceEntry}
    (clean : Clean (provenanceFinding key old.provenancePolicy new.provenancePolicy))
    (trusted : Trusted new entry) : Trusted old entry := by
  obtain ⟨taint, origin, firstParty⟩ := trusted
  refine ⟨taint, origin, ?_⟩
  intro demanded
  refine firstParty ?_
  rw [demanded] at clean
  cases kept : new.provenancePolicy with
  | firstPartyOnly => rfl
  | preserve => simp [kept, provenanceFinding] at clean

theorem required_after {key : JsString} {old new : OwnershipPolicy}
    (clean : Clean (ownershipFinding key old new)) (required : old = .required) :
    new = .required := by
  rw [required] at clean
  cases new with
  | required => rfl
  | notApplicable => simp [ownershipFinding] at clean

/-- The same claim with other requirements and another falsifier declaration. -/
def MinimalClaim.revise (claim : MinimalClaim) (requiredEvidence : List EvidenceRequirement)
    (declaration : FalsifierDeclaration) : MinimalClaim :=
  { claim with
    toFalsifierDeclaration := declaration
    requiredEvidence := requiredEvidence }

section

variable {before : MinimalClaim} {ledger : EvidenceLedger} {deps : SoundnessDeps}
  {declaration : FalsifierDeclaration} {left right : List EvidenceRequirement}
  {old new : EvidenceRequirement}

theorem supported_revise {requiredEvidence : List EvidenceRequirement}
    {requirement : EvidenceRequirement} {entry : EvidenceEntry} :
    Supported (before.revise requiredEvidence declaration) requirement ledger deps entry ↔
      Supported before requirement ledger deps entry :=
  ⟨fun ⟨present, trusted, owned, fresh, integrity⟩ => ⟨present, trusted, owned, fresh, integrity⟩,
    fun ⟨present, trusted, owned, fresh, integrity⟩ => ⟨present, trusted, owned, fresh, integrity⟩⟩

/-- Without a relaxation the earlier falsifiers are among the later ones. -/
theorem falsifier_kept {earlier later : FalsifierDeclaration}
    (clean : IsTightening (classifyFalsifierDiff earlier later)) {falsifier : EvidenceRequirement}
    (inside : falsifier ∈ earlier.enumerated) :
    ∃ other ∈ later.enumerated, other.key = falsifier.key := by
  rw [classifyFalsifierDiff, isTightening_append, isTightening_append, isTightening_filterMap]
    at clean
  have named : falsifier.key ∈ falsifierKeys earlier :=
    List.mem_eraseDups.mpr (List.mem_map_of_mem inside)
  have kept := clean.1.2 falsifier.key named
  split at kept
  · rename_i still
    exact List.mem_map.mp (List.mem_eraseDups.mp still)
  · simp at kept

theorem revise_revises (listed : before.requiredEvidence = left ++ old :: right)
    (same : new.key = old.key)
    (falsifiers : IsTightening (classifyFalsifierDiff before.toFalsifierDeclaration declaration)) :
    Revises before (before.revise (left ++ new :: right) declaration) where
  binding := rfl
  value := rfl
  required := by
    change (left ++ new :: right).map EvidenceRequirement.key = _
    rw [listed, List.map_append, List.map_append, List.map_cons, List.map_cons, same]
  falsifiers := fun _ inside => falsifier_kept falsifiers inside

/-- A supported later requirement supports the earlier one up to its floor and its freshness. -/
theorem supported_before_iff (same : new.key = old.key)
    (clean : IsTightening (classifyEvidenceRequirementDiff old new)) {entry : EvidenceEntry}
    (supported : Supported before new ledger deps entry) :
    Supported before old ledger deps entry ↔
      sourceIntegrityRank before.minSourceIntegrity ≤ sourceIntegrityRank old.sourceIntegrity ∧
        StillFresh old.freshnessPolicy new.freshnessPolicy entry deps.now := by
  simp only [classifyEvidenceRequirementDiff, isTightening_filterMap, List.forall_mem_cons, id]
    at clean
  obtain ⟨-, ownership, freshness, provenance, -⟩ := clean
  rw [← fresh_before_iff freshness supported.fresh]
  constructor
  · intro earlier
    exact ⟨earlier.integrity, earlier.fresh⟩
  · intro ⟨integrity, fresh⟩
    have present : ledger.resolve old.key = .present entry := same ▸ supported.present
    have owned : Owned before old deps := by
      intro required
      have asked := supported.owned (required_after ownership required)
      rwa [same] at asked
    exact ⟨present, trusted_before provenance supported.trusted, owned, fresh, integrity⟩

end

/-- What the lint does not compare between two versions of a requirement and a declaration. -/
structure Covered (before : MinimalClaim) (old new : EvidenceRequirement)
    (ledger : EvidenceLedger) (deps : SoundnessDeps) : Prop where
  eligible : Eligible before deps
  floor : sourceIntegrityRank before.minSourceIntegrity ≤ sourceIntegrityRank old.sourceIntegrity
  fresh : ∀ entry, ledger.resolve old.key = .present entry →
    StillFresh old.freshnessPolicy new.freshnessPolicy entry deps.now

/-- A claim that validates after a diff without a relaxation validated before exactly when what
the lint does not compare was covered. -/
theorem requirementDiff_sound_iff {before : MinimalClaim} {ledger : EvidenceLedger}
    {deps : SoundnessDeps} {declaration : FalsifierDeclaration}
    {left right : List EvidenceRequirement} {old new : EvidenceRequirement}
    (listed : before.requiredEvidence = left ++ old :: right) (same : new.key = old.key)
    (requirement : IsTightening (classifyEvidenceRequirementDiff old new))
    (falsifiers : IsTightening (classifyFalsifierDiff before.toFalsifierDeclaration declaration))
    (validated : claimAllowed (before.revise (left ++ new :: right) declaration) ledger deps =
      .ok .validated) :
    claimAllowed before ledger deps = .ok .validated ↔ Covered before old new ledger deps := by
  have later := (claimAllowed_validated.mp validated).2.2.supported
  have laterOf {other : EvidenceRequirement} (inside : other ∈ left ++ new :: right) :
      ∃ entry, Supported before other ledger deps entry := by
    obtain ⟨entry, supported⟩ := later other inside
    exact ⟨entry, supported_revise.mp supported⟩
  obtain ⟨entry, supported⟩ := laterOf (List.mem_append_right left List.mem_cons_self)
  have present : ledger.resolve old.key = .present entry := same ▸ supported.present
  have replaced := supported_before_iff same requirement supported
  rw [validated_before_iff (revise_revises listed same falsifiers) validated]
  constructor
  · intro ⟨eligible, earlier⟩
    obtain ⟨found, holds⟩ := earlier old (listed ▸ List.mem_append_right left List.mem_cons_self)
    obtain rfl : entry = found := by simpa using present.symm.trans holds.present
    obtain ⟨floor, fresh⟩ := replaced.mp holds
    refine ⟨eligible, floor, ?_⟩
    intro other resolved
    obtain rfl : entry = other := by simpa using present.symm.trans resolved
    exact fresh
  · intro ⟨eligible, floor, fresh⟩
    refine ⟨eligible, ?_⟩
    intro other inside
    rw [listed, List.mem_append, List.mem_cons] at inside
    obtain front | rfl | back := inside
    · exact laterOf (List.mem_append_left _ front)
    · exact ⟨entry, replaced.mpr ⟨floor, fresh entry present⟩⟩
    · exact laterOf (List.mem_append_right left (List.mem_cons_of_mem new back))

def firstPartyRequirement (key : JsString) : EvidenceRequirement :=
  { sampleRequirement key with provenancePolicy := .firstPartyOnly }

theorem requirementDiff_sound_iff_sample :
    claimAllowed sampleClaim sampleLedger sampleDeps = .ok .validated ↔
      Covered sampleClaim (sampleRequirement [1]) (firstPartyRequirement [1]) sampleLedger
        sampleDeps :=
  @requirementDiff_sound_iff sampleClaim sampleLedger sampleDeps
    ⟨some true, some [sampleRequirement [2], sampleRequirement [3]]⟩ [sampleRequirement [0]] []
    (sampleRequirement [1]) (firstPartyRequirement [1]) rfl rfl (by decide +kernel)
    (by decide +kernel) (by decide +kernel)

/-- The entries of the sample ledger are live and were fetched at zero. -/
def windowRequirement (key : JsString) : EvidenceRequirement :=
  { sampleRequirement key with freshnessPolicy := .cacheable (.millis (JsNumber.ofNat 1000)) }

def liveRequirement (key : JsString) : EvidenceRequirement :=
  { sampleRequirement key with freshnessPolicy := .mustReadThisTurn }

def weakRequirement (key : JsString) : EvidenceRequirement :=
  { sampleRequirement key with sourceIntegrity := .freeText }

def windowClaim : MinimalClaim :=
  { sampleClaim with requiredEvidence := [windowRequirement [0]] }

def weakClaim : MinimalClaim :=
  { sampleClaim with requiredEvidence := [weakRequirement [0]] }

def undeclaredClaim : MinimalClaim :=
  { sampleClaim with
    requiredEvidence := [sampleRequirement [0]]
    falsifierComplete := none }

def laterDeps : SoundnessDeps := { sampleDeps with now := JsNumber.ofNat 5000 }

/-- A live read replaces a window that has passed, a channel rises above the floor, and a
declaration becomes complete: the lint reports no relaxation and the claim newly validates. -/
theorem tightened_validates_more :
    (IsTightening (classifyEvidenceRequirementDiff (windowRequirement [0]) (liveRequirement [0])) ∧
      IsTightening (classifyFalsifierDiff windowClaim.toFalsifierDeclaration
        windowClaim.toFalsifierDeclaration) ∧
      claimAllowed (windowClaim.revise [liveRequirement [0]] windowClaim.toFalsifierDeclaration)
        sampleLedger laterDeps = .ok .validated ∧
      claimAllowed windowClaim sampleLedger laterDeps = .ok .unknown) ∧
    (IsTightening (classifyEvidenceRequirementDiff (weakRequirement [0]) (sampleRequirement [0])) ∧
      IsTightening (classifyFalsifierDiff weakClaim.toFalsifierDeclaration
        weakClaim.toFalsifierDeclaration) ∧
      claimAllowed (weakClaim.revise [sampleRequirement [0]] weakClaim.toFalsifierDeclaration)
        sampleLedger sampleDeps = .ok .validated ∧
      claimAllowed weakClaim sampleLedger sampleDeps = .ok .unknown) ∧
    (IsTightening (classifyEvidenceRequirementDiff (sampleRequirement [0])
        (sampleRequirement [0])) ∧
      IsTightening (classifyFalsifierDiff undeclaredClaim.toFalsifierDeclaration
        sampleClaim.toFalsifierDeclaration) ∧
      claimAllowed (undeclaredClaim.revise [sampleRequirement [0]]
        sampleClaim.toFalsifierDeclaration) sampleLedger sampleDeps = .ok .validated ∧
      claimAllowed undeclaredClaim sampleLedger sampleDeps = .ok .unknown) := by
  decide +kernel

end Adjudicate.Claims
