/-
This file states what a validated claim rests on and shows that the predicate decides it.
-/

import Adjudicate.Claims.Soundness

namespace Adjudicate.Claims

open Js

/-- The age of a cacheable entry lies between zero and the window; other policies read the mode. -/
def Fresh (requirement : EvidenceRequirement) (entry : EvidenceEntry) (now : JsNumber) : Prop :=
  match requirement.freshnessPolicy with
  | .mustReadThisTurn => entry.sourceMode = .live
  | .cacheable (.millis ttl) =>
      JsNumber.atMost 0 (now.sub entry.fetchedAt) = true ∧ (now.sub entry.fetchedAt).atMost ttl = true
  | _ => True

/-- Both trust axes vouch for the entry, and a first-party demand is met. -/
def Trusted (requirement : EvidenceRequirement) (entry : EvidenceEntry) : Prop :=
  entry.taint ≠ .untrustedData ∧ entry.originProvenance ≠ .untrustedData ∧
    (requirement.provenancePolicy = .firstPartyOnly → entry.originProvenance = .firstParty)

/-- A required owner is asked about the resource that the claim itself binds, and answers yes. -/
def Owned (claim : MinimalClaim) (requirement : EvidenceRequirement) (deps : SoundnessDeps) :
    Prop :=
  requirement.ownershipPolicy = .required →
    ∃ resources resource, claim.resources = some resources ∧
      resources.lookup requirement.key = some resource ∧ resource.isUndefined = false ∧
      deps.owns claim.actor resource = .ok true

/-- One requirement holds of the ledger. -/
structure Supported (claim : MinimalClaim) (requirement : EvidenceRequirement)
    (ledger : EvidenceLedger) (deps : SoundnessDeps) (entry : EvidenceEntry) : Prop where
  present : ledger.resolve requirement.key = .present entry
  trusted : Trusted requirement entry
  owned : Owned claim requirement deps
  fresh : Fresh requirement entry deps.now
  integrity :
    sourceIntegrityRank claim.minSourceIntegrity ≤ sourceIntegrityRank requirement.sourceIntegrity

/-- The claim asserts that an action came out. -/
def AssertsOutcome (claim : MinimalClaim) : Prop :=
  claim.kind = .actionClaim ∨
    ∃ requirement ∈ claim.requiredEvidence, requirement.freshnessPolicy = .actionOutcome

/-- Both sides of the binding are equal scalars. -/
def Bound (claim : MinimalClaim) (binding : ValueBinding) (ledger : EvidenceLedger) : Prop :=
  ∃ entry, ledger.resolve binding.key = .present entry ∧
    withinValueGrammar (projectValue claim.value binding.path) = true ∧
    withinValueGrammar (projectValue entry.value binding.path) = true ∧
    sameValue (projectValue claim.value binding.path) (projectValue entry.value binding.path) = true

/-- Everything that a validated claim rests on. -/
structure Allowed (claim : MinimalClaim) (ledger : EvidenceLedger) (deps : SoundnessDeps) :
    Prop where
  nonempty : claim.requiredEvidence ≠ []
  supported : ∀ requirement ∈ claim.requiredEvidence,
    ∃ entry, Supported claim requirement ledger deps entry
  outcome : AssertsOutcome claim → deps.outcomeConfirmed claim = .ok true
  bound : ∀ binding, claim.valueBinding = some binding → Bound claim binding ledger
  complete : claim.falsifierComplete = some true
  enumerated : claim.enumerated ≠ []
  silent : ∀ falsifier ∈ claim.enumerated, ledger.resolve falsifier.key = .absent

section

variable {claim : MinimalClaim} {ledger : EvidenceLedger} {deps : SoundnessDeps}
  {requirement : EvidenceRequirement}

theorem freshnessVerdict_pass {entry : EvidenceEntry} {now : JsNumber} :
    freshnessVerdict requirement entry now = .pass ↔ Fresh requirement entry now := by
  unfold freshnessVerdict Fresh
  cases requirement.freshnessPolicy with
  | «static» => simp
  | actionOutcome => simp
  | mustReadThisTurn => simp
  | cacheable ttl => cases ttl <;> simp

theorem provenanceVerdict_pass {entry : EvidenceEntry} :
    provenanceVerdict requirement entry = .pass ↔ Trusted requirement entry := by
  unfold provenanceVerdict Trusted
  cases entry.taint <;> cases entry.originProvenance <;>
    cases requirement.provenancePolicy <;> simp

theorem provenanceVerdict_cases (entry : EvidenceEntry) :
    provenanceVerdict requirement entry = .pass ∨
      provenanceVerdict requirement entry = .refused := by
  unfold provenanceVerdict
  cases entry.taint <;> cases entry.originProvenance <;>
    cases requirement.provenancePolicy <;> simp

theorem resource_eq_some {key : JsString} {resource : JsValue} :
    claim.resource key = some resource ↔
      ∃ resources, claim.resources = some resources ∧ resources.lookup key = some resource ∧
        resource.isUndefined = false := by
  unfold MinimalClaim.resource
  cases claim.resources with
  | none => simp
  | some resources => simp [Option.filter_eq_some_iff]

theorem ownershipHolds_true : ownershipHolds claim requirement deps = .ok true ↔
    Owned claim requirement deps := by
  unfold ownershipHolds Owned
  cases requirement.ownershipPolicy with
  | notApplicable => simp
  | required =>
      cases bound : claim.resource requirement.key with
      | none =>
          refine iff_of_false (by simp) ?_
          intro owned
          obtain ⟨resources, resource, known, found, defined, -⟩ := owned rfl
          rw [resource_eq_some.mpr ⟨resources, known, found, defined⟩] at bound
          cases bound
      | some resource =>
          obtain ⟨resources, known, found, defined⟩ := resource_eq_some.mp bound
          constructor
          · intro owns _
            exact ⟨resources, resource, known, found, defined, owns⟩
          · intro owned
            obtain ⟨others, other, known', found', -, owns⟩ := owned rfl
            obtain rfl := Option.some.inj (known.symm.trans known')
            obtain rfl := Option.some.inj (found.symm.trans found')
            exact owns

/-- A present entry passes when no conjunct fails, in whatever order they are asked. -/
theorem evaluateEntry_pass {entry : EvidenceEntry} :
    evaluateEntry claim requirement entry deps = .ok .pass ↔
      Trusted requirement entry ∧ Owned claim requirement deps ∧
        Fresh requirement entry deps.now ∧
        sourceIntegrityRank claim.minSourceIntegrity ≤
          sourceIntegrityRank requirement.sourceIntegrity := by
  rw [← provenanceVerdict_pass, ← ownershipHolds_true, ← freshnessVerdict_pass]
  unfold evaluateEntry
  obtain passed | refused := @provenanceVerdict_cases requirement entry
  · simp only [passed, true_and]
    cases owns : ownershipHolds claim requirement deps with
    | error raised => exact iff_of_false nofun (by simp)
    | ok owned =>
        cases owned with
        | false => exact iff_of_false nofun (by simp)
        | true =>
            cases fresh : freshnessVerdict requirement entry deps.now with
            | pass => simp [meetsSourceIntegrityFloor]
            | unknown => exact iff_of_false (by simp) (by simp)
            | refused => exact iff_of_false (by simp) (by simp)
  · simp [refused]

theorem evaluateEvidence_pass :
    evaluateEvidence claim requirement ledger deps = .ok .pass ↔
      ∃ entry, Supported claim requirement ledger deps entry := by
  unfold evaluateEvidence
  cases resolved : ledger.resolve requirement.key with
  | present entry =>
      change evaluateEntry claim requirement entry deps = .ok .pass ↔ _
      rw [evaluateEntry_pass]
      constructor
      · intro ⟨trusted, owned, fresh, integrity⟩
        exact ⟨entry, resolved, trusted, owned, fresh, integrity⟩
      · intro ⟨other, supported⟩
        obtain rfl : entry = other := by
          simpa using resolved.symm.trans supported.present
        exact ⟨supported.trusted, supported.owned, supported.fresh, supported.integrity⟩
  | _ =>
      refine iff_of_false nofun ?_
      intro ⟨entry, supported⟩
      rw [supported.present] at resolved
      cases resolved

/-- The loop ends without an unknown exactly when every requirement passes. -/
theorem evaluateAll_some_false {requirements : List EvidenceRequirement} {sawUnknown : Bool} :
    evaluateAll claim ledger deps requirements sawUnknown = .ok (some false) ↔
      sawUnknown = false ∧ ∀ requirement ∈ requirements,
        evaluateEvidence claim requirement ledger deps = .ok .pass := by
  induction requirements generalizing sawUnknown with
  | nil => simp [evaluateAll]
  | cons requirement rest ih =>
      rw [evaluateAll, List.forall_mem_cons]
      cases judged : evaluateEvidence claim requirement ledger deps with
      | error raised => exact iff_of_false nofun (by simp)
      | ok verdict =>
          cases verdict with
          | pass => simpa using ih
          | unknown => simpa using ih.not.mpr (by simp)
          | refused => exact iff_of_false nofun (by simp)

theorem assertsActionOutcome_iff : assertsActionOutcome claim = true ↔ AssertsOutcome claim := by
  simp [assertsActionOutcome, AssertsOutcome]

theorem outcomeMissing_false :
    outcomeMissing claim deps = .ok false ↔
      (AssertsOutcome claim → deps.outcomeConfirmed claim = .ok true) := by
  unfold outcomeMissing
  rw [← assertsActionOutcome_iff]
  split
  · rename_i asserted
    cases deps.outcomeConfirmed claim with
    | error raised => exact iff_of_false nofun (by simp [asserted])
    | ok confirmed => simp [asserted]
  · rename_i silent
    simp [silent]

theorem valueBindingVerdict_pass {binding : ValueBinding} :
    valueBindingVerdict claim binding ledger = .pass ↔ Bound claim binding ledger := by
  unfold valueBindingVerdict Bound
  cases resolved : ledger.resolve binding.key with
  | present entry =>
      simp only [EvidenceResolution.present.injEq, exists_eq_left']
      cases withinValueGrammar (projectValue claim.value binding.path) <;>
        cases withinValueGrammar (projectValue entry.value binding.path) <;> simp
  | _ => simp

theorem checkBinding_pass :
    checkBinding claim ledger = .ok .pass ↔
      ∀ binding, claim.valueBinding = some binding →
        binding.key ∈ claim.requiredEvidence.map EvidenceRequirement.key ∧
          Bound claim binding ledger := by
  unfold checkBinding
  cases claim.valueBinding with
  | none => simp
  | some binding =>
      simp only [Option.some.injEq, forall_eq']
      split
      · rename_i gated
        simp [gated, valueBindingVerdict_pass]
      · rename_i ungated
        simp [ungated]

/-- One required key speaks for all of them, because all of them are present. -/
theorem falsifierFires_false {key : JsString} {entry : EvidenceEntry}
    (based : claim.baseKey = some key) (present : ledger.resolve key = .present entry) :
    falsifierFires claim ledger = false ↔
      ∀ falsifier ∈ claim.enumerated, ledger.resolve falsifier.key = .absent := by
  have conflicts := EvidenceLedger.resolveAgainstFalsifiers_conflict present claim.falsifierKeys
  unfold falsifierFires
  split
  · rename_i none_named
    have empty : claim.enumerated = [] := by simpa [MinimalClaim.falsifierKeys] using none_named
    simp [empty]
  · have named : (∀ falsifier ∈ claim.enumerated, ledger.resolve falsifier.key = .absent) ↔
        ∀ falsifier ∈ claim.falsifierKeys, ledger.resolve falsifier = .absent := by
      simp [MinimalClaim.falsifierKeys]
    rw [based, named, ← not_iff_not, ← conflicts]
    cases judged : ledger.resolveAgainstFalsifiers key claim.falsifierKeys <;> simp [judged]

/-- The key of a declared binding is a required key. -/
def Gated (claim : MinimalClaim) : Prop :=
  ∀ binding, claim.valueBinding = some binding →
    binding.key ∈ claim.requiredEvidence.map EvidenceRequirement.key

/-- When all evidence passes and the outcome is confirmed, the binding decides. -/
theorem claimAllowed_of_supported (wellFormed : claim.WellFormed)
    (nonempty : claim.requiredEvidence ≠ [])
    (supported : ∀ requirement ∈ claim.requiredEvidence,
      ∃ entry, Supported claim requirement ledger deps entry)
    (outcome : AssertsOutcome claim → deps.outcomeConfirmed claim = .ok true) :
    claimAllowed claim ledger deps = settleBinding claim ledger false := by
  have evaluated : evaluateAll claim ledger deps claim.requiredEvidence false = .ok (some false) :=
    evaluateAll_some_false.mpr ⟨rfl, fun requirement inside =>
      evaluateEvidence_pass.mpr (supported requirement inside)⟩
  unfold claimAllowed
  rw [assertFalsifierDeclaration_ok.mpr wellFormed, evaluated, outcomeMissing_false.mpr outcome]
  simp [nonempty]

/-- A present base key makes the cap a matter of the declaration and its falsifiers. -/
theorem capVerdict_validated {key : JsString} {entry : EvidenceEntry}
    (based : claim.baseKey = some key) (present : ledger.resolve key = .present entry) :
    capVerdict claim ledger false = .validated ↔
      claim.falsifierComplete = some true ∧ claim.enumerated ≠ [] ∧
        ∀ falsifier ∈ claim.enumerated, ledger.resolve falsifier.key = .absent := by
  rw [← falsifierFires_false based present, ← and_assoc, ← isFalsifierComplete_iff]
  unfold capVerdict
  cases isFalsifierComplete claim.toFalsifierDeclaration <;> cases falsifierFires claim ledger <;>
    simp

/-- Some required key, or the key of the binding, is the base of the falsifier check. -/
theorem baseKey_present (nonempty : claim.requiredEvidence ≠ [])
    (supported : ∀ requirement ∈ claim.requiredEvidence,
      ∃ entry, Supported claim requirement ledger deps entry) (gated : Gated claim) :
    ∃ key entry, claim.baseKey = some key ∧ ledger.resolve key = .present entry := by
  have present (key : JsString)
      (inside : key ∈ claim.requiredEvidence.map EvidenceRequirement.key) :
      ∃ entry, ledger.resolve key = .present entry := by
    obtain ⟨requirement, known, rfl⟩ := List.mem_map.mp inside
    obtain ⟨entry, holds⟩ := supported requirement known
    exact ⟨entry, holds.present⟩
  unfold MinimalClaim.baseKey
  cases bound : claim.valueBinding with
  | some binding =>
      obtain ⟨entry, resolved⟩ := present binding.key (gated binding bound)
      exact ⟨binding.key, entry, rfl, resolved⟩
  | none =>
      obtain ⟨requirement, rest, list⟩ := List.exists_cons_of_ne_nil nonempty
      obtain ⟨entry, resolved⟩ := present requirement.key (by simp [list])
      exact ⟨requirement.key, entry, by simp [list], resolved⟩

/-- The stages of the predicate, put together. -/
theorem claimAllowed_validated :
    claimAllowed claim ledger deps = .ok .validated ↔
      claim.WellFormed ∧ Gated claim ∧ Allowed claim ledger deps := by
  constructor
  · intro validated
    unfold claimAllowed at validated
    obtain ⟨⟨⟩, asserted, validated⟩ := bind_eq_ok.mp validated
    have wellFormed := assertFalsifierDeclaration_ok.mp asserted
    split at validated
    · cases validated
    rename_i nonempty
    have nonempty : claim.requiredEvidence ≠ [] := by simpa using nonempty
    obtain ⟨seen, evaluated, validated⟩ := bind_eq_ok.mp validated
    cases seen with
    | none => cases validated
    | some sawUnknown =>
        obtain ⟨missing, outcome, validated⟩ := bind_eq_ok.mp validated
        cases missing with
        | true => cases validated
        | false =>
            unfold settleBinding at validated
            obtain ⟨verdict, checked, validated⟩ := bind_eq_ok.mp validated
            cases verdict with
            | refused => cases validated
            | abstain => cases validated
            | pass =>
                cases sawUnknown with
                | true => cases validated
                | false =>
                    have supported : ∀ requirement ∈ claim.requiredEvidence,
                        ∃ entry, Supported claim requirement ledger deps entry := by
                      intro requirement inside
                      exact evaluateEvidence_pass.mp
                        ((evaluateAll_some_false.mp evaluated).2 requirement inside)
                    have passes := checkBinding_pass.mp checked
                    have gated : Gated claim := fun binding bound => (passes binding bound).1
                    obtain ⟨key, entry, based, present⟩ :=
                      baseKey_present nonempty supported gated
                    obtain ⟨complete, enumerated, silent⟩ :=
                      (capVerdict_validated based present).mp (Except.ok.inj validated)
                    exact ⟨wellFormed, gated, nonempty, supported, outcomeMissing_false.mp outcome,
                      fun binding bound => (passes binding bound).2, complete, enumerated, silent⟩
  · intro ⟨wellFormed, gated, allowed⟩
    obtain ⟨key, entry, based, present⟩ :=
      baseKey_present allowed.nonempty allowed.supported gated
    have passes : checkBinding claim ledger = .ok .pass :=
      checkBinding_pass.mpr fun binding bound => ⟨gated binding bound, allowed.bound binding bound⟩
    rw [claimAllowed_of_supported wellFormed allowed.nonempty allowed.supported allowed.outcome,
      settleBinding, passes, ok_bind, (capVerdict_validated based present).mpr
        ⟨allowed.complete, allowed.enumerated, allowed.silent⟩]

theorem wellFormed_of_answered {verdict : ClaimVerdict}
    (answered : claimAllowed claim ledger deps = .ok verdict) : claim.WellFormed := by
  unfold claimAllowed at answered
  obtain ⟨⟨⟩, asserted, -⟩ := bind_eq_ok.mp answered
  exact assertFalsifierDeclaration_ok.mp asserted

/-- An ungated binding throws once the evidence and the outcome let the call get that far. -/
theorem gated_of_answered {verdict : ClaimVerdict}
    (answered : claimAllowed claim ledger deps = .ok verdict)
    (allowed : Allowed claim ledger deps) : Gated claim := by
  rw [claimAllowed_of_supported (wellFormed_of_answered answered) allowed.nonempty
    allowed.supported allowed.outcome, settleBinding] at answered
  obtain ⟨checked, bindingChecked, -⟩ := bind_eq_ok.mp answered
  intro binding bound
  unfold checkBinding at bindingChecked
  rw [bound] at bindingChecked
  by_contra ungated
  simp [ungated] at bindingChecked

theorem evaluateAll_none {requirements : List EvidenceRequirement} {sawUnknown : Bool}
    (evaluated : evaluateAll claim ledger deps requirements sawUnknown = .ok none) :
    ∃ requirement ∈ requirements,
      evaluateEvidence claim requirement ledger deps = .ok .refused := by
  induction requirements generalizing sawUnknown with
  | nil => cases evaluated
  | cons requirement rest ih =>
      rw [evaluateAll] at evaluated
      obtain ⟨verdict, judged, evaluated⟩ := bind_eq_ok.mp evaluated
      cases verdict with
      | refused => exact ⟨requirement, by simp, judged⟩
      | _ =>
          obtain ⟨other, inside, refused⟩ := ih evaluated
          exact ⟨other, List.mem_cons_of_mem _ inside, refused⟩

theorem evaluateAll_some {requirements : List EvidenceRequirement} {sawUnknown seen : Bool}
    (evaluated : evaluateAll claim ledger deps requirements sawUnknown = .ok (some seen)) :
    ∀ requirement ∈ requirements,
      evaluateEvidence claim requirement ledger deps ≠ .ok .refused := by
  induction requirements generalizing sawUnknown with
  | nil => simp
  | cons requirement rest ih =>
      rw [evaluateAll] at evaluated
      obtain ⟨verdict, judged, evaluated⟩ := bind_eq_ok.mp evaluated
      rw [List.forall_mem_cons, judged]
      cases verdict with
      | refused => cases evaluated
      | _ => exact ⟨by simp, ih evaluated⟩

/-- Some conjunct refuses the claim. -/
def Refuted (claim : MinimalClaim) (ledger : EvidenceLedger) (deps : SoundnessDeps) : Prop :=
  claim.requiredEvidence = [] ∨
    (∃ requirement ∈ claim.requiredEvidence,
      evaluateEvidence claim requirement ledger deps = .ok .refused) ∨
    outcomeMissing claim deps = .ok true ∨ checkBinding claim ledger = .ok .refused

theorem capVerdict_not_refused {sawUnknown : Bool} :
    capVerdict claim ledger sawUnknown ≠ .refused := by
  unfold capVerdict
  split
  · simp
  · split
    · simp
    · split <;> simp

/-- A call that answers refuses exactly when some conjunct does, whatever was unknown before. -/
theorem refused_iff {verdict : ClaimVerdict}
    (answered : claimAllowed claim ledger deps = .ok verdict) :
    verdict = .refused ↔ Refuted claim ledger deps := by
  unfold claimAllowed at answered
  obtain ⟨⟨⟩, -, answered⟩ := bind_eq_ok.mp answered
  split at answered
  · rename_i empty
    obtain rfl := Except.ok.inj answered
    exact iff_of_true rfl (.inl (by simpa using empty))
  rename_i nonempty
  have nonempty : claim.requiredEvidence ≠ [] := by simpa using nonempty
  obtain ⟨seen, evaluated, answered⟩ := bind_eq_ok.mp answered
  cases seen with
  | none =>
      obtain rfl := Except.ok.inj answered
      exact iff_of_true rfl (.inr (.inl (evaluateAll_none evaluated)))
  | some sawUnknown =>
      have passed := evaluateAll_some evaluated
      have unrefused : ¬∃ requirement ∈ claim.requiredEvidence,
          evaluateEvidence claim requirement ledger deps = .ok .refused :=
        fun ⟨requirement, inside, refused⟩ => passed requirement inside refused
      obtain ⟨missing, outcome, answered⟩ := bind_eq_ok.mp answered
      cases missing with
      | true =>
          obtain rfl := Except.ok.inj answered
          exact iff_of_true rfl (.inr (.inr (.inl outcome)))
      | false =>
          unfold settleBinding at answered
          obtain ⟨binding, checked, answered⟩ := bind_eq_ok.mp answered
          have refuted : Refuted claim ledger deps ↔ binding = .refused := by
            simp [Refuted, nonempty, outcome, checked, not_exists.mp unrefused]
          rw [refuted]
          cases binding <;> obtain rfl := Except.ok.inj answered <;>
            simp [capVerdict_not_refused]

end

/-- The same claim with its requirements and falsifiers listed in another order. -/
def MinimalClaim.permute (claim : MinimalClaim)
    (requiredEvidence falsifiers : List EvidenceRequirement) : MinimalClaim :=
  { claim with
    requiredEvidence := requiredEvidence
    falsifiers := claim.falsifiers.map fun _ => falsifiers }

section

variable {claim : MinimalClaim} {ledger : EvidenceLedger} {deps : SoundnessDeps}
  {requiredEvidence falsifiers : List EvidenceRequirement}

theorem permute_enumerated (listed : claim.enumerated.Perm falsifiers) :
    (claim.permute requiredEvidence falsifiers).enumerated = falsifiers := by
  unfold FalsifierDeclaration.enumerated at listed ⊢
  change (claim.falsifiers.map _).getD [] = _
  cases known : claim.falsifiers with
  | none =>
      rw [known] at listed
      exact listed.nil_eq
  | some old => rfl

theorem permute_evaluateEvidence (requirement : EvidenceRequirement) :
    evaluateEvidence (claim.permute requiredEvidence falsifiers) requirement ledger deps =
      evaluateEvidence claim requirement ledger deps := rfl

theorem permute_assertsOutcome (required : claim.requiredEvidence.Perm requiredEvidence) :
    AssertsOutcome (claim.permute requiredEvidence falsifiers) ↔ AssertsOutcome claim := by
  unfold AssertsOutcome
  refine or_congr Iff.rfl ?_
  simp only [MinimalClaim.permute, required.mem_iff]

theorem permute_requiredKeys (required : claim.requiredEvidence.Perm requiredEvidence)
    (key : JsString) :
    key ∈ (claim.permute requiredEvidence falsifiers).requiredEvidence.map EvidenceRequirement.key ↔
      key ∈ claim.requiredEvidence.map EvidenceRequirement.key :=
  (required.symm.map EvidenceRequirement.key).mem_iff

theorem permute_checkBinding (required : claim.requiredEvidence.Perm requiredEvidence) :
    checkBinding (claim.permute requiredEvidence falsifiers) ledger =
      checkBinding claim ledger := by
  unfold checkBinding
  simp only [permute_requiredKeys required]
  rfl

theorem permute_outcomeMissing (required : claim.requiredEvidence.Perm requiredEvidence)
    (answers : deps.outcomeConfirmed (claim.permute requiredEvidence falsifiers) =
      deps.outcomeConfirmed claim) :
    outcomeMissing (claim.permute requiredEvidence falsifiers) deps =
      outcomeMissing claim deps := by
  have asserts : assertsActionOutcome (claim.permute requiredEvidence falsifiers) =
      assertsActionOutcome claim := by
    rw [Bool.eq_iff_iff, assertsActionOutcome_iff, assertsActionOutcome_iff,
      permute_assertsOutcome required]
  unfold outcomeMissing
  rw [asserts, answers]

theorem permute_nonempty (required : claim.requiredEvidence.Perm requiredEvidence) :
    (claim.permute requiredEvidence falsifiers).requiredEvidence = [] ↔
      claim.requiredEvidence = [] := by
  change requiredEvidence = [] ↔ _
  constructor
  · intro empty
    exact (empty ▸ required).eq_nil
  · intro empty
    exact (empty ▸ required).symm.eq_nil

theorem permute_permute :
    (claim.permute requiredEvidence falsifiers).permute claim.requiredEvidence claim.enumerated =
      claim := by
  obtain ⟨⟨complete, named⟩, required, floor, kind, actor, resources, value, binding⟩ := claim
  cases named <;> rfl

/-- What a validated claim rests on is found in any order of its lists. -/
theorem validated_permute (required : claim.requiredEvidence.Perm requiredEvidence)
    (listed : claim.enumerated.Perm falsifiers)
    (answers : deps.outcomeConfirmed (claim.permute requiredEvidence falsifiers) =
      deps.outcomeConfirmed claim)
    (validated : claimAllowed claim ledger deps = .ok .validated) :
    claimAllowed (claim.permute requiredEvidence falsifiers) ledger deps = .ok .validated := by
  obtain ⟨wellFormed, gated, allowed⟩ := claimAllowed_validated.mp validated
  have names := @permute_enumerated claim requiredEvidence falsifiers listed
  have named : falsifiers ≠ [] := by
    intro none_named
    exact allowed.enumerated (none_named ▸ listed).eq_nil
  have listedOf {falsifier : EvidenceRequirement} (inside : falsifier ∈ falsifiers) :
      falsifier ∈ claim.enumerated := listed.mem_iff.mpr inside
  refine claimAllowed_validated.mpr ⟨⟨?_, ?_⟩, ?_, ?_⟩
  · intro _
    rwa [names]
  · rw [names]
    exact fun falsifier inside => wellFormed.2 falsifier (listedOf inside)
  · intro binding bound
    exact (permute_requiredKeys required binding.key).mpr (gated binding bound)
  · constructor
    · exact (permute_nonempty required).not.mpr allowed.nonempty
    · intro requirement inside
      obtain ⟨entry, supported⟩ := allowed.supported requirement (required.mem_iff.mpr inside)
      exact ⟨entry, supported.present, supported.trusted, supported.owned, supported.fresh,
        supported.integrity⟩
    · intro asserts
      rw [answers]
      exact allowed.outcome ((permute_assertsOutcome required).mp asserts)
    · exact allowed.bound
    · exact allowed.complete
    · rwa [names]
    · rw [names]
      exact fun falsifier inside => allowed.silent falsifier (listedOf inside)

/-- The refusals are found in any order too. -/
theorem permute_refuted (required : claim.requiredEvidence.Perm requiredEvidence)
    (answers : deps.outcomeConfirmed (claim.permute requiredEvidence falsifiers) =
      deps.outcomeConfirmed claim) :
    Refuted (claim.permute requiredEvidence falsifiers) ledger deps ↔ Refuted claim ledger deps := by
  unfold Refuted
  rw [permute_nonempty required, permute_outcomeMissing required answers,
    permute_checkBinding required]
  have found : (∃ requirement ∈ (claim.permute requiredEvidence falsifiers).requiredEvidence,
      evaluateEvidence (claim.permute requiredEvidence falsifiers) requirement ledger deps =
        .ok .refused) ↔
      ∃ requirement ∈ claim.requiredEvidence,
        evaluateEvidence claim requirement ledger deps = .ok .refused := by
    refine exists_congr fun requirement => and_congr ?_ Iff.rfl
    exact required.symm.mem_iff
  rw [found]

/-- A call that answers validates exactly what is allowed, and a second call that answers about
the same lists in another order answers the same. -/
theorem claimAllowed_iff_allowed {verdict : ClaimVerdict}
    (answered : claimAllowed claim ledger deps = .ok verdict) :
    (verdict = .validated ↔ Allowed claim ledger deps) ∧
      ∀ requiredEvidence falsifiers other, claim.requiredEvidence.Perm requiredEvidence →
        claim.enumerated.Perm falsifiers →
        deps.outcomeConfirmed (claim.permute requiredEvidence falsifiers) =
          deps.outcomeConfirmed claim →
        claimAllowed (claim.permute requiredEvidence falsifiers) ledger deps = .ok other →
        other = verdict := by
  constructor
  · constructor
    · rintro rfl
      exact (claimAllowed_validated.mp answered).2.2
    · intro allowed
      have validated := claimAllowed_validated.mpr
        ⟨wellFormed_of_answered answered, gated_of_answered answered allowed, allowed⟩
      exact Except.ok.inj (answered.symm.trans validated)
  · intro requiredEvidence falsifiers other required listed answers permuted
    have sameRefusal : other = .refused ↔ verdict = .refused := by
      rw [refused_iff permuted, refused_iff answered, permute_refuted required answers]
    have sameValidation : other = .validated ↔ verdict = .validated := by
      constructor
      · rintro rfl
        have back := @validated_permute (claim.permute requiredEvidence falsifiers) ledger deps
          claim.requiredEvidence claim.enumerated required.symm
          ((permute_enumerated listed).symm ▸ listed.symm) (by rw [permute_permute, answers]) permuted
        rw [permute_permute, answered] at back
        exact Except.ok.inj back
      · rintro rfl
        have forth := validated_permute required listed answers answered
        rw [permuted] at forth
        exact Except.ok.inj forth
    cases other <;> cases verdict <;> simp_all

end

/-- Present public evidence that never goes stale. -/
def sampleRequirement (key : JsString) : EvidenceRequirement :=
  ⟨key, .notApplicable, .«static», .structured, .preserve⟩

def sampleWrite (key : JsString) : EvidenceEntryInput where
  key := key
  value := .bool true
  source := []
  fetchedAt := 0
  sourceMode := "live"
  taint := "TRUSTED"
  originProvenance := "FIRST_PARTY"
  dispatch := none
  sourceOfRecord := .undefined

def sampleLedger : EvidenceLedger :=
  ((EvidenceLedger.empty [] none).record (sampleWrite [0])).record (sampleWrite [1])

def sampleClaim : MinimalClaim where
  falsifierComplete := some true
  falsifiers := some [sampleRequirement [2]]
  requiredEvidence := [sampleRequirement [0], sampleRequirement [1]]
  minSourceIntegrity := .structured
  kind := .actionClaim
  actor := .null
  resources := none
  value := .undefined
  valueBinding := none

def sampleDeps : SoundnessDeps where
  owns := fun _ _ => .ok false
  outcomeConfirmed := fun _ => .ok true
  now := 0

theorem claimAllowed_iff_allowed_sample :
    Allowed sampleClaim sampleLedger sampleDeps ∧
      ∀ other, claimAllowed (sampleClaim.permute [sampleRequirement [1], sampleRequirement [0]]
        [sampleRequirement [2]]) sampleLedger sampleDeps = .ok other → other = .validated := by
  have decided := @claimAllowed_iff_allowed sampleClaim sampleLedger sampleDeps .validated
    (by decide +kernel)
  refine ⟨decided.1.mp rfl, ?_⟩
  intro other
  exact decided.2 _ _ other (List.Perm.swap _ _ _) (List.Perm.refl _) rfl

/-- The outcome is confirmed for the claim whose first requirement has the key. -/
def confirmsFirst (key : JsString) : SoundnessDeps where
  owns := fun _ _ => .error (.other "no owner service")
  outcomeConfirmed := fun claim =>
    .ok ((claim.requiredEvidence.head?.map EvidenceRequirement.key) == some key)
  now := 0

def ownedRequirement (key : JsString) : EvidenceRequirement :=
  { sampleRequirement key with ownershipPolicy := .required }

def ownedClaim : MinimalClaim :=
  { sampleClaim with
    requiredEvidence := [ownedRequirement [1], ownedRequirement [0]]
    resources := some [([0], .null)] }

/-- The outcome may be confirmed for one order only, and an owner service that throws is asked in
one order only. -/
theorem verdict_depends_on_order :
    (claimAllowed sampleClaim sampleLedger (confirmsFirst [0]) = .ok .validated ∧
      claimAllowed (sampleClaim.permute [sampleRequirement [1], sampleRequirement [0]]
        [sampleRequirement [2]]) sampleLedger (confirmsFirst [0]) = .ok .refused) ∧
    claimAllowed ownedClaim sampleLedger (confirmsFirst [0]) = .ok .refused ∧
      claimAllowed (ownedClaim.permute [ownedRequirement [0], ownedRequirement [1]]
        [sampleRequirement [2]]) sampleLedger (confirmsFirst [0]) =
          .error (.other "no owner service") := by
  decide +kernel

end Adjudicate.Claims
