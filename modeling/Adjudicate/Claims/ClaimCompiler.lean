/-
This file models the compiler of claim definitions and shows when its fixtures meet their validator.
-/

import Adjudicate.Claims.ClaimDefinition
import Adjudicate.Claims.VersionMonotonicity

namespace Adjudicate.Claims

open Js

/-- A proposition names a field only, since its claim type is the type of the definition. -/
inductive SourceSlot where
  | lit (text : JsString)
  | prop (field : JsString)

structure RenderSource where
  validated : {slots : List SourceSlot // slots ≠ []}

/-- The fields of a source that its compiled definition depends on. -/
structure ClaimDefinitionSource extends CompilableClaimDefinition where
  type : JsString
  version : JsNumber
  render : Option RenderSource

/-- A requirement that may have lost its provenance policy. -/
structure DraftRequirement where
  key : JsString
  ownershipPolicy : OwnershipPolicy
  freshnessPolicy : FreshnessPolicy
  sourceIntegrity : SourceIntegrity
  provenancePolicy : Option ProvenancePolicy

/-- A definition over requirements that may have lost their provenance policy. -/
structure DraftDefinition extends FalsifierDeclaration where
  type : JsString
  kind : ClaimKind
  requiredEvidence : List DraftRequirement
  minSourceIntegrity : SourceIntegrity
  valueBinding : Option ValueBinding
  valueProjections : Option (List ValueProjection)
  renderTemplate : Option RenderTemplate

def EvidenceRequirement.draft (requirement : EvidenceRequirement) : DraftRequirement where
  key := requirement.key
  ownershipPolicy := requirement.ownershipPolicy
  freshnessPolicy := requirement.freshnessPolicy
  sourceIntegrity := requirement.sourceIntegrity
  provenancePolicy := some requirement.provenancePolicy

def EvidenceRequirement.withoutProvenance (requirement : EvidenceRequirement) : DraftRequirement :=
  { requirement.draft with provenancePolicy := none }

def ClaimDefinition.draft (definition : ClaimDefinition) : DraftDefinition :=
  { definition with requiredEvidence := definition.requiredEvidence.map EvidenceRequirement.draft }

def DraftRequirement.fill (draft : DraftRequirement) (policy : ProvenancePolicy) :
    EvidenceRequirement where
  key := draft.key
  ownershipPolicy := draft.ownershipPolicy
  freshnessPolicy := draft.freshnessPolicy
  sourceIntegrity := draft.sourceIntegrity
  provenancePolicy := policy

/-- The later checks read no provenance policy, so any policy may stand for a lost one. -/
def DraftDefinition.filled (draft : DraftDefinition) : ClaimDefinition :=
  { draft with
    requiredEvidence := draft.requiredEvidence.map fun requirement =>
      requirement.fill (requirement.provenancePolicy.getD .preserve) }

/-- A missing policy denies before the rest of the requirement is parsed. -/
def validateDraftRequirement (draft : DraftRequirement) (location : JsString) : ValidationResult :=
  match draft.provenancePolicy with
  | none =>
      .fail .provenanceDeny (location ++ utf16 ": requirement key " ++ quoted draft.key ++
        utf16 (" has " ++ "absent/invalid provenancePolicy — provenance is default-DENY " ++
          "(must be \"preserve\" | \"first_party_only\")."))
  | some policy => validateRequirement (draft.fill policy) location

def checkDraftRequired (draft : DraftDefinition) : ValidationResult :=
  if draft.requiredEvidence.length = 0 then
    .fail .emptyRequiredEvidence (quoted draft.type ++
      utf16 (" has empty requiredEvidence — C0 non-vacuity: a definition with " ++
        "no backing could only ever vacuously assert."))
  else
    firstFailure (fun requirement =>
      validateDraftRequirement requirement (quoted draft.type ++ utf16 ".requiredEvidence"))
      draft.requiredEvidence

/-- The checks after the one of the required evidence. -/
def checkDeclared (definition : ClaimDefinition)
    (lookup : Option (JsString → Option ClaimDefinition)) : ValidationResult :=
  (checkFalsifiers definition).andThen
    ((caught .falsifierIncomplete []
        (assertFalsifierDeclaration definition.toFalsifierDeclaration)).andThen
      ((checkValueBinding definition).andThen
        ((firstFailure (checkProjection definition)
            (definition.valueProjections.getD [])).andThen
          (checkSlotProjectionAlignment definition lookup))))

def DraftDefinition.validateClaimDefinition (draft : DraftDefinition)
    (lookup : Option (JsString → Option ClaimDefinition)) : ValidationResult :=
  (checkDraftRequired draft).andThen (checkDeclared draft.filled lookup)

def toRenderTemplate (source : ClaimDefinitionSource) : Option RenderTemplate :=
  source.render.map fun render =>
    { slots := render.validated.val.map fun slot =>
        match slot with
        | .lit text => .literal text
        | .prop field => .proposition source.type field }

/-- Every proposition slot is bound to the key of the value binding. -/
def toValueProjections (source : ClaimDefinitionSource) : List ValueProjection :=
  match source.render, source.valueBinding with
  | some render, some binding =>
      render.validated.val.filterMap fun slot =>
        match slot with
        | .lit _ => none
        | .prop field => some { field := field, key := binding.key }
  | _, _ => []

def toDefinition (source : ClaimDefinitionSource) : ClaimDefinition where
  toFalsifierDeclaration := source.stance.declaration
  type := source.type
  kind := source.kind
  requiredEvidence := source.requiredEvidence
  minSourceIntegrity := source.minSourceIntegrity
  valueBinding := source.valueBinding
  valueProjections :=
    if (toValueProjections source).length = 0 then none else some (toValueProjections source)
  renderTemplate := toRenderTemplate source

/-- A corrupted definition and the code that it has to be rejected with. -/
structure MutationFixture where
  code : ValidationFailureCode
  definition : DraftDefinition

structure CompiledFixtures where
  valid : ClaimDefinition
  mutations : List MutationFixture

def ungatedKey : JsString := "__ungated__"

def withoutEvidence (valid : ClaimDefinition) : List MutationFixture :=
  [⟨.emptyRequiredEvidence, { valid.draft with requiredEvidence := [] }⟩]

def withoutFirstProvenance (valid : ClaimDefinition) : List MutationFixture :=
  match valid.requiredEvidence with
  | [] => []
  | head :: rest =>
      [⟨.provenanceDeny, { valid.draft with
        requiredEvidence := head.withoutProvenance :: rest.map EvidenceRequirement.draft }⟩]

def withUngatedBinding (valid : ClaimDefinition) : List MutationFixture :=
  match valid.valueBinding with
  | none => []
  | some binding =>
      [⟨.bindingKeyUngated, { valid.draft with
        valueBinding := some { binding with key := ungatedKey } }⟩]

def withoutFalsifiers (valid : ClaimDefinition) : List MutationFixture :=
  if valid.falsifierComplete = some true then
    [⟨.falsifierIncomplete, { valid.draft with
      falsifierComplete := some true, falsifiers := some [] }⟩]
  else []

def withoutProjections (valid : ClaimDefinition) : List MutationFixture :=
  if valid.renderTemplate.isSome ∧ 0 < (valid.valueProjections.getD []).length then
    [⟨.slotUnbacked, { valid.draft with valueProjections := none }⟩]
  else []

def toFixtures (valid : ClaimDefinition) : CompiledFixtures where
  valid := valid
  mutations := withoutEvidence valid ++ withoutFirstProvenance valid ++ withUngatedBinding valid ++
    withoutFalsifiers valid ++ withoutProjections valid

structure CompiledArtifacts where
  type : JsString
  version : JsNumber
  id : JsString
  registrySpec : CompiledRegistrySpec
  valueProjections : List ValueProjection
  renderTemplate : Option RenderTemplate
  definition : ClaimDefinition
  fixtures : CompiledFixtures

def SourceSlot.isProposition : SourceSlot → Bool
  | .lit _ => false
  | .prop _ => true

def hasPropositionSlot : Option RenderSource → Bool
  | none => false
  | some render => render.validated.val.any SourceSlot.isProposition

def unboundProposition (source : ClaimDefinitionSource) : Thrown :=
  .error "Error" (utf16 "[adjudicate/claim-compiler] \"" ++ source.type ++ utf16 "@" ++
    source.version.toString ++ utf16 ("\": the render block " ++
      "declares a PROPOSITION slot but the definition has no valueBinding — a " ++
      "rendered proposition's value must bind to a §5-gated requiredEvidence key " ++
      "(INV-1/INV-7). Add a valueBinding whose key is a requiredEvidence key, or " ++
      "make the slot a LITERAL."))

def compileClaimDefinition (source : ClaimDefinitionSource) : Except Thrown CompiledArtifacts :=
  if source.valueBinding.isNone && hasPropositionSlot source.render then
    .error (unboundProposition source)
  else
    .ok
      { type := source.type
        version := source.version
        id := source.type ++ utf16 "@" ++ source.version.toString
        registrySpec := toRegistrySpec source.toCompilableClaimDefinition
        valueProjections := toValueProjections source
        renderTemplate := toRenderTemplate source
        definition := toDefinition source
        fixtures := toFixtures (toDefinition source) }

/-- The result fails with the code. -/
def ValidationResult.Rejects (result : ValidationResult) (code : ValidationFailureCode) : Prop :=
  ∃ reason, result = .fail code reason

section

variable {result next : ValidationResult} {code : ValidationFailureCode}

theorem not_rejects_ok : ¬ValidationResult.ok.Rejects code := nofun

theorem rejects_fail {reason : JsString} : (ValidationResult.fail code reason).Rejects code :=
  ⟨reason, rfl⟩

theorem andThen_of_ok (passed : result = .ok) : result.andThen next = next := by
  rw [passed]
  rfl

theorem ValidationResult.Rejects.andThen (rejected : result.Rejects code) :
    (result.andThen next).Rejects code := by
  obtain ⟨reason, rfl⟩ := rejected
  exact rejects_fail

theorem ValidationResult.Rejects.not_ok (rejected : result.Rejects code) : result ≠ .ok := by
  obtain ⟨reason, rfl⟩ := rejected
  nofun

theorem caught_rejects {opening : JsString} {A : Type} {computation : Except Thrown A}
    (fails : ∀ value, computation ≠ .ok value) : (caught code opening computation).Rejects code := by
  cases computation with
  | ok value => exact absurd rfl (fails value)
  | error raised => exact rejects_fail

/-- When every failing item fails with one code, so does the whole list. -/
theorem firstFailure_rejects {A : Type} {validate : A → ValidationResult} {items : List A}
    (alike : ∀ item ∈ items, validate item = .ok ∨ (validate item).Rejects code)
    (some_fails : ∃ item ∈ items, validate item ≠ .ok) :
    (firstFailure validate items).Rejects code := by
  induction items with
  | nil => simp at some_fails
  | cons item items ih =>
      obtain ⟨head, tail⟩ := List.forall_mem_cons.mp alike
      rw [firstFailure]
      cases head with
      | inr rejected => exact rejected.andThen
      | inl passed =>
          rw [andThen_of_ok passed]
          apply ih tail
          obtain ⟨other, inside, fails⟩ := some_fails
          cases List.mem_cons.mp inside with
          | inl same => exact absurd (same ▸ passed) fails
          | inr later => exact ⟨other, later, fails⟩

end

section

variable {definition : ClaimDefinition} {lookup : Option (JsString → Option ClaimDefinition)}

theorem validateClaimDefinition_eq :
    validateClaimDefinition definition lookup =
      (checkRequired definition).andThen (checkDeclared definition lookup) := rfl

theorem map_fill_draft (requirements : List EvidenceRequirement) :
    (requirements.map EvidenceRequirement.draft).map
      (fun requirement => requirement.fill (requirement.provenancePolicy.getD .preserve)) =
        requirements := by
  rw [List.map_map]
  exact List.map_id _

theorem filled_draft : definition.draft.filled = definition :=
  congrArg (fun evidence => { definition with requiredEvidence := evidence })
    (map_fill_draft definition.requiredEvidence)

theorem firstFailure_map {A B : Type} (convert : A → B) (validate : B → ValidationResult)
    (items : List A) :
    firstFailure validate (items.map convert) = firstFailure (validate ∘ convert) items := by
  induction items with
  | nil => rfl
  | cons item items ih => rw [List.map_cons, firstFailure, firstFailure, ih, Function.comp_apply]

theorem checkDraftRequired_eq {draft : DraftDefinition} (type : draft.type = definition.type)
    (evidence : draft.requiredEvidence = definition.requiredEvidence.map EvidenceRequirement.draft) :
    checkDraftRequired draft = checkRequired definition := by
  rw [checkDraftRequired, checkRequired, type, evidence, List.length_map, firstFailure_map]
  rfl

/-- On a definition that has lost nothing the two validators agree. -/
theorem validateClaimDefinition_draft :
    definition.draft.validateClaimDefinition lookup = validateClaimDefinition definition lookup := by
  rw [DraftDefinition.validateClaimDefinition, checkDraftRequired_eq rfl rfl, filled_draft,
    validateClaimDefinition_eq]

theorem checkRequired_ok :
    checkRequired definition = .ok ↔ definition.requiredEvidence ≠ [] ∧
      ∀ requirement ∈ definition.requiredEvidence,
        isValidEvidenceRequirement requirement = true := by
  unfold checkRequired
  split
  · next empty => exact iff_of_false nofun fun kept => kept.1 (List.length_eq_zero_iff.mp empty)
  · next nonempty =>
      rw [firstFailure_ok, and_iff_right fun empty => nonempty (by rw [empty]; rfl)]
      simp only [validateRequirement_ok]

theorem checkFalsifiers_ok :
    checkFalsifiers definition = .ok ↔ ∀ falsifier ∈ definition.enumerated,
      isValidEvidenceRequirement falsifier = true := by
  rw [checkFalsifiers, firstFailure_ok]
  simp only [validateRequirement_ok]
  rfl

theorem checkDeclaration_ok :
    caught .falsifierIncomplete [] (assertFalsifierDeclaration definition.toFalsifierDeclaration) =
      .ok ↔ definition.WellFormed := by
  rw [caught_ok, ← assertFalsifierDeclaration_ok]
  exact ⟨fun ⟨(), passed⟩ => passed, fun passed => ⟨(), passed⟩⟩

theorem checkProjections_ok :
    firstFailure (checkProjection definition) (definition.valueProjections.getD []) = .ok ↔
      ∀ projection ∈ definition.valueProjections.getD [],
        projection.key ∈ definition.requiredKeySet := by
  rw [firstFailure_ok]
  refine forall₂_congr fun projection inside => ?_
  rw [checkProjection]
  split
  · next known => exact iff_of_true rfl known
  · next unknown => exact iff_of_false nofun unknown

/-- With sound falsifiers the value binding is the first thing that may fail. -/
theorem checkDeclared_eq (declared : definition.WellFormed) :
    checkDeclared definition lookup =
      (checkValueBinding definition).andThen
        ((firstFailure (checkProjection definition)
            (definition.valueProjections.getD [])).andThen
          (checkSlotProjectionAlignment definition lookup)) := by
  rw [checkDeclared, andThen_of_ok (checkFalsifiers_ok.mpr declared.2),
    andThen_of_ok (checkDeclaration_ok.mpr declared)]

/-- With a gated binding and gated projections only the slots may fail. -/
theorem checkDeclared_eq_slots (declared : definition.WellFormed)
    (bound : checkValueBinding definition = .ok)
    (projected : ∀ projection ∈ definition.valueProjections.getD [],
      projection.key ∈ definition.requiredKeySet) :
    checkDeclared definition lookup = checkSlotProjectionAlignment definition lookup := by
  rw [checkDeclared_eq declared, andThen_of_ok bound, andThen_of_ok (checkProjections_ok.mpr projected)]

end

/-- The requirements are structurally valid and the binding is one of the required keys. -/
structure ClaimDefinitionSource.WellFormed (source : ClaimDefinitionSource) : Prop where
  requirements : ∀ requirement ∈ source.requiredEvidence.val,
    isValidEvidenceRequirement requirement = true
  falsifiers : ∀ falsifier ∈ source.stance.declaration.enumerated,
    isValidEvidenceRequirement falsifier = true
  gated : ∀ binding, source.valueBinding = some binding →
    binding.key ∈ source.requiredEvidence.val.map EvidenceRequirement.key

section

variable {source : ClaimDefinitionSource} {lookup : Option (JsString → Option ClaimDefinition)}

theorem mem_toValueProjections {projection : ValueProjection} :
    projection ∈ toValueProjections source ↔
      ∃ render binding, source.render = some render ∧ source.valueBinding = some binding ∧
        .prop projection.field ∈ render.validated.val ∧ projection.key = binding.key := by
  unfold toValueProjections
  split
  · next render binding rendered bound =>
      rw [List.mem_filterMap]
      constructor
      · rintro ⟨slot, inside, same⟩
        cases slot with
        | lit text => cases same
        | prop field =>
            cases same
            exact ⟨render, binding, rendered, bound, inside, rfl⟩
      · rintro ⟨other, bindingToo, again, boundToo, inside, key⟩
        cases rendered.symm.trans again
        cases bound.symm.trans boundToo
        refine ⟨_, inside, ?_⟩
        rw [← key]
  · next apart =>
      refine iff_of_false List.not_mem_nil ?_
      rintro ⟨render, binding, rendered, bound, -⟩
      exact apart render binding rendered bound

theorem toDefinition_projections :
    (toDefinition source).valueProjections.getD [] = toValueProjections source := by
  show (if _ then none else some (toValueProjections source)).getD [] = _
  split
  · next empty => exact (List.length_eq_zero_iff.mp empty).symm
  · rfl

theorem hasPropositionSlot_iff :
    hasPropositionSlot source.render = true ↔
      ∃ render field, source.render = some render ∧ .prop field ∈ render.validated.val := by
  unfold hasPropositionSlot
  cases source.render with
  | none => simp
  | some render =>
      rw [List.any_eq_true]
      constructor
      · rintro ⟨slot, inside, proposes⟩
        cases slot with
        | lit text => cases proposes
        | prop field => exact ⟨render, field, rfl, inside⟩
      · rintro ⟨_, field, ⟨⟩, inside⟩
        exact ⟨_, inside, rfl⟩

/-- Compilation throws for nothing but a proposition without a value binding. -/
theorem compileClaimDefinition_eq :
    (source.valueBinding = none ∧ hasPropositionSlot source.render = true ∧
        compileClaimDefinition source = .error (unboundProposition source)) ∨
      ((source.valueBinding = none → hasPropositionSlot source.render = false) ∧
        ∃ artifacts, compileClaimDefinition source = .ok artifacts ∧
          artifacts.fixtures = toFixtures (toDefinition source)) := by
  unfold compileClaimDefinition
  split
  · next unbound =>
      rw [Bool.and_eq_true, Option.isNone_iff_eq_none] at unbound
      exact .inl ⟨unbound.1, unbound.2, rfl⟩
  · next bound =>
      refine .inr ⟨fun unbound => ?_, _, rfl, rfl⟩
      rw [unbound] at bound
      simpa using bound

/-- A template of the source is backed by every definition that has kept its projections and keys. -/
theorem slots_backed {definition : ClaimDefinition} (wellFormed : source.WellFormed)
    (compiles : source.valueBinding = none → hasPropositionSlot source.render = false)
    (type : definition.type = source.type)
    (template : definition.renderTemplate = toRenderTemplate source)
    (projections : definition.valueProjections.getD [] = toValueProjections source)
    (keys : definition.requiredKeySet = source.requiredEvidence.val.map EvidenceRequirement.key) :
    checkSlotProjectionAlignment definition lookup = .ok := by
  rw [checkSlotProjectionAlignment, template, toRenderTemplate]
  cases rendered : source.render with
  | none => rfl
  | some render =>
      refine firstFailure_ok.mpr fun slot inside => ?_
      obtain ⟨origin, written, rfl⟩ := List.mem_map.mp inside
      cases origin with
      | lit text => rfl
      | prop field =>
          have proposes := hasPropositionSlot_iff.mpr ⟨render, field, rendered, written⟩
          obtain ⟨binding, bound⟩ : ∃ binding, source.valueBinding = some binding := by
            rw [← Option.ne_none_iff_exists']
            intro unbound
            exact Bool.false_ne_true ((compiles unbound).symm.trans proposes)
          have backed : ∃ projection ∈ toValueProjections source,
              decide (projection.field = field) = true :=
            ⟨⟨field, binding.key⟩, mem_toValueProjections.mpr
              ⟨render, binding, rendered, bound, written, rfl⟩, decide_eq_true rfl⟩
          show (if source.type = definition.type then checkSlotOwner definition source.type field
            else _) = _
          rw [if_pos type.symm, checkSlotOwner, projections]
          cases found : (toValueProjections source).find?
              fun projection => decide (projection.field = field) with
          | none =>
              obtain ⟨projection, inside, same⟩ := backed
              exact absurd same (List.find?_eq_none.mp found projection inside)
          | some projection =>
              obtain ⟨_, other, _, boundToo, -, key⟩ :=
                mem_toValueProjections.mp (List.mem_of_find?_eq_some found)
              have known : projection.key ∈ definition.requiredKeySet := by
                rw [keys, key]
                exact wellFormed.gated other boundToo
              exact if_pos known

theorem toDefinition_wellFormed (wellFormed : source.WellFormed) :
    (toDefinition source).WellFormed := by
  refine ⟨?_, wellFormed.falsifiers⟩
  show source.stance.declaration.falsifierComplete = some true →
    source.stance.declaration.enumerated ≠ []
  cases source.stance with
  | complete falsifiers nonempty => exact fun _ => nonempty
  | omitted => nofun

theorem toDefinition_required (wellFormed : source.WellFormed) :
    checkRequired (toDefinition source) = .ok :=
  checkRequired_ok.mpr ⟨source.requiredEvidence.property, wellFormed.requirements⟩

theorem projections_gated (wellFormed : source.WellFormed) :
    ∀ projection ∈ toValueProjections source,
      projection.key ∈ source.requiredEvidence.val.map EvidenceRequirement.key := by
  intro projection inside
  obtain ⟨_, binding, _, bound, -, key⟩ := mem_toValueProjections.mp inside
  rw [key]
  exact wellFormed.gated binding bound

theorem valid_accepted (wellFormed : source.WellFormed)
    (compiles : source.valueBinding = none → hasPropositionSlot source.render = false) :
    validateClaimDefinition (toDefinition source) lookup = .ok := by
  rw [validateClaimDefinition_eq, andThen_of_ok (toDefinition_required wellFormed),
    checkDeclared_eq_slots (toDefinition_wellFormed wellFormed)
      (checkValueBinding_ok.mpr wellFormed.gated)]
  · exact slots_backed wellFormed compiles rfl rfl toDefinition_projections rfl
  · rw [toDefinition_projections]
    exact projections_gated wellFormed

/-- A draft that has kept its evidence gets to the later checks. -/
theorem draft_validated {draft : DraftDefinition} (wellFormed : source.WellFormed)
    (type : draft.type = source.type)
    (evidence : draft.requiredEvidence =
      source.requiredEvidence.val.map EvidenceRequirement.draft) :
    draft.validateClaimDefinition lookup = checkDeclared draft.filled lookup := by
  have required : checkDraftRequired draft = checkRequired (toDefinition source) :=
    checkDraftRequired_eq type evidence
  rw [DraftDefinition.validateClaimDefinition, required,
    andThen_of_ok (toDefinition_required wellFormed)]

theorem withoutEvidence_rejected {mutation : MutationFixture}
    (generated : mutation ∈ withoutEvidence (toDefinition source)) :
    (mutation.definition.validateClaimDefinition lookup).Rejects mutation.code := by
  cases List.mem_singleton.mp generated
  exact ⟨_, rfl⟩

theorem withoutFirstProvenance_rejected {mutation : MutationFixture}
    (generated : mutation ∈ withoutFirstProvenance (toDefinition source)) :
    (mutation.definition.validateClaimDefinition lookup).Rejects mutation.code := by
  rw [withoutFirstProvenance] at generated
  split at generated
  · cases generated
  · cases List.mem_singleton.mp generated
    exact ⟨_, rfl⟩

theorem withoutFalsifiers_rejected (wellFormed : source.WellFormed) {mutation : MutationFixture}
    (generated : mutation ∈ withoutFalsifiers (toDefinition source)) :
    (mutation.definition.validateClaimDefinition lookup).Rejects mutation.code := by
  rw [withoutFalsifiers] at generated
  split at generated
  · cases List.mem_singleton.mp generated
    rw [draft_validated wellFormed rfl rfl]
    exact ⟨_, rfl⟩
  · cases generated

theorem slots_reject {definition : ClaimDefinition} {template : RenderTemplate}
    (held : definition.renderTemplate = some template)
    (rejects : (firstFailure (checkSlot definition lookup) template.slots).Rejects code) :
    (checkSlotProjectionAlignment definition lookup).Rejects code := by
  rw [checkSlotProjectionAlignment, held]
  exact rejects

theorem withoutProjections_rejected (wellFormed : source.WellFormed) {mutation : MutationFixture}
    (generated : mutation ∈ withoutProjections (toDefinition source)) :
    (mutation.definition.validateClaimDefinition lookup).Rejects mutation.code := by
  rw [withoutProjections, toDefinition_projections] at generated
  split at generated
  · next projected =>
      cases List.mem_singleton.mp generated
      obtain ⟨projection, inside⟩ := List.exists_mem_of_length_pos projected.2
      obtain ⟨render, binding, rendered, bound, written, -⟩ := mem_toValueProjections.mp inside
      rw [draft_validated wellFormed rfl rfl, checkDeclared_eq_slots]
      · show (checkSlotProjectionAlignment _ lookup).Rejects .slotUnbacked
        refine slots_reject (congrArg (Option.map _) rendered) ?_
        -- Every proposition of the template has lost its projection.
        apply firstFailure_rejects
        · intro slot listed
          obtain ⟨origin, -, rfl⟩ := List.mem_map.mp listed
          cases origin with
          | lit text => exact .inl rfl
          | prop field =>
              right
              show (if source.type = source.type then checkSlotOwner _ source.type field
                else _ : ValidationResult).Rejects _
              rw [if_pos rfl]
              exact ⟨_, rfl⟩
        · refine ⟨_, List.mem_map_of_mem written, ?_⟩
          show (if source.type = source.type then checkSlotOwner _ source.type _
            else _ : ValidationResult) ≠ .ok
          rw [if_pos rfl]
          rintro ⟨⟩
      · exact toDefinition_wellFormed wellFormed
      · refine checkValueBinding_ok.mpr fun other boundToo => ?_
        show other.key ∈ ((source.requiredEvidence.val.map EvidenceRequirement.draft).map _).map _
        rw [map_fill_draft]
        exact wellFormed.gated other boundToo
      · exact List.forall_mem_nil _
  · cases generated

/-- Only a binding to a key that is not required is rejected as ungated. -/
theorem rebound_rejected_iff {definition : ClaimDefinition} {binding : ValueBinding}
    (wellFormed : source.WellFormed)
    (compiles : source.valueBinding = none → hasPropositionSlot source.render = false)
    (declared : definition.WellFormed) (type : definition.type = source.type)
    (template : definition.renderTemplate = toRenderTemplate source)
    (projections : definition.valueProjections.getD [] = toValueProjections source)
    (keys : definition.requiredKeySet = source.requiredEvidence.val.map EvidenceRequirement.key)
    (bound : definition.valueBinding = some binding) :
    (checkDeclared definition lookup).Rejects .bindingKeyUngated ↔
      binding.key ∉ source.requiredEvidence.val.map EvidenceRequirement.key := by
  by_cases gated : binding.key ∈ source.requiredEvidence.val.map EvidenceRequirement.key
  · refine iff_of_false ?_ (not_not_intro gated)
    have passed : checkValueBinding definition = .ok := by
      refine checkValueBinding_ok.mpr fun other same => ?_
      cases bound.symm.trans same
      rw [keys]
      exact gated
    rw [checkDeclared_eq_slots declared passed,
      slots_backed wellFormed compiles type template projections keys]
    · exact not_rejects_ok
    · rw [projections, keys]
      exact projections_gated wellFormed
  · refine iff_of_true ?_ gated
    rw [checkDeclared_eq declared]
    apply ValidationResult.Rejects.andThen
    rw [checkValueBinding, bound]
    dsimp only
    rw [keys, if_neg gated]
    exact rejects_fail

theorem withUngatedBinding_rejected_iff (wellFormed : source.WellFormed)
    (compiles : source.valueBinding = none → hasPropositionSlot source.render = false) :
    (∀ mutation ∈ withUngatedBinding (toDefinition source),
        (mutation.definition.validateClaimDefinition lookup).Rejects mutation.code) ↔
      (source.valueBinding.isSome →
        ungatedKey ∉ source.requiredEvidence.val.map EvidenceRequirement.key) := by
  have same : (toDefinition source).valueBinding = source.valueBinding := rfl
  rw [withUngatedBinding, same]
  cases bound : source.valueBinding with
  | none => simp
  | some binding =>
      rw [List.forall_mem_singleton, draft_validated wellFormed rfl rfl, Option.isSome_some,
        forall_prop_of_true rfl]
      refine @rebound_rejected_iff source lookup _ ⟨ungatedKey, binding.path⟩ wellFormed compiles ?_
        rfl rfl ?_ ?_ rfl
      · exact toDefinition_wellFormed wellFormed
      · exact toDefinition_projections
      · exact congrArg (List.map EvidenceRequirement.key) (map_fill_draft source.requiredEvidence.val)

end

/-- A well-formed source fails to compile for nothing but an unbound proposition. Its definition is
accepted, and its mutations meet their codes exactly when no bound source requires the key that the
binding mutation takes for ungated. -/
theorem compileClaimDefinition_consistent_iff (source : ClaimDefinitionSource)
    (lookup : Option (JsString → Option ClaimDefinition)) (wellFormed : source.WellFormed) :
    ((∃ raised, compileClaimDefinition source = .error raised) ↔
        hasPropositionSlot source.render = true ∧ source.valueBinding = none) ∧
      ∀ artifacts, compileClaimDefinition source = .ok artifacts →
        validateClaimDefinition artifacts.fixtures.valid lookup = .ok ∧
        ((∀ mutation ∈ artifacts.fixtures.mutations,
            (mutation.definition.validateClaimDefinition lookup).Rejects mutation.code) ↔
          (source.valueBinding.isSome →
            ungatedKey ∉ source.requiredEvidence.val.map EvidenceRequirement.key)) := by
  obtain ⟨unbound, proposes, raises⟩ | ⟨compiles, artifacts, compiled, fixtures⟩ :=
    @compileClaimDefinition_eq source
  · refine ⟨iff_of_true ⟨_, raises⟩ ⟨proposes, unbound⟩, ?_⟩
    intro artifacts compiled
    cases raises.symm.trans compiled
  · constructor
    · refine iff_of_false ?_ ?_
      · rintro ⟨raised, raises⟩
        cases raises.symm.trans compiled
      · rintro ⟨proposes, unbound⟩
        exact Bool.false_ne_true ((compiles unbound).symm.trans proposes)
    · intro other compiledToo
      cases compiled.symm.trans compiledToo
      rw [fixtures]
      refine ⟨valid_accepted wellFormed compiles, ?_⟩
      rw [← @withUngatedBinding_rejected_iff source lookup wellFormed compiles]
      constructor
      · intro rejected mutation generated
        exact rejected mutation (by simp [toFixtures, generated])
      · intro ungated mutation generated
        simp only [toFixtures, List.mem_append] at generated
        obtain (((evidence | provenance) | binding) | falsifiers) | projections := generated
        · exact withoutEvidence_rejected evidence
        · exact withoutFirstProvenance_rejected provenance
        · exact ungated mutation binding
        · exact withoutFalsifiers_rejected wellFormed falsifiers
        · exact withoutProjections_rejected wellFormed projections

/-- A bound proposition over one required key. -/
def hoursSource (key : JsString) : ClaimDefinitionSource where
  kind := .readClaim
  minSourceIntegrity := .structured
  requiredEvidence := ⟨[⟨key, .notApplicable, .mustReadThisTurn, .structured, .preserve⟩], by simp⟩
  customerScoped := none
  stance := .omitted
  valueBinding := some ⟨key, none⟩
  type := "STORE_OPEN_NOW"
  version := 1
  render := some ⟨⟨[.lit "open: ", .prop "open"], by simp⟩⟩

theorem hoursSource_wellFormed (key : JsString) : (hoursSource key).WellFormed := by
  have evidence : (hoursSource key).requiredEvidence.val =
    [⟨key, .notApplicable, .mustReadThisTurn, .structured, .preserve⟩] := rfl
  have falsifiers : (hoursSource key).stance.declaration.enumerated = [] := rfl
  have bound : (hoursSource key).valueBinding = some ⟨key, none⟩ := rfl
  constructor
  · rw [evidence]
    simp [isValidEvidenceRequirement, isValidFreshnessPolicy]
  · rw [falsifiers]
    simp
  · rw [evidence, bound]
    simp

theorem compileClaimDefinition_consistent_iff_hours :
    ((∃ raised, compileClaimDefinition (hoursSource "hours") = .error raised) ↔
        hasPropositionSlot (hoursSource "hours").render = true ∧
          (hoursSource "hours").valueBinding = none) ∧
      ∀ artifacts, compileClaimDefinition (hoursSource "hours") = .ok artifacts →
        validateClaimDefinition artifacts.fixtures.valid none = .ok ∧
        ((∀ mutation ∈ artifacts.fixtures.mutations,
            (mutation.definition.validateClaimDefinition none).Rejects mutation.code) ↔
          ((hoursSource "hours").valueBinding.isSome → ungatedKey ∉
            (hoursSource "hours").requiredEvidence.val.map EvidenceRequirement.key)) :=
  compileClaimDefinition_consistent_iff (hoursSource "hours") none (hoursSource_wellFormed "hours")

/-- The binding mutation of a source that requires the reserved key. -/
def reservedMutation : MutationFixture where
  code := .bindingKeyUngated
  definition := { (toDefinition (hoursSource ungatedKey)).draft with
    valueBinding := some ⟨ungatedKey, none⟩ }

/-- A definition that requires the reserved key passes the validator under its binding mutation. -/
theorem reservedKey_accepted :
    (hoursSource ungatedKey).WellFormed ∧
      ∃ artifacts, compileClaimDefinition (hoursSource ungatedKey) = .ok artifacts ∧
        reservedMutation ∈ artifacts.fixtures.mutations ∧
        reservedMutation.code = .bindingKeyUngated ∧
        reservedMutation.definition.validateClaimDefinition none = .ok := by
  have generated : reservedMutation ∈ withUngatedBinding (toDefinition (hoursSource ungatedKey)) :=
    List.mem_singleton_self _
  obtain ⟨unbound, -⟩ | ⟨-, artifacts, compiled, fixtures⟩ :=
    @compileClaimDefinition_eq (hoursSource ungatedKey)
  · have bound : (hoursSource ungatedKey).valueBinding = some ⟨ungatedKey, none⟩ := rfl
    rw [bound] at unbound
    cases unbound
  · refine ⟨hoursSource_wellFormed _, artifacts, compiled, ?_, rfl, by decide +kernel⟩
    rw [fixtures]
    simp [toFixtures, generated]

end Adjudicate.Claims
