/-
This file decides when a minted value is nothing but the slice that the evidence proves.
-/

import Adjudicate.Claims.Allowed
import Adjudicate.Claims.ClaimsKernel
import Adjudicate.Claims.TableTightening

namespace Adjudicate.Claims

open Js

section

variable {value leaf : JsValue} {path other front rest : List PathSegment}

theorem pickLeaf_eq_projectPath (value : JsValue) (path : List PathSegment) :
    pickLeaf value path = projectPath value path := by
  have lost (path : List PathSegment) : pickLeaf .undefined path = .undefined := by
    induction path with
    | nil => rfl
    | cons segment path ih => exact ih
  induction path generalizing value with
  | nil => rfl
  | cons segment path ih =>
      change pickLeaf ((ownProperty value segment.key).getD .undefined) path = _
      rw [projectPath]
      cases ownProperty value segment.key with
      | none => exact lost path
      | some next => exact ih next

/-- The empty path is no exception: it rebuilds the value itself. -/
theorem pickPath_eq_rebuild (value : JsValue) (path : Option (List PathSegment)) :
    pickPath value path = rebuild (path.getD []) (projectValue value path) := by
  unfold pickPath projectValue
  split
  · rfl
  · rfl
  · rw [pickLeaf_eq_projectPath]
    rfl

theorem projectPath_append :
    projectPath value (front ++ rest) = projectPath (projectPath value front) rest := by
  have lost (path : List PathSegment) : projectPath .undefined path = .undefined := by
    cases path <;> rfl
  induction front generalizing value with
  | nil => rfl
  | cons segment front ih =>
      rw [List.cons_append, projectPath, projectPath]
      cases ownProperty value segment.key with
      | none => exact (lost rest).symm
      | some next => exact ih

/-- A path is read through the texts of its segments. -/
theorem projectPath_congr (same : path.map PathSegment.key = other.map PathSegment.key) :
    projectPath value path = projectPath value other := by
  induction path generalizing value other with
  | nil =>
      obtain rfl := List.map_eq_nil_iff.mp same.symm
      rfl
  | cons segment path ih =>
      obtain ⟨first, others, rfl, name, names⟩ := List.map_eq_cons_iff.mp same.symm
      rw [projectPath, projectPath, name]
      cases ownProperty value segment.key with
      | none => rfl
      | some next => exact ih names.symm

theorem rebuild_append : rebuild (front ++ rest) leaf = rebuild front (rebuild rest leaf) :=
  List.foldr_append

theorem rebuild_congr (same : path.map PathSegment.key = other.map PathSegment.key) :
    rebuild path leaf = rebuild other leaf := by
  induction path generalizing other with
  | nil =>
      obtain rfl := List.map_eq_nil_iff.mp same.symm
      rfl
  | cons segment path ih =>
      obtain ⟨first, others, rfl, name, names⟩ := List.map_eq_cons_iff.mp same.symm
      change JsValue.obj [(segment.key, rebuild path leaf)] =
        .obj [(first.key, rebuild others leaf)]
      rw [name, ih names.symm]

theorem projectPath_rebuild : projectPath (rebuild path leaf) path = leaf := by
  induction path with
  | nil => rfl
  | cons segment path ih =>
      have owned : ownProperty (rebuild (segment :: path) leaf) segment.key =
          some (rebuild path leaf) := by
        simp [rebuild, ownProperty]
      rw [projectPath, owned]
      exact ih

/-- A scalar at the end of a path shows where every shorter rebuilding stops. -/
theorem rebuild_eq_rebuild (scalar : withinValueGrammar leaf = true) :
    rebuild other value = rebuild path leaf ↔
      ∃ front rest, path = front ++ rest ∧
        front.map PathSegment.key = other.map PathSegment.key ∧ value = rebuild rest leaf := by
  constructor
  · intro same
    induction other generalizing path with
    | nil => exact ⟨[], path, rfl, rfl, same⟩
    | cons segment other ih =>
        cases path with
        | nil =>
            change JsValue.obj _ = leaf at same
            rw [← same] at scalar
            cases scalar
        | cons first path =>
            change JsValue.obj [(segment.key, rebuild other value)] =
              .obj [(first.key, rebuild path leaf)] at same
            simp only [JsValue.obj.injEq, List.cons.injEq, Prod.mk.injEq, and_true] at same
            obtain ⟨front, rest, rfl, names, stops⟩ := ih same.2
            exact ⟨first :: front, rest, rfl, by simp [names, same.1], stops⟩
  · intro ⟨front, rest, split, names, stops⟩
    rw [split, rebuild_append, rebuild_congr names, stops]

end

/-- The last of the candidates that go by a text decides how every claim of that text is minted. -/
def lastNamed (candidates : List CandidateClaim) (text : JsString) : Option CandidateClaim :=
  (candidates.filter fun candidate =>
    subjectTypeKey candidate.subject candidate.type = text).getLast?

/-- A candidate without a binding, or without a path in it, stands for the whole value. -/
def CandidateClaim.path (candidate : CandidateClaim) : List PathSegment :=
  (candidate.soundness.valueBinding.bind ValueBinding.path).getD []

theorem lookup_bindingBySubjectType (candidates : List CandidateClaim) (text : JsString) :
    (bindingBySubjectType candidates).lookup text =
      (lastNamed candidates text).map fun last => last.soundness.valueBinding := by
  unfold bindingBySubjectType lastNamed
  induction candidates using List.reverseRecOn with
  | nil => rfl
  | append_singleton candidates candidate ih =>
      rw [List.foldl_append, List.foldl_cons, List.foldl_nil, lookup_setOwn, List.filter_append,
        List.getLast?_append, ih]
      by_cases named : subjectTypeKey candidate.subject candidate.type = text
      · simp [named]
      · simp [named, Ne.symm named]

/-- The path is the one of the last candidate, not of the claim that is minted. -/
theorem mintClaim_value {candidates : List CandidateClaim} {claim : ConsistencyClaim}
    {last : CandidateClaim}
    (found : lastNamed candidates (subjectTypeKey claim.subject claim.type) = some last) :
    (mintClaim (bindingBySubjectType candidates) claim).value =
      rebuild last.path (projectPath claim.value last.path) := by
  unfold mintClaim CandidateClaim.path
  rw [lookup_bindingBySubjectType, found]
  cases bound : last.soundness.valueBinding with
  | none => simp [rebuild, projectPath, bound]
  | some binding => simp [pickPath_eq_rebuild, projectValue, bound]

/-- The object that holds the path and nothing else, with the recorded value at its end. -/
structure ProvenSlice (ledger : EvidenceLedger) (key : JsString) (path : List PathSegment)
    (minted : JsValue) : Prop where
  alone : ∃ leaf, withinValueGrammar leaf = true ∧ minted = rebuild path leaf
  proven : ∃ entry, ledger.resolve key = .present entry ∧
    sameValue (projectPath minted path) (projectPath entry.value path) = true

/-- The other path is an initial part, and what the value holds there is the rest of the path
alone. -/
def StopsOn (value : JsValue) (path other : List PathSegment) : Prop :=
  ∃ front rest, path = front ++ rest ∧ front.map PathSegment.key = other.map PathSegment.key ∧
    projectPath value other = rebuild rest (projectPath value path)

/-- Narrowing a value at one path leaves the slice that is proven at another path exactly when the
first stops on the second. -/
theorem provenSlice_iff {ledger : EvidenceLedger} {claim : MinimalClaim} {binding : ValueBinding}
    {path other : List PathSegment} (bound : Bound claim binding ledger)
    (named : binding.path = some path) :
    ProvenSlice ledger binding.key path (rebuild other (projectPath claim.value other)) ↔
      StopsOn claim.value path other := by
  obtain ⟨entry, present, scalar, -, same⟩ := bound
  rw [named] at scalar same
  change withinValueGrammar (projectPath claim.value path) = true at scalar
  change sameValue (projectPath claim.value path) (projectPath entry.value path) = true at same
  constructor
  · intro ⟨⟨leaf, closed, minted⟩, _⟩
    obtain ⟨front, rest, split, names, stops⟩ := (rebuild_eq_rebuild closed).mp minted
    have reached : projectPath claim.value path = leaf := by
      rw [split, projectPath_append, projectPath_congr names, stops, projectPath_rebuild]
    exact ⟨front, rest, split, names, reached ▸ stops⟩
  · intro stops
    have minted := (rebuild_eq_rebuild scalar).mpr stops
    refine ⟨⟨_, scalar, minted⟩, entry, present, ?_⟩
    rwa [minted, projectPath_rebuild]

section

variable {ledger : EvidenceLedger} {candidates : List CandidateClaim}

/-- The verdict of a candidate does not depend on the others. -/
def CandidateClaim.judged (candidate : CandidateClaim) (ledger : EvidenceLedger)
    (deps : SoundnessDeps) : ConsistencyClaim where
  subject := candidate.subject
  type := candidate.type
  verdict := (claimAllowed candidate.claim ledger deps).toOption.getD .unknown
  value := candidate.value

theorem soundnessStage_ok {deps : SoundnessDeps} {perClaim : List ClaimSoundnessVerdict}
    (judged : soundnessStage ledger candidates deps = .ok perClaim) :
    perClaim.map ClaimSoundnessVerdict.verdict =
      candidates.map fun candidate => (candidate.judged ledger deps).verdict := by
  induction candidates generalizing perClaim with
  | nil =>
      obtain rfl := Except.ok.inj judged
      rfl
  | cons candidate candidates ih =>
      rw [soundnessStage, List.mapM_cons] at judged
      obtain ⟨first, firstJudged, judged⟩ := bind_eq_ok.mp judged
      obtain ⟨others, othersJudged, judged⟩ := bind_eq_ok.mp judged
      obtain ⟨verdict, allowed, firstJudged⟩ := bind_eq_ok.mp firstJudged
      obtain rfl := Except.ok.inj judged
      obtain rfl := Except.ok.inj firstJudged
      rw [List.map_cons, List.map_cons, ih othersJudged]
      simp [CandidateClaim.judged, allowed, Except.toOption]

/-- The gate is asked about the judged candidates. -/
theorem consistencyInput_eq {deps : SoundnessDeps} {perClaim : List ClaimSoundnessVerdict}
    (judged : soundnessStage ledger candidates deps = .ok perClaim) :
    consistencyInput candidates perClaim =
      (candidates.map fun candidate => candidate.judged ledger deps).filter fun claim =>
        claim.verdict = .validated := by
  have verdicts := soundnessStage_ok judged
  unfold consistencyInput
  congr 1
  apply List.ext_getElem
  · simp
  · intro place within _
    have known : (perClaim.map ClaimSoundnessVerdict.verdict)[place]? =
        (candidates.map fun candidate => (candidate.judged ledger deps).verdict)[place]? := by
      rw [verdicts]
    have inside : place < candidates.length := by simpa using within
    rw [List.getElem?_map, List.getElem?_map, List.getElem?_eq_getElem inside] at known
    simp only [List.getElem_map, List.getElem_zipIdx, Nat.zero_add, known]
    rfl

theorem judged_validated {candidate : CandidateClaim} {deps : SoundnessDeps} :
    (candidate.judged ledger deps).verdict = .validated ↔
      claimAllowed candidate.claim ledger deps = .ok .validated := by
  unfold CandidateClaim.judged
  cases claimAllowed candidate.claim ledger deps with
  | error raised => exact iff_of_false nofun nofun
  | ok verdict => simp [Except.toOption]

theorem membersAt_all (validated : List ConsistencyClaim) :
    membersAt validated (fun _ => true) = validated := by
  simp [membersAt]

/-- What the gate renders is a part of what it is given, in the same order. -/
theorem checkConsistency_sublist {claims : List ConsistencyClaim}
    {options : Option (List ConsistencyConstraint)} {result : ConsistencyResult}
    (checked : checkConsistency claims options = .ok result) :
    result.renderable.Sublist (validatedOf claims) := by
  obtain ⟨marks, -, assembled⟩ := bind_eq_ok.mp checked
  obtain rfl := Except.ok.inj assembled
  have fewer := @membersAt_sublist (validatedOf claims) (fun place => !marks.suppressed place)
    (fun _ => true) fun _ _ => rfl
  rwa [membersAt_all] at fewer

end

/-- What the gate is asked about. -/
def judgedClaims (ledger : EvidenceLedger) (candidates : List CandidateClaim)
    (deps : SoundnessDeps) : List ConsistencyClaim :=
  (candidates.map fun candidate => candidate.judged ledger deps).filter fun claim =>
    claim.verdict = .validated

/-- The claim goes out under the names of the candidate, and its value is the proven slice exactly
when the last candidate of that text stops on the path of this one. -/
structure MintedFor (ledger : EvidenceLedger) (candidates : List CandidateClaim)
    (candidate : CandidateClaim) (minted : CanonicalClaim) : Prop where
  subject : minted.subject = candidate.subject
  type : minted.type = candidate.type
  slice : ∀ binding path, candidate.soundness.valueBinding = some binding →
    binding.path = some path →
      (ProvenSlice ledger binding.key path minted.value ↔
        ∃ last, lastNamed candidates (subjectTypeKey candidate.subject candidate.type) = some last ∧
          StopsOn candidate.value path last.path)

section

variable {ledger : EvidenceLedger} {candidates : List CandidateClaim} {deps : SoundnessDeps}

theorem lastNamed_of_mem {candidate : CandidateClaim} (inside : candidate ∈ candidates) :
    ∃ last, lastNamed candidates (subjectTypeKey candidate.subject candidate.type) = some last := by
  have named : (candidates.filter fun other => subjectTypeKey other.subject other.type =
      subjectTypeKey candidate.subject candidate.type) ≠ [] :=
    List.ne_nil_of_mem (List.mem_filter.mpr ⟨inside, by simp⟩)
  exact ⟨_, List.getLast?_eq_some_getLast named⟩

/-- A validated candidate of the list is minted as said. -/
theorem mintedFor_judged {candidate : CandidateClaim} (inside : candidate ∈ candidates)
    (validated : claimAllowed candidate.claim ledger deps = .ok .validated) :
    MintedFor ledger candidates candidate
      (mintClaim (bindingBySubjectType candidates) (candidate.judged ledger deps)) := by
  obtain ⟨last, found⟩ := lastNamed_of_mem inside
  refine ⟨rfl, rfl, ?_⟩
  intro binding path bound named
  have proven := (claimAllowed_validated.mp validated).2.2.bound binding bound
  have minted := @mintClaim_value candidates (candidate.judged ledger deps) last found
  have slice : ProvenSlice ledger binding.key path
      (mintClaim (bindingBySubjectType candidates) (candidate.judged ledger deps)).value ↔
        StopsOn candidate.value path last.path := by
    rw [minted]
    exact provenSlice_iff proven named
  rw [slice, found]
  simp

/-- Every rendered claim is a candidate that was validated. -/
theorem sources_of_sublist {renderable : List ConsistencyClaim}
    (fewer : renderable.Sublist (judgedClaims ledger candidates deps)) :
    ∃ sources : List CandidateClaim, sources.Sublist candidates ∧
      (∀ source ∈ sources, claimAllowed source.claim ledger deps = .ok .validated) ∧
        renderable = sources.map fun source => source.judged ledger deps := by
  obtain ⟨sources, kept, rfl⟩ := List.sublist_map_iff.mp (fewer.trans List.filter_sublist)
  refine ⟨sources, kept, ?_, rfl⟩
  intro source inside
  have judged : source.judged ledger deps ∈ judgedClaims ledger candidates deps :=
    fewer.subset (List.mem_map_of_mem inside)
  exact judged_validated.mp (by simpa using (List.mem_filter.mp judged).2)

end

/-- Only a turn that renders mints anything. Each minted claim comes from a validated candidate that
the gate kept, and its value is narrowed by the last candidate of the same text. -/
theorem runClaimsKernel_mints (ledger : EvidenceLedger) (candidates : List CandidateClaim)
    (deps : ClaimsKernelDeps) :
    (runClaimsKernel ledger candidates deps).renderableCanonical = [] ∨
      (runClaimsKernel ledger candidates deps).terminal = .render ∧
        ∃ (consistency : ConsistencyResult) (sources : List CandidateClaim),
          checkConsistency (judgedClaims ledger candidates deps.soundness) deps.consistency =
              .ok consistency ∧
            consistency.terminal = .render ∧ sources.Sublist candidates ∧
            (∀ source ∈ sources, claimAllowed source.claim ledger deps.soundness = .ok .validated) ∧
            consistency.renderable = (sources.map fun source => source.judged ledger deps.soundness) ∧
            List.Forall₂ (MintedFor ledger candidates) sources
              (runClaimsKernel ledger candidates deps).renderableCanonical := by
  unfold runClaimsKernel
  cases judged : soundnessStage ledger candidates deps.soundness with
  | error raised => exact .inl rfl
  | ok perClaim =>
      dsimp only
      split
      · exact .inl rfl
      rw [consistencyInput_eq judged, ← judgedClaims]
      cases checked : checkConsistency (judgedClaims ledger candidates deps.soundness)
          deps.consistency with
      | error raised => exact .inl rfl
      | ok consistency =>
          by_cases renders : turnTerminal consistency = .render
          · have gated := checkConsistency_sublist checked
            have kept : validatedOf (judgedClaims ledger candidates deps.soundness) =
                judgedClaims ledger candidates deps.soundness := by
              simp [validatedOf, judgedClaims]
            obtain ⟨sources, fewer, validated, rendered⟩ := sources_of_sublist (kept ▸ gated)
            have terminal : consistency.terminal = .render := by
              unfold turnTerminal at renders
              split at renders
              · cases renders
              · exact renders
            refine .inr ⟨renders, consistency, sources, rfl, terminal, fewer, validated, rendered, ?_⟩
            have minted : (settleTurn candidates perClaim consistency).renderableCanonical =
                consistency.renderable.map (mintClaim (bindingBySubjectType candidates)) :=
              if_pos renders
            change List.Forall₂ _ _ (settleTurn candidates perClaim consistency).renderableCanonical
            rw [minted, rendered, List.map_map, List.forall₂_map_right_iff, List.forall₂_same]
            intro source inside
            exact mintedFor_judged (fewer.subset inside) (validated source inside)
          · exact .inl (if_neg renders)

/-- The evidence knows whether the shop is open and nothing else. -/
def hoursLedger : EvidenceLedger :=
  (EvidenceLedger.empty [] none).record
    { sampleWrite [0] with value := .obj [("open", .bool true)] }

def hoursValue : JsValue := .obj [("open", .bool true), ("message", "free coffee today")]

def hoursCandidate : CandidateClaim where
  soundness :=
    { sampleClaim with
      requiredEvidence := [sampleRequirement [0]]
      valueBinding := some ⟨[0], some [.name "open"]⟩ }
  subject := "shop|hours"
  type := "today"
  value := hoursValue

/-- This candidate rests on no evidence, and its names run together to the same text. -/
def strayCandidate : CandidateClaim where
  soundness := { sampleClaim with requiredEvidence := [] }
  subject := "shop"
  type := "hours|today"
  value := .null

def sampleKernelDeps : ClaimsKernelDeps := ⟨sampleDeps, none⟩

/-- Alone, the candidate goes out with its proven slice. A refused candidate of another subject and
another type lets the unproven message out. -/
theorem minted_beyond_slice :
    ((runClaimsKernel hoursLedger [hoursCandidate] sampleKernelDeps).renderableCanonical =
        [⟨hoursCandidate.subject, hoursCandidate.type, .obj [("open", .bool true)]⟩] ∧
      claimAllowed strayCandidate.claim hoursLedger sampleDeps = .ok .refused) ∧
    (runClaimsKernel hoursLedger [hoursCandidate, strayCandidate] sampleKernelDeps).terminal =
        .render ∧
      (runClaimsKernel hoursLedger [hoursCandidate, strayCandidate]
          sampleKernelDeps).renderableCanonical =
        [⟨hoursCandidate.subject, hoursCandidate.type, hoursValue⟩] ∧
      ¬ProvenSlice hoursLedger [0] [.name "open"] hoursValue := by
  refine ⟨⟨rfl, by decide +kernel⟩, by decide +kernel, rfl, ?_⟩
  intro ⟨⟨leaf, _, alone⟩, _⟩
  simp [hoursValue, rebuild] at alone

end Adjudicate.Claims
