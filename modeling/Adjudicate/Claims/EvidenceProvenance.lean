/-
This file decides which runs of the evidence ledger let an untrusted key be trusted again.
-/

import Adjudicate.Claims.Allowed

namespace Adjudicate.Claims

open Js

inductive LedgerWrite where
  | record (input : EvidenceEntryInput)
  | recordError (key reason : JsString)

def LedgerWrite.key : LedgerWrite → JsString
  | .record input => input.key
  | .recordError key _ => key

def EvidenceLedger.apply (ledger : EvidenceLedger) : LedgerWrite → EvidenceLedger
  | .record input => ledger.record input
  | .recordError key reason => ledger.recordError key reason

/-- The ledger has no deriver. -/
def ledgerAfter (snapshotId : JsString) (writes : List LedgerWrite) : EvidenceLedger :=
  writes.foldl EvidenceLedger.apply (EvidenceLedger.empty snapshotId none)

/-- One of the two labels says untrusted or is no member of its vocabulary. -/
def EvidenceEntryInput.Untrusted (input : EvidenceEntryInput) : Prop :=
  (asLedgerTaint input.taint = some .untrustedData ∨ asLedgerTaint input.taint = none) ∨
    asOriginProvenance input.originProvenance = some .untrustedData ∨
      asOriginProvenance input.originProvenance = none

def EvidenceEntry.Untrusted (entry : EvidenceEntry) : Prop :=
  entry.taint = .untrustedData ∨ entry.originProvenance = .untrustedData

/-- Some write to the key was untrusted. -/
def Tainted (writes : List LedgerWrite) (key : JsString) : Prop :=
  ∃ input, .record input ∈ writes ∧ input.key = key ∧ input.Untrusted

/-- The write puts trusted labels over an untrusted entry that it repeats. -/
def Washes (ledger : EvidenceLedger) (input : EvidenceEntryInput) : Prop :=
  ¬input.Untrusted ∧ ∃ entry, ledger.resolve input.key = .present entry ∧ entry.Untrusted ∧
    sameValue entry.value input.value = true

/-- From an untrusted write on, no claim that requires its key is validated. -/
def NeverWashes (snapshotId : JsString) (writes : List LedgerWrite) : Prop :=
  ∀ before, before <+: writes → ∀ key, Tainted before key →
    ∀ claim : MinimalClaim, key ∈ claim.requiredEvidence.map EvidenceRequirement.key →
      ∀ deps, claimAllowed claim (ledgerAfter snapshotId before) deps ≠ .ok .validated

def NoWashing (snapshotId : JsString) (writes : List LedgerWrite) : Prop :=
  ∀ before input, before ++ [.record input] <+: writes →
    ¬Washes (ledgerAfter snapshotId before) input

theorem normalize_untrusted (input : EvidenceEntryInput) :
    (normalizeEvidenceEntry input).Untrusted ↔ input.Untrusted := by
  have label {A : Type} (reading : Option A) (untrusted : A) :
      reading.getD untrusted = untrusted ↔ reading = some untrusted ∨ reading = none := by
    cases reading <;> simp
  exact or_congr (label _ _) (label _ _)

section

variable (snapshotId : JsString)

@[simp] theorem ledgerAfter_append (writes : List LedgerWrite) (write : LedgerWrite) :
    ledgerAfter snapshotId (writes ++ [write]) = (ledgerAfter snapshotId writes).apply write := by
  simp [ledgerAfter]

theorem ledgerAfter_deriver (writes : List LedgerWrite) :
    (ledgerAfter snapshotId writes).deriver = none := by
  induction writes using List.reverseRecOn with
  | nil => rfl
  | append_singleton writes write ih =>
      rw [ledgerAfter_append]
      cases write <;> exact ih

theorem ledgerAfter_derived (writes : List LedgerWrite) (input : EvidenceEntryInput) :
    (ledgerAfter snapshotId writes).derived input = input := by
  simp [EvidenceLedger.derived, ledgerAfter_deriver]

/-- The cell of the written key after a record. -/
theorem cells_record (writes : List LedgerWrite) (input : EvidenceEntryInput) (key : JsString) :
    (ledgerAfter snapshotId (writes ++ [.record input])).cells key =
      if key = input.key then
        some (EvidenceLedger.recordedCell ((ledgerAfter snapshotId writes).cells key)
          (normalizeEvidenceEntry input))
      else (ledgerAfter snapshotId writes).cells key := by
  rw [ledgerAfter_append]
  simp only [EvidenceLedger.apply, EvidenceLedger.record, ledgerAfter_derived]
  by_cases same : key = input.key
  · subst same
    simp [normalizeEvidenceEntry]
  · simp [normalizeEvidenceEntry, same]

theorem cells_recordError (writes : List LedgerWrite) (errored reason key : JsString) :
    (ledgerAfter snapshotId (writes ++ [.recordError errored reason])).cells key =
      if key = errored then
        some (EvidenceLedger.erroredCell ((ledgerAfter snapshotId writes).cells key) reason)
      else (ledgerAfter snapshotId writes).cells key := by
  rw [ledgerAfter_append]
  simp only [EvidenceLedger.apply, EvidenceLedger.recordError]
  by_cases same : key = errored
  · subst same
    simp
  · simp [same]

omit snapshotId in
@[simp] theorem recordedCell_entry (prior : Option Cell) (entry : EvidenceEntry) :
    (EvidenceLedger.recordedCell prior entry).entry = some entry := by
  cases prior <;> rfl

omit snapshotId in
@[simp] theorem erroredCell_entry (prior : Option Cell) (reason : JsString) :
    (EvidenceLedger.erroredCell prior reason).entry = prior.bind Cell.entry := by
  cases prior <;> rfl

/-- Every entry in a cell came in with a record of its key. -/
theorem cell_entry_recorded (writes : List LedgerWrite) {key : JsString} {cell : Cell}
    {entry : EvidenceEntry} (stored : (ledgerAfter snapshotId writes).cells key = some cell)
    (held : cell.entry = some entry) :
    ∃ input, .record input ∈ writes ∧ input.key = key ∧ entry = normalizeEvidenceEntry input := by
  induction writes using List.reverseRecOn generalizing cell with
  | nil => cases stored
  | append_singleton writes write ih =>
      have earlier {old : Cell} (known : (ledgerAfter snapshotId writes).cells key = some old)
          (kept : old.entry = some entry) : ∃ input, .record input ∈ writes ++ [write] ∧
            input.key = key ∧ entry = normalizeEvidenceEntry input := by
        obtain ⟨input, inside, same, normal⟩ := ih known kept
        exact ⟨input, List.mem_append_left _ inside, same, normal⟩
      cases write with
      | record input =>
          rw [cells_record] at stored
          split at stored
          · rename_i same
            obtain rfl := Option.some.inj stored
            rw [recordedCell_entry] at held
            exact ⟨input, by simp, same.symm, (Option.some.inj held).symm⟩
          · exact earlier stored held
      | recordError errored reason =>
          rw [cells_recordError] at stored
          split at stored
          · obtain rfl := Option.some.inj stored
            rw [erroredCell_entry] at held
            obtain ⟨old, known, kept⟩ := Option.bind_eq_some_iff.mp held
            exact earlier known kept
          · exact earlier stored held

/-- A key that no write names is absent. -/
theorem resolve_unwritten (writes : List LedgerWrite) {key : JsString}
    (unwritten : key ∉ writes.map LedgerWrite.key) :
    (ledgerAfter snapshotId writes).resolve key = .absent := by
  have empty : (ledgerAfter snapshotId writes).cells key = none := by
    induction writes using List.reverseRecOn with
    | nil => rfl
    | append_singleton writes write ih =>
        simp only [List.map_append, List.mem_append, not_or] at unwritten
        obtain ⟨before, last⟩ := unwritten
        cases write with
        | record input =>
            rw [cells_record, if_neg (by simpa [LedgerWrite.key] using last)]
            exact ih before
        | recordError errored reason =>
            rw [cells_recordError, if_neg (by simpa [LedgerWrite.key] using last)]
            exact ih before
  unfold EvidenceLedger.resolve
  rw [empty]
  rfl

/-- The cell holds an entry that no claim can be validated with. -/
def Cell.Poisoned (cell : Cell) : Prop :=
  ∃ entry, cell.entry = some entry ∧
    (cell.conflicted = true ∨ cell.errored = true ∨ entry.Untrusted)

omit snapshotId in
/-- A record keeps a poisoned cell poisoned unless it washes the cell. -/
theorem poisoned_recordedCell {cell : Cell} (poisoned : cell.Poisoned) {entry : EvidenceEntry}
    (kept : entry.Untrusted ∨ ∀ old, cell.conflicted = false → cell.errored = false →
      cell.entry = some old → sameValue old.value entry.value = false) :
    (EvidenceLedger.recordedCell (some cell) entry).Poisoned := by
  refine ⟨entry, recordedCell_entry _ _, ?_⟩
  obtain untrusted | differs := kept
  · exact .inr (.inr untrusted)
  · left
    obtain ⟨old, held, -⟩ := poisoned
    simp only [EvidenceLedger.recordedCell, held]
    cases conflicted : cell.conflicted with
    | true => simp
    | false =>
        cases errored : cell.errored with
        | true => simp
        | false => simp [differs old conflicted errored held]

omit snapshotId in
theorem poisoned_erroredCell {cell : Cell} (poisoned : cell.Poisoned) (reason : JsString) :
    (EvidenceLedger.erroredCell (some cell) reason).Poisoned := by
  obtain ⟨entry, held, -⟩ := poisoned
  exact ⟨entry, by simp [held], .inr (.inl rfl)⟩

omit snapshotId in
/-- A key was tainted before the last write unless that write taints it. -/
theorem tainted_before {writes : List LedgerWrite} {write : LedgerWrite} {key : JsString}
    (tainted : Tainted (writes ++ [write]) key)
    (clean : ∀ input, write = .record input → input.key = key → ¬input.Untrusted) :
    Tainted writes key := by
  obtain ⟨input, inside, same, untrusted⟩ := tainted
  obtain earlier | last := List.mem_append.mp inside
  · exact ⟨input, earlier, same, untrusted⟩
  · exact absurd untrusted (clean input (List.mem_singleton.mp last).symm same)

/-- Without washing, an untrusted write poisons its key for the rest of the run. -/
theorem poisoned_of_tainted {writes : List LedgerWrite} (unwashed : NoWashing snapshotId writes)
    {key : JsString} (tainted : Tainted writes key) :
    ∃ cell, (ledgerAfter snapshotId writes).cells key = some cell ∧ cell.Poisoned := by
  induction writes using List.reverseRecOn with
  | nil =>
      obtain ⟨input, inside, -⟩ := tainted
      cases inside
  | append_singleton writes write ih =>
      have earlier := ih fun before input inside =>
        unwashed before input (inside.trans (List.prefix_append _ _))
      cases write with
      | record input =>
          rw [cells_record]
          by_cases same : key = input.key
          · rw [if_pos same]
            refine ⟨_, rfl, ?_⟩
            by_cases untrusted : input.Untrusted
            · exact ⟨normalizeEvidenceEntry input, recordedCell_entry _ _,
                .inr (.inr ((normalize_untrusted input).mpr untrusted))⟩
            · -- The write itself is trusted, so an earlier one tainted the key.
              obtain ⟨cell, stored, poisoned⟩ := earlier (tainted_before tainted (by
                rintro other ⟨⟩ -
                exact untrusted))
              rw [stored]
              refine poisoned_recordedCell poisoned (.inr ?_)
              intro old settled clean held
              obtain ⟨entry, kept, conflicted | errored | mistrusted⟩ := poisoned
              · simp [settled] at conflicted
              · simp [clean] at errored
              · obtain rfl := Option.some.inj (held.symm.trans kept)
                have present : (ledgerAfter snapshotId writes).resolve input.key = .present old :=
                  EvidenceLedger.resolve_present_iff.mpr ⟨cell, same ▸ stored, settled, clean, held⟩
                have unwashed_ := unwashed writes input (List.prefix_refl _)
                cases repeats : sameValue old.value input.value with
                | false => exact repeats
                | true => exact absurd ⟨untrusted, old, present, mistrusted, repeats⟩ unwashed_
          · rw [if_neg same]
            exact earlier (tainted_before tainted (by
              rintro other ⟨⟩ named
              exact absurd named.symm same))
      | recordError errored reason =>
          rw [cells_recordError]
          obtain ⟨cell, stored, poisoned⟩ := earlier (tainted_before tainted (by
            rintro other ⟨⟩))
          split
          · rw [stored]
            exact ⟨_, rfl, poisoned_erroredCell poisoned reason⟩
          · exact ⟨cell, stored, poisoned⟩

omit snapshotId in
/-- A poisoned key supports no requirement, so no claim that requires it is validated. -/
theorem not_validated_of_poisoned {ledger : EvidenceLedger} {key : JsString} {cell : Cell}
    (stored : ledger.cells key = some cell) (poisoned : cell.Poisoned) {claim : MinimalClaim}
    (requires : key ∈ claim.requiredEvidence.map EvidenceRequirement.key) (deps : SoundnessDeps) :
    claimAllowed claim ledger deps ≠ .ok .validated := by
  intro validated
  obtain ⟨-, -, allowed⟩ := claimAllowed_validated.mp validated
  obtain ⟨requirement, inside, rfl⟩ := List.mem_map.mp requires
  obtain ⟨entry, supported⟩ := allowed.supported requirement inside
  obtain ⟨other, known, settled, clean, held⟩ :=
    EvidenceLedger.resolve_present_iff.mp supported.present
  obtain rfl := Option.some.inj (stored.symm.trans known)
  obtain ⟨old, kept, conflicted | errored | untrusted⟩ := poisoned
  · simp [settled] at conflicted
  · simp [clean] at errored
  · obtain rfl := Option.some.inj (held.symm.trans kept)
    obtain ⟨taint, origin, -⟩ := supported.trusted
    exact untrusted.elim taint origin

/-- A public claim about the key that any read of another key would falsify. -/
def plainClaim (key falsifier : JsString) : MinimalClaim where
  falsifierComplete := some true
  falsifiers := some [sampleRequirement falsifier]
  requiredEvidence := [sampleRequirement key]
  minSourceIntegrity := .structured
  kind := .readClaim
  actor := .null
  resources := none
  value := .undefined
  valueBinding := none

omit snapshotId in
/-- A present trusted entry validates the plain claim about its key. -/
theorem plainClaim_validated {ledger : EvidenceLedger} {key falsifier : JsString}
    {entry : EvidenceEntry} (present : ledger.resolve key = .present entry)
    (trusted : ¬entry.Untrusted) (silent : ledger.resolve falsifier = .absent)
    (deps : SoundnessDeps) :
    claimAllowed (plainClaim key falsifier) ledger deps = .ok .validated := by
  obtain ⟨taint, origin⟩ := not_or.mp trusted
  refine claimAllowed_validated.mpr ⟨⟨?_, ?_⟩, ?_, ?_⟩
  · intro _
    exact List.cons_ne_nil _ _
  · simp [plainClaim, FalsifierDeclaration.enumerated, isValidEvidenceRequirement,
      sampleRequirement, isValidFreshnessPolicy]
  · intro binding bound
    cases bound
  · constructor
    · exact List.cons_ne_nil _ _
    · intro requirement inside
      obtain rfl := List.mem_singleton.mp inside
      exact ⟨entry, present, ⟨taint, origin, nofun⟩, nofun, trivial, le_refl _⟩
    · intro asserts
      obtain action | ⟨requirement, inside, outcome⟩ := asserts
      · cases action
      · obtain rfl := List.mem_singleton.mp inside
        cases outcome
    · intro binding bound
      cases bound
    · rfl
    · exact List.cons_ne_nil _ _
    · intro other inside
      obtain rfl := List.mem_singleton.mp inside
      exact silent

/-- A key stays untrusted in every claim exactly when no write washes it. -/
theorem neverWashes_iff (writes : List LedgerWrite) :
    NeverWashes snapshotId writes ↔ NoWashing snapshotId writes := by
  constructor
  · intro never before input inside washes
    obtain ⟨trusted, entry, present, untrusted, repeats⟩ := washes
    obtain ⟨cell, stored, settled, clean, held⟩ :=
      EvidenceLedger.resolve_present_iff.mp present
    obtain ⟨tainting, recorded, named, rfl⟩ := cell_entry_recorded snapshotId before stored held
    have tainted : Tainted (before ++ [.record input]) input.key :=
      ⟨tainting, List.mem_append_left _ recorded, named, (normalize_untrusted tainting).mp untrusted⟩
    obtain ⟨falsifier, unwritten⟩ := Infinite.exists_notMem_finset
      ((before ++ [LedgerWrite.record input]).map LedgerWrite.key).toFinset
    have silent := @resolve_unwritten snapshotId (before ++ [.record input]) falsifier
      (fun written => unwritten (List.mem_toFinset.mpr written))
    have overwritten : (ledgerAfter snapshotId (before ++ [.record input])).cells input.key =
        some (EvidenceLedger.recordedCell (some cell) (normalizeEvidenceEntry input)) := by
      rw [cells_record, if_pos rfl, stored]
    have undisputed : (EvidenceLedger.recordedCell (some cell)
        (normalizeEvidenceEntry input)).conflicted = false := by
      change sameValue _ (normalizeEvidenceEntry input).value = true at repeats
      simp [EvidenceLedger.recordedCell, settled, clean, held, repeats]
    have washed := EvidenceLedger.resolve_present_iff.mpr
      ⟨_, overwritten, undisputed, rfl, recordedCell_entry _ _⟩
    exact never _ inside input.key tainted (plainClaim input.key falsifier)
      (List.mem_singleton.mpr rfl) sampleDeps
      (plainClaim_validated washed ((normalize_untrusted input).not.mpr trusted) silent _)
  · intro unwashed before inside key tainted claim requires deps
    obtain ⟨cell, stored, poisoned⟩ := poisoned_of_tainted snapshotId
      (fun earlier input known => unwashed earlier input (known.trans inside)) tainted
    exact not_validated_of_poisoned stored poisoned requires deps

end

/-- The second write repeats the value of the first with trusted labels. -/
def washingRun : List LedgerWrite :=
  [.record { sampleWrite [0] with originProvenance := "UNTRUSTED_DATA" },
    .record (sampleWrite [0])]

theorem washingRun_washes : ¬NeverWashes [] washingRun := by
  intro never
  refine never washingRun (List.prefix_refl _) [0] ⟨_, List.mem_cons_self, rfl, ?_⟩
    (plainClaim [0] [1]) (List.mem_singleton.mpr rfl) sampleDeps (by decide +kernel)
  exact .inr (.inl (by decide +kernel))

end Adjudicate.Claims
