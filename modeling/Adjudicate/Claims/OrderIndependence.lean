/-
This file shows that what a key resolves to does not depend on the order of the writes.
-/

import Adjudicate.Claims.EvidenceProvenance

namespace Adjudicate.Claims

open Js

inductive ResolutionState where
  | present
  | absent
  | error
  | conflict
deriving DecidableEq

namespace EvidenceResolution

def state : EvidenceResolution → ResolutionState
  | .present _ => .present
  | .absent => .absent
  | .error => .error
  | .conflict => .conflict

def entry : EvidenceResolution → Option EvidenceEntry
  | .present entry => some entry
  | _ => none

end EvidenceResolution

/-- One ledger takes the writes in their order. -/
def EvidenceLedger.applyAll (ledger : EvidenceLedger) (writes : List LedgerWrite) :
    EvidenceLedger := writes.foldl EvidenceLedger.apply ledger

section

variable (writes : List LedgerWrite) (key : JsString)

def ValueRecorded (value : JsValue) : Prop :=
  ∃ input, .record input ∈ writes ∧ input.key = key ∧ input.value = value

def ErrorRecorded : Prop := ∃ reason, .recordError key reason ∈ writes

def Disagreement : Prop :=
  ∃ first second, ValueRecorded writes key first ∧ ValueRecorded writes key second ∧
    sameValue first second = false

/-- Some value was recorded, and an error or a different value was recorded beside it. -/
def Contradicted : Prop :=
  (∃ value, ValueRecorded writes key value) ∧
    (ErrorRecorded writes key ∨ Disagreement writes key)

end

section

variable {writes : List LedgerWrite} {key : JsString}

@[simp] theorem valueRecorded_nil (value : JsValue) : ¬ValueRecorded [] key value := by
  simp [ValueRecorded]

@[simp] theorem errorRecorded_nil : ¬ErrorRecorded [] key := by
  simp [ErrorRecorded]

@[simp] theorem valueRecorded_record (input : EvidenceEntryInput) (value : JsValue) :
    ValueRecorded (writes ++ [.record input]) key value ↔
      ValueRecorded writes key value ∨ input.key = key ∧ input.value = value := by
  simp only [ValueRecorded, List.mem_append, List.mem_singleton, LedgerWrite.record.injEq]
  constructor
  · rintro ⟨other, earlier | rfl, named, stored⟩
    · exact .inl ⟨other, earlier, named, stored⟩
    · exact .inr ⟨named, stored⟩
  · rintro (⟨other, earlier, named, stored⟩ | ⟨named, stored⟩)
    · exact ⟨other, .inl earlier, named, stored⟩
    · exact ⟨input, .inr rfl, named, stored⟩

@[simp] theorem valueRecorded_recordError (errored reason : JsString) (value : JsValue) :
    ValueRecorded (writes ++ [.recordError errored reason]) key value ↔
      ValueRecorded writes key value := by
  simp [ValueRecorded]

@[simp] theorem errorRecorded_record (input : EvidenceEntryInput) :
    ErrorRecorded (writes ++ [.record input]) key ↔ ErrorRecorded writes key := by
  simp [ErrorRecorded]

@[simp] theorem errorRecorded_recordError (errored reason : JsString) :
    ErrorRecorded (writes ++ [.recordError errored reason]) key ↔
      ErrorRecorded writes key ∨ errored = key := by
  simp only [ErrorRecorded, List.mem_append, List.mem_singleton, LedgerWrite.recordError.injEq,
    exists_or]
  refine or_congr_right ?_
  simp [eq_comm]

theorem valueRecorded_perm {permuted : List LedgerWrite} (perm : writes.Perm permuted)
    (value : JsValue) : ValueRecorded permuted key value ↔ ValueRecorded writes key value := by
  simp only [ValueRecorded, perm.mem_iff]

theorem errorRecorded_perm {permuted : List LedgerWrite} (perm : writes.Perm permuted) :
    ErrorRecorded permuted key ↔ ErrorRecorded writes key := by
  simp only [ErrorRecorded, perm.mem_iff]

end

/-- What the cell of a key tells about the writes that named the key. -/
structure Cell.Tells (cell : Cell) (writes : List LedgerWrite) (key : JsString) : Prop where
  held : ∀ entry, cell.entry = some entry → ValueRecorded writes key entry.value
  unheld : cell.entry = none → cell.errored = true ∧ ∀ value, ¬ValueRecorded writes key value
  errored : cell.errored = true → ErrorRecorded writes key
  conflicted : cell.conflicted = true ↔ Contradicted writes key

/-- The values that the writes record have distinct names. -/
def WellNamed (writes : List LedgerWrite) : Prop :=
  ∀ input, .record input ∈ writes → HasDistinctNames input.value

theorem WellNamed.recorded {writes : List LedgerWrite} (named : WellNamed writes)
    {key : JsString} {value : JsValue} (recorded : ValueRecorded writes key value) :
    HasDistinctNames value := by
  obtain ⟨input, inside, -, rfl⟩ := recorded
  exact named input inside

section

variable {writes : List LedgerWrite} {key : JsString} {input : EvidenceEntryInput}

/-- The newest value agrees with all earlier ones as soon as it agrees with one of them. -/
theorem disagreement_record (wellNamed : WellNamed writes) (distinct : HasDistinctNames input.value)
    (named : input.key = key) {last : JsValue} (recorded : ValueRecorded writes key last) :
    Disagreement (writes ++ [.record input]) key ↔
      Disagreement writes key ∨ sameValue last input.value = false := by
  constructor
  · rintro ⟨first, second, firstRecorded, secondRecorded, differ⟩
    by_contra agreement
    simp only [not_or, Bool.not_eq_false, Disagreement, not_exists, not_and] at agreement
    obtain ⟨agree, newest⟩ := agreement
    have toNewest {value : JsValue} (old : ValueRecorded writes key value) :
        sameValue value input.value = true :=
      sameValue_trans _ _ _ (agree value last old recorded) newest
    have same : sameValue first second = true := by
      obtain firstOld | ⟨-, rfl⟩ := (valueRecorded_record input first).mp firstRecorded
      · obtain secondOld | ⟨-, rfl⟩ := (valueRecorded_record input second).mp secondRecorded
        · exact agree first second firstOld secondOld
        · exact toNewest firstOld
      · obtain secondOld | ⟨-, rfl⟩ := (valueRecorded_record input second).mp secondRecorded
        · exact sameValue_symm _ _ (wellNamed.recorded secondOld) distinct (toNewest secondOld)
        · exact sameValue_refl _ distinct
    rw [same] at differ
    cases differ
  · rintro (⟨first, second, firstOld, secondOld, differ⟩ | differs)
    · exact ⟨first, second, (valueRecorded_record _ _).mpr (.inl firstOld),
        (valueRecorded_record _ _).mpr (.inl secondOld), differ⟩
    · exact ⟨last, input.value, (valueRecorded_record _ _).mpr (.inl recorded),
        (valueRecorded_record _ _).mpr (.inr ⟨named, rfl⟩), differs⟩

/-- The first record of a key opens a clean cell. -/
theorem tells_first {entry : EvidenceEntry} (stored : entry.value = input.value)
    (distinct : HasDistinctNames input.value) (named : input.key = key)
    (unwritten : ∀ value, ¬ValueRecorded writes key value) (clean : ¬ErrorRecorded writes key) :
    (EvidenceLedger.recordedCell none entry).Tells (writes ++ [.record input]) key where
  held := by
    intro other held
    obtain rfl := Option.some.inj held
    simp [stored, named]
  unheld := nofun
  errored := nofun
  conflicted := by
    refine iff_of_false nofun ?_
    rintro ⟨-, error | ⟨first, second, firstRecorded, secondRecorded, differ⟩⟩
    · exact clean ((errorRecorded_record input).mp error)
    · simp only [valueRecorded_record, unwritten, false_or] at firstRecorded secondRecorded
      rw [← firstRecorded.2, ← secondRecorded.2, sameValue_refl _ distinct] at differ
      cases differ

theorem tells_recorded {cell : Cell} (told : cell.Tells writes key) (wellNamed : WellNamed writes)
    {entry : EvidenceEntry} (stored : entry.value = input.value)
    (distinct : HasDistinctNames input.value) (named : input.key = key) :
    (EvidenceLedger.recordedCell (some cell) entry).Tells (writes ++ [.record input]) key where
  held := by
    intro other held
    obtain rfl := Option.some.inj held
    simp [stored, named]
  unheld := nofun
  errored := nofun
  conflicted := by
    have recorded : ∃ value, ValueRecorded (writes ++ [.record input]) key value :=
      ⟨input.value, by simp [named]⟩
    simp only [EvidenceLedger.recordedCell, Bool.or_eq_true, Contradicted, recorded, true_and,
      errorRecorded_record, told.conflicted, stored]
    cases held : cell.entry with
    | none =>
        -- Only an error leaves a cell without an entry.
        obtain ⟨errored, -⟩ := told.unheld held
        simp [errored, told.errored errored]
    | some before =>
        have old := told.held before held
        have known : ∃ value, ValueRecorded writes key value := ⟨before.value, old⟩
        have error : cell.errored = true → ErrorRecorded writes key := told.errored
        rw [disagreement_record wellNamed distinct named old]
        simp only [known, true_and, Bool.not_eq_true']
        tauto

theorem tells_erroredFirst (unwritten : ∀ value, ¬ValueRecorded writes key value)
    (reason : JsString) :
    (EvidenceLedger.erroredCell none reason).Tells (writes ++ [.recordError key reason]) key where
  held := by simp [EvidenceLedger.erroredCell]
  unheld := by simp [EvidenceLedger.erroredCell, unwritten]
  errored := by simp
  conflicted := by simp [EvidenceLedger.erroredCell, Contradicted, unwritten]

theorem tells_errored {cell : Cell} (told : cell.Tells writes key) (reason : JsString) :
    (EvidenceLedger.erroredCell (some cell) reason).Tells
      (writes ++ [.recordError key reason]) key where
  held := by simpa [EvidenceLedger.erroredCell] using told.held
  unheld := by
    intro unheld
    simpa [EvidenceLedger.erroredCell] using (told.unheld unheld).2
  errored := by simp
  conflicted := by
    have conflicted := told.conflicted
    cases held : cell.entry with
    | none =>
        have unrecorded := (told.unheld held).2
        simp_all [EvidenceLedger.erroredCell, Contradicted]
    | some before =>
        have recorded : ∃ value, ValueRecorded writes key value := ⟨_, told.held before held⟩
        simp [EvidenceLedger.erroredCell, Contradicted, held, recorded]

end

/-- What the snapshot holds for a key tells which writes named the key. -/
def Told (cell : Option Cell) (writes : List LedgerWrite) (key : JsString) : Prop :=
  match cell with
  | none => (∀ value, ¬ValueRecorded writes key value) ∧ ¬ErrorRecorded writes key
  | some cell => cell.Tells writes key

section

variable {writes : List LedgerWrite} {key : JsString} {write : LedgerWrite}

theorem valueRecorded_frame (elsewhere : write.key ≠ key) (value : JsValue) :
    ValueRecorded (writes ++ [write]) key value ↔ ValueRecorded writes key value := by
  cases write with
  | record input => simp [show input.key ≠ key from elsewhere]
  | recordError errored reason => simp

theorem errorRecorded_frame (elsewhere : write.key ≠ key) :
    ErrorRecorded (writes ++ [write]) key ↔ ErrorRecorded writes key := by
  cases write with
  | record input => simp
  | recordError errored reason => simp [show errored ≠ key from elsewhere]

/-- A write to another key leaves what the cell tells. -/
theorem Told.frame {cell : Option Cell} (told : Told cell writes key)
    (elsewhere : write.key ≠ key) : Told cell (writes ++ [write]) key := by
  have values := @valueRecorded_frame writes key write elsewhere
  have errors := @errorRecorded_frame writes key write elsewhere
  cases cell with
  | none => exact ⟨fun value recorded => told.1 value ((values value).mp recorded),
      fun error => told.2 (errors.mp error)⟩
  | some cell =>
      constructor
      · simpa only [values] using told.held
      · simpa only [values] using told.unheld
      · simpa only [errors] using told.errored
      · simpa only [Contradicted, Disagreement, values, errors] using told.conflicted

theorem told_record {cell : Option Cell} (told : Told cell writes key)
    (wellNamed : WellNamed writes) {input : EvidenceEntryInput} {entry : EvidenceEntry}
    (stored : entry.value = input.value) (distinct : HasDistinctNames input.value)
    (named : input.key = key) :
    Told (some (EvidenceLedger.recordedCell cell entry)) (writes ++ [.record input]) key := by
  cases cell with
  | none => exact tells_first stored distinct named told.1 told.2
  | some cell => exact tells_recorded told wellNamed stored distinct named

theorem told_recordError {cell : Option Cell} (told : Told cell writes key) (reason : JsString) :
    Told (some (EvidenceLedger.erroredCell cell reason)) (writes ++ [.recordError key reason])
      key := by
  cases cell with
  | none => exact tells_erroredFirst told.1 reason
  | some cell => exact tells_errored told reason

/-- A deriver replaces trust labels only. -/
theorem normalizeEvidenceEntry_derived (ledger : EvidenceLedger) (input : EvidenceEntryInput) :
    (normalizeEvidenceEntry (ledger.derived input)).key = input.key ∧
      (normalizeEvidenceEntry (ledger.derived input)).value = input.value := by
  unfold EvidenceLedger.derived normalizeEvidenceEntry
  cases ledger.deriver with
  | none => exact ⟨rfl, rfl⟩
  | some derive => by_cases unnamed : input.sourceOfRecord.isUndefined = true <;> simp [unnamed]

theorem told_apply {ledger : EvidenceLedger} (told : Told (ledger.cells key) writes key)
    (wellNamed : WellNamed (writes ++ [write])) :
    Told ((ledger.apply write).cells key) (writes ++ [write]) key := by
  by_cases elsewhere : write.key = key
  · subst elsewhere
    cases write with
    | record input =>
        obtain ⟨sameKey, sameValue⟩ := normalizeEvidenceEntry_derived ledger input
        have earlier : WellNamed writes := fun other inside =>
          wellNamed other (List.mem_append_left _ inside)
        simp only [EvidenceLedger.apply, EvidenceLedger.record, sameKey, LedgerWrite.key,
          Function.update_self]
        exact told_record told earlier sameValue (wellNamed input (by simp)) rfl
    | recordError errored reason =>
        simp only [EvidenceLedger.apply, EvidenceLedger.recordError, LedgerWrite.key,
          Function.update_self]
        exact told_recordError told reason
  · have untouched : (ledger.apply write).cells key = ledger.cells key := by
      cases write with
      | record input =>
          have other : key ≠ (normalizeEvidenceEntry (ledger.derived input)).key :=
            (normalizeEvidenceEntry_derived ledger input).1 ▸ Ne.symm elsewhere
          exact Function.update_of_ne other _ _
      | recordError errored reason => exact Function.update_of_ne (Ne.symm elsewhere) _ _
    rw [untouched]
    exact told.frame elsewhere

end

section

variable (snapshotId : JsString) (deriver : Option (JsValue → JsValue × JsValue))

theorem applyAll_append (ledger : EvidenceLedger) (writes : List LedgerWrite)
    (write : LedgerWrite) :
    ledger.applyAll (writes ++ [write]) = (ledger.applyAll writes).apply write := by
  simp [EvidenceLedger.applyAll]

theorem told_applyAll {writes : List LedgerWrite} (wellNamed : WellNamed writes)
    (key : JsString) :
    Told (((EvidenceLedger.empty snapshotId deriver).applyAll writes).cells key) writes key := by
  induction writes using List.reverseRecOn with
  | nil => exact ⟨by simp, by simp⟩
  | append_singleton writes write ih =>
      rw [applyAll_append]
      refine told_apply (ih ?_) wellNamed
      exact fun input inside => wellNamed input (List.mem_append_left _ inside)

theorem version_applyAll (writes : List LedgerWrite) :
    ((EvidenceLedger.empty snapshotId deriver).applyAll writes).version = writes.length := by
  induction writes using List.reverseRecOn with
  | nil => rfl
  | append_singleton writes write ih =>
      rw [applyAll_append, List.length_append]
      cases write <;> simp [EvidenceLedger.apply, EvidenceLedger.record,
        EvidenceLedger.recordError, ih]

end

open Classical in
/-- The state that the writes to a key mean, without regard to their order. -/
noncomputable def meaning (writes : List LedgerWrite) (key : JsString) : ResolutionState :=
  if ∀ write ∈ writes, write.key ≠ key then .absent
  else if ∀ value, ¬ValueRecorded writes key value then .error
  else if ¬ErrorRecorded writes key ∧ ∀ first second, ValueRecorded writes key first →
      ValueRecorded writes key second → sameValue first second = true then .present
  else .conflict

open Classical in
theorem meaning_perm {writes permuted : List LedgerWrite} (perm : writes.Perm permuted)
    (key : JsString) : meaning permuted key = meaning writes key := by
  unfold meaning
  refine if_congr ?_ rfl (if_congr ?_ rfl (if_congr ?_ rfl rfl))
  · simp only [perm.mem_iff]
  · simp only [valueRecorded_perm perm]
  · simp only [valueRecorded_perm perm, errorRecorded_perm perm]

theorem untouched_iff {writes : List LedgerWrite} {key : JsString} :
    (∀ write ∈ writes, write.key ≠ key) ↔
      (∀ value, ¬ValueRecorded writes key value) ∧ ¬ErrorRecorded writes key := by
  constructor
  · intro untouched
    refine ⟨?_, ?_⟩
    · rintro value ⟨input, inside, named, -⟩
      exact untouched _ inside named
    · rintro ⟨reason, inside⟩
      exact untouched _ inside rfl
  · rintro ⟨unread, clean⟩ write inside rfl
    cases write with
    | record input => exact unread input.value ⟨input, inside, rfl, rfl⟩
    | recordError errored reason => exact clean ⟨reason, inside⟩

/-- A cell resolves to what the writes mean. -/
theorem resolveCell_state {cell : Option Cell} {writes : List LedgerWrite} {key : JsString}
    (told : Told cell writes key) :
    (EvidenceLedger.resolveCell cell).state = meaning writes key := by
  cases cell with
  | none =>
      rw [meaning, if_pos (untouched_iff.mpr told)]
      rfl
  | some cell =>
      cases held : cell.entry with
      | none =>
          obtain ⟨errored, unread⟩ := told.unheld held
          have quiet : cell.conflicted = false := by
            simpa [Contradicted, unread] using told.conflicted
          have touched : ¬∀ write ∈ writes, write.key ≠ key := by
            rw [untouched_iff]
            exact fun untouched => untouched.2 (told.errored errored)
          rw [meaning, if_neg touched, if_pos unread]
          simp [EvidenceLedger.resolveCell, quiet, errored, EvidenceResolution.state]
      | some entry =>
          have recorded := told.held entry held
          have touched : ¬∀ write ∈ writes, write.key ≠ key := by
            rw [untouched_iff]
            exact fun untouched => untouched.1 _ recorded
          have read : ¬∀ value, ¬ValueRecorded writes key value := fun unread => unread _ recorded
          rw [meaning, if_neg touched, if_neg read]
          cases conflicted : cell.conflicted with
          | true =>
              obtain ⟨-, error | ⟨first, second, firstRecorded, secondRecorded, differ⟩⟩ :=
                told.conflicted.mp conflicted
              · rw [if_neg fun clean => clean.1 error]
                simp [EvidenceLedger.resolveCell, conflicted, EvidenceResolution.state]
              · rw [if_neg fun clean => by
                  simp [clean.2 first second firstRecorded secondRecorded] at differ]
                simp [EvidenceLedger.resolveCell, conflicted, EvidenceResolution.state]
          | false =>
              have quiet : ¬Contradicted writes key := by
                rw [← told.conflicted, conflicted]
                simp
              have clean : ¬ErrorRecorded writes key := fun error =>
                quiet ⟨⟨_, recorded⟩, .inl error⟩
              have calm : cell.errored = false := by
                simpa using mt told.errored clean
              rw [if_pos ⟨clean, fun first second firstRecorded secondRecorded => by
                by_contra differ
                exact quiet ⟨⟨_, recorded⟩,
                  .inr ⟨first, second, firstRecorded, secondRecorded, by simpa using differ⟩⟩⟩]
              simp [EvidenceLedger.resolveCell, conflicted, calm, held, EvidenceResolution.state]

/-- Over JSON values the state of a key is what the writes mean in any order. -/
theorem resolve_orderIndependent (snapshotId : JsString)
    (deriver : Option (JsValue → JsValue × JsValue)) (writes : List LedgerWrite)
    (json : ∀ input, .record input ∈ writes → input.value.IsJson) (key : JsString) :
    (((EvidenceLedger.empty snapshotId deriver).applyAll writes).resolve key).state =
        meaning writes key ∧
      (∀ permuted, writes.Perm permuted →
        (((EvidenceLedger.empty snapshotId deriver).applyAll permuted).resolve key).state =
          (((EvidenceLedger.empty snapshotId deriver).applyAll writes).resolve key).state) ∧
      ((((EvidenceLedger.empty snapshotId deriver).applyAll writes).resolve key).state ≠ .present →
        (((EvidenceLedger.empty snapshotId deriver).applyAll writes).resolve key).entry = none) ∧
      ((EvidenceLedger.empty snapshotId deriver).applyAll writes).version = writes.length := by
  have state {order : List LedgerWrite} (perm : writes.Perm order) :
      (((EvidenceLedger.empty snapshotId deriver).applyAll order).resolve key).state =
        meaning writes key := by
    have wellNamed : WellNamed order := fun input inside =>
      hasDistinctNames_of_isJson _ (json input (perm.mem_iff.mpr inside))
    rw [← meaning_perm perm]
    exact resolveCell_state (told_applyAll snapshotId deriver wellNamed key)
  refine ⟨state (List.Perm.refl _), ?_, ?_, version_applyAll snapshotId deriver writes⟩
  · intro permuted perm
    rw [state perm, state (List.Perm.refl _)]
  · intro hidden
    cases resolved : ((EvidenceLedger.empty snapshotId deriver).applyAll writes).resolve key with
    | present entry =>
        rw [resolved] at hidden
        exact absurd rfl hidden
    | absent | error | conflict => rfl

/-- An error between two equal values leaves a conflict in every order. -/
def interruptedRead : List LedgerWrite :=
  [.record ⟨[0], .arr [.str [1]], [], 0, .undefined, .undefined, .undefined, none, .undefined⟩,
    .recordError [0] [],
    .record ⟨[0], .arr [.str [1]], [], 0, .undefined, .undefined, .undefined, none, .undefined⟩]

theorem resolve_orderIndependent_interrupted :
    (((EvidenceLedger.empty [] none).applyAll interruptedRead).resolve [0]).state =
      meaning interruptedRead [0] :=
  (resolve_orderIndependent [] none interruptedRead (by
    intro input inside
    simp only [interruptedRead, List.mem_cons, LedgerWrite.record.injEq, List.not_mem_nil,
      or_false, reduceCtorEq, false_or] at inside
    obtain rfl | rfl := inside <;> simp [JsValue.IsJson]) [0]).1

end Adjudicate.Claims
