/-
This file models the evidence ledger, the snapshot of what one turn has read.
-/

import Adjudicate.Claims.ValueEquality
import Mathlib.Logic.Function.Basic

namespace Adjudicate.Claims

open Js

inductive LedgerTaint where
  | trusted
  | untrustedData
deriving DecidableEq

inductive OriginProvenance where
  | firstParty
  | trustedThirdParty
  | untrustedData
deriving DecidableEq

inductive SourceMode where
  | live
  | cache
deriving DecidableEq

structure PerEnvelopeResult where
  envelopeId : JsString
  success : Bool
  settled : Option Bool

structure EvidenceEntry where
  key : JsString
  value : JsValue
  source : JsString
  fetchedAt : JsNumber
  sourceMode : SourceMode
  taint : LedgerTaint
  originProvenance : OriginProvenance
  dispatch : Option (List PerEnvelopeResult)

/-- A writer may hand over any value as a label. -/
structure EvidenceEntryInput where
  key : JsString
  value : JsValue
  source : JsString
  fetchedAt : JsNumber
  sourceMode : JsValue
  taint : JsValue
  originProvenance : JsValue
  dispatch : Option (List PerEnvelopeResult)
  sourceOfRecord : JsValue

/-- A label is read as a member of its vocabulary or not at all. -/
def asLedgerTaint : JsValue → Option LedgerTaint
  | .str text =>
      if text = utf16 "TRUSTED" then some .trusted
      else if text = utf16 "UNTRUSTED_DATA" then some .untrustedData
      else none
  | _ => none

def asOriginProvenance : JsValue → Option OriginProvenance
  | .str text =>
      if text = utf16 "FIRST_PARTY" then some .firstParty
      else if text = utf16 "TRUSTED_THIRD_PARTY" then some .trustedThirdParty
      else if text = utf16 "UNTRUSTED_DATA" then some .untrustedData
      else none
  | _ => none

def asSourceMode : JsValue → Option SourceMode
  | .str text =>
      if text = utf16 "live" then some .live
      else if text = utf16 "cache" then some .cache
      else none
  | _ => none

/-- A label outside its vocabulary becomes the least trusted one. -/
def normalizeEvidenceEntry (input : EvidenceEntryInput) : EvidenceEntry where
  key := input.key
  value := input.value
  source := input.source
  fetchedAt := input.fetchedAt
  sourceMode := (asSourceMode input.sourceMode).getD .cache
  taint := (asLedgerTaint input.taint).getD .untrustedData
  originProvenance := (asOriginProvenance input.originProvenance).getD .untrustedData
  dispatch := input.dispatch

/-- What the snapshot holds for a key; a cell exists once the key was written. -/
structure Cell where
  entry : Option EvidenceEntry
  errored : Bool
  errorReason : Option JsString
  conflicted : Bool
  writeCount : Nat

/-- A deriver replaces the trust labels of a write that names its source of record. -/
structure EvidenceLedger where
  snapshotId : JsString
  deriver : Option (JsValue → JsValue × JsValue)
  version : Nat
  cells : JsString → Option Cell

def EvidenceLedger.empty (snapshotId : JsString) (deriver : Option (JsValue → JsValue × JsValue)) :
    EvidenceLedger := ⟨snapshotId, deriver, 0, fun _ => none⟩

namespace EvidenceLedger

def derived (ledger : EvidenceLedger) (input : EvidenceEntryInput) : EvidenceEntryInput :=
  match ledger.deriver with
  | none => input
  | some derive =>
      if input.sourceOfRecord.isUndefined then input
      else
        { input with
          taint := (derive input.sourceOfRecord).1
          originProvenance := (derive input.sourceOfRecord).2 }

/-- The last write stays in the cell, and a disagreement is remembered beside it. -/
def recordedCell (prior : Option Cell) (entry : EvidenceEntry) : Cell :=
  match prior with
  | none => ⟨some entry, false, none, false, 1⟩
  | some cell =>
      let disagrees :=
        match cell.entry with
        | some before => !sameValue before.value entry.value
        | none => false
      ⟨some entry, false, none, cell.conflicted || cell.errored || disagrees, cell.writeCount + 1⟩

def record (ledger : EvidenceLedger) (input : EvidenceEntryInput) : EvidenceLedger :=
  let entry := normalizeEvidenceEntry (ledger.derived input)
  { ledger with
    version := ledger.version + 1
    cells := Function.update ledger.cells entry.key
      (some (recordedCell (ledger.cells entry.key) entry)) }

def erroredCell (prior : Option Cell) (reason : JsString) : Cell :=
  match prior with
  | none => ⟨none, true, some reason, false, 0⟩
  | some cell =>
      { cell with
        errored := true
        errorReason := some reason
        conflicted := cell.conflicted || cell.entry.isSome }

def recordError (ledger : EvidenceLedger) (key reason : JsString) : EvidenceLedger :=
  { ledger with
    version := ledger.version + 1
    cells := Function.update ledger.cells key (some (erroredCell (ledger.cells key) reason)) }

end EvidenceLedger

/-- Only a present key shows its entry. -/
inductive EvidenceResolution where
  | present (entry : EvidenceEntry)
  | absent
  | error
  | conflict

namespace EvidenceLedger

def resolveCell : Option Cell → EvidenceResolution
  | none => .absent
  | some cell =>
      if cell.conflicted then .conflict
      else if cell.errored then .error
      else
        match cell.entry with
        | some entry => .present entry
        | none => .absent

def resolve (ledger : EvidenceLedger) (key : JsString) : EvidenceResolution :=
  resolveCell (ledger.cells key)

def isAbsent (ledger : EvidenceLedger) (key : JsString) : Bool :=
  match ledger.resolve key with
  | .absent => true
  | _ => false

/-- A falsifier that is not provably absent takes a present key down to a conflict. -/
def resolveAgainstFalsifiers (ledger : EvidenceLedger) (key : JsString)
    (falsifierKeys : List JsString) : EvidenceResolution :=
  match ledger.resolve key with
  | .present entry =>
      if falsifierKeys.any fun falsifier => !ledger.isAbsent falsifier then .conflict
      else .present entry
  | base => base

theorem isAbsent_iff {ledger : EvidenceLedger} {key : JsString} :
    ledger.isAbsent key = true ↔ ledger.resolve key = .absent := by
  unfold isAbsent
  cases ledger.resolve key <;> simp

theorem resolve_present_iff {ledger : EvidenceLedger} {key : JsString} {entry : EvidenceEntry} :
    ledger.resolve key = .present entry ↔
      ∃ cell, ledger.cells key = some cell ∧ cell.conflicted = false ∧ cell.errored = false ∧
        cell.entry = some entry := by
  unfold resolve resolveCell
  cases ledger.cells key with
  | none => simp
  | some cell =>
      cases conflicted : cell.conflicted <;> cases errored : cell.errored <;>
        cases held : cell.entry <;> simp [conflicted, errored, held]

/-- The falsifiers of a present key conflict with it unless all of them are absent. -/
theorem resolveAgainstFalsifiers_conflict {ledger : EvidenceLedger} {key : JsString}
    {entry : EvidenceEntry} (present : ledger.resolve key = .present entry)
    (falsifierKeys : List JsString) :
    ledger.resolveAgainstFalsifiers key falsifierKeys = .conflict ↔
      ¬∀ falsifier ∈ falsifierKeys, ledger.resolve falsifier = .absent := by
  unfold resolveAgainstFalsifiers
  simp only [present]
  split
  · rename_i fired
    refine iff_of_true rfl ?_
    simpa [← isAbsent_iff] using fired
  · rename_i silent
    refine iff_of_false nofun ?_
    simpa [← isAbsent_iff] using silent

end EvidenceLedger

end Adjudicate.Claims
