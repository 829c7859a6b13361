/-
This file models the verification of audit records.
-/

import Adjudicate.Audit.Record
import Adjudicate.Canonical.Reload

namespace Adjudicate.Audit

open Js Canonical Adjudicate.Core

inductive AuditRecordVerification where
  | verified
  | tampered (derived : JsString) (stored : JsValue)
  | envelopeIntentMismatch (derived : JsString) (stored : JsValue)
  | invalidSignature (keyId alg : JsValue)
  | missingHash

/-- The comparison runs over the full length and fails for anything but two texts. -/
def timingSafeHexEqual : JsValue → JsValue → Bool
  | .str left, .str right =>
      if left.length ≠ right.length then false
      else ((left.zip right).foldl
        (fun mismatch pair => mismatch ||| (pair.1.val ^^^ pair.2.val)) 0) == 0
  | _, _ => false

/-- Reading a property of `undefined` or `null` throws. -/
def readProp (value : JsValue) (key : JsString) : Except Thrown JsValue :=
  match value with
  | .undefined => .error (.error "TypeError"
      (utf16 "Cannot read properties of undefined (reading '" ++ key ++ utf16 "')"))
  | .null => .error (.error "TypeError"
      (utf16 "Cannot read properties of null (reading '" ++ key ++ utf16 "')"))
  | value => .ok (value.getOwn key)

/-- A reloaded object is read like the object itself. -/
theorem readProp_reload {props : Props JsValue} (distinct : (keys props).Nodup) (key : JsString) :
    readProp (reload (.obj props)) key = .ok (reload ((JsValue.obj props).getOwn key)) := by
  rw [← getOwn_reload distinct, reload_obj distinct]
  rfl

/-- A property that is there can be read. -/
theorem readProp_of_present {value : JsValue} {key : JsString}
    (present : value.getOwn key ≠ .undefined) : readProp value key = .ok (value.getOwn key) := by
  cases value with
  | undefined => exact (present rfl).elim
  | null => exact (present rfl).elim
  | _ => rfl

theorem readProp_eq_ok {value found : JsValue} {key : JsString}
    (read : readProp value key = .ok found) : found = value.getOwn key := by
  cases value with
  | undefined => cases read
  | null => cases read
  | _ =>
      cases read
      rfl

/-- This is `intentHashInput` on a stored envelope. -/
def storedHashInput (envelope : JsValue) : JsValue :=
  .obj [("version", envelope.getOwn "version"),
    ("kind", envelope.getOwn "kind"),
    ("payload", envelope.getOwn "payload"),
    ("nonce", envelope.getOwn "nonce"),
    ("actor", envelope.getOwn "actor"),
    ("taint", envelope.getOwn "taint"),
    ("origin", envelope.getOwn "origin"),
    ("resourceRefs", envelope.getOwn "resourceRefs")]

def isNullish : JsValue → Bool
  | .undefined => true
  | .null => true
  | _ => false

/-- The envelope check is skipped for a record without an envelope. -/
def envelopeMismatch (host : Host) (envelope : JsValue) :
    Except Thrown (Option AuditRecordVerification) := do
  if isNullish envelope then return none
  let derivedIntent ← sha256Canonical host (storedHashInput envelope)
  let stored := envelope.getOwn "intentHash"
  if timingSafeHexEqual (.str derivedIntent) stored then return none
  return some (.envelopeIntentMismatch derivedIntent stored)

/-- The verifier strips these fields before it derives the hash again. -/
def strippedFields : List JsString := ["auditHash", "signature", "metadata", "prevAuditHash"]

def strip (record : Props JsValue) : Props JsValue :=
  (enumerate record).filter fun property => property.1 ∉ strippedFields

/-- The property of a record, which may be absent. -/
def field (record : Props JsValue) (name : JsString) : JsValue := (JsValue.obj record).getOwn name

/-- This is `===` between a stored value and a text. -/
def isText (value : JsValue) (text : JsString) : Bool :=
  match value with
  | .str other => other == text
  | _ => false

/-- A hash-bind signature is checked here; any other one only by the supplied verifier. -/
def signatureMismatch (host : Host)
    (verifySignature : Option (JsValue → JsValue → Except Thrown Bool)) (stored sig : JsValue) :
    Except Thrown (Option AuditRecordVerification) := do
  if sig.isUndefined then return none
  let alg ← readProp sig "alg"
  let keyId := sig.getOwn "keyId"
  let invalid := some (AuditRecordVerification.invalidSignature keyId alg)
  if isText alg auditHashbindAlg then
    let expected ← hashBindValue host stored keyId
    return if timingSafeHexEqual (sig.getOwn "value") (.str expected) then none else invalid
  match verifySignature with
  | some verify => return if ← verify stored sig then none else invalid
  | none => return none

/-- This is `verifyAuditRecord` on the own properties of a record. -/
def verifyAuditRecord (host : Host)
    (verifySignature : Option (JsValue → JsValue → Except Thrown Bool)) (record : Props JsValue) :
    Except Thrown AuditRecordVerification := do
  if let some mismatch ← envelopeMismatch host (field record "envelope") then return mismatch
  let stored := field record "auditHash"
  if stored.isUndefined then return .missingHash
  let derived ← sha256Canonical host (.obj (strip record))
  if !timingSafeHexEqual (.str derived) stored then return .tampered derived stored
  if let some mismatch ← signatureMismatch host verifySignature stored (field record "signature")
    then return mismatch
  return .verified

/-- This is `attachAuditMetadata` on the own properties of a record. -/
def attachAuditMetadata (record metadata : Props JsValue) : Props JsValue :=
  setOwn (spreadInto [] record) "metadata"
    (.obj (spreadInto (spreadInto [] (field record "metadata").ownProps) metadata))

theorem timingSafeHexEqual_iff (left right : JsString) :
    timingSafeHexEqual (.str left) (.str right) = true ↔ left = right := by
  have loop (pairs : List (CodeUnit × CodeUnit)) (mismatch : Nat) :
      pairs.foldl (fun mismatch pair => mismatch ||| (pair.1.val ^^^ pair.2.val)) mismatch = 0 ↔
        mismatch = 0 ∧ ∀ pair ∈ pairs, pair.1 = pair.2 := by
    induction pairs generalizing mismatch with
    | nil => simp
    | cons pair pairs ih =>
        rw [List.foldl_cons, ih, Nat.or_eq_zero_iff, Nat.xor_eq_zero_iff, ← Fin.ext_iff,
          List.forall_mem_cons, and_assoc]
  rw [timingSafeHexEqual]
  split
  · next different =>
      refine iff_of_false Bool.false_ne_true fun same => different ?_
      rw [same]
  · next length =>
      rw [beq_iff_eq, loop]
      simp only [true_and]
      constructor
      · intro pointwise
        apply List.ext_getElem (not_not.mp length)
        intro index leftBound rightBound
        have bound : index < (left.zip right).length := by
          rw [List.length_zip]
          omega
        have inside := List.getElem_mem bound
        rw [List.getElem_zip] at inside
        exact pointwise _ inside
      · rintro rfl pair inside
        obtain ⟨index, bound, rfl⟩ := List.getElem_of_mem inside
        simp

end Adjudicate.Audit
