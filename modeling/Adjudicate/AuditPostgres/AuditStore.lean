/-
This file models the audit store over a table of rows, with its filters and cursors.
-/

import Adjudicate.AuditPostgres.RowReader
import Adjudicate.Js.Base64
import Adjudicate.Paging.Keyset

namespace Adjudicate.AuditPostgres

open Js Canonical Adjudicate.Core Audit Paging

structure CursorPayload where
  «at» : JsString
  hash : JsString

def CursorPayload.toJs (payload : CursorPayload) : JsValue :=
  .obj [("at", .str payload.at), ("hash", .str payload.hash)]

def encodeCursor (payload : CursorPayload) : JsString :=
  base64Text (utf8Bytes (payload.toJs.stringify.getD []))

/-- What throws on the way gives no cursor. -/
def decodeCursor (text : JsString) : Option CursorPayload :=
  match JsValue.parse (utf8Text (base64Bytes text)) with
  | none => none
  | some payload =>
      match payload.getOwn "at", payload.getOwn "hash" with
      | .str instant, .str hash => some { «at» := instant, hash }
      | _, _ => none

structure AuditQuery where
  intentKind : Option JsString
  decisionKind : Option JsString
  refusalCode : Option JsString
  taint : Option JsString
  intentHash : Option JsString
  since : Option JsString
  «until» : Option JsString
  limit : Nat
  cursor : Option JsString

inductive TextColumn where
  | kind
  | decisionKind
  | refusalCode
  | taint
  | intentHash

/-- A clause names the placeholder of its parameter. -/
inductive Clause where
  | equals (column : TextColumn) (placeholder : Nat)
  | recordedSince (placeholder : Nat)
  | recordedUntil (placeholder : Nat)
  | before (instant hash : Nat)

def Clause.placeholders : Clause → List Nat
  | .equals _ placeholder => [placeholder]
  | .recordedSince placeholder => [placeholder]
  | .recordedUntil placeholder => [placeholder]
  | .before instant hash => [instant, hash]

/-- The parameters are texts but for the limit. -/
inductive SqlParam where
  | text (value : JsString)
  | count (value : Nat)

structure SqlFragment where
  clauses : List Clause
  params : List SqlParam
  i : Nat

/-- A provided filter adds a clause and its parameter. -/
def SqlFragment.add (fragment : SqlFragment) (clause : Nat → Clause) (value : Option JsString) :
    SqlFragment :=
  match value with
  | none => fragment
  | some value =>
      { clauses := fragment.clauses ++ [clause fragment.i]
        params := fragment.params ++ [.text value]
        i := fragment.i + 1 }

def buildWhereClauses (q : AuditQuery) : SqlFragment :=
  let empty : SqlFragment := { clauses := [], params := [], i := 1 }
  ((((((empty.add (.equals .kind) q.intentKind).add (.equals .decisionKind) q.decisionKind).add
    (.equals .refusalCode) q.refusalCode).add (.equals .taint) q.taint).add
    (.equals .intentHash) q.intentHash).add .recordedSince q.since).add .recordedUntil q.until

def invalidCursorError : Thrown :=
  .error "InvalidCursorError" "Cursor is malformed or has been tampered with."

/-- An empty cursor counts as none. -/
def readCursor (q : AuditQuery) : Except Thrown (Option CursorPayload) :=
  match q.cursor with
  | none => .ok none
  | some text =>
      if text = [] then .ok none
      else match decodeCursor text with
        | some payload => .ok (some payload)
        | none => .error invalidCursorError

structure Statement where
  clauses : List Clause
  limit : Nat
  params : List SqlParam

/-- One row more than the limit shows whether there is a next page. -/
def auditStatement (q : AuditQuery) : Except Thrown Statement := do
  let fragment := buildWhereClauses q
  let i := fragment.params.length + 1
  match ← readCursor q with
  | some cursor =>
      return { clauses := fragment.clauses ++ [.before i (i + 1)], limit := i + 2
               params := fragment.params ++ [.text cursor.at, .text cursor.hash] ++
                 [.count (q.limit + 1)] }
  | none =>
      return { clauses := fragment.clauses, limit := i
               params := fragment.params ++ [.count (q.limit + 1)] }

section Database

variable {T H : Type} [LinearOrder T] [LinearOrder H] (instantOf : JsString → Option T)
  (collate : JsString → H)

/-- A row of the table, whose text of `recorded_at` denotes an instant. -/
structure TableRow where
  row : IntentAuditRow
  moment : T
  denotes : instantOf row.recordedAt = some moment

variable {instantOf}

def TextColumn.read (column : TextColumn) (row : IntentAuditRow) : Option JsString :=
  match column with
  | .kind => some row.kind
  | .decisionKind => some row.decisionKind
  | .refusalCode => row.refusalCode
  | .taint => some row.taint
  | .intentHash => some row.intentHash

/-- The rows are ordered by `recorded_at`, then by `intent_hash`. -/
def TableRow.key (row : TableRow instantOf) : T ×ₗ H := toLex (row.moment, collate row.row.intentHash)

def missingParam (placeholder : Nat) : Thrown :=
  .error "error" (utf16 "there is no parameter $" ++ digitsText placeholder)

def textParam (params : List SqlParam) (placeholder : Nat) : Except Thrown JsString :=
  match params[placeholder - 1]? with
  | some (.text value) => .ok value
  | _ => .error (missingParam placeholder)

def countParam (params : List SqlParam) (placeholder : Nat) : Except Thrown Nat :=
  match params[placeholder - 1]? with
  | some (.count value) => .ok value
  | _ => .error (missingParam placeholder)

variable (instantOf)

/-- A text is cast to an instant before it is compared with one. -/
def castInstant (value : JsString) : Except Thrown T :=
  match instantOf value with
  | some moment => .ok moment
  | none => .error (.error "error"
      (utf16 "invalid input syntax for type timestamp with time zone: \"" ++ value ++ utf16 "\""))

variable {instantOf}

/-- A comparison with `NULL` holds for no row. -/
def Clause.condition (params : List SqlParam) : Clause → Except Thrown (TableRow instantOf → Bool)
  | .equals column placeholder => do
      let value ← textParam params placeholder
      return fun row => column.read row.row = some value
  | .recordedSince placeholder => do
      let moment ← castInstant instantOf (← textParam params placeholder)
      return fun row => moment ≤ row.moment
  | .recordedUntil placeholder => do
      let moment ← castInstant instantOf (← textParam params placeholder)
      return fun row => row.moment ≤ moment
  | .before instant hash => do
      let moment ← castInstant instantOf (← textParam params instant)
      let hash ← textParam params hash
      return fun row => row.key collate < toLex (moment, collate hash)

/-- This is `SELECT ... WHERE ... ORDER BY recorded_at DESC, intent_hash DESC LIMIT ...`. -/
def Statement.run (table : List (TableRow instantOf)) (statement : Statement) :
    Except Thrown (List (TableRow instantOf)) := do
  let conditions ← statement.clauses.mapM fun clause => clause.condition collate statement.params
  let limit ← countParam statement.params statement.limit
  return (descending (TableRow.key collate)
    (table.filter fun row => conditions.all fun condition => condition row)).take limit

structure AuditQueryResult where
  records : List (Props JsValue)
  verifications : List AuditRecordVerification
  nextCursor : Option JsString

def TableRow.payload (row : TableRow instantOf) : CursorPayload :=
  { «at» := row.row.recordedAt, hash := row.row.intentHash }

/-- The cursor marks the last row of the page. -/
def query (host : Host) (table : List (TableRow instantOf)) (q : AuditQuery) :
    Except Thrown AuditQueryResult := do
  let rows ← (← auditStatement q).run collate table
  let hasMore := q.limit < rows.length
  let slice := if hasMore then rows.take q.limit else rows
  let records ← slice.mapM fun row => rowToRecord row.row
  let verifications ← records.mapM fun record => verifyAuditRecord host none record
  return { records, verifications
           nextCursor := if hasMore then slice.getLast?.map fun row => encodeCursor row.payload
             else none }

end Database

section Cursor

/-- Every cursor is read back. -/
theorem decodeCursor_encodeCursor (payload : CursorPayload) :
    decodeCursor (encodeCursor payload) = some payload := by
  have distinct : (keys [(utf16 "at", JsValue.str payload.at), ("hash", .str payload.hash)]).Nodup := by
    simp [keys]
  rw [decodeCursor, encodeCursor, base64Bytes_base64Text,
    utf8Text_utf8Bytes (stringify_isWellFormed _), parse_stringify rfl]
  dsimp only
  rw [CursorPayload.toJs, getOwn_reload distinct, getOwn_reload distinct]
  change (match reload (.str payload.at), reload (.str payload.hash) with
    | .str instant, .str hash => some { «at» := instant, hash }
    | _, _ => none) = some payload
  rw [reload_str, reload_str]

theorem encodeCursor_nonempty (payload : CursorPayload) : encodeCursor payload ≠ [] := by
  intro empty
  have read := decodeCursor_encodeCursor payload
  have nothing : decodeCursor [] = none := by decide +kernel
  rw [empty, nothing] at read
  cases read

end Cursor

section Placeholders

/-- The parameters are numbered in the order of their placeholders. -/
structure SqlFragment.Numbered (fragment : SqlFragment) : Prop where
  counter : fragment.i = fragment.params.length + 1
  placeholders : fragment.clauses.flatMap Clause.placeholders = List.range' 1 fragment.params.length

theorem numbered_add {fragment : SqlFragment} (numbered : fragment.Numbered) {clause : Nat → Clause}
    (single : ∀ placeholder, (clause placeholder).placeholders = [placeholder])
    (value : Option JsString) : (fragment.add clause value).Numbered := by
  cases value with
  | none => exact numbered
  | some value =>
      refine ⟨?_, ?_⟩
      · simp [SqlFragment.add, numbered.counter]
      · simp [SqlFragment.add, numbered.counter, numbered.placeholders, single, List.range'_concat]
        omega

theorem numbered_buildWhereClauses (q : AuditQuery) : (buildWhereClauses q).Numbered := by
  have empty : SqlFragment.Numbered { clauses := [], params := [], i := 1 } := ⟨rfl, rfl⟩
  unfold buildWhereClauses
  iterate 7 refine numbered_add ?_ (fun _ => rfl) _
  exact empty

/-- The placeholders of the clauses and of the limit number all the parameters in their order. -/
theorem auditStatement_placeholders {q : AuditQuery} {statement : Statement}
    (built : auditStatement q = .ok statement) :
    statement.clauses.flatMap Clause.placeholders ++ [statement.limit] =
      List.range' 1 statement.params.length := by
  have numbered := numbered_buildWhereClauses q
  obtain ⟨cursor, -, returned⟩ := bind_eq_ok.mp built
  cases cursor with
  | none =>
      cases returned
      simp [numbered.placeholders, List.range'_concat]
      omega
  | some cursor =>
      cases returned
      simp [numbered.placeholders, Clause.placeholders, List.range'_concat]
      omega

end Placeholders

end Adjudicate.AuditPostgres
