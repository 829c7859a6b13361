/-
This file proves that the pages of the audit store list the filtered rows once each.
-/

import Adjudicate.AuditPostgres.AuditStore

namespace Adjudicate.AuditPostgres

open Js Canonical Adjudicate.Core Audit Paging

variable {T H : Type} [LinearOrder T] [LinearOrder H] {instantOf : JsString → Option T}
  {collate : JsString → H}

/-- The row passes the filters of the query. -/
def AuditQuery.Admits (q : AuditQuery) (row : TableRow instantOf) : Prop :=
  (∀ kind ∈ q.intentKind, row.row.kind = kind) ∧
    (∀ kind ∈ q.decisionKind, row.row.decisionKind = kind) ∧
    (∀ code ∈ q.refusalCode, row.row.refusalCode = some code) ∧
    (∀ taint ∈ q.taint, row.row.taint = taint) ∧
    (∀ hash ∈ q.intentHash, row.row.intentHash = hash) ∧
    (∀ since ∈ q.since, ∀ moment ∈ instantOf since, moment ≤ row.moment) ∧
    ∀ «until» ∈ q.until, ∀ moment ∈ instantOf «until», row.moment ≤ moment

instance (q : AuditQuery) (row : TableRow instantOf) : Decidable (q.Admits row) := by
  unfold AuditQuery.Admits
  infer_instance

/-- The window of the query denotes instants. -/
structure AuditQuery.Dated (instantOf : JsString → Option T) (q : AuditQuery) : Prop where
  since : ∀ since ∈ q.since, ∃ moment, instantOf since = some moment
  «until» : ∀ «until» ∈ q.until, ∃ moment, instantOf «until» = some moment

section Meaning

/-- With the parameters and any later ones, the clauses hold for exactly the rows with the
property. -/
structure SqlFragment.Means (collate : JsString → H) (fragment : SqlFragment)
    (holds : TableRow instantOf → Prop) : Prop where
  counter : fragment.i = fragment.params.length + 1
  conditions : ∀ params, fragment.params <+: params → ∃ conditions,
    fragment.clauses.mapM (fun clause => clause.condition collate params) = .ok conditions ∧
      ∀ row, (conditions.all fun condition => condition row) = true ↔ holds row

/-- The clause says this of a row and its parameter. -/
def ClauseMeans (collate : JsString → H) (clause : Nat → Clause)
    (meaning : JsString → TableRow instantOf → Prop) (value : JsString) : Prop :=
  ∀ params placeholder, textParam params placeholder = .ok value →
    ∃ condition, (clause placeholder).condition collate params = .ok condition ∧
      ∀ row, condition row = true ↔ meaning value row

theorem textParam_append (front rest : List SqlParam) (value : JsString) :
    textParam (front ++ .text value :: rest) (front.length + 1) = .ok value := by
  rw [textParam, Nat.add_sub_cancel, List.getElem?_append_right le_rfl, Nat.sub_self]
  rfl

theorem mapM_append_one {A B : Type} {f : A → Except Thrown B} {items : List A} {item : A}
    {values : List B} {value : B} (first : items.mapM f = .ok values) (last : f item = .ok value) :
    (items ++ [item]).mapM f = .ok (values ++ [value]) := by
  rw [List.mapM_append, first, List.mapM_cons, List.mapM_nil, last]
  rfl

theorem means_append {fragment : SqlFragment} {holds : TableRow instantOf → Prop} {clause : Clause}
    {meaning : TableRow instantOf → Prop} {params : List SqlParam}
    (means : fragment.Means collate holds) (prefixed : fragment.params <+: params)
    (adds : ∃ condition, clause.condition collate params = .ok condition ∧
      ∀ row, condition row = true ↔ meaning row) :
    ∃ conditions,
      (fragment.clauses ++ [clause]).mapM (fun clause => clause.condition collate params) =
        .ok conditions ∧
      ∀ row, (conditions.all fun condition => condition row) = true ↔ holds row ∧ meaning row := by
  obtain ⟨conditions, run, same⟩ := means.conditions params prefixed
  obtain ⟨condition, compiled, last⟩ := adds
  refine ⟨conditions ++ [condition], mapM_append_one run compiled, fun row => ?_⟩
  rw [List.all_append, Bool.and_eq_true, same row, List.all_cons, List.all_nil, Bool.and_true,
    last row]

theorem means_add {fragment : SqlFragment} {holds : TableRow instantOf → Prop}
    {clause : Nat → Clause} {meaning : JsString → TableRow instantOf → Prop} {value : Option JsString}
    (means : fragment.Means collate holds)
    (adds : ∀ text ∈ value, ClauseMeans collate clause meaning text) :
    (fragment.add clause value).Means collate fun row => holds row ∧ ∀ text ∈ value, meaning text row := by
  cases value with
  | none =>
      refine ⟨means.counter, fun params prefixed => ?_⟩
      obtain ⟨conditions, run, same⟩ := means.conditions params prefixed
      exact ⟨conditions, run, fun row => by simp [same]⟩
  | some text =>
      refine ⟨?_, fun params prefixed => ?_⟩
      · simp [SqlFragment.add, means.counter]
      · obtain ⟨rest, rfl⟩ := prefixed
        have found : textParam ((fragment.add clause (some text)).params ++ rest) fragment.i =
            .ok text := by
          rw [means.counter, SqlFragment.add, List.append_assoc]
          exact textParam_append fragment.params rest text
        have within : fragment.params <+: (fragment.add clause (some text)).params ++ rest := by
          rw [SqlFragment.add, List.append_assoc]
          exact List.prefix_append _ _
        obtain ⟨conditions, run, same⟩ := means_append means within (adds text rfl _ _ found)
        exact ⟨conditions, run, fun row => (same row).trans (by simp)⟩

theorem equals_means (column : TextColumn) (value : JsString) :
    ClauseMeans collate (.equals column)
      (fun value (row : TableRow instantOf) => column.read row.row = some value) value := by
  intro params placeholder found
  refine ⟨fun row => column.read row.row = some value, ?_, fun row => decide_eq_true_iff⟩
  rw [Clause.condition, found]
  rfl

theorem since_means {value : JsString} (dated : ∃ moment, instantOf value = some moment) :
    ClauseMeans collate .recordedSince
      (fun value (row : TableRow instantOf) => ∀ moment ∈ instantOf value, moment ≤ row.moment)
      value := by
  intro params placeholder found
  obtain ⟨moment, denotes⟩ := dated
  refine ⟨fun row => moment ≤ row.moment, ?_, fun row => ?_⟩
  · rw [Clause.condition, found, ok_bind, castInstant, denotes]
    rfl
  · simp [denotes]

theorem until_means {value : JsString} (dated : ∃ moment, instantOf value = some moment) :
    ClauseMeans collate .recordedUntil
      (fun value (row : TableRow instantOf) => ∀ moment ∈ instantOf value, row.moment ≤ moment)
      value := by
  intro params placeholder found
  obtain ⟨moment, denotes⟩ := dated
  refine ⟨fun row => row.moment ≤ moment, ?_, fun row => ?_⟩
  · rw [Clause.condition, found, ok_bind, castInstant, denotes]
    rfl
  · simp [denotes]

/-- The clauses of a query hold for the rows that it admits. -/
theorem buildWhereClauses_means {q : AuditQuery} (dated : q.Dated instantOf) :
    (buildWhereClauses q).Means collate fun row : TableRow instantOf => q.Admits row := by
  have empty : SqlFragment.Means collate { clauses := [], params := [], i := 1 }
      fun _ : TableRow instantOf => True := ⟨rfl, fun _ _ => ⟨[], rfl, fun _ => iff_of_true rfl trivial⟩⟩
  have whole := means_add (means_add (means_add (means_add (means_add (means_add (means_add empty
    fun value (_ : value ∈ q.intentKind) => equals_means .kind value)
    fun value (_ : value ∈ q.decisionKind) => equals_means .decisionKind value)
    fun value (_ : value ∈ q.refusalCode) => equals_means .refusalCode value)
    fun value (_ : value ∈ q.taint) => equals_means .taint value)
    fun value (_ : value ∈ q.intentHash) => equals_means .intentHash value)
    fun value inside => since_means (dated.since value inside))
    fun value inside => until_means (dated.until value inside)
  refine ⟨whole.counter, fun params prefixed => ?_⟩
  obtain ⟨conditions, run, same⟩ := whole.conditions params prefixed
  refine ⟨conditions, run, fun row => (same row).trans ?_⟩
  simp only [TextColumn.read, Option.some.injEq, true_and, and_assoc, AuditQuery.Admits]

end Meaning

section Query

variable {host : Host} {table : List (TableRow instantOf)} {q : AuditQuery}

/-- The cursor that the store reads from the query marks a row, if there is one. -/
def Marks (q : AuditQuery) (mark : Option (TableRow instantOf)) : Prop :=
  readCursor q = .ok (mark.map TableRow.payload)

theorem countParam_append (front : List SqlParam) (count : Nat) :
    countParam (front ++ [.count count]) (front.length + 1) = .ok count := by
  rw [countParam, Nat.add_sub_cancel, List.getElem?_append_right le_rfl, Nat.sub_self]
  rfl

/-- A statement returns the first rows with the property of its clauses. -/
theorem statement_run {statement : Statement} {holds : TableRow instantOf → Prop}
    [DecidablePred holds] {count : Nat}
    (compiled : ∃ conditions,
      statement.clauses.mapM (fun clause => clause.condition collate statement.params) =
        .ok conditions ∧
      ∀ row, (conditions.all fun condition => condition row) = true ↔ holds row)
    (limit : countParam statement.params statement.limit = .ok count) :
    statement.run collate table =
      .ok ((descending (TableRow.key collate) (table.filter fun row => holds row)).take count) := by
  obtain ⟨conditions, run, same⟩ := compiled
  have rows : (table.filter fun row => conditions.all fun condition => condition row) =
      table.filter fun row => holds row := by
    refine List.filter_congr fun row _ => ?_
    rw [Bool.eq_iff_iff, decide_eq_true_iff]
    exact same row
  rw [Statement.run, run, ok_bind, limit, ok_bind, rows]
  rfl

/-- The row comparison of the cursor holds below the marked row. -/
theorem before_means {params : List SqlParam} {mark : TableRow instantOf} {instant hash : Nat}
    (first : textParam params instant = .ok mark.row.recordedAt)
    (second : textParam params hash = .ok mark.row.intentHash) :
    ∃ condition, (Clause.before instant hash).condition collate params = .ok condition ∧
      ∀ row : TableRow instantOf, condition row = true ↔ row.key collate < mark.key collate := by
  refine ⟨fun row => row.key collate < mark.key collate, ?_, fun row => decide_eq_true_iff⟩
  rw [Clause.condition, first, ok_bind, castInstant, mark.denotes, ok_bind, second]
  rfl

/-- The statement of a query selects the admitted rows below its mark. -/
theorem auditStatement_run (collate : JsString → H) (table : List (TableRow instantOf))
    {mark : Option (TableRow instantOf)} (dated : q.Dated instantOf) (marks : Marks q mark) :
    ∃ statement, auditStatement q = .ok statement ∧ statement.run collate table =
      .ok (select (TableRow.key collate) (table.filter fun row => q.Admits row) mark (q.limit + 1)) := by
  have means : (buildWhereClauses q).Means collate fun row : TableRow instantOf => q.Admits row :=
    buildWhereClauses_means dated
  rw [auditStatement, marks]
  cases mark with
  | none =>
      refine ⟨_, rfl, ?_⟩
      rw [statement_run (means.conditions _ (List.prefix_append _ _)) (countParam_append _ _), select,
        below_none]
  | some mark =>
      let i := (buildWhereClauses q).params.length + 1
      let params := (buildWhereClauses q).params ++ .text mark.row.recordedAt ::
        [.text mark.row.intentHash, .count (q.limit + 1)]
      refine ⟨{ clauses := (buildWhereClauses q).clauses ++ [.before i (i + 1)], limit := i + 2, params },
        congrArg Except.ok (by simp [i, params, TableRow.payload]), ?_⟩
      have first : textParam params i = .ok mark.row.recordedAt := textParam_append _ _ _
      have second : textParam params (i + 1) = .ok mark.row.intentHash := by
        have found := textParam_append ((buildWhereClauses q).params ++ [.text mark.row.recordedAt])
          [.count (q.limit + 1)] mark.row.intentHash
        simpa [i, params] using found
      have third : countParam params (i + 2) = .ok (q.limit + 1) := by
        have found := countParam_append ((buildWhereClauses q).params ++
          [.text mark.row.recordedAt, .text mark.row.intentHash]) (q.limit + 1)
        simpa [i, params] using found
      rw [statement_run (means_append means (List.prefix_append _ _) (before_means first second)) third,
        select, below, List.filter_filter]
      simp [Bool.and_comm]

/-- The row is read as a record that has a verdict. -/
def Readable (host : Host) (row : TableRow instantOf) : Prop :=
  ∃ record verdict, rowToRecord row.row = .ok record ∧
    verifyAuditRecord host none record = .ok verdict

def TableRow.record (row : TableRow instantOf) : Props JsValue :=
  (rowToRecord row.row).toOption.getD []

def TableRow.verdict (host : Host) (row : TableRow instantOf) : AuditRecordVerification :=
  (verifyAuditRecord host none row.record).toOption.getD .missingHash

def TableRow.mark (row : TableRow instantOf) : JsString := encodeCursor row.payload

/-- This is the answer of the store for a page of rows. -/
def answer (host : Host) (page : Page (TableRow instantOf)) : AuditQueryResult where
  records := page.rows.map TableRow.record
  verifications := page.rows.map (TableRow.verdict host)
  nextCursor := page.next.map TableRow.mark

theorem mapM_eq_ok {A B : Type} {f : A → Except Thrown B} {g : A → B} {items : List A}
    (each : ∀ item ∈ items, f item = .ok (g item)) : items.mapM f = .ok (items.map g) := by
  induction items with
  | nil => rfl
  | cons item items ih =>
      obtain ⟨first, rest⟩ := List.forall_mem_cons.mp each
      rw [List.mapM_cons, first, ok_bind, ih rest]
      rfl

omit [LinearOrder T] in
theorem rowToRecord_readable {row : TableRow instantOf} (readable : Readable host row) :
    rowToRecord row.row = .ok row.record ∧
      verifyAuditRecord host none row.record = .ok (row.verdict host) := by
  obtain ⟨record, verdict, read, verified⟩ := readable
  have same : row.record = record := by
    rw [TableRow.record, read]
    rfl
  refine ⟨same ▸ read, ?_⟩
  rw [TableRow.verdict, same, verified]
  rfl

omit [LinearOrder T] in
theorem readRows {rows : List (TableRow instantOf)} (readable : ∀ row ∈ rows, Readable host row) :
    (rows.mapM fun row => rowToRecord row.row) = .ok (rows.map TableRow.record) ∧
      (rows.map TableRow.record).mapM (fun record => verifyAuditRecord host none record) =
        .ok (rows.map (TableRow.verdict host)) := by
  refine ⟨mapM_eq_ok fun row inside => (rowToRecord_readable (readable row inside)).1, ?_⟩
  rw [List.mapM_map]
  exact mapM_eq_ok fun row inside => (rowToRecord_readable (readable row inside)).2

/-- The store answers a query with the page of the admitted rows after its mark. -/
theorem query_eq {mark : Option (TableRow instantOf)} (dated : q.Dated instantOf)
    (marks : Marks q mark) (readable : ∀ row ∈ table, Readable host row) :
    query collate host table q = .ok (answer host
      (page (TableRow.key collate) (table.filter fun row => q.Admits row) q.limit mark)) := by
  obtain ⟨statement, built, run⟩ := auditStatement_run collate table dated marks
  rw [query, built, ok_bind, run, ok_bind, page]
  have inside : ∀ row ∈ select (TableRow.key collate) (table.filter fun row => q.Admits row) mark
      (q.limit + 1), Readable host row := by
    intro row member
    apply readable
    have found := (descending_perm _).subset (List.mem_of_mem_take member)
    exact List.mem_of_mem_filter (List.mem_of_mem_filter found)
  generalize select (TableRow.key collate) (table.filter fun row => q.Admits row) mark
    (q.limit + 1) = rows at inside
  by_cases more : q.limit < rows.length
  · obtain ⟨read, verified⟩ := readRows fun row member => inside row (List.mem_of_mem_take member)
    simp only [more, if_true]
    rw [read, ok_bind, verified]
    rfl
  · obtain ⟨read, verified⟩ := readRows inside
    simp only [more, if_false]
    rw [read, ok_bind, verified]
    rfl

/-- The verdicts belong to the records of the page. -/
theorem query_aligned {result : AuditQueryResult} (answered : query collate host table q = .ok result) :
    result.records.mapM (fun record => verifyAuditRecord host none record) =
      .ok result.verifications := by
  obtain ⟨statement, -, run⟩ := bind_eq_ok.mp answered
  obtain ⟨rows, -, run⟩ := bind_eq_ok.mp run
  obtain ⟨records, -, run⟩ := bind_eq_ok.mp run
  obtain ⟨verifications, verified, returned⟩ := bind_eq_ok.mp run
  cases returned
  exact verified

end Query

section Paging

variable {host : Host} {tables : Nat → List (TableRow instantOf)} {q : AuditQuery}

omit [LinearOrder T] in
theorem marks_cursor (mark : Option (TableRow instantOf)) :
    Marks { q with cursor := mark.map TableRow.mark } mark := by
  cases mark with
  | none => rfl
  | some row =>
      have read : decodeCursor row.mark = some row.payload := decodeCursor_encodeCursor _
      have kept : row.mark ≠ [] := encodeCursor_nonempty _
      change readCursor { q with cursor := some row.mark } = .ok (some row.payload)
      rw [readCursor]
      simp only [if_neg kept, read]

/-- The filters keep newer rows newer. -/
theorem settled_filter (newer : ∀ fetched, ∃ inserted,
      (tables fetched).Perm (inserted ++ tables 0) ∧
      ∀ row ∈ inserted, ∀ old ∈ tables 0, old.key collate < row.key collate) :
    Settled (TableRow.key collate) (fun fetched => (tables fetched).filter fun row => q.Admits row)
      ((tables 0).filter fun row => q.Admits row) := by
  refine settled_of_newer (List.Perm.refl _) fun fetched => ?_
  obtain ⟨inserted, perm, above⟩ := newer fetched
  refine ⟨inserted.filter fun row => q.Admits row, ?_, ?_⟩
  · rw [← List.filter_append]
    exact perm.filter _
  · intro row inside old member
    exact above row (List.mem_of_mem_filter inside) old (List.mem_of_mem_filter member)

end Paging

section Sample

/-- The sample rows carry one instant. -/
def auditedInstantOf (text : JsString) : Option Nat :=
  if text = auditedInstant then some 1767225600005 else none

/-- The driver returns the sample records as they were stored. -/
theorem auditedRow_readable {origin : Origin} {intentHash envelopeClock : JsString}
    {input : BuildEnvelopeInput} (built : buildEnvelope replayHost envelopeClock input =
      .ok (auditedEnvelope origin intentHash)) :
    ∃ row : TableRow auditedInstantOf, row.row.intentHash = intentHash ∧ Readable replayHost row := by
  have json := auditedInput_isJson origin intentHash none
  obtain ⟨record, stored, recorded, whole⟩ := @buildAuditRecord_sealed replayHost [] _ _
    (auditedInput (auditedEnvelope origin intentHash) none) built json nofun
  obtain ⟨written, mapped, instant, hash⟩ := recordToRow_audited recorded
  have shaped : RowShaped record := rowShaped_built json nofun recorded
  obtain ⟨read, returned, -, resealed⟩ :=
    rowToRecord_sealed whole shaped mapped (rowFetched_text mapped)
  exact ⟨{ row := { written with durationMs := written.durationMs.unsigned }
           moment := 1767225600005
           denotes := if_pos instant }, hash, read, .verified, returned, resealed.verified none⟩

def unfiltered (limit : Nat) : AuditQuery where
  intentKind := none
  decisionKind := none
  refusalCode := none
  taint := none
  intentHash := none
  since := none
  «until» := none
  limit := limit
  cursor := none

end Sample

end Adjudicate.AuditPostgres
