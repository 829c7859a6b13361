/-
This file models the durable store of remediation proposals with its statements.
-/

import Adjudicate.Adjutant.ProposalStore
import Adjudicate.Canonical.Reload
import Adjudicate.Js.Sorting

namespace Adjudicate.Adjutant

open Js Canonical

/-- The instants are in the order of their canonical texts. -/
structure ProposalRow (T : Type) where
  proposalId : JsString
  incidentId : JsString
  action : JsString
  blastRadius : JsNumber
  disposition : RemediationDisposition
  status : RemediationProposalStatus
  approvalToken : Option JsString
  intentHash : Option JsString
  envelopeJsonb : Option JsValue
  createdAt : T
  updatedAt : T

/-- A stored envelope is an object. -/
abbrev StoredProposal (T : Type) : Type := RemediationProposal JsValue T

section

variable {T : Type}

def rowToProposal (row : ProposalRow T) : StoredProposal T where
  proposalId := row.proposalId
  incidentId := row.incidentId
  action := row.action
  blastRadius := row.blastRadius
  disposition := row.disposition
  status := row.status
  approvalToken := row.approvalToken
  intentHash := row.intentHash
  envelope := row.envelopeJsonb
  createdAt := row.createdAt
  updatedAt := row.updatedAt

/-- An integer column has no negative zero, and the envelope is stored as its JSON text. -/
def insertedRow (proposal : StoredProposal T) : ProposalRow T where
  proposalId := proposal.proposalId
  incidentId := proposal.incidentId
  action := proposal.action
  blastRadius := proposal.blastRadius.unsigned
  disposition := proposal.disposition
  status := proposal.status
  approvalToken := proposal.approvalToken
  intentHash := proposal.intentHash
  envelopeJsonb := proposal.envelope.map reload
  createdAt := proposal.createdAt
  updatedAt := proposal.updatedAt

/-- This is the copy of a proposal that a row gives back. -/
def copied (proposal : StoredProposal T) : StoredProposal T := rowToProposal (insertedRow proposal)

inductive Statement (T : Type) where
  | insert (row : ProposalRow T)
  | update (proposalId : JsString) (status : RemediationProposalStatus) (updatedAt : T)

/-- A conflict overwrites every column but the creation instant. -/
def ProposalRow.onConflict (existing : Option (ProposalRow T)) (row : ProposalRow T) :
    ProposalRow T :=
  match existing with
  | some existing => { row with createdAt := existing.createdAt }
  | none => row

namespace Statement

def proposalId : Statement T → JsString
  | insert row => row.proposalId
  | update proposalId _ _ => proposalId

def stamp : Statement T → T
  | insert row => row.updatedAt
  | update _ _ updatedAt => updatedAt

def status : Statement T → RemediationProposalStatus
  | insert row => row.status
  | update _ status _ => status

def inserted : Statement T → Option (ProposalRow T)
  | insert row => some row
  | update _ _ _ => none

/-- An update without its row has no effect. -/
def apply (table : Props (ProposalRow T)) : Statement T → Props (ProposalRow T)
  | insert row => setOwn table row.proposalId (row.onConflict (table.lookup row.proposalId))
  | update proposalId status updatedAt =>
      match table.lookup proposalId with
      | some existing => setOwn table proposalId { existing with status, updatedAt }
      | none => table

end Statement

def applyAll (statements : List (Statement T)) : Props (ProposalRow T) :=
  statements.foldl Statement.apply []

inductive StoreCall (T : Type) where
  | put (proposal : StoredProposal T)
  | markResolved (proposalId : JsString) (status : RemediationProposalStatus) (instant : T)

/-- Every call stamps the proposal it changes. -/
def StoreCall.stamp : StoreCall T → T
  | put proposal => proposal.updatedAt
  | markResolved _ _ instant => instant

/-- This is the call on the in-memory store. -/
def StoreCall.perform (byId : ProposalMap JsValue T) : StoreCall T → ProposalMap JsValue T
  | put proposal => byId.put proposal
  | markResolved proposalId status instant => byId.markResolved proposalId status instant

def memory (calls : List (StoreCall T)) : ProposalMap JsValue T :=
  calls.foldl StoreCall.perform []

/-- The cache of the durable store with the statements that its writes have fired. -/
structure WriteThrough (T : Type) where
  byId : ProposalMap JsValue T
  fired : List (Statement T)

def WriteThrough.perform (store : WriteThrough T) : StoreCall T → WriteThrough T
  | .put proposal =>
      ⟨store.byId.put proposal, store.fired ++ [.insert (insertedRow proposal)]⟩
  | .markResolved proposalId status instant =>
      match store.byId.lookup proposalId with
      | none => store
      | some _ =>
          ⟨store.byId.markResolved proposalId status instant,
            store.fired ++ [.update proposalId status instant]⟩

def writeThrough (calls : List (StoreCall T)) : WriteThrough T :=
  calls.foldl WriteThrough.perform ⟨[], []⟩

/-- This is the cache after `init`, which loads the newest rows in the order of their update. -/
def restart [LinearOrder T] (capacity : Nat) (table : Props (ProposalRow T)) :
    ProposalMap JsValue T :=
  let newest := (sortBy (fun row => OrderDual.toDual row.updatedAt)
    (table.map Prod.snd)).take capacity
  defineAll ((sortBy ProposalRow.updatedAt newest).map fun row =>
    (row.proposalId, rowToProposal row))

/-- The left store answers every read with copies of what the right store answers. -/
structure SameReads (left right : ProposalMap JsValue T) : Prop where
  get : ∀ proposalId, left.get proposalId = (right.get proposalId).map copied
  getByToken : ∀ token, left.getByToken token = (right.getByToken token).map copied
  list : ∀ filter, left.list filter = (right.list filter).map copied

/-- These are the columns that neither a resolution nor a conflict treats apart. -/
def ProposalRow.content (row : ProposalRow T) : JsString × JsString × JsString × JsNumber ×
    RemediationDisposition × Option JsString × Option JsString × Option JsValue :=
  (row.proposalId, row.incidentId, row.action, row.blastRadius, row.disposition, row.approvalToken,
    row.intentHash, row.envelopeJsonb)

/-- These are the statements about one proposal. -/
def aboutProposal (proposalId : JsString) (statements : List (Statement T)) :
    List (Statement T) :=
  statements.filter (·.proposalId = proposalId)

/-- The last applied statement is the last fired one, the last applied insertion has the columns of
the last fired one, and the first applied insertion has its creation instant. -/
structure Settles (applied fired : List (Statement T)) : Prop where
  last : applied.getLast? = fired.getLast?
  content : (applied.filterMap Statement.inserted).getLast?.map ProposalRow.content =
    (fired.filterMap Statement.inserted).getLast?.map ProposalRow.content
  createdAt : (applied.filterMap Statement.inserted).head?.map ProposalRow.createdAt =
    (fired.filterMap Statement.inserted).getLast?.map ProposalRow.createdAt

end

section Rows

variable {T : Type}

/-- This is the effect of a statement on the row of its proposal, where `merge` says what becomes of
an inserted row. -/
def Statement.effect (merge : Option (ProposalRow T) → ProposalRow T → ProposalRow T)
    (row : Option (ProposalRow T)) : Statement T → Option (ProposalRow T)
  | insert next => some (merge row next)
  | update _ status updatedAt => row.map fun existing => { existing with status, updatedAt }

/-- This is the effect in the table. -/
abbrev Statement.store : Option (ProposalRow T) → Statement T → Option (ProposalRow T) :=
  effect fun existing row => row.onConflict existing

/-- This is the effect of the call behind a statement on the proposal in memory. -/
abbrev Statement.recall : Option (ProposalRow T) → Statement T → Option (ProposalRow T) :=
  effect fun _ row => row

theorem lookup_apply (table : Props (ProposalRow T)) (statement : Statement T) (id : JsString) :
    (statement.apply table).lookup id =
      if id = statement.proposalId then statement.store (table.lookup id) else table.lookup id := by
  by_cases same : id = statement.proposalId
  · subst same
    rw [if_pos rfl]
    cases statement with
    | insert row =>
        rw [Statement.apply, lookup_setOwn]
        exact if_pos rfl
    | update proposalId status updatedAt =>
        rw [Statement.apply, Statement.proposalId]
        cases found : table.lookup proposalId with
        | none => exact found
        | some existing =>
            dsimp only
            rw [lookup_setOwn]
            exact if_pos rfl
  · rw [if_neg same]
    cases statement with
    | insert row =>
        rw [Statement.apply, lookup_setOwn]
        exact if_neg same
    | update proposalId status updatedAt =>
        rw [Statement.apply]
        cases table.lookup proposalId with
        | none => rfl
        | some existing =>
            dsimp only
            rw [lookup_setOwn]
            exact if_neg same

/-- The row of a proposal depends on the statements about it only. -/
theorem lookup_applyAll (statements : List (Statement T)) (id : JsString) :
    (applyAll statements).lookup id =
      (aboutProposal id statements).foldl Statement.store none := by
  induction statements using List.reverseRecOn with
  | nil => rfl
  | append_singleton statements statement ih =>
      rw [applyAll, List.foldl_append, ← applyAll, List.foldl_cons, List.foldl_nil, lookup_apply, ih,
        aboutProposal, aboutProposal, List.filter_append, List.foldl_append]
      by_cases same : id = statement.proposalId
      · rw [if_pos same, List.filter_cons_of_pos (by simp [same])]
        rfl
      · have other : ¬statement.proposalId = id := fun equal => same equal.symm
        rw [if_neg same, List.filter_cons_of_neg (by simpa using other)]
        rfl

theorem apply_nodup {table : Props (ProposalRow T)} (distinct : (keys table).Nodup)
    (statement : Statement T) : (keys (statement.apply table)).Nodup := by
  cases statement with
  | insert row => exact setOwn_nodup distinct _ _
  | update proposalId status updatedAt =>
      rw [Statement.apply]
      cases table.lookup proposalId with
      | none => exact distinct
      | some existing => exact setOwn_nodup distinct _ _

theorem applyAll_nodup (statements : List (Statement T)) : (keys (applyAll statements)).Nodup := by
  induction statements using List.reverseRecOn with
  | nil => exact List.nodup_nil
  | append_singleton statements statement ih =>
      rw [applyAll, List.foldl_append, ← applyAll]
      exact apply_nodup ih statement

theorem inserted_concat (statements : List (Statement T)) (row : ProposalRow T) :
    (statements ++ [Statement.insert row]).filterMap Statement.inserted =
      statements.filterMap Statement.inserted ++ [row] := List.filterMap_append

theorem inserted_concat_update (statements : List (Statement T)) (proposalId : JsString)
    (status : RemediationProposalStatus) (updatedAt : T) :
    (statements ++ [Statement.update proposalId status updatedAt]).filterMap Statement.inserted =
      statements.filterMap Statement.inserted :=
  List.filterMap_append.trans (List.append_nil _)

/-- The merge changes at most the creation instant. -/
structure KeepsColumns (merge : Option (ProposalRow T) → ProposalRow T → ProposalRow T) : Prop where
  content : ∀ existing row, (merge existing row).content = row.content
  status : ∀ existing row, (merge existing row).status = row.status
  updatedAt : ∀ existing row, (merge existing row).updatedAt = row.updatedAt

theorem keepsColumns_onConflict :
    KeepsColumns fun existing (row : ProposalRow T) => row.onConflict existing where
  content existing row := by cases existing <;> rfl
  status existing row := by cases existing <;> rfl
  updatedAt existing row := by cases existing <;> rfl

theorem keepsColumns_newest : KeepsColumns fun _ (row : ProposalRow T) => row :=
  ⟨fun _ _ => rfl, fun _ _ => rfl, fun _ _ => rfl⟩

section Effects

variable {merge : Option (ProposalRow T) → ProposalRow T → ProposalRow T}
  (columns : KeepsColumns merge) (statements : List (Statement T))

include columns

/-- Only the last insertion decides the columns that no resolution changes. -/
theorem content_effects : (statements.foldl (Statement.effect merge) none).map ProposalRow.content =
    (statements.filterMap Statement.inserted).getLast?.map ProposalRow.content := by
  induction statements using List.reverseRecOn with
  | nil => rfl
  | append_singleton statements statement ih =>
      rw [List.foldl_append, List.foldl_cons, List.foldl_nil]
      cases statement with
      | insert next =>
          rw [inserted_concat, List.getLast?_concat]
          exact congrArg some (columns.content _ next)
      | update proposalId status updatedAt =>
          rw [inserted_concat_update, ← ih, Statement.effect, Option.map_map]
          rfl

/-- The last statement decides the status and the update instant. -/
theorem last_effects {row : ProposalRow T}
    (left : statements.foldl (Statement.effect merge) none = some row) :
    ∃ last, statements.getLast? = some last ∧ row.status = last.status ∧
      row.updatedAt = last.stamp := by
  induction statements using List.reverseRecOn with
  | nil => cases left
  | append_singleton statements statement =>
      refine ⟨statement, List.getLast?_concat, ?_⟩
      rw [List.foldl_append, List.foldl_cons, List.foldl_nil] at left
      cases statement with
      | insert next =>
          obtain rfl := Option.some.inj left
          exact ⟨columns.status _ next, columns.updatedAt _ next⟩
      | update proposalId status updatedAt =>
          obtain ⟨earlier, -, rfl⟩ := Option.map_eq_some_iff.mp left
          exact ⟨rfl, rfl⟩

end Effects

/-- The last insertion decides the creation instant in memory. -/
theorem createdAt_recall (statements : List (Statement T)) :
    (statements.foldl Statement.recall none).map ProposalRow.createdAt =
      (statements.filterMap Statement.inserted).getLast?.map ProposalRow.createdAt := by
  induction statements using List.reverseRecOn with
  | nil => rfl
  | append_singleton statements statement ih =>
      rw [List.foldl_append, List.foldl_cons, List.foldl_nil]
      cases statement with
      | insert next =>
          rw [inserted_concat, List.getLast?_concat]
          rfl
      | update proposalId status updatedAt =>
          rw [inserted_concat_update, ← ih, Statement.recall, Statement.effect, Option.map_map]
          rfl

/-- The first insertion decides the creation instant in the table. -/
theorem createdAt_store (statements : List (Statement T)) :
    (statements.foldl Statement.store none).map ProposalRow.createdAt =
      (statements.filterMap Statement.inserted).head?.map ProposalRow.createdAt := by
  induction statements using List.reverseRecOn with
  | nil => rfl
  | append_singleton statements statement ih =>
      rw [List.foldl_append, List.foldl_cons, List.foldl_nil]
      cases statement with
      | insert next =>
          rw [inserted_concat, List.head?_append]
          cases row : statements.foldl Statement.store none with
          | none =>
              rw [row] at ih
              rw [Option.map_eq_none_iff.mp ih.symm]
              rfl
          | some existing =>
              rw [row] at ih
              obtain ⟨first, found, same⟩ := Option.map_eq_some_iff.mp ih.symm
              rw [found]
              exact congrArg some same.symm
      | update proposalId status updatedAt =>
          rw [inserted_concat_update, ← ih, Statement.store, Statement.effect, Option.map_map]
          rfl

end Rows

end Adjudicate.Adjutant
