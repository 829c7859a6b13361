/-
This file models the in-memory store of remediation proposals.
-/

import Adjudicate.Js.Number
import Adjudicate.Js.Property
import Adjudicate.Js.Text

namespace Adjudicate.Adjutant

open Js

inductive RemediationDisposition where
  | safe
  | review
  | manual
deriving DecidableEq

inductive RemediationProposalStatus where
  | executed
  | pendingReview
  | pendingEscalation
  | declined
  | refused
  | deferred
deriving DecidableEq

/-- The envelopes and the instants are those of the caller. -/
structure RemediationProposal (E T : Type) where
  proposalId : JsString
  incidentId : JsString
  action : JsString
  blastRadius : JsNumber
  disposition : RemediationDisposition
  status : RemediationProposalStatus
  approvalToken : Option JsString
  intentHash : Option JsString
  envelope : Option E
  createdAt : T
  updatedAt : T

structure ProposalFilter where
  incidentId : Option JsString
  status : Option RemediationProposalStatus

/-- The map keeps the order of insertion. -/
abbrev ProposalMap (E T : Type) : Type := Props (RemediationProposal E T)

namespace ProposalMap

variable {E T : Type} (byId : ProposalMap E T)

/-- A proposal that is put again moves to the end. -/
def put (proposal : RemediationProposal E T) : ProposalMap E T :=
  deleteOwn byId proposal.proposalId ++ [(proposal.proposalId, proposal)]

def get (proposalId : JsString) : Option (RemediationProposal E T) := byId.lookup proposalId

def getByToken (token : JsString) : Option (RemediationProposal E T) :=
  (byId.find? fun entry => entry.2.approvalToken = some token).map Prod.snd

def list (filter : ProposalFilter) : List (RemediationProposal E T) :=
  ((byId.map Prod.snd).filter fun proposal =>
    (∀ incidentId ∈ filter.incidentId, proposal.incidentId = incidentId) ∧
      ∀ status ∈ filter.status, proposal.status = status).reverse

def markResolved (proposalId : JsString) (status : RemediationProposalStatus) (instant : T) :
    ProposalMap E T :=
  match byId.lookup proposalId with
  | none => byId
  | some prev =>
      deleteOwn byId proposalId ++ [(proposalId, { prev with status, updatedAt := instant })]

variable {byId}

theorem lookup_moved (proposalId : JsString) (proposal : RemediationProposal E T) (id : JsString) :
    (deleteOwn byId proposalId ++ [(proposalId, proposal)]).lookup id =
      if id = proposalId then some proposal else byId.lookup id := by
  rw [List.lookup_append, lookup_deleteOwn, lookup_cons_if, List.lookup_nil]
  split
  · rfl
  · exact Option.or_none

theorem get_put (proposal : RemediationProposal E T) (id : JsString) :
    (byId.put proposal).get id = if id = proposal.proposalId then some proposal else byId.get id :=
  lookup_moved proposal.proposalId proposal id

theorem get_markResolved (proposalId : JsString) (status : RemediationProposalStatus) (instant : T)
    (id : JsString) : (byId.markResolved proposalId status instant).get id =
      if id = proposalId then
        (byId.get id).map fun prev => { prev with status, updatedAt := instant }
      else byId.get id := by
  unfold markResolved
  by_cases same : id = proposalId
  · subst same
    rw [if_pos rfl, get, get]
    cases found : byId.lookup id with
    | none => exact found
    | some prev =>
        dsimp only
        rw [lookup_moved, if_pos rfl]
        rfl
  · rw [if_neg same, get, get]
    cases byId.lookup proposalId with
    | none => rfl
    | some prev =>
        dsimp only
        rw [lookup_moved, if_neg same]

theorem moved_nodup (distinct : (keys byId).Nodup) (proposalId : JsString)
    (proposal : RemediationProposal E T) :
    (keys (deleteOwn byId proposalId ++ [(proposalId, proposal)])).Nodup := by
  rw [keys, List.map_append, List.nodup_append]
  refine ⟨distinct.sublist (List.filter_sublist.map _), List.nodup_singleton _, ?_⟩
  intro first firstIn second secondIn same
  obtain ⟨entry, entryIn, rfl⟩ := List.mem_map.mp firstIn
  obtain rfl : second = proposalId := List.mem_singleton.mp secondIn
  exact of_decide_eq_true (List.mem_filter.mp entryIn).2 same

theorem put_nodup (distinct : (keys byId).Nodup) (proposal : RemediationProposal E T) :
    (keys (byId.put proposal)).Nodup := moved_nodup distinct _ _

theorem markResolved_nodup (distinct : (keys byId).Nodup) (proposalId : JsString)
    (status : RemediationProposalStatus) (instant : T) :
    (keys (byId.markResolved proposalId status instant)).Nodup := by
  unfold markResolved
  split
  · exact distinct
  · exact moved_nodup distinct _ _

end ProposalMap

end Adjudicate.Adjutant
