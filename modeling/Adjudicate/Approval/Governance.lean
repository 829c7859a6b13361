/-
This file models approval requests, their registry projection and the quorum over their votes.
-/

import Adjudicate.Core.Taint
import Adjudicate.Js.Value

namespace Adjudicate.Approval

open Js Adjudicate.Core

inductive ApprovalStatus where
  | pending
  | approved
  | declined
  | expired
deriving DecidableEq

def ApprovalStatus.text : ApprovalStatus → JsString
  | .pending => "pending"
  | .approved => "approved"
  | .declined => "declined"
  | .expired => "expired"

structure Identity where
  id : JsString
  displayName : Option JsString
deriving DecidableEq

structure Vote where
  id : JsString
  «at» : JsString
  displayName : Option JsString
deriving DecidableEq

/-- The fields that no resolution reads or writes are left out. -/
structure ApprovalRequest where
  token : JsString
  sessionId : JsString
  intentHash : JsString
  intentKind : JsString
  prompt : JsString
  taint : Taint
  channel : JsString
  requestedBy : Option Identity
  status : ApprovalStatus
  resolvedAt : Option JsString
  resolvedBy : Option Identity
  approvals : Option (List Vote)
deriving DecidableEq

structure QuorumPolicy where
  minApprovals : Nat
  distinctApprovers : Option Bool
deriving DecidableEq

/-- Only an explicit `false` counts raw votes. -/
def QuorumPolicy.distinct (policy : QuorumPolicy) : Bool := policy.distinctApprovers != some false

/-- A vote of the proposer does not count. -/
def eligible (list : List Vote) (proposerId : Option JsString) : List Vote :=
  match proposerId with
  | none => list
  | some proposerId => list.filter (·.id ≠ proposerId)

def quorumMet (approvals : Option (List Vote)) (policy : QuorumPolicy)
    (proposerId : Option JsString) : Bool :=
  let eligible := eligible (approvals.getD []) proposerId
  let count := if policy.distinct then (eligible.map (·.id)).dedup.length else eligible.length
  policy.minApprovals ≤ count

structure Attestation where
  approverId : JsString
  signature : JsString
deriving DecidableEq

/-- This is what an attestation verifier is asked about. -/
structure AttestationClaim where
  approverId : JsString
  token : JsString
  accepted : Bool
  intentHash : JsString
  signature : JsString
deriving DecidableEq

/-- A met quorum names enough eligible approvers, each once if only distinct ones count. -/
theorem quorumMet_approvers {approvals : Option (List Vote)} {policy : QuorumPolicy}
    {proposerId : Option JsString} (met : quorumMet approvals policy proposerId = true) :
    ∃ ids : List JsString, policy.minApprovals ≤ ids.length ∧
      (policy.distinct = true → ids.Nodup) ∧
      ∀ id ∈ ids, proposerId ≠ some id ∧ ∃ vote ∈ approvals.getD [], vote.id = id := by
  have source (id : JsString) (counted : id ∈ (eligible (approvals.getD []) proposerId).map (·.id)) :
      proposerId ≠ some id ∧ ∃ vote ∈ approvals.getD [], vote.id = id := by
    obtain ⟨vote, member, rfl⟩ := List.mem_map.mp counted
    cases proposerId with
    | none => exact ⟨nofun, vote, member, rfl⟩
    | some proposerId =>
        obtain ⟨cast, different⟩ := List.mem_filter.mp member
        refine ⟨?_, vote, cast, rfl⟩
        rintro ⟨⟩
        simp at different
  rw [quorumMet, decide_eq_true_iff] at met
  by_cases distinct : policy.distinct = true
  · rw [if_pos distinct] at met
    refine ⟨_, met, fun _ => List.nodup_dedup _, fun id member => source id ?_⟩
    exact List.mem_dedup.mp member
  · rw [if_neg distinct] at met
    refine ⟨(eligible (approvals.getD []) proposerId).map (·.id), ?_, ?_, source⟩
    · rw [List.length_map]
      exact met
    · exact fun only => absurd only distinct

end Adjudicate.Approval
