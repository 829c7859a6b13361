/-
This file shows that the record builder returns exactly when it can hash and sign its input.
-/

import Adjudicate.Audit.Record
import Adjudicate.Canonical.Finite

namespace Adjudicate.Audit

open Js Canonical Adjudicate.Core

/-- The input has no number that the encoder throws on. -/
structure BuildAuditInput.Finite (input : BuildAuditInput) : Prop where
  envelope : AllFinite input.envelope.toJs
  decision : AllFinite input.decision.toJs
  durationMs : input.durationMs.isFinite = true
  authoritySnapshot : ∀ recorded ∈ input.authoritySnapshot, AllFinite recorded.graph
  aggregateSnapshot : ∀ recorded ∈ input.aggregateSnapshot, AllFinite recorded.snapshot

theorem allFinite_texts (texts : List JsString) : AllFinite (.arr (texts.map .str)) := by
  rw [allFinite_arr]
  intro item inside
  obtain ⟨text, -, rfl⟩ := List.mem_map.mp inside
  trivial

theorem allFinite_plan (plan : AuditPlanSnapshot) : AllFinite plan.toJs := by
  rw [AuditPlanSnapshot.toJs, allFinite_obj]
  simp only [List.forall_mem_cons, List.not_mem_nil, false_implies, implies_true, and_true]
  exact ⟨allFinite_texts _, allFinite_texts _, trivial⟩

theorem allFinite_supersession (supersession : Supersession) : AllFinite supersession.toJs := by
  have bindingFinite (binding : SupersessionBinding) : AllFinite binding.toJs := by
    obtain ⟨capability, approver, channel⟩ := binding
    cases capability <;> cases approver <;> cases channel <;>
      simp [SupersessionBinding.toJs, optionalProp, AllFinite]
  obtain ⟨predecessorIntentHash, predecessorAt, reason, token, binding⟩ := supersession
  cases token <;> cases binding <;>
    simp [Supersession.toJs, optionalProp, AllFinite, bindingFinite]

/-- The basis is a part of every decision. -/
theorem allFinite_basis {decision : Decision} (finite : AllFinite decision.toJs) :
    AllFinite (.arr (decision.basis.map DecisionBasis.toJs)) := by
  cases decision <;> simp only [Decision.toJs, allFinite_obj] at finite <;>
    exact finite (utf16 "basis", _) (by simp [Decision.basis])

theorem allFinite_version : AllFinite (.num auditRecordVersion) := by
  change auditRecordVersion.isFinite = true
  decide +kernel

theorem allFinite_str (text : Option JsString) : ∀ inner ∈ text.map JsValue.str, AllFinite inner := by
  cases text <;> simp [AllFinite]

/-- Only what comes from outside can keep a record from being hashed. -/
theorem allFinite_baseRecord (input : BuildAuditInput) (clock : JsString)
    (plan : Option AuditPlanSnapshot) :
    AllFinite (.obj (input.baseRecord clock plan).props) ↔ input.Finite := by
  have links : ∀ inner ∈ input.supersedes.map Supersession.toJs, AllFinite inner := by
    cases input.supersedes <;> simp [allFinite_supersession]
  have plans : ∀ inner ∈ plan.map AuditPlanSnapshot.toJs, AllFinite inner := by
    cases plan <;> simp [allFinite_plan]
  have identities : ∀ inner ∈ input.kernelIdentity.map KernelIdentity.toJs, AllFinite inner := by
    cases input.kernelIdentity <;> simp [KernelIdentity.toJs, AllFinite]
  have graphs : (∀ inner ∈ input.authoritySnapshot.map RecordedAuthoritySnapshot.toJs,
      AllFinite inner) ↔ ∀ recorded ∈ input.authoritySnapshot, AllFinite recorded.graph := by
    cases input.authoritySnapshot <;> simp [RecordedAuthoritySnapshot.toJs, AllFinite]
  have snapshots : (∀ inner ∈ input.aggregateSnapshot.map RecordedAggregateSnapshot.toJs,
      AllFinite inner) ↔ ∀ recorded ∈ input.aggregateSnapshot, AllFinite recorded.snapshot := by
    cases input.aggregateSnapshot <;> simp [RecordedAggregateSnapshot.toJs, AllFinite]
  rw [allFinite_obj]
  simp only [BaseRecord.props, BuildAuditInput.baseRecord, List.forall_mem_append,
    List.forall_mem_cons, List.not_mem_nil, false_implies, implies_true, and_true, and_assoc,
    allFinite_optionalProp, graphs, snapshots]
  constructor
  · intro finite
    obtain ⟨-, -, envelope, decision, -, -, -, durationMs, -, -, -, -, -, graph, snapshot⟩ := finite
    exact ⟨envelope, decision, durationMs, graph, snapshot⟩
  · rintro ⟨envelope, decision, durationMs, graph, snapshot⟩
    exact ⟨allFinite_version, trivial, envelope, decision, allFinite_basis decision,
      allFinite_str _, trivial, durationMs, plans, links, identities, allFinite_str _,
      allFinite_str _, graph, snapshot⟩

theorem fingerprint_returns (host : Host) (plan : PlanSnapshot) :
    ∃ planFingerprint, planFingerprintOf host plan = .ok planFingerprint := by
  refine (sha256Canonical_returns host plan.toJs).mpr ?_
  rw [PlanSnapshot.toJs, allFinite_obj]
  simp only [List.forall_mem_cons, List.not_mem_nil, false_implies, implies_true, and_true]
  exact ⟨allFinite_texts _, allFinite_texts _⟩

theorem fingerprinted_returns (host : Host) (plan : Option PlanSnapshot) :
    ∃ fingerprinted, plan.mapM (fingerprintedPlan host) = .ok fingerprinted := by
  cases plan with
  | none => exact ⟨none, rfl⟩
  | some plan =>
      obtain ⟨planFingerprint, hash⟩ := fingerprint_returns host plan
      refine ⟨some { plan with planFingerprint }, ?_⟩
      rw [Option.mapM_some, fingerprintedPlan, hash]
      rfl

variable {host : Host} {clock : JsString} {input : BuildAuditInput}

/-- A record is built from finite input only. -/
theorem finite_of_built {record : AuditRecord}
    (built : buildAuditRecord host clock input = .ok record) : input.Finite := by
  obtain ⟨plan, stored, signature, -, hashed, -⟩ := buildAuditRecord_eq_ok.mp built
  rw [← allFinite_baseRecord input clock plan, ← sha256Canonical_returns host]
  exact ⟨stored, hashed⟩

/-- Finite input is built into a record, unless the signer throws. -/
theorem buildAuditRecord_returns (finite : input.Finite)
    (signs : ∀ signer ∈ input.signer, ∀ hash, ∃ signature, signer.sign hash = .ok signature) :
    ∃ record, buildAuditRecord host clock input = .ok record := by
  obtain ⟨plan, fingerprinted⟩ := fingerprinted_returns host input.plan
  obtain ⟨stored, hashed⟩ := (sha256Canonical_returns host _).mpr
    ((allFinite_baseRecord input clock plan).mpr finite)
  have signed : ∃ signature, (input.signer.mapM fun signer => signer.sign stored) =
      .ok signature := by
    cases supplied : input.signer with
    | none => exact ⟨none, rfl⟩
    | some signer =>
        obtain ⟨signature, same⟩ := signs signer supplied stored
        refine ⟨some signature, ?_⟩
        rw [Option.mapM_some, same]
        rfl
  obtain ⟨signature, signed⟩ := signed
  exact ⟨_, buildAuditRecord_eq_ok.mpr ⟨plan, stored, signature, fingerprinted, hashed, signed, rfl⟩⟩

end Adjudicate.Audit
