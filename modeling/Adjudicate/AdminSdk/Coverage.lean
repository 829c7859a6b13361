/-
This file shows which parts of an audit record the schemas declare in full.
-/

import Adjudicate.AdminSdk.Schemas
import Adjudicate.Audit.BuiltRecord

namespace Adjudicate.AdminSdk

open Js Canonical Adjudicate.Core Adjudicate.Audit

/-- An object is covered when its possible names are declared and its members are covered. -/
theorem covers_object {shape : List (JsString × Bool × WireSchema)} {props : Props JsValue}
    (names : List JsString) (source : List.Sublist (keys props) names) (distinct : names.Nodup)
    (declared : ∀ name ∈ names, name ∈ keys shape)
    (members : ∀ member ∈ shape, Covers member.2.2 ((JsValue.obj props).getOwn member.1)) :
    Covers (.object shape) (.obj props) :=
  .object (distinct.sublist source) (fun key inside => declared key (source.subset inside)) members

/-- The option with the name in the tag has to cover the value. -/
theorem covers_option {tag name : JsString} {options : List (JsString × WireSchema)}
    {schema : WireSchema} {props : Props JsValue} (distinct : (keys options).Nodup)
    (inside : (name, schema) ∈ options) (tagged : (JsValue.obj props).getOwn tag = .str name)
    (covered : Covers schema (.obj props)) : Covers (.union tag options) (.obj props) := by
  refine .union fun option listed same => ?_
  rw [tagged, JsValue.str.injEq] at same
  have found := (lookup_eq_some distinct name schema).mpr inside
  have other := (lookup_eq_some distinct option.1 option.2).mpr listed
  rw [← same, found] at other
  rwa [← Option.some.inj other]

theorem covers_getD {schema : WireSchema} {value : Option JsValue}
    (covered : ∀ present ∈ value, Covers schema present) :
    Covers schema (value.getD .undefined) := by
  cases value with
  | none => exact .undefined schema
  | some present => exact covered present rfl

theorem covers_map {A : Type} {schema : WireSchema} (toJs : A → JsValue) {value : Option A}
    (covered : ∀ present ∈ value, Covers schema (toJs present)) :
    Covers schema ((value.map toJs).getD .undefined) := by
  cases value with
  | none => exact .undefined schema
  | some present => exact covered present rfl

theorem covers_list {A : Type} {schema : WireSchema} (toJs : A → JsValue) {values : List A}
    (covered : ∀ value ∈ values, Covers schema (toJs value)) :
    Covers (.array schema) (.arr (values.map toJs)) := by
  refine .array fun item inside => ?_
  obtain ⟨value, listed, rfl⟩ := List.mem_map.mp inside
  exact covered value listed

theorem covers_texts (texts : List JsString) : Covers (.array anyText) (.arr (texts.map .str)) :=
  covers_list .str fun text _ => .text _ (.str text)

theorem covers_attestation (attestation : Attestation) :
    Covers (.object [required "keyId" anyText, required "sig" anyText]) attestation.toJs := by
  refine covers_object ["keyId", "sig"] (List.Sublist.refl _) (by decide) (by decide) ?_
  simp only [required, List.forall_mem_cons, List.not_mem_nil, false_implies, implies_true, and_true]
  exact ⟨.text _ _, .text _ _⟩

/-- The actor is covered unless it has a role. -/
theorem covers_actor {actor : IntentActor} (roleless : actor.role = none) :
    Covers intentActorSchema actor.toJs := by
  rw [IntentActor.toJs, roleless]
  refine covers_object ["principal", "sessionId", "attestation"] ?_ (by decide) (by decide) ?_
  · simp only [keys_append]
    exact (List.Sublist.refl _).append (keys_optionalProp "attestation" _)
  · have attestation := covers_map Attestation.toJs fun attestation (_ : attestation ∈ actor.attestation) =>
      covers_attestation attestation
    simp only [required, optional, List.forall_mem_cons, List.not_mem_nil, false_implies,
      implies_true, and_true]
    refine ⟨.text _ _, .text _ _, ?_⟩
    simpa [required, JsValue.getOwn, lookup_optionalProp, lookup_cons_if, List.lookup_append] using
      attestation

theorem covers_envelope {envelope : IntentEnvelope} (roleless : envelope.actor.role = none) :
    Covers intentEnvelopeSchema envelope.toJs := by
  refine covers_object ["version", "kind", "payload", "createdAt", "nonce", "actor", "taint",
    "origin", "intentHash", "resourceRefs"] ?_ (by decide) (by decide) ?_
  · simp only [keys_append]
    exact (List.Sublist.refl _).append (keys_optionalProp "resourceRefs" _)
  · have actor := covers_actor roleless
    simp only [required, optional, List.forall_mem_cons, List.not_mem_nil, false_implies,
      implies_true, and_true]
    refine ⟨.number _ _, .text _ _, .unknown _, .text _ _, .text _ _, ?_, .text _ _, .text _ _,
      .record _ _, .text _ _⟩
    simpa [JsValue.getOwn, lookup_cons_if] using actor

theorem covers_basis (entry : DecisionBasis) : Covers decisionBasisSchema entry.toJs := by
  refine covers_object ["category", "code", "detail"] ?_ (by decide) (by decide) ?_
  · simp only [keys_append]
    exact (List.Sublist.refl _).append (keys_optionalProp "detail" _)
  · simp only [required, optional, List.forall_mem_cons, List.not_mem_nil, false_implies,
      implies_true, and_true]
    exact ⟨.text _ _, .text _ _, .record _ _⟩

theorem covers_bases (bases : List DecisionBasis) :
    Covers basisArray (.arr (bases.map DecisionBasis.toJs)) :=
  covers_list DecisionBasis.toJs fun entry _ => covers_basis entry

theorem covers_refusal (refusal : Refusal) : Covers refusalSchema refusal.toJs := by
  refine covers_object ["kind", "code", "userFacing", "detail"] ?_ (by decide) (by decide) ?_
  · simp only [keys_append]
    exact (List.Sublist.refl _).append (keys_optionalProp "detail" _)
  · simp only [required, optional, List.forall_mem_cons, List.not_mem_nil, false_implies,
      implies_true, and_true]
    exact ⟨.text _ _, .text _ _, .text _ _, .text _ _⟩

/-- The decision is covered unless it substitutes an envelope whose actor has a role. -/
theorem covers_decision {decision : Decision}
    (roleless : ∀ rewritten reason bases, decision = .rewrite rewritten reason bases →
      rewritten.actor.role = none) : Covers decisionSchema decision.toJs := by
  have bases := covers_bases decision.basis
  cases decision with
  | execute own =>
      refine covers_option (by decide) (.head _) rfl ?_
      refine covers_object ["kind", "basis"] (List.Sublist.refl _) (by decide) (by decide) ?_
      simp only [required, List.forall_mem_cons, List.not_mem_nil, false_implies, implies_true,
        and_true]
      exact ⟨.text _ _, bases⟩
  | refuse refusal own =>
      refine covers_option (by decide) (.tail _ (.head _)) rfl ?_
      refine covers_object ["kind", "refusal", "basis"] (List.Sublist.refl _) (by decide)
        (by decide) ?_
      simp only [required, List.forall_mem_cons, List.not_mem_nil, false_implies, implies_true,
        and_true]
      exact ⟨.text _ _, covers_refusal refusal, bases⟩
  | escalate target reason own =>
      refine covers_option (by decide) (.tail _ (.tail _ (.head _))) rfl ?_
      refine covers_object ["kind", "to", "reason", "basis"] (List.Sublist.refl _) (by decide)
        (by decide) ?_
      simp only [required, List.forall_mem_cons, List.not_mem_nil, false_implies, implies_true,
        and_true]
      exact ⟨.text _ _, .text _ _, .text _ _, bases⟩
  | requestConfirmation prompt own =>
      refine covers_option (by decide) (.tail _ (.tail _ (.tail _ (.head _)))) rfl ?_
      refine covers_object ["kind", "prompt", "basis"] (List.Sublist.refl _) (by decide)
        (by decide) ?_
      simp only [required, List.forall_mem_cons, List.not_mem_nil, false_implies, implies_true,
        and_true]
      exact ⟨.text _ _, .text _ _, bases⟩
  | defer signal timeoutMs own =>
      refine covers_option (by decide) (.tail _ (.tail _ (.tail _ (.tail _ (.head _))))) rfl ?_
      refine covers_object ["kind", "signal", "timeoutMs", "basis"] (List.Sublist.refl _)
        (by decide) (by decide) ?_
      simp only [required, List.forall_mem_cons, List.not_mem_nil, false_implies, implies_true,
        and_true]
      exact ⟨.text _ _, .text _ _, .number _ _, bases⟩
  | rewrite rewritten reason own =>
      refine covers_option (by decide)
        (.tail _ (.tail _ (.tail _ (.tail _ (.tail _ (.head _)))))) rfl ?_
      refine covers_object ["kind", "rewritten", "reason", "basis"] (List.Sublist.refl _)
        (by decide) (by decide) ?_
      have substitute := covers_envelope (roleless rewritten reason own rfl)
      simp only [required, List.forall_mem_cons, List.not_mem_nil, false_implies, implies_true,
        and_true]
      exact ⟨.text _ _, substitute, .text _ _, bases⟩

theorem covers_plan (plan : AuditPlanSnapshot) : Covers auditPlanSnapshotSchema plan.toJs := by
  refine covers_object ["visibleReadTools", "allowedIntents", "planFingerprint"]
    (List.Sublist.refl _) (by decide) (by decide) ?_
  simp only [required, List.forall_mem_cons, List.not_mem_nil, false_implies, implies_true,
    and_true]
  exact ⟨covers_texts plan.visibleReadTools, covers_texts plan.allowedIntents, .text _ _⟩

theorem covers_binding (binding : SupersessionBinding) :
    Covers (.object [optional "capability" anyText, optional "approver" anyText,
      optional "channel" anyText]) binding.toJs := by
  refine covers_object ["capability", "approver", "channel"] ?_ (by decide) (by decide) ?_
  · simp only [keys_append]
    exact ((keys_optionalProp "capability" _).append (keys_optionalProp "approver" _)).append
      (keys_optionalProp "channel" _)
  · simp only [optional, List.forall_mem_cons, List.not_mem_nil, false_implies, implies_true,
      and_true]
    exact ⟨.text _ _, .text _ _, .text _ _⟩

theorem covers_supersession (supersession : Supersession) :
    Covers supersessionSchema supersession.toJs := by
  refine covers_object ["predecessorIntentHash", "predecessorAt", "reason", "token", "binding"] ?_
    (by decide) (by decide) ?_
  · simp only [keys_append]
    exact ((List.Sublist.refl _).append (keys_optionalProp "token" _)).append
      (keys_optionalProp "binding" _)
  · have binding := covers_map SupersessionBinding.toJs
      fun binding (_ : binding ∈ supersession.binding) => covers_binding binding
    simp only [required, optional, List.forall_mem_cons, List.not_mem_nil, false_implies,
      implies_true, and_true]
    refine ⟨.text _ _, .text _ _, .text _ _, .text _ _, ?_⟩
    simpa [optional, JsValue.getOwn, lookup_optionalProp, lookup_cons_if, List.lookup_append] using
      binding

theorem covers_identity (identity : KernelIdentity) :
    Covers (.object [required "id" anyText, required "version" anyText]) identity.toJs := by
  refine covers_object ["id", "version"] (List.Sublist.refl _) (by decide) (by decide) ?_
  simp only [required, List.forall_mem_cons, List.not_mem_nil, false_implies, implies_true,
    and_true]
  exact ⟨.text _ _, .text _ _⟩

theorem covers_signature (signature : AuditSignature) :
    Covers (.object [required "keyId" anyText, required "alg" anyText, required "value" anyText])
      signature.toJs := by
  refine covers_object ["keyId", "alg", "value"] (List.Sublist.refl _) (by decide) (by decide) ?_
  simp only [required, List.forall_mem_cons, List.not_mem_nil, false_implies, implies_true,
    and_true]
  exact ⟨.text _ _, .text _ _, .text _ _⟩

theorem covers_permits (permits : AuthorityPermits) :
    Covers authorityPermitsSchema permits.toJs := by
  refine covers_object ["actions", "limits"] ?_ (by decide) (by decide) ?_
  · simp only [keys_append]
    exact (List.Sublist.refl _).append (keys_optionalProp "limits" _)
  · have actions := covers_texts permits.actions
    simp only [required, optional, List.forall_mem_cons, List.not_mem_nil, false_implies,
      implies_true, and_true]
    refine ⟨?_, .record _ _⟩
    simpa [JsValue.getOwn, lookup_cons_if] using actions

theorem covers_edge (edge : AuthorityEdge) : Covers authorityEdgeSchema edge.toJs := by
  refine covers_object ["principal", "relationship", "resource", "permits"]
    (List.Sublist.refl _) (by decide) (by decide) ?_
  simp only [required, List.forall_mem_cons, List.not_mem_nil, false_implies, implies_true,
    and_true]
  exact ⟨.text _ _, .text _ _, .text _ _, covers_permits edge.permits⟩

theorem covers_graph (graph : AuthorityGraph) : Covers authorityGraphSchema graph.toJs := by
  refine covers_object ["edges"] (List.Sublist.refl _) (by decide) (by decide) ?_
  simp only [required, List.forall_mem_cons, List.not_mem_nil, false_implies, implies_true,
    and_true]
  exact covers_list AuthorityEdge.toJs fun edge _ => covers_edge edge

theorem covers_authoritySnapshot {recorded : RecordedAuthoritySnapshot}
    (typed : ∃ graph : AuthorityGraph, recorded.graph = graph.toJs) :
    Covers recordedAuthoritySnapshotSchema recorded.toJs := by
  obtain ⟨graph, same⟩ := typed
  rw [RecordedAuthoritySnapshot.toJs, same]
  refine covers_object ["graph", "snapshotHash"] (List.Sublist.refl _) (by decide) (by decide) ?_
  simp only [required, List.forall_mem_cons, List.not_mem_nil, false_implies, implies_true,
    and_true]
  exact ⟨covers_graph graph, .text _ _⟩

theorem covers_aggregateSnapshot {recorded : RecordedAggregateSnapshot}
    (typed : ∃ snapshot : AggregateSnapshot, recorded.snapshot = snapshot.toJs) :
    Covers recordedAggregateSnapshotSchema recorded.toJs := by
  obtain ⟨snapshot, same⟩ := typed
  rw [RecordedAggregateSnapshot.toJs, same]
  refine covers_object ["snapshot", "snapshotHash"] (List.Sublist.refl _) (by decide) (by decide) ?_
  have inner : Covers aggregateSnapshotSchema snapshot.toJs := by
    refine covers_object ["windows", "at"] (List.Sublist.refl _) (by decide) (by decide) ?_
    simp only [required, List.forall_mem_cons, List.not_mem_nil, false_implies, implies_true,
      and_true]
    exact ⟨.record _ _, .text _ _⟩
  simp only [required, List.forall_mem_cons, List.not_mem_nil, false_implies, implies_true,
    and_true]
  exact ⟨inner, .text _ _⟩

end Adjudicate.AdminSdk
