/-
This file decides when a proposal from a contaminating origin can execute.
-/

import Adjudicate.Audit.Replay
import Adjudicate.Kernel.FirstAnswer
import Adjudicate.Shell.Authorization

namespace Adjudicate.Shell

open Js Canonical Adjudicate.Core Adjudicate.Kernel Adjudicate.Audit Adjudicate.Effect

section

variable {S : Type} (host : Host) (call : Call S)

/-- The policy refuses the kind of the envelope from a contaminating origin, and has one. -/
structure Contaminated : Prop where
  origin : isContaminatingOrigin call.envelope.origin = true
  required : ∃ branch, call.policy.taint.requiresUncontaminatedOrigin = some branch ∧
    branch call.envelope.kind = .ok true

/-- The first speaking state guard executes, asks for a confirmation that is covered, or
rewrites to a clean envelope of the same kind that the guard lists let execute. -/
def Launders : Prop :=
  Verified host call.envelope call.kill ∧
    ∃ decision, firstOutcome call.envelope call.state call.policy.stateGuards = .ok (some decision) ∧
      match decision with
      | .execute _ => True
      | .requestConfirmation _ _ => call.deps.Covers call.envelope
      | .rewrite rewritten _ _ =>
          rewritten.kind = call.envelope.kind ∧
            taintRank rewritten.taint ≤ taintRank call.envelope.taint ∧
            Verified host rewritten call.kill ∧
            Answers host rewritten call.state (fun decision => decision.kind = .execute) call.policy
      | _ => False

/-- Only the state guards speak before the taint gate stops a contaminated proposal. -/
theorem yields_contaminated {wanted : Decision → Prop} (actionable : Actionable wanted)
    (contaminated : Contaminated call) :
    Yields wanted (adjudicate host call.envelope call.state call.kill call.policy) ↔
      Verified host call.envelope call.kill ∧
        Speaks host call.envelope call.state wanted call.policy.stateGuards := by
  obtain ⟨branch, declared, required⟩ := contaminated.required
  have stops := @canProposeWithOrigin_of_contaminated call.envelope.taint _ _ _ branch declared
    required contaminated.origin
  rw [yields_adjudicate host call.envelope call.state call.kill call.policy actionable]
  apply and_congr_right
  intro _
  constructor
  · intro answers
    obtain speaks | ⟨-, allowed, -⟩ := answers
    · exact speaks
    · exact (stops allowed).elim
  · exact Or.inl

theorem yields_execute_iff {outcome : Except Thrown Decision} :
    Yields (fun decision => decision.kind = .execute) outcome ↔
      ∃ bases, outcome = .ok (.execute bases) := by
  constructor
  · intro ⟨decision, same, executes⟩
    cases decision with
    | execute bases => exact ⟨bases, same⟩
    | _ => cases executes
  · intro ⟨bases, same⟩
    exact ⟨_, same, rfl⟩

/-- A wanted kernel decision comes from the first speaking state guard. -/
theorem spoken_of_adjudicate (contaminated : Contaminated call) {wanted : Decision → Prop}
    (actionable : Actionable wanted) {decision : Decision}
    (adjudicated : adjudicate host call.envelope call.state call.kill call.policy = .ok decision)
    (holds : wanted decision) :
    Verified host call.envelope call.kill ∧
      ∃ spoken, firstOutcome call.envelope call.state call.policy.stateGuards = .ok (some spoken) ∧
        wanted spoken ∧ ∀ rewritten reason bases, spoken = .rewrite rewritten reason bases →
          deriveIntentHash host rewritten = .ok rewritten.intentHash ∧
            taintRank rewritten.taint ≤ taintRank call.envelope.taint := by
  obtain ⟨verified, spoken, first, yields⟩ :=
    (yields_contaminated host call actionable contaminated).mp ⟨decision, adjudicated, holds⟩
  exact ⟨verified, spoken, first, (yields_gateRewrite host call.envelope actionable spoken).mp yields⟩

theorem adjudicate_of_spoken (contaminated : Contaminated call) {wanted : Decision → Prop}
    (actionable : Actionable wanted) (verified : Verified host call.envelope call.kill)
    {spoken : Decision}
    (first : firstOutcome call.envelope call.state call.policy.stateGuards = .ok (some spoken))
    (holds : wanted spoken)
    (gated : ∀ rewritten reason bases, spoken = .rewrite rewritten reason bases →
      deriveIntentHash host rewritten = .ok rewritten.intentHash ∧
        taintRank rewritten.taint ≤ taintRank call.envelope.taint) :
    Yields wanted (adjudicate host call.envelope call.state call.kill call.policy) :=
  (yields_contaminated host call actionable contaminated).mpr
    ⟨verified, spoken, first,
      (yields_gateRewrite host call.envelope actionable spoken).mpr ⟨holds, gated⟩⟩

/-- Only a laundered proposal settles on a decision that runs an envelope of its kind. -/
theorem settled_launders_iff (contaminated : Contaminated call) {decision : Decision}
    {rewritten : Option IntentEnvelope} (settles : settled host call = .ok (decision, rewritten)) :
    Launders host call ↔ executing decision rewritten = true ∧
      (executedEnvelope call.envelope rewritten).kind = call.envelope.kind := by
  constructor
  · intro ⟨verified, spoken, first, launders⟩
    have answered {wanted : Decision → Prop} (actionable : Actionable wanted) (holds : wanted spoken)
        (plain : spoken.kind ≠ .rewrite) :
        Yields wanted (adjudicate host call.envelope call.state call.kill call.policy) := by
      apply adjudicate_of_spoken host call contaminated actionable verified first holds
      rintro replacement reason bases rfl
      exact (plain rfl).elim
    have runs {answer : Decision}
        (adjudicated : adjudicate host call.envelope call.state call.kill call.policy = .ok answer)
        (executes : (overridden call answer).kind = .execute) :
        executing decision rewritten = true ∧
          (executedEnvelope call.envelope rewritten).kind = call.envelope.kind := by
      rw [settled_of_execute host call adjudicated executes] at settles
      cases settles
      refine ⟨?_, rfl⟩
      cases same : overridden call answer with
      | execute bases => rfl
      | _ =>
          rw [same] at executes
          cases executes
    cases spoken with
    | execute own =>
        obtain ⟨answer, adjudicated, executes⟩ := answered actionable_execute rfl nofun
        apply runs adjudicated
        obtain plain | ⟨asks, -, -⟩ := overridden_cases call answer
        · rw [plain, executes]
        · rw [executes] at asks
          cases asks
    | requestConfirmation prompt own =>
        obtain ⟨answer, adjudicated, asks⟩ := answered actionable_requestConfirmation rfl nofun
        exact runs adjudicated (overridden_covered call asks launders)
    | rewrite replacement reason own =>
        obtain ⟨kind, low, verifiedAgain, answers⟩ := launders
        obtain ⟨answer, adjudicated, text, bases, rfl⟩ :=
          adjudicate_of_spoken host call contaminated (actionable_rewritesTo replacement) verified
            first ⟨reason, own, rfl⟩ (by rintro _ _ _ ⟨⟩; exact ⟨verifiedAgain.2.2, low⟩)
        obtain ⟨second, again⟩ := yields_execute_iff.mp
          ((yields_adjudicate host replacement call.state call.kill call.policy
            actionable_execute).mpr ⟨verifiedAgain, answers⟩)
        rw [settled_of_rewrite host call adjudicated again] at settles
        cases settles
        exact ⟨rfl, kind⟩
    | _ => exact launders.elim
  · intro ⟨runs, kind⟩
    obtain ⟨⟨bases, executes⟩, -⟩ | ⟨⟨prompt, bases, asks⟩, covered, -⟩ |
      ⟨replacement, reason, bases, second, substitutes, again, rfl⟩ :=
      settled_authorized host call settles runs
    · obtain ⟨verified, spoken, first, kind, -⟩ :=
        spoken_of_adjudicate host call contaminated actionable_execute executes rfl
      refine ⟨verified, spoken, first, ?_⟩
      cases spoken with
      | execute own => trivial
      | _ => cases kind
    · obtain ⟨verified, spoken, first, kind, -⟩ :=
        spoken_of_adjudicate host call contaminated actionable_requestConfirmation asks rfl
      refine ⟨verified, spoken, first, ?_⟩
      cases spoken with
      | requestConfirmation text own => exact covered
      | _ => cases kind
    · obtain ⟨verified, spoken, first, ⟨text, own, rfl⟩, gated⟩ :=
        spoken_of_adjudicate host call contaminated (actionable_rewritesTo replacement)
          substitutes ⟨_, _, rfl⟩
      refine ⟨verified, _, first, kind, (gated _ _ _ rfl).2, ?_⟩
      exact (yields_adjudicate host replacement call.state call.kill call.policy
        actionable_execute).mp (yields_execute_iff.mpr ⟨second, again⟩)

/-- A contaminated proposal is executed for its kind exactly when a state guard launders it. -/
theorem contaminated_executes_iff (contaminated : Contaminated call) {trace : List ShellEvent}
    {result : AdjudicateAndAuditResult}
    (run : Runs (adjudicateAndAudit host call) trace (.ok result)) :
    (result.Executing ∧ result.record.envelope.kind = call.envelope.kind → Launders host call) ∧
      (TenantOpen call trace → LedgerOpen trace → Launders host call →
        result.Executing ∧ result.record.envelope.kind = call.envelope.kind) := by
  rw [executing_iff_kind host call run]
  obtain ⟨stopped, _, _, suppressed⟩ | ⟨stopped, _, _, suppressed⟩ |
    ⟨rewritten, settles, envelope, -⟩ := adjudicateAndAudit_ok host call run
  · rw [suppressed]
    exact ⟨by rintro ⟨⟨⟨⟩⟩ | ⟨⟨⟩⟩, -⟩, fun tenantOpen => (stopped tenantOpen).elim⟩
  · rw [suppressed]
    exact ⟨by rintro ⟨⟨⟨⟩⟩ | ⟨⟨⟩⟩, -⟩, fun _ ledgerOpen => (stopped ledgerOpen).elim⟩
  rw [settled_launders_iff host call contaminated settles, envelope]
  constructor
  · intro ⟨executes, kind⟩
    exact ⟨executing_of_settled host call executes settles, kind⟩
  · intro _ _ ⟨runs, kind⟩
    refine ⟨?_, kind⟩
    cases decision : result.decision with
    | execute bases => exact .inl rfl
    | rewrite replacement reason bases => exact .inr rfl
    | _ =>
        rw [decision] at runs
        cases runs

end

/-- This state guard relabels retrieved content as the model's own proposal. -/
def relabellingGuard : Guard Unit where
  metadataName := none
  functionName := "relabel"
  run envelope _ :=
    if isContaminatingOrigin envelope.origin then
      .ok (some (.rewrite (auditedEnvelope .llm auditedIntentHash) "relabelled" []))
    else .ok none

/-- No kind may be proposed from a contaminating origin. -/
def guardedOriginPolicy : PolicyBundle Unit :=
  { openPolicy [relabellingGuard] with
    taint := { minimumFor := fun _ => .ok .untrusted
               requiresUncontaminatedOrigin := some fun _ => .ok true } }

def retrievedCall : Call Unit :=
  { sampleCall with envelope := retrievedEnvelope, policy := guardedOriginPolicy }

theorem retrievedCall_contaminated : Contaminated retrievedCall where
  origin := rfl
  required := ⟨_, rfl, rfl⟩

theorem retrievedCall_run :
    ∃ trace result, Runs (adjudicateAndAudit replayHost retrievedCall) trace (.ok result) ∧
      (result.decision.kind, result.record.envelope.kind) =
        (DecisionKind.rewrite, retrievedCall.envelope.kind) := by
  apply @calm_run _ _ replayHost retrievedCall
    (fun result => (result.decision.kind, result.record.envelope.kind))
  unfold replayHost retrievedCall retrievedEnvelope samplePaymentText auditedRecordText
    auditedIntentHash retrievedIntentHash retrievedHash
  repeat rw [utf16_ofList]
  decide +kernel

theorem contaminated_executes_iff_retrievedCall :
    ∃ trace result, Runs (adjudicateAndAudit replayHost retrievedCall) trace (.ok result) ∧
      (result.Executing ∧ result.record.envelope.kind = retrievedCall.envelope.kind →
        Launders replayHost retrievedCall) ∧
      (TenantOpen retrievedCall trace → LedgerOpen trace → Launders replayHost retrievedCall →
        result.Executing ∧ result.record.envelope.kind = retrievedCall.envelope.kind) := by
  obtain ⟨trace, result, run, -⟩ := retrievedCall_run
  exact ⟨trace, result, run,
    contaminated_executes_iff replayHost retrievedCall retrievedCall_contaminated run⟩

/-- A relabelled payment from retrieved content is executed. -/
theorem retrievedCall_executes :
    Contaminated retrievedCall ∧
      ∃ trace result, Runs (adjudicateAndAudit replayHost retrievedCall) trace (.ok result) ∧
        result.Executing ∧ result.record.envelope.kind = retrievedCall.envelope.kind := by
  refine ⟨retrievedCall_contaminated, ?_⟩
  obtain ⟨trace, result, run, returned⟩ := retrievedCall_run
  obtain ⟨kind, same⟩ := Prod.mk.inj returned
  exact ⟨trace, result, run, (executing_iff_kind replayHost retrievedCall run).mpr (.inr kind), same⟩

end Adjudicate.Shell
