/-
This file shows what authorizes an executing result of the audited entry point.
-/

import Adjudicate.Kernel.TaintFloor
import Adjudicate.Shell.Delivery

namespace Adjudicate.Shell

open Js Canonical Adjudicate.Core Adjudicate.Kernel Adjudicate.Audit Adjudicate.Effect

/-- The decision executes, or it is a rewrite recorded under the rewritten envelope. -/
def AdjudicateAndAuditResult.Executing (result : AdjudicateAndAuditResult) : Prop :=
  match result.decision with
  | .execute _ => True
  | .rewrite rewritten _ _ => result.record.envelope = rewritten
  | _ => False

/-- A receipt or a budget covers a request for confirmation of this envelope. -/
def AdjudicateAndAuditDeps.Covers (deps : AdjudicateAndAuditDeps) (envelope : IntentEnvelope) :
    Prop :=
  (∃ receipt, deps.confirmationReceipt = some receipt ∧ receipt.intentHash = envelope.intentHash ∧
      confirmationBindingMatches receipt.binding = true) ∨
    ∃ grant, deps.budgetGrant = some grant ∧ grant.intentKind = envelope.kind

/-- The run claims the key of the executed envelope and no other, when there is a ledger. -/
def ClaimsOnly (deps : AdjudicateAndAuditDeps) (key : JsString) (trace : List ShellEvent) : Prop :=
  match deps.ledger with
  | none => Quiet trace
  | some _ => ∃ after, AcquiredThen key trace after ∧ Quiet after

section

variable {S : Type} (host : Host) (call : Call S)

/-- Only the second pass turns a rewrite into something that runs. -/
theorem readjudicated_ok {decision second : Decision} {rewritten : Option IntentEnvelope}
    (passed : readjudicated host call decision = .ok (second, rewritten)) :
    (decision.kind ≠ .rewrite ∧ second = decision ∧ rewritten = none) ∨
      ∃ replacement reason bases again, decision = .rewrite replacement reason bases ∧
        adjudicate host replacement call.state call.kill call.policy = .ok again ∧
        ((again.kind = .execute ∧ second = decision ∧ rewritten = some replacement) ∨
          (again.kind = .rewrite ∧ second = rewriteLoopRefusal again.basis ∧ rewritten = none) ∨
          (again.kind ≠ .execute ∧ again.kind ≠ .rewrite ∧ second = again ∧ rewritten = none)) := by
  cases decision with
  | rewrite replacement reason bases =>
      rw [readjudicated, bind_eq_ok] at passed
      obtain ⟨again, adjudicated, returned⟩ := passed
      refine .inr ⟨replacement, reason, bases, again, rfl, adjudicated, ?_⟩
      cases again with
      | execute _ =>
          cases returned
          exact .inl ⟨rfl, rfl, rfl⟩
      | rewrite _ _ _ =>
          cases returned
          exact .inr (.inl ⟨rfl, rfl, rfl⟩)
      | _ =>
          cases returned
          exact .inr (.inr ⟨nofun, nofun, rfl, rfl⟩)
  | _ =>
      cases passed
      exact .inl ⟨nofun, rfl, rfl⟩

/-- The rewritten envelope of an executed rewrite differs from the given one. -/
theorem readjudicated_differs {decision second : Decision} {replacement : IntentEnvelope}
    {reason : JsString} {bases : List DecisionBasis}
    (first : adjudicate host call.envelope call.state call.kill call.policy =
      .ok (.rewrite replacement reason bases))
    (passed : readjudicated host call decision = .ok (second, some replacement)) :
    replacement ≠ call.envelope := by
  rintro rfl
  obtain ⟨-, -, ⟨⟩⟩ | ⟨other, _, _, again, -, adjudicated, settles⟩ := readjudicated_ok host call passed
  obtain ⟨executes, -, ⟨⟩⟩ | ⟨-, -, ⟨⟩⟩ | ⟨-, -, -, ⟨⟩⟩ := settles
  rw [first] at adjudicated
  cases adjudicated
  cases executes

theorem confirmationOverride_cases (decision : Decision) :
    (confirmationOverride call decision).1 = decision ∨
      (decision.kind = .requestConfirmation ∧ call.deps.Covers call.envelope ∧
        (confirmationOverride call decision).1.kind = .execute) := by
  unfold confirmationOverride
  split
  · next prompt bases receipt supplied =>
      split
      · next fits =>
          simp only [receiptMatches, Bool.and_eq_true, decide_eq_true_eq] at fits
          exact .inr ⟨rfl, .inl ⟨receipt, supplied, fits⟩, rfl⟩
      · exact .inl rfl
  · exact .inl rfl

theorem budgetFor_some {decision executed : Decision} {grant : BudgetGrant}
    (funded : budgetFor call decision = some (grant, executed)) :
    decision.kind = .requestConfirmation ∧ call.deps.Covers call.envelope ∧
      executed.kind = .execute := by
  unfold budgetFor at funded
  split at funded
  · next prompt bases supplied present =>
      split at funded
      · next same =>
          cases funded
          exact ⟨rfl, .inr ⟨grant, present, same⟩, rfl⟩
      · cases funded
  · cases funded

/-- The overrides only act on a request for confirmation that is covered. -/
theorem overridden_cases (decision : Decision) :
    overridden call decision = decision ∨
      (decision.kind = .requestConfirmation ∧ call.deps.Covers call.envelope ∧
        (overridden call decision).kind = .execute) := by
  have confirmed := confirmationOverride_cases call decision
  rw [overridden]
  cases funded : budgetFor call (confirmationOverride call decision).1 with
  | none => exact confirmed
  | some pair =>
      obtain ⟨asks, covered, executes⟩ := budgetFor_some call funded
      obtain same | ⟨-, -, executed⟩ := confirmed
      · rw [same] at asks
        exact .inr ⟨asks, covered, executes⟩
      · rw [executed] at asks
        cases asks

theorem overridden_covered {decision : Decision} (asks : decision.kind = .requestConfirmation)
    (covered : call.deps.Covers call.envelope) : (overridden call decision).kind = .execute := by
  cases decision with
  | requestConfirmation prompt bases =>
      rw [overridden]
      cases funded : budgetFor call (confirmationOverride call
          (.requestConfirmation prompt bases)).1 with
      | some pair => exact (budgetFor_some call funded).2.2
      | none =>
          obtain same | ⟨-, -, executes⟩ :=
            confirmationOverride_cases call (.requestConfirmation prompt bases)
          · rw [same] at funded
            obtain ⟨receipt, supplied, hash, binding⟩ | ⟨grant, supplied, kind⟩ := covered
            · have fits : receiptMatches call.envelope receipt = true := by
                simp [receiptMatches, hash, binding]
              simp only [confirmationOverride, supplied, fits, if_true] at same
              cases same
            · simp only [budgetFor, supplied, kind, if_true] at funded
              cases funded
          · exact executes
  | _ => cases asks

theorem settled_eq_ok {decision : Decision} {rewritten : Option IntentEnvelope} :
    settled host call = .ok (decision, rewritten) ↔
      ∃ first, adjudicate host call.envelope call.state call.kill call.policy = .ok first ∧
        readjudicated host call (overridden call first) = .ok (decision, rewritten) := bind_eq_ok

theorem settled_of_execute {first : Decision}
    (adjudicated : adjudicate host call.envelope call.state call.kill call.policy = .ok first)
    (executes : (overridden call first).kind = .execute) :
    settled host call = .ok (overridden call first, none) := by
  rw [settled_eq_ok]
  refine ⟨first, adjudicated, ?_⟩
  cases decision : overridden call first with
  | execute bases => rfl
  | _ =>
      rw [decision] at executes
      cases executes

theorem settled_of_rewrite {rewritten : IntentEnvelope} {reason : JsString}
    {bases second : List DecisionBasis}
    (adjudicated : adjudicate host call.envelope call.state call.kill call.policy =
      .ok (.rewrite rewritten reason bases))
    (again : adjudicate host rewritten call.state call.kill call.policy = .ok (.execute second)) :
    settled host call = .ok (.rewrite rewritten reason bases, some rewritten) := by
  rw [settled_eq_ok]
  refine ⟨_, adjudicated, ?_⟩
  change readjudicated host call (.rewrite rewritten reason bases) = _
  rw [readjudicated, again]
  rfl

/-- A settled rewrite carries the envelope that runs. -/
theorem settled_rewrite {replacement : IntentEnvelope} {reason : JsString}
    {bases : List DecisionBasis} {rewritten : Option IntentEnvelope}
    (settles : settled host call = .ok (.rewrite replacement reason bases, rewritten)) :
    rewritten = some replacement := by
  obtain ⟨first, -, passed⟩ := (settled_eq_ok host call).mp settles
  obtain ⟨notRewrite, same, -⟩ | ⟨other, _, _, again, same, -, result⟩ :=
    readjudicated_ok host call passed
  · rw [← same] at notRewrite
    exact (notRewrite rfl).elim
  · obtain ⟨-, second, rewritten⟩ | ⟨-, ⟨⟩, -⟩ | ⟨-, notRewrite, second, -⟩ := result
    · rw [same] at second
      cases second
      exact rewritten
    · rw [← second] at notRewrite
      exact (notRewrite rfl).elim

/-- A settled decision that runs comes from an execution, a covered request, or a rewrite whose
second pass executes. -/
theorem settled_authorized {decision : Decision} {rewritten : Option IntentEnvelope}
    (settles : settled host call = .ok (decision, rewritten))
    (runs : executing decision rewritten = true) :
    ((∃ bases, adjudicate host call.envelope call.state call.kill call.policy =
        .ok (.execute bases)) ∧ rewritten = none) ∨
      ((∃ prompt bases, adjudicate host call.envelope call.state call.kill call.policy =
          .ok (.requestConfirmation prompt bases)) ∧ call.deps.Covers call.envelope ∧
        rewritten = none) ∨
      ∃ replacement reason bases second,
        adjudicate host call.envelope call.state call.kill call.policy =
          .ok (.rewrite replacement reason bases) ∧
        adjudicate host replacement call.state call.kill call.policy = .ok (.execute second) ∧
        rewritten = some replacement := by
  obtain ⟨first, adjudicated, passed⟩ := (settled_eq_ok host call).mp settles
  have unchanged := overridden_cases call first
  obtain ⟨-, same, rfl⟩ | ⟨replacement, reason, bases, again, same, readjudicated, result⟩ :=
    readjudicated_ok host call passed
  · -- Without a rewrite the settled decision is an execution.
    rw [same] at runs
    obtain plain | ⟨asks, covered, -⟩ := unchanged
    · rw [plain] at runs
      cases first with
      | execute bases => exact .inl ⟨⟨bases, adjudicated⟩, rfl⟩
      | rewrite _ _ _ => cases runs
      | _ => cases runs
    · cases first with
      | requestConfirmation prompt bases =>
          exact .inr (.inl ⟨⟨prompt, bases, adjudicated⟩, covered, rfl⟩)
      | _ => cases asks
  · obtain plain | ⟨-, -, executes⟩ := unchanged
    · rw [plain] at same
      obtain ⟨executes, -, rfl⟩ | ⟨-, second, rfl⟩ | ⟨notExecute, notRewrite, second, rfl⟩ := result
      · cases again with
        | execute second =>
            rw [same] at adjudicated
            exact .inr (.inr ⟨replacement, reason, bases, second, adjudicated, readjudicated, rfl⟩)
        | _ => cases executes
      · rw [second] at runs
        cases runs
      · rw [second] at runs
        cases again with
        | execute _ => exact (notExecute rfl).elim
        | rewrite _ _ _ => exact (notRewrite rfl).elim
        | _ => cases runs
    · rw [same] at executes
      cases executes

/-- The result is suppressed by the tenant switch or by the ledger, or it is the settled decision,
recorded and claimed for what runs. -/
theorem adjudicateAndAudit_ok {trace : List ShellEvent} {result : AdjudicateAndAuditResult}
    (run : Runs (adjudicateAndAudit host call) trace (.ok result)) :
    (¬TenantOpen call trace ∧ ∃ context kill, result.decision = tenantKillRefusal context kill) ∨
      (¬LedgerOpen trace ∧ ∃ intentHash hit,
        result.decision = replaySuppressedRefusal intentHash hit) ∨
      ∃ rewritten, settled host call = .ok (result.decision, rewritten) ∧
        result.record.envelope = executedEnvelope call.envelope rewritten ∧
        result.record.intentHash = (executedEnvelope call.envelope rewritten).intentHash ∧
        ⟨.emit result.record, .ok ()⟩ ∈ trace ∧
        (executing result.decision rewritten = true →
          ClaimsOnly call.deps (executedEnvelope call.envelope rewritten).intentHash trace) := by
  obtain ⟨before, after, ⟨start, verdict⟩, rfl, decided, delivered⟩ := runs_bind_ok.mp run
  obtain ⟨-, raised, ⟨⟩⟩ | ⟨-, stopped, _, context, kill, ⟨⟩⟩ |
    ⟨front, rest, _, computing, rfl, frontQuiet, ran, verdictIs⟩ := deliberate_run host call decided
  · refine .inl ⟨?_, context, kill, killPath_ok host call delivered⟩
    exact fun tenantOpen => stopped (tenantOpen.mono call fun event inside => by simp [inside])
  cases computing with
  | error raised => cases verdictIs
  | ok computed =>
      cases verdictIs
      obtain ⟨same, -, envelope, intentHash, emitted⟩ := report_ok host call delivered
      have reportQuiet (unreleased : computed.ledgerAcquired = true →
          executing computed.decision computed.rewritten = true) : Quiet after := by
        obtain ⟨quiet, -⟩ | ⟨_, _, _, raised, -, -, -, acquired, thrown, -⟩ :=
          report_run host call delivered
        · exact quiet
        · cases thrown (unreleased acquired)
      obtain ⟨-, raised, ⟨⟩⟩ | ⟨-, hit, found, ⟨⟩⟩ | ⟨decision, rewritten, claim, claimed, settles⟩ :=
        compute_run host call ran
      · refine .inr (.inl ⟨?_, call.envelope.intentHash, hit, same⟩)
        exact fun ledgerOpen => ledgerOpen.missed call.envelope.intentHash hit (by simp [found])
      obtain ⟨⟨middle, rfl, middleQuiet⟩, settles, claims, entries, supersedes, computedIs⟩ := settles
      cases claimed with
      | error raised => cases computedIs
      | ok pair =>
          obtain ⟨second, acquired⟩ := pair
          cases computedIs
          dsimp only at same envelope intentHash reportQuiet
          have frontQuiet' := quiet_append.mpr ⟨frontQuiet, middleQuiet⟩
          obtain unclaimed | won := claimKey_run call claims
          · obtain ⟨rfl, ⟨rfl, keyless⟩ | ⟨entry, hit, lost, rfl⟩⟩ := unclaimed.result _ _ rfl
            · refine .inr (.inr ⟨rewritten, same ▸ settles, envelope, intentHash,
                by simp [emitted], ?_⟩)
              intro runs
              rw [ClaimsOnly, keyless (same ▸ runs), ← List.append_assoc front]
              exact quiet_append.mpr ⟨quiet_append.mpr ⟨frontQuiet', unclaimed.quiet⟩,
                reportQuiet nofun⟩
            · refine .inr (.inl ⟨?_, _, hit, same⟩)
              exact fun ledgerOpen => ledgerOpen.won entry (by simp [lost])
          · obtain ⟨later, acquiredThen, laterQuiet, ⟨⟨⟩, -⟩ | ⟨⟨raised, ⟨⟩⟩, -⟩⟩ := won.acquired
            refine .inr (.inr ⟨rewritten, same ▸ settles, envelope, intentHash,
              by simp [emitted], ?_⟩)
            intro runs
            obtain ⟨ledger, port⟩ := Option.isSome_iff_exists.mp won.ledger
            rw [ClaimsOnly, port]
            refine ⟨later ++ after, ?_, quiet_append.mpr ⟨laterQuiet,
              reportQuiet fun _ => won.executes⟩⟩
            have whole := (acquiredThen.prepend frontQuiet').append after
            rwa [List.append_assoc front] at whole

/-- A result executes exactly when its decision is an execution or a rewrite. -/
theorem executing_iff_kind {trace : List ShellEvent} {result : AdjudicateAndAuditResult}
    (run : Runs (adjudicateAndAudit host call) trace (.ok result)) :
    result.Executing ↔ result.decision.kind = .execute ∨ result.decision.kind = .rewrite := by
  rw [AdjudicateAndAuditResult.Executing]
  cases decision : result.decision with
  | execute bases => exact iff_of_true trivial (.inl rfl)
  | rewrite replacement reason bases =>
      refine iff_of_true ?_ (.inr rfl)
      obtain ⟨-, _, _, suppressed⟩ | ⟨-, _, _, suppressed⟩ | ⟨rewritten, settles, envelope, -⟩ :=
        adjudicateAndAudit_ok host call run
      · cases decision.symm.trans suppressed
      · cases decision.symm.trans suppressed
      · rw [decision] at settles
        change result.record.envelope = replacement
        rw [envelope, settled_rewrite host call settles]
        rfl
  | _ => exact iff_of_false id (by rintro (⟨⟨⟩⟩ | ⟨⟨⟩⟩))

/-- The settled decision of an executing result runs. -/
theorem executing_of_settled {result : AdjudicateAndAuditResult} {rewritten : Option IntentEnvelope}
    (executes : result.decision.kind = .execute ∨ result.decision.kind = .rewrite)
    (settles : settled host call = .ok (result.decision, rewritten)) :
    executing result.decision rewritten = true := by
  cases decision : result.decision with
  | execute bases => rfl
  | rewrite replacement reason bases =>
      rw [decision] at settles
      rw [settled_rewrite host call settles]
      rfl
  | _ =>
      rw [decision] at executes
      obtain ⟨⟨⟩⟩ | ⟨⟨⟩⟩ := executes

/-- The recorded envelope of an executing result is the one that the kernel let run. -/
theorem executing_cases {trace : List ShellEvent} {result : AdjudicateAndAuditResult}
    (run : Runs (adjudicateAndAudit host call) trace (.ok result)) (executes : result.Executing) :
    ((∃ bases, adjudicate host call.envelope call.state call.kill call.policy =
        .ok (.execute bases)) ∧ result.record.envelope = call.envelope) ∨
      ((∃ prompt bases, adjudicate host call.envelope call.state call.kill call.policy =
          .ok (.requestConfirmation prompt bases)) ∧ call.deps.Covers call.envelope ∧
        result.record.envelope = call.envelope) ∨
      ∃ reason bases second,
        adjudicate host call.envelope call.state call.kill call.policy =
          .ok (.rewrite result.record.envelope reason bases) ∧
        adjudicate host result.record.envelope call.state call.kill call.policy =
          .ok (.execute second) := by
  have kinds := (executing_iff_kind host call run).mp executes
  obtain ⟨-, _, _, suppressed⟩ | ⟨-, _, _, suppressed⟩ | ⟨rewritten, settles, envelope, -⟩ :=
    adjudicateAndAudit_ok host call run
  · rw [suppressed] at kinds
    obtain ⟨⟨⟩⟩ | ⟨⟨⟩⟩ := kinds
  · rw [suppressed] at kinds
    obtain ⟨⟨⟩⟩ | ⟨⟨⟩⟩ := kinds
  rw [envelope]
  obtain ⟨first, rfl⟩ | ⟨first, covered, rfl⟩ |
    ⟨replacement, reason, bases, second, substitutes, again, rfl⟩ :=
    settled_authorized host call settles (executing_of_settled host call kinds settles)
  · exact .inl ⟨first, rfl⟩
  · exact .inr (.inl ⟨first, covered, rfl⟩)
  · exact .inr (.inr ⟨reason, bases, second, substitutes, again⟩)

/-- Every executing result is authorized by the kernel, by a cover for its request, or by the
second pass of its rewrite. -/
theorem executing_authorized {trace : List ShellEvent} {result : AdjudicateAndAuditResult}
    (run : Runs (adjudicateAndAudit host call) trace (.ok result)) (executes : result.Executing) :
    (∃ bases, adjudicate host call.envelope call.state call.kill call.policy =
        .ok (.execute bases)) ∨
      (∃ prompt bases, adjudicate host call.envelope call.state call.kill call.policy =
          .ok (.requestConfirmation prompt bases) ∧ call.deps.Covers call.envelope) ∨
      ∃ rewritten reason bases second,
        adjudicate host call.envelope call.state call.kill call.policy =
          .ok (.rewrite rewritten reason bases) ∧
        adjudicate host rewritten call.state call.kill call.policy = .ok (.execute second) ∧
        result.record.envelope = rewritten ∧ result.record.intentHash = rewritten.intentHash ∧
        ⟨.emit result.record, .ok ()⟩ ∈ trace ∧ ClaimsOnly call.deps rewritten.intentHash trace := by
  have kinds := (executing_iff_kind host call run).mp executes
  obtain ⟨-, _, _, suppressed⟩ | ⟨-, _, _, suppressed⟩ |
    ⟨rewritten, settles, envelope, intentHash, emitted, claims⟩ := adjudicateAndAudit_ok host call run
  · rw [suppressed] at kinds
    obtain ⟨⟨⟩⟩ | ⟨⟨⟩⟩ := kinds
  · rw [suppressed] at kinds
    obtain ⟨⟨⟩⟩ | ⟨⟨⟩⟩ := kinds
  have runs := executing_of_settled host call kinds settles
  obtain ⟨executes, -⟩ | ⟨⟨prompt, bases, asks⟩, covered, -⟩ |
    ⟨replacement, reason, bases, second, substitutes, again, rfl⟩ :=
    settled_authorized host call settles runs
  · exact .inl executes
  · exact .inr (.inl ⟨prompt, bases, asks, covered⟩)
  · exact .inr (.inr ⟨replacement, reason, bases, second, substitutes, again, envelope, intentHash,
      emitted, claims runs⟩)

end

/-- Every proposal passes the taint gate, and silence executes. -/
def openPolicy (stateGuards : List (Guard Unit)) : PolicyBundle Unit where
  stateGuards := stateGuards
  authGuards := []
  taint := { minimumFor := fun _ => .ok .untrusted, requiresUncontaminatedOrigin := none }
  business := []
  default := .execute

/-- The call has a ledger and a rate limit but no tenant. -/
def sampleDeps : AdjudicateAndAuditDeps where
  metadataProvider := false
  signer := none
  ledger := some { release := true }
  resolveResourceVersion := false
  plan := false
  context := none
  policyVersion := none
  kernelVersion := none
  aggregateSnapshot := none
  rateLimitRollback := true
  confirmationReceipt := none
  budgetGrant := none
  supersedes := none

def sampleCall : Call Unit where
  envelope := sampleEnvelope
  state := ()
  policy := openPolicy []
  kill := releasedKill
  deps := sampleDeps

/-- Every dependency succeeds, and the ledger is empty. -/
def calmResponse : (op : Op) → Except Thrown (Op.Response op)
  | .nowMs => .ok 0
  | .nowIso => .ok (utf16 "2026-01-01T00:00:01.000Z")
  | .isKilled => .ok false
  | .killState => .ok releasedKill
  | .checkLedger _ => .ok none
  | .recordExecution _ => .ok .acquired
  | .release _ => .ok ()
  | .recordLedgerOp _ => .ok ()
  | .recordDecision _ => .ok ()
  | .recordRefusal _ => .ok ()
  | .recordOutcome _ => .ok ()
  | .recordSinkFailure _ => .ok ()
  | .plan => .ok none
  | .resolveResourceVersion _ => .ok none
  | .metadataProvider _ => .ok none
  | .emit _ => .ok ()
  | .rateLimitRollback => .ok ()

/-- A calm run returns what its evaluation returns. -/
theorem calm_run {S A : Type} {host : Host} {call : Call S}
    {view : AdjudicateAndAuditResult → A} {value : A}
    (returns : ((adjudicateAndAudit host call).interpret calmResponse).2.map view = .ok value) :
    ∃ trace result, Runs (adjudicateAndAudit host call) trace (.ok result) ∧ view result = value := by
  have run := runs_interpret calmResponse (adjudicateAndAudit host call)
  cases outcome : ((adjudicateAndAudit host call).interpret calmResponse).2 with
  | error raised =>
      rw [outcome] at returns
      cases returns
  | ok result =>
      rw [outcome] at returns run
      exact ⟨_, result, run, Except.ok.inj returns⟩

theorem executing_authorized_sampleCall :
    ∃ trace result, Runs (adjudicateAndAudit sampleHost sampleCall) trace (.ok result) ∧
      result.Executing ∧
      ((∃ bases, adjudicate sampleHost sampleCall.envelope sampleCall.state sampleCall.kill
          sampleCall.policy = .ok (.execute bases)) ∨
        (∃ prompt bases, adjudicate sampleHost sampleCall.envelope sampleCall.state
            sampleCall.kill sampleCall.policy = .ok (.requestConfirmation prompt bases) ∧
          sampleCall.deps.Covers sampleCall.envelope) ∨
        ∃ rewritten reason bases second,
          adjudicate sampleHost sampleCall.envelope sampleCall.state sampleCall.kill
            sampleCall.policy = .ok (.rewrite rewritten reason bases) ∧
          adjudicate sampleHost rewritten sampleCall.state sampleCall.kill sampleCall.policy =
            .ok (.execute second) ∧
          result.record.envelope = rewritten ∧ result.record.intentHash = rewritten.intentHash ∧
          ⟨.emit result.record, .ok ()⟩ ∈ trace ∧
          ClaimsOnly sampleCall.deps rewritten.intentHash trace) := by
  obtain ⟨trace, result, run, kind⟩ := @calm_run Unit DecisionKind sampleHost sampleCall
    (·.decision.kind) .execute (by decide +kernel)
  have executes := (executing_iff_kind sampleHost sampleCall run).mpr (.inl kind)
  exact ⟨trace, result, run, executes, executing_authorized sampleHost sampleCall run executes⟩

end Adjudicate.Shell
