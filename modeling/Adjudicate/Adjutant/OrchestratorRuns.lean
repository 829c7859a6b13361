/-
This file follows the runs of the orchestrator to the executor.
-/

import Adjudicate.Adjutant.Orchestrator

namespace Adjudicate.Adjutant

open Js Canonical Adjudicate.Core Audit Adjudicate.Effect Adjudicate.IncidentResponse
open Adjudicate.Agent (verifyResourceBinding)
open Adjudicate.Shell (AdjudicateAndAuditDeps AdjudicateAndAuditResult adjudicateAndAudit)
open Program (ofExcept)

def Op.Invokes : Op → Prop
  | .invokeIntent _ _ => True
  | _ => False

/-- Neither the executor nor the kernel is reached. -/
def Op.Bookkeeping : Op → Prop
  | .invokeIntent _ _ => False
  | .crossing _ _ => False
  | _ => True

theorem Op.Bookkeeping.calm {op : Op} (bookkeeping : op.Bookkeeping) : ¬op.Invokes := by
  cases op with
  | invokeIntent envelope state => exact bookkeeping.elim
  | _ => exact id

variable {host : Host} {options : RemediationOrchestratorOptions} {state : IncidentState}
  {deps : AdjudicateAndAuditDeps} {trace : List RemediationEvent}

theorem confined_cross (envelope : IntentEnvelope) (state : IncidentState)
    (deps : AdjudicateAndAuditDeps) :
    Confined (fun op => ¬op.Invokes) (cross host envelope state deps) := by
  refine confined_bind (confined_perform id) fun kill => ?_
  exact confined_lift _ fun op => id

theorem confined_lookUp (token : JsString) : Confined Op.Bookkeeping (lookUp options token) := by
  unfold lookUp
  split
  · exact confined_perform trivial
  · trivial

theorem confined_recordProposal (signal : RemediationSignal) (finalEnvelope : IntentEnvelope)
    (finalDecisionKind : Option DecisionKind) (executed : Bool) (pending : Option PendingAction) :
    Confined Op.Bookkeeping
      (recordProposal options signal finalEnvelope finalDecisionKind executed pending) := by
  have status : Confined Op.Bookkeeping
      (proposalStatus options signal finalEnvelope finalDecisionKind executed pending) := by
    unfold proposalStatus
    split
    · trivial
    · split
      · split
        · refine confined_bind (confined_perform trivial) fun approvalToken => ?_
          exact confined_bind (confined_perform trivial) fun _ => trivial
        · trivial
      all_goals trivial
  unfold recordProposal
  split
  · trivial
  · split
    · exact confined_bind status fun _ => confined_perform trivial
    · trivial

theorem confined_settleProposal (args : ResolveArgs) (proposalId : JsString)
    (decision : Option Decision) (executed : Bool) (executorResult : JsValue) :
    Confined Op.Bookkeeping
      (settleProposal options args proposalId decision executed executorResult) := by
  refine confined_bind (confined_perform trivial) fun _ => ?_
  split
  · exact confined_bind (confined_perform trivial) fun _ => trivial
  · exact confined_bind (show Confined _ (.pure _) from trivial) fun _ => trivial

/-- The executor is called only for a bound envelope. -/
theorem invokeBound_run {envelope : IntentEnvelope} {outcome : Except Thrown JsValue}
    (run : Runs (invokeBound host envelope state) trace outcome) :
    (trace = [] ∧ ∃ raised, outcome = .error raised) ∨
      verifyResourceBinding host envelope = .bound ∧
        trace = [⟨.invokeIntent envelope state, outcome⟩] := by
  unfold invokeBound assertResourceBound at run
  cases binding : verifyResourceBinding host envelope with
  | bound =>
      rw [binding] at run
      exact .inr ⟨rfl, runs_perform.mp run⟩
  | unbound derived stored =>
      rw [binding] at run
      obtain ⟨rfl, rfl⟩ := runs_throw.mp run
      exact .inl ⟨rfl, _, rfl⟩

/-- Rewrites lead from one envelope to the next. -/
inductive Rewrites (host : Host) (state : IncidentState) (deps : AdjudicateAndAuditDeps) :
    IntentEnvelope → List RemediationEvent → IntentEnvelope → Prop where
  | done (envelope : IntentEnvelope) : Rewrites host state deps envelope [] envelope
  | pass {envelope rewritten final : IntentEnvelope} {trace later : List RemediationEvent}
      {result : AdjudicateAndAuditResult} {reason : JsString} {bases : List DecisionBasis} :
      Runs (cross host envelope state deps) trace (.ok result) →
      result.decision = .rewrite rewritten reason bases →
      Rewrites host state deps rewritten later final →
      Rewrites host state deps envelope (trace ++ later) final

/-- The kernel executes the envelope, and the executor gets it. -/
structure Invocation (host : Host) (state : IncidentState) (deps : AdjudicateAndAuditDeps)
    (envelope : IntentEnvelope) (trace : List RemediationEvent) (result : AdjudicateAndAuditResult) :
    Prop where
  crossed : Runs (cross host envelope state deps) trace (.ok result)
  executes : result.decision.kind = .execute
  bound : verifyResourceBinding host envelope = .bound

theorem Rewrites.calm {envelope final : IntentEnvelope} {front : List RemediationEvent}
    (rewrites : Rewrites host state deps envelope front final) :
    ∀ event ∈ front, ¬event.op.Invokes := by
  induction rewrites with
  | done => exact List.forall_mem_nil _
  | pass crossed _ _ ih =>
      intro event inside
      obtain own | later := List.mem_append.mp inside
      · exact crossed.confined (confined_cross ..) event own
      · exact ih event later

/-- The passes end without the executor, or with its call for the last envelope of the rewrites. -/
theorem runPasses_run {count : Nat} {passed : Passed} {outcome : Except Thrown Passed}
    (run : Runs (runPasses host options state count passed) trace outcome) :
    (∀ event ∈ trace, ¬event.op.Invokes) ∨
      ∃ front last envelope result answer,
        Rewrites host state options.deps passed.envelope front envelope ∧
        Invocation host state options.deps envelope last result ∧
        trace = front ++ last ++ [⟨.invokeIntent envelope state, answer⟩] := by
  induction count generalizing passed trace with
  | zero =>
      obtain ⟨rfl, -⟩ := runs_pure.mp run
      exact .inl (List.forall_mem_nil _)
  | succ count ih =>
      obtain ⟨before, after, result, rfl, crossed, rest⟩ | ⟨raised, rfl, failed⟩ := runs_bind.mp run
      · have calm := crossed.confined (confined_cross passed.envelope state options.deps)
        have ended {value : Passed} (run : Runs (pure value : RemediationProgram Passed) after
            outcome) : ∀ event ∈ before ++ after, ¬event.op.Invokes := by
          obtain ⟨rfl, -⟩ := runs_pure.mp run
          rwa [List.append_nil]
        cases decision : result.decision with
        | execute bases =>
            rw [decision] at rest
            have executes : result.decision.kind = .execute := by rw [decision]; rfl
            obtain ⟨call, later, answer, rfl, invoked, returned⟩ | ⟨raised, rfl, invoked⟩ :=
              runs_bind.mp rest
            · obtain ⟨-, _, ⟨⟩⟩ | ⟨bound, rfl⟩ := invokeBound_run invoked
              obtain ⟨rfl, -⟩ := runs_pure.mp returned
              exact .inr ⟨[], before, passed.envelope, result, _, .done _,
                ⟨crossed, executes, bound⟩, rfl⟩
            · obtain ⟨rfl, -⟩ | ⟨bound, rfl⟩ := invokeBound_run invoked
              · rw [List.append_nil]
                exact .inl calm
              · exact .inr ⟨[], before, passed.envelope, result, _, .done _,
                  ⟨crossed, executes, bound⟩, rfl⟩
        | rewrite rewritten reason bases =>
            rw [decision] at rest
            obtain quiet | ⟨front, last, envelope, second, answer, rewrites, invocation, rfl⟩ :=
              ih rest
            · exact .inl fun event inside =>
                (List.mem_append.mp inside).elim (calm event) (quiet event)
            · refine .inr ⟨before ++ front, last, envelope, second, answer,
                .pass crossed decision rewrites, invocation, ?_⟩
              simp only [List.append_assoc]
        | _ =>
            rw [decision] at rest
            exact .inl (ended rest)
      · exact .inl (failed.confined (confined_cross passed.envelope state options.deps))

/-- The executor is called at most once for a signal, after all crossings and with the last envelope
of the rewrites. -/
structure Handled (host : Host) (options : RemediationOrchestratorOptions)
    (signal : RemediationSignal) (state : IncidentState) (envelope : IntentEnvelope)
    (before after : List RemediationEvent) : Prop where
  passes : ∃ clock minted front last result,
    mintEnvelope host clock options signal = .ok minted ∧
    Rewrites host state options.deps minted front envelope ∧
    Invocation host state options.deps envelope last result ∧
    before = [⟨.getState, .ok state⟩, ⟨.now, .ok clock⟩] ++ (front ++ last)
  bookkeeping : ∀ event ∈ after, event.op.Bookkeeping

theorem Handled.calm {signal : RemediationSignal} {envelope : IntentEnvelope}
    {before after : List RemediationEvent}
    (handled : Handled host options signal state envelope before after) :
    ∀ event ∈ before, ¬event.op.Invokes := by
  obtain ⟨clock, minted, front, last, result, -, rewrites, invocation, rfl⟩ := handled.passes
  refine List.forall_mem_cons.mpr ⟨id, List.forall_mem_cons.mpr ⟨id, fun event inside => ?_⟩⟩
  change event ∈ front ++ last at inside
  obtain early | late := List.mem_append.mp inside
  · exact rewrites.calm event early
  · exact invocation.crossed.confined (confined_cross ..) event late

theorem handle_run {signal : RemediationSignal} {outcome : Except Thrown RemediationOutcome}
    (run : Runs (handle host options signal) trace outcome) :
    (∀ event ∈ trace, ¬event.op.Invokes) ∨
      ∃ state envelope before answer after,
        trace = before ++ ⟨.invokeIntent envelope state, answer⟩ :: after ∧
        Handled host options signal state envelope before after := by
  obtain ⟨fetched, rest, rfl, fetching⟩ := runs_perform_bind.mp run
  cases fetched with
  | error raised =>
      obtain ⟨rfl, -⟩ := fetching
      exact .inl (List.forall_mem_singleton.mpr id)
  | ok state =>
      obtain ⟨time, rest, rfl, timing⟩ := runs_perform_bind.mp fetching
      cases time with
      | error raised =>
          obtain ⟨rfl, -⟩ := timing
          exact .inl (List.forall_mem_cons.mpr ⟨id, List.forall_mem_singleton.mpr id⟩)
      | ok clock =>
          have opened {later : List RemediationEvent} (calm : ∀ event ∈ later, ¬event.op.Invokes) :
              ∀ event ∈ (⟨.getState, .ok state⟩ : RemediationEvent) :: ⟨.now, .ok clock⟩ :: later,
                ¬event.op.Invokes :=
            List.forall_mem_cons.mpr ⟨id, List.forall_mem_cons.mpr ⟨id, calm⟩⟩
          obtain ⟨minting, passing, envelope, rfl, mints, passes⟩ | ⟨raised, rfl, failed⟩ :=
            runs_bind.mp timing
          · obtain ⟨rfl, minted⟩ := runs_ofExcept.mp mints
            obtain ⟨inside, after, passed, rfl, ran, reported⟩ | ⟨raised, rfl, threw⟩ :=
              runs_bind.mp passes
            · have recorded : ∀ event ∈ after, event.op.Bookkeeping := by
                refine reported.confined (confined_bind (confined_recordProposal ..) fun _ => ?_)
                trivial
              obtain quiet | ⟨front, last, final, result, answer, rewrites, invocation, rfl⟩ :=
                runPasses_run ran
              · refine .inl (opened fun event found => ?_)
                rw [List.nil_append] at found
                exact (List.mem_append.mp found).elim (quiet event) fun late => (recorded event late).calm
              · refine .inr ⟨state, final, _, answer, after, ?_,
                  ⟨clock, envelope, front, last, result, minted.symm, rewrites, invocation, rfl⟩,
                  recorded⟩
                simp only [List.nil_append, List.cons_append, List.append_assoc]
            · obtain quiet | ⟨front, last, final, result, answer, rewrites, invocation, rfl⟩ :=
                runPasses_run threw
              · exact .inl (opened quiet)
              · refine .inr ⟨state, final, _, answer, [], ?_,
                  ⟨clock, envelope, front, last, result, minted.symm, rewrites, invocation, rfl⟩,
                  List.forall_mem_nil _⟩
                simp only [List.nil_append, List.cons_append, List.append_assoc]
          · obtain ⟨rfl, -⟩ := runs_ofExcept.mp failed
            exact .inl (opened (List.forall_mem_nil _))

/-- The executor is called at most once for a resolution, with the envelope of a proposal that
awaits it and an operator accepts. -/
structure Resolved (host : Host) (options : RemediationOrchestratorOptions) (args : ResolveArgs)
    (state : IncidentState) (envelope : IntentEnvelope) (before after : List RemediationEvent) :
    Prop where
  accepted : args.accepted = true
  awaits : ∃ proposal proposalId last result, awaiting (some proposal) = some (proposalId, envelope) ∧
    Invocation host state
      { options.deps with confirmationReceipt := some (resolveReceipt args envelope) } envelope last
      result ∧
    before = [⟨.getByToken args.token, .ok (some proposal)⟩, ⟨.getState, .ok state⟩] ++ last
  bookkeeping : ∀ event ∈ after, event.op.Bookkeeping

theorem Resolved.calm {args : ResolveArgs} {envelope : IntentEnvelope}
    {before after : List RemediationEvent}
    (resolved : Resolved host options args state envelope before after) :
    ∀ event ∈ before, ¬event.op.Invokes := by
  obtain ⟨proposal, proposalId, last, result, -, invocation, rfl⟩ := resolved.awaits
  refine List.forall_mem_cons.mpr ⟨id, List.forall_mem_cons.mpr ⟨id, fun event inside => ?_⟩⟩
  exact invocation.crossed.confined (confined_cross ..) event inside

theorem readjudicateProposal_run {args : ResolveArgs} {envelope : IntentEnvelope}
    {outcome : Except Thrown (Decision × Bool × JsValue)}
    (run : Runs (readjudicateProposal host options args envelope) trace outcome) :
    (∀ event ∈ trace, ¬event.op.Invokes) ∨
      ∃ state last result answer,
        Invocation host state
          { options.deps with confirmationReceipt := some (resolveReceipt args envelope) } envelope
          last result ∧
        trace = ⟨.getState, .ok state⟩ :: (last ++ [⟨.invokeIntent envelope state, answer⟩]) := by
  obtain ⟨fetched, rest, rfl, fetching⟩ := runs_perform_bind.mp run
  cases fetched with
  | error raised =>
      obtain ⟨rfl, -⟩ := fetching
      exact .inl (List.forall_mem_singleton.mpr id)
  | ok state =>
      have opened {later : List RemediationEvent} (calm : ∀ event ∈ later, ¬event.op.Invokes) :
          ∀ event ∈ (⟨.getState, .ok state⟩ : RemediationEvent) :: later, ¬event.op.Invokes :=
        List.forall_mem_cons.mpr ⟨id, calm⟩
      obtain ⟨last, after, result, rfl, crossed, decided⟩ | ⟨raised, rfl, failed⟩ :=
        runs_bind.mp fetching
      · have calm := crossed.confined (confined_cross ..)
        cases decision : result.decision with
        | execute bases =>
            rw [decision] at decided
            have executes : result.decision.kind = .execute := by rw [decision]; rfl
            obtain ⟨call, later, answer, rfl, invoked, returned⟩ | ⟨raised, rfl, invoked⟩ :=
              runs_bind.mp decided
            · obtain ⟨-, _, ⟨⟩⟩ | ⟨bound, rfl⟩ := invokeBound_run invoked
              obtain ⟨rfl, -⟩ := runs_pure.mp returned
              exact .inr ⟨state, last, result, _, ⟨crossed, executes, bound⟩, rfl⟩
            · obtain ⟨rfl, -⟩ | ⟨bound, rfl⟩ := invokeBound_run invoked
              · rw [List.append_nil]
                exact .inl (opened calm)
              · exact .inr ⟨state, last, result, _, ⟨crossed, executes, bound⟩, rfl⟩
        | _ =>
            rw [decision] at decided
            obtain ⟨rfl, -⟩ := runs_pure.mp decided
            rw [List.append_nil]
            exact .inl (opened calm)
      · exact .inl (opened (failed.confined (confined_cross ..)))

theorem lookUp_some {token : JsString} {proposal : Proposal}
    (run : Runs (lookUp options token) trace (.ok (some proposal))) :
    trace = [⟨.getByToken token, .ok (some proposal)⟩] := by
  unfold lookUp at run
  split at run
  · exact runs_perform.mp run
  · obtain ⟨-, ⟨⟩⟩ := runs_pure.mp run

theorem resolve_run {args : ResolveArgs} {outcome : Except Thrown RemediationResolution}
    (run : Runs (resolve host options args) trace outcome) :
    (∀ event ∈ trace, ¬event.op.Invokes) ∨
      ∃ state envelope before answer after,
        trace = before ++ ⟨.invokeIntent envelope state, answer⟩ :: after ∧
        Resolved host options args state envelope before after := by
  obtain ⟨looking, rest, found, rfl, looked, resolving⟩ | ⟨raised, rfl, failed⟩ :=
    runs_bind.mp run
  · have quiet : ∀ event ∈ looking, ¬event.op.Invokes :=
      fun event inside => (looked.confined (confined_lookUp args.token) event inside).calm
    have joined {later : List RemediationEvent} (calm : ∀ event ∈ later, ¬event.op.Invokes) :
        ∀ event ∈ looking ++ later, ¬event.op.Invokes :=
      fun event inside => (List.mem_append.mp inside).elim (quiet event) (calm event)
    have settled {proposalId : JsString} {decision : Option Decision} {executed : Bool}
        {executorResult : JsValue} {after : List RemediationEvent}
        {outcome : Except Thrown RemediationResolution}
        (run : Runs (settleProposal options args proposalId decision executed executorResult) after
          outcome) : ∀ event ∈ after, event.op.Bookkeeping :=
      run.confined (confined_settleProposal ..)
    cases pending : awaiting found with
    | none =>
        rw [pending] at resolving
        obtain ⟨rfl, -⟩ := runs_pure.mp resolving
        exact .inl (joined (List.forall_mem_nil _))
    | some entry =>
        obtain ⟨proposalId, envelope⟩ := entry
        rw [pending] at resolving
        dsimp only at resolving
        split at resolving
        · next accepted =>
            obtain ⟨proposal, rfl⟩ : ∃ proposal, found = some proposal := by
              cases found with
              | none => cases pending
              | some proposal => exact ⟨proposal, rfl⟩
            obtain ⟨again, after, answered, rfl, ran, settling⟩ | ⟨raised, rfl, threw⟩ :=
              runs_bind.mp resolving
            · obtain calm | ⟨state, last, result, answer, invocation, rfl⟩ :=
                readjudicateProposal_run ran
              · refine .inl (joined fun event inside => ?_)
                exact (List.mem_append.mp inside).elim (calm event)
                  fun late => (settled settling event late).calm
              · refine .inr ⟨state, envelope, _, answer, after, ?_, accepted,
                  ⟨proposal, proposalId, last, result, pending, invocation, rfl⟩, settled settling⟩
                rw [lookUp_some looked]
                simp only [List.nil_append, List.cons_append, List.append_assoc]
            · obtain calm | ⟨state, last, result, answer, invocation, rfl⟩ :=
                readjudicateProposal_run threw
              · exact .inl (joined calm)
              · refine .inr ⟨state, envelope, _, answer, [], ?_, accepted,
                  ⟨proposal, proposalId, last, result, pending, invocation, rfl⟩,
                  List.forall_mem_nil _⟩
                rw [lookUp_some looked]
                simp only [List.nil_append, List.cons_append]
        · exact .inl (joined fun event inside => (settled resolving event inside).calm)
  · exact .inl fun event inside => (failed.confined (confined_lookUp args.token) event inside).calm

end Adjudicate.Adjutant
