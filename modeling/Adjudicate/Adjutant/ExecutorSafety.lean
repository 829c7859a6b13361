/-
This file shows what the orchestrator hands to the executor.
-/

import Adjudicate.Adjutant.OrchestratorRuns
import Adjudicate.Agent.AuditedExecution
import Adjudicate.IncidentResponse.Remediation
import Adjudicate.Shell.Authorization

namespace Adjudicate.Adjutant

open Js Canonical Adjudicate.Core Audit Adjudicate.Effect Adjudicate.IncidentResponse
open Adjudicate.Kernel (KillSwitchState Yields RewritesTo actionable_rewritesTo actionable_execute
  adjudicate releasedKill)
open Adjudicate.Primitives (remint remint_fields withField)
open Adjudicate.Shell (AdjudicateAndAuditDeps AdjudicateAndAuditResult ShellEvent adjudicateAndAudit)

section Crossing

variable {host : Host} {state : IncidentState} {deps : AdjudicateAndAuditDeps}
  {envelope : IntentEnvelope} {result : AdjudicateAndAuditResult}

/-- A returning call answers with the kernel's decision, or turns its request into an execution. -/
theorem kernel_answers {call : Shell.Call IncidentState} {trace : List ShellEvent}
    (run : Runs (adjudicateAndAudit host call) trace (.ok result))
    (acts : result.decision.kind = .execute ∨ result.decision.kind = .rewrite) :
    adjudicate host call.envelope call.state call.kill call.policy = .ok result.decision ∨
      result.decision.kind = .execute ∧ call.deps.Covers call.envelope ∧
        Yields (·.kind = .requestConfirmation)
          (adjudicate host call.envelope call.state call.kill call.policy) := by
  obtain ⟨-, _, _, suppressed⟩ | ⟨-, _, _, suppressed⟩ | ⟨rewritten, settles, -⟩ :=
    Shell.adjudicateAndAudit_ok host call run
  · rw [suppressed] at acts
    obtain ⟨⟨⟩⟩ | ⟨⟨⟩⟩ := acts
  · rw [suppressed] at acts
    obtain ⟨⟨⟩⟩ | ⟨⟨⟩⟩ := acts
  obtain ⟨first, answers, passed⟩ := (Shell.settled_eq_ok host call).mp settles
  obtain same | ⟨asks, covered, executes⟩ := Shell.overridden_cases call first
  · rw [same] at passed
    obtain ⟨-, decision, -⟩ | ⟨replacement, reason, bases, again, -, -, ⟨-, decision, -⟩ |
      ⟨-, looped, -⟩ | ⟨calm, steady, decision, -⟩⟩ := Shell.readjudicated_ok host call passed
    · exact .inl (decision ▸ answers)
    · exact .inl (decision ▸ answers)
    · rw [looped] at acts
      obtain ⟨⟨⟩⟩ | ⟨⟨⟩⟩ := acts
    · rw [decision] at acts
      exact (acts.elim calm steady).elim
  · obtain ⟨-, decision, -⟩ | ⟨replacement, reason, bases, again, rewrites, -⟩ :=
      Shell.readjudicated_ok host call passed
    · exact .inr ⟨decision ▸ executes, covered, first, answers, asks⟩
    · rw [rewrites] at executes
      cases executes

theorem crossed_run {trace : List RemediationEvent}
    (crossed : Runs (cross host envelope state deps) trace (.ok result)) :
    ∃ kill inner, trace = ⟨.killSwitch, .ok kill⟩ ::
        inner.map (Event.lift (.crossing ⟨envelope, state, policyOf host, kill, deps⟩)) ∧
      Runs (adjudicateAndAudit host ⟨envelope, state, policyOf host, kill, deps⟩) inner
        (.ok result) := by
  obtain ⟨read, later, kill, rfl, switched, lifted⟩ := runs_bind_ok.mp crossed
  obtain ⟨inner, rfl, ran⟩ := runs_lift.mp lifted
  exact ⟨kill, inner, by rw [runs_perform.mp switched]; rfl, ran⟩

end Crossing

/-- The call of a signal carries no receipt and no budget. -/
theorem deps_uncovered (options : RemediationOrchestratorOptions) (envelope : IntentEnvelope) :
    ¬options.deps.Covers envelope := by
  rintro (⟨receipt, ⟨⟩, -⟩ | ⟨grant, ⟨⟩, -⟩)

/-- The clamp changes the radius of a payload and nothing else. -/
theorem withField_remediationPayload (signal : RemediationSignal) (radius : JsNumber) :
    withField (remediationPayload signal) "blastRadius" (.num radius) =
      remediationPayload { signal with blastRadius := radius } := by
  rfl

theorem mintEnvelope_fields {host : Host} {clock : JsString}
    {options : RemediationOrchestratorOptions} {signal : RemediationSignal} {minted : IntentEnvelope}
    (mints : mintEnvelope host clock options signal = .ok minted) :
    minted.kind = (mintInput options signal).kind ∧
      minted.payload = (mintInput options signal).payload ∧
      minted.taint = (mintInput options signal).taint := by
  obtain ⟨fields, -, -⟩ := buildEnvelope_eq_ok.mp mints
  rw [fields]
  exact ⟨rfl, rfl, rfl⟩

section Signal

variable {host : Host} {options : RemediationOrchestratorOptions} {signal : RemediationSignal}
  {state : IncidentState} {clock : JsString} {minted envelope : IntentEnvelope}
  {trace : List RemediationEvent} {result : AdjudicateAndAuditResult}

/-- A decision of the kernel that lets an envelope of a signal go on is the pack's own. -/
theorem crossed_yields {wanted : Decision → Prop}
    (crossed : Runs (cross host envelope state options.deps) trace (.ok result))
    (holds : wanted result.decision)
    (acts : result.decision.kind = .execute ∨ result.decision.kind = .rewrite) :
    ∃ kill, Yields wanted (adjudicate host envelope state kill (policyOf host)) := by
  obtain ⟨kill, inner, -, ran⟩ := crossed_run crossed
  obtain answers | ⟨-, covered, -⟩ := kernel_answers ran acts
  · exact ⟨kill, result.decision, answers, holds⟩
  · exact (deps_uncovered options envelope covered).elim

/-- A rewritten envelope is the clamped one of a signal above the cap. -/
structure Clamped (host : Host) (signal : RemediationSignal) (minted envelope : IntentEnvelope) :
    Prop where
  safe : signal.disposition = .safe
  exceeds : signal.blastRadius.atMost autoRemediationBlastCap = false
  reminted : remint host [] minted
    (remediationPayload { signal with blastRadius := autoRemediationBlastCap }) = .ok envelope

/-- Every envelope of a signal that asks for no escalation asks for its remediation. -/
theorem minted_remediation (mints : mintEnvelope host clock options signal = .ok minted)
    (automatic : signal.disposition ≠ .manual) :
    minted.kind = remediationKind ∧ minted.payload = remediationPayload signal ∧
      radiusOf minted = .num signal.blastRadius := by
  obtain ⟨kind, payload, -⟩ := mintEnvelope_fields mints
  rw [mintInput] at kind payload
  simp only [automatic, if_false] at kind payload
  refine ⟨kind, payload, ?_⟩
  rw [radiusOf, payload]
  rfl

theorem minted_escalation (mints : mintEnvelope host clock options signal = .ok minted)
    (manual : signal.disposition = .manual) :
    minted.kind = escalationKind ∧ minted.payload = escalationPayload signal := by
  obtain ⟨kind, payload, -⟩ := mintEnvelope_fields mints
  rw [mintInput] at kind payload
  simp only [manual, if_true] at kind payload
  exact ⟨kind, payload⟩

theorem minted_safe (mints : mintEnvelope host clock options signal = .ok minted) :
    minted.taint ≠ .trusted ↔ signal.disposition = .safe := by
  obtain ⟨-, -, taint⟩ := mintEnvelope_fields mints
  rw [taint, mintInput]
  dsimp only
  split
  · next safe => exact iff_of_true (by decide) safe
  · next other => exact iff_of_false (fun trusted => trusted rfl) other

theorem crossed_clamps (mints : mintEnvelope host clock options signal = .ok minted)
    (crossed : Runs (cross host minted state options.deps) trace (.ok result))
    {reason : JsString} {bases : List DecisionBasis}
    (decision : result.decision = .rewrite envelope reason bases) :
    Clamped host signal minted envelope := by
  obtain ⟨kill, rewrites⟩ : ∃ kill, Yields (RewritesTo envelope)
      (adjudicate host minted state kill (policyOf host)) :=
    crossed_yields crossed ⟨reason, bases, decision⟩ (by rw [decision]; exact .inr rfl)
  by_cases manual : signal.disposition = .manual
  · obtain ⟨⟨_, _, _, ⟨⟩⟩, -⟩ :=
      escalation_goesOn (minted_escalation mints manual).1 (actionable_rewritesTo envelope) rewrites
  · obtain ⟨kind, payload, present⟩ := minted_remediation mints manual
    obtain ⟨-, decides, reminted⟩ := (remediation_rewrites kind).mp rewrites
    obtain ⟨radius, aimed, -, clamps⟩ := radius_of_decision decides (by decide) (by decide)
    obtain ⟨untrusted, exceeds⟩ := radiusDecision_rewrite.mp clamps
    obtain rfl := JsValue.num.inj (aimed.present.symm.trans present)
    rw [payload, withField_remediationPayload] at reminted
    exact ⟨(minted_safe mints).mp untrusted, exceeds, reminted⟩

/-- A clamped envelope keeps its kind and its taint. -/
theorem Clamped.fields (clamped : Clamped host signal minted envelope)
    (mints : mintEnvelope host clock options signal = .ok minted) :
    envelope.kind = remediationKind ∧ envelope.taint = minted.taint ∧
      envelope.payload =
        remediationPayload { signal with blastRadius := autoRemediationBlastCap } ∧
      radiusOf envelope = .num autoRemediationBlastCap := by
  have automatic : signal.disposition ≠ .manual := by
    rw [clamped.safe]
    decide
  have fields := (remint_fields clamped.reminted).1
  refine ⟨?_, by rw [fields], by rw [fields], ?_⟩
  · rw [fields]
    exact (minted_remediation mints automatic).1
  · rw [radiusOf, fields]
    rfl

/-- The rewrites of a signal come to their end after the clamp. -/
theorem rewrites_signal {front : List RemediationEvent}
    (mints : mintEnvelope host clock options signal = .ok minted)
    (rewrites : Rewrites host state options.deps minted front envelope) :
    (envelope = minted ∧ front = []) ∨
      Clamped host signal minted envelope ∧ ∃ first reason bases,
        Runs (cross host minted state options.deps) front (.ok first) ∧
        first.decision = .rewrite envelope reason bases := by
  cases rewrites with
  | done => exact .inl ⟨rfl, rfl⟩
  | pass crossed decision later =>
      have clamped := crossed_clamps mints crossed decision
      cases later with
      | done => exact .inr ⟨clamped, _, _, _, by rwa [List.append_nil], decision⟩
      | @pass _ again _ trace _ second reason bases crossedAgain decisionAgain =>
          obtain ⟨kind, -, -, present⟩ := clamped.fields mints
          obtain ⟨kill, rewrites⟩ : ∃ kill, Yields (RewritesTo again)
              (adjudicate host _ state kill (policyOf host)) :=
            crossed_yields crossedAgain ⟨reason, bases, decisionAgain⟩
              (by rw [decisionAgain]; exact .inr rfl)
          obtain ⟨-, decides, -⟩ := (remediation_rewrites kind).mp rewrites
          obtain ⟨radius, aimed, -, clamps⟩ := radius_of_decision decides (by decide) (by decide)
          obtain ⟨-, exceeds⟩ := radiusDecision_rewrite.mp clamps
          obtain rfl := JsValue.num.inj (aimed.present.symm.trans present)
          exact absurd exceeds (by decide +kernel)

/-- The incident of the signal is live, and its remediation does not wait for a dependency. -/
structure Ready (state : IncidentState) (signal : RemediationSignal) : Prop where
  incident : ∃ incident, state.incidents.lookup signal.incidentId = some incident ∧
    incident.status ≠ .resolved ∧
    (signal.disposition ≠ .manual → .down ∉ incident.dependencies)

/-- This is the radius that a signal ends up with. -/
def finalRadius (signal : RemediationSignal) : JsNumber :=
  if signal.disposition = .safe ∧ signal.blastRadius.atMost autoRemediationBlastCap = false then
    autoRemediationBlastCap
  else signal.blastRadius

/-- The executor may get a remediation with the final radius of the signal, below the radius that
needs a confirmation, or the escalation of the signal. -/
structure Sanctioned (host : Host) (signal : RemediationSignal) (state : IncidentState)
    (envelope : IntentEnvelope) : Prop where
  derives : deriveIntentHash host envelope = .ok envelope.intentHash
  ready : Ready state signal
  manual : signal.disposition = .manual →
    envelope.kind = escalationKind ∧ envelope.payload = escalationPayload signal
  automatic : signal.disposition ≠ .manual → envelope.kind = remediationKind ∧
    envelope.payload = remediationPayload { signal with blastRadius := finalRadius signal } ∧
    isBlastRadius (.num (finalRadius signal)) = true ∧
    confirmBlastRadius.atMost (finalRadius signal) = false ∧
    (signal.disposition = .safe → (finalRadius signal).atMost autoRemediationBlastCap = true)

theorem ready_of_target {incident : Incident}
    (found : state.incidentOf (.str signal.incidentId) = some incident)
    (live : isTerminal incident.status = false)
    (up : signal.disposition ≠ .manual → incident.dependencies.contains .down = false) :
    Ready state signal := by
  refine ⟨incident, found, of_decide_eq_false live, fun automatic down => ?_⟩
  have waiting := up automatic
  rw [List.contains_iff_mem.mpr down] at waiting
  cases waiting

/-- A remediation that the pack executes is sanctioned when it carries the final radius. -/
theorem sanctioned_of_execute {kill : KillSwitchState} (automatic : signal.disposition ≠ .manual)
    (kind : envelope.kind = remediationKind)
    (payload : envelope.payload =
      remediationPayload { signal with blastRadius := finalRadius signal })
    (executes : Yields (·.kind = .execute)
      (adjudicate host envelope state kill (policyOf host))) :
    Sanctioned host signal state envelope := by
  obtain ⟨cleared, radius, ⟨⟨incident, found, live⟩, present, whole⟩, up, within⟩ :=
    remediation_goesOn kind (by decide) (by decide) (by decide) executes
  have named : state.incidentOf (.str signal.incidentId) = some incident := by
    rwa [payload] at found
  rw [radiusOf, payload] at present
  obtain rfl : finalRadius signal = radius := JsValue.num.inj present
  refine ⟨cleared.verified.2.2, ready_of_target named live fun _ => ?_,
    fun manual => (automatic manual).elim,
    fun _ => ⟨kind, payload, whole, (radiusDecision_execute within).2, fun safe => ?_⟩⟩
  · rwa [waits_of_found (by rw [payload]; exact named)] at up
  · rw [finalRadius]
    split
    · decide +kernel
    · next small =>
        by_contra exceeds
        exact small ⟨safe, Bool.not_eq_true _ ▸ exceeds⟩

theorem sanctioned {front last : List RemediationEvent}
    (mints : mintEnvelope host clock options signal = .ok minted)
    (rewrites : Rewrites host state options.deps minted front envelope)
    (invocation : Invocation host state options.deps envelope last result) :
    Sanctioned host signal state envelope := by
  obtain ⟨kill, executes⟩ : ∃ kill, Yields (·.kind = .execute)
      (adjudicate host envelope state kill (policyOf host)) :=
    crossed_yields invocation.crossed invocation.executes (.inl invocation.executes)
  obtain ⟨rfl, -⟩ | ⟨clamped, -⟩ := rewrites_signal mints rewrites
  · by_cases manual : signal.disposition = .manual
    · obtain ⟨kind, payload⟩ := minted_escalation mints manual
      obtain ⟨-, cleared, incident, found, live⟩ :=
        escalation_goesOn kind actionable_execute executes
      rw [payload] at found
      exact ⟨cleared.verified.2.2, ready_of_target found live fun automatic => (automatic manual).elim,
        fun _ => ⟨kind, payload⟩, fun automatic => (automatic manual).elim⟩
    · obtain ⟨kind, payload, present⟩ := minted_remediation mints manual
      have unclamped : finalRadius signal = signal.blastRadius := by
        obtain ⟨-, radius, aimed, -, within⟩ :=
          remediation_goesOn kind (by decide) (by decide) (by decide) executes
        obtain rfl := JsValue.num.inj (aimed.present.symm.trans present)
        rw [finalRadius, if_neg]
        rintro ⟨safe, exceeds⟩
        have fits := (radiusDecision_execute within).1 ((minted_safe mints).mpr safe)
        rw [exceeds] at fits
        cases fits
      exact sanctioned_of_execute manual kind (by rw [unclamped]; exact payload) executes
  · obtain ⟨kind, -, payload, -⟩ := clamped.fields mints
    have capped : finalRadius signal = autoRemediationBlastCap :=
      if_pos ⟨clamped.safe, clamped.exceeds⟩
    refine sanctioned_of_execute ?_ kind (by rw [capped]; exact payload) executes
    rw [clamped.safe]
    decide

end Signal

/-- The canonical text of a remediation that differs in who proposes it and in its radius. -/
def remediationText (principal taint blastRadius : JsString) : JsString :=
  utf16 "\x7b\"actor\":\x7b\"principal\":\"" ++ principal ++ utf16 "\",\"sessionId\":\"i-1\"\x7d," ++
    utf16 "\"kind\":\"incident.remediation.execute\",\"nonce\":\"n-1\",\"origin\":\"LLM\"," ++
    utf16 "\"payload\":\x7b\"action\":\"restart\",\"blastRadius\":" ++ blastRadius ++
    utf16 ",\"incidentId\":\"i-1\"\x7d,\"taint\":\"" ++ taint ++ utf16 "\",\"version\":2\x7d"

/-- The digests are the SHA-256 digests of the texts. -/
def remediationHost : Host :=
  .ofAsciiDigests
    [(remediationText "llm" "UNTRUSTED" "12",
        "e3e91be2623042a001fe4a23681bd7f0d0eb0ed38f6cf17cac64b9f3dc875063"),
      (remediationText "llm" "UNTRUSTED" "5",
        "ce2958cda56ff9a0a9553755816a2d3b213c0b7af1918bd564ddaf5073ba854f"),
      (remediationText "user" "TRUSTED" "12",
        "b4e17b55b792c8116873bf16b7a0394fb3a3590220633b77853443bb94f35673")]

/-- The incident of the samples is open. -/
def openIncident : IncidentState where
  incidents := [("i-1", ⟨.open, [.up]⟩)]
  authority := none

def sampleSignal (disposition : RemediationDisposition) (blastRadius : JsNumber) :
    RemediationSignal where
  incidentId := "i-1"
  action := "restart"
  blastRadius := blastRadius
  disposition := disposition
  reason := none
  nonce := "n-1"
  «at» := some "2026-01-01T00:00:00.000Z"

def sampleOptions (ledger : Option Shell.LedgerPort) : RemediationOrchestratorOptions where
  ledger := ledger
  actor := none
  maxPasses := none
  approvalRegistry := true
  proposalStore := true

/-- A review of the operator waits under its token. -/
def awaitingProposal : Proposal where
  proposalId := "n-1"
  incidentId := "i-1"
  action := "restart"
  blastRadius := 12
  disposition := .review
  status := .pendingReview
  approvalToken := some "t-1"
  intentHash := some "b4e17b55b792c8116873bf16b7a0394fb3a3590220633b77853443bb94f35673"
  envelope := (mintEnvelope remediationHost "2026-01-01T00:00:00.000Z" (sampleOptions none)
    (sampleSignal .review 12)).toOption
  createdAt := "2026-01-01T00:00:00.000Z"
  updatedAt := "2026-01-01T00:00:00.000Z"

def sampleResolution : ResolveArgs where
  token := "t-1"
  accepted := true
  «by» := some ⟨"op-1", none⟩
  «at» := "2026-01-01T00:00:02.000Z"

/-- Nothing fails. -/
def calmAnswer : (op : Op) → Except Thrown op.Response
  | .now => .ok (utf16 "2026-01-01T00:00:00.000Z")
  | .killSwitch => .ok releasedKill
  | .getState => .ok openIncident
  | .crossing _ op => Shell.calmResponse op
  | .invokeIntent _ _ => .ok .undefined
  | .generateToken => .ok (utf16 "t-1")
  | .putApproval _ _ => .ok ()
  | .putProposal _ => .ok ()
  | .getByToken _ => .ok (some awaitingProposal)
  | .markProposal _ _ _ => .ok ()
  | .markApproval _ _ _ _ => .ok none

/-- Whether the executor was called is seen in the evaluation. -/
def Op.invokes : Op → Bool
  | .invokeIntent _ _ => true
  | _ => false

/-- A trace splits at a call of its executor. -/
theorem split_of_invokes {trace : List RemediationEvent}
    (called : trace.any (fun event => event.op.invokes) = true) :
    ∃ before envelope state answer after,
      trace = before ++ ⟨.invokeIntent envelope state, answer⟩ :: after := by
  obtain ⟨⟨op, answer⟩, inside, invokes⟩ := List.any_eq_true.mp called
  obtain ⟨before, after, split⟩ := List.append_of_mem inside
  cases op with
  | invokeIntent envelope state => exact ⟨before, envelope, state, answer, after, split⟩
  | _ => cases invokes

/-- Whatever happens, a signal reaches the executor at most once, with what the pack sanctions in the
state that was read for it. -/
theorem handle_invokes {host : Host} {options : RemediationOrchestratorOptions}
    {signal : RemediationSignal} {trace before after : List RemediationEvent}
    {outcome : Except Thrown RemediationOutcome} {envelope : IntentEnvelope} {state : IncidentState}
    {answer : Except Thrown JsValue}
    (run : Runs (handle host options signal) trace outcome)
    (split : trace = before ++ ⟨.invokeIntent envelope state, answer⟩ :: after) :
    (∀ event ∈ before ++ after, ¬event.op.Invokes) ∧ ⟨.getState, .ok state⟩ ∈ before ∧
      Sanctioned host signal state envelope := by
  obtain calm | ⟨state', envelope', before', answer', after', whole, handled⟩ := handle_run run
  · exact (calm ⟨.invokeIntent envelope state, answer⟩ (by rw [split]; simp) trivial).elim
  obtain ⟨clock, minted, front, last, result, mints, rewrites, invocation, opened⟩ := handled.passes
  have late : ∀ event ∈ after', ¬event.op.Invokes :=
    fun event inside => (handled.bookkeeping event inside).calm
  obtain ⟨rfl, same, rfl⟩ := split_unique (split.symm.trans whole) trivial handled.calm late
  cases same
  refine ⟨fun event inside => ?_, ?_, sanctioned mints rewrites invocation⟩
  · exact (List.mem_append.mp inside).elim (handled.calm event) (late event)
  · rw [opened]
    exact List.mem_cons_self

/-- Without a ledger the clamped remediation goes to the executor in the second pass. -/
theorem handle_invokes_clamped :
    ∃ trace outcome before envelope state answer after,
      Runs (handle remediationHost (sampleOptions none) (sampleSignal .safe 12)) trace outcome ∧
      trace = before ++ ⟨.invokeIntent envelope state, answer⟩ :: after ∧
      (∀ event ∈ before ++ after, ¬event.op.Invokes) ∧
      Sanctioned remediationHost (sampleSignal .safe 12) state envelope := by
  have run := runs_interpret calmAnswer (handle remediationHost (sampleOptions none) (sampleSignal .safe 12))
  have called : ((handle remediationHost (sampleOptions none) (sampleSignal .safe 12)).interpret
      calmAnswer).1.any (fun event => event.op.invokes) = true := by
    unfold remediationHost remediationText
    repeat rw [utf16_ofList]
    decide +kernel
  obtain ⟨before, envelope, state, answer, after, split⟩ := split_of_invokes called
  obtain ⟨others, -, sanctioned⟩ := handle_invokes run split
  exact ⟨_, _, before, envelope, state, answer, after, run, split, others, sanctioned⟩

/-- What an accepted resolution may hand to the executor. -/
structure Confirmed (host : Host) (state : IncidentState) (envelope : IntentEnvelope) : Prop where
  derives : deriveIntentHash host envelope = .ok envelope.intentHash
  remediation : envelope.kind = remediationKind → ∃ radius, Aimed state envelope radius ∧
    waits state envelope = false ∧ escalateBlastRadius.atMost radius = false ∧
    (envelope.taint ≠ .trusted → radius.atMost autoRemediationBlastCap = true)

theorem radius_unescalated {radius : JsNumber} (small : confirmBlastRadius.atMost radius = false) :
    escalateBlastRadius.atMost radius = false := by
  have ordered : confirmBlastRadius.atMost escalateBlastRadius = true := by decide +kernel
  by_contra large
  rw [JsNumber.atMost_trans ordered (Bool.not_eq_false _ ▸ large)] at small
  cases small

theorem awaiting_some {proposal : Proposal} {proposalId : JsString} {envelope : IntentEnvelope}
    (awaits : awaiting (some proposal) = some (proposalId, envelope)) :
    proposal.status = .pendingReview ∧ proposal.envelope = some envelope := by
  cases held : proposal.envelope with
  | none => simp [awaiting, held] at awaits
  | some stored =>
      simp only [awaiting, held, Option.bind_eq_bind, Option.bind_some] at awaits
      split at awaits
      · next pending =>
          cases awaits
          exact ⟨pending, rfl⟩
      · cases awaits

/-- The pack executes what it confirms, or asks for the confirmation that the receipt holds. -/
theorem confirmed {host : Host} {state : IncidentState} {deps : AdjudicateAndAuditDeps}
    {envelope : IntentEnvelope} {last : List RemediationEvent} {result : AdjudicateAndAuditResult}
    (invocation : Invocation host state deps envelope last result) :
    Confirmed host state envelope := by
  refine ⟨Agent.derives_of_bound invocation.bound, fun kind => ?_⟩
  obtain ⟨kill, inner, -, ran⟩ := crossed_run invocation.crossed
  obtain answers | ⟨-, -, asks⟩ := kernel_answers ran (.inl invocation.executes)
  · obtain ⟨-, radius, aimed, up, within⟩ := remediation_goesOn kind (by decide) (by decide)
      (by decide) ⟨result.decision, answers, invocation.executes⟩
    have limits := radiusDecision_execute within
    exact ⟨radius, aimed, up, radius_unescalated limits.2, limits.1⟩
  · obtain ⟨-, radius, aimed, up, within⟩ := remediation_goesOn kind (by decide) (by decide)
      (by decide) asks
    have limits := radiusDecision_asks within
    exact ⟨radius, aimed, up, limits.2, limits.1⟩

end Adjudicate.Adjutant
