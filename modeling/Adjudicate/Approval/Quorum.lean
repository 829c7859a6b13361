/-
This file proves quorum and separation of duty over every sequence of resolutions of one token.
-/

import Adjudicate.Approval.Resolution

namespace Adjudicate.Approval

open Js Adjudicate.Core Adjudicate.Effect

structure ResolveCall where
  input : ResolveInput
  trace : List EngineEvent
  outcome : Except ApprovalThrown (Option ApprovalRequest × Option JsValue)

/-- The resolutions of one token run one after the other; the last one comes first. -/
inductive History (opts : ApprovalEngineOptions) (start : ApprovalRequest) :
    List ResolveCall → Option ApprovalRequest → Prop where
  | start : History opts start [] (some start)
  | expire {calls : List ResolveCall} {entry : Option ApprovalRequest} :
      History opts start calls entry → History opts start calls none
  | resolve {calls : List ResolveCall} {before after : Option ApprovalRequest}
      {input : ResolveInput} {trace : List EngineEvent}
      {outcome : Except ApprovalThrown (Option ApprovalRequest × Option JsValue)} :
      History opts start calls before → input.token = start.token →
      Executes RegistryStep before (Approval.resolve opts input) trace outcome after →
      History opts start (⟨input, trace, outcome⟩ :: calls) after

section History

variable {opts : ApprovalEngineOptions} {start : ApprovalRequest} {calls : List ResolveCall}
  {entry : Option ApprovalRequest}

/-- An accepted resolution has cast the vote, and the check has examined its voter. -/
def CastBy (opts : ApprovalEngineOptions) (start : ApprovalRequest) (calls : List ResolveCall)
    (id : JsString) : Prop :=
  ∃ call ∈ calls, call.input.accepted = true ∧ (voter call.input).map (·.id) = some id ∧
    (opts.enforceSeparationOfDuty = true → Examined opts call.input start.requestedBy id)

/-- The request keeps its proposer and counts only votes that were cast. -/
def Honest (opts : ApprovalEngineOptions) (start : ApprovalRequest) (calls : List ResolveCall)
    (request : ApprovalRequest) : Prop :=
  request.requestedBy = start.requestedBy ∧
    ∀ vote ∈ request.approvals.getD [], CastBy opts start calls vote.id

structure Standing (opts : ApprovalEngineOptions) (start : ApprovalRequest)
    (calls : List ResolveCall) (entry : Option ApprovalRequest) : Prop where
  honest : ∀ request ∈ entry, Honest opts start calls request
  closed : ∀ call ∈ calls, turned call.outcome = true → Closed entry
  once : (calls.filter (turned ·.outcome)).length ≤ 1

/-- The agent was asked to go on with an accepted confirmation. -/
def ConfirmsAccepted (trace : List EngineEvent) : Prop :=
  ∃ event ∈ trace, ∃ confirmed, event.op = .confirm confirmed ∧ confirmed.accepted = true

/-- The quorum stands behind the confirmation, and its examined approver is bound and recorded. -/
structure Separated (opts : ApprovalEngineOptions) (start : ApprovalRequest)
    (earlier : List ResolveCall) (call : ResolveCall) : Prop where
  quorum : ∀ policy ∈ opts.quorum, ∃ ids : List JsString, policy.minApprovals ≤ ids.length ∧
    (policy.distinct = true → ids.Nodup) ∧ ∀ id ∈ ids,
      start.requestedBy.map (·.id) ≠ some id ∧ CastBy opts start (call :: earlier) id
  duty : opts.enforceSeparationOfDuty = true → ∃ id,
    Examined opts call.input start.requestedBy id ∧
      (∀ event ∈ call.trace, ∀ confirmed, event.op = .confirm confirmed →
        ∃ binding ∈ confirmed.binding, binding.approver = some ⟨id, none⟩) ∧
      ∀ event ∈ call.trace, ∀ token resolvedBy,
        event.op = .markResolved token .approved resolvedBy → resolvedBy.map (·.id) = some id

/-- An attestation is supplied only to an engine that verifies it. -/
def Attested (opts : ApprovalEngineOptions) (input : ResolveInput) : Prop :=
  input.attestation ≠ none → opts.attestationVerifier = true

theorem voter_examined {input : ResolveInput} (attested : Attested opts input) :
    (voter input).map (·.id) = approverId opts input := by
  rw [voter, approverId]
  cases supplied : input.attestation with
  | none => simp
  | some att => simp [attested (by rw [supplied]; exact nofun)]

theorem effectiveBy_examined {input : ResolveInput} (attested : Attested opts input) :
    (effectiveBy opts input).map (·.id) = approverId opts input := by
  rw [effectiveBy, approverId]
  cases supplied : input.attestation with
  | none => cases opts.attestationVerifier <;> simp
  | some att => simp [attested (by rw [supplied]; exact nofun)]

theorem CastBy.mono {id : JsString} (cast : CastBy opts start calls id) (call : ResolveCall) :
    CastBy opts start (call :: calls) id := by
  obtain ⟨other, member, facts⟩ := cast
  exact ⟨other, List.mem_cons_of_mem _ member, facts⟩

theorem Honest.mono {request : ApprovalRequest} (honest : Honest opts start calls request)
    (call : ResolveCall) : Honest opts start (call :: calls) request :=
  ⟨honest.1, fun vote member => (honest.2 vote member).mono call⟩

/-- Reading the registry and verifying an attestation write nothing. -/
theorem Standing.read {before after : Option ApprovalRequest} {trace : List EngineEvent}
    {token : JsString} (standing : Standing opts start calls before)
    (leads : Leads RegistryStep before trace after)
    (reads : ∀ event ∈ trace, event.op = .get token ∨ ∃ claim, event.op = .verifyAttestation claim) :
    (∀ request ∈ after, Honest opts start calls request) ∧
      ((∃ call ∈ calls, turned call.outcome = true) → Closed after) := by
  have unwritten (event : EngineEvent) (member : event ∈ trace) :
      (∀ request, event.op ≠ .put request) ∧ ∀ token status resolvedBy,
        event.op ≠ .markResolved token status resolvedBy := by
    obtain read | ⟨claim, verified⟩ := reads event member
    · rw [read]
      exact ⟨nofun, nofun⟩
    · rw [verified]
      exact ⟨nofun, nofun⟩
  constructor
  · have each (event : EngineEvent) (member : event ∈ trace) (before after : Option ApprovalRequest)
        (honest : ∀ request ∈ before, Honest opts start calls request)
        (step : RegistryStep before event after) :
        ∀ request ∈ after, Honest opts start calls request :=
      step.keeps (fun _ _ _ _ kept => kept)
        (fun request written => absurd written ((unwritten event member).1 request)) honest
    exact leads.keeps each standing.honest
  · rintro ⟨call, member, returned⟩
    refine leads.keeps ?_ (standing.closed call member returned)
    intro event member before after closed step
    refine step.closed (unwritten event member).1 ?_ closed
    exact fun token status resolvedBy marks =>
      absurd marks ((unwritten event member).2 token status resolvedBy)

/-- One resolution keeps the standing, and what it lets the agent confirm is separated. -/
theorem Standing.resolve {before after : Option ApprovalRequest} {call : ResolveCall}
    (standing : Standing opts start calls before) (attested : Attested opts call.input)
    (run : Executes RegistryStep before (Approval.resolve opts call.input) call.trace call.outcome
      after) :
    Standing opts start (call :: calls) after ∧
      (ConfirmsAccepted call.trace → Separated opts start calls call) := by
  obtain ⟨returned, reads⟩ | ⟨gates, rest, middle, shape, ⟨existing, present, pending, passed,
    counting⟩, gated, reads⟩ := executes_resolve run
  · obtain ⟨honest, closed⟩ := standing.read run.2 reads
    refine ⟨⟨fun request member => (honest request member).mono call, ?_, ?_⟩, ?_⟩
    · intro other member turned
      obtain rfl | earlier := List.mem_cons.mp member
      · rw [returned] at turned
        cases turned
      · exact closed ⟨other, earlier, turned⟩
    · rw [List.filter_cons_of_neg (by simpa using returned)]
      exact standing.once
    · rintro ⟨event, member, confirmed, confirms, -⟩
      obtain read | ⟨claim, verified⟩ := reads event member
      · rw [confirms] at read
        cases read
      · rw [confirms] at verified
        cases verified
  · -- The entry was pending, so no earlier resolution has returned a turn.
    have none (other : ResolveCall) (member : other ∈ calls) : turned other.outcome = false := by
      rw [Bool.eq_false_iff]
      exact fun returned => standing.closed other member returned existing present pending
    have unturned : calls.filter (turned ·.outcome) = [] :=
      List.filter_eq_nil_iff.mpr fun other member => by simp [none other member]
    obtain ⟨proposer, votes⟩ := standing.honest existing present
    obtain ⟨ops, quorum, closes⟩ := countAndSettle_executes counting
    have examined (enforced : opts.enforceSeparationOfDuty = true)
        (accepted : call.input.accepted = true) :
        ∃ id, Examined opts call.input start.requestedBy id := by
      rw [← proposer]
      exact examined_of_separationOfDuty passed enforced accepted
    have casts (accepted : call.input.accepted = true) {approvals : List Vote}
        (cast : Casts call.input existing approvals) (vote : Vote) (member : vote ∈ approvals) :
        CastBy opts start (call :: calls) vote.id := by
      obtain prior | own := cast vote member
      · exact (votes vote prior).mono call
      · refine ⟨call, List.mem_cons_self, accepted, own, ?_⟩
        intro enforced
        obtain ⟨id, same, others⟩ := examined enforced accepted
        have voting : id = vote.id := by
          rw [voter_examined attested, same] at own
          exact Option.some.inj own
        exact voting ▸ ⟨same, others⟩
    refine ⟨⟨?_, ?_, ?_⟩, ?_⟩
    · have each (event : EngineEvent) (member : event ∈ rest)
          (before after : Option ApprovalRequest)
          (honest : ∀ request ∈ before, Honest opts start (call :: calls) request)
          (step : RegistryStep before event after) :
          ∀ request ∈ after, Honest opts start (call :: calls) request := by
        refine step.keeps (fun _ _ _ _ kept => kept) ?_ honest
        intro request written
        obtain ⟨accepted, voting⟩ | settling := ops event member
        · rw [written] at voting
          cases voting with
          | put approvals cast => exact ⟨proposer, casts accepted cast⟩
        · exact absurd written (settling.final.1 request)
      apply counting.2.keeps each
      intro request member
      exact ((standing.read gated reads).1 request member).mono call
    · intro other member returned
      obtain rfl | earlier := List.mem_cons.mp member
      · exact closes returned
      · rw [none other earlier] at returned
        cases returned
    · rw [List.filter_cons, unturned]
      split <;> simp
    · rintro ⟨event, member, confirmed, confirms, accepts⟩
      -- Only the counting can confirm or record, so the events before it are out of the question.
      have late {event : EngineEvent} (member : event ∈ call.trace)
          (other : event.op ≠ .get call.input.token ∧ ∀ claim, event.op ≠ .verifyAttestation claim)
          (unvoting : ¬ VotingOp call.input existing event.op) :
          event ∈ rest ∧ SettlingOp opts call.input existing event.op := by
        rw [shape] at member
        obtain early | inside := List.mem_append.mp member
        · obtain read | ⟨claim, verified⟩ := reads event early
          · exact absurd read other.1
          · exact absurd verified (other.2 claim)
        · obtain ⟨-, voting⟩ | settling := ops event inside
          · exact absurd voting unvoting
          · exact ⟨inside, settling⟩
      have confirming {event : EngineEvent} {confirmed : ConfirmInput} (member : event ∈ call.trace)
          (confirms : event.op = .confirm confirmed) :
          event ∈ rest ∧ confirmed.accepted = call.input.accepted ∧
            confirmed.binding = confirmationBinding opts call.input existing := by
        obtain ⟨inside, settling⟩ := late member
          (by rw [confirms]; exact ⟨nofun, nofun⟩) (by rw [confirms]; exact nofun)
        rw [confirms] at settling
        cases settling
        exact ⟨inside, rfl, rfl⟩
      obtain ⟨inside, same, -⟩ := confirming member confirms
      have accepted : call.input.accepted = true := same.symm.trans accepts
      constructor
      · intro policy configured
        obtain ⟨approvals, cast, met⟩ := quorum ⟨event, inside, confirmed, confirms, accepts⟩ policy
          configured
        obtain ⟨ids, enough, distinct, named⟩ := quorumMet_approvers met
        refine ⟨ids, enough, distinct, ?_⟩
        intro id counted
        obtain ⟨other, vote, voted, rfl⟩ := named id counted
        rw [proposer] at other
        exact ⟨other, casts accepted cast vote voted⟩
      · intro enforced
        obtain ⟨id, checked, others⟩ := examined enforced accepted
        have effective : (effectiveBy opts call.input).map (·.id) = some id :=
          (effectiveBy_examined attested).trans checked
        refine ⟨id, ⟨checked, others⟩, ?_, ?_⟩
        · intro event member confirmed confirms
          obtain ⟨-, -, bound⟩ := confirming member confirms
          rw [bound, confirmationBinding, if_pos accepted]
          refine ⟨_, rfl, ?_⟩
          obtain ⟨identity, found, rfl⟩ := Option.map_eq_some_iff.mp effective
          rw [found]
          rfl
        · intro event member token resolvedBy marks
          obtain ⟨-, settling⟩ := late member
            (by rw [marks]; exact ⟨nofun, nofun⟩) (by rw [marks]; exact nofun)
          generalize recorded : ApprovalStatus.approved = status at marks
          rw [marks] at settling
          cases settling with
          | reject => cases recorded
          | record => exact effective

/-- Every history of resolutions has standing, and each of its confirmations is separated. -/
theorem History.standing (history : History opts start calls entry)
    (fresh : start.approvals = none) (attested : ∀ call ∈ calls, Attested opts call.input) :
    Standing opts start calls entry ∧ ∀ call earlier, call :: earlier <:+ calls →
      ConfirmsAccepted call.trace → Separated opts start earlier call := by
  induction history with
  | start =>
      refine ⟨⟨?_, fun call absent => absurd absent List.not_mem_nil, Nat.zero_le _⟩, ?_⟩
      · rintro request ⟨⟩
        refine ⟨rfl, ?_⟩
        rw [fresh]
        exact fun vote absent => absurd absent List.not_mem_nil
      · intro call earlier last
        exact absurd (List.suffix_nil.mp last) (List.cons_ne_nil _ _)
  | expire _ ih =>
      obtain ⟨standing, separated⟩ := ih attested
      have vanished (P : ApprovalRequest → Prop) : ∀ request ∈ (none : Option ApprovalRequest), P request :=
        fun request absent => absurd absent (Option.not_mem_none request)
      exact ⟨⟨vanished _, fun _ _ _ => vanished _, standing.once⟩, separated⟩
  | @resolve calls before after input trace outcome _ _ run ih =>
      obtain ⟨own, others⟩ := List.forall_mem_cons.mp attested
      obtain ⟨standing, separated⟩ := ih others
      obtain ⟨next, last⟩ := @Standing.resolve _ _ _ _ _ ⟨input, trace, outcome⟩ standing own run
      refine ⟨next, ?_⟩
      intro call earlier ending confirms
      obtain same | inside := List.suffix_cons_iff.mp ending
      · obtain ⟨rfl, rfl⟩ := List.cons.inj same
        exact last confirms
      · exact separated call earlier inside confirms

end History

section Votes

variable {opts : ApprovalEngineOptions} {input : ResolveInput} {existing : ApprovalRequest}
  {policy : QuorumPolicy} {identity : Identity}

/-- The vote of the identity joins the earlier ones. -/
def withVote (existing : ApprovalRequest) (identity : Identity) (instant : JsString) :
    ApprovalRequest :=
  { existing with approvals := some (existing.approvals.getD [] ++
      [⟨identity.id, instant, identity.displayName.filter (· ≠ [])⟩]) }

/-- A voter passes the checks of an engine without a verifier and casts a vote of its own. -/
structure Votes (opts : ApprovalEngineOptions) (input : ResolveInput) (policy : QuorumPolicy)
    (existing : ApprovalRequest) (identity : Identity) : Prop where
  pending : existing.status = .pending
  unverified : opts.attestationVerifier = false
  separated : separationOfDuty opts input existing = .ok ()
  configured : opts.quorum = some policy
  accepted : input.accepted = true
  voter : voter input = some identity
  named : identity.id ≠ []
  counted : (policy.distinct && (existing.approvals.getD []).any (·.id == identity.id)) = false

/-- The events of a vote. -/
def votingTrace (input : ResolveInput) (existing : ApprovalRequest) (identity : Identity)
    (instant : JsString) : List EngineEvent :=
  [⟨.get input.token, .ok (some existing)⟩, ⟨.now, .ok instant⟩,
    ⟨.put (withVote existing identity instant), .ok ()⟩]

theorem Votes.runs (votes : Votes opts input policy existing identity) (instant : JsString)
    {rest : List EngineEvent}
    {outcome : Except ApprovalThrown (Option ApprovalRequest × Option JsValue)}
    (decided : Runs
      (if quorumMet (withVote existing identity instant).approvals policy
          (existing.requestedBy.map (·.id)) then settle opts input existing
        else pure (some (withVote existing identity instant), none)) rest outcome) :
    Runs (resolve opts input) (votingTrace input existing identity instant ++ rest) outcome := by
  have gate : attestationGate opts input existing = pure () := by
    rw [attestationGate, votes.unverified]
    rfl
  have counting : accumulate policy existing identity =
      invoke .now >>= fun instant => pure (existing.approvals.getD [] ++
        [⟨identity.id, instant, identity.displayName.filter (· ≠ [])⟩]) := by
    rw [accumulate]
    simp only [votes.counted]
    rfl
  have casting : castVote input policy existing = accumulate policy existing identity >>=
      fun approvals => invoke (.put { existing with approvals := some approvals }) >>= fun _ =>
        if quorumMet (some approvals) policy (existing.requestedBy.map (·.id)) then pure none
        else pure (some { existing with approvals := some approvals }) := by
    rw [castVote, votes.voter]
    dsimp only
    rw [if_neg votes.named]
  refine runs_perform_bind.mpr ⟨.ok (some existing), _, rfl, ?_⟩
  dsimp only
  rw [if_neg (not_not.mpr votes.pending), gate]
  change Runs (Program.ofExcept (separationOfDuty opts input existing) >>= fun _ =>
    countAndSettle opts input existing) _ _
  rw [votes.separated]
  change Runs (countAndSettle opts input existing) _ _
  rw [countAndSettle, votes.configured, votes.accepted]
  dsimp only
  rw [casting, counting]
  apply Runs.call
  apply Runs.call
  change Runs ((if quorumMet (withVote existing identity instant).approvals policy
      (existing.requestedBy.map (·.id)) then pure none
    else pure (some (withVote existing identity instant)) : EngineProgram _) >>= _) _ _
  by_cases met : quorumMet (withVote existing identity instant).approvals policy
      (existing.requestedBy.map (·.id)) = true
  · rw [if_pos met] at decided ⊢
    exact decided
  · rw [if_neg met] at decided ⊢
    exact decided

theorem leads_votingTrace (input : ResolveInput) (existing : ApprovalRequest)
    (identity : Identity) (instant : JsString) :
    Leads RegistryStep (some existing) (votingTrace input existing identity instant)
      (some (withVote existing identity instant)) :=
  .cons (.found _ _) (.cons (.elsewhere _ _ trivial) (.cons (.stored _ _ _) (.nil _)))

/-- A vote below the quorum leaves the request pending. -/
theorem Votes.awaits (votes : Votes opts input policy existing identity) (instant : JsString)
    (short : quorumMet (withVote existing identity instant).approvals policy
      (existing.requestedBy.map (·.id)) = false) :
    Executes RegistryStep (some existing) (resolve opts input)
      (votingTrace input existing identity instant)
      (.ok (some (withVote existing identity instant), none))
      (some (withVote existing identity instant)) := by
  refine ⟨?_, leads_votingTrace input existing identity instant⟩
  rw [← List.append_nil (votingTrace input existing identity instant)]
  apply votes.runs
  rw [short]
  exact .pure _

/-- The events of an accepted settlement without a notification. -/
def settlingTrace (opts : ApprovalEngineOptions) (input : ResolveInput)
    (existing : ApprovalRequest) (resolved : ApprovalRequest) : List EngineEvent :=
  [⟨.resolveStateContext existing.sessionId, .ok (.null, .null)⟩,
    ⟨.confirm ⟨input.token, input.accepted, .null, .null, confirmationBinding opts input existing⟩,
      .ok .null⟩,
    ⟨.markResolved input.token (resolvedStatus input) (effectiveBy opts input), .ok (some resolved)⟩]

/-- The vote is counted and the request is resolved at the same instant. -/
def settledRequest (opts : ApprovalEngineOptions) (input : ResolveInput)
    (existing : ApprovalRequest) (identity : Identity) (instant : JsString) : ApprovalRequest :=
  resolvedEntry (withVote existing identity instant) (resolvedStatus input) (effectiveBy opts input)
    instant

/-- A vote that meets the quorum lets the agent confirm. -/
theorem Votes.confirms (votes : Votes opts input policy existing identity) (instant : JsString)
    (met : quorumMet (withVote existing identity instant).approvals policy
      (existing.requestedBy.map (·.id)) = true)
    (silent : opts.notifies existing.channel = false) :
    Executes RegistryStep (some existing) (resolve opts input)
      (votingTrace input existing identity instant ++
        settlingTrace opts input existing (settledRequest opts input existing identity instant))
      (.ok (some (settledRequest opts input existing identity instant), some .null))
      (some (settledRequest opts input existing identity instant)) := by
  have settled : Leads RegistryStep (some (withVote existing identity instant))
      (settlingTrace opts input existing (settledRequest opts input existing identity instant))
      (some (settledRequest opts input existing identity instant)) :=
    .cons (.elsewhere _ _ trivial) (.cons (.elsewhere _ _ trivial)
      (.cons (.resolved _ _ _ _ _) (.nil _)))
  refine ⟨?_, leads_append.mpr ⟨_, leads_votingTrace _ _ _ _, settled⟩⟩
  apply votes.runs
  rw [if_pos met, settle]
  apply Runs.call
  apply Runs.call
  apply Runs.call
  change Runs (if opts.notifies existing.channel then _ else _) [] _
  rw [silent]
  exact .pure _

end Votes

def sampleEngine (distinctApprovers : Option Bool) : ApprovalEngineOptions where
  quorum := some ⟨2, distinctApprovers⟩
  attestationVerifier := false
  enforceSeparationOfDuty := true
  agentIdentity := none
  notifies _ := false

def sampleRequest : ApprovalRequest where
  token := "t-1"
  sessionId := "s-1"
  intentHash := "h-1"
  intentKind := "payment.send"
  prompt := "Send the payment?"
  taint := .untrusted
  channel := "slack"
  requestedBy := some ⟨"maker", none⟩
  status := .pending
  resolvedAt := none
  resolvedBy := none
  approvals := none

/-- The claimed identity may come with an attestation of another one. -/
def acceptAs (id : JsString) (attestation : Option Attestation) : ResolveInput where
  token := "t-1"
  accepted := true
  claimed := some ⟨id, none⟩
  attestation := attestation
  channel := none

/-- The first vote waits for the second one, which lets the agent confirm. -/
def sampleCalls (opts : ApprovalEngineOptions) (first second : ResolveInput)
    (firstVoter secondVoter : Identity) : List ResolveCall :=
  let waiting := withVote sampleRequest firstVoter []
  let resolved := settledRequest opts second waiting secondVoter []
  [⟨second, votingTrace second waiting secondVoter [] ++ settlingTrace opts second waiting resolved,
      .ok (some resolved, some .null)⟩,
    ⟨first, votingTrace first sampleRequest firstVoter [], .ok (some waiting, none)⟩]

theorem sampleCalls_history {distinctApprovers : Option Bool} {first second : ResolveInput}
    {firstVoter secondVoter : Identity}
    (firstVotes : Votes (sampleEngine distinctApprovers) first ⟨2, distinctApprovers⟩ sampleRequest
      firstVoter)
    (secondVotes : Votes (sampleEngine distinctApprovers) second ⟨2, distinctApprovers⟩
      (withVote sampleRequest firstVoter []) secondVoter)
    (short : quorumMet (withVote sampleRequest firstVoter []).approvals ⟨2, distinctApprovers⟩
      (some (utf16 "maker")) = false)
    (met : quorumMet (withVote (withVote sampleRequest firstVoter []) secondVoter []).approvals
      ⟨2, distinctApprovers⟩ (some (utf16 "maker")) = true)
    (firstToken : first.token = utf16 "t-1") (secondToken : second.token = utf16 "t-1") :
    ∃ entry, History (sampleEngine distinctApprovers) sampleRequest
      (sampleCalls (sampleEngine distinctApprovers) first second firstVoter secondVoter) entry :=
  ⟨_, .resolve (.resolve .start firstToken (firstVotes.awaits [] short)) secondToken
    (secondVotes.confirms [] met rfl)⟩

theorem sampleCalls_confirm (opts : ApprovalEngineOptions) (first : ResolveInput)
    (second : ResolveInput) (firstVoter secondVoter : Identity)
    (accepted : second.accepted = true) :
    ∃ call earlier, sampleCalls opts first second firstVoter secondVoter = call :: earlier ∧
      ConfirmsAccepted call.trace := by
  let confirmed : ConfirmInput := ⟨second.token, second.accepted, .null, .null,
    confirmationBinding opts second (withVote sampleRequest firstVoter [])⟩
  refine ⟨_, _, rfl, ⟨.confirm confirmed, .ok .null⟩, ?_, confirmed, rfl, accepted⟩
  exact List.mem_append_right _ (List.mem_cons_of_mem _ List.mem_cons_self)

end Adjudicate.Approval
