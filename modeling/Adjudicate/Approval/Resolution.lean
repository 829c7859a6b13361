/-
This file describes what one resolution does to the registry entry of its token.
-/

import Adjudicate.Approval.Engine
import Adjudicate.Effect.Execution

namespace Adjudicate.Approval

open Js Adjudicate.Core Adjudicate.Effect
open Adjudicate.Shell (ConfirmationBinding ConfirmationBindingField)

/-- This is the resolved projection of a registry entry. -/
def resolvedEntry (old : ApprovalRequest) (status : ApprovalStatus) (resolvedBy : Option Identity)
    (instant : JsString) : ApprovalRequest :=
  { old with status, resolvedAt := some instant, resolvedBy := resolvedBy.or old.resolvedBy }

/-- These effects do not touch the registry. -/
def Op.Elsewhere : Op → Prop
  | .get _ | .put _ | .markResolved _ _ _ => False
  | _ => True

/-- This is what an effect may do to the registry entry of the token. An entry may expire at any
time, and a failed write may have taken effect. -/
inductive RegistryStep :
    Option ApprovalRequest → EngineEvent → Option ApprovalRequest → Prop where
  | expired {before after : Option ApprovalRequest} {event : EngineEvent} :
      RegistryStep before event after → RegistryStep before event none
  | found (entry : Option ApprovalRequest) (token : JsString) :
      RegistryStep entry ⟨.get token, .ok entry⟩ entry
  | missing (entry : Option ApprovalRequest) (token : JsString) :
      RegistryStep entry ⟨.get token, .ok none⟩ none
  | stored (before : Option ApprovalRequest) (request : ApprovalRequest)
      (outcome : Except ApprovalThrown Unit) :
      RegistryStep before ⟨.put request, outcome⟩ (some request)
  | resolved (old : ApprovalRequest) (token : JsString) (status : ApprovalStatus)
      (resolvedBy : Option Identity) (instant : JsString) :
      RegistryStep (some old)
        ⟨.markResolved token status resolvedBy, .ok (some (resolvedEntry old status resolvedBy instant))⟩
        (some (resolvedEntry old status resolvedBy instant))
  | settled (old : ApprovalRequest) (token : JsString) (status : ApprovalStatus)
      (resolvedBy : Option Identity) : old.status ≠ .pending →
      RegistryStep (some old) ⟨.markResolved token status resolvedBy, .ok (some old)⟩ (some old)
  | absent (entry : Option ApprovalRequest) (token : JsString) (status : ApprovalStatus)
      (resolvedBy : Option Identity) :
      RegistryStep entry ⟨.markResolved token status resolvedBy, .ok none⟩ none
  | lost (old : ApprovalRequest) (token : JsString) (status : ApprovalStatus)
      (resolvedBy : Option Identity) (instant : JsString) (raised : ApprovalThrown) :
      RegistryStep (some old) ⟨.markResolved token status resolvedBy, .error raised⟩
        (some (resolvedEntry old status resolvedBy instant))
  | failed (entry : Option ApprovalRequest) (op : Op) (raised : ApprovalThrown) :
      RegistryStep entry ⟨op, .error raised⟩ entry
  | elsewhere (entry : Option ApprovalRequest) (event : EngineEvent) :
      event.op.Elsewhere → RegistryStep entry event entry

/-- What a write and a resolution keep about an entry holds of every later entry. -/
theorem RegistryStep.keeps {P : ApprovalRequest → Prop}
    (resolution : ∀ old status resolvedBy instant, P old →
      P (resolvedEntry old status resolvedBy instant))
    {before after : Option ApprovalRequest} {event : EngineEvent}
    (step : RegistryStep before event after)
    (written : ∀ request, event.op = .put request → P request) (start : ∀ entry ∈ before, P entry) :
    ∀ entry ∈ after, P entry := by
  induction step with
  | expired _ _ => exact nofun
  | found | failed | elsewhere | settled => exact start
  | missing | absent => exact nofun
  | stored before request outcome =>
      rintro entry ⟨⟩
      exact written request rfl
  | resolved old | lost old =>
      rintro entry ⟨⟩
      exact resolution _ _ _ _ (start old rfl)

/-- No resolution finds a pending entry any more. -/
def Closed (entry : Option ApprovalRequest) : Prop := ∀ request ∈ entry, request.status ≠ .pending

/-- An entry stays closed under everything but a write. -/
theorem RegistryStep.closed {before after : Option ApprovalRequest} {event : EngineEvent}
    (step : RegistryStep before event after) (unwritten : ∀ request, event.op ≠ .put request)
    (final : ∀ token status resolvedBy, event.op = .markResolved token status resolvedBy →
      status ≠ .pending)
    (start : Closed before) : Closed after := by
  induction step with
  | expired _ _ => exact nofun
  | found | failed | elsewhere | settled => exact start
  | missing | absent => exact nofun
  | stored before request outcome => exact absurd rfl (unwritten request)
  | resolved old token status resolvedBy | lost old token status resolvedBy =>
      rintro entry ⟨⟩
      exact final token status resolvedBy rfl

/-- A resolution that returns has closed the entry. -/
theorem closed_of_markResolved {before after : Option ApprovalRequest} {token : JsString}
    {status : ApprovalStatus} {resolvedBy : Option Identity} {found : Option ApprovalRequest}
    (final : status ≠ .pending)
    (step : RegistryStep before ⟨.markResolved token status resolvedBy, .ok found⟩ after) :
    Closed after := by
  generalize same : (⟨.markResolved token status resolvedBy, .ok found⟩ : EngineEvent) = event
    at step
  induction step with
  | expired | missing | absent => exact nofun
  | found | stored | lost | failed => cases same
  | resolved old =>
      cases same
      rintro entry ⟨⟩
      exact final
  | settled old token status resolvedBy closed =>
      rintro entry ⟨⟩
      exact closed
  | elsewhere entry event untouched =>
      subst same
      exact untouched.elim

/-- A found entry was there. -/
theorem found_of_get {before after : Option ApprovalRequest} {token : JsString}
    {existing : ApprovalRequest}
    (step : RegistryStep before ⟨.get token, .ok (some existing)⟩ after) :
    before = some existing := by
  generalize same : (⟨.get token, .ok (some existing)⟩ : EngineEvent) = event at step
  induction step with
  | expired _ ih => exact ih same
  | found entry =>
      cases same
      rfl
  | missing | stored | resolved | settled | absent | lost | failed => cases same
  | elsewhere entry event untouched =>
      subst same
      exact untouched.elim

section Resolve

variable {opts : ApprovalEngineOptions} {input : ResolveInput} {existing : ApprovalRequest}
  {before after : Option ApprovalRequest} {trace : List EngineEvent}

/-- These are the effects after the votes have been counted. -/
inductive SettlingOp (opts : ApprovalEngineOptions) (input : ResolveInput)
    (existing : ApprovalRequest) : Op → Prop where
  | fetch (sessionId : JsString) : SettlingOp opts input existing (.resolveStateContext sessionId)
  | confirm (state context : JsValue) : SettlingOp opts input existing
      (.confirm ⟨input.token, input.accepted, state, context, confirmationBinding opts input existing⟩)
  | reject : SettlingOp opts input existing (.markResolved input.token .expired input.claimed)
  | record : SettlingOp opts input existing
      (.markResolved input.token (resolvedStatus input) (effectiveBy opts input))
  | notify (resolution : Resolution) : SettlingOp opts input existing
      (.notifyResolved existing resolution)

theorem settle_confined : Confined (SettlingOp opts input existing) (settle opts input existing) := by
  have rejects (err : ApprovalThrown) :
      Confined (SettlingOp opts input existing) (confirmRejected input err) := by
    apply confined_bind (confined_perform .reject)
    intro _
    exact confined_bind (confined_ofExcept _) fun _ => trivial
  apply confined_bind (confined_perform (.fetch _))
  rintro ⟨state, context⟩
  apply confined_bind (confined_tryCatch (confined_perform (.confirm state context)) rejects)
  intro turn
  apply confined_bind (confined_perform .record)
  intro request
  dsimp only
  split
  · exact confined_bind (confined_perform (.notify _)) fun _ => trivial
  · trivial

theorem resolvedStatus_ne_pending : resolvedStatus input ≠ .pending := by
  rw [resolvedStatus]
  split <;> exact nofun

theorem SettlingOp.final {op : Op} (settling : SettlingOp opts input existing op) :
    (∀ request, op ≠ .put request) ∧ ∀ token status resolvedBy,
      op = .markResolved token status resolvedBy → status ≠ .pending := by
  cases settling with
  | fetch | confirm | notify => exact ⟨nofun, nofun⟩
  | reject =>
      refine ⟨nofun, ?_⟩
      rintro token status resolvedBy ⟨⟩
      exact nofun
  | record =>
      refine ⟨nofun, ?_⟩
      rintro token status resolvedBy ⟨⟩
      exact resolvedStatus_ne_pending

/-- A settlement that returns a turn has closed the entry. -/
theorem settle_closed {result : Option ApprovalRequest × Option JsValue}
    (run : Executes RegistryStep before (settle opts input existing) trace (.ok result) after) :
    Closed after := by
  obtain ⟨_, _, ⟨state, context⟩, _, -, -, confirming⟩ := executes_bind_ok.mp run
  obtain ⟨_, _, turn, _, -, -, recording⟩ := executes_bind_ok.mp confirming
  obtain ⟨_, rest, request, middle, -, recorded, notifying⟩ := executes_bind_ok.mp recording
  obtain ⟨-, marked⟩ := executes_perform.mp recorded
  have closed : Closed middle := closed_of_markResolved resolvedStatus_ne_pending marked
  have notifies : Confined (fun op => ∃ resolution, op = .notifyResolved existing resolution)
      (do
        if opts.notifies existing.channel then
          invoke (.notifyResolved existing ⟨resolvedStatus input, effectiveBy opts input⟩)
        return (request, some turn) : EngineProgram _) := by
    split
    · exact confined_bind (confined_perform ⟨_, rfl⟩) fun _ => trivial
    · trivial
  apply notifying.2.keeps _ closed
  intro event member before after kept step
  obtain ⟨resolution, notified⟩ := notifying.1.confined notifies event member
  refine step.closed ?_ ?_ kept
  · rw [notified]
    exact nofun
  · rw [notified]
    exact nofun

/-- A vote counts for an identity that voted before or votes now. -/
def Casts (input : ResolveInput) (existing : ApprovalRequest) (approvals : List Vote) : Prop :=
  ∀ vote ∈ approvals, vote ∈ existing.approvals.getD [] ∨
    (voter input).map (·.id) = some vote.id

/-- These are the effects of a vote. -/
inductive VotingOp (input : ResolveInput) (existing : ApprovalRequest) : Op → Prop where
  | now : VotingOp input existing .now
  | put (approvals : List Vote) : Casts input existing approvals →
      VotingOp input existing (.put { existing with approvals := some approvals })

theorem casts_append {identity : Identity}
    (votes : voter input = some identity) (instant : JsString) :
    Casts input existing (existing.approvals.getD [] ++
      [⟨identity.id, instant, identity.displayName.filter (· ≠ [])⟩]) := by
  intro vote member
  obtain prior | cast := List.mem_append.mp member
  · exact .inl prior
  · obtain rfl := List.mem_singleton.mp cast
    right
    rw [votes]
    rfl

/-- The counted votes are the earlier ones with at most one vote of the present voter. -/
theorem runs_accumulate {policy : QuorumPolicy} {identity : Identity}
    (votes : voter input = some identity) {approvals : List Vote}
    (run : Runs (accumulate policy existing identity) trace (.ok approvals)) :
    Casts input existing approvals := by
  rw [accumulate] at run
  split at run
  · obtain ⟨-, returned⟩ := runs_pure.mp run
    cases returned
    exact fun vote member => .inl member
  · obtain ⟨_, _, instant, -, -, returned⟩ := runs_bind_ok.mp run
    obtain ⟨-, same⟩ := runs_pure.mp returned
    cases same
    exact casts_append votes instant

theorem accumulate_confined (policy : QuorumPolicy) (identity : Identity) :
    Confined (· = .now) (accumulate policy existing identity) := by
  rw [accumulate]
  split
  · trivial
  · exact confined_bind (confined_perform rfl) fun _ => trivial

/-- A vote stores the counted votes and goes on only when they meet the quorum. -/
theorem runs_castVote {policy : QuorumPolicy}
    {outcome : Except ApprovalThrown (Option ApprovalRequest)}
    (run : Runs (castVote input policy existing) trace outcome) :
    (∀ event ∈ trace, VotingOp input existing event.op) ∧
      (outcome = .ok none → ∃ approvals, Casts input existing approvals ∧
        quorumMet (some approvals) policy (existing.requestedBy.map (·.id)) = true) := by
  rw [castVote] at run
  cases votes : voter input with
  | none =>
      rw [votes] at run
      obtain ⟨rfl, rfl⟩ := runs_throw.mp run
      exact ⟨fun event absent => absurd absent List.not_mem_nil, nofun⟩
  | some identity =>
      rw [votes] at run
      dsimp only at run
      split at run
      · obtain ⟨rfl, rfl⟩ := runs_throw.mp run
        exact ⟨fun event absent => absurd absent List.not_mem_nil, nofun⟩
      · have counting {trace : List EngineEvent} {outcome : Except ApprovalThrown (List Vote)}
            (counted : Runs (accumulate policy existing identity) trace outcome) :
            ∀ event ∈ trace, VotingOp input existing event.op := by
          intro event member
          rw [counted.confined (accumulate_confined policy identity) event member]
          exact .now
        obtain ⟨first, second, approvals, rfl, counted, storing⟩ | ⟨raised, rfl, counted⟩ :=
          runs_bind.mp run
        · have casts := runs_accumulate votes counted
          obtain ⟨response, rest, rfl, deciding⟩ := runs_perform_bind.mp storing
          have quiet : rest = [] ∧ (outcome = .ok none →
              quorumMet (some approvals) policy (existing.requestedBy.map (·.id)) = true) := by
            cases response with
            | error raised =>
                obtain ⟨rfl, rfl⟩ := deciding
                exact ⟨rfl, nofun⟩
            | ok stored =>
                dsimp only at deciding
                split at deciding
                · next met => exact ⟨(runs_pure.mp deciding).1, fun _ => met⟩
                · obtain ⟨rfl, rfl⟩ := runs_pure.mp deciding
                  exact ⟨rfl, nofun⟩
          refine ⟨?_, fun reached => ⟨approvals, casts, quiet.2 reached⟩⟩
          rw [quiet.1]
          intro event member
          obtain early | late := List.mem_append.mp member
          · exact counting counted event early
          · obtain rfl := List.mem_singleton.mp late
            exact .put approvals casts
        · exact ⟨counting counted, nofun⟩

/-- The result carries a turn of the agent. -/
def turned (outcome : Except ApprovalThrown (Option ApprovalRequest × Option JsValue)) : Bool :=
  match outcome with
  | .ok (_, some _) => true
  | _ => false

theorem settle_closed_of_turned
    {outcome : Except ApprovalThrown (Option ApprovalRequest × Option JsValue)}
    (run : Executes RegistryStep before (settle opts input existing) trace outcome after)
    (returned : turned outcome = true) : Closed after := by
  cases outcome with
  | error raised => cases returned
  | ok result => exact settle_closed run

/-- The counting lets the agent confirm only with the quorum, and a turn closes the entry. -/
theorem countAndSettle_executes
    {outcome : Except ApprovalThrown (Option ApprovalRequest × Option JsValue)}
    (run : Executes RegistryStep before (countAndSettle opts input existing) trace outcome after) :
    (∀ event ∈ trace, (input.accepted = true ∧ VotingOp input existing event.op) ∨
      SettlingOp opts input existing event.op) ∧
      ((∃ event ∈ trace, ∃ confirmed, event.op = .confirm confirmed ∧
          confirmed.accepted = true) → ∀ policy ∈ opts.quorum,
        ∃ approvals, Casts input existing approvals ∧
          quorumMet (some approvals) policy (existing.requestedBy.map (·.id)) = true) ∧
      (turned outcome = true → Closed after) := by
  have settling {before after : Option ApprovalRequest} {trace : List EngineEvent}
      {outcome : Except ApprovalThrown (Option ApprovalRequest × Option JsValue)}
      (settled : Executes RegistryStep before (settle opts input existing) trace outcome after) :
      ∀ event ∈ trace, SettlingOp opts input existing event.op :=
    settled.1.confined settle_confined
  have alone (unvoted : ∀ policy ∈ opts.quorum, input.accepted = false)
      (settled : Executes RegistryStep before (settle opts input existing) trace outcome after) :
      (∀ event ∈ trace, (input.accepted = true ∧ VotingOp input existing event.op) ∨
        SettlingOp opts input existing event.op) ∧
        ((∃ event ∈ trace, ∃ confirmed, event.op = .confirm confirmed ∧
            confirmed.accepted = true) → ∀ policy ∈ opts.quorum,
          ∃ approvals, Casts input existing approvals ∧
            quorumMet (some approvals) policy (existing.requestedBy.map (·.id)) = true) ∧
        (turned outcome = true → Closed after) := by
    refine ⟨fun event member => .inr (settling settled event member), ?_,
      settle_closed_of_turned settled⟩
    rintro ⟨event, member, confirmed, confirms, accepted⟩ policy configured
    have own := settling settled event member
    rw [confirms] at own
    cases own
    exact absurd accepted (by simp [unvoted policy configured])
  rw [countAndSettle] at run
  split at run
  · next policy configured accepted =>
      obtain ⟨first, second, answer, middle, rfl, voted, deciding⟩ | ⟨raised, rfl, voted⟩ :=
        executes_bind.mp run
      · obtain ⟨votes, met⟩ := runs_castVote voted.1
        cases answer with
        | some updated =>
            obtain ⟨rfl, rfl, rfl⟩ := executes_pure.mp deciding
            rw [List.append_nil]
            refine ⟨fun event member => .inl ⟨accepted, votes event member⟩, ?_, nofun⟩
            rintro ⟨event, member, confirmed, confirms, -⟩
            have own := votes event member
            rw [confirms] at own
            cases own
        | none =>
            refine ⟨?_, ?_, settle_closed_of_turned deciding⟩
            · intro event member
              obtain early | late := List.mem_append.mp member
              · exact .inl ⟨accepted, votes event early⟩
              · exact .inr (settling deciding event late)
            · rintro - other same
              rw [configured] at same
              cases same
              exact met rfl
      · obtain ⟨votes, -⟩ := runs_castVote voted.1
        refine ⟨fun event member => .inl ⟨accepted, votes event member⟩, ?_, nofun⟩
        rintro ⟨event, member, confirmed, confirms, -⟩
        have own := votes event member
        rw [confirms] at own
        cases own
  · next notVoting =>
      apply alone _ run
      intro policy configured
      cases accepted : input.accepted with
      | false => rfl
      | true => exact absurd accepted (notVoting policy configured)

theorem attestationGate_confined :
    Confined (fun op => ∃ claim, op = .verifyAttestation claim)
      (attestationGate opts input existing) := by
  have refusing (ok : Bool) :
      Confined (fun op => ∃ claim, op = Op.verifyAttestation claim)
        (if (!ok) = true then
          .throw (.approvalError .attestationInvalid
            (approvalText input ": missing or invalid attestation"))
        else pure () : EngineProgram Unit) := by
    cases ok <;> trivial
  rw [attestationGate]
  split
  · cases input.attestation with
    | none => exact @confined_bind _ _ _ _ _ _ (pure false) _ trivial refusing
    | some att => exact confined_bind (confined_perform ⟨_, rfl⟩) refusing
  · trivial

/-- This is an approver whom the check of the separation of duty has examined and let pass. -/
def Examined (opts : ApprovalEngineOptions) (input : ResolveInput) (proposer : Option Identity)
    (id : JsString) : Prop :=
  approverId opts input = some id ∧ opts.agentIdentity ≠ some id ∧
    ∃ maker ∈ proposer, id ≠ maker.id

theorem examined_of_separationOfDuty (passed : separationOfDuty opts input existing = .ok ())
    (enforced : opts.enforceSeparationOfDuty = true) (accepted : input.accepted = true) :
    ∃ id, Examined opts input existing.requestedBy id := by
  rw [separationOfDuty, enforced, accepted] at passed
  cases found : approverId opts input with
  | none =>
      rw [found] at passed
      cases passed
  | some id =>
      cases recorded : existing.requestedBy with
      | none =>
          rw [found, recorded] at passed
          cases passed
      | some proposer =>
          rw [found, recorded] at passed
          have enforces : (true && true) = true := rfl
          dsimp only at passed
          rw [if_pos enforces] at passed
          split at passed
          · cases passed
          · next other =>
              split at passed
              · cases passed
              · next notAgent => exact ⟨id, found, notAgent, proposer, rfl, other⟩

/-- A resolution stops early without a write, or it passes both gates on a pending entry. -/
theorem executes_resolve
    {outcome : Except ApprovalThrown (Option ApprovalRequest × Option JsValue)}
    (run : Executes RegistryStep before (resolve opts input) trace outcome after) :
    (turned outcome = false ∧ ∀ event ∈ trace, event.op = .get input.token ∨
        ∃ claim, event.op = .verifyAttestation claim) ∨
      ∃ gates rest middle, trace = gates ++ rest ∧
        (∃ existing ∈ before, existing.status = .pending ∧
          separationOfDuty opts input existing = .ok () ∧
          Executes RegistryStep middle (countAndSettle opts input existing) rest outcome after) ∧
        Leads RegistryStep before gates middle ∧ ∀ event ∈ gates, event.op = .get input.token ∨
          ∃ claim, event.op = .verifyAttestation claim := by
  have reads {first : List EngineEvent} {found : Except ApprovalThrown (Option ApprovalRequest)}
      {middle : Option ApprovalRequest}
      (reading : Executes RegistryStep before (invoke (.get input.token)) first found middle) :
      ∀ event ∈ first, event.op = .get input.token ∨ ∃ claim, event.op = .verifyAttestation claim := by
    obtain ⟨rfl, -⟩ := executes_perform.mp reading
    intro event member
    obtain rfl := List.mem_singleton.mp member
    exact .inl rfl
  obtain ⟨first, second, found, middle, rfl, reading, deciding⟩ | ⟨raised, rfl, reading⟩ :=
    executes_bind.mp run
  · cases found with
    | none =>
        obtain ⟨rfl, rfl, rfl⟩ := executes_throw.mp deciding
        rw [List.append_nil]
        exact .inl ⟨rfl, reads reading⟩
    | some existing =>
        have present : before = some existing := by
          obtain ⟨-, step⟩ := executes_perform.mp reading
          exact found_of_get step
        dsimp only at deciding
        split at deciding
        · obtain ⟨rfl, rfl, rfl⟩ := executes_throw.mp deciding
          rw [List.append_nil]
          exact .inl ⟨rfl, reads reading⟩
        · next pending =>
            have gating {trace : List EngineEvent} {outcome : Except ApprovalThrown Unit}
                {middle after : Option ApprovalRequest}
                (gated : Executes RegistryStep middle (attestationGate opts input existing) trace
                  outcome after) :
                ∀ event ∈ trace, event.op = .get input.token ∨
                  ∃ claim, event.op = .verifyAttestation claim :=
              fun event member => .inr (gated.1.confined attestationGate_confined event member)
            obtain ⟨gates, rest, _, passed, rfl, gated, checking⟩ | ⟨raised, rfl, gated⟩ :=
              executes_bind.mp deciding
            · obtain ⟨_, rest, _, _, rfl, checked, counting⟩ | ⟨raised, rfl, checked⟩ :=
                executes_bind.mp checking
              · obtain ⟨rfl, separated, rfl⟩ := executes_ofExcept.mp checked
                right
                refine ⟨first ++ gates, rest, _, by simp, ⟨existing, present, not_not.mp pending,
                  separated.symm, counting⟩, leads_append.mpr ⟨middle, reading.2, gated.2⟩, ?_⟩
                intro event member
                obtain early | late := List.mem_append.mp member
                · exact reads reading event early
                · exact gating gated event late
              · obtain ⟨rfl, -, -⟩ := executes_ofExcept.mp checked
                left
                refine ⟨rfl, ?_⟩
                intro event member
                obtain early | late := List.mem_append.mp member
                · exact reads reading event early
                · exact gating gated event (by simpa using late)
            · left
              refine ⟨rfl, ?_⟩
              intro event member
              obtain early | late := List.mem_append.mp member
              · exact reads reading event early
              · exact gating gated event late
  · exact .inl ⟨rfl, reads reading⟩

end Resolve

end Adjudicate.Approval
