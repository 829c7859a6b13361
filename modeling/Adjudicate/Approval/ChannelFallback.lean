/-
This file models the delivery of approval requests over fallback channels.
-/

import Adjudicate.Approval.Quorum

namespace Adjudicate.Approval

open Js Adjudicate.Core Adjudicate.Effect
open Program (ofExcept tryCatch)

/-- This is what a channel is handed for its delivery. -/
structure ApprovalChannelContext where
  token : JsString
  sessionId : JsString
  intentHash : JsString
  intentKind : JsString
  prompt : JsString
  taint : Taint
  approveUrl : Option JsString
  declineUrl : Option JsString

structure ApprovalLinks where
  approveUrl : Option JsString
  declineUrl : Option JsString

inductive Escalatee where
  | human
  | supervisor
deriving DecidableEq

structure Escalation where
  afterMs : JsNumber
  escalatee : Escalatee
deriving DecidableEq

/-- A projection adds the fields that no resolution reads. -/
structure Projection extends ApprovalRequest where
  channelRef : Option JsString
  requestedAt : JsString
  escalation : Option Escalation
  quorum : Option QuorumPolicy

structure RequestInput where
  token : JsString
  sessionId : JsString
  intentHash : JsString
  intentKind : JsString
  prompt : JsString
  taint : Taint
  escalation : Option Escalation
  requestedBy : Option Identity

/-- A channel is known by its identifier. -/
structure RoutingOptions extends ApprovalEngineOptions where
  channels : List JsString
  route : Option (ApprovalChannelContext → List JsString)
  buildLinks : Option (JsString → ApprovalLinks)

inductive RequestOp where
  | send (channel : JsString) (context : ApprovalChannelContext)
  | now
  | put (request : Projection)

/-- A delivery may give a reference. -/
abbrev RequestOp.Response : RequestOp → Type
  | send _ _ => Option JsString
  | now => JsString
  | put _ => Unit

abbrev RequestProgram (A : Type) := Program RequestOp RequestOp.Response ApprovalThrown A

abbrev act (op : RequestOp) : RequestProgram (RequestOp.Response op) := Program.perform op

abbrev RequestEvent := Event RequestOp RequestOp.Response ApprovalThrown

section Request

variable (opts : RoutingOptions) (input : RequestInput)

def channelContext : ApprovalChannelContext :=
  let links := (opts.buildLinks.map (· input.token)).getD ⟨none, none⟩
  { input with approveUrl := links.approveUrl, declineUrl := links.declineUrl }

def targetIds : List JsString :=
  match opts.route with
  | some route => route (channelContext opts input)
  | none => opts.channels

/-- This is the projection that is recorded when the last channel has failed. -/
def failedProjection (id requestedAt : JsString) : Projection :=
  { input with
    channel := id
    status := .pending
    resolvedAt := none
    resolvedBy := none
    approvals := none
    channelRef := none
    requestedAt
    escalation := none
    quorum := none }

def requestedProjection (channel : JsString) (channelRef : Option JsString)
    (requestedAt : JsString) : Projection :=
  { input with
    channel
    status := .pending
    resolvedAt := none
    resolvedBy := none
    approvals := none
    channelRef
    requestedAt
    quorum := opts.quorum }

def recordFailure (id : JsString) (err : ApprovalThrown) :
    RequestProgram (JsString × Option JsString) := do
  let requestedAt ← act .now
  act (.put (failedProjection input id requestedAt))
  let message ← ofExcept (errText err)
  .throw (.approvalError .channelFailed message)

/-- A failure surfaces at the last routed id only, and an unknown id is skipped. -/
def tryChannels : List JsString → RequestProgram (JsString × Option JsString)
  | [] => return (utf16 "none", none)
  | id :: rest => do
      if id ∈ opts.channels then
        tryCatch (do return (id, ← act (.send id (channelContext opts input)))) fun err =>
          if (targetIds opts input).getLast? = some id then recordFailure input id err
          else tryChannels rest
      else tryChannels rest

def request : RequestProgram Projection := do
  let (channelUsed, channelRef) ← tryChannels opts input (targetIds opts input)
  let requestedAt ← act .now
  let req := requestedProjection opts input channelUsed channelRef requestedAt
  act (.put req)
  return req

end Request

abbrev Delivery := Except ApprovalThrown (Option JsString)

/-- The channels answer in the order of the attempts; the clock and the registry do not fail. -/
inductive Reacts (answers : Nat → Delivery) : Nat → RequestEvent → Nat → Prop where
  | send (tried : Nat) (channel : JsString) (context : ApprovalChannelContext) :
      Reacts answers tried ⟨.send channel context, answers tried⟩ (tried + 1)
  | now (tried : Nat) (instant : JsString) : Reacts answers tried ⟨.now, .ok instant⟩ tried
  | put (tried : Nat) (request : Projection) : Reacts answers tried ⟨.put request, .ok ()⟩ tried

abbrev Attempt := JsString × Delivery

def attempts (trace : List RequestEvent) : List Attempt :=
  trace.filterMap fun
    | ⟨.send channel _, answer⟩ => some (channel, answer)
    | _ => none

def puts (trace : List RequestEvent) : List Projection :=
  trace.filterMap fun
    | ⟨.put request, _⟩ => some request
    | _ => none

/-- These are the attempts up to the first success. -/
def fallback (answers : Nat → Delivery) : Nat → List JsString → List Attempt
  | _, [] => []
  | tried, id :: rest =>
      (id, answers tried) ::
        if (answers tried).isOk then [] else fallback answers (tried + 1) rest

/-- A channel was tried, and every attempt failed. -/
def Exhausted (attempts : List Attempt) : Prop :=
  attempts ≠ [] ∧ ∀ attempt ∈ attempts, attempt.2.isOk = false

/-- While the channels fail, exactly the last known one stands at the end of the routed ids, and
its failure can be printed and loses neither a quorum nor an escalation. -/
def Recoverable (opts : RoutingOptions) (input : RequestInput) (last : Option JsString)
    (answers : Nat → Delivery) : Nat → List JsString → Prop
  | _, [] => True
  | tried, id :: rest => ∀ raised, answers tried = .error raised →
      (last = some id ↔ rest = []) ∧
      (rest = [] → opts.quorum = none ∧ input.escalation = none ∧
        ∃ message, errText raised = .ok message) ∧
      Recoverable opts input last answers (tried + 1) rest

section Executes

variable {opts : RoutingOptions} {input : RequestInput} {answers : Nat → Delivery}
  {tried after : Nat} {trace : List RequestEvent}

theorem fallback_eq_nil {known : List JsString} : fallback answers tried known = [] ↔ known = [] := by
  cases known with
  | nil => exact ⟨fun _ => rfl, fun _ => rfl⟩
  | cons id rest => exact ⟨nofun, nofun⟩

/-- Only a text that cannot be printed raises again. -/
theorem errText_error {err raised : ApprovalThrown} (unprintable : errText err = .error raised) :
    ∃ value, raised = .other value := by
  cases err with
  | approvalError code message => cases unprintable
  | other value =>
      cases value with
      | error name message => cases unprintable
      | other text => cases unprintable
      | unprintable value =>
          cases unprintable
          exact ⟨_, rfl⟩

/-- A failure of the last channel stores its projection before it surfaces. -/
theorem executes_recordFailure {id : JsString} {err : ApprovalThrown}
    {outcome : Except ApprovalThrown (JsString × Option JsString)}
    (run : Executes (Reacts answers) tried (recordFailure input id err) trace outcome after) :
    ∃ instant, trace = [⟨.now, .ok instant⟩, ⟨.put (failedProjection input id instant), .ok ()⟩] ∧
      outcome = (errText err).bind fun message =>
        .error (.approvalError .channelFailed message) := by
  obtain ⟨clock, rest, instant, middle, rfl, read, storing⟩ | ⟨raised, rfl, read⟩ :=
    executes_bind.mp run
  · obtain ⟨rfl, -⟩ := executes_perform.mp read
    refine ⟨instant, ?_⟩
    obtain ⟨write, last, stored, middle, rfl, written, surfacing⟩ | ⟨raised, rfl, written⟩ :=
      executes_bind.mp storing
    · obtain ⟨rfl, -⟩ := executes_perform.mp written
      obtain ⟨print, throw, message, middle, rfl, printed, thrown⟩ | ⟨raised, rfl, printed⟩ :=
        executes_bind.mp surfacing
      · obtain ⟨rfl, text, -⟩ := executes_ofExcept.mp printed
        obtain ⟨rfl, rfl, -⟩ := executes_throw.mp thrown
        rw [← text]
        exact ⟨rfl, rfl⟩
      · obtain ⟨rfl, text, -⟩ := executes_ofExcept.mp printed
        rw [← text]
        exact ⟨rfl, rfl⟩
    · obtain ⟨-, step⟩ := executes_perform.mp written
      cases step
  · obtain ⟨-, step⟩ := executes_perform.mp read
    cases step

/-- The loop passes over an unknown id, stops at a success, and decides about a failure. -/
theorem executes_tryChannels {id : JsString} {rest : List JsString}
    {outcome : Except ApprovalThrown (JsString × Option JsString)}
    (run : Executes (Reacts answers) tried (tryChannels opts input (id :: rest)) trace outcome
      after) :
    (id ∉ opts.channels ∧
        Executes (Reacts answers) tried (tryChannels opts input rest) trace outcome after) ∨
      id ∈ opts.channels ∧
        ((∃ channelRef, answers tried = .ok channelRef ∧ outcome = .ok (id, channelRef) ∧
            trace = [⟨.send id (channelContext opts input), answers tried⟩]) ∨
          ∃ raised later, answers tried = .error raised ∧
            trace = ⟨.send id (channelContext opts input), answers tried⟩ :: later ∧
            Executes (Reacts answers) (tried + 1)
              (if (targetIds opts input).getLast? = some id then recordFailure input id raised
                else tryChannels opts input rest) later outcome after) := by
  rw [tryChannels] at run
  split at run
  · next known =>
      refine .inr ⟨known, ?_⟩
      obtain ⟨value, rfl, delivered⟩ | ⟨first, later, raised, middle, rfl, refused, going⟩ :=
        executes_tryCatch.mp run
      · obtain ⟨sent, none, channelRef, middle, rfl, answered, returned⟩ :=
          executes_bind_ok.mp delivered
        obtain ⟨rfl, step⟩ := executes_perform.mp answered
        obtain ⟨rfl, same, -⟩ := executes_pure.mp returned
        generalize delivery : (Except.ok channelRef : Delivery) = answer at step
        cases step
        exact .inl ⟨channelRef, delivery.symm, same, rfl⟩
      · obtain ⟨sent, none, channelRef, middle, rfl, answered, returned⟩ | ⟨err, same, answered⟩ :=
          executes_bind.mp refused
        · obtain ⟨-, ⟨⟩, -⟩ := executes_pure.mp returned
        · cases same
          obtain ⟨rfl, step⟩ := executes_perform.mp answered
          generalize delivery : (Except.error raised : Delivery) = answer at step
          cases step
          exact .inr ⟨raised, later, delivery.symm, rfl, going⟩
  · next unknown => exact .inl ⟨unknown, run⟩

/-- Without a known channel nothing is tried. -/
theorem executes_tryChannels_unknown {targets : List JsString}
    (unknown : targets.filter (· ∈ opts.channels) = [])
    {outcome : Except ApprovalThrown (JsString × Option JsString)}
    (run : Executes (Reacts answers) tried (tryChannels opts input targets) trace outcome after) :
    trace = [] ∧ outcome = .ok (utf16 "none", none) := by
  induction targets with
  | nil =>
      obtain ⟨rfl, rfl, -⟩ := executes_pure.mp run
      exact ⟨rfl, rfl⟩
  | cons id rest ih =>
      obtain ⟨absent, going⟩ | ⟨known, -⟩ := executes_tryChannels run
      · rw [List.filter_cons_of_neg (by simpa using absent)] at unknown
        exact ih unknown going
      · rw [List.filter_cons_of_pos (by simpa using known)] at unknown
        cases unknown

/-- The loop projects nothing unless it surfaces a failure, which it projects once. -/
theorem puts_tryChannels {targets : List JsString}
    {outcome : Except ApprovalThrown (JsString × Option JsString)}
    (run : Executes (Reacts answers) tried (tryChannels opts input targets) trace outcome after) :
    (puts trace = [] ∧ ∃ channel, outcome = .ok channel) ∨
      ∃ id instant err, puts trace = [failedProjection input id instant] ∧
        outcome = .error err := by
  induction targets generalizing tried trace with
  | nil =>
      obtain ⟨rfl, rfl, -⟩ := executes_pure.mp run
      exact .inl ⟨rfl, _, rfl⟩
  | cons id rest ih =>
      obtain ⟨-, going⟩ | ⟨-, ⟨channelRef, -, rfl, rfl⟩ | ⟨raised, later, -, rfl, going⟩⟩ :=
        executes_tryChannels run
      · exact ih going
      · exact .inl ⟨rfl, _, rfl⟩
      · split at going
        · obtain ⟨instant, rfl, rfl⟩ := executes_recordFailure going
          right
          cases errText raised with
          | ok message => exact ⟨id, instant, _, rfl, rfl⟩
          | error err => exact ⟨id, instant, _, rfl, rfl⟩
        · show (puts later = [] ∧ _) ∨ _
          exact ih going

/-- The loop tries what it should, surfaces only exhaustion, and projects quorum and escalation. -/
structure FallsBack (opts : RoutingOptions) (input : RequestInput) (expected : List Attempt)
    (trace : List RequestEvent) {A : Type} (outcome : Except ApprovalThrown A) : Prop where
  order : attempts trace = expected
  surfaced : (∃ message, outcome = .error (.approvalError .channelFailed message)) ↔
    Exhausted (attempts trace)
  projected : ∀ request ∈ puts trace,
    request.quorum = opts.quorum ∧ request.escalation = input.escalation

theorem exhausted_cons {attempt : Attempt} {rest : List Attempt} :
    Exhausted (attempt :: rest) ↔
      attempt.2.isOk = false ∧ ∀ later ∈ rest, later.2.isOk = false := by
  rw [Exhausted, List.forall_mem_cons]
  exact ⟨fun exhausted => exhausted.2, fun failed => ⟨nofun, failed⟩⟩

/-- The loop falls back as it should exactly while the pattern of failures is recoverable. -/
theorem tryChannels_fallsBack_iff {targets : List JsString}
    {outcome : Except ApprovalThrown (JsString × Option JsString)}
    (run : Executes (Reacts answers) tried (tryChannels opts input targets) trace outcome after) :
    FallsBack opts input (fallback answers tried (targets.filter (· ∈ opts.channels))) trace
        outcome ↔
      Recoverable opts input (targetIds opts input).getLast? answers tried
        (targets.filter (· ∈ opts.channels)) := by
  induction targets generalizing tried trace with
  | nil =>
      obtain ⟨rfl, rfl, -⟩ := executes_pure.mp run
      have nothing : ¬Exhausted (attempts []) := fun exhausted => exhausted.1 rfl
      refine ⟨fun _ => trivial, fun _ => ⟨rfl, ?_, fun _ absent => absurd absent List.not_mem_nil⟩⟩
      simp only [reduceCtorEq, exists_false, nothing]
  | cons id rest ih =>
      obtain ⟨unknown, going⟩ | ⟨known, delivered⟩ := executes_tryChannels run
      · rw [List.filter_cons_of_neg (by simpa using unknown)]
        exact ih going
      · rw [List.filter_cons_of_pos (by simpa using known), fallback, Recoverable]
        obtain ⟨channelRef, answered, rfl, rfl⟩ | ⟨raised, later, answered, rfl, going⟩ := delivered
        · rw [answered]
          have succeeded : ¬Exhausted [(id, (.ok channelRef : Delivery))] := by
            rw [exhausted_cons]
            simp [Except.isOk, Except.toBool]
          refine ⟨fun _ => nofun, fun _ => ⟨rfl, ?_, fun _ absent => absurd absent List.not_mem_nil⟩⟩
          show _ ↔ Exhausted [(id, _)]
          simp only [reduceCtorEq, exists_false, succeeded]
        · rw [answered]
          simp only [Except.isOk, Except.toBool, Bool.false_eq_true, if_false]
          have only : (∀ err, (Except.error raised : Delivery) = .error err →
              ((targetIds opts input).getLast? = some id ↔
                  rest.filter (· ∈ opts.channels) = []) ∧
                (rest.filter (· ∈ opts.channels) = [] → opts.quorum = none ∧
                  input.escalation = none ∧ ∃ message, errText err = .ok message) ∧
                Recoverable opts input (targetIds opts input).getLast? answers (tried + 1)
                  (rest.filter (· ∈ opts.channels))) ↔ _ :=
            ⟨fun each => each raised rfl, fun own err same => Except.error.inj same ▸ own⟩
          rw [only]
          split at going
          · next last =>
              obtain ⟨instant, rfl, rfl⟩ := executes_recordFailure going
              have exhausted : Exhausted [(id, (.error raised : Delivery))] :=
                exhausted_cons.mpr ⟨rfl, fun _ absent => absurd absent List.not_mem_nil⟩
              constructor
              · intro falls
                have alone : rest.filter (· ∈ opts.channels) = [] :=
                  fallback_eq_nil.mp (List.cons.inj falls.order).2.symm
                obtain ⟨message, shown⟩ := falls.surfaced.mpr exhausted
                obtain ⟨quorum, escalation⟩ := falls.projected _ (List.mem_singleton_self _)
                refine ⟨⟨fun _ => alone, fun _ => last⟩, fun _ => ⟨quorum.symm, escalation.symm, ?_⟩, ?_⟩
                · cases text : errText raised with
                  | ok printed => exact ⟨printed, rfl⟩
                  | error err =>
                      rw [text] at shown
                      exact absurd (errText_error text) (by rw [Except.error.inj shown]; exact nofun)
                · rw [alone]
                  trivial
              · rintro ⟨ends, plain, -⟩
                have alone := ends.mp last
                obtain ⟨quorum, escalation, message, printed⟩ := plain alone
                refine ⟨?_, ⟨fun _ => exhausted, fun _ => ⟨message, ?_⟩⟩, ?_⟩
                · rw [alone]
                  rfl
                · rw [printed]
                  rfl
                · intro request member
                  obtain rfl := List.mem_singleton.mp member
                  exact ⟨quorum.symm, escalation.symm⟩
          · next notLast =>
              by_cases alone : rest.filter (· ∈ opts.channels) = []
              · obtain ⟨rfl, rfl⟩ := executes_tryChannels_unknown alone going
                constructor
                · intro falls
                  obtain ⟨message, ⟨⟩⟩ := falls.surfaced.mpr
                    (exhausted_cons.mpr ⟨rfl, fun _ absent => absurd absent List.not_mem_nil⟩)
                · rintro ⟨ends, -⟩
                  exact absurd (ends.mpr alone) notLast
              · rw [← ih going]
                have goes (order : attempts later = fallback answers (tried + 1)
                    (rest.filter (· ∈ opts.channels))) :
                    Exhausted ((id, .error raised) :: attempts later) ↔ Exhausted (attempts later) := by
                  have nonempty : attempts later ≠ [] := by
                    rw [order, Ne, fallback_eq_nil]
                    exact alone
                  rw [exhausted_cons]
                  exact ⟨fun failed => ⟨nonempty, failed.2⟩, fun exhausted => ⟨rfl, exhausted.2⟩⟩
                constructor
                · rintro ⟨order, surfaced, projected⟩
                  have tail := (List.cons.inj order).2
                  exact ⟨⟨fun last => absurd last notLast, fun none => absurd none alone⟩,
                    fun none => absurd none alone, tail, surfaced.trans (goes tail), projected⟩
                · rintro ⟨-, -, order, surfaced, projected⟩
                  exact ⟨congrArg (List.cons _) order, surfaced.trans (goes order).symm, projected⟩

/-- An accepted confirmation of the agent has the votes that the quorum of the engine asks for. -/
def EnforcesQuorum (opts : ApprovalEngineOptions) (start : ApprovalRequest) : Prop :=
  ∀ calls before, History opts start calls before → ∀ input trace outcome after,
    Executes RegistryStep before (resolve opts input) trace outcome after →
      ConfirmsAccepted trace → ∀ policy ∈ opts.quorum, ∃ existing ∈ before, ∃ approvals,
        Casts input existing approvals ∧
          quorumMet (some approvals) policy (existing.requestedBy.map (·.id)) = true

/-- A resolution reads the quorum from the engine and not from the projection. -/
theorem enforcesQuorum (opts : ApprovalEngineOptions) (start : ApprovalRequest) :
    EnforcesQuorum opts start := by
  intro calls before _ input trace outcome after run confirms policy configured
  obtain ⟨event, member, confirmed, asked, accepted⟩ := confirms
  have neither (gate : event.op = .get input.token ∨ ∃ claim, event.op = .verifyAttestation claim) :
      False := by
    rw [asked] at gate
    obtain ⟨⟨⟩⟩ | ⟨claim, ⟨⟩⟩ := gate
  obtain ⟨-, quiet⟩ | ⟨gates, rest, middle, rfl, ⟨existing, present, -, -, counted⟩, -, quiet⟩ :=
    executes_resolve run
  · exact (neither (quiet event member)).elim
  · obtain early | late := List.mem_append.mp member
    · exact (neither (quiet event early)).elim
    · obtain ⟨-, met, -⟩ := countAndSettle_executes counted
      exact ⟨existing, present, met ⟨event, late, confirmed, asked, accepted⟩ policy configured⟩

/-- This is what a fallback over the channels promises. -/
structure Complete (opts : RoutingOptions) (input : RequestInput) (answers : Nat → Delivery)
    (trace : List RequestEvent) (outcome : Except ApprovalThrown Projection) : Prop where
  order : attempts trace =
    fallback answers 0 ((targetIds opts input).filter (· ∈ opts.channels))
  surfaced : (∃ message, outcome = .error (.approvalError .channelFailed message)) ↔
    Exhausted (attempts trace)
  projected : ∃ projection, puts trace = [projection] ∧ projection.token = input.token ∧
    projection.status = .pending ∧ projection.quorum = opts.quorum ∧
    projection.escalation = input.escalation ∧
    EnforcesQuorum opts.toApprovalEngineOptions projection.toApprovalRequest

/-- A request falls back completely exactly while the pattern of failures is recoverable. -/
theorem request_complete_iff {outcome : Except ApprovalThrown Projection}
    (run : Executes (Reacts answers) 0 (request opts input) trace outcome after) :
    Complete opts input answers trace outcome ↔
      Recoverable opts input (targetIds opts input).getLast? answers 0
        ((targetIds opts input).filter (· ∈ opts.channels)) := by
  obtain ⟨first, second, ⟨channelUsed, channelRef⟩, middle, rfl, tries, storing⟩ |
      ⟨raised, rfl, tries⟩ := executes_bind.mp run
  · rw [← tryChannels_fallsBack_iff tries]
    obtain ⟨unprojected, -⟩ | ⟨_, _, _, -, ⟨⟩⟩ := puts_tryChannels tries
    obtain ⟨clock, rest, instant, middle, rfl, read, writing⟩ | ⟨raised, rfl, read⟩ :=
      executes_bind.mp storing
    · obtain ⟨write, last, stored, middle, rfl, written, returned⟩ | ⟨raised, rfl, written⟩ :=
        executes_bind.mp writing
      · obtain ⟨rfl, -⟩ := executes_perform.mp read
        obtain ⟨rfl, -⟩ := executes_perform.mp written
        obtain ⟨rfl, rfl, -⟩ := executes_pure.mp returned
        have tried (last : List RequestEvent) (none : attempts last = []) :
            attempts (first ++ last) = attempts first := by
          show List.filterMap _ (first ++ last) = _
          rw [List.filterMap_append]
          exact (congrArg (attempts first ++ ·) none).trans (List.append_nil _)
        have single (last : List RequestEvent) : puts (first ++ last) = puts last := by
          show List.filterMap _ (first ++ last) = _
          rw [List.filterMap_append]
          exact congrArg (· ++ puts last) unprojected
        constructor
        · rintro ⟨order, surfaced, -⟩
          rw [tried _ rfl] at order surfaced
          refine ⟨order, ?_, ?_⟩
          · rw [← surfaced]
            simp only [reduceCtorEq]
          · rw [unprojected]
            exact fun _ absent => absurd absent List.not_mem_nil
        · rintro ⟨order, surfaced, -⟩
          refine ⟨?_, ?_, _, single _, rfl, rfl, rfl, rfl, enforcesQuorum _ _⟩
          · rw [tried _ rfl]
            exact order
          · rw [tried _ rfl, ← surfaced]
            simp only [reduceCtorEq]
      · obtain ⟨-, step⟩ := executes_perform.mp written
        cases step
    · obtain ⟨-, step⟩ := executes_perform.mp read
      cases step
  · rw [← tryChannels_fallsBack_iff tries]
    obtain ⟨-, _, ⟨⟩⟩ | ⟨id, instant, err, single, -⟩ := puts_tryChannels tries
    constructor
    · rintro ⟨order, surfaced, projection, stored, -, -, quorum, escalation, -⟩
      refine ⟨order, ?_, ?_⟩
      · rw [← surfaced]
        simp only [Except.error.injEq]
      · intro request member
        rw [stored, List.mem_singleton] at member
        rw [member]
        exact ⟨quorum, escalation⟩
    · rintro ⟨order, surfaced, projected⟩
      have kept := projected _ (by rw [single]; exact List.mem_singleton_self _)
      refine ⟨order, ?_, _, single, rfl, rfl, kept.1, kept.2, enforcesQuorum _ _⟩
      rw [← surfaced]
      simp only [Except.error.injEq]

end Executes

def refusal : ApprovalThrown := .other (.error "Error" "connection refused")

/-- Every delivery is refused, and the clock stands still. -/
def refusing : (op : RequestOp) → Except ApprovalThrown (RequestOp.Response op)
  | .send _ _ => .error refusal
  | .now => .ok []
  | .put _ => .ok ()

theorem leads_refusing {trace : List RequestEvent}
    (refused : ∀ event ∈ trace, event = ⟨event.op, refusing event.op⟩) (tried : Nat) :
    ∃ after, Leads (Reacts fun _ => .error refusal) tried trace after := by
  induction trace generalizing tried with
  | nil => exact ⟨tried, .nil tried⟩
  | cons event rest ih =>
      obtain ⟨own, others⟩ := List.forall_mem_cons.mp refused
      obtain ⟨next, step⟩ : ∃ next, Reacts (fun _ => .error refusal) tried event next := by
        rw [own]
        cases event.op with
        | send channel context => exact ⟨tried + 1, .send tried channel context⟩
        | now => exact ⟨tried, .now tried []⟩
        | put request => exact ⟨tried, .put tried request⟩
      obtain ⟨after, later⟩ := ih others next
      exact ⟨after, .cons step later⟩

theorem executes_refusing {A : Type} (program : RequestProgram A) : ∃ after,
    Executes (Reacts fun _ => .error refusal) 0 program (program.interpret refusing).1
      (program.interpret refusing).2 after := by
  obtain ⟨after, leads⟩ := leads_refusing (interpret_events refusing program) 0
  exact ⟨after, runs_interpret refusing program, leads⟩

/-- One channel is configured, and the requests are routed by a table. -/
def slackEngine (routed : List JsString) : RoutingOptions where
  quorum := none
  attestationVerifier := false
  enforceSeparationOfDuty := false
  agentIdentity := none
  notifies _ := false
  channels := ["slack"]
  route := some fun _ => routed
  buildLinks := none

def paymentRequest : RequestInput where
  token := "t-1"
  sessionId := "s-1"
  intentHash := "h-1"
  intentKind := "payment.send"
  prompt := "Send the payment?"
  taint := .untrusted
  escalation := none
  requestedBy := none

/-- A refusal of the only channel surfaces after its projection is stored. -/
theorem request_complete_slack : ∃ trace outcome, Complete (slackEngine ["slack"]) paymentRequest
    (fun _ => .error refusal) trace outcome := by
  obtain ⟨after, run⟩ := executes_refusing (request (slackEngine ["slack"]) paymentRequest)
  have known : (targetIds (slackEngine ["slack"]) paymentRequest).filter
      (· ∈ (slackEngine ["slack"]).channels) = [utf16 "slack"] := by decide +kernel
  refine ⟨_, _, (request_complete_iff run).mpr ?_⟩
  rw [known]
  rintro raised ⟨⟩
  exact ⟨⟨fun _ => rfl, fun _ => rfl⟩, fun _ => ⟨rfl, rfl, _, rfl⟩, trivial⟩

/-- A routed id after the last known channel hides that every delivery was refused. -/
theorem request_unknownLast : ∃ trace outcome after,
    Executes (Reacts fun _ => .error refusal) 0
        (request (slackEngine ["slack", "pager"]) paymentRequest) trace outcome after ∧
      ¬Complete (slackEngine ["slack", "pager"]) paymentRequest (fun _ => .error refusal) trace
        outcome := by
  obtain ⟨after, run⟩ := executes_refusing (request (slackEngine ["slack", "pager"]) paymentRequest)
  refine ⟨_, _, after, run, ?_⟩
  intro complete
  have known : (targetIds (slackEngine ["slack", "pager"]) paymentRequest).filter
      (· ∈ (slackEngine ["slack", "pager"]).channels) = [utf16 "slack"] := by decide +kernel
  have returned : ((request (slackEngine ["slack", "pager"]) paymentRequest).interpret
      refusing).2.isOk = true := by decide +kernel
  have tried := complete.order
  rw [known] at tried
  obtain ⟨message, thrown⟩ := complete.surfaced.mpr (by
    rw [tried]
    exact exhausted_cons.mpr ⟨rfl, fun _ absent => absurd absent List.not_mem_nil⟩)
  rw [thrown] at returned
  cases returned

end Adjudicate.Approval
