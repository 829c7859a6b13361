/-
This file describes the runs of the decision stages: the tenant gate, the ledger consult, the
overrides and the claim.
-/

import Adjudicate.Kernel.Steps
import Adjudicate.Shell.Runs

namespace Adjudicate.Shell

open Js Canonical Adjudicate.Core Adjudicate.Kernel Adjudicate.Audit Adjudicate.Effect
open Program (ofExcept tryCatch ensuring)

/-- These effects decide without touching a claim. -/
def Op.Deliberating : Op → Prop
  | nowMs => True
  | nowIso => True
  | isKilled => True
  | killState => True
  | checkLedger _ => True
  | recordLedgerOp _ => True
  | resolveResourceVersion _ => True
  | _ => False

/-- These effects settle the decision once the tenant switch and the ledger were asked. -/
def Op.Settling : Op → Prop
  | nowMs => True
  | nowIso => True
  | recordLedgerOp _ => True
  | resolveResourceVersion _ => True
  | _ => False

theorem Op.Settling.deliberating {op : Op} (settling : op.Settling) : op.Deliberating := by
  cases op with
  | nowMs | nowIso | recordLedgerOp | resolveResourceVersion => trivial
  | _ => exact settling.elim

theorem Op.Deliberating.quiet {trace : List ShellEvent}
    (inside : ∀ event ∈ trace, event.op.Deliberating) : Quiet trace := by
  apply quiet_of_ops
  intro event member
  have deliberating := inside event member
  constructor <;> intro _ same <;> rw [same] at deliberating <;> exact deliberating

theorem Op.Settling.quiet {trace : List ShellEvent}
    (inside : ∀ event ∈ trace, event.op.Settling) : Quiet trace :=
  Op.Deliberating.quiet fun event member => (inside event member).deliberating

/-- The run acquires the key, and the given events follow. -/
def AcquiredThen (key : JsString) (trace after : List ShellEvent) : Prop :=
  ∃ before entry, trace = before ++ ⟨.recordExecution entry, .ok .acquired⟩ :: after ∧
    entry.intentHash = key ∧ Quiet before

theorem AcquiredThen.prepend {key : JsString} {trace after front : List ShellEvent}
    (acquired : AcquiredThen key trace after) (quiet : Quiet front) :
    AcquiredThen key (front ++ trace) after := by
  obtain ⟨before, entry, rfl, same, quietBefore⟩ := acquired
  exact ⟨front ++ before, entry, by simp, same, quiet_append.mpr ⟨quiet, quietBefore⟩⟩

theorem AcquiredThen.append {key : JsString} {trace after : List ShellEvent}
    (acquired : AcquiredThen key trace after) (more : List ShellEvent) :
    AcquiredThen key (trace ++ more) (after ++ more) := by
  obtain ⟨before, entry, rfl, same, quietBefore⟩ := acquired
  exact ⟨before, entry, by simp, same, quietBefore⟩

section

variable {S : Type} (host : Host) (call : Call S)

theorem confined_nowMs : Confined Op.Deliberating (invoke .nowMs) := confined_perform trivial

theorem confined_tenantGate (context : Option RuntimeContext) :
    Confined Op.Deliberating (tenantGate context) := by
  cases context with
  | none => trivial
  | some context =>
      apply confined_bind
      · rw [readTenantKillState]
        split
        · apply confined_tryCatch
          · apply confined_bind (confined_perform trivial)
            intro killed
            cases killed with
            | false => trivial
            | true =>
                apply confined_bind (confined_perform trivial)
                intro kill
                trivial
          · intro err
            trivial
        · trivial
      · intro kill
        trivial

theorem confined_consultLedger : Confined Op.Deliberating (consultLedger call) := by
  rw [consultLedger]
  split
  · trivial
  · apply confined_bind (confined_perform trivial)
    intro checkStart
    apply confined_bind (confined_perform trivial)
    intro ledgerHit
    apply confined_bind (confined_perform trivial)
    intro now
    apply confined_bind (confined_perform trivial)
    intro _
    trivial

theorem confined_budgetOverride (decision : Decision) :
    Confined Op.Settling (budgetOverride call decision) := by
  rw [budgetOverride]
  split
  · trivial
  · next grant executed _ =>
      apply confined_bind
      · rw [budgetPredecessorAt]
        split
        · trivial
        · exact confined_perform trivial
      · intro predecessorAt
        trivial

theorem confined_readjudicate (decision : Decision) :
    Confined Op.Settling (readjudicate host call decision) := by
  apply confined_bind (confined_ofExcept _)
  intro second
  obtain ⟨second, rewritten⟩ := second
  cases rewritten with
  | none => trivial
  | some rewritten =>
      apply confined_bind (confined_perform trivial)
      intro instant
      trivial

theorem confined_resolveResourceVersion (deps : AdjudicateAndAuditDeps)
    (executed : IntentEnvelope) :
    Confined Op.Settling (resolveResourceVersion deps executed) := by
  rw [resolveResourceVersion]
  split
  · exact confined_perform trivial
  · trivial

theorem confined_settleClaim (decision : Decision) (executed : IntentEnvelope)
    (recordStart : JsNumber) (resourceVersion : JsString) (outcome : LedgerRecordOutcome) :
    Confined Op.Settling (settleClaim decision executed recordStart resourceVersion outcome) := by
  apply confined_bind (confined_perform trivial)
  intro now
  apply confined_bind (confined_perform trivial)
  intro _
  cases outcome with
  | acquired => trivial
  | «exists» =>
      apply confined_bind (confined_perform trivial)
      intro instant
      trivial

/-- After a won claim only an unguarded effect can throw. -/
theorem settleClaim_acquired_throwsOn (decision : Decision) (executed : IntentEnvelope)
    (recordStart : JsNumber) (resourceVersion : JsString) :
    ThrowsOn Op.Unguarded
      (settleClaim decision executed recordStart resourceVersion .acquired) := by
  apply throwsOn_bind (throwsOn_perform trivial)
  intro now
  apply throwsOn_bind (throwsOn_perform trivial)
  intro _
  exact throwsOn_pure _

theorem settleClaim_ok {decision second : Decision} {executed : IntentEnvelope}
    {recordStart : JsNumber} {resourceVersion : JsString} {outcome : LedgerRecordOutcome}
    {acquired : Bool} {trace : List ShellEvent}
    (run : Runs (settleClaim decision executed recordStart resourceVersion outcome) trace
      (.ok (second, acquired))) :
    (outcome = .acquired ∧ second = decision ∧ acquired = true) ∨
      (outcome = .exists ∧ acquired = false ∧
        ∃ hit, second = replaySuppressedRefusal executed.intentHash hit) := by
  obtain ⟨_, _, _, -, -, run⟩ := runs_bind_ok.mp run
  obtain ⟨_, _, _, -, -, run⟩ := runs_bind_ok.mp run
  cases outcome with
  | acquired =>
      obtain ⟨-, ⟨⟩⟩ := runs_pure.mp run
      exact .inl ⟨rfl, rfl, rfl⟩
  | «exists» =>
      obtain ⟨_, _, _, -, -, run⟩ := runs_bind_ok.mp run
      obtain ⟨-, ⟨⟩⟩ := runs_pure.mp run
      exact .inr ⟨rfl, rfl, _, rfl⟩

/-- The claim is lost, or was never made. -/
structure Unclaimed (decision : Decision) (rewritten : Option IntentEnvelope)
    (trace : List ShellEvent) (outcome : Except Thrown (Decision × Bool)) : Prop where
  quiet : Quiet trace
  result : ∀ second acquired, outcome = .ok (second, acquired) → acquired = false ∧
    ((second = decision ∧ (executing decision rewritten = true → call.deps.ledger = none)) ∨
      ∃ entry hit, ⟨.recordExecution entry, .ok .exists⟩ ∈ trace ∧
        second = replaySuppressedRefusal (executedEnvelope call.envelope rewritten).intentHash hit)

/-- The key of the executed envelope was acquired, and only an unguarded failure throws then. -/
structure Claimed (decision : Decision) (rewritten : Option IntentEnvelope)
    (trace : List ShellEvent) (outcome : Except Thrown (Decision × Bool)) : Prop where
  executes : executing decision rewritten = true
  ledger : call.deps.ledger.isSome
  acquired : ∃ after, AcquiredThen (executedEnvelope call.envelope rewritten).intentHash trace after ∧
    Quiet after ∧ ((outcome = .ok (decision, true) ∧ ¬UnguardedFailure after) ∨
      ((∃ raised, outcome = .error raised) ∧ UnguardedFailure after))

theorem unclaimed_of_error {decision : Decision} {rewritten : Option IntentEnvelope}
    {trace : List ShellEvent} {raised : Thrown} (quiet : Quiet trace) :
    Unclaimed call decision rewritten trace (.error raised) where
  quiet := quiet
  result := by
    intro second acquired returned
    cases returned

theorem claimKey_run {decision : Decision} {rewritten : Option IntentEnvelope}
    {trace : List ShellEvent} {outcome : Except Thrown (Decision × Bool)}
    (run : Runs (claimKey call decision rewritten) trace outcome) :
    Unclaimed call decision rewritten trace outcome ∨
      Claimed call decision rewritten trace outcome := by
  rw [claimKey] at run
  split at run
  · next applies =>
      rw [Bool.and_eq_true] at applies
      obtain ⟨executes, ledger⟩ := applies
      obtain ⟨first, tail, recordStart, rfl, clock, run⟩ | ⟨raised, rfl, clock⟩ := runs_bind.mp run
      swap
      · exact .inl (unclaimed_of_error call (Op.Deliberating.quiet (clock.confined confined_nowMs)))
      have clockQuiet := Op.Deliberating.quiet (clock.confined confined_nowMs)
      obtain ⟨second, tail, resourceVersion, rfl, resolved, run⟩ | ⟨raised, rfl, resolved⟩ :=
        runs_bind.mp run
      swap
      · refine .inl (unclaimed_of_error call (quiet_append.mpr ⟨clockQuiet, ?_⟩))
        exact Op.Settling.quiet (resolved.confined (confined_resolveResourceVersion _ _))
      have resolvedQuiet :=
        Op.Settling.quiet (resolved.confined (confined_resolveResourceVersion _ _))
      obtain ⟨third, tail, response, rfl, record, run⟩ | ⟨raised, rfl, record⟩ := runs_bind.mp run
      swap
      · refine .inl (unclaimed_of_error call
          (quiet_append.mpr ⟨clockQuiet, quiet_append.mpr ⟨resolvedQuiet, ?_⟩⟩))
        rw [runs_perform.mp record]
        simp [quiet_cons, quiet_nil, ledgerKeys]
      rw [runs_perform.mp record]
      have tailQuiet := Op.Settling.quiet (run.confined (confined_settleClaim _ _ _ _ _))
      cases response with
      | acquired =>
          refine .inr ⟨executes, ledger, tail, ⟨first ++ second,
            claimEntry (executedEnvelope call.envelope rewritten) resourceVersion, by simp, rfl,
            quiet_append.mpr ⟨clockQuiet, resolvedQuiet⟩⟩, tailQuiet, ?_⟩
          have throws := settleClaim_acquired_throwsOn _ _ _ _ _ _ run
          cases outcome with
          | error raised => exact .inr ⟨⟨raised, rfl⟩, throws.mp ⟨raised, rfl⟩⟩
          | ok result =>
              obtain ⟨later, acquired⟩ := result
              obtain ⟨-, rfl, rfl⟩ | ⟨⟨⟩, -⟩ := settleClaim_ok run
              refine .inl ⟨rfl, ?_⟩
              intro failure
              obtain ⟨raised, ⟨⟩⟩ := throws.mpr failure
      | «exists» =>
          refine .inl ⟨?_, ?_⟩
          · refine quiet_append.mpr ⟨clockQuiet, quiet_append.mpr ⟨resolvedQuiet, ?_⟩⟩
            rw [List.singleton_append, quiet_cons]
            exact ⟨⟨rfl, rfl⟩, tailQuiet⟩
          · rintro later acquired rfl
            obtain ⟨⟨⟩, -⟩ | ⟨-, rfl, hit, rfl⟩ := settleClaim_ok run
            exact ⟨rfl, .inr ⟨claimEntry (executedEnvelope call.envelope rewritten) resourceVersion,
              hit, by simp, rfl⟩⟩
  · next skips =>
      obtain ⟨rfl, rfl⟩ := runs_pure.mp run
      refine .inl ⟨quiet_nil, ?_⟩
      rintro second acquired ⟨⟩
      refine ⟨rfl, .inl ⟨rfl, ?_⟩⟩
      intro executes
      rw [executes, Bool.true_and, Option.not_isSome_iff_eq_none] at skips
      exact skips

/-- The receipt and the budget only turn a request for confirmation into an execution. -/
def overridden (decision : Decision) : Decision :=
  let confirmed := (confirmationOverride call decision).1
  ((budgetFor call confirmed).map Prod.snd).getD confirmed

/-- This is what the pure stages settle on before the claim. -/
def settled : Except Thrown (Decision × Option IntentEnvelope) := do
  let decision ← adjudicate host call.envelope call.state call.kill call.policy
  readjudicated host call (overridden call decision)

theorem budgetOverride_ok {decision second : Decision} {link : Option Supersession}
    {trace : List ShellEvent} (run : Runs (budgetOverride call decision) trace (.ok (second, link))) :
    second = ((budgetFor call decision).map Prod.snd).getD decision := by
  rw [budgetOverride] at run
  split at run
  · next unfunded =>
      obtain ⟨-, ⟨⟩⟩ := runs_pure.mp run
      rw [unfunded]
      rfl
  · next grant executed funded =>
      obtain ⟨_, _, _, -, -, run⟩ := runs_bind_ok.mp run
      obtain ⟨-, ⟨⟩⟩ := runs_pure.mp run
      rw [funded]
      rfl

theorem readjudicate_ok {decision second : Decision} {rewritten : Option IntentEnvelope}
    {link : Option Supersession} {trace : List ShellEvent}
    (run : Runs (readjudicate host call decision) trace (.ok (second, rewritten, link))) :
    readjudicated host call decision = .ok (second, rewritten) := by
  obtain ⟨_, _, ⟨later, replacement⟩, -, pass, run⟩ := runs_bind_ok.mp run
  obtain ⟨-, passed⟩ := runs_ofExcept.mp pass
  rw [← passed]
  cases replacement with
  | none =>
      obtain ⟨-, ⟨⟩⟩ := runs_pure.mp run
      rfl
  | some replacement =>
      obtain ⟨_, _, _, -, -, run⟩ := runs_bind_ok.mp run
      obtain ⟨-, ⟨⟩⟩ := runs_pure.mp run
      rfl

/-- A ledger hit suppresses the call before the kernel runs. -/
def suppressed (ledgerHit : LedgerHit) : Computed where
  decision := replaySuppressedRefusal call.envelope.intentHash ledgerHit
  trace := []
  rewritten := none
  supersedes := call.deps.supersedes
  ledgerAcquired := false
  ledgerHit := some ledgerHit

theorem consultLedger_hit {hit : LedgerHit} {trace : List ShellEvent}
    (run : Runs (consultLedger call) trace (.ok (some hit))) :
    ⟨.checkLedger call.envelope.intentHash, .ok (some hit)⟩ ∈ trace := by
  rw [consultLedger] at run
  split at run
  · obtain ⟨-, ⟨⟩⟩ := runs_pure.mp run
  · obtain ⟨_, _, _, rfl, -, run⟩ := runs_bind_ok.mp run
    obtain ⟨_, _, _, rfl, check, run⟩ := runs_bind_ok.mp run
    obtain ⟨_, _, _, rfl, -, run⟩ := runs_bind_ok.mp run
    obtain ⟨_, _, _, rfl, -, run⟩ := runs_bind_ok.mp run
    obtain ⟨-, ⟨⟩⟩ := runs_pure.mp run
    rw [runs_perform.mp check]
    simp

/-- The settled decision runs into the claim, whose result is the computed decision. -/
structure Settles (trace : List ShellEvent) (outcome : Except Thrown Computed)
    (decision : Decision) (rewritten : Option IntentEnvelope) (claim : List ShellEvent)
    (result : Except Thrown (Decision × Bool)) : Prop where
  split : ∃ front, trace = front ++ claim ∧ Quiet front
  settles : settled host call = .ok (decision, rewritten)
  claims : Runs (claimKey call decision rewritten) claim result
  computed : ∃ entries supersedes, outcome = result.map fun (second, ledgerAcquired) =>
    { decision := second, trace := entries, rewritten, supersedes, ledgerAcquired,
      ledgerHit := none }

theorem compute_run {trace : List ShellEvent} {outcome : Except Thrown Computed}
    (run : Runs (compute host call) trace outcome) :
    (Quiet trace ∧ ∃ raised, outcome = .error raised) ∨
      (Quiet trace ∧ ∃ hit, ⟨.checkLedger call.envelope.intentHash, .ok (some hit)⟩ ∈ trace ∧
        outcome = .ok (suppressed call hit)) ∨
      ∃ decision rewritten claim result,
        Settles host call trace outcome decision rewritten claim result := by
  have quietConsult {events : List ShellEvent} {response : Except Thrown (Option LedgerHit)}
      (run : Runs (consultLedger call) events response) : Quiet events :=
    Op.Deliberating.quiet (run.confined (confined_consultLedger call))
  obtain ⟨first, tail, ledgerHit, rfl, consult, run⟩ | ⟨raised, rfl, consult⟩ := runs_bind.mp run
  swap
  · exact .inl ⟨quietConsult consult, raised, rfl⟩
  have firstQuiet := quietConsult consult
  cases ledgerHit with
  | some hit =>
      obtain ⟨rfl, rfl⟩ := runs_pure.mp run
      rw [List.append_nil]
      exact .inr (.inl ⟨firstQuiet, hit, consultLedger_hit call consult, rfl⟩)
  | none =>
      obtain ⟨second, tail, traced, rfl, kernel, decided⟩ | ⟨raised, rfl, kernel⟩ :=
        runs_bind.mp run
      swap
      · obtain ⟨rfl, -⟩ := runs_ofExcept.mp kernel
        rw [List.append_nil]
        exact .inl ⟨firstQuiet, raised, rfl⟩
      obtain ⟨rfl, answer⟩ := runs_ofExcept.mp kernel
      have adjudicated : adjudicate host call.envelope call.state call.kill call.policy =
          .ok traced.decision := by
        rw [← adjudicateWithTrace_decision, ← answer]
        rfl
      obtain ⟨third, tail, ⟨budgeted, budgetLink⟩, rfl, budget, funded⟩ | ⟨raised, rfl, budget⟩ :=
        runs_bind.mp decided
      all_goals
        have thirdQuiet :=
          Op.Settling.quiet (budget.confined (confined_budgetOverride call _))
      swap
      · rw [List.nil_append]
        exact .inl ⟨quiet_append.mpr ⟨firstQuiet, thirdQuiet⟩, raised, rfl⟩
      obtain ⟨fourth, tail, ⟨second, rewritten, rewriteLink⟩, rfl, pass, passed⟩ | ⟨raised, rfl, pass⟩ :=
        runs_bind.mp funded
      all_goals
        have fourthQuiet :=
          Op.Settling.quiet (pass.confined (confined_readjudicate host call _))
      swap
      · rw [List.nil_append]
        exact .inl ⟨quiet_append.mpr ⟨firstQuiet, quiet_append.mpr ⟨thirdQuiet, fourthQuiet⟩⟩,
          raised, rfl⟩
      have settles : settled host call = .ok (second, rewritten) := by
        rw [settled, adjudicated]
        change readjudicated host call (overridden call traced.decision) = _
        have overrides : budgeted = overridden call traced.decision := budgetOverride_ok call budget
        rw [← overrides]
        exact readjudicate_ok host call pass
      have front : ∃ front, first ++ ([] ++ (third ++ (fourth ++ tail))) = front ++ tail ∧
          Quiet front :=
        ⟨first ++ (third ++ fourth), by simp,
          quiet_append.mpr ⟨firstQuiet, quiet_append.mpr ⟨thirdQuiet, fourthQuiet⟩⟩⟩
      obtain ⟨fifth, tail, ⟨later, acquired⟩, rfl, claim, returned⟩ | ⟨raised, rfl, claim⟩ :=
        runs_bind.mp passed
      · obtain ⟨rfl, rfl⟩ := runs_pure.mp returned
        rw [List.append_nil] at front ⊢
        exact .inr (.inr ⟨second, rewritten, fifth, _, front, settles, claim, _, _, rfl⟩)
      · exact .inr (.inr ⟨second, rewritten, tail, _, front, settles, claim, [], none, rfl⟩)

/-- The tenant switch is usable, and it answers that the tenant is not killed. -/
structure TenantOpen (trace : List ShellEvent) : Prop where
  usable : ∀ context ∈ call.deps.context, context.killSwitch = true
  released : ∀ outcome, ⟨.isKilled, outcome⟩ ∈ trace → outcome = .ok false

/-- The ledger has no entry that suppresses the call, neither at the check nor at the claim. -/
structure LedgerOpen (trace : List ShellEvent) : Prop where
  missed : ∀ intentHash hit, ⟨.checkLedger intentHash, .ok (some hit)⟩ ∉ trace
  won : ∀ entry, ⟨.recordExecution entry, .ok .exists⟩ ∉ trace

theorem TenantOpen.mono {part trace : List ShellEvent} (inside : ∀ event ∈ part, event ∈ trace)
    (tenantOpen : TenantOpen call trace) : TenantOpen call part where
  usable := tenantOpen.usable
  released outcome asked := tenantOpen.released outcome (inside _ asked)

theorem tenantGate_killed {killed : RuntimeContext × KillSwitchState} {trace : List ShellEvent}
    (run : Runs (tenantGate call.deps.context) trace (.ok (some killed))) :
    ¬TenantOpen call trace := by
  intro ⟨usable, released⟩
  cases context : call.deps.context with
  | none =>
      rw [context] at run
      obtain ⟨-, ⟨⟩⟩ := runs_pure.mp run
  | some context' =>
      rw [context, tenantGate] at run
      obtain ⟨first, _, state, rfl, read, returned⟩ := runs_bind_ok.mp run
      rw [readTenantKillState, if_pos (usable context' context)] at read
      have answers (outcome : Except Thrown Bool) (asked : ⟨.isKilled, outcome⟩ ∈ first) :
          outcome = .ok false := released outcome (List.mem_append_left _ asked)
      obtain ⟨value, ⟨⟩, body⟩ | ⟨before, after, raised, rfl, body, -⟩ := runs_tryCatch.mp read
      · obtain ⟨_, _, asked, rfl, ask, rest⟩ := runs_bind_ok.mp body
        rw [runs_perform.mp ask] at answers
        cases answers (.ok asked) (by simp)
        obtain ⟨-, ⟨⟩⟩ := runs_pure.mp rest
        obtain ⟨-, ⟨⟩⟩ := runs_pure.mp returned
      · obtain ⟨_, _, asked, rfl, ask, rest⟩ | ⟨other, -, ask⟩ := runs_bind.mp body
        · rw [runs_perform.mp ask] at answers
          cases answers (.ok asked) (by simp)
          obtain ⟨-, ⟨⟩⟩ := runs_pure.mp rest
        · rw [runs_perform.mp ask] at answers
          cases answers (.error other) (by simp)

theorem deliberate_run {trace : List ShellEvent} {outcome : Except Thrown (JsNumber × Verdict)}
    (run : Runs (deliberate host call) trace outcome) :
    (Quiet trace ∧ ∃ raised, outcome = .error raised) ∨
      (Quiet trace ∧ ¬TenantOpen call trace ∧
        ∃ start context kill, outcome = .ok (start, .killed context kill)) ∨
      ∃ front rest start result, trace = front ++ rest ∧ Quiet front ∧
        Runs (compute host call) rest result ∧
        outcome = result.map fun computed => (start, .computed computed) := by
  obtain ⟨first, tail, start, rfl, clock, run⟩ | ⟨raised, rfl, clock⟩ := runs_bind.mp run
  all_goals have firstQuiet := Op.Deliberating.quiet (clock.confined confined_nowMs)
  swap
  · exact .inl ⟨firstQuiet, raised, rfl⟩
  obtain ⟨second, tail, gate, rfl, tenant, run⟩ | ⟨raised, rfl, tenant⟩ := runs_bind.mp run
  all_goals
    have secondQuiet := Op.Deliberating.quiet (tenant.confined (confined_tenantGate _))
    have frontQuiet := quiet_append.mpr ⟨firstQuiet, secondQuiet⟩
  swap
  · exact .inl ⟨frontQuiet, raised, rfl⟩
  cases gate with
  | some killed =>
      obtain ⟨rfl, rfl⟩ := runs_pure.mp run
      rw [List.append_nil]
      refine .inr (.inl ⟨frontQuiet, ?_, start, killed.1, killed.2, rfl⟩)
      intro tenantOpen
      apply tenantGate_killed call tenant
      exact tenantOpen.mono call fun event inside => by simp [inside]
  | none =>
      obtain ⟨third, tail, computed, rfl, ran, run⟩ | ⟨raised, rfl, ran⟩ := runs_bind.mp run
      · obtain ⟨rfl, rfl⟩ := runs_pure.mp run
        refine .inr (.inr ⟨first ++ second, third, start, .ok computed, by simp, frontQuiet, ran, rfl⟩)
      · exact .inr (.inr ⟨first ++ second, tail, start, .error raised, by simp, frontQuiet, ran, rfl⟩)

end

end Adjudicate.Shell
