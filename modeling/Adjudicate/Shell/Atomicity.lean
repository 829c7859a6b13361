/-
This file decides which failures leave a claimed key or an uncounted rate limit behind.
-/

import Adjudicate.Shell.Authorization

namespace Adjudicate.Shell

open Js Canonical Adjudicate.Core Adjudicate.Kernel Adjudicate.Audit Adjudicate.Effect
open Program (ofExcept tryCatch ensuring)

/-- The events release the key successfully, and nothing claims a key afterwards. -/
def GivesBack (key : JsString) (after : List ShellEvent) : Prop :=
  ∃ middle rest, after = middle ++ ⟨.release key, .ok ()⟩ :: rest ∧ Quiet rest

def ReleasesSucceed (trace : List ShellEvent) : Prop :=
  ∀ key response, ⟨.release key, response⟩ ∈ trace → response = .ok ()

def isRollback (event : ShellEvent) : Bool :=
  match event.op with
  | .rateLimitRollback => true
  | _ => false

def rollbacks (trace : List ShellEvent) : Nat := trace.countP isRollback

/-- The computed decision runs an envelope. -/
def Verdict.executes : Verdict → Bool
  | .killed _ _ => false
  | .computed result => executing result.decision result.rewritten

/-- A key that was given back is no longer held. -/
theorem not_holds_of_givesBack {key : JsString} {before after : List ShellEvent}
    (givesBack : GivesBack key after) : ¬ledgerKeys.Holds (before ++ after) key := by
  obtain ⟨middle, rest, rfl, quiet⟩ := givesBack
  rw [List.append_cons, ← List.append_assoc, ledgerKeys.holds_append_quiet, ← List.append_assoc,
    ledgerKeys.holds_append]
  · simp [ledgerKeys]
  · intro event inside
    obtain ⟨claims, releases⟩ := quiet event inside
    rw [claims, releases]
    exact ⟨by rintro ⟨⟩, by rintro ⟨⟩⟩

section

variable {S : Type} (host : Host) (call : Call S)

/-- A claim is followed by what the run lemma says follows the acquired key. -/
theorem after_of_acquiredThen {key : JsString} {before after later : List ShellEvent}
    {entry : LedgerRecordInput}
    (acquired : AcquiredThen key (before ++ ⟨.recordExecution entry, .ok .acquired⟩ :: after) later)
    (unclaimed : ∀ event ∈ later, ledgerKeys.claims event = none) :
    entry.intentHash = key ∧ after = later := by
  obtain ⟨front, other, same, rfl, quiet⟩ := acquired
  obtain ⟨-, event, ends⟩ := @split_unique _ (fun event => ledgerKeys.claims event ≠ none)
    _ _ _ _ _ _ same nofun (fun event inside => not_not_intro (quiet event inside).1)
    (fun event inside => not_not_intro (unclaimed event inside))
  cases event
  exact ⟨rfl, ends⟩

/-- A rejected call gives its key back exactly when no unguarded effect fails after the claim. -/
theorem givesBack_iff {before after : List ShellEvent} {entry : LedgerRecordInput} {raised : Thrown}
    (run : Runs (adjudicateAndAudit host call)
      (before ++ ⟨.recordExecution entry, .ok .acquired⟩ :: after) (.error raised))
    (releases : call.deps.Releases) (succeed : ReleasesSucceed after) :
    GivesBack entry.intentHash after ↔ ¬UnguardedFailure after := by
  obtain quiet | ⟨key, later, acquired, quiet, fails⟩ |
    ⟨key, middle, response, later, acquired, middleQuiet, laterQuiet, -, fine⟩ :=
    adjudicateAndAudit_keys host call run
  · cases (quiet ⟨.recordExecution entry, .ok .acquired⟩ (by simp)).1
  · obtain ⟨rfl, rfl⟩ := after_of_acquiredThen acquired fun event inside => (quiet event inside).1
    refine iff_of_false ?_ (not_not_intro (fails ⟨raised, rfl⟩ releases))
    intro ⟨early, rest, same, _⟩
    rw [same] at quiet
    cases (quiet ⟨.release entry.intentHash, .ok ()⟩ (by simp)).2
  · have unclaimed : ∀ event ∈ middle ++ ⟨.release key, response⟩ :: later,
        ledgerKeys.claims event = none := by
      intro event inside
      obtain early | late := List.mem_append.mp inside
      · exact (middleQuiet event early).1
      · obtain rfl | late := List.mem_cons.mp late
        · rfl
        · exact (laterQuiet event late).1
    obtain ⟨rfl, rfl⟩ := after_of_acquiredThen acquired unclaimed
    refine iff_of_true ?_ fine
    cases succeed _ response (by simp)
    exact ⟨middle, later, rfl, laterQuiet⟩

/-- Claiming only adds the claim to the deliberating effects. -/
def Op.Claiming (op : Op) : Prop := op.Deliberating ∨ ∃ entry, op = .recordExecution entry

theorem confined_claimKey (decision : Decision) (rewritten : Option IntentEnvelope) :
    Confined Op.Claiming (claimKey call decision rewritten) := by
  rw [claimKey]
  split
  · apply confined_bind (confined_nowMs.mono fun _ => .inl)
    intro recordStart
    apply confined_bind ((confined_resolveResourceVersion _ _).mono fun _ inside => .inl inside.deliberating)
    intro resourceVersion
    apply confined_bind
    · exact confined_perform (.inr ⟨_, rfl⟩)
    · intro outcome
      exact (confined_settleClaim _ _ _ _ _).mono fun _ inside => .inl inside.deliberating
  · trivial

theorem confined_compute : Confined Op.Claiming (compute host call) := by
  apply confined_bind ((confined_consultLedger call).mono fun _ => .inl)
  intro ledgerHit
  cases ledgerHit with
  | some hit => trivial
  | none =>
      apply confined_bind (confined_ofExcept _)
      intro traced
      apply confined_bind ((confined_budgetOverride call _).mono fun _ inside => .inl inside.deliberating)
      intro budgeted
      apply confined_bind ((confined_readjudicate host call _).mono fun _ inside => .inl inside.deliberating)
      intro settled
      apply confined_bind (confined_claimKey call _ _)
      intro claimed
      trivial

theorem confined_deliberate : Confined Op.Claiming (deliberate host call) := by
  apply confined_bind (confined_nowMs.mono fun _ => .inl)
  intro start
  apply confined_bind ((confined_tenantGate _).mono fun _ => .inl)
  intro gate
  cases gate with
  | some killed => trivial
  | none =>
      apply confined_bind (confined_compute host call)
      intro computed
      trivial

theorem rollbacks_eq_zero {trace : List ShellEvent}
    (others : ∀ event ∈ trace, event.op ≠ .rateLimitRollback) : rollbacks trace = 0 := by
  rw [rollbacks, List.countP_eq_zero]
  intro event inside
  rw [isRollback]
  split
  · next same => exact (others event inside same).elim
  · exact Bool.false_ne_true

theorem rollbacks_append (before after : List ShellEvent) :
    rollbacks (before ++ after) = rollbacks before + rollbacks after := List.countP_append

theorem rollbacks_rollBackRateLimit {trace : List ShellEvent} {outcome : Except Thrown Unit}
    (supplied : call.deps.rateLimitRollback = true)
    (run : Runs (rollBackRateLimit call.deps call.envelope.intentHash) trace outcome) :
    rollbacks trace = 1 := by
  obtain ⟨response, rest, rfl, others⟩ := rollBackRateLimit_run call.deps supplied run
  have none := rollbacks_eq_zero others
  rw [rollbacks, List.countP_cons, ← rollbacks, none]
  rfl

/-- The telemetry throws before the rollback, or the rollback follows the record. -/
theorem rollbacks_iff {start : JsNumber} {decision : Decision}
    {trace : List AdjudicationTraceEntry} {planned : Bool}
    {body : JsNumber × Option PlanSnapshot → ShellProgram AuditRecord}
    {wrap : AuditRecord → AdjudicateAndAuditResult} {after : List ShellEvent}
    {outcome : Except Thrown AdjudicateAndAuditResult}
    (supplied : call.deps.rateLimitRollback = true)
    (guarded : ∀ measured events response, Runs (body measured) events response →
      ∀ event ∈ events, event.op.Recording ∨ event.op.Releasing)
    (run : Runs (emitTelemetry host call start decision trace planned >>= fun measured =>
      (body measured).ensuring (rollBackRateLimit call.deps call.envelope.intentHash) >>=
        fun record => pure (wrap record)) after outcome) :
    rollbacks after = 1 ↔ ¬UnguardedFailure after := by
  obtain ⟨front, tail, measured, rfl, telemetry, run⟩ | ⟨raised, rfl, telemetry⟩ :=
    runs_bind.mp run
  all_goals
    have frontInside := telemetry.confined (confined_emitTelemetry host call _ _ _ _)
    have throws := emitTelemetry_throwsOn host call _ _ _ _ _ _ telemetry
  · have frontNone : rollbacks front = 0 := by
      apply rollbacks_eq_zero
      intro event inside same
      have reporting := frontInside event inside
      rw [same] at reporting
      exact reporting
    obtain ⟨recording, cleanup, recorded, rfl, record, rest⟩ := runs_ensuring_wrap run
    have recordInside := guarded _ _ _ record
    have recordNone : rollbacks recording = 0 := by
      apply rollbacks_eq_zero
      intro event inside same
      have harmless := recordInside event inside
      rw [same] at harmless
      exact harmless.elim id id
    obtain ⟨result, cleaned⟩ : ∃ result,
        Runs (rollBackRateLimit call.deps call.envelope.intentHash) cleanup result := by
      obtain ⟨cleaned, -⟩ | ⟨raised, cleaned, -⟩ := rest
      · exact ⟨_, cleaned⟩
      · exact ⟨_, cleaned⟩
    rw [rollbacks_append, rollbacks_append, frontNone, recordNone,
      rollbacks_rollBackRateLimit call supplied cleaned]
    refine iff_of_true rfl ?_
    rw [unguardedFailure_append, not_or]
    constructor
    · intro failure
      obtain ⟨raised, ⟨⟩⟩ := throws.mpr failure
    · apply no_unguardedFailure
      intro event inside
      obtain early | late := List.mem_append.mp inside
      · obtain recording | releasing := recordInside event early
        · exact .inl recording
        · exact .inr (.inl releasing)
      · exact .inr (.inr (cleaned.confined (confined_rollBackRateLimit _ _) event late))
  · refine iff_of_false ?_ (not_not_intro (throws.mp ⟨raised, rfl⟩))
    rw [rollbacks_eq_zero]
    · exact Nat.zero_ne_one
    · intro event inside same
      have reporting := frontInside event inside
      rw [same] at reporting
      exact reporting

/-- A decision that runs nothing is rolled back once exactly when no unguarded effect fails. -/
theorem deliver_rollbacks_iff {start : JsNumber} {verdict : Verdict} {after : List ShellEvent}
    {outcome : Except Thrown AdjudicateAndAuditResult} (refuses : verdict.executes = false)
    (supplied : call.deps.rateLimitRollback = true)
    (run : Runs (deliver host call start verdict) after outcome) :
    rollbacks after = 1 ↔ ¬UnguardedFailure after := by
  cases verdict with
  | killed context kill =>
      apply rollbacks_iff host call supplied _ run
      intro measured events response ran event inside
      exact .inl (ran.confined (confined_emitRecord _ _ _) event inside)
  | computed computed =>
      rw [deliver, report, show executing computed.decision computed.rewritten = false from refuses]
        at run
      apply rollbacks_iff host call supplied _ run
      intro measured events response ran event inside
      obtain ⟨record, rfl, emitted⟩ | ⟨before, rest, raised, released, thrown, rfl, emitted, release, rfl⟩ :=
        recordOrRelease_run host call ran
      · exact .inl (emitted.confined (confined_emitRecord _ _ _) event inside)
      · obtain early | late := List.mem_append.mp inside
        · exact .inl (emitted.confined (confined_emitRecord _ _ _) event early)
        · exact .inr ((releaseKey_run call release).1 event late)

/-- A rejected call gives its claimed key back, and a refused one rolls its rate limit back
once, exactly when no unguarded effect fails after the claim or after the deliberation. -/
theorem failureAtomic_iff :
    (∀ before entry after raised,
      Runs (adjudicateAndAudit host call)
        (before ++ ⟨.recordExecution entry, .ok .acquired⟩ :: after) (.error raised) →
      call.deps.Releases → ReleasesSucceed after →
      (GivesBack entry.intentHash after ↔ ¬UnguardedFailure after)) ∧
    ∀ before after start verdict outcome,
      Runs (deliberate host call) before (.ok (start, verdict)) →
      Runs (deliver host call start verdict) after outcome →
      verdict.executes = false → call.deps.rateLimitRollback = true →
      (rollbacks (before ++ after) = 1 ↔ ¬UnguardedFailure after) := by
  constructor
  · intro before entry after raised run releases succeed
    exact givesBack_iff host call run releases succeed
  · intro before after start verdict outcome decided delivered refuses supplied
    have deliberated : rollbacks before = 0 := by
      apply rollbacks_eq_zero
      intro event inside same
      have claiming := decided.confined (confined_deliberate host call) event inside
      rw [same] at claiming
      obtain deliberating | ⟨entry, ⟨⟩⟩ := claiming
      exact deliberating
    rw [rollbacks_append, deliberated, Nat.zero_add]
    exact deliver_rollbacks_iff host call refuses supplied delivered

end

/-- The metrics sink rejects every decision event. -/
def brokenMetrics (op : Op) : Except Thrown (Op.Response op) :=
  match op with
  | .recordDecision _ => .error (.error "TypeError" "sink down")
  | op => calmResponse op

def isAcquired : ShellEvent → Bool
  | ⟨.recordExecution _, .ok .acquired⟩ => true
  | _ => false

def isRelease : ShellEvent → Bool
  | ⟨.release _, _⟩ => true
  | _ => false

/-- With broken metrics the call claims its key, fails once and releases nothing. -/
theorem brokenMetrics_run :
    ∃ before entry after raised,
      Runs (adjudicateAndAudit sampleHost sampleCall)
        (before ++ ⟨.recordExecution entry, .ok .acquired⟩ :: after) (.error raised) ∧
      (before ++ ⟨.recordExecution entry, .ok .acquired⟩ :: after).countP
        (fun event => !event.outcome.isOk) = 1 ∧
      ∀ event ∈ after, isRelease event = false := by
  have run := runs_interpret brokenMetrics (adjudicateAndAudit sampleHost sampleCall)
  have shape : ((((adjudicateAndAudit sampleHost sampleCall).interpret brokenMetrics).1.countP
        isAcquired,
      ((adjudicateAndAudit sampleHost sampleCall).interpret brokenMetrics).1.countP isRelease,
      ((adjudicateAndAudit sampleHost sampleCall).interpret brokenMetrics).1.countP
        (fun event => !event.outcome.isOk)),
      ((adjudicateAndAudit sampleHost sampleCall).interpret brokenMetrics).2.isOk) =
      ((1, 0, 1), false) := by decide +kernel
  generalize ((adjudicateAndAudit sampleHost sampleCall).interpret brokenMetrics).1 = trace
    at run shape
  generalize ((adjudicateAndAudit sampleHost sampleCall).interpret brokenMetrics).2 = outcome
    at run shape
  simp only [Prod.mk.injEq] at shape
  obtain ⟨⟨acquired, released, failed⟩, rejected⟩ := shape
  obtain ⟨event, inside, claims⟩ := List.countP_pos_iff.mp (acquired ▸ Nat.one_pos)
  obtain ⟨before, after, rfl⟩ := List.append_of_mem inside
  obtain ⟨entry, rfl⟩ : ∃ entry, event = ⟨.recordExecution entry, .ok .acquired⟩ := by
    unfold isAcquired at claims
    split at claims
    · exact ⟨_, rfl⟩
    · cases claims
  cases outcome with
  | ok result => cases rejected
  | error raised =>
      refine ⟨before, entry, after, raised, run, failed, ?_⟩
      intro event late
      have none := List.countP_eq_zero.mp released event (by simp [late])
      simpa using none

/-- The process-wide switch refuses this call. -/
def haltedCall : Call Unit := { sampleCall with kill := { releasedKill with active := true } }

theorem failureAtomic_iff_sampleCall :
    (∃ before entry after raised,
      Runs (adjudicateAndAudit sampleHost sampleCall)
        (before ++ ⟨.recordExecution entry, .ok .acquired⟩ :: after) (.error raised) ∧
      (GivesBack entry.intentHash after ↔ ¬UnguardedFailure after)) ∧
    ∃ before after start verdict outcome,
      Runs (deliberate sampleHost haltedCall) before (.ok (start, verdict)) ∧
      Runs (deliver sampleHost haltedCall start verdict) after outcome ∧
      (rollbacks (before ++ after) = 1 ↔ ¬UnguardedFailure after) := by
  constructor
  · obtain ⟨before, entry, after, raised, run, -, unreleased⟩ := brokenMetrics_run
    refine ⟨before, entry, after, raised, run, ?_⟩
    apply (failureAtomic_iff sampleHost sampleCall).1 before entry after raised run ⟨_, rfl, rfl⟩
    intro key response late
    cases unreleased _ late
  · have decided := runs_interpret calmResponse (deliberate sampleHost haltedCall)
    have refuses : ((deliberate sampleHost haltedCall).interpret calmResponse).2.map
        (·.2.executes) = .ok false := by decide +kernel
    cases outcome : ((deliberate sampleHost haltedCall).interpret calmResponse).2 with
    | error raised =>
        rw [outcome] at refuses
        cases refuses
    | ok result =>
        rw [outcome] at refuses decided
        have delivered := runs_interpret calmResponse
          (deliver sampleHost haltedCall result.1 result.2)
        exact ⟨_, _, result.1, result.2, _, decided, delivered,
          (failureAtomic_iff sampleHost haltedCall).2 _ _ _ _ _ decided delivered
            (Except.ok.inj refuses) rfl⟩

/-- One failing decision event rejects the call and leaves its key claimed. -/
theorem brokenMetrics_orphans_key :
    ∃ before entry after raised,
      Runs (adjudicateAndAudit sampleHost sampleCall)
        (before ++ ⟨.recordExecution entry, .ok .acquired⟩ :: after) (.error raised) ∧
      sampleCall.deps.Releases ∧ ReleasesSucceed after ∧
      (before ++ ⟨.recordExecution entry, .ok .acquired⟩ :: after).countP
        (fun event => !event.outcome.isOk) = 1 ∧
      ¬GivesBack entry.intentHash after := by
  obtain ⟨before, entry, after, raised, run, failed, unreleased⟩ := brokenMetrics_run
  refine ⟨before, entry, after, raised, run, ⟨_, rfl, rfl⟩, ?_, failed, ?_⟩
  · intro key response late
    cases unreleased _ late
  · intro ⟨middle, rest, same, _⟩
    cases unreleased ⟨.release entry.intentHash, .ok ()⟩ (by simp [same])

end Adjudicate.Shell
