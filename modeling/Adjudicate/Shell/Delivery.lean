/-
This file describes the runs of the reporting stages: the telemetry, the audit record, the
release of a claimed key and the rate-limit rollback.
-/

import Adjudicate.Shell.Deliberation

namespace Adjudicate.Shell

open Js Canonical Adjudicate.Core Adjudicate.Kernel Adjudicate.Audit Adjudicate.Effect
open Program (ofExcept tryCatch ensuring)

/-- The ledger of the call can give a key back. -/
def AdjudicateAndAuditDeps.Releases (deps : AdjudicateAndAuditDeps) : Prop :=
  ∃ ledger, deps.ledger = some ledger ∧ ledger.release = true

section

variable {S : Type} (host : Host) (call : Call S)

/-- The cleanup of a failed emit releases the claimed key or touches no key. -/
theorem releaseKey_run {computed : Computed} {trace : List ShellEvent}
    {outcome : Except Thrown Unit} (run : Runs (releaseKey call computed) trace outcome) :
    (∀ event ∈ trace, event.op.Releasing) ∧
      ((Quiet trace ∧ (computed.ledgerAcquired = true → ¬call.deps.Releases)) ∨
        ∃ response rest, trace =
            ⟨.release (executedEnvelope call.envelope computed.rewritten).intentHash, response⟩ ::
              rest ∧
          Quiet rest ∧ computed.ledgerAcquired = true) := by
  rw [releaseKey] at run
  cases port : call.deps.ledger with
  | none =>
      rw [port] at run
      obtain ⟨rfl, -⟩ := runs_pure.mp run
      refine ⟨by simp, .inl ⟨quiet_nil, ?_⟩⟩
      rintro - ⟨ledger, supplied, -⟩
      rw [port] at supplied
      cases supplied
  | some ledger =>
      rw [port] at run
      dsimp only at run
      split at run
      · next acquired =>
          split at run
          · next releases =>
              obtain ⟨_, rfl, body⟩ | ⟨before, after, raised, rfl, body, handled⟩ :=
                runs_tryCatch.mp run
              · rw [runs_perform.mp body]
                exact ⟨by simp [Op.Releasing], .inr ⟨_, [], rfl, quiet_nil, acquired⟩⟩
              · rw [runs_perform.mp body, runs_perform.mp handled]
                refine ⟨by simp [Op.Releasing, sinkFailure], .inr ⟨_, _, rfl, ?_, acquired⟩⟩
                simp [quiet_cons, quiet_nil, ledgerKeys]
          · next keeps =>
              rw [runs_perform.mp run]
              refine ⟨by simp [Op.Releasing], .inl ⟨by simp [quiet_cons, quiet_nil, ledgerKeys], ?_⟩⟩
              rintro - ⟨same, supplied, releases⟩
              rw [port] at supplied
              cases supplied
              exact keeps releases
      · next unclaimed =>
          obtain ⟨rfl, -⟩ := runs_pure.mp run
          refine ⟨by simp, .inl ⟨quiet_nil, ?_⟩⟩
          intro acquired
          exact (unclaimed acquired).elim

/-- The record stage emits the record or cleans up and throws. -/
theorem recordOrRelease_run {computed : Computed} {input : JsString → BuildAuditInput}
    {trace : List ShellEvent} {outcome : Except Thrown AuditRecord}
    (run : Runs (tryCatch (emitRecord host call.deps input) fun emitErr => do
      releaseKey call computed
      .throw emitErr) trace outcome) :
    (∃ record, outcome = .ok record ∧ Runs (emitRecord host call.deps input) trace (.ok record)) ∨
      ∃ before after raised released thrown, trace = before ++ after ∧
        Runs (emitRecord host call.deps input) before (.error raised) ∧
        Runs (releaseKey call computed) after released ∧ outcome = .error thrown := by
  obtain ⟨record, rfl, body⟩ | ⟨before, after, raised, rfl, body, handled⟩ := runs_tryCatch.mp run
  · exact .inl ⟨record, rfl, body⟩
  · obtain ⟨first, rest, _, rfl, released, thrown⟩ | ⟨other, rfl, released⟩ := runs_bind.mp handled
    · obtain ⟨rfl, rfl⟩ := runs_throw.mp thrown
      rw [List.append_nil]
      exact .inr ⟨before, first, raised, _, raised, rfl, body, released, rfl⟩
    · exact .inr ⟨before, after, raised, _, other, rfl, body, released, rfl⟩

theorem rollBackUnless_quiet {skip : Bool} {trace : List ShellEvent} {outcome : Except Thrown Unit}
    (run : Runs (if skip then pure () else rollBackRateLimit call.deps call.envelope.intentHash)
      trace outcome) : ∀ event ∈ trace, event.op.RollingBack := by
  split at run
  · obtain ⟨rfl, -⟩ := runs_pure.mp run
    simp
  · exact run.confined (confined_rollBackRateLimit _ _)

/-- Recording, releasing and rolling back have no unguarded effect. -/
theorem no_unguardedFailure {trace : List ShellEvent}
    (inside : ∀ event ∈ trace, event.op.Recording ∨ event.op.Releasing ∨ event.op.RollingBack) :
    ¬UnguardedFailure trace := by
  rintro ⟨⟨op, outcome⟩, member, unguarded, -⟩
  have guarded := inside _ member
  cases op with
  | recordSinkFailure event =>
      have sink : event.sink = utf16 "learning" := unguarded
      simp only [Op.Recording, Op.Releasing, Op.RollingBack, sink] at guarded
      revert guarded
      decide
  | _ => simp_all [Op.Recording, Op.Releasing, Op.RollingBack, Op.Unguarded]

theorem unguardedFailure_append {before after : List ShellEvent} :
    UnguardedFailure (before ++ after) ↔ UnguardedFailure before ∨ UnguardedFailure after := by
  simp only [UnguardedFailure, List.mem_append, or_and_right, exists_or]

/-- The report reaches its record exactly when no unguarded effect fails, and only a failed
emit of a claimed key releases that key. -/
theorem report_run {start : JsNumber} {computed : Computed} {trace : List ShellEvent}
    {outcome : Except Thrown AdjudicateAndAuditResult}
    (run : Runs (report host call start computed) trace outcome) :
    (Quiet trace ∧ ((∃ raised, outcome = .error raised) → computed.ledgerAcquired = true →
        executing computed.decision computed.rewritten = true → call.deps.Releases →
        UnguardedFailure trace)) ∨
      ∃ before response after raised, trace = before ++
          ⟨.release (executedEnvelope call.envelope computed.rewritten).intentHash, response⟩ ::
            after ∧
        Quiet before ∧ Quiet after ∧ computed.ledgerAcquired = true ∧
        (executing computed.decision computed.rewritten = true → outcome = .error raised) ∧
        ¬UnguardedFailure trace := by
  obtain ⟨front, tail, ⟨durationMs, plan⟩, rfl, telemetry, run⟩ | ⟨raised, rfl, telemetry⟩ :=
    runs_bind.mp run
  all_goals
    have frontQuiet :=
      Op.Reporting.quiet (telemetry.confined (confined_emitTelemetry host call _ _ _ _))
    have throws := emitTelemetry_throwsOn host call _ _ _ _ _ _ telemetry
  swap
  · exact .inl ⟨frontQuiet, fun _ _ _ _ => throws.mp ⟨raised, rfl⟩⟩
  have frontFine : ¬UnguardedFailure front := by
    intro failure
    obtain ⟨raised, ⟨⟩⟩ := throws.mpr failure
  obtain ⟨recording, cleanup, recorded, rfl, record, rest⟩ := runs_ensuring_wrap run
  have cleanupInside : ∀ event ∈ cleanup, event.op.RollingBack := by
    obtain ⟨cleaned, -⟩ | ⟨raised, cleaned, -⟩ := rest
    · exact rollBackUnless_quiet call cleaned
    · exact rollBackUnless_quiet call cleaned
  have cleanupQuiet := Op.RollingBack.quiet cleanupInside
  obtain ⟨record, rfl, emitted⟩ | ⟨before, after, raised, released, thrown, rfl, emitted, release, rfl⟩ :=
    recordOrRelease_run host call record
  · have recordingQuiet := Op.Recording.quiet (emitted.confined (confined_emitRecord _ _ _))
    refine .inl ⟨quiet_append.mpr ⟨frontQuiet, quiet_append.mpr ⟨recordingQuiet, cleanupQuiet⟩⟩, ?_⟩
    rintro ⟨raised, rfl⟩ - executes
    obtain ⟨-, ⟨⟩⟩ | ⟨_, cleaned, ⟨⟩⟩ := rest
    rw [if_pos executes] at cleaned
    obtain ⟨-, ⟨⟩⟩ := runs_pure.mp cleaned
  · have emittedInside := emitted.confined (confined_emitRecord _ _ _)
    obtain ⟨releaseInside, quietRelease | claimed⟩ := releaseKey_run call release
    · obtain ⟨afterQuiet, keeps⟩ := quietRelease
      refine .inl ⟨quiet_append.mpr ⟨frontQuiet, quiet_append.mpr ⟨quiet_append.mpr
        ⟨Op.Recording.quiet emittedInside, afterQuiet⟩, cleanupQuiet⟩⟩, ?_⟩
      intro _ acquired _ releases
      exact (keeps acquired releases).elim
    · obtain ⟨response, rest', rfl, restQuiet, acquired⟩ := claimed
      refine .inr ⟨front ++ before, response, rest' ++ cleanup, thrown, by simp,
        quiet_append.mpr ⟨frontQuiet, Op.Recording.quiet emittedInside⟩,
        quiet_append.mpr ⟨restQuiet, cleanupQuiet⟩, acquired, ?_, ?_⟩
      · intro executes
        obtain ⟨-, rfl⟩ | ⟨_, cleaned, -⟩ := rest
        · rfl
        · rw [if_pos executes] at cleaned
          obtain ⟨-, ⟨⟩⟩ := runs_pure.mp cleaned
      · rw [unguardedFailure_append, not_or]
        refine ⟨frontFine, no_unguardedFailure ?_⟩
        intro event inside
        simp only [List.mem_append] at inside
        obtain (early | middle) | late := inside
        · exact .inl (emittedInside event early)
        · exact .inr (.inl (releaseInside event middle))
        · exact .inr (.inr (cleanupInside event late))

/-- A report that returns has emitted the record that it returns. -/
theorem report_ok {start : JsNumber} {computed : Computed} {trace : List ShellEvent}
    {result : AdjudicateAndAuditResult}
    (run : Runs (report host call start computed) trace (.ok result)) :
    result.decision = computed.decision ∧ result.ledgerHit = computed.ledgerHit ∧
      result.record.envelope = executedEnvelope call.envelope computed.rewritten ∧
      result.record.intentHash =
        (executedEnvelope call.envelope computed.rewritten).intentHash ∧
      ⟨.emit result.record, .ok ()⟩ ∈ trace := by
  obtain ⟨front, tail, ⟨durationMs, plan⟩, rfl, -, run⟩ := runs_bind_ok.mp run
  obtain ⟨recording, cleanup, recorded, rfl, record, ⟨-, wrapped⟩ | ⟨raised, -, ⟨⟩⟩⟩ :=
    runs_ensuring_wrap run
  obtain ⟨record, rfl, emitted⟩ | ⟨_, _, _, _, _, -, -, -, rfl⟩ :=
    recordOrRelease_run host call record
  · cases wrapped
    obtain ⟨instant, built, recorded, same, landed⟩ := emitRecord_ok host call.deps emitted
    obtain ⟨envelope, intentHash, -⟩ := buildAuditRecord_subject recorded
    refine ⟨rfl, rfl, ?_, ?_, by simp [landed]⟩
    · obtain rfl | ⟨metadata, rfl⟩ := same
      · exact envelope
      · exact envelope
    · obtain rfl | ⟨metadata, rfl⟩ := same
      · exact intentHash
      · exact intentHash
  · cases wrapped

theorem killPath_ok {start : JsNumber} {context : RuntimeContext} {kill : KillSwitchState}
    {trace : List ShellEvent} {result : AdjudicateAndAuditResult}
    (run : Runs (killPath host call start context kill) trace (.ok result)) :
    result.decision = tenantKillRefusal context kill := by
  obtain ⟨front, tail, ⟨durationMs, plan⟩, rfl, -, run⟩ := runs_bind_ok.mp run
  obtain ⟨recording, cleanup, recorded, rfl, record, ⟨-, wrapped⟩ | ⟨raised, -, ⟨⟩⟩⟩ :=
    runs_ensuring_wrap run
  cases recorded with
  | error raised => cases wrapped
  | ok record =>
      cases wrapped
      rfl

theorem killPath_quiet {start : JsNumber} {context : RuntimeContext} {kill : KillSwitchState}
    {trace : List ShellEvent} {outcome : Except Thrown AdjudicateAndAuditResult}
    (run : Runs (killPath host call start context kill) trace outcome) : Quiet trace := by
  obtain ⟨front, tail, ⟨durationMs, plan⟩, rfl, telemetry, run⟩ | ⟨raised, rfl, telemetry⟩ :=
    runs_bind.mp run
  all_goals
    have frontQuiet :=
      Op.Reporting.quiet (telemetry.confined (confined_emitTelemetry host call _ _ _ _))
  swap
  · exact frontQuiet
  obtain ⟨recording, cleanup, recorded, rfl, record, rest⟩ := runs_ensuring_wrap run
  have cleanupQuiet : Quiet cleanup := by
    obtain ⟨cleaned, -⟩ | ⟨raised, cleaned, -⟩ := rest
    · exact Op.RollingBack.quiet (cleaned.confined (confined_rollBackRateLimit _ _))
    · exact Op.RollingBack.quiet (cleaned.confined (confined_rollBackRateLimit _ _))
  exact quiet_append.mpr ⟨frontQuiet, quiet_append.mpr
    ⟨Op.Recording.quiet (record.confined (confined_emitRecord _ _ _)), cleanupQuiet⟩⟩

/-- The run acquires the key, and a call that can release it throws without doing so only after
an unguarded failure. -/
def KeepsKey (trace : List ShellEvent) (outcome : Except Thrown AdjudicateAndAuditResult) : Prop :=
  ∃ key after, AcquiredThen key trace after ∧ Quiet after ∧
    ((∃ raised, outcome = .error raised) → call.deps.Releases → UnguardedFailure after)

/-- The run throws and releases the key that it acquired, with no unguarded failure between. -/
def ReleasesKey (trace : List ShellEvent) (outcome : Except Thrown AdjudicateAndAuditResult) :
    Prop :=
  ∃ key middle response after,
    AcquiredThen key trace (middle ++ ⟨.release key, response⟩ :: after) ∧ Quiet middle ∧
      Quiet after ∧ (∃ raised, outcome = .error raised) ∧
      ¬UnguardedFailure (middle ++ ⟨.release key, response⟩ :: after)

/-- A run touches no key, keeps the key it acquires, or throws and releases it. -/
theorem adjudicateAndAudit_keys {trace : List ShellEvent}
    {outcome : Except Thrown AdjudicateAndAuditResult}
    (run : Runs (adjudicateAndAudit host call) trace outcome) :
    Quiet trace ∨ KeepsKey call trace outcome ∨ ReleasesKey trace outcome := by
  -- Without a delivered verdict the run ends where the deliberation throws.
  have thrown {events : List ShellEvent} {raised : Thrown}
      (decided : Runs (deliberate host call) events (.error raised)) :
      Quiet events ∨ KeepsKey call events (.error raised) ∨ ReleasesKey events (.error raised) := by
    obtain ⟨quiet, -⟩ | ⟨-, -, _, _, _, ⟨⟩⟩ | ⟨front, rest, _, computing, rfl, frontQuiet, ran, verdictIs⟩ :=
      deliberate_run host call decided
    · exact .inl quiet
    cases computing with
    | ok computed => cases verdictIs
    | error other =>
        obtain ⟨quiet, -⟩ | ⟨quiet, -⟩ | ⟨decision, rewritten, claim, claimed, settles⟩ :=
          compute_run host call ran
        · exact .inl (quiet_append.mpr ⟨frontQuiet, quiet⟩)
        · exact .inl (quiet_append.mpr ⟨frontQuiet, quiet⟩)
        obtain ⟨⟨middle, rfl, middleQuiet⟩, -, claims, _, _, computedIs⟩ := settles
        obtain unclaimed | won := claimKey_run call claims
        · exact .inl (quiet_append.mpr ⟨frontQuiet, quiet_append.mpr ⟨middleQuiet, unclaimed.quiet⟩⟩)
        · obtain ⟨later, acquired, laterQuiet, ends⟩ := won.acquired
          refine .inr (.inl ⟨_, later, (acquired.prepend middleQuiet).prepend frontQuiet,
            laterQuiet, ?_⟩)
          intro _ _
          obtain ⟨rfl, -⟩ | ⟨-, failure⟩ := ends
          · cases computedIs
          · exact failure
  obtain ⟨before, after, ⟨start, verdict⟩, rfl, decided, delivered⟩ | ⟨raised, rfl, decided⟩ :=
    runs_bind.mp run
  swap
  · exact thrown decided
  obtain ⟨-, raised, ⟨⟩⟩ | ⟨beforeQuiet, -, _, context, kill, ⟨⟩⟩ |
    ⟨front, rest, _, computing, rfl, frontQuiet, ran, verdictIs⟩ := deliberate_run host call decided
  · exact .inl (quiet_append.mpr ⟨beforeQuiet, killPath_quiet host call delivered⟩)
  cases computing with
  | error raised => cases verdictIs
  | ok computed =>
      cases verdictIs
      obtain ⟨-, raised, ⟨⟩⟩ | ⟨restQuiet, hit, -, ⟨⟩⟩ | ⟨decision, rewritten, claim, claimed, settles⟩ :=
        compute_run host call ran
      · obtain ⟨reportQuiet, -⟩ | ⟨_, _, _, _, -, -, -, ⟨⟩, -⟩ := report_run host call delivered
        exact .inl (quiet_append.mpr ⟨quiet_append.mpr ⟨frontQuiet, restQuiet⟩, reportQuiet⟩)
      obtain ⟨⟨middle, rfl, middleQuiet⟩, -, claims, entries, supersedes, computedIs⟩ := settles
      have frontQuiet' := quiet_append.mpr ⟨frontQuiet, middleQuiet⟩
      cases claimed with
      | error raised => cases computedIs
      | ok pair =>
          obtain ⟨second, acquired⟩ := pair
          cases computedIs
          rw [← List.append_assoc front]
          obtain unclaimed | won := claimKey_run call claims
          · obtain ⟨rfl, -⟩ := unclaimed.result _ _ rfl
            obtain ⟨reportQuiet, -⟩ | ⟨_, _, _, _, -, -, -, ⟨⟩, -⟩ := report_run host call delivered
            exact .inl (quiet_append.mpr
              ⟨quiet_append.mpr ⟨frontQuiet', unclaimed.quiet⟩, reportQuiet⟩)
          · obtain ⟨later, acquired, laterQuiet, ⟨⟨⟩, fine⟩ | ⟨⟨raised, ⟨⟩⟩, -⟩⟩ := won.acquired
            have whole := (acquired.prepend frontQuiet').append after
            obtain ⟨reportQuiet, fails⟩ |
              ⟨early, response, late, raised, rfl, earlyQuiet, lateQuiet, -, thrown, unfailed⟩ :=
              report_run host call delivered
            · refine .inr (.inl ⟨_, later ++ after, whole, quiet_append.mpr ⟨laterQuiet, reportQuiet⟩, ?_⟩)
              intro failed releases
              rw [unguardedFailure_append]
              exact .inr (fails failed rfl won.executes releases)
            · rw [← List.append_assoc later] at whole
              refine .inr (.inr ⟨_, later ++ early, response, late, whole,
                quiet_append.mpr ⟨laterQuiet, earlyQuiet⟩, lateQuiet, ⟨raised, thrown won.executes⟩, ?_⟩)
              rw [List.append_assoc later, unguardedFailure_append, not_or]
              exact ⟨fine, unfailed⟩

end

end Adjudicate.Shell
