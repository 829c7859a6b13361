/-
This file shows that every result of the audited entry point was emitted as it is.
-/

import Adjudicate.Shell.Authorization

namespace Adjudicate.Shell

open Js Canonical Adjudicate.Core Adjudicate.Kernel Adjudicate.Audit Adjudicate.Effect

/-- The sink took the record of the result, which carries its decision. -/
structure Recorded (trace : List ShellEvent) (result : AdjudicateAndAuditResult) : Prop where
  decision : result.record.decision = result.decision
  emitted : ⟨.emit result.record, .ok ()⟩ ∈ trace

def IsAbout (record : AuditRecord) (envelope : IntentEnvelope) : Prop :=
  record.envelope = envelope ∧ record.intentHash = envelope.intentHash

/-- The record is about the envelope that the decision runs. -/
def RunsEnvelope (record : AuditRecord) (decision : Decision) (envelope : IntentEnvelope) : Prop :=
  match decision with
  | .execute _ => IsAbout record envelope
  | .rewrite rewritten _ _ => IsAbout record rewritten
  | _ => True

section

variable {S : Type} (host : Host) (call : Call S)

theorem emitRecord_recorded {deps : AdjudicateAndAuditDeps} {input : JsString → BuildAuditInput}
    {record : AuditRecord} {trace : List ShellEvent}
    (run : Runs (emitRecord host deps input) trace (.ok record)) :
    ∃ instant, record.decision = (input instant).decision ∧ ⟨.emit record, .ok ()⟩ ∈ trace := by
  obtain ⟨instant, built, recorded, same, emitted⟩ := emitRecord_ok host deps run
  obtain ⟨-, -, subject⟩ := buildAuditRecord_subject recorded
  refine ⟨instant, ?_, emitted⟩
  obtain rfl | ⟨metadata, rfl⟩ := same
  · exact subject
  · exact subject

theorem killPath_recorded {start : JsNumber} {context : RuntimeContext} {kill : KillSwitchState}
    {trace : List ShellEvent} {result : AdjudicateAndAuditResult}
    (run : Runs (killPath host call start context kill) trace (.ok result)) :
    Recorded trace result := by
  obtain ⟨front, tail, ⟨durationMs, plan⟩, rfl, -, run⟩ := runs_bind_ok.mp run
  obtain ⟨recording, cleanup, recorded, rfl, record, ⟨-, wrapped⟩ | ⟨raised, -, ⟨⟩⟩⟩ :=
    runs_ensuring_wrap run
  cases recorded with
  | error raised => cases wrapped
  | ok kept =>
      cases wrapped
      obtain ⟨instant, decision, emitted⟩ := emitRecord_recorded host record
      exact ⟨decision, by simp [emitted]⟩

theorem report_recorded {start : JsNumber} {computed : Computed} {trace : List ShellEvent}
    {result : AdjudicateAndAuditResult}
    (run : Runs (report host call start computed) trace (.ok result)) : Recorded trace result := by
  obtain ⟨front, tail, ⟨durationMs, plan⟩, rfl, -, run⟩ := runs_bind_ok.mp run
  obtain ⟨recording, cleanup, recorded, rfl, record, ⟨-, wrapped⟩ | ⟨raised, -, ⟨⟩⟩⟩ :=
    runs_ensuring_wrap run
  obtain ⟨kept, rfl, ran⟩ | ⟨_, _, _, _, _, -, -, -, rfl⟩ := recordOrRelease_run host call record
  · cases wrapped
    obtain ⟨instant, decision, emitted⟩ := emitRecord_recorded host ran
    exact ⟨decision, by simp [emitted]⟩
  · cases wrapped

/-- A call that returns has emitted the record that it returns. -/
theorem adjudicateAndAudit_recorded {trace : List ShellEvent} {result : AdjudicateAndAuditResult}
    (run : Runs (adjudicateAndAudit host call) trace (.ok result)) : Recorded trace result := by
  obtain ⟨before, after, ⟨start, verdict⟩, rfl, -, delivered⟩ := runs_bind_ok.mp run
  have later {part : List ShellEvent} (recorded : Recorded part result) :
      Recorded (before ++ part) result :=
    ⟨recorded.decision, List.mem_append_right before recorded.emitted⟩
  cases verdict with
  | killed context kill => exact later (killPath_recorded host call delivered)
  | computed computed => exact later (report_recorded host call delivered)

theorem settled_execute {bases : List DecisionBasis} {rewritten : Option IntentEnvelope}
    (settles : settled host call = .ok (.execute bases, rewritten)) : rewritten = none := by
  obtain ⟨first, -, passed⟩ := (settled_eq_ok host call).mp settles
  obtain ⟨-, -, none⟩ | ⟨_, _, _, again, same, -, result⟩ := readjudicated_ok host call passed
  · exact none
  · rw [same] at result
    obtain ⟨-, ⟨⟩, -⟩ | ⟨-, ⟨⟩, -⟩ | ⟨-, -, -, none⟩ := result
    exact none

/-- The record of an executing result names the envelope that runs. -/
theorem adjudicateAndAudit_runsEnvelope {trace : List ShellEvent}
    {result : AdjudicateAndAuditResult} (run : Runs (adjudicateAndAudit host call) trace (.ok result)) :
    RunsEnvelope result.record result.decision call.envelope := by
  obtain ⟨-, _, _, suppressed⟩ | ⟨-, _, _, suppressed⟩ | ⟨rewritten, settles, same, hash, -⟩ :=
    adjudicateAndAudit_ok host call run
  · rw [suppressed]
    trivial
  · rw [suppressed]
    trivial
  · cases decision : result.decision with
    | execute bases =>
        rw [decision] at settles
        rw [settled_execute host call settles] at same hash
        exact ⟨same, hash⟩
    | rewrite replacement reason bases =>
        rw [decision] at settles
        rw [settled_rewrite host call settles] at same hash
        exact ⟨same, hash⟩
    | _ => trivial

end

end Adjudicate.Shell
