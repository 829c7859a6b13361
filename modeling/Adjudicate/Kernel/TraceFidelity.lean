/-
This file relates the evaluation trace and the basis of a decision to the steps that ran.
-/

import Adjudicate.Kernel.Steps

namespace Adjudicate.Kernel

open Js Canonical Adjudicate.Core

def TracePhase.rank : TracePhase → Nat
  | .kill => 0
  | .schema => 1
  | .state => 2
  | .taint => 3
  | .auth => 4
  | .business => 5
  | .default => 6

/-- The last entry is the only match, phases keep their order, single-step phases occur at
most once, and guard indices count from zero. -/
structure WellShaped (trace : List AdjudicationTraceEntry) : Prop where
  endsInMatch : ∃ passed last, trace = passed ++ [last] ∧ last.outcome = .match ∧
    ∀ entry ∈ passed, entry.outcome = .pass
  inOrder : trace.Pairwise fun earlier later => earlier.phase.rank ≤ later.phase.rank
  single : ∀ phase ∈ [TracePhase.kill, .schema, .taint, .default],
    (trace.filter fun entry => entry.phase = phase).length ≤ 1
  indexed : ∀ phase ∈ [TracePhase.state, .auth, .business], ∃ count,
    (trace.filter fun entry => entry.phase = phase).map (·.index) = (List.range count).map some

section

variable {S : Type} (host : Host) (envelope : IntentEnvelope) (state : S)
  (kill : KillSwitchState) (policy : PolicyBundle S)

/-- Both functions return one decision, the trace is well-shaped, and the basis of the
decision is the pass bases before the matching step followed by the basis of that step. -/
def TraceFaithful : Prop :=
  ∃ decision trace step own,
    adjudicate host envelope state kill policy = .ok decision ∧
    adjudicateWithTrace host envelope state kill policy = .ok { decision, trace } ∧
    WellShaped trace ∧
    step ∈ steps host envelope state kill policy ∧
    trace.getLast? = some (step.entry .match) ∧
    step.outcome = .ok (some own) ∧
    decision.basis = completedBases step.phase ++ own.basis

/-- The first step with an outcome throws a value whose text cannot be read. -/
def UnprintablePanic : Prop :=
  ∃ passed last rest raised, steps host envelope state kill policy = passed ++ last :: rest ∧
    (∀ step ∈ passed, Silent step) ∧ last.outcome = .error raised

theorem guardSteps_phase (phase : TracePhase) (guards : List (Guard S)) (index : Nat) :
    ∀ step ∈ guardSteps host envelope state phase guards index, step.phase = phase := by
  induction guards generalizing index with
  | nil => simp [guardSteps]
  | cons guard guards ih =>
      rw [guardSteps, List.forall_mem_cons]
      exact ⟨rfl, ih (index + 1)⟩

theorem guardSteps_index (phase : TracePhase) (guards : List (Guard S)) (index : Nat) :
    (guardSteps host envelope state phase guards index).map (·.index) =
      (List.range' index guards.length).map some := by
  induction guards generalizing index with
  | nil => rfl
  | cons guard guards ih =>
      rw [guardSteps, List.map_cons, ih, List.length_cons, List.range'_succ, List.map_cons]

/-- Filtering the steps by a guard phase gives the steps of that phase, and one step for
every other phase. -/
theorem filter_guardSteps (wanted phase : TracePhase) (guards : List (Guard S)) (index : Nat) :
    (guardSteps host envelope state phase guards index).filter (fun step => step.phase = wanted) =
      if phase = wanted then guardSteps host envelope state phase guards index else [] := by
  split
  · next same =>
      apply List.filter_eq_self.mpr
      intro step inside
      simp [guardSteps_phase host envelope state phase guards index step inside, same]
  · next different =>
      apply List.filter_eq_nil_iff.mpr
      intro step inside
      simp [guardSteps_phase host envelope state phase guards index step inside, different]

theorem steps_single (phase : TracePhase)
    (single : phase ∈ [TracePhase.kill, .schema, .taint, .default]) :
    ((steps host envelope state kill policy).filter fun step => step.phase = phase).length = 1 := by
  simp only [List.mem_cons, List.not_mem_nil, or_false] at single
  obtain rfl | rfl | rfl | rfl := single <;>
    simp [steps, verifiedSteps, filter_guardSteps, List.filter_append, killPhase, schemaPhase, taintPhase,
      defaultPhase]

theorem steps_indexed (phase : TracePhase)
    (indexed : phase ∈ [TracePhase.state, .auth, .business]) :
    ∃ count, ((steps host envelope state kill policy).filter fun step =>
      step.phase = phase).map (·.index) = (List.range count).map some := by
  simp only [List.mem_cons, List.not_mem_nil, or_false] at indexed
  obtain rfl | rfl | rfl := indexed
  all_goals
    simp only [steps, verifiedSteps, filter_guardSteps, List.filter_append, List.filter_cons, killPhase,
      schemaPhase, taintPhase, defaultPhase, guardSteps_index, List.range_eq_range', reduceCtorEq,
      decide_false, List.filter_nil, Bool.false_eq_true, if_false, if_true, List.nil_append,
      List.append_nil]
    exact ⟨_, rfl⟩

theorem guardSteps_rank (phase : TracePhase) (guards : List (Guard S)) (index : Nat) :
    (guardSteps host envelope state phase guards index).map (·.phase.rank) =
      List.replicate guards.length phase.rank := by
  induction guards generalizing index with
  | nil => rfl
  | cons guard guards ih =>
      rw [guardSteps, List.map_cons, ih, List.length_cons, List.replicate_succ]

theorem steps_inOrder :
    ((steps host envelope state kill policy).map (·.phase.rank)).Pairwise (· ≤ ·) := by
  simp only [steps, verifiedSteps, List.map_cons, List.map_append, guardSteps_rank]
  simp only [killPhase, schemaPhase, taintPhase, defaultPhase, TracePhase.rank, List.map_nil,
    List.pairwise_cons, List.pairwise_append, List.pairwise_replicate, List.mem_append,
    List.mem_cons, List.mem_replicate, List.not_mem_nil, List.Pairwise.nil]
  grind

/-- The trace up to a step has the phases and indices of the steps up to it. -/
theorem trace_filter (passed : List Step) (last : Step) (phase : TracePhase) :
    ((passed.map (·.entry .pass) ++ [last.entry .match]).filter fun entry =>
        entry.phase = phase).map (·.index) =
      ((passed ++ [last]).filter fun step => step.phase = phase).map (·.index) := by
  rw [List.filter_append, List.filter_append, List.filter_map, List.map_append, List.map_append,
    List.map_map]
  congr 1
  simp only [List.filter_cons, List.filter_nil, Step.entry]
  split <;> rfl

/-- The trace of every run is well-shaped. -/
theorem wellShaped_of_split {passed rest : List Step} {last : Step}
    (split : steps host envelope state kill policy = passed ++ last :: rest) :
    WellShaped (passed.map (·.entry .pass) ++ [last.entry .match]) := by
  have front : (passed ++ [last]) <+: steps host envelope state kill policy :=
    ⟨rest, by rw [split, List.append_assoc, List.singleton_append]⟩
  have indices (phase : TracePhase) :
      ((passed ++ [last]).filter fun step => step.phase = phase).map (·.index) <+:
        ((steps host envelope state kill policy).filter fun step =>
          step.phase = phase).map (·.index) :=
    (front.filter _).map _
  refine ⟨⟨_, _, rfl, rfl, ?_⟩, ?_, ?_, ?_⟩
  · intro entry inside
    obtain ⟨step, -, rfl⟩ := List.mem_map.mp inside
    rfl
  · have ranks : (passed.map (·.entry .pass) ++ [last.entry .match]).map (·.phase.rank) =
        (passed ++ [last]).map (·.phase.rank) := by
      simp [Step.entry, Function.comp_def]
    rw [← List.pairwise_map, ranks]
    exact (steps_inOrder host envelope state kill policy).sublist (front.map _).sublist
  · intro phase single
    have count := (indices phase).length_le
    rw [← trace_filter, List.length_map, List.length_map,
      steps_single host envelope state kill policy phase single] at count
    exact count
  · intro phase indexed
    obtain ⟨count, whole⟩ := steps_indexed host envelope state kill policy phase indexed
    have taken := List.prefix_iff_eq_take.mp (whole ▸ indices phase)
    rw [trace_filter, taken, ← List.map_take, List.take_range]
    exact ⟨_, rfl⟩

/-- The last step always answers. -/
theorem steps_speak : ¬∀ step ∈ steps host envelope state kill policy, Silent step := by
  intro silent
  have last := silent (defaultPhase policy.default) (by simp [steps, verifiedSteps])
  cases last

/-- On a hash mismatch the trace records the schema phase twice. -/
theorem trace_of_hashMismatch (mismatch : HashMismatch host envelope kill)
    {result : AdjudicationTraceResult}
    (traced : adjudicateWithTrace host envelope state kill policy = .ok result) :
    result.trace =
      [phaseEntry .kill .pass, phaseEntry .schema .pass, phaseEntry .schema .match] := by
  obtain ⟨inactive, version, different⟩ := mismatch
  rw [adjudicateWithTrace,
    adjudicateImpl_reaches_hash host envelope state policy (some []) inactive version,
    hashStep] at traced
  cases derived : deriveIntentHash host envelope with
  | error err =>
      rw [derived] at traced
      cases err with
      | error name message => cases traced; rfl
      | other text => cases traced; rfl
      | unprintable raised => cases traced
  | ok derivedHash =>
      have forged : derivedHash ≠ envelope.intentHash := by
        intro same
        exact different (same ▸ derived)
      rw [derived] at traced
      dsimp only at traced
      rw [if_pos forged] at traced
      cases traced
      rfl

/-- The run stops at its first step with an outcome. -/
theorem adjudicateImpl_of_split (matching : ¬HashMismatch host envelope kill)
    {passed rest : List Step} {last : Step}
    (split : steps host envelope state kill policy = passed ++ last :: rest)
    (silent : ∀ step ∈ passed, Silent step)
    (traceOut : Option (List AdjudicationTraceEntry)) :
    adjudicateImpl host envelope state kill policy traceOut =
      runSteps (last :: rest) (traceOut.map (· ++ passed.map (·.entry .pass))) := by
  rw [adjudicateImpl_eq_runSteps host envelope state kill policy traceOut matching, split,
    runSteps_append silent]

/-- The kernel keeps its trace and basis faithful exactly when the content hash matches once it
is reached and no value with unreadable text is thrown. -/
theorem traceFaithful_iff :
    TraceFaithful host envelope state kill policy ↔
      ¬HashMismatch host envelope kill ∧ ¬UnprintablePanic host envelope state kill policy := by
  constructor
  · rintro ⟨decision, trace, step, own, decided, traced, shaped, -⟩
    have matching : ¬HashMismatch host envelope kill := by
      intro mismatch
      have recorded := trace_of_hashMismatch host envelope state kill policy mismatch traced
      change trace = _ at recorded
      have doubled := shaped.single .schema (by decide)
      rw [recorded] at doubled
      revert doubled
      decide
    refine ⟨matching, ?_⟩
    rintro ⟨passed, last, rest, raised, split, silent, throws⟩
    rw [adjudicate, adjudicateImpl_of_split host envelope state kill policy matching split silent,
      runSteps, throws] at decided
    cases decided
  · rintro ⟨matching, printable⟩
    obtain silent | ⟨passed, last, rest, split, silent, speaks⟩ :=
      steps_split (steps host envelope state kill policy)
    · exact (steps_speak host envelope state kill policy silent).elim
    · cases outcome : last.outcome with
      | error raised =>
          exact (printable ⟨passed, last, rest, raised, split, silent, outcome⟩).elim
      | ok opinion =>
          cases opinion with
          | none => exact (speaks outcome).elim
          | some own =>
              have run := adjudicateImpl_of_split host envelope state kill policy matching split
                silent
              have shaped := wellShaped_of_split host envelope state kill policy split
              refine ⟨enrichBasis own (completedBases last.phase),
                passed.map (·.entry .pass) ++ [last.entry .match], last, own, ?_, ?_, shaped,
                by simp [split], by simp, outcome, enrichBasis_basis _ _⟩
              · rw [adjudicate, run, runSteps, outcome]
                rfl
              · rw [adjudicateWithTrace, run, runSteps, outcome]
                rfl

end

/-- This envelope carries a hash that its content does not have. -/
def forgedEnvelope : IntentEnvelope where
  toHashedFields := (samplePayment 1).hashedFields
  createdAt := "2026-01-01T00:00:00.000Z"
  intentHash := "forged"

/-- The trace of a forged envelope holds a schema pass and a schema match. -/
theorem forgedEnvelope_schema_twice :
    (adjudicateWithTrace sampleHost forgedEnvelope () ⟨false, [], []⟩
        { stateGuards := [], authGuards := [], business := [], default := .refuse,
          taint := ⟨fun _ => .ok .untrusted, none⟩ }).map (·.trace) =
      .ok [phaseEntry .kill .pass, phaseEntry .schema .pass, phaseEntry .schema .match] ∧
    ¬WellShaped [phaseEntry .kill .pass, phaseEntry .schema .pass, phaseEntry .schema .match] := by
  refine ⟨by decide +kernel, ?_⟩
  intro shaped
  have doubled := shaped.single .schema (by decide)
  revert doubled
  decide

end Adjudicate.Kernel
