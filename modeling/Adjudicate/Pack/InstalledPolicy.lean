/-
This file compares the kernel over an installed pack with the kernel over the pack itself.
-/

import Adjudicate.Kernel.PanicTotality
import Adjudicate.Kernel.TaintFloor
import Adjudicate.Pack.BasisAudit

namespace Adjudicate.Pack

open Js Canonical Adjudicate.Core Adjudicate.Kernel

/-- The rewrite trusts its envelope more than the original one. -/
def Elevates (envelope : IntentEnvelope) (decision : Decision) : Prop :=
  ∃ rewritten reason bases, decision = .rewrite rewritten reason bases ∧
    taintRank envelope.taint < taintRank rewritten.taint

def SecurityRefusal (decision : Decision) : Prop :=
  ∃ refusal bases, decision = .refuse refusal bases ∧ refusal.kind = .security

/-- The decisions are equal, or both refuse for security in the exceptional case. -/
def SameAnswer (exceptional : Prop) (decision other : Decision) : Prop :=
  other = decision ∨ exceptional ∧ SecurityRefusal decision ∧ SecurityRefusal other

/-- The sink takes the events of the decision. Over an elevating rewrite it may also throw a value
with a text. -/
def Accepts (audit : BasisAudit) (sink : MetricsSink) (envelope : IntentEnvelope)
    (decision : Decision) : Prop :=
  ∀ raised, recordAll sink [] (audit.driftEvents decision envelope) = .error raised →
    Elevates envelope decision ∧ Legible raised

section

variable {S : Type} (audit : BasisAudit) (sink : MetricsSink) (envelope : IntentEnvelope) (state : S)

/-- Each guard that is asked is wrapped already or has the name of the wrapper, and the sink accepts
what the guard decides that answers. -/
def Undisturbed : List (PackGuard S) → Prop
  | [] => True
  | guard :: guards =>
      (guard.basisAuditWrapped = true ∨ guard.toGuard.name = some (utf16 "wrapped")) ∧
        match guard.run envelope state with
        | .ok none => Undisturbed guards
        | .ok (some decision) =>
            guard.basisAuditWrapped = true ∨ Accepts audit sink envelope decision
        | .error _ => True

def ElevatingAnswer (guards : List (PackGuard S)) : Prop :=
  ∃ decision, firstOutcome envelope state (guards.map PackGuard.toGuard) = .ok (some decision) ∧
    Elevates envelope decision

def Quiet (guards : List (PackGuard S)) : Prop :=
  AllSilent envelope state (guards.map PackGuard.toGuard)

def TaintPasses (policy : PackPolicy S) : Prop :=
  canProposeWithOrigin envelope.taint envelope.kind envelope.origin policy.taint = .ok true

/-- A list of guards counts as soon as the run reaches it. -/
def PolicyUndisturbed (policy : PackPolicy S) : Prop :=
  Undisturbed audit sink envelope state policy.stateGuards ∧
    (Quiet envelope state policy.stateGuards → TaintPasses envelope policy →
      Undisturbed audit sink envelope state policy.authGuards ∧
        (Quiet envelope state policy.authGuards →
          Undisturbed audit sink envelope state policy.business))

/-- The guard that answers the run answers with an elevating rewrite. -/
def PolicyElevates (policy : PackPolicy S) : Prop :=
  ElevatingAnswer envelope state policy.stateGuards ∨
    Quiet envelope state policy.stateGuards ∧ TaintPasses envelope policy ∧
      (ElevatingAnswer envelope state policy.authGuards ∨
        Quiet envelope state policy.authGuards ∧ ElevatingAnswer envelope state policy.business)

/-- The second list of steps answers like the first one exactly when the traces so far are equal and
nothing later disturbs the run. -/
def Related (exceptional : Prop) (more others : List Step) (later : Prop) : Prop :=
  ∀ trace trace' decision final, trace.length = trace'.length →
    runSteps more (some trace) = .ok (decision, some final) →
      ((∃ other, runSteps others (some trace') = .ok (other, some final) ∧
        SameAnswer exceptional decision other) ↔ trace = trace' ∧ later)

end

theorem enrichBasis_inj {decision other : Decision} {bases : List DecisionBasis} :
    enrichBasis other bases = enrichBasis decision bases ↔ other = decision := by
  constructor
  · intro same
    cases decision <;> cases other <;> simp_all [enrichBasis, Decision.basis]
  · rintro rfl
    rfl

theorem securityRefusal_enrichBasis {decision : Decision} {bases : List DecisionBasis} :
    SecurityRefusal (enrichBasis decision bases) ↔ SecurityRefusal decision := by
  cases decision <;> simp [SecurityRefusal, enrichBasis]

theorem sameAnswer_enrichBasis {exceptional : Prop} {decision other : Decision}
    {bases : List DecisionBasis} :
    SameAnswer exceptional (enrichBasis decision bases) (enrichBasis other bases) ↔
      SameAnswer exceptional decision other := by
  simp only [SameAnswer, enrichBasis_inj, securityRefusal_enrichBasis]

theorem snoc_inj {A : Type} {front front' : List A} {last last' : A} :
    front ++ [last] = front' ++ [last'] ↔ front = front' ∧ last = last' := by
  constructor
  · intro same
    obtain ⟨fronts, lasts⟩ := List.append_inj' same rfl
    exact ⟨fronts, List.cons.inj lasts |>.1⟩
  · rintro ⟨rfl, rfl⟩
    rfl

section

variable {exceptional later : Prop} {step step' : Step} {more others : List Step}

theorem runSteps_pass (silent : Silent step) (trace : List AdjudicationTraceEntry) :
    runSteps (step :: more) (some trace) = runSteps more (some (trace ++ [step.entry .pass])) := by
  rw [runSteps, silent]
  rfl

theorem runSteps_match {answer : Decision} (speaks : step.outcome = .ok (some answer))
    (trace : List AdjudicationTraceEntry) :
    runSteps (step :: more) (some trace) =
      .ok (enrichBasis answer (completedBases step.phase), some (trace ++ [step.entry .match])) := by
  rw [runSteps, speaks]
  rfl

theorem runSteps_error {raised : Thrown} (throws : step.outcome = .error raised)
    (traceOut : Option (List AdjudicationTraceEntry)) :
    runSteps (step :: more) traceOut = .error raised := by
  rw [runSteps, throws]
  rfl

/-- Two steps that pass hand over with their entries. -/
theorem related_pass (related : Related exceptional more others later) (silent : Silent step)
    (silent' : Silent step') {named : Prop}
    (entry : step.entry .pass = step'.entry .pass ↔ named) :
    Related exceptional (step :: more) (step' :: others) (named ∧ later) := by
  intro trace trace' decision final sameLength ran
  rw [runSteps_pass silent] at ran
  rw [runSteps_pass silent', related _ _ decision final (by simp [sameLength]) ran, snoc_inj, entry,
    and_assoc]

/-- Two steps that answer are compared by their entries and their answers. -/
theorem related_match {answer answer' : Decision} (speaks : step.outcome = .ok (some answer))
    (speaks' : step'.outcome = .ok (some answer')) (phase : step'.phase = step.phase) {named : Prop}
    (entry : step.entry .match = step'.entry .match ↔ named) :
    Related exceptional (step :: more) (step' :: others)
      (named ∧ SameAnswer exceptional answer answer') := by
  intro trace trace' decision final sameLength ran
  rw [runSteps_match speaks, Except.ok.injEq, Prod.mk.injEq, Option.some.injEq] at ran
  obtain ⟨rfl, rfl⟩ := ran
  rw [runSteps_match speaks', phase]
  simp only [Except.ok.injEq, Prod.mk.injEq, Option.some.injEq, snoc_inj]
  constructor
  · rintro ⟨other, ⟨rfl, rfl, same⟩, alike⟩
    exact ⟨rfl, entry.mp same.symm, sameAnswer_enrichBasis.mp alike⟩
  · rintro ⟨rfl, held, alike⟩
    exact ⟨_, ⟨rfl, rfl, (entry.mpr held).symm⟩, sameAnswer_enrichBasis.mpr alike⟩

/-- A step that throws gives no answer to compare with. -/
theorem related_throws {raised : Thrown} (throws : step.outcome = .error raised) (claim : Prop) :
    Related exceptional (step :: more) (step' :: others) claim := by
  intro trace trace' decision final sameLength ran
  rw [runSteps_error throws] at ran
  cases ran

/-- An answer has no equal in a run that throws. -/
theorem related_thrown {raised : Thrown}
    (throws : step'.outcome = .error raised) :
    Related exceptional (step :: more) (step' :: others) False := by
  intro trace trace' decision final sameLength ran
  refine iff_of_false ?_ (fun both => both.2)
  rintro ⟨other, answered, -⟩
  rw [runSteps_error throws] at answered
  cases answered

theorem Related.congr {claim : Prop} (related : Related exceptional more others later)
    (same : later ↔ claim) : Related exceptional more others claim := by
  intro trace trace' decision final sameLength ran
  rw [related trace trace' decision final sameLength ran, same]

end

section

variable {S : Type} {host : Host} {envelope : IntentEnvelope} {state : S} {audit : BasisAudit}
  {sink : MetricsSink}

/-- The kernel refuses an elevating rewrite for security, whatever else is wrong with it. -/
theorem gateRewrite_elevates {decision gated : Decision} (elevates : Elevates envelope decision)
    (passed : gateRewrite host decision envelope = .ok gated) : SecurityRefusal gated := by
  obtain ⟨rewritten, reason, bases, rfl, above⟩ := elevates
  rw [gateRewrite] at passed
  cases derived : deriveIntentHash host rewritten with
  | error err =>
      obtain ⟨refusal, detail, same, security, -⟩ := @guardPanicRefusal_legible .schema none none err
        [] (legible_of_canonical derived)
      simp only [derived] at passed
      rw [same] at passed
      cases passed
      exact ⟨_, _, rfl, security⟩
  | ok hash =>
      simp only [derived] at passed
      split at passed
      · cases passed
        exact ⟨_, _, rfl, rfl⟩
      · cases passed
        exact ⟨_, _, rfl, rfl⟩

/-- No decision that disturbs the sink looks like the panic that the sink causes. -/
theorem panic_ne_gated {decision gated panic : Decision} {raised raised' : Thrown}
    {phase : TracePhase} {index : Option Nat} {name : Option JsString} (guarded : phase ≠ .schema)
    (level : ¬Elevates envelope decision)
    (failed : recordAll sink [] (audit.driftEvents decision envelope) = .error raised)
    (passed : gateRewrite host decision envelope = .ok gated)
    (panicked : guardPanicRefusal phase index name raised' [] = .ok panic) : panic ≠ gated := by
  rintro rfl
  have legible : Legible raised' := by
    by_contra illegible
    obtain ⟨escaped, same⟩ := @guardPanicRefusal_illegible phase index name raised' [] illegible
    rw [same] at panicked
    cases panicked
  obtain ⟨refusal, detail, same, -, code, phaseText, -⟩ :=
    @guardPanicRefusal_legible phase index name raised' [] legible
  rw [same] at panicked
  cases panicked
  by_cases plain : decision.kind = .rewrite
  · cases decision with
    | rewrite rewritten reason bases =>
        rw [gateRewrite] at passed
        cases derived : deriveIntentHash host rewritten with
        | error err =>
            obtain ⟨other, others, refused, -, -, schemaText, -⟩ :=
              @guardPanicRefusal_legible .schema none none err [] (legible_of_canonical derived)
            simp only [derived] at passed
            rw [refused] at passed
            cases passed
            rw [schemaText] at phaseText
            have sameText := JsValue.str.inj (Option.some.inj phaseText)
            revert guarded sameText
            cases phase <;> decide
        | ok hash =>
            simp only [derived] at passed
            split at passed
            · cases passed
            · split at passed
              · rename_i above
                exact level ⟨rewritten, reason, bases, rfl, above⟩
              · cases passed
    | _ => cases plain
  · rw [gateRewrite_of_ne host envelope plain] at passed
    cases passed
    -- The kernel's own code and basis are known, so the sink hears nothing.
    have silent : audit.driftEvents (.refuse refusal ([] ++
        [basis .kernel BasisCodes.guardPanic (some detail)])) envelope = [] := by
      have known : utf16 "guard_panic" ∈ kernelRefusalCodes := by decide
      have listed : isKnownBasisCode (basis .kernel BasisCodes.guardPanic (some detail)) = true := by
        show (knownBasisCodes .kernel).contains BasisCodes.guardPanic = true
        decide
      simp [BasisAudit.driftEvents, BasisAudit.refusalDrift, BasisAudit.basisDrift,
        BasisAudit.lastDrift, Decision.basis, code, known, listed]
    rw [silent] at failed
    cases failed

/-- The step of a guard, at its place in its list. -/
def guardStep (host : Host) (envelope : IntentEnvelope) (state : S) (phase : TracePhase)
    (index : Nat) (guard : Guard S) : Step where
  phase := phase
  index := some index
  guardName := guard.name
  outcome := guardAnswer host envelope state phase index guard []

theorem guardStep_entry {phase : TracePhase} {index : Nat} {guard other : Guard S}
    {outcome : TraceOutcome} :
    (guardStep host envelope state phase index guard).entry outcome =
        (guardStep host envelope state phase index other).entry outcome ↔
      guard.name = other.name := by
  simp [guardStep, Step.entry]

theorem guardStep_silent {phase : TracePhase} {index : Nat} {guard : Guard S}
    (silent : guard.run envelope state = .ok none) :
    Silent (guardStep host envelope state phase index guard) :=
  guardAnswer_silent host envelope state silent []

theorem guardStep_speaks {phase : TracePhase} {index : Nat} {guard : Guard S}
    {decision gated : Decision} (speaks : guard.run envelope state = .ok (some decision))
    (passed : gateRewrite host decision envelope = .ok gated) :
    (guardStep host envelope state phase index guard).outcome = .ok (some gated) := by
  change guardAnswer host envelope state phase index guard [] = _
  rw [guardAnswer_speaks host envelope state speaks, passed]
  exact congrArg (Except.ok ∘ some) (enrichBasis_nil gated)

theorem guardStep_panics {phase : TracePhase} {index : Nat} {guard : Guard S} {raised : Thrown}
    {panic : Decision} (throws : guard.run envelope state = .error raised)
    (panicked : guardPanicRefusal phase (some index) guard.name raised [] = .ok panic) :
    (guardStep host envelope state phase index guard).outcome = .ok (some panic) := by
  change guardAnswer host envelope state phase index guard [] = _
  rw [guardAnswer_panic host envelope state throws, panicked]
  rfl

theorem guardStep_escapes {phase : TracePhase} {index : Nat} {guard : Guard S}
    {raised escaped : Thrown} (throws : guard.run envelope state = .error raised)
    (panicked : guardPanicRefusal phase (some index) guard.name raised [] = .error escaped) :
    (guardStep host envelope state phase index guard).outcome = .error escaped := by
  change guardAnswer host envelope state phase index guard [] = _
  rw [guardAnswer_panic host envelope state throws, panicked]
  rfl

variable {guard : PackGuard S}

theorem wrapped_silent (silent : guard.run envelope state = .ok none) :
    audit.wrapped sink guard envelope state = .ok none := by
  rw [BasisAudit.wrapped, silent]
  rfl

theorem wrapped_throws {raised : Thrown} (throws : guard.run envelope state = .error raised) :
    audit.wrapped sink guard envelope state = .error raised := by
  rw [BasisAudit.wrapped, throws]
  rfl

theorem wrapped_disturbed {decision : Decision} {raised : Thrown}
    (speaks : guard.run envelope state = .ok (some decision))
    (failed : recordAll sink [] (audit.driftEvents decision envelope) = .error raised) :
    audit.wrapped sink guard envelope state = .error raised := by
  rw [BasisAudit.wrapped, speaks]
  change (audit.auditDecision sink decision envelope >>= _) = _
  rw [BasisAudit.auditDecision, failed]
  rfl

theorem wrapped_speaks {decision : Decision}
    (speaks : guard.run envelope state = .ok (some decision))
    (heard : recordAll sink [] (audit.driftEvents decision envelope) = .ok ()) :
    audit.wrapped sink guard envelope state =
      .ok (some ((audit.substitute decision envelope).getD decision)) := by
  rw [BasisAudit.wrapped, speaks]
  change (audit.auditDecision sink decision envelope >>= _) = _
  rw [BasisAudit.auditDecision, heard, ok_bind]
  cases audit.substitute decision envelope <;> rfl

theorem substitute_level {decision : Decision} (level : ¬Elevates envelope decision) :
    audit.substitute decision envelope = none := by
  cases decision with
  | rewrite rewritten reason bases =>
      refine if_neg fun above => level ⟨rewritten, reason, bases, rfl, above⟩
  | _ => rfl

theorem substitute_elevates {decision : Decision} (elevates : Elevates envelope decision) :
    ∃ refusal bases, audit.substitute decision envelope = some (.refuse refusal bases) ∧
      refusal.kind = .security := by
  obtain ⟨rewritten, reason, bases, rfl, above⟩ := elevates
  exact ⟨_, _, if_pos above, rfl⟩

/-- The wrapper of a guard that answers changes nothing exactly when the sink accepts the answer. -/
theorem related_wrapped_match {exceptional : Prop} {more others : List Step} {phase : TracePhase}
    {index : Nat} {decision : Decision} (guarded : phase ≠ .schema)
    (fresh : guard.basisAuditWrapped = false)
    (speaks : guard.run envelope state = .ok (some decision))
    (exception : exceptional ↔ Elevates envelope decision) :
    Related exceptional (guardStep host envelope state phase index guard.toGuard :: more)
      (guardStep host envelope state phase index (audit.wrapGuard sink guard).toGuard :: others)
      (guard.toGuard.name = some (utf16 "wrapped") ∧ Accepts audit sink envelope decision) := by
  have wrapper : (audit.wrapGuard sink guard).toGuard =
      ⟨none, "wrapped", audit.wrapped sink guard⟩ := by
    simp [BasisAudit.wrapGuard, fresh, PackGuard.toGuard, readGuardMetadata]
  have entry : (guardStep host envelope state phase index guard.toGuard).entry .match =
      (guardStep host envelope state phase index
        (audit.wrapGuard sink guard).toGuard).entry .match ↔
        guard.toGuard.name = some (utf16 "wrapped") := by
    rw [guardStep_entry, wrapper]
    rfl
  obtain ⟨gated, passed⟩ := gateRewrite_returns host envelope decision
  have own := @guardStep_speaks S host envelope state phase index guard.toGuard decision gated speaks
    passed
  cases heard : recordAll sink [] (audit.driftEvents decision envelope) with
  | ok done =>
      have accepts : Accepts audit sink envelope decision := by
        intro raised failed
        rw [heard] at failed
        cases failed
      have answers := @wrapped_speaks S envelope state audit sink guard decision speaks heard
      by_cases elevates : Elevates envelope decision
      · -- The wrapper refuses before the kernel does.
        obtain ⟨refusal, bases, substitute, security⟩ := @substitute_elevates envelope audit _ elevates
        rw [substitute] at answers
        have other := @guardStep_speaks S host envelope state phase index
          (audit.wrapGuard sink guard).toGuard (.refuse refusal bases) _ (by rw [wrapper]; exact answers) rfl
        refine (related_match own other rfl entry).congr ?_
        refine and_congr_right fun _ => iff_of_true (.inr ?_) accepts
        exact ⟨exception.mpr elevates, gateRewrite_elevates elevates passed, refusal, bases, rfl,
          security⟩
      · rw [substitute_level elevates] at answers
        have other := @guardStep_speaks S host envelope state phase index
          (audit.wrapGuard sink guard).toGuard decision _ (by rw [wrapper]; exact answers) passed
        refine (related_match own other rfl entry).congr ?_
        exact and_congr_right fun _ => iff_of_true (.inl rfl) accepts
  | error raised =>
      have throws := @wrapped_disturbed S envelope state audit sink guard decision raised speaks heard
      have accepted : Accepts audit sink envelope decision ↔
          Elevates envelope decision ∧ Legible raised := by
        simp [Accepts, heard]
      by_cases legible : Legible raised
      · obtain ⟨refusal, detail, panicked, security, -⟩ := @guardPanicRefusal_legible phase
          (some index) (some (utf16 "wrapped")) raised [] legible
        have other := @guardStep_panics S host envelope state phase index
          (audit.wrapGuard sink guard).toGuard raised _ (by rw [wrapper]; exact throws)
          (by rw [wrapper]; exact panicked)
        refine (related_match own other rfl entry).congr (and_congr_right fun _ => ?_)
        rw [accepted, SameAnswer]
        by_cases elevates : Elevates envelope decision
        · refine iff_of_true (.inr ?_) ⟨elevates, legible⟩
          exact ⟨exception.mpr elevates, gateRewrite_elevates elevates passed, _, _, rfl, security⟩
        · refine iff_of_false ?_ (fun both => elevates both.1)
          rintro (same | ⟨holds, -⟩)
          · exact panic_ne_gated guarded elevates heard passed panicked same
          · exact elevates (exception.mp holds)
      · obtain ⟨escaped, panicked⟩ := @guardPanicRefusal_illegible phase (some index)
          (some (utf16 "wrapped")) raised [] legible
        have other := @guardStep_escapes S host envelope state phase index
          (audit.wrapGuard sink guard).toGuard raised escaped (by rw [wrapper]; exact throws)
          (by rw [wrapper]; exact panicked)
        refine (related_thrown other).congr (iff_of_false not_false ?_)
        rintro ⟨-, accepts⟩
        exact legible (accepted.mp accepts).2

theorem firstOutcome_cons_silent {guards : List (PackGuard S)}
    (silent : guard.run envelope state = .ok none) :
    firstOutcome envelope state (guard.toGuard :: guards.map PackGuard.toGuard) =
      firstOutcome envelope state (guards.map PackGuard.toGuard) := by
  rw [firstOutcome, show guard.toGuard.run envelope state = .ok none from silent]

theorem firstOutcome_cons_speaks {guards : List (PackGuard S)} {decision : Decision}
    (speaks : guard.run envelope state = .ok (some decision)) :
    firstOutcome envelope state (guard.toGuard :: guards.map PackGuard.toGuard) =
      .ok (some decision) := by
  rw [firstOutcome, show guard.toGuard.run envelope state = .ok (some decision) from
    speaks]

theorem firstOutcome_cons_throws {guards : List (PackGuard S)} {raised : Thrown}
    (throws : guard.run envelope state = .error raised) :
    firstOutcome envelope state (guard.toGuard :: guards.map PackGuard.toGuard) =
      .error raised := by
  rw [firstOutcome, show guard.toGuard.run envelope state = .error raised from
    throws]

/-- The wrapped guard throws what the guard throws, under the name of the wrapper. -/
theorem related_wrapped_throws {exceptional : Prop} {more others : List Step} {phase : TracePhase}
    {index : Nat} {raised : Thrown} (throws : guard.run envelope state = .error raised) :
    Related exceptional (guardStep host envelope state phase index guard.toGuard :: more)
      (guardStep host envelope state phase index (audit.wrapGuard sink guard).toGuard :: others)
      (guard.basisAuditWrapped = true ∨ guard.toGuard.name = some (utf16 "wrapped")) := by
  cases panicked : guardPanicRefusal phase (some index) guard.toGuard.name raised [] with
  | error escaped =>
      exact related_throws (@guardStep_escapes S host envelope state phase index guard.toGuard raised escaped throws
        panicked) _
  | ok panic =>
      have own := @guardStep_panics S host envelope state phase index guard.toGuard raised panic throws
        panicked
      cases tagged : guard.basisAuditWrapped with
      | true =>
          rw [wrapGuard_tagged audit sink guard tagged]
          refine (related_match own own rfl (iff_of_true rfl trivial)).congr ?_
          exact iff_of_true ⟨trivial, .inl rfl⟩ (.inl rfl)
      | false =>
          have wrapper : (audit.wrapGuard sink guard).toGuard =
              ⟨none, "wrapped", audit.wrapped sink guard⟩ := by
            simp [BasisAudit.wrapGuard, tagged, PackGuard.toGuard, readGuardMetadata]
          have legible : Legible raised := by
            by_contra illegible
            obtain ⟨escaped, same⟩ := @guardPanicRefusal_illegible phase (some index)
              guard.toGuard.name raised [] illegible
            rw [same] at panicked
            cases panicked
          obtain ⟨refusal, detail, panicked', -⟩ := @guardPanicRefusal_legible phase (some index)
            (some (utf16 "wrapped")) raised [] legible
          have other := @guardStep_panics S host envelope state phase index
            (audit.wrapGuard sink guard).toGuard raised _ (by rw [wrapper]; exact wrapped_throws throws)
            (by rw [wrapper]; exact panicked')
          have entry : (guardStep host envelope state phase index guard.toGuard).entry .match =
              (guardStep host envelope state phase index
                (audit.wrapGuard sink guard).toGuard).entry .match ↔
                guard.toGuard.name = some (utf16 "wrapped") := by
            rw [guardStep_entry, wrapper]
            rfl
          refine (related_match own other rfl entry).congr ?_
          simp only [Bool.false_eq_true, false_or, and_iff_left_iff_imp]
          intro named
          rw [named, panicked'] at panicked
          cases panicked
          exact .inl rfl

/-- The wrapped guards answer like the guards themselves as long as nothing disturbs the list. -/
theorem related_guardSteps {exceptional later : Prop} {more others : List Step} {phase : TracePhase}
    (guarded : phase ≠ .schema) (related : Related exceptional more others later)
    (guards : List (PackGuard S)) (index : Nat) :
    Related (ElevatingAnswer envelope state guards ∨ Quiet envelope state guards ∧ exceptional)
      (guardSteps host envelope state phase (guards.map PackGuard.toGuard) index ++ more)
      (guardSteps host envelope state phase
        ((guards.map (audit.wrapGuard sink)).map PackGuard.toGuard) index ++ others)
      (Undisturbed audit sink envelope state guards ∧ (Quiet envelope state guards → later)) := by
  induction guards generalizing index with
  | nil =>
      have empty : (ElevatingAnswer envelope state ([] : List (PackGuard S)) ∨
          Quiet envelope state ([] : List (PackGuard S)) ∧ exceptional) = exceptional := by
        simp [ElevatingAnswer, Quiet, AllSilent, firstOutcome]
      rw [empty]
      refine related.congr ?_
      simp [Undisturbed, Quiet, AllSilent, firstOutcome]
  | cons guard guards ih =>
      change Related _
        (guardStep host envelope state phase index guard.toGuard :: (_ ++ more))
        (guardStep host envelope state phase index (audit.wrapGuard sink guard).toGuard ::
          (_ ++ others)) _
      cases run : guard.run envelope state with
      | error raised =>
          have first := @firstOutcome_cons_throws S envelope state guard guards raised run
          refine (related_wrapped_throws run).congr ?_
          simp [Undisturbed, run, Quiet, AllSilent, first]
      | ok opinion =>
          cases opinion with
          | none =>
              have first := @firstOutcome_cons_silent S envelope state guard guards run
              have sameElevating : ElevatingAnswer envelope state (guard :: guards) =
                  ElevatingAnswer envelope state guards := by
                rw [ElevatingAnswer, List.map_cons, first, ElevatingAnswer]
              have sameQuiet : Quiet envelope state (guard :: guards) =
                  Quiet envelope state guards := by
                rw [Quiet, List.map_cons, AllSilent, first, Quiet, AllSilent]
              rw [sameElevating, sameQuiet]
              have silent' : Silent (guardStep host envelope state phase index
                  (audit.wrapGuard sink guard).toGuard) := by
                apply guardStep_silent
                change (audit.wrapGuard sink guard).run envelope state = .ok none
                cases tagged : guard.basisAuditWrapped with
                | true => rw [wrapGuard_tagged audit sink guard tagged, run]
                | false =>
                    rw [BasisAudit.wrapGuard, tagged]
                    exact wrapped_silent run
              have entry : (guardStep host envelope state phase index guard.toGuard).entry .pass =
                  (guardStep host envelope state phase index
                    (audit.wrapGuard sink guard).toGuard).entry .pass ↔
                    guard.basisAuditWrapped = true ∨
                      guard.toGuard.name = some (utf16 "wrapped") := by
                rw [guardStep_entry]
                cases tagged : guard.basisAuditWrapped with
                | true => simp [wrapGuard_tagged audit sink guard tagged]
                | false =>
                    rw [BasisAudit.wrapGuard, tagged]
                    simp only [Bool.false_eq_true, false_or]
                    rfl
              refine (related_pass (ih (index + 1)) (guardStep_silent run) silent' entry).congr ?_
              simp only [Undisturbed, run, and_assoc]
          | some decision =>
              have first := @firstOutcome_cons_speaks S envelope state guard guards decision run
              have exception : (ElevatingAnswer envelope state (guard :: guards) ∨
                  Quiet envelope state (guard :: guards) ∧ exceptional) ↔
                  Elevates envelope decision := by
                simp [ElevatingAnswer, Quiet, AllSilent, first]
              cases tagged : guard.basisAuditWrapped with
              | true =>
                  obtain ⟨gated, passed⟩ := gateRewrite_returns host envelope decision
                  have own := @guardStep_speaks S host envelope state phase index guard.toGuard
                    decision gated run passed
                  rw [wrapGuard_tagged audit sink guard tagged]
                  refine (related_match own own rfl (iff_of_true rfl trivial)).congr ?_
                  simp [Undisturbed, run, tagged, Quiet, AllSilent, first, SameAnswer]
              | false =>
                  refine (related_wrapped_match guarded tagged run exception).congr ?_
                  simp [Undisturbed, run, tagged, Quiet, AllSilent, first]

/-- A step that does not pass compares with itself. -/
theorem related_self {exceptional : Prop} {more others : List Step} {step : Step}
    (speaks : ¬Silent step) : Related exceptional (step :: more) (step :: others) True := by
  cases outcome : step.outcome with
  | error raised => exact related_throws outcome True
  | ok opinion =>
      cases opinion with
      | none => exact absurd outcome speaks
      | some decision =>
          refine (related_match outcome outcome rfl (iff_of_true rfl trivial)).congr ?_
          exact iff_of_true ⟨trivial, .inl rfl⟩ trivial

theorem silent_taintPhase_iff (policy : TaintPolicy) :
    Silent (taintPhase envelope policy) ↔
      canProposeWithOrigin envelope.taint envelope.kind envelope.origin policy = .ok true := by
  have panics {err : Thrown} : (do
      return some (← guardPanicRefusal .taint none none err []) : Except Thrown (Option Decision)) ≠
        .ok none := by
    cases guardPanicRefusal .taint none none err [] <;> rintro ⟨⟩
  rw [Silent, taintPhase, taintGate]
  cases rank : canPropose envelope.taint envelope.kind policy with
  | error err =>
      refine iff_of_false panics ?_
      rw [canProposeWithOrigin, rank]
      rintro ⟨⟩
  | ok passed =>
      cases gate : canProposeWithOrigin envelope.taint envelope.kind envelope.origin policy with
      | error err => exact iff_of_false panics (by rintro ⟨⟩)
      | ok allowed =>
          cases allowed with
          | true => exact iff_of_true rfl rfl
          | false => exact iff_of_false (by rintro ⟨⟩) (by rintro ⟨⟩)

theorem related_taintPhase {exceptional later : Prop} {more others : List Step}
    (policy : TaintPolicy) (related : Related exceptional more others later) :
    Related (canProposeWithOrigin envelope.taint envelope.kind envelope.origin policy = .ok true ∧
        exceptional)
      (taintPhase envelope policy :: more) (taintPhase envelope policy :: others)
      (canProposeWithOrigin envelope.taint envelope.kind envelope.origin policy = .ok true →
        later) := by
  by_cases silent : Silent (taintPhase envelope policy)
  · have passes := (silent_taintPhase_iff policy).mp silent
    simp only [passes, true_and, forall_const]
    refine (related_pass related silent silent (iff_of_true rfl trivial)).congr ?_
    exact iff_of_eq (true_and _)
  · have stops := mt (silent_taintPhase_iff policy).mpr silent
    refine (related_self silent).congr ?_
    exact (iff_true_intro fun passes => absurd passes stops).symm

/-- The steps of an installed policy after the hash check answer like those of the policy exactly
when nothing disturbs them. -/
theorem related_verifiedSteps (policy : PackPolicy S) :
    Related (PolicyElevates envelope state policy)
      (verifiedSteps host envelope state policy.bundle)
      (verifiedSteps host envelope state (audit.wrapBundle sink policy).bundle)
      (PolicyUndisturbed audit sink envelope state policy) := by
  have last : Related False [defaultPhase policy.default] [defaultPhase policy.default] True :=
    related_self (by
      intro silent
      cases silent)
  have business := @related_guardSteps S host envelope state audit sink _ _ _ _ .business nofun last
    policy.business 0
  have auth := @related_guardSteps S host envelope state audit sink _ _ _ _ .auth nofun business
    policy.authGuards 0
  have taint := @related_taintPhase envelope _ _ _ _ policy.taint auth
  have whole := @related_guardSteps S host envelope state audit sink _ _ _ _ .state nofun taint
    policy.stateGuards 0
  simp only [and_false, or_false, implies_true, and_true] at whole
  exact whole

theorem adjudicateImpl_of_verified {kill : KillSwitchState} (policy : PolicyBundle S)
    (verified : Verified host envelope kill) :
    adjudicateImpl host envelope state kill policy (some []) =
      runSteps (verifiedSteps host envelope state policy)
        (some [phaseEntry .kill .pass, phaseEntry .schema .pass]) := by
  obtain ⟨inactive, version, hash⟩ := verified
  rw [adjudicateImpl_reaches_hash host envelope state policy _ inactive version, hashStep, hash,
    ← verifiedPhases_eq_runSteps]
  change conclude (if envelope.intentHash ≠ envelope.intentHash then _ else _) _ = _
  rw [if_neg (not_not_intro rfl)]
  rfl

/-- An envelope that is not verified is answered before the policy is looked at. -/
theorem adjudicateImpl_of_not_verified {kill : KillSwitchState} (policy other : PolicyBundle S)
    (traceOut : Option (List AdjudicationTraceEntry)) (forged : ¬Verified host envelope kill) :
    adjudicateImpl host envelope state kill policy traceOut =
      adjudicateImpl host envelope state kill other traceOut := by
  rw [adjudicateImpl_eq_conclude, adjudicateImpl_eq_conclude]
  cases active : kill.active with
  | true =>
      rw [killStep, active]
      rfl
  | false =>
      rw [killStep, active]
      change conclude (versionStep envelope [] _) _ = conclude (versionStep envelope [] _) _
      by_cases version : envelope.version = intentEnvelopeVersion
      · rw [versionStep, if_neg (not_not_intro version)]
        change conclude (hashStep host envelope _ _) _ = conclude (hashStep host envelope _ _) _
        cases derived : deriveIntentHash host envelope with
        | error err =>
            rw [hashStep, derived]
            cases err <;> rfl
        | ok hash =>
            have different : hash ≠ envelope.intentHash := by
              rintro rfl
              exact forged ⟨active, version, derived⟩
            rw [hashStep, derived]
            simp only [if_pos different]
            rfl
      · rw [versionStep, if_pos version]
        rfl

/-- The trace is kept when it is asked for. -/
theorem runSteps_some {steps : List Step} {trace : List AdjudicationTraceEntry}
    {answer : Decision × Option (List AdjudicationTraceEntry)}
    (ran : runSteps steps (some trace) = .ok answer) : ∃ final, answer.2 = some final := by
  induction steps generalizing trace with
  | nil => cases ran
  | cons step steps ih =>
      cases outcome : step.outcome with
      | error raised =>
          rw [runSteps_error outcome] at ran
          cases ran
      | ok opinion =>
          cases opinion with
          | none =>
              rw [runSteps_pass outcome] at ran
              exact ih ran
          | some decision =>
              rw [runSteps_match outcome] at ran
              cases ran
              exact ⟨_, rfl⟩

theorem adjudicateWithTrace_of_verified {kill : KillSwitchState} (policy : PolicyBundle S)
    (verified : Verified host envelope kill) (result : AdjudicationTraceResult) :
    adjudicateWithTrace host envelope state kill policy = .ok result ↔
      runSteps (verifiedSteps host envelope state policy)
        (some [phaseEntry .kill .pass, phaseEntry .schema .pass]) =
          .ok (result.decision, some result.trace) := by
  rw [adjudicateWithTrace, adjudicateImpl_of_verified policy verified]
  cases ran : runSteps (verifiedSteps host envelope state policy)
      (some [phaseEntry .kill .pass, phaseEntry .schema .pass]) with
  | error raised => exact iff_of_false (by rintro ⟨⟩) (by rintro ⟨⟩)
  | ok answer =>
      obtain ⟨decision, trace⟩ := answer
      obtain ⟨final, rfl⟩ := runSteps_some ran
      obtain ⟨other, others⟩ := result
      simp [bind, Except.bind, pure, Except.pure]

theorem adjudicate_of_traced {kill : KillSwitchState} {policy : PolicyBundle S}
    {result : AdjudicationTraceResult}
    (returned : adjudicateWithTrace host envelope state kill policy = .ok result) :
    adjudicate host envelope state kill policy = .ok result.decision := by
  rw [← adjudicateWithTrace_decision, returned]
  rfl

/-- Both entry points of the kernel return over the installed policy what they return over the
policy, with the same trace. -/
def InstalledAlike (host : Host) (kill : KillSwitchState) (envelope : IntentEnvelope) (state : S)
    (policy installed : PackPolicy S) (result : AdjudicationTraceResult) : Prop :=
  adjudicate host envelope state kill policy.bundle = .ok result.decision ∧
    ∃ decision, adjudicateWithTrace host envelope state kill installed.bundle =
        .ok ⟨decision, result.trace⟩ ∧
      adjudicate host envelope state kill installed.bundle = .ok decision ∧
      SameAnswer (PolicyElevates envelope state policy) result.decision decision

theorem installedAlike_iff {kill : KillSwitchState} {policy : PackPolicy S}
    {result : AdjudicationTraceResult}
    (returned : adjudicateWithTrace host envelope state kill policy.bundle = .ok result) :
    InstalledAlike host kill envelope state policy (audit.wrapBundle sink policy) result ↔
      (Verified host envelope kill → PolicyUndisturbed audit sink envelope state policy) := by
  have plain := adjudicate_of_traced returned
  by_cases verified : Verified host envelope kill
  · have ran := (adjudicateWithTrace_of_verified policy.bundle verified result).mp returned
    have compared := @related_verifiedSteps S host envelope state audit sink policy _ _ _ _ rfl ran
    rw [forall_prop_of_true verified]
    refine Iff.trans ?_ (compared.trans (and_iff_right rfl))
    constructor
    · rintro ⟨-, decision, traced, -, alike⟩
      exact ⟨decision, (adjudicateWithTrace_of_verified _ verified _).mp traced, alike⟩
    · rintro ⟨decision, other, alike⟩
      have traced := (adjudicateWithTrace_of_verified _ verified ⟨decision, result.trace⟩).mpr other
      exact ⟨plain, decision, traced, adjudicate_of_traced traced, alike⟩
  · refine iff_of_true ⟨plain, result.decision, ?_⟩ (fun held => absurd held verified)
    have traced : adjudicateWithTrace host envelope state kill (audit.wrapBundle sink policy).bundle =
        .ok result := by
      rw [adjudicateWithTrace, ← adjudicateImpl_of_not_verified policy.bundle _ _ verified]
      exact returned
    exact ⟨traced, adjudicate_of_traced traced, .inl rfl⟩

/-- Each wrapped guard has the metadata of the guard it wraps. -/
def MetadataKept (sink : MetricsSink) (pack : PackV0 S) : Prop :=
  ∀ guard ∈ pack.policy.stateGuards ++ pack.policy.authGuards ++ pack.policy.business,
    readGuardMetadata (pack.audit.wrapGuard sink guard) = readGuardMetadata guard

/-- Installing a pack changes neither entry point of the kernel nor the metadata of a guard. -/
def PolicyKept (host : Host) (kill : KillSwitchState) (envelope : IntentEnvelope) (state : S)
    (sink : MetricsSink) (pack : PackV0 S) (result : AdjudicationTraceResult) : Prop :=
  InstalledAlike host kill envelope state pack.policy (withBasisAudit sink pack).policy result ∧
    MetadataKept sink pack ∧
    withBasisAudit sink (withBasisAudit sink pack) = withBasisAudit sink pack

/-- The guards that the run asks have the name of the wrapper, the sink takes their drift, and no
guard of the pack has metadata to lose. -/
theorem withBasisAudit_keeps_iff (host : Host) (kill : KillSwitchState) (envelope : IntentEnvelope)
    (state : S) (sink : MetricsSink) (pack : PackV0 S) (result : AdjudicationTraceResult)
    (returned : adjudicateWithTrace host envelope state kill pack.policy.bundle = .ok result) :
    PolicyKept host kill envelope state sink pack result ↔
      (Verified host envelope kill →
          PolicyUndisturbed pack.audit sink envelope state pack.policy) ∧
        ∀ guard ∈ pack.policy.stateGuards ++ pack.policy.authGuards ++ pack.policy.business,
          guard.basisAuditWrapped = true ∨ readGuardMetadata guard = none := by
  refine and_congr (installedAlike_iff returned) ?_
  rw [and_iff_left (withBasisAudit_idempotent sink pack)]
  exact forall₂_congr fun guard _ => readGuardMetadata_wrapGuard pack.audit sink guard

end

/-- The only guard of this pack has a name and lets every envelope pass. -/
def namedPack (name : JsString) : PackV0 Unit where
  id := "pack"
  basisCodes := []
  signals := none
  policy :=
    { stateGuards := []
      authGuards := []
      taint := { minimumFor := fun _ => .ok .untrusted, requiresUncontaminatedOrigin := none }
      business := [⟨name, none, false, fun _ _ => .ok none⟩]
      default := .execute }

def silentSink : MetricsSink := fun _ _ => .ok ()

def namedTrace (name : JsString) : List AdjudicationTraceEntry :=
  [phaseEntry .kill .pass, phaseEntry .schema .pass, phaseEntry .taint .pass,
    { phase := .business, index := some 0, guardName := some name, outcome := .pass },
    phaseEntry .default .match]

theorem withBasisAudit_keeps_iff_wrapped :
    ∃ result, adjudicateWithTrace sampleHost sampleEnvelope () releasedKill
        (namedPack "wrapped").policy.bundle = .ok result ∧
      (PolicyKept sampleHost releasedKill sampleEnvelope () silentSink (namedPack "wrapped") result ↔
        (Verified sampleHost sampleEnvelope releasedKill →
          PolicyUndisturbed (namedPack "wrapped").audit silentSink sampleEnvelope ()
            (namedPack "wrapped").policy) ∧
        ∀ guard ∈ (namedPack "wrapped").policy.stateGuards ++
            (namedPack "wrapped").policy.authGuards ++ (namedPack "wrapped").policy.business,
          guard.basisAuditWrapped = true ∨ readGuardMetadata guard = none) := by
  have traced : (adjudicateWithTrace sampleHost sampleEnvelope () releasedKill
      (namedPack "wrapped").policy.bundle).map (·.trace) = .ok (namedTrace "wrapped") := by
    decide +kernel
  cases returned : adjudicateWithTrace sampleHost sampleEnvelope () releasedKill
      (namedPack "wrapped").policy.bundle with
  | error raised =>
      rw [returned] at traced
      cases traced
  | ok result =>
      exact ⟨result, rfl, withBasisAudit_keeps_iff sampleHost releasedKill sampleEnvelope ()
        silentSink (namedPack "wrapped") result returned⟩

/-- A guard of another name is missing from the trace of the installed pack. -/
theorem namedPack_renamed :
    ∃ result, adjudicateWithTrace sampleHost sampleEnvelope () releasedKill
        (namedPack "limit").policy.bundle = .ok result ∧
      ¬PolicyKept sampleHost releasedKill sampleEnvelope () silentSink (namedPack "limit") result := by
  have traced : (adjudicateWithTrace sampleHost sampleEnvelope () releasedKill
      (namedPack "limit").policy.bundle).map (·.trace) = .ok (namedTrace "limit") := by
    decide +kernel
  have installed : (adjudicateWithTrace sampleHost sampleEnvelope () releasedKill
      (withBasisAudit silentSink (namedPack "limit")).policy.bundle).map (·.trace) =
        .ok (namedTrace "wrapped") := by
    decide +kernel
  cases returned : adjudicateWithTrace sampleHost sampleEnvelope () releasedKill
      (namedPack "limit").policy.bundle with
  | error raised =>
      rw [returned] at traced
      cases traced
  | ok result =>
      refine ⟨result, rfl, ?_⟩
      rintro ⟨⟨-, decision, other, -⟩, -⟩
      rw [returned] at traced
      rw [other] at installed
      have same : namedTrace "limit" = namedTrace "wrapped" :=
        Except.ok.inj (traced.symm.trans installed)
      revert same
      decide

end Adjudicate.Pack
