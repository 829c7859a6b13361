/-
This file proves when no thrown value escapes from the kernel and what a panic refusal says.
-/

import Adjudicate.Canonical.Finite
import Adjudicate.Kernel.FirstAnswer
import Adjudicate.Kernel.TaintFloor
import Adjudicate.Kernel.TraceFidelity

namespace Adjudicate.Kernel

open Js Canonical Adjudicate.Core

/-- The panic handler can read the text of the thrown value. -/
def Legible (err : Thrown) : Prop := ∃ text, thrownText err = .ok text

theorem legible_of_canonical {host : Host} {value : JsValue} {err : Thrown}
    (raised : sha256Canonical host value = .error err) : Legible err := by
  obtain ⟨number, rfl⟩ := sha256Canonical_raises host raised
  exact ⟨_, rfl⟩

section Handler

variable {phase : TracePhase} {guardIndex : Option Nat} {guardName : Option JsString} {err : Thrown}
  {accumulated : List DecisionBasis}

/-- A legible value gives a security refusal whose last basis names the phase and the guard. -/
theorem guardPanicRefusal_legible (legible : Legible err) :
    ∃ refusal detail, guardPanicRefusal phase guardIndex guardName err accumulated =
        .ok (.refuse refusal (accumulated ++ [basis .kernel BasisCodes.guardPanic (some detail)])) ∧
      refusal.kind = .security ∧ refusal.code = utf16 "guard_panic" ∧
      detail.lookup (utf16 "phase") = some (.str phase.text) ∧
      detail.lookup (utf16 "index") = guardIndex.map fun index => .num (JsNumber.ofNat index) := by
  have index (errorName message : JsString) :
      ([(utf16 "phase", JsValue.str phase.text)] ++
        optionalProp "index" (guardIndex.map fun index => .num (JsNumber.ofNat index)) ++
        optionalProp "guardName" (guardName.map .str) ++
        [(utf16 "errorName", JsValue.str errorName), (utf16 "message", .str message)]).lookup
          (utf16 "index") = guardIndex.map fun index => .num (JsNumber.ofNat index) := by
    cases guardIndex with
    | none => cases guardName <;> rfl
    | some index => rfl
  cases err with
  | unprintable raised =>
      obtain ⟨text, same⟩ := legible
      cases same
  | error name message => exact ⟨_, _, rfl, rfl, rfl, rfl, index name message⟩
  | other text => exact ⟨_, _, rfl, rfl, rfl, rfl, index "Error" text⟩

theorem guardPanicRefusal_illegible (illegible : ¬Legible err) :
    ∃ raised, guardPanicRefusal phase guardIndex guardName err accumulated = .error raised := by
  cases err with
  | unprintable raised => exact ⟨raised, rfl⟩
  | _ => exact (illegible ⟨_, rfl⟩).elim

end Handler

section

variable {S : Type} (host : Host) (envelope : IntentEnvelope) (state : S)

/-- The guard at the index is the first of the list with an outcome, and it throws. -/
def ThrowsAt (guards : List (Guard S)) (index : Nat) (guard : Guard S) (err : Thrown) : Prop :=
  guards[index]? = some guard ∧ AllSilent envelope state (guards.take index) ∧
    guard.run envelope state = .error err

/-- In phase order, the first outcome of a verified envelope is a guard or the taint policy that
throws. -/
inductive FirstThrow (kill : KillSwitchState) (policy : PolicyBundle S) :
    TracePhase → Option Nat → Option JsString → Thrown → Prop where
  | state {index : Nat} {guard : Guard S} {err : Thrown} :
      Verified host envelope kill →
      ThrowsAt envelope state policy.stateGuards index guard err →
      FirstThrow kill policy .state (some index) guard.name err
  | taint {err : Thrown} :
      Verified host envelope kill → AllSilent envelope state policy.stateGuards →
      taintGate envelope policy.taint = .error err →
      FirstThrow kill policy .taint none none err
  | auth {rankAllowed : Bool} {index : Nat} {guard : Guard S} {err : Thrown} :
      Verified host envelope kill → AllSilent envelope state policy.stateGuards →
      taintGate envelope policy.taint = .ok (rankAllowed, true) →
      ThrowsAt envelope state policy.authGuards index guard err →
      FirstThrow kill policy .auth (some index) guard.name err
  | business {rankAllowed : Bool} {index : Nat} {guard : Guard S} {err : Thrown} :
      Verified host envelope kill → AllSilent envelope state policy.stateGuards →
      taintGate envelope policy.taint = .ok (rankAllowed, true) →
      AllSilent envelope state policy.authGuards →
      ThrowsAt envelope state policy.business index guard err →
      FirstThrow kill policy .business (some index) guard.name err

theorem gateRewrite_returns (decision : Decision) :
    ∃ gated, gateRewrite host decision envelope = .ok gated := by
  cases decision with
  | rewrite rewritten reason bases =>
      rw [gateRewrite]
      cases derived : deriveIntentHash host rewritten with
      | error err =>
          obtain ⟨refusal, detail, same, -⟩ := @guardPanicRefusal_legible .schema none none err []
            (legible_of_canonical derived)
          exact ⟨_, same⟩
      | ok hash =>
          dsimp only
          split
          · exact ⟨_, rfl⟩
          · split <;> exact ⟨_, rfl⟩
  | _ => exact ⟨_, rfl⟩

theorem silent_guardSteps (phase : TracePhase) {guards : List (Guard S)} (index : Nat)
    (silent : AllSilent envelope state guards) :
    ∀ step ∈ guardSteps host envelope state phase guards index, Silent step := by
  induction guards generalizing index with
  | nil =>
      intro step member
      cases member
  | cons guard guards ih =>
      rw [AllSilent, firstOutcome] at silent
      cases run : guard.run envelope state with
      | error err =>
          rw [run] at silent
          cases silent
      | ok opinion =>
          rw [run] at silent
          cases opinion with
          | some decision => cases silent
          | none =>
              rw [guardSteps, List.forall_mem_cons]
              exact ⟨guardAnswer_silent host envelope state run [], ih (index + 1) silent⟩

/-- The steps of a list split at the step of each of its guards. -/
theorem guardSteps_split (phase : TracePhase) {guards : List (Guard S)} {index : Nat}
    {guard : Guard S} (found : guards[index]? = some guard) (start : Nat) :
    guardSteps host envelope state phase guards start =
      guardSteps host envelope state phase (guards.take index) start ++
        { phase, index := some (start + index), guardName := guard.name,
          outcome := guardAnswer host envelope state phase (start + index) guard [] } ::
        guardSteps host envelope state phase (guards.drop (index + 1)) (start + index + 1) := by
  induction guards generalizing index start with
  | nil => cases found
  | cons first guards ih =>
      cases index with
      | zero =>
          cases found
          rfl
      | succ index =>
          rw [List.take_succ_cons, List.drop_succ_cons, guardSteps, guardSteps, ih found (start + 1)]
          simp only [List.cons_append, Nat.add_right_comm start 1 index, Nat.add_assoc start index 1]

variable (kill : KillSwitchState) (policy : PolicyBundle S)

theorem not_hashMismatch (verified : Verified host envelope kill) :
    ¬HashMismatch host envelope kill :=
  fun mismatch => mismatch.2.2 verified.2.2

theorem silent_taintPhase {rankAllowed : Bool}
    (passes : taintGate envelope policy.taint = .ok (rankAllowed, true)) :
    Silent (taintPhase envelope policy.taint) := by
  rw [Silent, taintPhase, passes]
  rfl

theorem taintPhase_panic {err : Thrown} (raises : taintGate envelope policy.taint = .error err) :
    (taintPhase envelope policy.taint).outcome =
      (guardPanicRefusal .taint none none err []).map some := by
  rw [taintPhase, raises]
  cases err <;> rfl

theorem silent_opening (verified : Verified host envelope kill) :
    Silent (killPhase kill) ∧ Silent (schemaPhase envelope) := by
  obtain ⟨inactive, version, -⟩ := verified
  constructor
  · rw [Silent, killPhase, inactive]
    rfl
  · rw [Silent, schemaPhase, if_neg (not_not_intro version)]

/-- The first throw is the first step with an outcome, and that is its panic refusal. -/
theorem FirstThrow.split {phase : TracePhase} {index : Option Nat} {name : Option JsString}
    {err : Thrown} (first : FirstThrow host envelope state kill policy phase index name err) :
    Verified host envelope kill ∧ ∃ passed last rest,
      steps host envelope state kill policy = passed ++ last :: rest ∧
      (∀ step ∈ passed, Silent step) ∧
      last.entry .match = { phase, index, guardName := name, outcome := .match } ∧
      last.outcome = (guardPanicRefusal phase index name err []).map some := by
  have throws {phase : TracePhase} {guards : List (Guard S)} {index : Nat} {guard : Guard S}
      (thrown : ThrowsAt envelope state guards index guard err) :
      ∃ before last rest, guardSteps host envelope state phase guards 0 = before ++ last :: rest ∧
        (∀ step ∈ before, Silent step) ∧
        last.entry .match = { phase, index := some index, guardName := guard.name, outcome := .match } ∧
        last.outcome = (guardPanicRefusal phase (some index) guard.name err []).map some := by
    obtain ⟨found, silent, raises⟩ := thrown
    refine ⟨_, _, _, guardSteps_split host envelope state phase found 0,
      silent_guardSteps host envelope state phase 0 silent, ?_, ?_⟩
    · rw [Step.entry, Nat.zero_add]
    · rw [Nat.zero_add]
      exact guardAnswer_panic host envelope state raises []
  cases first with
  | state verified thrown =>
      obtain ⟨before, last, rest, split, silent, entry, outcome⟩ := throws thrown
      obtain ⟨killed, schema⟩ := silent_opening host envelope kill verified
      refine ⟨verified, killPhase kill :: schemaPhase envelope :: before, last, rest ++
        taintPhase envelope policy.taint :: (guardSteps host envelope state .auth policy.authGuards 0 ++
          (guardSteps host envelope state .business policy.business 0 ++
            [defaultPhase policy.default])), ?_, ?_, entry, outcome⟩
      · simp only [steps, verifiedSteps, split, List.cons_append, List.append_assoc]
      · rw [List.forall_mem_cons, List.forall_mem_cons]
        exact ⟨killed, schema, silent⟩
  | taint verified quiet raises =>
      obtain ⟨killed, schema⟩ := silent_opening host envelope kill verified
      refine ⟨verified, killPhase kill :: schemaPhase envelope :: guardSteps host envelope state
        .state policy.stateGuards 0, taintPhase envelope policy.taint,
        guardSteps host envelope state .auth policy.authGuards 0 ++
          (guardSteps host envelope state .business policy.business 0 ++
            [defaultPhase policy.default]), ?_, ?_, rfl, ?_⟩
      · simp only [steps, verifiedSteps, List.cons_append]
      · rw [List.forall_mem_cons, List.forall_mem_cons]
        exact ⟨killed, schema, silent_guardSteps host envelope state .state 0 quiet⟩
      · exact taintPhase_panic envelope policy raises
  | auth verified quiet passes thrown =>
      obtain ⟨before, last, rest, split, silent, entry, outcome⟩ := throws thrown
      obtain ⟨killed, schema⟩ := silent_opening host envelope kill verified
      refine ⟨verified, killPhase kill :: schemaPhase envelope :: (guardSteps host envelope state
        .state policy.stateGuards 0 ++ taintPhase envelope policy.taint :: before), last,
        rest ++ (guardSteps host envelope state .business policy.business 0 ++
          [defaultPhase policy.default]), ?_, ?_, entry, outcome⟩
      · simp only [steps, verifiedSteps, split, List.cons_append, List.append_assoc]
      · rw [List.forall_mem_cons, List.forall_mem_cons, List.forall_mem_append, List.forall_mem_cons]
        exact ⟨killed, schema, silent_guardSteps host envelope state .state 0 quiet,
          silent_taintPhase envelope policy passes, silent⟩
  | business verified quiet passes authQuiet thrown =>
      obtain ⟨before, last, rest, split, silent, entry, outcome⟩ := throws thrown
      obtain ⟨killed, schema⟩ := silent_opening host envelope kill verified
      refine ⟨verified, killPhase kill :: schemaPhase envelope :: (guardSteps host envelope state
        .state policy.stateGuards 0 ++ taintPhase envelope policy.taint ::
          (guardSteps host envelope state .auth policy.authGuards 0 ++ before)), last,
        rest ++ [defaultPhase policy.default], ?_, ?_, entry, outcome⟩
      · simp only [steps, verifiedSteps, split, List.cons_append, List.append_assoc]
      · rw [List.forall_mem_cons, List.forall_mem_cons, List.forall_mem_append, List.forall_mem_cons,
          List.forall_mem_append]
        exact ⟨killed, schema, silent_guardSteps host envelope state .state 0 quiet,
          silent_taintPhase envelope policy passes,
          silent_guardSteps host envelope state .auth 0 authQuiet, silent⟩

/-- The kernel stops at the first throw and returns what the panic handler makes of it. -/
theorem FirstThrow.adjudicateImpl_eq {phase : TracePhase} {index : Option Nat}
    {name : Option JsString} {err : Thrown}
    (first : FirstThrow host envelope state kill policy phase index name err) :
    ∃ passed : List AdjudicationTraceEntry, (∀ entry ∈ passed, entry.outcome = .pass) ∧
      ∀ traceOut, adjudicateImpl host envelope state kill policy traceOut =
        (guardPanicRefusal phase index name err (completedBases phase)).map fun decision =>
          (decision, push (traceOut.map (· ++ passed))
            { phase, index, guardName := name, outcome := .match }) := by
  obtain ⟨verified, passed, last, rest, split, silent, entry, outcome⟩ := first.split
  refine ⟨passed.map (·.entry .pass), ?_, fun traceOut => ?_⟩
  · intro recorded member
    obtain ⟨step, -, rfl⟩ := List.mem_map.mp member
    rfl
  · have same : last.phase = phase := congrArg AdjudicationTraceEntry.phase entry
    rw [adjudicateImpl_of_split host envelope state kill policy
      (not_hashMismatch host envelope kill verified) split silent traceOut, runSteps, outcome,
      guardPanicRefusal_enriched phase index name err (completedBases phase), entry, same]
    cases guardPanicRefusal phase index name err [] <;> rfl

theorem ThrowsAt.later {first guard : Guard S} {guards : List (Guard S)} {index : Nat} {err : Thrown}
    (quiet : first.run envelope state = .ok none)
    (thrown : ThrowsAt envelope state guards index guard err) :
    ThrowsAt envelope state (first :: guards) (index + 1) guard err := by
  obtain ⟨found, silent, raises⟩ := thrown
  refine ⟨found, ?_, raises⟩
  rw [AllSilent, List.take_succ_cons, firstOutcome, quiet]
  exact silent

/-- The guard loop returns when what it may throw is legible and what follows it returns. -/
theorem runSteps_guardSteps_returns (phase : TracePhase) {guards : List (Guard S)}
    {more : List Step}
    (legible : ∀ index guard err, ThrowsAt envelope state guards index guard err → Legible err)
    (rest : AllSilent envelope state guards → ∀ traceOut, ∃ answer, runSteps more traceOut = .ok answer)
    (start : Nat) (traceOut : Option (List AdjudicationTraceEntry)) :
    ∃ answer, runSteps (guardSteps host envelope state phase guards start ++ more) traceOut =
      .ok answer := by
  induction guards generalizing start traceOut with
  | nil => exact rest rfl traceOut
  | cons guard guards ih =>
      rw [guardSteps, List.cons_append, runSteps]
      cases run : guard.run envelope state with
      | error err =>
          have readable : Legible err := legible 0 guard err ⟨rfl, rfl, run⟩
          obtain ⟨refusal, detail, same, -⟩ :=
            @guardPanicRefusal_legible phase (some start) guard.name err [] readable
          rw [guardAnswer_panic host envelope state run, same]
          exact ⟨_, rfl⟩
      | ok opinion =>
          cases opinion with
          | some decision =>
              obtain ⟨gated, same⟩ := gateRewrite_returns host envelope decision
              rw [guardAnswer_speaks host envelope state run, same]
              exact ⟨_, rfl⟩
          | none =>
              rw [guardAnswer_silent host envelope state run]
              apply ih
              · exact fun index later err thrown =>
                  legible (index + 1) later err (thrown.later envelope state run)
              · intro silent
                apply rest
                rw [AllSilent, firstOutcome, run]
                exact silent

/-- A kernel that first throws only what the handler can read always returns. -/
theorem adjudicate_returns (legible : ∀ phase index name err,
    FirstThrow host envelope state kill policy phase index name err → Legible err) :
    ∃ decision, adjudicate host envelope state kill policy = .ok decision := by
  rw [adjudicate_eq_map]
  cases active : kill.active with
  | true =>
      rw [adjudicateImpl_eq_conclude, killStep, active]
      exact ⟨_, rfl⟩
  | false =>
      by_cases version : envelope.version = intentEnvelopeVersion
      · cases derived : deriveIntentHash host envelope with
        | error err =>
            obtain ⟨refusal, detail, same, -⟩ := @guardPanicRefusal_legible .schema none none err
              (completedBases .state) (legible_of_canonical derived)
            rw [adjudicateImpl_reaches_hash host envelope state policy none active version, hashStep,
              derived]
            dsimp only
            rw [same]
            exact ⟨_, rfl⟩
        | ok hash =>
            by_cases matching : hash = envelope.intentHash
            · have verified : Verified host envelope kill := ⟨active, version, matching ▸ derived⟩
              rw [← adjudicate_eq_map, adjudicate_verified host envelope state policy active version
                (matching ▸ derived)]
              have returns : ∃ answer, runSteps (verifiedSteps host envelope state policy) none =
                  .ok answer := by
                apply runSteps_guardSteps_returns
                · exact fun index guard err thrown => legible _ _ _ _ (.state verified thrown)
                intro quiet traceOut
                rw [runSteps]
                cases gate : taintGate envelope policy.taint with
                | error err =>
                    have readable : Legible err := legible _ _ _ _ (.taint verified quiet gate)
                    obtain ⟨refusal, detail, same, -⟩ :=
                      @guardPanicRefusal_legible .taint none none err [] readable
                    rw [taintPhase_panic envelope policy gate, same]
                    exact ⟨_, rfl⟩
                | ok allowed =>
                    obtain ⟨rankAllowed, taintAllowed⟩ := allowed
                    rw [taintPhase, gate]
                    cases taintAllowed with
                    | false => exact ⟨_, rfl⟩
                    | true =>
                        apply runSteps_guardSteps_returns
                        · exact fun index guard err thrown =>
                            legible _ _ _ _ (.auth verified quiet gate thrown)
                        intro authQuiet traceOut
                        apply runSteps_guardSteps_returns
                        · exact fun index guard err thrown =>
                            legible _ _ _ _ (.business verified quiet gate authQuiet thrown)
                        exact fun _ traceOut => ⟨_, rfl⟩
              obtain ⟨answer, same⟩ := returns
              exact ⟨answer.1, by rw [same]; rfl⟩
            · rw [adjudicateImpl_reaches_hash host envelope state policy none active version, hashStep,
                derived]
              change ∃ decision, (conclude (if hash ≠ envelope.intentHash then _ else _) _).map _ = _
              rw [if_pos matching]
              exact ⟨_, rfl⟩
      · rw [adjudicateImpl_eq_conclude, killStep, active]
        change ∃ decision, (conclude (versionStep envelope [] _) _).map _ = _
        rw [versionStep, if_pos version]
        exact ⟨_, rfl⟩

/-- The kernel refuses with the pass bases of the completed phases and one panic basis that names the
phase and the guard, and the trace shows no call after the guard. -/
def PanicRefused (phase : TracePhase) (index : Nat) (name : Option JsString) : Prop :=
  ∃ refusal detail passed,
    adjudicate host envelope state kill policy =
      .ok (.refuse refusal
        (completedBases phase ++ [basis .kernel BasisCodes.guardPanic (some detail)])) ∧
    refusal.kind = .security ∧ refusal.code = utf16 "guard_panic" ∧
    detail.lookup (utf16 "phase") = some (.str phase.text) ∧
    detail.lookup (utf16 "index") = some (.num (JsNumber.ofNat index)) ∧
    adjudicateWithTrace host envelope state kill policy = .ok {
      decision := .refuse refusal
        (completedBases phase ++ [basis .kernel BasisCodes.guardPanic (some detail)])
      trace := passed ++ [{ phase, index := some index, guardName := name, outcome := .match }] } ∧
    ∀ entry ∈ passed, entry.outcome = .pass

/-- The kernel returns on every throw and answers it as a panic exactly when the first thrown value
is one whose text can be read. -/
theorem panicTotal_iff :
    ((∃ decision, adjudicate host envelope state kill policy = .ok decision) ∧
      ∀ phase index name err,
        FirstThrow host envelope state kill policy phase (some index) name err →
          PanicRefused host envelope state kill policy phase index name) ↔
    ∀ phase index name err,
      FirstThrow host envelope state kill policy phase index name err → Legible err := by
  constructor
  · rintro ⟨⟨decision, returned⟩, -⟩ phase index name err first
    by_contra illegible
    obtain ⟨passed, -, same⟩ := first.adjudicateImpl_eq
    obtain ⟨raised, escapes⟩ := @guardPanicRefusal_illegible phase index name err
      (completedBases phase) illegible
    rw [adjudicate_eq_map, same none, escapes] at returned
    cases returned
  · intro legible
    refine ⟨adjudicate_returns host envelope state kill policy legible, ?_⟩
    intro phase index name err first
    obtain ⟨passed, passes, same⟩ := first.adjudicateImpl_eq
    obtain ⟨refusal, detail, refused, kind, code, named, numbered⟩ :=
      @guardPanicRefusal_legible phase (some index) name err (completedBases phase)
        (legible phase (some index) name err first)
    refine ⟨refusal, detail, passed, ?_, kind, code, named, numbered, ?_, passes⟩
    · rw [adjudicate_eq_map, same none, refused]
      rfl
    · rw [adjudicateWithTrace, same (some []), refused]
      rfl

end

/-- The text of the thrown value cannot be read, as for an object without a prototype. -/
def unprintableGuard : Guard Unit where
  metadataName := none
  functionName := "lookup"
  run _ _ := .error (.unprintable (.error "TypeError" "Cannot convert object to primitive value"))

/-- The value that the guard throws makes the panic handler itself throw. -/
theorem unprintableGuard_escapes :
    ¬((∃ decision, adjudicate sampleHost sampleEnvelope () releasedKill
        (systemOnlyPolicy [unprintableGuard]) = .ok decision) ∧
      ∀ phase index name err,
        FirstThrow sampleHost sampleEnvelope () releasedKill (systemOnlyPolicy [unprintableGuard])
            phase (some index) name err →
          PanicRefused sampleHost sampleEnvelope () releasedKill
            (systemOnlyPolicy [unprintableGuard]) phase index name) := by
  rintro ⟨⟨decision, returned⟩, -⟩
  have escapes : (adjudicate sampleHost sampleEnvelope () releasedKill
      (systemOnlyPolicy [unprintableGuard])).isOk = false := by
    decide +kernel
  rw [returned] at escapes
  cases escapes

end Adjudicate.Kernel
