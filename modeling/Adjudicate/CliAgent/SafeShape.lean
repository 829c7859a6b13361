/-
This file shows when a terminal command that executes has a provably safe shape.
-/

import Adjudicate.CliAgent.Policies
import Adjudicate.Primitives.RewriteFrame
import Adjudicate.Shell.ClampComposition

namespace Adjudicate.CliAgent

open Js Canonical Adjudicate.Core Adjudicate.Kernel Adjudicate.Primitives Adjudicate.Shell
open Adjudicate.Effect

/-- Command, arguments and directory have their types and name one literal, allowlisted program. -/
structure SafeShape (state : CliState) (envelope : IntentEnvelope) : Prop where
  command : ∃ command, envelope.payload.getOwn "command" = .str command
  args : envelope.payload.getOwn "args" = .undefined ∨
    ∃ args : List JsString, envelope.payload.getOwn "args" = .arr (args.map .str)
  literal : ∀ token ∈ commandOf envelope :: argsOf envelope, ∀ unit ∈ token,
    isShellMetacharacter unit = false
  bare : 0x2F ∉ programToken (commandOf envelope)
  allowlisted : programToken (commandOf envelope) ∈ state.allowlist
  program : programToken (commandOf envelope) ∉ execDelegatingPrograms
  unmarked : ∀ token ∈ commandOf envelope :: argsOf envelope, delegationArgMarker.test token = false
  unmatched : ∀ rule ∈ defaultCommandRules, rule.test (fullCommandOf envelope) = false
  cwd : envelope.payload.getOwn "cwd" = .undefined ∨
    (state.allowedCwds ≠ [] → ∃ cwd ∈ state.allowedCwds, envelope.payload.getOwn "cwd" = .str cwd)

/-- The arguments are texts, and so is the directory where directories are restricted. -/
structure FieldsTyped (state : CliState) (payload : JsValue) : Prop where
  args : payload.getOwn "args" = .undefined ∨
    ∃ args : List JsString, payload.getOwn "args" = .arr (args.map .str)
  cwd : payload.getOwn "cwd" = .undefined ∨ (∃ cwd, payload.getOwn "cwd" = .str cwd) ∨
    state.allowedCwds = []

/-- Only a command that no rule matches is classified as safe. -/
theorem classifyCommand_safe {command : JsString} {rules : List CommandRule}
    (safe : (classifyCommand command rules).disposition = .safe) :
    ∀ rule ∈ rules, rule.test command = false := by
  rw [classifyCommand] at safe
  split_ifs at safe with unmatched
  intro rule listed
  exact Bool.eq_false_of_not_eq_true
    (List.filter_eq_nil_iff.mp (List.length_eq_zero_iff.mp unmatched) rule listed)

theorem commandProgram_bare {command : JsString} (bare : 0x2F ∉ programToken command) :
    commandProgram command = programToken command := by
  rw [commandProgram, List.splitOn_eq_splitOnP, List.splitOnP_eq_singleton]
  · rfl
  · intro unit listed
    exact beq_eq_false_iff_ne.mpr fun same => bare (same ▸ listed)

theorem isProvablySafeShape_iff {command : JsString} {args : List JsString} :
    isProvablySafeShape command args = true ↔
      (∀ token ∈ command :: args, ∀ unit ∈ token, isShellMetacharacter unit = false) ∧
        0x2F ∉ programToken command ∧ programToken command ∉ execDelegatingPrograms ∧
        ∀ token ∈ command :: args, delegationArgMarker.test token = false := by
  have literal : ((command :: args).any fun token => token.any isShellMetacharacter) = false ↔
      ∀ token ∈ command :: args, ∀ unit ∈ token, isShellMetacharacter unit = false := by
    simp only [List.any_eq_false, Bool.not_eq_true]
  have unmarked : ((command :: args).any fun token => delegationArgMarker.test token) = false ↔
      ∀ token ∈ command :: args, delegationArgMarker.test token = false := by
    simp only [List.any_eq_false, Bool.not_eq_true]
  rw [isProvablySafeShape, ← literal, ← unmarked]
  split_ifs with expands slash
  · exact iff_of_false nofun fun both => Bool.false_ne_true (both.1.symm.trans expands)
  · exact iff_of_false nofun fun both => both.2.1 (List.contains_iff_mem.mp slash)
  · rw [delegatesExecution, Bool.not_eq_true', Bool.or_eq_false_iff]
    have program : execDelegatingPrograms.contains (programToken command) = false ↔
        programToken command ∉ execDelegatingPrograms := by
      rw [← List.contains_iff_mem, Bool.not_eq_true]
    rw [program]
    exact (and_iff_right (Bool.eq_false_of_not_eq_true expands)).symm.trans
      (and_congr_right' (and_iff_right (mt List.contains_iff_mem.mpr slash)).symm)

section Guards

variable {host : Host} {clock : JsString} {envelope : IntentEnvelope} {state : CliState}

theorem credential_opinions :
    Opinions (·.kind = .escalate) (escalateCredentialCommands.run envelope state) := by
  refine opinions_ite (fun _ => opinions_none) fun _ => ?_
  refine opinions_ite (fun _ => opinions_none) fun _ => ?_
  exact opinions_ite (fun _ => opinions_none) fun _ => opinions_answer rfl

/-- A rewriting sets the command of the payload. -/
theorem risk_rewrites {rewritten : IntentEnvelope} {reason : JsString} {bases : List DecisionBasis}
    (rewrites : (commandRisk host clock).run envelope state =
      .ok (some (.rewrite rewritten reason bases))) :
    ∃ command, remint host clock envelope
      (withField envelope.payload "command" (.str command)) = .ok rewritten := by
  obtain ⟨command, -, decided⟩ := createCommandRiskGuard_answers rewrites
  exact ⟨_, (answerCommand_rewrite decided).2.1⟩

theorem maintenance_opinions :
    Opinions (·.kind = .defer) (deferDuringMaintenance.run envelope state) :=
  opinions_bind fun _ _ => opinions_ite (fun _ => opinions_none) fun _ => opinions_answer rfl

theorem deny_opinions : Opinions (·.kind = .refuse) (terminalDefaultDeny.run envelope state) := by
  intro decision speaks
  rw [terminalDefaultDeny, named] at speaks
  dsimp only at speaks
  split_ifs at speaks
  · cases speaks
    rfl
  · cases speaks

/-- What the last business guard has checked. -/
structure Checked (state : CliState) (envelope : IntentEnvelope) : Prop where
  unmatched : (classifyCommand (fullCommandOf envelope) defaultCommandRules).disposition = .safe
  shape : isProvablySafeShape (commandOf envelope) (argsOf envelope) = true
  allowlisted : commandProgram (commandOf envelope) ∈ state.allowlist

theorem allowlisted_opinions : Opinions
    (fun decision => decision.kind = .execute ∧ Checked state envelope)
    (executeAllowlistedSafe.run envelope state) := by
  refine opinions_ite (fun _ => opinions_none) fun _ => ?_
  refine opinions_ite (fun _ => opinions_none) fun _ => ?_
  refine opinions_ite (fun _ => opinions_none) fun unmatched => ?_
  refine opinions_ite (fun _ => opinions_none) fun shape => ?_
  refine opinions_ite (fun _ => opinions_none) fun allowlisted => opinions_answer ⟨rfl, ?_⟩
  exact ⟨not_not.mp unmatched, by simpa using shape, not_not.mp allowlisted⟩

theorem validated_refuses {decision : Decision}
    (speaks : validateTerminalPayload.run envelope state = .ok (some decision)) :
    decision.kind = .refuse := by
  simp only [validateTerminalPayload, named] at speaks
  split_ifs at speaks
  · cases speaks
  · split at speaks
    · split_ifs at speaks
      · cases speaks
        rfl
      · split at speaks
        · split_ifs at speaks
          · cases speaks
            rfl
          · cases speaks
        · cases speaks
    · cases speaks
      rfl

/-- The state guard lets through a command and a directory that it knows. -/
theorem validated (request : envelope.kind = utf16 "terminal.run")
    (silent : validateTerminalPayload.run envelope state = .ok none) :
    (∃ command, envelope.payload.getOwn "command" = .str command) ∧
      ∀ cwd, envelope.payload.getOwn "cwd" = .str cwd →
        state.allowedCwds = [] ∨ cwd ∈ state.allowedCwds := by
  simp only [validateTerminalPayload, named, request, ne_eq, not_true_eq_false, if_false] at silent
  split at silent
  · rename_i command held
    refine ⟨⟨command, held⟩, fun cwd directory => ?_⟩
    split_ifs at silent
    · cases silent
    · simp only [directory] at silent
      split_ifs at silent with outside
      · cases silent
      · simp only [not_and, not_not] at outside
        refine or_iff_not_imp_left.mpr fun restricted => outside ?_
        exact List.length_pos_iff.mpr restricted
  · cases silent

end Guards

section Kernel

variable {host : Host} {clock : JsString} {envelope : IntentEnvelope} {state : CliState}
  {kill : KillSwitchState} {wanted : Decision → Prop}

theorem cli_yields (actionable : Actionable wanted) (request : envelope.kind = utf16 "terminal.run")
    (yields : Yields wanted
      (adjudicate host envelope state kill (cliAgentPolicyBundle host clock))) :
    Admitted host envelope state kill (cliAgentPolicyBundle host clock) ∧
      ((∃ command, envelope.payload.getOwn "command" = .str command) ∧
        ∀ cwd, envelope.payload.getOwn "cwd" = .str cwd →
          state.allowedCwds = [] ∨ cwd ∈ state.allowedCwds) ∧
      Gives wanted
        (firstOutcome envelope state (cliAgentPolicyBundle host clock).business) := by
  have stateNever : ∀ guard ∈ (cliAgentPolicyBundle host clock).stateGuards,
      ¬Gives wanted (guard.run envelope state) :=
    List.forall_mem_singleton.mpr
      (never_of_kind actionable.not_refuse fun decision speaks => validated_refuses speaks)
  have authNever : ∀ guard ∈ (cliAgentPolicyBundle host clock).authGuards,
      ¬Gives wanted (guard.run envelope state) :=
    List.forall_mem_singleton.mpr
      (never_of_kind actionable.not_refuse createInjectedAuthorityGuard_refuses)
  obtain ⟨admitted, speaks⟩ := (business_gives_iff actionable stateNever authNever rfl).mp yields
  have silent := admitted.stateGuards
  rw [cliAgentPolicyBundle, silent_cons_iff] at silent
  exact ⟨admitted, validated request silent.1, gives_of_speaks actionable speaks⟩

/-- Only a command that the last guard has checked executes. -/
theorem checked_of_executes
    (gives : Gives (·.kind = .execute)
      (firstOutcome envelope state (cliAgentPolicyBundle host clock).business)) :
    Checked state envelope := by
  have risk : ¬Gives (·.kind = .execute) ((commandRisk host clock).run envelope state) := by
    rintro ⟨decision, speaks, executes⟩
    obtain refuses | asks | rewrites := createCommandRiskGuard_kinds speaks
    · cases executes.symm.trans refuses
    · cases executes.symm.trans asks
    · cases executes.symm.trans rewrites
  rw [cliAgentPolicyBundle,
    gives_later_iff (never_of_opinions credential_opinions fun _ same => same ▸ nofun),
    gives_later_iff risk,
    gives_later_iff (never_of_opinions maintenance_opinions fun _ same => same ▸ nofun),
    gives_cons_iff] at gives
  obtain ⟨-, -, -, ⟨decision, speaks, -⟩ | ⟨-, later⟩⟩ := gives
  · exact (allowlisted_opinions decision speaks).2
  · rw [gives_later_iff (never_of_opinions deny_opinions fun _ same => same ▸ nofun)] at later
    exact (not_gives_nil later.2).elim

/-- A checked command has a safe shape exactly when its other fields have their types. -/
theorem safeShape_iff (checked : Checked state envelope)
    (valid : (∃ command, envelope.payload.getOwn "command" = .str command) ∧
      ∀ cwd, envelope.payload.getOwn "cwd" = .str cwd →
        state.allowedCwds = [] ∨ cwd ∈ state.allowedCwds) :
    SafeShape state envelope ↔ FieldsTyped state envelope.payload := by
  obtain ⟨unmatched, shape, allowlisted⟩ := checked
  obtain ⟨literal, bare, program, unmarked⟩ := isProvablySafeShape_iff.mp shape
  rw [commandProgram_bare bare] at allowlisted
  constructor
  · intro safe
    refine ⟨safe.args, safe.cwd.imp_right fun member => or_iff_not_imp_right.mpr fun restricted => ?_⟩
    obtain ⟨cwd, -, held⟩ := member restricted
    exact ⟨cwd, held⟩
  · intro typed
    refine ⟨valid.1, typed.args, literal, bare, allowlisted, program, unmarked,
      classifyCommand_safe unmatched, typed.cwd.imp_right fun texts restricted => ?_⟩
    obtain ⟨cwd, held⟩ := texts.resolve_right restricted
    exact ⟨cwd, (valid.2 cwd held).resolve_left restricted, held⟩

/-- Setting the command leaves the other fields of the payload. -/
theorem fieldsTyped_rewritten {rewritten : IntentEnvelope} {reason : JsString}
    {bases : List DecisionBasis} (json : envelope.payload.IsJson)
    (object : ∃ command, envelope.payload.getOwn "command" = .str command)
    (rewrites : (commandRisk host clock).run envelope state =
      .ok (some (.rewrite rewritten reason bases))) :
    rewritten.kind = envelope.kind ∧
      (FieldsTyped state rewritten.payload ↔ FieldsTyped state envelope.payload) := by
  obtain ⟨command, minted⟩ := risk_rewrites rewrites
  obtain ⟨fields, -⟩ := remint_fields minted
  have kind := congrArg HashedFields.kind fields
  have payload := congrArg HashedFields.payload fields
  refine ⟨kind, ?_⟩
  obtain ⟨own, held⟩ := object
  cases same : envelope.payload with
  | obj props =>
      rw [same] at json payload
      have field (key : JsString) := getOwn_withField json.1 "command" key (.str command)
      have args := (congrArg (·.getOwn "args") payload).trans
        ((field "args").trans (if_neg (by decide)))
      have cwd := (congrArg (·.getOwn "cwd") payload).trans ((field "cwd").trans (if_neg (by decide)))
      constructor
      · rintro ⟨texts, directory⟩
        exact ⟨args ▸ texts, cwd ▸ directory⟩
      · rintro ⟨texts, directory⟩
        exact ⟨args ▸ texts, cwd ▸ directory⟩
  | _ =>
      rw [same] at held
      cases held

/-- Only the risk guard rewrites. -/
theorem risk_of_rewrites {rewritten : IntentEnvelope}
    (gives : Gives (fun decision => ∃ reason bases, decision = .rewrite rewritten reason bases)
      (firstOutcome envelope state (cliAgentPolicyBundle host clock).business)) :
    ∃ reason bases, (commandRisk host clock).run envelope state =
      .ok (some (.rewrite rewritten reason bases)) := by
  have other {kind : DecisionKind} (plain : kind ≠ .rewrite) (decision : Decision)
      (same : decision.kind = kind) :
      ¬∃ reason bases, decision = .rewrite rewritten reason bases := by
    rintro ⟨_, _, rfl⟩
    exact plain same.symm
  rw [cliAgentPolicyBundle, gives_later_iff (never_of_opinions credential_opinions (other nofun)),
    gives_cons_iff] at gives
  obtain ⟨-, ⟨_, speaks, reason, bases, rfl⟩ | ⟨-, later⟩⟩ := gives
  · exact ⟨reason, bases, speaks⟩
  · rw [gives_later_iff (never_of_opinions maintenance_opinions (other nofun)),
      gives_later_iff (never_of_opinions allowlisted_opinions fun decision held =>
        @other .execute nofun decision held.1),
      gives_later_iff (never_of_opinions deny_opinions (other nofun))] at later
    exact (not_gives_nil later.2.2.2).elim

end Kernel

section Runs

variable {host : Host} {clock : JsString} {call : Call CliState} {trace : List ShellEvent}
  {result : AdjudicateAndAuditResult}

/-- A terminal command that executes has a safe shape exactly when its fields have their types. -/
theorem terminal_safe_iff (policy : call.policy = cliAgentPolicyBundle host clock)
    (request : call.envelope.kind = utf16 "terminal.run") (json : call.envelope.payload.IsJson)
    (unreceipted : call.deps.confirmationReceipt = none) (ungranted : call.deps.budgetGrant = none)
    (run : Runs (adjudicateAndAudit host call) trace (.ok result)) (executes : result.Executing) :
    SafeShape call.state result.record.envelope ↔ FieldsTyped call.state call.envelope.payload := by
  have cases := executing_cases host call run executes
  rw [policy] at cases
  obtain ⟨⟨bases, first⟩, recorded⟩ | ⟨-, ⟨_, held, -⟩ | ⟨_, held, -⟩, -⟩ |
    ⟨reason, bases, second, first, again⟩ := cases
  · obtain ⟨-, valid, gives⟩ := cli_yields actionable_execute request ⟨_, first, rfl⟩
    rw [recorded]
    exact safeShape_iff (checked_of_executes gives) valid
  · rw [unreceipted] at held
    cases held
  · rw [ungranted] at held
    cases held
  · obtain ⟨-, valid, gives⟩ :=
      cli_yields (actionable_rewritesTo result.record.envelope) request ⟨_, first, _, _, rfl⟩
    obtain ⟨_, _, rewrites⟩ := risk_of_rewrites gives
    obtain ⟨kind, same⟩ := fieldsTyped_rewritten json valid.1 rewrites
    obtain ⟨-, valid, gives⟩ := cli_yields actionable_execute (kind.trans request) ⟨_, again, rfl⟩
    rw [safeShape_iff (checked_of_executes gives) valid, same]

end Runs

def terminalText (args : JsString) : JsString :=
  utf16 "\x7b\"actor\":\x7b\"principal\":\"llm\",\"sessionId\":\"s-1\"\x7d,\"kind\":\"terminal.run\"," ++
    utf16 "\"nonce\":\"n-1\",\"origin\":\"LLM\",\"payload\":\x7b\"args\":" ++ args ++
    utf16 ",\"command\":\"ls\",\"cwd\":\"/srv\"\x7d,\"taint\":\"UNTRUSTED\",\"version\":2\x7d"

/-- The digests of the two commands are their SHA-256 digests. -/
def terminalHost : Host := .ofDigests
  [(terminalText "[\"-l\"]", "42b3149d6e2d9330a48fa6ebbb2b5469483e3330ec827c5ed857583bddf33b0c"),
    (terminalText "[[\"/etc/shadow\"]]",
      "610ddc66e609b0dcbd97149e8dc85687f05672afc0243c497e3daef764af031c")]

def terminalRun (arg : JsValue) (intentHash : JsString) : IntentEnvelope where
  version := 2
  kind := "terminal.run"
  payload := .obj [("args", .arr [arg]), ("command", .str "ls"), ("cwd", .str "/srv")]
  nonce := "n-1"
  actor := { principal := .llm, sessionId := "s-1", role := none, attestation := none }
  taint := .untrusted
  origin := .llm
  resourceRefs := none
  createdAt := "2026-01-01T00:00:00.000Z"
  intentHash := intentHash

def plainListing : IntentEnvelope :=
  terminalRun (.str "-l") "42b3149d6e2d9330a48fa6ebbb2b5469483e3330ec827c5ed857583bddf33b0c"

/-- The argument is a list, which no guard reads. -/
def nestedListing : IntentEnvelope :=
  terminalRun (.arr [.str "/etc/shadow"])
    "610ddc66e609b0dcbd97149e8dc85687f05672afc0243c497e3daef764af031c"

def listingCall (envelope : IntentEnvelope) : Call CliState where
  envelope := envelope
  state := { allowlist := ["ls"], allowedCwds := ["/srv"], maintenanceActive := false, authority := none }
  policy := cliAgentPolicyBundle terminalHost "2026-01-01T00:00:00.000Z"
  kill := releasedKill
  deps := sampleDeps

theorem terminal_safe_plainListing :
    ∃ trace result, Runs (adjudicateAndAudit terminalHost (listingCall plainListing)) trace
        (.ok result) ∧
      (SafeShape (listingCall plainListing).state result.record.envelope ↔
        FieldsTyped (listingCall plainListing).state plainListing.payload) := by
  obtain ⟨trace, result, run, kind⟩ := @calm_run _ _ terminalHost (listingCall plainListing)
    (·.decision.kind) .execute (by decide +kernel)
  have json : plainListing.payload.IsJson :=
    ⟨by decide +kernel, fun _ => ⟨trivial, trivial⟩, fun _ => trivial, fun _ => trivial, trivial⟩
  exact ⟨trace, result, run, @terminal_safe_iff terminalHost "2026-01-01T00:00:00.000Z"
    (listingCall plainListing) trace result rfl rfl json rfl rfl run
    ((executing_iff_kind terminalHost _ run).mpr (.inl kind))⟩

def firstArgListed (envelope : IntentEnvelope) : Bool :=
  match envelope.payload.getOwn "args" with
  | .arr (.arr _ :: _) => true
  | _ => false

/-- A command executes although its argument is no text. -/
theorem nestedListing_executes :
    ∃ trace result, Runs (adjudicateAndAudit terminalHost (listingCall nestedListing)) trace
        (.ok result) ∧
      result.Executing ∧ ¬SafeShape (listingCall nestedListing).state result.record.envelope := by
  obtain ⟨trace, result, run, view⟩ := @calm_run _ _ terminalHost (listingCall nestedListing)
    (fun result => (result.decision.kind, firstArgListed result.record.envelope)) (.execute, true)
    (by decide +kernel)
  obtain ⟨kind, listed⟩ := Prod.mk.inj view
  refine ⟨trace, result, run, (executing_iff_kind terminalHost _ run).mpr (.inl kind), fun safe => ?_⟩
  obtain absent | ⟨args, texts⟩ := safe.args
  · rw [firstArgListed, absent] at listed
    cases listed
  · rw [firstArgListed, texts] at listed
    cases args <;> cases listed

end Adjudicate.CliAgent
