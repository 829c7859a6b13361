/-
This file models the guards of the terminal pack.
-/

import Adjudicate.Primitives.CommandRules
import Adjudicate.Primitives.GuardFactories

namespace Adjudicate.CliAgent

open Js Canonical Adjudicate.Core Adjudicate.Kernel Adjudicate.Primitives Pattern

/-- Both sets are lists without regard to the order. -/
structure CliState where
  allowlist : List JsString
  allowedCwds : List JsString
  maintenanceActive : Bool
  authority : Option InjectedAuthority

def cliMaintenanceSignal : JsString := "pack-cli-agent:maintenance_window"

def cliDefaultDeferTimeoutMs : JsNumber := 900000

def cliTaintPolicy : TaintPolicy := createSystemTaintPolicy []

def trim (text : JsString) : JsString := trimEnd (text.dropWhile isWhiteSpace)

/-- This is `command.trim().split(/\s+/)[0]`. -/
def programToken (command : JsString) : JsString := (trim command).takeWhile (!isWhiteSpace ·)

def commandProgram (command : JsString) : JsString :=
  ((programToken command).splitOn 0x2F).getLast?.getD (programToken command)

def textOf : JsValue → Option JsString
  | .str text => some text
  | _ => none

/-- A field of a payload that is no object is absent. -/
def commandOf (envelope : IntentEnvelope) : JsString :=
  match envelope.payload.getOwn "command" with
  | .str command => command
  | _ => []

def argsOf (envelope : IntentEnvelope) : List JsString :=
  match envelope.payload.getOwn "args" with
  | .arr items => items.filterMap textOf
  | _ => []

def fullCommandOf (envelope : IntentEnvelope) : JsString :=
  if 0 < (argsOf envelope).length then
    List.intercalate (utf16 " ") (commandOf envelope :: argsOf envelope)
  else commandOf envelope

def isShellMetacharacter (unit : CodeUnit) : Bool :=
  unit = 0x0A || unit = 0x0D || (utf16 "`$;&|<>()\x7b\x7d\\'\"*?~").contains unit

def execDelegatingPrograms : List JsString :=
  ["env", "xargs", "timeout", "nohup", "nice", "setsid", "stdbuf", "watch", "time",
    "ionice", "chroot", "unshare", "flock", "sudo", "doas", "su", "ssh", "script",
    "expect", "socat", "parallel", "rlwrap", "run-parts", "busybox",
    "sh", "bash", "zsh", "dash", "ksh", "fish", "csh", "tcsh", "pwsh", "powershell",
    "node", "deno", "bun", "python", "python2", "python3", "perl", "ruby", "php",
    "lua", "tclsh", "wish", "awk", "gawk", "nawk", "rscript",
    "gdb", "lldb", "vi", "vim", "nvim", "view", "ex", "less", "more", "man",
    "emacs", "make", "cmake", "screen", "tmux"]

def delegationArgMarker : Pattern :=
  oneOf
    (sequence [.alt .start (literal "="),
      oneOf (anyCase "exec") [anyCase "run", anyCase "command"], literal "="])
    [sequence [literal "-", optional (literal "-"), anyCase "exec", optional (anyCase "dir"),
        .wordBoundary],
      sequence [anyCase "--checkpoint-action", .wordBoundary],
      sequence [anyCase "--to-command", .wordBoundary],
      sequence [anyCase "--to-program", .wordBoundary],
      sequence [literal "--", optional (anyCase "use-"), anyCase "compress-program", .wordBoundary],
      sequence [anyCase "--rsh", .wordBoundary], sequence [anyCase "--pager", .wordBoundary],
      sequence [anyCase "--editor", .wordBoundary], sequence [anyCase "core.pager", .wordBoundary],
      sequence [.wordBoundary, anyCase "alias."], sequence [anyCase "ProxyCommand", .wordBoundary]]

def delegatesExecution (program command : JsString) (args : List JsString) : Bool :=
  execDelegatingPrograms.contains program ||
    (command :: args).any fun token => delegationArgMarker.test token

def isProvablySafeShape (command : JsString) (args : List JsString) : Bool :=
  if (command :: args).any fun token => token.any isShellMetacharacter then false
  else if (programToken command).contains 0x2F then false
  else !delegatesExecution (programToken command) command args

def validateTerminalPayload : Guard CliState :=
  named "validateTerminalPayload" fun envelope state => do
    if envelope.kind ≠ utf16 "terminal.run" then return none
    match envelope.payload.getOwn "command" with
    | .str command =>
        if (trim command).length = 0 then return some payloadInvalid
    | _ => return some payloadInvalid
    match envelope.payload.getOwn "cwd" with
    | .str cwd =>
        if 0 < state.allowedCwds.length ∧ cwd ∉ state.allowedCwds then
          return some (.refuse
            (refuse .businessRule "cwd_not_allowed" "I can't run a command in that directory."
              (some (utf16 "cwd " ++ cwd ++ utf16 " not allowlisted")))
            [basis .business "rule_violated" (some [("rule", "cwd_allowlist"), ("cwd", .str cwd)])])
    | _ => pure ()
    return none
where
  payloadInvalid : Decision :=
    .refuse
      (refuse .state "command_payload_invalid" "I can't run that command."
        (some "missing or empty command"))
      [basis .schema "payload_invalid" (some [("field", "command")])]

def escalateCredentialCommands : Guard CliState :=
  named "escalateCredentialCommands" fun envelope _ => do
    if envelope.kind ≠ utf16 "terminal.run" then return none
    let command := fullCommandOf envelope
    if command.length = 0 then return none
    let classification := classifyCommand command defaultCommandRules
    if classification.category ≠ .credential then return none
    return some (.escalate .human
      (utf16 "Credential-touching command requires human review: " ++
        joined classification.matchedRuleIds)
      [basis .business "rule_satisfied"
        (some [("rule", "credential_escalation"), ("category", .str classification.category.text),
          ("matchedRuleIds", texts classification.matchedRuleIds), ("command", .str command)])])

/-- The guard reads the command with its arguments and rewrites the command alone. -/
def commandRiskOptions : CommandRiskGuardOptions CliState where
  applies envelope _ := .ok (envelope.kind = utf16 "terminal.run")
  extractCommand envelope _ := .ok (some (fullCommandOf envelope))
  commandField := "command"
  rules := defaultCommandRules
  flagStripRules := defaultFlagStripRules
  allow := none
  prompt := none
  refusalUserFacing := none

def commandRisk (host : Host) (clock : JsString) : Guard CliState :=
  { createCommandRiskGuard host clock commandRiskOptions with metadataName := some "commandRisk" }

def deferDuringMaintenance : Guard CliState :=
  { createStateDeferGuard
      { applies := fun envelope state =>
          .ok (envelope.kind = utf16 "terminal.run" && state.maintenanceActive)
        signal := cliMaintenanceSignal
        timeoutMs := cliDefaultDeferTimeoutMs
        basis := [basis .state "transition_valid"
          (some [("reason", "maintenance_window"), ("waitFor", .str cliMaintenanceSignal)])] } with
    metadataName := some "deferDuringMaintenance" }

def executeAllowlistedSafe : Guard CliState :=
  named "executeAllowlistedSafe" fun envelope state => do
    if envelope.kind ≠ utf16 "terminal.run" then return none
    let command := commandOf envelope
    if command.length = 0 then return none
    if (classifyCommand (fullCommandOf envelope) defaultCommandRules).disposition ≠ .safe then
      return none
    if !isProvablySafeShape command (argsOf envelope) then return none
    let program := commandProgram command
    if program ∉ state.allowlist then return none
    return some (.execute [basis .business "rule_satisfied"
      (some [("rule", "allowlisted_safe"), ("program", .str program)])])

def terminalDefaultDeny : Guard CliState :=
  named "terminalDefaultDeny" fun envelope _ =>
    .ok (if envelope.kind = utf16 "terminal.run" then
      some (.refuse
        (refuse .security "command_default_deny" "I can't run that command."
          (some "not provably safe and allowlisted"))
        [basis .validation "command_blocked" (some [("rule", "default_deny")])])
    else none)

def cliAuthorityGatedKinds : List JsString := ["terminal.run"]

def enforceResourceOwnership : Guard CliState :=
  createInjectedAuthorityGuard CliState.authority cliAuthorityGatedKinds

def cliAgentPolicyBundle (host : Host) (clock : JsString) : PolicyBundle CliState where
  stateGuards := [validateTerminalPayload]
  authGuards := [enforceResourceOwnership]
  taint := cliTaintPolicy
  business := [escalateCredentialCommands, commandRisk host clock, deferDuringMaintenance,
    executeAllowlistedSafe, terminalDefaultDeny]
  default := .refuse

end Adjudicate.CliAgent
