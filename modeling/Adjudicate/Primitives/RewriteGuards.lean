/-
This file models the guard factories that rewrite an envelope.
-/

import Adjudicate.Js.Coercion
import Adjudicate.Js.Path
import Adjudicate.Kernel.Policy

namespace Adjudicate.Primitives

open Js Canonical Adjudicate.Core Adjudicate.Kernel

/-- The three factories list these fields by hand when they mint the rewritten envelope. -/
def remint (host : Host) (clock : JsString) (envelope : IntentEnvelope) (payload : JsValue) :
    Except Thrown IntentEnvelope :=
  buildEnvelope host clock
    { kind := envelope.kind
      payload := payload
      actor := envelope.actor
      taint := envelope.taint
      nonce := envelope.nonce
      createdAt := some envelope.createdAt
      origin := none
      resourceRefs := none }

/-- This is the literal `{ ...payload, [field]: value }`. -/
def withField (payload : JsValue) (field : JsString) (value : JsValue) : JsValue :=
  .obj (setOwn (spreadInto [] payload.ownProps) field value)

/-- A cap is a number or a function of the state and the envelope. -/
inductive Cap (S : Type) where
  | fixed (value : JsNumber)
  | computed (cap : S → IntentEnvelope → Except Thrown JsNumber)

def Cap.value {S : Type} (cap : Cap S) (state : S) (envelope : IntentEnvelope) :
    Except Thrown JsNumber :=
  match cap with
  | .fixed value => .ok value
  | .computed cap => cap state envelope

structure RewriteGuardOptions (S : Type) where
  applies : IntentEnvelope → S → Except Thrown Bool
  extract : IntentEnvelope → S → Except Thrown (Option JsNumber)
  cap : Cap S
  mutateField : JsString
  reason : JsString
  basis : Option (JsNumber → JsNumber → IntentEnvelope → Except Thrown (List DecisionBasis))

def RewriteGuardOptions.basisList {S : Type} (options : RewriteGuardOptions S)
    (requested capValue : JsNumber) (envelope : IntentEnvelope) :
    Except Thrown (List DecisionBasis) :=
  match options.basis with
  | some basis => basis requested capValue envelope
  | none =>
      .ok [Core.basis .business "quantity_capped"
        (some [("field", .str options.mutateField), ("requested", .num requested),
          ("cappedTo", .num capValue)])]

def createRewriteGuard {S : Type} (host : Host) (clock : JsString)
    (options : RewriteGuardOptions S) : Guard S where
  metadataName := none
  functionName := "guard"
  run envelope state := do
    if !(← options.applies envelope state) then return none
    match ← options.extract envelope state with
    | none => return none
    | some requested =>
        let capValue ← options.cap.value state envelope
        if requested.atMost capValue then return none
        let rewritten ← remint host clock envelope
          (withField envelope.payload options.mutateField (.num capValue))
        let basisList ← options.basisList requested capValue envelope
        return some (.rewrite rewritten options.reason basisList)

/-- A pattern tests a text and replaces each of its matches. -/
structure RegExp where
  test : JsString → Bool
  replaceAll : JsString → (JsString → Except Thrown JsString) → Except Thrown JsString

structure DataClassificationPattern where
  id : JsString
  pattern : RegExp
  redact : Option (JsString → Except Thrown JsString)

inductive ClassificationAction where
  | rewrite
  | refuse
deriving DecidableEq

inductive SensitivityLevel where
  | low
  | medium
  | high
  | critical
deriving DecidableEq

def SensitivityLevel.text : SensitivityLevel → JsString
  | .low => "low"
  | .medium => "medium"
  | .high => "high"
  | .critical => "critical"

structure DataClassificationGuardOptions (S : Type) where
  applies : IntentEnvelope → S → Except Thrown Bool
  patterns : List DataClassificationPattern
  scannedFields : List JsString
  action : ClassificationAction
  sensitivityLevel : SensitivityLevel
  maxInputLength : Option JsNumber
  reason : Option JsString
  userFacing : Option JsString

def defaultRedactToken : JsString := "[REDACTED]"

/-- A dotted path is split at its full stops. -/
def pathSegments (field : JsString) : List JsString := field.splitOn 0x2E

/-- A prototype holds no text, so a text is only found among the own children. -/
def getPath (payload : JsValue) (field : JsString) : JsValue :=
  (payload.walk (pathSegments field)).getD .undefined

structure FieldScan where
  detectedPatterns : List JsString
  fieldMatched : Bool
  redacted : JsString

/-- The pattern is tested on the original text and applied to the text redacted so far. -/
def scanPattern (action : ClassificationAction) (value : JsString) (scan : FieldScan)
    (pattern : DataClassificationPattern) : Except Thrown FieldScan :=
  if pattern.pattern.test value then do
    let redacted ←
      if action = .rewrite then
        pattern.pattern.replaceAll scan.redacted
          (pattern.redact.getD fun _ => .ok defaultRedactToken)
      else .ok scan.redacted
    return {
      detectedPatterns :=
        if pattern.id ∈ scan.detectedPatterns then scan.detectedPatterns
        else scan.detectedPatterns ++ [pattern.id]
      fieldMatched := true
      redacted := redacted }
  else .ok scan

structure PayloadScan where
  detectedPatterns : List JsString
  redactedFields : List JsString
  clone : Option JsValue

/-- The clone of the payload is made when the first field matches. -/
def scanField {S : Type} (options : DataClassificationGuardOptions S) (payload : JsValue)
    (scan : PayloadScan) (field : JsString) : Except Thrown PayloadScan :=
  match getPath payload field with
  | .str value =>
      if (options.maxInputLength.map fun limit => limit.passed value.length) = some true then
        .ok scan
      else do
        let found ← options.patterns.foldlM (scanPattern options.action value)
          ⟨scan.detectedPatterns, false, value⟩
        if found.fieldMatched then
          return {
            detectedPatterns := found.detectedPatterns
            redactedFields := scan.redactedFields ++ [field]
            clone :=
              if options.action = .rewrite then
                some ((scan.clone.getD payload).putPath (pathSegments field) (.str found.redacted))
              else scan.clone }
        else return { scan with detectedPatterns := found.detectedPatterns }
  | _ => .ok scan

def scanPayload {S : Type} (options : DataClassificationGuardOptions S) (payload : JsValue) :
    Except Thrown PayloadScan :=
  options.scannedFields.foldlM (scanField options payload) ⟨[], [], none⟩

def joined (texts : List JsString) : JsString := List.intercalate ", " texts

def texts (items : List JsString) : JsValue := .arr (items.map .str)

/-- The construction refuses an empty list of fields and patterns that backtrack. -/
def createDataClassificationGuard {S : Type} (host : Host) (clock : JsString)
    (options : DataClassificationGuardOptions S) : Guard S where
  metadataName := none
  functionName := "guard"
  run envelope state := do
    if !(← options.applies envelope state) then return none
    if !envelope.payload.isObject then return none
    let scan ← scanPayload options envelope.payload
    if scan.detectedPatterns = [] then return none
    match options.action with
    | .refuse =>
        return some (.refuse
          (refuse .security "pii_blocked" (options.userFacing.getD "I can't process that data.")
            (some (utf16 "detected " ++ joined scan.detectedPatterns ++ utf16 " in " ++
              joined scan.redactedFields)))
          [basis .validation "pii_blocked"
            (some [("sensitivityLevel", .str options.sensitivityLevel.text),
              ("detectedPatterns", texts scan.detectedPatterns),
              ("fields", texts scan.redactedFields)])])
    | .rewrite =>
        let rewritten ← remint host clock envelope (scan.clone.getD envelope.payload)
        return some (.rewrite rewritten
          (options.reason.getD "Redacted classified data from payload.")
          [basis .validation "pii_redacted"
            (some [("sensitivityLevel", .str options.sensitivityLevel.text),
              ("detectedPatterns", texts scan.detectedPatterns),
              ("redactedFields", texts scan.redactedFields)])])

inductive CommandRiskCategory where
  | destructive
  | network
  | credential
  | safe
deriving DecidableEq

def CommandRiskCategory.text : CommandRiskCategory → JsString
  | .destructive => "destructive"
  | .network => "network"
  | .credential => "credential"
  | .safe => "safe"

inductive CommandSeverity where
  | refuse
  | confirm
deriving DecidableEq

structure CommandRule where
  category : CommandRiskCategory
  id : JsString
  test : JsString → Bool
  severity : CommandSeverity

inductive CommandDisposition where
  | refuse
  | confirm
  | safe
deriving DecidableEq

structure CommandClassification where
  category : CommandRiskCategory
  matchedRuleIds : List JsString
  disposition : CommandDisposition

/-- A destructive rule outranks a credential rule, and that one a network rule. -/
def classifyCommand (command : JsString) (rules : List CommandRule) : CommandClassification :=
  let matched := rules.filter fun rule => rule.test command
  if matched.length = 0 then ⟨.safe, [], .safe⟩
  else
    { category :=
        if matched.any fun rule => rule.category = .destructive then .destructive
        else if matched.any fun rule => rule.category = .credential then .credential
        else .network
      matchedRuleIds := matched.map CommandRule.id
      disposition :=
        if matched.any fun rule => rule.severity = .refuse then .refuse else .confirm }

def atBoundary (text : JsString) : Bool := text.head?.all isWhiteSpace

/-- The flag stands at the start of the text and ends at a boundary. -/
def flagHere (flag text : JsString) : Bool :=
  flag.isPrefixOf text && atBoundary (text.drop flag.length)

/-- A flag after white space goes and the white space before it stays. -/
def dropFlag (flag : JsString) : Nat → JsString → JsString
  | _, [] => []
  | skip + 1, _ :: rest => dropFlag flag skip rest
  | 0, unit :: rest =>
      if isWhiteSpace unit && flagHere flag rest then unit :: dropFlag flag flag.length rest
      else unit :: dropFlag flag 0 rest

def replaceFlag (flag text : JsString) : JsString :=
  if flagHere flag text then dropFlag flag flag.length text else dropFlag flag 0 text

def hasFlag (flag : JsString) (text : JsString) : Bool :=
  flagHere flag text ||
    text.tails.any fun tail =>
      match tail with
      | unit :: rest => isWhiteSpace unit && flagHere flag rest
      | [] => false

/-- A run of at least two white spaces becomes one space. -/
def collapseSpaces (text : JsString) : JsString :=
  (text.splitBy fun left right => isWhiteSpace left = isWhiteSpace right).flatMap fun run =>
    if run.head?.any isWhiteSpace && 2 ≤ run.length then [0x20] else run

def trimEnd (text : JsString) : JsString := text.rdropWhile isWhiteSpace

structure FlagStripRule where
  flag : JsString
  appliesTo : JsString → Bool

structure Stripped where
  command : JsString
  stripped : List JsString

def stripDangerousFlags (command : JsString) (rules : List FlagStripRule) : Stripped :=
  rules.foldl (fun out rule =>
    if rule.appliesTo command && hasFlag rule.flag out.command then
      ⟨trimEnd (collapseSpaces (replaceFlag rule.flag out.command)), out.stripped ++ [rule.flag]⟩
    else out) ⟨command, []⟩

/-- The default tables of the factory are lists of these rules. -/
structure CommandRiskGuardOptions (S : Type) where
  applies : IntentEnvelope → S → Except Thrown Bool
  extractCommand : IntentEnvelope → S → Except Thrown (Option JsString)
  commandField : JsString
  rules : List CommandRule
  flagStripRules : List FlagStripRule
  allow : Option (JsString → IntentEnvelope → S → Except Thrown Bool)
  prompt : Option (CommandClassification → JsString → Except Thrown JsString)
  refusalUserFacing : Option JsString

def commandDetail (classification : CommandClassification) (command : JsString) : Props JsValue :=
  [("category", .str classification.category.text),
    ("matchedRuleIds", texts classification.matchedRuleIds), ("command", .str command)]

def rewriteCommand (host : Host) (clock : JsString) (envelope : IntentEnvelope)
    (commandField : JsString) (out : Stripped) (detailBase : Props JsValue) :
    Except Thrown Decision := do
  let rewritten ← remint host clock envelope
    (withField envelope.payload commandField (.str out.command))
  return .rewrite rewritten (utf16 "Stripped dangerous flags: " ++ joined out.stripped)
    [basis .validation "command_flag_stripped"
      (some (detailBase ++
        [(utf16 "sanitized", .str out.command), (utf16 "stripped", texts out.stripped)]))]

def CommandRiskGuardOptions.promptText {S : Type} (options : CommandRiskGuardOptions S)
    (classification : CommandClassification) (command : JsString) : Except Thrown JsString :=
  match options.prompt with
  | some prompt => prompt classification command
  | none => .ok (utf16 "Confirm " ++ classification.category.text ++ utf16 " command: " ++ command)

/-- Without an allow list no command is allowed outright. -/
def CommandRiskGuardOptions.allowed {S : Type} (options : CommandRiskGuardOptions S)
    (command : JsString) (envelope : IntentEnvelope) (state : S) : Except Thrown Bool :=
  match options.allow with
  | some allow => allow command envelope state
  | none => .ok false

/-- A command that was classified as risky is rewritten, refused or confirmed. -/
def answerCommand {S : Type} (host : Host) (clock : JsString)
    (options : CommandRiskGuardOptions S) (envelope : IntentEnvelope) (command : JsString)
    (classification : CommandClassification) : Except Thrown Decision :=
  let detailBase := commandDetail classification command
  let out := stripDangerousFlags command options.flagStripRules
  if classification.disposition = .refuse then
    if 0 < out.stripped.length &&
        (classifyCommand out.command options.rules).disposition ≠ .refuse then
      rewriteCommand host clock envelope options.commandField out detailBase
    else
      .ok (.refuse
        (refuse .security "command_risk_blocked"
          (options.refusalUserFacing.getD "I can't run that command.")
          (some (classification.category.text ++ utf16 ": " ++
            joined classification.matchedRuleIds)))
        [basis .validation "command_blocked" (some detailBase)])
  else if 0 < out.stripped.length then
    rewriteCommand host clock envelope options.commandField out detailBase
  else do
    let prompt ← options.promptText classification command
    return .requestConfirmation prompt
      [basis .business BasisCodes.ruleSatisfied
        (some (("rule", JsValue.str "command_risk_confirm") :: detailBase))]

def createCommandRiskGuard {S : Type} (host : Host) (clock : JsString)
    (options : CommandRiskGuardOptions S) : Guard S where
  metadataName := none
  functionName := "guard"
  run envelope state := do
    if !(← options.applies envelope state) then return none
    match ← options.extractCommand envelope state with
    | none => return none
    | some command =>
        if command.length = 0 then return none
        if ← options.allowed command envelope state then return none
        let classification := classifyCommand command options.rules
        if classification.disposition = .safe then return none
        return some (← answerCommand host clock options envelope command classification)

end Adjudicate.Primitives
