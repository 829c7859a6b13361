/-
This file shows when sanitizing a terminal command removes the dangerous flags and nothing else.
-/

import Adjudicate.CliAgent.SafeShape
import Adjudicate.Primitives.FlagStripping

namespace Adjudicate.CliAgent

open Js Canonical Adjudicate.Core Adjudicate.Kernel Adjudicate.Primitives Adjudicate.Words

def isLineBreak (unit : CodeUnit) : Bool := unit = 0x0A

/-- A command is read line by line as its words between white space. -/
def commandLines (command : JsString) : List (List JsString) :=
  lineWords isWhiteSpace isLineBreak command

/-- These are the flags that a rewriting lists as stripped. -/
def strippedOf (bases : List DecisionBasis) : List JsString :=
  bases.flatMap fun entry =>
    match (entry.detail.getD []).lookup (utf16 "stripped") with
    | some (.arr flags) => flags.filterMap textOf
    | _ => []

def dangerousFlags : List JsString := defaultFlagStripRules.map FlagStripRule.flag

/-- The rewritten command has the words of the original one without the flags, line by line. -/
structure Sanitized (host : Host) (clock : JsString) (state : CliState)
    (original rewritten : IntentEnvelope) (stripped : List JsString) : Prop where
  lines : commandLines (fullCommandOf rewritten) =
    (commandLines (fullCommandOf original)).map fun line => line.filter (· ∉ stripped)
  gone : ∀ flag ∈ stripped, flag ∉ words isWhiteSpace (fullCommandOf rewritten)
  settled : ∀ again reason bases,
    (commandRisk host clock).run rewritten state ≠ .ok (some (.rewrite again reason bases))

/-- Every argument is blank, and every line break of the command stands alone without the flags. -/
structure Separable (envelope : IntentEnvelope) : Prop where
  args : ∀ arg ∈ argsOf envelope, IsGap isWhiteSpace arg
  breaks : BreaksStandAlone isWhiteSpace isLineBreak
    (withoutWords isWhiteSpace dangerousFlags (commandOf envelope))

theorem isLineBreak_gap (unit : CodeUnit) (ends : isLineBreak unit = true) :
    isWhiteSpace unit = true := by
  rw [of_decide_eq_true ends]
  decide

theorem defaultFlags : ∀ rule ∈ defaultFlagStripRules, IsWord isWhiteSpace rule.flag := by
  have isWord {flag : JsString} (filled : flag ≠ [])
      (solid : flag.all (!isWhiteSpace ·) = true) : IsWord isWhiteSpace flag :=
    ⟨filled, by simpa only [List.all_eq_true, Bool.not_eq_true'] using solid⟩
  simp only [defaultFlagStripRules, List.forall_mem_cons, List.not_mem_nil, false_implies,
    implies_true, and_true]
  exact ⟨isWord (by decide) (by decide), isWord (by decide) (by decide),
    isWord (by decide) (by decide)⟩

theorem listsWords_dangerousFlags : ListsWords isWhiteSpace dangerousFlags :=
  List.forall_mem_map.mpr defaultFlags

/-- All three flags are stripped from the same commands. -/
theorem flagsFor_default (command : JsString) :
    flagsFor defaultFlagStripRules command = if isRm command then dangerousFlags else [] := by
  rw [flagsFor, defaultFlagStripRules]
  cases removes : isRm command with
  | false => simp only [List.filter_cons, removes, Bool.false_eq_true, if_false]; rfl
  | true => simp only [List.filter_cons, removes, if_true]; rfl

/-- The arguments follow the command, each after a space. -/
def argsText (envelope : IntentEnvelope) : JsString := (argsOf envelope).flatMap (0x20 :: ·)

theorem fullCommandOf_eq (envelope : IntentEnvelope) :
    fullCommandOf envelope = commandOf envelope ++ argsText envelope := by
  have general (command : JsString) (args : List JsString) :
      List.intercalate (utf16 " ") (command :: args) = command ++ args.flatMap (0x20 :: ·) := by
    induction args generalizing command with
    | nil => rw [List.intercalate_singleton, List.flatMap_nil, List.append_nil]
    | cons arg args ih =>
        rw [List.intercalate_cons_cons, ih arg, List.flatMap_cons, List.append_assoc]
        rfl
  rw [fullCommandOf, argsText]
  split_ifs with filled
  · exact general _ _
  · rw [List.eq_nil_of_length_eq_zero (Nat.eq_zero_of_not_pos filled)]
    exact (List.append_nil _).symm

theorem argsText_atGap (envelope : IntentEnvelope) : AtGap isWhiteSpace (argsText envelope) := by
  rw [argsText]
  cases argsOf envelope with
  | nil => exact atGap_nil
  | cons arg args =>
      intro unit first
      cases first
      decide

theorem argsText_isGap {envelope : IntentEnvelope} :
    IsGap isWhiteSpace (argsText envelope) ↔ ∀ arg ∈ argsOf envelope, IsGap isWhiteSpace arg := by
  rw [argsText]
  constructor
  · intro blank arg listed unit member
    exact blank unit (List.mem_flatMap.mpr ⟨arg, listed, List.mem_cons_of_mem _ member⟩)
  · intro blank unit member
    obtain ⟨arg, listed, member⟩ := List.mem_flatMap.mp member
    obtain rfl | member := List.mem_cons.mp member
    · decide
    · exact blank arg listed unit member

section Rewriting

variable {host : Host} {clock : JsString} {state : CliState} {envelope rewritten : IntentEnvelope}
  {reason : JsString} {bases : List DecisionBasis}

/-- What the risk guard makes of a command that it rewrites. -/
structure Rewriting (envelope rewritten : IntentEnvelope) (stripped : List JsString) : Prop where
  command : commandOf rewritten =
    removeEach isWhiteSpace 0x20 dangerousFlags (fullCommandOf envelope)
  args : argsOf rewritten = argsOf envelope
  stripped : ∀ flag, flag ∈ stripped ↔
    flag ∈ dangerousFlags ∧ flag ∈ words isWhiteSpace (fullCommandOf envelope)
  some : ∃ flag ∈ dangerousFlags, flag ∈ words isWhiteSpace (fullCommandOf envelope)

/-- A rewriting needs a flag that can be stripped from the command. -/
theorem risk_strips (rewrites : (commandRisk host clock).run envelope state =
      .ok (some (.rewrite rewritten reason bases))) :
    isRm (fullCommandOf envelope) = true ∧
      ∃ flag ∈ dangerousFlags, flag ∈ words isWhiteSpace (fullCommandOf envelope) := by
  obtain ⟨_, ⟨⟩, decided⟩ := createCommandRiskGuard_answers rewrites
  obtain ⟨strips, -⟩ := answerCommand_rewrite decided
  obtain ⟨flag, listed⟩ := List.exists_mem_of_length_pos strips
  obtain ⟨applies, present⟩ := (mem_stripped defaultFlags _ flag).mp listed
  rw [flagsFor_default] at applies
  split_ifs at applies with removes
  · exact ⟨removes, flag, applies, present⟩
  · cases applies

theorem strippedOf_listed (classification : CommandClassification) (command : JsString)
    (sanitized : JsValue) (flags : List JsString) :
    strippedOf [basis .validation "command_flag_stripped"
      (some (commandDetail classification command ++
        [(utf16 "sanitized", sanitized), (utf16 "stripped", texts flags)]))] = flags := by
  have texts : (flags.map JsValue.str).filterMap textOf = flags := by
    rw [List.filterMap_map]
    exact List.filterMap_some
  change (flags.map JsValue.str).filterMap textOf ++ [] = flags
  rw [texts, List.append_nil]

theorem rewriting_of_risk (json : envelope.payload.IsJson)
    (rewrites : (commandRisk host clock).run envelope state =
      .ok (some (.rewrite rewritten reason bases))) :
    Rewriting envelope rewritten (strippedOf bases) := by
  obtain ⟨removes, flag, dangerous, present⟩ := risk_strips rewrites
  obtain ⟨_, ⟨⟩, decided⟩ := createCommandRiskGuard_answers rewrites
  obtain ⟨-, minted, rfl⟩ := answerCommand_rewrite decided
  have flags : flagsFor defaultFlagStripRules (fullCommandOf envelope) = dangerousFlags := by
    rw [flagsFor_default, if_pos removes]
  obtain ⟨fields, -⟩ := remint_fields minted
  have payload := congrArg HashedFields.payload fields
  dsimp only at payload
  refine ⟨?_, ?_, fun listed => ?_, flag, dangerous, present⟩
  · have command : rewritten.payload.getOwn "command" =
        .str (stripDangerousFlags (fullCommandOf envelope) defaultFlagStripRules).command := by
      rw [payload]
      change ((setOwn _ (utf16 "command") _).lookup (utf16 "command")).getD _ = _
      rw [lookup_setOwn, if_pos rfl]
      rfl
    rw [commandOf, command, ← flags]
    exact stripDangerousFlags_command defaultFlags (fullCommandOf envelope)
  · have args : rewritten.payload.getOwn "args" = envelope.payload.getOwn "args" := by
      rw [payload]
      cases same : envelope.payload with
      | obj props =>
          rw [same] at json
          exact (getOwn_withField json.1 _ _ _).trans (if_neg (by decide))
      | _ =>
          have empty : fullCommandOf envelope = [] := by
            rw [fullCommandOf, argsOf, commandOf, same]
            rfl
          rw [empty] at present
          cases present
    rw [argsOf, args, argsOf]
  · rw [strippedOf_listed, ← flags]
    exact mem_stripped defaultFlags _ listed

section Lines

variable {stripped : List JsString} (rewriting : Rewriting envelope rewritten stripped)

include rewriting

/-- Among the words of the command, the stripped flags are all dangerous ones. -/
theorem filter_stripped {line : List JsString}
    (within : ∀ word ∈ line, word ∈ words isWhiteSpace (fullCommandOf envelope)) :
    line.filter (· ∉ stripped) = line.filter (· ∉ dangerousFlags) := by
  refine List.filter_congr fun word listed => ?_
  have same : word ∈ stripped ↔ word ∈ dangerousFlags :=
    (rewriting.stripped word).trans (and_iff_left (within word listed))
  rw [decide_eq_decide, same]

theorem lines_stripped :
    ((commandLines (fullCommandOf envelope)).map fun line => line.filter (· ∉ stripped)) =
      (commandLines (fullCommandOf envelope)).map fun line => line.filter (· ∉ dangerousFlags) := by
  refine List.map_congr_left fun line listed => filter_stripped rewriting fun word member => ?_
  rw [← flatten_lineWords isLineBreak_gap]
  exact List.mem_flatten.mpr ⟨line, listed, member⟩

/-- The arguments are appended once more. -/
theorem words_rewritten :
    words isWhiteSpace (fullCommandOf rewritten) =
      (words isWhiteSpace (fullCommandOf envelope)).filter (· ∉ dangerousFlags) ++
        words isWhiteSpace (argsText envelope) := by
  have same : argsText rewritten = argsText envelope := by rw [argsText, rewriting.args, argsText]
  rw [fullCommandOf_eq rewritten, same, words_append (argsText_atGap envelope), rewriting.command,
    words_removeEach (by decide) listsWords_dangerousFlags]

/-- The lines are kept only when the arguments add no words. -/
theorem blank_of_lines
    (lines : commandLines (fullCommandOf rewritten) =
      (commandLines (fullCommandOf envelope)).map fun line => line.filter (· ∉ stripped)) :
    IsGap isWhiteSpace (argsText envelope) := by
  rw [lines_stripped rewriting, commandLines, commandLines,
    ← lineWords_withoutWords listsWords_dangerousFlags isLineBreak_gap] at lines
  have flat := congrArg List.flatten lines
  rw [flatten_lineWords isLineBreak_gap, flatten_lineWords isLineBreak_gap,
    words_withoutWords listsWords_dangerousFlags, words_rewritten rewriting] at flat
  exact words_eq_nil_iff.mp (List.append_right_eq_self.mp flat)

/-- With blank arguments the lines are kept exactly when the line breaks of the command stand alone. -/
theorem lines_iff (blank : IsGap isWhiteSpace (argsText envelope)) :
    (commandLines (fullCommandOf rewritten) =
      (commandLines (fullCommandOf envelope)).map fun line => line.filter (· ∉ stripped)) ↔
      BreaksStandAlone isWhiteSpace isLineBreak
        (withoutWords isWhiteSpace dangerousFlags (commandOf envelope)) := by
  have some := rewriting.some
  have same : argsText rewritten = argsText envelope := by rw [argsText, rewriting.args, argsText]
  rw [fullCommandOf_eq envelope, words_append blank.atGap, words_gap blank, List.append_nil] at some
  rw [lines_stripped rewriting, commandLines, commandLines,
    ← lineWords_withoutWords listsWords_dangerousFlags isLineBreak_gap,
    fullCommandOf_eq rewritten, rewriting.command, same, fullCommandOf_eq envelope,
    removeEach_append_gap (by decide) listsWords_dangerousFlags blank some,
    withoutWords_append_gap listsWords_dangerousFlags blank,
    lineWords_append_gap isLineBreak_gap blank, lineWords_append_gap isLineBreak_gap blank,
    List.append_left_inj]
  exact lineWords_removeEach listsWords_dangerousFlags (by decide) isLineBreak_gap (by decide) (.inl some)

end Lines

/-- A rewriting removes the dangerous flags and nothing else exactly when the arguments are blank and
the line breaks of the command stand alone without the flags. -/
theorem sanitized_iff (json : envelope.payload.IsJson)
    (rewrites : (commandRisk host clock).run envelope state =
      .ok (some (.rewrite rewritten reason bases))) :
    Sanitized host clock state envelope rewritten (strippedOf bases) ↔ Separable envelope := by
  have rewriting := rewriting_of_risk json rewrites
  constructor
  · intro sanitized
    have blank := blank_of_lines rewriting sanitized.lines
    exact ⟨argsText_isGap.mp blank, (lines_iff rewriting blank).mp sanitized.lines⟩
  · intro separable
    have blank := argsText_isGap.mpr separable.args
    have rest := words_rewritten rewriting
    rw [words_gap blank, List.append_nil] at rest
    refine ⟨(lines_iff rewriting blank).mpr separable.breaks, fun flag listed present => ?_,
      fun again reason bases repeated => ?_⟩
    · rw [rest] at present
      exact of_decide_eq_true (List.mem_filter.mp present).2 ((rewriting.stripped flag).mp listed).1
    · obtain ⟨-, flag, dangerous, present⟩ := risk_strips repeated
      rw [rest] at present
      exact of_decide_eq_true (List.mem_filter.mp present).2 dangerous

end Rewriting

def isRewrite (outcome : Except Thrown (Option Decision)) : Bool :=
  match outcome with
  | .ok (some (.rewrite _ _ _)) => true
  | _ => false

theorem isRewrite_iff {outcome : Except Thrown (Option Decision)} :
    isRewrite outcome = true ↔
      ∃ rewritten reason bases, outcome = .ok (some (.rewrite rewritten reason bases)) := by
  constructor
  · intro rewrites
    unfold isRewrite at rewrites
    split at rewrites
    · exact ⟨_, _, _, rfl⟩
    · cases rewrites
  · rintro ⟨_, _, _, rfl⟩
    rfl

def removal (payload : Props JsValue) (intentHash : JsString) : IntentEnvelope where
  version := 2
  kind := "terminal.run"
  payload := .obj payload
  nonce := "n-1"
  actor := { principal := .llm, sessionId := "s-1", role := none, attestation := none }
  taint := .untrusted
  origin := .llm
  resourceRefs := none
  createdAt := "2026-01-01T00:00:00.000Z"
  intentHash := intentHash

def emptyCliState : CliState := ⟨[], [], false, none⟩

def wholeRemoval : IntentEnvelope :=
  removal [("command", .str "rm -r -f x")]
    "1b7070b01b8def6f91f6ac7ac36708b6294a5bb8d83f7136f96165e1fed5a4da"

/-- The flags stand in the arguments. -/
def splitRemoval : IntentEnvelope :=
  removal [("args", .arr [.str "-r", .str "-f", .str "x"]), ("command", .str "rm")]
    "00902d2035fb5c63e470ccbb16983f20caa306ae98c65ed2bff741cb39cbfdf6"

theorem sanitized_iff_wholeRemoval :
    ∃ rewritten reason bases,
      (commandRisk (.ofDigests []) "t").run wholeRemoval emptyCliState =
        .ok (some (.rewrite rewritten reason bases)) ∧
      (Sanitized (.ofDigests []) "t" emptyCliState wholeRemoval rewritten (strippedOf bases) ↔
        Separable wholeRemoval) := by
  obtain ⟨rewritten, reason, bases, rewrites⟩ := isRewrite_iff.mp
    (by decide +kernel : isRewrite
      ((commandRisk (.ofDigests []) "t").run wholeRemoval emptyCliState) = true)
  have json : wholeRemoval.payload.IsJson := ⟨by decide +kernel, fun _ => trivial, trivial⟩
  exact ⟨rewritten, reason, bases, rewrites, sanitized_iff json rewrites⟩

/-- The rewritten command carries the arguments twice. -/
theorem splitRemoval_repeats :
    ∃ rewritten reason bases,
      (commandRisk (.ofDigests []) "t").run splitRemoval emptyCliState =
        .ok (some (.rewrite rewritten reason bases)) ∧
      ¬Sanitized (.ofDigests []) "t" emptyCliState splitRemoval rewritten (strippedOf bases) := by
  obtain ⟨rewritten, reason, bases, rewrites⟩ := isRewrite_iff.mp
    (by decide +kernel : isRewrite
      ((commandRisk (.ofDigests []) "t").run splitRemoval emptyCliState) = true)
  have json : splitRemoval.payload.IsJson :=
    ⟨by decide +kernel, fun _ => ⟨trivial, trivial, trivial, trivial⟩, fun _ => trivial, trivial⟩
  refine ⟨rewritten, reason, bases, rewrites, fun sanitized => ?_⟩
  have blank := argsText_isGap.mp (blank_of_lines (rewriting_of_risk json rewrites) sanitized.lines)
  have dash := blank (utf16 "-r") (by decide +kernel) 0x2D (by decide)
  cases dash

end Adjudicate.CliAgent
