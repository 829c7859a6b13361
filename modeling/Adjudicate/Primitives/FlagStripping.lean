/-
This file shows that stripping flags removes words from a command and squeezes its gaps.
-/

import Adjudicate.Primitives.RewriteGuards
import Adjudicate.Words.Removing

namespace Adjudicate.Primitives

open Js Adjudicate.Words

theorem collapseSpaces_eq (text : JsString) : collapseSpaces text = collapse isWhiteSpace 0x20 text := rfl

theorem tidy_eq (text : JsString) : trimEnd (collapseSpaces text) = tidy isWhiteSpace 0x20 text := rfl

section Flag

variable {flag : JsString} (isFlag : IsWord isWhiteSpace flag)

include isFlag

theorem flagHere_atGap {text : JsString} (boundary : AtGap isWhiteSpace text) :
    flagHere flag text = false := by
  refine Bool.eq_false_iff.mpr fun here => ?_
  obtain ⟨rest, rfl⟩ := List.isPrefixOf_iff_prefix.mp (Bool.and_eq_true_iff.mp here).1
  exact isFlag.not_atGap rest boundary

/-- The flag stands at the front of a text exactly when it is its first word. -/
theorem flagHere_word {word rest : JsString} (isWord : IsWord isWhiteSpace word)
    (boundary : AtGap isWhiteSpace rest) : flagHere flag (word ++ rest) = true ↔ word = flag := by
  rw [flagHere, Bool.and_eq_true, List.isPrefixOf_iff_prefix]
  constructor
  · rintro ⟨⟨after, same⟩, ends⟩
    have atGap : AtGap isWhiteSpace after := by
      rw [← same, List.drop_left, atBoundary, Option.all_eq_true] at ends
      exact ends
    have first := words_word_append isFlag atGap
    rw [same, words_word_append isWord boundary] at first
    exact (List.cons.inj first).1
  · rintro rfl
    refine ⟨List.prefix_append word rest, ?_⟩
    rw [List.drop_left, atBoundary, Option.all_eq_true]
    exact boundary

theorem dropFlag_zero_of_atGap {text : JsString} (boundary : AtGap isWhiteSpace text) :
    dropFlag flag 0 text = replaceFlag flag text := by
  rw [replaceFlag, if_neg (Bool.eq_false_iff.mp (flagHere_atGap isFlag boundary))]

theorem replaceFlag_cons_gap {unit : CodeUnit} (blank : isWhiteSpace unit = true) (rest : JsString) :
    replaceFlag flag (unit :: rest) = unit :: replaceFlag flag rest := by
  have boundary : AtGap isWhiteSpace (unit :: rest) := by
    intro _ same
    cases same
    exact blank
  rw [← dropFlag_zero_of_atGap isFlag boundary, dropFlag, blank, Bool.true_and, replaceFlag]
  split_ifs
  · rfl
  · rfl

omit isFlag in
theorem dropFlag_skip (skipped rest : JsString) :
    dropFlag flag skipped.length (skipped ++ rest) = dropFlag flag 0 rest := by
  induction skipped with
  | nil => rfl
  | cons unit skipped ih =>
      rw [List.length_cons, List.cons_append, dropFlag]
      exact ih

omit isFlag in
theorem dropFlag_solid {word : JsString} (solid : ∀ unit ∈ word, isWhiteSpace unit = false)
    (rest : JsString) : dropFlag flag 0 (word ++ rest) = word ++ dropFlag flag 0 rest := by
  induction word with
  | nil => rfl
  | cons unit word ih =>
      obtain ⟨first, later⟩ := List.forall_mem_cons.mp solid
      rw [List.cons_append, dropFlag, first, Bool.false_and, if_neg nofun, ih later]
      rfl

/-- The replacement takes the flag out of the words of the text and leaves the gaps. -/
theorem replaceFlag_eq (text : JsString) :
    replaceFlag flag text = withoutWords isWhiteSpace [flag] text := by
  have single : ListsWords isWhiteSpace [flag] := List.forall_mem_singleton.mpr isFlag
  have gaps {gap : JsString} (blank : IsGap isWhiteSpace gap) (rest : JsString) :
      replaceFlag flag (gap ++ rest) = gap ++ replaceFlag flag rest := by
    induction gap with
    | nil => rfl
    | cons unit gap ih =>
        obtain ⟨first, later⟩ := List.forall_mem_cons.mp blank
        rw [List.cons_append, replaceFlag_cons_gap isFlag first, ih later]
        rfl
  induction text using segments_induction isWhiteSpace with
  | gap gap blank =>
      have alone := gaps blank []
      rw [List.append_nil, ← dropFlag_zero_of_atGap isFlag atGap_nil] at alone
      rw [alone, withoutWords_gap single blank]
      exact List.append_nil gap
  | segment gap word rest blank isWord boundary ih =>
      rw [List.append_assoc, gaps blank, ← List.append_assoc,
        withoutWords_segment single blank isWord boundary, List.append_assoc, replaceFlag]
      refine congrArg (gap ++ ·) ?_
      simp only [flagHere_word isFlag isWord boundary, List.mem_singleton]
      split_ifs with same
      · rw [same, dropFlag_skip, dropFlag_zero_of_atGap isFlag boundary, ih]
        rfl
      · rw [dropFlag_solid isWord.solid, dropFlag_zero_of_atGap isFlag boundary, ih]

/-- A flag follows the white space at the front of the text. -/
def flagNext (flag : JsString) : JsString → Bool
  | unit :: rest => isWhiteSpace unit && flagHere flag rest
  | [] => false

omit isFlag in
theorem hasFlag_eq (text : JsString) :
    hasFlag flag text = (flagHere flag text || text.tails.any (flagNext flag)) := rfl

theorem hasFlag_atGap {text : JsString} (boundary : AtGap isWhiteSpace text) :
    hasFlag flag text = text.tails.any (flagNext flag) := by
  rw [hasFlag_eq, flagHere_atGap isFlag boundary, Bool.false_or]

theorem hasFlag_gap_append {gap : JsString} (blank : IsGap isWhiteSpace gap) (rest : JsString) :
    hasFlag flag (gap ++ rest) = hasFlag flag rest := by
  induction gap with
  | nil => rfl
  | cons unit gap ih =>
      obtain ⟨first, later⟩ := List.forall_mem_cons.mp blank
      have boundary : AtGap isWhiteSpace (unit :: (gap ++ rest)) := by
        intro _ same
        cases same
        exact first
      rw [← ih later, List.cons_append, hasFlag_atGap isFlag boundary, List.tails_cons, List.any_cons,
        flagNext, first, Bool.true_and, hasFlag_eq]

theorem hasFlag_word_append {word rest : JsString} (isWord : IsWord isWhiteSpace word)
    (boundary : AtGap isWhiteSpace rest) :
    hasFlag flag (word ++ rest) = (flagHere flag (word ++ rest) || hasFlag flag rest) := by
  have skips {solid : JsString} (all : ∀ unit ∈ solid, isWhiteSpace unit = false) :
      (solid ++ rest).tails.any (flagNext flag) = rest.tails.any (flagNext flag) := by
    induction solid with
    | nil => rfl
    | cons unit solid ih =>
        obtain ⟨first, later⟩ := List.forall_mem_cons.mp all
        rw [List.cons_append, List.tails_cons, List.any_cons, flagNext, first, Bool.false_and,
          Bool.false_or, ih later]
  rw [hasFlag_eq, skips isWord.solid, hasFlag_atGap isFlag boundary]

/-- The test finds the flag among the words of the text. -/
theorem hasFlag_iff (text : JsString) : hasFlag flag text = true ↔ flag ∈ words isWhiteSpace text := by
  induction text using segments_induction isWhiteSpace with
  | gap gap blank =>
      have alone := hasFlag_gap_append isFlag blank []
      rw [List.append_nil, hasFlag_atGap isFlag atGap_nil] at alone
      rw [alone, words_gap blank]
      exact iff_of_false nofun nofun
  | segment gap word rest blank isWord boundary ih =>
      rw [List.append_assoc, hasFlag_gap_append isFlag blank,
        hasFlag_word_append isFlag isWord boundary, Bool.or_eq_true,
        flagHere_word isFlag isWord boundary, words_gap_append blank,
        words_word_append isWord boundary, List.mem_cons, ih]
      exact or_congr_left eq_comm

end Flag

/-- These are the flags that may be stripped from the command. -/
def flagsFor (rules : List FlagStripRule) (command : JsString) : List JsString :=
  (rules.filter fun rule => rule.appliesTo command).map FlagStripRule.flag

def stripFlag (out : Stripped) (flag : JsString) : Stripped :=
  if flag ∈ words isWhiteSpace out.command then
    ⟨tidy isWhiteSpace 0x20 (withoutWords isWhiteSpace [flag] out.command), out.stripped ++ [flag]⟩
  else out

theorem stripFlags_command (flags : List JsString) (out : Stripped) :
    (flags.foldl stripFlag out).command = removeEach isWhiteSpace 0x20 flags out.command := by
  induction flags generalizing out with
  | nil => rfl
  | cons flag flags ih =>
      rw [List.foldl_cons, ih, removeEach_cons, stripFlag, apply_ite Stripped.command]

/-- The flags that are stripped are those that the command has. -/
theorem stripFlags_stripped {flags : List JsString} (isFlags : ListsWords isWhiteSpace flags)
    (out : Stripped) (wanted : JsString) :
    wanted ∈ (flags.foldl stripFlag out).stripped ↔
      wanted ∈ out.stripped ∨ wanted ∈ flags ∧ wanted ∈ words isWhiteSpace out.command := by
  induction flags generalizing out with
  | nil => simp only [List.foldl_nil, List.not_mem_nil, false_and, or_false]
  | cons flag flags ih =>
      obtain ⟨isFlag, later⟩ := List.forall_mem_cons.mp isFlags
      rw [List.foldl_cons, ih later, stripFlag, List.mem_cons]
      split_ifs with present
      · have rest := words_withoutWords (List.forall_mem_singleton.mpr isFlag) out.command
        rw [words_tidy (by decide), rest]
        simp only [List.mem_append, List.mem_singleton, List.mem_filter, decide_eq_true_eq]
        grind
      · constructor
        · exact Or.imp_right fun ⟨listed, found⟩ => ⟨.inr listed, found⟩
        · refine Or.imp_right ?_
          rintro ⟨rfl | listed, found⟩
          · exact (present found).elim
          · exact ⟨listed, found⟩

section Stripping

variable {rules : List FlagStripRule} (isFlag : ∀ rule ∈ rules, IsWord isWhiteSpace rule.flag)

include isFlag

theorem listsWords_flagsFor (command : JsString) :
    ListsWords isWhiteSpace (flagsFor rules command) := by
  intro flag listed
  obtain ⟨rule, kept, rfl⟩ := List.mem_map.mp listed
  exact isFlag rule (List.mem_filter.mp kept).1

theorem stripDangerousFlags_eq (command : JsString) :
    stripDangerousFlags command rules = (flagsFor rules command).foldl stripFlag ⟨command, []⟩ := by
  rw [stripDangerousFlags, flagsFor]
  generalize (⟨command, []⟩ : Stripped) = out
  induction rules generalizing out with
  | nil => rfl
  | cons rule rules ih =>
      obtain ⟨first, later⟩ := List.forall_mem_cons.mp isFlag
      rw [List.foldl_cons, ih later, List.filter_cons]
      cases applies : rule.appliesTo command with
      | false => rfl
      | true =>
          simp only [Bool.true_and, hasFlag_iff first, tidy_eq, replaceFlag_eq first, if_true,
            List.map_cons, List.foldl_cons, stripFlag]

theorem stripDangerousFlags_command (command : JsString) :
    (stripDangerousFlags command rules).command =
      removeEach isWhiteSpace 0x20 (flagsFor rules command) command := by
  rw [stripDangerousFlags_eq isFlag, stripFlags_command]

theorem mem_stripped (command flag : JsString) :
    flag ∈ (stripDangerousFlags command rules).stripped ↔
      flag ∈ flagsFor rules command ∧ flag ∈ words isWhiteSpace command := by
  rw [stripDangerousFlags_eq isFlag, stripFlags_stripped (listsWords_flagsFor isFlag command)]
  simp only [List.not_mem_nil, false_or]

end Stripping

end Adjudicate.Primitives
