/-
This file cuts a text into gaps and words.
-/

import Mathlib.Data.List.SplitBy
import Mathlib.Data.List.DropRight
import Mathlib.Tactic.ByContra

namespace Adjudicate.Words

variable {α : Type}

/-- A run is a longest stretch of gap units or of other units. -/
def runs (isGap : α → Bool) (text : List α) : List (List α) :=
  text.splitBy fun left right => isGap left = isGap right

def words (isGap : α → Bool) (text : List α) : List (List α) :=
  (text.splitOnP isGap).filter fun word => !word.isEmpty

/-- The words are read line by line. -/
def lineWords (isGap isBreak : α → Bool) (text : List α) : List (List (List α)) :=
  (text.splitOnP isBreak).map (words isGap)

def IsGap (isGap : α → Bool) (gap : List α) : Prop := ∀ unit ∈ gap, isGap unit = true

structure IsWord (isGap : α → Bool) (word : List α) : Prop where
  nonempty : word ≠ []
  solid : ∀ unit ∈ word, isGap unit = false

/-- The text is empty or begins with a gap. -/
def AtGap (isGap : α → Bool) (rest : List α) : Prop := ∀ unit ∈ rest.head?, isGap unit = true

section Segments

variable {isGap isBreak : α → Bool}

theorem atGap_nil : AtGap isGap [] := nofun

theorem IsGap.atGap {gap : List α} (blank : IsGap isGap gap) : AtGap isGap gap :=
  fun unit first => blank unit (List.mem_of_head? first)

theorem IsGap.append {left right : List α} (blank : IsGap isGap left) (later : IsGap isGap right) :
    IsGap isGap (left ++ right) :=
  List.forall_mem_append.mpr ⟨blank, later⟩

/-- A word at the front of a text is no gap. -/
theorem IsWord.not_atGap {word : List α} (isWord : IsWord isGap word) (rest : List α) :
    ¬AtGap isGap (word ++ rest) := by
  intro first
  obtain ⟨unit, later, rfl⟩ := List.exists_cons_of_ne_nil isWord.nonempty
  have blank := first unit rfl
  rw [isWord.solid unit List.mem_cons_self] at blank
  cases blank

/-- Where a segment begins with a gap, the rest of the text does not matter. -/
theorem AtGap.append {gap word rest : List α} (isWord : IsWord isGap word)
    (first : AtGap isGap (gap ++ word ++ rest)) (blank : IsGap isGap gap) (later : List α) :
    AtGap isGap (gap ++ later) := by
  cases gap with
  | nil => exact (isWord.not_atGap _ first).elim
  | cons unit gap =>
      intro _ same
      cases same
      exact blank unit List.mem_cons_self

/-- Every text is a gap, or a gap and a word in front of a shorter text. -/
@[elab_as_elim]
theorem segments_induction {motive : List α → Prop} (isGap : α → Bool)
    (gap : ∀ gap, IsGap isGap gap → motive gap)
    (segment : ∀ gap word rest, IsGap isGap gap → IsWord isGap word → AtGap isGap rest →
      motive rest → motive (gap ++ word ++ rest))
    (text : List α) : motive text := by
  have split : text = text.takeWhile isGap ++ text.dropWhile isGap :=
    List.takeWhile_append_dropWhile.symm
  have blank : IsGap isGap (text.takeWhile isGap) := fun _ => List.mem_takeWhile_imp
  cases after : text.dropWhile isGap with
  | nil =>
      rw [after, List.append_nil] at split
      exact split ▸ gap _ blank
  | cons unit later =>
      have first : isGap unit = false := by
        have head := List.head_dropWhile_not isGap (l := text) (by rw [after]; exact nofun)
        simpa only [after, List.head_cons] using head
      have word : IsWord isGap ((text.dropWhile isGap).takeWhile (!isGap ·)) := by
        constructor
        · rw [after, List.takeWhile_cons, first]
          exact nofun
        · intro member listed
          simpa only [Bool.not_eq_true'] using List.mem_takeWhile_imp listed
      have boundary : AtGap isGap ((text.dropWhile isGap).dropWhile (!isGap ·)) := by
        intro member head
        have ends := List.head?_dropWhile_not (!isGap ·) (text.dropWhile isGap)
        rw [Option.mem_def.mp head] at ends
        exact Bool.not_eq_eq_eq_not.mp ends
      have shorter : ((text.dropWhile isGap).dropWhile (!isGap ·)).length < text.length := by
        have bound := (List.dropWhile_sublist (l := later) (!isGap ·)).length_le
        have total := congrArg List.length split
        rw [after, List.dropWhile_cons, first]
        simp only [after, List.length_append, List.length_cons] at total
        simp only [Bool.not_false, if_true]
        omega
      have whole : text = text.takeWhile isGap ++ (text.dropWhile isGap).takeWhile (!isGap ·) ++
          (text.dropWhile isGap).dropWhile (!isGap ·) := by
        rw [List.append_assoc, List.takeWhile_append_dropWhile, ← split]
      rw [whole]
      exact segment _ _ _ blank word boundary (segments_induction isGap gap segment _)
termination_by text.length

theorem runs_uniform {run : List α} (value : Bool) (filled : run ≠ [])
    (uniform : ∀ unit ∈ run, isGap unit = value) : runs isGap run = [run] := by
  apply List.splitBy_of_isChain filled
  apply List.Pairwise.isChain
  apply List.pairwise_of_forall_mem_list
  intro left leftMem right rightMem
  rw [uniform left leftMem, uniform right rightMem, decide_eq_true rfl]

/-- The runs of a text that is a gap are at most one. -/
theorem runs_gap {gap : List α} (blank : IsGap isGap gap) :
    runs isGap gap = if gap = [] then [] else [gap] := by
  split_ifs with empty
  · rw [empty]
    rfl
  · exact runs_uniform true empty blank

theorem runs_segment {gap word rest : List α} (blank : IsGap isGap gap) (isWord : IsWord isGap word)
    (boundary : AtGap isGap rest) :
    runs isGap (gap ++ word ++ rest) =
      (if gap = [] then [] else [gap]) ++ word :: runs isGap rest := by
  have after : runs isGap (word ++ rest) = word :: runs isGap rest := by
    rw [runs, List.splitBy_append, ← runs, ← runs, runs_uniform false isWord.nonempty isWord.solid]
    · rfl
    · intro left last right first
      rw [isWord.solid left (List.mem_of_getLast? last), boundary right first]
      rfl
  rw [List.append_assoc, runs, List.splitBy_append, ← runs, ← runs, runs_gap blank, after]
  intro left last right first
  have solid : isGap right = false := by
    apply isWord.solid
    obtain ⟨unit, later, rfl⟩ := List.exists_cons_of_ne_nil isWord.nonempty
    cases first
    exact List.mem_cons_self
  rw [blank left (List.mem_of_getLast? last), solid]
  rfl

theorem words_cons_gap {unit : α} (blank : isGap unit = true) (rest : List α) :
    words isGap (unit :: rest) = words isGap rest := by
  rw [words, List.splitOnP_cons_eq_if_modifyHead, if_pos blank]
  rfl

theorem words_gap_append {gap : List α} (blank : IsGap isGap gap) (rest : List α) :
    words isGap (gap ++ rest) = words isGap rest := by
  induction gap with
  | nil => rfl
  | cons unit gap ih =>
      obtain ⟨first, later⟩ := List.forall_mem_cons.mp blank
      rw [List.cons_append, words_cons_gap first, ih later]

theorem words_gap {gap : List α} (blank : IsGap isGap gap) : words isGap gap = [] := by
  rw [← List.append_nil gap, words_gap_append blank]
  rfl

theorem words_word_append {word rest : List α} (isWord : IsWord isGap word)
    (boundary : AtGap isGap rest) : words isGap (word ++ rest) = word :: words isGap rest := by
  have filled : (!word.isEmpty) = true := by
    rw [Bool.not_eq_true', List.isEmpty_eq_false_iff]
    exact isWord.nonempty
  cases rest with
  | nil =>
      rw [List.append_nil, words, List.splitOnP_eq_singleton isWord.solid]
      exact List.filter_cons_of_pos filled
  | cons unit rest =>
      have blank := boundary unit rfl
      rw [words, List.splitOnP_append_cons_of_forall_mem isWord.solid unit blank, words_cons_gap blank]
      exact List.filter_cons_of_pos filled

theorem words_segment {gap word rest : List α} (blank : IsGap isGap gap)
    (isWord : IsWord isGap word) (boundary : AtGap isGap rest) :
    words isGap (gap ++ word ++ rest) = word :: words isGap rest := by
  rw [List.append_assoc, words_gap_append blank, words_word_append isWord boundary]

theorem mem_words {text word : List α} (listed : word ∈ words isGap text) : IsWord isGap word := by
  induction text using segments_induction isGap with
  | gap gap blank =>
      rw [words_gap blank] at listed
      cases listed
  | segment gap first rest blank isWord boundary ih =>
      rw [words_segment blank isWord boundary] at listed
      obtain rfl | later := List.mem_cons.mp listed
      · exact isWord
      · exact ih later

/-- A text without words is a gap. -/
theorem words_eq_nil_iff {text : List α} : words isGap text = [] ↔ IsGap isGap text := by
  induction text using segments_induction isGap with
  | gap gap blank => exact iff_of_true (words_gap blank) blank
  | segment gap word rest blank isWord boundary ih =>
      refine iff_of_false (by rw [words_segment blank isWord boundary]; exact nofun) fun whole => ?_
      exact isWord.not_atGap rest
        (IsGap.atGap (List.forall_mem_append.mp (List.append_assoc gap word rest ▸ whole)).2)

/-- The words on both sides of a gap are counted apart. -/
theorem words_append {left right : List α} (boundary : AtGap isGap right) :
    words isGap (left ++ right) = words isGap left ++ words isGap right := by
  induction left using segments_induction isGap with
  | gap gap blank => rw [words_gap_append blank, words_gap blank, List.nil_append]
  | segment gap word rest blank isWord atGap ih =>
      have later : AtGap isGap (rest ++ right) := by
        cases rest with
        | nil => exact boundary
        | cons unit rest => exact atGap
      rw [List.append_assoc, words_segment blank isWord later, words_segment blank isWord atGap, ih]
      rfl

theorem length_splitOnP (isBreak : α → Bool) (text : List α) :
    (text.splitOnP isBreak).length = text.countP isBreak + 1 := by
  induction text with
  | nil => rfl
  | cons unit text ih =>
      rw [List.splitOnP_cons_eq_if_modifyHead, List.countP_cons]
      split_ifs
      · rw [List.length_cons, ih]
      · rw [List.length_modifyHead, ih]

/-- There is one line more than there are breaks. -/
theorem length_lineWords (isGap isBreak : α → Bool) (text : List α) :
    (lineWords isGap isBreak text).length = text.countP isBreak + 1 := by
  rw [lineWords, List.length_map, length_splitOnP]

section Lines

theorem lineWords_cons_gap {unit : α} (blank : isGap unit = true) (rest : List α) :
    lineWords isGap isBreak (unit :: rest) =
      if isBreak unit then [] :: lineWords isGap isBreak rest else lineWords isGap isBreak rest := by
  rw [lineWords, List.splitOnP_cons_eq_if_modifyHead]
  split_ifs with ends
  · rfl
  · obtain ⟨line, later, same⟩ := List.exists_cons_of_ne_nil (List.splitOnP_ne_nil isBreak rest)
    rw [lineWords, same, List.modifyHead_cons, List.map_cons, List.map_cons, words_cons_gap blank]

/-- A gap adds one empty line for each of its breaks. -/
theorem lineWords_gap_append {gap : List α} (blank : IsGap isGap gap) (rest : List α) :
    lineWords isGap isBreak (gap ++ rest) =
      List.replicate (gap.countP isBreak) [] ++ lineWords isGap isBreak rest := by
  induction gap with
  | nil => rfl
  | cons unit gap ih =>
      obtain ⟨first, later⟩ := List.forall_mem_cons.mp blank
      rw [List.cons_append, lineWords_cons_gap first, ih later, List.countP_cons]
      split_ifs
      · rfl
      · rfl

variable (breakGap : ∀ unit, isBreak unit = true → isGap unit = true)

include breakGap

theorem lineWords_word_append {word rest : List α} (isWord : IsWord isGap word)
    (boundary : AtGap isGap rest) :
    lineWords isGap isBreak (word ++ rest) =
      (lineWords isGap isBreak rest).modifyHead (word :: ·) := by
  have unbroken : ∀ unit ∈ word, isBreak unit = false := by
    intro unit listed
    refine Bool.eq_false_iff.mpr fun ends => ?_
    have blank := breakGap unit ends
    rw [isWord.solid unit listed] at blank
    cases blank
  have split : (word ++ rest).splitOnP isBreak = (rest.splitOnP isBreak).modifyHead (word ++ ·) := by
    clear isWord
    induction word with
    | nil =>
        obtain ⟨line, later, same⟩ := List.exists_cons_of_ne_nil (List.splitOnP_ne_nil isBreak rest)
        rw [List.nil_append, same]
        rfl
    | cons unit word ih =>
        obtain ⟨first, others⟩ := List.forall_mem_cons.mp unbroken
        obtain ⟨line, later, same⟩ := List.exists_cons_of_ne_nil (List.splitOnP_ne_nil isBreak rest)
        rw [List.cons_append, List.splitOnP_cons_eq_if_modifyHead,
          if_neg (Bool.eq_false_iff.mp first), ih others, same]
        rfl
  cases rest with
  | nil =>
      rw [lineWords, split, List.splitOnP_nil]
      exact congrArg (· :: []) (words_word_append isWord boundary)
  | cons unit rest =>
      rw [lineWords, split, lineWords, List.splitOnP_cons_eq_if_modifyHead]
      split_ifs with ends
      · exact congrArg (· :: _) (words_word_append isWord atGap_nil)
      · obtain ⟨line, later, same⟩ := List.exists_cons_of_ne_nil (List.splitOnP_ne_nil isBreak rest)
        rw [same]
        refine congrArg (· :: _) (words_word_append isWord ?_)
        exact boundary

/-- A gap at the end adds its empty lines there. -/
theorem lineWords_append_gap {text gap : List α} (blank : IsGap isGap gap) :
    lineWords isGap isBreak (text ++ gap) =
      lineWords isGap isBreak text ++ List.replicate (gap.countP isBreak) [] := by
  have gaps {front : List α} (isFront : IsGap isGap front) :
      lineWords isGap isBreak front = List.replicate (front.countP isBreak) [] ++ [[]] := by
    rw [← List.append_nil front, lineWords_gap_append isFront, List.append_nil]
    rfl
  induction text using segments_induction isGap with
  | gap front isFront =>
      rw [gaps (isFront.append blank), gaps isFront, List.countP_append, List.replicate_add,
        List.append_assoc, List.append_assoc, ← List.replicate_succ', List.replicate_succ]
      rfl
  | segment front word rest isFront isWord boundary ih =>
      have later : AtGap isGap (rest ++ gap) := by
        cases rest with
        | nil => exact blank.atGap
        | cons unit rest => exact boundary
      obtain ⟨line, lines, same⟩ := List.exists_cons_of_ne_nil
        (List.ne_nil_of_length_eq_add_one (length_lineWords isGap isBreak rest))
      rw [List.append_assoc, List.append_assoc, List.append_assoc, lineWords_gap_append isFront,
        lineWords_gap_append isFront, lineWords_word_append breakGap isWord later,
        lineWords_word_append breakGap isWord boundary, ih, same, List.append_assoc]
      rfl

/-- The words of the lines are the words of the text. -/
theorem flatten_lineWords (text : List α) :
    (lineWords isGap isBreak text).flatten = words isGap text := by
  induction text using segments_induction isGap with
  | gap gap blank =>
      rw [← List.append_nil gap, lineWords_gap_append blank, words_gap_append blank,
        List.flatten_append, List.flatten_replicate_nil]
      rfl
  | segment gap word rest blank isWord boundary ih =>
      obtain ⟨line, later, same⟩ := List.exists_cons_of_ne_nil
        (List.ne_nil_of_length_eq_add_one (length_lineWords isGap isBreak rest))
      rw [List.append_assoc, lineWords_gap_append blank,
        lineWords_word_append breakGap isWord boundary, List.flatten_append,
        List.flatten_replicate_nil, words_gap_append blank, words_word_append isWord boundary, ← ih,
        same]
      rfl

end Lines

end Segments

end Adjudicate.Words
