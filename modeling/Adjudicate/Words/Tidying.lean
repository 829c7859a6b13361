/-
This file removes words from a text, squeezes its gaps and shows when its lines survive.
-/

import Adjudicate.Words.Segments

namespace Adjudicate.Words

variable {α : Type}

def withoutWords [DecidableEq α] (isGap : α → Bool) (listed : List (List α)) (text : List α) :
    List α :=
  ((runs isGap text).filter (· ∉ listed)).flatten

/-- A gap of at least two units becomes one blank. -/
def squeeze (blank : α) (gap : List α) : List α := if 2 ≤ gap.length then [blank] else gap

def collapse (isGap : α → Bool) (blank : α) (text : List α) : List α :=
  (runs isGap text).flatMap fun run =>
    if run.head?.any isGap && 2 ≤ run.length then [blank] else run

def tidy (isGap : α → Bool) (blank : α) (text : List α) : List α :=
  (collapse isGap blank text).rdropWhile isGap

/-- Each listed word that the text still has goes, and the gaps are squeezed each time. -/
def removeEach [DecidableEq α] (isGap : α → Bool) (blank : α) (listed : List (List α))
    (text : List α) : List α :=
  listed.foldl (fun text word =>
    if word ∈ words isGap text then tidy isGap blank (withoutWords isGap [word] text) else text) text

/-- A break in a gap is the whole gap. -/
def Lone (isBreak : α → Bool) (gap : List α) : Prop := gap.any isBreak = true → gap.length = 1

/-- Every break is a gap of its own, and none ends the text. -/
def BreaksStandAlone (isGap isBreak : α → Bool) (text : List α) : Prop :=
  (∀ run ∈ runs isGap text, Lone isBreak run) ∧ text.getLast?.any isBreak = false

instance (isBreak : α → Bool) (gap : List α) : Decidable (Lone isBreak gap) :=
  inferInstanceAs (Decidable (_ → _))

instance (isGap isBreak : α → Bool) (text : List α) :
    Decidable (BreaksStandAlone isGap isBreak text) :=
  inferInstanceAs (Decidable (_ ∧ _))

section Removal

variable {isGap isBreak : α → Bool} {listed : List (List α)}

/-- Only words are listed. -/
def ListsWords (isGap : α → Bool) (listed : List (List α)) : Prop :=
  ∀ word ∈ listed, IsWord isGap word

variable (sound : ListsWords isGap listed)

include sound

theorem gap_not_listed {gap : List α} (blank : IsGap isGap gap) : gap ∉ listed := by
  intro member
  have isWord := sound gap member
  refine isWord.not_atGap [] ?_
  rw [List.append_nil]
  exact blank.atGap

variable [DecidableEq α]

theorem withoutWords_gap {gap : List α} (blank : IsGap isGap gap) :
    withoutWords isGap listed gap = gap := by
  rw [withoutWords, runs_gap blank]
  split_ifs with empty
  · exact empty.symm
  · rw [List.filter_cons, if_pos (decide_eq_true (gap_not_listed sound blank))]
    exact List.append_nil gap

theorem withoutWords_segment {gap word rest : List α} (blank : IsGap isGap gap)
    (isWord : IsWord isGap word) (boundary : AtGap isGap rest) :
    withoutWords isGap listed (gap ++ word ++ rest) =
      gap ++ (if word ∈ listed then [] else word) ++ withoutWords isGap listed rest := by
  have before : ((if gap = [] then [] else [gap]).filter (· ∉ listed)).flatten = gap := by
    have alone := withoutWords_gap sound blank
    rwa [withoutWords, runs_gap blank] at alone
  rw [withoutWords, runs_segment blank isWord boundary, List.filter_append, List.flatten_append,
    before, List.filter_cons, List.append_assoc]
  split_ifs with kept dropped dropped
  · exact (of_decide_eq_true kept dropped).elim
  · rfl
  · rfl
  · exact (kept (decide_eq_true dropped)).elim

theorem atGap_withoutWords {text : List α} (boundary : AtGap isGap text) :
    AtGap isGap (withoutWords isGap listed text) := by
  induction text using segments_induction isGap with
  | gap gap blank => rwa [withoutWords_gap sound blank]
  | segment gap word rest blank isWord atGap ih =>
      rw [withoutWords_segment sound blank isWord atGap, List.append_assoc]
      exact AtGap.append isWord boundary blank _

theorem words_withoutWords (text : List α) :
    words isGap (withoutWords isGap listed text) = (words isGap text).filter (· ∉ listed) := by
  induction text using segments_induction isGap with
  | gap gap blank =>
      rw [withoutWords_gap sound blank, words_gap blank]
      rfl
  | segment gap word rest blank isWord boundary ih =>
      rw [withoutWords_segment sound blank isWord boundary, words_segment blank isWord boundary,
        List.filter_cons]
      by_cases dropped : word ∈ listed
      · rw [if_pos dropped, if_neg (by simpa using dropped), List.append_nil, words_gap_append blank,
          ih]
      · rw [if_neg dropped, if_pos (decide_eq_true dropped),
          words_segment blank isWord (atGap_withoutWords sound boundary), ih]

theorem lineWords_withoutWords (breakGap : ∀ unit, isBreak unit = true → isGap unit = true)
    (text : List α) :
    lineWords isGap isBreak (withoutWords isGap listed text) =
      (lineWords isGap isBreak text).map fun line => line.filter (· ∉ listed) := by
  induction text using segments_induction isGap with
  | gap gap blank =>
      rw [withoutWords_gap sound blank, ← List.append_nil gap, lineWords_gap_append blank,
        List.map_append, List.map_replicate]
      rfl
  | segment gap word rest blank isWord boundary ih =>
      rw [withoutWords_segment sound blank isWord boundary, List.append_assoc, List.append_assoc,
        lineWords_gap_append blank, lineWords_gap_append blank, List.map_append, List.map_replicate,
        lineWords_word_append breakGap isWord boundary]
      refine congrArg (_ ++ ·) ?_
      obtain ⟨line, later, same⟩ := List.exists_cons_of_ne_nil
        (List.ne_nil_of_length_eq_add_one (length_lineWords isGap isBreak rest))
      by_cases dropped : word ∈ listed
      · rw [if_pos dropped, List.nil_append, ih, same, List.modifyHead_cons, List.map_cons,
          List.map_cons, List.filter_cons, if_neg (by simpa using dropped)]
      · rw [if_neg dropped, lineWords_word_append breakGap isWord (atGap_withoutWords sound boundary),
          ih, same, List.modifyHead_cons, List.map_cons, List.map_cons, List.modifyHead_cons,
          List.filter_cons, if_pos (decide_eq_true dropped)]

/-- A text without the listed words stays as it is. -/
theorem withoutWords_eq_self {text : List α} (absent : ∀ word ∈ words isGap text, word ∉ listed) :
    withoutWords isGap listed text = text := by
  induction text using segments_induction isGap with
  | gap gap blank => exact withoutWords_gap sound blank
  | segment gap word rest blank isWord boundary ih =>
      rw [words_segment blank isWord boundary] at absent
      obtain ⟨kept, later⟩ := List.forall_mem_cons.mp absent
      rw [withoutWords_segment sound blank isWord boundary, if_neg kept, ih later]

end Removal

section Tidying

variable {isGap isBreak : α → Bool} {blank : α}

theorem collapse_run {run : List α} (value : Bool) (uniform : ∀ unit ∈ run, isGap unit = value) :
    (if run.head?.any isGap && 2 ≤ run.length then [blank] else run) =
      if value then squeeze blank run else run := by
  cases run with
  | nil => cases value <;> rfl
  | cons unit run =>
      rw [List.head?_cons, Option.any_some, uniform unit List.mem_cons_self]
      cases value with
      | false => rfl
      | true =>
          rw [Bool.true_and, squeeze]
          simp only [decide_eq_true_eq, if_true]

theorem collapse_gap (blank : α) {gap : List α} (gapped : IsGap isGap gap) :
    collapse isGap blank gap = squeeze blank gap := by
  rw [collapse, runs_gap gapped]
  split_ifs with empty
  · rw [empty]
    rfl
  · rw [List.flatMap_cons, collapse_run true gapped, if_pos rfl]
    exact List.append_nil _

theorem collapse_segment {gap word rest : List α} (gapped : IsGap isGap gap)
    (isWord : IsWord isGap word) (boundary : AtGap isGap rest) :
    collapse isGap blank (gap ++ word ++ rest) =
      squeeze blank gap ++ word ++ collapse isGap blank rest := by
  have before := collapse_gap blank gapped
  rw [collapse, runs_gap gapped] at before
  rw [collapse, runs_segment gapped isWord boundary, List.flatMap_append, before, List.flatMap_cons,
    collapse_run false isWord.solid, if_neg nofun, List.append_assoc]
  rfl

theorem squeeze_isGap (blankGap : isGap blank = true) {gap : List α} (gapped : IsGap isGap gap) :
    IsGap isGap (squeeze blank gap) := by
  rw [squeeze]
  split_ifs
  · exact List.forall_mem_singleton.mpr blankGap
  · exact gapped

/-- What ends with a word is not trimmed. -/
theorem rdropWhile_word_append {word : List α} (isWord : IsWord isGap word) (front rest : List α) :
    (front ++ word ++ rest).rdropWhile isGap = front ++ word ++ rest.rdropWhile isGap := by
  induction rest using List.reverseRecOn with
  | nil =>
      rw [List.rdropWhile_nil, List.append_nil, List.rdropWhile_eq_self_iff]
      intro filled
      rw [List.getLast_append_of_ne_nil filled isWord.nonempty,
        isWord.solid _ (List.getLast_mem isWord.nonempty)]
      exact nofun
  | append_singleton rest unit ih =>
      rw [← List.append_assoc, List.rdropWhile_concat, List.rdropWhile_concat]
      split_ifs
      · exact ih
      · rw [List.append_assoc, List.append_assoc]

theorem squeeze_eq_nil (blank : α) (gap : List α) : squeeze blank gap = [] ↔ gap = [] := by
  rw [squeeze]
  split_ifs with long
  · refine iff_of_false nofun fun empty => ?_
    rw [empty] at long
    cases long
  · rfl

section Gaps

variable (blankGap : isGap blank = true)

include blankGap

theorem tidy_gap {gap : List α} (gapped : IsGap isGap gap) : tidy isGap blank gap = [] := by
  rw [tidy, collapse_gap blank gapped, List.rdropWhile_eq_nil_iff]
  exact squeeze_isGap blankGap gapped

omit blankGap in
theorem tidy_segment {gap word rest : List α} (gapped : IsGap isGap gap)
    (isWord : IsWord isGap word) (boundary : AtGap isGap rest) :
    tidy isGap blank (gap ++ word ++ rest) =
      squeeze blank gap ++ word ++ tidy isGap blank rest := by
  rw [tidy, collapse_segment gapped isWord boundary, rdropWhile_word_append isWord, tidy]

theorem atGap_tidy {text : List α} (boundary : AtGap isGap text) :
    AtGap isGap (tidy isGap blank text) := by
  induction text using segments_induction isGap with
  | gap gap gapped =>
      rw [tidy_gap blankGap gapped]
      exact atGap_nil
  | segment gap word rest gapped isWord atGap ih =>
      rw [tidy_segment gapped isWord atGap, List.append_assoc]
      have filled : gap ≠ [] := by
        rintro rfl
        exact isWord.not_atGap rest boundary
      obtain ⟨unit, later, same⟩ :=
        List.exists_cons_of_ne_nil (mt (squeeze_eq_nil blank gap).mp filled)
      have first := (squeeze_isGap blankGap gapped).atGap
      rw [same] at first ⊢
      exact first

/-- The words of a text are untouched when its gaps are squeezed. -/
theorem words_tidy (text : List α) : words isGap (tidy isGap blank text) = words isGap text := by
  induction text using segments_induction isGap with
  | gap gap gapped =>
      rw [tidy_gap blankGap gapped, words_gap gapped]
      rfl
  | segment gap word rest gapped isWord boundary ih =>
      rw [tidy_segment gapped isWord boundary, words_segment gapped isWord boundary,
        words_segment (squeeze_isGap blankGap gapped) isWord (atGap_tidy blankGap boundary), ih]

theorem tidy_append_gap {text gap : List α} (gapped : IsGap isGap gap) :
    tidy isGap blank (text ++ gap) = tidy isGap blank text := by
  induction text using segments_induction isGap with
  | gap front isFront =>
      rw [tidy_gap blankGap isFront, tidy_gap blankGap (isFront.append gapped)]
  | segment front word rest isFront isWord boundary ih =>
      have later : AtGap isGap (rest ++ gap) := by
        cases rest with
        | nil => exact gapped.atGap
        | cons unit rest => exact boundary
      rw [List.append_assoc, tidy_segment isFront isWord later, ih,
        tidy_segment isFront isWord boundary]

end Gaps

theorem last_unbroken {text : List α} (unbroken : text.any isBreak = false) :
    text.getLast?.any isBreak = false := by
  cases last : text.getLast? with
  | none => rfl
  | some unit =>
      exact Bool.eq_false_iff.mpr (List.any_eq_false.mp unbroken unit (List.mem_of_getLast? last))

theorem lone_of_unbroken {gap : List α} (unbroken : gap.any isBreak = false) : Lone isBreak gap := by
  intro broken
  rw [unbroken] at broken
  cases broken

theorem breaksStandAlone_gap {gap : List α} (gapped : IsGap isGap gap) :
    BreaksStandAlone isGap isBreak gap ↔ gap.any isBreak = false := by
  rw [BreaksStandAlone, runs_gap gapped]
  split_ifs with empty
  · rw [empty]
    exact iff_of_true ⟨nofun, rfl⟩ rfl
  · rw [List.forall_mem_singleton]
    constructor
    · rintro ⟨lone, last⟩
      by_contra broken
      obtain ⟨unit, rfl⟩ := List.length_eq_one_iff.mp (lone (Bool.of_not_eq_false broken))
      exact broken (by simpa using last)
    · intro unbroken
      exact ⟨lone_of_unbroken unbroken, last_unbroken unbroken⟩

section Breaks

variable (breakGap : ∀ unit, isBreak unit = true → isGap unit = true)

include breakGap

theorem word_unbroken {word : List α} (isWord : IsWord isGap word) : word.any isBreak = false := by
  rw [List.any_eq_false]
  intro unit listed ends
  have gap := breakGap unit ends
  rw [isWord.solid unit listed] at gap
  cases gap

theorem breaksStandAlone_segment {gap word rest : List α} (gapped : IsGap isGap gap)
    (isWord : IsWord isGap word) (boundary : AtGap isGap rest) :
    BreaksStandAlone isGap isBreak (gap ++ word ++ rest) ↔
      Lone isBreak gap ∧ BreaksStandAlone isGap isBreak rest := by
  have front : (∀ run ∈ if gap = [] then [] else [gap], Lone isBreak run) ↔ Lone isBreak gap := by
    split_ifs with empty
    · rw [empty]
      exact iff_of_true nofun (lone_of_unbroken rfl)
    · exact List.forall_mem_singleton
  have solid : Lone isBreak word := lone_of_unbroken (word_unbroken breakGap isWord)
  have last : (gap ++ word ++ rest).getLast?.any isBreak = rest.getLast?.any isBreak := by
    cases rest with
    | nil =>
        rw [List.append_nil, List.getLast?_append_of_ne_nil _ isWord.nonempty]
        exact last_unbroken (word_unbroken breakGap isWord)
    | cons unit rest => rw [List.getLast?_append_of_ne_nil _ (List.cons_ne_nil unit rest)]
  rw [BreaksStandAlone, runs_segment gapped isWord boundary, List.forall_mem_append, front,
    List.forall_mem_cons, last, BreaksStandAlone]
  exact ⟨fun ⟨⟨lone, _, later⟩, ends⟩ => ⟨lone, later, ends⟩,
    fun ⟨lone, later, ends⟩ => ⟨⟨lone, solid, later⟩, ends⟩⟩

/-- A gap whose break has company stays so before every text. -/
theorem lone_of_breaksStandAlone {gap text : List α} (gapped : IsGap isGap gap)
    (alone : BreaksStandAlone isGap isBreak (gap ++ text)) : Lone isBreak gap := by
  induction text using segments_induction isGap with
  | gap later isLater =>
      have unbroken := (breaksStandAlone_gap (gapped.append isLater)).mp alone
      rw [List.any_append, Bool.or_eq_false_iff] at unbroken
      exact lone_of_unbroken unbroken.1
  | segment later word rest isLater isWord boundary _ =>
      rw [← List.append_assoc, ← List.append_assoc, breaksStandAlone_segment breakGap
        (gapped.append isLater) isWord boundary] at alone
      intro broken
      have whole := alone.1 (by rw [List.any_append, broken, Bool.true_or])
      have filled : gap.length ≠ 0 := by
        intro empty
        rw [List.length_eq_zero_iff.mp empty] at broken
        cases broken
      rw [List.length_append] at whole
      omega

theorem breaksStandAlone_tidy (blankGap : isGap blank = true) (text : List α) :
    BreaksStandAlone isGap isBreak (tidy isGap blank text) := by
  induction text using segments_induction isGap with
  | gap gap gapped =>
      rw [tidy_gap blankGap gapped, breaksStandAlone_gap nofun]
      rfl
  | segment gap word rest gapped isWord boundary ih =>
      rw [tidy_segment gapped isWord boundary, breaksStandAlone_segment breakGap
        (squeeze_isGap blankGap gapped) isWord (atGap_tidy blankGap boundary)]
      refine ⟨fun broken => ?_, ih⟩
      obtain ⟨unit, listed, -⟩ := List.any_eq_true.mp broken
      have filled := List.length_pos_of_mem listed
      rw [squeeze] at filled ⊢
      split_ifs at filled ⊢ with long
      · rfl
      · omega

end Breaks

section Squeezing

variable (blankBreak : isBreak blank = false)

include blankBreak

theorem countP_squeeze (gap : List α) :
    (squeeze blank gap).countP isBreak ≤ gap.countP isBreak ∧
      ((squeeze blank gap).countP isBreak = gap.countP isBreak ↔ Lone isBreak gap) := by
  rw [squeeze]
  split_ifs with long
  · rw [List.countP_singleton, if_neg (Bool.eq_false_iff.mp blankBreak)]
    refine ⟨Nat.zero_le _, ?_⟩
    constructor
    · intro none broken
      obtain ⟨unit, listed, ends⟩ := List.any_eq_true.mp broken
      exact (List.countP_eq_zero.mp none.symm unit listed ends).elim
    · intro lone
      refine (List.countP_eq_zero.mpr fun unit listed ends => ?_).symm
      have single := lone (List.any_eq_true.mpr ⟨unit, listed, ends⟩)
      omega
  · refine ⟨le_rfl, iff_of_true rfl fun broken => ?_⟩
    obtain ⟨unit, listed, -⟩ := List.any_eq_true.mp broken
    have filled := List.length_pos_of_mem listed
    omega

/-- A lone gap keeps its breaks. -/
theorem any_squeeze {gap : List α} (lone : Lone isBreak gap) :
    (squeeze blank gap).any isBreak = gap.any isBreak := by
  rw [squeeze]
  split_ifs with long
  · have unbroken : gap.any isBreak = false := by
      refine Bool.eq_false_iff.mpr fun broken => ?_
      have single := lone broken
      omega
    rw [unbroken, List.any_cons, blankBreak]
    rfl
  · rfl

variable (breakGap : ∀ unit, isBreak unit = true → isGap unit = true)
  (blankGap : isGap blank = true)

include breakGap blankGap

/-- Squeezing adds no break, and it keeps all of them only where each stands alone. -/
theorem countP_tidy (text : List α) :
    (tidy isGap blank text).countP isBreak ≤ text.countP isBreak ∧
      ((tidy isGap blank text).countP isBreak = text.countP isBreak ↔
        BreaksStandAlone isGap isBreak text) := by
  induction text using segments_induction isGap with
  | gap gap gapped =>
      rw [tidy_gap blankGap gapped, breaksStandAlone_gap gapped, List.any_eq_false]
      exact ⟨Nat.zero_le _, eq_comm.trans List.countP_eq_zero⟩
  | segment gap word rest gapped isWord boundary ih =>
      obtain ⟨fewer, same⟩ := countP_squeeze blankBreak gap
      rw [tidy_segment gapped isWord boundary, breaksStandAlone_segment breakGap gapped isWord boundary,
        ← ih.2, ← same]
      simp only [List.countP_append]
      have later := ih.1
      omega

theorem lineWords_tidy {text : List α} (alone : BreaksStandAlone isGap isBreak text) :
    lineWords isGap isBreak (tidy isGap blank text) = lineWords isGap isBreak text := by
  induction text using segments_induction isGap with
  | gap gap gapped =>
      have none : gap.countP isBreak = 0 :=
        List.countP_eq_zero.mpr (List.any_eq_false.mp ((breaksStandAlone_gap gapped).mp alone))
      have lines := @lineWords_gap_append _ isGap isBreak _ gapped []
      rw [List.append_nil, none] at lines
      rw [tidy_gap blankGap gapped, lines]
      rfl
  | segment gap word rest gapped isWord boundary ih =>
      obtain ⟨lone, later⟩ := (breaksStandAlone_segment breakGap gapped isWord boundary).mp alone
      rw [tidy_segment gapped isWord boundary, List.append_assoc, List.append_assoc,
        lineWords_gap_append gapped, lineWords_gap_append (squeeze_isGap blankGap gapped),
        lineWords_word_append breakGap isWord boundary,
        lineWords_word_append breakGap isWord (atGap_tidy blankGap boundary), ih later,
        (countP_squeeze blankBreak gap).2.mpr lone]

end Squeezing

end Tidying

end Adjudicate.Words
