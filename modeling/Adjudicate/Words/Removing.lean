/-
This file shows when a text keeps its lines while words are removed from it one after another.
-/

import Adjudicate.Words.Tidying

namespace Adjudicate.Words

variable {α : Type} [DecidableEq α]

section Removing

variable {isGap isBreak : α → Bool} {blank : α} {listed : List (List α)}

theorem removeEach_nil (text : List α) : removeEach isGap blank [] text = text := rfl

theorem removeEach_cons (word : List α) (text : List α) :
    removeEach isGap blank (word :: listed) text =
      removeEach isGap blank listed
        (if word ∈ words isGap text then tidy isGap blank (withoutWords isGap [word] text)
        else text) := rfl

theorem withoutWords_gap_append (sound : ListsWords isGap listed) {gap : List α}
    (gapped : IsGap isGap gap) (text : List α) :
    withoutWords isGap listed (gap ++ text) = gap ++ withoutWords isGap listed text := by
  induction text using segments_induction isGap with
  | gap later isLater =>
      rw [withoutWords_gap sound isLater, withoutWords_gap sound (gapped.append isLater)]
  | segment later word rest isLater isWord boundary _ =>
      rw [← List.append_assoc, ← List.append_assoc,
        withoutWords_segment sound (gapped.append isLater) isWord boundary,
        withoutWords_segment sound isLater isWord boundary]
      simp only [List.append_assoc]

theorem withoutWords_nil (text : List α) : withoutWords isGap [] text = text :=
  withoutWords_eq_self (List.forall_mem_nil _) fun _ _ => List.not_mem_nil

theorem withoutWords_cons (sound : ListsWords isGap listed) {word : List α}
    (isWord : IsWord isGap word) (text : List α) :
    withoutWords isGap (word :: listed) text =
      withoutWords isGap listed (withoutWords isGap [word] text) := by
  have single : ListsWords isGap [word] := List.forall_mem_singleton.mpr isWord
  have whole : ListsWords isGap (word :: listed) := List.forall_mem_cons.mpr ⟨isWord, sound⟩
  induction text using segments_induction isGap with
  | gap gap gapped =>
      rw [withoutWords_gap whole gapped, withoutWords_gap single gapped,
        withoutWords_gap sound gapped]
  | segment gap first rest gapped isFirst boundary ih =>
      rw [withoutWords_segment whole gapped isFirst boundary,
        withoutWords_segment single gapped isFirst boundary]
      by_cases same : first = word
      · rw [if_pos (List.mem_cons.mpr (.inl same)), if_pos (List.mem_singleton.mpr same),
          List.append_nil, withoutWords_gap_append sound gapped, ih]
      · rw [if_neg (mt List.mem_singleton.mp same), withoutWords_segment sound gapped isFirst
          (atGap_withoutWords single boundary), ih]
        simp only [List.mem_cons, same, false_or]

theorem withoutWords_append_gap (sound : ListsWords isGap listed) {gap : List α}
    (gapped : IsGap isGap gap) (text : List α) :
    withoutWords isGap listed (text ++ gap) = withoutWords isGap listed text ++ gap := by
  induction text using segments_induction isGap with
  | gap front isFront =>
      rw [withoutWords_gap sound isFront, withoutWords_gap sound (isFront.append gapped)]
  | segment front word rest isFront isWord boundary ih =>
      have later : AtGap isGap (rest ++ gap) := by
        cases rest with
        | nil => exact gapped.atGap
        | cons unit rest => exact boundary
      rw [List.append_assoc, withoutWords_segment sound isFront isWord later, ih,
        withoutWords_segment sound isFront isWord boundary, List.append_assoc _ _ gap]

theorem countP_withoutWords (sound : ListsWords isGap listed)
    (breakGap : ∀ unit, isBreak unit = true → isGap unit = true) (text : List α) :
    (withoutWords isGap listed text).countP isBreak = text.countP isBreak := by
  have lines := congrArg List.length (lineWords_withoutWords sound breakGap text)
  rw [List.length_map, length_lineWords, length_lineWords] at lines
  exact Nat.succ_injective lines

/-- Both gaps are empty or broken together, and a break stands alone in both or in neither. -/
structure Alike (isBreak : α → Bool) (gap squeezed : List α) : Prop where
  empty : gap = [] ↔ squeezed = []
  broken : gap.any isBreak = squeezed.any isBreak
  single : gap.any isBreak = true → (gap.length = 1 ↔ squeezed.length = 1)

omit [DecidableEq α] in
theorem Alike.lone {gap squeezed : List α} (alike : Alike isBreak gap squeezed) :
    Lone isBreak gap ↔ Lone isBreak squeezed := by
  rw [Lone, Lone, ← alike.broken]
  exact forall_congr' alike.single

omit [DecidableEq α] in
theorem Alike.append (blankBreak : isBreak blank = false) {front squeezed gap : List α}
    (alike : Alike isBreak front squeezed) (lone : Lone isBreak gap) :
    Alike isBreak (front ++ gap) (squeezed ++ squeeze blank gap) := by
  have broken := any_squeeze blankBreak lone
  have gapEmpty := (squeeze_eq_nil blank gap).symm
  refine ⟨?_, ?_, ?_⟩
  · rw [List.append_eq_nil_iff, List.append_eq_nil_iff, alike.empty, gapEmpty]
  · rw [List.any_append, List.any_append, alike.broken, broken]
  · intro some
    have frontEmpty := alike.empty
    have frontSingle := alike.single
    have filled {text : List α} (broken : text.any isBreak = true) : 0 < text.length := by
      obtain ⟨unit, listed, -⟩ := List.any_eq_true.mp broken
      exact List.length_pos_of_mem listed
    rw [← List.length_eq_zero_iff, ← List.length_eq_zero_iff] at gapEmpty frontEmpty
    rw [List.any_append, Bool.or_eq_true] at some
    rw [List.length_append, List.length_append]
    obtain frontBroken | gapBroken := some
    · have long := filled frontBroken
      have squeezedLong := filled (alike.broken ▸ frontBroken)
      have single := frontSingle frontBroken
      omega
    · have single := lone gapBroken
      have kept : squeeze blank gap = gap := by
        rw [squeeze, if_neg (by omega)]
      rw [kept]
      omega

variable (sound : ListsWords isGap listed) (blankBreak : isBreak blank = false)
  (breakGap : ∀ unit, isBreak unit = true → isGap unit = true) (blankGap : isGap blank = true)

include sound blankBreak breakGap blankGap

/-- A gap that squeezing changes stays changed in the gap into which a removal merges it. -/
theorem breaksStandAlone_merged (text : List α) {front squeezed : List α}
    (isFront : IsGap isGap front) (isSqueezed : IsGap isGap squeezed)
    (alike : Alike isBreak front squeezed) :
    BreaksStandAlone isGap isBreak (front ++ withoutWords isGap listed text) ↔
      BreaksStandAlone isGap isBreak text ∧
        BreaksStandAlone isGap isBreak
          (squeezed ++ withoutWords isGap listed (tidy isGap blank text)) := by
  induction text using segments_induction isGap generalizing front squeezed with
  | gap gap gapped =>
      rw [withoutWords_gap sound gapped, tidy_gap blankGap gapped, @withoutWords_gap _ isGap _ sound _ [] nofun,
        List.append_nil, breaksStandAlone_gap (isFront.append gapped), breaksStandAlone_gap gapped,
        breaksStandAlone_gap isSqueezed, List.any_append, Bool.or_eq_false_iff, alike.broken]
      exact and_comm
  | segment gap word rest gapped isWord boundary ih =>
      have isSqueeze := squeeze_isGap blankGap gapped
      rw [withoutWords_segment sound gapped isWord boundary, tidy_segment gapped isWord boundary,
        withoutWords_segment sound isSqueeze isWord (atGap_tidy blankGap boundary),
        breaksStandAlone_segment breakGap gapped isWord boundary]
      by_cases lone : Lone isBreak gap
      · have merged := alike.append blankBreak lone
        have isMerged := isFront.append gapped
        have isMergedSqueeze := isSqueezed.append isSqueeze
        simp only [lone, true_and, ← List.append_assoc]
        split_ifs with dropped
        · rw [List.append_nil, List.append_nil]
          exact ih isMerged isMergedSqueeze merged
        · rw [breaksStandAlone_segment breakGap isMerged isWord (atGap_withoutWords sound boundary),
            breaksStandAlone_segment breakGap isMergedSqueeze isWord
              (atGap_withoutWords sound (atGap_tidy blankGap boundary)), merged.lone]
          have later := @ih [] [] nofun nofun ⟨Iff.rfl, rfl, fun _ => Iff.rfl⟩
          rw [List.nil_append, List.nil_append] at later
          rw [later]
          exact and_left_comm
      · refine iff_of_false (fun alone => ?_) fun both => lone both.1.1
        rw [List.append_assoc, ← List.append_assoc] at alone
        have whole := lone_of_breaksStandAlone breakGap (isFront.append gapped) alone
        apply lone
        intro broken
        have single := whole (by rw [List.any_append, broken, Bool.or_true])
        obtain ⟨unit, member, -⟩ := List.any_eq_true.mp broken
        have filled := List.length_pos_of_mem member
        rw [List.length_append] at single
        omega

omit sound blankBreak breakGap in
theorem words_removeEach (sound : ListsWords isGap listed) (text : List α) :
    words isGap (removeEach isGap blank listed text) = (words isGap text).filter (· ∉ listed) := by
  induction listed generalizing text with
  | nil => exact (List.filter_eq_self.mpr fun _ _ => rfl).symm
  | cons word listed ih =>
      obtain ⟨isWord, later⟩ := List.forall_mem_cons.mp sound
      have single : ListsWords isGap [word] := List.forall_mem_singleton.mpr isWord
      rw [removeEach_cons, ih later]
      split_ifs with present
      · rw [words_tidy blankGap, words_withoutWords single, List.filter_filter]
        refine List.filter_congr fun other _ => ?_
        simp only [List.mem_cons, List.not_mem_nil, or_false, not_or, Bool.decide_and, Bool.and_comm]
      · refine List.filter_congr fun other listed => ?_
        have differs : other ≠ word := fun same => present (same ▸ listed)
        simp only [List.mem_cons, differs, false_or]

omit sound in
theorem countP_removeEach_le (sound : ListsWords isGap listed) (text : List α) :
    (removeEach isGap blank listed text).countP isBreak ≤ text.countP isBreak := by
  induction listed generalizing text with
  | nil => exact le_rfl
  | cons word listed ih =>
      obtain ⟨isWord, later⟩ := List.forall_mem_cons.mp sound
      have single : ListsWords isGap [word] := List.forall_mem_singleton.mpr isWord
      rw [removeEach_cons]
      refine (ih later _).trans ?_
      split_ifs
      · rw [← countP_withoutWords single breakGap text]
        exact (countP_tidy blankBreak breakGap blankGap _).1
      · exact le_rfl

omit sound blankBreak breakGap in
/-- What trails the last word does not matter once a word has been removed. -/
theorem removeEach_append_gap (sound : ListsWords isGap listed) {text gap : List α}
    (gapped : IsGap isGap gap) (some : ∃ word ∈ listed, word ∈ words isGap text) :
    removeEach isGap blank listed (text ++ gap) = removeEach isGap blank listed text := by
  induction listed with
  | nil =>
      obtain ⟨_, ⟨⟩, -⟩ := some
  | cons word listed ih =>
      obtain ⟨isWord, later⟩ := List.forall_mem_cons.mp sound
      have single : ListsWords isGap [word] := List.forall_mem_singleton.mpr isWord
      have same : words isGap (text ++ gap) = words isGap text := by
        rw [words_append gapped.atGap, words_gap gapped, List.append_nil]
      rw [removeEach_cons, removeEach_cons, same]
      split_ifs with present
      · rw [withoutWords_append_gap single gapped, tidy_append_gap blankGap gapped]
      · obtain ⟨other, member, found⟩ := some
        obtain rfl | member := List.mem_cons.mp member
        · exact (present found).elim
        · exact ih later ⟨other, member, found⟩

/-- The lines survive exactly when no break gets company while the words are taken out. -/
theorem lineWords_removeEach {text : List α}
    (some : (∃ word ∈ listed, word ∈ words isGap text) ∨ BreaksStandAlone isGap isBreak text) :
    lineWords isGap isBreak (removeEach isGap blank listed text) =
        lineWords isGap isBreak (withoutWords isGap listed text) ↔
      BreaksStandAlone isGap isBreak (withoutWords isGap listed text) := by
  induction listed generalizing text with
  | nil =>
      obtain ⟨_, ⟨⟩, -⟩ | alone := some
      rw [removeEach_nil, withoutWords_nil]
      exact iff_of_true rfl alone
  | cons word listed ih =>
      obtain ⟨isWord, later⟩ := List.forall_mem_cons.mp sound
      have single : ListsWords isGap [word] := List.forall_mem_singleton.mpr isWord
      rw [removeEach_cons, withoutWords_cons later isWord]
      split_ifs with present
      · have alone := breaksStandAlone_tidy breakGap blankGap (withoutWords isGap [word] text)
        have kept := ih later (.inr alone)
        have merged := @breaksStandAlone_merged _ _ isGap isBreak blank listed later blankBreak breakGap
          blankGap (withoutWords isGap [word] text) [] [] nofun nofun ⟨Iff.rfl, rfl, fun _ => Iff.rfl⟩
        rw [List.nil_append, List.nil_append] at merged
        have counted := countP_tidy blankBreak breakGap blankGap (withoutWords isGap [word] text)
        have fewer := countP_removeEach_le blankBreak breakGap blankGap later
          (tidy isGap blank (withoutWords isGap [word] text))
        have lines (whole : BreaksStandAlone isGap isBreak (withoutWords isGap [word] text)) :
            lineWords isGap isBreak
                (withoutWords isGap listed (tidy isGap blank (withoutWords isGap [word] text))) =
              lineWords isGap isBreak (withoutWords isGap listed (withoutWords isGap [word] text)) := by
          rw [lineWords_withoutWords later breakGap, lineWords_withoutWords later breakGap,
            lineWords_tidy blankBreak breakGap blankGap whole]
        rw [merged]
        constructor
        · intro same
          have length := congrArg List.length same
          rw [length_lineWords, length_lineWords, countP_withoutWords later breakGap] at length
          have whole := counted.2.mp (by omega)
          exact ⟨whole, kept.mp (same.trans (lines whole).symm)⟩
        · rintro ⟨whole, after⟩
          exact (kept.mpr after).trans (lines whole)
      · have unchanged : withoutWords isGap [word] text = text := by
          refine withoutWords_eq_self single fun other found same => ?_
          exact present (List.mem_singleton.mp same ▸ found)
        rw [unchanged]
        refine ih later (some.imp_left ?_)
        rintro ⟨other, member, found⟩
        obtain rfl | member := List.mem_cons.mp member
        · exact (present found).elim
        · exact ⟨other, member, found⟩

end Removing

end Adjudicate.Words
