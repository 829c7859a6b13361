/-
This file models `Number::toString` and the number tokens of JSON text.
-/

import Adjudicate.Js.Number

namespace Adjudicate.Js

def isDigit (unit : CodeUnit) : Bool := 0x30 ≤ unit.val && unit.val ≤ 0x39

def digitUnit (digit : Nat) : CodeUnit := Fin.ofNat _ (0x30 + digit)

/-- This is the decimal text of a natural number without leading zeros. -/
def digitsText (n : Nat) : JsString :=
  if n = 0 then [0x30] else (Nat.digits 10 n).reverse.map digitUnit

def digitsValue (digits : JsString) : Nat :=
  digits.foldl (fun value unit => 10 * value + (unit.val - 0x30)) 0

def zeros (count : Nat) : JsString := List.replicate count 0x30

/-- The `point` places the decimal point after that many digits, as `n` does in ECMAScript. -/
def layout (digits : JsString) (point : Int) : JsString :=
  if digits.length ≤ point ∧ point ≤ 21 then digits ++ zeros (point - digits.length).toNat
  else if 0 < point ∧ point ≤ 21 then
    digits.take point.toNat ++ 0x2E :: digits.drop point.toNat
  else if -6 < point ∧ point ≤ 0 then 0x30 :: 0x2E :: zeros (-point).toNat ++ digits
  else
    let mantissa := if digits.length = 1 then digits else digits.take 1 ++ 0x2E :: digits.drop 1
    mantissa ++ 0x65 :: (if point - 1 < 0 then 0x2D else 0x2B) :: digitsText (point - 1).natAbs

/-- This is `Number::toString` in radix ten. -/
def JsNumber.toString : JsNumber → JsString
  | .nan => "NaN"
  | .infinity negative => (if negative then [0x2D] else []) ++ utf16 "Infinity"
  | .finite negative x =>
      if x.significand = 0 then [0x30]
      else
        let digits := digitsText x.shortest.coefficient
        (if negative then [0x2D] else []) ++ layout digits (digits.length + x.shortest.exponent)

/-- The integer part of a JSON number has no leading zero. -/
def integerPart (digits : JsString) : Bool :=
  match digits with
  | [] => false
  | [_] => true
  | first :: _ => first ≠ 0x30

def scanFraction : JsString → Option (JsString × JsString)
  | [] => some ([], [])
  | unit :: rest =>
      if unit = 0x2E then
        if rest.takeWhile isDigit = [] then none
        else some (rest.takeWhile isDigit, rest.dropWhile isDigit)
      else some ([], unit :: rest)

def scanSign : JsString → Bool × JsString
  | [] => (false, [])
  | unit :: rest =>
      if unit = 0x2D then (true, rest) else if unit = 0x2B then (false, rest)
      else (false, unit :: rest)

def scanExponent : JsString → Option (Int × JsString)
  | [] => some (0, [])
  | unit :: rest =>
      if unit = 0x65 ∨ unit = 0x45 then
        let (negative, digits) := scanSign rest
        if digits.takeWhile isDigit = [] then none
        else
          let magnitude : Int := digitsValue (digits.takeWhile isDigit)
          some (if negative then -magnitude else magnitude, digits.dropWhile isDigit)
      else some (0, unit :: rest)

/-- The body of a number token is everything after its minus sign. -/
def parseMagnitude (text : JsString) : Option ℚ := do
  let integer := text.takeWhile isDigit
  guard (integerPart integer)
  let (fraction, afterFraction) ← scanFraction (text.dropWhile isDigit)
  let (exponent, rest) ← scanExponent afterFraction
  guard (rest = [])
  return digitsValue (integer ++ fraction) * 10 ^ (exponent - fraction.length)

/-- JSON reads a whole token by the number grammar and rounds its exact decimal value. -/
def parseNumber (token : JsString) : Option JsNumber :=
  match token with
  | [] => none
  | unit :: rest =>
      if unit = 0x2D then (parseMagnitude rest).map (JsNumber.ofRat true)
      else (parseMagnitude (unit :: rest)).map (JsNumber.ofRat false)

theorem isDigit_digitUnit {digit : Nat} (small : digit < 10) :
    isDigit (digitUnit digit) = true := by
  have value : (digitUnit digit).val = 0x30 + digit := by
    simp only [digitUnit, Fin.val_ofNat]
    omega
  simp only [isDigit, value, Bool.and_eq_true, decide_eq_true_eq]
  omega

theorem digitUnit_sub {digit : Nat} (small : digit < 10) : (digitUnit digit).val - 0x30 = digit := by
  simp only [digitUnit, Fin.val_ofNat]
  omega

theorem digitsText_isDigit (n : Nat) : ∀ unit ∈ digitsText n, isDigit unit = true := by
  unfold digitsText
  split
  · simp [isDigit]
  · intro unit member
    simp only [List.mem_map, List.mem_reverse] at member
    obtain ⟨digit, inside, rfl⟩ := member
    exact isDigit_digitUnit (Nat.digits_lt_base (by decide) inside)

theorem digitsText_ne_nil (n : Nat) : digitsText n ≠ [] := by
  unfold digitsText
  split
  · simp
  · next positive => simpa [Nat.digits_ne_nil_iff_ne_zero] using positive

theorem digitsValue_append (front back : JsString) :
    digitsValue (front ++ back) = digitsValue front * 10 ^ back.length + digitsValue back := by
  induction back using List.reverseRecOn with
  | nil => simp [digitsValue]
  | append_singleton back unit ih =>
      rw [← List.append_assoc]
      simp only [digitsValue, List.foldl_append, List.foldl_cons, List.foldl_nil,
        List.length_append, List.length_cons, List.length_nil] at ih ⊢
      rw [ih]
      ring

theorem digitsValue_zeros (count : Nat) : digitsValue (zeros count) = 0 := by
  induction count with
  | zero => rfl
  | succ count ih =>
      rw [zeros, List.replicate_succ', digitsValue_append, ← zeros, ih]
      simp [digitsValue]

theorem digitsValue_digitsText (n : Nat) : digitsValue (digitsText n) = n := by
  unfold digitsText
  split
  · next zero => simp [zero, digitsValue]
  · calc digitsValue ((Nat.digits 10 n).reverse.map digitUnit)
        = (Nat.digits 10 n).foldr (fun digit value => digit + 10 * value) 0 := by
          rw [digitsValue, List.foldl_map, List.foldl_reverse]
          apply List.foldr_ext
          intro digit member value
          rw [digitUnit_sub (Nat.digits_lt_base (by decide) member), add_comm]
      _ = n := by
          have whole := Nat.ofDigits_digits 10 n
          rw [Nat.ofDigits_eq_foldr] at whole
          simpa using whole

/-- A run of digits with a nonzero first digit is a legal integer part. -/
theorem integerPart_of_lead {first : CodeUnit} {rest : JsString} (nonzero : first ≠ 0x30) :
    integerPart (first :: rest) = true := by
  cases rest <;> simp [integerPart, nonzero]

/-- The text of a positive number starts with a nonzero digit. -/
theorem digitsText_lead (n : Nat) (positive : n ≠ 0) :
    ∃ first rest, digitsText n = first :: rest ∧ first ≠ 0x30 := by
  have nonempty := Nat.digits_ne_nil_iff_ne_zero (b := 10).mpr positive
  have last := Nat.getLast_digit_ne_zero 10 positive
  have small := Nat.digits_lt_base (b := 10) (by decide) (List.getLast_mem nonempty)
  refine ⟨digitUnit ((Nat.digits 10 n).getLast nonempty),
    (Nat.digits 10 n).dropLast.reverse.map digitUnit, ?_, ?_⟩
  · rw [digitsText, if_neg positive, ← List.map_cons]
    congr 1
    conv_lhs => rw [← List.dropLast_append_getLast nonempty, List.reverse_append]
    rfl
  · simp only [ne_eq, Fin.ext_iff, digitUnit, Fin.val_ofNat]
    change ¬(0x30 + _) % 0x10000 = 0x30
    omega

/-- A token is an integer part, an optional fraction, and an optional exponent. -/
def tokenText (integer fraction : JsString) (exponent : Option Int) : JsString :=
  integer ++ (if fraction = [] then [] else 0x2E :: fraction) ++
    match exponent with
    | none => []
    | some e => 0x65 :: (if e < 0 then 0x2D else 0x2B) :: digitsText e.natAbs

theorem scanExponent_text (exponent : Option Int) :
    scanExponent (tokenText [] [] exponent) = some (exponent.getD 0, []) := by
  cases exponent with
  | none => rfl
  | some e =>
      have run := run_append isDigit (digitsText e.natAbs) [] (digitsText_isDigit _)
        (by simp [Stops])
      rw [List.append_nil] at run
      have magnitude := digitsValue_digitsText e.natAbs
      by_cases negative : e < 0 <;>
        simp only [tokenText, negative, scanExponent, scanSign, run, magnitude, digitsText_ne_nil,
          if_true, if_false, List.nil_append, Option.getD_some, true_or, reduceCtorEq,
          show ¬((0x2B : CodeUnit) = 0x2D) by decide, Option.some.injEq, Prod.mk.injEq, and_true] <;>
        omega

theorem scanFraction_text (fraction : JsString) (exponent : Option Int)
    (all : ∀ unit ∈ fraction, isDigit unit = true) :
    scanFraction (tokenText [] fraction exponent) =
      some (fraction, tokenText [] [] exponent) := by
  have stops : Stops isDigit (tokenText [] [] exponent) := by
    cases exponent <;> simp [tokenText, Stops, isDigit]
  by_cases empty : fraction = []
  · subst empty
    cases exponent <;> simp [tokenText, scanFraction]
  · have run := run_append isDigit fraction (tokenText [] [] exponent) all stops
    have split : tokenText [] fraction exponent =
        0x2E :: (fraction ++ tokenText [] [] exponent) := by
      simp [tokenText, empty]
    rw [split, scanFraction, if_pos rfl, run.1, run.2, if_neg empty]

/-- The grammar reads back every token it can print, with its exact value. -/
theorem parseMagnitude_tokenText (integer fraction : JsString) (exponent : Option Int)
    (integerDigits : ∀ unit ∈ integer, isDigit unit = true)
    (lead : integerPart integer = true)
    (fractionDigits : ∀ unit ∈ fraction, isDigit unit = true) :
    parseMagnitude (tokenText integer fraction exponent) =
      some ((digitsValue (integer ++ fraction) : ℚ) *
        10 ^ (exponent.getD 0 - fraction.length)) := by
  have stops : Stops isDigit (tokenText [] fraction exponent) := by
    by_cases empty : fraction = [] <;> cases exponent <;>
      simp [tokenText, Stops, isDigit, empty]
  have split : tokenText integer fraction exponent =
      integer ++ tokenText [] fraction exponent := by simp [tokenText]
  have run := run_append isDigit integer (tokenText [] fraction exponent) integerDigits stops
  simp [parseMagnitude, split, run, lead, scanFraction_text fraction exponent fractionDigits,
    scanExponent_text]

/-- Every layout is one token with the value that its digits and point stand for. -/
theorem layout_eq_tokenText (first : CodeUnit) (others : JsString) (point : Int)
    (all : ∀ unit ∈ first :: others, isDigit unit = true) (nonzero : first ≠ 0x30) :
    ∃ integer fraction exponent,
      layout (first :: others) point = tokenText integer fraction exponent ∧
      (∀ unit ∈ integer, isDigit unit = true) ∧ integerPart integer = true ∧
      (∀ unit ∈ fraction, isDigit unit = true) ∧
      (digitsValue (integer ++ fraction) : ℚ) * 10 ^ (exponent.getD 0 - fraction.length) =
        digitsValue (first :: others) * 10 ^ (point - (first :: others).length) := by
  have zerosDigits (count : Nat) : ∀ unit ∈ zeros count, isDigit unit = true := by
    intro unit member
    rw [List.eq_of_mem_replicate member]
    decide
  unfold layout
  split
  · next whole =>
      obtain ⟨count, same⟩ := Int.eq_ofNat_of_zero_le (Int.sub_nonneg.mpr whole.1)
      refine ⟨first :: others ++ zeros count, [], none, ?_, ?_, ?_, by simp, ?_⟩
      · rw [same]
        simp [tokenText]
      · intro unit member
        exact (List.mem_append.mp member).elim (all unit) (zerosDigits count unit)
      · exact integerPart_of_lead nonzero
      · rw [same, List.append_nil, digitsValue_append, digitsValue_zeros]
        simp [zeros]
  · split
    · next _ inside =>
        obtain ⟨before, same⟩ := Int.eq_ofNat_of_zero_le (show 0 ≤ point - 1 by omega)
        have position : point.toNat = before + 1 := by omega
        have short : before < others.length := by
          have length := @List.length_cons _ first others
          omega
        refine ⟨first :: others.take before, others.drop before, none, ?_, ?_,
          integerPart_of_lead nonzero, ?_, ?_⟩
        · simp [tokenText, position, List.drop_eq_nil_iff, Nat.not_le.mpr short]
        · intro unit member
          exact all unit (List.mem_cons.mpr
            ((List.mem_cons.mp member).imp_right List.mem_of_mem_take))
        · exact fun unit member => all unit (List.mem_cons_of_mem _ (List.mem_of_mem_drop member))
        · simp only [List.cons_append, List.take_append_drop, Option.getD_none, List.length_drop,
            List.length_cons]
          congr 2
          omega
    · split
      · next _ small =>
          refine ⟨[0x30], zeros (-point).toNat ++ first :: others, none, ?_, ?_, rfl, ?_, ?_⟩
          · simp [tokenText]
          · simp [isDigit]
          · intro unit member
            exact (List.mem_append.mp member).elim (zerosDigits _ unit) (all unit)
          · rw [← List.append_assoc, digitsValue_append,
              show [0x30] ++ zeros (-point).toNat = zeros ((-point).toNat + 1) from rfl,
              digitsValue_zeros, Nat.zero_mul, Nat.zero_add]
            congr 2
            simp only [Option.getD_none, List.length_append, zeros, List.length_replicate]
            omega
      · by_cases single : others = []
        · subst single
          refine ⟨[first], [], some (point - 1), ?_, all, rfl, by simp, ?_⟩
          · simp [tokenText]
          · simp
        · refine ⟨[first], others, some (point - 1), ?_, ?_, rfl, ?_, ?_⟩
          · simp [tokenText, single]
          · exact fun unit member => all unit (by simp_all)
          · exact fun unit member => all unit (List.mem_cons_of_mem _ member)
          · simp only [List.singleton_append, Option.getD_some, List.length_cons]
            congr 2
            omega

/-- `Number::toString` of a positive magnitude reads back as its rational decimal. -/
theorem parseMagnitude_layout (d : Decimal) (positive : d.coefficient ≠ 0) :
    parseMagnitude (layout (digitsText d.coefficient)
      ((digitsText d.coefficient).length + d.exponent)) = some d.value := by
  obtain ⟨first, others, text, nonzero⟩ := digitsText_lead d.coefficient positive
  have all := digitsText_isDigit d.coefficient
  have total := digitsValue_digitsText d.coefficient
  rw [text] at all total ⊢
  obtain ⟨integer, fraction, exponent, same, integerDigits, lead, fractionDigits, value⟩ :=
    layout_eq_tokenText first others ((first :: others).length + d.exponent) all nonzero
  rw [same, parseMagnitude_tokenText integer fraction exponent integerDigits lead fractionDigits,
    value, total, Decimal.value]
  congr 3
  omega

/-- A readable magnitude starts with a digit. -/
theorem parseMagnitude_head {text : JsString} {value : ℚ} (read : parseMagnitude text = some value) :
    ∃ unit rest, text = unit :: rest ∧ isDigit unit = true := by
  cases text with
  | nil => simp [parseMagnitude, integerPart] at read
  | cons unit rest =>
      by_cases digit : isDigit unit = true
      · exact ⟨unit, rest, rfl, digit⟩
      · simp [parseMagnitude, integerPart, digit] at read

theorem unsigned_of_zero (negative : Bool) (x : Binary64) (none : x.significand = 0) :
    (JsNumber.finite negative x).unsigned = .finite false .zero := by
  obtain ⟨significand, exponent, canonical⟩ := x
  subst none
  have least : exponent = -1074 := by
    rcases canonical.2 with least | ⟨large, _⟩
    · exact least
    · omega
  subst least
  rfl

theorem unsigned_of_pos (negative : Bool) (x : Binary64) (some : x.significand ≠ 0) :
    (JsNumber.finite negative x).unsigned = .finite negative x := by
  obtain ⟨significand, exponent, canonical⟩ := x
  cases significand with
  | zero => contradiction
  | succ n => rfl

theorem ofRat_shortest (negative : Bool) (x : Binary64) :
    JsNumber.ofRat negative x.shortest.value = .finite negative x := by
  have reads := x.shortest_readsBack
  unfold Binary64.ReadsBack at reads
  simp only [JsNumber.ofRat, reads]

theorem shortest_coefficient_ne_zero (x : Binary64) (some : x.significand ≠ 0) :
    x.shortest.coefficient ≠ 0 := by
  intro zero
  have reads := x.shortest_readsBack
  simp only [Binary64.ReadsBack, Decimal.value, zero, Nat.cast_zero, zero_mul,
    Binary64.round, if_true, Option.some.injEq] at reads
  exact some (reads ▸ rfl)

/-- A printed finite number reads back up to the sign of zero. -/
theorem parseNumber_toString (number : JsNumber) (finite : number.isFinite = true) :
    parseNumber number.toString = some number.unsigned := by
  cases number with
  | nan => cases finite
  | infinity negative => cases finite
  | finite negative x =>
      by_cases none : x.significand = 0
      · rw [unsigned_of_zero negative x none]
        simp only [JsNumber.toString, none, if_true]
        decide +kernel
      · rw [unsigned_of_pos negative x none]
        have read := parseMagnitude_layout x.shortest (shortest_coefficient_ne_zero x none)
        simp only [JsNumber.toString, none, if_false]
        cases negative with
        | true => simp [parseNumber, read, ofRat_shortest]
        | false =>
            obtain ⟨unit, rest, text, digit⟩ := parseMagnitude_head read
            have plain : unit ≠ 0x2D := by
              rintro rfl
              exact absurd digit (by decide)
            rw [text] at read ⊢
            simp [parseNumber, plain, read, ofRat_shortest]

/-- Two finite numbers print alike exactly when `===` holds between them. -/
theorem toString_eq_iff {left right : JsNumber} (leftFinite : left.isFinite = true)
    (rightFinite : right.isFinite = true) :
    left.toString = right.toString ↔ left.unsigned = right.unsigned := by
  constructor
  · intro same
    have leftRead := parseNumber_toString left leftFinite
    rw [same, parseNumber_toString right rightFinite] at leftRead
    exact (Option.some.inj leftRead).symm
  · intro same
    have printed (number : JsNumber) (finite : number.isFinite = true) :
        number.unsigned.toString = number.toString := by
      cases number with
      | nan => rfl
      | infinity negative => rfl
      | finite negative x =>
          by_cases none : x.significand = 0
          · rw [unsigned_of_zero negative x none]
            simp [JsNumber.toString, none, Binary64.zero]
          · rw [unsigned_of_pos negative x none]
    rw [← printed left leftFinite, ← printed right rightFinite, same]

example : JsNumber.toString 2 = "2" := by decide +kernel

end Adjudicate.Js
