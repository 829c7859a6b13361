/-
This file models the UTF-8 encoding of JavaScript strings and its decoding with replacements.
-/

import Adjudicate.Js.Text

namespace Adjudicate.Js

abbrev Byte := Fin 0x100

instance neZero_bytes : NeZero (0x100 : Nat) := ⟨by decide⟩

def replacementPoint : Nat := 0xFFFD

/-- A lone surrogate counts as the replacement character. -/
def codePoints : JsString → List Nat
  | [] => []
  | [unit] => [if isSurrogate unit then replacementPoint else unit.val]
  | first :: second :: rest =>
      if isHighSurrogate first && isLowSurrogate second then
        (0x10000 + (first.val - 0xD800) * 0x400 + (second.val - 0xDC00)) :: codePoints rest
      else (if isSurrogate first then replacementPoint else first.val) :: codePoints (second :: rest)

def pointUnits (point : Nat) : JsString :=
  if point < 0x10000 then [Fin.ofNat _ point]
  else [Fin.ofNat _ (0xD800 + (point - 0x10000) / 0x400),
    Fin.ofNat _ (0xDC00 + (point - 0x10000) % 0x400)]

def tailByte (bits : Nat) : Byte := Fin.ofNat _ (0x80 + bits % 0x40)

def pointBytes (point : Nat) : List Byte :=
  if point < 0x80 then [Fin.ofNat _ point]
  else if point < 0x800 then [Fin.ofNat _ (0xC0 + point / 0x40), tailByte point]
  else if point < 0x10000 then
    [Fin.ofNat _ (0xE0 + point / 0x1000), tailByte (point / 0x40), tailByte point]
  else [Fin.ofNat _ (0xF0 + point / 0x40000), tailByte (point / 0x1000), tailByte (point / 0x40),
    tailByte point]

/-- This is `Buffer.from(text, "utf-8")`. -/
def utf8Bytes (text : JsString) : List Byte := (codePoints text).flatMap pointBytes

/-- The decoder waits for so many bytes, the next of which is in the range. -/
structure Utf8Decoder where
  needed : Nat
  point : Nat
  lower : Nat
  upper : Nat

namespace Utf8Decoder

def idle : Utf8Decoder := { needed := 0, point := 0, lower := 0x80, upper := 0xBF }

/-- A first byte that starts no sequence is replaced. -/
def start (byte : Byte) : Utf8Decoder × List Nat :=
  if byte.val < 0x80 then (idle, [byte.val])
  else if 0xC2 ≤ byte.val ∧ byte.val < 0xE0 then
    ({ idle with needed := 1, point := byte.val - 0xC0 }, [])
  else if 0xE0 ≤ byte.val ∧ byte.val < 0xF0 then
    ({ needed := 2, point := byte.val - 0xE0, lower := if byte.val = 0xE0 then 0xA0 else 0x80,
       upper := if byte.val = 0xED then 0x9F else 0xBF }, [])
  else if 0xF0 ≤ byte.val ∧ byte.val < 0xF5 then
    ({ needed := 3, point := byte.val - 0xF0, lower := if byte.val = 0xF0 then 0x90 else 0x80,
       upper := if byte.val = 0xF4 then 0x8F else 0xBF }, [])
  else (idle, [replacementPoint])

/-- A byte out of range ends the sequence before it with a replacement and starts anew. -/
def step (decoder : Utf8Decoder) (byte : Byte) : Utf8Decoder × List Nat :=
  if decoder.needed = 0 then start byte
  else if decoder.lower ≤ byte.val ∧ byte.val ≤ decoder.upper then
    let point := decoder.point * 0x40 + byte.val % 0x40
    if decoder.needed = 1 then (idle, [point])
    else ({ idle with needed := decoder.needed - 1, point }, [])
  else ((start byte).1, replacementPoint :: (start byte).2)

def points (decoder : Utf8Decoder) : List Byte → List Nat
  | [] => if decoder.needed = 0 then [] else [replacementPoint]
  | byte :: rest => (decoder.step byte).2 ++ points (decoder.step byte).1 rest

end Utf8Decoder

/-- This is `buffer.toString("utf-8")`. -/
def utf8Text (bytes : List Byte) : JsString :=
  (Utf8Decoder.idle.points bytes).flatMap pointUnits

/-- A code point that is no surrogate. -/
def IsScalar (point : Nat) : Prop := point < 0xD800 ∨ 0xE000 ≤ point ∧ point < 0x110000

theorem tailByte_val (bits : Nat) : (tailByte bits).val = 0x80 + bits % 0x40 := by
  rw [tailByte, Fin.val_ofNat]
  omega

namespace Utf8Decoder

theorem points_cons (decoder : Utf8Decoder) (byte : Byte) (rest : List Byte) :
    decoder.points (byte :: rest) = (decoder.step byte).2 ++ (decoder.step byte).1.points rest := rfl

theorem points_idle (byte : Byte) (rest : List Byte) :
    idle.points (byte :: rest) = (start byte).2 ++ (start byte).1.points rest := rfl

/-- A tail in range is consumed. -/
theorem points_tail {decoder : Utf8Decoder} {bits : Nat} {rest : List Byte}
    (waits : decoder.needed ≠ 0) (lower : decoder.lower ≤ 0x80 + bits % 0x40)
    (upper : 0x80 + bits % 0x40 ≤ decoder.upper) :
    decoder.points (tailByte bits :: rest) =
      if decoder.needed = 1 then (decoder.point * 0x40 + bits % 0x40) :: idle.points rest
      else { idle with needed := decoder.needed - 1,
                       point := decoder.point * 0x40 + bits % 0x40 }.points rest := by
  have low : (0x80 + bits % 0x40) % 0x40 = bits % 0x40 := by omega
  rw [points_cons, step, if_neg waits, tailByte_val, if_pos ⟨lower, upper⟩, low]
  split <;> rfl

theorem start_ascii {byte : Byte} (small : byte.val < 0x80) : start byte = (idle, [byte.val]) := by
  rw [start, if_pos small]

theorem start_two {bits : Nat} (low : 2 ≤ bits) (high : bits < 0x20) :
    start (Fin.ofNat _ (0xC0 + bits)) = ({ idle with needed := 1, point := bits }, []) := by
  have value : (Fin.ofNat 0x100 (0xC0 + bits)).val = 0xC0 + bits := by
    rw [Fin.val_ofNat]
    omega
  rw [start, value, if_neg (by omega), if_pos (by omega), Nat.add_sub_cancel_left]

theorem start_three {bits : Nat} (high : bits < 0x10) :
    start (Fin.ofNat _ (0xE0 + bits)) =
      ({ needed := 2, point := bits, lower := if bits = 0 then 0xA0 else 0x80,
         upper := if bits = 0xD then 0x9F else 0xBF }, []) := by
  have value : (Fin.ofNat 0x100 (0xE0 + bits)).val = 0xE0 + bits := by
    rw [Fin.val_ofNat]
    omega
  rw [start, value, if_neg (by omega), if_neg (by omega), if_pos (by omega),
    Nat.add_sub_cancel_left]
  have surrogates : 0xE0 + bits = 0xED ↔ bits = 0xD := by omega
  simp [surrogates]

theorem start_four {bits : Nat} (high : bits < 5) :
    start (Fin.ofNat _ (0xF0 + bits)) =
      ({ needed := 3, point := bits, lower := if bits = 0 then 0x90 else 0x80,
         upper := if bits = 4 then 0x8F else 0xBF }, []) := by
  have value : (Fin.ofNat 0x100 (0xF0 + bits)).val = 0xF0 + bits := by
    rw [Fin.val_ofNat]
    omega
  rw [start, value, if_neg (by omega), if_neg (by omega), if_neg (by omega), if_pos (by omega),
    Nat.add_sub_cancel_left]
  have last : 0xF0 + bits = 0xF4 ↔ bits = 4 := by omega
  simp [last]

/-- The bytes of a scalar are read back as the scalar. -/
theorem points_pointBytes {point : Nat} (scalar : IsScalar point) (rest : List Byte) :
    idle.points (pointBytes point ++ rest) = point :: idle.points rest := by
  rw [pointBytes]
  split_ifs with one two three
  · have value : (Fin.ofNat 0x100 point).val = point := by
      rw [Fin.val_ofNat]
      omega
    rw [List.singleton_append, points_idle, start_ascii (by omega), value]
    rfl
  · rw [List.cons_append, points_idle, start_two (by omega) (by omega), List.nil_append,
      List.singleton_append, points_tail (by simp) (by simp [idle]) (by simp [idle]; omega)]
    have whole : point / 0x40 * 0x40 + point % 0x40 = point := by omega
    rw [if_pos rfl, whole]
  · rw [List.cons_append, points_idle, start_three (by omega), List.nil_append]
    have first : point / 0x1000 = 0 → 0x20 ≤ point / 0x40 % 0x40 := by omega
    have surrogates : point / 0x1000 = 0xD → point / 0x40 % 0x40 < 0x20 := by
      rw [IsScalar] at scalar
      omega
    rw [List.cons_append, points_tail (by simp), if_neg (by simp), List.singleton_append,
      points_tail (by simp) (by simp [idle]) (by simp [idle]; omega), if_pos (by simp)]
    · have whole : (point / 0x1000 * 0x40 + point / 0x40 % 0x40) * 0x40 + point % 0x40 = point := by
        omega
      rw [whole]
    · dsimp only
      split <;> omega
    · dsimp only
      split <;> omega
  · rw [List.cons_append, points_idle, start_four (by rw [IsScalar] at scalar; omega), List.nil_append]
    have first : point / 0x40000 = 0 → 0x10 ≤ point / 0x1000 % 0x40 := by omega
    have last : point / 0x40000 = 4 → point / 0x1000 % 0x40 < 0x10 := by
      rw [IsScalar] at scalar
      omega
    rw [List.cons_append, points_tail (by simp), if_neg (by simp), List.cons_append,
      points_tail (by simp) (by simp [idle]) (by simp [idle]; omega), if_neg (by simp),
      List.singleton_append, points_tail (by simp) (by simp [idle]) (by simp [idle]; omega),
      if_pos (by simp)]
    · have whole : ((point / 0x40000 * 0x40 + point / 0x1000 % 0x40) * 0x40 +
          point / 0x40 % 0x40) * 0x40 + point % 0x40 = point := by omega
      rw [whole]
    · dsimp only
      split <;> omega
    · dsimp only
      split <;> omega

theorem points_flatMap {scalars : List Nat} (all : ∀ point ∈ scalars, IsScalar point) :
    idle.points (scalars.flatMap pointBytes) = scalars := by
  induction scalars with
  | nil => rfl
  | cons point scalars ih =>
      obtain ⟨scalar, others⟩ := List.forall_mem_cons.mp all
      rw [List.flatMap_cons, points_pointBytes scalar, ih others]

end Utf8Decoder

theorem codePoints_scalar (text : JsString) : ∀ point ∈ codePoints text, IsScalar point := by
  fun_induction codePoints text with
  | case1 => exact nofun
  | case2 unit =>
      refine List.forall_mem_singleton.mpr ?_
      have bound := unit.isLt
      simp only [isSurrogate, isHighSurrogate, isLowSurrogate, IsScalar, replacementPoint,
        Bool.or_eq_true, Bool.and_eq_true, decide_eq_true_eq]
      split <;> omega
  | case3 first second rest pair ih =>
      refine List.forall_mem_cons.mpr ⟨?_, ih⟩
      simp only [isHighSurrogate, isLowSurrogate, Bool.and_eq_true, decide_eq_true_eq] at pair
      rw [IsScalar]
      omega
  | case4 first second rest single ih =>
      refine List.forall_mem_cons.mpr ⟨?_, ih⟩
      have bound := first.isLt
      simp only [isSurrogate, isHighSurrogate, isLowSurrogate, IsScalar, replacementPoint,
        Bool.or_eq_true, Bool.and_eq_true, decide_eq_true_eq]
      split <;> omega

theorem pointUnits_unit (unit : CodeUnit) : pointUnits unit.val = [unit] := by
  rw [pointUnits, if_pos unit.isLt]
  congr
  exact Fin.ext (Nat.mod_eq_of_lt unit.isLt)

theorem pointUnits_pair {first second : CodeUnit} (high : isHighSurrogate first = true)
    (low : isLowSurrogate second = true) :
    pointUnits (0x10000 + (first.val - 0xD800) * 0x400 + (second.val - 0xDC00)) =
      [first, second] := by
  simp only [isHighSurrogate, isLowSurrogate, Bool.and_eq_true, decide_eq_true_eq] at high low
  rw [pointUnits, if_neg (by omega)]
  refine congrArg₂ (fun one other => [one, other]) (Fin.ext ?_) (Fin.ext ?_)
  · rw [Fin.val_ofNat]
    omega
  · rw [Fin.val_ofNat]
    omega

/-- A well-formed text is the text of its code points. -/
theorem codePoints_units {text : JsString} (formed : isWellFormed text = true) :
    (codePoints text).flatMap pointUnits = text := by
  fun_induction codePoints text with
  | case1 => rfl
  | case2 unit =>
      have plain : isSurrogate unit = false := by simpa [isWellFormed] using formed
      rw [List.flatMap_singleton, plain, if_neg Bool.false_ne_true, pointUnits_unit]
  | case3 first second rest pair ih =>
      rw [Bool.and_eq_true] at pair
      rw [isWellFormed, if_pos pair.1, Bool.and_eq_true] at formed
      rw [List.flatMap_cons, pointUnits_pair pair.1 pair.2, ih formed.2]
      rfl
  | case4 first second rest single ih =>
      rw [isWellFormed] at formed
      split at formed
      · next high =>
          rw [Bool.and_eq_true] at formed
          simp [high, formed.1] at single
      · next notHigh =>
          rw [Bool.and_eq_true, Bool.not_eq_true'] at formed
          have plain : isSurrogate first = false := by
            rw [isSurrogate, Bool.or_eq_false_iff]
            exact ⟨Bool.not_eq_true _ ▸ notHigh, formed.1⟩
          rw [List.flatMap_cons, plain, if_neg Bool.false_ne_true, pointUnits_unit, ih formed.2]
          rfl

/-- Well-formed texts survive their encoding. -/
theorem utf8Text_utf8Bytes {text : JsString} (formed : isWellFormed text = true) :
    utf8Text (utf8Bytes text) = text := by
  rw [utf8Text, utf8Bytes, Utf8Decoder.points_flatMap (codePoints_scalar text),
    codePoints_units formed]

end Adjudicate.Js
