/-
This file proves that the parser inverts the compact printer.
-/

import Adjudicate.Js.Json

namespace Adjudicate.Js

/-- Reading an encoded unit puts that unit before the remaining string. -/
def consUnit (unit : CodeUnit) (result : Option (JsString × JsString)) :
    Option (JsString × JsString) :=
  result.map fun pair => (unit :: pair.1, pair.2)

theorem hexValue_hexUnit : ∀ digit < 16, hexValue (hexUnit digit) = some digit := by decide

theorem unquote_unicodeEscape (unit : CodeUnit) (rest : JsString) :
    unquote (unicodeEscape unit ++ rest) = consUnit unit (unquote rest) := by
  have bound := unit.isLt
  have first := hexValue_hexUnit (unit.val / 0x1000) (by omega)
  have second := hexValue_hexUnit (unit.val / 0x100 % 0x10) (by omega)
  have third := hexValue_hexUnit (unit.val / 0x10 % 0x10) (by omega)
  have fourth := hexValue_hexUnit (unit.val % 0x10) (by omega)
  have whole : Fin.ofNat 0x10000 (0x1000 * (unit.val / 0x1000) +
      0x100 * (unit.val / 0x100 % 0x10) + 0x10 * (unit.val / 0x10 % 0x10) +
      unit.val % 0x10) = unit := by
    apply Fin.ext
    simp only [Fin.val_ofNat]
    omega
  simp only [unicodeEscape, List.cons_append, List.nil_append]
  rw [unquote]
  simp only [first, second, third, fourth, Option.bind_eq_bind, Option.bind_some, whole]
  cases unquote rest <;> rfl

theorem unquote_end (rest : JsString) : unquote (0x22 :: rest) = some ([], rest) := by
  rw [unquote.eq_def]
  rfl

theorem unquote_simpleEscape (escape value : CodeUnit) (rest : JsString)
    (known : simpleEscape escape = some value) (plain : escape ≠ 0x75) :
    unquote (0x5C :: escape :: rest) = consUnit value (unquote rest) := by
  rw [unquote.eq_def]
  simp only [known, plain, if_false, Option.bind_eq_bind, Option.bind_some]
  cases unquote rest <;> rfl

theorem unquote_plain (unit : CodeUnit) (rest : JsString) (quotation : unit ≠ 0x22)
    (solidus : unit ≠ 0x5C) (printable : 0x20 ≤ unit.val) :
    unquote (unit :: rest) = consUnit unit (unquote rest) := by
  rw [unquote.eq_def]
  simp only [quotation, solidus, Nat.not_lt.mpr printable, if_false]
  cases unquote rest <;> rfl

theorem unquote_escapeUnit (unit : CodeUnit) (rest : JsString) :
    unquote (escapeUnit unit ++ rest) = consUnit unit (unquote rest) := by
  unfold escapeUnit
  split_ifs with backspace tab newline feed carriage quotation solidus coded
  · subst backspace; exact unquote_simpleEscape _ _ rest rfl (by decide)
  · subst tab; exact unquote_simpleEscape _ _ rest rfl (by decide)
  · subst newline; exact unquote_simpleEscape _ _ rest rfl (by decide)
  · subst feed; exact unquote_simpleEscape _ _ rest rfl (by decide)
  · subst carriage; exact unquote_simpleEscape _ _ rest rfl (by decide)
  · subst quotation; exact unquote_simpleEscape _ _ rest rfl (by decide)
  · subst solidus; exact unquote_simpleEscape _ _ rest rfl (by decide)
  · exact unquote_unicodeEscape unit rest
  · exact unquote_plain unit rest quotation solidus (by omega)

/-- The quoted string reads back and leaves what follows its closing mark. -/
theorem unquote_quoteUnits (text rest : JsString) :
    unquote (quoteUnits text ++ 0x22 :: rest) = some (text, rest) := by
  induction text using quoteUnits.induct with
  | case1 => rw [quoteUnits, List.nil_append, unquote_end]
  | case2 unit =>
      rw [quoteUnits, unquote_escapeUnit, unquote_end]
      rfl
  | case3 first second others pair ih =>
      have plain (unit : CodeUnit) (large : 0xD800 ≤ unit.val) (units : JsString) :
          unquote (unit :: units) = consUnit unit (unquote units) := by
        apply unquote_plain <;> first | omega | (rintro rfl; revert large; decide)
      simp only [isHighSurrogate, isLowSurrogate, Bool.and_eq_true, decide_eq_true_eq] at pair
      rw [quoteUnits, if_pos (by simp [isHighSurrogate, isLowSurrogate, pair])]
      simp only [List.cons_append]
      rw [plain first (by omega), plain second (by omega), ih]
      rfl
  | case4 first second others single ih =>
      rw [quoteUnits, if_neg single, List.append_assoc, unquote_escapeUnit, ih]
      rfl

/-- A valid token is one that the scanner takes whole. -/
def IsNumberToken (token : JsString) : Prop :=
  (parseNumber token).isSome = true ∧ ∀ unit ∈ token, isNumberUnit unit = true

mutual

/-- Every number in the tree is a valid token. -/
def Json.Valid : Json → Prop
  | .num token => IsNumberToken token
  | .arr items => ValidItems items
  | .obj members => ValidMembers members
  | _ => True

def ValidItems : List Json → Prop
  | [] => True
  | item :: items => item.Valid ∧ ValidItems items

def ValidMembers : List (JsString × Json) → Prop
  | [] => True
  | (_, value) :: members => value.Valid ∧ ValidMembers members

end

mutual

/-- This bounds the descents of the parser on the printed tree. -/
def Json.cost : Json → Nat
  | .arr (item :: items) => 1 + item.cost + costItems items
  | .obj ((_, value) :: members) => 2 + value.cost + costMembers members
  | _ => 1

def costItems : List Json → Nat
  | [] => 1
  | item :: items => 1 + item.cost + costItems items

def costMembers : List (JsString × Json) → Nat
  | [] => 1
  | (_, value) :: members => 2 + value.cost + costMembers members

end

theorem scanNumber_append (token rest : JsString) (valid : IsNumberToken token)
    (stops : Stops isNumberUnit rest) : scanNumber (token ++ rest) = some (.num token, rest) := by
  have run := run_append isNumberUnit token rest valid.2 stops
  rw [scanNumber]
  simp only [run, valid.1, if_true]

theorem numberToken_head {token : JsString} (valid : IsNumberToken token) :
    ∃ unit rest, token = unit :: rest ∧ isNumberUnit unit = true := by
  obtain ⟨read, all⟩ := valid
  cases token with
  | nil => cases read
  | cons unit rest => exact ⟨unit, rest, rfl, all unit (by simp)⟩

theorem skipBlank_cons {unit : CodeUnit} {rest : JsString} (solid : isBlank unit = false) :
    skipBlank (unit :: rest) = unit :: rest := by
  simp [skipBlank, solid]

/-- A number unit is none of the units that start another kind of value. -/
theorem numberUnit_plain {unit : CodeUnit} (number : isNumberUnit unit = true) :
    isBlank unit = false ∧
      ∀ other ∈ ([0x22, 0x5B, 0x5D, 0x7B, 0x6E, 0x74, 0x66] : JsString), unit ≠ other := by
  constructor
  · by_contra blank
    simp only [isBlank, Bool.not_eq_false, Bool.or_eq_true, decide_eq_true_eq] at blank
    rcases blank with ((rfl | rfl) | rfl) | rfl <;> exact absurd number (by decide)
  · rintro other member rfl
    fin_cases member <;> exact absurd number (by decide)

/-- No printed value starts with a blank or a closing bracket. -/
theorem print_head (tree : Json) (valid : tree.Valid) :
    ∃ unit rest, tree.print = unit :: rest ∧ isBlank unit = false ∧ unit ≠ 0x5D := by
  cases tree with
  | null => exact ⟨_, _, rfl, rfl, by decide⟩
  | bool value => cases value <;> exact ⟨_, _, rfl, rfl, by decide⟩
  | num token =>
      obtain ⟨unit, rest, text, number⟩ := numberToken_head valid
      have plain := numberUnit_plain number
      exact ⟨unit, rest, text, plain.1, plain.2 _ (by simp)⟩
  | str text => exact ⟨0x22, _, rfl, rfl, by decide⟩
  | arr items => cases items <;> exact ⟨0x5B, _, rfl, rfl, by decide⟩
  | obj members => cases members <;> exact ⟨0x7B, _, rfl, rfl, by decide⟩

theorem parseValue_number (fuel : Nat) (token rest : JsString) (valid : IsNumberToken token)
    (stops : Stops isNumberUnit rest) :
    parseValue (fuel + 1) (token ++ rest) = some (.num token, rest) := by
  obtain ⟨unit, others, text, number⟩ := numberToken_head valid
  obtain ⟨solid, plain⟩ := numberUnit_plain number
  have whole := scanNumber_append token rest valid stops
  rw [text, List.cons_append] at whole ⊢
  rw [parseValue, skipBlank_cons solid]
  simp only [plain _ (by simp : (0x22 : CodeUnit) ∈ _), plain _ (by simp : (0x5B : CodeUnit) ∈ _),
    plain _ (by simp : (0x7B : CodeUnit) ∈ _), plain _ (by simp : (0x6E : CodeUnit) ∈ _),
    plain _ (by simp : (0x74 : CodeUnit) ∈ _), plain _ (by simp : (0x66 : CodeUnit) ∈ _),
    if_false, whole]

theorem parseValue_string (fuel : Nat) (text rest : JsString) :
    parseValue (fuel + 1) (quote text ++ rest) = some (.str text, rest) := by
  simp only [quote, List.cons_append, List.append_assoc, List.nil_append]
  rw [parseValue, skipBlank_cons rfl]
  simp only [if_true, unquote_quoteUnits, Option.map_some]

/-- A nonempty array is read as its first item and the items after it. -/
theorem parseValue_array (fuel : Nat) (text : JsString)
    (head : ∃ unit rest, text = unit :: rest ∧ isBlank unit = false ∧ unit ≠ 0x5D) :
    parseValue (fuel + 1) (0x5B :: text) = (do
      let (item, rest) ← parseValue fuel text
      let (items, rest) ← parseItems fuel rest
      return (.arr (item :: items), rest)) := by
  obtain ⟨unit, rest, rfl, solid, plain⟩ := head
  rw [parseValue, skipBlank_cons rfl]
  simp only [skipBlank_cons solid, if_true, show ¬((0x5B : CodeUnit) = 0x22) by decide, if_false]
  split
  · simp_all
  · rfl

/-- A nonempty object is read as its first member and the members after it. -/
theorem parseValue_object (fuel : Nat) (text : JsString) :
    parseValue (fuel + 1) (0x7B :: 0x22 :: text) = (do
      let (member, rest) ← parseMember fuel (0x22 :: text)
      let (members, rest) ← parseMembers fuel rest
      return (.obj (member :: members), rest)) := by
  rw [parseValue, skipBlank_cons rfl]
  simp only [skipBlank_cons (show isBlank 0x22 = false from rfl), if_true,
    show ¬((0x7B : CodeUnit) = 0x22) by decide, show ¬((0x7B : CodeUnit) = 0x5B) by decide,
    if_false]

theorem parseMember_print (fuel : Nat) (key text rest : JsString) (value : Json)
    (read : parseValue fuel text = some (value, rest)) :
    parseMember (fuel + 1) (quote key ++ 0x3A :: text) = some ((key, value), rest) := by
  simp only [quote, List.cons_append, List.append_assoc, List.nil_append]
  rw [parseMember, skipBlank_cons rfl]
  simp only [ unquote_quoteUnits, Option.bind_eq_bind, Option.bind_some,
    skipBlank_cons (show isBlank 0x3A = false from rfl), read]
  rfl

theorem printItems_stops (items : List Json) (rest : JsString) :
    Stops isNumberUnit (printItems items ++ rest) := by
  cases items <;> exact stops_cons rfl

theorem printMembers_stops (members : List (JsString × Json)) (rest : JsString) :
    Stops isNumberUnit (printMembers members ++ rest) := by
  obtain _ | ⟨⟨key, value⟩, members⟩ := members <;> exact stops_cons rfl

mutual

/-- With enough fuel the parser reads a printed value and leaves exactly what follows it. -/
theorem parseValue_print : ∀ (tree : Json) (fuel : Nat) (rest : JsString), tree.Valid →
    tree.cost ≤ fuel → Stops isNumberUnit rest →
      parseValue fuel (tree.print ++ rest) = some (tree, rest)
  | .null, fuel + 1, rest, _, _, _ => rfl
  | .bool true, fuel + 1, rest, _, _, _ => rfl
  | .bool false, fuel + 1, rest, _, _, _ => rfl
  | .num token, fuel + 1, rest, valid, _, stops => parseValue_number fuel token rest valid stops
  | .str text, fuel + 1, rest, _, _, _ => parseValue_string fuel text rest
  | .arr [], fuel + 1, rest, _, _, _ => rfl
  | .obj [], fuel + 1, rest, _, _, _ => rfl
  | .arr (item :: items), fuel + 1, rest, valid, enough, _ => by
      simp only [Json.cost] at enough
      obtain ⟨unit, others, text, solid, plain⟩ := print_head item valid.1
      have first := parseValue_print item fuel (printItems items ++ rest) valid.1 (by omega)
        (printItems_stops items rest)
      have others := parseItems_print items fuel rest valid.2 (by omega)
      simp only [Json.print, List.cons_append, List.append_assoc]
      rw [parseValue_array fuel _ ⟨unit, _, by rw [text]; rfl, solid, plain⟩, first]
      simp only [Option.bind_eq_bind, Option.bind_some, others]
      rfl
  | .obj ((key, value) :: members), fuel + 2, rest, valid, enough, _ => by
      simp only [Json.cost] at enough
      have first := parseMember_print fuel key _ _ value
        (parseValue_print value fuel (printMembers members ++ rest) valid.1 (by omega)
          (printMembers_stops members rest))
      have others := parseMembers_print members (fuel + 1) rest valid.2 (by omega)
      simp only [Json.print, List.cons_append, List.append_assoc]
      rw [quote, List.cons_append] at first ⊢
      simp only [List.cons_append] at first ⊢
      rw [parseValue_object, first]
      simp only [Option.bind_eq_bind, Option.bind_some, others]
      rfl
  | .null, 0, _, _, enough, _ => absurd enough (by simp [Json.cost])
  | .bool _, 0, _, _, enough, _ => absurd enough (by simp [Json.cost])
  | .num _, 0, _, _, enough, _ => absurd enough (by simp [Json.cost])
  | .str _, 0, _, _, enough, _ => absurd enough (by simp [Json.cost])
  | .arr [], 0, _, _, enough, _ => absurd enough (by simp [Json.cost])
  | .arr (_ :: _), 0, _, _, enough, _ => absurd enough (by simp [Json.cost])
  | .obj [], 0, _, _, enough, _ => absurd enough (by simp [Json.cost])
  | .obj (_ :: _), 0, _, _, enough, _ => absurd enough (by simp [Json.cost])
  | .obj (_ :: _), 1, _, _, enough, _ => absurd enough (by simp [Json.cost]; omega)

theorem parseItems_print : ∀ (items : List Json) (fuel : Nat) (rest : JsString),
    ValidItems items → costItems items ≤ fuel →
      parseItems fuel (printItems items ++ rest) = some (items, rest)
  | [], fuel + 1, rest, _, _ => rfl
  | item :: items, fuel + 1, rest, valid, enough => by
      simp only [costItems] at enough
      have first := parseValue_print item fuel (printItems items ++ rest) valid.1 (by omega)
        (printItems_stops items rest)
      have others := parseItems_print items fuel rest valid.2 (by omega)
      simp only [printItems, List.cons_append, List.append_assoc]
      rw [parseItems, skipBlank_cons rfl]
      simp only [Option.bind_eq_bind, first, Option.bind_some, others]
      rfl
  | [], 0, _, _, enough => absurd enough (by simp [costItems])
  | _ :: _, 0, _, _, enough => absurd enough (by simp [costItems])

theorem parseMembers_print : ∀ (members : List (JsString × Json)) (fuel : Nat) (rest : JsString),
    ValidMembers members → costMembers members ≤ fuel →
      parseMembers fuel (printMembers members ++ rest) = some (members, rest)
  | [], fuel + 1, rest, _, _ => rfl
  | (key, value) :: members, fuel + 2, rest, valid, enough => by
      simp only [costMembers] at enough
      have first := parseMember_print fuel key _ _ value
        (parseValue_print value fuel (printMembers members ++ rest) valid.1 (by omega)
          (printMembers_stops members rest))
      have others := parseMembers_print members (fuel + 1) rest valid.2 (by omega)
      simp only [printMembers, List.cons_append, List.append_assoc]
      rw [parseMembers, skipBlank_cons rfl]
      simp only [Option.bind_eq_bind, first, Option.bind_some, others]
      rfl
  | [], 0, _, _, enough => absurd enough (by simp [costMembers])
  | _ :: _, 0, _, _, enough => absurd enough (by simp [costMembers])
  | _ :: _, 1, _, _, enough => absurd enough (by simp [costMembers]; omega)

end

theorem quote_length (text : JsString) : 2 ≤ (quote text).length := by
  simp [quote]

mutual

/-- The printed text is long enough to pay for its own parse. -/
theorem cost_le_print : ∀ tree : Json, tree.Valid → tree.cost ≤ 3 * tree.print.length
  | .null, _ => by decide
  | .bool true, _ => by decide
  | .bool false, _ => by decide
  | .num token, valid => by
      obtain ⟨unit, rest, text, _⟩ := numberToken_head valid
      simp only [Json.cost, Json.print, text, List.length_cons]
      omega
  | .str text, _ => by
      have long := quote_length text
      simp only [Json.cost, Json.print]
      omega
  | .arr [], _ => by decide
  | .arr (item :: items), valid => by
      have first := cost_le_print item valid.1
      have others := costItems_le_print items valid.2
      simp only [Json.cost, Json.print, List.length_append, List.length_cons]
      omega
  | .obj [], _ => by decide
  | .obj ((key, value) :: members), valid => by
      have first := cost_le_print value valid.1
      have others := costMembers_le_print members valid.2
      simp only [Json.cost, Json.print, List.length_append, List.length_cons]
      omega

theorem costItems_le_print : ∀ items : List Json, ValidItems items →
    costItems items ≤ 3 * (printItems items).length
  | [], _ => by decide
  | item :: items, valid => by
      have first := cost_le_print item valid.1
      have others := costItems_le_print items valid.2
      simp only [costItems, printItems, List.length_append, List.length_cons]
      omega

theorem costMembers_le_print : ∀ members : List (JsString × Json), ValidMembers members →
    costMembers members ≤ 3 * (printMembers members).length
  | [], _ => by decide
  | (key, value) :: members, valid => by
      have first := cost_le_print value valid.1
      have others := costMembers_le_print members valid.2
      simp only [costMembers, printMembers, List.length_append, List.length_cons]
      omega

end

/-- The parser inverts the printer on every tree with valid number tokens. -/
theorem parse_print (tree : Json) (valid : tree.Valid) : Json.parse tree.print = some tree := by
  have read := parseValue_print tree (3 * tree.print.length + 3) [] valid
    (by have := cost_le_print tree valid; omega) (by simp [Stops])
  rw [List.append_nil] at read
  rw [Json.parse, read]
  rfl

/-- Compact JSON text determines its tree. -/
theorem print_inj {left right : Json} (leftValid : left.Valid) (rightValid : right.Valid) :
    left.print = right.print ↔ left = right := by
  constructor
  · intro same
    have read := parse_print left leftValid
    rw [same, parse_print right rightValid] at read
    exact (Option.some.inj read).symm
  · exact congrArg Json.print

/-- A unit outside the surrogate range is well-formed by itself. -/
theorem isWellFormed_of_plain {text : JsString} (plain : ∀ unit ∈ text, isSurrogate unit = false) :
    isWellFormed text = true := by
  induction text with
  | nil => rfl
  | cons unit text ih =>
      have head : isWellFormed [unit] = true := by
        simp [isWellFormed, plain unit (by simp)]
      exact isWellFormed_append [unit] text head (ih fun other inside => plain other (by simp [inside]))

theorem hexUnit_plain : ∀ digit < 16, isSurrogate (hexUnit digit) = false := by decide

theorem escapeUnit_isWellFormed (unit : CodeUnit) : isWellFormed (escapeUnit unit) = true := by
  have bound := unit.isLt
  unfold escapeUnit
  split_ifs with backspace tab newline feed carriage quotation solidus coded
  iterate 7 rfl
  · apply isWellFormed_of_plain
    intro other member
    simp only [unicodeEscape, List.mem_cons, List.not_mem_nil, or_false] at member
    rcases member with rfl | rfl | rfl | rfl | rfl | rfl
    · rfl
    · rfl
    all_goals exact hexUnit_plain _ (by omega)
  · simp_all [isWellFormed]

/-- Quoting escapes every lone surrogate. -/
theorem quoteUnits_isWellFormed (text : JsString) : isWellFormed (quoteUnits text) = true := by
  induction text using quoteUnits.induct with
  | case1 => rfl
  | case2 unit => exact escapeUnit_isWellFormed unit
  | case3 first second others pair ih =>
      rw [quoteUnits, if_pos pair]
      simp_all [isWellFormed]
  | case4 first second others single ih =>
      rw [quoteUnits, if_neg single]
      exact isWellFormed_append _ _ (escapeUnit_isWellFormed first) ih

theorem quote_isWellFormed (text : JsString) : isWellFormed (quote text) = true :=
  isWellFormed_append (0x22 :: quoteUnits text) [0x22]
    (isWellFormed_append [0x22] _ rfl (quoteUnits_isWellFormed text)) rfl

theorem numberUnit_notSurrogate {unit : CodeUnit} (number : isNumberUnit unit = true) :
    isSurrogate unit = false := by
  have small : unit.val < 0xD800 := by
    simp only [isNumberUnit, isDigit, Bool.or_eq_true, Bool.and_eq_true, decide_eq_true_eq] at number
    rcases number with ((((digit | rfl) | rfl) | rfl) | rfl) | rfl
    · omega
    all_goals decide
  simp only [isSurrogate, isHighSurrogate, isLowSurrogate, Bool.or_eq_false_iff,
    Bool.and_eq_false_iff, decide_eq_false_iff_not]
  omega

mutual

/-- The printed text has no lone surrogate, whatever strings the tree holds. -/
theorem print_isWellFormed : ∀ tree : Json, tree.Valid → isWellFormed tree.print = true
  | .null, _ => rfl
  | .bool true, _ => rfl
  | .bool false, _ => rfl
  | .num _, valid => isWellFormed_of_plain fun unit inside =>
      numberUnit_notSurrogate (valid.2 unit inside)
  | .str text, _ => quote_isWellFormed text
  | .arr [], _ => rfl
  | .arr (item :: items), valid =>
      isWellFormed_append (0x5B :: item.print) _
        (isWellFormed_append [0x5B] _ rfl (print_isWellFormed item valid.1))
        (printItems_isWellFormed items valid.2)
  | .obj [], _ => rfl
  | .obj ((key, value) :: members), valid =>
      isWellFormed_append (0x7B :: quote key ++ 0x3A :: value.print) _
        (isWellFormed_append (0x7B :: quote key) (0x3A :: value.print)
          (isWellFormed_append [0x7B] _ rfl (quote_isWellFormed key))
          (isWellFormed_append [0x3A] _ rfl (print_isWellFormed value valid.1)))
        (printMembers_isWellFormed members valid.2)

theorem printItems_isWellFormed : ∀ items : List Json, ValidItems items →
    isWellFormed (printItems items) = true
  | [], _ => rfl
  | item :: items, valid =>
      isWellFormed_append (0x2C :: item.print) _
        (isWellFormed_append [0x2C] _ rfl (print_isWellFormed item valid.1))
        (printItems_isWellFormed items valid.2)

theorem printMembers_isWellFormed : ∀ members : List (JsString × Json), ValidMembers members →
    isWellFormed (printMembers members) = true
  | [], _ => rfl
  | (key, value) :: members, valid =>
      isWellFormed_append (0x2C :: quote key ++ 0x3A :: value.print) _
        (isWellFormed_append (0x2C :: quote key) (0x3A :: value.print)
          (isWellFormed_append [0x2C] _ rfl (quote_isWellFormed key))
          (isWellFormed_append [0x3A] _ rfl (print_isWellFormed value valid.1)))
        (printMembers_isWellFormed members valid.2)

end

theorem tokenText_isNumberUnit (integer fraction : JsString) (exponent : Option Int)
    (integerDigits : ∀ unit ∈ integer, isDigit unit = true)
    (fractionDigits : ∀ unit ∈ fraction, isDigit unit = true) :
    ∀ unit ∈ tokenText integer fraction exponent, isNumberUnit unit = true := by
  have digit {unit : CodeUnit} (known : isDigit unit = true) : isNumberUnit unit = true := by
    simp [isNumberUnit, known]
  intro unit member
  unfold tokenText at member
  rw [List.mem_append, List.mem_append] at member
  rcases member with (inside | inside) | inside
  · exact digit (integerDigits unit inside)
  · split at inside
    · simp at inside
    · rcases List.mem_cons.mp inside with rfl | inside
      · rfl
      · exact digit (fractionDigits unit inside)
  · cases exponent with
    | none => simp at inside
    | some e =>
        rcases List.mem_cons.mp inside with rfl | inside
        · rfl
        · rcases List.mem_cons.mp inside with rfl | inside
          · split <;> rfl
          · exact digit (digitsText_isDigit _ unit inside)

/-- A printed finite number is one valid token. -/
theorem toString_isNumberToken (number : JsNumber) (finite : number.isFinite = true) :
    IsNumberToken number.toString := by
  refine ⟨by rw [parseNumber_toString number finite]; rfl, ?_⟩
  cases number with
  | nan => cases finite
  | infinity negative => cases finite
  | finite negative x =>
      intro unit member
      simp only [JsNumber.toString] at member
      split at member
      · simp only [List.mem_singleton] at member
        subst member
        rfl
      · next some =>
          rcases List.mem_append.mp member with sign | inside
          · cases negative <;> simp_all
            rfl
          · obtain ⟨first, others, text, nonzero⟩ :=
              digitsText_lead x.shortest.coefficient (shortest_coefficient_ne_zero x some)
            have all := digitsText_isDigit x.shortest.coefficient
            rw [text] at all inside
            obtain ⟨integer, fraction, exponent, same, integerDigits, _, fractionDigits, _⟩ :=
              layout_eq_tokenText first others _ all nonzero
            rw [same] at inside
            exact tokenText_isNumberUnit _ _ _ integerDigits fractionDigits unit inside

end Adjudicate.Js
