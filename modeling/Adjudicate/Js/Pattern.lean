/-
This file models the tests of regular expressions without captures.
-/

import Adjudicate.Js.Coercion

namespace Adjudicate.Js

/-- A repetition is one of single units. A test does not see how greedy a repetition is. -/
inductive Pattern where
  | empty
  | single (accepts : CodeUnit → Bool)
  | many (accepts : CodeUnit → Bool)
  | start
  | stop
  | wordBoundary
  | seq (first second : Pattern)
  | alt (left right : Pattern)

/-- A position has the unit before it and the units after it. -/
structure Position where
  before : Option CodeUnit
  rest : JsString

/-- These are the code units of `\w`. -/
def isWordUnit (unit : CodeUnit) : Bool :=
  isDigit unit || (0x41 ≤ unit && unit ≤ 0x5A) || (0x61 ≤ unit && unit ≤ 0x7A) || unit = 0x5F

/-- These are the positions after a repetition, the shortest one first. -/
def manyEnds (accepts : CodeUnit → Bool) : Option CodeUnit → JsString → List Position
  | before, [] => [⟨before, []⟩]
  | before, unit :: rest =>
      ⟨before, unit :: rest⟩ :: if accepts unit then manyEnds accepts (some unit) rest else []

/-- These are the positions at which a match from the given position can end. -/
def Pattern.ends : Pattern → Position → List Position
  | .empty, position => [position]
  | .single accepts, position =>
      match position.rest with
      | unit :: rest => if accepts unit then [⟨some unit, rest⟩] else []
      | [] => []
  | .many accepts, position => manyEnds accepts position.before position.rest
  | .start, position => if position.before = none then [position] else []
  | .stop, position => if position.rest = [] then [position] else []
  | .wordBoundary, position =>
      if position.before.any isWordUnit = position.rest.head?.any isWordUnit then [] else [position]
  | .seq first second, position => (first.ends position).flatMap second.ends
  | .alt left right, position => left.ends position ++ right.ends position

/-- The pattern matches somewhere at or after the position. -/
def Pattern.search (pattern : Pattern) : Option CodeUnit → JsString → Bool
  | before, [] => !(pattern.ends ⟨before, []⟩).isEmpty
  | before, unit :: rest =>
      !(pattern.ends ⟨before, unit :: rest⟩).isEmpty || pattern.search (some unit) rest

def Pattern.test (pattern : Pattern) (text : JsString) : Bool := pattern.search none text

namespace Pattern

def sequence (patterns : List Pattern) : Pattern := patterns.foldr seq empty

/-- There is at least one alternative. -/
def oneOf (first : Pattern) (others : List Pattern) : Pattern := others.foldl alt first

def optional (pattern : Pattern) : Pattern := .alt pattern .empty

def literal (text : JsString) : Pattern := sequence (text.map fun letter => .single (· = letter))

def upperCase (unit : CodeUnit) : CodeUnit :=
  if 0x61 ≤ unit && unit ≤ 0x7A then unit - 0x20 else unit

/-- This is a literal under the flag `i`, where only the letters of ASCII have another case. -/
def anyCase (text : JsString) : Pattern :=
  sequence (text.map fun letter => .single (upperCase · = upperCase letter))

def space : Pattern := .single isWhiteSpace

def spaces : Pattern := .many isWhiteSpace

/-- This is `(\s|$)`. -/
def spaceOrStop : Pattern := .alt space stop

end Pattern

end Adjudicate.Js
