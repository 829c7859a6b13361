/-
This file models JSON text: its syntax tree, the compact printer, and the parser.
-/

import Adjudicate.Js.NumberText

namespace Adjudicate.Js

/-- The tree keeps number tokens and member order, so it determines the compact text. -/
inductive Json where
  | null
  | bool (value : Bool)
  | num (token : JsString)
  | str (text : JsString)
  | arr (items : List Json)
  | obj (members : List (JsString × Json))

def hexUnit (digit : Nat) : CodeUnit := Fin.ofNat _ (if digit < 10 then 0x30 + digit else 0x57 + digit)

def unicodeEscape (unit : CodeUnit) : JsString :=
  [0x5C, 0x75, hexUnit (unit.val / 0x1000), hexUnit (unit.val / 0x100 % 0x10),
    hexUnit (unit.val / 0x10 % 0x10), hexUnit (unit.val % 0x10)]

/-- These are the single-unit escapes of `QuoteJSONString`. -/
def escapeUnit (unit : CodeUnit) : JsString :=
  if unit = 0x08 then [0x5C, 0x62]
  else if unit = 0x09 then [0x5C, 0x74]
  else if unit = 0x0A then [0x5C, 0x6E]
  else if unit = 0x0C then [0x5C, 0x66]
  else if unit = 0x0D then [0x5C, 0x72]
  else if unit = 0x22 then [0x5C, 0x22]
  else if unit = 0x5C then [0x5C, 0x5C]
  else if unit.val < 0x20 ∨ isSurrogate unit then unicodeEscape unit
  else [unit]

/-- Only a surrogate outside a pair is escaped. -/
def quoteUnits : JsString → JsString
  | [] => []
  | [unit] => escapeUnit unit
  | first :: second :: rest =>
      if isHighSurrogate first && isLowSurrogate second then first :: second :: quoteUnits rest
      else escapeUnit first ++ quoteUnits (second :: rest)

def quote (text : JsString) : JsString := 0x22 :: quoteUnits text ++ [0x22]

mutual

def Json.print : Json → JsString
  | .null => "null"
  | .bool true => "true"
  | .bool false => "false"
  | .num token => token
  | .str text => quote text
  | .arr [] => [0x5B, 0x5D]
  | .arr (item :: items) => 0x5B :: item.print ++ printItems items
  | .obj [] => [0x7B, 0x7D]
  | .obj ((key, value) :: members) =>
      0x7B :: quote key ++ 0x3A :: value.print ++ printMembers members

/-- The remaining items carry their separators and the closing bracket. -/
def printItems : List Json → JsString
  | [] => [0x5D]
  | item :: items => 0x2C :: item.print ++ printItems items

def printMembers : List (JsString × Json) → JsString
  | [] => [0x7D]
  | (key, value) :: members => 0x2C :: quote key ++ 0x3A :: value.print ++ printMembers members

end

def isBlank (unit : CodeUnit) : Bool :=
  unit = 0x20 || unit = 0x09 || unit = 0x0A || unit = 0x0D

def skipBlank (text : JsString) : JsString := text.dropWhile isBlank

def hexValue (unit : CodeUnit) : Option Nat :=
  if isDigit unit then some (unit.val - 0x30)
  else if 0x61 ≤ unit.val ∧ unit.val ≤ 0x66 then some (unit.val - 0x57)
  else if 0x41 ≤ unit.val ∧ unit.val ≤ 0x46 then some (unit.val - 0x37)
  else none

def simpleEscape (unit : CodeUnit) : Option CodeUnit :=
  if unit = 0x62 then some 0x08
  else if unit = 0x74 then some 0x09
  else if unit = 0x6E then some 0x0A
  else if unit = 0x66 then some 0x0C
  else if unit = 0x72 then some 0x0D
  else if unit = 0x22 ∨ unit = 0x5C ∨ unit = 0x2F then some unit
  else none

/-- The text after an opening quotation mark gives the string and the rest. -/
def unquote : JsString → Option (JsString × JsString)
  | [] => none
  | unit :: rest =>
      if unit = 0x22 then some ([], rest)
      else if unit = 0x5C then
        match rest with
        | [] => none
        | escape :: rest =>
            if escape = 0x75 then
              match rest with
              | a :: b :: c :: d :: rest => do
                  let value := 0x1000 * (← hexValue a) + 0x100 * (← hexValue b) +
                    0x10 * (← hexValue c) + (← hexValue d)
                  let (text, rest) ← unquote rest
                  return (Fin.ofNat _ value :: text, rest)
              | _ => none
            else do
              let value ← simpleEscape escape
              let (text, rest) ← unquote rest
              return (value :: text, rest)
      else if unit.val < 0x20 then none
      else do
        let (text, rest) ← unquote rest
        return (unit :: text, rest)

def isNumberUnit (unit : CodeUnit) : Bool :=
  isDigit unit || unit = 0x2B || unit = 0x2D || unit = 0x2E || unit = 0x65 || unit = 0x45

def keyword (word : JsString) (value : Json) (text : JsString) : Option (Json × JsString) :=
  if word.isPrefixOf text then some (value, text.drop word.length) else none

/-- No number can be followed by another number unit, so a token is the whole run. -/
def scanNumber (text : JsString) : Option (Json × JsString) :=
  let token := text.takeWhile isNumberUnit
  if (parseNumber token).isSome then some (.num token, text.dropWhile isNumberUnit) else none

mutual

def parseValue : Nat → JsString → Option (Json × JsString)
  | 0, _ => none
  | fuel + 1, text =>
      match skipBlank text with
      | [] => none
      | unit :: rest =>
          if unit = 0x22 then (unquote rest).map fun result => (.str result.1, result.2)
          else if unit = 0x5B then
            match skipBlank rest with
            | 0x5D :: rest => some (.arr [], rest)
            | rest => do
                let (item, rest) ← parseValue fuel rest
                let (items, rest) ← parseItems fuel rest
                return (.arr (item :: items), rest)
          else if unit = 0x7B then
            match skipBlank rest with
            | 0x7D :: rest => some (.obj [], rest)
            | rest => do
                let (member, rest) ← parseMember fuel rest
                let (members, rest) ← parseMembers fuel rest
                return (.obj (member :: members), rest)
          else if unit = 0x6E then keyword "null" .null (unit :: rest)
          else if unit = 0x74 then keyword "true" (.bool true) (unit :: rest)
          else if unit = 0x66 then keyword "false" (.bool false) (unit :: rest)
          else scanNumber (unit :: rest)

def parseItems : Nat → JsString → Option (List Json × JsString)
  | 0, _ => none
  | fuel + 1, text =>
      match skipBlank text with
      | 0x5D :: rest => some ([], rest)
      | 0x2C :: rest => do
          let (item, rest) ← parseValue fuel rest
          let (items, rest) ← parseItems fuel rest
          return (item :: items, rest)
      | _ => none

def parseMember : Nat → JsString → Option ((JsString × Json) × JsString)
  | 0, _ => none
  | fuel + 1, text =>
      match skipBlank text with
      | 0x22 :: rest => do
          let (key, rest) ← unquote rest
          match skipBlank rest with
          | 0x3A :: rest => do
              let (value, rest) ← parseValue fuel rest
              return ((key, value), rest)
          | _ => none
      | _ => none

def parseMembers : Nat → JsString → Option (List (JsString × Json) × JsString)
  | 0, _ => none
  | fuel + 1, text =>
      match skipBlank text with
      | 0x7D :: rest => some ([], rest)
      | 0x2C :: rest => do
          let (member, rest) ← parseMember fuel rest
          let (members, rest) ← parseMembers fuel rest
          return (member :: members, rest)
      | _ => none

end

/-- Every call of the parser consumes a unit or descends once, so this fuel is never short. -/
def Json.parse (text : JsString) : Option Json :=
  match parseValue (3 * text.length + 3) text with
  | some (value, rest) => if skipBlank rest = [] then some value else none
  | none => none

example : (Json.parse (utf16 " [1, \"a\\u0041\"] ")).map Json.print = some (utf16 "[1,\"aA\"]") := by
  decide +kernel

end Adjudicate.Js
