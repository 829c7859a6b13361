/-
This file models the conversion of data values to texts.
-/

import Adjudicate.Js.Value

namespace Adjudicate.Js

/-- This is the `TypeError` for an object without a primitive value. -/
def conversionError : Thrown := .error "TypeError" "Cannot convert object to primitive value"

mutual

/-- This is `String(value)`. An own `toString` is never a function and hides the inherited one. -/
def JsValue.toText : JsValue → Except Thrown JsString
  | .undefined => .ok "undefined"
  | .null => .ok "null"
  | .bool true => .ok "true"
  | .bool false => .ok "false"
  | .num number => .ok number.toString
  | .str text => .ok text
  | .arr items => do return List.intercalate "," (← itemTexts items)
  | .obj props =>
      if utf16 "toString" ∈ keys props then .error conversionError else .ok "[object Object]"

/-- A missing item has an empty text. -/
def itemTexts : List JsValue → Except Thrown (List JsString)
  | [] => .ok []
  | .undefined :: items => do return [] :: (← itemTexts items)
  | .null :: items => do return [] :: (← itemTexts items)
  | item :: items => do return (← item.toText) :: (← itemTexts items)

end

end Adjudicate.Js
