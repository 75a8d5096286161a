/-!
# JSON values

The values of the format in which grammar models are stored.  A number keeps the text it was
written with, since a model only ever shows a number again or reads it as an integer.
-/

namespace GrammarConversion

inductive Json where
  | null
  | bool (value : Bool)
  | number (text : String)
  | string (text : String)
  | array (items : List Json)
  | object (fields : List (String × Json))
  deriving Inhabited

namespace Json

/-- The value of a field; none if this is no object or has no such field. -/
def field? (name : String) : Json → Option Json
  | .object fields => fields.lookup name
  | _ => none

/-- The value of a field, with `null` for a field that is not there. -/
def field (name : String) (value : Json) : Json :=
  (value.field? name).getD .null

def text? : Json → Option String
  | .string text => some text
  | _ => none

def bool? : Json → Option Bool
  | .bool value => some value
  | _ => none

def items? : Json → Option (List Json)
  | .array items => some items
  | _ => none

/-- Whether a number is written as an integer, without a fraction and without an exponent. -/
def isIntegerText (text : String) : Bool :=
  text.toList.all fun c => c == '-' || c.isDigit

def int? : Json → Option Int
  | .number text => if isIntegerText text then text.toInt? else none
  | _ => none

def optionalText? : Json → Option (Option String)
  | .null => some none
  | .string text => some (some text)
  | _ => none

def optionalInt? : Json → Option (Option Int)
  | .null => some none
  | value => value.int?.map some

def texts? (value : Json) : Option (List String) := do
  (← value.items?).mapM text?

end Json

end GrammarConversion
