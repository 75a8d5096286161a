import GrammarConversion.Json.Basic
import GrammarConversion.Text.Quoted

/-!
# Printed forms of plain values

Where a tree should hold a node, a model may hold a plain value.  Messages name its type, and the
printed form of the tree around it shows it.
-/

namespace GrammarConversion.Json

open GrammarConversion.Text

def typeName : Json → String
  | .null => "NoneType"
  | .bool _ => "bool"
  | .number text => if isIntegerText text then "int" else "float"
  | .string _ => "str"
  | .array _ => "list"
  | .object _ => "dict"

def printedBool (value : Bool) : String :=
  if value then "True" else "False"

/-- The printed form of a truth value that may be absent. -/
def printedFlag (value : Option Bool) : String :=
  (value.map printedBool).getD "None"

mutual

def printed : Json → String
  | .null => "None"
  | .bool value => printedBool value
  | .number text => text
  | .string text => quoted text
  | .array items => bracketed (printedItems items)
  | .object fields => "\x7b" ++ ", ".intercalate (printedFields fields) ++ "\x7d"

def printedItems : List Json → List String
  | [] => []
  | item :: items => item.printed :: printedItems items

def printedFields : List (String × Json) → List String
  | [] => []
  | (name, value) :: fields => (quoted name ++ ": " ++ value.printed) :: printedFields fields

end

end GrammarConversion.Json
