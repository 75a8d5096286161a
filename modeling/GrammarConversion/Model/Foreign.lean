import GrammarConversion.Json.Printed

/-!
# Values that are no nodes of a tree

The trees of a grammar model are built by a front end, which may put anything in the place of a
node.  Inside a tree nothing is ever done with such a value but to name its type and to print it.
-/

namespace GrammarConversion.Model

/-- A value in the place of a node. -/
inductive Foreign where
  /-- A value that is no node at all. -/
  | plain (value : Json)
  /-- A node of another tree, of which its type and its printed form are known. -/
  | node (type printed : String)

def Foreign.typeName : Foreign → String
  | .plain value => value.typeName
  | .node type _ => type

def Foreign.printed : Foreign → String
  | .plain value => value.printed
  | .node _ printed => printed

/-- The printed form of a node from its type and its fields. -/
def printedNode (type : String) (fields : List (String × String)) : String :=
  "<" ++ type ++ " object>: \x7b"
    ++ ", ".intercalate (fields.map fun field => "'" ++ field.1 ++ "': " ++ field.2) ++ "\x7d"

def printedInt (n : Option Int) : String :=
  match n with
  | none => "None"
  | some n => toString n

end GrammarConversion.Model
