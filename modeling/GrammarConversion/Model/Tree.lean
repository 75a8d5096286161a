import GrammarConversion.Model.Expansion
import GrammarConversion.Model.Regex

/-!
# Trees of productions

A token has a regular expression and a BNF production an expansion, but a model may hold the tree
of one in the place of the other, or a value that is no tree.  Such a tree is converted by the
rules of its own kind as far as these do not depend on what surrounds it.
-/

namespace GrammarConversion.Model

/-- What a model holds in the place of the tree of a production. -/
inductive Tree where
  | regex (node : Regex)
  | expansion (node : Expansion)
  /-- A value that is no node. -/
  | plain (value : Json)

def Tree.printed : Tree → String
  | .regex node => node.printed
  | .expansion node => node.printed
  | .plain value => value.printed

end GrammarConversion.Model
