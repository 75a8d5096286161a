import GrammarConversion.Code.Lexeme

/-!
# Tokens of embedded code

What is left of the lexemes of some code once white space and comments are dropped.  A token has
a kind and an image, the text as it was written.
-/

namespace GrammarConversion.Code

inductive TokenKind where
  | identifier
  | keyword
  | literal
  | operator
  deriving DecidableEq, Repr

def TokenKind.name : TokenKind → String
  | .identifier => "IDENTIFIER"
  | .keyword => "KEYWORD"
  | .literal => "LITERAL"
  | .operator => "OPERATOR"

structure Token where
  kind : TokenKind
  image : String
  deriving DecidableEq, Repr

/-- The reserved words of the language that actions are written in. -/
def keywords : List String :=
  ["abstract", "assert", "boolean", "break", "byte", "case", "catch", "char", "class", "const",
   "continue", "default", "do", "double", "else", "enum", "extends", "final", "finally", "float",
   "for", "goto", "if", "implements", "import", "instanceof", "int", "interface", "long", "native",
   "new", "package", "private", "protected", "public", "return", "short", "static", "strictfp",
   "super", "switch", "synchronized", "this", "throw", "throws", "transient", "try", "void",
   "volatile", "while", "true", "false", "null"]

/-- The token that a lexeme stands for, if it is one. -/
def Lexeme.token? (lexeme : Lexeme) : Option Token :=
  let image := String.ofList lexeme.text
  match lexeme.kind with
  | .blank => none
  | .comment => none
  | .quoted => some ⟨.literal, image⟩
  | .number => some ⟨.literal, image⟩
  | .word => some ⟨if image ∈ keywords then .keyword else .identifier, image⟩
  | .mark => some ⟨.operator, image⟩

/-- **The tokens of some code, in order.** -/
def tokenize (code : String) : List Token :=
  (lexemes code.toList).filterMap Lexeme.token?

/-- The identifiers of some code, in order and as often as they occur. -/
def identifiers (code : String) : List String :=
  ((tokenize code).filter fun token => token.kind = .identifier).map Token.image

end GrammarConversion.Code
