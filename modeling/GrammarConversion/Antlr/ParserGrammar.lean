import GrammarConversion.Antlr.LexerGrammar

/-!
# Parser grammars

A parser grammar has its rules in the order of the productions and uses the tokens of a lexer.
-/

namespace GrammarConversion.Antlr

structure ParserGrammar where
  name : String
  rules : List Rule := []
  deriving DecidableEq, Repr

/-- The option that names the lexer whose tokens a parser uses. -/
def vocabularyOption (lexerName : Option String) : String :=
  match lexerName with
  | none => ""
  | some name => if name = "" then "" else "\noptions \x7b tokenVocab=" ++ name ++ "; \x7d\n"

/-- **The document of a parser grammar** for the tokens of a lexer. -/
def ParserGrammar.document (parser : ParserGrammar) (lexerName : Option String) : String :=
  "parser grammar " ++ parser.name ++ ";\n" ++ vocabularyOption lexerName
    ++ String.join (parser.rules.map fun rule => "\n" ++ rule.text ++ "\n")

/-- A lexer grammar and the parser grammar that uses its tokens. -/
structure GrammarPair where
  lexer : LexerGrammar
  parser : ParserGrammar
  deriving DecidableEq, Repr

/-- The document of the lexer grammar, if it can be written. -/
def GrammarPair.lexerDocument (pair : GrammarPair) : Except Failure String :=
  if pair.lexer.isWritable then .ok pair.lexer.document else .error .notText

def GrammarPair.parserDocument (pair : GrammarPair) : String :=
  pair.parser.document (some pair.lexer.name)

end GrammarConversion.Antlr
