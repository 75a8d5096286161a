import GrammarConversion.Antlr.ParserGrammar
import GrammarConversion.Conversion.ParserBody
import GrammarConversion.Conversion.TokenProduction

/-!
# Conversion of a grammar

From the model of a JavaCC grammar to the two grammars that ANTLR reads.  The lexer is built first,
from all token productions in order.  The parser is built from the BNF productions when the lexer
is complete, since a literal of a production is looked up there.
-/

namespace GrammarConversion.Conversion

open GrammarConversion.Antlr
open GrammarConversion.Model

/-! ## The lexer -/

def tokenSettings (grammar : Grammar) : TokenSettings :=
  { functions := grammar.stateFunctions, ignoreCase := grammar.ignoreCase }

/-- The names of the labelled tokens of a grammar, which are never made up. -/
def reservedNames (grammar : Grammar) : List String :=
  (grammar.specs.filterMap TokenSpec.label?).map ruleName

/-- The workspace in which the lexer `name` of a grammar is built. -/
def initialWorkspace (name : String) (grammar : Grammar) : Workspace :=
  let lexer : LexerGrammar := { name := name }
  { lexer := if grammar.usesIgnoreCase then lexer.enableLetters else lexer
    names := { reserved := reservedNames grammar }
    log := if grammar.usesIgnoreCase then lexer.enableLettersLog else [] }

/-- Adds the rules for several token productions, up to the first failure. -/
def convertTokenProductions (settings : TokenSettings) :
    List TokenProduction → Workspace → Step Unit
  | [], space => (space, .ok ())
  | production :: productions, space =>
    let step :=
      if production.isExplicit then mapProduction settings production space
      else promoteLiterals settings production space
    match step with
    | (space, .error failure) => (space, .error failure)
    | (space, .ok ()) => convertTokenProductions settings productions space

def convertTokens (name : String) (grammar : Grammar) : Step Unit :=
  convertTokenProductions (tokenSettings grammar) grammar.tokenProductions
    (initialWorkspace name grammar)

/-! ## The parser -/

/-- **The part of a parser rule for the tree of a BNF production.**  The tree should be an
expansion.  A regular expression is converted too, without knowing whether case matters, and fails
in any case: its text is no part of a parser rule. -/
def productionPart (context : ExpansionContext) : Tree → Except Failure (Option Component)
  | .expansion node => parserBody context node
  | .regex node => do
    let _ ← lexerBody { ignoreCase := none, rule := context.rule } node
    .error .strayValue
  | .plain _ => .error .strayValue

def productionBody (context : ExpansionContext) (production : BnfProduction) :
    Except Failure String := do
  match ← productionPart context production.tree with
  | none => .ok ""
  | some component =>
    match component.text? with
    | some text => .ok text
    | none => .error .unwritable

def productionContext (grammar : Grammar) (lexer : LexerGrammar) (production : BnfProduction) :
    ExpansionContext :=
  { scope := some ⟨lexer, grammar.productionNames⟩, rule := some production.name }

def parserRules (grammar : Grammar) (lexer : LexerGrammar) :
    List BnfProduction → Except Failure (List Rule)
  | [] => .ok []
  | production :: productions => do
    let body ← productionBody (productionContext grammar lexer production) production
    let rules ← parserRules grammar lexer productions
    .ok ({ name := parserRuleName production.name, body := .text body } :: rules)

def converterNote (level : Level) (message : String) : LogRecord :=
  ⟨level, "converter", message⟩

/-- The records that the conversion of the tree of a BNF production makes. -/
def productionPartLog (context : ExpansionContext) : Tree → List LogRecord
  | .expansion node => parserBodyLog context node
  | .regex _ => []
  | .plain _ => []

/-- The records that the conversion of several BNF productions makes up to its first failure. -/
def parserRulesLog (grammar : Grammar) (lexer : LexerGrammar) : List BnfProduction → List LogRecord
  | [] => []
  | production :: productions =>
    let context := productionContext grammar lexer production
    converterNote .debug ("converting production " ++ production.name)
      :: productionPartLog context production.tree
      ++ match productionBody context production with
        | .error _ => []
        | .ok body =>
          (if body = "" then
            [converterNote .debug ("production " ++ production.name
              ++ " has no grammar content, keeping an empty rule")]
          else [])
            ++ parserRulesLog grammar lexer productions

/-! ## The whole grammar -/

/-- The records and the result of a conversion. -/
structure Outcome where
  log : List LogRecord
  result : Except Failure GrammarPair

/-- **Converts a grammar** into the grammars for a lexer and for a parser that are called after
`name`. -/
def convert (name : String) (grammar : Grammar) : Outcome :=
  let tokens := convertTokens (name ++ "Lexer") grammar
  let tokenLog := converterNote .info "converting token productions" :: tokens.1.log
  match tokens.2 with
  | .error failure => ⟨tokenLog, .error failure⟩
  | .ok () =>
    let lexer := tokens.1.lexer
    ⟨tokenLog ++ converterNote .info "converting BNF productions"
        :: parserRulesLog grammar lexer grammar.bnfProductions,
      (parserRules grammar lexer grammar.bnfProductions).map fun rules =>
        ⟨lexer, { name := name ++ "Parser", rules := rules }⟩⟩

end GrammarConversion.Conversion
