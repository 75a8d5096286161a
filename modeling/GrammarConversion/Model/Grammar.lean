import GrammarConversion.Antlr.Name
import GrammarConversion.Code.Method
import GrammarConversion.Model.Tree

/-!
# Grammar models

A JavaCC grammar as a front end hands it over: token productions, which say what the lexer matches
in which lexical states, BNF productions, and the options that bear on a conversion.
-/

namespace GrammarConversion.Model

open GrammarConversion.Text

/-- What becomes of the text that a token production matches. -/
inductive ProductionKind where
  /-- A token for the parser. -/
  | token
  /-- The beginning of a longer token. -/
  | more
  /-- Nothing. -/
  | skip
  /-- A token that the parser does not see. -/
  | special
  deriving DecidableEq, Repr

def ProductionKind.name : ProductionKind → String
  | .token => "TOKEN"
  | .more => "MORE"
  | .skip => "SKIP"
  | .special => "SPECIAL"

/-- The kind that a production declares, which may be none of the known ones. -/
inductive DeclaredKind where
  | known (kind : ProductionKind)
  | unknown (name : String)
  deriving DecidableEq, Repr

def DeclaredKind.printed : DeclaredKind → String
  | .known kind => "ProductionKind." ++ kind.name
  | .unknown name => name

/-- One regular expression of a token production with what belongs to it. -/
structure TokenSpec where
  /-- What the token matches. -/
  tree : Tree
  label : Option String := none
  /-- Whether the token is matched only as a part of other tokens. -/
  privacy : Option Bool := some false
  /-- The lexical state after a match. -/
  nextState : Option String := none
  /-- The code that runs at a match. -/
  action : Option String := none
  ignoreCase : Bool := false

/-- Whether a token is matched only as a part of other tokens. -/
def TokenSpec.isPrivate (spec : TokenSpec) : Bool :=
  spec.privacy.getD false

def TokenSpec.printed (spec : TokenSpec) : String :=
  "<RegExprSpec object>: label=" ++ spec.label.getD "None"
    ++ ", private=" ++ Json.printedFlag spec.privacy
    ++ ", next_state=" ++ spec.nextState.getD "None"

/-- The label of a token specification; an empty label is none. -/
def TokenSpec.label? (spec : TokenSpec) : Option String :=
  spec.label.filter (· ≠ "")

/-- A block of tokens of one kind. -/
structure TokenProduction where
  kind : DeclaredKind
  /-- The lexical states as they are listed. -/
  listedStates : List String
  specs : List TokenSpec
  ignoreCase : Bool := false
  /-- A production that the front end made for literals of BNF productions is not explicit. -/
  isExplicit : Bool := true

/-- The lexical states in which a production is active: without a list, the default state. -/
def TokenProduction.states (production : TokenProduction) : List String :=
  if production.listedStates.isEmpty then [Antlr.defaultState] else production.listedStates

def TokenProduction.printed (production : TokenProduction) : String :=
  "<TokenProduction object>: kind=" ++ production.kind.printed
    ++ ", lex_states=" ++ bracketed (production.states.map quoted)

structure BnfProduction where
  name : String
  /-- What the production derives. -/
  tree : Tree

def BnfProduction.printed (production : BnfProduction) : String :=
  "<ParserProduction object>: name=" ++ production.name

structure Grammar where
  tokenProductions : List TokenProduction
  bnfProductions : List BnfProduction
  ignoreCase : Bool := false
  /-- The helpers for lexical states, if they are given by name. -/
  givenFunctions : Option Code.StateFunctions := none
  /-- The declarations of the token manager. -/
  managerCode : Option String := none

namespace Grammar

/-- Whether any part of a grammar matches in either case. -/
def usesIgnoreCase (grammar : Grammar) : Bool :=
  grammar.ignoreCase || grammar.tokenProductions.any fun production =>
    production.ignoreCase || production.specs.any TokenSpec.ignoreCase

def productionNames (grammar : Grammar) : List String :=
  grammar.bnfProductions.map BnfProduction.name

/-- **The helpers for lexical states.**  Unless they are given by name they are looked for in the
declarations of the token manager. -/
def stateFunctions (grammar : Grammar) : Code.StateFunctions :=
  match grammar.givenFunctions with
  | some functions => functions
  | none => Code.StateFunctions.ofDeclarations (grammar.managerCode.getD "")

def specs (grammar : Grammar) : List TokenSpec :=
  grammar.tokenProductions.flatMap TokenProduction.specs

end Grammar

end GrammarConversion.Model
