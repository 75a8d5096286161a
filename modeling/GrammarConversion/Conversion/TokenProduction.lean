import GrammarConversion.Antlr.LexerGrammar
import GrammarConversion.Conversion.LexerBody
import GrammarConversion.Conversion.NameSupply
import GrammarConversion.Conversion.ParserBody
import GrammarConversion.Text.Search

/-!
# Token productions and lexical states

Each lexical state becomes a mode.  A token of several states is written in full once, in the
canonical state of its production; in every other state a rule prefixed with the name of the state
refers to it.  Such a rule also gives an ordinary token the type of the canonical rule, so the
parser sees the same type whichever mode has matched.

**Changes of the state.**  A token whose action calls the helper that pushes a state pushes the
mode, one whose action calls the helper that pops goes back, and a plain next state sets the mode.
-/

namespace GrammarConversion.Conversion

open GrammarConversion.Antlr
open GrammarConversion.Model

/-! ## Small decisions -/

def leastOf (first : String) (others : List String) : String :=
  others.foldl (fun least other => if other < least then other else least) first

/-- The least of some texts, if there is any. -/
def least? : List String → Option String
  | [] => none
  | first :: others => some (leastOf first others)

/-- **The state in which a token of several states is written in full:** the default state, else
the least one whose name contains that of the default state, else the least one. -/
def canonicalState? (states : List String) : Option String :=
  if defaultState ∈ states then some defaultState
  else
    match least? (states.filter fun state => Text.occursIn defaultState.toList state.toList) with
    | some state => some state
    | none => least? states

def kindCommands : ProductionKind → List Command
  | .token => []
  | .special => [.hide]
  | .more => [.more]
  | .skip => [.skip]

structure TokenSettings where
  functions : Code.StateFunctions := {}
  ignoreCase : Bool := false

/-- A text that may be absent, with an empty one for absent. -/
def filled (text : Option String) : Option String :=
  text.filter (· ≠ "")

/-- The commands that change the mode when `spec` has matched in `state`. -/
def stateCommands (settings : TokenSettings) (spec : TokenSpec) (state : String) : List Command :=
  let called := Code.identifiers (spec.action.getD "")
  let calls (helper : Option String) : Bool :=
    match helper with
    | none => false
    | some name => name ∈ called
  if calls settings.functions.push then
    [.pushMode (modeName ((filled spec.nextState).getD state))]
  else if calls settings.functions.pop then [.popMode]
  else
    match spec.nextState with
    | some next => [.mode (modeName next)]
    | none => []

/-- **The body of the rule for the tree of a token.**  The tree should be a regular expression; an
expansion is converted without a scope. -/
def tokenBody (context : RegexContext) : Tree → Except Failure Body
  | .regex node => (lexerBody context node).map .text
  | .expansion node => (parserBody { scope := none, rule := context.rule } node).map Body.ofPart
  | .plain _ => .error .strayValue

def specBody (settings : TokenSettings) (production : TokenProduction) (spec : TokenSpec) :
    Except Failure Body :=
  tokenBody
    { ignoreCase := some (settings.ignoreCase || production.ignoreCase || spec.ignoreCase)
      rule := spec.label }
    spec.tree

/-- The rule for `spec` in `state`, where `target` is the name of its canonical rule. -/
def stateRule (settings : TokenSettings) (kind : ProductionKind) (spec : TokenSpec)
    (body : Body) (canonical target state : String) : Rule :=
  if spec.isPrivate then { name := target, body := body, isFragment := true }
  else if state = canonical then
    { name := target
      body := body
      commands := kindCommands kind ++ stateCommands settings spec state }
  else
    { name := state ++ "_" ++ target
      body := .text target
      commands := kindCommands kind ++ (if kind = .token then [.type target] else [])
        ++ stateCommands settings spec state }

/-! ## Building the lexer -/

/-- A lexer under construction, the names that are left, and the records made so far. -/
structure Workspace where
  lexer : LexerGrammar
  names : NameSupply := {}
  log : List LogRecord := []

/-- The result of a step together with the workspace it leaves, also when it fails. -/
abbrev Step (α : Type) := Workspace × Except Failure α

namespace Workspace

def noting (space : Workspace) (records : List LogRecord) : Workspace :=
  { space with log := space.log ++ records }

/-- Adds a rule to a mode, and names it by its kind if it has no name. -/
def addRule (space : Workspace) (mode : String) (rule : Rule) (kind : ProductionKind) :
    Step (Option Rule) :=
  let added := space.lexer.addRule mode rule space.names (some fun names => names.next kind)
  ({ lexer := added.lexer, names := added.names, log := space.log ++ added.log }, added.result)

def addModes (space : Workspace) (states : List String) : Workspace :=
  { space with
    lexer := states.foldl (fun lexer state => lexer.addMode (modeName state)) space.lexer }

end Workspace

def privateWarning (spec : TokenSpec) : List LogRecord :=
  if spec.isPrivate && ((filled spec.action).isSome || (filled spec.nextState).isSome) then
    [⟨.warning, "lexer_mapper",
      "dropping action and state change of fragment " ++ spec.label.getD "None"⟩]
  else []

/-- Adds the rules for `spec` in several states, where `target` is the name of its canonical rule
as far as it is known.  A private token has a rule in its canonical state only. -/
def mapStates (settings : TokenSettings) (kind : ProductionKind) (spec : TokenSpec)
    (body : Body) (canonical : String) :
    (states : List String) → (target : String) → Workspace → Step Unit
  | [], _, space => (space, .ok ())
  | state :: states, target, space =>
    if spec.isPrivate && state ≠ canonical then
      mapStates settings kind spec body canonical states target space
    else
      let rule := stateRule settings kind spec body canonical target state
      match (space.noting (privateWarning spec)).addRule (modeName state) rule kind with
      | (space, .error failure) => (space, .error failure)
      | (space, .ok stored) =>
        let target :=
          if state = canonical then (stored.map Rule.name).getD target else target
        mapStates settings kind spec body canonical states target space

def mapSpec (settings : TokenSettings) (production : TokenProduction) (kind : ProductionKind)
    (canonical : String) (states : List String) (spec : TokenSpec) (space : Workspace) :
    Step Unit :=
  match specBody settings production spec with
  | .error failure => (space, .error failure)
  | .ok body =>
    mapStates settings kind spec body canonical states ((spec.label?.map ruleName).getD "") space

def mapSpecs (settings : TokenSettings) (production : TokenProduction) (kind : ProductionKind)
    (canonical : String) (states : List String) : List TokenSpec → Workspace → Step Unit
  | [], space => (space, .ok ())
  | spec :: specs, space =>
    match mapSpec settings production kind canonical states spec space with
    | (space, .error failure) => (space, .error failure)
    | (space, .ok ()) => mapSpecs settings production kind canonical states specs space

/-- The states of a production with the canonical one first, since the rules of the other states
need its name. -/
def canonicalFirst (canonical : String) (states : List String) : List String :=
  canonical :: states.filter fun state => state ≠ canonical

/-- **Adds the rules for an explicit production.**  Nothing is added for one that is not. -/
def mapProduction (settings : TokenSettings) (production : TokenProduction) (space : Workspace) :
    Step Unit :=
  if !production.isExplicit then (space, .ok ())
  else
    match production.kind with
    | .unknown name => (space, .error (.conversion (.unsupported name none)))
    | .known kind =>
      let space := space.addModes production.states
      match canonicalState? production.states with
      | none => (space, .ok ())
      | some canonical =>
        mapSpecs settings production kind canonical (canonicalFirst canonical production.states)
          production.specs space

/-! ## Literals of BNF productions -/

/-- Adds rules for literals of BNF productions which no token rule matches yet. -/
def promoteSpecs (settings : TokenSettings) (production : TokenProduction) :
    List TokenSpec → Workspace → Step Unit
  | [], space => (space, .ok ())
  | spec :: specs, space =>
    match specBody settings production spec with
    | .error failure => (space, .error failure)
    | .ok body =>
      match space.lexer.ruleForBody? body with
      | some _ => promoteSpecs settings production specs space
      | none =>
        let space := space.noting
          [⟨.debug, "lexer_mapper", "promoting literal " ++ body.shown ++ " to a token rule"⟩]
        let rule : Rule := { name := (spec.label?.map ruleName).getD "", body := body }
        match space.addRule defaultMode rule .token with
        | (space, .error failure) => (space, .error failure)
        | (space, .ok _) => promoteSpecs settings production specs space

/-- **Adds rules for the literals of a production that is not explicit.** -/
def promoteLiterals (settings : TokenSettings) (production : TokenProduction)
    (space : Workspace) : Step Unit :=
  promoteSpecs settings production production.specs space

end GrammarConversion.Conversion
