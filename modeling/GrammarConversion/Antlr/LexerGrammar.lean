import GrammarConversion.Antlr.Literal
import GrammarConversion.Antlr.Name
import GrammarConversion.Antlr.Rule
import GrammarConversion.Failure
import GrammarConversion.Log

/-!
# Lexer grammars

An ANTLR lexer grammar under construction: its modes with their rules, and the letter rules `A` to
`Z` that literals refer to when case does not matter.  Rules are only ever added at the end of a
mode (`addRule`), since of two rules that match the same text the first one wins.

**Adding a rule** goes through three questions.  A rule without a name is the rule of its mode that
has the same body, if there is one, and is named otherwise (`addRule`).  A rule with the name of a
letter must match that letter, and takes the place of the letter's rule (`settle`).  And a rule
must differ in name from its body and from all other rules of its mode (`place`).

The state after a failed addition is given back too: it may have a new mode and lack a letter rule.
-/

namespace GrammarConversion.Antlr

/-- A mode: rules in the order of their priority, and an index from bodies to positions which
leads to the first rule with a body that is not a fragment.  The index holds no part of a parser
rule, which is like no other body. -/
structure Mode where
  name : String
  rules : List Rule := []
  index : List (Body × Nat) := []
  deriving DecidableEq, Repr

namespace Mode

/-- The rule that the index leads to for a body. -/
def indexed? (mode : Mode) (body : Body) : Option Rule :=
  (mode.index.lookup body).bind fun position => mode.rules[position]?

def named? (mode : Mode) (name : String) : Option Rule :=
  mode.rules.find? fun rule => rule.name == name

def append (mode : Mode) (rule : Rule) : Mode :=
  { mode with
    rules := mode.rules ++ [rule]
    index :=
      if rule.isFragment || rule.body.isParserPart || (mode.index.lookup rule.body).isSome then
        mode.index
      else mode.index ++ [(rule.body, mode.rules.length)] }

end Mode

/-- A lexer grammar under construction. -/
structure LexerGrammar where
  name : String
  modes : List Mode := [{ name := defaultMode }]
  /-- The letter rules which no other rule has taken the place of. -/
  letterRules : List Rule := []
  /-- Whether there have been letter rules. -/
  caseInsensitive : Bool := false
  deriving DecidableEq, Repr

/-- The rule that matches a capital letter in either case. -/
def letterRule (letter : Char) : Rule :=
  { name := String.singleton letter
    body := .text ("[" ++ String.ofList [letter.toLower, letter] ++ "]")
    isFragment := true }

/-- The rules that match the letters `A` to `Z` in either case. -/
def allLetterRules : List Rule :=
  "ABCDEFGHIJKLMNOPQRSTUVWXYZ".toList.map letterRule

/-- What adding a rule comes to: the grammar and the source of names afterwards, the records made,
and the rule as it is stored, which is none if the rule was dropped. -/
structure Addition (Names : Type) where
  lexer : LexerGrammar
  names : Names
  log : List LogRecord
  result : Except Failure (Option Rule)

namespace LexerGrammar

/-! ## Looking rules up -/

def rules (lexer : LexerGrammar) : List Rule :=
  lexer.modes.flatMap Mode.rules

def mode? (lexer : LexerGrammar) (name : String) : Option Mode :=
  lexer.modes.find? fun mode => mode.name == name

def ruleNamed? (lexer : LexerGrammar) (name : String) : Option Rule :=
  lexer.rules.find? fun rule => rule.name == name

/-- **The token rule that matches what `body` matches,** in any mode: a rule with that body, or
else the rule that the body names. -/
def ruleForBody? (lexer : LexerGrammar) (body : Body) : Option Rule :=
  match lexer.rules.find? fun rule => !rule.isFragment && rule.body.same body with
  | some rule => some rule
  | none => lexer.rules.find? fun rule => !rule.isFragment && body == .text rule.name

/-- The token rule for a literal of a production. -/
def ruleForImage? (lexer : LexerGrammar) (image : String) : Option Rule :=
  match lexer.ruleForBody? (.text (literalBody false image)) with
  | some rule => some rule
  | none =>
    if lexer.caseInsensitive then lexer.ruleForBody? (.text (literalBody true image)) else none

/-- The letter rule with a name, if no other rule has taken its place. -/
def letterRule? (lexer : LexerGrammar) (name : String) : Option Rule :=
  lexer.letterRules.find? fun rule => rule.name == name

/-! ## Building a grammar -/

/-- A grammar with a mode, which is new unless there is one of that name. -/
def addMode (lexer : LexerGrammar) (name : String) : LexerGrammar :=
  if lexer.modes.any fun mode => mode.name == name then lexer
  else { lexer with modes := lexer.modes ++ [{ name := name }] }

def enableLetters (lexer : LexerGrammar) : LexerGrammar :=
  if lexer.caseInsensitive then lexer
  else { lexer with letterRules := allLetterRules, caseInsensitive := true }

def enableLettersLog (lexer : LexerGrammar) : List LogRecord :=
  if lexer.caseInsensitive then []
  else [⟨.debug, "rule_model", "creating case-insensitive letter fragments"⟩]

def append (lexer : LexerGrammar) (name : String) (rule : Rule) : LexerGrammar :=
  { lexer with
    modes := lexer.modes.map fun mode => if mode.name = name then mode.append rule else mode }

def dropLetter (lexer : LexerGrammar) (name : String) : LexerGrammar :=
  { lexer with letterRules := lexer.letterRules.filter fun rule => rule.name != name }

def note (message : String) : LogRecord :=
  ⟨.debug, "rule_model", message⟩

/-- Adds a rule to a mode unless it only refers to itself or is there already. -/
def place (lexer : LexerGrammar) (mode : String) (rule : Rule) : Addition Unit :=
  if rule.body = .text rule.name then
    ⟨lexer, (), [note ("dropping self-referencing rule " ++ rule.name)], .ok none⟩
  else
    match (lexer.mode? mode).bind fun found => found.named? rule.name with
    | some existing =>
      if existing.body.same rule.body then
        ⟨lexer, (), [note ("rule " ++ rule.name ++ " already present in mode " ++ mode)],
          .ok (some existing)⟩
      else
        ⟨lexer, (), [],
          .error (.conversion
            (.namingConflict rule.name rule.body.content? existing.body.content?))⟩
    | none =>
      ⟨lexer.append mode rule, (), [note ("adding rule " ++ rule.name ++ " to mode " ++ mode)],
        .ok (some rule)⟩

/-- Adds a rule that has its final name.  A rule with the name of a letter takes the place of the
letter's rule if it matches the same text. -/
def settle (lexer : LexerGrammar) (mode : String) (rule : Rule) : Addition Unit :=
  match lexer.letterRule? rule.name with
  | none => lexer.place mode rule
  | some letter =>
    if rule.body = .text rule.name ∨ rule.body = letter.body then
      let placed := (lexer.dropLetter rule.name).place mode { rule with body := letter.body }
      { placed with
        log := note ("rule " ++ rule.name ++ " replaces its letter fragment") :: placed.log }
    else
      ⟨lexer, (), [], .error (.conversion (.namingConflict rule.name rule.body.content? none))⟩

/-- The first name that `draw` gives which is not `taken`; the last one after `more` names that
are. -/
def drawUnused {Names : Type} (draw : Names → String × Names) (taken : String → Bool) :
    (more : Nat) → Names → String × Names
  | 0, names => draw names
  | more + 1, names =>
    let drawn := draw names
    if taken drawn.1 then drawUnused draw taken more drawn.2 else drawn

/-- **Adds a rule to a mode.**  A rule with an empty name is anonymous.  It is the rule of the mode
with the same body, or else gets a name that `draw?` gives and no rule has; there are no more
taken names than rules, so that many are skipped at most. -/
def addRule {Names : Type} (lexer : LexerGrammar) (mode : String) (rule : Rule) (names : Names)
    (draw? : Option (Names → String × Names)) : Addition Names :=
  let lexer := lexer.addMode mode
  if rule.name ≠ "" then
    let settled := lexer.settle mode { rule with name := ruleName rule.name }
    ⟨settled.lexer, names, settled.log, settled.result⟩
  else
    match (lexer.mode? mode).bind fun found => found.indexed? rule.body with
    | some existing =>
      ⟨lexer, names,
        [note ("anonymous rule " ++ rule.body.shown ++ " in mode " ++ mode ++ " is a duplicate of "
          ++ existing.name)],
        .ok (some existing)⟩
    | none =>
      match draw? with
      | none => ⟨lexer, names, [], .error (.unnamedRule rule.body.shown)⟩
      | some draw =>
        let drawn :=
          drawUnused draw (fun name => (lexer.ruleNamed? name).isSome) lexer.rules.length names
        let settled := lexer.settle mode { rule with name := ruleName drawn.1 }
        ⟨settled.lexer, drawn.2, settled.log, settled.result⟩

/-! ## The document -/

/-- The rules that are shown in the section of a mode: its own, and in the default mode the letter
rules after them. -/
def shownRules (lexer : LexerGrammar) (mode : Mode) : List Rule :=
  if mode.name = defaultMode then mode.rules ++ lexer.letterRules else mode.rules

/-- The modes that have a section: the default mode, and every other one with rules. -/
def shownModes (lexer : LexerGrammar) : List Mode :=
  lexer.modes.filter fun mode => decide (mode.name = defaultMode) || !mode.rules.isEmpty

def modeSection (lexer : LexerGrammar) (mode : Mode) : String :=
  "\n" ++ (if mode.name = defaultMode then "" else "mode " ++ mode.name ++ ";\n")
    ++ String.join ((lexer.shownRules mode).map fun rule => rule.text ++ "\n")

def isWritable (lexer : LexerGrammar) : Bool :=
  lexer.rules.all Rule.isWritable

/-- **The document of a lexer grammar** all of whose rules may stand in it. -/
def document (lexer : LexerGrammar) : String :=
  "lexer grammar " ++ lexer.name ++ ";\n" ++ String.join (lexer.shownModes.map lexer.modeSection)

end LexerGrammar

end GrammarConversion.Antlr
