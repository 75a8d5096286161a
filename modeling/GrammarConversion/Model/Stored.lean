import GrammarConversion.Json.Reader
import GrammarConversion.Model.Grammar

/-!
# Stored grammar models

A grammar model is stored as a JSON document.  A node of a tree is an object whose field `t` names
its type, after `re:` for regular expressions and after `ex:` for expansions; the other fields
are its parts.  Any other value in the place of a node stands for itself, and so does a node of
the other tree.

A field that is left out has the value that its type gives it; `null` stands for an absent text.
-/

namespace GrammarConversion.Model

/-! ## Fields -/

def textField (name : String) (value : Json) : Option String :=
  (value.field name).text?

def optionalTextField (name : String) (value : Json) : Option (Option String) :=
  (value.field name).optionalText?

def optionalIntField (name : String) (value : Json) : Option (Option Int) :=
  (value.field name).optionalInt?

/-- A truth field that may be `null`, and is `default` if it is left out. -/
def flagField (name : String) (default : Bool) (value : Json) : Option (Option Bool) :=
  match value.field? name with
  | none => some (some default)
  | some .null => some none
  | some found => found.bool?.map some

/-- A truth field, which is `default` if it is left out and false if it is `null`. -/
def boolField (name : String) (default : Bool) (value : Json) : Option Bool :=
  (flagField name default value).map fun flag => flag.getD false

/-- A list field, which is empty if it is left out or `null`. -/
def listField (name : String) (value : Json) : Option (List Json) :=
  match value.field name with
  | .null => some []
  | found => found.items?

mutual

/-- How deep values are nested in a value. -/
def nesting : Json → Nat
  | .array items => nestingOfItems items + 1
  | .object fields => nestingOfFields fields + 1
  | _ => 0

def nestingOfItems : List Json → Nat
  | [] => 0
  | item :: items => max (nesting item) (nestingOfItems items)

def nestingOfFields : List (String × Json) → Nat
  | [] => 0
  | (_, value) :: fields => max (nesting value) (nestingOfFields fields)

end

/-! ## Tokens of embedded code -/

def tokenKind? (name : String) : Option Code.TokenKind :=
  [Code.TokenKind.identifier, .keyword, .literal, .operator].find? fun kind => kind.name == name

/-- A token, which is stored as a pair of its kind and its image. -/
def token? (value : Json) : Option Code.Token := do
  match ← value.items? with
  | [kind, image] => some ⟨← tokenKind? (← kind.text?), ← image.text?⟩
  | _ => none

def tokens? (value : Json) : Option (List Code.Token) := do
  (← value.items?).mapM token?

/-! ## Trees -/

/-- The type that a value names as its own, if it is a node. -/
def nodeType? (value : Json) : Option String :=
  (value.field? "t").bind Json.text?

mutual

/-- The regular expression stored in a value that is nested less than `depth` deep. -/
def storedRegex : (depth : Nat) → Json → Option Regex
  | 0, _ => none
  | depth + 1, value =>
    match nodeType? value with
    | none => some (.foreign (.plain value))
    | some "re:SingleCharacter" => do some (.character (← textField "char" value))
    | some "re:CharacterRange" => do
      some (.range (← textField "left" value) (← textField "right" value))
    | some "re:CharacterList" => do
      let descriptors ← (← listField "descriptors" value).mapM (storedRegex depth)
      some (.charList descriptors (← flagField "negated" false value))
    | some "re:StringLiteral" => do some (.literal (← textField "image" value))
    | some "re:Sequence" => do
      some (.sequence (← (← listField "units" value).mapM (storedRegex depth)))
    | some "re:Choice" => do
      some (.choice (← (← listField "choices" value).mapM (storedRegex depth)))
    | some "re:ZeroOrMore" => do some (.zeroOrMore (← storedRegex depth (value.field "regexpr")))
    | some "re:OneOrMore" => do some (.oneOrMore (← storedRegex depth (value.field "regexpr")))
    | some "re:ZeroOrOne" => do some (.zeroOrOne (← storedRegex depth (value.field "regexpr")))
    | some "re:RepetitionRange" => do
      some (.repetition (← storedRegex depth (value.field "regexpr"))
        (← optionalIntField "min" value) (← optionalIntField "max" value))
    | some "re:JustName" => do some (.reference (← textField "label" value))
    | some "re:EndOfFile" => some .endOfFile
    | some "re:RegularExpression" => some .unknown
    | some _ => do
      let other ← storedExpansion depth value
      some (.foreign (.node other.typeName other.printed))

/-- The expansion stored in a value that is nested less than `depth` deep. -/
def storedExpansion : (depth : Nat) → Json → Option Expansion
  | 0, _ => none
  | depth + 1, value =>
    match nodeType? value with
    | none => some (.foreign (.plain value))
    | some "ex:Sequence" => do
      some (.sequence (← (← listField "units" value).mapM (storedExpansion depth)))
    | some "ex:Choice" => do
      some (.choice (← (← listField "choices" value).mapM (storedExpansion depth)))
    | some "ex:Lookahead" => do some (.lookahead (← optionalIntField "amount" value))
    | some "ex:Action" =>
      match value.field? "code" with
      | some code => do some (.action (Code.tokenize (← code.text?)))
      | none => do some (.action (← tokens? (value.field "tokens")))
    | some "ex:NonTerminal" => do some (.nonTerminal (← textField "name" value))
    | some "ex:ZeroOrOne" => do
      some (.zeroOrOne (← storedExpansion depth (value.field "expansion")))
    | some "ex:ZeroOrMore" => do
      some (.zeroOrMore (← storedExpansion depth (value.field "expansion")))
    | some "ex:OneOrMore" => do
      some (.oneOrMore (← storedExpansion depth (value.field "expansion")))
    | some "ex:TryBlock" => do
      some (.tryBlock (← storedExpansion depth (value.field "expansion")))
    | some "ex:StringLiteral" => do some (.literal (← textField "image" value))
    | some "ex:JustName" => do some (.reference (← textField "label" value))
    | some "ex:EndOfFile" => some .endOfFile
    | some "ex:Expansion" => some .unknown
    | some _ => do
      let other ← storedRegex depth value
      some (.foreign (.node other.typeName other.printed))

end

def Regex.ofJson? (value : Json) : Option Regex :=
  storedRegex (2 * nesting value + 2) value

def Expansion.ofJson? (value : Json) : Option Expansion :=
  storedExpansion (2 * nesting value + 2) value

def Tree.ofJson? (value : Json) : Option Tree :=
  match nodeType? value with
  | none => some (.plain value)
  | some type =>
    if "re:".toList.isPrefixOf type.toList then (Regex.ofJson? value).map .regex
    else (Expansion.ofJson? value).map .expansion

/-! ## Productions and grammars -/

def productionKind? (name : String) : Option ProductionKind :=
  [ProductionKind.token, .more, .skip, .special].find? fun kind => kind.name == name

def DeclaredKind.ofText (name : String) : DeclaredKind :=
  match productionKind? name with
  | some kind => .known kind
  | none => .unknown name

def TokenSpec.ofJson? (value : Json) : Option TokenSpec := do
  some {
    tree := ← Tree.ofJson? (value.field "rexp")
    label := ← optionalTextField "label" value
    privacy := ← flagField "private" false value
    nextState := ← optionalTextField "next_state" value
    action := ← optionalTextField "action" value
    ignoreCase := ← boolField "ignore_case" false value }

def TokenProduction.ofJson? (value : Json) : Option TokenProduction := do
  some {
    kind := DeclaredKind.ofText (← textField "kind" value)
    listedStates := ← (← listField "lex_states" value).mapM Json.text?
    specs := ← (← listField "respecs" value).mapM TokenSpec.ofJson?
    ignoreCase := ← boolField "ignore_case" false value
    isExplicit := ← boolField "explicit" true value }

def BnfProduction.ofJson? (value : Json) : Option BnfProduction := do
  some {
    name := ← textField "name" value
    tree := ← Tree.ofJson? (value.field "expansion") }

def functionsOfJson? (value : Json) : Option (Option Code.StateFunctions) :=
  match value with
  | .null => some none
  | value => do
    some (some ⟨← optionalTextField "push_state" value, ← optionalTextField "pop_state" value⟩)

/-- **The grammar stored in a value.** -/
def Grammar.ofJson? (value : Json) : Option Grammar := do
  some {
    tokenProductions := ← (← listField "token_productions" value).mapM TokenProduction.ofJson?
    bnfProductions := ← (← listField "parser_productions" value).mapM BnfProduction.ofJson?
    ignoreCase := ← boolField "ignore_case" false value
    givenFunctions := ← functionsOfJson? (value.field "change_state_functions")
    managerCode := ← optionalTextField "token_manager_decls" value }

/-- The grammar stored in a document. -/
def Grammar.read? (document : String) : Option Grammar := do
  Grammar.ofJson? (← Json.read? document)

end GrammarConversion.Model
