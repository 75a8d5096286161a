import GrammarConversion.Antlr.Body
import GrammarConversion.Text.Quoted

/-!
# Bodies of parser rules

The body of a parser rule is built as a tree and written at the end, so that a quantifier can be
put on a part which is finished.  **No two quantifiers meet:** `x?*` does not mean `(x?)*`, since
a `?` after another quantifier makes that one reluctant.  A part that has a quantifier is
therefore wrapped before it gets a second one (`Component.quantified`).
-/

namespace GrammarConversion.Antlr

open GrammarConversion.Text

/-- How often a part is repeated. -/
inductive Quantifier where
  | zeroOrOne
  | zeroOrMore
  | oneOrMore
  /-- A mark as it is written. -/
  | verbatim (text : String)
  deriving DecidableEq, Repr

/-- The mark of a quantifier. -/
def Quantifier.text : Quantifier → String
  | .zeroOrOne => "?"
  | .zeroOrMore => "*"
  | .oneOrMore => "+"
  | .verbatim text => text

def Quantifier.ofText (text : String) : Quantifier :=
  if text = "?" then .zeroOrOne
  else if text = "*" then .zeroOrMore
  else if text = "+" then .oneOrMore
  else .verbatim text

theorem Quantifier.text_ofText (text : String) : (Quantifier.ofText text).text = text := by
  unfold ofText
  split
  · simp_all [Quantifier.text]
  · split
    · simp_all [Quantifier.text]
    · split <;> simp_all [Quantifier.text]

/-- The mark of a quantifier that may be absent. -/
def markOf (quantifier : Option Quantifier) : String :=
  (quantifier.map Quantifier.text).getD ""

/-- A part of the body of a parser rule. -/
inductive Component where
  /-- The name of a rule or of a token. -/
  | element (text : String) (quantifier : Option Quantifier)
  /-- Parts one after another. -/
  | sequence (children : List Component) (quantifier : Option Quantifier)
  /-- Alternatives. -/
  | choice (children : List Component) (quantifier : Option Quantifier)
  /-- A part of no known form, which cannot be written. -/
  | unknown (quantifier : Option Quantifier)

namespace Component

def quantifier : Component → Option Quantifier
  | .element _ q => q
  | .sequence _ q => q
  | .choice _ q => q
  | .unknown q => q

/-- A part with another quantifier in place of its own. -/
def withQuantifier (q : Option Quantifier) : Component → Component
  | .element text _ => .element text q
  | .sequence children _ => .sequence children q
  | .choice children _ => .choice children q
  | .unknown _ => .unknown q

/-- **A part with a quantifier applied to it.** -/
def quantified (component : Component) : Option Quantifier → Component
  | none => component
  | some q =>
    match component.quantifier with
    | none => component.withQuantifier (some q)
    | some _ => .sequence [component] (some q)

mutual

/-- The written form of a part; none if some part of it has no known form. -/
def text? : Component → Option String
  | .element text q => some (text ++ markOf q)
  | .sequence children q =>
    (texts? children).map fun texts =>
      let inner := " ".intercalate texts
      if markOf q = "" then inner else "(" ++ inner ++ ")" ++ markOf q
  | .choice children q =>
    (texts? children).map fun texts => "(" ++ " | ".intercalate texts ++ ")" ++ markOf q
  | .unknown _ => none

def texts? : List Component → Option (List String)
  | [] => some []
  | child :: children =>
    match child.text?, texts? children with
    | some text, some texts => some (text :: texts)
    | _, _ => none

end

def printedQuantifier (q : Option Quantifier) : String :=
  quotedOrNone (q.map Quantifier.text)

mutual

/-- The printed form of a part; none if it has no known form. -/
def printed? : Component → Option String
  | .element text q => some ("Element(" ++ quoted text ++ ", " ++ printedQuantifier q ++ ")")
  | .sequence children q =>
    (printedAll? children).map fun texts =>
      "Sequence(" ++ bracketed texts ++ ", " ++ printedQuantifier q ++ ")"
  | .choice children q =>
    (printedAll? children).map fun texts =>
      "Choice(" ++ bracketed texts ++ ", " ++ printedQuantifier q ++ ")"
  | .unknown _ => none

def printedAll? : List Component → Option (List String)
  | [] => some []
  | child :: children =>
    match child.printed?, printedAll? children with
    | some text, some texts => some (text :: texts)
    | _, _ => none

end

end Component

/-- The body that a lexer rule gets from an expansion, which is a part of a parser rule or
nothing. -/
def Body.ofPart : Option Component → Body
  | none => .nothing
  | some part => .parserPart (part.text?.getD "")

end GrammarConversion.Antlr
