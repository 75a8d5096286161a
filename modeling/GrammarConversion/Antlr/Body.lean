/-!
# Bodies of rules

What a rule matches is said by its body, which is nearly always a text.  Two other bodies come of a
token whose tree is an expansion: an expansion that stands for the empty input leaves nothing, and
any other one leaves a part of a parser rule, which no lexer rule can have for its body.

**Likeness.**  Rules are merged where their bodies are alike (`Body.same`).  Texts are alike if
they are equal, and nothing is like nothing.  A part of a parser rule is like no other body, not
even like a part that is written in the same way.
-/

namespace GrammarConversion.Antlr

/-- The body of a rule. -/
inductive Body where
  /-- A text. -/
  | text (content : String)
  /-- No body at all. -/
  | nothing
  /-- A part of a parser rule, by the way it is written. -/
  | parserPart (content : String)
  deriving DecidableEq, Repr

namespace Body

def isParserPart : Body → Bool
  | .parserPart _ => true
  | _ => false

/-- **Whether two bodies are alike.** -/
def same (first second : Body) : Bool :=
  !first.isParserPart && first == second

/-- What a body holds, if it holds anything. -/
def content? : Body → Option String
  | .text content => some content
  | .nothing => none
  | .parserPart content => some content

/-- The text of a body in a rule; nothing is written as the empty text. -/
def written (body : Body) : String :=
  body.content?.getD ""

def shown (body : Body) : String :=
  body.content?.getD "None"

@[simp]
theorem same_text (body : Body) (content : String) :
    body.same (.text content) = true ↔ body = .text content := by
  cases body <;> simp [same, isParserPart]

theorem same_iff (first second : Body) :
    first.same second = true ↔ first = second ∧ first.isParserPart = false := by
  simp [same, and_comm]

@[simp]
theorem written_text (content : String) : (Body.text content).written = content := rfl

@[simp]
theorem shown_text (content : String) : (Body.text content).shown = content := rfl

end Body

end GrammarConversion.Antlr
