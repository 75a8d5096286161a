import GrammarConversion.Text.Blank
import GrammarConversion.Text.Control
import GrammarConversion.Text.Hex

/-!
# Escapes of a lexer grammar

A lexer grammar shows characters in two places: in quoted literals such as `'abc'` and in sets
such as `[a-z]`.  Both share the escapes of the backslash and of the common controls; they differ
in the marks that delimit them.  A character that a reader could not see is written by its code
point, so a line of a grammar holds no white space but plain spaces.
-/

namespace GrammarConversion.Antlr

open GrammarConversion.Text

/-- The place where a character is shown. -/
inductive EscapeContext where
  /-- Between the quotes of a literal. -/
  | literal
  /-- Between the brackets of a set. -/
  | charSet
  deriving DecidableEq, Repr

/-- The marks that have a meaning of their own in a place, the backslash apart. -/
def EscapeContext.marks : EscapeContext → List Char
  | .literal => ['\'']
  | .charSet => [']', '-']

/-- The letter that stands for a character after a backslash, in either place. -/
def shortEscape? (c : Char) : Option Char :=
  if c = '\\' then some '\\'
  else if c = '\x0c' then some 'f'
  else if c = '\r' then some 'r'
  else if c = '\n' then some 'n'
  else if c = '\t' then some 't'
  else if c = '\x08' then some 'b'
  else none

/-- A character by its code point: four digits, or as many as it needs between braces. -/
def unicodeEscape (c : Char) : List Char :=
  let n := c.toNat
  if n ≤ 0xFFFF then '\\' :: 'u' :: hexDigits hexUpper 4 n
  else
    '\\' :: 'u' :: '\x7b' :: hexDigits hexUpper (if n ≤ 0xFFFFF then 5 else 6) n ++ ['\x7d']

/-- **The written form of a character.**  A plain space needs no escape in either place. -/
def escapeChar (context : EscapeContext) (c : Char) : List Char :=
  match shortEscape? c with
  | some letter => ['\\', letter]
  | none =>
    if c ∈ context.marks then ['\\', c]
    else if c ≠ ' ' ∧ (isBlank c ∨ isControl c) then unicodeEscape c
    else [c]

def escapeChars (context : EscapeContext) (cs : List Char) : List Char :=
  cs.flatMap (escapeChar context)

def escape (context : EscapeContext) (s : String) : String :=
  String.ofList (escapeChars context s.toList)

@[simp] theorem toList_escape (context : EscapeContext) (s : String) :
    (escape context s).toList = escapeChars context s.toList := by
  simp [escape]

@[simp] theorem escapeChars_nil (context : EscapeContext) : escapeChars context [] = [] := rfl

@[simp] theorem escapeChars_cons (context : EscapeContext) (c : Char) (cs : List Char) :
    escapeChars context (c :: cs) = escapeChar context c ++ escapeChars context cs := by
  simp [escapeChars]

end GrammarConversion.Antlr
