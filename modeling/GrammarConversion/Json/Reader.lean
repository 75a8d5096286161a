import GrammarConversion.Json.Basic

/-!
# Reading JSON

A reader of JSON documents.  Each step takes the characters that are left and gives back what
it read together with the characters after it.  The steps that nest are bounded by a depth; a
document has no more values than characters, so its length is bound enough (`Json.read?`).
-/

namespace GrammarConversion.Json

/-! ## Strings -/

def hexValue? (c : Char) : Option Nat :=
  if '0' ≤ c ∧ c ≤ '9' then some (c.toNat - 48)
  else if 'a' ≤ c ∧ c ≤ 'f' then some (c.toNat - 87)
  else if 'A' ≤ c ∧ c ≤ 'F' then some (c.toNat - 55)
  else none

def hexNumber? (digits : List Char) : Option Nat :=
  digits.foldlM (fun sum c => (hexValue? c).map (16 * sum + ·)) 0

/-- The character that a letter stands for after a backslash. -/
def shortEscape? (c : Char) : Option Char :=
  if c = '"' ∨ c = '\\' ∨ c = '/' then some c
  else if c = 'b' then some '\x08'
  else if c = 'f' then some '\x0c'
  else if c = 'n' then some '\n'
  else if c = 'r' then some '\r'
  else if c = 't' then some '\t'
  else none

/-- The characters up to the closing quote with their escapes undone, and what follows.  The code
units of a character beyond the basic plane come as a pair; `lead` is the first of a pair. -/
def readString (lead : Option Nat) : List Char → Option (List Char × List Char)
  | [] => none
  | '"' :: rest => if lead.isSome then none else some ([], rest)
  | '\\' :: 'u' :: a :: b :: c :: d :: rest => do
    let unit ← hexNumber? [a, b, c, d]
    match lead with
    | some high =>
      if 0xDC00 ≤ unit ∧ unit ≤ 0xDFFF then
        let (cs, rest) ← readString none rest
        some (Char.ofNat (0x10000 + (high - 0xD800) * 0x400 + (unit - 0xDC00)) :: cs, rest)
      else none
    | none =>
      if 0xD800 ≤ unit ∧ unit ≤ 0xDBFF then readString (some unit) rest
      else
        let (cs, rest) ← readString none rest
        some (Char.ofNat unit :: cs, rest)
  | '\\' :: c :: rest => do
    let c ← shortEscape? c
    if lead.isSome then none
    else
      let (cs, rest) ← readString none rest
      some (c :: cs, rest)
  | c :: rest => do
    if lead.isSome then none
    else
      let (cs, rest) ← readString none rest
      some (c :: cs, rest)

/-! ## Values -/

def skipSpace (cs : List Char) : List Char :=
  cs.dropWhile fun c => c == ' ' || c == '\t' || c == '\n' || c == '\r'

/-- What is left after the character `c`. -/
def expect? (c : Char) (cs : List Char) : Option (List Char) :=
  match skipSpace cs with
  | [] => none
  | d :: rest => if d = c then some rest else none

def expectWord? : (word cs : List Char) → Option (List Char)
  | [], cs => some cs
  | _ :: _, [] => none
  | c :: word, d :: cs => if c = d then expectWord? word cs else none

def isNumberChar (c : Char) : Bool :=
  c.isDigit || c == '-' || c == '+' || c == '.' || c == 'e' || c == 'E'

mutual

/-- The value at the beginning of some characters. -/
def readValue : (depth : Nat) → List Char → Option (Json × List Char)
  | 0, _ => none
  | depth + 1, cs =>
    match skipSpace cs with
    | [] => none
    | c :: rest =>
      if c = '"' then (readString none rest).map fun found =>
        (.string (String.ofList found.1), found.2)
      else if c = '[' then
        match expect? ']' rest with
        | some rest => some (.array [], rest)
        | none => (readItems depth rest).map fun found => (.array found.1, found.2)
      else if c = '\x7b' then
        match expect? '\x7d' rest with
        | some rest => some (.object [], rest)
        | none => (readFields depth rest).map fun found => (.object found.1, found.2)
      else if c = 't' then (expectWord? "rue".toList rest).map fun rest => (.bool true, rest)
      else if c = 'f' then (expectWord? "alse".toList rest).map fun rest => (.bool false, rest)
      else if c = 'n' then (expectWord? "ull".toList rest).map fun rest => (.null, rest)
      else if isNumberChar c then
        some (.number (String.ofList (c :: rest.takeWhile isNumberChar)),
          rest.dropWhile isNumberChar)
      else none

/-- The items of an array up to its closing bracket; there is at least one. -/
def readItems : (depth : Nat) → List Char → Option (List Json × List Char)
  | 0, _ => none
  | depth + 1, cs => do
    let (item, rest) ← readValue depth cs
    match expect? ',' rest with
    | some rest =>
      let (items, rest) ← readItems depth rest
      some (item :: items, rest)
    | none =>
      let rest ← expect? ']' rest
      some ([item], rest)

/-- The fields of an object up to its closing brace; there is at least one. -/
def readFields : (depth : Nat) → List Char → Option (List (String × Json) × List Char)
  | 0, _ => none
  | depth + 1, cs => do
    let rest ← expect? '"' cs
    let (name, rest) ← readString none rest
    let rest ← expect? ':' rest
    let (value, rest) ← readValue depth rest
    let first := (String.ofList name, value)
    match expect? ',' rest with
    | some rest =>
      let (fields, rest) ← readFields depth rest
      some (first :: fields, rest)
    | none =>
      let rest ← expect? '\x7d' rest
      some ([first], rest)

end

/-- **The value that a document holds.** -/
def read? (document : String) : Option Json :=
  let cs := document.toList
  match readValue (cs.length + 1) cs with
  | some (value, rest) => if (skipSpace rest).isEmpty then some value else none
  | none => none

end GrammarConversion.Json
