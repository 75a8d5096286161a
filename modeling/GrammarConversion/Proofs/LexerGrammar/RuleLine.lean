import Mathlib
import GrammarConversion.Antlr.Rule
import GrammarConversion.Proofs.Reading.Scan

/-!
# The line of a rule

A rule is written as a line such as `ID : [a-z]+ -> type(WORD), mode(S) ;`.  Its name ends where no
character of a name follows, and the semicolon comes last.  What is between the two is the body
and, after an arrow, the commands.

The body may show arrows too, but only inside of literals and sets (`EnclosesArrows`).  Such an
arrow has a quote or a bracket after it, and no command shows either.  So the last arrow is that of
the commands unless such a mark follows.

**`readRule_text`: a rule is read back from its line.**
-/

namespace GrammarConversion.Reading

/-- Whether a text shows nothing but characters of names; it may be empty. -/
def IsNamePart (text : String) : Prop :=
  ∀ c ∈ text.toList, isNameChar c = true

end GrammarConversion.Reading

namespace GrammarConversion.Antlr

open Reading

/-- Whether a command can be read back; what it takes need not be a whole name. -/
def Command.IsLegible : Command → Prop
  | .type rule => IsNamePart rule
  | .mode target => IsNamePart target
  | .pushMode target => IsNamePart target
  | .verbatim _ => False
  | _ => True

/-- A rule with the text of its body for its body. -/
def Rule.asWritten (rule : Rule) : Rule :=
  { rule with body := .text rule.body.written }

end GrammarConversion.Antlr

namespace GrammarConversion.Reading

open Antlr

/-! ## Legible rules -/

/-- Whether a text stays on one line: plain spaces are the only white space in it. -/
def IsOneLine (cs : List Char) : Prop :=
  ∀ c ∈ cs, Text.isBlank c = true → c = ' '

instance (cs : List Char) : Decidable (IsOneLine cs) :=
  decidable_of_iff (cs.all (fun c => !Text.isBlank c || c == ' ') = true) (by
    simp [IsOneLine, Decidable.imp_iff_not_or])

/-- Whether a text shows a mark that closes a literal or a set. -/
def ShowsClosing (cs : List Char) : Prop :=
  '\'' ∈ cs ∨ ']' ∈ cs

instance (cs : List Char) : Decidable (ShowsClosing cs) :=
  inferInstanceAs (Decidable (_ ∨ _))

/-- What stands before the commands of a rule. -/
def arrow : List Char := [' ', '-', '>', ' ']

/-- **Whether all arrows of a text stand in literals and sets,** which are closed after them. -/
def EnclosesArrows (cs : List Char) : Prop :=
  ∀ before after, cs = before ++ arrow ++ after → ShowsClosing after

/-- **Whether the body of a rule can be told from what surrounds it.**  The space before it may be
the first one of an arrow. -/
structure IsLegibleBody (body : String) : Prop where
  oneLine : IsOneLine body.toList
  encloses : EnclosesArrows (' ' :: body.toList)

end GrammarConversion.Reading

namespace GrammarConversion.Antlr

open Reading

/-- **Whether a rule can be read back from its line.** -/
structure Rule.IsLegible (rule : Rule) : Prop where
  name : IsName rule.name
  body : IsLegibleBody rule.body.written
  commands : ∀ command ∈ rule.commands, command.IsLegible

/-- What a rule shows between its name and its end. -/
def Rule.middle (rule : Rule) : List Char :=
  (if rule.body.written = "" then [] else ' ' :: rule.body.written.toList)
    ++ if rule.commands = [] then []
      else arrow ++ (", ".intercalate (rule.commands.map Command.text)).toList

end GrammarConversion.Antlr

namespace GrammarConversion.Reading

open Antlr

/-! ## Reading a line -/

/-- Reads what stands between a beginning and a last character. -/
def readBetween (start : String) (last : Char) (cs : List Char) : Option String :=
  (cs.dropPrefix? start.toList).bind fun rest => (rest.dropSuffix? [last]).map String.ofList

/-- Reads a command; what is none of those with a form of their own is taken as it is written. -/
def readCommand (cs : List Char) : Command :=
  if cs = "channel(HIDDEN)".toList then .hide
  else if cs = "more".toList then .more
  else if cs = "skip".toList then .skip
  else if cs = "popMode".toList then .popMode
  else
    match readBetween "type(" ')' cs, readBetween "mode(" ')' cs,
      readBetween "pushMode(" ')' cs with
    | some rule, _, _ => .type rule
    | none, some target, _ => .mode target
    | none, none, some target => .pushMode target
    | none, none, none => .verbatim (String.ofList cs)

/-- Reads commands with commas between them. -/
def readCommands (cs : List Char) : List Command :=
  ((cs.filter (· ≠ ' ')).splitOn ',').map readCommand

/-- What stands before and after the last arrow of a text. -/
def lastArrow? : List Char → Option (List Char × List Char)
  | [] => none
  | c :: cs =>
    match lastArrow? cs with
    | some (before, after) => some (c :: before, after)
    | none => ((c :: cs).dropPrefix? arrow).map fun after => ([], after)

/-- Reads the body of a rule and its commands, where a space is left before the body. -/
def readMiddle (cs : List Char) : List Char × List Command :=
  match lastArrow? cs with
  | none => (cs.tail, [])
  | some (before, after) =>
    if ShowsClosing after then (cs.tail, []) else (before.tail, readCommands after)

/-- Reads what comes after the name of a rule. -/
def readAfterName (isFragment : Bool) (name : String) (cs : List Char) : Option Rule :=
  (cs.dropPrefix? [' ', ':']).bind fun rest =>
    (rest.dropSuffix? [' ', ';']).map fun middle =>
      { name := name
        body := .text (String.ofList (readMiddle middle).1)
        commands := (readMiddle middle).2
        isFragment := isFragment }

/-- **Reads a rule from its line.**  A fragment has that word before its name; a rule may also have
it for its name. -/
def readRule (line : List Char) : Option Rule :=
  (readName line).bind fun (first, rest) =>
    match if first = "fragment" then readName rest.tail else none with
    | some (name, after) => readAfterName true name after
    | none => readAfterName false first rest

/-! ## Characters of a line -/

section Characters

variable {cs ds : List Char} {c : Char} {command : Command} {commands : List Command}

lemma toNat_of_isAlphanum (h : c.isAlphanum = true) : 32 < c.toNat ∧ c.toNat < 128 := by
  have hvalue : c.toNat = c.val.toNat := rfl
  have hdigits : '0'.val.toNat = 48 ∧ '9'.val.toNat = 57 := ⟨rfl, rfl⟩
  have hcapitals : 'A'.val.toNat = 65 ∧ 'Z'.val.toNat = 90 := ⟨rfl, rfl⟩
  have hsmalls : 'a'.val.toNat = 97 ∧ 'z'.val.toNat = 122 := ⟨rfl, rfl⟩
  simp only [Char.isAlphanum, Char.isAlpha, Char.isUpper, Char.isLower, Char.isDigit,
    Bool.or_eq_true, Bool.and_eq_true, decide_eq_true_eq, ge_iff_le, UInt32.le_iff_toNat_le] at h
  omega

lemma blankRanges_basic : ∀ range ∈ Text.blankRanges, range.2 ≤ 32 ∨ 128 ≤ range.1 := by
  decide

lemma isBlank_eq_false_of_isNameChar (h : isNameChar c = true) : Text.isBlank c = false := by
  rw [isNameChar, Bool.or_eq_true, Bool.or_eq_true, Bool.or_eq_true] at h
  rcases h with ((hbasic | hlow) | hdollar) | hwide
  · rw [← Bool.not_eq_true, Text.isBlank, Text.covers_iff]
    rintro ⟨range, hrange, hfirst, hlast⟩
    rcases toNat_of_isAlphanum hbasic with ⟨hgt, hlt⟩
    rcases blankRanges_basic range hrange with h | h <;> omega
  · rw [beq_iff_eq.mp hlow]
    decide
  · rw [beq_iff_eq.mp hdollar]
    decide
  · simpa using (Bool.and_eq_true_iff.mp hwide).2

@[simp]
lemma isOneLine_append : IsOneLine (cs ++ ds) ↔ IsOneLine cs ∧ IsOneLine ds :=
  List.forall_mem_append

@[simp]
lemma isOneLine_cons : IsOneLine (c :: cs) ↔ (Text.isBlank c = true → c = ' ') ∧ IsOneLine cs :=
  List.forall_mem_cons

@[simp]
lemma isOneLine_nil : IsOneLine [] :=
  List.forall_mem_nil _

lemma IsOneLine.newline_notMem (h : IsOneLine cs) : '\n' ∉ cs :=
  fun hmem => absurd (h _ hmem (by decide)) (by decide)

lemma isOneLine_of_isNamePart {text : String} (h : IsNamePart text) : IsOneLine text.toList := by
  intro c hc hblank
  rw [isBlank_eq_false_of_isNameChar (h c hc)] at hblank
  exact Bool.noConfusion hblank

/-- Whether a character may stand in a command. -/
def isCommandChar (c : Char) : Bool :=
  isNameChar c || c == '(' || c == ')'

lemma isBlank_eq_false_of_isCommandChar (h : isCommandChar c = true) :
    Text.isBlank c = false := by
  rw [isCommandChar, Bool.or_eq_true, Bool.or_eq_true] at h
  rcases h with (hname | hopening) | hclosing
  · exact isBlank_eq_false_of_isNameChar hname
  · rw [beq_iff_eq.mp hopening]
    decide
  · rw [beq_iff_eq.mp hclosing]
    decide

/-- A command shows nothing but words and parentheses. -/
lemma isCommandChar_of_mem_text (h : command.IsLegible) (hc : c ∈ command.text.toList) :
    isCommandChar c = true := by
  have hnamed : ∀ start name : String, start.toList.all isCommandChar = true → IsNamePart name →
      c ∈ (start ++ name ++ ")").toList → isCommandChar c = true := by
    intro start name hstart hname hmem
    rw [String.toList_append, String.toList_append, List.mem_append, List.mem_append] at hmem
    rcases hmem with (hmem | hmem) | hmem
    · exact List.all_eq_true.mp hstart c hmem
    · rw [isCommandChar, hname c hmem]
      rfl
    · obtain rfl := List.mem_singleton.mp hmem
      decide
  have hword : ∀ word : String, word.toList.all isCommandChar = true → c ∈ word.toList →
      isCommandChar c = true := fun word hall hmem => List.all_eq_true.mp hall c hmem
  cases command with
  | hide => exact hword "channel(HIDDEN)" (by decide) hc
  | more => exact hword "more" (by decide) hc
  | skip => exact hword "skip" (by decide) hc
  | popMode => exact hword "popMode" (by decide) hc
  | type rule => exact hnamed "type(" rule (by decide) h hc
  | mode target => exact hnamed "mode(" target (by decide) h hc
  | pushMode target => exact hnamed "pushMode(" target (by decide) h hc
  | verbatim text => exact h.elim

/-- Commands show nothing but words, parentheses, and commas and spaces between them. -/
lemma isCommandChar_of_mem_intercalate (h : ∀ command ∈ commands, command.IsLegible)
    (hc : c ∈ (", ".intercalate (commands.map Command.text)).toList) :
    isCommandChar c = true ∨ c = ',' ∨ c = ' ' := by
  induction commands with
  | nil => exact absurd hc (by simp)
  | cons command others ih =>
      rcases List.forall_mem_cons.mp h with ⟨hcommand, hothers⟩
      cases others with
      | nil => exact .inl (isCommandChar_of_mem_text hcommand (by simpa using hc))
      | cons second others =>
          rw [List.map_cons, List.map_cons, String.intercalate_cons_cons, String.toList_append,
            String.toList_append, List.mem_append, List.mem_append, ← List.map_cons] at hc
          rcases hc with (hfirst | hcomma) | hlater
          · exact .inl (isCommandChar_of_mem_text hcommand hfirst)
          · exact .inr (by simpa using hcomma)
          · exact ih hothers hlater

end Characters

/-! ## Parts of a line are read back -/

section Reading

lemma dropPrefix?_append (start cs : List Char) : (start ++ cs).dropPrefix? start = some cs :=
  List.dropPrefix?_eq_some_iff.mpr ⟨start, rfl, beq_self_eq_true start⟩

lemma dropSuffix?_append (cs last : List Char) : (cs ++ last).dropSuffix? last = some cs :=
  List.dropSuffix?_eq_some_iff.mpr ⟨last, rfl, beq_self_eq_true last⟩

/-- What stands between a beginning and a last character is read back. -/
lemma readBetween_append (start text : String) (last : Char) :
    readBetween start last (start.toList ++ text.toList ++ [last]) = some text := by
  rw [readBetween, List.append_assoc, dropPrefix?_append, Option.bind_some, dropSuffix?_append,
    Option.map_some, String.ofList_toList]

/-- **A command is read back.** -/
lemma readCommand_text {command : Command} (h : command.IsLegible) :
    readCommand command.text.toList = command := by
  have hread : ∀ start name : String,
      readBetween start ')' (start ++ name ++ ")").toList = some name := by
    intro start name
    rw [String.toList_append, String.toList_append]
    exact readBetween_append start name ')'
  cases command with
  | type rule =>
      rw [Command.text, readCommand, hread]
      simp
  | mode target =>
      have htype : readBetween "type(" ')' ("mode(" ++ target ++ ")").toList = none := by
        simp [readBetween, List.dropPrefix?]
      rw [Command.text, readCommand, htype, hread]
      simp
  | pushMode target =>
      have htype : readBetween "type(" ')' ("pushMode(" ++ target ++ ")").toList = none := by
        simp [readBetween, List.dropPrefix?]
      have hmode : readBetween "mode(" ')' ("pushMode(" ++ target ++ ")").toList = none := by
        simp [readBetween, List.dropPrefix?]
      rw [Command.text, readCommand, htype, hmode, hread]
      simp
  | verbatim text => exact h.elim
  | _ => decide

/-- Without its spaces, a list of commands has commas between them and nowhere else. -/
lemma filter_intercalate {commands : List Command}
    (h : ∀ command ∈ commands, command.IsLegible) :
    (", ".intercalate (commands.map Command.text)).toList.filter (· ≠ ' ')
      = [','].intercalate (commands.map fun command => command.text.toList) := by
  have hkept : ∀ command ∈ commands,
      command.text.toList.filter (· ≠ ' ') = command.text.toList := by
    intro command hcommand
    refine List.filter_eq_self.mpr fun c hc => decide_eq_true ?_
    rintro rfl
    exact absurd (isCommandChar_of_mem_text (h command hcommand) hc) (by decide)
  induction commands with
  | nil => rfl
  | cons command others ih =>
      rcases List.forall_mem_cons.mp hkept with ⟨hcommand, hothers⟩
      have hrest := ih (fun other hother => h other (by simp [hother])) hothers
      cases others with
      | nil => simpa using hcommand
      | cons second others =>
          rw [List.map_cons] at hrest
          rw [List.map_cons, List.map_cons, String.intercalate_cons_cons, String.toList_append,
            String.toList_append, List.filter_append, List.filter_append, hcommand, hrest]
          simp [List.intercalate_cons_cons]

/-- **Commands are read back.** -/
lemma readCommands_intercalate {commands : List Command}
    (h : ∀ command ∈ commands, command.IsLegible) (hne : commands ≠ []) :
    readCommands (", ".intercalate (commands.map Command.text)).toList = commands := by
  have hcomma : ∀ cs ∈ commands.map (fun command => command.text.toList), ',' ∉ cs := by
    intro cs hcs hmem
    rcases List.mem_map.mp hcs with ⟨command, hcommand, rfl⟩
    exact absurd (isCommandChar_of_mem_text (h command hcommand) hmem) (by decide)
  rw [readCommands, filter_intercalate h, List.splitOn_intercalate ',' hcomma (by simpa using hne),
    List.map_map]
  exact (List.map_congr_left fun command hcommand => readCommand_text (h command hcommand)).trans
    (List.map_id commands)

lemma lastArrow?_eq_none {cs : List Char} (h : '-' ∉ cs) : lastArrow? cs = none := by
  induction cs with
  | nil => rfl
  | cons c cs ih =>
      rw [List.mem_cons, not_or] at h
      rw [lastArrow?, ih h.2]
      dsimp only
      rw [Option.map_eq_none_iff, Option.eq_none_iff_forall_ne_some]
      intro after hafter
      rcases List.dropPrefix?_eq_some_iff.mp hafter with ⟨start, hsplit, hstart⟩
      rw [eq_of_beq hstart] at hsplit
      have hmem : '-' ∈ c :: cs := by simp [hsplit, arrow]
      exact (List.mem_cons.mp hmem).elim h.1 h.2

/-- **The last arrow is found** if no dash comes after it. -/
lemma lastArrow?_append (before : List Char) {after : List Char} (h : '-' ∉ after) :
    lastArrow? (before ++ arrow ++ after) = some (before, after) := by
  induction before with
  | nil =>
      have hnone : lastArrow? (['-', '>', ' '] ++ after) = none := by
        have hrest : lastArrow? (['>', ' '] ++ after) = none := lastArrow?_eq_none (by simp [h])
        rw [List.cons_append, lastArrow?, hrest]
        rfl
      show lastArrow? (' ' :: (['-', '>', ' '] ++ after)) = _
      rw [lastArrow?, hnone]
      exact congrArg (Option.map _) (dropPrefix?_append arrow after)
  | cons c before ih =>
      rw [List.cons_append, List.cons_append, lastArrow?, ih]

lemma append_of_lastArrow? {cs before after : List Char}
    (h : lastArrow? cs = some (before, after)) : cs = before ++ arrow ++ after := by
  induction cs generalizing before with
  | nil => cases h
  | cons c cs ih =>
      rw [lastArrow?] at h
      split at h
      · rename_i before' after' hlater
        cases h
        rw [ih hlater]
        rfl
      · rcases Option.map_eq_some_iff.mp h with ⟨rest, hrest, heq⟩
        cases heq
        rcases List.dropPrefix?_eq_some_iff.mp hrest with ⟨start, hsplit, hstart⟩
        rw [hsplit, eq_of_beq hstart]
        rfl

/-- **The body and the commands of a rule are read back.** -/
lemma readMiddle_middle {rule : Rule} (h : rule.IsLegible) :
    readMiddle rule.middle = (rule.body.written.toList, rule.commands) := by
  have htail : (if rule.body.written = "" then [] else ' ' :: rule.body.written.toList).tail
      = rule.body.written.toList := by
    split
    · rename_i hempty
      rw [hempty]
      rfl
    · rfl
  rw [Rule.middle]
  by_cases hnone : rule.commands = []
  · rw [if_pos hnone, List.append_nil, readMiddle, hnone]
    cases harrow : lastArrow? (if rule.body.written = "" then []
        else ' ' :: rule.body.written.toList) with
    | none => rw [htail]
    | some parts =>
        -- an arrow of the body, which a literal or a set encloses
        have hsplit := append_of_lastArrow? harrow
        have hclosing : ShowsClosing parts.2 := by
          split at hsplit
          · exact absurd hsplit.symm (by simp [arrow])
          · exact h.body.encloses parts.1 parts.2 hsplit
        dsimp only
        rw [if_pos hclosing, htail]
  · have hchars := fun c => isCommandChar_of_mem_intercalate (c := c) h.commands
    rw [if_neg hnone, ← List.append_assoc, readMiddle,
      lastArrow?_append _ fun hdash => absurd (hchars '-' hdash) (by decide)]
    have hopen : ¬ShowsClosing (", ".intercalate (rule.commands.map Command.text)).toList := by
      rintro (hquote | hbracket)
      · exact absurd (hchars _ hquote) (by decide)
      · exact absurd (hchars _ hbracket) (by decide)
    dsimp only
    rw [if_neg hopen, htail, readCommands_intercalate h.commands hnone]

/-- The line of a rule. -/
lemma toList_text (rule : Rule) :
    rule.text.toList = (if rule.isFragment then "fragment ".toList else [])
      ++ (rule.name.toList ++ ([' ', ':'] ++ (rule.middle ++ [' ', ';']))) := by
  rw [Rule.text, Rule.words, Rule.middle]
  split_ifs <;> simp [arrow]

lemma readAfterName_middle {rule : Rule} (h : rule.IsLegible) :
    readAfterName rule.isFragment rule.name ([' ', ':'] ++ (rule.middle ++ [' ', ';']))
      = some rule.asWritten := by
  rw [readAfterName, dropPrefix?_append, Option.bind_some, dropSuffix?_append, Option.map_some,
    readMiddle_middle h, String.ofList_toList]
  rfl

/-- **A rule is read back from its line.** -/
lemma readRule_text {rule : Rule} (h : rule.IsLegible) :
    readRule rule.text.toList = some rule.asWritten := by
  have hafter := readAfterName_middle h
  have hname : readName (rule.name.toList ++ ([' ', ':'] ++ (rule.middle ++ [' ', ';'])))
      = some (rule.name, [' ', ':'] ++ (rule.middle ++ [' ', ';'])) :=
    readName_append h.name ((breaksName_cons _ _).mpr (by decide))
  rw [toList_text, readRule]
  cases hfragment : rule.isFragment with
  | true =>
      have hword : IsName "fragment" := by decide
      rw [hfragment] at hafter
      rw [if_pos rfl, show "fragment ".toList = "fragment".toList ++ [' '] from rfl,
        List.append_assoc, List.singleton_append,
        readName_append hword ((breaksName_cons _ _).mpr (by decide)), Option.bind_some]
      dsimp only
      rw [if_pos rfl, List.tail_cons, hname]
      exact hafter
  | false =>
      rw [hfragment] at hafter
      rw [if_neg Bool.false_ne_true, List.nil_append, hname, Option.bind_some]
      dsimp only
      -- a rule that is called `fragment` has no name after its name
      have hcolon : readName ([' ', ':'] ++ (rule.middle ++ [' ', ';'])).tail = none := by
        simp [readName, isNameChar]
      rw [hcolon, ite_self]
      exact hafter

/-- The first arrow belongs to the literal, and the second one to the commands. -/
example : readRule "fragment : ' -> more' -> skip, mode(S) ;".toList
    = some { name := "fragment", body := .text "' -> more'", commands := [.skip, .mode "S"] } := by
  decide +kernel

/-- **A rule has a line of its own.** -/
lemma isOneLine_text {rule : Rule} (h : rule.IsLegible) : IsOneLine rule.text.toList := by
  have hcommands : IsOneLine (", ".intercalate (rule.commands.map Command.text)).toList := by
    intro c hc hblank
    rcases isCommandChar_of_mem_intercalate h.commands hc with hchar | rfl | rfl
    · rw [isBlank_eq_false_of_isCommandChar hchar] at hblank
      exact Bool.noConfusion hblank
    · exact absurd hblank (by decide)
    · rfl
  have hstart : IsOneLine (if rule.isFragment then "fragment ".toList else []) := by
    split
    · decide
    · exact isOneLine_nil
  have hmiddle : IsOneLine rule.middle := by
    rw [Rule.middle, isOneLine_append]
    constructor
    · split
      · exact isOneLine_nil
      · exact isOneLine_cons.mpr ⟨fun _ => rfl, h.body.oneLine⟩
    · split
      · exact isOneLine_nil
      · exact isOneLine_append.mpr ⟨by decide, hcommands⟩
  rw [toList_text, isOneLine_append, isOneLine_append, isOneLine_append, isOneLine_append]
  refine ⟨hstart, isOneLine_of_isNamePart h.name.2, ?_, hmiddle, ?_⟩ <;> decide

end Reading

end GrammarConversion.Reading
