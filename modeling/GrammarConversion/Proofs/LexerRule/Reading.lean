import Mathlib
import GrammarConversion.Conversion.LexerBody
import GrammarConversion.Proofs.LexerRule.Language

/-!
# The conversion of regular expressions preserves their languages

A regular expression is written as the body of a lexer rule, and ANTLR reads the body as a tree of
its own.  Sequences are written without parentheses, so their units are read as units of whatever
stands around them; `Regex.reading` is the tree that is read.

* `IsPlain.language_reading`: the tree that is read has the language of the expression.
* `IsPlain.exists_text`: the expression is written, and its text shows the tokens of that tree.

**`lexerBody_denotes` puts these together:** the body of the rule for an expression has exactly one
reading, which matches the texts of the expression, for every interpretation of the names of rules.
-/

namespace GrammarConversion.Model.Regex

open Antlr
open Reading

/-! ## The tree that is read -/

/-- The atom that a character list is read as. -/
def setAtom (descriptors : List Regex) (negated : Bool) : LexerAtom :=
  if negated && descriptors.isEmpty then .any
  else if negated then .complement (ranges descriptors)
  else .set (ranges descriptors)

mutual

/-- **The tree that the body of the rule for an expression is read as.** -/
def reading : Regex → Sequence LexerAtom
  | .charList descriptors negated =>
    .single (.atom (setAtom descriptors (negated.getD false)) none)
  | .literal image => .single (.atom (.literal image.toList) none)
  | .sequence units => joined (readings units)
  | .choice alternatives => .single (.block (parted (readings alternatives)) none)
  | .zeroOrMore operand => .single (.block (.last operand.reading) (some .zeroOrMore))
  | .oneOrMore operand => .single (.block (.last operand.reading) (some .oneOrMore))
  | .zeroOrOne operand => .single (.block (.last operand.reading) (some .zeroOrOne))
  | .reference label => .single (.atom (.name (ruleName label)) none)
  | .character _ => .empty
  | .range _ _ => .empty
  | .repetition _ _ _ => .empty
  | .endOfFile => .empty
  | .unknown => .empty
  | .foreign _ => .empty

/-- The trees that the bodies for several expressions are read as. -/
def readings : List Regex → List (Sequence LexerAtom)
  | [] => []
  | unit :: units => unit.reading :: readings units

end

lemma readings_eq_map (units : List Regex) : readings units = units.map reading := by
  induction units with
  | nil => rfl
  | cons unit units ih => rw [readings, ih, List.map_cons]

lemma language_setAtom (rules : String → Language Char) (descriptors : List Regex)
    (negated : Option Bool) :
    (setAtom descriptors (negated.getD false)).language rules
      = (Regex.charList descriptors negated).language rules := by
  rw [setAtom]
  rw [language]
  cases negated.getD false with
  | false => rfl
  | true =>
      cases descriptors with
      | nil =>
          -- every character lies outside of no ranges at all
          have hall : ∀ c, ¬LiesIn (ranges []) c := by
            rintro c ⟨range, hrange, -⟩
            exact absurd hrange (by simp [ranges])
          show oneOf (fun _ => True) = oneOf fun c => ¬LiesIn (ranges []) c
          congr 1
          funext c
          exact (eq_true (hall c)).symm
      | cons descriptor descriptors => rfl

/-- **The tree that is read has the language of the expression.** -/
lemma IsPlain.language_reading (rules : String → Language Char) {node : Regex}
    (h : node.IsPlain) :
    node.reading.language (LexerAtom.language rules) = node.language rules := by
  induction h with
  | @charList descriptors negated hall hne =>
      rw [reading, Sequence.language_single, Part.language, repeated]
      exact language_setAtom rules descriptors negated
  | literal hne =>
      rw [reading, Sequence.language_single, Part.language, repeated, LexerAtom.language, language]
  | @sequence units hne hall ih =>
      rw [reading, language_joined, readings_eq_map, List.map_map, language, productOf_eq]
      exact congrArg List.prod (List.map_congr_left ih)
  | @choice alternatives hne hall ih =>
      have hne' : alternatives.map reading ≠ [] := by simpa using hne
      rw [reading, Sequence.language_single, Part.language, repeated, readings_eq_map,
        language_parted _ _ hne', List.map_map, language, unionOf_eq]
      exact congrArg List.sum (List.map_congr_left ih)
  | zeroOrMore _ ih | oneOrMore _ ih | zeroOrOne _ ih =>
      rw [reading, Sequence.language_single, Part.language, Body.language, ih, language]
      rfl
  | reference hname =>
      rw [reading, Sequence.language_single, Part.language, repeated, LexerAtom.language, language]

end GrammarConversion.Model.Regex

namespace GrammarConversion.Conversion

open Antlr
open Model
open Reading

/-! ## Atoms are read back -/

lemma isName_ruleName {label : String} (h : IsName label) : IsName (ruleName label) := by
  rw [ruleName]
  split
  · have hstem : IsName reservedStem := by decide
    refine ⟨by simp [h.1], ?_⟩
    intro c hc
    rw [String.toList_append, List.mem_append] at hc
    rcases hc with hc | hc
    · exact hstem.2 c hc
    · exact h.2 c hc
  · exact h

/-- A name is read as the name of a rule, since no other atom begins like one. -/
lemma readAtom_name {name : String} (hname : IsName name) {rest : List Char}
    (hrest : BreaksName rest) :
    readAtom (name.toList ++ rest) = some (.name name, rest) := by
  rcases List.exists_cons_of_ne_nil hname.1 with ⟨c, cs, hcons⟩
  have hc : isNameChar c = true := hname.2 c (by simp [hcons])
  have hother : ∀ mark, isNameChar mark = false → c ≠ mark := by
    rintro mark hmark rfl
    rw [hmark] at hc
    exact Bool.noConfusion hc
  have hread := readName_append hname hrest
  rw [hcons, List.cons_append] at hread ⊢
  rw [readAtom, hread, Option.map_some]
  all_goals
    intro cs' h
    exact hother _ (by decide) (List.cons.inj h).1

/-! ## The text of an expression -/

variable (rule : Option String)

/-- Where case matters, a descriptor is written by the escapes of its ends, and read back. -/
lemma lexerBody_descriptor {descriptor : Regex} {range : Char × Char}
    (h : descriptor.range? = some range) :
    ∃ text, lexerBody ⟨some false, rule⟩ descriptor = .ok text ∧
      (∀ rest, (text.toList ++ rest).head? ≠ some '-') ∧
      ∀ rest, rest.head? ≠ some '-' →
        readRanges (text.toList ++ rest)
          = (readRanges rest).map fun read => (range :: read.1, read.2) := by
  cases descriptor with
  | character char =>
      rcases Regex.of_range?_character h with ⟨c, hc, rfl⟩
      have htext : (escape .charSet char).toList = escapeChar .charSet c := by
        rw [toList_escape, hc, escapeChars_cons, escapeChars_nil, List.append_nil]
      refine ⟨escape .charSet char, by rw [lexerBody]; rfl, ?_, ?_⟩
      · intro rest
        rw [htext]
        exact head?_escapeChar_ne rfl c rest
      · intro rest hrest
        rw [htext]
        exact readRanges_character c hrest
  | range left right =>
      rcases Regex.of_range?_range h with ⟨first, last, hfirst, hlast, rfl⟩
      refine ⟨String.ofList (escapeChar .charSet first ++ '-' :: escapeChar .charSet last),
        ?_, ?_, ?_⟩
      · rw [lexerBody, rangeText, hfirst, hlast]
        exact congrArg Except.ok String.append_empty
      · intro rest
        rw [String.toList_ofList, List.append_assoc]
        exact head?_escapeChar_ne rfl first _
      · intro rest _
        rw [String.toList_ofList, List.append_assoc, List.cons_append]
        exact readRanges_range first last rest
  | _ => exact absurd h (by simp [Regex.range?])

/-- **The descriptors of a character list are written, and read back** up to the bracket that ends
them. -/
lemma exists_descriptorTexts {descriptors : List Regex}
    (h : ∀ descriptor ∈ descriptors, ∃ range, descriptor.range? = some range) :
    ∃ texts, lexerBodies ⟨some false, rule⟩ descriptors = .ok texts ∧
      ∀ rest, ((String.join texts).toList ++ ']' :: rest).head? ≠ some '-' ∧
        readRanges ((String.join texts).toList ++ ']' :: rest)
          = some (Regex.ranges descriptors, rest) := by
  induction descriptors with
  | nil =>
      refine ⟨[], rfl, fun rest => ⟨by simp, ?_⟩⟩
      rw [readRanges]
      rfl
  | cons descriptor descriptors ih =>
      rcases h descriptor (by simp) with ⟨range, hrange⟩
      rcases lexerBody_descriptor rule hrange with ⟨text, htext, hhead, hread⟩
      rcases ih fun other hother => h other (by simp [hother]) with ⟨texts, htexts, hothers⟩
      refine ⟨text :: texts, ?_, ?_⟩
      · rw [lexerBodies, htext, htexts]
        rfl
      · intro rest
        rw [String.join_cons, String.toList_append, List.append_assoc]
        refine ⟨hhead _, ?_⟩
        rw [hread _ (hothers rest).1, (hothers rest).2, Option.map_some,
          Regex.ranges_cons hrange]

lemma checkDescriptors_ok (context : RegexContext) {descriptors : List Regex}
    (h : ∀ descriptor ∈ descriptors, ∃ range, descriptor.range? = some range) :
    checkDescriptors context descriptors = .ok () := by
  have hnone : descriptors.find? (fun descriptor => !descriptor.isDescriptor) = none := by
    rw [List.find?_eq_none]
    intro descriptor hmem
    rcases h descriptor hmem with ⟨range, hrange⟩
    simp [Regex.isDescriptor_of_range? hrange]
  rw [checkDescriptors, hnone]

lemma checkUnits_ok (context : RegexContext) (kind : String) {units : List Regex}
    (h : ∀ unit ∈ units, unit.IsPlain) : checkUnits context kind units = .ok () := by
  have hnone : units.find? (fun unit => !unit.isRegularExpression) = none := by
    rw [List.find?_eq_none]
    intro unit hmem
    simp [(h unit hmem).isRegularExpression]
  rw [checkUnits, hnone]

/-- **A set is read as its ranges,** or as what lies outside of them. -/
lemma shows_setText {texts : List String} {ranges : List (Char × Char)} (negated : Bool)
    (hread : ∀ rest,
      readRanges ((String.join texts).toList ++ ']' :: rest) = some (ranges, rest)) :
    Shows readAtom (setText negated texts).toList
      [.atom (if negated then .complement ranges else .set ranges)] := by
  rw [setText]
  cases negated with
  | false =>
      have htext : ("[" ++ String.join texts ++ "]").toList
          = '[' :: ((String.join texts).toList ++ [']']) := by simp
      refine shows_atom htext (by decide) rfl ?_
      intro rest _
      rw [show ((if false = true then "~[" else "[") ++ String.join texts ++ "]").toList = _
        from htext, List.cons_append, List.append_assoc, List.singleton_append, readAtom,
        hread rest]
      rfl
  | true =>
      have htext : ("~[" ++ String.join texts ++ "]").toList
          = '~' :: '[' :: ((String.join texts).toList ++ [']']) := by simp
      refine shows_atom htext (by decide) rfl ?_
      intro rest _
      rw [show ((if true = true then "~[" else "[") ++ String.join texts ++ "]").toList = _
        from htext, List.cons_append, List.cons_append, List.append_assoc,
        List.singleton_append, readAtom, hread rest]
      rfl

/-- **A character list is written as an atom.** -/
lemma exists_setText {descriptors : List Regex} (negated : Option Bool)
    (hall : ∀ descriptor ∈ descriptors, ∃ range, descriptor.range? = some range) :
    ∃ text, lexerBody ⟨some false, rule⟩ (.charList descriptors negated) = .ok text ∧
      Shows readAtom text.toList [.atom (Regex.setAtom descriptors (negated.getD false))] := by
  rcases exists_descriptorTexts rule hall with ⟨texts, htexts, hread⟩
  rw [lexerBody, Regex.setAtom]
  split
  · exact ⟨".", rfl, shows_atom rfl (by decide) rfl fun rest _ => rfl⟩
  · rw [checkDescriptors_ok _ hall, htexts]
    exact ⟨setText (negated.getD false) texts, rfl, shows_setText _ fun rest => (hread rest).2⟩

/-- **A literal is written as an atom.** -/
lemma shows_literal (image : String) :
    Shows readAtom (literalBody false image).toList [.atom (.literal image.toList)] := by
  have htext : (literalBody false image).toList
      = '\'' :: (escapeChars .literal image.toList ++ ['\'']) := by
    simp [literalBody, LiteralPart.body]
  refine shows_atom htext (by decide) rfl ?_
  intro rest _
  rw [htext, List.cons_append, List.append_assoc, List.singleton_append, readAtom,
    readLiteral_escapeChars]
  rfl

/-! ## The body of a rule -/

/-- **An expression is written as a body:** the text shows the tokens of the tree that is read. -/
structure Written (rule : Option String) (node : Regex) (text : String) : Prop where
  body_eq : lexerBody ⟨some false, rule⟩ node = .ok text
  shows : Shows readAtom text.toList node.reading.tokens

/-- Expressions that can be written one by one can be written together. -/
lemma exists_texts {units : List Regex} (h : ∀ unit ∈ units, ∃ text, Written rule unit text) :
    ∃ texts, lexerBodies ⟨some false, rule⟩ units = .ok texts ∧
      List.Forall₂ (fun text sequence => Shows readAtom text.toList sequence.tokens) texts
        (Regex.readings units) := by
  induction units with
  | nil => exact ⟨[], rfl, .nil⟩
  | cons unit units ih =>
      rcases h unit (by simp) with ⟨text, htext⟩
      rcases ih fun other hother => h other (by simp [hother]) with ⟨texts, htexts, hall⟩
      refine ⟨text :: texts, ?_, .cons htext.shows hall⟩
      rw [lexerBodies, htext.body_eq, htexts]
      rfl

/-- **A repetition is written** as a block in parentheses with a suffix. -/
lemma exists_repeated {operand node : Regex} {mark : String} {suffix : Suffix} {c : Char}
    (h : ∃ text, Written rule operand text)
    (hbody : ∀ text, lexerBody ⟨some false, rule⟩ operand = .ok text →
      lexerBody ⟨some false, rule⟩ node = .ok ("(" ++ text ++ mark))
    (hmark : mark.toList = [')', c])
    (hc : (markToken? c : Option (Token LexerAtom)) = some (.suffix suffix))
    (hreading : node.reading = .single (.block (.last operand.reading) (some suffix))) :
    ∃ text, Written rule node text := by
  rcases h with ⟨text, htext⟩
  refine ⟨"(" ++ text ++ mark, hbody text htext.body_eq, ?_⟩
  have hblock := htext.shows.block.append_mark hc shows_nil
  rw [hreading]
  simpa [hmark, Part.tokens, Body.tokens, suffixTokens] using hblock

/-- **A plain expression is written.** -/
lemma exists_text {node : Regex} (h : node.IsPlain) : ∃ text, Written rule node text := by
  induction h with
  | @charList descriptors negated hall hne =>
      rcases exists_setText rule negated hall with ⟨text, htext, hshows⟩
      exact ⟨text, htext, by simpa [Regex.reading, Part.tokens, suffixTokens] using hshows⟩
  | @literal image hne =>
      refine ⟨literalBody false image, ?_, ?_⟩
      · rw [lexerBody, if_neg hne]
        rfl
      · simpa [Regex.reading, Part.tokens, suffixTokens] using shows_literal image
  | @sequence units hne hall ih =>
      rcases exists_texts rule ih with ⟨texts, htexts, hshows⟩
      refine ⟨" ".intercalate texts, ?_, ?_⟩
      · rw [lexerBody, checkUnits_ok _ _ hall, htexts]
        rfl
      · rw [Regex.reading]
        exact shows_intercalate_space hshows
  | @choice alternatives hne hall ih =>
      rcases exists_texts rule ih with ⟨texts, htexts, hshows⟩
      refine ⟨"(" ++ " | ".intercalate texts ++ ")", ?_, ?_⟩
      · rw [lexerBody, checkUnits_ok _ _ hall, htexts]
        rfl
      · have hblock := (shows_intercalate_bar hshows).block
        simpa [Regex.reading, Part.tokens, suffixTokens] using hblock
  | zeroOrMore hplain ih =>
      refine exists_repeated rule ih ?_ (show ")*".toList = _ from rfl) rfl rfl
      intro text htext
      rw [lexerBody, checkUnits_ok _ _ (by simpa using hplain), htext]
      rfl
  | oneOrMore hplain ih =>
      refine exists_repeated rule ih ?_ (show ")+".toList = _ from rfl) rfl rfl
      intro text htext
      rw [lexerBody, checkUnits_ok _ _ (by simpa using hplain), htext]
      rfl
  | zeroOrOne hplain ih =>
      refine exists_repeated rule ih ?_ (show ")?".toList = _ from rfl) rfl rfl
      intro text htext
      rw [lexerBody, checkUnits_ok _ _ (by simpa using hplain), htext]
      rfl
  | @reference label hname =>
      have hrule := isName_ruleName hname
      refine ⟨ruleName label, by rw [lexerBody], ?_⟩
      have hshows : Shows readAtom (ruleName label).toList [.atom (.name (ruleName label))] :=
        shows_name hrule fun rest hrest => readAtom_name hrule hrest
      simpa [Regex.reading, Part.tokens, suffixTokens] using hshows

/-- **The conversion of a plain regular expression preserves its language.**  Where case matters it
gives a body, and the body is read in exactly one way, as a tree that matches the texts of the
expression, whatever the rules that are referred to match. -/
theorem lexerBody_denotes (node : Regex) (h : node.IsPlain) :
    ∃ text, lexerBody ⟨some false, rule⟩ node = .ok text ∧
      ∀ rules, Denotes readAtom (LexerAtom.language rules) text (node.language rules) := by
  rcases exists_text rule h with ⟨text, htext⟩
  refine ⟨text, htext.body_eq, ?_⟩
  intro rules
  have hbody : Shows readAtom text.toList (Body.last node.reading).tokens := htext.shows
  rw [← h.language_reading rules]
  exact hbody.denotes

/-- A letter or a hyphen, and any number of quotes, of any characters and of digits. -/
def sampleRegex : Regex :=
  .sequence [.charList [.range "a" "z", .character "-"] none,
    .zeroOrMore (.choice [.literal "'", .charList [] (some true), .reference "_digit"])]

/-- Rules that match their own names. -/
def sampleRules (rule : String) : Language Char :=
  {rule.toList}

/-- A hyphen is escaped in a set, and a quote in a literal. -/
theorem lexerBody_denotes_sampleRegex :
    Denotes readAtom (LexerAtom.language sampleRules) "[a-z\\-] (('\\'' | . | US__digit))*"
      (sampleRegex.language sampleRules) := by
  have hplain : sampleRegex.IsPlain := by
    refine .sequence (by simp) ?_
    intro unit hunit
    fin_cases hunit
    · refine .charList ?_ (by simp)
      intro descriptor hdescriptor
      fin_cases hdescriptor
      · exact ⟨('a', 'z'), rfl⟩
      · exact ⟨('-', '-'), rfl⟩
    · refine .zeroOrMore (.choice (by simp) ?_)
      intro unit hunit
      fin_cases hunit
      · exact .literal (by decide)
      · exact .charList (by simp) (by simp)
      · exact .reference (by decide)
  rcases lexerBody_denotes none sampleRegex hplain with ⟨text, htext, hdenotes⟩
  have hwritten : text = "[a-z\\-] (('\\'' | . | US__digit))*" :=
    Except.ok.inj (htext.symm.trans (by cbv))
  rw [hwritten] at hdenotes
  exact hdenotes sampleRules

end GrammarConversion.Conversion
