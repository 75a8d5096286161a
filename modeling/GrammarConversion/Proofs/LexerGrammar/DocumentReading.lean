import GrammarConversion.Proofs.LexerGrammar.Document
import GrammarConversion.Proofs.LexerGrammar.RuleLine

/-!
# Reading the document of a lexer grammar

The first line of a document names the grammar, and each empty line begins the section of a mode.
The default mode comes first and has no header; the section of every other mode begins with one.
All other lines are those of rules, one for each rule.

So a document is read from the outside in: `List.splitOn` finds the lines, for none of them holds a
line break, and finds the sections among them, for none of their lines is empty.  What is left is to
read rules from their lines (`readRule_text`).

**`readListing?_document`: what a document tells is read back from it,** if its names are names and
its rules are legible (`IsLegible`).
-/

namespace GrammarConversion.Antlr

/-- **What a document tells of a lexer grammar:** its name, and its modes with their rules. -/
structure Listing where
  name : String
  modes : List (String × List Rule)
  deriving DecidableEq, Repr

namespace LexerGrammar

/-- The modes with a section and the rules in each, with bodies as they are written. -/
def listing (lexer : LexerGrammar) : Listing where
  name := lexer.name
  modes := lexer.shownModes.map fun mode =>
    (mode.name, (lexer.shownRules mode).map Rule.asWritten)

/-- The lines of the section of a mode after the empty one. -/
def sectionLines (lexer : LexerGrammar) (mode : Mode) : List String :=
  (if mode.name = defaultMode then [] else ["mode " ++ mode.name ++ ";"])
    ++ (lexer.shownRules mode).map Rule.text

/-- **The lines of a document.** -/
def documentLines (lexer : LexerGrammar) : List String :=
  ("lexer grammar " ++ lexer.name ++ ";")
    :: lexer.shownModes.flatMap fun mode => "" :: lexer.sectionLines mode

/-- **Whether the document of a lexer grammar can be read.** -/
structure IsLegible (lexer : LexerGrammar) : Prop where
  name : Reading.IsName lexer.name
  first : ∃ first others, lexer.modes = first :: others ∧ first.name = defaultMode ∧
    ∀ other ∈ others, other.name ≠ defaultMode
  modes : ∀ mode ∈ lexer.shownModes, Reading.IsName mode.name
  rules : ∀ rule ∈ lexer.documentRules, rule.IsLegible

/-- The default mode always has a section, and the other modes have one if they have rules. -/
lemma shownModes_of_first {lexer : LexerGrammar} {first : Mode} {others : List Mode}
    (hmodes : lexer.modes = first :: others) (hfirst : first.name = defaultMode)
    (hothers : ∀ other ∈ others, other.name ≠ defaultMode) :
    lexer.shownModes = first :: others.filter fun mode => !mode.rules.isEmpty := by
  rw [shownModes, hmodes, List.filter_cons_of_pos (by simp [hfirst])]
  refine congrArg (first :: ·) (List.filter_congr fun other hother => ?_)
  rw [decide_eq_false (hothers other hother), Bool.false_or]

/-- **What a document lists:** the default mode with the letter rules that are left at its end, and
then the other modes that have rules. -/
lemma listing_of_first {lexer : LexerGrammar} {first : Mode} {others : List Mode}
    (hmodes : lexer.modes = first :: others) (hfirst : first.name = defaultMode)
    (hothers : ∀ other ∈ others, other.name ≠ defaultMode) :
    lexer.listing.modes
      = (defaultMode, (first.rules ++ lexer.letterRules).map Rule.asWritten)
        :: (others.filter fun mode => !mode.rules.isEmpty).map
          fun mode => (mode.name, mode.rules.map Rule.asWritten) := by
  rw [listing, shownModes_of_first hmodes hfirst hothers, List.map_cons, shownRules,
    if_pos hfirst, hfirst]
  refine congrArg (_ :: ·) (List.map_congr_left fun other hother => ?_)
  rw [shownRules, if_neg (hothers other (List.mem_of_mem_filter hother))]

end LexerGrammar

end GrammarConversion.Antlr

namespace GrammarConversion.Reading

open Antlr

/-! ## Reading a document -/

/-- The lines of a document, each of which a line break ends. -/
def lines (document : String) : List (List Char) :=
  (document.toList.splitOn '\n').dropLast

/-- Reads the section of a mode other than the default one. -/
def readSection : List (List Char) → Option (String × List Rule)
  | [] => none
  | header :: others =>
    (readBetween "mode " ';' header).bind fun mode =>
      (others.mapM readRule).map fun rules => (mode, rules)

/-- Reads the sections of a document, of which the first is that of the default mode. -/
def readSections : List (List (List Char)) → Option (List (String × List Rule))
  | [] => none
  | first :: others =>
    (first.mapM readRule).bind fun rules =>
      (others.mapM readSection).map fun modes => (defaultMode, rules) :: modes

/-- **Reads what a document tells.** -/
def readListing? (document : String) : Option Listing :=
  match lines document with
  | [] => none
  | header :: others =>
    (readBetween "lexer grammar " ';' header).bind fun name =>
      (readSections (others.splitOn []).tail).map fun modes => { name := name, modes := modes }

/-! ## Lists with marks between them -/

section Marks

variable {α β : Type} (mark : α)

/-- Lists with a mark after each of them. -/
lemma flatMap_append_mark (pieces : List (List α)) :
    pieces.flatMap (· ++ [mark]) = [mark].intercalate (pieces ++ [[]]) := by
  induction pieces with
  | nil => rfl
  | cons piece pieces ih =>
      rw [List.flatMap_cons, ih, List.cons_append, List.intercalate_cons_of_ne_nil (by simp)]

/-- Lists with a mark before each of them. -/
lemma flatMap_cons_mark (pieces : List (List α)) :
    pieces.flatMap (mark :: ·) = [mark].intercalate ([] :: pieces) := by
  induction pieces with
  | nil => rfl
  | cons piece pieces ih =>
      rw [List.flatMap_cons, ih, List.intercalate_cons_cons]
      cases pieces with
      | nil => simp
      | cons second pieces => simp [List.intercalate_cons_cons]

/-- Members that are all read are read together. -/
lemma mapM_eq_some {γ : Type} {read : β → Option γ} {write : α → β} {meant : α → γ} {xs : List α}
    (h : ∀ x ∈ xs, read (write x) = some (meant x)) :
    (xs.map write).mapM read = some (xs.map meant) := by
  induction xs with
  | nil => rfl
  | cons x xs ih =>
      rcases List.forall_mem_cons.mp h with ⟨hx, hxs⟩
      rw [List.map_cons, List.mapM_cons, hx, ih hxs]
      rfl

end Marks

section Document

variable {lexer : LexerGrammar} {mode : Mode}

/-! ## Lines -/

lemma flatMap_sectionLines (lexer : LexerGrammar) (mode : Mode) :
    (("" :: lexer.sectionLines mode).flatMap fun line => line.toList ++ ['\n'])
      = (lexer.modeSection mode).toList := by
  have hrules : ((lexer.shownRules mode).map Rule.text).flatMap (fun line => line.toList ++ ['\n'])
      = (String.join ((lexer.shownRules mode).map fun rule => rule.text ++ "\n")).toList := by
    rw [String.toList_join, List.flatMap_map, List.flatMap_map]
    simp
  rw [LexerGrammar.sectionLines, LexerGrammar.modeSection, List.flatMap_cons, List.flatMap_append,
    hrules]
  split <;> simp

/-- **A document is made of its lines,** each with a line break after it. -/
lemma toList_document (lexer : LexerGrammar) :
    lexer.document.toList = lexer.documentLines.flatMap fun line => line.toList ++ ['\n'] := by
  have hsections : (String.join (lexer.shownModes.map lexer.modeSection)).toList
      = (lexer.shownModes.flatMap fun mode => "" :: lexer.sectionLines mode).flatMap
        fun line => line.toList ++ ['\n'] := by
    rw [String.toList_join, List.flatMap_map, List.flatMap_assoc]
    exact List.flatMap_congr fun mode _ => (flatMap_sectionLines lexer mode).symm
  rw [LexerGrammar.document, LexerGrammar.documentLines, List.flatMap_cons, String.toList_append,
    hsections]
  simp

lemma isOneLine_sectionLines (h : lexer.IsLegible) (hmode : mode ∈ lexer.shownModes) :
    ∀ line ∈ lexer.sectionLines mode, IsOneLine line.toList ∧ line.toList ≠ [] := by
  intro line hline
  rw [LexerGrammar.sectionLines, List.mem_append] at hline
  rcases hline with hheader | htext
  · split at hheader
    · exact absurd hheader List.not_mem_nil
    · obtain rfl := List.mem_singleton.mp hheader
      refine ⟨?_, by simp⟩
      rw [String.toList_append, String.toList_append, isOneLine_append, isOneLine_append]
      exact ⟨⟨by decide, isOneLine_of_isNamePart (h.modes mode hmode).2⟩, by decide⟩
  · rcases List.mem_map.mp htext with ⟨rule, hrule, rfl⟩
    have hlegible := h.rules rule (List.mem_flatMap.mpr ⟨mode, hmode, hrule⟩)
    refine ⟨isOneLine_text hlegible, ?_⟩
    rw [toList_text]
    exact List.append_ne_nil_of_right_ne_nil _
      (List.append_ne_nil_of_left_ne_nil hlegible.name.1 _)

lemma isOneLine_documentLines (h : lexer.IsLegible) :
    ∀ line ∈ lexer.documentLines, IsOneLine line.toList := by
  intro line hline
  rcases List.mem_cons.mp hline with rfl | hline
  · rw [String.toList_append, String.toList_append, isOneLine_append, isOneLine_append]
    exact ⟨⟨by decide, isOneLine_of_isNamePart h.name.2⟩, by decide⟩
  · rcases List.mem_flatMap.mp hline with ⟨mode, hmode, hmem⟩
    rcases List.mem_cons.mp hmem with rfl | hmem
    · exact isOneLine_nil
    · exact (isOneLine_sectionLines h hmode line hmem).1

/-- **A document falls into its lines.** -/
lemma lines_document (h : lexer.IsLegible) :
    lines lexer.document = lexer.documentLines.map String.toList := by
  have hbreaks : ∀ line ∈ lexer.documentLines.map String.toList ++ [[]], '\n' ∉ line := by
    intro line hline
    rcases List.mem_append.mp hline with hline | hlast
    · rcases List.mem_map.mp hline with ⟨text, htext, rfl⟩
      exact (isOneLine_documentLines h text htext).newline_notMem
    · simp [List.mem_singleton.mp hlast]
  have hjoined : lexer.document.toList
      = ['\n'].intercalate (lexer.documentLines.map String.toList ++ [[]]) := by
    rw [toList_document, ← flatMap_append_mark, List.flatMap_map]
  rw [lines, hjoined, List.splitOn_intercalate '\n' hbreaks (by simp), List.dropLast_concat]

/-! ## Sections -/

/-- The sections of a document are found by the empty lines. -/
lemma splitOn_sections (h : lexer.IsLegible) :
    ((lexer.shownModes.flatMap fun mode => "" :: lexer.sectionLines mode).map
        String.toList).splitOn []
      = [] :: lexer.shownModes.map fun mode => (lexer.sectionLines mode).map String.toList := by
  have hempty : ∀ piece ∈ [] :: lexer.shownModes.map
      (fun mode => (lexer.sectionLines mode).map String.toList), [] ∉ piece := by
    refine List.forall_mem_cons.mpr ⟨List.not_mem_nil, fun piece hpiece hmem => ?_⟩
    rcases List.mem_map.mp hpiece with ⟨mode, hmode, rfl⟩
    rcases List.mem_map.mp hmem with ⟨line, hline, hnil⟩
    exact (isOneLine_sectionLines h hmode line hline).2 hnil
  have hjoined : (lexer.shownModes.flatMap fun mode => "" :: lexer.sectionLines mode).map
        String.toList
      = [[]].intercalate ([] :: lexer.shownModes.map
        fun mode => (lexer.sectionLines mode).map String.toList) := by
    rw [← flatMap_cons_mark, List.map_flatMap, List.flatMap_map]
    rfl
  rw [hjoined, List.splitOn_intercalate [] hempty (by simp)]

/-- The rules of a section are read back from its lines. -/
lemma mapM_readRule (h : lexer.IsLegible) (hmode : mode ∈ lexer.shownModes) :
    (((lexer.shownRules mode).map Rule.text).map String.toList).mapM readRule
      = some ((lexer.shownRules mode).map Rule.asWritten) := by
  rw [List.map_map]
  exact mapM_eq_some fun rule hrule =>
    readRule_text (h.rules rule (List.mem_flatMap.mpr ⟨mode, hmode, hrule⟩))

/-- **The section of a mode is read back.** -/
lemma readSection_sectionLines (h : lexer.IsLegible) (hmode : mode ∈ lexer.shownModes)
    (hother : mode.name ≠ defaultMode) :
    readSection ((lexer.sectionLines mode).map String.toList)
      = some (mode.name, (lexer.shownRules mode).map Rule.asWritten) := by
  have hheader : readBetween "mode " ';' ("mode " ++ mode.name ++ ";").toList = some mode.name := by
    rw [String.toList_append, String.toList_append]
    exact readBetween_append "mode " mode.name ';'
  rw [LexerGrammar.sectionLines, if_neg hother, List.singleton_append, List.map_cons, readSection,
    hheader, Option.bind_some, mapM_readRule h hmode]
  rfl

/-- **All sections are read back.** -/
lemma readSections_shownModes (h : lexer.IsLegible) :
    readSections (lexer.shownModes.map fun mode => (lexer.sectionLines mode).map String.toList)
      = some lexer.listing.modes := by
  rcases h.first with ⟨first, others, hmodes, hfirst, hothers⟩
  have hshown := LexerGrammar.shownModes_of_first hmodes hfirst hothers
  have hmem : first ∈ lexer.shownModes := hshown ▸ List.mem_cons_self
  have hlines : (lexer.sectionLines first).map String.toList
      = ((lexer.shownRules first).map Rule.text).map String.toList := by
    rw [LexerGrammar.sectionLines, if_pos hfirst, List.nil_append]
  have hsections : ((others.filter fun mode => !mode.rules.isEmpty).map
      fun mode => (lexer.sectionLines mode).map String.toList).mapM readSection
        = some ((others.filter fun mode => !mode.rules.isEmpty).map
          fun mode => (mode.name, (lexer.shownRules mode).map Rule.asWritten)) :=
    mapM_eq_some fun mode hmode => readSection_sectionLines h
      (hshown ▸ List.mem_cons_of_mem first hmode) (hothers mode (List.mem_of_mem_filter hmode))
  rw [LexerGrammar.listing, hshown, List.map_cons, readSections, hlines, mapM_readRule h hmem,
    Option.bind_some, hsections, Option.map_some, List.map_cons, hfirst]

/-- **What a document tells is read back from it.** -/
lemma readListing?_document (h : lexer.IsLegible) :
    readListing? lexer.document = some lexer.listing := by
  have hname : readBetween "lexer grammar " ';' ("lexer grammar " ++ lexer.name ++ ";").toList
      = some lexer.name := by
    rw [String.toList_append, String.toList_append]
    exact readBetween_append "lexer grammar " lexer.name ';'
  rw [readListing?, lines_document h, LexerGrammar.documentLines, List.map_cons]
  dsimp only
  rw [hname, Option.bind_some, splitOn_sections h, List.tail_cons, readSections_shownModes h]
  rfl

end Document

end GrammarConversion.Reading
