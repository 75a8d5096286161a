import Mathlib.Data.List.Chain
import Mathlib.Data.List.Forall2
import Mathlib.Tactic.FinCases
import GrammarConversion.Proofs.ParserRule.Language
import GrammarConversion.Proofs.Reading.Scan

/-!
# The written form of a part of a parser rule

A part is written as a text, and ANTLR reads the text as a tree of its own.  The two trees differ:
a sequence without a quantifier is written without parentheses, so its children are read as
children of whatever stands around it.  `Component.reading` is the tree that is read.

* `Component.IsWritable` names the parts that are looked at: elements are names, sequences and
  choices have children, quantifiers are the three that repeat.
* `Component.language_reading`: the tree that is read has the language of the part.
* `IsWritable.exists_text`: the part is written, its text shows the tokens of the tree that is read,
  and no two marks of quantifiers meet in it.

**`quantifiedAll_denotes` puts these together** for a part that any quantifiers have been applied
to.
-/

namespace GrammarConversion.Antlr

open Reading

/-- A quantifier that is absent or one of the three that repeat. -/
def IsRepetition (q : Option Quantifier) : Prop :=
  ∀ text, q ≠ some (.verbatim text)

/-- A character that is the mark of a quantifier. -/
def isMark (c : Char) : Bool :=
  c ∈ ['?', '*', '+']

/-- **No two marks of quantifiers meet:** of two neighbouring characters one is none. -/
def MarksApart (cs : List Char) : Prop :=
  cs.IsChain fun first second => ¬(isMark first = true ∧ isMark second = true)

namespace Component

/-- A part all of whose elements are names, whose sequences and choices have children, and whose
quantifiers repeat. -/
inductive IsWritable : Component → Prop
  | element {text : String} {q : Option Quantifier} (hname : IsName text) (hq : IsRepetition q) :
      IsWritable (.element text q)
  | sequence {children : List Component} {q : Option Quantifier} (hne : children ≠ [])
      (hall : ∀ child ∈ children, IsWritable child) (hq : IsRepetition q) :
      IsWritable (.sequence children q)
  | choice {children : List Component} {q : Option Quantifier} (hne : children ≠ [])
      (hall : ∀ child ∈ children, IsWritable child) (hq : IsRepetition q) :
      IsWritable (.choice children q)

lemma IsWritable.quantified {part : Component} (h : part.IsWritable) {q : Option Quantifier}
    (hq : IsRepetition q) : (part.quantified q).IsWritable := by
  cases q with
  | none => exact h
  | some q =>
      rw [Component.quantified]
      split
      · cases h with
        | element hname _ => exact .element hname hq
        | sequence hne hall _ => exact .sequence hne hall hq
        | choice hne hall _ => exact .choice hne hall hq
      · refine .sequence (by simp) ?_ hq
        intro child hchild
        rw [List.mem_singleton.mp hchild]
        exact h

/-! ## The tree that is read -/

mutual

/-- **The tree that the written form of a part is read as.** -/
def reading : Component → Sequence String
  | .element text q => .single (.atom text (q.bind Quantifier.suffix?))
  | .sequence children q =>
    match q.bind Quantifier.suffix? with
    | none => joined (readings children)
    | some suffix => .single (.block (.last (joined (readings children))) (some suffix))
  | .choice children q => .single (.block (parted (readings children)) (q.bind Quantifier.suffix?))
  | .unknown _ => .empty

/-- The trees that the written forms of several parts are read as. -/
def readings : List Component → List (Sequence String)
  | [] => []
  | child :: children => child.reading :: readings children

end

lemma readings_eq_map (children : List Component) : readings children = children.map reading := by
  induction children with
  | nil => rfl
  | cons child children ih => rw [readings, ih, List.map_cons]

/-- The one symbol of a name. -/
def symbol (name : String) : Language String :=
  {[name]}

/-- **The tree that is read has the language of the part.** -/
lemma IsWritable.language_reading {part : Component} (h : part.IsWritable) :
    part.reading.language symbol = part.language := by
  induction h with
  | element hname hq => simp [reading, Part.language, Component.language, quantifiedWords, symbol]
  | @sequence children q hne hall hq ih =>
      have hchildren : (joined (readings children)).language symbol = productOf children := by
        rw [language_joined, readings_eq_map, productOf_eq, List.map_map]
        exact congrArg List.prod (List.map_congr_left ih)
      rw [reading, Component.language, quantifiedWords, ← hchildren]
      split
      · rename_i hnone
        rw [hnone, repeated]
      · rename_i suffix hsome
        rw [hsome, Sequence.language_single, Part.language, Body.language]
  | @choice children q hne hall hq ih =>
      have hchildren : (parted (readings children)).language symbol = unionOf children := by
        rw [language_parted _ _ (by simpa [readings_eq_map] using hne), readings_eq_map,
          unionOf_eq, List.map_map]
        exact congrArg List.sum (List.map_congr_left ih)
      rw [reading, Sequence.language_single, Part.language, hchildren, Component.language,
        quantifiedWords]

end Component

/-! ## Marks -/

lemma isMark_eq_false_of_isNameChar {c : Char} (h : isNameChar c = true) : isMark c = false := by
  by_contra hmark
  have hcases : c = '?' ∨ c = '*' ∨ c = '+' := by
    simpa only [isMark, Bool.not_eq_false, decide_eq_true_eq, List.mem_cons, List.not_mem_nil,
      or_false] using hmark
  rcases hcases with rfl | rfl | rfl <;> exact absurd h (by decide)

/-- Two texts may be put together if one of them has no mark where they meet. -/
lemma MarksApart.append {cs ds : List Char} (hcs : MarksApart cs) (hds : MarksApart ds)
    (hmeet : (∀ c ∈ cs.getLast?, isMark c = false) ∨ ∀ d ∈ ds.head?, isMark d = false) :
    MarksApart (cs ++ ds) := by
  refine List.IsChain.append hcs hds ?_
  rintro c hc d hd ⟨hcmark, hdmark⟩
  rcases hmeet with hlast | hhead
  · rw [hlast c hc] at hcmark
    exact Bool.noConfusion hcmark
  · rw [hhead d hd] at hdmark
    exact Bool.noConfusion hdmark

lemma marksApart_singleton (c : Char) : MarksApart [c] :=
  List.isChain_singleton c

/-- A character that is no mark keeps what stands before it and what stands after it apart. -/
lemma MarksApart.append_cons {cs ds : List Char} {c : Char} (hc : isMark c = false)
    (hcs : MarksApart cs) (hds : MarksApart ds) : MarksApart (cs ++ c :: ds) := by
  have hcons : MarksApart ([c] ++ ds) :=
    (marksApart_singleton c).append hds (.inl (by simpa using hc))
  exact hcs.append hcons (.inr (by simpa using hc))

lemma marksApart_of_forall {cs : List Char} (h : ∀ c ∈ cs, isMark c = false) : MarksApart cs := by
  induction cs with
  | nil => exact List.isChain_nil
  | cons c cs ih =>
      have hcs : MarksApart cs := ih fun d hd => h d (by simp [hd])
      exact MarksApart.append_cons (h c (by simp)) List.isChain_nil hcs

/-- Texts stay apart when they are put in a row with a separator that has no marks. -/
lemma marksApart_intercalate {separator : String} (hne : separator.toList ≠ [])
    (hplain : separator.toList.any isMark = false) {texts : List String}
    (h : ∀ text ∈ texts, MarksApart text.toList) :
    MarksApart (separator.intercalate texts).toList := by
  have hseparator : ∀ c ∈ separator.toList, isMark c = false := by simpa using hplain
  induction texts with
  | nil => exact List.isChain_nil
  | cons text texts ih =>
      have hothers := ih fun other hother => h other (by simp [hother])
      have hfirst := h text (by simp)
      cases texts with
      | nil => simpa using hfirst
      | cons second rest =>
          rw [String.intercalate_cons_cons, String.toList_append, String.toList_append]
          refine (hfirst.append (marksApart_of_forall hseparator) (.inr ?_)).append hothers
            (.inl ?_)
          · intro c hc
            exact hseparator c (List.mem_of_mem_head? hc)
          · intro c hc
            rw [List.getLast?_append_of_ne_nil _ hne] at hc
            exact hseparator c (List.mem_of_getLast? hc)

/-! ## The text of a part -/

lemma shows_mark {q : Option Quantifier} (hq : IsRepetition q) {piece : List Char}
    {tokens : List (Token String)} (h : Shows readName piece tokens) :
    Shows readName (piece ++ (markOf q).toList)
      (tokens ++ suffixTokens (q.bind Quantifier.suffix?)) := by
  match q with
  | none => simpa [markOf, suffixTokens] using h
  | some .zeroOrOne => exact h.append_mark (show markToken? '?' = some _ from rfl) shows_nil
  | some .zeroOrMore => exact h.append_mark (show markToken? '*' = some _ from rfl) shows_nil
  | some .oneOrMore => exact h.append_mark (show markToken? '+' = some _ from rfl) shows_nil
  | some (.verbatim text) => exact absurd rfl (hq text)

/-- The mark of a quantifier meets no other mark where none comes right before it. -/
lemma marksApart_mark {q : Option Quantifier} (hq : IsRepetition q) {piece : List Char}
    (h : MarksApart piece) (hlast : ∀ c ∈ piece.getLast?, isMark c = false) :
    MarksApart (piece ++ (markOf q).toList) := by
  have hmark : MarksApart (markOf q).toList := by
    match q with
    | none => exact List.isChain_nil
    | some .zeroOrOne => exact marksApart_singleton '?'
    | some .zeroOrMore => exact marksApart_singleton '*'
    | some .oneOrMore => exact marksApart_singleton '+'
    | some (.verbatim text) => exact absurd rfl (hq text)
  exact h.append hmark (.inl hlast)

/-- A block in parentheses keeps the marks inside it apart, and from its own. -/
lemma marksApart_block {q : Option Quantifier} (hq : IsRepetition q) {piece : List Char}
    (h : MarksApart piece) : MarksApart ('(' :: piece ++ [')'] ++ (markOf q).toList) := by
  have hopen : MarksApart ([] ++ '(' :: piece) :=
    MarksApart.append_cons (by decide) List.isChain_nil h
  have hblock : MarksApart ('(' :: piece ++ [')']) :=
    hopen.append_cons (by decide) List.isChain_nil
  refine marksApart_mark hq hblock ?_
  intro c hc
  rw [List.getLast?_concat] at hc
  cases hc
  decide

lemma suffix?_of_isRepetition {q : Quantifier} (hq : IsRepetition (some q)) :
    markOf (some q) ≠ "" ∧ ∃ suffix, q.suffix? = some suffix := by
  match q with
  | .zeroOrOne => exact ⟨by simp [markOf, Quantifier.text], .zeroOrOne, rfl⟩
  | .zeroOrMore => exact ⟨by simp [markOf, Quantifier.text], .zeroOrMore, rfl⟩
  | .oneOrMore => exact ⟨by simp [markOf, Quantifier.text], .oneOrMore, rfl⟩
  | .verbatim text => exact absurd rfl (hq text)

namespace Component

/-- **A part is written as a text:** the text shows the tokens of the tree that is read, and no two
marks meet in it. -/
structure Written (part : Component) (text : String) : Prop where
  text_eq : part.text? = some text
  shows : Shows readName text.toList part.reading.tokens
  apart : MarksApart text.toList

/-- Parts that can be written one by one can be written together. -/
lemma exists_texts {children : List Component}
    (h : ∀ child ∈ children, ∃ text, Written child text) :
    ∃ texts, texts? children = some texts ∧ List.Forall₂ Written children texts := by
  induction children with
  | nil => exact ⟨[], rfl, .nil⟩
  | cons child children ih =>
      rcases h child (by simp) with ⟨text, htext⟩
      rcases ih fun other hother => h other (by simp [hother]) with ⟨texts, htexts, hall⟩
      refine ⟨text :: texts, ?_, .cons htext hall⟩
      simp [texts?, htext.text_eq, htexts]

/-- The texts of several parts show the tokens of the trees that they are read as. -/
lemma shows_of_written {children : List Component} {texts : List String}
    (h : List.Forall₂ Written children texts) :
    List.Forall₂ (fun text sequence => Shows readName text.toList sequence.tokens) texts
      (readings children) := by
  rw [readings_eq_map, List.forall₂_map_right_iff]
  exact (h.imp fun child text hwritten => hwritten.shows).flip

lemma apart_of_written {children : List Component} {texts : List String}
    (h : List.Forall₂ Written children texts) : ∀ text ∈ texts, MarksApart text.toList := by
  induction h with
  | nil => simp
  | cons hfirst hothers ih =>
      intro text htext
      rcases List.mem_cons.mp htext with rfl | htext
      · exact hfirst.apart
      · exact ih text htext

/-- **A writable part is written.** -/
lemma IsWritable.exists_text {part : Component} (h : part.IsWritable) :
    ∃ text, Written part text := by
  induction h with
  | @element text q hname hq =>
      have hplain : ∀ c ∈ text.toList, isMark c = false := fun c hc =>
        isMark_eq_false_of_isNameChar (hname.2 c hc)
      have hname' : Shows readName text.toList [.atom text] :=
        shows_name hname fun rest hrest => readName_append hname hrest
      refine ⟨text ++ markOf q, rfl, ?_, ?_⟩
      · simpa [reading, Part.tokens] using shows_mark hq hname'
      · rw [String.toList_append]
        refine marksApart_mark hq (marksApart_of_forall hplain) ?_
        intro c hc
        exact hplain c (List.mem_of_getLast? hc)
  | @sequence children q hne hall hq ih =>
      rcases exists_texts ih with ⟨texts, htexts, hwritten⟩
      have hshows := shows_intercalate_space (shows_of_written hwritten)
      have hapart : MarksApart (" ".intercalate texts).toList :=
        marksApart_intercalate (by decide) (by decide) (apart_of_written hwritten)
      cases q with
      | none =>
          refine ⟨" ".intercalate texts, ?_, ?_, hapart⟩
          · simp [text?, htexts, markOf]
          · simpa [reading] using hshows
      | some q =>
          rcases suffix?_of_isRepetition hq with ⟨hmark, suffix, hsuffix⟩
          refine ⟨"(" ++ " ".intercalate texts ++ ")" ++ markOf (some q), ?_, ?_, ?_⟩
          · simp [text?, htexts, hmark]
          · have hblock := shows_mark hq hshows.block
            simpa [reading, hsuffix, Part.tokens, Body.tokens] using hblock
          · simpa using marksApart_block hq hapart
  | @choice children q hne hall hq ih =>
      rcases exists_texts ih with ⟨texts, htexts, hwritten⟩
      have hshows := shows_intercalate_bar (shows_of_written hwritten)
      have hapart : MarksApart (" | ".intercalate texts).toList :=
        marksApart_intercalate (by decide) (by decide) (apart_of_written hwritten)
      refine ⟨"(" ++ " | ".intercalate texts ++ ")" ++ markOf q, ?_, ?_, ?_⟩
      · simp [text?, htexts]
      · have hblock := shows_mark hq hshows.block
        simpa [reading, Part.tokens] using hblock
      · simpa using marksApart_block hq hapart

end Component

/-- A part with several quantifiers applied to it, one after another. -/
def quantifiedAll (part : Component) (qs : List (Option Quantifier)) : Component :=
  qs.foldl Component.quantified part

lemma isWritable_quantifiedAll {part : Component} (h : part.IsWritable)
    {qs : List (Option Quantifier)} (hqs : ∀ q ∈ qs, IsRepetition q) :
    (quantifiedAll part qs).IsWritable := by
  induction qs generalizing part with
  | nil => exact h
  | cons q qs ih =>
      exact ih (h.quantified (hqs q (by simp))) fun other hother => hqs other (by simp [hother])

lemma language_quantifiedAll (part : Component) (qs : List (Option Quantifier)) :
    (quantifiedAll part qs).language
      = qs.foldl (fun words q => quantifiedWords q words) part.language := by
  induction qs generalizing part with
  | nil => rfl
  | cons q qs ih =>
      have hrest := ih (part.quantified q)
      rw [Component.language_quantified] at hrest
      exact hrest

/-- **Rendering is faithful.**  Let any quantifiers be applied to a part, one after another.  The
result is written as a text which is read in exactly one way, as a tree with the language of the
result; no two marks of quantifiers meet in the text; and the language of the result is that of the
part with the quantifiers applied to it in their order. -/
theorem quantifiedAll_denotes (part : Component) (hpart : part.IsWritable)
    (qs : List (Option Quantifier)) (hqs : ∀ q ∈ qs, IsRepetition q) :
    ∃ text, (quantifiedAll part qs).text? = some text ∧
      Denotes readName Component.symbol text (quantifiedAll part qs).language ∧
      MarksApart text.toList ∧
      (quantifiedAll part qs).language
        = qs.foldl (fun words q => quantifiedWords q words) part.language := by
  have hwritable := isWritable_quantifiedAll hpart hqs
  rcases hwritable.exists_text with ⟨text, htext⟩
  refine ⟨text, htext.text_eq, ?_, htext.apart, language_quantifiedAll part qs⟩
  have hbody : Shows readName text.toList (Body.last (quantifiedAll part qs).reading).tokens :=
    htext.shows
  rw [← hwritable.language_reading]
  exact hbody.denotes

/-- A choice between a sequence and an optional name. -/
def sampleChoice : Component :=
  .choice [.sequence [.element "a" none, .element "b" (some .oneOrMore)] none,
    .element "c" (some .zeroOrOne)] none

/-- The choice takes the first quantifier as its own and has to be wrapped for the second one. -/
theorem quantifiedAll_denotes_sampleChoice :
    Denotes readName Component.symbol "((a b+ | c?)*)?"
        (quantifiedAll sampleChoice [some .zeroOrMore, none, some .zeroOrOne]).language ∧
      MarksApart "((a b+ | c?)*)?".toList := by
  have hname : ∀ name ∈ ["a", "b", "c"], IsName name := by decide
  have hplain : IsRepetition none := fun text => by simp
  have hsample : sampleChoice.IsWritable := by
    refine .choice (by simp) ?_ hplain
    intro child hchild
    fin_cases hchild
    · refine .sequence (by simp) ?_ hplain
      intro child hchild
      fin_cases hchild
      · exact .element (hname "a" (by simp)) hplain
      · exact .element (hname "b" (by simp)) (fun text => by simp)
    · exact .element (hname "c" (by simp)) (fun text => by simp)
  obtain ⟨text, htext, hdenotes, hapart, -⟩ :=
    quantifiedAll_denotes sampleChoice hsample [some .zeroOrMore, none, some .zeroOrOne] (by
      intro q hq text
      fin_cases hq <;> simp)
  have hwritten : text = "((a b+ | c?)*)?" := Option.some.inj (htext.symm.trans (by rfl))
  rw [hwritten] at hdenotes hapart
  exact ⟨hdenotes, hapart⟩

end GrammarConversion.Antlr
