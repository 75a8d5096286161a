import GrammarConversion.Proofs.LexerGrammar.RuleLine
import GrammarConversion.Proofs.LexerRule.Failures
import GrammarConversion.Proofs.LexerRule.Reading
import GrammarConversion.Proofs.LiteralBody

/-!
# The text of the body for a regular expression

Characters of literals and of sets are escaped, and what is escaped shows no white space but plain
spaces.  Outside of literals and sets no dash is written.  So every dash has a quote or a bracket
somewhere after it (`IsEnclosed`), and this stays so when texts are put one after another.

A descriptor of a character list may also be the tree of a token, although it is no regular
expression.  It is written without brackets, and its dashes are not enclosed.  But it shows no
arrow: in escapes no dash comes after a space, and in a range no space after `>`.

**`isLegibleBody_lexerBody`: the body of a token can be told from what surrounds it,** as long as it
refers to other tokens by names.
-/

namespace GrammarConversion.Model.Regex

/-- **Whether a tree refers to a token.** -/
inductive Mentions (label : String) : Regex → Prop
  | reference : Mentions label (.reference label)
  | inside {node part : Regex} (hpart : part ∈ node.parts) (h : Mentions label part) :
      Mentions label node

/-- A node is a descriptor or a regular expression. -/
lemma isDescriptor_or_isRegularExpression {node : Regex} (h : node.isNode = true) :
    node.isDescriptor = true ∨ node.isRegularExpression = true := by
  cases node with
  | character char => exact .inl rfl
  | range left right => exact .inl rfl
  | foreign value => cases h
  | _ => exact .inr rfl

end GrammarConversion.Model.Regex

namespace GrammarConversion.Reading

open Antlr

/-- **Whether a text stays on one line and has a closing mark after every dash.** -/
structure IsEnclosed (cs : List Char) : Prop where
  oneLine : IsOneLine cs
  dashes : ∀ before after, cs = before ++ '-' :: after → ShowsClosing after

section Enclosed

variable {cs ds : List Char} {c mark : Char} {text separator : String} {texts : List String}

/-! ## Enclosed texts -/

lemma isEnclosed_of_notMem (hline : IsOneLine cs) (hdash : '-' ∉ cs) : IsEnclosed cs := by
  refine ⟨hline, fun before after hsplit => absurd ?_ hdash⟩
  simp [hsplit]

lemma isEnclosed_nil : IsEnclosed [] :=
  isEnclosed_of_notMem isOneLine_nil List.not_mem_nil

lemma isEnclosed_of_isNamePart (h : IsNamePart text) : IsEnclosed text.toList :=
  isEnclosed_of_notMem (isOneLine_of_isNamePart h) fun hdash => absurd (h _ hdash) (by decide)

/-- A closing mark encloses the text before it. -/
lemma isEnclosed_of_closing (hline : IsOneLine cs) (hmark : mark = '\'' ∨ mark = ']') :
    IsEnclosed (cs ++ [mark]) := by
  have hlast : IsOneLine [mark] := by rcases hmark with rfl | rfl <;> decide
  have hdash : mark ≠ '-' := by rcases hmark with rfl | rfl <;> decide
  refine ⟨isOneLine_append.mpr ⟨hline, hlast⟩, fun before after hsplit => ?_⟩
  have hmem : mark ∈ after := by
    rcases List.append_eq_append_iff.mp hsplit with ⟨rest, -, hrest⟩ | ⟨rest, -, hafter⟩
    · rcases List.singleton_eq_append_iff.mp hrest with ⟨-, hcons⟩ | ⟨-, hcons⟩
      · exact absurd (List.cons.inj hcons).1.symm hdash
      · cases hcons
    · rcases List.cons_eq_append_iff.mp hafter with ⟨-, hcons⟩ | ⟨others, -, rfl⟩
      · exact absurd (List.cons.inj hcons).1 hdash
      · simp
  rcases hmark with rfl | rfl
  · exact .inl hmem
  · exact .inr hmem

/-- **Enclosed texts can be put one after another.** -/
lemma IsEnclosed.append (h : IsEnclosed cs) (h' : IsEnclosed ds) : IsEnclosed (cs ++ ds) := by
  refine ⟨isOneLine_append.mpr ⟨h.oneLine, h'.oneLine⟩, fun before after hsplit => ?_⟩
  rcases List.append_eq_append_iff.mp hsplit with ⟨rest, -, hds⟩ | ⟨rest, hcs, hafter⟩
  · exact h'.dashes rest after hds
  · cases rest with
    | nil => exact h'.dashes [] after hafter.symm
    | cons d rest =>
        rcases List.cons.inj hafter with ⟨rfl, rfl⟩
        exact (h.dashes before rest hcs).imp (List.mem_append_left ds) (List.mem_append_left ds)

lemma IsEnclosed.intercalate (hseparator : IsEnclosed separator.toList)
    (h : ∀ text ∈ texts, IsEnclosed text.toList) :
    IsEnclosed (separator.intercalate texts).toList := by
  induction texts with
  | nil => exact isEnclosed_nil
  | cons text others ih =>
      rcases List.forall_mem_cons.mp h with ⟨htext, hothers⟩
      cases others with
      | nil => simpa using htext
      | cons second others =>
          rw [String.intercalate_cons_cons, String.toList_append, String.toList_append]
          exact (htext.append hseparator).append (ih hothers)

/-- **An enclosed text can be told from what surrounds it.** -/
lemma IsEnclosed.isLegibleBody (h : IsEnclosed text.toList) : IsLegibleBody text := by
  refine ⟨h.oneLine, fun before after hsplit => ?_⟩
  have hspace : IsEnclosed [' '] := isEnclosed_of_notMem (by decide) (by decide)
  have hclosing : ShowsClosing ('>' :: ' ' :: after) := by
    refine (hspace.append h).dashes (before ++ [' ']) _ ?_
    rw [List.singleton_append, hsplit]
    simp [arrow]
  simpa [ShowsClosing] using hclosing

/-! ## Escapes -/

lemma hexUpper_visible :
    ∀ digit < 16, Text.isBlank (Text.hexUpper digit) = false ∧ Text.hexUpper digit ≠ '-' := by
  decide

lemma unicodeEscape_visible (c : Char) :
    ∀ d ∈ unicodeEscape c, Text.isBlank d = false ∧ d ≠ '-' := by
  have hdigits : ∀ width, ∀ d ∈ Text.hexDigits Text.hexUpper width c.toNat,
      Text.isBlank d = false ∧ d ≠ '-' := by
    intro width d hd
    rcases mem_hexDigits hd with ⟨digit, hdigit, rfl⟩
    exact hexUpper_visible digit hdigit
  intro d hd
  rw [unicodeEscape] at hd
  split at hd
  · simp only [List.mem_cons] at hd
    rcases hd with rfl | rfl | hd
    · decide
    · decide
    · exact hdigits 4 d hd
  · simp only [List.mem_cons, List.cons_append, List.mem_append, List.not_mem_nil, or_false] at hd
    rcases hd with rfl | rfl | rfl | hd | rfl
    · decide
    · decide
    · decide
    · exact hdigits _ d hd
    · decide

/-- **The forms of an escape:** a backslash before a letter or a mark, a code point, or the
character itself, which then can be seen and is no mark of its place. -/
lemma escapeChar_forms (context : EscapeContext) (c : Char) :
    (∃ letter, escapeChar context c = ['\\', letter] ∧ Text.isBlank letter = false ∧
        Text.isControl letter = false) ∨
      escapeChar context c = unicodeEscape c ∨
      escapeChar context c = [c] ∧ c ∉ context.marks ∧ (Text.isBlank c = true → c = ' ') ∧
        Text.isControl c = false := by
  rw [escapeChar]
  cases hshort : shortEscape? c with
  | some letter =>
      refine .inl ⟨letter, rfl, ?_⟩
      rw [shortEscape?] at hshort
      split_ifs at hshort <;> cases hshort <;> decide
  | none =>
      dsimp only
      split_ifs with hmark hhidden
      · refine .inl ⟨c, rfl, ?_⟩
        cases context with
        | literal =>
            obtain rfl := List.mem_singleton.mp hmark
            decide
        | charSet =>
            rcases List.mem_pair.mp hmark with rfl | rfl <;> decide
      · exact .inr (.inl rfl)
      · refine .inr (.inr ⟨rfl, hmark, fun hblank => ?_, ?_⟩)
        · by_contra hspace
          exact hhidden ⟨hspace, .inl hblank⟩
        · by_cases hspace : c = ' '
          · rw [hspace]
            decide
          · exact Bool.eq_false_iff.mpr fun hcontrol => hhidden ⟨hspace, .inr hcontrol⟩

/-- An escape has a backslash and a character after it, or characters that can all be seen. -/
lemma escapeChar_cases (context : EscapeContext) (c : Char) :
    (∃ letter, escapeChar context c = ['\\', letter] ∧ Text.isBlank letter = false) ∨
      (∀ d ∈ escapeChar context c, Text.isBlank d = false ∧ d ≠ '-') ∨
      escapeChar context c = [c] ∧ c ∉ context.marks ∧ (Text.isBlank c = true → c = ' ') := by
  rcases escapeChar_forms context c with
    ⟨letter, hescape, hblank, -⟩ | hcode | ⟨hescape, hmark, hblank, -⟩
  · exact .inl ⟨letter, hescape, hblank⟩
  · refine .inr (.inl ?_)
    rw [hcode]
    exact unicodeEscape_visible c
  · exact .inr (.inr ⟨hescape, hmark, hblank⟩)

lemma isOneLine_escapeChar (context : EscapeContext) (c : Char) :
    IsOneLine (escapeChar context c) := by
  rcases escapeChar_cases context c with ⟨letter, hescape, hblank⟩ | hvisible | ⟨hescape, -, hblank⟩
  · rw [hescape, isOneLine_cons, isOneLine_cons, hblank]
    exact ⟨by decide, Bool.noConfusion, isOneLine_nil⟩
  · intro d hd hblank
    rw [(hvisible d hd).1] at hblank
    exact Bool.noConfusion hblank
  · rw [hescape, isOneLine_cons]
    exact ⟨hblank, isOneLine_nil⟩

/-- **Escaped texts stay on one line.** -/
lemma isOneLine_escape (context : EscapeContext) (text : String) :
    IsOneLine (escape context text).toList := by
  intro d hd
  rw [toList_escape] at hd
  rcases List.mem_flatMap.mp hd with ⟨c, -, hmem⟩
  exact isOneLine_escapeChar context c d hmem

/-! ## Texts without arrows -/

/-- Whether a dash only comes after a backslash. -/
def DashEscaped (before c : Char) : Prop :=
  c = '-' → before = '\\'

/-- Whether a space does not come after `>`. -/
def SpaceApart (before c : Char) : Prop :=
  c = ' ' → before ≠ '>'

/-- A relation between neighbours that an arrow breaks leaves no arrow. -/
lemma enclosesArrows_of_isChain {related : Char → Char → Prop} (h : cs.IsChain related)
    (harrow : ¬arrow.IsChain related) : EnclosesArrows cs := by
  intro before after hsplit
  refine absurd ?_ harrow
  exact List.IsChain.infix h ⟨before, after, hsplit.symm⟩

lemma isChain_cons_append {related : Char → Char → Prop} (h : (c :: cs).IsChain related)
    (h' : ∀ d, (d :: ds).IsChain related) : (c :: (cs ++ ds)).IsChain related := by
  rw [← List.cons_append, List.isChain_append]
  exact ⟨h, (List.isChain_cons.mp (h' c)).2, fun last _ => (List.isChain_cons.mp (h' last)).1⟩

lemma isChain_of_forall {related : Char → Char → Prop} (h : ∀ d ∈ cs, ∀ before, related before d)
    (c : Char) : (c :: cs).IsChain related := by
  induction cs generalizing c with
  | nil => exact .singleton c
  | cons d cs ih =>
      rcases List.forall_mem_cons.mp h with ⟨hd, hcs⟩
      exact .cons_cons (hd c) (ih hcs d)

lemma isChain_dashEscaped (c : Char) (cs : List Char) :
    (c :: escapeChars .charSet cs).IsChain DashEscaped := by
  induction cs generalizing c with
  | nil => exact .singleton c
  | cons d cs ih =>
      rw [escapeChars_cons]
      refine isChain_cons_append ?_ ih
      rcases escapeChar_cases .charSet d with ⟨letter, hescape, -⟩ | hvisible | ⟨hescape, hmark, -⟩
      · rw [hescape]
        simp [DashEscaped]
      · exact isChain_of_forall (fun e he before hdash => absurd hdash (hvisible e he).2) c
      · rw [hescape]
        refine isChain_of_forall (fun e he before hdash => absurd ?_ hmark) c
        rw [← List.mem_singleton.mp he, hdash]
        decide

lemma isChain_spaceApart {before : Char} (hbefore : before ≠ '>') (c : Char) :
    (before :: escapeChar .charSet c).IsChain SpaceApart := by
  rcases escapeChar_cases .charSet c with ⟨letter, hescape, -⟩ | hvisible | ⟨hescape, -, -⟩
  · rw [hescape]
    simp [SpaceApart]
  · refine isChain_of_forall (fun d hd _ hspace => ?_) before
    have hblank := (hvisible d hd).1
    rw [hspace] at hblank
    exact absurd hblank (by decide)
  · rw [hescape]
    simp [SpaceApart, hbefore]

end Enclosed

end GrammarConversion.Reading

namespace GrammarConversion.Conversion

open Antlr
open Model
open Reading

section Bodies

variable {context : RegexContext} {text : String} {node : Regex} {ignoreCase : Bool}
  {rule : Option String}

/-! ## Literals -/

lemma isLetter_eq_of_isChain {c : Char} {run : List Char}
    (h : (c :: run).IsChain fun a b => isLetter a == isLetter b) :
    ∀ d ∈ run, isLetter d = isLetter c := by
  induction run generalizing c with
  | nil => simp
  | cons first run ih =>
      rcases List.isChain_cons_cons.mp h with ⟨hfirst, hrest⟩
      rw [beq_iff_eq] at hfirst
      refine List.forall_mem_cons.mpr ⟨hfirst.symm, fun d hd => ?_⟩
      rw [ih hrest d hd, hfirst]

/-- In a run of characters that are matched alike all are letters if one is. -/
lemma isLetter_of_mem_run {run : List Char}
    (hrun : run.IsChain fun a b => isLetter a == isLetter b) (hany : run.any isLetter = true) :
    ∀ c ∈ run, isLetter c = true := by
  rcases List.any_eq_true.mp hany with ⟨letter, hletter, his⟩
  cases run with
  | nil => simp
  | cons c run =>
      have hsame := isLetter_eq_of_isChain hrun
      have hc : isLetter c = true := by
        rcases List.mem_cons.mp hletter with rfl | hmem
        · exact his
        · rw [← hsame letter hmem, his]
      exact List.forall_mem_cons.mpr ⟨hc, fun d hd => (hsame d hd).trans hc⟩

lemma isName_toUpper {c : Char} (h : isLetter c = true) : IsName (String.singleton c.toUpper) := by
  have hcapitals : ("ABCDEFGHIJKLMNOPQRSTUVWXYZ".toList.all Char.isAlphanum) = true := rfl
  refine ⟨by simp, fun d hd => ?_⟩
  have hd' : d = c.toUpper := by simpa using hd
  rw [hd', isNameChar, List.all_eq_true.mp hcapitals _ (toUpper_mem_of_isLetter h)]
  rfl

lemma isEnclosed_quoted (text : String) :
    IsEnclosed (LiteralPart.verbatim text).body.toList := by
  have htext : (LiteralPart.verbatim text).body.toList
      = '\'' :: (escape .literal text).toList ++ ['\''] := by
    simp [LiteralPart.body]
  rw [htext]
  exact isEnclosed_of_closing
    (isOneLine_cons.mpr ⟨by decide, isOneLine_escape .literal text⟩) (.inl rfl)

lemma isEnclosed_ofRun {run : List Char}
    (hrun : run.IsChain fun a b => isLetter a == isLetter b) :
    IsEnclosed (LiteralPart.ofRun run).body.toList := by
  rw [LiteralPart.ofRun]
  split
  · rename_i hany
    refine .intercalate (isEnclosed_of_notMem (by decide) (by decide)) fun text htext => ?_
    rw [String.toList_ofList] at htext
    rcases List.mem_map.mp htext with ⟨c, hc, rfl⟩
    exact isEnclosed_of_isNamePart (isName_toUpper (isLetter_of_mem_run hrun hany c hc)).2
  · exact isEnclosed_quoted _

/-- **The body for a literal is enclosed.** -/
lemma isEnclosed_literalBody (ignoreCase : Bool) (image : String) :
    IsEnclosed (literalBody ignoreCase image).toList := by
  cases ignoreCase with
  | false => exact isEnclosed_quoted image
  | true =>
      refine .intercalate (isEnclosed_of_notMem (by decide) (by decide)) fun text htext => ?_
      rcases List.mem_map.mp htext with ⟨part, hpart, rfl⟩
      rcases List.mem_map.mp hpart with ⟨run, hrun, rfl⟩
      exact isEnclosed_ofRun (List.isChain_of_mem_splitBy hrun)

/-! ## Descriptors -/

lemma otherCase_visible {c : Char} (h : c.isAlphanum = true) :
    Text.isBlank c.toUpper = false ∧ Text.isBlank c.toLower = false := by
  have hall : ∀ n < 128, 32 < n → Text.isBlank (Char.ofNat n).toUpper = false ∧
      Text.isBlank (Char.ofNat n).toLower = false := by decide
  rcases toNat_of_isAlphanum h with ⟨hgt, hlt⟩
  have hc := hall c.toNat hlt hgt
  rwa [Char.ofNat_toNat] at hc

lemma otherCaseRange_visible (left right : Char) :
    ∀ d ∈ (otherCaseRange left right).toList, Text.isBlank d = false := by
  have halnum : ∀ c : Char, c.isLower = true ∨ c.isUpper = true → c.isAlphanum = true := by
    intro c hc
    rcases hc with hc | hc <;> simp [Char.isAlphanum, Char.isAlpha, hc]
  intro d hd
  rw [otherCaseRange] at hd
  split_ifs at hd with hlower hupper
  · rw [Bool.and_eq_true] at hlower
    have hd' : d = left.toUpper ∨ d = '-' ∨ d = right.toUpper := by simpa using hd
    rcases hd' with rfl | rfl | rfl
    · exact (otherCase_visible (halnum left (.inl hlower.1))).1
    · decide
    · exact (otherCase_visible (halnum right (.inl hlower.2))).1
  · rw [Bool.and_eq_true] at hupper
    have hd' : d = left.toLower ∨ d = '-' ∨ d = right.toLower := by simpa using hd
    rcases hd' with rfl | rfl | rfl
    · exact (otherCase_visible (halnum left (.inr hupper.1))).2
    · decide
    · exact (otherCase_visible (halnum right (.inr hupper.2))).2
  · exact absurd hd (by simp)

lemma isLegibleBody_characterText (ignoreCase : Bool) (char : String) :
    IsLegibleBody (characterText ignoreCase char) := by
  rw [characterText]
  refine ⟨isOneLine_escape .charSet _, ?_⟩
  rw [toList_escape]
  exact enclosesArrows_of_isChain (isChain_dashEscaped ' ' _) (by simp [arrow, DashEscaped])

/-- What the ends of a range are written as, the one in the other case included. -/
lemma isLegibleBody_range (first last : Char) {other : String}
    (hother : ∀ d ∈ other.toList, Text.isBlank d = false) :
    IsLegibleBody (String.ofList (escapeChar .charSet first ++ '-' :: escapeChar .charSet last)
      ++ other) := by
  have hnospace : ∀ d ∈ other.toList, d ≠ ' ' := by
    rintro d hd rfl
    exact absurd (hother ' ' hd) (by decide)
  have hlast : ∀ c, (c :: other.toList).IsChain SpaceApart :=
    isChain_of_forall fun d hd _ hspace => absurd hspace (hnospace d hd)
  have hdash : ∀ c, (c :: '-' :: (escapeChar .charSet last ++ other.toList)).IsChain SpaceApart :=
    fun c => .cons_cons (fun hspace => absurd hspace (by decide))
      (isChain_cons_append (isChain_spaceApart (by decide) last) hlast)
  have hfirst : (' ' :: escapeChar .charSet first).IsChain SpaceApart :=
    isChain_spaceApart (by decide) first
  refine ⟨?_, ?_⟩
  · rw [String.toList_append, String.toList_ofList, isOneLine_append, isOneLine_append,
      isOneLine_cons]
    refine ⟨⟨isOneLine_escapeChar _ _, by decide, isOneLine_escapeChar _ _⟩, fun d hd hblank => ?_⟩
    rw [hother d hd] at hblank
    exact Bool.noConfusion hblank
  · rw [String.toList_append, String.toList_ofList, List.append_assoc, List.cons_append]
    exact enclosesArrows_of_isChain (isChain_cons_append hfirst hdash) (by simp [arrow, SpaceApart])

lemma isLegibleBody_rangeText {left right : String}
    (h : rangeText context left right = .ok text) : IsLegibleBody text := by
  rw [rangeText] at h
  split at h
  · rename_i first last _ _
    rcases bind_eq_ok h with ⟨ignoreCase, -, htext⟩
    obtain rfl := Except.ok.inj htext
    refine isLegibleBody_range first last ?_
    split
    · exact otherCaseRange_visible first last
    · simp
  · cases h

/-- **What a descriptor is written as** stays on one line and shows no arrow. -/
lemma isLegibleBody_descriptor (hdescriptor : node.isDescriptor = true)
    (hbody : lexerBody context node = .ok text) : IsLegibleBody text := by
  cases node with
  | character char =>
      rw [lexerBody] at hbody
      rcases bind_eq_ok hbody with ⟨ignoreCase, -, htext⟩
      obtain rfl := Except.ok.inj htext
      exact isLegibleBody_characterText ignoreCase char
  | range left right =>
      rw [lexerBody] at hbody
      exact isLegibleBody_rangeText hbody
  | _ => cases hdescriptor

/-! ## Trees -/

/-- The texts of several nodes are texts of theirs. -/
lemma exists_node_of_mem_texts {nodes : List Regex} {texts : List String}
    (h : lexerBodies context nodes = .ok texts) :
    ∀ text ∈ texts, ∃ node ∈ nodes, lexerBody context node = .ok text := by
  induction nodes generalizing texts with
  | nil =>
      rw [lexerBodies] at h
      obtain rfl := Except.ok.inj h
      simp
  | cons node nodes ih =>
      rw [lexerBodies] at h
      rcases bind_eq_ok h with ⟨first, hfirst, h⟩
      rcases bind_eq_ok h with ⟨others, hothers, h⟩
      obtain rfl := Except.ok.inj h
      refine List.forall_mem_cons.mpr ⟨⟨node, by simp, hfirst⟩, fun text htext => ?_⟩
      rcases ih hothers text htext with ⟨other, hother, hbody⟩
      exact ⟨other, by simp [hother], hbody⟩

lemma isEnclosed_block {mark : String} (h : IsEnclosed text.toList)
    (hmark : IsEnclosed mark.toList) : IsEnclosed ("(" ++ text ++ mark).toList := by
  rw [String.toList_append, String.toList_append]
  exact ((isEnclosed_of_notMem (by decide) (by decide)).append h).append hmark

lemma isEnclosed_setText {texts : List String} (negated : Bool)
    (h : ∀ text ∈ texts, IsOneLine text.toList) : IsEnclosed (setText negated texts).toList := by
  have hjoined : IsOneLine (String.join texts).toList := by
    intro c hc
    rw [String.toList_join] at hc
    rcases List.mem_flatMap.mp hc with ⟨text, htext, hmem⟩
    exact h text htext c hmem
  have hopening : IsOneLine (if negated then "~[" else "[").toList := by
    cases negated <;> decide
  rw [setText, String.toList_append, String.toList_append]
  exact isEnclosed_of_closing (isOneLine_append.mpr ⟨hopening, hjoined⟩) (.inr rfl)

/-- **The text of a composite node is enclosed** if those of its parts are; those of descriptors
only have to stay on one line. -/
lemma isEnclosed_compositeText {texts : List String} (hcomposite : node.isComposite = true)
    (hadmits : ∀ part ∈ node.parts, node.admits part = true)
    (hline : ∀ text ∈ texts, IsOneLine text.toList)
    (h : (∀ part ∈ node.parts, part.isRegularExpression = true) →
      ∀ text ∈ texts, IsEnclosed text.toList) :
    IsEnclosed (compositeText node texts).toList := by
  have hfirst : (∀ text ∈ texts, IsEnclosed text.toList) → IsEnclosed (texts.headD "").toList := by
    intro hall
    cases texts with
    | nil => exact isEnclosed_nil
    | cons text others => exact hall text (by simp)
  cases node with
  | charList descriptors negated =>
      rw [compositeText]
      split
      · have hany : IsEnclosed ".".toList := isEnclosed_of_notMem (by decide) (by decide)
        exact hany
      · exact isEnclosed_setText _ hline
  | sequence units =>
      exact .intercalate (isEnclosed_of_notMem (by decide) (by decide)) (h hadmits)
  | choice alternatives =>
      have hbar : IsEnclosed " | ".toList := isEnclosed_of_notMem (by decide) (by decide)
      exact isEnclosed_block (hbar.intercalate (h hadmits))
        (isEnclosed_of_notMem (by decide) (by decide))
  | zeroOrMore operand =>
      exact isEnclosed_block (hfirst (h hadmits)) (isEnclosed_of_notMem (by decide) (by decide))
  | oneOrMore operand =>
      exact isEnclosed_block (hfirst (h hadmits)) (isEnclosed_of_notMem (by decide) (by decide))
  | zeroOrOne operand =>
      exact isEnclosed_block (hfirst (h hadmits)) (isEnclosed_of_notMem (by decide) (by decide))
  | _ => cases hcomposite

lemma isEnclosed_leaf (hleaf : node.isComposite = false) (hnode : node.isRegularExpression = true)
    (hnames : ∀ label, node.Mentions label → IsName label)
    (hbody : lexerBody context node = .ok text) : IsEnclosed text.toList := by
  cases node with
  | literal image =>
      rw [lexerBody] at hbody
      split at hbody
      · cases hbody
      · rcases bind_eq_ok hbody with ⟨ignoreCase, -, htext⟩
        obtain rfl := Except.ok.inj htext
        exact isEnclosed_literalBody ignoreCase image
  | reference label =>
      rw [lexerBody] at hbody
      obtain rfl := Except.ok.inj hbody
      exact isEnclosed_of_isNamePart (isName_ruleName (hnames label .reference)).2
  | repetition operand min max =>
      rw [lexerBody] at hbody
      cases hbody
  | endOfFile =>
      rw [lexerBody] at hbody
      cases hbody
  | unknown =>
      rw [lexerBody] at hbody
      cases hbody
  | _ => first | exact Bool.noConfusion hnode | exact Bool.noConfusion hleaf

/-- **The body for a regular expression is enclosed.** -/
lemma isEnclosed_lexerBody (h : node.IsConvertible) (hnode : node.isRegularExpression = true)
    (hnames : ∀ label, node.Mentions label → IsName label)
    (hbody : lexerBody context node = .ok text) : IsEnclosed text.toList := by
  induction h generalizing text with
  | @node node hcounterpart hadmits _ ih =>
      cases hcomposite : node.isComposite with
      | false => exact isEnclosed_leaf hcomposite hnode hnames hbody
      | true =>
          rw [lexerBody_of_isComposite context hcomposite, checkParts_ok hadmits] at hbody
          rcases bind_eq_ok hbody with ⟨-, -, hbody⟩
          rcases bind_eq_ok hbody with ⟨texts, htexts, hwritten⟩
          obtain rfl := Except.ok.inj hwritten
          have hpart : ∀ part ∈ node.parts, ∀ text, lexerBody context part = .ok text →
              part.isRegularExpression = true → IsEnclosed text.toList :=
            fun part hpart text htext hregular =>
              ih part hpart hregular (fun label h => hnames label (.inside hpart h)) htext
          refine isEnclosed_compositeText hcomposite hadmits (fun text htext => ?_)
            fun hregular text htext => ?_
          · rcases exists_node_of_mem_texts htexts text htext with ⟨part, hmem, hbody⟩
            rcases Regex.isDescriptor_or_isRegularExpression
              (Regex.isNode_of_admits (hadmits part hmem)) with hdescriptor | hregular
            · exact (isLegibleBody_descriptor hdescriptor hbody).oneLine
            · exact (hpart part hmem text hbody hregular).oneLine
          · rcases exists_node_of_mem_texts htexts text htext with ⟨part, hmem, hbody⟩
            exact hpart part hmem text hbody (hregular part hmem)

/-- **The body for the tree of a token can be told from what surrounds it,** where all references
are names. -/
lemma isLegibleBody_lexerBody (hnames : ∀ label, node.Mentions label → IsName label)
    (hbody : lexerBody (tokenContext ignoreCase rule) node = .ok text) : IsLegibleBody text := by
  have hnode : node.isNode = true := by
    cases node with
    | foreign value =>
        rw [lexerBody] at hbody
        cases hbody
    | _ => rfl
  rcases Regex.isDescriptor_or_isRegularExpression hnode with hdescriptor | hregular
  · exact isLegibleBody_descriptor hdescriptor hbody
  · have hfate := lexerBody_fate ignoreCase rule node hnode
    rw [hbody] at hfate
    cases hfate with
    | converted h => exact (isEnclosed_lexerBody h hregular hnames hbody).isLegibleBody

end Bodies

end GrammarConversion.Conversion
