import Mathlib
import GrammarConversion.Proofs.LexerRule.BodyText
import GrammarConversion.Proofs.LexerRule.SetCase

/-!
# Literals that match in either case

Where case does not matter, a literal is cut into runs of letters and of other characters.  The
letters are written as references to the letter rules, and a run of other characters as a literal
of its own, with spaces between them all.

* `caseVariants`: the texts that differ from a given one in the case of letters only.
* `MatchesLetters`: the rules `A` to `Z` match their letter in either case.  This is what the bodies
  of the letter rules say (`letterRule_denotes`).

**`literalBody_ignoringCase`: the body for a literal denotes its case variants,** and two literals
have the same body exactly if they are variants of each other.  One direction of this needs no look
at the text of a body, since bodies that are equal denote the same; for the other one capital
letters may be put everywhere (`literalBody_capitals`).
-/

namespace GrammarConversion.Reading

open Antlr
open Computability
open Conversion

/-- **The texts that differ in the case of letters only** from a given one. -/
def caseVariants (cs : List Char) : Language Char :=
  {word | List.Forall₂ IsCaseOf cs word}

/-- **Whether the rules for letters match them in either case.** -/
def MatchesLetters (rules : String → Language Char) : Prop :=
  ∀ letter ∈ "ABCDEFGHIJKLMNOPQRSTUVWXYZ".toList,
    rules (String.singleton letter) = oneOf fun c => c = letter.toLower ∨ c = letter

section Letters

variable {c : Char} {cs : List Char} {rules : String → Language Char}

/-! ## Case variants -/

lemma caseVariants_nil : caseVariants [] = 1 := by
  ext word
  show List.Forall₂ IsCaseOf [] word ↔ word = []
  exact List.forall₂_nil_left_iff

lemma caseVariants_cons (c : Char) (cs : List Char) :
    caseVariants (c :: cs) = oneOf (IsCaseOf c) * caseVariants cs := by
  ext word
  rw [Language.mem_mul]
  show List.Forall₂ IsCaseOf (c :: cs) word ↔ _
  rw [List.forall₂_cons_left_iff]
  constructor
  · rintro ⟨d, ds, hd, hds, rfl⟩
    exact ⟨[d], ⟨d, rfl, hd⟩, ds, hds, rfl⟩
  · rintro ⟨_, ⟨d, rfl, hd⟩, ds, hds, rfl⟩
    exact ⟨d, ds, hd, hds, rfl⟩

lemma caseVariants_eq_prod (cs : List Char) :
    caseVariants cs = (cs.map fun c => oneOf (IsCaseOf c)).prod := by
  induction cs with
  | nil => exact caseVariants_nil
  | cons c cs ih => rw [caseVariants_cons, ih, List.map_cons, List.prod_cons]

/-- **The variants of a text in several runs** are those of the runs, one after another. -/
lemma caseVariants_flatten (runs : List (List Char)) :
    caseVariants runs.flatten = (runs.map caseVariants).prod := by
  rw [caseVariants_eq_prod, List.map_flatten, List.prod_flatten, List.map_map]
  exact congrArg List.prod (List.map_congr_left fun run _ => (caseVariants_eq_prod run).symm)

/-- A text without letters is its only variant. -/
lemma caseVariants_of_not_isLetter (h : ∀ c ∈ cs, isLetter c = false) :
    caseVariants cs = {cs} := by
  induction cs with
  | nil => exact caseVariants_nil
  | cons c cs ih =>
      rcases List.forall_mem_cons.mp h with ⟨hc, hcs⟩
      ext word
      rw [caseVariants_cons, ih hcs, Language.mem_mul, mem_singleton_word]
      constructor
      · rintro ⟨_, ⟨d, rfl, hd⟩, _, rfl, rfl⟩
        rw [(isCaseOf_iff_of_not_isLetter hc).mp hd]
        rfl
      · rintro rfl
        exact ⟨[c], ⟨c, rfl, isCaseOf_refl c⟩, cs, rfl, rfl⟩

/-! ## Runs of a literal -/

/-- The tree that a run of a literal is read as. -/
def runReading (run : List Char) : Sequence LexerAtom :=
  if run.any isLetter then
    joined (run.map fun c => .single (.atom (.name (String.singleton c.toUpper)) none))
  else .single (.atom (.literal run) none)

lemma MatchesLetters.oneOf_isCaseOf (h : MatchesLetters rules) (hc : isLetter c = true) :
    rules (String.singleton c.toUpper) = oneOf (IsCaseOf c) := by
  rw [h c.toUpper (toUpper_mem_of_isLetter hc)]
  refine congrArg oneOf (funext fun d => propext ?_)
  rw [isCaseOf_iff_of_isLetter hc, Char.toLower_toUpper_eq_toLower]

lemma isLetter_of_mem_plainRun {run : List Char} (h : ¬run.any isLetter = true) :
    ∀ c ∈ run, isLetter c = false := by
  intro c hc
  exact Bool.eq_false_iff.mpr fun hletter => h (List.any_eq_true.mpr ⟨c, hc, hletter⟩)

/-- **A run is read as its variants.** -/
lemma MatchesLetters.language_runReading (h : MatchesLetters rules) {run : List Char}
    (hrun : run.IsChain fun a b => isLetter a == isLetter b) :
    (runReading run).language (LexerAtom.language rules) = caseVariants run := by
  rw [runReading]
  split
  · rename_i hany
    rw [language_joined, List.map_map, caseVariants_eq_prod]
    refine congrArg List.prod (List.map_congr_left fun c hc => ?_)
    rw [Function.comp, Sequence.language_single, Part.language, repeated, LexerAtom.language,
      h.oneOf_isCaseOf (isLetter_of_mem_run hrun hany c hc)]
  · rename_i hplain
    rw [Sequence.language_single, Part.language, repeated, LexerAtom.language,
      caseVariants_of_not_isLetter (isLetter_of_mem_plainRun hplain)]

/-- **A run is written as it is read.** -/
lemma shows_ofRun {run : List Char} (hrun : run.IsChain fun a b => isLetter a == isLetter b) :
    Shows readAtom (LiteralPart.ofRun run).body.toList (runReading run).tokens := by
  rw [LiteralPart.ofRun, runReading]
  split
  · rename_i hany
    rw [LiteralPart.body, String.toList_ofList]
    refine shows_intercalate_space ?_
    rw [List.forall₂_map_left_iff, List.forall₂_map_right_iff, List.forall₂_same]
    intro c hc
    have hname := isName_toUpper (isLetter_of_mem_run hrun hany c hc)
    have hshows : Shows readAtom (String.singleton c.toUpper).toList
        [.atom (.name (String.singleton c.toUpper))] :=
      shows_name hname fun rest hrest => readAtom_name hname hrest
    simpa [Part.tokens, suffixTokens] using hshows
  · have hshows : Shows readAtom (LiteralPart.verbatim (String.ofList run)).body.toList
        [.atom (.literal (String.ofList run).toList)] := shows_literal (String.ofList run)
    rw [String.toList_ofList] at hshows
    simpa [Part.tokens, suffixTokens] using hshows

/-! ## The body for a literal -/

/-- The runs of a literal. -/
def caseRuns (cs : List Char) : List (List Char) :=
  cs.splitBy fun c d => isLetter c == isLetter d

lemma literalBody_eq (s : String) :
    literalBody true s
      = " ".intercalate ((caseRuns s.toList).map fun run => (LiteralPart.ofRun run).body) := by
  rw [literalBody, if_pos rfl, caseParts, List.map_map]
  rfl

/-- **The body for a literal is read as its runs,** one after another. -/
lemma shows_literalBody (s : String) :
    Shows readAtom (literalBody true s).toList
      (joined ((caseRuns s.toList).map runReading)).tokens := by
  rw [literalBody_eq]
  refine shows_intercalate_space ?_
  rw [List.forall₂_map_left_iff, List.forall₂_map_right_iff, List.forall₂_same]
  exact fun run hrun => shows_ofRun (List.isChain_of_mem_splitBy hrun)

/-- **The body for a literal denotes its case variants.** -/
lemma MatchesLetters.denotes (h : MatchesLetters rules) (s : String) :
    Denotes readAtom (LexerAtom.language rules) (literalBody true s) (caseVariants s.toList) := by
  have hlanguage : (Body.last (joined ((caseRuns s.toList).map runReading))).language
      (LexerAtom.language rules) = caseVariants s.toList := by
    rw [Body.language, language_joined, List.map_map]
    calc ((caseRuns s.toList).map _).prod
        = ((caseRuns s.toList).map caseVariants).prod :=
          congrArg List.prod (List.map_congr_left fun run hrun =>
            h.language_runReading (List.isChain_of_mem_splitBy hrun))
      _ = caseVariants s.toList := by
          rw [← caseVariants_flatten, caseRuns, List.flatten_splitBy]
  have hbody : Shows readAtom (literalBody true s).toList
      (Body.last (joined ((caseRuns s.toList).map runReading))).tokens := shows_literalBody s
  rw [← hlanguage]
  exact hbody.denotes

/-! ## Equal bodies -/

/-- What runs are cut by, they are cut by in capitals. -/
lemma caseRuns_map_toUpper (cs : List Char) :
    caseRuns (cs.map Char.toUpper) = (caseRuns cs).map fun run => run.map Char.toUpper := by
  have hcut : ∀ c d : Char,
      (isLetter c.toUpper == isLetter d.toUpper) = (isLetter c == isLetter d) := by
    intro c d
    rw [isLetter_toUpper, isLetter_toUpper]
  rw [caseRuns, List.splitBy_eq_iff]
  refine ⟨?_, ?_, fun run hrun => ?_, ?_⟩
  · rw [← List.map_flatten, caseRuns, List.flatten_splitBy]
  · intro hnil
    rcases List.mem_map.mp hnil with ⟨run, hrun, hempty⟩
    rw [List.map_eq_nil_iff.mp hempty] at hrun
    exact List.nil_notMem_splitBy _ cs hrun
  · rcases List.mem_map.mp hrun with ⟨run', hrun', rfl⟩
    rw [List.isChain_map]
    simpa only [hcut] using List.isChain_of_mem_splitBy hrun'
  · rw [List.isChain_map]
    refine (List.isChain_getLast_head_splitBy _ cs).imp ?_
    rintro run run' ⟨hne, hne', hapart⟩
    refine ⟨by simpa using hne, by simpa using hne', ?_⟩
    rw [List.getLast_map, List.head_map, hcut]
    exact hapart

/-- A run in capitals has the same body: letters are written as capitals anyway. -/
lemma body_ofRun_map_toUpper (run : List Char) :
    (LiteralPart.ofRun (run.map Char.toUpper)).body = (LiteralPart.ofRun run).body := by
  have hletter : isLetter ∘ Char.toUpper = isLetter := funext isLetter_toUpper
  rw [LiteralPart.ofRun, LiteralPart.ofRun, List.any_map, hletter]
  split
  · rw [LiteralPart.body, LiteralPart.body, String.toList_ofList, String.toList_ofList,
      List.map_map]
    simp only [Function.comp_def, Char.toUpper_toUpper_eq_toUpper]
  · rename_i hplain
    rw [List.map_congr_left fun c hc =>
      toUpper_of_not_isLetter (isLetter_of_mem_plainRun hplain c hc), List.map_id']

/-- **A literal in capitals has the same body.** -/
lemma literalBody_capitals (s : String) : literalBody true (capitals s) = literalBody true s := by
  rw [literalBody_eq, literalBody_eq, capitals, String.toList_ofList, caseRuns_map_toUpper,
    List.map_map]
  refine congrArg (" ".intercalate ·) (List.map_congr_left fun run _ => ?_)
  exact body_ofRun_map_toUpper run

/-- **Without letters it makes no difference** for a literal whether case matters. -/
lemma literalBody_of_not_isLetter {s : String} (hne : s ≠ "")
    (h : ∀ c ∈ s.toList, isLetter c = false) (ignoreCase : Bool) :
    literalBody ignoreCase s = literalBody false s := by
  cases ignoreCase with
  | false => rfl
  | true =>
      have hchain : s.toList.IsChain fun c d => isLetter c == isLetter d := by
        refine (List.pairwise_of_forall_mem_list fun c hc d hd => ?_).isChain
        rw [h c hc, h d hd]
        rfl
      have hnil : [] ∉ [s.toList] := by
        intro hmem
        exact hne (String.toList_inj.mp (List.mem_singleton.mp hmem).symm)
      have hruns : caseRuns s.toList = [s.toList] := by
        rw [caseRuns, List.splitBy_eq_iff]
        exact ⟨by simp, hnil, by simpa using hchain, by simp⟩
      have hplain : ¬s.toList.any isLetter = true := by
        simpa using h
      rw [literalBody_eq, hruns, List.map_singleton, String.intercalate_singleton,
        LiteralPart.ofRun, if_neg hplain, String.ofList_toList]
      rfl

end Letters

/-! ## The letter rules -/

lemma isUpper_of_mem {letter : Char} (h : letter ∈ "ABCDEFGHIJKLMNOPQRSTUVWXYZ".toList) :
    letter.isUpper = true := by
  have hall : "ABCDEFGHIJKLMNOPQRSTUVWXYZ".toList.all Char.isUpper = true := rfl
  exact List.all_eq_true.mp hall letter h

/-- **The body of a letter rule says that it matches the letter in either case.** -/
theorem letterRule_denotes (rules : String → Language Char) {letter : Char}
    (hletter : letter ∈ "ABCDEFGHIJKLMNOPQRSTUVWXYZ".toList) :
    Denotes readAtom (LexerAtom.language rules) (letterRule letter).body.written
      (oneOf fun c => c = letter.toLower ∨ c = letter) := by
  have hcapital : isLetter letter = true := isLetter_iff.mpr (.inl (isUpper_of_mem hletter))
  have hsmall : isLetter letter.toLower = true := by rw [isLetter_toLower, hcapital]
  have hshows : ShowsRanges (String.join [String.ofList [letter.toLower, letter]]).toList
      ([(letter.toLower, letter.toLower)] ++ [(letter, letter)]) := by
    rw [String.toList_join]
    simpa using (showsRanges_letter hsmall).append (showsRanges_letter hcapital)
  have hbody : (letterRule letter).body.written
      = setText false [String.ofList [letter.toLower, letter]] := by
    simp [letterRule, setText, String.join_cons]
  have hlies : (fun c => c = letter.toLower ∨ c = letter)
      = LiesIn ([(letter.toLower, letter.toLower)] ++ [(letter, letter)]) := by
    funext c
    rw [liesIn_append, liesIn_character, liesIn_character]
  rw [hbody, hlies]
  exact (shows_setText false hshows.readRanges_eq).denotes_atom (LexerAtom.language rules)

/-- The texts of one character whose capital is the name of a rule. -/
def letterLanguages (name : String) : Language Char :=
  oneOf fun c => String.singleton c.toUpper = name

lemma matchesLetters_letterLanguages : MatchesLetters letterLanguages := by
  intro letter hletter
  have hupper := isUpper_of_mem hletter
  refine congrArg oneOf (funext fun c => propext ?_)
  have hcase := isCaseOf_iff_of_isLetter (d := c) (isLetter_iff.mpr (.inl hupper))
  rw [isCaseOf_iff_toUpper_eq, toUpper_of_isUpper hupper] at hcase
  rw [← hcase, eq_comm]
  exact String.singleton_inj

/-! ## Literals -/

/-- **A literal that matches in either case** has a body that denotes exactly its case variants,
where the letter rules match their letters in either case.  Two literals have the same body exactly
if they differ in the case of letters only. -/
theorem literalBody_ignoringCase :
    (∀ rules, MatchesLetters rules → ∀ s : String,
        Denotes readAtom (LexerAtom.language rules) (literalBody true s)
          (caseVariants s.toList)) ∧
      ∀ s t : String, literalBody true s = literalBody true t ↔
        List.Forall₂ IsCaseOf s.toList t.toList := by
  refine ⟨fun rules h s => h.denotes s, fun s t => ⟨fun hsame => ?_, fun hvariant => ?_⟩⟩
  · have hs := matchesLetters_letterLanguages.denotes s
    have ht := matchesLetters_letterLanguages.denotes t
    rw [hsame] at hs
    have hmem : t.toList ∈ caseVariants t.toList := List.forall₂_same.mpr fun c _ => isCaseOf_refl c
    rwa [ht.unique hs] at hmem
  · have hcapitals : capitals s = capitals t := by
      rw [capitals, capitals, forall₂_isCaseOf_iff.mp hvariant]
    rw [← literalBody_capitals s, hcapitals, literalBody_capitals t]

/-- Digits are quoted and letters are not, and which case the letters had is lost. -/
theorem literalBody_ignoringCase_length :
    Denotes readAtom (LexerAtom.language letterLanguages) "'1.5' E M"
        (caseVariants "1.5em".toList) ∧
      literalBody true "1.5em" = literalBody true "1.5Em" := by
  have hbody : literalBody true "1.5em" = "'1.5' E M" := by cbv
  have hvariant : List.Forall₂ IsCaseOf "1.5em".toList "1.5Em".toList :=
    forall₂_isCaseOf_iff.mpr rfl
  refine ⟨?_, (literalBody_ignoringCase.2 _ _).mpr hvariant⟩
  rw [← hbody]
  exact literalBody_ignoringCase.1 letterLanguages matchesLetters_letterLanguages "1.5em"

end GrammarConversion.Reading
