import GrammarConversion.Proofs.LexerRule.LiteralCase

/-!
# The parts of a literal

Where case does not matter, a literal is cut into parts: letters that match in either case, and
other characters that match as they stand.  The parts alternate, so none of them could go on further
(`IsMaximalCut`).

The cut can be made in one pass over the literal (`LiteralCut`).  All that has to be kept are the
parts that are finished and the run that goes on.  With its open run as the last part, a cut is
maximal after each character (`LiteralCut.Follows.take`): the run is not empty, so the next
character either continues it or begins a part of the other class.

**`isMaximalCut_iff`: a literal has one maximal cut.**
-/

namespace GrammarConversion.Antlr

open Reading

namespace LiteralPart

def areLetters : LiteralPart → Bool
  | .verbatim _ => false
  | .letters _ => true

/-- The part for a run of letters, or of other characters. -/
def ofClass : (areLetters : Bool) → (run : String) → LiteralPart
  | false, run => .verbatim run
  | true, run => .letters run

@[simp]
lemma text_ofClass (areLetters : Bool) (run : String) : (ofClass areLetters run).text = run := by
  cases areLetters <;> rfl

@[simp]
lemma areLetters_ofClass (areLetters : Bool) (run : String) :
    (ofClass areLetters run).areLetters = areLetters := by
  cases areLetters <;> rfl

end LiteralPart

/-- **Whether a literal is cut into maximal runs:** its letters of the basic Latin alphabet, and its
other characters. -/
structure IsMaximalCut (s : String) (parts : List LiteralPart) : Prop where
  join_eq : String.join (parts.map LiteralPart.text) = s
  text_ne : ∀ part ∈ parts, part.text ≠ ""
  isAlpha_eq : ∀ part ∈ parts, ∀ c ∈ part.text.toList, c.isAlpha = part.areLetters
  alternates : parts.IsChain fun part next => part.areLetters ≠ next.areLetters

namespace IsMaximalCut

variable {s run : String} {parts : List LiteralPart} {areLetters : Bool} {c : Char}

/-! ## Longer literals -/

lemma nil : IsMaximalCut "" [] :=
  ⟨rfl, by simp, by simp, List.isChain_nil⟩

/-- **A character of the other class** begins a part. -/
lemma concat (h : IsMaximalCut s parts)
    (hother : ∀ part ∈ parts.getLast?, part.areLetters ≠ c.isAlpha) :
    IsMaximalCut (s.push c) (parts ++ [.ofClass c.isAlpha (String.singleton c)]) where
  join_eq := by
    rw [List.map_append, String.join_append, h.join_eq]
    simp
  text_ne := by
    rw [List.forall_mem_append, List.forall_mem_singleton]
    exact ⟨h.text_ne, by simp⟩
  isAlpha_eq := by
    rw [List.forall_mem_append, List.forall_mem_singleton]
    exact ⟨h.isAlpha_eq, by simp⟩
  alternates := by
    refine List.isChain_append.mpr ⟨h.alternates, List.isChain_singleton _, ?_⟩
    simpa using hother

/-- **A character of the class of the last part** continues it. -/
lemma lengthen (h : IsMaximalCut s (parts ++ [.ofClass areLetters run]))
    (hsame : c.isAlpha = areLetters) :
    IsMaximalCut (s.push c) (parts ++ [.ofClass areLetters (run.push c)]) where
  join_eq := by
    rw [← h.join_eq, List.map_append, List.map_append, String.join_append, String.join_append]
    simp [← String.append_singleton, String.append_assoc]
  text_ne := by
    have htext := h.text_ne
    rw [List.forall_mem_append] at htext ⊢
    exact ⟨htext.1, by simp⟩
  isAlpha_eq := by
    have halpha := h.isAlpha_eq
    rw [List.forall_mem_append, List.forall_mem_singleton] at halpha ⊢
    refine ⟨halpha.1, ?_⟩
    simp only [LiteralPart.text_ofClass, LiteralPart.areLetters_ofClass, String.toList_push]
      at halpha ⊢
    rw [List.forall_mem_append, List.forall_mem_singleton]
    exact ⟨halpha.2, hsame⟩
  alternates := by
    have hchain := List.isChain_append.mp h.alternates
    refine List.isChain_append.mpr ⟨hchain.1, List.isChain_singleton _, ?_⟩
    simpa using hchain.2.2

/-! ## Uniqueness -/

/-- The runs of a maximal cut are those of the literal. -/
lemma caseRuns_eq (h : IsMaximalCut s parts) :
    caseRuns s.toList = parts.map fun part => part.text.toList := by
  have hjoin : s.toList = (parts.map fun part => part.text.toList).flatten := by
    rw [← h.join_eq, String.toList_join, List.flatMap_map, List.flatMap_def]
  rw [caseRuns, hjoin]
  simp only [isLetter_eq_isAlpha]
  refine List.splitBy_flatten ?_ ?_ ?_
  · intro hnil
    rcases List.mem_map.mp hnil with ⟨part, hpart, hempty⟩
    exact h.text_ne part hpart (String.toList_eq_nil_iff.mp hempty)
  · intro run hrun
    rcases List.mem_map.mp hrun with ⟨part, hpart, rfl⟩
    refine (List.pairwise_of_forall_mem_list fun c hc d hd => ?_).isChain
    rw [h.isAlpha_eq part hpart c hc, h.isAlpha_eq part hpart d hd]
    exact beq_self_eq_true _
  · refine (List.isChain_map _).mpr (h.alternates.imp_of_mem_imp ?_)
    intro part next hpart hnext hne
    have hne_nil : ∀ other ∈ parts, other.text.toList ≠ [] := fun other hother =>
      mt String.toList_eq_nil_iff.mp (h.text_ne other hother)
    refine ⟨hne_nil part hpart, hne_nil next hnext, ?_⟩
    rw [h.isAlpha_eq part hpart _ (List.getLast_mem _),
      h.isAlpha_eq next hnext _ (List.head_mem _)]
    exact beq_eq_false_iff_ne.mpr hne

lemma ofRun_toList (h : IsMaximalCut s parts) {part : LiteralPart} (hpart : part ∈ parts) :
    LiteralPart.ofRun part.text.toList = part := by
  have hany : part.text.toList.any isLetter = part.areLetters := by
    rcases List.exists_mem_of_ne_nil _ (mt String.toList_eq_nil_iff.mp (h.text_ne part hpart)) with
      ⟨c, hc⟩
    cases hletters : part.areLetters with
    | false =>
        refine List.any_eq_false.mpr fun d hd => ?_
        rw [isLetter_eq_isAlpha, h.isAlpha_eq part hpart d hd, hletters]
        exact Bool.false_ne_true
    | true =>
        refine List.any_eq_true.mpr ⟨c, hc, ?_⟩
        rw [isLetter_eq_isAlpha, h.isAlpha_eq part hpart c hc, hletters]
  rw [LiteralPart.ofRun, hany, String.ofList_toList]
  cases part <;> rfl

/-- **No literal has two maximal cuts.** -/
lemma eq_caseParts (h : IsMaximalCut s parts) : parts = caseParts s := by
  have hruns : s.toList.splitBy (fun c d => isLetter c == isLetter d)
      = parts.map fun part => part.text.toList := h.caseRuns_eq
  rw [caseParts, hruns, List.map_map]
  exact ((List.map_congr_left fun part => h.ofRun_toList).trans (List.map_id parts)).symm

end IsMaximalCut

/-! ## One pass -/

/-- **A literal while it is cut:** the parts that are finished, and the run that goes on. -/
structure LiteralCut where
  parts : List LiteralPart := []
  run : String := ""
  areLetters : Bool := false

namespace LiteralCut

/-- The parts of the literal so far. -/
def finished (cut : LiteralCut) : List LiteralPart :=
  if cut.run = "" then cut.parts else cut.parts ++ [.ofClass cut.areLetters cut.run]

/-- The cut after one more character. -/
def take (cut : LiteralCut) (c : Char) : LiteralCut :=
  if cut.run ≠ "" ∧ isLetter c ≠ cut.areLetters then
    { parts := cut.finished, run := String.singleton c, areLetters := isLetter c }
  else { cut with run := cut.run.push c, areLetters := isLetter c }

def ofLiteral (s : String) : LiteralCut :=
  s.toList.foldl take {}

/-- **Whether a cut is the one of a text,** the characters that it has taken. -/
inductive Follows : LiteralCut → String → Prop
  | start : Follows {} ""
  | going {cut : LiteralCut} {s : String} (hrun : cut.run ≠ "")
      (hcut : IsMaximalCut s (cut.parts ++ [.ofClass cut.areLetters cut.run])) : Follows cut s

variable {cut : LiteralCut} {s : String}

lemma Follows.finished (h : Follows cut s) : IsMaximalCut s cut.finished := by
  cases h with
  | start => exact .nil
  | going hrun hcut => rwa [LiteralCut.finished, if_neg hrun]

/-- **One more character** continues the run or ends it. -/
lemma Follows.take (h : Follows cut s) (c : Char) : Follows (cut.take c) (s.push c) := by
  cases h with
  | start =>
      have hfirst : IsMaximalCut _ _ := IsMaximalCut.nil.concat (c := c) (by simp)
      rw [← isLetter_eq_isAlpha] at hfirst
      exact .going (by simp [LiteralCut.take]) hfirst
  | going hrun hcut =>
      rw [LiteralCut.take]
      split
      · rename_i hends
        have hnew := hcut.concat (c := c) (by simpa [isLetter_eq_isAlpha] using Ne.symm hends.2)
        rw [← isLetter_eq_isAlpha] at hnew
        exact .going (by simp) (by simpa [LiteralCut.finished, hrun] using hnew)
      · rename_i hgoes
        have hsame : isLetter c = cut.areLetters := by
          by_contra hother
          exact hgoes ⟨hrun, hother⟩
        rw [isLetter_eq_isAlpha] at hsame
        refine .going (by simp) ?_
        simpa [isLetter_eq_isAlpha, hsame] using hcut.lengthen hsame

lemma follows_ofLiteral (s : String) : Follows (ofLiteral s) s := by
  have hlist : ∀ cs : List Char, Follows (cs.foldl LiteralCut.take {}) (String.ofList cs) := by
    intro cs
    induction cs using List.reverseRecOn with
    | nil => exact .start
    | append_singleton cs c ih =>
        rw [List.foldl_append, String.ofList_append]
        have htaken := ih.take c
        rwa [String.push_eq_append] at htaken
  have hfollows := hlist s.toList
  rwa [String.ofList_toList] at hfollows

end LiteralCut

/-- **A literal has one maximal cut.**  It is the one that a single pass over the literal comes
to. -/
theorem isMaximalCut_iff (s : String) (parts : List LiteralPart) :
    (IsMaximalCut s parts ↔ parts = caseParts s) ∧
      (LiteralCut.ofLiteral s).finished = caseParts s := by
  have hpass : IsMaximalCut s (LiteralCut.ofLiteral s).finished :=
    (LiteralCut.follows_ofLiteral s).finished
  refine ⟨⟨IsMaximalCut.eq_caseParts, ?_⟩, hpass.eq_caseParts⟩
  rintro rfl
  rwa [← hpass.eq_caseParts]

example : caseParts "ab12cd" = [.letters "ab", .verbatim "12", .letters "cd"] := by decide

end GrammarConversion.Antlr
