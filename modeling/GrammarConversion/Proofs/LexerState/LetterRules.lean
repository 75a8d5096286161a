import GrammarConversion.Proofs.LexerGrammar.Document
import GrammarConversion.Proofs.LexerState.Literals

/-!
# Letters that are matched in either case

Where case may not matter, bodies refer to letters by name, so every letter has to have a rule,
and only one.  In the beginning that is its letter rule.  A rule of the same name takes its place,
in any mode, and matches the same two characters.

From then on nothing shows that there has been a letter rule, and a second rule of that name could
be added to another mode.  But labels are different, and so are generated names; and the name of a
rule that refers to another one from a state is longer than a letter.

**`letters_defined_once`: a document defines each letter exactly once.**
-/

namespace GrammarConversion.Conversion

open Antlr
open LexerGrammar
open Model
open NameSupply

/-- **Whether the letter rules that are left and the rules of the modes keep apart,** and the latter
have the bodies of the letters whose names they have. -/
structure SettlesLetters (lexer : LexerGrammar) : Prop where
  sublist : lexer.letterRules.Sublist allLetterRules
  apart : ∀ letter ∈ lexer.letterRules, ∀ mode, ∀ rule ∈ lexer.rulesIn mode,
    rule.name ≠ letter.name
  bodies : ∀ letter ∈ allLetterRules, ∀ mode, ∀ rule ∈ lexer.rulesIn mode,
    rule.name = letter.name → rule.body = letter.body

section Letters

variable {grammar : Grammar} {space space' : Workspace} {mode mode' name : String}
  {rule rule' letter : Rule} {result : Option Rule}

/-! ## One mode for each letter -/

/-- **Rules with the name of a letter are in one mode.** -/
lemma Workspace.Accounted.mode_eq_of_letter (h : space.Accounted grammar)
    (hlabels : (reservedNames grammar).Nodup) (hletter : letter ∈ allLetterRules)
    (hrule : rule ∈ space.lexer.rulesIn mode) (hrule' : rule' ∈ space.lexer.rulesIn mode')
    (hname : rule.name = letter.name) (hname' : rule'.name = letter.name) : mode = mode' := by
  by_contra hmodes
  have hunderscore := underscore_notMem_letter letter hletter
  rcases h.isAlias_of_name_eq hlabels hrule hrule' hmodes (hname'.trans hname.symm) with
    ⟨target, hrefers⟩ | ⟨target, hrefers⟩
  · exact hunderscore (hname ▸ hrefers.underscore_mem)
  · exact hunderscore (hname' ▸ hrefers.underscore_mem)

/-! ## Moves -/

/-- An addition keeps letter rules and rules of the modes apart. -/
lemma Gain.letters_apart {reserved : List String} {lexer lexer' : LexerGrammar}
    (h : Gain reserved lexer mode rule lexer' result)
    (hsubset : lexer'.letterRules ⊆ lexer.letterRules) (hsettles : SettlesLetters lexer) :
    ∀ letter ∈ lexer'.letterRules, ∀ other, ∀ existing ∈ lexer'.rulesIn other,
      existing.name ≠ letter.name := by
  intro letter hletter other existing hexisting
  have hbefore : existing ∈ lexer.rulesIn other → existing.name ≠ letter.name :=
    hsettles.apart letter (hsubset hletter) other existing
  cases h with
  | dropped _ _ _ hrules => exact hbefore (by rwa [← hrules])
  | kept _ _ _ _ hrules => exact hbefore (by rwa [← hrules])
  | added _ hrules hframe _ hgone =>
      by_cases hother : other = mode
      · rw [hother, hrules, List.mem_append, List.mem_singleton] at hexisting
        rcases hexisting with hexisting | rfl
        · exact hbefore (by rwa [hother])
        · exact (hgone letter hletter).symm
      · exact hbefore (by rwa [← hframe other hother])

/-- **A move settles letters as they were.**  A new rule with the name of a letter takes the place
of the letter rule, for if that had been gone before, the name would be in two modes. -/
lemma Move.settlesLetters (hmove : Move grammar space space') (h : space.Accounted grammar)
    (hlabels : (reservedNames grammar).Nodup) (huses : grammar.usesIgnoreCase = true)
    (hsettles : SettlesLetters space.lexer) : SettlesLetters space'.lexer := by
  have hafter := hmove.accounted h
  cases hmove with
  | noted => exact hsettles
  | registered mode =>
      refine ⟨?_, ?_, ?_⟩
      · simpa only [letterRules_addMode] using hsettles.sublist
      · simpa only [letterRules_addMode, rulesIn_addMode] using hsettles.apart
      · simpa only [rulesIn_addMode] using hsettles.bodies
  | requested hrequest hadded =>
      have hgain := h.sound.gain hadded
      have hkept := (Workspace.adding_of_addRule hadded).keeps.letters
      refine ⟨hkept.trans hsettles.sublist, hgain.letters_apart hkept.subset hsettles, ?_⟩
      intro letter hletter mode rule hrule hname
      rcases hgain.mem_rulesIn hrule with hbefore | ⟨rfl, hnew⟩
      · exact hsettles.bodies letter hletter mode rule hbefore hname
      · rcases h.letters huses letter hletter with hleft | ⟨other, existing, hexisting, hsame⟩
        · exact hnew.letter letter hleft hname.symm
        · obtain rfl := hafter.mode_eq_of_letter hlabels hletter (hgain.subset hexisting) hrule
            hsame hname
          exact absurd (hsame.trans hname.symm) (hnew.names existing hexisting)

lemma Reaches.settlesLetters (hreaches : Reaches grammar space space')
    (h : space.Accounted grammar) (hlabels : (reservedNames grammar).Nodup)
    (huses : grammar.usesIgnoreCase = true) (hsettles : SettlesLetters space.lexer) :
    SettlesLetters space'.lexer := by
  induction hreaches with
  | refl => exact hsettles
  | tail hbefore hmove ih =>
      exact hmove.settlesLetters (Reaches.accounted hbefore h) hlabels huses ih

/-- **The finished lexer settles letters.** -/
lemma settlesLetters_of_convertTokens (hrun : convertTokens name grammar = (space, .ok ()))
    (hlabels : (reservedNames grammar).Nodup) (huses : grammar.usesIgnoreCase = true) :
    SettlesLetters space.lexer := by
  have hnone := Workspace.rulesIn_initialWorkspace name grammar
  refine (reaches_convertTokens hrun).settlesLetters (accounted_initialWorkspace name grammar)
    hlabels huses ⟨?_, ?_, ?_⟩
  · rw [initialWorkspace, if_pos huses]
    exact List.Sublist.refl _
  · simp [hnone]
  · simp [hnone]

/-! ## Documents -/

/-- Where names are different, a name picks one rule. -/
lemma filter_name_eq {rules : List Rule} (hnodup : (rules.map Rule.name).Nodup)
    (hrule : rule ∈ rules) : rules.filter (fun other => other.name == rule.name) = [rule] := by
  have hfiltered := (List.Nodup.of_map Rule.name hnodup).filter fun other => other.name == rule.name
  refine List.perm_singleton.mp ((List.perm_ext_iff_of_nodup hfiltered
    (List.nodup_singleton rule)).mpr fun other => ?_)
  rw [List.mem_filter, List.mem_singleton, beq_iff_eq]
  constructor
  · rintro ⟨hother, hname⟩
    exact List.inj_on_of_nodup_map hnodup hother hrule hname
  · rintro rfl
    exact ⟨hrule, rfl⟩

/-- A rule is the only one of its name in all modes if no other mode has one. -/
lemma Workspace.Accounted.filter_rules_eq (h : space.Accounted grammar)
    (hrule : rule ∈ space.lexer.rulesIn mode)
    (halone : ∀ mode', ∀ rule' ∈ space.lexer.rulesIn mode', rule'.name = rule.name →
      mode' = mode) :
    space.lexer.rules.filter (fun other => other.name == rule.name) = [rule] := by
  rcases mem_mode_of_mem_rulesIn hrule with ⟨found, hfound, rfl, hmem⟩
  have hnodup := h.nodup_names found.name
  rw [h.distinctModes.rulesIn_eq hfound] at hnodup
  rw [rules, List.filter_flatMap, h.distinctModes.flatMap_eq hfound]
  · exact filter_name_eq hnodup hmem
  · intro other hother hmode
    refine List.filter_eq_nil_iff.mpr fun existing hexisting hsame => hmode ?_
    rw [← h.distinctModes.rulesIn_eq hother] at hexisting
    exact halone other.name existing hexisting (by simpa using hsame)

/-- **The rules of a document define each letter once,** by a letter rule or by a rule in its
place. -/
lemma Workspace.Accounted.filter_documentRules (h : space.Accounted grammar)
    (hlabels : (reservedNames grammar).Nodup) (huses : grammar.usesIgnoreCase = true)
    (hsettles : SettlesLetters space.lexer)
    (hdefault : defaultMode ∈ space.lexer.modes.map Mode.name) (hletter : letter ∈ allLetterRules) :
    ∃ rule, space.lexer.documentRules.filter (fun other => other.name == letter.name) = [rule] ∧
      rule.body = letter.body := by
  have hperm := (documentRules_perm h.distinctModes hdefault).filter
    fun other => other.name == letter.name
  rw [List.filter_append] at hperm
  have hnodup : (space.lexer.letterRules.map Rule.name).Nodup :=
    nodup_letter_names.sublist (hsettles.sublist.map Rule.name)
  rcases h.letters huses letter hletter with hleft | ⟨mode, rule, hrule, hname⟩
  · have hrules : space.lexer.rules.filter (fun other => other.name == letter.name) = [] := by
      refine List.filter_eq_nil_iff.mpr fun rule hrule hname => ?_
      rcases h.distinctModes.exists_mode hrule with ⟨mode, hmem⟩
      exact hsettles.apart letter hleft mode rule hmem (by simpa using hname)
    rw [hrules, filter_name_eq hnodup hleft, List.nil_append] at hperm
    exact ⟨letter, List.perm_singleton.mp hperm, rfl⟩
  · have hletters : space.lexer.letterRules.filter (fun other => other.name == letter.name)
        = [] := by
      refine List.filter_eq_nil_iff.mpr fun other hother hsame => ?_
      have hother' : other.name = letter.name := by simpa using hsame
      exact hsettles.apart other hother mode rule hrule (hname.trans hother'.symm)
    have hrules := h.filter_rules_eq hrule fun mode' rule' hrule' hsame =>
      h.mode_eq_of_letter hlabels hletter hrule' hrule (hsame.trans hname) hname
    rw [hname] at hrules
    rw [hletters, hrules, List.append_nil] at hperm
    exact ⟨rule, List.perm_singleton.mp hperm, hsettles.bodies letter hletter mode rule hrule hname⟩

/-- **Letters are defined, and once.**  Let the labels of a grammar be different as names of rules.
If case may not matter, the document of its lexer has exactly one rule for each letter from `A` to
`Z`, whose body is the set of the letter in lower and in upper case.  And in any grammar, where a
token is converted without regard to case, case may not matter. -/
theorem letters_defined_once (grammar : Grammar) :
    (∀ name space, convertTokens name grammar = (space, .ok ()) → (reservedNames grammar).Nodup →
      grammar.usesIgnoreCase = true → ∀ letter ∈ "ABCDEFGHIJKLMNOPQRSTUVWXYZ".toList,
        ∃ rule, space.lexer.documentRules.filter
            (fun other => other.name == String.singleton letter) = [rule] ∧
          rule.body = .text ("[" ++ String.ofList [letter.toLower, letter] ++ "]")) ∧
      ∀ production ∈ grammar.tokenProductions, ∀ spec ∈ production.specs,
        specBody (tokenSettings grammar) production spec
            = tokenBody { ignoreCase := some (ignoresCase grammar production spec)
                          rule := spec.label } spec.tree ∧
          (ignoresCase grammar production spec = true → grammar.usesIgnoreCase = true) := by
  refine ⟨fun name space hrun hlabels huses letter hletter => ?_,
    fun production hproduction spec hspec =>
      ⟨rfl, usesIgnoreCase_of_ignoresCase hproduction hspec⟩⟩
  exact (accounted_of_convertTokens hrun).filter_documentRules hlabels huses
    (settlesLetters_of_convertTokens hrun hlabels huses) (defaultMode_mem_of_convertTokens hrun)
    (List.mem_map_of_mem hletter)

end Letters

/-- The rule of a token takes the place of a letter rule. -/
theorem letters_defined_once_wordGrammar :
    ∃ rule, (convertTokens "L" (wordGrammar "A" "a")).1.lexer.documentRules.filter
        (fun other => other.name == "A") = [rule] ∧ rule.body = .text "[aA]" := by
  have hok : (convertTokens "L" (wordGrammar "A" "a")).2 = .ok () := rfl
  exact (letters_defined_once (wordGrammar "A" "a")).1 "L" _ (Prod.ext rfl hok) (by decide) rfl 'A'
    (by decide)

end GrammarConversion.Conversion
