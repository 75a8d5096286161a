import GrammarConversion.Proofs.LexerGrammar.DocumentReading
import GrammarConversion.Proofs.LexerRule.BodyText
import GrammarConversion.Proofs.LexerState.Switches
import GrammarConversion.Proofs.LexerState.TokenTypes

/-!
# What the document of a lexer tells

Every rule of a lexer comes of a token of the grammar.  Its name is made of labels, states and
generated names, its commands take such names, and its body is that of a regular expression, of a
letter, or the name of another rule.  So where labels and states are identifiers, every rule can be
read back from its line, and the lexer from its document (`isLegible_of_convertTokens`).

The name that a rule refers to may be empty.  A token without a label whose body is the very name
that would be generated for it leaves no rule, and then the rules of the other states refer to
nothing: their body is empty, and their command is `type()`.

A token whose tree is no regular expression may have a part of a parser rule for its body, and then
there is no document.  If its body is nothing, that is written like an empty text.

**`document_determines_listing`: the document of a lexer determines the lexer.**
-/

namespace GrammarConversion.Antlr.LexerGrammar

/-! ## The name of a lexer -/

lemma name_place (lexer : LexerGrammar) (mode : String) (rule : Rule) :
    (lexer.place mode rule).lexer.name = lexer.name := by
  unfold place
  split
  · rfl
  · split
    · split <;> rfl
    · rfl

lemma name_settle (lexer : LexerGrammar) (mode : String) (rule : Rule) :
    (lexer.settle mode rule).lexer.name = lexer.name := by
  unfold settle
  split
  · exact name_place lexer mode rule
  · split
    · exact name_place (lexer.dropLetter rule.name) mode _
    · rfl

lemma name_addMode (lexer : LexerGrammar) (mode : String) :
    (lexer.addMode mode).name = lexer.name := by
  rw [addMode]
  split <;> rfl

/-- **A lexer keeps its name.** -/
lemma name_addRule {Names : Type} (lexer : LexerGrammar) (mode : String) (rule : Rule)
    (names : Names) (draw? : Option (Names → String × Names)) :
    (lexer.addRule mode rule names draw?).lexer.name = lexer.name := by
  unfold addRule
  dsimp only
  split
  · exact (name_settle _ mode _).trans (name_addMode lexer mode)
  · split
    · exact name_addMode lexer mode
    · split
      · exact name_addMode lexer mode
      · exact (name_settle _ mode _).trans (name_addMode lexer mode)

end GrammarConversion.Antlr.LexerGrammar

namespace GrammarConversion.Conversion

open Antlr
open LexerGrammar
open Model
open NameSupply
open Reading

/-- **A grammar in which all labels and lexical states are identifiers,** those that are referred to
included. -/
structure RefersByIdentifiers (grammar : Grammar) : Prop extends HasIdentifiers grammar where
  references : ∀ spec ∈ grammar.specs, ∀ node, spec.tree = .regex node →
    ∀ label, node.Mentions label → IsName label
  nextStates : ∀ spec ∈ grammar.specs, ∀ next, spec.nextState = some next → IsName next

section Listing

variable {grammar : Grammar} {spec : TokenSpec} {body : Body} {lexer : LexerGrammar}
  {space space' : Workspace} {rule letter : Rule} {mode name state : String}

/-! ## Parts of rules -/

lemma isNamePart_append {first second : String} (h : IsNamePart first) (h' : IsNamePart second) :
    IsNamePart (first ++ second) := by
  intro c hc
  rw [String.toList_append, List.mem_append] at hc
  exact hc.elim (h c) (h' c)

lemma isName_modeName (h : IsName state) : IsName (modeName state) := by
  rw [modeName]
  split
  · decide
  · exact h

lemma RefersByIdentifiers.isNamePart_givenName (h : RefersByIdentifiers grammar)
    (hspec : spec ∈ grammar.specs) : IsNamePart (givenName spec) := by
  cases hlabel : spec.label? with
  | none =>
      rw [givenName, hlabel]
      exact fun c hc => absurd hc List.not_mem_nil
  | some label =>
      rw [givenName_eq hlabel]
      exact (isName_ruleName (h.labels spec hspec label hlabel)).2

lemma isLegible_kindCommands (kind : ProductionKind) :
    ∀ command ∈ kindCommands kind, command.IsLegible := by
  cases kind <;> simp [kindCommands, Command.IsLegible]

/-- Commands that change the mode take the names of modes. -/
lemma RefersByIdentifiers.isLegible_stateCommands (h : RefersByIdentifiers grammar)
    (settings : TokenSettings) (hspec : spec ∈ grammar.specs) (hstate : IsName state) :
    ∀ command ∈ stateCommands settings spec state, command.IsLegible := by
  have hgoal : IsName ((filled spec.nextState).getD state) := by
    cases hfilled : filled spec.nextState with
    | none => exact hstate
    | some next => exact h.nextStates spec hspec next (Option.filter_eq_some_iff.mp hfilled).1
  unfold stateCommands
  dsimp only
  split_ifs
  · rw [List.forall_mem_singleton]
    exact (isName_modeName hgoal).2
  · rw [List.forall_mem_singleton]
    trivial
  · split
    · rename_i next hnext
      rw [List.forall_mem_singleton]
      exact (isName_modeName (h.nextStates spec hspec next hnext)).2
    · exact List.forall_mem_nil _

/-- **The body of a token can be told from what surrounds it,** if it may stand in a document. -/
lemma RefersByIdentifiers.isLegibleBody (h : RefersByIdentifiers grammar)
    (hconverts : Converts grammar production spec body) (hwritable : body.isParserPart = false) :
    IsLegibleBody body.written := by
  have hbody := hconverts.converted
  rw [specBody] at hbody
  cases htree : spec.tree with
  | regex node =>
      rw [htree, tokenBody] at hbody
      rcases map_eq_ok hbody with ⟨text, htext, rfl⟩
      exact isLegibleBody_lexerBody (h.references spec hconverts.spec_mem_specs node htree) htext
  | expansion node =>
      rw [htree, tokenBody] at hbody
      rcases map_eq_ok hbody with ⟨part, -, rfl⟩
      cases part with
      | none => exact (show IsEnclosed "".toList from isEnclosed_nil).isLegibleBody
      | some part => cases hwritable
  | plain value =>
      rw [htree, tokenBody] at hbody
      cases hbody

lemma isLegibleBody_letter : ∀ letter ∈ allLetterRules, IsLegibleBody letter.body.written := by
  have hline : ∀ letter ∈ allLetterRules, IsOneLine letter.body.written.toList := by decide
  have hdash : ∀ letter ∈ allLetterRules, '-' ∉ letter.body.written.toList := by decide
  exact fun letter hletter =>
    (isEnclosed_of_notMem (hline letter hletter) (hdash letter hletter)).isLegibleBody

lemma isLegible_letter (hletter : letter ∈ allLetterRules) : letter.IsLegible := by
  have hname : ∀ letter ∈ allLetterRules, IsName letter.name := by decide
  refine ⟨hname letter hletter, isLegibleBody_letter letter hletter, ?_⟩
  rw [letter_commands letter hletter]
  exact List.forall_mem_nil _

/-! ## Rules -/

/-- **Whether a rule can be read back from its line** as soon as its body may stand there. -/
structure IsSpelled (rule : Rule) : Prop where
  name : IsName rule.name
  body : rule.body.isParserPart = false → IsLegibleBody rule.body.written
  commands : ∀ command ∈ rule.commands, command.IsLegible

lemma IsSpelled.isLegible (h : IsSpelled rule) (hwritable : rule.isWritable = true) :
    rule.IsLegible :=
  ⟨h.name, h.body (by simpa [Rule.isWritable] using hwritable), h.commands⟩

/-- The body of a new rule can be told from what surrounds it if the one that was asked for can. -/
lemma New.isLegibleBody {reserved : List String} {stored : Rule}
    (hnew : New reserved lexer mode rule stored)
    (hbody : rule.body.isParserPart = false → IsLegibleBody rule.body.written)
    (hwritable : stored.body.isParserPart = false) : IsLegibleBody stored.body.written := by
  rcases hnew.body with hsame | ⟨letter, hletter, hsame⟩
  · rw [hsame] at hwritable ⊢
    exact hbody hwritable
  · rw [hsame]
    exact isLegibleBody_letter letter hletter

/-- **What is asked for is spelled** if what is there is. -/
lemma Request.isSpelled {stored : Rule} (h : Request grammar lexer mode rule)
    (hgrammar : RefersByIdentifiers grammar)
    (hnew : New (reservedNames grammar) lexer mode rule stored)
    (hbefore : ∀ other, ∀ existing ∈ lexer.rulesIn other, IsSpelled existing) :
    IsSpelled stored := by
  cases h with
  | @full production spec body commands hconverts hcommands =>
      have hspec := hconverts.spec_mem_specs
      refine ⟨?_, hnew.isLegibleBody (hgrammar.isLegibleBody hconverts), ?_⟩
      · rcases hnew.takes.of_fullRule with ⟨hlabelled, hgenerated⟩
        cases hlabel : spec.label? with
        | some label =>
            rw [hlabelled label hlabel]
            exact isName_ruleName (hgrammar.labels spec hspec label hlabel)
        | none => exact (hgenerated hlabel).isName
      · rw [hnew.commands]
        rcases hcommands with rfl | ⟨-, kind, -, state, hstate, rfl⟩
        · exact List.forall_mem_nil _
        · exact List.forall_mem_append.mpr ⟨isLegible_kindCommands kind,
            hgrammar.isLegible_stateCommands _ hspec
              (hgrammar.states production hconverts.production_mem state hstate)⟩
  | @aliased production spec body kind target state hconverts _ _ _ hstate htarget =>
      have hspec := hconverts.spec_mem_specs
      have hname : IsName state :=
        hgrammar.states production hconverts.production_mem state hstate
      have hpart : IsNamePart target := by
        rcases htarget with rfl | ⟨other, existing, hexisting, rfl⟩
        · exact hgrammar.isNamePart_givenName hspec
        · exact (hbefore other existing hexisting).name.2
      refine ⟨?_, hnew.isLegibleBody fun _ => (isEnclosed_of_isNamePart hpart).isLegibleBody, ?_⟩
      · cases hnew.takes with
        | given _ hgiven =>
            rw [hgiven]
            have hunderscore : IsName "_" := by decide
            refine isName_ruleName ⟨by simp [aliasRule], ?_⟩
            exact isNamePart_append (isNamePart_append hname.2 hunderscore.2) hpart
        | drawn _ hgenerated _ => exact hgenerated.isName
      · rw [hnew.commands]
        refine List.forall_mem_append.mpr ⟨List.forall_mem_append.mpr
          ⟨isLegible_kindCommands kind, ?_⟩, hgrammar.isLegible_stateCommands _ hspec hname⟩
        split
        · rw [List.forall_mem_singleton]
          exact hpart
        · exact List.forall_mem_nil _

/-- **All rules of the finished lexer are spelled.** -/
lemma isSpelled_of_convertTokens (hrun : convertTokens name grammar = (space, .ok ()))
    (hgrammar : RefersByIdentifiers grammar) :
    ∀ mode, ∀ rule ∈ space.lexer.rulesIn mode, IsSpelled rule :=
  (reaches_convertTokens hrun).forall_rules (Workspace.sound_initialWorkspace name grammar)
    (fun hrequest hnew hbefore => hrequest.isSpelled hgrammar hnew hbefore)
    (by simp [Workspace.rulesIn_initialWorkspace])

/-! ## Texts for bodies -/

lemma exists_text_of_letter (hletter : letter ∈ allLetterRules) :
    ∃ content, letter.body = .text content := by
  rcases List.mem_map.mp hletter with ⟨c, -, rfl⟩
  exact ⟨_, rfl⟩

/-- **Where all tokens have regular expressions, all bodies are texts.** -/
lemma exists_text_of_convertTokens (hrun : convertTokens name grammar = (space, .ok ()))
    (hregex : ∀ spec ∈ grammar.specs, ∃ node, spec.tree = .regex node) :
    ∀ mode, ∀ rule ∈ space.lexer.rulesIn mode, ∃ content, rule.body = .text content := by
  refine (reaches_convertTokens hrun).forall_rules (Workspace.sound_initialWorkspace name grammar)
    (fun hrequest hnew _ => ?_) (by simp [Workspace.rulesIn_initialWorkspace])
  rcases hnew.body with hsame | ⟨letter, hletter, hsame⟩
  · rw [hsame]
    cases hrequest with
    | @full production spec body commands hconverts _ =>
        rcases hregex spec hconverts.spec_mem_specs with ⟨node, htree⟩
        have hbody := hconverts.converted
        rw [specBody, htree, tokenBody] at hbody
        rcases map_eq_ok hbody with ⟨text, -, rfl⟩
        exact ⟨text, rfl⟩
    | aliased => exact ⟨_, rfl⟩
  · rw [hsame]
    exact exists_text_of_letter hletter

/-! ## Modes -/

lemma Reaches.name_eq (h : Reaches grammar space space') :
    space'.lexer.name = space.lexer.name := by
  induction h with
  | refl => rfl
  | tail _ hmove ih =>
      refine Eq.trans ?_ ih
      cases hmove with
      | noted => rfl
      | registered mode => exact name_addMode _ mode
      | requested _ hadded =>
          rw [Workspace.addRule] at hadded
          rcases Prod.mk.inj hadded with ⟨rfl, -⟩
          exact name_addRule _ _ _ _ _

lemma name_of_convertTokens (hrun : convertTokens name grammar = (space, .ok ())) :
    space.lexer.name = name := by
  rw [(reaches_convertTokens hrun).name_eq, initialWorkspace]
  cases grammar.usesIgnoreCase <;> rfl

/-- **The default mode comes first, and once.** -/
lemma exists_first_of_convertTokens (hrun : convertTokens name grammar = (space, .ok ())) :
    ∃ first others, space.lexer.modes = first :: others ∧ first.name = defaultMode ∧
      ∀ other ∈ others, other.name ≠ defaultMode := by
  have hnames := (reaches_convertTokens hrun).keepsShape.names
  have hinitial : (initialWorkspace name grammar).lexer.modes.map Mode.name = [defaultMode] := by
    rw [initialWorkspace]
    cases grammar.usesIgnoreCase <;> rfl
  have hdistinct := (accounted_of_convertTokens hrun).distinctModes
  rw [HasDistinctModes] at hdistinct
  rw [hinitial] at hnames
  cases hmodes : space.lexer.modes with
  | nil =>
      rw [hmodes] at hnames
      exact absurd hnames (by simp)
  | cons first others =>
      rw [hmodes, List.map_cons] at hnames hdistinct
      have hfirst : first.name = defaultMode := (List.cons_prefix_cons.mp hnames).1.symm
      refine ⟨first, others, rfl, hfirst, fun other hother hname => ?_⟩
      refine (List.nodup_cons.mp hdistinct).1 ?_
      rw [hfirst, ← hname]
      exact List.mem_map_of_mem hother

lemma isName_of_mem_shownModes (hrun : convertTokens name grammar = (space, .ok ()))
    (hgrammar : RefersByIdentifiers grammar) {found : Mode}
    (hfound : found ∈ space.lexer.shownModes) : IsName found.name := by
  have hdefault : IsName defaultMode := by decide
  rcases List.mem_filter.mp hfound with ⟨hmem, hshown⟩
  rw [Bool.or_eq_true, decide_eq_true_eq, Bool.not_eq_true', List.isEmpty_eq_false_iff] at hshown
  rcases hshown with hname | hrules
  · rw [hname]
    exact hdefault
  · rcases List.exists_mem_of_ne_nil _ hrules with ⟨rule, hrule⟩
    rw [← (accounted_of_convertTokens hrun).distinctModes.rulesIn_eq hmem] at hrule
    rcases exists_state_of_mem_rulesIn hrun found.name rule hrule with
      hname | ⟨state, ⟨production, hproduction, -, hlisted⟩, hname⟩
    · rw [hname]
      exact hdefault
    · rw [hname]
      exact isName_modeName (hgrammar.states production hproduction state hlisted)

/-- **The document of the finished lexer can be read,** if there is one. -/
lemma isLegible_of_convertTokens (hrun : convertTokens name grammar = (space, .ok ()))
    (hname : IsName name) (hgrammar : RefersByIdentifiers grammar)
    (hwritable : space.lexer.isWritable = true) : space.lexer.IsLegible := by
  have hsame := name_of_convertTokens hrun
  have haccounted := accounted_of_convertTokens hrun
  refine ⟨hsame ▸ hname, exists_first_of_convertTokens hrun,
    fun found hfound => isName_of_mem_shownModes hrun hgrammar hfound, fun rule hrule => ?_⟩
  rcases mem_documentRules hrule with hstored | hletter
  · rcases haccounted.distinctModes.exists_mode hstored with ⟨mode, hmem⟩
    exact (isSpelled_of_convertTokens hrun hgrammar mode rule hmem).isLegible
      (List.all_eq_true.mp hwritable rule hstored)
  · exact isLegible_letter (haccounted.sound.letters rule hletter).2

/-! ## Documents -/

/-- A rule whose body is a text is its own written form. -/
lemma asWritten_eq {content : String} (h : rule.body = .text content) : rule.asWritten = rule := by
  rw [Rule.asWritten, h, Body.written_text, ← h]

lemma exists_text_of_mem_documentRules (hrun : convertTokens name grammar = (space, .ok ()))
    (hregex : ∀ spec ∈ grammar.specs, ∃ node, spec.tree = .regex node)
    (hrule : rule ∈ space.lexer.documentRules) : ∃ content, rule.body = .text content := by
  have haccounted := accounted_of_convertTokens hrun
  rcases mem_documentRules hrule with hstored | hletter
  · rcases haccounted.distinctModes.exists_mode hstored with ⟨mode, hmem⟩
    exact exists_text_of_convertTokens hrun hregex mode rule hmem
  · exact exists_text_of_letter (haccounted.sound.letters rule hletter).2

/-- **The document of a lexer determines the lexer.**  Let a grammar be converted whose labels and
lexical states are identifiers, under a name that is one.  Where all its tokens have regular
expressions, the lexer has a document, and its rules have texts for their bodies.  And wherever it
has a document, its name can be read back from that, and the rules with their bodies, commands and
fragment flags as well: first those of the default mode, with the letter rules that are left at
their end, and then those of every other mode that has rules, in order.  Each rule has one line of
the document to itself.  So lexers with the same document have the same rules in the same modes. -/
theorem document_determines_listing (hrun : convertTokens name grammar = (space, .ok ()))
    (hname : IsName name) (hgrammar : RefersByIdentifiers grammar) :
    ((∀ spec ∈ grammar.specs, ∃ node, spec.tree = .regex node) →
      space.lexer.isWritable = true ∧
        ∀ rule ∈ space.lexer.documentRules, rule.asWritten = rule) ∧
    (space.lexer.isWritable = true →
      (∃ first others, space.lexer.modes = first :: others ∧ first.name = defaultMode ∧
        (∀ other ∈ others, other.name ≠ defaultMode) ∧
        readListing? space.lexer.document = some
          { name := name
            modes := (defaultMode, (first.rules ++ space.lexer.letterRules).map Rule.asWritten)
              :: (others.filter fun mode => !mode.rules.isEmpty).map
                fun mode => (mode.name, mode.rules.map Rule.asWritten) }) ∧
      (lines space.lexer.document = space.lexer.documentLines.map String.toList ∧
        ∀ rule ∈ space.lexer.documentRules, IsOneLine rule.text.toList) ∧
      ∀ name' grammar' space', convertTokens name' grammar' = (space', .ok ()) → IsName name' →
        RefersByIdentifiers grammar' → space'.lexer.isWritable = true →
        space'.lexer.document = space.lexer.document →
          space'.lexer.listing = space.lexer.listing) := by
  refine ⟨fun hregex => ?_, fun hwritable => ?_⟩
  · have htexts : ∀ rule ∈ space.lexer.documentRules, ∃ content, rule.body = .text content :=
      fun rule hrule => exists_text_of_mem_documentRules hrun hregex hrule
    refine ⟨List.all_eq_true.mpr fun rule hrule => ?_, fun rule hrule => ?_⟩
    · rcases htexts rule (mem_documentRules_of_mem_rules hrule) with ⟨content, hbody⟩
      rw [Rule.isWritable, hbody]
      rfl
    · rcases htexts rule hrule with ⟨content, hbody⟩
      exact asWritten_eq hbody
  · have hlegible := isLegible_of_convertTokens hrun hname hgrammar hwritable
    have hread := readListing?_document hlegible
    have hline : ∀ rule ∈ space.lexer.documentRules, IsOneLine rule.text.toList :=
      fun rule hrule => isOneLine_text (hlegible.rules rule hrule)
    refine ⟨?_, ⟨lines_document hlegible, hline⟩,
      fun name' grammar' space' hrun' hname' hgrammar' hwritable' hdocument => ?_⟩
    · rcases hlegible.first with ⟨first, others, hmodes, hfirst, hothers⟩
      refine ⟨first, others, hmodes, hfirst, hothers, ?_⟩
      rw [hread, ← listing_of_first hmodes hfirst hothers, ← name_of_convertTokens hrun]
      rfl
    · -- the document is read in one way only
      have hread' := readListing?_document
        (isLegible_of_convertTokens hrun' hname' hgrammar' hwritable')
      rw [hdocument, hread] at hread'
      exact (Option.some.inj hread').symm

end Listing

/-- A literal and a set that show arrows, the latter in two lexical states. -/
def arrowGrammar : Grammar where
  tokenProductions :=
    [{ kind := .known .token
       listedStates := []
       specs := [{ tree := .regex (.literal "x -> skip ;"), label := some "ARROW" }] },
     { kind := .known .skip
       listedStates := ["DEFAULT", "S"]
       specs :=
         [{ tree := .regex (.choice [.charList [.range " " ">", .character "-"] none,
              .reference "ARROW"])
            label := some "GAP"
            nextState := some "S" }] }]
  bnfProductions := []

lemma eq_of_mentions_arrowGrammar {node : Regex} {label : String}
    (hnode : node = .literal "x -> skip ;" ∨
      node = .choice [.charList [.range " " ">", .character "-"] none, .reference "ARROW"])
    (h : node.Mentions label) : label = "ARROW" := by
  rcases hnode with rfl | rfl
  · cases h with
    | inside hpart _ => cases hpart
  · cases h with
    | inside hpart h =>
        rcases List.mem_pair.mp hpart with rfl | rfl
        · cases h with
          | inside hpart h =>
              rcases List.mem_pair.mp hpart with rfl | rfl <;> cases h with
              | inside hpart _ => cases hpart
        · cases h with
          | reference => rfl
          | inside hpart _ => cases hpart

lemma refersByIdentifiers_arrowGrammar : RefersByIdentifiers arrowGrammar := by
  refine ⟨⟨fun spec hspec label hlabel => ?_, fun production hproduction => ?_⟩,
    fun spec hspec node htree label hmentions => ?_, fun spec hspec next hnext => ?_⟩
  · rcases List.mem_pair.mp hspec with rfl | rfl <;> cases hlabel <;> decide
  · rcases List.mem_pair.mp hproduction with rfl | rfl
    · show ∀ state ∈ [defaultState], IsName state
      decide
    · show ∀ state ∈ ["DEFAULT", "S"], IsName state
      decide
  · have hnode : node = .literal "x -> skip ;" ∨
        node = .choice [.charList [.range " " ">", .character "-"] none, .reference "ARROW"] := by
      rcases List.mem_pair.mp hspec with rfl | rfl
      · exact .inl (Tree.regex.inj htree).symm
      · exact .inr (Tree.regex.inj htree).symm
    rw [eq_of_mentions_arrowGrammar hnode hmentions]
    decide
  · rcases List.mem_pair.mp hspec with rfl | rfl <;> cases hnext
    decide

/-- Arrows in a literal and in a set are not taken for the one before commands. -/
theorem document_determines_listing_arrowGrammar :
    ∃ lexer : LexerGrammar, lexer.document = "lexer grammar L;\n\nARROW : 'x -> skip ;' ;\n"
        ++ "GAP : ([ ->\\-] | ARROW) -> skip, mode(S) ;\n\n"
        ++ "mode S;\nS_GAP : GAP -> skip, mode(S) ;\n" ∧
      readListing? lexer.document = some
        { name := "L"
          modes :=
            [("DEFAULT_MODE",
              [{ name := "ARROW", body := .text "'x -> skip ;'" },
               { name := "GAP"
                 body := .text "([ ->\\-] | ARROW)"
                 commands := [.skip, .mode "S"] }]),
             ("S",
              [{ name := "S_GAP", body := .text "GAP", commands := [.skip, .mode "S"] }])] } := by
  have hok : (convertTokens "L" arrowGrammar).2 = .ok () := rfl
  have hdetermines := document_determines_listing (Prod.ext rfl hok) (by decide : IsName "L")
    refersByIdentifiers_arrowGrammar
  have hregex : ∀ spec ∈ arrowGrammar.specs, ∃ node, spec.tree = .regex node := by
    intro spec hspec
    rcases List.mem_pair.mp hspec with rfl | rfl <;> exact ⟨_, rfl⟩
  rcases (hdetermines.2 (hdetermines.1 hregex).1).1 with ⟨first, others, hmodes, -, -, hread⟩
  refine ⟨(convertTokens "L" arrowGrammar).1.lexer, by decide +kernel, hread.trans ?_⟩
  have hlexer : (convertTokens "L" arrowGrammar).1.lexer.modes = [
      { name := "DEFAULT_MODE"
        rules :=
          [{ name := "ARROW", body := .text "'x -> skip ;'" },
           { name := "GAP", body := .text "([ ->\\-] | ARROW)", commands := [.skip, .mode "S"] }]
        index := [(.text "'x -> skip ;'", 0), (.text "([ ->\\-] | ARROW)", 1)] },
      { name := "S"
        rules := [{ name := "S_GAP", body := .text "GAP", commands := [.skip, .mode "S"] }]
        index := [(.text "GAP", 0)] }] := by decide +kernel
  rcases List.cons.inj (hlexer.symm.trans hmodes) with ⟨rfl, rfl⟩
  rfl

end GrammarConversion.Conversion
