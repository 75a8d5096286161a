import GrammarConversion.Proofs.LexerState.Switches
import GrammarConversion.Proofs.ParserGrammar.RuleNames

/-!
# Names that are legal

A lexer rule has to begin with a capital letter and a parser rule with a small one, and no name may
begin with an underscore.

**What is done about it.**  The name of a lexer rule gets a stem before an underscore, that of a
parser rule a small letter for a capital one, and a generated name begins with a capital letter
anyway.  So whatever the names of the source grammar are, no lexer rule begins with an underscore,
no type that a lexer rule gives does, and no parser rule begins with a capital letter.

**What is left.**  A token with a small label, or in a state with a small name, makes a lexer rule
with a small letter.  A production with an underscore makes a parser rule with an underscore, and a
state with an underscore makes a mode with one (`hasLegalNames_exception`).

**`hasLegalNames_iff`: nothing else makes a name illegal.**
-/

namespace GrammarConversion.Antlr

open Text

/-! ## How names begin -/

def beginsCapital (name : String) : Bool :=
  name.toList.head?.any Char.isUpper

def beginsSmall (name : String) : Bool :=
  name.toList.head?.any Char.isLower

def beginsUnderscore (name : String) : Bool :=
  name.toList.head? == some '_'

/-- **Whether a name is made of letters, digits and underscores,** all of them ASCII, and does not
begin with a digit. -/
def IsAsciiIdentifier (name : String) : Prop :=
  ∃ c cs, name.toList = c :: cs ∧ (c.isAlpha || c == '_') = true ∧
    ∀ other ∈ cs, (other.isAlphanum || other == '_') = true

instance (name : String) : Decidable (IsAsciiIdentifier name) :=
  decidable_of_iff ((name.toList.head?.any fun c => c.isAlpha || c == '_') = true ∧
      (name.toList.tail.all fun c => c.isAlphanum || c == '_') = true) (by
    rw [IsAsciiIdentifier, List.all_eq_true]
    cases name.toList <;> simp)

section Beginnings

variable {name other : String}

lemma isLower_eq_false_of_isUpper {c : Char} (h : c.isUpper = true) : c.isLower = false := by
  have hlast : 'Z'.val.toNat = 90 := rfl
  have hfirst : 'a'.val.toNat = 97 := rfl
  simp only [Char.isUpper, Char.isLower, decide_eq_true_eq,
    Bool.and_eq_false_iff, decide_eq_false_iff_not, ge_iff_le, UInt32.le_iff_toNat_le] at h ⊢
  omega

lemma toNat_of_isAlpha {c : Char} (h : c.isAlpha = true) : 65 ≤ c.toNat ∧ c.toNat < 123 := by
  have hvalue : c.toNat = c.val.toNat := rfl
  have hcapitals : 'A'.val.toNat = 65 ∧ 'Z'.val.toNat = 90 := ⟨rfl, rfl⟩
  have hsmalls : 'a'.val.toNat = 97 ∧ 'z'.val.toNat = 122 := ⟨rfl, rfl⟩
  simp only [Char.isAlpha, Char.isUpper, Char.isLower, Bool.or_eq_true, Bool.and_eq_true,
    decide_eq_true_eq, ge_iff_le, UInt32.le_iff_toNat_le] at h
  omega

lemma IsAsciiIdentifier.begins (h : IsAsciiIdentifier name) :
    beginsCapital name = true ∨ beginsSmall name = true ∨ beginsUnderscore name = true := by
  rcases h with ⟨c, cs, hname, hfirst, -⟩
  rw [beginsCapital, beginsSmall, beginsUnderscore, hname]
  simpa [Char.isAlpha, or_assoc] using hfirst

lemma not_beginsSmall_of_capital (h : beginsCapital name = true) : beginsSmall name = false := by
  rw [beginsCapital] at h
  rw [beginsSmall]
  cases hhead : name.toList.head? with
  | none => rfl
  | some c =>
      rw [hhead] at h
      exact isLower_eq_false_of_isUpper h

lemma not_beginsUnderscore_of_capital (h : beginsCapital name = true) :
    beginsUnderscore name = false := by
  rw [beginsUnderscore, beq_eq_false_iff_ne]
  intro hhead
  rw [beginsCapital, hhead] at h
  exact absurd h (by decide)

lemma not_beginsUnderscore_of_small (h : beginsSmall name = true) :
    beginsUnderscore name = false := by
  rw [beginsUnderscore, beq_eq_false_iff_ne]
  intro hhead
  rw [beginsSmall, hhead] at h
  exact absurd h (by decide)

/-! ### Lexer rules -/

lemma not_beginsUnderscore_ruleName (name : String) : beginsUnderscore (ruleName name) = false := by
  rw [beginsUnderscore, beq_eq_false_iff_ne, ruleName]
  split
  · simp [reservedStem]
  · assumption

lemma beginsCapital_ruleName (h : beginsCapital name = true ∨ beginsUnderscore name = true) :
    beginsCapital (ruleName name) = true := by
  rcases h with hcapital | hunderscore
  · have hhead : name.toList.head? ≠ some '_' :=
      beq_eq_false_iff_ne.mp (not_beginsUnderscore_of_capital hcapital)
    rwa [ruleName_of_head?_ne hhead]
  · rw [ruleName, if_pos (beq_iff_eq.mp hunderscore), beginsCapital]
    simp [reservedStem]

/-- A small letter stays where it is. -/
lemma beginsSmall_ruleName (h : beginsSmall name = true) : beginsSmall (ruleName name) = true := by
  rwa [ruleName_of_head?_ne (beq_eq_false_iff_ne.mp (not_beginsUnderscore_of_small h))]

/-- What is put behind a name does not change how it begins. -/
lemma IsAsciiIdentifier.head?_append (h : IsAsciiIdentifier name) :
    (name ++ other).toList.head? = name.toList.head? := by
  rcases h with ⟨c, cs, hname, -⟩
  rw [String.toList_append, hname]
  rfl

/-! ### Modes -/

/-- The mode of a state begins with an underscore if and only if the state does. -/
lemma beginsUnderscore_modeName (state : String) :
    beginsUnderscore (modeName state) = beginsUnderscore state := by
  rw [modeName]
  split
  · rename_i hdefault
    subst hdefault
    decide
  · rfl

/-! ### Parser rules -/

/-- The letters `A` to `Z` have small ones, and nothing else that an identifier begins with is a
capital letter. -/
lemma isUppercase_ascii : ∀ code < 123, 65 ≤ code →
    if (Char.ofNat code).isUpper then
      isUppercase (Char.ofNat code) = true ∧
        (lowerChar (Char.ofNat code)).head?.any Char.isLower = true
    else isUppercase (Char.ofNat code) = false := by
  decide +kernel

/-- **A parser rule is named like its production,** a capital letter at the beginning apart. -/
lemma IsAsciiIdentifier.parserRuleName_eq (h : IsAsciiIdentifier name)
    (hcapital : beginsCapital name = false) : parserRuleName name = name := by
  rcases h with ⟨c, cs, hname, hfirst, -⟩
  rw [beginsCapital, hname] at hcapital
  have hcode : 65 ≤ c.toNat ∧ c.toNat < 123 := by
    rcases Bool.or_eq_true_iff.mp hfirst with halpha | hunderscore
    · exact toNat_of_isAlpha halpha
    · rw [beq_iff_eq.mp hunderscore]
      decide
  have hascii := isUppercase_ascii c.toNat hcode.2 hcode.1
  rw [Char.ofNat_toNat, if_neg (by simpa using hcapital)] at hascii
  rw [parserRuleName, hname]
  exact if_neg (by simp [hascii])

lemma beginsSmall_parserRuleName_of_capital (h : beginsCapital name = true) :
    beginsSmall (parserRuleName name) = true := by
  rcases (Option.any_eq_true _ _).mp h with ⟨c, hhead, hupper⟩
  obtain ⟨cs, hname⟩ := List.head?_eq_some_iff.mp hhead
  have hcode := toNat_of_isAlpha (c := c) (by simp [Char.isAlpha, hupper])
  have hascii := isUppercase_ascii c.toNat hcode.2 hcode.1
  rw [Char.ofNat_toNat, if_pos hupper] at hascii
  rcases (Option.any_eq_true _ _).mp hascii.2 with ⟨small, hsmall, hlower⟩
  rw [parserRuleName, hname, beginsSmall]
  dsimp only
  rw [if_pos hascii.1, String.toList_ofList, List.head?_append, hsmall]
  exact hlower

lemma IsAsciiIdentifier.parserRuleName_eq_of_underscore (h : IsAsciiIdentifier name)
    (hunderscore : beginsUnderscore name = true) : parserRuleName name = name := by
  refine h.parserRuleName_eq ?_
  rw [← Bool.not_eq_true]
  intro hcapital
  rw [not_beginsUnderscore_of_capital hcapital] at hunderscore
  exact Bool.noConfusion hunderscore

/-- **A parser rule begins with a small letter,** unless its production begins with an
underscore. -/
lemma IsAsciiIdentifier.beginsSmall_parserRuleName (h : IsAsciiIdentifier name)
    (hunderscore : beginsUnderscore name = false) : beginsSmall (parserRuleName name) = true := by
  rcases h.begins with hcapital | hsmall | hbegins
  · exact beginsSmall_parserRuleName_of_capital hcapital
  · have hcapital : beginsCapital name = false := by
      rw [← Bool.not_eq_true]
      intro hcapital
      rw [not_beginsSmall_of_capital hcapital] at hsmall
      exact Bool.noConfusion hsmall
    rwa [h.parserRuleName_eq hcapital]
  · rw [hunderscore] at hbegins
    exact Bool.noConfusion hbegins

end Beginnings

/-! ## Names in the two grammars -/

/-- **Whether a lexer mentions a mode,** in a header or as one that a rule switches to. -/
def LexerGrammar.MentionsMode (lexer : LexerGrammar) (mode : String) : Prop :=
  mode ∈ lexer.shownModes.map Mode.name ∨ ∃ rule ∈ lexer.documentRules, rule.SwitchesTo mode

end GrammarConversion.Antlr

namespace GrammarConversion.Conversion

open Antlr
open LexerGrammar
open Model
open NameSupply

/-- **Whether all names in two grammars are legal,** those of rules and of modes as well as those
that rules mention. -/
structure HasLegalNames (grammar : Grammar) (pair : GrammarPair) : Prop where
  lexerRules : ∀ rule ∈ pair.lexer.documentRules, beginsCapital rule.name = true
  types : ∀ rule ∈ pair.lexer.documentRules, ∀ other, .type other ∈ rule.commands →
    beginsUnderscore other = false
  modes : ∀ mode, pair.lexer.MentionsMode mode → beginsUnderscore mode = false
  parserRules : ∀ rule ∈ pair.parser.rules, beginsSmall rule.name = true
  elements : ∀ production ∈ grammar.bnfProductions,
    ∀ element ∈ ruleElements grammar pair.lexer production, beginsUnderscore element = false

/-- **A grammar whose labels, lexical states and productions have ASCII identifiers as names.** -/
structure HasAsciiIdentifiers (grammar : Grammar) : Prop where
  labels : ∀ spec ∈ grammar.specs, ∀ label, spec.label? = some label → IsAsciiIdentifier label
  states : ∀ state, grammar.HasState state → IsAsciiIdentifier state
  productions : ∀ production ∈ grammar.bnfProductions, IsAsciiIdentifier production.name

/-- **What a lexer rule is named after:** the label of a token, or a lexical state from which the
rule refers to another one. -/
inductive NamedAfter (grammar : Grammar) (rule : Rule) : String → Prop
  | label {spec : TokenSpec} {label : String} (hspec : spec ∈ grammar.specs)
      (hlabel : spec.label? = some label) (hname : rule.name = ruleName label) :
      NamedAfter grammar rule label
  | state {state target : String} (hstate : grammar.HasState state)
      (hname : rule.name = ruleName (state ++ "_" ++ target)) : NamedAfter grammar rule state

section Names

variable {grammar : Grammar} {space : Workspace} {pair : GrammarPair} {rule : Rule}
  {name source mode : String}

/-! ## Lexer rules -/

/-- A rule begins as what it is named after does, an underscore apart. -/
lemma NamedAfter.exists_ruleName (h : NamedAfter grammar rule source)
    (hidentifiers : HasAsciiIdentifiers grammar) :
    IsAsciiIdentifier source ∧ ∃ more, rule.name = ruleName (source ++ more) := by
  cases h with
  | label hspec hlabel hname =>
      exact ⟨hidentifiers.labels _ hspec _ hlabel, "", by rwa [String.append_empty]⟩
  | @state state target hstate hname =>
      exact ⟨hidentifiers.states _ hstate, "_" ++ target, by rwa [← String.append_assoc]⟩

lemma NamedAfter.name_beginsSmall (h : NamedAfter grammar rule source)
    (hidentifiers : HasAsciiIdentifiers grammar) (hsource : beginsSmall source = true) :
    beginsSmall rule.name = true := by
  rcases h.exists_ruleName hidentifiers with ⟨hidentifier, more, hname⟩
  rw [hname]
  refine beginsSmall_ruleName ?_
  rwa [beginsSmall, hidentifier.head?_append]

lemma NamedAfter.name_beginsCapital (h : NamedAfter grammar rule source)
    (hidentifiers : HasAsciiIdentifiers grammar) (hsource : beginsSmall source = false) :
    beginsCapital rule.name = true := by
  rcases h.exists_ruleName hidentifiers with ⟨hidentifier, more, hname⟩
  rw [hname]
  refine beginsCapital_ruleName ?_
  rw [beginsCapital, beginsUnderscore, hidentifier.head?_append]
  rcases hidentifier.begins with hcapital | hsmall | hunderscore
  · exact .inl hcapital
  · rw [hsource] at hsmall
    exact Bool.noConfusion hsmall
  · exact .inr hunderscore

lemma beginsCapital_numbered (kind : ProductionKind) (number : Nat) :
    beginsCapital (numbered kind number) = true := by
  rw [beginsCapital, toList_numbered]
  cases kind <;> rfl

/-- **A rule begins with a capital letter,** unless it is named after something small. -/
lemma beginsCapital_of_mem_rules (hidentifiers : HasAsciiIdentifiers grammar)
    (haccounted : space.Accounted grammar) (hrule : rule ∈ space.lexer.rules)
    (hsources : ∀ source, NamedAfter grammar rule source → beginsSmall source = false) :
    beginsCapital rule.name = true := by
  have hnamed : ∀ {source}, NamedAfter grammar rule source → beginsCapital rule.name = true :=
    fun hsource => hsource.name_beginsCapital hidentifiers (hsources _ hsource)
  rcases haccounted.distinctModes.exists_mode hrule with ⟨mode, hmem⟩
  cases haccounted.origin mode rule hmem with
  | labelled hproduction hspec hlabel _ hname =>
      exact hnamed (.label (List.mem_flatMap.mpr ⟨_, hproduction, hspec⟩) hlabel hname)
  | generated hgenerated =>
      rcases hgenerated.2 with ⟨kind, number, hname⟩
      rw [hname]
      exact beginsCapital_numbered kind number
  | aliased halias =>
      rcases halias with ⟨target, hrefers⟩
      rcases hrefers.named with ⟨production, hproduction, hexplicit, state, hstate, -, hname⟩
      exact hnamed (.state ⟨production, hproduction, hexplicit, hstate⟩ hname)

lemma letter_beginsCapital : ∀ letter ∈ allLetterRules, beginsCapital letter.name = true := by
  decide

/-! ## Types -/

/-- **No rule begins with an underscore,** and neither does a type that one gives. -/
lemma not_beginsUnderscore_of_convertTokens (hrun : convertTokens name grammar = (space, .ok ())) :
    ∀ mode, ∀ rule ∈ space.lexer.rulesIn mode, beginsUnderscore rule.name = false ∧
      ∀ other, .type other ∈ rule.commands → beginsUnderscore other = false := by
  refine (reaches_convertTokens hrun).forall_rules (Workspace.sound_initialWorkspace name grammar)
    (fun {lexer mode rule stored} hrequest hnew hbefore => ⟨?_, fun other hother => ?_⟩)
    (by simp [Workspace.rulesIn_initialWorkspace])
  · cases hnew.takes with
    | given _ hname =>
        rw [hname]
        exact not_beginsUnderscore_ruleName rule.name
    | drawn _ hgenerated _ =>
        rw [← hgenerated.ruleName_eq]
        exact not_beginsUnderscore_ruleName stored.name
  · rw [hnew.commands] at hother
    cases hrequest with
    | full _ hcommands => exact absurd hother (hcommands.type_notMem other)
    | @aliased production spec body kind target state _ _ _ _ _ htarget =>
        rw [eq_of_type_mem_aliasRule hother]
        rcases htarget with rfl | ⟨mode, existing, hexisting, rfl⟩
        · rw [givenName]
          cases spec.label? with
          | none => rfl
          | some label => exact not_beginsUnderscore_ruleName label
        · exact (hbefore mode existing hexisting).1

/-! ## Modes -/

/-- **A lexer only mentions the modes of states that the grammar mentions,** and the default
mode. -/
lemma exists_state_of_mentionsMode (hrun : convertTokens name grammar = (space, .ok ()))
    (hmode : space.lexer.MentionsMode mode) :
    mode = defaultMode ∨ ∃ state, grammar.MentionsState state ∧ mode = modeName state := by
  have haccounted := accounted_of_convertTokens hrun
  rcases hmode with hshown | ⟨rule, hrule, hswitch⟩
  · rcases List.mem_map.mp hshown with ⟨found, hfound, rfl⟩
    rcases List.mem_filter.mp hfound with ⟨hmem, hsection⟩
    rcases Bool.or_eq_true_iff.mp hsection with hdefault | hfilled
    · exact .inl (of_decide_eq_true hdefault)
    · obtain ⟨rule, hrule⟩ := List.exists_mem_of_ne_nil found.rules (by simpa using hfilled)
      rw [← haccounted.distinctModes.rulesIn_eq hmem] at hrule
      exact (exists_state_of_mem_rulesIn hrun _ rule hrule).imp_right
        fun ⟨state, hstate, hname⟩ => ⟨state, .inl hstate, hname⟩
  · rcases mem_documentRules hrule with hrule | hletter
    · rcases haccounted.distinctModes.exists_mode hrule with ⟨_, hmem⟩
      exact .inr (exists_state_of_switchesTo hrun _ rule hmem mode hswitch)
    · rcases hswitch with ⟨command, hcommand, -⟩
      rw [letter_commands rule (haccounted.sound.letters rule hletter).2] at hcommand
      exact absurd hcommand List.not_mem_nil

/-! ## Elements -/

/-- What holds of the second members of related pairs holds along the second list. -/
lemma forall_mem_of_forall₂ {α β : Type} {holds : β → Prop} {first : List α} {second : List β}
    (h : List.Forall₂ (fun _ member => holds member) first second) :
    ∀ member ∈ second, holds member := by
  induction h with
  | nil => simp
  | cons hmember _ ih => exact List.forall_mem_cons.mpr ⟨hmember, ih⟩

/-- **No element begins with an underscore** unless it is a call of a production that does. -/
lemma not_beginsUnderscore_of_mem_ruleElements {rules : List Rule}
    (hrun : convertTokens name grammar = (space, .ok ()))
    (hidentifiers : HasAsciiIdentifiers grammar)
    (hproductions : ∀ production ∈ grammar.bnfProductions,
      beginsUnderscore production.name = false)
    (hrules : List.Forall₂ (IsRuleFor grammar space.lexer) grammar.bnfProductions rules)
    {production : BnfProduction} (hproduction : production ∈ grammar.bnfProductions) :
    ∀ element ∈ ruleElements grammar space.lexer production,
      beginsUnderscore element = false := by
  rcases exists_isRuleFor hrules production hproduction with ⟨rule, hrule⟩
  refine forall_mem_of_forall₂ (hrule.forall₂_symbols fun symbol hsymbol element helement => ?_)
  cases symbol with
  | call called =>
      rcases List.mem_map.mp (mem_productionNames_of_call hsymbol) with ⟨callee, hcallee, rfl⟩
      rw [← Option.some.inj helement]
      exact not_beginsUnderscore_of_small ((hidentifiers.productions callee
        hcallee).beginsSmall_parserRuleName (hproductions callee hcallee))
  | literal image =>
      rcases Option.map_eq_some_iff.mp helement with ⟨found, hfound, rfl⟩
      rcases (accounted_of_convertTokens hrun).distinctModes.exists_mode
        (of_ruleForImage?_eq_some hfound).1 with ⟨mode, hmem⟩
      exact (not_beginsUnderscore_of_convertTokens hrun mode found hmem).1
  | reference label =>
      rw [← Option.some.inj helement]
      exact not_beginsUnderscore_ruleName label
  | endOfFile =>
      rw [← Option.some.inj helement]
      decide

/-! ## All names -/

/-- **Only what a name is taken from makes it illegal.**  Let the labels, lexical states and
productions of a grammar have ASCII identifiers as names, and let the grammar be converted.  Then
all names in the two grammars are legal if and only if no lexer rule is named after a label or a
state that begins with a small letter, no state whose mode is mentioned begins with an underscore,
and no production does. -/
theorem hasLegalNames_iff (h : (convert name grammar).result = .ok pair)
    (hidentifiers : HasAsciiIdentifiers grammar) :
    HasLegalNames grammar pair ↔
      (∀ rule ∈ pair.lexer.rules, ∀ source, NamedAfter grammar rule source →
        beginsSmall source = false) ∧
      (∀ state, grammar.MentionsState state → pair.lexer.MentionsMode (modeName state) →
        beginsUnderscore state = false) ∧
      ∀ production ∈ grammar.bnfProductions, beginsUnderscore production.name = false := by
  rcases of_convert_eq_ok h with ⟨space, htokens, hlexer, hparser⟩
  rcases pair with ⟨lexer, parser⟩
  obtain rfl : lexer = space.lexer := hlexer
  have haccounted := accounted_of_convertTokens htokens
  have hrules := forall₂_of_parserRules hparser
  have hnames : parser.rules.map Rule.name
      = (grammar.bnfProductions.map BnfProduction.name).map parserRuleName :=
    map_name_of_forall₂ hrules
  constructor
  · intro hlegal
    refine ⟨fun rule hrule source hsource => ?_, fun state _ hmode => ?_,
      fun production hproduction => ?_⟩
    · rw [← Bool.not_eq_true]
      intro hsmall
      have hcapital := hlegal.lexerRules rule (mem_documentRules_of_mem_rules hrule)
      have hname := hsource.name_beginsSmall hidentifiers hsmall
      rw [not_beginsSmall_of_capital hcapital] at hname
      exact Bool.noConfusion hname
    · rw [← beginsUnderscore_modeName]
      exact hlegal.modes _ hmode
    · have hmem : parserRuleName production.name ∈ parser.rules.map Rule.name := by
        rw [hnames]
        exact List.mem_map_of_mem (List.mem_map_of_mem hproduction)
      rcases List.mem_map.mp hmem with ⟨rule, hrule, hname⟩
      have hsmall := hlegal.parserRules rule hrule
      rw [hname] at hsmall
      rw [← Bool.not_eq_true]
      intro hunderscore
      rw [(hidentifiers.productions production hproduction).parserRuleName_eq_of_underscore
        hunderscore] at hsmall
      rw [not_beginsUnderscore_of_small hsmall] at hunderscore
      exact Bool.noConfusion hunderscore
  · rintro ⟨hsources, hmodes, hproductions⟩
    refine ⟨fun rule hrule => ?_, fun rule hrule => ?_, fun mode hmode => ?_, fun rule hrule => ?_,
      fun production hproduction => ?_⟩
    · rcases mem_documentRules hrule with hrule | hletter
      · exact beginsCapital_of_mem_rules hidentifiers haccounted hrule (hsources rule hrule)
      · exact letter_beginsCapital rule (haccounted.sound.letters rule hletter).2
    · rcases mem_documentRules hrule with hrule | hletter
      · rcases haccounted.distinctModes.exists_mode hrule with ⟨mode, hmem⟩
        exact (not_beginsUnderscore_of_convertTokens htokens mode rule hmem).2
      · rw [letter_commands rule (haccounted.sound.letters rule hletter).2]
        exact fun other hother => absurd hother List.not_mem_nil
    · rcases exists_state_of_mentionsMode htokens hmode with rfl | ⟨state, hstate, rfl⟩
      · decide
      · rw [beginsUnderscore_modeName]
        exact hmodes state hstate hmode
    · have hmem : rule.name ∈ (grammar.bnfProductions.map BnfProduction.name).map parserRuleName := by
        rw [← hnames]
        exact List.mem_map_of_mem hrule
      rcases List.mem_map.mp hmem with ⟨called, hcalled, hname⟩
      rcases List.mem_map.mp hcalled with ⟨production, hproduction, rfl⟩
      rw [← hname]
      exact (hidentifiers.productions production hproduction).beginsSmall_parserRuleName
        (hproductions production hproduction)
    · exact not_beginsUnderscore_of_mem_ruleElements htokens hidentifiers hproductions hrules
        hproduction

end Names

/-- A token of two states and a production that calls itself, with their names. -/
def namedGrammar (label state production : String) : Grammar :=
  { tokenProductions :=
      [{ kind := .known .token
         listedStates := ["DEFAULT", state]
         specs := [{ tree := .regex (.literal "x"), label := some label }] }]
    bnfProductions :=
      [{ name := production
         tree := .expansion (.sequence [.literal "x", .zeroOrOne (.nonTerminal production)]) }] }

section Sample

variable {label state production other : String}

lemma eq_of_label_namedGrammar {spec : TokenSpec}
    (hspec : spec ∈ (namedGrammar label state production).specs)
    (hlabel : spec.label? = some other) : other = label := by
  obtain rfl := List.mem_singleton.mp hspec
  exact (Option.some.inj (Option.filter_eq_some_iff.mp hlabel).1).symm

lemma eq_of_hasState_namedGrammar (h : (namedGrammar label state production).HasState other) :
    other = defaultState ∨ other = state := by
  rcases h with ⟨source, hsource, -, hstate⟩
  obtain rfl := List.mem_singleton.mp hsource
  exact List.mem_pair.mp hstate

lemma hasAsciiIdentifiers_namedGrammar (hlabel : IsAsciiIdentifier label)
    (hstate : IsAsciiIdentifier state) (hproduction : IsAsciiIdentifier production) :
    HasAsciiIdentifiers (namedGrammar label state production) := by
  refine ⟨fun spec hspec other hother => ?_, fun other hother => ?_, fun source hsource => ?_⟩
  · rwa [eq_of_label_namedGrammar hspec hother]
  · rcases eq_of_hasState_namedGrammar hother with rfl | rfl
    · decide
    · exact hstate
  · rwa [List.mem_singleton.mp hsource]

end Sample

set_option maxRecDepth 2000 in
/-- A label may begin with an underscore. -/
theorem hasLegalNames_namedGrammar :
    ∃ pair, (convert "G" (namedGrammar "_X" "S" "start")).result = .ok pair ∧
      pair.parser.rules = [{ name := "start", body := .text "US__X start?" }] ∧
      HasLegalNames (namedGrammar "_X" "S" "start") pair := by
  have hok : (convert "G" (namedGrammar "_X" "S" "start")).result = .ok
      ⟨(convertTokens "GLexer" (namedGrammar "_X" "S" "start")).1.lexer,
        { name := "GParser"
          rules := [{ name := "start", body := .text "US__X start?" }] }⟩ := by cbv
  have hidentifiers : HasAsciiIdentifiers (namedGrammar "_X" "S" "start") :=
    hasAsciiIdentifiers_namedGrammar (by decide) (by decide) (by decide)
  refine ⟨_, hok, rfl, (hasLegalNames_iff hok hidentifiers).mpr
    ⟨fun rule _ source hsource => ?_, fun state hstate _ => ?_, fun production hproduction => ?_⟩⟩
  · cases hsource with
    | label hspec hlabel _ =>
        rw [eq_of_label_namedGrammar hspec hlabel]
        decide
    | state hstate _ =>
        rcases eq_of_hasState_namedGrammar hstate with rfl | rfl <;> decide
  · rcases hstate with hstate | ⟨spec, hspec, hnext⟩
    · rcases eq_of_hasState_namedGrammar hstate with rfl | rfl <;> decide
    · obtain rfl := List.mem_singleton.mp hspec
      cases hnext
  · rw [List.mem_singleton.mp hproduction]
    decide

set_option maxRecDepth 2000 in
/-- **Identifiers need not make legal names:** a small label makes a lexer rule with a small letter,
and a state and a production with underscores make a mode and a parser rule with underscores. -/
theorem hasLegalNames_exception :
    HasAsciiIdentifiers (namedGrammar "x" "_S" "_start") ∧
      ∃ pair, (convert "G" (namedGrammar "x" "_S" "_start")).result = .ok pair ∧
        (∃ rule ∈ pair.lexer.documentRules, beginsCapital rule.name = false) ∧
        (∃ mode, pair.lexer.MentionsMode mode ∧ beginsUnderscore mode = true) ∧
        ∃ rule ∈ pair.parser.rules, beginsUnderscore rule.name = true := by
  have hok : (convert "G" (namedGrammar "x" "_S" "_start")).result = .ok
      ⟨(convertTokens "GLexer" (namedGrammar "x" "_S" "_start")).1.lexer,
        { name := "GParser"
          rules := [{ name := "_start", body := .text "x _start?" }] }⟩ := by cbv
  refine ⟨hasAsciiIdentifiers_namedGrammar (by decide) (by decide) (by decide), _, hok,
    ⟨{ name := "x", body := .text "'x'" }, ?_, by decide⟩, ⟨"_S", .inl ?_, by decide⟩,
    ⟨_, List.mem_cons_self, by decide⟩⟩
  · decide +kernel
  · decide +kernel

end GrammarConversion.Conversion
