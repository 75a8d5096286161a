import GrammarConversion.Proofs.LexerState.Moves

/-!
# Where the rules of a lexer come from

A rule of a lexer under construction is of one of three kinds (`Origin`).  It is the rule of a token
with a label and has the name of the label; or it is the rule of a token without one and has a
generated name; or it refers to another rule from a lexical state, and its name and its body say so
(`IsAlias`).

`Workspace.Accounted` puts this together with what else is known of the rules: within a mode they
have different names, two rules with one generated name are in the same mode, and a letter has its
letter rule until some rule has taken the name of the letter.

**`accounted_of_convertTokens`: all of this holds of the finished lexer.**
-/

namespace GrammarConversion.Conversion

open Antlr
open LexerGrammar
open Model
open NameSupply

/-! ## Kinds of rules -/

/-- **Whether a rule refers to the rule `target`** from a lexical state of the grammar. -/
structure RefersTo (grammar : Grammar) (mode : String) (rule : Rule) (target : String) : Prop where
  named : ∃ production ∈ grammar.tokenProductions, production.isExplicit = true ∧
    ∃ state ∈ production.states, mode = modeName state ∧
      rule.name = ruleName (state ++ "_" ++ target)
  body : rule.body = .text target
  isToken : rule.isFragment = false
  types : ∀ other, .type other ∈ rule.commands → other = target

/-- **Whether a rule of a mode refers to another rule** from a lexical state. -/
def IsAlias (grammar : Grammar) (mode : String) (rule : Rule) : Prop :=
  ∃ target, RefersTo grammar mode rule target

/-- **Where a rule of a mode comes from.** -/
inductive Origin (grammar : Grammar) (mode : String) (rule : Rule) : Prop
  /-- A token with a label. -/
  | labelled {production : TokenProduction} {spec : TokenSpec} {label : String}
      (hproduction : production ∈ grammar.tokenProductions) (hspec : spec ∈ production.specs)
      (hlabel : spec.label? = some label) (hmode : mode = homeMode production)
      (hname : rule.name = ruleName label)
      (hfragment : rule.isFragment = (production.isExplicit && spec.isPrivate))
      (htypes : ∀ other, .type other ∉ rule.commands)
  /-- A token without a label. -/
  | generated (hname : IsGenerated (reservedNames grammar) rule.name)
      (htypes : ∀ other, .type other ∉ rule.commands)
  /-- A token of another rule in one more state. -/
  | aliased (halias : IsAlias grammar mode rule)

section Kinds

variable {grammar : Grammar} {lexer : LexerGrammar} {mode target : String} {rule stored : Rule}
  {production : TokenProduction} {spec : TokenSpec} {kind : ProductionKind}
  {commands : List Command}

lemma type_notMem_kindCommands (kind : ProductionKind) (other : String) :
    .type other ∉ kindCommands kind := by
  cases kind <;> simp [kindCommands]

lemma type_notMem_stateCommands (settings : TokenSettings) (spec : TokenSpec)
    (state other : String) : .type other ∉ stateCommands settings spec state := by
  unfold stateCommands
  dsimp only
  split_ifs
  · simp
  · simp
  · split <;> simp

/-- **Only the rules that refer to others give a type.** -/
lemma FullCommands.type_notMem (h : FullCommands grammar production spec commands)
    (other : String) : .type other ∉ commands := by
  rcases h with rfl | ⟨-, kind, -, state, -, rfl⟩
  · exact List.not_mem_nil
  · rw [List.mem_append, not_or]
    exact ⟨type_notMem_kindCommands kind other, type_notMem_stateCommands _ spec state other⟩

lemma eq_of_type_mem_aliasRule {state other : String}
    (h : .type other ∈ (aliasRule grammar kind spec target state).commands) : other = target := by
  rw [aliasRule, List.mem_append, List.mem_append] at h
  rcases h with (h | h) | h
  · exact absurd h (type_notMem_kindCommands kind other)
  · split at h
    · exact Command.type.inj (List.mem_singleton.mp h)
    · exact absurd h List.not_mem_nil
  · exact absurd h (type_notMem_stateCommands _ spec state other)

lemma RefersTo.name_ne (h : RefersTo grammar mode rule target) : target ≠ rule.name := by
  rcases h.named with ⟨_, _, _, state, _, _, hname⟩
  rw [hname]
  exact (ruleName_prefixed_ne state target).symm

lemma RefersTo.underscore_mem (h : RefersTo grammar mode rule target) :
    '_' ∈ rule.name.toList := by
  rcases h.named with ⟨_, _, _, state, _, _, hname⟩
  rw [hname]
  exact underscore_mem_ruleName state target

/-- **The names that are asked for are not generated.** -/
lemma Request.not_isGenerated (h : Request grammar lexer mode rule) (hname : rule.name ≠ "") :
    ¬IsGenerated (reservedNames grammar) (ruleName rule.name) := by
  intro hgenerated
  cases h with
  | full hconverts _ =>
      rcases exists_label_of_givenName_ne hname with ⟨label, hlabel, hgiven⟩
      refine hgenerated.1 ?_
      rw [fullRule, hgiven, ruleName_ruleName]
      exact mem_reservedNames hconverts.spec_mem_specs hlabel
  | aliased => exact hgenerated.underscore_notMem (underscore_mem_ruleName _ _)

/-- **A new rule is of one of the three kinds.** -/
lemma Request.origin (h : Request grammar lexer mode rule)
    (hnew : New (reservedNames grammar) lexer mode rule stored) : Origin grammar mode stored := by
  cases h with
  | @full production spec body commands hconverts hcommands =>
      have htypes : ∀ other, .type other ∉ stored.commands := by
        intro other
        rw [hnew.commands]
        exact hcommands.type_notMem other
      cases hlabel : spec.label? with
      | some label =>
          exact .labelled hconverts.production_mem hconverts.spec_mem hlabel rfl
            (hnew.takes.of_fullRule.1 label hlabel) hnew.fragment htypes
      | none => exact .generated (hnew.takes.of_fullRule.2 hlabel) htypes
  | @aliased production spec body kind target state hconverts hexplicit _ _ hstate _ =>
      have hne : (aliasRule grammar kind spec target state).name ≠ "" :=
        prefixed_ne_empty state target
      cases hnew.takes with
      | given _ hname =>
          refine .aliased ⟨target, ⟨⟨production, hconverts.production_mem, hexplicit, state, hstate,
            rfl, hname⟩, ?_, hnew.fragment, ?_⟩⟩
          · rcases hnew.covers with hbody | hself
            · exact hbody
            · rw [hname] at hself
              exact absurd (Body.text.inj hself).symm (ruleName_prefixed_ne state target)
          · intro other hother
            rw [hnew.commands] at hother
            exact eq_of_type_mem_aliasRule hother
      | drawn hempty => exact absurd hempty hne

end Kinds

/-! ## Accounts of the rules -/

namespace Workspace

/-- **What is known of the rules of a lexer under construction.** -/
structure Accounted (grammar : Grammar) (space : Workspace) : Prop where
  sound : space.Sound grammar
  caseInsensitive : space.lexer.caseInsensitive = grammar.usesIgnoreCase
  distinctModes : space.lexer.HasDistinctModes
  origin : ∀ mode, ∀ rule ∈ space.lexer.rulesIn mode, Origin grammar mode rule
  nodup_names : ∀ mode, ((space.lexer.rulesIn mode).map Rule.name).Nodup
  generated : ∀ mode mode', ∀ rule ∈ space.lexer.rulesIn mode,
    ∀ rule' ∈ space.lexer.rulesIn mode', IsGenerated (reservedNames grammar) rule.name →
      rule'.name = rule.name → mode' = mode
  letters : grammar.usesIgnoreCase = true → ∀ letter ∈ allLetterRules,
    letter ∈ space.lexer.letterRules ∨
      ∃ mode, ∃ rule ∈ space.lexer.rulesIn mode, rule.name = letter.name

end Workspace

section Accounts

variable {grammar : Grammar} {space space' : Workspace} {mode : String} {rule : Rule}
  {kind : ProductionKind} {result : Option Rule}

/-- A move that leaves rules and letter rules alone keeps the accounts. -/
lemma Workspace.Accounted.of_rules (h : space.Accounted grammar)
    (hsound : space'.Sound grammar) (hshape : KeepsShape space.lexer space'.lexer)
    (hrules : ∀ mode, space'.lexer.rulesIn mode = space.lexer.rulesIn mode)
    (hletters : space'.lexer.letterRules = space.lexer.letterRules) :
    space'.Accounted grammar := by
  refine ⟨hsound, hshape.caseInsensitive.trans h.caseInsensitive, hshape.distinct h.distinctModes,
    ?_, ?_, ?_, ?_⟩
  · simpa only [hrules] using h.origin
  · simpa only [hrules] using h.nodup_names
  · simpa only [hrules] using h.generated
  · simpa only [hrules, hletters] using h.letters

/-- **The generated name of a rule is in no other mode,** whichever of two rules is the new one. -/
lemma Gain.mode_eq_of_generated (hrequest : Request grammar space.lexer mode rule)
    (hgain : Gain (reservedNames grammar) space.lexer mode rule space'.lexer result)
    (h : space.Accounted grammar) {first second : String} {old new : Rule}
    (hfirst : old ∈ space'.lexer.rulesIn first) (hsecond : new ∈ space'.lexer.rulesIn second)
    (hgenerated : IsGenerated (reservedNames grammar) old.name) (hname : new.name = old.name) :
    second = first := by
  have hfree : ∀ {stored : Rule}, New (reservedNames grammar) space.lexer mode rule stored →
      IsGenerated (reservedNames grammar) stored.name →
      ∀ other, ∀ existing ∈ space.lexer.rulesIn other, existing.name ≠ stored.name := by
    intro stored hnew hstored
    cases hnew.takes with
    | given hne heq =>
        rw [heq] at hstored
        exact absurd hstored (hrequest.not_isGenerated hne)
    | drawn _ _ hfree => exact hfree
  rcases hgain.mem_rulesIn hfirst with hfirst | ⟨rfl, hnew⟩
  · rcases hgain.mem_rulesIn hsecond with hsecond | ⟨rfl, hnew⟩
    · exact h.generated first second old hfirst new hsecond hgenerated hname
    · rw [← hname] at hgenerated
      exact absurd hname.symm (hfree hnew hgenerated first old hfirst)
  · rcases hgain.mem_rulesIn hsecond with hsecond | ⟨rfl, -⟩
    · exact absurd hname (hfree hnew hgenerated second new hsecond)
    · rfl

/-- **An addition keeps the accounts.** -/
lemma Workspace.Accounted.addRule (h : space.Accounted grammar)
    (hrequest : Request grammar space.lexer mode rule)
    (hadded : space.addRule mode rule kind = (space', .ok result)) : space'.Accounted grammar := by
  have hgain := h.sound.gain hadded
  have hshape := (Workspace.adding_of_addRule hadded).keepsShape
  refine ⟨Move.sound h.sound (.requested hrequest hadded),
    hshape.caseInsensitive.trans h.caseInsensitive, hshape.distinct h.distinctModes, ?_,
    fun other => hgain.nodup_names (h.nodup_names other), ?_, ?_⟩
  · intro other existing hexisting
    rcases hgain.mem_rulesIn hexisting with hbefore | ⟨rfl, hnew⟩
    · exact h.origin other existing hbefore
    · exact hrequest.origin hnew
  · intro first second old hfirst new hsecond hgenerated hname
    exact hgain.mode_eq_of_generated hrequest h hfirst hsecond hgenerated hname
  · intro huses letter hletter
    rcases h.letters huses letter hletter with hmem | ⟨other, existing, hexisting, hname⟩
    · exact hgain.letters hmem
    · exact .inr ⟨other, existing, hgain.subset hexisting, hname⟩

/-- **A move keeps the accounts.** -/
lemma Move.accounted (h : space.Accounted grammar) (hmove : Move grammar space space') :
    space'.Accounted grammar := by
  have hsound := hmove.sound h.sound
  cases hmove with
  | noted => exact h.of_rules hsound (KeepsShape.refl _) (fun _ => rfl) rfl
  | registered mode =>
      exact h.of_rules hsound (keepsShape_addMode _ mode) (rulesIn_addMode _ mode)
        (letterRules_addMode _ mode)
  | requested hrequest hadded => exact h.addRule hrequest hadded

lemma Reaches.accounted (hreaches : Reaches grammar space space') (h : space.Accounted grammar) :
    space'.Accounted grammar := by
  induction hreaches with
  | refl => exact h
  | tail _ hmove ih => exact hmove.accounted ih

lemma accounted_initialWorkspace (name : String) (grammar : Grammar) :
    (initialWorkspace name grammar).Accounted grammar := by
  have hnone := Workspace.rulesIn_initialWorkspace name grammar
  refine ⟨Workspace.sound_initialWorkspace name grammar, ?_, ?_, ?_, ?_, ?_, ?_⟩
  · rw [initialWorkspace]
    cases grammar.usesIgnoreCase <;> rfl
  · have hmodes : (initialWorkspace name grammar).lexer.modes = [{ name := defaultMode }] := by
      rw [initialWorkspace]
      cases grammar.usesIgnoreCase <;> rfl
    rw [HasDistinctModes, hmodes]
    simp
  · simp [hnone]
  · simp [hnone]
  · simp [hnone]
  · intro huses letter hletter
    refine .inl ?_
    rw [initialWorkspace]
    dsimp only
    rw [if_pos huses]
    exact hletter

/-- **All rules of the finished lexer are accounted for.** -/
theorem accounted_of_convertTokens {name : String}
    (h : convertTokens name grammar = (space, .ok ())) : space.Accounted grammar :=
  (reaches_convertTokens h).accounted (accounted_initialWorkspace name grammar)

end Accounts

end GrammarConversion.Conversion
