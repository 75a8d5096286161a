import GrammarConversion.Proofs.LexerState.LetterRules

/-!
# Generated names are fresh

While a lexer is built, a token without a label asks the supply of names for one, and passes over
names that some rule has by then.  Nothing is checked when a rule with a name of its own is added
later, in the same mode or in another.  Nor need it be: the names of labels are reserved from the
beginning, those of rules that refer to others hold an underscore, and those of letters are too
short.

**`generatedNames_fresh`: a name that the supply gives is used once.**  This does not ask for labels
that are different.  The counters of the supply say which names it has given (`Gives`), and each
rule whose name comes neither from a label nor from a lexical state has one of them.
-/

namespace GrammarConversion.Conversion

open Antlr
open LexerGrammar
open Model
open NameSupply

section Given

variable {grammar : Grammar} {space space' : Workspace} {mode : String} {rule : Rule}
  {kind : ProductionKind}

/-! ## What the supply gives on the way -/

/-- **Whether some names are given on the way between two workspaces,** and the new rules with
generated names have them. -/
structure Supplies (grammar : Grammar) (space : Workspace) (given : List String)
    (space' : Workspace) : Prop where
  gives : Gives space.names given space'.names
  named : ∀ mode, ∀ rule ∈ space'.lexer.rulesIn mode,
    IsGenerated (reservedNames grammar) rule.name →
      rule ∈ space.lexer.rulesIn mode ∨ rule.name ∈ given

/-- A rule without a name gets the one that is given last, unless the mode has a rule for it. -/
lemma exists_gives_of_adding {lexer lexer' : LexerGrammar} {names names' : NameSupply}
    {result : Option Rule}
    (h : Adding lexer mode rule names (some fun names => names.next kind) lexer' names'
      (.ok result)) :
    ∃ given, Gives names given names' ∧ (rule.name = "" → ∀ stored, result = some stored →
      stored ∈ lexer.rulesIn mode ∨ stored.name ∈ given) := by
  cases h with
  | named hname _ => exact ⟨[], .nil names, fun hempty => absurd hempty hname⟩
  | @duplicate found existing _ hmode hindexed =>
      refine ⟨[], .nil names, fun _ stored hstored => .inl ?_⟩
      rcases Option.bind_eq_some_iff.mp hindexed with ⟨position, -, hposition⟩
      rw [← Option.some.inj hstored, ← rulesIn_addMode lexer mode, rulesIn_of_mode? hmode]
      exact List.mem_of_getElem? hposition
  | @drawn _ _ draw drawn _ hdraw hdrawn hsettle =>
      cases hdraw
      have hdraws := drawUnused_next names kind (lexer.addMode mode)
      rcases gives_drawUnused kind (fun name => ((lexer.addMode mode).ruleNamed? name).isSome)
        (lexer.addMode mode).rules.length names with ⟨passed, hgives⟩
      rw [← hdrawn] at hdraws hgives
      refine ⟨passed ++ [drawn.1], hgives, fun _ stored hstored => .inr ?_⟩
      subst hstored
      rcases mode?_addMode_self lexer mode with ⟨found, hfound⟩
      have hname : stored.name = ruleName drawn.1 := (hsettle.settled hfound).1
      rw [hname, hdraws.generated.ruleName_eq, List.mem_append, List.mem_singleton]
      exact .inr rfl

/-- **A move is supplied with names.** -/
lemma Move.exists_supplies (hsound : space.Sound grammar) (hmove : Move grammar space space') :
    ∃ given, Supplies grammar space given space' := by
  cases hmove with
  | noted => exact ⟨[], .nil _, fun _ _ hrule _ => .inl hrule⟩
  | registered mode =>
      refine ⟨[], .nil _, fun other rule hrule _ => .inl ?_⟩
      rwa [rulesIn_addMode] at hrule
  | @requested _ mode rule _ _ hrequest hadded =>
      rcases exists_gives_of_adding (Workspace.adding_of_addRule hadded) with
        ⟨given, hgives, hnamed⟩
      refine ⟨given, hgives, fun other existing hexisting hgenerated => ?_⟩
      cases hsound.gain hadded with
      | dropped _ _ _ hrules => exact .inl (by rwa [← hrules])
      | kept _ _ _ _ hrules => exact .inl (by rwa [← hrules])
      | added hnew hrules hframe =>
          by_cases hother : other = mode
          · subst hother
            rw [hrules, List.mem_append, List.mem_singleton] at hexisting
            rcases hexisting with hbefore | rfl
            · exact .inl hbefore
            · cases hnew.takes with
              | given hne hname =>
                  rw [hname] at hgenerated
                  exact absurd hgenerated (hrequest.not_isGenerated hne)
              | drawn hempty => exact hnamed hempty existing rfl
          · exact .inl (by rwa [← hframe other hother])

lemma Reaches.exists_supplies (hreaches : Reaches grammar space space')
    (hsound : space.Sound grammar) : ∃ given, Supplies grammar space given space' := by
  induction hreaches with
  | refl => exact ⟨[], .nil _, fun _ _ hrule _ => .inl hrule⟩
  | tail hbefore hmove ih =>
      rcases ih with ⟨given, hgives, hnamed⟩
      rcases hmove.exists_supplies (Reaches.sound hbefore hsound) with ⟨more, hmore, hnew⟩
      refine ⟨given ++ more, hgives.append hmore, fun mode rule hrule hgenerated => ?_⟩
      rcases hnew mode rule hrule hgenerated with hmid | hname
      · exact (hnamed mode rule hmid hgenerated).imp_right (List.mem_append_left more)
      · exact .inr (List.mem_append_right given hname)

/-! ## Where generated names do not stand -/

/-- **A generated name is no label,** not even one that is empty. -/
lemma ne_ruleName_of_isGenerated {name : String}
    (hgenerated : IsGenerated (reservedNames grammar) name) {spec : TokenSpec}
    (hspec : spec ∈ grammar.specs) {label : String} (hlabel : spec.label = some label) :
    name ≠ ruleName label := by
  rintro rfl
  by_cases hempty : label = ""
  · subst hempty
    exact absurd hgenerated.one_lt_length (by decide)
  · have hlabel' : spec.label? = some label :=
      Option.filter_eq_some_iff.mpr ⟨hlabel, by simpa using hempty⟩
    exact hgenerated.1 (mem_reservedNames hspec hlabel')

/-- A generated name is not the name of a letter. -/
lemma ne_letter_of_isGenerated {reserved : List String} {name : String}
    (hgenerated : IsGenerated reserved name) : ∀ letter ∈ allLetterRules, name ≠ letter.name := by
  have hshort : ∀ letter ∈ allLetterRules, letter.name.toList.length = 1 := by decide
  rintro letter hletter rfl
  have hlength := hgenerated.one_lt_length
  rw [hshort letter hletter] at hlength
  exact absurd hlength (Nat.lt_irrefl 1)

/-- **At most one rule of all modes has a generated name.** -/
lemma Workspace.Accounted.length_filter_rules_le (h : space.Accounted grammar) {name : String}
    (hgenerated : IsGenerated (reservedNames grammar) name) :
    (space.lexer.rules.filter fun rule => rule.name == name).length ≤ 1 := by
  cases hfirst : space.lexer.ruleNamed? name with
  | none =>
      have hnone : space.lexer.rules.filter (fun rule => rule.name == name) = [] :=
        List.filter_eq_nil_iff.mpr (List.find?_eq_none.mp hfirst)
      simp [hnone]
  | some rule =>
      have hname : rule.name = name := by simpa using List.find?_some hfirst
      subst hname
      rcases h.distinctModes.exists_mode (List.mem_of_find?_eq_some hfirst) with ⟨mode, hrule⟩
      rw [h.filter_rules_eq hrule fun mode' rule' hrule' hsame =>
        h.generated mode mode' rule hrule rule' hrule' hgenerated hsame]
      exact Nat.le_refl 1

/-- **Generated names are fresh.**  Let the token productions of a grammar be converted; its labels
may repeat.  Then the supply has given some names on the way.  No name is given twice, and a name
that is given is different

* from the name of each label of the grammar, wherever it stands,
* from the name of each rule that refers to another one from a lexical state,
* and from the name of each letter,

and no two rules of the lexer have it.  A rule with any other name is that of a label or refers to
another one. -/
theorem generatedNames_fresh {name : String}
    (hrun : convertTokens name grammar = (space, .ok ())) :
    (∃ given, Gives (initialWorkspace name grammar).names given space.names) ∧
      ∀ given, Gives (initialWorkspace name grammar).names given space.names →
        given.Nodup ∧
          (∀ generated ∈ given,
            (∀ production ∈ grammar.tokenProductions, ∀ spec ∈ production.specs, ∀ label,
              spec.label = some label → generated ≠ ruleName label) ∧
            (∀ state target, generated ≠ ruleName (state ++ "_" ++ target)) ∧
            (∀ letter ∈ allLetterRules, generated ≠ letter.name) ∧
            (space.lexer.rules.filter fun rule => rule.name == generated).length ≤ 1) ∧
          ∀ mode, ∀ rule ∈ space.lexer.rulesIn mode,
            rule.name ∈ given ∨ rule.name ∈ reservedNames grammar ∨ IsAlias grammar mode rule := by
  have haccounted := accounted_of_convertTokens hrun
  rcases (reaches_convertTokens hrun).exists_supplies
    (Workspace.sound_initialWorkspace name grammar) with ⟨supplied, hsupplied⟩
  refine ⟨⟨supplied, hsupplied.gives⟩, fun given hgives => ⟨hgives.nodup, ?_, ?_⟩⟩
  · intro generated hmem
    have hgenerated : IsGenerated (reservedNames grammar) generated := hgives.isGenerated hmem
    refine ⟨fun production hproduction spec hspec label hlabel => ?_, ?_,
      ne_letter_of_isGenerated hgenerated, haccounted.length_filter_rules_le hgenerated⟩
    · exact ne_ruleName_of_isGenerated hgenerated
        (List.mem_flatMap.mpr ⟨production, hproduction, hspec⟩) hlabel
    · rintro state target rfl
      exact hgenerated.underscore_notMem (underscore_mem_ruleName state target)
  · intro mode rule hrule
    cases haccounted.origin mode rule hrule with
    | labelled hproduction hspec hlabel _ hname =>
        rw [hname]
        exact .inr (.inl (mem_reservedNames
          (List.mem_flatMap.mpr ⟨_, hproduction, hspec⟩) hlabel))
    | generated hgenerated _ =>
        rcases hsupplied.named mode rule hrule hgenerated with hbefore | hsame
        · rw [Workspace.rulesIn_initialWorkspace] at hbefore
          exact absurd hbefore List.not_mem_nil
        · exact .inl ((hgives.mem_iff _).mpr ((hsupplied.gives.mem_iff _).mp hsame))
    | aliased halias => exact .inr (.inr halias)

end Given

/-- A token of two states without a label, and a later one whose label looks like a generated
name. -/
def laterLabel : Grammar :=
  { tokenProductions :=
      [{ kind := .known .token
         listedStates := ["DEFAULT", "S"]
         specs := [{ tree := .regex (.literal "x") }] },
        { kind := .known .token
          listedStates := ["S"]
          specs := [{ tree := .regex (.literal "y"), label := some "TOKEN0" }] }]
    bnfProductions := [] }

/-- The name with the number of the later label is passed over. -/
theorem generatedNames_fresh_laterLabel :
    Gives (initialWorkspace "L" laterLabel).names ["TOKEN1"]
        (convertTokens "L" laterLabel).1.names ∧
      ((convertTokens "L" laterLabel).1.lexer.rules.filter
        fun rule => rule.name == "TOKEN1").length ≤ 1 := by
  have hok : (convertTokens "L" laterLabel).2 = .ok () := rfl
  have hgives : Gives (initialWorkspace "L" laterLabel).names ["TOKEN1"]
      (convertTokens "L" laterLabel).1.names := .cons .token (.nil _)
  have hfresh := ((generatedNames_fresh (Prod.ext rfl hok)).2 _ hgives).2.1 "TOKEN1"
    List.mem_cons_self
  exact ⟨hgives, hfresh.2.2.2⟩

end GrammarConversion.Conversion
