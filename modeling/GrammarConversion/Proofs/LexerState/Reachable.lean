import GrammarConversion.Conversion.Grammar
import GrammarConversion.Proofs.LexerGrammar.Calls

/-!
# Reachable workspaces

Token productions and the literals of BNF productions may be given to a lexer in any order, and
after a failure too: a workspace is `Reachable` if that has led to it.  All that happens to it on
the way is that records are made, modes are registered, and rules are added; what these three keep
holds of all reachable workspaces (`Kept`).

So the lexer of a reachable workspace is in order (`Reachable.inOrder`), and this applies to the
conversion of any grammar, whether or not it goes through (`reachable_convertTokens`).
-/

namespace GrammarConversion.Conversion

open Antlr
open LexerGrammar
open Model

/-- **The workspaces of a lexer,** however it has been used. -/
inductive Reachable (settings : TokenSettings) : Workspace → Prop
  /-- A new lexer, and a supply that gives all names but some. -/
  | fresh (name : String) (reserved : List String) (log : List LogRecord) :
      Reachable settings
        { lexer := { name := name }, names := { reserved := reserved }, log := log }
  | lettersEnabled {space : Workspace} (h : Reachable settings space) :
      Reachable settings { space with lexer := space.lexer.enableLetters }
  | mapped {space : Workspace} (h : Reachable settings space) (production : TokenProduction) :
      Reachable settings (mapProduction settings production space).1
  | promoted {space : Workspace} (h : Reachable settings space) (production : TokenProduction) :
      Reachable settings (promoteLiterals settings production space).1

/-- **Whether a property of workspaces is kept** by whatever is done to one, also where it fails. -/
structure Kept (holds : Workspace → Prop) : Prop where
  noting : ∀ (space : Workspace) (records : List LogRecord), holds space →
    holds (space.noting records)
  addMode : ∀ (space : Workspace) (mode : String), holds space →
    holds { space with lexer := space.lexer.addMode mode }
  addRule : ∀ (space : Workspace) (mode : String) (rule : Rule) (kind : ProductionKind),
    holds space → holds (space.addRule mode rule kind).1

section Keeping

variable {settings : TokenSettings} {production : TokenProduction} {kind : ProductionKind}
  {spec : TokenSpec} {body : Body} {canonical : String} {holds : Workspace → Prop}
  {space : Workspace}

lemma Kept.addModes (h : Kept holds) (states : List String) (hspace : holds space) :
    holds (space.addModes states) := by
  induction states generalizing space with
  | nil => exact hspace
  | cons state states ih => exact ih (h.addMode space (modeName state) hspace)

lemma Kept.mapStates (h : Kept holds) (states : List String) :
    ∀ (target : String) (space : Workspace), holds space →
      holds (mapStates settings kind spec body canonical states target space).1 := by
  induction states with
  | nil => exact fun _ _ hspace => hspace
  | cons state states ih =>
      intro target space hspace
      rw [Conversion.mapStates]
      split
      · exact ih target space hspace
      · have hadded := h.addRule _ (modeName state)
          (stateRule settings kind spec body canonical target state) kind
          (h.noting space (privateWarning spec) hspace)
        dsimp only
        split <;> rename_i hstep <;> rw [hstep] at hadded
        · exact hadded
        · exact ih _ _ hadded

lemma Kept.mapSpec (h : Kept holds) (states : List String) (hspace : holds space) :
    holds (mapSpec settings production kind canonical states spec space).1 := by
  rw [Conversion.mapSpec]
  split
  · exact hspace
  · exact h.mapStates states _ space hspace

lemma Kept.mapSpecs (h : Kept holds) (states : List String) (specs : List TokenSpec) :
    ∀ (space : Workspace), holds space →
      holds (mapSpecs settings production kind canonical states specs space).1 := by
  induction specs with
  | nil => exact fun _ hspace => hspace
  | cons spec specs ih =>
      intro space hspace
      have hmapped : holds (Conversion.mapSpec settings production kind canonical states spec
          space).1 := h.mapSpec states hspace
      rw [Conversion.mapSpecs]
      split <;> rename_i hstep <;> rw [hstep] at hmapped
      · exact hmapped
      · exact ih _ hmapped

/-- **What is kept is kept by a token production,** explicit or not, known or not. -/
lemma Kept.mapProduction (h : Kept holds) (settings : TokenSettings)
    (production : TokenProduction) (hspace : holds space) :
    holds (mapProduction settings production space).1 := by
  rw [Conversion.mapProduction]
  split
  · exact hspace
  · split
    · exact hspace
    · have hmodes := h.addModes production.states hspace
      dsimp only
      split
      · exact hmodes
      · exact h.mapSpecs _ production.specs _ hmodes

/-- **What is kept is kept by literals** that get rules of their own. -/
lemma Kept.promoteLiterals (h : Kept holds) (settings : TokenSettings)
    (production : TokenProduction) (hspace : holds space) :
    holds (promoteLiterals settings production space).1 := by
  rw [Conversion.promoteLiterals]
  induction production.specs generalizing space with
  | nil => exact hspace
  | cons spec specs ih =>
      rw [promoteSpecs]
      split
      · exact hspace
      · rename_i body _
        split
        · exact ih hspace
        · have hadded := h.addRule _ defaultMode
            { name := (spec.label?.map ruleName).getD "", body := body } .token
            (h.noting space [⟨.debug, "lexer_mapper",
              "promoting literal " ++ body.shown ++ " to a token rule"⟩] hspace)
          dsimp only
          split <;> rename_i hstep <;> rw [hstep] at hadded
          · exact hadded
          · exact ih hadded

/-! ## Lexers in order -/

/-- A lexer stays in order. -/
lemma kept_inOrder : Kept fun space => space.lexer.InOrder where
  noting _ _ h := h
  addMode _ mode h := h.addMode mode
  addRule space mode rule kind h :=
    h.run (.addRule mode rule space.names (some fun names => names.next kind))

lemma inOrder_of_addRule {mode : String} {rule : Rule} {records : List LogRecord}
    {mid : Workspace} {result : Except Failure (Option Rule)} (h : space.lexer.InOrder)
    (hadded : (space.noting records).addRule mode rule kind = (mid, result)) :
    mid.lexer.InOrder := by
  have hkept := kept_inOrder.addRule (space.noting records) mode rule kind h
  rwa [hadded] at hkept

lemma inOrder_of_mapSpec {states : List String} {mid : Workspace} {result : Except Failure Unit}
    (h : space.lexer.InOrder)
    (hmapped : mapSpec settings production kind canonical states spec space = (mid, result)) :
    mid.lexer.InOrder := by
  have hkept : (mapSpec settings production kind canonical states spec space).1.lexer.InOrder :=
    kept_inOrder.mapSpec states h
  rwa [hmapped] at hkept

/-- **The lexer of a reachable workspace is in order.** -/
theorem Reachable.inOrder (h : Reachable settings space) : space.lexer.InOrder := by
  induction h with
  | fresh name reserved log => exact inOrder_built name []
  | lettersEnabled _ ih => exact ih.enableLetters
  | mapped _ production ih => exact kept_inOrder.mapProduction settings production ih
  | promoted _ production ih => exact kept_inOrder.promoteLiterals settings production ih

/-- **Every conversion leaves a reachable workspace,** also when it fails. -/
theorem reachable_convertTokens (name : String) (grammar : Grammar) :
    Reachable (tokenSettings grammar) (convertTokens name grammar).1 := by
  have hinitial : Reachable (tokenSettings grammar) (initialWorkspace name grammar) := by
    rw [initialWorkspace]
    cases grammar.usesIgnoreCase with
    | true => exact .lettersEnabled (.fresh name (reservedNames grammar) _)
    | false => exact .fresh name (reservedNames grammar) []
  rw [convertTokens]
  generalize initialWorkspace name grammar = space at hinitial ⊢
  induction grammar.tokenProductions generalizing space with
  | nil => exact hinitial
  | cons production productions ih =>
      have hstep : Reachable (tokenSettings grammar)
          (if production.isExplicit then mapProduction (tokenSettings grammar) production space
            else promoteLiterals (tokenSettings grammar) production space).1 := by
        split
        · exact hinitial.mapped production
        · exact hinitial.promoted production
      rw [convertTokenProductions]
      split <;> rename_i hconverted <;> rw [hconverted] at hstep
      · exact hstep
      · exact ih _ hstep

end Keeping

end GrammarConversion.Conversion
