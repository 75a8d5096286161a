import GrammarConversion.Main
import GrammarConversion.Proofs.LexerRule.Reading
import GrammarConversion.Proofs.LexerGrammar.Document
import GrammarConversion.Proofs.LexerState.Priority
import GrammarConversion.Proofs.LexerState.Promotion
import GrammarConversion.Proofs.LexerState.TypeAgreement
import GrammarConversion.Proofs.LexerState.FreshNames
import GrammarConversion.Proofs.LexerState.Switches
import GrammarConversion.Proofs.LexerState.StateOrder
import GrammarConversion.Proofs.LexerState.LaterProduction
import GrammarConversion.Proofs.ParserRule.Expansion
import GrammarConversion.Proofs.ParserRule.Reading
import GrammarConversion.Proofs.ParserGrammar.RuleNames
import GrammarConversion.Proofs.ParserGrammar.TokenNames
import GrammarConversion.Proofs.ParserGrammar.LegalNames
import GrammarConversion.Proofs.LexerRule.Failures
import GrammarConversion.Proofs.ParserRule.Failures
import GrammarConversion.Proofs.LexerState.Failures
import GrammarConversion.Proofs.ParserGrammar.Failures
import GrammarConversion.Proofs.LexerGrammar.DocumentReading
import GrammarConversion.Proofs.LexerRule.BodyText
import GrammarConversion.Proofs.LexerState.Listing
import GrammarConversion.Proofs.LexerRule.EitherCase
import GrammarConversion.Proofs.LexerRule.EscapedText
import GrammarConversion.Proofs.LexerRule.SetCase
import GrammarConversion.Proofs.LexerRule.LiteralCase
import GrammarConversion.Proofs.LexerState.Resolution
import GrammarConversion.Proofs.LexerGrammar.LetterNames
import GrammarConversion.Proofs.LexerGrammar.StoredRule
import GrammarConversion.Proofs.LexerState.Repetition
import GrammarConversion.Proofs.ParserRule.References
import GrammarConversion.Proofs.ParserRule.Offences
import GrammarConversion.Proofs.Code.Tiling
import GrammarConversion.Proofs.LexerRule.WellFormed
import GrammarConversion.Proofs.LexerRule.LiteralParts
import GrammarConversion.Proofs.NameRequests
import GrammarConversion.Proofs.Code.StateFunctions
