import AsmShell.Main
import AsmShell.Proofs.AcceptedOperands
import AsmShell.Proofs.ArgumentPieces
import AsmShell.Proofs.Arguments
import AsmShell.Proofs.ByteOffsets
import AsmShell.Proofs.ByteOrder
import AsmShell.Proofs.Coloring
import AsmShell.Proofs.Columns
import AsmShell.Proofs.CommandDiagnostics
import AsmShell.Proofs.CommandEffects
import AsmShell.Proofs.CountedReadings
import AsmShell.Proofs.CountingParser
import AsmShell.Proofs.DecodedTexts
import AsmShell.Proofs.DeepArguments
import AsmShell.Proofs.Deliveries
import AsmShell.Proofs.DiagnosticPlaces
import AsmShell.Proofs.EscapeFreeSessions
import AsmShell.Proofs.EscapeFreeTexts
import AsmShell.Proofs.FailingTokens
import AsmShell.Proofs.FailurePlaces
import AsmShell.Proofs.FirstFailure
import AsmShell.Proofs.FloatGrammar
import AsmShell.Proofs.Grammar
import AsmShell.Proofs.Grouping
import AsmShell.Proofs.HopelessTokens
import AsmShell.Proofs.LeadingBlanks
import AsmShell.Proofs.Lexemes
import AsmShell.Proofs.ListedVariables
import AsmShell.Proofs.LongestMatch
import AsmShell.Proofs.MaximalMunch
import AsmShell.Proofs.MovedReadings
import AsmShell.Proofs.Neighbours
import AsmShell.Proofs.NestingLimit
import AsmShell.Proofs.NumberTokens
import AsmShell.Proofs.NumericVariables
import AsmShell.Proofs.OperatorFolding
import AsmShell.Proofs.OperatorFaults
import AsmShell.Proofs.OrderedTables
import AsmShell.Proofs.ParserCalls
import AsmShell.Proofs.PointedTokens
import AsmShell.Proofs.PrecedenceChains
import AsmShell.Proofs.PrintedExpressions
import AsmShell.Proofs.PrintedResults
import AsmShell.Proofs.PrintedValues
import AsmShell.Proofs.ReadingSteps
import AsmShell.Proofs.RecordedHeights
import AsmShell.Proofs.Results
import AsmShell.Proofs.RunsEnd
import AsmShell.Proofs.SafeCounts
import AsmShell.Proofs.Scanning
import AsmShell.Proofs.ScriptOrder
import AsmShell.Proofs.Skipping
import AsmShell.Proofs.Slices
import AsmShell.Proofs.SourceSpans
import AsmShell.Proofs.Sourcing
import AsmShell.Proofs.SpacedTokens
import AsmShell.Proofs.Spellings
import AsmShell.Proofs.SplitLines
import AsmShell.Proofs.StaticKinds
import AsmShell.Proofs.StyleCodes
import AsmShell.Proofs.TokenOrder
import AsmShell.Proofs.TokenTiling
import AsmShell.Proofs.Turns
import AsmShell.Proofs.TwosComplement
import AsmShell.Proofs.TypedBack
import AsmShell.Proofs.Unambiguity
import AsmShell.Proofs.UnclosedTexts
import AsmShell.Proofs.VariableHistory
import AsmShell.Proofs.WholeLines
import AsmShell.Text.Pattern.Lemmas
