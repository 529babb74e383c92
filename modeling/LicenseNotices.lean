import LicenseNotices.Main
import LicenseNotices.Proofs.CallChecks
import LicenseNotices.Proofs.CommentRuns
import LicenseNotices.Proofs.CommentSlices
import LicenseNotices.Proofs.CommentSpans
import LicenseNotices.Proofs.CommonFragment
import LicenseNotices.Proofs.ConsoleLines
import LicenseNotices.Proofs.EncodedLineFeeds
import LicenseNotices.Proofs.EncodingRoundTrip
import LicenseNotices.Proofs.EscapedTexts
import LicenseNotices.Proofs.ExitStatus
import LicenseNotices.Proofs.FailedWrites
import LicenseNotices.Proofs.FirstSeen
import LicenseNotices.Proofs.GoSources
import LicenseNotices.Proofs.GrammarAgreement
import LicenseNotices.Proofs.GroupOffers
import LicenseNotices.Proofs.GroupSeams
import LicenseNotices.Proofs.JoinedNotices
import LicenseNotices.Proofs.JoinedTexts
import LicenseNotices.Proofs.JsonNesting
import LicenseNotices.Proofs.LawfulParsers
import LicenseNotices.Proofs.LetterVariants
import LicenseNotices.Proofs.LexemeFaults
import LicenseNotices.Proofs.LexemeGrammar
import LicenseNotices.Proofs.LineRunTexts
import LicenseNotices.Proofs.LoadedOptions
import LicenseNotices.Proofs.NewlineRenditions
import LicenseNotices.Proofs.NoticePlaces
import LicenseNotices.Proofs.NoticeSigns
import LicenseNotices.Proofs.NullCharacter
import LicenseNotices.Proofs.OnlineGrouping
import LicenseNotices.Proofs.OptionFailures
import LicenseNotices.Proofs.OptionLayers
import LicenseNotices.Proofs.OutputAlphabet
import LicenseNotices.Proofs.OutputFile
import LicenseNotices.Proofs.PatternDepth
import LicenseNotices.Proofs.PatternFaults
import LicenseNotices.Proofs.PatternMeaning
import LicenseNotices.Proofs.PatternReading
import LicenseNotices.Proofs.PieceRemainders
import LicenseNotices.Proofs.PrintedGroups
import LicenseNotices.Proofs.ReaderFragment
import LicenseNotices.Proofs.ReaderRuns
import LicenseNotices.Proofs.ReaderSpans
import LicenseNotices.Proofs.ReaderTrees
import LicenseNotices.Proofs.ReportLines
import LicenseNotices.Proofs.Results
import LicenseNotices.Proofs.RunEvents
import LicenseNotices.Proofs.RunFailures
import LicenseNotices.Proofs.RunOutcome
import LicenseNotices.Proofs.ScannerPlaces
import LicenseNotices.Proofs.ScannerSteps
import LicenseNotices.Proofs.SoleReader
import LicenseNotices.Proofs.SourceBundle
import LicenseNotices.Proofs.SourceContents
import LicenseNotices.Proofs.SourceLists
import LicenseNotices.Proofs.SourceSeams
import LicenseNotices.Proofs.SpanPlaces
import LicenseNotices.Proofs.StringGoals
import LicenseNotices.Proofs.SyntaxTrees
import LicenseNotices.Proofs.TextPlaces
import LicenseNotices.Proofs.TokenRemainders
import LicenseNotices.Proofs.TomlNesting
import LicenseNotices.Proofs.UntouchedSources
import LicenseNotices.Proofs.ValueNesting
import LicenseNotices.Proofs.ValueTexts
