import LanguageClient.Editor.Recorded
import LanguageClient.Main
import LanguageClient.Proofs.Json.Fields
import LanguageClient.Proofs.Json.Number
import LanguageClient.Proofs.Session.Messages
import LanguageClient.Proofs.Session.Actions
import LanguageClient.Proofs.Session.DocumentMirror
import LanguageClient.Proofs.Session.DocumentOperations
import LanguageClient.Proofs.Session.DocumentHandshake
import LanguageClient.Proofs.Session.DocumentRuns
import LanguageClient.Proofs.Session.Quiet
import LanguageClient.Proofs.Session.Reactions
import LanguageClient.Proofs.Session.Correlation
import LanguageClient.Proofs.Client.TypedWord
import LanguageClient.Proofs.Client.AcceptedWord
import LanguageClient.Proofs.Text.Lines
import LanguageClient.Proofs.Text.Seek
import LanguageClient.Proofs.Edit.ApplicationOrder
import LanguageClient.Proofs.Edit.Places
import LanguageClient.Proofs.Edit.Application
import LanguageClient.Proofs.Edit.ReadsAlike
import LanguageClient.Proofs.Edit.Misread
import LanguageClient.Proofs.Client.Formatting
import LanguageClient.Proofs.Frame.Chunks
import LanguageClient.Proofs.Session.Chunks
import LanguageClient.Proofs.Json.Grammar
import LanguageClient.Proofs.Json.Input
import LanguageClient.Proofs.Json.Strings
import LanguageClient.Proofs.Json.NumberTokens
import LanguageClient.Proofs.Json.Reading
import LanguageClient.Proofs.Json.Decimals
import LanguageClient.Proofs.Json.Printing
import LanguageClient.Proofs.Json.RoundTrip
import LanguageClient.Proofs.Session.ToldTexts
import LanguageClient.Proofs.Session.AwaitedFormatting
import LanguageClient.Proofs.Client.FormattedText
import LanguageClient.Proofs.Frame.Noise
import LanguageClient.Proofs.Session.Connection
import LanguageClient.Proofs.Session.Dropped
import LanguageClient.Proofs.Session.Course
import LanguageClient.Proofs.Session.Streaks
import LanguageClient.Proofs.Session.Independence
import LanguageClient.Proofs.Session.Digest
import LanguageClient.Proofs.Client.Deeds
import LanguageClient.Proofs.Client.Chunks
import LanguageClient.Proofs.Client.Display
import LanguageClient.Proofs.Client.ToldDocument
import LanguageClient.Proofs.Client.Conduct
import LanguageClient.Proofs.Session.Greeting
import LanguageClient.Proofs.Session.AwaitedCompletions
import LanguageClient.Proofs.Client.HandshakeOrder
import LanguageClient.Proofs.Client.CompletionRequests
import LanguageClient.Proofs.Client.MenuLifecycle
import LanguageClient.Proofs.Client.MenuAnchor
import LanguageClient.Proofs.Text.Points
import LanguageClient.Proofs.Editor.LineEditor
import LanguageClient.Proofs.Editor.FlatText
import LanguageClient.Proofs.Text.Utf8
import LanguageClient.Proofs.Json.Readable
import LanguageClient.Proofs.Session.ServerRequests
import LanguageClient.Proofs.Session.Refusals
import LanguageClient.Proofs.Uri
import LanguageClient.Proofs.Uri.Spellings
import LanguageClient.Proofs.Client.DefinitionJumps
import LanguageClient.Proofs.Completion.MenuPages
import LanguageClient.Proofs.Completion.ComputedPages
import LanguageClient.Proofs.Completion.Snippets
import LanguageClient.Proofs.Completion.SnippetDefaults
import LanguageClient.Proofs.Text.ByteOrder
import LanguageClient.Proofs.Completion.Ranking
import LanguageClient.Proofs.Text.Lowercase
import LanguageClient.Proofs.Completion.LiteralMatches
import LanguageClient.Proofs.Overlay.Placement
import LanguageClient.Proofs.Overlay.Lines
import LanguageClient.Proofs.Frame.Recovery
import LanguageClient.Proofs.Text.Boundaries
import LanguageClient.Proofs.Edit.Simultaneous
import LanguageClient.Proofs.Edit.Overlaps
import LanguageClient.Proofs.Text.Columns
import LanguageClient.Proofs.Text.LineBytes
import LanguageClient.Proofs.Text.Lossy
import LanguageClient.Proofs.Uri.Escapes
import LanguageClient.Proofs.Json.WholeNumbers
import LanguageClient.Proofs.Position
import LanguageClient.Proofs.Client.ReferenceLines
import LanguageClient.Proofs.Json.Shifts
import LanguageClient.Proofs.Json.Behind
import LanguageClient.Proofs.Json.Streaming
import LanguageClient.Proofs.Json.Failures
import LanguageClient.Proofs.Json.StrictGrammar
import LanguageClient.Proofs.Json.StrictPrinting
import LanguageClient.Proofs.Text.LineParts
import LanguageClient.Proofs.Editor.CarriageReturns
import LanguageClient.Proofs.Session.PendingSlot
import LanguageClient.Proofs.Session.DocumentChanges
import LanguageClient.Proofs.Session.HeldTexts
import LanguageClient.Proofs.Session.ActiveDiagnostics
import LanguageClient.Proofs.Client.InsertedText
import LanguageClient.Proofs.Json.ByteReader
import LanguageClient.Proofs.Json.ByteCursor
import LanguageClient.Proofs.Json.ByteStrings
import LanguageClient.Proofs.Json.ByteNumbers
import LanguageClient.Proofs.Json.ByteReading
import LanguageClient.Proofs.Completion.Words
import LanguageClient.Proofs.Client.GrowingWord
