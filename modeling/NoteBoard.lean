import NoteBoard.Board.Action
import NoteBoard.Board.Basic
import NoteBoard.Board.Gate
import NoteBoard.CommandLine
import NoteBoard.Config.Basic
import NoteBoard.Config.Check
import NoteBoard.Config.Load
import NoteBoard.Form
import NoteBoard.Html.Document
import NoteBoard.Html.Escape
import NoteBoard.Html.Reading
import NoteBoard.Http.Request
import NoteBoard.Http.Response
import NoteBoard.Link.Annotate
import NoteBoard.Link.Pattern
import NoteBoard.Link.Target
import NoteBoard.Main
import NoteBoard.Metrics
import NoteBoard.Net.Ip
import NoteBoard.Net.SocketAddress
import NoteBoard.Note.Basic
import NoteBoard.Note.Calendar
import NoteBoard.Note.Like
import NoteBoard.Note.Store
import NoteBoard.Page.Basic
import NoteBoard.Page.Layout
import NoteBoard.Paste
import NoteBoard.Proofs.ConfigDocuments
import NoteBoard.Proofs.ConfigRules
import NoteBoard.Proofs.DecimalText
import NoteBoard.Proofs.EncodedPaths
import NoteBoard.Proofs.EscapedText
import NoteBoard.Proofs.FormReturn
import NoteBoard.Proofs.FormRoundTrip
import NoteBoard.Proofs.FormSources
import NoteBoard.Proofs.GateCheck
import NoteBoard.Proofs.IssuerHistory
import NoteBoard.Proofs.LikePattern
import NoteBoard.Proofs.LinkPlaces
import NoteBoard.Proofs.LinkSafety
import NoteBoard.Proofs.LinkTargets
import NoteBoard.Proofs.LinkTexts
import NoteBoard.Proofs.LinkWeaving
import NoteBoard.Proofs.MatchOrder
import NoteBoard.Proofs.MatchPreference
import NoteBoard.Proofs.MatchTexts
import NoteBoard.Proofs.MutationSafety
import NoteBoard.Proofs.NeedleSearch
import NoteBoard.Proofs.NeedleVariants
import NoteBoard.Proofs.NoteListing
import NoteBoard.Proofs.NoteOrigins
import NoteBoard.Proofs.NotePage
import NoteBoard.Proofs.NoteRoundTrip
import NoteBoard.Proofs.NoteTable
import NoteBoard.Proofs.OversizedBodies
import NoteBoard.Proofs.PageAddresses
import NoteBoard.Proofs.PageLinks
import NoteBoard.Proofs.PageStructure
import NoteBoard.Proofs.PastSecrets
import NoteBoard.Proofs.PasteExchange
import NoteBoard.Proofs.PasteReference
import NoteBoard.Proofs.PathGrammar
import NoteBoard.Proofs.PercentRoundTrip
import NoteBoard.Proofs.PerformEffects
import NoteBoard.Proofs.RegexMatches
import NoteBoard.Proofs.RejectedTokens
import NoteBoard.Proofs.RequestCounts
import NoteBoard.Proofs.RequestOutcome
import NoteBoard.Proofs.ResponseLayers
import NoteBoard.Proofs.RouteGrammar
import NoteBoard.Proofs.ScanLocality
import NoteBoard.Proofs.SecretLetters
import NoteBoard.Proofs.StaleForms
import NoteBoard.Proofs.StopHistory
import NoteBoard.Proofs.StoreHistory
import NoteBoard.Proofs.TextareaText
import NoteBoard.Proofs.ThrottleCapacity
import NoteBoard.Proofs.ThrottleHistory
import NoteBoard.Proofs.Utf8RoundTrip
import NoteBoard.Proofs.Utf8Soundness
import NoteBoard.Proofs.WholeLinks
import NoteBoard.Refusal
import NoteBoard.Regex.Basic
import NoteBoard.Route.Basic
import NoteBoard.Route.Pattern
import NoteBoard.Route.Table
import NoteBoard.Server
import NoteBoard.Stop
import NoteBoard.Text.Blank
import NoteBoard.Text.Decimal
import NoteBoard.Text.Hex
import NoteBoard.Text.HiddenTable
import NoteBoard.Text.Percent
import NoteBoard.Text.Quoted
import NoteBoard.Text.Ranges
import NoteBoard.Text.Split
import NoteBoard.Text.Utf8
import NoteBoard.Text.Word
import NoteBoard.Text.WordTable
import NoteBoard.Throttle
import NoteBoard.Token.ChaCha
import NoteBoard.Token.Issuer
import NoteBoard.Token.Secret
import NoteBoard.Toml.Bare
import NoteBoard.Toml.Blank
import NoteBoard.Toml.Document
import NoteBoard.Toml.Quoted
import NoteBoard.Toml.Value
import NoteBoard.Toml.Writer
import NoteBoard.Url.Basic
import NoteBoard.Url.Domain
import NoteBoard.Url.Domain.AllowedTable
import NoteBoard.Url.Domain.Bootstring
import NoteBoard.Url.Domain.ClassTable
import NoteBoard.Url.Domain.CompositeTable
import NoteBoard.Url.Domain.Composition
import NoteBoard.Url.Domain.Direction
import NoteBoard.Url.Domain.ExpansionTable
import NoteBoard.Url.Domain.FoldTable
import NoteBoard.Url.Domain.Joiner
import NoteBoard.Url.Domain.Mapping
import NoteBoard.Url.Host
import NoteBoard.Url.Parser
