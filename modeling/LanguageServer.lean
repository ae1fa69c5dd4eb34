import LanguageServer.Content.DocumentFilter
import LanguageServer.Main
import LanguageServer.Outbound
import LanguageServer.Server.Recorder
import LanguageServer.Proofs.Json.Members
import LanguageServer.Proofs.Json.Ordered
import LanguageServer.Proofs.Schema.Conformance
import LanguageServer.Proofs.Many
import LanguageServer.Proofs.PropertyKind
import LanguageServer.Proofs.Schema.Reading
import LanguageServer.Proofs.Schema.NormalForm
import LanguageServer.Proofs.Schema.Writing
import LanguageServer.Proofs.Schema.RoundTrip
import LanguageServer.Proofs.Message.Grammar
import LanguageServer.Proofs.Message.Ids
import LanguageServer.Proofs.Dispatch.Answers
import LanguageServer.Proofs.Json.Reader
import LanguageServer.Proofs.Outbox.Operation
import LanguageServer.Proofs.Dispatch.Correlation
import LanguageServer.Proofs.Server.Session
import LanguageServer.Proofs.Replay.Linewise
import LanguageServer.Proofs.Json.Numeral
import LanguageServer.Proofs.Json.Writer
import LanguageServer.Proofs.Json.Text
import LanguageServer.Proofs.Message.Parts
import LanguageServer.Proofs.Message.RoundTrip
import LanguageServer.Proofs.Message.Delivery
import LanguageServer.Proofs.Dispatch.Completion
import LanguageServer.Proofs.Dispatch.Exchange
import LanguageServer.Proofs.Outbound
import LanguageServer.Proofs.Dispatch.Acceptance
import LanguageServer.Proofs.Replay.Course
import LanguageServer.Proofs.Replay.Schedule
import LanguageServer.Proofs.Decimal.Shortest
import LanguageServer.Proofs.Json.Double
import LanguageServer.Proofs.Replay.Framing
import LanguageServer.Proofs.Message.Kinds
import LanguageServer.Proofs.Server.Change
import LanguageServer.Proofs.Dispatch.Outcome
import LanguageServer.Proofs.Schema.Construction
import LanguageServer.Proofs.Content.Builders
import LanguageServer.Proofs.Uri.FilePath
import LanguageServer.Proofs.Content.Hover
import LanguageServer.Proofs.Schema.Part
