import PushNotice.Main
import PushNotice.Proofs.Decimal.Word
import PushNotice.Proofs.Result
import PushNotice.Proofs.Placeholder.Grammar
import PushNotice.Proofs.Placeholder.Parts
import PushNotice.Proofs.Notice.Assembly
import PushNotice.Proofs.Notice.Secrecy
import PushNotice.Proofs.Run.Faults
import PushNotice.Proofs.Run.Parts
import PushNotice.Proofs.Run.Agreement
import PushNotice.Proofs.Run.Stages
import PushNotice.Proofs.Placeholder.Printing
import PushNotice.Proofs.Template.History
import PushNotice.Proofs.Notice.Warnings
import PushNotice.Proofs.Options.Layers
import PushNotice.Proofs.Yaml.Record
import PushNotice.Proofs.Options.Reachable
import PushNotice.Proofs.Text.Decoding
import PushNotice.Proofs.Template.Directory
import PushNotice.Proofs.Template.Loading
import PushNotice.Proofs.Json.Scalar
import PushNotice.Proofs.Json.RoundTrip
import PushNotice.Proofs.Placeholder.LongestPath
import PushNotice.Proofs.Options.Embed
import PushNotice.Proofs.Delivery.Credentials
import PushNotice.Proofs.Json.Shape
import PushNotice.Proofs.Notice.Filling
import PushNotice.Proofs.Notice.Firmness
import PushNotice.Proofs.Placeholder.Seams
import PushNotice.Proofs.Placeholder.Spelling
import PushNotice.Proofs.Json.Keys
import PushNotice.Proofs.Commit.Annotation
import PushNotice.Proofs.Notice.Plain
import PushNotice.Proofs.Text.Splitting
import PushNotice.Proofs.Commit.Completion
import PushNotice.Proofs.Commit.Paragraphs
import PushNotice.Proofs.Commit.Selection
import PushNotice.Proofs.Commit.Monotone
import PushNotice.Proofs.Commit.Compilation
import PushNotice.Proofs.Text.Lines
import PushNotice.Proofs.Options.Settings
import PushNotice.Proofs.Options.Patterns
import PushNotice.Proofs.Options.Sources
import PushNotice.Proofs.Url.Spelling
import PushNotice.Proofs.Delivery.Waiting
import PushNotice.Proofs.Delivery.Reply
import PushNotice.Proofs.Context.Lookup
import PushNotice.Proofs.Context.Repository
import PushNotice.Proofs.Context.Counters
import PushNotice.Proofs.Placeholder.Cursor
