import EndpointProfile.Dotenv
import EndpointProfile.Http.MediaType
import EndpointProfile.Main
import EndpointProfile.Metrics.Registry
import EndpointProfile.Service.Program
import EndpointProfile.Proofs.Literal
import EndpointProfile.Proofs.Literal.Grammar
import EndpointProfile.Proofs.Text.Bytes
import EndpointProfile.Proofs.Text.Utf8
import EndpointProfile.Proofs.ModuleText.Escape
import EndpointProfile.Proofs.ModuleText.Lines
import EndpointProfile.Proofs.ModuleText.Grammar
import EndpointProfile.Proofs.ModuleText.RoundTrip
import EndpointProfile.Proofs.Json.Spelling
import EndpointProfile.Proofs.Json.Strings
import EndpointProfile.Proofs.Json.Objects
import EndpointProfile.Proofs.Json.Layout
import EndpointProfile.Proofs.Json.Containers
import EndpointProfile.Proofs.Json.Records
import EndpointProfile.Proofs.Profile.Json
import EndpointProfile.Proofs.Profile.Provenance
import EndpointProfile.Proofs.Service.Agreement
import EndpointProfile.Proofs.Metrics.Vocabulary
import EndpointProfile.Proofs.Checks
import EndpointProfile.Proofs.Service.Patterns
import EndpointProfile.Proofs.Service.Labels
import EndpointProfile.Proofs.Metrics.Tally
import EndpointProfile.Proofs.Service.Interleaving
import EndpointProfile.Proofs.Service.InFlight
import EndpointProfile.Proofs.Service.Accounting
import EndpointProfile.Proofs.Service.Counters
import EndpointProfile.Proofs.ModuleText.Comments
import EndpointProfile.Proofs.CommandLine.Arguments
import EndpointProfile.Proofs.CommandLine.Gate
import EndpointProfile.Proofs.Client.Replies
import EndpointProfile.Proofs.Service.Unfailing
import EndpointProfile.Proofs.Url.Host
import EndpointProfile.Proofs.Url.Reading
import EndpointProfile.Proofs.Url.Extension
import EndpointProfile.Proofs.Profile.Explorer
import EndpointProfile.Proofs.Profile.Accepted
import EndpointProfile.Proofs.ModuleText.Difference
import EndpointProfile.Proofs.Profile.Assembly
import EndpointProfile.Proofs.ModuleText.Layout
import EndpointProfile.Proofs.ModuleText.Rearranged
import EndpointProfile.Proofs.ModuleText.Blame
import EndpointProfile.Proofs.ModuleText.Appended
import EndpointProfile.Proofs.Service.Refusals
import EndpointProfile.Proofs.Profile.Joining
import EndpointProfile.Proofs.Profile.Transactions
import EndpointProfile.Proofs.Text.Lowering
import EndpointProfile.Proofs.Violation.Script
import EndpointProfile.Proofs.Text.Digits
import EndpointProfile.Proofs.Text.Pieces
import EndpointProfile.Proofs.Config.Reading
import EndpointProfile.Proofs.IpAddress
import EndpointProfile.Proofs.Config.Writing
import EndpointProfile.Proofs.Metrics.Registration
import EndpointProfile.Proofs.Profile.Dotenv
import EndpointProfile.Proofs.Health.Worst
import EndpointProfile.Proofs.Dotenv.Value
import EndpointProfile.Proofs.Profile.Loading
import EndpointProfile.Proofs.Json.Values
import EndpointProfile.Proofs.ErrorReply
import EndpointProfile.Proofs.Json.OpenRecords
import EndpointProfile.Proofs.Health.Wire
import EndpointProfile.Proofs.ModuleText.Quoting
