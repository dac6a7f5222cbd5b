import Dashboards.Main
import Dashboards.Proofs.Document.Dashboards
import Dashboards.Proofs.Filter.Unresolvable
import Dashboards.Proofs.Filter.Value
import Dashboards.Proofs.Api.Conversation
import Dashboards.Proofs.Api.Store
import Dashboards.Proofs.Api.Writes
import Dashboards.Proofs.Api.Shelf
import Dashboards.Proofs.Api.Convergence
import Dashboards.Proofs.Api.Titles
import Dashboards.Proofs.Filter.Restricted
import Dashboards.Proofs.Document.Reachability
import Dashboards.Proofs.Document.Slice
import Dashboards.Proofs.Document.Order
import Dashboards.Proofs.Extension
import Dashboards.Proofs.Document.Growth
import Dashboards.Proofs.Document.Placing
import Dashboards.Proofs.Config.InPlace
import Dashboards.Proofs.Json.Scalars
import Dashboards.Proofs.Json.RoundTrip
import Dashboards.Proofs.Yaml.Gives
import Dashboards.Proofs.Api.Payloads
import Dashboards.Proofs.Config.Numbers
import Dashboards.Proofs.CommandLine.Lint
import Dashboards.Proofs.CommandLine.Agreement
import Dashboards.Proofs.Filter.Parenthesized
import Dashboards.Proofs.Document.Complete
import Dashboards.Proofs.Document.Faults
import Dashboards.Proofs.Messages
import Dashboards.Proofs.Document.Placements
import Dashboards.Proofs.Output.Keys
import Dashboards.Proofs.Api.Contents
import Dashboards.Proofs.Config.Sections
import Dashboards.Proofs.Filter.Depth
import Dashboards.Proofs.Filter.Termination
import Dashboards.Proofs.Yaml.Variants
import Dashboards.Proofs.Config.Variants
import Dashboards.Proofs.Visualization
import Dashboards.Proofs.Yaml.Blank
import Dashboards.Proofs.Document.Blank
