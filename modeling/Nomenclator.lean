import Nomenclator.Address
import Nomenclator.Application
import Nomenclator.Application.Assembly
import Nomenclator.Application.Core
import Nomenclator.Application.World
import Nomenclator.Batch.Run
import Nomenclator.Batch.Schedule
import Nomenclator.Binary
import Nomenclator.Binary.Reader
import Nomenclator.Binary.Shortest
import Nomenclator.Cache.Config
import Nomenclator.Cache.Key
import Nomenclator.Cache.Partitioned
import Nomenclator.Cache.Recency
import Nomenclator.CommandLine
import Nomenclator.CommandLine.Arguments
import Nomenclator.CommandLine.Help
import Nomenclator.Discovery
import Nomenclator.Discovery.Service
import Nomenclator.Failure
import Nomenclator.Graph.Dataset
import Nomenclator.Graph.Indexed
import Nomenclator.Graph.Memory
import Nomenclator.Graph.Source
import Nomenclator.Http
import Nomenclator.Http.Failure
import Nomenclator.Http.Media
import Nomenclator.Http.Request
import Nomenclator.Ini
import Nomenclator.Invalidation.Event
import Nomenclator.Invalidation.Plan
import Nomenclator.Invalidation.Queue
import Nomenclator.Invalidation.Registry
import Nomenclator.Invalidation.Relay
import Nomenclator.Json
import Nomenclator.Json.Number
import Nomenclator.Json.Printer
import Nomenclator.Json.Reader
import Nomenclator.Json.Records
import Nomenclator.Json.Relaxed
import Nomenclator.Json.Strings
import Nomenclator.Json.Token
import Nomenclator.Language.Choice
import Nomenclator.Language.Preference
import Nomenclator.Language.Tag
import Nomenclator.Loader
import Nomenclator.Loader.Text
import Nomenclator.Lookup
import Nomenclator.Main
import Nomenclator.Metrics
import Nomenclator.Path
import Nomenclator.Path.Parser
import Nomenclator.Peer
import Nomenclator.Program
import Nomenclator.Proofs.Acceptance
import Nomenclator.Proofs.Accounting
import Nomenclator.Proofs.Agreement
import Nomenclator.Proofs.Capacity
import Nomenclator.Proofs.Completeness
import Nomenclator.Proofs.Contents
import Nomenclator.Proofs.Counting
import Nomenclator.Proofs.Deadline
import Nomenclator.Proofs.Degradation
import Nomenclator.Proofs.Delegation
import Nomenclator.Proofs.Effect
import Nomenclator.Proofs.Freshness
import Nomenclator.Proofs.Gathering
import Nomenclator.Proofs.Gauge
import Nomenclator.Proofs.Grammar
import Nomenclator.Proofs.Interchange
import Nomenclator.Proofs.Isolation
import Nomenclator.Proofs.Joining
import Nomenclator.Proofs.Keeping
import Nomenclator.Proofs.Listing
import Nomenclator.Proofs.Loading
import Nomenclator.Proofs.Merging
import Nomenclator.Proofs.Planning
import Nomenclator.Proofs.Promptness
import Nomenclator.Proofs.Provenance
import Nomenclator.Proofs.Ranking
import Nomenclator.Proofs.Reach
import Nomenclator.Proofs.Readback
import Nomenclator.Proofs.Recovery
import Nomenclator.Proofs.Registration
import Nomenclator.Proofs.Regrouping
import Nomenclator.Proofs.Renewal
import Nomenclator.Proofs.Retention
import Nomenclator.Proofs.Reversal
import Nomenclator.Proofs.Scheduling
import Nomenclator.Proofs.Seeding
import Nomenclator.Proofs.Separation
import Nomenclator.Proofs.Sharing
import Nomenclator.Proofs.Sources
import Nomenclator.Proofs.Splitting
import Nomenclator.Proofs.Steadiness
import Nomenclator.Proofs.Table
import Nomenclator.Proofs.Transparency
import Nomenclator.Proofs.Typing
import Nomenclator.Proofs.Upkeep
import Nomenclator.Proofs.Wording
import Nomenclator.Query
import Nomenclator.Resolver
import Nomenclator.Resolver.Cached
import Nomenclator.Resolver.Chain
import Nomenclator.Settings
import Nomenclator.Settings.Notation
import Nomenclator.Settings.Raw
import Nomenclator.Settings.Sources
import Nomenclator.Settings.Tree
import Nomenclator.Surroundings
import Nomenclator.Table
import Nomenclator.Term
import Nomenclator.Text.Blank
import Nomenclator.Text.Form
import Nomenclator.Text.Number
import Nomenclator.Text.Octets
import Nomenclator.Toml
import Nomenclator.Toml.Moment
import Nomenclator.Toml.Reader
import Nomenclator.Toml.Scalar
import Nomenclator.Toml.Token
import Nomenclator.Unicode.Composition
import Nomenclator.Unicode.Direction
import Nomenclator.Unicode.Joining
import Nomenclator.Unicode.Mapping
import Nomenclator.Unicode.Mark
import Nomenclator.Unicode.Normal
import Nomenclator.Unicode.Ranges
import Nomenclator.Url
import Nomenclator.Url.Domain
import Nomenclator.Url.Escape
import Nomenclator.Url.Label
import Nomenclator.Url.Parser
import Nomenclator.Url.Path
import Nomenclator.Yaml
import Nomenclator.Yaml.Cursor
import Nomenclator.Yaml.Reader
import Nomenclator.Yaml.Scalar
import Nomenclator.Yaml.Token
