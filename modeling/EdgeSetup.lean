import EdgeSetup.Binary64.Basic
import EdgeSetup.Binary64.Decimal
import EdgeSetup.Binary64.Shortest
import EdgeSetup.Certificate.Bundle
import EdgeSetup.Certificate.Store
import EdgeSetup.Certificate.Tool
import EdgeSetup.Cluster.Client
import EdgeSetup.Cluster.Metadata
import EdgeSetup.Cluster.Objects
import EdgeSetup.Cluster.Resource
import EdgeSetup.Dns.ClusterDomains
import EdgeSetup.Dns.Name
import EdgeSetup.DomainChange.Plan
import EdgeSetup.DomainChange.Request
import EdgeSetup.DomainChange.Run
import EdgeSetup.Error
import EdgeSetup.Gateway.Cors
import EdgeSetup.Gateway.Serve
import EdgeSetup.Gateway.Token
import EdgeSetup.Health.Loop
import EdgeSetup.Health.Probe
import EdgeSetup.Host.Basic
import EdgeSetup.Host.Validation
import EdgeSetup.Http.Breakdown
import EdgeSetup.Http.Failure
import EdgeSetup.Http.Framing
import EdgeSetup.Http.Header
import EdgeSetup.Http.Message
import EdgeSetup.Json.Codec
import EdgeSetup.Json.Document
import EdgeSetup.Json.Map
import EdgeSetup.Json.MergePatch
import EdgeSetup.Json.Patch
import EdgeSetup.Json.Pointer
import EdgeSetup.Json.Reader
import EdgeSetup.Json.Source
import EdgeSetup.Json.Value
import EdgeSetup.Json.Writer
import EdgeSetup.Metrics
import EdgeSetup.Network.Ipv4
import EdgeSetup.Network.Ipv6
import EdgeSetup.Network.SocketAddress
import EdgeSetup.NodePolicy.Basic
import EdgeSetup.NodePolicy.OfHost
import EdgeSetup.Proofs.Binary64.Order
import EdgeSetup.Proofs.Binary64.Rounding
import EdgeSetup.Proofs.Cluster.Addresses
import EdgeSetup.Proofs.Cluster.Calls
import EdgeSetup.Proofs.Cluster.DistinctPaths
import EdgeSetup.Proofs.Cluster.Scripts
import EdgeSetup.Proofs.Cluster.Tokens
import EdgeSetup.Proofs.Dns.Grammar
import EdgeSetup.Proofs.Dns.HostNames
import EdgeSetup.Proofs.Dns.LabelLengths
import EdgeSetup.Proofs.Dns.Nesting
import EdgeSetup.Proofs.Dns.Rehosting
import EdgeSetup.Proofs.DomainChange.ApiServerPatch
import EdgeSetup.Proofs.DomainChange.BestEffort
import EdgeSetup.Proofs.DomainChange.Course
import EdgeSetup.Proofs.DomainChange.IngressPatch
import EdgeSetup.Proofs.DomainChange.Isolation
import EdgeSetup.Proofs.DomainChange.Keys
import EdgeSetup.Proofs.DomainChange.LegalNames
import EdgeSetup.Proofs.DomainChange.MovingRoutes
import EdgeSetup.Proofs.DomainChange.Order
import EdgeSetup.Proofs.DomainChange.OwnEntries
import EdgeSetup.Proofs.DomainChange.RepeatedMoves
import EdgeSetup.Proofs.DomainChange.Repetition
import EdgeSetup.Proofs.DomainChange.Requests
import EdgeSetup.Proofs.DomainChange.Routes
import EdgeSetup.Proofs.DomainChange.Saga
import EdgeSetup.Proofs.DomainChange.SecondRun
import EdgeSetup.Proofs.DomainChange.Steps
import EdgeSetup.Proofs.DomainChange.Storage
import EdgeSetup.Proofs.DomainChange.StoredRun
import EdgeSetup.Proofs.DomainChange.Tokens
import EdgeSetup.Proofs.DomainChange.Upserts
import EdgeSetup.Proofs.DomainChange.Wiring
import EdgeSetup.Proofs.Gateway.Cookies
import EdgeSetup.Proofs.Gateway.Keys
import EdgeSetup.Proofs.Gateway.Routes
import EdgeSetup.Proofs.Gateway.StaticIps
import EdgeSetup.Proofs.Gateway.Tokens
import EdgeSetup.Proofs.Health.Histories
import EdgeSetup.Proofs.Health.OAuthHosts
import EdgeSetup.Proofs.Health.Probes
import EdgeSetup.Proofs.Health.Recovery
import EdgeSetup.Proofs.Host.DesiredStates
import EdgeSetup.Proofs.Host.PolicyNames
import EdgeSetup.Proofs.Host.PolicyPatches
import EdgeSetup.Proofs.Host.Requests
import EdgeSetup.Proofs.Host.Shapes
import EdgeSetup.Proofs.Host.Violations
import EdgeSetup.Proofs.Json.Evaluation
import EdgeSetup.Proofs.Json.MergePatch
import EdgeSetup.Proofs.Json.Objects
import EdgeSetup.Proofs.Json.Parts
import EdgeSetup.Proofs.Json.Patches
import EdgeSetup.Proofs.Json.Reversible
import EdgeSetup.Proofs.Lists.Growing
import EdgeSetup.Proofs.Network.Ipv4
import EdgeSetup.Proofs.Retry.Backoff
import EdgeSetup.Proofs.Retry.Calls
import EdgeSetup.Proofs.Retry.Cancellation
import EdgeSetup.Proofs.Retry.Clock
import EdgeSetup.Proofs.Retry.CountedRetries
import EdgeSetup.Proofs.Retry.CounterRange
import EdgeSetup.Proofs.Retry.Groups
import EdgeSetup.Proofs.Retry.Growth
import EdgeSetup.Proofs.Retry.IntegerHeaders
import EdgeSetup.Proofs.Retry.Overrides
import EdgeSetup.Proofs.Retry.OwnAnswers
import EdgeSetup.Proofs.Retry.Settling
import EdgeSetup.Proofs.Service.Starting
import EdgeSetup.Proofs.Session.Alike
import EdgeSetup.Proofs.Session.Counting
import EdgeSetup.Proofs.Session.Coupling
import EdgeSetup.Proofs.Session.Histories
import EdgeSetup.Proofs.Session.InOrder
import EdgeSetup.Proofs.Session.Plays
import EdgeSetup.Proofs.StaticIps.Batch
import EdgeSetup.Proofs.StaticIps.Tokens
import EdgeSetup.Proofs.Text.Patterns
import EdgeSetup.Proofs.Text.Pieces
import EdgeSetup.Proofs.Text.Replacements
import EdgeSetup.Proofs.Wire.RoundTrips
import EdgeSetup.Retry.AfterHeader
import EdgeSetup.Retry.Call
import EdgeSetup.Retry.Group
import EdgeSetup.Retry.Policy
import EdgeSetup.Retry.Wait
import EdgeSetup.Secret
import EdgeSetup.Service.Listen
import EdgeSetup.Service.Start
import EdgeSetup.Session.Basic
import EdgeSetup.Session.World
import EdgeSetup.Settings.Basic
import EdgeSetup.Settings.Layer
import EdgeSetup.Settings.Load
import EdgeSetup.Settings.Save
import EdgeSetup.Settings.Shape
import EdgeSetup.Settings.Validation
import EdgeSetup.StaticIps
import EdgeSetup.Text.Blank
import EdgeSetup.Text.Digit
import EdgeSetup.Text.Pattern
import EdgeSetup.Text.Quoted
import EdgeSetup.Text.Shapeless
import EdgeSetup.Text.Split
import EdgeSetup.Toml.Basic
import EdgeSetup.Toml.Instant
import EdgeSetup.Toml.Number
import EdgeSetup.Toml.Reader
import EdgeSetup.Toml.Text
import EdgeSetup.Toml.Tree
import EdgeSetup.Toml.Writer
import EdgeSetup.Word
import EdgeSetup.Proofs.DomainChange.CurrentDomain
import EdgeSetup.Proofs.DomainChange.Deployments
import EdgeSetup.Proofs.DomainChange.RedirectUris
import EdgeSetup.Proofs.DomainChange.RedirectSeries
