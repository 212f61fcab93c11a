import TopicMesh.Announcement
import TopicMesh.Backend
import TopicMesh.Bus
import TopicMesh.ChannelName
import TopicMesh.Client
import TopicMesh.Cluster.Basic
import TopicMesh.Cluster.Loops
import TopicMesh.CommandLine
import TopicMesh.Decimal.Binary64
import TopicMesh.Decimal.Shortest
import TopicMesh.Duration
import TopicMesh.Error
import TopicMesh.Instant
import TopicMesh.Json.Basic
import TopicMesh.Json.Fault
import TopicMesh.Json.Field
import TopicMesh.Json.Reader
import TopicMesh.Json.Scalar
import TopicMesh.Json.Skip
import TopicMesh.Json.Writer
import TopicMesh.Keyed
import TopicMesh.Lease
import TopicMesh.Listener
import TopicMesh.Main
import TopicMesh.Node.Announcements
import TopicMesh.Node.Basic
import TopicMesh.Node.Heartbeat
import TopicMesh.Node.Relays
import TopicMesh.Node.Resync
import TopicMesh.Principal
import TopicMesh.Proofs.Announcement.Acceptance
import TopicMesh.Proofs.Announcement.Domain
import TopicMesh.Proofs.Announcement.Escaping
import TopicMesh.Proofs.Announcement.NormalForm
import TopicMesh.Proofs.Announcement.Notification
import TopicMesh.Proofs.Announcement.Rebuild
import TopicMesh.Proofs.Announcement.Replay
import TopicMesh.Proofs.Announcement.RoundTrip
import TopicMesh.Proofs.Backing
import TopicMesh.Proofs.Bus
import TopicMesh.Proofs.Bus.History
import TopicMesh.Proofs.Bus.Ring
import TopicMesh.Proofs.ChannelName
import TopicMesh.Proofs.Client
import TopicMesh.Proofs.Cluster.Basic
import TopicMesh.Proofs.Cluster.Exchange
import TopicMesh.Proofs.Cluster.FanOut
import TopicMesh.Proofs.Cluster.Loops
import TopicMesh.Proofs.Cluster.Transparency
import TopicMesh.Proofs.Json.Brackets
import TopicMesh.Proofs.Json.Depth
import TopicMesh.Proofs.Json.Grammar
import TopicMesh.Proofs.Json.Literal
import TopicMesh.Proofs.Json.Range
import TopicMesh.Proofs.Json.RoundTrip
import TopicMesh.Proofs.Json.Scalars
import TopicMesh.Proofs.Json.Sequence
import TopicMesh.Proofs.Json.Unambiguous
import TopicMesh.Proofs.Json.Values
import TopicMesh.Proofs.Log
import TopicMesh.Proofs.Mesh.Basic
import TopicMesh.Proofs.Mesh.Convergence
import TopicMesh.Proofs.Mesh.Departure
import TopicMesh.Proofs.Mesh.InStep
import TopicMesh.Proofs.Mesh.Ownership
import TopicMesh.Proofs.Node.Announce
import TopicMesh.Proofs.Node.Cascade
import TopicMesh.Proofs.Node.Control
import TopicMesh.Proofs.Node.Delay
import TopicMesh.Proofs.Node.Delivery
import TopicMesh.Proofs.Node.Failure
import TopicMesh.Proofs.Node.FanOut
import TopicMesh.Proofs.Node.Follow
import TopicMesh.Proofs.Node.Heard
import TopicMesh.Proofs.Node.Holds
import TopicMesh.Proofs.Node.Identity
import TopicMesh.Proofs.Node.Interleaving
import TopicMesh.Proofs.Node.Mirror
import TopicMesh.Proofs.Node.Publishing
import TopicMesh.Proofs.Node.Reannounce
import TopicMesh.Proofs.Node.Redelivery
import TopicMesh.Proofs.Node.Registry
import TopicMesh.Proofs.Node.Rejoin
import TopicMesh.Proofs.Node.Requests
import TopicMesh.Proofs.Node.Resync
import TopicMesh.Proofs.Node.Retired
import TopicMesh.Proofs.Node.Sound
import TopicMesh.Proofs.Principal
import TopicMesh.Proofs.Proxy
import TopicMesh.Proofs.Proxy.Broadcast
import TopicMesh.Proofs.Proxy.Identity
import TopicMesh.Proofs.Proxy.Written
import TopicMesh.Proofs.Reaping
import TopicMesh.Proofs.Record
import TopicMesh.Proofs.Record.Respelling
import TopicMesh.Proofs.Record.Spelling
import TopicMesh.Proofs.Rehearsal.Listening
import TopicMesh.Proofs.Relay
import TopicMesh.Proofs.Store
import TopicMesh.ProtocolError
import TopicMesh.Proxy
import TopicMesh.Record
import TopicMesh.Rehearsal.Basic
import TopicMesh.Rehearsal.Beating
import TopicMesh.Rehearsal.Listening
import TopicMesh.Relay
import TopicMesh.Rfc3339
import TopicMesh.Schema
import TopicMesh.Settings
import TopicMesh.Shutdown
import TopicMesh.Store
import TopicMesh.Table
import TopicMesh.Text.Blank
import TopicMesh.Text.Delimited
import TopicMesh.Text.Quoted
import TopicMesh.Text.Terminal
import TopicMesh.Text.Unprintable
import TopicMesh.TopicSet
