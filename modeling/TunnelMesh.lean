import TunnelMesh.Agent.Basic
import TunnelMesh.Agent.Config
import TunnelMesh.Agent.ConfigFormat
import TunnelMesh.Agent.Error
import TunnelMesh.Agent.Exchange
import TunnelMesh.Agent.Network
import TunnelMesh.Cli.Grammar
import TunnelMesh.Cli.Help
import TunnelMesh.Cli.Invocation
import TunnelMesh.Cli.Perform
import TunnelMesh.Cli.Terminal
import TunnelMesh.Decimal.Binary
import TunnelMesh.Decimal.Scaled
import TunnelMesh.Decimal.Shortest
import TunnelMesh.Device.Calls
import TunnelMesh.Device.Change
import TunnelMesh.Device.Managed
import TunnelMesh.Device.Manager
import TunnelMesh.Host.Command
import TunnelMesh.Host.Firewall
import TunnelMesh.Host.Format
import TunnelMesh.Host.Recording
import TunnelMesh.Json.Basic
import TunnelMesh.Json.Decode
import TunnelMesh.Json.Printer
import TunnelMesh.Json.Reader
import TunnelMesh.Key.Basic
import TunnelMesh.Key.Curve
import TunnelMesh.Main
import TunnelMesh.Mesh.Access
import TunnelMesh.Mesh.Error
import TunnelMesh.Mesh.Format
import TunnelMesh.Mesh.Id
import TunnelMesh.Mesh.Link
import TunnelMesh.Mesh.Measurement
import TunnelMesh.Mesh.Node
import TunnelMesh.Mesh.Topology
import TunnelMesh.Net.Address
import TunnelMesh.Net.SocketAddress
import TunnelMesh.Net.Subnet
import TunnelMesh.Order
import TunnelMesh.Probe.Cycle
import TunnelMesh.Probe.Ping
import TunnelMesh.Probe.Prober
import TunnelMesh.Probe.Source
import TunnelMesh.Probe.System
import TunnelMesh.Probe.Target
import TunnelMesh.Proofs.Device.Change
import TunnelMesh.Proofs.Device.Goal
import TunnelMesh.Proofs.Device.Managed
import TunnelMesh.Proofs.Device.Manager
import TunnelMesh.Proofs.Device.Moves
import TunnelMesh.Proofs.Device.Preconnect
import TunnelMesh.Proofs.Map
import TunnelMesh.Proofs.Net.Ipv4
import TunnelMesh.Proofs.Net.Ipv6
import TunnelMesh.Proofs.Net.SocketAddress
import TunnelMesh.Proofs.Net.Subnet
import TunnelMesh.Proofs.Route.Candidates
import TunnelMesh.Proofs.Route.Claims
import TunnelMesh.Proofs.Route.Coverage
import TunnelMesh.Proofs.Route.Delivery
import TunnelMesh.Proofs.Route.Path
import TunnelMesh.Proofs.Route.Peers
import TunnelMesh.Proofs.Route.Plan
import TunnelMesh.Proofs.Route.Quantity
import TunnelMesh.Proofs.Route.Shape
import TunnelMesh.Proofs.Route.Shortest
import TunnelMesh.Proofs.Route.Tree
import TunnelMesh.Proofs.Text.Digits
import TunnelMesh.Proofs.Text.Graphic
import TunnelMesh.Proofs.Text.Hex
import TunnelMesh.Proofs.Text.Lines
import TunnelMesh.Proofs.Text.Opening
import TunnelMesh.Proofs.Tunnel.Draft
import TunnelMesh.Proofs.Tunnel.Grammar
import TunnelMesh.Proofs.Tunnel.Line
import TunnelMesh.Proofs.Tunnel.Request
import TunnelMesh.Proofs.Tunnel.Value
import TunnelMesh.Relay.Bridge
import TunnelMesh.Relay.Event
import TunnelMesh.Route.Candidates
import TunnelMesh.Route.Format
import TunnelMesh.Route.Logarithm
import TunnelMesh.Route.Plan
import TunnelMesh.Route.Policy
import TunnelMesh.Route.Quantity
import TunnelMesh.Route.ShortestPath
import TunnelMesh.Text.Base64
import TunnelMesh.Text.Digits
import TunnelMesh.Text.Hex
import TunnelMesh.Text.Lines
import TunnelMesh.Text.Quoted
import TunnelMesh.Text.Visible
import TunnelMesh.Time.Duration
import TunnelMesh.Time.Instant
import TunnelMesh.Time.Reader
import TunnelMesh.Toml.Basic
import TunnelMesh.Toml.Document
import TunnelMesh.Toml.Printer
import TunnelMesh.Toml.Scalar
import TunnelMesh.Transport.Bind
import TunnelMesh.Transport.Dialing
import TunnelMesh.Transport.Endpoint
import TunnelMesh.Transport.Error
import TunnelMesh.Transport.Format
import TunnelMesh.Transport.Inbox
import TunnelMesh.Transport.Registry
import TunnelMesh.Transport.Sending
import TunnelMesh.Transport.Sockets
import TunnelMesh.Transport.Traffic
import TunnelMesh.Transport.Udp
import TunnelMesh.Transport.WebSocket
import TunnelMesh.Tunnel.Control
import TunnelMesh.Tunnel.Device
import TunnelMesh.Tunnel.Error
import TunnelMesh.Tunnel.Format
import TunnelMesh.Tunnel.Interface
import TunnelMesh.Tunnel.Line
import TunnelMesh.Tunnel.Peer
import TunnelMesh.Tunnel.Request
import TunnelMesh.Tunnel.SocketDevice
import TunnelMesh.Tunnel.Status
import TunnelMesh.Url.Basic
import TunnelMesh.Url.Domain
import TunnelMesh.Url.Escape
import TunnelMesh.Url.Folding
import TunnelMesh.Url.Host
import TunnelMesh.Url.Punycode
import TunnelMesh.Proofs.Route.Drawing
import TunnelMesh.Proofs.Route.Return
import TunnelMesh.Proofs.Route.Admission
import TunnelMesh.Proofs.Route.Arrangement
import TunnelMesh.Proofs.Route.Region
import TunnelMesh.Proofs.Route.Isolation
import TunnelMesh.Proofs.Route.SourceAddress
import TunnelMesh.Proofs.Route.Warm
import TunnelMesh.Proofs.Device.Lives
import TunnelMesh.Proofs.Device.Completion
import TunnelMesh.Proofs.Route.Distances
import TunnelMesh.Proofs.Transport.Registry
import TunnelMesh.Proofs.Transport.Dialing
import TunnelMesh.Proofs.Transport.Sending
import TunnelMesh.Proofs.Toml.Text
import TunnelMesh.Proofs.Toml.Number
import TunnelMesh.Proofs.Toml.Document
import TunnelMesh.Proofs.Toml.Record
import TunnelMesh.Proofs.Agent.ConfigText
import TunnelMesh.Proofs.Route.Exact
import TunnelMesh.Proofs.Route.FinalGraph
import TunnelMesh.Proofs.Device.Pieces
import TunnelMesh.Proofs.Device.Sent
import TunnelMesh.Proofs.Device.Sessions
import TunnelMesh.Proofs.Tunnel.Status
import TunnelMesh.Proofs.Tunnel.Control
import TunnelMesh.Proofs.Host.Firewall
import TunnelMesh.Proofs.Host.Leftover
import TunnelMesh.Proofs.Device.Startup
import TunnelMesh.Proofs.Probe.Overlay
import TunnelMesh.Proofs.Probe.Ping
import TunnelMesh.Proofs.Probe.Cycle
import TunnelMesh.Proofs.Probe.Completion
import TunnelMesh.Proofs.Probe.Steady
import TunnelMesh.Proofs.Decimal.Packing
import TunnelMesh.Proofs.Decimal.Quotient
import TunnelMesh.Proofs.Decimal.Rounding
import TunnelMesh.Proofs.Mesh.Access
import TunnelMesh.Proofs.Mesh.Measurement
import TunnelMesh.Proofs.Mesh.Report
import TunnelMesh.Proofs.Agent.Reload
import TunnelMesh.Proofs.Route.Weight
import TunnelMesh.Proofs.Agent.Exchange
import TunnelMesh.Proofs.Route.FirstHop
import TunnelMesh.Proofs.Transport.Answer
import TunnelMesh.Proofs.Transport.Bind
import TunnelMesh.Proofs.Transport.Delivery
import TunnelMesh.Proofs.Relay.Legs
import TunnelMesh.Proofs.Relay.Closing
import TunnelMesh.Proofs.Relay.Forwarding
import TunnelMesh.Proofs.Relay.Lasting
