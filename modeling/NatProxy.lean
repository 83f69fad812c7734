import NatProxy.Server.State
import NatProxy.Session.Framing
import NatProxy.Server.Step
import NatProxy.Server.Registry
import NatProxy.Server.Consistency
import NatProxy.Server.GuidOwnership
import NatProxy.Server.FinalStop
import NatProxy.Db.Mirror
import NatProxy.Server.RedisMirror
import NatProxy.Server.Channels
import NatProxy.Server.Wiring
import NatProxy.Server.Link
import NatProxy.Server.Lifecycle
import NatProxy.Server.StopReaches
import NatProxy.Server.Teardown
import NatProxy.Server.FrameOrder
import NatProxy.Server.Authorisation
import NatProxy.Transition.History
import NatProxy.Server.Directories
import NatProxy.Db.Publication
import NatProxy.Protocol.ResponseStream
import NatProxy.Server.ProxyList
import NatProxy.Server.Connections
import NatProxy.Server.ConnectionCount
import NatProxy.Server.ConnectionLimit
import NatProxy.Server.IdSeparation
import NatProxy.Server.IdReuse
import NatProxy.Relay.Channel
import NatProxy.Relay.Flow
import NatProxy.Relay.Fidelity
import NatProxy.Relay.Binding
import NatProxy.Relay.Opening
import NatProxy.Db.Capacity
import NatProxy.Relay.Echo
import NatProxy.Server.LoginTimer
import NatProxy.Relay.Connecting
import NatProxy.Session.Grammar
import NatProxy.Server.Rendezvous
import NatProxy.Server.LoginUndo
import NatProxy.Server.Rejected
import NatProxy.Server.ProxyCall
import NatProxy.Server.AllOrNothing
import NatProxy.Server.Checkers
import NatProxy.Server.IoContextPool
import NatProxy.Server.Dialogue
import NatProxy.Server.Conversation
import NatProxy.Server.Delivery
import NatProxy.Redis.Parser
import NatProxy.Redis.Reader
import NatProxy.Transition.Reader
import NatProxy.Redis.Refinement
import NatProxy.Redis.Grammar
import NatProxy.Redis.Acceptance
import NatProxy.Redis.Command
import NatProxy.Redis.Client
import NatProxy.Redis.Pipeline
import NatProxy.Redis.Link
import NatProxy.Db.Wire
import NatProxy.Transition.Monitor
import NatProxy.Db.Worker
import NatProxy.Db.Linearization
import NatProxy.Db.Progress
import NatProxy.Relay.Life
import NatProxy.Relay.Expiry
import NatProxy.Server.Follow
import NatProxy.Server.Relaying
import NatProxy.Server.LetGo
