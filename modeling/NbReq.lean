import NbReq.Lib.Tasks
import NbReq.Lib.Heap
import NbReq.Types
import NbReq.Request
import NbReq.Accounting
import NbReq.Dispatch
import NbReq.Callbacks
import NbReq.Stream
import NbReq.Operation
import NbReq.TcpIo
import NbReq.Registry.Accept
import NbReq.Registry.Action
import NbReq.Registry.Exec
import NbReq.Registry.Coherence
import NbReq.Registry.Change
import NbReq.Registry.Session
import NbReq.Lib.Ledger
import NbReq.Registry.Move
import NbReq.Registry.Invariant
import NbReq.Registry.Sections
import NbReq.Registry.AdmissionMoves
import NbReq.Registry.Engine
import NbReq.Registry.Programs
import NbReq.Registry.Reachable
import NbReq.Registry.Permits
import NbReq.Registry.Terminal
import NbReq.Http.Redirect
import NbReq.Http.Head
import NbReq.Http.Decoder
import NbReq.Http.Segments
import NbReq.Http.Serialize
import NbReq.Http.Spelling
import NbReq.Http.TlsPump
import NbReq.Http.HandshakeWorkers
import NbReq.Http.Upload
import NbReq.Tcp.Session
import NbReq.Tcp.Streams
import NbReq.Tcp.Sends
import NbReq.Lib.Assoc
import NbReq.Stream.Upload
import NbReq.Lib.Wakeup
import NbReq.BodyBudget
import NbReq.Smtp.Data
import NbReq.Smtp.Reply
import NbReq.Smtp.Client
import NbReq.Lib.History
import NbReq.Smtp.Transcript
import NbReq.Smtp.Progress
import NbReq.Smtp.Rounds
import NbReq.Smtp.Replies
import NbReq.Smtp.Outcome
import NbReq.Tcp.Upgrade
import NbReq.Smtp.Cleartext
import NbReq.Dns.Answer
import NbReq.Dns.Cache
import NbReq.Dns.Query
import NbReq.Dns.Finish
import NbReq.Dns.Loop
import NbReq.Dns.Stamped
import NbReq.Dns.Course
import NbReq.Dns.Handlers
import NbReq.Dns.Lookups
import NbReq.Dns.Moves
import NbReq.Dns.Delivery
import NbReq.Dns.Upkeep
import NbReq.Dns.Freshness
import NbReq.Dns.Names
import NbReq.Dns.Reading
import NbReq.Dns.RoundTrip
import NbReq.Dns.Closure
import NbReq.Dns.Classes
import NbReq.Dns.Ids
import NbReq.Lib.RoundRobin
import NbReq.Dns.CacheMaps
import NbReq.Dns.TcpFraming
import NbReq.Smtp.Message
import NbReq.Smtp.ReplyGrammar
import NbReq.Http.ReceiveLimit
import NbReq.Http.Boundary
import NbReq.Stream.Wire
import NbReq.Native.Connection
import NbReq.Native.Output
import NbReq.Dns.SearchRule
import NbReq.Lib.InFlight
import NbReq.Dns.Origins
import NbReq.Dns.Chains
import NbReq.Dns.Configuration
import NbReq.Dns.Denials
import NbReq.Stream.Response
import NbReq.Tcp.Shutdown
