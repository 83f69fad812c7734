import Mathlib.Logic.Function.Basic
import NatProxy.Db.SessionDb
import NatProxy.Protocol.Response
import NatProxy.Session.ReadLoop
import NatProxy.Session.SendQueue

/-!
# The objects of the server

Session objects and channel objects are identified by the elements of two
arbitrary types, as by their addresses. A session is used by the thread of its
`io_context` only: its read handlers, its timer handler and everything they call
run there one after the other. Each session therefore carries the call that its
thread is executing on its behalf, cut at the calls that take a mutex, post to a
strand or ask the socket. Sessions of different threads interleave at these cuts,
and so do the handlers of a channel, which run on the channel's own thread.

The members of a map or of a set that only proofs look at are marked as such:
who inserted a guid, which sessions a channel was made for, and which channel a
queued response is about.
-/

namespace NatProxy

open Memory

/-- The two roles of a session in a channel, and the two ends of the channel. -/
inductive Side
  | src
  | dst
  deriving DecidableEq, Repr

/-- An IPv4 UDP endpoint. -/
structure Endpoint where
  addr : UInt32
  port : UInt16
  deriving DecidableEq, Repr

/-- What the process was configured with. -/
structure Config where
  maxSessions : UInt32
  portExpired : UInt32
  displayInterval : UInt32
  deriving DecidableEq, Repr

/-- `CChannelMap`: weak references to channels by channel id. -/
abbrev CChannelMap (C : Type) := UInt32 → Option C

namespace CChannelMap

variable {C : Type}

/-- `CChannelMap::insert`. -/
def insert (m : CChannelMap C) (id : UInt32) (c : C) : Bool × CChannelMap C :=
  match m id with
  | some _ => (false, m)
  | none => (true, Function.update m id (some c))

/-- `CChannelMap::remove`, whose result is not used. -/
def remove (m : CChannelMap C) (id : UInt32) : CChannelMap C := Function.update m id none

end CChannelMap

/-! ## Sessions -/

/-- The life of a session object: accepted and tested by its acceptor, counted,
started, and at last destroyed. -/
inductive Phase
  | created
  | rejected
  | admitted
  | counted
  | live
  | destroyed
  deriving DecidableEq, Repr

/-- The login timer: armed, or with its handler queued. -/
inductive Timer
  | idle
  | armed
  | fired (ec : Bool)
  deriving DecidableEq, Repr

/-- `cancel` reaches a timer only before its expiry was queued. -/
def Timer.cancel : Timer → Timer
  | .armed => .fired true
  | t => t

/-- The members of a session other than its channel maps and its send queue. -/
structure SessionCore where
  id : UInt32
  sessionType : UInt32
  privateAddr : UInt32
  guid : Bytes
  logined : Bool
  started : Bool
  /-- `_socket` is open. -/
  isOpen : Bool
  timer : Timer
  read : ReadLoop
  phase : Phase
  deriving DecidableEq

namespace SessionCore

/-- A constructed session, with the socket that was accepted into it. -/
def new : SessionCore where
  id := 0
  sessionType := 0
  privateAddr := 0
  guid := []
  logined := false
  started := false
  isOpen := true
  timer := .idle
  read := .new
  phase := .created

/-- `CSession::start`, called once by the acceptor. -/
def start (s : SessionCore) : SessionCore :=
  { s with
    started := true
    timer := .armed
    read := s.read.doRead true s.isOpen
    phase := .live }

/-- The beginning of `CSession::stop`, up to `_started = false`. Closing the
socket ends an outstanding read, but not one whose handler is queued. -/
def beginStop (s : SessionCore) : SessionCore :=
  { s with
    timer := s.timer.cancel
    isOpen := false
    read := s.read.fail
    started := false }

/-- The types that `onSessionLogin` enters into the session map. -/
def isServer (s : SessionCore) : Bool :=
  s.sessionType == SESSIONTYPE.SERVER || s.sessionType == SESSIONTYPE.ANYONE

/-- Neither a handler nor an operation refers to the session any more. -/
def unreferenced (s : SessionCore) : Bool :=
  !s.started && s.timer == .idle && s.read.op == .none

end SessionCore

structure CSession (C : Type) extends SessionCore where
  /-- `_src_channels` and `_dst_channels`. -/
  channels : Side → CChannelMap C

def CSession.new {C : Type} : CSession C := { SessionCore.new with channels := fun _ _ => none }

/-! ## Channels -/

/-- `CChannel::CEnd`. -/
structure CEnd (S : Type) where
  localEp : Endpoint
  ownerSs : Option S
  ownerId : UInt32
  /-- `_socket` is open. -/
  isOpen : Bool
  /-- A `portExpiredChecker` has been spawned and has not returned. -/
  checker : Bool
  deriving DecidableEq

/-- The outcomes of `CEnd::init`: the first failing socket call, or none. -/
inductive InitResult
  | noLocalEndpoint
  | noBind
  | noRemoteEndpoint (ep : Endpoint)
  | ok (ep : Endpoint)
  deriving DecidableEq, Repr

namespace CEnd

variable {S : Type}

def new : CEnd S where
  localEp := ⟨0, 0⟩
  ownerSs := none
  ownerId := 0
  isOpen := true
  checker := false

/-- `CEnd::init` for the session `ss` with id `id`. -/
def init (e : CEnd S) (cfg : Config) (ss : S) (id : UInt32) : InitResult → Bool × CEnd S
  | .noLocalEndpoint => (false, e)
  | .noBind => (false, e)
  | .noRemoteEndpoint ep => (false, { e with ownerSs := some ss, ownerId := id, localEp := ep })
  | .ok ep =>
      (true, { e with
        ownerSs := some ss
        ownerId := id
        localEp := ep
        checker := decide (cfg.portExpired > 0) })

/-- `CEnd::stop`. -/
def stop (e : CEnd S) : CEnd S := { e with isOpen := false, ownerSs := none }

end CEnd

/-- Where `CChannel::stop` is, after it has cleared `_started`. -/
inductive ChannelPc (S : Type)
  | idle
  /-- Lock the session of an end and remove the id from its map. -/
  | close (side : Side)
  /-- `onRespStopProxy` of the locked session. -/
  | notify (side : Side) (ss : S)
  /-- Stop both ends. -/
  | ends
  deriving DecidableEq

structure CChannel (S : Type) where
  id : UInt32
  ends : Side → CEnd S
  started : Bool
  /-- `CChannel::stop` handlers posted on the strand. -/
  posted : Nat
  pc : ChannelPc S
  uploader : Bool
  downloader : Bool
  displayer : Bool
  /-- The `onReqProxy` call that made the channel still holds it. -/
  creating : Bool
  /-- The sessions that the channel was made for. -/
  ss : Side → S
  /-- `stop` has run to its end on the started channel. -/
  stopped : Bool

namespace CChannel

variable {S : Type}

def new (id : UInt32) (ss : Side → S) : CChannel S where
  id := id
  ends := fun _ => .new
  started := false
  posted := 0
  pc := .idle
  uploader := false
  downloader := false
  displayer := false
  creating := true
  ss := ss
  stopped := false

/-- Some shared reference to the channel is left, so that a weak one locks. -/
def held (ch : CChannel S) [DecidableEq S] : Bool :=
  ch.creating || ch.uploader || ch.downloader || ch.displayer || decide (0 < ch.posted) ||
    decide (ch.pc ≠ .idle)

/-- `CChannel::start`. -/
def start (ch : CChannel S) (cfg : Config) : CChannel S :=
  if ch.started then ch
  else { ch with
    started := true
    uploader := true
    downloader := true
    displayer := decide (cfg.displayInterval > 0) }

/-- The beginning of `CChannel::stop`. -/
def beginStop (ch : CChannel S) : CChannel S :=
  if ch.started then { ch with started := false, pc := .close .src } else ch

/-- `CChannel::toStop`. -/
def toStop (ch : CChannel S) : CChannel S := { ch with posted := ch.posted + 1 }

end CChannel

/-! ## The calls in progress -/

/-- `CSession::stop` after `_started` was cleared, and `closeSessionWithLock`. -/
inductive StopPc
  | stopAll (side : Side)
  | removeGuid
  | delDb
  | eraseMap
  | sessionClosed
  deriving DecidableEq, Repr

/-- `onReqLogin` and `onSessionLogin`. -/
inductive LoginPc
  | insertGuid
  | allocId
  | addSession
  /-- The removal of the guid after `addSessionWithLock` failed. -/
  | undoGuid
  | remoteEndpoint
  | addDb (addr : UInt32)
  /-- `_logined` is assigned, and the response queued. -/
  | finish (ok : Bool)
  deriving DecidableEq, Repr

/-- `onReqProxy` and `createChannel`; `d` is the destination session and `c` the
channel object. -/
inductive ProxyPc (S C : Type)
  | lookup
  | create (d : S)
  | initEnd (side : Side) (d : S) (c : C)
  | addChannel (side : Side) (d : S) (c : C)
  /-- `closeSrcChannel` after `addDstChannel` failed. -/
  | undoRemove (d : S) (c : C)
  | undoNotify (d : S) (c : C)
  /-- `createChannel` gives the channel up. -/
  | fail (d : S) (c : C)
  | respErr
  /-- The sockets of a new channel could not be opened: the exception has left the handler,
  and with it the loop of the thread. -/
  | thrown
  | lockDst (c : C)
  | checkDst (d : S) (c : C)
  | start (d : S) (c : C)
  | access (d : S) (c : C)
  | respOk (d : S) (c : C)
  deriving DecidableEq

/-- What the thread of a session is executing for it. -/
inductive Task (S C : Type)
  | idle
  | stop (pc : StopPc)
  | login (header : TagPktHdr) (pc : LoginPc)
  | proxy (req : CReqProxyPkt) (pc : ProxyPc S C)
  deriving DecidableEq

/-- A response with its header, as it is given to `doWrite`. -/
structure Queued (C : Type) where
  header : TagPktHdr
  pkt : CRespPkt
  /-- The end of a channel that the response announces or stops. -/
  about : Option (C × Side)
  deriving DecidableEq

/-- `length()` of the serialized response. -/
def Queued.length {C : Type} (q : Queued C) : Nat := q.pkt.length

/-! ## The server -/

/-- All objects of the server process: the sessions, the members of the session
manager, the channels, and the counter of connections. -/
structure Server (S C : Type) where
  session : S → CSession C
  task : S → Task S C
  sendq : S → SendQueue (Queued C)
  /-- Shared references to a session that calls on other threads hold. -/
  refs : S → Nat
  /-- `_guid_set`; the session that inserted a guid is only recorded. -/
  guidSet : Bytes → Option S
  ssMap : UInt32 → Option S
  sessionId : UInt32
  channelId : UInt32
  ssDb : CSessionDb
  channel : C → Option (CChannel S)
  connNum : UInt32
  /-- The `CServer` object exists. -/
  alive : Bool

namespace Server

variable {S C : Type}

/-- The state after `CServer::start`. -/
def new : Server S C where
  session := fun _ => .new
  task := fun _ => .idle
  sendq := fun _ => .empty
  refs := fun _ => 0
  guidSet := fun _ => none
  ssMap := fun _ => none
  sessionId := 1000
  channelId := 1
  ssDb := .new
  channel := fun _ => none
  connNum := 0
  alive := true

variable [DecidableEq S] [DecidableEq C]

/-- Update the members of one session. -/
def modSession (st : Server S C) (s : S) (f : SessionCore → SessionCore) : Server S C :=
  let ss : CSession C := { st.session s with toSessionCore := f (st.session s).toSessionCore }
  { st with session := Function.update st.session s ss }

/-- Update one of the channel maps of a session. -/
def setChannels (st : Server S C) (s : S) (side : Side) (m : CChannelMap C) : Server S C :=
  let ss : CSession C :=
    { st.session s with channels := Function.update (st.session s).channels side m }
  { st with session := Function.update st.session s ss }

def setTask (st : Server S C) (s : S) (t : Task S C) : Server S C :=
  { st with task := Function.update st.task s t }

def setChannel (st : Server S C) (c : C) (ch : CChannel S) : Server S C :=
  { st with channel := Function.update st.channel c (some ch) }

/-- Another thread takes a shared reference to a session. -/
def acquire (st : Server S C) (s : S) : Server S C :=
  { st with refs := Function.update st.refs s (st.refs s + 1) }

def release (st : Server S C) (s : S) : Server S C :=
  { st with refs := Function.update st.refs s (st.refs s - 1) }

/-- `CSession::doWrite`. -/
def doWrite (st : Server S C) (s : S) (msg : Queued C) : Server S C :=
  { st with sendq := Function.update st.sendq s ((st.sendq s).doWrite Queued.length msg) }

/-- `lock()` of a weak reference to a session. -/
def lock (st : Server S C) (s : Option S) : Option S :=
  s.filter fun s => (st.session s).phase != .destroyed

end Server

end NatProxy
