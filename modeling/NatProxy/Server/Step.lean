import NatProxy.Server.State
import NatProxy.Transition.History

/-!
# The steps of the server

Each function below is one atomic part of a function of the source: from one use
of a lock, a strand or a socket to the next. `Net` holds the answers that a step
may ask of its environment. `step` has no result when its action is not enabled,
and also when the source has no defined behaviour: a read outside a frame, or a
coroutine of a channel that is gone.
-/

namespace NatProxy

open Memory Transition

variable {S C : Type}

/-! ## Responses

What `onReqLogin`, `onReqGetProxies`, `onRespAccess`, `onRespProxyOk`, `onRespProxyErr` and
`onRespStopProxy` queue. -/

def loginMsg (header : TagPktHdr) (err : UInt8) (id : UInt32) : Queued C where
  header := header
  pkt := .login { ucErr := err, uiId := id }
  about := none

def getProxiesMsg (header : TagPktHdr) (sessions : Bytes) : Queued C where
  header := header
  pkt := .getProxies { sessions }
  about := none

/-- `onRespAccess` of the session `ss`, which is the destination. -/
def accessMsg (header : TagPktHdr) (ss : SessionCore) (c : C) (ch : CChannel S) : Queued C where
  header := { header with ucFunc := FUNC.RESP.ACCESS }
  pkt := .access {
    uiSrcId := ss.id
    uiUdpId := ch.id
    uiUdpAddr := (ch.ends .dst).localEp.addr
    usUdpPort := hostToNetworkShort (ch.ends .dst).localEp.port
    uiPrivateAddr := ss.privateAddr }
  about := some (c, .dst)

def proxyOkMsg (header : TagPktHdr) (c : C) (ch : CChannel S) : Queued C where
  header := header
  pkt := .proxy {
    ucErr := ERRCODE.SUCCESS
    uiUdpId := ch.id
    uiUdpAddr := (ch.ends .src).localEp.addr
    usUdpPort := hostToNetworkShort (ch.ends .src).localEp.port }
  about := some (c, .src)

def proxyErrMsg (header : TagPktHdr) (err : UInt8) : Queued C where
  header := header
  pkt := .proxy { ucErr := err, uiUdpId := 0, uiUdpAddr := 0, usUdpPort := 0 }
  about := none

/-- `onRespStopProxy` for one end of a channel. -/
def stopProxyMsg (side : Side) (c : C) (ch : CChannel S) : Queued C where
  header := {
    ucHead1 := HEADER.H1
    ucHead2 := HEADER.H2
    ucPrtVersion := PROTOVERSION.V1
    ucSvrVersion := SVRVERSION.NOENCRYP
    ucFunc := FUNC.RESP.STOPPROXY
    ucKeyIndex := 0x00
    usBodyLen := 0 }
  pkt := .stopProxy {
    uiUdpId := ch.id
    uiUdpAddr := (ch.ends side).localEp.addr
    usUdpPort := hostToNetworkShort (ch.ends side).localEp.port }
  about := some (c, side)

/-! ## Actions -/

/-- The answers of the environment: whether a socket call succeeds, the peer's
address, the outcome of `CEnd::init`, and the address of a new channel object. -/
structure Net (C : Type) where
  ok : Bool
  addr : UInt32
  init : InitResult
  fresh : C

inductive Coro
  | uploader
  | downloader
  | displayer
  deriving DecidableEq, Repr

inductive Action (S C : Type)
  /-- The tests of the acceptor on an accepted socket; `ok` is the outcome of
  `remote_endpoint`. -/
  | acceptorTest (s : S) (ok : Bool)
  | acceptorCount (s : S)
  | acceptorStart (s : S)
  /-- The login timer expires, and its handler is queued. -/
  | timerExpires (s : S)
  /-- The outstanding read completes. -/
  | deliver (s : S) (data : Bytes)
  | readFails (s : S)
  | onTimeout (s : S)
  | onReadHead (s : S)
  | onReadBody (s : S)
  /-- The thread of the session goes on with the call it is in. -/
  | run (s : S) (net : Net C)
  /-- The strand and the socket of the send queue. -/
  | writer (s : S) (e : SendQueue.Event (Queued C))
  | destroy (s : S)
  /-- A posted `CChannel::stop` runs. -/
  | strandStop (c : C)
  /-- The uploader or the downloader finds a socket closed and calls `stop`. -/
  | socketStop (c : C)
  /-- The thread of the channel goes on with `CChannel::stop`. -/
  | runStop (c : C)
  /-- A `portExpiredChecker` wakes up. -/
  | checker (c : C) (side : Side) (expired : Bool)
  | coroExit (c : C) (coro : Coro)
  | db (e : CSessionDb.Event)
  /-- The last reference to the `CServer` is dropped. -/
  | releaseServer

/-- The session at one end, of a source and a destination. -/
def endpoints (s d : S) : Side → S
  | .src => s
  | .dst => d

/-- Where `CChannel::stop` goes on after it has closed one side. -/
def afterClose : Side → ChannelPc S
  | .src => .close .dst
  | .dst => .ends

def CChannel.exit (ch : CChannel S) : Coro → CChannel S
  | .uploader => { ch with uploader := false }
  | .downloader => { ch with downloader := false }
  | .displayer => { ch with displayer := false }

def CChannel.setEnd (ch : CChannel S) (side : Side) (e : CEnd S) : CChannel S :=
  { ch with ends := Function.update ch.ends side e }

/-- The call that created the channel drops its reference. -/
def CChannel.drop (ch : CChannel S) : CChannel S := { ch with creating := false }

namespace Server

variable [DecidableEq S] [DecidableEq C]

/-! ## Closing a session -/

/-- `CSession::stop` up to its first use of a lock. -/
def stopSession (st : Server S C) (s : S) : Server S C :=
  (st.modSession s .beginStop).setTask s
    (if (st.session s).started then .stop (.stopAll .src) else .idle)

/-- `CChannelMap::stopAll`. A channel is only ever entered under its own id. -/
def stopAll (st : Server S C) (s : S) (side : Side) : Server S C :=
  let map := (st.session s).channels side
  { st.setChannels s side fun _ => none with
    channel := fun c => (st.channel c).map fun ch =>
      if map ch.id = some c ∧ ch.held then ch.toStop else ch }

/-- The rest of `CSession::stop`, with `closeSessionWithLock`. -/
def runStop (st : Server S C) (s : S) : StopPc → Server S C
  | .stopAll .src => (st.stopAll s .src).setTask s (.stop (.stopAll .dst))
  | .stopAll .dst => (st.stopAll s .dst).setTask s (.stop .removeGuid)
  | .removeGuid =>
      if (st.session s).logined then
        { st with guidSet := Function.update st.guidSet (st.session s).guid none }.setTask s
          (.stop .delDb)
      else st.setTask s (.stop .sessionClosed)
  | .delDb => { st with ssDb := st.ssDb.del (st.session s).id }.setTask s (.stop .eraseMap)
  | .eraseMap =>
      { st with ssMap := Function.update st.ssMap (st.session s).id none }.setTask s
        (.stop .sessionClosed)
  | .sessionClosed =>
      { st with connNum := if st.alive then st.connNum - 1 else st.connNum }.setTask s .idle

/-! ## Handlers of a session -/

def endHandler (st : Server S C) (s : S) : Server S C :=
  (st.modSession s fun ss => { ss with read := ss.read.finishBody ss.started ss.isOpen }).setTask s
    .idle

def onTimeout (st : Server S C) (s : S) : Option (Server S C) :=
  match (st.session s).timer with
  | .fired ec =>
      let st := st.modSession s fun ss => { ss with timer := .idle }
      some (if ec then st else st.stopSession s)
  | _ => none

def onReadHead (st : Server S C) (s : S) : Option (Server S C) :=
  let ss := (st.session s).toSessionCore
  match ss.read.op with
  | .done .head ec bytes =>
      match { ss.read with op := .none }.onReadHead ss.isOpen ec bytes with
      | (true, read) => some ((st.modSession s fun ss => { ss with read }).stopSession s)
      | (false, read) => some (st.modSession s fun ss => { ss with read })
  | _ => none

/-- `CSession::onReqLogin` up to `onSessionLogin`. -/
def onReqLogin (st : Server S C) (s : S) (req : CReqLoginPkt) : Server S C :=
  if (st.session s).logined then
    (st.doWrite s (loginMsg req.header ERRCODE.REPEAT_LOGINED_ERR (st.session s).id)).endHandler s
  else
    (st.modSession s fun ss => { ss with
      guid := req.szGuid
      privateAddr := req.uiPrivateAddr
      sessionType := req.uctype.toUInt32 }).setTask s (.login req.header .insertGuid)

/-- The handlers that `onReadBody` calls. -/
def handle (st : Server S C) (s : S) : Request → Server S C
  | .none => st.endHandler s
  | .login req => st.onReqLogin s req
  | .proxy req => st.setTask s (.proxy req .lookup)
  | .getProxies req => (st.doWrite s (getProxiesMsg req.header st.ssDb.output)).endHandler s

def onReadBody (st : Server S C) (s : S) : Option (Server S C) :=
  let ss := (st.session s).toSessionCore
  match ss.read.op with
  | .done .body ec bytes =>
      let st := st.modSession s fun ss => { ss with read := { ss.read with op := .none } }
      if ReadLoop.bodyFails ec bytes then some (st.stopSession s)
      else
        match dispatch ss.sessionType ss.read.hdr ss.read.rbuf with
        | .ok req => some (st.handle s req)
        | .error _ => none
  | _ => none

/-- `onSessionLogin` and the rest of `onReqLogin`. -/
def runLogin (st : Server S C) (s : S) (header : TagPktHdr) (net : Net C) : LoginPc → Server S C
  | .insertGuid =>
      match st.guidSet (st.session s).guid with
      | some _ => st.setTask s (.login header (.finish false))
      | none =>
          { st with guidSet := Function.update st.guidSet (st.session s).guid (some s) }.setTask s
            (.login header .allocId)
  | .allocId =>
      ({ st with sessionId := st.sessionId + 1 }.modSession s fun ss =>
        { ss with id := st.sessionId }).setTask s
          (.login header (if (st.session s).isServer then .addSession else .finish true))
  | .addSession =>
      match st.ssMap (st.session s).id with
      | some _ => st.setTask s (.login header .undoGuid)
      | none =>
          { st with ssMap := Function.update st.ssMap (st.session s).id (some s) }.setTask s
            (.login header .remoteEndpoint)
  | .undoGuid =>
      { st with guidSet := Function.update st.guidSet (st.session s).guid none }.setTask s
        (.login header (.finish false))
  | .remoteEndpoint =>
      st.setTask s (.login header
        (if (st.session s).isOpen ∧ net.ok then .addDb net.addr else .finish false))
  | .addDb addr =>
      { st with ssDb := st.ssDb.add ⟨(st.session s).id, addr, (st.session s).guid⟩ }.setTask s
        (.login header (.finish true))
  | .finish true =>
      ((st.modSession s fun ss => { ss with logined := true, timer := ss.timer.cancel }).doWrite s
        (loginMsg header ERRCODE.SUCCESS (st.session s).id)).endHandler s
  | .finish false =>
      ((st.modSession s fun ss => { ss with logined := false }).doWrite s
        (loginMsg header ERRCODE.LOGINED_FAILED 0)).endHandler s

/-- `onReqProxy` with `createChannel`. -/
def runProxy (st : Server S C) (cfg : Config) (s : S) (req : CReqProxyPkt) (net : Net C) :
    ProxyPc S C → Option (Server S C)
  | .lookup =>
      match if st.alive then st.lock (st.ssMap req.uiDstId) else none with
      | some d => some ((st.acquire d).setTask s (.proxy req (.create d)))
      | none => some (st.setTask s (.proxy req .respErr))
  | .create d =>
      if net.ok then
        match st.channel net.fresh with
        | some _ => none
        | none =>
            some ({ st.setChannel net.fresh (.new st.channelId (endpoints s d)) with
              channelId := st.channelId + 1 }.setTask s
                (.proxy req (.initEnd .src d net.fresh)))
      else
        -- the constructors of the two `CEnd`s open and configure a socket each, or throw
        some (({ st with channelId := st.channelId + 1 }.release d).setTask s
          (.proxy req .thrown))
  | .initEnd side d c =>
      (st.channel c).map fun ch =>
        let ss := st.session (endpoints s d side)
        let (ok, e) := (ch.ends side).init cfg (endpoints s d side) ss.id
          (if ss.isOpen then net.init else .noLocalEndpoint)
        (st.setChannel c (ch.setEnd side e)).setTask s (.proxy req
          (match ok, side with
          | true, .src => .initEnd .dst d c
          | true, .dst => .addChannel .src d c
          | false, _ => .fail d c))
  | .addChannel .src d c =>
      (st.channel c).map fun ch =>
        match ((st.session s).channels .src).insert ch.id c with
        | (true, map) => (st.setChannels s .src map).setTask s (.proxy req (.addChannel .dst d c))
        | (false, _) => st.setTask s (.proxy req (.fail d c))
  | .addChannel .dst d c =>
      (st.channel c).map fun ch =>
        match ((st.session d).channels .dst).insert ch.id c with
        | (true, map) =>
            ((st.setChannels d .dst map).release d).setTask s (.proxy req (.lockDst c))
        | (false, _) => st.setTask s (.proxy req (.undoRemove d c))
  | .undoRemove d c =>
      (st.channel c).map fun ch =>
        (st.setChannels s .src (((st.session s).channels .src).remove ch.id)).setTask s
          (.proxy req (.undoNotify d c))
  | .undoNotify d c =>
      (st.channel c).map fun ch =>
        (st.doWrite s (stopProxyMsg .src c ch)).setTask s (.proxy req (.fail d c))
  | .fail d c =>
      (st.channel c).map fun ch =>
        ((st.setChannel c ch.beginStop.drop).release d).setTask s (.proxy req .respErr)
  | .respErr =>
      some ((st.doWrite s (proxyErrMsg req.header ERRCODE.CREATE_UDP_FAILED)).endHandler s)
  | .thrown => none
  | .lockDst c =>
      (st.channel c).map fun ch =>
        match st.lock (ch.ends .dst).ownerSs with
        | some d => (st.acquire d).setTask s (.proxy req (.checkDst d c))
        | none => (st.setChannel c ch.drop).endHandler s
  | .checkDst d c =>
      (st.channel c).map fun ch =>
        if (st.session d).started then st.setTask s (.proxy req (.start d c))
        else ((st.setChannel c ch.drop).release d).endHandler s
  | .start d c =>
      (st.channel c).map fun ch =>
        (st.setChannel c (ch.start cfg)).setTask s (.proxy req (.access d c))
  | .access d c =>
      (st.channel c).map fun ch =>
        (st.doWrite d (accessMsg req.header (st.session d).toSessionCore c ch)).setTask s
          (.proxy req (.respOk d c))
  | .respOk d c =>
      (st.channel c).map fun ch =>
        (((st.doWrite s (proxyOkMsg req.header c ch)).setChannel c ch.drop).release d).endHandler s

/-! ## Handlers of a channel -/

def runChannel (st : Server S C) (c : C) (ch : CChannel S) : Option (Server S C) :=
  match ch.pc with
  | .idle => none
  | .close side =>
      match st.lock (ch.ends side).ownerSs with
      | some ss =>
          some (((st.setChannels ss side (((st.session ss).channels side).remove ch.id)).acquire
            ss).setChannel c { ch with pc := .notify side ss })
      | none => some (st.setChannel c { ch with pc := afterClose side })
  | .notify side ss =>
      some (((st.doWrite ss (stopProxyMsg side c ch)).release ss).setChannel c
        { ch with pc := afterClose side })
  | .ends =>
      some (st.setChannel c { ch with
        ends := fun side => (ch.ends side).stop
        pc := .idle
        stopped := true })

/-- The handlers of a channel that start while its thread does nothing else. -/
def channelStep (st : Server S C) (c : C) (ch : CChannel S) :
    Action S C → Option (Server S C)
  | .strandStop _ =>
      if 0 < ch.posted then some (st.setChannel c { ch with posted := ch.posted - 1 }.beginStop)
      else none
  | .socketStop _ =>
      if (ch.uploader ∨ ch.downloader) ∧ (!(ch.ends .src).isOpen ∨ !(ch.ends .dst).isOpen) then
        some (st.setChannel c ch.beginStop)
      else none
  | .checker _ side expired =>
      if (ch.ends side).checker ∧ ch.held then
        if !(ch.ends side).isOpen then
          some (st.setChannel c (ch.setEnd side { ch.ends side with checker := false }))
        else if expired then
          some (st.setChannel c (ch.setEnd side { (ch.ends side).stop with checker := false }))
        else some st
      else none
  | .coroExit _ coro => if ch.started then none else some (st.setChannel c (ch.exit coro))
  | _ => none

/-- Run a handler of a channel on its idle thread. -/
def onChannel (st : Server S C) (c : C) (a : Action S C) : Option (Server S C) :=
  match st.channel c with
  | some ch => if ch.pc = .idle then st.channelStep c ch a else none
  | none => none

/-! ## The step function -/

/-- The session thread is between two handlers. -/
def idle (st : Server S C) (s : S) : Bool :=
  match st.task s with
  | .idle => true
  | _ => false

/-- Nothing refers to the session any more: no handler, no call on another thread. -/
def unreferenced (st : Server S C) (s : S) : Bool :=
  (st.session s).toSessionCore.unreferenced && st.idle s && st.refs s == 0 &&
    (st.sendq s).posted.isEmpty && (st.sendq s).inflight.isEmpty

def step (cfg : Config) (st : Server S C) : Action S C → Option (Server S C)
  | .acceptorTest s ok =>
      if (st.session s).phase = .created then
        let full := cfg.maxSessions > 0 ∧ st.connNum > cfg.maxSessions
        some (st.modSession s fun ss =>
          { ss with phase := if !ok ∨ full then .rejected else .admitted })
      else none
  | .acceptorCount s =>
      if (st.session s).phase = .admitted then
        some ({ st with connNum := st.connNum + 1 }.modSession s fun ss =>
          { ss with phase := .counted })
      else none
  | .acceptorStart s =>
      if (st.session s).phase = .counted then some (st.modSession s .start) else none
  | .timerExpires s =>
      if (st.session s).timer = .armed then
        some (st.modSession s fun ss => { ss with timer := .fired false })
      else none
  | .deliver s data =>
      ((st.session s).read.deliver data).map fun read => st.modSession s fun ss => { ss with read }
  | .readFails s => some (st.modSession s fun ss => { ss with read := ss.read.fail })
  | .onTimeout s => if st.idle s then st.onTimeout s else none
  | .onReadHead s => if st.idle s then st.onReadHead s else none
  | .onReadBody s => if st.idle s then st.onReadBody s else none
  | .run s net =>
      match st.task s with
      | .idle => none
      | .stop pc => some (st.runStop s pc)
      | .login header pc => some (st.runLogin s header net pc)
      | .proxy req pc => st.runProxy cfg s req net pc
  | .writer s e =>
      match e with
      | .doWrite _ => none
      | e =>
          if st.idle s then
            ((st.sendq s).step Queued.length e).map fun q =>
              { st with sendq := Function.update st.sendq s q }
          else none
  | .destroy s =>
      if ((st.session s).phase = .rejected ∨ (st.session s).phase = .live) ∧ st.unreferenced s then
        some (st.modSession s fun ss => { ss with phase := .destroyed })
      else none
  | .strandStop c => st.onChannel c (.strandStop c)
  | .socketStop c => st.onChannel c (.socketStop c)
  | .runStop c => (st.channel c).bind fun ch => st.runChannel c ch
  | .checker c side expired => st.onChannel c (.checker c side expired)
  | .coroExit c coro => st.onChannel c (.coroExit c coro)
  | .db e => (st.ssDb.step e).map fun ssDb => { st with ssDb }
  | .releaseServer => if st.alive then some { st with alive := false } else none

/-! ## What the handlers do -/

section Handlers

variable {st st' : Server S C} {s : S}

omit [DecidableEq C] in
theorem onTimeout_eq_some (run : st.onTimeout s = some st') :
    ∃ ec, (st.session s).timer = .fired ec ∧
      st' = if ec then st.modSession s fun ss => { ss with timer := .idle }
        else (st.modSession s fun ss => { ss with timer := .idle }).stopSession s := by
  rw [onTimeout] at run
  split at run
  · next ec fired => exact ⟨ec, fired, (Option.some.inj run).symm⟩
  · cases run

omit [DecidableEq C] in
/-- `onReadHead` stores what it has read, and then it may call `stop`. -/
theorem onReadHead_eq_some (run : st.onReadHead s = some st') :
    ∃ ec bytes stops read, (st.session s).read.op = .done .head ec bytes ∧
      ({ (st.session s).read with op := .none } : ReadLoop).onReadHead (st.session s).isOpen ec
        bytes = (stops, read) ∧
      st' = if stops then (st.modSession s fun ss => { ss with read := read }).stopSession s
        else st.modSession s fun ss => { ss with read := read } := by
  rw [onReadHead] at run
  split at run
  · next ec bytes done =>
    dsimp only at run
    split at run <;>
    · next read checked =>
      exact ⟨ec, bytes, _, read, done, checked, (Option.some.inj run).symm⟩
  · cases run

omit [DecidableEq C] in
/-- `onReadBody` calls `stop` after an error, and else the handler of the request. -/
theorem onReadBody_eq_some (run : st.onReadBody s = some st') :
    ∃ ec bytes, (st.session s).read.op = .done .body ec bytes ∧
      (st' = (st.modSession s fun ss =>
          { ss with read := { ss.read with op := .none } }).stopSession s ∨
        ec = false ∧ ∃ req, dispatch (st.session s).sessionType (st.session s).read.hdr
            (st.session s).read.rbuf = .ok req ∧
          st' = (st.modSession s fun ss =>
            { ss with read := { ss.read with op := .none } }).handle s req) := by
  rw [onReadBody] at run
  split at run
  · next ec bytes done =>
    refine ⟨ec, bytes, done, ?_⟩
    dsimp only at run
    split at run
    · exact .inl (Option.some.inj run).symm
    · next delivered =>
      split at run
      · next req decoded =>
        refine .inr ⟨?_, req, decoded, (Option.some.inj run).symm⟩
        rw [ReadLoop.bodyFails] at delivered
        simp_all
      · cases run
  · cases run

theorem onChannel_eq_some_iff {c : C} {a : Action S C} :
    st.onChannel c a = some st' ↔
      ∃ ch, st.channel c = some ch ∧ ch.pc = .idle ∧ st.channelStep c ch a = some st' := by
  rw [onChannel]
  cases st.channel c with
  | none => simp
  | some ch => simp

/-- A handler of a channel changes its channel only. -/
theorem onChannel_eq_some {c : C} {a : Action S C} (run : st.onChannel c a = some st') :
    st' = st ∨ ∃ ch, st' = st.setChannel c ch := by
  obtain ⟨ch, _, _, run⟩ := onChannel_eq_some_iff.mp run
  cases a with
  | strandStop | socketStop | coroExit =>
      simp only [channelStep, Option.ite_none_right_eq_some, Option.ite_none_left_eq_some,
        Option.some.injEq] at run
      obtain ⟨_, rfl⟩ := run
      exact .inr ⟨_, rfl⟩
  | checker =>
      simp only [channelStep, Option.ite_none_right_eq_some] at run
      obtain ⟨_, run⟩ := run
      split at run
      · exact .inr ⟨_, (Option.some.inj run).symm⟩
      · split at run
        · exact .inr ⟨_, (Option.some.inj run).symm⟩
        · exact .inl (Option.some.inj run).symm
  | _ => cases run

/-! The acceptor, the timer, the socket and the last owner of a session change that session
only. -/

theorem acceptorTest_eq_some {cfg : Config} {ok : Bool}
    (run : step cfg st (.acceptorTest s ok) = some st') :
    (st.session s).phase = .created ∧ st' = st.modSession s fun ss =>
      { ss with phase := if !ok ∨ cfg.maxSessions > 0 ∧ st.connNum > cfg.maxSessions then
          .rejected else .admitted } := by
  obtain ⟨created, run⟩ := Option.ite_none_right_eq_some.mp run
  exact ⟨created, (Option.some.inj run).symm⟩

theorem acceptorCount_eq_some {cfg : Config} (run : step cfg st (.acceptorCount s) = some st') :
    (st.session s).phase = .admitted ∧
      st' = { st with connNum := st.connNum + 1 }.modSession s fun ss =>
        { ss with phase := .counted } := by
  obtain ⟨admitted, run⟩ := Option.ite_none_right_eq_some.mp run
  exact ⟨admitted, (Option.some.inj run).symm⟩

theorem acceptorStart_eq_some {cfg : Config} (run : step cfg st (.acceptorStart s) = some st') :
    (st.session s).phase = .counted ∧ st' = st.modSession s .start := by
  obtain ⟨counted, run⟩ := Option.ite_none_right_eq_some.mp run
  exact ⟨counted, (Option.some.inj run).symm⟩

theorem timerExpires_eq_some {cfg : Config} (run : step cfg st (.timerExpires s) = some st') :
    (st.session s).timer = .armed ∧
      st' = st.modSession s fun ss => { ss with timer := .fired false } := by
  obtain ⟨armed, run⟩ := Option.ite_none_right_eq_some.mp run
  exact ⟨armed, (Option.some.inj run).symm⟩

theorem deliver_eq_some {cfg : Config} {data : Bytes}
    (run : step cfg st (.deliver s data) = some st') :
    ∃ read, (st.session s).read.deliver data = some read ∧
      st' = st.modSession s fun ss => { ss with read } := by
  obtain ⟨read, delivered, rfl⟩ := Option.map_eq_some_iff.mp run
  exact ⟨read, delivered, rfl⟩

theorem destroy_eq_some {cfg : Config} (run : step cfg st (.destroy s) = some st') :
    ((st.session s).phase = .rejected ∨ (st.session s).phase = .live) ∧ st.unreferenced s = true ∧
      st' = st.modSession s fun ss => { ss with phase := .destroyed } := by
  obtain ⟨⟨ended, unused⟩, run⟩ := Option.ite_none_right_eq_some.mp run
  exact ⟨ended, unused, (Option.some.inj run).symm⟩

theorem db_eq_some {cfg : Config} {e : CSessionDb.Event} (run : step cfg st (.db e) = some st') :
    ∃ ssDb, st.ssDb.step e = some ssDb ∧ st' = { st with ssDb } := by
  obtain ⟨ssDb, stepped, rfl⟩ := Option.map_eq_some_iff.mp run
  exact ⟨ssDb, stepped, rfl⟩

theorem releaseServer_eq_some {cfg : Config} (run : step cfg st .releaseServer = some st') :
    st.alive = true ∧ st' = { st with alive := false } := by
  obtain ⟨alive, run⟩ := Option.ite_none_right_eq_some.mp run
  exact ⟨alive, (Option.some.inj run).symm⟩

/-- The thread of a session goes on with the call that it executes. -/
theorem run_cases {cfg : Config} {net : Net C} (run : step cfg st (.run s net) = some st') :
    (∃ pc, st.task s = .stop pc ∧ st' = st.runStop s pc) ∨
    (∃ header pc, st.task s = .login header pc ∧ st' = st.runLogin s header net pc) ∨
    ∃ req pc, st.task s = .proxy req pc ∧ st.runProxy cfg s req net pc = some st' := by
  rw [step] at run
  split at run
  · cases run
  · next pc here => exact .inl ⟨pc, here, (Option.some.inj run).symm⟩
  · next header pc here => exact .inr (.inl ⟨header, pc, here, (Option.some.inj run).symm⟩)
  · next req pc here => exact .inr (.inr ⟨req, pc, here, run⟩)

/-- A new channel, or the exception of its constructor. -/
theorem create_eq_some {cfg : Config} {req : CReqProxyPkt} {net : Net C} {d : S}
    (run : st.runProxy cfg s req net (.create d) = some st') :
    net.ok = true ∧ st.channel net.fresh = none ∧
      st' = { st.setChannel net.fresh (.new st.channelId (endpoints s d)) with
        channelId := st.channelId + 1 }.setTask s (.proxy req (.initEnd .src d net.fresh)) ∨
    net.ok = false ∧ st' = ({ st with channelId := st.channelId + 1 }.release d).setTask s
      (.proxy req .thrown) := by
  rw [runProxy] at run
  split at run
  · next ok =>
    split at run
    · cases run
    · next fresh => exact .inl ⟨ok, fresh, (Option.some.inj run).symm⟩
  · next ok => exact .inr ⟨Bool.eq_false_iff.mpr ok, (Option.some.inj run).symm⟩

/-- The strand and the socket of a send queue change that queue only. -/
theorem writer_eq_some {cfg : Config} {e : SendQueue.Event (Queued C)}
    (run : step cfg st (.writer s e) = some st') :
    ∃ q, (∀ msg, e ≠ .doWrite msg) ∧ (st.sendq s).step Queued.length e = some q ∧
      st' = { st with sendq := Function.update st.sendq s q } := by
  cases e with
  | doWrite msg => simp [step] at run
  | runPosted | complete =>
      simp only [step, Option.ite_none_right_eq_some, Option.map_eq_some_iff] at run
      obtain ⟨_, q, ran, rfl⟩ := run
      exact ⟨q, by rintro _ ⟨⟩, ran, rfl⟩

end Handlers

/-- All runs of the server. -/
def system (cfg : Config) : Transition.System (Server S C) (Action S C) :=
  .ofStep (fun st => st = .new) (step cfg)

/-- A run of the server shows that a state with `P` is reachable. -/
theorem reachable_of_run (cfg : Config) (as : List (Action S C)) {P : Server S C → Prop}
    (check : ∃ st ∈ System.runSteps (step cfg) new as, P st) :
    ∃ st, (system cfg).Reachable st ∧ P st :=
  System.reachable_of_check rfl check

/-- A run whose steps pass a test for a condition. -/
theorem reachable_of_testedRun (cfg : Config) (as : List (Action S C))
    {D : Server S C → Action S C → Prop} {test : Server S C → Action S C → Bool}
    (sound : ∀ st a, test st a = true → D st a) {P : Server S C → Prop}
    (check : ∃ st ∈ System.runSteps (fun st a => if test st a then step cfg st a else none) new as,
      P st) : ∃ st, ((system cfg).restrict D).Reachable st ∧ P st :=
  System.reachable_of_testedSteps sound rfl check

/-- The same with what an observer sees of the run. -/
theorem logged_of_testedRun {β : Type} (cfg : Config) (obs : Server S C → Action S C → List β)
    (as : List (Action S C)) {D : Server S C → Action S C → Prop}
    {test : Server S C → Action S C → Bool} (sound : ∀ st a, test st a = true → D st a)
    {P : Server S C → List β → Prop}
    (check : ∃ p ∈ System.runSteps
      (fun p a => if test p.1 a then System.logStep (step cfg) obs p a else none) (new, []) as,
      P p.1 p.2) :
    ∃ st log, (((system cfg).restrict D).logged obs).Reachable (st, log) ∧ P st log :=
  System.logged_of_testedSteps sound rfl check

end Server

/-! ## Sequences of actions -/

/-- For the literals of sessions and channels below. -/
instance neZero_one : @NeZero Nat Zero.ofOfNat0 1 := ⟨Nat.succ_ne_zero 0⟩

instance neZero_two : @NeZero Nat Zero.ofOfNat0 2 := ⟨Nat.succ_ne_zero 1⟩

instance neZero_three : @NeZero Nat Zero.ofOfNat0 3 := ⟨Nat.succ_ne_zero 2⟩

/-- A connection is accepted and its session started. -/
def accept (s : S) : List (Action S C) := [.acceptorTest s true, .acceptorCount s, .acceptorStart s]

/-- The header and the body of a frame that asks for `func`. -/
def requestFrame (func : UInt8) (body : Bytes) : Bytes × Bytes :=
  (TagPktHdr.toBytes {
    ucHead1 := HEADER.H1
    ucHead2 := HEADER.H2
    ucPrtVersion := PROTOVERSION.V1
    ucSvrVersion := SVRVERSION.NOENCRYP
    ucFunc := func
    ucKeyIndex := 0
    usBodyLen := UInt16.ofNat body.length }, body)

/-- A login with a short guid, the private address zero and a session type. -/
def loginFrame (guid : Bytes) (uctype : UInt8) : Bytes × Bytes :=
  requestFrame FUNC.REQ.LOGIN (UInt8.ofNat guid.length :: guid ++ leBytes 4 0 ++ [uctype])

/-- A request for a channel to the session with an id, without a game id. -/
def proxyFrame (dstId : UInt32) : Bytes × Bytes :=
  requestFrame FUNC.REQ.PROXY (leBytes 4 0 ++ leBytes 4 dstId.toNat ++ [0])

/-- A frame arrives, and its handler is called. -/
def receive (s : S) (frame : Bytes × Bytes) : List (Action S C) :=
  [.deliver s frame.1, .onReadHead s, .deliver s frame.2, .onReadBody s]

/-- Every socket call succeeds. -/
def Net.success (fresh : C) : Net C := ⟨true, 0x7F000001, .ok ⟨0x7F000001, 0x1000⟩, fresh⟩

/-- The thread of a session goes on `n` times, with every socket call succeeding. -/
def go (s : S) (n : Nat) : List (Action S (Fin 1)) := List.replicate n (.run s (.success 0))

/-- A client and a server log in, and the client asks for a channel. -/
def requestChannel : List (Action (Fin 2) (Fin 1)) :=
  accept 0 ++ receive 0 (loginFrame [0x41] 1) ++ go 0 3 ++
    accept 1 ++ receive 1 (loginFrame [0x42] 2) ++ go 1 6 ++ receive 0 (proxyFrame 1001)

/-- The channel is created, the destination closes its connection, and the channel
stops. -/
def closedDestination : List (Action (Fin 2) (Fin 1)) :=
  requestChannel ++ go 0 11 ++ [.readFails 1, .onReadHead 1] ++ go 1 6 ++ [.strandStop 0] ++
    List.replicate 5 (.runStop 0)

end NatProxy
