import NatProxy.Server.Consistency

/-!
# The channels of the server

Creating, starting and stopping a channel involves the calls of the two sessions
it is made for, the thread of the channel, the channel maps of the sessions and
the responses that are queued to them. `Channels` is the part of the server that
holds these; whatever else a session's thread does is one `other`.

`Channels.Step` says once what a step of the server can do to them. As with the
registry, `Server.channels_mapping` connects the two.
-/

namespace NatProxy

open Transition

/-- The response is a STOPPROXY. -/
def Queued.isStopProxy {C : Type} (msg : Queued C) : Bool :=
  match msg.pkt with
  | .stopProxy _ => true
  | _ => false

theorem Queued.isStopProxy_iff {C : Type} {msg : Queued C} :
    msg.isStopProxy = true ↔ ∃ resp, msg.pkt = .stopProxy resp := by
  rw [isStopProxy]
  cases msg.pkt <;> simp

/-- The response is a list of sessions. -/
def Queued.isDirectory {C : Type} (msg : Queued C) : Bool :=
  match msg.pkt with
  | .getProxies _ => true
  | _ => false

/-- The call of a session's thread. -/
inductive ChanTask (S C : Type)
  | other
  | stop (pc : StopPc)
  | proxy (req : CReqProxyPkt) (pc : ProxyPc S C)

/-- What the channels and the sessions know of each other. -/
@[ext]
structure Channels (S C : Type) where
  /-- The session has been started, whether or not it still runs. -/
  used : S → Prop
  /-- The session object has been destroyed. -/
  dead : S → Prop
  started : S → Bool
  task : S → ChanTask S C
  map : S → Side → CChannelMap C
  channel : C → Option (CChannel S)
  /-- The responses that were given to `doWrite`, in order. -/
  called : S → List (Queued C)

variable {S C : Type}

namespace Channels

section Sessions

variable [DecidableEq S] (v : Channels S C) (s r : S) (t : ChanTask S C) (side : Side)
variable (m : CChannelMap C) (msg : Queued C)

def setTask : Channels S C := { v with task := Function.update v.task s t }

@[simp] theorem used_setTask : (v.setTask s t).used = v.used := rfl
@[simp] theorem dead_setTask : (v.setTask s t).dead = v.dead := rfl
@[simp] theorem started_setTask : (v.setTask s t).started = v.started := rfl
@[simp] theorem task_setTask : (v.setTask s t).task = Function.update v.task s t := rfl
@[simp] theorem map_setTask : (v.setTask s t).map = v.map := rfl
@[simp] theorem channel_setTask : (v.setTask s t).channel = v.channel := rfl
@[simp] theorem called_setTask : (v.setTask s t).called = v.called := rfl

def setMap : Channels S C :=
  { v with map := Function.update v.map s (Function.update (v.map s) side m) }

@[simp] theorem used_setMap : (v.setMap s side m).used = v.used := rfl
@[simp] theorem dead_setMap : (v.setMap s side m).dead = v.dead := rfl
@[simp] theorem started_setMap : (v.setMap s side m).started = v.started := rfl
@[simp] theorem task_setMap : (v.setMap s side m).task = v.task := rfl
@[simp] theorem channel_setMap : (v.setMap s side m).channel = v.channel := rfl
@[simp] theorem called_setMap : (v.setMap s side m).called = v.called := rfl

theorem map_setMap (other : Side) : (v.setMap s side m).map r other =
    if r = s ∧ other = side then m else v.map r other := by
  by_cases same : r = s
  · subst same
    by_cases here : other = side
    · subst here
      simp [setMap]
    · simp [setMap, here]
  · simp [setMap, same]

/-- Queue a response to a session. -/
def say : Channels S C := { v with called := Function.update v.called s (v.called s ++ [msg]) }

@[simp] theorem used_say : (v.say s msg).used = v.used := rfl
@[simp] theorem dead_say : (v.say s msg).dead = v.dead := rfl
@[simp] theorem started_say : (v.say s msg).started = v.started := rfl
@[simp] theorem task_say : (v.say s msg).task = v.task := rfl
@[simp] theorem map_say : (v.say s msg).map = v.map := rfl
@[simp] theorem channel_say : (v.say s msg).channel = v.channel := rfl
@[simp] theorem called_say :
    (v.say s msg).called = Function.update v.called s (v.called s ++ [msg]) := rfl

end Sessions

section Objects

variable [DecidableEq C] (v : Channels S C) (c : C) (ch : CChannel S)

def setChannel : Channels S C := { v with channel := Function.update v.channel c (some ch) }

@[simp] theorem used_setChannel : (v.setChannel c ch).used = v.used := rfl
@[simp] theorem dead_setChannel : (v.setChannel c ch).dead = v.dead := rfl
@[simp] theorem started_setChannel : (v.setChannel c ch).started = v.started := rfl
@[simp] theorem task_setChannel : (v.setChannel c ch).task = v.task := rfl
@[simp] theorem map_setChannel : (v.setChannel c ch).map = v.map := rfl
@[simp] theorem channel_setChannel :
    (v.setChannel c ch).channel = Function.update v.channel c (some ch) := rfl
@[simp] theorem called_setChannel : (v.setChannel c ch).called = v.called := rfl

end Objects

variable [DecidableEq S] [DecidableEq C]

section StopAll

variable (v : Channels S C) (s r : S) (c : C) (side : Side)

/-- `CChannelMap::stopAll` of one map of a session. -/
def stopAll : Channels S C :=
  { v.setMap s side fun _ => none with
    channel := fun c => (v.channel c).map fun ch =>
      if v.map s side ch.id = some c ∧ ch.held then ch.toStop else ch }

@[simp] theorem used_stopAll : (v.stopAll s side).used = v.used := rfl
@[simp] theorem dead_stopAll : (v.stopAll s side).dead = v.dead := rfl
@[simp] theorem started_stopAll : (v.stopAll s side).started = v.started := rfl
@[simp] theorem task_stopAll : (v.stopAll s side).task = v.task := rfl
@[simp] theorem called_stopAll : (v.stopAll s side).called = v.called := rfl

theorem map_stopAll (other : Side) : (v.stopAll s side).map r other =
    if r = s ∧ other = side then fun _ => none else v.map r other :=
  v.map_setMap s r side _ other

theorem channel_stopAll : (v.stopAll s side).channel c = (v.channel c).map fun ch =>
    if v.map s side ch.id = some c ∧ ch.held then ch.toStop else ch := rfl

end StopAll

/-- A weak reference to the session can be locked. -/
def Locks (v : Channels S C) (owner : Option S) (s : S) : Prop := owner = some s ∧ ¬ v.dead s

/-- Where `CChannel::init` goes on after an end was initialised. -/
def afterInit (d : S) (c : C) : Side → ProxyPc S C
  | .src => .initEnd .dst d c
  | .dst => .addChannel .src d c

/-- Where `CSession::stop` goes on after one map was cleared. -/
def afterStopAll : Side → StopPc
  | .src => .stopAll .dst
  | .dst => .removeGuid

/-- What a step of the server does to the channels. -/
inductive Step (cfg : Config) : Channels S C → Action S C → Channels S C → Prop
  -- the sessions
  | start {v s} (unused : ¬ v.used s) : Step cfg v (.acceptorStart s) { v with
      used := Function.update v.used s True
      started := Function.update v.started s true }
  | destroy {v s} : Step cfg v (.destroy s) { v with
      used := Function.update v.used s True
      dead := Function.update v.dead s True }
  | answer {v a s msg} (other : v.task s = .other) (about : msg.about = none)
      (plain : msg.isStopProxy = false) (discreet : msg.isDirectory = false) :
      Step cfg v a (v.say s msg)
  | directory {v s header sessions} (other : v.task s = .other) :
      Step cfg v (.onReadBody s) (v.say s (getProxiesMsg header sessions))
  -- `CSession::stop`
  | beginStop {v a s} (other : v.task s = .other) (used : v.used s) :
      Step cfg v a ({ v with started := Function.update v.started s false }.setTask s
        (if v.started s then .stop (.stopAll .src) else .other))
  | stopAll {v s n side} (here : v.task s = .stop (.stopAll side)) :
      Step cfg v (.run s n) ((v.stopAll s side).setTask s (.stop (afterStopAll side)))
  | closing {v s n pc task} (here : v.task s = .stop pc) (cleared : ∀ side, pc ≠ .stopAll side)
      (next : task = .other ∨ ∃ pc, task = .stop pc ∧ ∀ side, pc ≠ .stopAll side) :
      Step cfg v (.run s n) (v.setTask s task)
  -- `createChannel`
  | request {v s req} (other : v.task s = .other) (used : v.used s) :
      Step cfg v (.onReadBody s) (v.setTask s (.proxy req .lookup))
  | lookup {v s n req d} (here : v.task s = .proxy req .lookup) (used : v.used d)
      (alive : ¬ v.dead d) : Step cfg v (.run s n) (v.setTask s (.proxy req (.create d)))
  | notFound {v s n req} (here : v.task s = .proxy req .lookup) :
      Step cfg v (.run s n) (v.setTask s (.proxy req .respErr))
  | create {v s n req d c id} (here : v.task s = .proxy req (.create d))
      (fresh : v.channel c = none) :
      Step cfg v (.run s n) ((v.setChannel c (.new id (endpoints s d))).setTask s
        (.proxy req (.initEnd .src d c)))
  | createThrows {v s n req d} (here : v.task s = .proxy req (.create d)) :
      Step cfg v (.run s n) (v.setTask s (.proxy req .thrown))
  | initEnd {v s n req side d c ch id r e} (here : v.task s = .proxy req (.initEnd side d c))
      (found : v.channel c = some ch)
      (ok : (ch.ends side).init cfg (endpoints s d side) id r = (true, e)) :
      Step cfg v (.run s n) ((v.setChannel c (ch.setEnd side e)).setTask s
        (.proxy req (afterInit d c side)))
  | initFails {v s n req side d c ch id r e} (here : v.task s = .proxy req (.initEnd side d c))
      (found : v.channel c = some ch)
      (failed : (ch.ends side).init cfg (endpoints s d side) id r = (false, e)) :
      Step cfg v (.run s n) ((v.setChannel c (ch.setEnd side e)).setTask s
        (.proxy req (.fail d c)))
  | addSrc {v s n req d c ch} (here : v.task s = .proxy req (.addChannel .src d c))
      (found : v.channel c = some ch) (free : v.map s .src ch.id = none) :
      Step cfg v (.run s n)
        ((v.setMap s .src (Function.update (v.map s .src) ch.id (some c))).setTask s
          (.proxy req (.addChannel .dst d c)))
  | srcTaken {v s n req d c ch} (here : v.task s = .proxy req (.addChannel .src d c))
      (found : v.channel c = some ch) (taken : v.map s .src ch.id ≠ none) :
      Step cfg v (.run s n) (v.setTask s (.proxy req (.fail d c)))
  | addDst {v s n req d c ch} (here : v.task s = .proxy req (.addChannel .dst d c))
      (found : v.channel c = some ch) (free : v.map d .dst ch.id = none) :
      Step cfg v (.run s n)
        ((v.setMap d .dst (Function.update (v.map d .dst) ch.id (some c))).setTask s
          (.proxy req (.lockDst c)))
  | dstTaken {v s n req d c ch} (here : v.task s = .proxy req (.addChannel .dst d c))
      (found : v.channel c = some ch) (taken : v.map d .dst ch.id ≠ none) :
      Step cfg v (.run s n) (v.setTask s (.proxy req (.undoRemove d c)))
  | undoRemove {v s n req d c ch} (here : v.task s = .proxy req (.undoRemove d c))
      (found : v.channel c = some ch) :
      Step cfg v (.run s n) ((v.setMap s .src ((v.map s .src).remove ch.id)).setTask s
        (.proxy req (.undoNotify d c)))
  | undoNotify {v s n req d c ch} (here : v.task s = .proxy req (.undoNotify d c))
      (found : v.channel c = some ch) :
      Step cfg v (.run s n) ((v.say s (stopProxyMsg .src c ch)).setTask s
        (.proxy req (.fail d c)))
  | fail {v s n req d c ch} (here : v.task s = .proxy req (.fail d c))
      (found : v.channel c = some ch) :
      Step cfg v (.run s n) ((v.setChannel c ch.beginStop.drop).setTask s (.proxy req .respErr))
  -- the rest of `onReqProxy`
  | respErr {v s n req} (here : v.task s = .proxy req .respErr) :
      Step cfg v (.run s n) ((v.say s
        (proxyErrMsg req.header ERRCODE.CREATE_UDP_FAILED)).setTask s .other)
  | lockDst {v s n req c ch d} (here : v.task s = .proxy req (.lockDst c))
      (found : v.channel c = some ch) (locks : v.Locks (ch.ends .dst).ownerSs d) :
      Step cfg v (.run s n) (v.setTask s (.proxy req (.checkDst d c)))
  | dstGone {v s n req c ch} (here : v.task s = .proxy req (.lockDst c))
      (found : v.channel c = some ch) (gone : ∀ d, ¬ v.Locks (ch.ends .dst).ownerSs d) :
      Step cfg v (.run s n) ((v.setChannel c ch.drop).setTask s .other)
  | checkDst {v s n req d c ch} (here : v.task s = .proxy req (.checkDst d c))
      (found : v.channel c = some ch) (running : v.started d = true) :
      Step cfg v (.run s n) (v.setTask s (.proxy req (.start d c)))
  | dstStopped {v s n req d c ch} (here : v.task s = .proxy req (.checkDst d c))
      (found : v.channel c = some ch) (stopped : v.started d = false) :
      Step cfg v (.run s n) ((v.setChannel c ch.drop).setTask s .other)
  | startChannel {v s n req d c ch} (here : v.task s = .proxy req (.start d c))
      (found : v.channel c = some ch) :
      Step cfg v (.run s n) ((v.setChannel c (ch.start cfg)).setTask s
        (.proxy req (.access d c)))
  | access {v s n req d c ch ss} (here : v.task s = .proxy req (.access d c))
      (found : v.channel c = some ch) :
      Step cfg v (.run s n) ((v.say d (accessMsg req.header ss c ch)).setTask s
        (.proxy req (.respOk d c)))
  | respOk {v s n req d c ch} (here : v.task s = .proxy req (.respOk d c))
      (found : v.channel c = some ch) :
      Step cfg v (.run s n) (((v.say s (proxyOkMsg req.header c ch)).setChannel c ch.drop).setTask
        s .other)
  -- the channel
  | strandStop {v c ch} (found : v.channel c = some ch) (idle : ch.pc = .idle)
      (posted : 0 < ch.posted) :
      Step cfg v (.strandStop c) (v.setChannel c { ch with posted := ch.posted - 1 }.beginStop)
  | socketStop {v c ch} (found : v.channel c = some ch) (idle : ch.pc = .idle)
      (closed : (ch.ends .src).isOpen = false ∨ (ch.ends .dst).isOpen = false) :
      Step cfg v (.socketStop c) (v.setChannel c ch.beginStop)
  | exit {v c ch coro} (found : v.channel c = some ch) (idle : ch.pc = .idle)
      (stopped : ch.started = false) :
      Step cfg v (.coroExit c coro) (v.setChannel c (ch.exit coro))
  | checkerDone {v c ch side expired} (found : v.channel c = some ch) (idle : ch.pc = .idle)
      (closed : (ch.ends side).isOpen = false) :
      Step cfg v (.checker c side expired)
        (v.setChannel c (ch.setEnd side { ch.ends side with checker := false }))
  | expires {v c ch side} (found : v.channel c = some ch) (idle : ch.pc = .idle) :
      Step cfg v (.checker c side true)
        (v.setChannel c (ch.setEnd side { (ch.ends side).stop with checker := false }))
  | close {v c ch side ss} (found : v.channel c = some ch) (here : ch.pc = .close side)
      (locks : v.Locks (ch.ends side).ownerSs ss) :
      Step cfg v (.runStop c) ((v.setMap ss side ((v.map ss side).remove ch.id)).setChannel c
        { ch with pc := .notify side ss })
  | gone {v c ch side} (found : v.channel c = some ch) (here : ch.pc = .close side)
      (gone : ∀ ss, ¬ v.Locks (ch.ends side).ownerSs ss) :
      Step cfg v (.runStop c) (v.setChannel c { ch with pc := afterClose side })
  | notify {v c ch side ss} (found : v.channel c = some ch) (here : ch.pc = .notify side ss) :
      Step cfg v (.runStop c) ((v.say ss (stopProxyMsg side c ch)).setChannel c
        { ch with pc := afterClose side })
  | finish {v c ch} (found : v.channel c = some ch) (here : ch.pc = .ends) :
      Step cfg v (.runStop c) (v.setChannel c { ch with
        ends := fun side => (ch.ends side).stop
        pc := .idle
        stopped := true })

/-- No session has been started, and there are no channels. -/
def new : Channels S C where
  used := fun _ => False
  dead := fun _ => False
  started := fun _ => false
  task := fun _ => .other
  map := fun _ _ _ => none
  channel := fun _ => none
  called := fun _ => []

/-- All runs of the channels. -/
def system (cfg : Config) : System (Channels S C) (Action S C) where
  start v := v = .new
  step := Step cfg

end Channels

/-! ## The channels of the server -/

@[simp] def Task.channels : Task S C → ChanTask S C
  | .idle => .other
  | .stop pc => .stop pc
  | .login _ _ => .other
  | .proxy req pc => .proxy req pc

namespace Server

def channels (st : Server S C) : Channels S C where
  used := fun s => ¬ (st.session s).phase.Early
  dead := fun s => (st.session s).phase = .destroyed
  started := fun s => (st.session s).started
  task := fun s => (st.task s).channels
  map := fun s => (st.session s).channels
  channel := st.channel
  called := fun s => (st.sendq s).called

section Projections

variable (st : Server S C) (s : S) [DecidableEq S]

/-- A change of the members of one session. -/
theorem channels_modSession (f : SessionCore → SessionCore) :
    (st.modSession s f).channels = { st.channels with
      used := Function.update st.channels.used s
        (¬ (f (st.session s).toSessionCore).phase.Early)
      dead := Function.update st.channels.dead s
        ((f (st.session s).toSessionCore).phase = .destroyed)
      started := Function.update st.channels.started s
        (f (st.session s).toSessionCore).started } := by
  have map : (st.modSession s f).channels.map = st.channels.map := by
    funext r
    by_cases h : r = s
    · subst h
      simp [channels, modSession]
    · simp [channels, modSession, h]
  apply Channels.ext
  · exact Function.comp_update (fun ss : CSession C => ¬ ss.phase.Early) st.session s _
  · exact Function.comp_update (fun ss : CSession C => ss.phase = .destroyed) st.session s _
  · exact Function.comp_update (fun ss : CSession C => ss.started) st.session s _
  · rfl
  · exact map
  · rfl
  · rfl

/-- A change of other members than those that the channels see. -/
theorem channels_modSession_of_same {f : SessionCore → SessionCore}
    (started : (f (st.session s).toSessionCore).started = (st.session s).started)
    (phase : (f (st.session s).toSessionCore).phase = (st.session s).phase) :
    (st.modSession s f).channels = st.channels := by
  rw [channels_modSession, started, phase]
  apply Channels.ext <;> first | rfl | exact Function.update_eq_self s _

/-- The tests of the acceptor leave the session unused. -/
theorem channels_setPhase (phase : Phase) (before : (st.session s).phase.Early)
    (after : phase.Early) :
    (st.modSession s fun ss => { ss with phase }).channels = st.channels := by
  have exists_ : ∀ {p : Phase}, p.Early → (p = .destroyed) = False := by
    intro p early
    rw [eq_iff_iff, iff_false]
    rintro rfl
    exact early
  have used : (¬ phase.Early) = st.channels.used s := by simp [channels, before, after]
  have dead : (phase = .destroyed) = st.channels.dead s := by
    rw [exists_ after]
    exact (exists_ before).symm
  rw [channels_modSession, used, dead]
  apply Channels.ext <;> first | rfl | exact Function.update_eq_self s _

omit [DecidableEq S] in
@[simp] theorem channels_task_eq_stop {pc : StopPc} :
    st.channels.task s = .stop pc ↔ st.task s = .stop pc := by
  change (st.task s).channels = _ ↔ _
  cases st.task s <;> simp

omit [DecidableEq S] in
@[simp] theorem channels_task_eq_proxy {req : CReqProxyPkt} {pc : ProxyPc S C} :
    st.channels.task s = .proxy req pc ↔ st.task s = .proxy req pc := by
  change (st.task s).channels = _ ↔ _
  cases st.task s <;> simp

omit [DecidableEq S] in
theorem channels_idle (idle : st.idle s = true) : st.channels.task s = .other := by
  rw [Server.idle] at idle
  split at idle
  · next here => exact congrArg Task.channels here
  · cases idle

@[simp] theorem channels_setTask (t : Task S C) :
    (st.setTask s t).channels = st.channels.setTask s t.channels := by
  apply Channels.ext <;> first | rfl | exact Function.comp_update Task.channels st.task s t

@[simp] theorem channels_setChannels (side : Side) (m : CChannelMap C) :
    (st.setChannels s side m).channels = st.channels.setMap s side m := by
  have keep : ∀ {β : Type} (g : SessionCore → β),
      (fun r => g ((st.setChannels s side m).session r).toSessionCore) =
        fun r => g (st.session r).toSessionCore := by
    intro β g
    funext r
    by_cases h : r = s
    · subst h
      simp [setChannels]
    · simp [setChannels, h]
  apply Channels.ext
  · exact keep fun ss => ¬ ss.phase.Early
  · exact keep fun ss => ss.phase = .destroyed
  · exact keep fun ss => ss.started
  · rfl
  · exact Function.comp_update (fun ss : CSession C => ss.channels) st.session s _
  · rfl
  · rfl

@[simp] theorem channels_acquire : (st.acquire s).channels = st.channels := rfl

@[simp] theorem channels_release : (st.release s).channels = st.channels := rfl

/-- No response is empty, so `doWrite` never ignores one. -/
theorem called_doWrite (q : SendQueue (Queued C)) (msg : Queued C) :
    (q.doWrite Queued.length msg).called = q.called ++ [msg] := by
  have pos : ¬ Queued.length msg ≤ 0 := by
    rw [Queued.length, CRespPkt.length, TagPktHdr.size]
    omega
  rw [SendQueue.doWrite, if_neg pos]

@[simp] theorem channels_doWrite (msg : Queued C) :
    (st.doWrite s msg).channels = st.channels.say s msg := by
  have called : (st.doWrite s msg).channels.called =
      Function.update st.channels.called s (st.channels.called s ++ [msg]) := by
    have eq := Function.comp_update SendQueue.called st.sendq s
      ((st.sendq s).doWrite Queued.length msg)
    rw [called_doWrite] at eq
    exact eq
  apply Channels.ext <;> first | rfl | exact called

@[simp] theorem channels_endHandler :
    (st.endHandler s).channels = st.channels.setTask s .other := by
  rw [endHandler, channels_setTask, channels_modSession_of_same]
  · rfl
  · rfl
  · rfl

theorem channels_stopSession :
    (st.stopSession s).channels =
      { st.channels with started := Function.update st.channels.started s false }.setTask s
        (if (st.session s).started then .stop (.stopAll .src) else .other) := by
  have task : (if (st.session s).started = true then Task.stop (C := C) (S := S)
      (.stopAll .src) else .idle).channels =
      if (st.session s).started = true then .stop (.stopAll .src) else .other :=
    apply_ite Task.channels _ _ _
  rw [stopSession, channels_setTask, channels_modSession, task]
  congr 1
  apply Channels.ext <;> first | rfl | exact Function.update_eq_self s _

variable [DecidableEq C]

omit [DecidableEq S] in
@[simp] theorem channels_setChannel (c : C) (ch : CChannel S) :
    (st.setChannel c ch).channels = st.channels.setChannel c ch := rfl

@[simp] theorem channels_stopAll (side : Side) :
    (st.stopAll s side).channels = st.channels.stopAll s side := by
  have others := st.channels_setChannels s side fun _ => none
  have used := congrArg Channels.used others
  have dead := congrArg Channels.dead others
  have started := congrArg Channels.started others
  have map := congrArg Channels.map others
  exact Channels.ext used dead started rfl map rfl rfl

end Projections

section Steps

variable [DecidableEq S] [DecidableEq C] {st st' : Server S C} {s : S} {net : Net C}
variable {cfg : Config}

open Channels (Step)

omit [DecidableEq C] in
theorem channels_setTask_same {v : Channels S C} {t : ChanTask S C} (same : v.task s = t) :
    v.setTask s t = v := by
  rw [Channels.setTask, ← same, Function.update_eq_self]

theorem runStop_channels {pc : StopPc} (here : st.task s = .stop pc) :
    Step cfg st.channels (.run s net) (st.runStop s pc).channels := by
  have task : st.channels.task s = .stop pc := congrArg Task.channels here
  cases pc with
  | stopAll side =>
      have step : Step cfg _ _ _ := Step.stopAll (n := net) task
      cases side with
      | src =>
          rw [runStop, channels_setTask, channels_stopAll]
          exact step
      | dst =>
          rw [runStop, channels_setTask, channels_stopAll]
          exact step
  | removeGuid =>
      rw [runStop]
      split
      · rw [channels_setTask]
        exact .closing task (by simp) (.inr ⟨.delDb, rfl, by simp⟩)
      · rw [channels_setTask]
        exact .closing task (by simp) (.inr ⟨.sessionClosed, rfl, by simp⟩)
  | delDb =>
      rw [runStop, channels_setTask]
      exact .closing task (by simp) (.inr ⟨.eraseMap, rfl, by simp⟩)
  | eraseMap =>
      rw [runStop, channels_setTask]
      exact .closing task (by simp) (.inr ⟨.sessionClosed, rfl, by simp⟩)
  | sessionClosed =>
      rw [runStop, channels_setTask]
      exact .closing task (by simp) (.inl rfl)

/-- `stop` begins between two handlers. -/
theorem stopSession_channels {a : Action S C} {core : SessionCore → SessionCore}
    (other : st.channels.task s = .other) (used : st.channels.used s)
    (started : (core (st.session s).toSessionCore).started = (st.session s).started)
    (phase : (core (st.session s).toSessionCore).phase = (st.session s).phase) :
    Step cfg st.channels a ((st.modSession s core).stopSession s).channels := by
  have same := st.channels_modSession_of_same s started phase
  have before : ((st.modSession s core).session s).started = (st.session s).started := by
    simp [modSession, started]
  rw [channels_stopSession, same, before]
  exact .beginStop other used

/-- A response that is not about a channel ends the handler. -/
theorem answer_channels {a : Action S C} {msg : Queued C} (other : st.channels.task s = .other)
    (about : msg.about = none) (plain : msg.isStopProxy = false)
    (discreet : msg.isDirectory = false) (taken : st'.channels = st.channels) :
    Step cfg st.channels a ((st'.doWrite s msg).endHandler s).channels := by
  have still : (st.channels.say s msg).task s = .other := other
  rw [channels_endHandler, channels_doWrite, taken, channels_setTask_same still]
  exact .answer other about plain discreet

omit [DecidableEq C] in
theorem endHandler_channels (other : st.channels.task s = .other)
    (taken : st'.channels = st.channels) : (st'.endHandler s).channels = st.channels := by
  rw [channels_endHandler, taken, channels_setTask_same other]

theorem runLogin_channels {header : TagPktHdr} {pc : LoginPc}
    (here : st.task s = .login header pc) :
    (st.runLogin s header net pc).channels = st.channels ∨
      Step cfg st.channels (.run s net) (st.runLogin s header net pc).channels := by
  have other : st.channels.task s = .other := congrArg Task.channels here
  have same : ∀ pc, st.channels.setTask s (Task.login header pc : Task S C).channels =
      st.channels := fun pc => channels_setTask_same other
  cases pc with
  | insertGuid | addSession =>
      left
      rw [runLogin]
      split <;>
      · rw [channels_setTask]
        exact same _
  | undoGuid | remoteEndpoint | addDb =>
      left
      rw [runLogin, channels_setTask]
      exact same _
  | allocId =>
      left
      rw [runLogin, channels_setTask, channels_modSession_of_same]
      · exact same _
      · rfl
      · rfl
  | finish ok =>
      right
      cases ok with
      | true => exact answer_channels other rfl rfl rfl (channels_modSession_of_same _ _ rfl rfl)
      | false => exact answer_channels other rfl rfl rfl (channels_modSession_of_same _ _ rfl rfl)

theorem onTimeout_channels {a : Action S C} (other : st.channels.task s = .other)
    (late : (st.session s).timer ≠ .idle → st.channels.used s) (run : st.onTimeout s = some st') :
    st'.channels = st.channels ∨ Step cfg st.channels a st'.channels := by
  obtain ⟨ec, fired, rfl⟩ := onTimeout_eq_some run
  have used := late (by simp [fired])
  cases ec with
  | true =>
      left
      rw [if_pos rfl]
      exact channels_modSession_of_same _ _ rfl rfl
  | false => exact .inr (stopSession_channels other used rfl rfl)

theorem onReadHead_channels {a : Action S C} (other : st.channels.task s = .other)
    (late : (st.session s).read.op ≠ .none → st.channels.used s)
    (run : st.onReadHead s = some st') :
    st'.channels = st.channels ∨ Step cfg st.channels a st'.channels := by
  obtain ⟨ec, bytes, stops, read, done, _, rfl⟩ := onReadHead_eq_some run
  have used := late (by simp [done])
  cases stops with
  | true => exact .inr (stopSession_channels other used rfl rfl)
  | false =>
      left
      rw [if_neg Bool.false_ne_true]
      exact channels_modSession_of_same _ _ rfl rfl

theorem handle_channels {req : Request} (other : st.channels.task s = .other)
    (used : st.channels.used s) (taken : st'.channels = st.channels) :
    (st'.handle s req).channels = st.channels ∨
      Step cfg st.channels (.onReadBody s) (st'.handle s req).channels := by
  cases req with
  | none => exact .inl (endHandler_channels other taken)
  | getProxies req =>
      right
      have still : (st.channels.say s (getProxiesMsg req.header st'.ssDb.output)).task s = .other :=
        other
      rw [handle, channels_endHandler, channels_doWrite, taken, channels_setTask_same still]
      exact .directory other
  | proxy req =>
      right
      rw [handle, channels_setTask, taken]
      exact .request other used
  | login req =>
      rw [handle, onReqLogin]
      split
      · exact .inr (answer_channels other rfl rfl rfl taken)
      · left
        rw [channels_setTask, channels_modSession_of_same _ _ rfl rfl, taken]
        exact channels_setTask_same other

theorem onReadBody_channels (other : st.channels.task s = .other)
    (late : (st.session s).read.op ≠ .none → st.channels.used s)
    (run : st.onReadBody s = some st') :
    st'.channels = st.channels ∨ Step cfg st.channels (.onReadBody s) st'.channels := by
  obtain ⟨ec, bytes, done, rfl | ⟨_, req, _, rfl⟩⟩ := onReadBody_eq_some run
  · exact .inr (stopSession_channels other (late (by simp [done])) rfl rfl)
  · exact handle_channels other (late (by simp [done])) (channels_modSession_of_same _ _ rfl rfl)

omit [DecidableEq S] [DecidableEq C] in
/-- A session that `lock` returns is the referenced one, and it exists. -/
theorem lock_eq_some_iff {owner : Option S} :
    st.lock owner = some s ↔ st.channels.Locks owner s := by
  rw [lock, Option.filter_eq_some_iff, Channels.Locks]
  simp [channels]

omit [DecidableEq S] [DecidableEq C] in
theorem lock_eq_none_iff {owner : Option S} :
    st.lock owner = none ↔ ∀ s, ¬ st.channels.Locks owner s := by
  rw [Option.eq_none_iff_forall_not_mem]
  refine forall_congr' fun s => not_congr ?_
  exact st.lock_eq_some_iff

/-- `onReqProxy`, with the session that `lookup` finds. -/
theorem runProxy_channels {req : CReqProxyPkt} {pc : ProxyPc S C}
    (mapUsed : ∀ id d, st.ssMap id = some d → st.channels.used d)
    (here : st.task s = .proxy req pc) (run : st.runProxy cfg s req net pc = some st') :
    Step cfg st.channels (.run s net) st'.channels := by
  have task : st.channels.task s = .proxy req pc := congrArg Task.channels here
  cases pc with
  | lookup =>
      simp only [runProxy] at run
      split at run
      · next d locked =>
        obtain rfl := Option.some.inj run
        obtain ⟨_, locked⟩ := Option.ite_none_right_eq_some.mp locked
        obtain ⟨owner, alive⟩ := st.lock_eq_some_iff.mp locked
        exact st.channels_setTask s _ ▸ .lookup task (mapUsed _ _ owner) alive
      · obtain rfl := Option.some.inj run
        exact st.channels_setTask s _ ▸ .notFound task
  | respErr =>
      obtain rfl := Option.some.inj run
      rw [channels_endHandler, channels_doWrite]
      exact .respErr task
  | create d =>
      obtain ⟨_, fresh, rfl⟩ | ⟨_, rfl⟩ := create_eq_some run
      · rw [channels_setTask]
        exact .create task fresh
      · rw [channels_setTask]
        exact .createThrows task
  | thrown => cases run
  | initEnd side d c =>
      simp only [runProxy, Option.map_eq_some_iff] at run
      obtain ⟨ch, found, rfl⟩ := run
      rcases tried : (ch.ends side).init cfg (endpoints s d side)
          (st.session (endpoints s d side)).id
          (if (st.session (endpoints s d side)).isOpen then net.init else .noLocalEndpoint) with
        ⟨_ | _, e⟩
      · rw [channels_setTask, channels_setChannel]
        exact .initFails task found tried
      · rw [channels_setTask, channels_setChannel]
        cases side with
        | src => exact .initEnd task found tried
        | dst => exact .initEnd task found tried
  | addChannel side d c =>
      cases side with
      | src =>
          simp only [runProxy, Option.map_eq_some_iff] at run
          obtain ⟨ch, found, rfl⟩ := run
          cases slot : (st.session s).channels .src ch.id with
          | none =>
              simp only [CChannelMap.insert, slot, channels_setTask, channels_setChannels]
              exact .addSrc task found slot
          | some other =>
              simp only [CChannelMap.insert, slot, channels_setTask]
              exact .srcTaken task found (by simp [channels, slot])
      | dst =>
          simp only [runProxy, Option.map_eq_some_iff] at run
          obtain ⟨ch, found, rfl⟩ := run
          cases slot : (st.session d).channels .dst ch.id with
          | none =>
              simp only [CChannelMap.insert, slot, channels_setTask, channels_release,
                channels_setChannels]
              exact .addDst task found slot
          | some other =>
              simp only [CChannelMap.insert, slot, channels_setTask]
              exact .dstTaken task found (by simp [channels, slot])
  | lockDst c =>
      simp only [runProxy, Option.map_eq_some_iff] at run
      obtain ⟨ch, found, rfl⟩ := run
      split
      · next locked =>
        rw [channels_setTask, channels_acquire]
        exact .lockDst task found (st.lock_eq_some_iff.mp locked)
      · next gone =>
        rw [channels_endHandler, channels_setChannel]
        exact .dstGone task found (st.lock_eq_none_iff.mp gone)
  | checkDst d c =>
      simp only [runProxy, Option.map_eq_some_iff] at run
      obtain ⟨ch, found, rfl⟩ := run
      split
      · next running =>
        rw [channels_setTask]
        exact .checkDst task found running
      · next stopped =>
        rw [channels_endHandler, channels_release, channels_setChannel]
        exact .dstStopped task found (Bool.eq_false_iff.mpr stopped)
  | undoRemove d c =>
      simp only [runProxy, Option.map_eq_some_iff] at run
      obtain ⟨ch, found, rfl⟩ := run
      rw [channels_setTask, channels_setChannels]
      exact .undoRemove task found
  | undoNotify d c =>
      simp only [runProxy, Option.map_eq_some_iff] at run
      obtain ⟨ch, found, rfl⟩ := run
      rw [channels_setTask, channels_doWrite]
      exact .undoNotify task found
  | fail d c =>
      simp only [runProxy, Option.map_eq_some_iff] at run
      obtain ⟨ch, found, rfl⟩ := run
      rw [channels_setTask, channels_release, channels_setChannel]
      exact .fail task found
  | start d c =>
      simp only [runProxy, Option.map_eq_some_iff] at run
      obtain ⟨ch, found, rfl⟩ := run
      rw [channels_setTask, channels_setChannel]
      exact .startChannel task found
  | access d c =>
      simp only [runProxy, Option.map_eq_some_iff] at run
      obtain ⟨ch, found, rfl⟩ := run
      rw [channels_setTask, channels_doWrite]
      exact .access task found
  | respOk d c =>
      simp only [runProxy, Option.map_eq_some_iff] at run
      obtain ⟨ch, found, rfl⟩ := run
      rw [channels_endHandler, channels_release, channels_setChannel, channels_doWrite]
      exact .respOk task found

theorem checker_channels {c : C} {ch : CChannel S} {side : Side} {expired : Bool}
    (found : st.channel c = some ch) (idle : ch.pc = .idle)
    (run : st.channelStep c ch (.checker c side expired) = some st') :
    st'.channels = st.channels ∨
      Step cfg st.channels (.checker c side expired) st'.channels := by
  simp only [channelStep, Option.ite_none_right_eq_some] at run
  obtain ⟨_, run⟩ := run
  split at run
  · next closed =>
    obtain rfl := Option.some.inj run
    exact .inr (.checkerDone found idle (by simpa using closed))
  · split at run
    · next expiry =>
      obtain rfl := Option.some.inj run
      subst expiry
      exact .inr (.expires found idle)
    · obtain rfl := Option.some.inj run
      exact .inl rfl

theorem runChannel_channels {c : C} {ch : CChannel S} (found : st.channel c = some ch)
    (run : st.runChannel c ch = some st') :
    Step cfg st.channels (.runStop c) st'.channels := by
  rw [runChannel] at run
  split at run
  · cases run
  · next side here =>
    split at run
    · next ss locked =>
      obtain rfl := Option.some.inj run
      rw [channels_setChannel, channels_acquire, channels_setChannels]
      exact .close found here (st.lock_eq_some_iff.mp locked)
    · next gone =>
      obtain rfl := Option.some.inj run
      exact .gone found here (st.lock_eq_none_iff.mp gone)
  · next side ss here =>
    obtain rfl := Option.some.inj run
    rw [channels_setChannel, channels_release, channels_doWrite]
    exact .notify found here
  · next here =>
    obtain rfl := Option.some.inj run
    exact .finish found here

/-- Every step of the server is a step of the channels, or does not change them. -/
theorem step_channels {a : Action S C} (late : ∀ s, (st.session s).read.op ≠ .none ∨
      (st.session s).timer ≠ .idle → st.channels.used s)
    (mapUsed : ∀ id d, st.ssMap id = some d → st.channels.used d)
    (run : step cfg st a = some st') :
    st'.channels = st.channels ∨ Step cfg st.channels a st'.channels := by
  cases a with
  | acceptorTest s ok =>
      obtain ⟨created, rfl⟩ := acceptorTest_eq_some run
      left
      apply channels_setPhase
      · rw [created]
        trivial
      · split <;> trivial
  | acceptorCount s =>
      obtain ⟨admitted, rfl⟩ := acceptorCount_eq_some run
      left
      rw [channels_setPhase]
      · rfl
      · rw [admitted]
        trivial
      · trivial
  | acceptorStart s =>
      obtain ⟨counted, rfl⟩ := acceptorStart_eq_some run
      right
      have unused : ¬ st.channels.used s := by simp [channels, counted, Phase.Early]
      have alive : ((st.session s).toSessionCore.start.phase = .destroyed) =
          st.channels.dead s := by simp [channels, SessionCore.start, counted]
      rw [channels_modSession, alive, Function.update_eq_self]
      have step : Step cfg _ _ _ := Step.start unused
      simpa [SessionCore.start, Phase.Early] using step
  | timerExpires s =>
      obtain ⟨armed, rfl⟩ := timerExpires_eq_some run
      exact .inl (channels_modSession_of_same _ _ rfl rfl)
  | deliver s data =>
      obtain ⟨read, delivered, rfl⟩ := deliver_eq_some run
      exact .inl (channels_modSession_of_same _ _ rfl rfl)
  | readFails s =>
      obtain rfl := Option.some.inj run
      exact .inl (channels_modSession_of_same _ _ rfl rfl)
  | onTimeout s =>
      obtain ⟨idle, run⟩ := Option.ite_none_right_eq_some.mp run
      exact onTimeout_channels (st.channels_idle s idle)
        (fun fired => late s (.inr fired)) run
  | onReadHead s =>
      obtain ⟨idle, run⟩ := Option.ite_none_right_eq_some.mp run
      exact onReadHead_channels (st.channels_idle s idle)
        (fun reading => late s (.inl reading)) run
  | onReadBody s =>
      obtain ⟨idle, run⟩ := Option.ite_none_right_eq_some.mp run
      exact onReadBody_channels (st.channels_idle s idle)
        (fun reading => late s (.inl reading)) run
  | run s net =>
      obtain ⟨pc, here, rfl⟩ | ⟨header, pc, here, rfl⟩ | ⟨req, pc, here, goes⟩ := run_cases run
      · exact .inr (runStop_channels here)
      · exact runLogin_channels here
      · exact .inr (runProxy_channels mapUsed here goes)
  | writer s e =>
      left
      obtain ⟨q, posted, ran, rfl⟩ := writer_eq_some run
      have kept : q.called = (st.sendq s).called := SendQueue.called_step posted ran
      have called : Function.update st.channels.called s q.called = st.channels.called := by
        rw [kept]
        exact Function.update_eq_self s _
      exact Channels.ext rfl rfl rfl rfl rfl rfl
        ((Function.comp_update SendQueue.called st.sendq s q).trans called)
  | destroy s =>
      obtain ⟨_, _, rfl⟩ := destroy_eq_some run
      right
      have used : (¬ Phase.destroyed.Early) = True := by simp [Phase.Early]
      have dead : (Phase.destroyed = .destroyed) = True := by simp
      rw [channels_modSession, used, dead]
      have step : Step cfg st.channels (.destroy s) _ := Step.destroy
      have started : Function.update st.channels.started s (st.session s).started =
          st.channels.started := Function.update_eq_self s _
      rw [started]
      exact step
  | strandStop c =>
      obtain ⟨ch, found, idle, run⟩ := onChannel_eq_some_iff.mp run
      simp only [channelStep, Option.ite_none_right_eq_some, Option.some.injEq] at run
      obtain ⟨posted, rfl⟩ := run
      exact .inr (.strandStop found idle posted)
  | socketStop c =>
      obtain ⟨ch, found, idle, run⟩ := onChannel_eq_some_iff.mp run
      simp only [channelStep, Option.ite_none_right_eq_some, Option.some.injEq] at run
      obtain ⟨⟨_, closed⟩, rfl⟩ := run
      exact .inr (.socketStop found idle (by simpa using closed))
  | checker c side expired =>
      obtain ⟨ch, found, idle, run⟩ := onChannel_eq_some_iff.mp run
      exact checker_channels found idle run
  | coroExit c coro =>
      obtain ⟨ch, found, idle, run⟩ := onChannel_eq_some_iff.mp run
      simp only [channelStep, Option.ite_none_left_eq_some, Option.some.injEq] at run
      obtain ⟨stopped, rfl⟩ := run
      exact .inr (.exit found idle (Bool.eq_false_iff.mpr stopped))
  | runStop c =>
      obtain ⟨ch, found, stopped⟩ := Option.bind_eq_some_iff.mp run
      exact .inr (runChannel_channels found stopped)
  | db e =>
      obtain ⟨ssDb, _, rfl⟩ := db_eq_some run
      exact .inl rfl
  | releaseServer =>
      obtain ⟨_, rfl⟩ := releaseServer_eq_some run
      exact .inl rfl

/-- The server refines the channels. -/
theorem channels_mapping (cfg : Config) :
    Transition.Mapping (system (S := S) (C := C) cfg) (Channels.system cfg) channels where
  start st first := by
    obtain rfl : st = .new := first
    apply Channels.ext <;> first | rfl | skip
    · funext s
      simp [channels, Channels.new, new, CSession.new, SessionCore.new, Phase.Early]
    · funext s
      simp [channels, Channels.new, new, CSession.new, SessionCore.new]
  step st _ _ reached run := by
    have registry := (registry_mapping cfg).reachable reached
    refine step_channels ?_ (Registry.mapUsed_of_reachable registry) run
    intro s busy
    exact (Registry.consistent_of_reachable registry s).not_early (.inr busy)

end Steps

end Server

end NatProxy
