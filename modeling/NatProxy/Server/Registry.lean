import NatProxy.Server.Step

/-!
# The registry of sessions

Logins and closes of sessions touch the members of the sessions, the guid set,
the session map and the session database. `Registry` is the part of the server
that holds these, with the call of each session's thread reduced to what it does
to them: everything that happens inside a proxy request is one `proxy`.

`Registry.Step` says once what a step of the server can do to the registry. Its
constructors are the atomic parts of `start`, `stop`, `onReqLogin`,
`onSessionLogin` and `closeSessionWithLock`, with the tests that lead to them.
`Server.registry_mapping` connects the two, so that an invariant of the registry
holds in every state of the server.
-/

namespace NatProxy

open Memory

/-- The call of a session's thread. -/
inductive RegTask
  | idle
  | stop (pc : StopPc)
  | login (pc : LoginPc)
  | proxy
  deriving DecidableEq, Repr

/-- The sessions' own members and the shared tables. -/
structure Registry (S : Type) where
  core : S → SessionCore
  task : S → RegTask
  guidSet : Bytes → Option S
  ssMap : UInt32 → Option S
  sessionId : UInt32
  ssDb : CSessionDb

variable {S C : Type}

/-- The steps of a session that involve nothing else than its own members and
leave the members used by the tables unchanged. -/
inductive CoreStep (core : SessionCore) : SessionCore → Prop
  | tested {p : Phase} (created : core.phase = .created) (result : p = .rejected ∨ p = .admitted) :
      CoreStep core { core with phase := p }
  | counted (admitted : core.phase = .admitted) : CoreStep core { core with phase := .counted }
  | destroyed (ended : core.phase = .rejected ∨ core.phase = .live) (unused : core.unreferenced) :
      CoreStep core { core with phase := .destroyed }
  | timerExpires (armed : core.timer = .armed) : CoreStep core { core with timer := .fired false }
  | timerAborted (fired : core.timer = .fired true) : CoreStep core { core with timer := .idle }
  | deliver {data : Bytes} {read : ReadLoop} (delivered : core.read.deliver data = some read) :
      CoreStep core { core with read := read }
  | readFails : CoreStep core { core with read := core.read.fail }
  | onReadHead {ec : Bool} {bytes : Nat} {read : ReadLoop}
      (done : core.read.op = .done .head ec bytes)
      (checked : { core.read with op := .none }.onReadHead core.isOpen ec bytes = (false, read)) :
      CoreStep core { core with read := read }

namespace CoreStep

variable {core core' : SessionCore}

theorem guid (step : CoreStep core core') : core'.guid = core.guid := by cases step <;> rfl

theorem id (step : CoreStep core core') : core'.id = core.id := by cases step <;> rfl

theorem sessionType (step : CoreStep core core') : core'.sessionType = core.sessionType := by
  cases step <;> rfl

theorem isServer (step : CoreStep core core') : core'.isServer = core.isServer := by
  rw [SessionCore.isServer, step.sessionType, SessionCore.isServer]

theorem logined (step : CoreStep core core') : core'.logined = core.logined := by
  cases step <;> rfl

theorem started (step : CoreStep core core') : core'.started = core.started := by
  cases step <;> rfl

end CoreStep

namespace SessionCore

/-- The handler of the completed read has started. -/
def takeRead (core : SessionCore) : SessionCore :=
  { core with read := { core.read with op := .none } }

/-- The end of `onReadBody`. -/
def endBody (core : SessionCore) : SessionCore :=
  { core with read := core.read.finishBody core.started core.isOpen }

/-- The fields that `onReqLogin` copies from the request. -/
def request (core : SessionCore) (req : CReqLoginPkt) : SessionCore :=
  { core with
    guid := req.szGuid
    privateAddr := req.uiPrivateAddr
    sessionType := req.uctype.toUInt32 }

/-- A body was read, and the switch of `onReadBody` decodes `req` from it. -/
def Decodes (core : SessionCore) (req : Request) : Prop :=
  (∃ bytes, core.read.op = .done .body false bytes) ∧
    dispatch core.sessionType core.read.hdr core.read.rbuf = .ok req

/-- A read has completed, and its handler calls `stop` with these members. -/
def FailsWith (core core' : SessionCore) : Prop :=
  (∃ part ec bytes, core.read.op = .done part ec bytes) ∧
    ∃ read, core' = { core with read := read } ∧ read.op = .none

end SessionCore

namespace Registry

variable [DecidableEq S]

/-- Replace the members and the call of one session. -/
def set (v : Registry S) (s : S) (core : SessionCore) (task : RegTask) : Registry S :=
  { v with
    core := Function.update v.core s core
    task := Function.update v.task s task }

section Set

variable (v : Registry S) (s r : S) (core core' : SessionCore) (task task' : RegTask)

@[simp] theorem set_set : (v.set s core task).set s core' task' = v.set s core' task' := by
  simp [set]

@[simp] theorem set_self : v.set s (v.core s) (v.task s) = v := by simp [set]

@[simp] theorem core_set_self : (v.set s core task).core s = core := by simp [set]

@[simp] theorem task_set_self : (v.set s core task).task s = task := by simp [set]

@[simp] theorem guidSet_set : (v.set s core task).guidSet = v.guidSet := rfl

@[simp] theorem ssMap_set : (v.set s core task).ssMap = v.ssMap := rfl

@[simp] theorem ssDb_set : (v.set s core task).ssDb = v.ssDb := rfl

variable {r s}

theorem core_set_of_ne (h : r ≠ s) : (v.set s core task).core r = v.core r := by
  simp [set, h]

theorem task_set_of_ne (h : r ≠ s) : (v.set s core task).task r = v.task r := by
  simp [set, h]

end Set

/-- `CSession::stop`, up to its first use of a lock, on these members. -/
def stopSession (v : Registry S) (s : S) (core : SessionCore) : Registry S :=
  v.set s core.beginStop (if core.started then .stop (.stopAll .src) else .idle)

/-- What a step of the server does to the registry. -/
inductive Step : Registry S → Action S C → Registry S → Prop
  | own {v a} (s : S) {core : SessionCore} (step : CoreStep (v.core s) core) :
      Step v a (v.set s core (v.task s))
  | start {v s} (counted : (v.core s).phase = .counted) :
      Step v (.acceptorStart s) (v.set s (v.core s).start (v.task s))
  -- the callers of `CSession::stop`
  | timeoutStop {v s} (idle : v.task s = .idle) (fired : (v.core s).timer = .fired false) :
      Step v (.onTimeout s) (v.stopSession s { v.core s with timer := .idle })
  | readStop {v a s} {core : SessionCore} (idle : v.task s = .idle)
      (fails : (v.core s).FailsWith core) : Step v a (v.stopSession s core)
  -- `CSession::stop`
  | stopAll {v s n side} (here : v.task s = .stop (.stopAll side)) :
      Step v (.run s n) (v.set s (v.core s) (.stop (match side with
        | .src => .stopAll .dst
        | .dst => .removeGuid)))
  | removeGuid {v s n} (here : v.task s = .stop .removeGuid) (logined : (v.core s).logined) :
      Step v (.run s n) ({ v with
        guidSet := Function.update v.guidSet (v.core s).guid none }.set s (v.core s)
          (.stop .delDb))
  | notLogined {v s n} (here : v.task s = .stop .removeGuid) (logined : ¬ (v.core s).logined) :
      Step v (.run s n) (v.set s (v.core s) (.stop .sessionClosed))
  | delDb {v s n} (here : v.task s = .stop .delDb) :
      Step v (.run s n) ({ v with ssDb := v.ssDb.del (v.core s).id }.set s (v.core s)
        (.stop .eraseMap))
  | eraseMap {v s n} (here : v.task s = .stop .eraseMap) :
      Step v (.run s n) ({ v with ssMap := Function.update v.ssMap (v.core s).id none }.set s
        (v.core s) (.stop .sessionClosed))
  | sessionClosed {v s n} (here : v.task s = .stop .sessionClosed) :
      Step v (.run s n) (v.set s (v.core s) .idle)
  -- the handlers that `onReadBody` calls
  | answer {v s} (idle : v.task s = .idle)
      (read : ∃ bytes, (v.core s).read.op = .done .body false bytes) :
      Step v (.onReadBody s) (v.set s (v.core s).takeRead.endBody .idle)
  | proxy {v s req} (idle : v.task s = .idle) (decodes : (v.core s).Decodes (.proxy req)) :
      Step v (.onReadBody s) (v.set s (v.core s).takeRead .proxy)
  | proxyDone {v s n} (here : v.task s = .proxy) :
      Step v (.run s n) (v.set s (v.core s).endBody .idle)
  | login {v s req} (idle : v.task s = .idle) (decodes : (v.core s).Decodes (.login req))
      (logined : ¬ (v.core s).logined) :
      Step v (.onReadBody s) (v.set s ((v.core s).takeRead.request req) (.login .insertGuid))
  -- `onSessionLogin`
  | insertGuid {v s n} (here : v.task s = .login .insertGuid)
      (free : v.guidSet (v.core s).guid = none) :
      Step v (.run s n) ({ v with
        guidSet := Function.update v.guidSet (v.core s).guid (some s) }.set s (v.core s)
          (.login .allocId))
  | guidTaken {v s n} (here : v.task s = .login .insertGuid)
      (taken : v.guidSet (v.core s).guid ≠ none) :
      Step v (.run s n) (v.set s (v.core s) (.login (.finish false)))
  | allocId {v s n} (here : v.task s = .login .allocId) :
      Step v (.run s n) ({ v with sessionId := v.sessionId + 1 }.set s
        { v.core s with id := v.sessionId }
        (.login (if (v.core s).isServer then .addSession else .finish true)))
  | addSession {v s n} (here : v.task s = .login .addSession)
      (free : v.ssMap (v.core s).id = none) :
      Step v (.run s n) ({ v with
        ssMap := Function.update v.ssMap (v.core s).id (some s) }.set s (v.core s)
          (.login .remoteEndpoint))
  | idTaken {v s n} (here : v.task s = .login .addSession)
      (taken : v.ssMap (v.core s).id ≠ none) :
      Step v (.run s n) (v.set s (v.core s) (.login .undoGuid))
  | undoGuid {v s n} (here : v.task s = .login .undoGuid) :
      Step v (.run s n) ({ v with
        guidSet := Function.update v.guidSet (v.core s).guid none }.set s (v.core s)
          (.login (.finish false)))
  | remoteEndpoint {v s n} (here : v.task s = .login .remoteEndpoint)
      (ok : (v.core s).isOpen ∧ n.ok) :
      Step v (.run s n) (v.set s (v.core s) (.login (.addDb n.addr)))
  | noRemoteEndpoint {v s n} (here : v.task s = .login .remoteEndpoint)
      (failed : ¬ ((v.core s).isOpen ∧ n.ok)) :
      Step v (.run s n) (v.set s (v.core s) (.login (.finish false)))
  | addDb {v s n addr} (here : v.task s = .login (.addDb addr)) :
      Step v (.run s n) ({ v with
        ssDb := v.ssDb.add ⟨(v.core s).id, addr, (v.core s).guid⟩ }.set s (v.core s)
          (.login (.finish true)))
  -- the rest of `onReqLogin`
  | finish {v s n ok} (here : v.task s = .login (.finish ok)) :
      Step v (.run s n) (v.set s
        { (v.core s) with
          logined := ok
          timer := if ok then (v.core s).timer.cancel else (v.core s).timer }.endBody
        .idle)
  | db {v e ssDb} (step : v.ssDb.step e = some ssDb) : Step v (.db e) { v with ssDb := ssDb }

/-- The registry after `CServer::start`. -/
def new : Registry S where
  core := fun _ => .new
  task := fun _ => .idle
  guidSet := fun _ => none
  ssMap := fun _ => none
  sessionId := 1000
  ssDb := .new

/-- All runs of the registry. -/
def system : Transition.System (Registry S) (Action S C) where
  start v := v = .new
  step := Step

end Registry

/-! ## Tables with owners -/

section Tables

variable {κ : Type} [DecidableEq κ] {table : κ → Option S} {k i : κ} {r s : S}

/-- What is found after an update is the new value at its place, or an old one. -/
theorem eq_of_update {β : Type} {f : κ → β} {x y : β} (updated : Function.update f k x i = y) :
    i = k ∧ x = y ∨ f i = y := by
  by_cases same : i = k
  · subst same
    rw [Function.update_self] at updated
    exact .inl ⟨rfl, updated⟩
  · rw [Function.update_of_ne same] at updated
    exact .inr updated

/-- What a table holds after a removal, it held before. -/
theorem old_of_remove (owner : Function.update table k none i = some s) : table i = some s := by
  obtain ⟨_, none⟩ | old := eq_of_update owner
  · cases none
  · exact old

/-- An insertion on behalf of another session adds nothing for this one. -/
theorem old_of_insert (other : r ≠ s) (owner : Function.update table k (some r) i = some s) :
    table i = some s := by
  obtain ⟨_, new⟩ | old := eq_of_update owner
  · exact absurd (Option.some.inj new) other
  · exact old

end Tables

/-! ## The server's registry -/

@[simp] def Task.registry : Task S C → RegTask
  | .idle => .idle
  | .stop pc => .stop pc
  | .login _ pc => .login pc
  | .proxy _ _ => .proxy

namespace Server

def registry (st : Server S C) : Registry S where
  core := fun s => (st.session s).toSessionCore
  task := fun s => (st.task s).registry
  guidSet := st.guidSet
  ssMap := st.ssMap
  sessionId := st.sessionId
  ssDb := st.ssDb

section Projections

variable (st : Server S C) (s : S)

theorem registry_core : st.registry.core s = (st.session s).toSessionCore := rfl

theorem registry_task : st.registry.task s = (st.task s).registry := rfl

theorem idle_iff : st.idle s = true ↔ st.registry.task s = .idle := by
  rw [registry_task, idle]
  cases st.task s <;> simp [Task.registry]

variable [DecidableEq S]

@[simp] theorem registry_modSession (f : SessionCore → SessionCore) :
    (st.modSession s f).registry =
      st.registry.set s (f (st.registry.core s)) (st.registry.task s) := by
  have core : (fun r => ((st.modSession s f).session r).toSessionCore) =
      Function.update st.registry.core s (f (st.registry.core s)) := by
    funext r
    by_cases h : r = s
    · subst h
      simp [modSession, registry_core]
    · simp [modSession, registry_core, h]
  simp only [registry, Registry.set, Registry.mk.injEq]
  exact ⟨core, (Function.update_eq_self s _).symm, rfl, rfl, rfl, rfl⟩

@[simp] theorem registry_setTask (t : Task S C) :
    (st.setTask s t).registry = st.registry.set s (st.registry.core s) t.registry := by
  have task : (fun r => ((st.setTask s t).task r).registry) =
      Function.update st.registry.task s t.registry := by
    funext r
    by_cases h : r = s
    · subst h
      simp [setTask]
    · simp [setTask, registry_task, h]
  simp only [registry, Registry.set, Registry.mk.injEq]
  exact ⟨(Function.update_eq_self s _).symm, task, rfl, rfl, rfl, rfl⟩

@[simp] theorem registry_setChannels (side : Side) (m : CChannelMap C) :
    (st.setChannels s side m).registry = st.registry := by
  have core : (fun r => ((st.setChannels s side m).session r).toSessionCore) =
      st.registry.core := by
    funext r
    by_cases h : r = s
    · subst h
      simp [setChannels, registry_core]
    · simp [setChannels, registry_core, h]
  simp only [registry, Registry.mk.injEq]
  exact ⟨core, rfl, rfl, rfl, rfl, rfl⟩

@[simp] theorem registry_doWrite (msg : Queued C) : (st.doWrite s msg).registry = st.registry := rfl

@[simp] theorem registry_acquire : (st.acquire s).registry = st.registry := rfl

@[simp] theorem registry_release : (st.release s).registry = st.registry := rfl

@[simp] theorem registry_endHandler :
    (st.endHandler s).registry = st.registry.set s (st.registry.core s).endBody .idle := by
  simp [endHandler, SessionCore.endBody, Task.registry]

@[simp] theorem registry_stopSession :
    (st.stopSession s).registry = st.registry.stopSession s (st.registry.core s) := by
  rw [stopSession, Registry.stopSession, registry_setTask, registry_modSession, Registry.set_set,
    Registry.core_set_self]
  congr 1
  exact apply_ite Task.registry _ _ _

variable [DecidableEq C]

omit [DecidableEq S] in
@[simp] theorem registry_setChannel (c : C) (ch : CChannel S) :
    (st.setChannel c ch).registry = st.registry := rfl

@[simp] theorem registry_stopAll (side : Side) : (st.stopAll s side).registry = st.registry :=
  st.registry_setChannels s side fun _ => none

end Projections

section Steps

variable [DecidableEq S] {st st' : Server S C} {s : S} {net : Net C}

open Registry (Step)

theorem runStop_registry [DecidableEq C] {pc : StopPc} (here : st.registry.task s = .stop pc) :
    Step st.registry (.run s net) (st.runStop s pc).registry := by
  cases pc with
  | stopAll side =>
      have step := Step.stopAll (n := net) here
      cases side with
      | src => simpa [runStop] using step
      | dst => simpa [runStop] using step
  | removeGuid =>
      by_cases logined : (st.session s).logined
      · have step := Step.removeGuid (n := net) here logined
        rw [runStop, if_pos logined, registry_setTask]
        exact step
      · have step := Step.notLogined (n := net) here logined
        rw [runStop, if_neg logined, registry_setTask]
        exact step
  | delDb =>
      rw [runStop, registry_setTask]
      exact .delDb here
  | eraseMap =>
      rw [runStop, registry_setTask]
      exact .eraseMap here
  | sessionClosed =>
      rw [runStop, registry_setTask]
      exact .sessionClosed here

theorem runLogin_registry {header : TagPktHdr} {pc : LoginPc}
    (here : st.registry.task s = .login pc) :
    Step st.registry (.run s net) (st.runLogin s header net pc).registry := by
  cases pc with
  | insertGuid =>
      cases free : st.guidSet (st.session s).guid with
      | none =>
          have step := Step.insertGuid (n := net) here free
          simp only [runLogin, free, registry_setTask]
          exact step
      | some owner =>
          have step := Step.guidTaken (n := net) here (by
            change st.guidSet (st.session s).guid ≠ none
            simp [free])
          simp only [runLogin, free, registry_setTask]
          exact step
  | allocId =>
      have step := Step.allocId (n := net) here
      rw [runLogin, registry_setTask, registry_modSession, Registry.set_set,
        Registry.core_set_self]
      exact step
  | addSession =>
      cases free : st.ssMap (st.session s).id with
      | none =>
          have step := Step.addSession (n := net) here free
          simp only [runLogin, free, registry_setTask]
          exact step
      | some owner =>
          have step := Step.idTaken (n := net) here (by
            change st.ssMap (st.session s).id ≠ none
            simp [free])
          simp only [runLogin, free, registry_setTask]
          exact step
  | undoGuid =>
      rw [runLogin, registry_setTask]
      exact .undoGuid here
  | remoteEndpoint =>
      rw [runLogin, registry_setTask]
      split
      · next ok => exact .remoteEndpoint here ok
      · next failed => exact .noRemoteEndpoint here failed
  | addDb addr =>
      rw [runLogin, registry_setTask]
      exact .addDb here
  | finish ok =>
      have step := Step.finish (n := net) here
      cases ok with
      | true => simpa [runLogin] using step
      | false => simpa [runLogin] using step

theorem onTimeout_registry (idle : st.registry.task s = .idle)
    (run : st.onTimeout s = some st') :
    Step (C := C) st.registry (.onTimeout s) st'.registry := by
  obtain ⟨ec, fired, rfl⟩ := onTimeout_eq_some run
  cases ec with
  | true =>
      rw [if_pos rfl, registry_modSession]
      exact .own s (.timerAborted fired)
  | false =>
      have step := Step.timeoutStop (C := C) idle fired
      simpa [Registry.stopSession] using step

theorem onReadHead_registry (idle : st.registry.task s = .idle)
    (run : st.onReadHead s = some st') :
    Step (C := C) st.registry (.onReadHead s) st'.registry := by
  obtain ⟨ec, bytes, stops, read, done, checked, rfl⟩ := onReadHead_eq_some run
  cases stops with
  | false =>
      rw [if_neg Bool.false_ne_true, registry_modSession]
      exact .own s (.onReadHead done checked)
  | true =>
      have fails : (st.registry.core s).FailsWith { st.registry.core s with read := read } :=
        ⟨⟨.head, ec, bytes, done⟩, read, rfl, ReadLoop.op_of_onReadHead rfl checked⟩
      have step := Step.readStop (a := .onReadHead (C := C) s) idle fails
      simpa [Registry.stopSession] using step

theorem handle_registry {req : Request}
    (idle : (st.registry.task s) = .idle) (decodes : (st.registry.core s).Decodes req)
    {taken : Server S C} (take : taken.registry =
      st.registry.set s (st.registry.core s).takeRead (st.registry.task s)) :
    Step (C := C) st.registry (.onReadBody s) (taken.handle s req).registry := by
  have core : taken.registry.core s = (st.registry.core s).takeRead := by
    rw [take, Registry.core_set_self]
  have answer := Step.answer (C := C) idle decodes.1
  cases req with
  | none => simpa [handle, take] using answer
  | getProxies req => simpa [handle, take] using answer
  | proxy req => simpa [handle, take] using Step.proxy (C := C) idle decodes
  | login req =>
      rw [handle, onReqLogin]
      by_cases logined : (st.registry.core s).logined
      · have same : (taken.session s).logined := by
          rw [← registry_core, core]
          exact logined
        rw [if_pos same]
        simpa [take] using answer
      · have same : ¬ (taken.session s).logined := by
          rw [← registry_core, core]
          exact logined
        have step := Step.login (C := C) idle decodes logined
        rw [if_neg same, registry_setTask, registry_modSession, Registry.set_set,
          Registry.core_set_self, take, Registry.core_set_self]
        simp only [Registry.set_set]
        exact step

theorem onReadBody_registry (idle : st.registry.task s = .idle)
    (run : st.onReadBody s = some st') :
    Step (C := C) st.registry (.onReadBody s) st'.registry := by
  obtain ⟨ec, bytes, done, rfl | ⟨rfl, req, decoded, rfl⟩⟩ := onReadBody_eq_some run
  · have fails : (st.registry.core s).FailsWith (st.registry.core s).takeRead :=
      ⟨⟨.body, ec, bytes, done⟩, _, rfl, rfl⟩
    have step := Step.readStop (a := .onReadBody (C := C) s) idle fails
    rw [registry_stopSession, registry_modSession, Registry.core_set_self,
      Registry.stopSession, Registry.set_set]
    exact step
  · exact handle_registry idle ⟨⟨bytes, done⟩, decoded⟩ (registry_modSession st s _)

variable [DecidableEq C]

/-- Inside a proxy request only the end of the handler touches the registry. -/
theorem runProxy_registry {cfg : Config} {req : CReqProxyPkt} {pc : ProxyPc S C}
    (here : st.task s = .proxy req pc) (run : st.runProxy cfg s req net pc = some st') :
    st'.registry = st.registry ∨ Step st.registry (.run s net) st'.registry := by
  have proxy : st.registry.task s = .proxy := by rw [registry_task, here, Task.registry]
  have done := Step.proxyDone (n := net) proxy
  have same : st.registry.set s (st.registry.core s) .proxy = st.registry := by
    rw [← proxy, Registry.set_self]
  cases pc with
  | lookup =>
      simp only [runProxy] at run
      split at run <;> obtain rfl := Option.some.inj run <;> exact .inl (by simp [same])
  | respErr =>
      obtain rfl := Option.some.inj run
      exact .inr (by simpa using done)
  | create d =>
      obtain ⟨_, _, rfl⟩ | ⟨_, rfl⟩ := create_eq_some run <;>
      · left
        rw [registry_setTask]
        exact same
  | thrown => cases run
  | addChannel side d c =>
      cases side <;>
      · simp only [runProxy, Option.map_eq_some_iff] at run
        obtain ⟨ch, _, rfl⟩ := run
        left
        split <;> simp [same]
  | lockDst c =>
      simp only [runProxy, Option.map_eq_some_iff] at run
      obtain ⟨ch, _, rfl⟩ := run
      split
      · exact .inl (by simp [same])
      · exact .inr (by simpa using done)
  | checkDst d c =>
      simp only [runProxy, Option.map_eq_some_iff] at run
      obtain ⟨ch, _, rfl⟩ := run
      split
      · exact .inl (by simp [same])
      · exact .inr (by simpa using done)
  | respOk d c =>
      simp only [runProxy, Option.map_eq_some_iff] at run
      obtain ⟨ch, _, rfl⟩ := run
      exact .inr (by simpa using done)
  | initEnd | undoRemove | undoNotify | fail | start | access =>
      simp only [runProxy, Option.map_eq_some_iff] at run
      obtain ⟨ch, _, rfl⟩ := run
      exact .inl (by simp [same])

/-- A handler of a channel does not touch the registry. -/
theorem onChannel_registry {c : C} {a : Action S C} (run : st.onChannel c a = some st') :
    st'.registry = st.registry := by
  obtain rfl | ⟨ch, rfl⟩ := onChannel_eq_some run <;> rfl

theorem runChannel_registry {c : C} {ch : CChannel S} (run : st.runChannel c ch = some st') :
    st'.registry = st.registry := by
  rw [runChannel] at run
  split at run
  · cases run
  · split at run <;> obtain rfl := Option.some.inj run <;> simp
  · obtain rfl := Option.some.inj run
    simp
  · obtain rfl := Option.some.inj run
    simp

/-- Every step of the server is a step of the registry, or does not change it. -/
theorem step_registry {cfg : Config} {a : Action S C} (run : step cfg st a = some st') :
    st'.registry = st.registry ∨ Step st.registry a st'.registry := by
  cases a with
  | acceptorTest s ok =>
      obtain ⟨created, rfl⟩ := acceptorTest_eq_some run
      right
      rw [registry_modSession]
      apply Step.own s
      apply CoreStep.tested created
      split <;> simp
  | acceptorCount s =>
      obtain ⟨admitted, rfl⟩ := acceptorCount_eq_some run
      right
      rw [registry_modSession]
      exact .own s (.counted admitted)
  | acceptorStart s =>
      obtain ⟨counted, rfl⟩ := acceptorStart_eq_some run
      right
      rw [registry_modSession]
      exact .start counted
  | timerExpires s =>
      obtain ⟨armed, rfl⟩ := timerExpires_eq_some run
      right
      rw [registry_modSession]
      exact .own s (.timerExpires armed)
  | deliver s data =>
      obtain ⟨read, delivered, rfl⟩ := deliver_eq_some run
      right
      rw [registry_modSession]
      exact .own s (.deliver delivered)
  | readFails s =>
      obtain rfl := Option.some.inj run
      right
      rw [registry_modSession]
      exact .own s .readFails
  | onTimeout s =>
      obtain ⟨idle, run⟩ := Option.ite_none_right_eq_some.mp run
      exact .inr (onTimeout_registry ((st.idle_iff s).mp idle) run)
  | onReadHead s =>
      obtain ⟨idle, run⟩ := Option.ite_none_right_eq_some.mp run
      exact .inr (onReadHead_registry ((st.idle_iff s).mp idle) run)
  | onReadBody s =>
      obtain ⟨idle, run⟩ := Option.ite_none_right_eq_some.mp run
      exact .inr (onReadBody_registry ((st.idle_iff s).mp idle) run)
  | run s net =>
      obtain ⟨pc, here, rfl⟩ | ⟨header, pc, here, rfl⟩ | ⟨req, pc, here, goes⟩ := run_cases run
      · exact .inr (runStop_registry (by rw [registry_task, here, Task.registry]))
      · exact .inr (runLogin_registry (by rw [registry_task, here, Task.registry]))
      · exact runProxy_registry here goes
  | writer s e =>
      obtain ⟨q, _, _, rfl⟩ := writer_eq_some run
      exact .inl rfl
  | destroy s =>
      obtain ⟨ended, unused, rfl⟩ := destroy_eq_some run
      right
      rw [registry_modSession]
      apply Step.own s
      apply CoreStep.destroyed ended
      simp only [unreferenced, Bool.and_eq_true] at unused
      exact unused.1.1.1.1
  | strandStop c => exact .inl (onChannel_registry run)
  | socketStop c => exact .inl (onChannel_registry run)
  | checker c side expired => exact .inl (onChannel_registry run)
  | coroExit c coro => exact .inl (onChannel_registry run)
  | runStop c =>
      obtain ⟨ch, _, stopped⟩ := Option.bind_eq_some_iff.mp run
      exact .inl (runChannel_registry stopped)
  | db e =>
      obtain ⟨ssDb, stepped, rfl⟩ := db_eq_some run
      exact .inr (.db stepped)
  | releaseServer =>
      obtain ⟨_, rfl⟩ := releaseServer_eq_some run
      exact .inl rfl

/-- The server refines the registry. -/
theorem registry_mapping (cfg : Config) :
    Transition.Mapping (system (S := S) (C := C) cfg) Registry.system registry where
  start st first := by
    obtain rfl : st = .new := first
    rfl
  step _ _ _ _ run := step_registry run

end Steps

end Server

end NatProxy
