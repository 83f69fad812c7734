import NatProxy.Server.IdSeparation

/-!
# The reuse of session ids

`closeSessionWithLock` erases by id, for clients as for servers and without a look
at whose entry it is. It leaves the other sessions alone as long as no client and no
server keep the same id, and takes the entry of a running server away when the
counter has come round to the id of that server.
-/

namespace NatProxy

open Memory

namespace Server

variable {S C : Type} [DecidableEq S] [DecidableEq C]

omit [DecidableEq S] [DecidableEq C] in
/-- A running session that is logged in keeps its id, and has an entry if it is a
server. -/
theorem Running.keepsId {st : Server S C} {s : S} (consistent : st.registry.Consistent)
    (running : st.Running s) : (st.registry.core s).KeepsId (st.registry.task s) ∧
      ((st.registry.core s).isServer = true →
        (st.registry.core s).Mapped (st.registry.task s)) := by
  obtain call | call := running.call consistent <;>
  · rw [call]
    exact ⟨⟨running.2, running.1⟩, fun server => ⟨server, running.2, running.1⟩⟩

/-- In every run in which no id is allocated to a client and to a server at the same
time, a step of the close of a session leaves the entries of every other session
that is running and logged in, and the record under its id. -/
theorem close_frames (cfg : Config) {st st' : Server S C} {s r : S} {n : Net C} {pc : StopPc}
    (reached : ((system cfg).restrict fun st a => st.registry.AllocatesFree a).Reachable st)
    (closes : st.task s = .stop pc) (other : r ≠ s) (running : st.Running r)
    (run : step cfg st (.run s n) = some st') :
    (∀ id, st.ssMap id = some r → st'.ssMap id = some r) ∧
      st'.ssDb.settled.db.lookup (st.session r).id =
        st.ssDb.settled.db.lookup (st.session r).id := by
  have separate := Registry.separate_of_reachable
    ((registry_mapping cfg).reachable_restrict reached)
  have registry := (registry_mapping cfg).reachable reached.of_restrict
  have consistent := Registry.consistent_of_reachable registry
  have logined := Registry.closesLogined_of_reachable registry
  obtain ⟨keeps, mapped⟩ := running.keepsId consistent
  have here : st.registry.task s = .stop pc := by rw [registry_task, closes, Task.registry]
  simp only [step, closes] at run
  obtain rfl := Option.some.inj run
  cases pc with
  | stopAll side => cases side <;> exact ⟨fun _ entry => entry, rfl⟩
  | removeGuid =>
      by_cases loggedIn : (st.session s).logined
      · rw [runStop, if_pos loggedIn]
        exact ⟨fun _ entry => entry, rfl⟩
      · rw [runStop, if_neg loggedIn]
        exact ⟨fun _ entry => entry, rfl⟩
  | delDb =>
      refine ⟨fun _ entry => entry, ?_⟩
      have table := (separate.operate (.del (st.session s).id)).1
      have deleted : (st.runStop s .delDb).ssDb.settled =
          st.registry.store.operate (.del (st.session s).id) := CSessionDb.settled_del _ _
      rw [deleted]
      refine (congrFun table (st.session r).id).trans ?_
      by_cases same : (st.session r).id = (st.session s).id
      · have none := separate.unrecorded here (logined s (.inl here)) keeps mapped other same
        rw [Table.apply, same, Function.update_self]
        exact none.symm
      · rw [Table.apply, Function.update_of_ne same]
        rfl
  | eraseMap =>
      refine ⟨fun id entry => ?_, rfl⟩
      have keeps_s : (st.registry.core s).KeepsId (st.registry.task s) := by
        rw [here]
        exact logined s (.inr here)
      have others := separate.entry_of_keepsId keeps_s
        (by rw [here]; exact fun server => ⟨server, logined s (.inr here)⟩) other
      have ne : id ≠ (st.session s).id := by
        rintro rfl
        exact others entry
      exact (Function.update_of_ne ne _ _).trans entry
  | sessionClosed => exact ⟨fun _ entry => entry, rfl⟩

/-- A server and a client log in, and the client closes up to the erasure. -/
def clientCloses : List (Action (Fin 2) (Fin 1)) :=
  accept 0 ++ receive 0 (loginFrame [0x41] 2) ++ go 0 6 ++
    accept 1 ++ receive 1 (loginFrame [0x42] 1) ++ go 1 3 ++ [.readFails 1, .onReadHead 1] ++
    go 1 4

/-- Enough of the condition on a run, evaluated. -/
def allocatesFreeTest (st : Server (Fin 2) (Fin 1)) : Action (Fin 2) (Fin 1) → Bool
  | .run s _ =>
      st.registry.task s != .login .allocId ||
        decide ((∀ r, r ≠ s → (st.session r).id ≠ st.sessionId) ∧ st.ssMap st.sessionId = none)
  | _ => true

theorem allocatesFree_of_test (st : Server (Fin 2) (Fin 1)) (a : Action (Fin 2) (Fin 1))
    (tested : allocatesFreeTest st a = true) : st.registry.AllocatesFree a := by
  cases a with
  | run s n =>
      intro here
      simp only [allocatesFreeTest, here, bne_self_eq_false, Bool.false_or, decide_eq_true_eq]
        at tested
      exact ⟨fun r ne _ same => absurd same (tested.1 r ne), fun _ => tested.2⟩
  | _ => trivial

theorem close_frames_clientCloses :
    ∃ st st' : Server (Fin 2) (Fin 1), (st.session 1).logined = true ∧ st.Running 0 ∧
      step ⟨0, 0, 0⟩ st (.run 1 (.success 0)) = some st' ∧ st'.ssMap 1000 = some 0 := by
  obtain ⟨st, reached, closes, logined, running, entry⟩ :=
    reachable_of_testedRun ⟨0, 0, 0⟩ clientCloses allocatesFree_of_test
      (P := fun st => st.task 1 = .stop .eraseMap ∧ (st.session 1).logined = true ∧
        st.Running 0 ∧ st.ssMap 1000 = some 0) (by decide +kernel)
  have run : step ⟨0, 0, 0⟩ st (.run 1 (.success 0)) = some (st.runStop 1 .eraseMap) := by
    simp only [step, closes]
  have frames := close_frames ⟨0, 0, 0⟩ reached closes (by decide) running run
  exact ⟨st, _, logined, running, run, frames.1 1000 entry⟩

end Server

/-! ## The counter comes round -/

namespace Registry

variable {S C : Type} [DecidableEq S] [DecidableEq C] {v v' : Registry S} {s : S}
  {core core' : SessionCore} {task task' : RegTask}

/-- The registry of some reachable state of a server without a limit. -/
def Realized (C : Type) [DecidableEq C] (v : Registry S) : Prop :=
  ∃ st : Server S C, (Server.system ⟨0, 0, 0⟩).Reachable st ∧ st.registry = v

theorem Realized.next (h : v.Realized C) (a : Action S C)
    (step : ∀ st : Server S C, st.registry = v →
      ∃ st', Server.step ⟨0, 0, 0⟩ st a = some st' ∧ st'.registry = v') : v'.Realized C := by
  obtain ⟨st, reached, same⟩ := h
  obtain ⟨st', run, same'⟩ := step st same
  exact ⟨st', reached.next run, same'⟩

/-- A step of one session. -/
theorem Realized.session (h : (v.set s core task).Realized C) (a : Action S C)
    (step : ∀ st : Server S C, (st.session s).toSessionCore = core → st.registry.task s = task →
      ∃ st', Server.step ⟨0, 0, 0⟩ st a = some st' ∧
        st'.registry = st.registry.set s core' task') : (v.set s core' task').Realized C := by
  refine h.next a ?_
  intro st same
  obtain ⟨st', run, after⟩ := step st
    (by rw [← Server.registry_core, same, core_set_self]) (by rw [same, task_set_self])
  exact ⟨st', run, by rw [after, same, set_set]⟩

/-- A session is accepted and started. -/
theorem Realized.accept (h : v.Realized C) (fresh : v.core s = .new) :
    (v.set s SessionCore.new.start (v.task s)).Realized C := by
  have created : (v.set s .new (v.task s)).Realized C := by
    rw [← fresh, set_self]
    exact h
  have tested : (v.set s { SessionCore.new with phase := .admitted } (v.task s)).Realized C := by
    refine created.session (.acceptorTest s true) fun st core task => ⟨_, if_pos ?_, ?_⟩
    · rw [core]
      rfl
    · rw [Server.registry_modSession, Server.registry_core, core, task]
      rfl
  have counted : (v.set s { SessionCore.new with phase := .counted } (v.task s)).Realized C := by
    refine tested.session (.acceptorCount s) fun st core task => ⟨_, if_pos ?_, ?_⟩
    · rw [core]
    · rw [Server.registry_modSession]
      change st.registry.set s { (st.session s).toSessionCore with phase := .counted }
        (st.registry.task s) = _
      rw [core, task]
  refine counted.session (.acceptorStart s) fun st core task => ⟨_, if_pos ?_, ?_⟩
  · rw [core]
  · rw [Server.registry_modSession, Server.registry_core, core, task]
    rfl

theorem Realized.deliver (h : (v.set s core task).Realized C) (data : Bytes) {read : ReadLoop}
    (delivered : core.read.deliver data = some read) :
    (v.set s { core with read := read } task).Realized C := by
  refine h.session (.deliver s data) ?_
  rintro st rfl rfl
  exact ⟨_, by rw [Server.step, delivered]; rfl, Server.registry_modSession st s _⟩

theorem Realized.readFails (h : (v.set s core task).Realized C) :
    (v.set s { core with read := core.read.fail } task).Realized C := by
  refine h.session (.readFails s) ?_
  rintro st rfl rfl
  exact ⟨_, rfl, Server.registry_modSession st s _⟩

theorem Realized.onReadHead (h : (v.set s core .idle).Realized C) {ec : Bool} {bytes : Nat}
    {read : ReadLoop} (done : core.read.op = .done .head ec bytes)
    (checked : { core.read with op := .none }.onReadHead core.isOpen ec bytes = (false, read)) :
    (v.set s { core with read := read } .idle).Realized C := by
  refine h.session (.onReadHead s) ?_
  rintro st rfl idle
  have run : Server.step ⟨0, 0, 0⟩ st (.onReadHead s) =
      some (st.modSession s fun ss => { ss with read := read }) := by
    simp only [Server.step, (st.idle_iff s).mpr idle, if_true, Server.onReadHead, done, checked]
  refine ⟨_, run, ?_⟩
  rw [Server.registry_modSession, idle]
  rfl

/-- The end of the connection. -/
theorem Realized.hangUp (h : (v.set s core .idle).Realized C) (ec : Bool) (bytes : Nat)
    {read : ReadLoop} (done : core.read.op = .done .head ec bytes)
    (checked : { core.read with op := .none }.onReadHead core.isOpen ec bytes = (true, read))
    (started : core.started = true) :
    (v.set s { core with read := read }.beginStop (.stop (.stopAll .src))).Realized C := by
  refine h.session (.onReadHead s) ?_
  rintro st rfl idle
  have run : Server.step ⟨0, 0, 0⟩ st (.onReadHead s) =
      some ((st.modSession s fun ss => { ss with read := read }).stopSession s) := by
    simp only [Server.step, (st.idle_iff s).mpr idle, if_true, Server.onReadHead, done, checked]
  refine ⟨_, run, ?_⟩
  rw [Server.registry_stopSession, Server.registry_modSession, stopSession, core_set_self, set_set,
    Server.registry_core]
  exact congrArg (st.registry.set s _) (if_pos started)

theorem Realized.onReadBody (h : (v.set s core .idle).Realized C) {bytes : Nat}
    {req : CReqLoginPkt} (done : core.read.op = .done .body false bytes) (filled : 0 < bytes)
    (decoded : dispatch core.sessionType core.read.hdr core.read.rbuf = .ok (.login req))
    (logined : core.logined = false) :
    (v.set s (core.takeRead.request req) (.login .insertGuid)).Realized C := by
  refine h.session (.onReadBody s) ?_
  rintro st rfl idle
  have delivered : ReadLoop.bodyFails false bytes = false := by
    simp [ReadLoop.bodyFails, filled.ne']
  have run : Server.step ⟨0, 0, 0⟩ st (.onReadBody s) =
      some ((st.modSession s SessionCore.takeRead).onReqLogin s req) := by
    simp only [Server.step, (st.idle_iff s).mpr idle, if_true, Server.onReadBody, done, delivered,
      Bool.false_eq_true, if_false, decoded]
    rfl
  refine ⟨_, run, ?_⟩
  have pending : ¬ ((st.modSession s SessionCore.takeRead).session s).logined = true := by
    rw [← Server.registry_core, Server.registry_modSession, core_set_self]
    exact Bool.eq_false_iff.mp logined
  rw [Server.onReqLogin, if_neg pending, Server.registry_setTask, Server.registry_modSession,
    set_set, core_set_self, Server.registry_modSession, core_set_self, set_set]
  rfl

/-- The thread of a session goes on with a login. -/
theorem Realized.login {pc : LoginPc} (h : (v.set s core (.login pc)).Realized C) (n : Net C)
    (after : ∀ (st : Server S C) header, (st.session s).toSessionCore = core →
      st.registry = v.set s core (.login pc) → (st.runLogin s header n pc).registry = v') :
    v'.Realized C := by
  refine h.next (.run s n) ?_
  intro st same
  have here : (st.task s).registry = .login pc := by
    rw [← Server.registry_task, same, task_set_self]
  have members : (st.session s).toSessionCore = core := by
    rw [← Server.registry_core, same, core_set_self]
  cases call : st.task s with
  | idle | stop | proxy => simp [call] at here
  | login header pc' =>
      rw [call, Task.registry, RegTask.login.injEq] at here
      subst here
      exact ⟨_, by simp only [Server.step, call], after st header members same⟩

/-- The thread of a session goes on with a close. -/
theorem Realized.stop {pc : StopPc} (h : (v.set s core (.stop pc)).Realized C) (n : Net C)
    (after : ∀ st : Server S C, (st.session s).toSessionCore = core →
      st.registry = v.set s core (.stop pc) → (st.runStop s pc).registry = v') :
    v'.Realized C := by
  refine h.next (.run s n) ?_
  intro st same
  have here : (st.task s).registry = .stop pc := by
    rw [← Server.registry_task, same, task_set_self]
  have members : (st.session s).toSessionCore = core := by
    rw [← Server.registry_core, same, core_set_self]
  cases call : st.task s with
  | idle | login | proxy => simp [call] at here
  | stop pc' =>
      rw [call, Task.registry, RegTask.stop.injEq] at here
      subst here
      exact ⟨_, by simp only [Server.step, call], after st members same⟩

theorem Realized.insertGuid (h : (v.set s core (.login .insertGuid)).Realized C) (n : Net C)
    (free : v.guidSet core.guid = none) :
    ({ v with guidSet := Function.update v.guidSet core.guid (some s) }.set s core
      (.login .allocId)).Realized C := by
  refine h.login n ?_
  rintro st header rfl same
  have guidSet : st.guidSet = v.guidSet := congrArg Registry.guidSet same
  simp only [Server.runLogin, guidSet, free, Server.registry_setTask]
  change ({ st.registry with
    guidSet := Function.update v.guidSet (st.session s).guid (some s) }.set s
      (st.session s).toSessionCore (.login .allocId)) = _
  rw [same]
  simp [set]

theorem Realized.allocId (h : (v.set s core (.login .allocId)).Realized C) (n : Net C) :
    ({ v with sessionId := v.sessionId + 1 }.set s { core with id := v.sessionId }
      (.login (if core.isServer then .addSession else .finish true))).Realized C := by
  refine h.login n ?_
  rintro st header rfl same
  have sessionId : st.sessionId = v.sessionId := congrArg Registry.sessionId same
  rw [Server.runLogin, Server.registry_setTask, Server.registry_modSession, set_set, core_set_self,
    sessionId]
  change ({ st.registry with sessionId := v.sessionId + 1 }.set s
    { (st.session s).toSessionCore with id := v.sessionId }
    (.login (if (st.session s).isServer then .addSession else .finish true))) = _
  rw [same]
  simp [set]

theorem Realized.addSession (h : (v.set s core (.login .addSession)).Realized C) (n : Net C)
    (free : v.ssMap core.id = none) :
    ({ v with ssMap := Function.update v.ssMap core.id (some s) }.set s core
      (.login .remoteEndpoint)).Realized C := by
  refine h.login n ?_
  rintro st header rfl same
  have ssMap : st.ssMap = v.ssMap := congrArg Registry.ssMap same
  simp only [Server.runLogin, ssMap, free, Server.registry_setTask]
  change ({ st.registry with
    ssMap := Function.update v.ssMap (st.session s).id (some s) }.set s
      (st.session s).toSessionCore (.login .remoteEndpoint)) = _
  rw [same]
  simp [set]

theorem Realized.remoteEndpoint (h : (v.set s core (.login .remoteEndpoint)).Realized C)
    (n : Net C) (ok : core.isOpen = true ∧ n.ok = true) :
    (v.set s core (.login (.addDb n.addr))).Realized C := by
  refine h.login n ?_
  rintro st header rfl same
  simp [Server.runLogin, same, ok]

theorem Realized.addDb {addr : UInt32} (h : (v.set s core (.login (.addDb addr))).Realized C)
    (n : Net C) :
    ({ v with ssDb := v.ssDb.add ⟨core.id, addr, core.guid⟩ }.set s core
      (.login (.finish true))).Realized C := by
  refine h.login n ?_
  rintro st header rfl same
  have ssDb : st.ssDb = v.ssDb := congrArg Registry.ssDb same
  rw [Server.runLogin, Server.registry_setTask, ssDb]
  change ({ st.registry with
    ssDb := v.ssDb.add ⟨(st.session s).id, addr, (st.session s).guid⟩ }.set s
      (st.session s).toSessionCore (.login (.finish true))) = _
  rw [same]
  simp [set]

/-- `_logined` is set, and the next read is started. -/
theorem Realized.finish (h : (v.set s core (.login (.finish true))).Realized C) (n : Net C) :
    (v.set s ({ core with logined := true, timer := core.timer.cancel }.endBody) .idle).Realized
      C := by
  refine h.login n ?_
  rintro st header rfl same
  simp [Server.runLogin, same]

theorem Realized.stopAll (h : (v.set s core (.stop (.stopAll .src))).Realized C) (n : Net C) :
    (v.set s core (.stop .removeGuid)).Realized C := by
  have dst : (v.set s core (.stop (.stopAll .dst))).Realized C := by
    refine h.stop n ?_
    rintro st rfl same
    simp [Server.runStop, same]
  refine dst.stop n ?_
  rintro st rfl same
  simp [Server.runStop, same]

theorem Realized.removeGuid (h : (v.set s core (.stop .removeGuid)).Realized C) (n : Net C)
    (logined : core.logined = true) :
    ({ v with guidSet := Function.update v.guidSet core.guid none }.set s core
      (.stop .delDb)).Realized C := by
  refine h.stop n ?_
  rintro st rfl same
  have guidSet : st.guidSet = v.guidSet := congrArg Registry.guidSet same
  rw [Server.runStop, if_pos logined, Server.registry_setTask, guidSet]
  change ({ st.registry with
    guidSet := Function.update v.guidSet (st.session s).guid none }.set s
      (st.session s).toSessionCore (.stop .delDb)) = _
  rw [same]
  simp [set]

theorem Realized.delDb (h : (v.set s core (.stop .delDb)).Realized C) (n : Net C) :
    ({ v with ssDb := v.ssDb.del core.id }.set s core (.stop .eraseMap)).Realized C := by
  refine h.stop n ?_
  rintro st rfl same
  have ssDb : st.ssDb = v.ssDb := congrArg Registry.ssDb same
  rw [Server.runStop, Server.registry_setTask, ssDb]
  change ({ st.registry with ssDb := v.ssDb.del (st.session s).id }.set s
    (st.session s).toSessionCore (.stop .eraseMap)) = _
  rw [same]
  simp [set]

theorem Realized.eraseMap (h : (v.set s core (.stop .eraseMap)).Realized C) (n : Net C) :
    ({ v with ssMap := Function.update v.ssMap core.id none }.set s core
      (.stop .sessionClosed)).Realized C := by
  refine h.stop n ?_
  rintro st rfl same
  have ssMap : st.ssMap = v.ssMap := congrArg Registry.ssMap same
  rw [Server.runStop, Server.registry_setTask, ssMap]
  change ({ st.registry with ssMap := Function.update v.ssMap (st.session s).id none }.set s
    (st.session s).toSessionCore (.stop .sessionClosed)) = _
  rw [same]
  simp [set]

/-- A new session asks for a login as the server `0x41` or as the client `0x42`, and
the handler of the request starts. -/
theorem Realized.request (h : v.Realized C) (fresh : v.core s = .new) (idle : v.task s = .idle)
    {guid uctype : UInt8} (kind : guid = 0x41 ∧ uctype = 2 ∨ guid = 0x42 ∧ uctype = 1) :
    ∃ core : SessionCore, core.guid = [guid] ∧ core.sessionType = uctype.toUInt32 ∧
      core.started = true ∧ core.isOpen = true ∧
      (v.set s core (.login .insertGuid)).Realized C := by
  have accepted := h.accept fresh
  rw [idle] at accepted
  have head := accepted.deliver (loginFrame [guid] uctype).1 rfl
  have checked := head.onReadHead rfl rfl
  obtain ⟨rfl, rfl⟩ | ⟨rfl, rfl⟩ := kind
  · have body := checked.deliver (loginFrame [0x41] 2).2 rfl
    exact ⟨_, rfl, rfl, rfl, rfl, body.onReadBody rfl (by decide) rfl rfl⟩
  · have body := checked.deliver (loginFrame [0x42] 1).2 rfl
    exact ⟨_, rfl, rfl, rfl, rfl, body.onReadBody rfl (by decide) rfl rfl⟩

/-- A client logs in and closes, up to the erasure of its id. -/
theorem Realized.client (h : v.Realized C) (fresh : v.core s = .new) (idle : v.task s = .idle)
    (free : v.guidSet [0x42] = none) (n : Net C) :
    ∃ core : SessionCore, core.id = v.sessionId ∧ core.logined = true ∧
      ({ v with
        sessionId := v.sessionId + 1
        ssDb := v.ssDb.del v.sessionId }.set s core (.stop .eraseMap)).Realized C := by
  obtain ⟨core, guid, type, started, isOpen, request⟩ := h.request fresh idle (.inr ⟨rfl, rfl⟩)
  have client : core.isServer = false := by
    rw [SessionCore.isServer, type]
    rfl
  have inserted := request.insertGuid n (by rw [guid]; exact free)
  have allocated := inserted.allocId n
  rw [client, if_neg Bool.false_ne_true] at allocated
  have failed := (allocated.finish n).readFails
  have stopping := failed.hangUp true 0
    (by simp [SessionCore.endBody, ReadLoop.finishBody, ReadLoop.doRead, ReadLoop.asyncRead,
      ReadLoop.fail, started, isOpen]) rfl started
  have removed := (stopping.stopAll n).removeGuid n rfl
  have deleted := removed.delDb n
  generalize closing : SessionCore.beginStop _ = closed at deleted
  have id : closed.id = v.sessionId := by rw [← closing]; rfl
  have sameGuid : closed.guid = [0x42] := by rw [← closing]; exact guid
  have logined : closed.logined = true := by rw [← closing]; rfl
  refine ⟨closed, id, logined, ?_⟩
  have restored : Function.update v.guidSet [0x42] none = v.guidSet :=
    Function.update_eq_self_iff.mpr free.symm
  rw [id, sameGuid] at deleted
  simpa [guid, restored] using deleted

/-- A server logs in. -/
theorem Realized.server (h : v.Realized C) (fresh : v.core s = .new) (idle : v.task s = .idle)
    (free : v.guidSet [0x41] = none) (unused : v.ssMap v.sessionId = none) {n : Net C}
    (ok : n.ok = true) :
    ∃ (core : SessionCore) (ssDb : CSessionDb), core.id = v.sessionId ∧ core.logined = true ∧
      core.started = true ∧
      ({ v with
        guidSet := Function.update v.guidSet [0x41] (some s)
        ssMap := Function.update v.ssMap v.sessionId (some s)
        sessionId := v.sessionId + 1
        ssDb := ssDb }.set s core .idle).Realized C := by
  obtain ⟨core, guid, type, started, isOpen, request⟩ := h.request fresh idle (.inl ⟨rfl, rfl⟩)
  have server : core.isServer = true := by
    rw [SessionCore.isServer, type]
    rfl
  have inserted := request.insertGuid n (by rw [guid]; exact free)
  have allocated := inserted.allocId n
  rw [server, if_pos rfl] at allocated
  have added := (allocated.addSession n unused).remoteEndpoint n ⟨isOpen, ok⟩
  have finished := (added.addDb n).finish n
  generalize loggedIn : SessionCore.endBody _ = core' at finished
  have id : core'.id = v.sessionId := by rw [← loggedIn]; rfl
  have logined : core'.logined = true := by rw [← loggedIn]; rfl
  have running : core'.started = true := by rw [← loggedIn]; exact started
  exact ⟨core', _, id, logined, running, by simpa [guid] using finished⟩

/-- The server is session `0`, the sessions up to `k` have been clients, and the next
ones are new. -/
structure AfterClients (v : Registry Nat) (k : Nat) : Prop where
  realized : v.Realized (Fin 1)
  fresh : ∀ s, k < s → v.core s = .new ∧ v.task s = .idle
  next : v.sessionId = UInt32.ofNat (1001 + k)
  free : v.guidSet [0x42] = none
  entry : v.ssMap 1000 = some 0
  running : (v.core 0).started = true ∧ (v.core 0).logined = true

theorem afterClients_zero : ∃ v : Registry Nat, v.AfterClients 0 := by
  have start : (new : Registry Nat).Realized (Fin 1) := ⟨.new, .start rfl, rfl⟩
  obtain ⟨core, ssDb, _, logined, started, realized⟩ :=
    start.server (s := 0) rfl rfl rfl rfl (n := .success 0) rfl
  refine ⟨_, realized, ?_, rfl, rfl, rfl, ?_⟩
  · intro s later
    rw [core_set_of_ne _ _ _ later.ne', task_set_of_ne _ _ _ later.ne']
    exact ⟨rfl, rfl⟩
  · rw [core_set_self]
    exact ⟨started, logined⟩

/-- The id of a client that comes before the counter has come round. -/
theorem nextId_ne {k : Nat} (before : k + 1 < 2 ^ 32) : UInt32.ofNat (1001 + k) ≠ 1000 := by
  intro same
  have same := congrArg UInt32.toNat same
  simp only [UInt32.toNat_ofNat'] at same
  have : (1000 : UInt32).toNat = 1000 := rfl
  omega

/-- One more client logs in and closes. -/
theorem AfterClients.succ {v : Registry Nat} {k : Nat} (h : v.AfterClients k)
    (before : k + 1 < 2 ^ 32) : ∃ v' : Registry Nat, v'.AfterClients (k + 1) := by
  obtain ⟨fresh, idle⟩ := h.fresh (k + 1) (Nat.lt_succ_self k)
  obtain ⟨core, id, _, closing⟩ := h.realized.client fresh idle h.free (.success 0)
  refine ⟨_, closing.eraseMap (.success 0), ?_, ?_, h.free, ?_, ?_⟩
  · intro s later
    rw [core_set_of_ne _ _ _ later.ne', task_set_of_ne _ _ _ later.ne']
    exact h.fresh s (Nat.lt_of_succ_lt later)
  · change v.sessionId + 1 = _
    rw [h.next, ← Nat.add_assoc, UInt32.ofNat_add _ 1]
    rfl
  · rw [id, h.next]
    exact (Function.update_of_ne (nextId_ne before).symm _ _).trans h.entry
  · rw [core_set_of_ne _ _ _ (Nat.succ_ne_zero k).symm]
    exact h.running

theorem exists_afterClients (k : Nat) (before : k < 2 ^ 32) :
    ∃ v : Registry Nat, v.AfterClients k := by
  induction k with
  | zero => exact afterClients_zero
  | succ k ih =>
      obtain ⟨v, h⟩ := ih (Nat.lt_of_succ_lt before)
      exact h.succ before

end Registry

namespace Server

/-- After `2 ^ 32` allocations a client gets the id of a server that is still running
and logged in, and its close erases the entry of the server. -/
theorem close_not_always_frames :
    ¬ ∀ (st st' : Server Nat (Fin 1)) (s r : Nat) (n : Net (Fin 1)) (pc : StopPc),
      (system ⟨0, 0, 0⟩).Reachable st → st.task s = .stop pc → (st.session s).logined = true →
        r ≠ s → st.Running r → step ⟨0, 0, 0⟩ st (.run s n) = some st' →
          (∀ id, st.ssMap id = some r → st'.ssMap id = some r) ∧
            st'.ssDb.settled.db.lookup (st.session r).id =
              st.ssDb.settled.db.lookup (st.session r).id := by
  intro frames
  obtain ⟨v, h⟩ := Registry.exists_afterClients (2 ^ 32 - 1) (by decide)
  obtain ⟨client, later⟩ : ∃ client, 2 ^ 32 - 1 < client := ⟨2 ^ 32, by decide⟩
  have other : 0 ≠ client := (Nat.zero_lt_of_lt later).ne
  obtain ⟨fresh, idle⟩ := h.fresh client later
  obtain ⟨core, id, logined, st, reached, same⟩ :=
    h.realized.client fresh idle h.free (.success 0)
  have recycled : core.id = 1000 := by rw [id, h.next]; rfl
  have closing : st.registry.core client = core ∧ st.registry.task client = .stop .eraseMap := by
    rw [same, Registry.core_set_self, Registry.task_set_self]
    exact ⟨rfl, rfl⟩
  have running : st.Running 0 := by
    have kept : st.registry.core 0 = v.core 0 := by rw [same, Registry.core_set_of_ne _ _ _ other]
    rw [Running, ← registry_core, kept]
    exact h.running
  have entry : st.ssMap 1000 = some 0 :=
    (congrFun (congrArg Registry.ssMap same) 1000).trans h.entry
  have closes : st.task client = .stop .eraseMap := by
    have task := closing.2
    rw [registry_task] at task
    cases call : st.task client with
    | idle | login | proxy => simp [call] at task
    | stop pc =>
        rw [call, Task.registry, RegTask.stop.injEq] at task
        rw [task]
  have loggedIn : (st.session client).logined = true := by rw [← registry_core, closing.1, logined]
  have run : step ⟨0, 0, 0⟩ st (.run client (.success 0)) = some (st.runStop client .eraseMap) := by
    simp only [step, closes]
  have kept := (frames st _ client 0 _ _ reached closes loggedIn other running run).1 1000 entry
  have erased : (st.runStop client .eraseMap).ssMap 1000 = none := by
    change Function.update st.ssMap (st.session client).id none 1000 = none
    rw [← registry_core, closing.1, recycled, Function.update_self]
  rw [erased] at kept
  cases kept

end Server

end NatProxy
