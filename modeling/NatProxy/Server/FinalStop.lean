import NatProxy.Server.GuidOwnership

/-!
# What a stopped session can still do

`stop` closes the socket, but a read that has already completed keeps its queued
handler, and `onReadBody` does not test `_started`. A login that was received
before the login timer fired is therefore still handled after the session was
stopped, and enters the session into the tables that `stop` has just cleaned.
Nothing else can do so: a failing read stops the session in its own handler, so
no other read is queued then, and on a closed socket no read succeeds.

`StopsClean` is the condition that leaves this case out. It also leaves out a
client login of a session that holds a guid already, which only happens after a
login as a server has failed at `remote_endpoint`.
-/

namespace NatProxy

open Transition

/-- A successfully read login is queued, and would not be refused as a repeated one. -/
def SessionCore.LoginQueued (core : SessionCore) : Prop :=
  core.logined = false ∧ core.read.hdr.ucFunc = FUNC.REQ.LOGIN ∧
    ∃ bytes, core.read.op = .done .body false bytes

/-- What can be left of the read loop of a session that is not running, and which
calls begin in running sessions only. -/
structure SessionCore.Final (core : SessionCore) (task : RegTask) : Prop where
  login : ∀ pc, task = .login pc → core.started = true
  reading : core.started = false → ∀ part, core.read.op ≠ .reading part
  closed : core.started = false → core.read.op ≠ .none → core.isOpen = false
  queued : core.started = false → ¬ core.LoginQueued

namespace SessionCore

variable {core core' : SessionCore} {task : RegTask}

theorem Decodes.loginQueued {req : CReqLoginPkt} (decodes : core.Decodes (.login req))
    (logined : ¬ core.logined) : core.LoginQueued :=
  ⟨Bool.eq_false_iff.mpr logined, dispatch_cases decodes.2, decodes.1⟩

namespace Final

/-- A running session. -/
theorem of_started (started : core.started = true) : core.Final task := by
  refine ⟨fun _ _ => started, ?_, ?_, ?_⟩ <;>
  · intro stopped
    rw [started] at stopped
    cases stopped

/-- A session without a read, whose call is not a login. -/
theorem of_none (none : core.read.op = .none) (other : ∀ pc, task ≠ .login pc) :
    core.Final task := by
  refine ⟨fun pc login => absurd login (other pc), ?_, ?_, ?_⟩
  · intro _ part
    rw [none]
    exact fun same => ReadOp.noConfusion same
  · intro _ some
    exact absurd none some
  · rintro _ ⟨_, _, bytes, done⟩
    rw [none] at done
    cases done

/-- A call goes on, or another call than a login begins. -/
theorem call (h : core.Final task) {task' : RegTask}
    (login : ∀ pc, task' = .login pc → ∃ pc, task = .login pc) : core.Final task' where
  login pc call := by
    obtain ⟨pc, before⟩ := login pc call
    exact h.login pc before
  reading := h.reading
  closed := h.closed
  queued := h.queued

theorem coreStep (h : core.Final task) (step : CoreStep core core') : core'.Final task := by
  by_cases started : core.started = true
  · exact of_started (step.started.trans started)
  have stopped : core.started = false := Bool.eq_false_iff.mpr started
  cases step with
  | tested | counted | destroyed | timerExpires | timerAborted =>
      exact ⟨h.login, h.reading, h.closed, h.queued⟩
  | deliver delivered =>
      rw [ReadLoop.deliver] at delivered
      split at delivered
      · next part reading => exact absurd reading (h.reading stopped part)
      · cases delivered
  | readFails =>
      have same : core.read.fail = core.read := by
        rw [ReadLoop.fail]
        split
        · next part reading => exact absurd reading (h.reading stopped part)
        · rfl
      rw [same]
      exact h
  | onReadHead done checked =>
      have closed : core.isOpen = false := h.closed stopped (by simp [done])
      have failed := ReadLoop.op_of_onReadHead_closed (closed ▸ checked)
      refine ⟨h.login, ?_, fun _ _ => closed, ?_⟩
      · intro _ part reading
        rw [failed] at reading
        cases reading
      · rintro _ ⟨_, _, bytes, queued⟩
        rw [failed] at queued
        cases queued

/-- The end of `onReadBody` starts no read in a stopped session. -/
theorem endBody (h : core.Final task) : core.endBody.Final .idle := by
  by_cases started : core.started = true
  · exact of_started started
  have stopped : core.started = false := Bool.eq_false_iff.mpr started
  have read : core.endBody.read = { core.read with rbuf := core.endBody.read.rbuf } := by
    rw [SessionCore.endBody, ReadLoop.finishBody, stopped]
    rfl
  refine ⟨?_, ?_, ?_, ?_⟩
  · intro pc login
    cases login
  · rw [read]
    exact h.reading
  · rw [read]
    exact h.closed
  · rw [LoginQueued, read]
    exact h.queued

end Final

end SessionCore

namespace Registry

variable {S C : Type} [DecidableEq S] {v v' : Registry S} {s : S} {a : Action S C}

/-- No timer stops a session with a login queued, and a session that sends a client
login holds no guid. -/
def StopsClean (v : Registry S) : Action S C → Prop
  | .onTimeout s => (v.core s).timer = .fired false → ¬ (v.core s).LoginQueued
  | .onReadBody s => ∀ req, (v.core s).Decodes (.login req) → (v.core s).logined = false →
      req.uctype.toUInt32 = SESSIONTYPE.CLIENT → ∀ g, v.guidSet g ≠ some s
  | _ => True

/-- Every session is as a final `stop` leaves it, or running. -/
def Final (v : Registry S) : Prop := ∀ s, (v.core s).Final (v.task s)

theorem Final.stopSession (h : v.Final) {core : SessionCore} (queued : ¬ core.LoginQueued) :
    (v.stopSession s core).Final := by
  refine forall_set h ⟨?_, ?_, fun _ _ => rfl, ?_⟩
  · intro pc login
    split at login <;> cases login
  · intro _ part reading
    simp only [SessionCore.beginStop, ReadLoop.fail] at reading
    split at reading
    · cases reading
    · next other => exact other part reading
  · rintro _ ⟨logined, func, bytes, done⟩
    simp only [SessionCore.beginStop, ReadLoop.fail] at done func logined
    split at done
    · cases done
    · next other =>
      refine queued ⟨logined, ?_, bytes, done⟩
      split at func
      · next part reading => exact absurd reading (other part)
      · exact func

theorem Step.final (step : Step v a v') (clean : v.StopsClean a) (h : v.Final) : v'.Final := by
  cases step with
  | own s step => exact forall_set h ((h s).coreStep step)
  | start counted => exact forall_set h (.of_started rfl)
  | timeoutStop idle fired => exact h.stopSession (clean fired)
  | readStop idle fails =>
      obtain ⟨_, read, rfl, none⟩ := fails
      apply h.stopSession
      rintro ⟨_, _, bytes, done⟩
      rw [none] at done
      cases done
  | stopAll | notLogined | sessionClosed =>
      refine forall_set h ((h _).call ?_)
      intro pc login
      cases login
  | removeGuid | delDb | eraseMap =>
      refine forall_set (v := { v with .. }) h ((h _).call ?_)
      intro pc login
      cases login
  | @answer s idle read =>
      have taken : (v.core s).takeRead.Final .idle := by
        refine .of_none rfl ?_
        intro pc login
        cases login
      exact forall_set h taken.endBody
  | proxy idle decodes =>
      refine forall_set h (.of_none rfl ?_)
      intro pc login
      cases login
  | proxyDone here => exact forall_set h (h _).endBody
  | login idle decodes logined =>
      apply forall_set h
      apply SessionCore.Final.of_started
      by_contra stopped
      exact (h _).queued (Bool.eq_false_iff.mpr stopped) (decodes.loginQueued logined)
  | guidTaken here | idTaken here | remoteEndpoint here | noRemoteEndpoint here =>
      exact forall_set h (.of_started ((h _).login _ here))
  | insertGuid here | allocId here | addSession here | undoGuid here | addDb here =>
      exact forall_set (v := { v with .. }) h (.of_started ((h _).login _ here))
  | finish here => exact forall_set h (.of_started ((h _).login _ here))
  | db step => exact h

omit [DecidableEq S] in
theorem final_new : (new : Registry S).Final := by
  intro s
  refine .of_none rfl ?_
  intro pc login
  cases login

/-- Whatever the guid set holds for a client session is the guid that the session
holds. -/
def ClientsOwn (v : Registry S) : Prop :=
  ∀ s, (v.core s).sessionType = SESSIONTYPE.CLIENT → ∀ g, v.guidSet g = some s →
    (v.core s).Holds (v.task s) ∧ (v.core s).guid = g

theorem ClientsOwn.set (h : v.ClientsOwn) {core : SessionCore} {task : RegTask}
    (one : core.sessionType = SESSIONTYPE.CLIENT → ∀ g, v.guidSet g = some s →
      core.Holds task ∧ core.guid = g) : (v.set s core task).ClientsOwn :=
  forall_set_of_ne (P := fun r core task => core.sessionType = SESSIONTYPE.CLIENT →
    ∀ g, v.guidSet g = some r → core.Holds task ∧ core.guid = g) (fun r _ => h r) one

/-- A client session goes on holding what it held. -/
theorem ClientsOwn.keep (h : v.ClientsOwn) {core : SessionCore} {task : RegTask}
    (kept : core.sessionType = SESSIONTYPE.CLIENT → (v.core s).sessionType = SESSIONTYPE.CLIENT ∧
      ((v.core s).Holds (v.task s) → core.Holds task ∧ core.guid = (v.core s).guid)) :
    (v.set s core task).ClientsOwn := by
  apply h.set
  intro client g owner
  obtain ⟨type, still⟩ := kept client
  obtain ⟨holds, rfl⟩ := h s type g owner
  exact still holds

/-- The removal of the guid of a session. -/
theorem ClientsOwn.remove (h : v.ClientsOwn) {task : RegTask} :
    ({ v with guidSet := Function.update v.guidSet (v.core s).guid none }.set s (v.core s)
      task).ClientsOwn := by
  intro r client g owner
  change Function.update v.guidSet (v.core s).guid none g = some r at owner
  have other : g ≠ (v.core s).guid := by
    rintro rfl
    rw [Function.update_self] at owner
    cases owner
  rw [Function.update_of_ne other] at owner
  by_cases eq : r = s
  · subst eq
    rw [core_set_self] at client
    exact absurd (h r client g owner).2 other.symm
  · rw [core_set_of_ne _ _ _ eq] at client ⊢
    rw [task_set_of_ne _ _ _ eq]
    exact h r client g owner

/-- The insertion of the guid of a session that held none. -/
theorem ClientsOwn.insert (h : v.ClientsOwn) {task : RegTask}
    (before : ¬ (v.core s).Holds (v.task s)) (after : (v.core s).Holds task) :
    ({ v with guidSet := Function.update v.guidSet (v.core s).guid (some s) }.set s (v.core s)
      task).ClientsOwn := by
  intro r client g owner
  change Function.update v.guidSet (v.core s).guid (some s) g = some r at owner
  by_cases same : g = (v.core s).guid
  · subst same
    rw [Function.update_self] at owner
    obtain rfl := Option.some.inj owner
    rw [core_set_self, task_set_self]
    exact ⟨after, rfl⟩
  · rw [Function.update_of_ne same] at owner
    by_cases eq : r = s
    · subst eq
      rw [core_set_self] at client
      exact absurd (h r client g owner).1 before
    · rw [core_set_of_ne _ _ _ eq] at client ⊢
      rw [task_set_of_ne _ _ _ eq]
      exact h r client g owner

theorem ClientsOwn.stopSession (h : v.ClientsOwn) {core : SessionCore} (idle : v.task s = .idle)
    (type : core.sessionType = (v.core s).sessionType) (guid : core.guid = (v.core s).guid)
    (logined : core.logined = (v.core s).logined) (started : core.started = (v.core s).started) :
    (v.stopSession s core).ClientsOwn := by
  change (v.set s core.beginStop _).ClientsOwn
  apply h.keep
  intro client
  refine ⟨type.symm.trans client, fun holds => ?_⟩
  rw [idle] at holds
  rw [if_pos (started.trans holds.2)]
  exact ⟨logined.trans holds.1, guid⟩

theorem Step.clientsOwn (step : Step v a v') (clean : v.StopsClean a) (consistent : v.Consistent)
    (servers : v.ServersOnly) (final : v.Final) (h : v.ClientsOwn) : v'.ClientsOwn := by
  cases step with
  | own s step =>
      apply h.keep
      intro client
      refine ⟨step.sessionType.symm.trans client, fun holds => ⟨?_, step.guid⟩⟩
      exact (SessionCore.holds_congr _ step.logined step.started).mpr holds
  | start counted =>
      obtain ⟨idle, fresh⟩ := (consistent _).fresh (by rw [counted]; trivial)
      apply h.keep
      intro client
      rw [fresh] at client
      have new : (0 : UInt32) = SESSIONTYPE.CLIENT := client
      exact absurd new (by decide)
  | timeoutStop idle fired => exact h.stopSession idle rfl rfl rfl rfl
  | readStop idle fails =>
      obtain ⟨_, read, rfl, _⟩ := fails
      exact h.stopSession idle rfl rfl rfl rfl
  | @stopAll s net side here =>
      apply h.keep
      intro client
      refine ⟨client, fun holds => ?_⟩
      rw [here] at holds
      cases side <;> exact ⟨holds, rfl⟩
  | removeGuid | undoGuid => exact h.remove
  | notLogined here logined =>
      apply h.keep
      intro client
      refine ⟨client, fun holds => ?_⟩
      rw [here] at holds
      exact absurd holds logined
  | delDb here | eraseMap here | guidTaken here | sessionClosed here =>
      refine ClientsOwn.keep (v := { v with .. }) h fun client => ⟨client, fun holds => ?_⟩
      have none : (v.core _).Holds (v.task _) := holds
      rw [here] at none
      exact none.elim
  | answer idle | proxy idle | proxyDone idle =>
      refine h.keep fun client => ⟨client, fun holds => ?_⟩
      rw [idle] at holds
      exact ⟨holds, rfl⟩
  | login idle decodes logined =>
      apply h.set
      intro client g owner
      exact absurd owner (clean _ decodes (Bool.eq_false_iff.mpr logined) client g)
  | insertGuid here =>
      refine h.insert ?_ trivial
      rw [here]
      exact fun holds => holds
  | @allocId s net here =>
      refine ClientsOwn.keep (v := { v with .. }) h fun client => ⟨client, fun _ => ⟨?_, rfl⟩⟩
      cases (v.core s).isServer <;> trivial
  | addSession here | addDb here | idTaken here | remoteEndpoint here =>
      exact ClientsOwn.keep (v := { v with .. }) h fun client => ⟨client, fun _ => ⟨trivial, rfl⟩⟩
  | @noRemoteEndpoint s net here =>
      apply h.keep
      intro client
      have server := servers s _ here trivial
      rw [SessionCore.isServer, client] at server
      cases server
  | @finish s net ok here =>
      refine h.keep fun client => ⟨client, fun holds => ⟨?_, rfl⟩⟩
      have started := (final s).login _ here
      rw [here] at holds
      cases ok with
      | true => exact ⟨rfl, started⟩
      | false => exact holds.elim
  | db step => exact h

/-- `stop` of the session has completed. -/
def Stopped (v : Registry S) (s : S) : Prop :=
  ¬ (v.core s).phase.Early ∧ (v.core s).started = false ∧ ∀ pc, v.task s ≠ .stop pc

theorem Stopped.set (h : v.Stopped s) {r : S} {core : SessionCore} {task : RegTask}
    (one : r = s → ¬ core.phase.Early ∧ core.started = false ∧ ∀ pc, task ≠ .stop pc) :
    (v.set r core task).Stopped s := by
  by_cases eq : s = r
  · subst eq
    rw [Stopped, core_set_self, task_set_self]
    exact one rfl
  · rw [Stopped, core_set_of_ne _ _ _ eq, task_set_of_ne _ _ _ eq]
    exact h

theorem Stopped.stopSession (h : v.Stopped s) {r : S} {core : SessionCore}
    (phase : core.phase = (v.core r).phase) (started : core.started = (v.core r).started) :
    (v.stopSession r core).Stopped s := by
  change (v.set r core.beginStop _).Stopped s
  apply h.set
  rintro rfl
  have stopped := started.trans h.2.1
  refine ⟨phase ▸ h.1, rfl, ?_⟩
  intro pc
  rw [stopped]
  exact RegTask.noConfusion

/-- A stopped session is not started again, and `stop` does nothing a second time. -/
theorem Step.stopped (step : Step v a v') (h : v.Stopped s) : v'.Stopped s := by
  obtain ⟨late, stopped, call⟩ := id h
  cases step with
  | own r step =>
      apply h.set
      rintro rfl
      exact ⟨step.late late, step.started.trans stopped, call⟩
  | @start r counted =>
      apply h.set
      rintro rfl
      exact absurd (show (v.core r).phase.Early by rw [counted]; trivial) late
  | timeoutStop => exact h.stopSession rfl rfl
  | readStop _ fails =>
      obtain ⟨_, read, rfl, _⟩ := fails
      exact h.stopSession rfl rfl
  | stopAll here | removeGuid here | notLogined here | delDb here | eraseMap here
  | sessionClosed here =>
      apply Stopped.set (v := { v with .. }) h
      rintro rfl
      exact absurd here (call _)
  | answer | proxy | proxyDone | login | insertGuid | guidTaken | allocId | addSession | idTaken
  | undoGuid | remoteEndpoint | noRemoteEndpoint | addDb | finish =>
      apply Stopped.set (v := { v with .. }) h
      rintro rfl
      exact ⟨late, stopped, fun pc => RegTask.noConfusion⟩
  | db => exact h

end Registry

/-- The handlers of a session. -/
def Action.Handles {S C : Type} (s : S) : Action S C → Prop
  | .onTimeout r => r = s
  | .onReadHead r => r = s
  | .onReadBody r => r = s
  | .run r _ => r = s
  | _ => False

namespace Registry

variable {S C : Type} [DecidableEq S] {v v' : Registry S} {s : S} {a : Action S C}

/-- Only the calls of a login enter a session anywhere. -/
theorem Step.adds_nothing (step : Step v a v') (other : ∀ pc, v.task s ≠ .login pc) :
    (∀ g, v'.guidSet g = some s → v.guidSet g = some s) ∧
      (∀ id, v'.ssMap id = some s → v.ssMap id = some s) ∧
      (a.Handles s → ∀ info, v'.ssDb ≠ v.ssDb.add info) := by
  have same : a.Handles s → ∀ info, v.ssDb ≠ v.ssDb.add info :=
    fun _ info => (v.ssDb.add_ne info).symm
  have ne : ∀ {r : S} {pc : LoginPc}, v.task r = .login pc → r ≠ s := by
    rintro r pc here rfl
    exact other pc here
  cases step with
  | insertGuid here => exact ⟨fun _ => old_of_insert (ne here), fun _ owner => owner, same⟩
  | addSession here => exact ⟨fun _ owner => owner, fun _ => old_of_insert (ne here), same⟩
  | removeGuid | undoGuid => exact ⟨fun _ => old_of_remove, fun _ owner => owner, same⟩
  | eraseMap => exact ⟨fun _ owner => owner, fun _ => old_of_remove, same⟩
  | delDb =>
      refine ⟨fun _ owner => owner, fun _ owner => owner, fun _ info => ?_⟩
      exact (v.ssDb.add_ne_del info _).symm
  | addDb here =>
      refine ⟨fun _ owner => owner, fun _ owner => owner, fun handles => ?_⟩
      exact absurd handles (ne here)
  | db => exact ⟨fun _ owner => owner, fun _ owner => owner, False.elim⟩
  | _ => exact ⟨fun _ owner => owner, fun _ owner => owner, same⟩

/-- In runs whose steps are clean, what `stop` leaves is final and clients own no
guid that they do not hold. -/
theorem final_of_reachable (reached : ((system (C := C)).restrict StopsClean).Reachable v) :
    v.Final ∧ v.ClientsOwn := by
  refine reached.invariant (I := fun v => v.Final ∧ v.ClientsOwn) ?_ ?_
  · rintro _ rfl
    refine ⟨final_new, ?_⟩
    intro s _ g owner
    cases owner
  · intro v a v' reached ⟨final, clients⟩ ⟨clean, step⟩
    have all := reached.of_restrict
    refine ⟨step.final clean final, ?_⟩
    exact step.clientsOwn clean (consistent_of_reachable all) (serversOnly_of_reachable all) final
      clients

end Registry

namespace Server

variable {S C : Type} [DecidableEq S] [DecidableEq C]

/-- `CSession::stop` of the session has completed. -/
def Stopped (st : Server S C) (s : S) : Prop := st.registry.Stopped s

omit [DecidableEq S] [DecidableEq C] in
theorem stopped_of_idle {st : Server S C} {s : S} (phase : (st.session s).phase = .live)
    (started : (st.session s).started = false) (call : st.task s = .idle) : st.Stopped s := by
  refine ⟨?_, started, ?_⟩
  · intro early
    rw [registry_core, phase] at early
    exact early
  · intro pc stop
    rw [registry_task, call] at stop
    cases stop

/-- No handler of the session is queued, and none is running. -/
def HandlersDone (st : Server S C) (s : S) : Prop :=
  st.idle s = true ∧ (st.session s).read.op = .none ∧ (st.session s).timer = .idle

/-- Nothing is entered on behalf of the session into the guid set or the session
map, and none of its handlers adds a record to the database. -/
def AddsNothing (st : Server S C) (a : Action S C) (st' : Server S C) (s : S) : Prop :=
  (∀ g, st'.guidSet g = some s → st.guidSet g = some s) ∧
    (∀ id, st'.ssMap id = some s → st.ssMap id = some s) ∧
    (a.Handles s → ∀ info, st'.ssDb ≠ st.ssDb.add info)

omit [DecidableEq S] [DecidableEq C] in
theorem AddsNothing.of_registry_eq {st st' : Server S C} {a : Action S C} {s : S}
    (same : st'.registry = st.registry) : AddsNothing st a st' s := by
  have guidSet : st'.guidSet = st.guidSet := congrArg Registry.guidSet same
  have ssMap : st'.ssMap = st.ssMap := congrArg Registry.ssMap same
  have ssDb : st'.ssDb = st.ssDb := congrArg Registry.ssDb same
  rw [AddsNothing, guidSet, ssMap, ssDb]
  exact ⟨fun _ owner => owner, fun _ owner => owner, fun _ info => (st.ssDb.add_ne info).symm⟩

/-- The session stays stopped, no later step enters it into a table, and when all
its handlers have run, no guid is held for a client. -/
structure StopIsFinal (cfg : Config) (st : Server S C) (s : S) : Prop where
  stays : ∀ a st', step cfg st a = some st' → st'.Stopped s
  addsNothing : ∀ a st', step cfg st a = some st' → AddsNothing st a st' s
  released : st.HandlersDone s → (st.session s).sessionType = SESSIONTYPE.CLIENT →
    ∀ g, st.guidSet g ≠ some s

/-- In every run in which no timer stops a session that has a login queued, and no
session that sends a client login holds a guid, stopping a session is final. -/
theorem stop_final (cfg : Config) {st : Server S C}
    (reached : ((system cfg).restrict fun st a => st.registry.StopsClean a).Reachable st) {s : S}
    (stopped : st.Stopped s) : StopIsFinal cfg st s := by
  have registry := (registry_mapping cfg).reachable_restrict (D := Registry.StopsClean) reached
  obtain ⟨final, clients⟩ := Registry.final_of_reachable registry
  have consistent := Registry.consistent_of_reachable registry.of_restrict
  have noLogin : ∀ pc, st.registry.task s ≠ .login pc := by
    intro pc login
    have started := (final s).login pc login
    rw [stopped.2.1] at started
    cases started
  have adds : ∀ a st', step cfg st a = some st' → AddsNothing st a st' s := by
    intro a st' run
    obtain same | abstract := step_registry run
    · exact .of_registry_eq same
    · exact abstract.adds_nothing noLogin
  refine ⟨?_, adds, ?_⟩
  · intro a st' run
    obtain same | abstract := step_registry run
    · rw [Stopped, same]
      exact stopped
    · exact abstract.stopped stopped
  · intro _ client g owner
    obtain ⟨holds, _⟩ := clients s client g owner
    cases call : st.registry.task s with
    | idle | proxy =>
        rw [call] at holds
        exact Bool.false_ne_true (stopped.2.1.symm.trans holds.2)
    | stop pc => exact stopped.2.2 pc call
    | login pc => exact noLogin pc call

/-- The login timer fires while the body of a login is being read, and its handler
runs before that of the body. The session is stopped, and then logs in. -/
def lateLogin : List (Action (Fin 1) (Fin 1)) :=
  accept 0 ++ [.deliver 0 (loginFrame [0x41] 1).1, .timerExpires 0, .onReadHead 0,
    .deliver 0 (loginFrame [0x41] 1).2, .onTimeout 0] ++ go 0 4 ++ [.onReadBody 0] ++ go 0 3

theorem stop_not_always_final :
    ¬ ∀ st : Server (Fin 1) (Fin 1), (system ⟨0, 0, 0⟩).Reachable st →
      ∀ s, st.Stopped s → StopIsFinal ⟨0, 0, 0⟩ st s := by
  intro final
  obtain ⟨st, reached, phase, started, call, read, timer, client, owner⟩ :=
    reachable_of_run ⟨0, 0, 0⟩ lateLogin (P := fun st =>
      (st.session 0).phase = .live ∧ (st.session 0).started = false ∧ st.task 0 = .idle ∧
        (st.session 0).read.op = .none ∧ (st.session 0).timer = .idle ∧
        (st.session 0).sessionType = SESSIONTYPE.CLIENT ∧ st.guidSet [0x41] = some 0)
      (by decide +kernel)
  have stopped : st.Stopped 0 := stopped_of_idle phase started call
  have done : st.HandlersDone 0 := ⟨by rw [idle, call], read, timer⟩
  exact (final st reached 0 stopped).released done client _ owner

/-- A connection is accepted, and the body of a client login arrives. -/
def clientLogin : List (Action (Fin 1) (Fin 1)) :=
  accept 0 ++ [.deliver 0 (loginFrame [0x41] 1).1, .onReadHead 0,
    .deliver 0 (loginFrame [0x41] 1).2]

/-- The steps of `clientLogin` are none that can stop a session or log it in. -/
def early (_ : Server (Fin 1) (Fin 1)) : Action (Fin 1) (Fin 1) → Bool
  | .acceptorTest _ _ | .acceptorCount _ | .acceptorStart _ | .deliver _ _ | .onReadHead _ => true
  | _ => false

theorem guidSet_of_early {st : Server (Fin 1) (Fin 1)}
    (reached : ((system ⟨0, 0, 0⟩).restrict fun st a => early st a = true).Reachable st)
    (g : Memory.Bytes) : st.guidSet g = none := by
  refine reached.invariant (I := fun st => st.guidSet g = none) ?_ ?_
  · rintro _ rfl
    rfl
  · rintro st a st' _ none ⟨early, run⟩
    cases a with
    | acceptorTest s ok =>
        obtain ⟨_, rfl⟩ := acceptorTest_eq_some run
        exact none
    | acceptorCount s =>
        obtain ⟨_, rfl⟩ := acceptorCount_eq_some run
        exact none
    | acceptorStart s =>
        obtain ⟨_, rfl⟩ := acceptorStart_eq_some run
        exact none
    | deliver s data =>
        obtain ⟨_, _, rfl⟩ := deliver_eq_some run
        exact none
    | onReadHead s =>
        obtain ⟨_, run⟩ := Option.ite_none_right_eq_some.mp run
        obtain ⟨_, _, stops, _, _, _, rfl⟩ := onReadHead_eq_some run
        cases stops <;> exact none
    | _ => cases early

/-- The login ends, the peer closes the connection, and the handler of the timer runs. -/
def closedLogin : List (Action (Fin 1) (Fin 1)) :=
  go 0 3 ++ [.readFails 0, .onReadHead 0] ++ go 0 6 ++ [.onTimeout 0]

/-- The timer has not expired, and no login is read. -/
def noExpiryNoLogin (st : Server (Fin 1) (Fin 1)) : Action (Fin 1) (Fin 1) → Bool
  | .onTimeout s => (st.session s).timer != .fired false
  | .onReadBody _ => false
  | _ => true

theorem stopsClean_of_noExpiryNoLogin (st : Server (Fin 1) (Fin 1)) (a : Action (Fin 1) (Fin 1))
    (tested : noExpiryNoLogin st a = true) : st.registry.StopsClean a := by
  cases a with
  | onTimeout s =>
      intro expired
      rw [registry_core] at expired
      simp [noExpiryNoLogin, expired] at tested
  | onReadBody s => cases tested
  | _ => trivial

theorem stop_final_closedLogin :
    ∃ st : Server (Fin 1) (Fin 1), (st.session 0).logined = true ∧
      (st.session 0).sessionType = SESSIONTYPE.CLIENT ∧ st.Stopped 0 ∧ st.HandlersDone 0 ∧
      StopIsFinal ⟨0, 0, 0⟩ st 0 := by
  obtain ⟨st₀, reached₀, st₁, handled, check⟩ := reachable_of_testedRun ⟨0, 0, 0⟩ clientLogin
    (fun st a (tested : early st a = true) => tested)
    (P := fun st₀ => ∃ st₁ ∈ step ⟨0, 0, 0⟩ st₀ (.onReadBody 0),
      ∃ st ∈ System.runSteps
        (fun st a => if noExpiryNoLogin st a then step ⟨0, 0, 0⟩ st a else none) st₁ closedLogin,
        (st.session 0).logined = true ∧ (st.session 0).sessionType = SESSIONTYPE.CLIENT ∧
          (st.session 0).phase = .live ∧ (st.session 0).started = false ∧ st.task 0 = .idle ∧
          (st.session 0).read.op = .none ∧ (st.session 0).timer = .idle)
    (by decide +kernel)
  -- the client holds no guid before its login
  have clean : st₀.registry.StopsClean (C := Fin 1) (.onReadBody 0) := by
    intro _ _ _ _ g owner
    cases (guidSet_of_early reached₀ g).symm.trans owner
  have before := reached₀.mono (N := (system ⟨0, 0, 0⟩).restrict fun st a =>
    st.registry.StopsClean a) (fun _ first => first) (by
      rintro st a st' ⟨tested, run⟩
      refine ⟨?_, run⟩
      cases a with
      | onTimeout | onReadBody => cases tested
      | _ => trivial)
  obtain ⟨st, reached, logined, client, phase, started, call, read, timer⟩ :=
    (before.next ⟨clean, handled⟩).testedSteps stopsClean_of_noExpiryNoLogin check
  have stopped : st.Stopped 0 := stopped_of_idle phase started call
  have done : st.HandlersDone 0 := ⟨by rw [idle, call], read, timer⟩
  exact ⟨st, logined, client, stopped, done, stop_final ⟨0, 0, 0⟩ reached stopped⟩

end Server

end NatProxy
