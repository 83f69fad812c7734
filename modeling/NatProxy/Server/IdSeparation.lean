import NatProxy.Db.Publication
import NatProxy.Server.Directories

/-!
# The ids of clients and of servers

The ids are the values of a 32-bit counter, and a client gets whatever the counter
is at. Only the entry of a server into the session map tests whether an id is in
use, so two servers never share an entry, and two clients have none. `Separate`
says that no client and no server keep the same id, which every step preserves that
does not allocate such an id.
-/

namespace NatProxy

open Transition

/-! ## Sessions that keep an id -/

namespace SessionCore

/-- The session has been given its id and may be running under it, or has still to
erase it. -/
def KeepsId (core : SessionCore) : RegTask → Prop
  | .login .insertGuid => False
  | .login .allocId => False
  | .login .undoGuid => False
  | .login (.finish false) => False
  | .login _ => True
  | .stop .sessionClosed => False
  | .stop _ => core.logined
  | _ => core.logined ∧ core.started

theorem KeepsId.numbered {core : SessionCore} {task : RegTask} (keeps : core.KeepsId task) :
    core.Numbered task := by
  cases task with
  | idle | proxy => exact keeps.1
  | stop pc =>
      cases pc with
      | delDb | eraseMap => trivial
      | sessionClosed => exact keeps.elim
      | _ => exact keeps
  | login pc =>
      cases pc with
      | finish ok =>
          cases ok with
          | true => trivial
          | false => exact keeps
      | insertGuid | allocId | undoGuid => exact keeps.elim
      | _ => trivial

theorem Mapped.keepsId {core : SessionCore} {task : RegTask} (mapped : core.Mapped task) :
    core.KeepsId task ∧ core.isServer = true := by
  cases task with
  | idle | proxy => exact ⟨mapped.2, mapped.1⟩
  | stop pc =>
      cases pc with
      | sessionClosed => exact mapped.elim
      | _ => exact ⟨mapped.2, mapped.1⟩
  | login pc =>
      cases pc with
      | remoteEndpoint => exact ⟨trivial, mapped⟩
      | addDb => exact ⟨trivial, mapped.1⟩
      | finish ok =>
          cases ok with
          | true => exact ⟨trivial, mapped.1⟩
          | false => exact mapped.elim
      | _ => exact mapped.elim

/-- A change of a session that keeps no id which it did not keep before. -/
structure Stays (core : SessionCore) (task : RegTask) (core' : SessionCore) (task' : RegTask) :
    Prop where
  keepsId : core'.KeepsId task' →
    core.KeepsId task ∧ core'.id = core.id ∧ core'.isServer = core.isServer
  mapped : core'.Mapped task' → core.Mapped task
  recorded : core.Recorded task → core'.Recorded task' ∧ core'.id = core.id

theorem Steady.stays {core core' : SessionCore} {task task' : RegTask}
    (steady : core.Steady task core' task')
    (keeps : core'.KeepsId task' → core.KeepsId task ∧ core'.isServer = core.isServer) :
    core.Stays task core' task' := by
  refine ⟨?_, steady.mapped.mp, ?_⟩
  · intro after
    obtain ⟨before, server⟩ := keeps after
    exact ⟨before, (steady.same before.numbered).1, server⟩
  · intro recorded
    exact ⟨steady.recorded.mpr recorded, (steady.same recorded.mapped.numbered).1⟩

theorem Stays.refl (core : SessionCore) (task : RegTask) : core.Stays task core task :=
  (Steady.refl core task).stays fun keeps => ⟨keeps, rfl⟩

/-- The members that decide about the id stay the same. -/
theorem Stays.of_eq {core core' : SessionCore} (task : RegTask)
    (logined : core'.logined = core.logined) (started : core'.started = core.started)
    (server : core'.isServer = core.isServer) (id : core'.id = core.id)
    (guid : core'.guid = core.guid) : core.Stays task core' task := by
  refine (Steady.of_eq task logined started server id guid).stays fun keeps => ⟨?_, server⟩
  cases task with
  | idle | proxy => simpa only [KeepsId, logined, started] using keeps
  | stop pc =>
      cases pc with
      | sessionClosed => exact keeps
      | _ => simpa only [KeepsId, logined] using keeps
  | login pc =>
      cases pc with
      | finish ok => cases ok <;> exact keeps
      | _ => exact keeps

/-- `CSession::stop` of an idle session. -/
theorem Stays.beginStop {core core' : SessionCore} (logined : core'.logined = core.logined)
    (started : core'.started = core.started) (server : core'.isServer = core.isServer)
    (id : core'.id = core.id) (guid : core'.guid = core.guid) :
    core.Stays .idle core'.beginStop (if core'.started then .stop (.stopAll .src) else .idle) := by
  refine (Steady.beginStop logined started server id guid).stays fun keeps => ⟨?_, server⟩
  split at keeps
  · next running => exact ⟨logined.symm.trans keeps, started.symm.trans running⟩
  · exact absurd keeps.2 Bool.false_ne_true

/-- A session without an id before and after. -/
theorem Stays.of_not {core core' : SessionCore} {task task' : RegTask}
    (before : ¬ core.Numbered task) (after : ¬ core'.Numbered task') :
    core.Stays task core' task' :=
  (Steady.of_not before after).stays fun keeps => absurd keeps.numbered after

/-- A login that fails after its id was allocated. -/
theorem Stays.fails {core : SessionCore} {task task' : RegTask}
    (before : ¬ core.Recorded task) (after : ¬ core.KeepsId task') :
    core.Stays task core task' where
  keepsId keeps := absurd keeps after
  mapped mapped := absurd mapped.keepsId.1 after
  recorded recorded := absurd recorded before

end SessionCore

namespace Registry

variable {S C : Type} [DecidableEq S] {v v' : Registry S} {s : S} {a : Action S C}

/-- The calls that erase by id are those of a session that is logged in. -/
def ClosesLogined (v : Registry S) : Prop :=
  ∀ s, v.task s = .stop .delDb ∨ v.task s = .stop .eraseMap → (v.core s).logined = true

theorem Step.closesLogined (step : Step v a v') (h : v.ClosesLogined) : v'.ClosesLogined := by
  have keep : ∀ {s core task}, (task = .stop .delDb ∨ task = .stop .eraseMap →
      core.logined = true) → (v.set s core task).ClosesLogined := fun one =>
    forall_set (P := fun core task => task = .stop .delDb ∨ task = .stop .eraseMap →
      core.logined = true) h one
  cases step with
  | own s step => exact keep fun closing => step.logined.trans (h s closing)
  | start => exact keep fun closing => h _ closing
  | timeoutStop | readStop | allocId =>
      apply keep
      rintro (closing | closing) <;> split at closing <;> cases closing
  | @stopAll s n side =>
      apply keep
      cases side <;> rintro (closing | closing) <;> cases closing
  | removeGuid here logined => exact keep fun _ => logined
  | delDb here => exact keep fun _ => h _ (.inl here)
  | db => exact h
  | _ =>
      apply keep
      rintro (closing | closing) <;> cases closing

theorem closesLogined_of_reachable (reached : (system (C := C)).Reachable v) :
    v.ClosesLogined := by
  refine reached.invariant (I := ClosesLogined) ?_ ?_
  · rintro _ rfl s (closing | closing) <;> cases closing
  · intro v a v' _ h step
    exact step.closesLogined h

/-! ## Clients and servers with different ids -/

/-- An id is allocated to a client while no server keeps it and no entry has it, and
to a server while no client keeps it. -/
def AllocatesFree (v : Registry S) : Action S C → Prop
  | .run s _ => v.task s = .login .allocId →
      (∀ r, r ≠ s → (v.core r).KeepsId (v.task r) → (v.core r).id = v.sessionId →
        (v.core r).isServer = (v.core s).isServer) ∧
      ((v.core s).isServer = false → v.ssMap v.sessionId = none)
  | _ => True

/-- Sessions of different kinds keep different ids; the entry under the id of a
session is its own if it is a server, and there is none if it is a client. -/
structure Separate (v : Registry S) : Prop where
  apart : ∀ s r, (v.core s).KeepsId (v.task s) → (v.core r).KeepsId (v.task r) →
    (v.core s).id = (v.core r).id → (v.core s).isServer = (v.core r).isServer
  server : ∀ s, (v.core s).Mapped (v.task s) → v.ssMap (v.core s).id = some s
  client : ∀ s, (v.core s).KeepsId (v.task s) → (v.core s).isServer = false →
    v.ssMap (v.core s).id = none
  recorded : ∀ id info, v.store.table id = some info →
    ∃ s, (v.core s).Recorded (v.task s) ∧ (v.core s).id = id
  keyed : v.store.table.Keyed

omit [DecidableEq S] in
/-- The kinds stay apart when no session keeps a new id. -/
theorem Separate.apart_of (h : v.Separate)
    (keepsId : ∀ r, (v'.core r).KeepsId (v'.task r) → (v.core r).KeepsId (v.task r) ∧
      (v'.core r).id = (v.core r).id ∧ (v'.core r).isServer = (v.core r).isServer)
    (s r : S) (keeps_s : (v'.core s).KeepsId (v'.task s))
    (keeps_r : (v'.core r).KeepsId (v'.task r)) (same : (v'.core s).id = (v'.core r).id) :
    (v'.core s).isServer = (v'.core r).isServer := by
  obtain ⟨was_s, id_s, server_s⟩ := keepsId s keeps_s
  obtain ⟨was_r, id_r, server_r⟩ := keepsId r keeps_r
  rw [id_s, id_r] at same
  rw [server_s, server_r]
  exact h.apart s r was_s was_r same

omit [DecidableEq S] in
/-- A step that leaves the tables as they are. -/
theorem Separate.keep (h : v.Separate)
    (stays : ∀ r, (v.core r).Stays (v.task r) (v'.core r) (v'.task r))
    (ssMap : v'.ssMap = v.ssMap) (store : v'.store = v.store) : v'.Separate := by
  refine ⟨h.apart_of fun r => (stays r).keepsId, ?_, ?_, ?_, store ▸ h.keyed⟩
  · intro s mapped
    have id := ((stays s).keepsId mapped.keepsId.1).2.1
    rw [ssMap, id]
    exact h.server s ((stays s).mapped mapped)
  · intro s keeps client
    obtain ⟨was, id, server⟩ := (stays s).keepsId keeps
    rw [ssMap, id]
    exact h.client s was (server.symm.trans client)
  · intro id info found
    rw [store] at found
    obtain ⟨s, recorded, rfl⟩ := h.recorded id info found
    exact ⟨s, (stays s).recorded recorded⟩

/-- One session changes and keeps no new id. -/
theorem stays_set {core : SessionCore} {task : RegTask}
    (one : (v.core s).Stays (v.task s) core task) (r : S) :
    (v.core r).Stays (v.task r) ((v.set s core task).core r) ((v.set s core task).task r) :=
  forall_set_of_ne (P := fun r => (v.core r).Stays (v.task r)) (fun _ _ => .refl _ _) one r

/-- The kinds stay apart when a session goes on under its id. -/
theorem Separate.apart_set (h : v.Separate) {task : RegTask}
    (keeps : (v.core s).KeepsId task → (v.core s).KeepsId (v.task s)) :
    ∀ r q, ((v.set s (v.core s) task).core r).KeepsId ((v.set s (v.core s) task).task r) →
      ((v.set s (v.core s) task).core q).KeepsId ((v.set s (v.core s) task).task q) →
      ((v.set s (v.core s) task).core r).id = ((v.set s (v.core s) task).core q).id →
      ((v.set s (v.core s) task).core r).isServer =
        ((v.set s (v.core s) task).core q).isServer := by
  apply h.apart_of
  exact forall_set_of_ne (P := fun r core task => core.KeepsId task →
    (v.core r).KeepsId (v.task r) ∧ core.id = (v.core r).id ∧ core.isServer = (v.core r).isServer)
    (fun _ _ keeps => ⟨keeps, rfl, rfl⟩) fun after => ⟨keeps after, rfl, rfl⟩

/-- A session goes on under its id and leaves the map as it is. -/
theorem Separate.entries_set (h : v.Separate) {task : RegTask}
    (keeps : (v.core s).KeepsId (v.task s))
    (mapped : (v.core s).Mapped task → (v.core s).Mapped (v.task s)) :
    (∀ r, ((v.set s (v.core s) task).core r).Mapped ((v.set s (v.core s) task).task r) →
      v.ssMap ((v.set s (v.core s) task).core r).id = some r) ∧
    ∀ r, ((v.set s (v.core s) task).core r).KeepsId ((v.set s (v.core s) task).task r) →
      ((v.set s (v.core s) task).core r).isServer = false →
      v.ssMap ((v.set s (v.core s) task).core r).id = none := by
  constructor
  · exact forall_set_of_ne (P := fun r core task => core.Mapped task → v.ssMap core.id = some r)
      (fun r _ => h.server r) fun after => h.server s (mapped after)
  · exact forall_set_of_ne (P := fun _ core task => core.KeepsId task → core.isServer = false →
      v.ssMap core.id = none) (fun r _ => h.client r) fun _ => h.client s keeps

/-- The records of the other sessions. -/
theorem recorded_set {core : SessionCore} {task : RegTask} {id : UInt32}
    (was : ∃ r, r ≠ s ∧ (v.core r).Recorded (v.task r) ∧ (v.core r).id = id) :
    ∃ r, ((v.set s core task).core r).Recorded ((v.set s core task).task r) ∧
      ((v.set s core task).core r).id = id := by
  obtain ⟨r, ne, recorded⟩ := was
  refine ⟨r, ?_⟩
  rwa [core_set_of_ne _ _ _ ne, task_set_of_ne _ _ _ ne]

omit [DecidableEq S] in
/-- A record belongs to another session than one that has none. -/
theorem Separate.recorded_of_ne (h : v.Separate) (none : ¬ (v.core s).Recorded (v.task s))
    {id : UInt32} {info : SSessionInfo} (found : v.store.table id = some info) :
    ∃ r, r ≠ s ∧ (v.core r).Recorded (v.task r) ∧ (v.core r).id = id := by
  obtain ⟨r, recorded, at_id⟩ := h.recorded id info found
  refine ⟨r, ?_, recorded, at_id⟩
  rintro rfl
  exact none recorded

/-- A session is given an id that no session of the other kind keeps. -/
theorem Separate.allocId (h : v.Separate) {n : Net C} (here : v.task s = .login .allocId)
    (free : v.AllocatesFree (.run s n)) :
    ({ v with sessionId := v.sessionId + 1 }.set s { v.core s with id := v.sessionId }
      (.login (if (v.core s).isServer then .addSession else .finish true))).Separate := by
  obtain ⟨others, unlisted⟩ := free here
  generalize taskEq : RegTask.login (if (v.core s).isServer then .addSession else .finish true) =
    task
  generalize coreEq : ({ v.core s with id := v.sessionId } : SessionCore) = core
  have id : core.id = v.sessionId := by rw [← coreEq]
  have server : core.isServer = (v.core s).isServer := by
    rw [← coreEq]
    rfl
  have unmapped : ¬ core.Mapped task := by
    rw [← taskEq]
    split
    · exact fun mapped => mapped
    · next client => exact fun mapped => client (server.symm.trans mapped.1)
  have unrecorded : ¬ (v.core s).Recorded (v.task s) := by
    rw [here]
    exact fun recorded => recorded
  refine ⟨?_, ?_, ?_, ?_, h.keyed⟩
  · have was := forall_set_of_ne (v := { v with .. }) (s := s)
      (P := fun r core' task' => core'.KeepsId task' →
        r = s ∧ core'.id = v.sessionId ∧ core'.isServer = (v.core s).isServer ∨
          r ≠ s ∧ (v.core r).KeepsId (v.task r) ∧ core'.id = (v.core r).id ∧
            core'.isServer = (v.core r).isServer)
      (fun r ne keeps => .inr ⟨ne, keeps, rfl, rfl⟩)
      fun (_ : core.KeepsId task) => .inl ⟨rfl, id, server⟩
    intro r q keeps_r keeps_q same
    obtain ⟨eq_r, id_r, server_r⟩ | ⟨ne_r, keeps_r, id_r, server_r⟩ := was r keeps_r <;>
      obtain ⟨eq_q, id_q, server_q⟩ | ⟨ne_q, keeps_q, id_q, server_q⟩ := was q keeps_q
    · exact server_r.trans server_q.symm
    · have used : (v.core q).id = v.sessionId := id_q.symm.trans (same.symm.trans id_r)
      exact server_r.trans ((others q ne_q keeps_q used).symm.trans server_q.symm)
    · have used : (v.core r).id = v.sessionId := id_r.symm.trans (same.trans id_q)
      exact server_r.trans ((others r ne_r keeps_r used).trans server_q.symm)
    · have shared : (v.core r).id = (v.core q).id := id_r.symm.trans (same.trans id_q)
      exact server_r.trans ((h.apart r q keeps_r keeps_q shared).trans server_q.symm)
  · exact forall_set_of_ne (v := { v with .. }) (P := fun r core task =>
      core.Mapped task → v.ssMap core.id = some r) (fun r _ => h.server r)
      fun mapped => absurd mapped unmapped
  · refine forall_set_of_ne (v := { v with .. }) (P := fun _ core task =>
      core.KeepsId task → core.isServer = false → v.ssMap core.id = none) (fun r _ => h.client r) ?_
    intro _ client
    rw [id]
    exact unlisted (server.symm.trans client)
  · intro key info found
    exact recorded_set (v := { v with .. }) (h.recorded_of_ne unrecorded found)

/-- `addSessionWithLock` enters a server under an id without an entry. -/
theorem Separate.addSession (h : v.Separate) (server : (v.core s).isServer = true)
    (here : v.task s = .login .addSession) (free : v.ssMap (v.core s).id = none) :
    ({ v with ssMap := Function.update v.ssMap (v.core s).id (some s) }.set s (v.core s)
      (.login .remoteEndpoint)).Separate := by
  have keeps : (v.core s).KeepsId (v.task s) := by
    rw [here]
    trivial
  have unrecorded : ¬ (v.core s).Recorded (v.task s) := by
    rw [here]
    exact fun recorded => recorded
  refine ⟨h.apart_set fun _ => keeps, ?_, ?_, ?_, h.keyed⟩
  · refine forall_set_of_ne (v := { v with .. }) (P := fun r core task => core.Mapped task →
      Function.update v.ssMap (v.core s).id (some s) core.id = some r) ?_
      fun _ => Function.update_self _ _ _
    intro r _ mapped
    have entry := h.server r mapped
    rw [Function.update_of_ne, entry]
    intro same
    rw [same, free] at entry
    cases entry
  · refine forall_set_of_ne (v := { v with .. }) (P := fun _ core task => core.KeepsId task →
      core.isServer = false → Function.update v.ssMap (v.core s).id (some s) core.id = none) ?_ ?_
    · intro r _ keeps_r client
      rw [Function.update_of_ne, h.client r keeps_r client]
      intro same
      rw [h.apart r s keeps_r keeps same, server] at client
      cases client
    · intro _ client
      rw [server] at client
      cases client
  · intro key info found
    exact recorded_set (v := { v with .. }) (h.recorded_of_ne unrecorded found)

omit [DecidableEq S] in
/-- Nobody else has the entry under an id that a session is about to erase. -/
theorem Separate.entry_of_keepsId (h : v.Separate) (keeps : (v.core s).KeepsId (v.task s))
    (mapped : (v.core s).isServer = true → (v.core s).Mapped (v.task s)) {r : S} (ne : r ≠ s) :
    v.ssMap (v.core s).id ≠ some r := by
  intro entry
  cases server : (v.core s).isServer with
  | true =>
      have own := h.server s (mapped server)
      exact ne (Option.some.inj (entry.symm.trans own))
  | false =>
      rw [h.client s keeps server] at entry
      cases entry

/-- `closeSessionWithLock` erases the entry of a session, if it has one. -/
theorem Separate.eraseMap (h : v.Separate) (here : v.task s = .stop .eraseMap)
    (logined : (v.core s).logined = true) :
    ({ v with ssMap := Function.update v.ssMap (v.core s).id none }.set s (v.core s)
      (.stop .sessionClosed)).Separate := by
  have entry : ∀ r, r ≠ s → v.ssMap (v.core s).id ≠ some r := by
    intro r ne
    refine h.entry_of_keepsId ?_ ?_ ne <;> rw [here]
    · exact logined
    · exact fun server => ⟨server, logined⟩
  have unrecorded : ¬ (v.core s).Recorded (v.task s) := by
    rw [here]
    exact fun recorded => recorded
  refine ⟨h.apart_set False.elim, ?_, ?_, ?_, h.keyed⟩
  · refine forall_set_of_ne (v := { v with .. }) (P := fun r core task => core.Mapped task →
      Function.update v.ssMap (v.core s).id none core.id = some r) ?_ False.elim
    intro r ne mapped
    have own := h.server r mapped
    rw [Function.update_of_ne, own]
    intro same
    rw [same] at own
    exact entry r ne own
  · refine forall_set_of_ne (v := { v with .. }) (P := fun _ core task => core.KeepsId task →
      core.isServer = false → Function.update v.ssMap (v.core s).id none core.id = none) ?_
      False.elim
    intro r _ keeps client
    rw [Function.update_apply]
    split
    · rfl
    · exact h.client r keeps client
  · intro key info found
    exact recorded_set (v := { v with .. }) (h.recorded_of_ne unrecorded found)

omit [DecidableEq S] in
/-- The store after an `ADD` or a `DEL` is enqueued. -/
theorem Separate.operate (h : v.Separate) (op : OperationItem) :
    (v.store.operate op).table = v.store.table.apply op ∧ (v.store.operate op).table.Keyed := by
  rw [DbStore.table_operate h.keyed]
  exact ⟨rfl, h.keyed.apply op⟩

/-- `CSessionDb::del` removes the record of a session, if it has one. -/
theorem Separate.delDb (h : v.Separate) (here : v.task s = .stop .delDb)
    (logined : (v.core s).logined = true) :
    ({ v with ssDb := v.ssDb.del (v.core s).id }.set s (v.core s) (.stop .eraseMap)).Separate := by
  obtain ⟨keeps, mapped⟩ : (v.core s).KeepsId (v.task s) ∧
      ((v.core s).Mapped (.stop .eraseMap) → (v.core s).Mapped (v.task s)) := by
    rw [here]
    exact ⟨logined, fun mapped => mapped⟩
  obtain ⟨table, keyed⟩ := h.operate (.del (v.core s).id)
  obtain ⟨servers, clients⟩ := h.entries_set keeps mapped
  refine ⟨h.apart_set fun _ => keeps, servers, clients, ?_, by rwa [store_del]⟩
  intro key info found
  rw [store_del, table, Table.apply, Function.update_apply] at found
  split at found
  · cases found
  · next ne =>
      obtain ⟨r, recorded, rfl⟩ := h.recorded key info found
      exact recorded_set (v := { v with .. }) ⟨r, fun same => ne (same ▸ rfl), recorded, rfl⟩

/-- `CSessionDb::add` records a server. -/
theorem Separate.addDb (h : v.Separate) {addr : UInt32} (server : (v.core s).isServer = true)
    (started : (v.core s).started = true) (here : v.task s = .login (.addDb addr)) :
    ({ v with ssDb := v.ssDb.add (v.record s addr) }.set s (v.core s)
      (.login (.finish true))).Separate := by
  obtain ⟨keeps, mapped, unrecorded⟩ : (v.core s).KeepsId (v.task s) ∧
      (v.core s).Mapped (v.task s) ∧ ¬ (v.core s).Recorded (v.task s) := by
    rw [here]
    exact ⟨trivial, ⟨server, started⟩, fun recorded => recorded⟩
  obtain ⟨table, keyed⟩ := h.operate (.add (v.record s addr))
  obtain ⟨servers, clients⟩ := h.entries_set keeps fun _ => mapped
  refine ⟨h.apart_set fun _ => keeps, servers, clients, ?_, by rwa [store_add]⟩
  intro key info found
  rw [store_add, table, Table.apply] at found
  by_cases new : key = (v.core s).id
  · exact ⟨s, by simpa using ⟨server, started⟩, by simp [new]⟩
  · have old : v.store.table key = some info := by
      split at found
      · exact (Function.update_of_ne new _ _).symm.trans found
      · exact found
    exact recorded_set (v := { v with .. }) (h.recorded_of_ne unrecorded old)

/-- Every step keeps the sessions of different kinds separate. -/
theorem Step.separate (step : Step v a v') (consistent : v.Consistent) (servers : v.ServersOnly)
    (opened : v.OpenStarted) (adding : v.AddStarted) (closing : v.ClosesLogined)
    (free : v.AllocatesFree a) (h : v.Separate) : v'.Separate := by
  have keep : ∀ {guidSet s before core task}, v.task s = before →
      (v.core s).Stays before core task → ({ v with guidSet }.set s core task).Separate := by
    rintro _ s _ core task rfl one
    exact h.keep (stays_set (v := { v with .. }) one) rfl rfl
  cases step with
  | own s step =>
      exact keep rfl (.of_eq _ step.logined step.started step.isServer step.id step.guid)
  | start counted =>
      obtain ⟨idle, fresh⟩ := (consistent _).fresh (by rw [counted]; trivial)
      refine keep idle (.of_not ?_ ?_)
      · rw [fresh]
        exact Bool.false_ne_true
      · rw [idle, fresh]
        exact Bool.false_ne_true
  | timeoutStop idle => exact keep idle (.beginStop rfl rfl rfl rfl rfl)
  | readStop idle fails =>
      obtain ⟨_, read, rfl, _⟩ := fails
      exact keep idle (.beginStop rfl rfl rfl rfl rfl)
  | @stopAll s n side here =>
      cases side <;>
      · refine keep here (SessionCore.Steady.stays (.of_iff Iff.rfl Iff.rfl ?_) ?_)
        · exact fun numbered => numbered
        · exact fun keeps => ⟨keeps, rfl⟩
  | removeGuid here logined =>
      exact keep here (SessionCore.Steady.stays (.of_iff Iff.rfl Iff.rfl fun _ => logined)
        fun keeps => ⟨keeps, rfl⟩)
  | notLogined here logined => exact keep here (.of_not logined logined)
  | delDb here => exact h.delDb here (closing _ (.inl here))
  | eraseMap here => exact h.eraseMap here (closing _ (.inr here))
  | sessionClosed here =>
      have stopped := (consistent _).stopped _ here
      refine keep here ⟨?_, ?_, False.elim⟩
      · rintro ⟨_, started⟩
        rw [stopped] at started
        cases started
      · rintro ⟨_, _, started⟩
        rw [stopped] at started
        cases started
  | answer here | proxy here | proxyDone here =>
      refine keep here (SessionCore.Steady.stays ⟨Iff.rfl, Iff.rfl, ?_, fun _ => ⟨rfl, rfl⟩⟩ ?_)
      · exact fun numbered => numbered
      · exact fun keeps => ⟨keeps, rfl⟩
  | login idle decodes logined => exact keep idle (.of_not logined fun numbered => numbered)
  | insertGuid here | guidTaken here =>
      exact keep here (.of_not (fun numbered => numbered) fun numbered => numbered)
  | @allocId s n here => exact h.allocId here free
  | addSession here unused => exact h.addSession (servers _ _ here trivial) here unused
  | idTaken here | noRemoteEndpoint here | undoGuid here =>
      exact keep here (.fails (fun recorded => recorded) fun keeps => keeps)
  | remoteEndpoint here ok =>
      refine keep here (SessionCore.Steady.stays (.of_iff ?_ Iff.rfl fun numbered => numbered)
        fun _ => ⟨trivial, rfl⟩)
      have started := (opened _ ok.1).resolve_right (by simp [here])
      exact ⟨And.left, fun server => ⟨server, started⟩⟩
  | addDb here => exact h.addDb (servers _ _ here trivial) (adding _ _ here) here
  | @finish s n ok here =>
      cases ok with
      | true =>
          refine keep here ⟨fun _ => ⟨trivial, rfl, rfl⟩, ?_, ?_⟩
          · rintro ⟨server, _, started⟩
            exact ⟨server, started⟩
          · rintro ⟨server, started⟩
            exact ⟨⟨server, rfl, started⟩, rfl⟩
      | false => exact keep here (.of_not (fun numbered => numbered) Bool.false_ne_true)
  | db step => exact h.keep (fun _ => .refl _ _) rfl (CSessionDb.settled_step step)

omit [DecidableEq S] in
theorem separate_new : (new : Registry S).Separate := by
  refine ⟨?_, ?_, ?_, ?_, ?_⟩
  · intro s _ keeps
    exact absurd keeps.1 Bool.false_ne_true
  · intro s mapped
    exact absurd mapped.2.1 Bool.false_ne_true
  · intro s keeps
    exact absurd keeps.1 Bool.false_ne_true
  · intro id info found
    cases found
  · intro id info found
    cases found

theorem separate_of_reachable
    (reached : ((system (C := C)).restrict AllocatesFree).Reachable v) : v.Separate := by
  refine reached.invariant (I := Separate) ?_ ?_
  · rintro _ rfl
    exact separate_new
  · rintro v a v' before h ⟨free, step⟩
    have reached := before.of_restrict
    exact step.separate (consistent_of_reachable reached) (serversOnly_of_reachable reached)
      (openStarted_of_reachable reached) (addStarted_of_reachable reached)
      (closesLogined_of_reachable reached) free h

omit [DecidableEq S] in
/-- Under the id of a session that closes, a session that is not closing has no record. -/
theorem Separate.unrecorded (h : v.Separate) {r : S} (here : v.task s = .stop .delDb)
    (logined : (v.core s).logined = true) (keeps : (v.core r).KeepsId (v.task r))
    (mapped : (v.core r).isServer = true → (v.core r).Mapped (v.task r)) (ne : r ≠ s)
    (same : (v.core r).id = (v.core s).id) : v.store.table (v.core s).id = none := by
  by_contra found
  obtain ⟨info, found⟩ := Option.ne_none_iff_exists'.mp found
  obtain ⟨q, recorded, at_id⟩ := h.recorded _ info found
  have keeps_s : (v.core s).KeepsId (v.task s) := by
    rw [here]
    exact logined
  obtain ⟨keeps_q, server_q⟩ := recorded.mapped.keepsId
  have server_s := (h.apart q s keeps_q keeps_s at_id).symm.trans server_q
  have server_r := (h.apart r s keeps keeps_s same).trans server_s
  have entry := h.server r (mapped server_r)
  rw [same] at entry
  refine h.entry_of_keepsId keeps_s ?_ ne entry
  rw [here]
  exact fun server => ⟨server, logined⟩

end Registry

end NatProxy
