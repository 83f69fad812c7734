import NatProxy.Server.RedisMirror

/-!
# The two directories

The session map is updated under its mutex, the session database through its
queue. A login enters a server into the map first and enqueues the `ADD` of its
record later; a close enqueues the `DEL` first and erases the entry later, and
does both for clients as well, which were never entered. `Directory` follows a
session through its login and its close and says in which of its calls it has an
entry, and in which it has a record in the settled store.

What makes the erasures harmless is that no two sessions have one id. The ids
are numbered by the allocations, so this holds while the counter has not wrapped.
-/

namespace NatProxy

open Transition

/-! ## Tables of the members of a set -/

/-- The table has an entry for each member, under the key of the member, and no
other entries. -/
structure Lists {κ β S : Type} (table : κ → Option β) (member : S → Prop) (key : S → κ)
    (rel : S → β → Prop) : Prop where
  found : ∀ s, member s → ∃ b, table (key s) = some b ∧ rel s b
  only : ∀ k b, table k = some b → ∃ s, member s ∧ key s = k

namespace Lists

variable {κ β S : Type} {table : κ → Option β} {member member' : S → Prop} {key key' : S → κ}
  {rel rel' : S → β → Prop} {s : S}

theorem congr (h : Lists table member key rel) (same : ∀ r, member' r ↔ member r)
    (keys : ∀ r, member r → key' r = key r) (rels : ∀ r b, member r → rel r b → rel' r b) :
    Lists table member' key' rel' := by
  constructor
  · intro r isMember
    have was := (same r).mp isMember
    obtain ⟨b, found, related⟩ := h.found r was
    exact ⟨b, (keys r was).symm ▸ found, rels r b was related⟩
  · intro k b found
    obtain ⟨r, was, rfl⟩ := h.only k b found
    exact ⟨r, (same r).mpr was, keys r was⟩

theorem insert [DecidableEq κ] (h : Lists table member key rel) {b : β}
    (fresh : ∀ r, member r → key r ≠ key s) (related : rel s b) :
    Lists (Function.update table (key s) (some b)) (fun r => r = s ∨ member r) key rel := by
  constructor
  · rintro r (rfl | was)
    · exact ⟨b, Function.update_self _ _ _, related⟩
    · rw [Function.update_of_ne (fresh r was)]
      exact h.found r was
  · intro k other found
    by_cases eq : k = key s
    · exact ⟨s, .inl rfl, eq.symm⟩
    · rw [Function.update_of_ne eq] at found
      obtain ⟨r, was, at_k⟩ := h.only k other found
      exact ⟨r, .inr was, at_k⟩

/-- An erasure by `s`, which need not be a member itself. -/
theorem erase [DecidableEq κ] (h : Lists table member key rel)
    (others : ∀ r, member r → r ≠ s → key r ≠ key s) :
    Lists (Function.update table (key s) none) (fun r => r ≠ s ∧ member r) key rel := by
  constructor
  · rintro r ⟨ne, was⟩
    rw [Function.update_of_ne (others r was ne)]
    exact h.found r was
  · intro k b found
    have ne : k ≠ key s := by
      rintro rfl
      rw [Function.update_self] at found
      cases found
    rw [Function.update_of_ne ne] at found
    obtain ⟨r, was, rfl⟩ := h.only k b found
    refine ⟨r, ⟨?_, was⟩, rfl⟩
    rintro rfl
    exact ne rfl

end Lists

/-! ## Members of the directories -/

namespace SessionCore

/-- The login of the session has passed the allocation of its id. -/
def Numbered (core : SessionCore) : RegTask → Prop
  | .login .insertGuid => False
  | .login .allocId => False
  | .login (.finish false) => False
  | .login _ => True
  | .stop .delDb => True
  | .stop .eraseMap => True
  | _ => core.logined

/-- The session has an entry in the session map. -/
def Mapped (core : SessionCore) : RegTask → Prop
  | .login .remoteEndpoint => core.isServer
  | .login (.addDb _) => core.isServer ∧ core.started
  | .login (.finish true) => core.isServer ∧ core.started
  | .login _ => False
  | .stop .sessionClosed => False
  | .stop _ => core.isServer ∧ core.logined
  | _ => core.isServer ∧ core.logined ∧ core.started

/-- The session has a record in the settled store. -/
def Recorded (core : SessionCore) : RegTask → Prop
  | .login (.finish true) => core.isServer ∧ core.started
  | .login _ => False
  | .stop .eraseMap => False
  | .stop .sessionClosed => False
  | .stop _ => core.isServer ∧ core.logined
  | _ => core.isServer ∧ core.logined ∧ core.started

theorem Mapped.numbered {core : SessionCore} {task : RegTask} (mapped : core.Mapped task) :
    core.Numbered task := by
  cases task with
  | idle | proxy => exact mapped.2.1
  | stop pc =>
      cases pc with
      | delDb | eraseMap => trivial
      | sessionClosed => exact mapped.elim
      | _ => exact mapped.2
  | login pc =>
      cases pc with
      | finish ok =>
          cases ok with
          | true => trivial
          | false => exact mapped
      | insertGuid | allocId => exact mapped
      | _ => trivial

theorem Recorded.mapped {core : SessionCore} {task : RegTask} (recorded : core.Recorded task) :
    core.Mapped task := by
  cases task with
  | idle | proxy => exact recorded
  | stop pc =>
      cases pc with
      | eraseMap => exact recorded.elim
      | _ => exact recorded
  | login pc =>
      cases pc with
      | finish ok => cases ok <;> exact recorded
      | _ => exact recorded.elim

/-- The socket of a session that has been used is open only while it is started. -/
def OpenStarted (core : SessionCore) (task : RegTask) : Prop :=
  core.isOpen = true → core.started = true ∨
    task = .idle ∧ core.read.op = .none ∧ core.timer = .idle

/-- The record is that of the session. -/
def Describes (core : SessionCore) (info : SSessionInfo) : Prop :=
  info.uiId = core.id ∧ info.sGuid = core.guid

/-- A change of a session that leaves its entries as they are. -/
structure Steady (core : SessionCore) (task : RegTask) (core' : SessionCore) (task' : RegTask) :
    Prop where
  mapped : core'.Mapped task' ↔ core.Mapped task
  recorded : core'.Recorded task' ↔ core.Recorded task
  numbered : core'.Numbered task' → core.Numbered task
  same : core.Numbered task → core'.id = core.id ∧ core'.guid = core.guid

theorem Steady.refl (core : SessionCore) (task : RegTask) : core.Steady task core task :=
  ⟨Iff.rfl, Iff.rfl, fun numbered => numbered, fun _ => ⟨rfl, rfl⟩⟩

/-- Only the call of the session goes on. -/
theorem Steady.of_iff {core : SessionCore} {task task' : RegTask}
    (mapped : core.Mapped task' ↔ core.Mapped task)
    (recorded : core.Recorded task' ↔ core.Recorded task)
    (numbered : core.Numbered task' → core.Numbered task) : core.Steady task core task' :=
  ⟨mapped, recorded, numbered, fun _ => ⟨rfl, rfl⟩⟩

/-- The members that decide about the entries stay the same. -/
theorem Steady.of_eq {core core' : SessionCore} (task : RegTask)
    (logined : core'.logined = core.logined) (started : core'.started = core.started)
    (server : core'.isServer = core.isServer) (id : core'.id = core.id)
    (guid : core'.guid = core.guid) : core.Steady task core' task := by
  refine ⟨?_, ?_, ?_, fun _ => ⟨id, guid⟩⟩
  · unfold Mapped
    rw [server, logined, started]
  · unfold Recorded
    rw [server, logined, started]
  · intro numbered
    unfold Numbered at numbered
    rw [logined] at numbered
    exact numbered

/-- `CSession::stop` of an idle session, with the members that its handler left. -/
theorem Steady.beginStop {core core' : SessionCore} (logined : core'.logined = core.logined)
    (started : core'.started = core.started) (server : core'.isServer = core.isServer)
    (id : core'.id = core.id) (guid : core'.guid = core.guid) :
    core.Steady .idle core'.beginStop
      (if core'.started then .stop (.stopAll .src) else .idle) := by
  have stopped : core'.beginStop.isServer = core.isServer := server
  by_cases running : core.started
  · rw [if_pos (started.trans running)]
    refine ⟨?_, ?_, ?_, fun _ => ⟨id, guid⟩⟩
    · show core'.beginStop.isServer ∧ core'.logined ↔
        core.isServer ∧ core.logined ∧ core.started
      simp only [stopped, logined, running, and_true]
    · show core'.beginStop.isServer ∧ core'.logined ↔
        core.isServer ∧ core.logined ∧ core.started
      simp only [stopped, logined, running, and_true]
    · intro numbered
      exact logined.symm.trans numbered
  · rw [started, if_neg running]
    refine ⟨?_, ?_, ?_, fun _ => ⟨id, guid⟩⟩
    · exact iff_of_false (fun mapped => Bool.false_ne_true mapped.2.2)
        fun mapped => running mapped.2.2
    · exact iff_of_false (fun recorded => Bool.false_ne_true recorded.2.2)
        fun recorded => running recorded.2.2
    · intro numbered
      exact logined.symm.trans numbered

/-- A session without an id of its own before and after. -/
theorem Steady.of_not {core core' : SessionCore} {task task' : RegTask}
    (before : ¬ core.Numbered task) (after : ¬ core'.Numbered task') :
    core.Steady task core' task' where
  mapped := iff_of_false (fun mapped => after mapped.numbered) fun mapped => before mapped.numbered
  recorded := iff_of_false (fun recorded => after recorded.mapped.numbered)
    fun recorded => before recorded.mapped.numbered
  numbered numbered := absurd numbered after
  same numbered := absurd numbered before

end SessionCore

namespace Registry

variable {S C : Type} [DecidableEq S] {v v' : Registry S} {s : S} {a : Action S C} {k : Nat}

/-- An id is about to be allocated. -/
def Allocates (v : Registry S) (a : Action S C) : Prop :=
  ∃ s n, a = .run s n ∧ v.task s = .login .allocId

/-- `remote_endpoint` succeeds for a login that reaches it. -/
def RemoteEndpointSucceeds (v : Registry S) : Action S C → Prop
  | .run s n => v.task s = .login .remoteEndpoint → (v.core s).isOpen ∧ n.ok
  | _ => True

/-! ## Open sockets -/

/-- The open sockets belong to started sessions. -/
def OpenStarted (v : Registry S) : Prop := ∀ s, (v.core s).OpenStarted (v.task s)

/-- The session has been used. -/
theorem OpenStarted.call (h : v.OpenStarted) {core : SessionCore} {task : RegTask}
    (used : v.task s ≠ .idle ∨ (v.core s).read.op ≠ .none ∨ (v.core s).timer ≠ .idle)
    (isOpen : core.isOpen = (v.core s).isOpen) (started : core.started = (v.core s).started) :
    (v.set s core task).OpenStarted := by
  refine forall_set h ?_
  intro opened
  rw [isOpen] at opened
  obtain running | ⟨idle, noRead, noTimer⟩ := h s opened
  · exact .inl (started.trans running)
  · tauto

theorem OpenStarted.stopSession (h : v.OpenStarted) {core : SessionCore} :
    (v.stopSession s core).OpenStarted :=
  forall_set h Bool.noConfusion

theorem Step.openStarted (step : Step v a v') (h : v.OpenStarted) : v'.OpenStarted := by
  cases step with
  | own s step =>
      cases step with
      | tested | counted | destroyed => exact forall_set h (h s)
      | timerExpires armed => exact h.call (by simp [armed]) rfl rfl
      | timerAborted fired => exact h.call (by simp [fired]) rfl rfl
      | deliver delivered =>
          refine h.call (.inr (.inl ?_)) rfl rfl
          intro none
          simp [ReadLoop.deliver, none] at delivered
      | readFails =>
          by_cases none : (v.core s).read.op = .none
          · have same : (v.core s).read.fail = (v.core s).read := by
              rw [ReadLoop.fail, none]
            rw [same]
            exact forall_set h (h s)
          · exact h.call (.inr (.inl none)) rfl rfl
      | onReadHead done => exact h.call (by simp [done]) rfl rfl
  | start => exact forall_set h fun _ => .inl rfl
  | timeoutStop | readStop => exact h.stopSession
  | answer idle read =>
      obtain ⟨bytes, done⟩ := read
      exact h.call (by simp [done]) rfl rfl
  | proxy idle decodes | login idle decodes =>
      obtain ⟨⟨bytes, done⟩, _⟩ := decodes
      exact h.call (by simp [done]) rfl rfl
  | stopAll here | notLogined here | sessionClosed here | proxyDone here | guidTaken here
  | idTaken here | remoteEndpoint here | noRemoteEndpoint here | finish here =>
      exact h.call (by simp [here]) rfl rfl
  | removeGuid here | delDb here | eraseMap here | insertGuid here | allocId here
  | addSession here | undoGuid here | addDb here =>
      exact OpenStarted.call (v := { v with .. }) h (by simp [here]) rfl rfl
  | db => exact h

theorem openStarted_of_reachable (reached : (system (C := C)).Reachable v) : v.OpenStarted := by
  refine reached.invariant (I := OpenStarted) ?_ ?_
  · rintro _ rfl s _
    exact .inr ⟨rfl, rfl, rfl⟩
  · intro v a v' _ h step
    exact step.openStarted h

/-- A session that is about to add its record is started. -/
def AddStarted (v : Registry S) : Prop :=
  ∀ s addr, v.task s = .login (.addDb addr) → (v.core s).started = true

theorem Step.addStarted (step : Step v a v') (opened : v.OpenStarted) (h : v.AddStarted) :
    v'.AddStarted := by
  have keep : ∀ {s core task}, (∀ addr, task = .login (.addDb addr) → core.started = true) →
      (v.set s core task).AddStarted := fun one =>
    forall_set (P := fun core task => ∀ addr, task = .login (.addDb addr) → core.started = true)
      h one
  cases step with
  | own s step => exact keep fun addr login => step.started.trans (h s addr login)
  | start => exact keep fun _ _ => rfl
  | timeoutStop | readStop =>
      apply keep
      intro addr login
      split at login <;> cases login
  | allocId =>
      apply keep
      intro addr login
      split at login <;> cases login
  | remoteEndpoint here ok =>
      apply keep
      intro _ _
      refine (opened _ ok.1).resolve_right ?_
      simp [here]
  | db => exact h
  | _ =>
      apply keep
      intro addr login
      cases login

theorem addStarted_of_reachable (reached : (system (C := C)).Reachable v) : v.AddStarted := by
  refine reached.invariant (I := AddStarted) ?_ ?_
  · rintro _ rfl s addr login
    cases login
  · intro v a v' reached h step
    exact step.addStarted (openStarted_of_reachable reached) h

/-! ## Steps of the directory -/

/-- The registry after `k` allocations of ids. -/
structure Directory (v : Registry S) (k : Nat) : Prop where
  next : v.sessionId = UInt32.ofNat (1000 + k)
  given : ∀ s, (v.core s).Numbered (v.task s) → ∃ j < k, (v.core s).id = UInt32.ofNat (1000 + j)
  distinct : ∀ s r, (v.core s).Numbered (v.task s) → (v.core r).Numbered (v.task r) →
    (v.core s).id = (v.core r).id → s = r
  mapped : Lists v.ssMap (fun s => (v.core s).Mapped (v.task s)) (fun s => (v.core s).id)
    fun s owner => owner = s
  recorded : Lists (fun id => v.store.db.lookup id)
    (fun s => (v.core s).Recorded (v.task s)) (fun s => (v.core s).id)
    fun s info => (v.core s).Describes info

omit [DecidableEq S] in
/-- A step that leaves all entries as they are. -/
theorem Directory.keep (h : v.Directory k)
    (steady : ∀ r, (v.core r).Steady (v.task r) (v'.core r) (v'.task r))
    (ssMap : v'.ssMap = v.ssMap) (store : v'.store = v.store)
    (sessionId : v'.sessionId = v.sessionId) : v'.Directory k := by
  have same : ∀ r, (v'.core r).Numbered (v'.task r) →
      (v.core r).Numbered (v.task r) ∧ (v'.core r).id = (v.core r).id := by
    intro r numbered
    have was := (steady r).numbered numbered
    exact ⟨was, ((steady r).same was).1⟩
  refine ⟨sessionId.trans h.next, ?_, ?_, ?_, ?_⟩
  · intro r numbered
    obtain ⟨was, id⟩ := same r numbered
    rw [id]
    exact h.given r was
  · intro r q numbered_r numbered_q eq
    obtain ⟨was_r, id_r⟩ := same r numbered_r
    obtain ⟨was_q, id_q⟩ := same q numbered_q
    rw [id_r, id_q] at eq
    exact h.distinct r q was_r was_q eq
  · rw [ssMap]
    refine h.mapped.congr (fun r => (steady r).mapped) ?_ fun r owner _ eq => eq
    intro r was
    exact ((steady r).same was.numbered).1
  · rw [store]
    refine h.recorded.congr (fun r => (steady r).recorded) ?_ ?_
    · intro r was
      exact ((steady r).same was.mapped.numbered).1
    · intro r info was ⟨id, guid⟩
      have same := (steady r).same was.mapped.numbered
      exact ⟨id.trans same.1.symm, guid.trans same.2.symm⟩

/-- One session changes, and its entries stay as they are. -/
theorem steady_set {core : SessionCore} {task : RegTask}
    (one : (v.core s).Steady (v.task s) core task) (r : S) :
    (v.core r).Steady (v.task r) ((v.set s core task).core r) ((v.set s core task).task r) :=
  forall_set_of_ne (P := fun r => (v.core r).Steady (v.task r)) (fun _ _ => .refl _ _) one r

/-- Of the ids of the first `2 ^ 32` allocations no two are the same. -/
theorem id_ne {j : Nat} (before : j < k) (few : k < 2 ^ 32) :
    UInt32.ofNat (1000 + j) ≠ UInt32.ofNat (1000 + k) := by
  intro same
  have same := congrArg UInt32.toNat same
  simp only [UInt32.toNat_ofNat'] at same
  omega

/-- A table of the sessions with `P`, after a change of one session. -/
theorem lists_set {β : Type} {table : UInt32 → Option β} {member : S → Prop}
    {P : SessionCore → RegTask → Prop} {R : S → SessionCore → β → Prop} {core : SessionCore}
    {task : RegTask}
    (h : Lists table member (fun r => (v.core r).id) fun r b => R r (v.core r) b)
    (others : ∀ r, r ≠ s → (P (v.core r) (v.task r) ↔ member r)) (one : P core task ↔ member s)
    (same : member s → core.id = (v.core s).id ∧ ∀ b, R s (v.core s) b → R s core b) :
    Lists table (fun r => P ((v.set s core task).core r) ((v.set s core task).task r))
      (fun r => ((v.set s core task).core r).id) fun r b => R r ((v.set s core task).core r) b := by
  refine h.congr ?_ ?_ ?_
  · exact forall_set_of_ne (P := fun r core task => P core task ↔ member r) others one
  · exact forall_set_of_ne (P := fun r core _ => member r → core.id = (v.core r).id)
      (fun _ _ _ => rfl) fun was => (same was).1
  · intro r b
    exact forall_set_of_ne (P := fun r core _ => member r → R r (v.core r) b → R r core b)
      (fun _ _ _ related => related) (fun was => (same was).2 b) r

/-- The ids after a step of a session that keeps its id. -/
theorem Directory.ids (h : v.Directory k) (s : S) (core : SessionCore) (task : RegTask)
    (numbered : core.Numbered task → (v.core s).Numbered (v.task s))
    (id : core.id = (v.core s).id) :
    (∀ r, ((v.set s core task).core r).Numbered ((v.set s core task).task r) →
      ∃ j < k, ((v.set s core task).core r).id = UInt32.ofNat (1000 + j)) ∧
    ∀ r q, ((v.set s core task).core r).Numbered ((v.set s core task).task r) →
      ((v.set s core task).core q).Numbered ((v.set s core task).task q) →
      ((v.set s core task).core r).id = ((v.set s core task).core q).id → r = q := by
  have was : ∀ r, (((v.set s core task).core r).Numbered ((v.set s core task).task r) →
      (v.core r).Numbered (v.task r)) ∧ ((v.set s core task).core r).id = (v.core r).id :=
    forall_set_of_ne (P := fun r core task =>
      (core.Numbered task → (v.core r).Numbered (v.task r)) ∧ core.id = (v.core r).id)
      (fun _ _ => ⟨fun numbered => numbered, rfl⟩) ⟨numbered, id⟩
  constructor
  · intro r after
    rw [(was r).2]
    exact h.given r ((was r).1 after)
  · intro r q after_r after_q same
    rw [(was r).2, (was q).2] at same
    exact h.distinct r q ((was r).1 after_r) ((was q).1 after_q) same

theorem Directory.allocId (h : v.Directory k) (few : k < 2 ^ 32)
    (here : v.task s = .login .allocId) :
    ({ v with sessionId := v.sessionId + 1 }.set s { v.core s with id := v.sessionId }
      (.login (if (v.core s).isServer then .addSession else .finish true))).Directory (k + 1) := by
  have unmapped : ¬ ({ v.core s with id := v.sessionId } : SessionCore).Mapped
      (.login (if (v.core s).isServer then .addSession else .finish true)) := by
    split
    · exact fun mapped => mapped
    · next client => exact fun mapped => client mapped.1
  have wasUnmapped : ¬ (v.core s).Mapped (v.task s) := by
    rw [here]
    exact fun mapped => mapped
  have was : ∀ r core task, ((v.set s core task).core r).Numbered ((v.set s core task).task r) →
      r = s ∧ ((v.set s core task).core r).id = core.id ∨
        (v.core r).Numbered (v.task r) ∧ ((v.set s core task).core r).id = (v.core r).id := by
    intro r core task
    exact forall_set_of_ne (P := fun r core' task' => core'.Numbered task' →
      r = s ∧ core'.id = core.id ∨ (v.core r).Numbered (v.task r) ∧ core'.id = (v.core r).id)
      (fun _ _ numbered => .inr ⟨numbered, rfl⟩) (fun _ => .inl ⟨rfl, rfl⟩) r
  have fresh : ∀ r, (v.core r).Numbered (v.task r) → (v.core r).id ≠ v.sessionId := by
    intro r numbered
    obtain ⟨j, lt, id⟩ := h.given r numbered
    rw [id, h.next]
    exact id_ne lt few
  refine ⟨?_, ?_, ?_, ?_, ?_⟩
  · change v.sessionId + 1 = _
    rw [h.next, ← Nat.add_assoc, UInt32.ofNat_add _ 1]
    rfl
  · intro r numbered
    obtain ⟨_, id⟩ | ⟨numbered, id⟩ := was r _ _ numbered
    · exact ⟨k, Nat.lt_succ_self k, id.trans h.next⟩
    · obtain ⟨j, lt, given⟩ := h.given r numbered
      exact ⟨j, Nat.lt_succ_of_lt lt, id.trans given⟩
  · intro r q numbered_r numbered_q same
    obtain ⟨eq_r, id_r⟩ | ⟨old_r, id_r⟩ := was r _ _ numbered_r <;>
      obtain ⟨eq_q, id_q⟩ | ⟨old_q, id_q⟩ := was q _ _ numbered_q
    · exact eq_r.trans eq_q.symm
    · exact absurd (id_q.symm.trans (same.symm.trans id_r)) (fresh q old_q)
    · exact absurd (id_r.symm.trans (same.trans id_q)) (fresh r old_r)
    · exact h.distinct r q old_r old_q (id_r.symm.trans (same.trans id_q))
  · exact lists_set (v := { v with .. }) (P := SessionCore.Mapped)
      (R := fun r _ owner => owner = r) h.mapped (fun r _ => Iff.rfl)
      (iff_of_false unmapped wasUnmapped) (fun mapped => absurd mapped wasUnmapped)
  · exact lists_set (v := { v with .. })
      (P := SessionCore.Recorded) (R := fun _ => SessionCore.Describes) h.recorded
      (fun r _ => Iff.rfl)
      (iff_of_false (fun recorded => unmapped recorded.mapped)
        fun recorded => wasUnmapped recorded.mapped)
      (fun recorded => absurd recorded.mapped wasUnmapped)

/-- `addSessionWithLock` enters the session into the map. -/
theorem Directory.addSession (h : v.Directory k) (server : (v.core s).isServer)
    (here : v.task s = .login .addSession) :
    ({ v with ssMap := Function.update v.ssMap (v.core s).id (some s) }.set s (v.core s)
      (.login .remoteEndpoint)).Directory k := by
  have numbered : (v.core s).Numbered (v.task s) := by
    rw [here]
    trivial
  have wasUnmapped : ¬ (v.core s).Mapped (v.task s) := by
    rw [here]
    exact fun mapped => mapped
  have wasUnrecorded : ¬ (v.core s).Recorded (v.task s) :=
    fun recorded => wasUnmapped recorded.mapped
  obtain ⟨given, distinct⟩ := h.ids s (v.core s) (.login .remoteEndpoint) (fun _ => numbered) rfl
  refine ⟨h.next, given, distinct, ?_, ?_⟩
  · have fresh : ∀ r, (v.core r).Mapped (v.task r) → (v.core r).id ≠ (v.core s).id := by
      intro r mapped same
      obtain rfl := h.distinct r s mapped.numbered numbered same
      exact wasUnmapped mapped
    refine lists_set (v := { v with .. }) (P := SessionCore.Mapped)
      (R := fun r _ owner => owner = r) (h.mapped.insert fresh rfl) ?_
      (iff_of_true server (.inl rfl)) (fun _ => ⟨rfl, fun _ eq => eq⟩)
    intro r ne
    exact ⟨.inr, fun mapped => mapped.resolve_left ne⟩
  · exact lists_set (v := { v with .. })
      (P := SessionCore.Recorded) (R := fun _ => SessionCore.Describes) h.recorded
      (fun r _ => Iff.rfl) (iff_of_false (fun recorded => recorded) wasUnrecorded)
      (fun _ => ⟨rfl, fun _ same => same⟩)

/-- `CSessionDb::add` records the session. -/
theorem Directory.addDb (h : v.Directory k) {addr : UInt32} (server : (v.core s).isServer)
    (started : (v.core s).started) (here : v.task s = .login (.addDb addr)) :
    ({ v with ssDb := v.ssDb.add (v.record s addr) }.set s (v.core s)
      (.login (.finish true))).Directory k := by
  have mapped : (v.core s).Mapped (v.task s) := by
    rw [here]
    exact ⟨server, started⟩
  have wasUnrecorded : ¬ (v.core s).Recorded (v.task s) := by
    rw [here]
    exact fun recorded => recorded
  have fresh : ∀ r, (v.core r).Recorded (v.task r) → (v.core r).id ≠ (v.core s).id := by
    intro r recorded same
    obtain rfl := h.distinct r s recorded.mapped.numbered mapped.numbered same
    exact wasUnrecorded recorded
  have newId : v.store.db.lookup (v.record s addr).uiId = none := by
    by_contra found
    obtain ⟨info, found⟩ := Option.ne_none_iff_exists'.mp found
    obtain ⟨r, recorded, same⟩ := h.recorded.only _ info found
    exact fresh r recorded same
  have table : (fun id => (v.store.operate (.add (v.record s addr))).db.lookup id) =
      Function.update (fun id => v.store.db.lookup id) (v.core s).id (some (v.record s addr)) := by
    funext id
    rw [DbStore.lookup_add newId, Function.update_apply]
    rfl
  obtain ⟨given, distinct⟩ := h.ids s (v.core s) (.login (.finish true))
    (fun _ => mapped.numbered) rfl
  refine ⟨h.next, given, distinct, ?_, ?_⟩
  · exact lists_set (v := { v with .. }) (P := SessionCore.Mapped)
      (R := fun r _ owner => owner = r) h.mapped (fun r _ => Iff.rfl)
      (iff_of_true ⟨server, started⟩ mapped) (fun _ => ⟨rfl, fun _ eq => eq⟩)
  · rw [store_add, table]
    refine lists_set (v := { v with .. }) (P := SessionCore.Recorded)
      (R := fun _ => SessionCore.Describes) (h.recorded.insert fresh ⟨rfl, rfl⟩) ?_
      (iff_of_true ⟨server, started⟩ (.inl rfl)) (fun _ => ⟨rfl, fun _ same => same⟩)
    intro r ne
    exact ⟨.inr, fun recorded => recorded.resolve_left ne⟩

/-- `CSessionDb::del` removes the record of the session, if it has one. -/
theorem Directory.delDb (h : v.Directory k) (here : v.task s = .stop .delDb) :
    ({ v with ssDb := v.ssDb.del (v.core s).id }.set s (v.core s)
      (.stop .eraseMap)).Directory k := by
  have numbered : (v.core s).Numbered (v.task s) := by
    rw [here]
    trivial
  have others : ∀ r, (v.core r).Recorded (v.task r) → r ≠ s → (v.core r).id ≠ (v.core s).id := by
    intro r recorded ne same
    exact ne (h.distinct r s recorded.mapped.numbered numbered same)
  have stored : ∀ info, v.store.db.lookup (v.core s).id = some info →
      info.uiId = (v.core s).id := by
    intro info found
    obtain ⟨r, recorded, same⟩ := h.recorded.only _ info found
    obtain ⟨other, found', describes⟩ := h.recorded.found r recorded
    change (v.core r).id = (v.core s).id at same
    rw [same] at found'
    obtain rfl := Option.some.inj (found.symm.trans found')
    exact describes.1.trans same
  have table : (fun id => (v.store.operate (.del (v.core s).id)).db.lookup id) =
      Function.update (fun id => v.store.db.lookup id) (v.core s).id none := by
    funext id
    rw [DbStore.lookup_del stored, Function.update_apply]
  obtain ⟨given, distinct⟩ := h.ids s (v.core s) (.stop .eraseMap) (fun _ => numbered) rfl
  refine ⟨h.next, given, distinct, ?_, ?_⟩
  · refine lists_set (v := { v with .. }) (P := SessionCore.Mapped)
      (R := fun r _ owner => owner = r) h.mapped (fun r _ => Iff.rfl) ?_
      (fun _ => ⟨rfl, fun _ eq => eq⟩)
    rw [here]
    rfl
  · rw [store_del, table]
    refine lists_set (v := { v with .. }) (P := SessionCore.Recorded)
      (R := fun _ => SessionCore.Describes) (h.recorded.erase others) ?_
      (iff_of_false (fun recorded => recorded) fun recorded => recorded.1 rfl)
      (fun _ => ⟨rfl, fun _ same => same⟩)
    intro r ne
    exact ⟨fun recorded => ⟨ne, recorded⟩, fun recorded => recorded.2⟩

/-- `closeSessionWithLock` erases the entry of the session, if it has one. -/
theorem Directory.eraseMap (h : v.Directory k) (here : v.task s = .stop .eraseMap) :
    ({ v with ssMap := Function.update v.ssMap (v.core s).id none }.set s (v.core s)
      (.stop .sessionClosed)).Directory k := by
  have numbered : (v.core s).Numbered (v.task s) := by
    rw [here]
    trivial
  have others : ∀ r, (v.core r).Mapped (v.task r) → r ≠ s → (v.core r).id ≠ (v.core s).id := by
    intro r mapped ne same
    exact ne (h.distinct r s mapped.numbered numbered same)
  obtain ⟨given, distinct⟩ := h.ids s (v.core s) (.stop .sessionClosed) (fun _ => numbered) rfl
  refine ⟨h.next, given, distinct, ?_, ?_⟩
  · refine lists_set (v := { v with .. }) (P := SessionCore.Mapped)
      (R := fun r _ owner => owner = r) (h.mapped.erase others) ?_
      (iff_of_false (fun mapped => mapped) fun mapped => mapped.1 rfl)
      (fun _ => ⟨rfl, fun _ eq => eq⟩)
    intro r ne
    exact ⟨fun mapped => ⟨ne, mapped⟩, fun mapped => mapped.2⟩
  · refine lists_set (v := { v with .. }) (P := SessionCore.Recorded)
      (R := fun _ => SessionCore.Describes) h.recorded (fun r _ => Iff.rfl) ?_
      (fun _ => ⟨rfl, fun _ same => same⟩)
    rw [here]
    rfl

/-- Every step keeps the directory, and counts the ids. -/
theorem Step.directory (step : Step v a v') (consistent : v.Consistent) (servers : v.ServersOnly)
    (opened : v.OpenStarted) (adding : v.AddStarted) (succeeds : v.RemoteEndpointSucceeds a)
    (few : k < 2 ^ 32) (h : v.Directory k) :
    v'.Directory k ∨ v.Allocates a ∧ v'.Directory (k + 1) := by
  have keep : ∀ {guidSet s before core task}, v.task s = before →
      (v.core s).Steady before core task →
      ({ v with guidSet }.set s core task).Directory k ∨
        v.Allocates a ∧ ({ v with guidSet }.set s core task).Directory (k + 1) := by
    rintro _ s _ core task rfl one
    exact .inl (h.keep (steady_set (v := { v with .. }) one) rfl rfl rfl)
  cases step with
  | own s step =>
      exact keep rfl (.of_eq _ step.logined step.started step.isServer step.id step.guid)
  | start counted =>
      obtain ⟨idle, fresh⟩ := (consistent _).fresh (by rw [counted]; trivial)
      refine keep idle (.of_not ?_ ?_)
      · rw [fresh]
        exact Bool.false_ne_true
      · rw [idle, fresh]
        exact Bool.false_ne_true
  | timeoutStop idle => exact keep idle (.beginStop rfl rfl rfl rfl rfl)
  | readStop idle fails =>
      obtain ⟨_, read, rfl, _⟩ := fails
      exact keep idle (.beginStop rfl rfl rfl rfl rfl)
  | @stopAll s n side here =>
      cases side <;> exact keep here (.of_iff Iff.rfl Iff.rfl fun numbered => numbered)
  | removeGuid here logined => exact keep here (.of_iff Iff.rfl Iff.rfl fun _ => logined)
  | notLogined here logined => exact keep here (.of_not logined logined)
  | delDb here => exact .inl (h.delDb here)
  | eraseMap here => exact .inl (h.eraseMap here)
  | sessionClosed here =>
      have stopped := (consistent _).stopped _ here
      refine keep here (.of_iff (iff_of_false ?_ fun mapped => mapped)
        (iff_of_false ?_ fun recorded => recorded) fun numbered => numbered) <;>
      · rintro ⟨_, _, started⟩
        rw [stopped] at started
        cases started
  | answer here | proxy here | proxyDone here =>
      exact keep here ⟨Iff.rfl, Iff.rfl, fun numbered => numbered, fun _ => ⟨rfl, rfl⟩⟩
  | login idle decodes logined => exact keep idle (.of_not logined fun numbered => numbered)
  | insertGuid here | guidTaken here =>
      exact keep here (.of_not (fun numbered => numbered) fun numbered => numbered)
  | allocId here => exact .inr ⟨⟨_, _, rfl, here⟩, h.allocId few here⟩
  | addSession here free => exact .inl (h.addSession (servers _ _ here trivial) here)
  | idTaken here taken =>
      -- the owner of the id would be the session itself, which has not been entered
      obtain ⟨owner, entered⟩ := Option.ne_none_iff_exists'.mp taken
      obtain ⟨r, mapped, same⟩ := h.mapped.only _ owner entered
      obtain rfl := h.distinct _ _ mapped.numbered (by rw [here]; trivial) same
      rw [here] at mapped
      exact mapped.elim
  | undoGuid here => exact keep here (.of_iff Iff.rfl Iff.rfl fun _ => trivial)
  | remoteEndpoint here ok =>
      have started := (opened _ ok.1).resolve_right (by simp [here])
      refine keep here (.of_iff ?_ Iff.rfl fun numbered => numbered)
      exact ⟨And.left, fun server => ⟨server, started⟩⟩
  | noRemoteEndpoint here failed => exact absurd (succeeds here) failed
  | addDb here => exact .inl (h.addDb (servers _ _ here trivial) (adding _ _ here) here)
  | @finish s n ok here =>
      cases ok with
      | true =>
          refine keep here ⟨?_, ?_, fun _ => trivial, fun _ => ⟨rfl, rfl⟩⟩ <;>
          · constructor
            · rintro ⟨server, _, started⟩
              exact ⟨server, started⟩
            · rintro ⟨server, started⟩
              exact ⟨server, rfl, started⟩
      | false => exact keep here (.of_not (fun numbered => numbered) Bool.false_ne_true)
  | db step =>
      exact .inl (h.keep (fun _ => .refl _ _) rfl (CSessionDb.settled_step step) rfl)

omit [DecidableEq S] in
theorem directory_new : (new : Registry S).Directory 0 := by
  refine ⟨rfl, ?_, ?_, ⟨?_, ?_⟩, ⟨?_, ?_⟩⟩
  · intro s numbered
    exact absurd numbered Bool.false_ne_true
  · intro s r numbered
    exact absurd numbered Bool.false_ne_true
  · intro s mapped
    exact absurd mapped.2.1 Bool.false_ne_true
  · intro id owner entered
    cases entered
  · intro s recorded
    exact absurd recorded.2.1 Bool.false_ne_true
  · intro id info found
    cases found

end Registry

namespace Server

variable {S C : Type} [DecidableEq S] [DecidableEq C]

/-- A login or a close of the session is under way. -/
def LoginOrClose (st : Server S C) (s : S) : Prop :=
  (∃ header pc, st.task s = .login header pc) ∨ ∃ pc, st.task s = .stop pc

/-- The allocations of session ids in a step. -/
def allocations (st : Server S C) : Action S C → List S
  | .run s _ => if st.registry.task s = .login .allocId then [s] else []
  | _ => []

/-- An allocation moves the counter, which is why it is counted. -/
theorem allocations_eq {cfg : Config} {st st' : Server S C} {a : Action S C}
    (run : step cfg st a = some st') :
    st.registry.Allocates a ∧ (st.allocations a).length = 1 ∧
        st'.sessionId = st.sessionId + 1 ∨
      ¬ st.registry.Allocates a ∧ (st.allocations a).length = 0 := by
  by_cases allocates : st.registry.Allocates a
  · obtain ⟨s, n, rfl, here⟩ := allocates
    refine .inl ⟨⟨s, n, rfl, here⟩, ?_, ?_⟩
    · rw [allocations, if_pos here, List.length_singleton]
    · rw [registry_task] at here
      cases call : st.task s with
      | idle | stop | proxy => simp [call] at here
      | login header pc =>
          rw [call, Task.registry, RegTask.login.injEq] at here
          subst here
          simp only [step, call] at run
          obtain rfl := Option.some.inj run
          rfl
  · refine .inr ⟨allocates, ?_⟩
    cases a with
    | run s n =>
        rw [allocations, if_neg, List.length_nil]
        exact fun here => allocates ⟨s, n, rfl, here⟩
    | _ => rfl

/-- The directory in a run in which `remote_endpoint` succeeds. -/
theorem directory_of_reachable (cfg : Config) {st : Server S C} {log : List S}
    (reached : (((system cfg).restrict fun st a =>
      st.registry.RemoteEndpointSucceeds a).logged allocations).Reachable (st, log))
    (few : log.length < 2 ^ 32) : st.registry.Directory log.length := by
  refine System.Reachable.log_invariant (I := fun st log =>
    log.length < 2 ^ 32 → st.registry.Directory log.length) ?_ ?_ reached few
  · rintro _ rfl _
    exact Registry.directory_new
  · intro st a st' log before ih step few
    rw [List.length_append] at few ⊢
    have h := ih (by omega)
    have registry := (registry_mapping cfg).reachable before.of_restrict
    have unequal : st.sessionId ≠ st.sessionId + 1 := by simp
    obtain same | registryStep := step_registry step.2
    · obtain ⟨_, _, next⟩ | ⟨_, zero⟩ := allocations_eq step.2
      · have kept : st'.sessionId = st.sessionId := congrArg Registry.sessionId same
        exact absurd (kept.symm.trans next) unequal
      · rw [same, zero]
        exact h
    · obtain kept | ⟨allocates, allocated⟩ := registryStep.directory
        (Registry.consistent_of_reachable registry) (Registry.serversOnly_of_reachable registry)
        (Registry.openStarted_of_reachable registry) (Registry.addStarted_of_reachable registry)
        step.1 (by omega) h
      · obtain ⟨_, _, next⟩ | ⟨_, zero⟩ := allocations_eq step.2
        · exact absurd ((h.next.trans kept.next.symm).trans next) unequal
        · rw [zero]
          exact kept
      · obtain ⟨_, one, _⟩ | ⟨other, _⟩ := allocations_eq step.2
        · rw [one]
          exact allocated
        · exact absurd allocates other

/-- While fewer than `2 ^ 32` ids have been allocated and `remote_endpoint` has
succeeded for every login that reached it, the two directories agree whenever no
login and no close is under way: the pending operations lead to a table with the
ids of the session map, and with the guids of the sessions in the map, which are
running and logged in. -/
theorem directories_agree (cfg : Config) {st : Server S C} {log : List S}
    (reached : (((system cfg).restrict fun st a =>
      st.registry.RemoteEndpointSucceeds a).logged allocations).Reachable (st, log))
    (few : log.length < 2 ^ 32) (quiet : ∀ s, ¬ st.LoginOrClose s) (id : UInt32) :
    (id ∈ st.ssDb.settled.db ↔ st.ssMap id ≠ none) ∧
      ∀ s info, st.ssMap id = some s → st.ssDb.settled.db.lookup id = some info →
        st.Running s ∧ info.sGuid = (st.session s).guid := by
  have h := directory_of_reachable cfg reached few
  have same : ∀ s, (st.registry.core s).Mapped (st.registry.task s) ↔
      (st.registry.core s).Recorded (st.registry.task s) := by
    intro s
    rw [registry_task]
    cases call : st.task s with
    | idle | proxy => rfl
    | stop pc => exact absurd (.inr ⟨pc, call⟩) (quiet s)
    | login header pc => exact absurd (.inl ⟨header, pc, call⟩) (quiet s)
  constructor
  · constructor
    · intro listed
      obtain ⟨info, found⟩ := Option.isSome_iff_exists.mp (AList.lookup_isSome.mpr listed)
      obtain ⟨s, recorded, rfl⟩ := h.recorded.only id info found
      obtain ⟨owner, entered, _⟩ := h.mapped.found s recorded.mapped
      exact Option.ne_none_iff_exists'.mpr ⟨owner, entered⟩
    · intro entered
      obtain ⟨owner, entered⟩ := Option.ne_none_iff_exists'.mp entered
      obtain ⟨s, mapped, rfl⟩ := h.mapped.only id owner entered
      obtain ⟨info, found, _⟩ := h.recorded.found s ((same s).mp mapped)
      exact AList.lookup_isSome.mp (Option.isSome_iff_exists.mpr ⟨info, found⟩)
  · intro s info entered found
    obtain ⟨r, mapped, rfl⟩ := h.mapped.only id s entered
    obtain ⟨owner, entered', rfl⟩ := h.mapped.found r mapped
    obtain rfl := Option.some.inj (entered.symm.trans entered')
    obtain ⟨other, found', describes⟩ := h.recorded.found s ((same s).mp mapped)
    obtain rfl := Option.some.inj (found.symm.trans found')
    refine ⟨?_, describes.2⟩
    rw [registry_task] at mapped
    cases call : st.task s with
    | idle | proxy =>
        rw [call] at mapped
        exact ⟨mapped.2.2, mapped.2.1⟩
    | stop pc => exact absurd (.inr ⟨pc, call⟩) (quiet s)
    | login header pc => exact absurd (.inl ⟨header, pc, call⟩) (quiet s)

/-- Two servers log in, and the first one closes while its operations are pending. -/
def secondServer : List (Action (Fin 2) (Fin 1)) :=
  accept 0 ++ receive 0 (loginFrame [0x41] 2) ++ go 0 6 ++
    accept 1 ++ receive 1 (loginFrame [0x42] 2) ++ go 1 6 ++ work ++
    [.readFails 0, .onReadHead 0] ++ go 0 6

/-- The condition on a run, evaluated. -/
def remoteEndpointTest (st : Server (Fin 2) (Fin 1)) : Action (Fin 2) (Fin 1) → Bool
  | .run s n => st.registry.task s != .login .remoteEndpoint || (st.registry.core s).isOpen && n.ok
  | _ => true

theorem remoteEndpoint_of_test (st : Server (Fin 2) (Fin 1)) (a : Action (Fin 2) (Fin 1))
    (tested : remoteEndpointTest st a = true) : st.registry.RemoteEndpointSucceeds a := by
  cases a with
  | run s n =>
      intro here
      simpa [remoteEndpointTest, here] using tested
  | _ => trivial

theorem directories_agree_secondServer :
    ∃ st : Server (Fin 2) (Fin 1), 1000 ∉ st.ssDb.settled.db ∧
      ∃ info ∈ st.ssDb.settled.db.lookup 1001, st.Running 1 ∧
        info.sGuid = (st.session 1).guid := by
  obtain ⟨st, log, reached, few, idle, ⟨gone, entered⟩⟩ :=
    logged_of_testedRun ⟨0, 0, 0⟩ allocations secondServer remoteEndpoint_of_test
      (P := fun st log => log.length < 2 ^ 32 ∧ (∀ s, st.task s = .idle) ∧
        st.ssMap 1000 = none ∧ st.ssMap 1001 = some 1) (by decide +kernel)
  have quiet : ∀ s, ¬ st.LoginOrClose s := by
    rintro s (⟨header, pc, call⟩ | ⟨pc, call⟩) <;>
    · rw [idle s] at call
      cases call
  have agree := directories_agree ⟨0, 0, 0⟩ reached few quiet
  refine ⟨st, fun listed => (agree 1000).1.mp listed gone, ?_⟩
  have listed := (agree 1001).1.mpr (by simp [entered])
  obtain ⟨info, found⟩ := Option.isSome_iff_exists.mp (AList.lookup_isSome.mpr listed)
  exact ⟨info, found, (agree 1001).2 1 info entered found⟩

end Server

end NatProxy
