import NatProxy.Db.Mirror
import NatProxy.Server.GuidOwnership

/-!
# The mirror over logins and closes

`closeSessionWithLock` removes the guid from the guid set before it enqueues the
`DEL` of the session. In between, another session can log in with the same guid
and enqueue its `ADD`; the `DEL` that follows then deletes the hash that belongs
to the new record. `GuidSettled` leaves these logins out, and those whose id, a
32-bit counter, is still the id of a record.

The invariant is about the settled store, in which the pending operations have
been applied: every record has a session that keeps it, by owning its guid or by
being about to delete it, and no record has the guid of a login in progress.
-/

namespace NatProxy

open Transition

/-- The parts of a login between the insertion of the guid and the `ADD`. -/
def LoginPc.Adding : LoginPc → Prop
  | .allocId => True
  | .addSession => True
  | .remoteEndpoint => True
  | .addDb _ => True
  | _ => False

theorem LoginPc.Adding.holds {pc : LoginPc} (adding : pc.Adding) (core : SessionCore) :
    core.Holds (.login pc) := by
  cases pc with
  | allocId | addSession | remoteEndpoint | addDb => trivial
  | insertGuid | undoGuid | finish => exact adding.elim

namespace Registry

variable {S C : Type} [DecidableEq S] {v v' : Registry S} {s : S} {a : Action S C}

/-- The store once every pending operation has been applied. -/
def store (v : Registry S) : DbStore := v.ssDb.settled

/-- A guid is inserted while no session with that guid is about to enqueue the
`DEL` of a record, and a record is added under an id that no record has. -/
def GuidSettled (v : Registry S) : Action S C → Prop
  | .run s _ =>
      match v.task s with
      | .login .insertGuid =>
          ∀ r, v.task r = .stop .delDb → (v.core r).guid = (v.core s).guid →
            v.store.db.lookup (v.core r).id = none
      | .login (.addDb _) => v.store.db.lookup (v.core s).id = none
      | _ => True
  | _ => True

/-- The session owns its guid and has entered its record, or is about to delete it. -/
def Keeps (v : Registry S) (s : S) : Prop :=
  v.task s = .stop .delDb ∨
    v.guidSet (v.core s).guid = some s ∧
      ((v.core s).logined = true ∨ v.task s = .login (.finish true))

/-- Every record is kept by a session with its guid and id. -/
def Kept (v : Registry S) : Prop :=
  ∀ k info, v.store.db.lookup k = some info →
    ∃ r, v.Keeps r ∧ (v.core r).guid = info.sGuid ∧ (v.core r).id = k

/-- No record has the guid of a login that has yet to add its own. -/
def Vacant (v : Registry S) : Prop :=
  ∀ s pc, v.task s = .login pc → pc.Adding →
    ∀ k info, v.store.db.lookup k = some info → info.sGuid ≠ (v.core s).guid

/-- A session that keeps a record goes on keeping it. -/
def KeepsOn (v v' : Registry S) (r : S) : Prop :=
  v.Keeps r → v'.Keeps r ∧ (v'.core r).guid = (v.core r).guid ∧ (v'.core r).id = (v.core r).id

theorem KeepsOn.set {core : SessionCore} {task : RegTask} {r : S}
    (one : r = s → v.Keeps s → core.guid = (v.core s).guid ∧ core.id = (v.core s).id ∧
      (task = .stop .delDb ∨ v.guidSet core.guid = some s ∧
        (core.logined = true ∨ task = .login (.finish true)))) :
    v.KeepsOn (v.set s core task) r := by
  intro keeps
  by_cases eq : r = s
  · subst eq
    rw [Keeps, core_set_self, task_set_self, guidSet_set]
    obtain ⟨guid, id, still⟩ := one rfl keeps
    exact ⟨still, guid, id⟩
  · rw [Keeps, core_set_of_ne _ _ _ eq, task_set_of_ne _ _ _ eq, guidSet_set]
    exact ⟨keeps, rfl, rfl⟩

/-- The session is neither at its deletion nor at the end of its login. -/
theorem KeepsOn.logined (notDeleting : v.task s ≠ .stop .delDb)
    (notFinishing : v.task s ≠ .login (.finish true)) {core : SessionCore} {task : RegTask}
    (same : core.guid = (v.core s).guid ∧ core.id = (v.core s).id ∧
      core.logined = (v.core s).logined) {r : S} :
    v.KeepsOn (v.set s core task) r := by
  obtain ⟨guid, id, logined⟩ := same
  refine KeepsOn.set fun _ keeps => ⟨guid, id, ?_⟩
  obtain deleting | ⟨owner, was | finishing⟩ := keeps
  · exact absurd deleting notDeleting
  · exact .inr ⟨guid ▸ owner, .inl (logined.trans was)⟩
  · exact absurd finishing notFinishing

theorem KeepsOn.stopSession (idle : v.task s = .idle) {core : SessionCore}
    (same : core.guid = (v.core s).guid ∧ core.id = (v.core s).id ∧
      core.logined = (v.core s).logined) {r : S} :
    v.KeepsOn (v.stopSession s core) r := by
  change v.KeepsOn (v.set s core.beginStop _) r
  apply KeepsOn.logined
  · simp [idle]
  · simp [idle]
  · exact same

/-- The session keeps nothing, and changes as it likes. -/
theorem KeepsOn.of_not {core : SessionCore} {task : RegTask} {r : S}
    (one : ¬ v.Keeps s) :
    v.KeepsOn (v.set s core task) r :=
  KeepsOn.set fun _ keeps => absurd keeps one

/-- Another session keeps its record while this one changes the entry of its own guid. -/
theorem KeepsOn.update (x : Option S) {task : RegTask} {r : S}
    (one : v.Keeps s → task = .stop .delDb)
    (other : r ≠ s → v.guidSet (v.core s).guid ≠ some r) :
    v.KeepsOn ({ v with guidSet := Function.update v.guidSet (v.core s).guid x }.set s
      (v.core s) task) r := by
  intro keeps
  by_cases eq : r = s
  · subst eq
    rw [Keeps, core_set_self, task_set_self]
    exact ⟨.inl (one keeps), rfl, rfl⟩
  · rw [Keeps, core_set_of_ne _ _ _ eq, task_set_of_ne _ _ _ eq]
    refine ⟨?_, rfl, rfl⟩
    obtain deleting | ⟨owner, still⟩ := keeps
    · exact .inl deleting
    · have ne : (v.core r).guid ≠ (v.core s).guid := by
        intro same
        exact other eq (same ▸ owner)
      rw [← Function.update_of_ne ne x v.guidSet] at owner
      exact .inr ⟨owner, still⟩

theorem KeepsOn.remove (owned : v.Owned) (holds : (v.core s).Holds (v.task s)) {task : RegTask}
    {r : S} (one : v.Keeps s → task = .stop .delDb) :
    v.KeepsOn ({ v with guidSet := Function.update v.guidSet (v.core s).guid none }.set s
      (v.core s) task) r := by
  refine .update none one fun ne owner => ?_
  rw [owned s holds] at owner
  exact ne (Option.some.inj owner).symm

/-- Nobody keeps a record of a guid that is free. -/
theorem KeepsOn.insert (free : v.guidSet (v.core s).guid = none) {task : RegTask}
    {r : S} (one : ¬ v.Keeps s) :
    v.KeepsOn ({ v with guidSet := Function.update v.guidSet (v.core s).guid (some s) }.set s
      (v.core s) task) r := by
  refine .update (some s) (fun keeps => absurd keeps one) fun _ owner => ?_
  rw [free] at owner
  cases owner

omit [DecidableEq S] in
/-- A session in a login keeps a record only at its end. -/
theorem not_keeps_of_login (consistent : v.Consistent) {pc : LoginPc} (here : v.task s = .login pc)
    (ne : pc ≠ .finish true) : ¬ v.Keeps s := by
  have pending := (consistent s).pending pc here
  rintro (deleting | ⟨_, logined | finished⟩)
  · rw [here] at deleting
    cases deleting
  · rw [pending] at logined
    cases logined
  · rw [here] at finished
    exact ne (RegTask.login.inj finished)

/-- Every step but the deletion of the record itself. -/
theorem Step.keepsOn (step : Step v a v') (consistent : v.Consistent) (owned : v.Owned) (r : S)
    (notDeleted : v.task r = .stop .delDb → v'.task r = .stop .delDb) : v.KeepsOn v' r := by
  cases step with
  | own s step =>
      refine KeepsOn.set fun _ keeps => ⟨step.guid, step.id, ?_⟩
      rw [step.guid, step.logined]
      exact keeps
  | start counted => exact KeepsOn.set fun _ keeps => ⟨rfl, rfl, keeps⟩
  | timeoutStop idle fired =>
      apply KeepsOn.stopSession idle
      exact ⟨rfl, rfl, rfl⟩
  | readStop idle fails =>
      obtain ⟨_, read, rfl, _⟩ := fails
      apply KeepsOn.stopSession idle
      exact ⟨rfl, rfl, rfl⟩
  | stopAll here | notLogined here | sessionClosed here | answer here | proxy here
  | proxyDone here =>
      apply KeepsOn.logined
      · simp [here]
      · simp [here]
      · exact ⟨rfl, rfl, rfl⟩
  | eraseMap here =>
      apply KeepsOn.logined (v := { v with .. })
      · simp [here]
      · simp [here]
      · exact ⟨rfl, rfl, rfl⟩
  | removeGuid here logined =>
      refine KeepsOn.remove owned ?_ (fun _ => rfl)
      rw [here]
      exact logined
  | @delDb s n here =>
      refine KeepsOn.set (v := { v with .. }) ?_
      rintro rfl
      have still := notDeleted here
      rw [task_set_self] at still
      cases still
  | login idle decodes logined =>
      refine KeepsOn.of_not ?_
      rintro (deleting | ⟨_, was | finishing⟩)
      · simp [idle] at deleting
      · exact logined was
      · simp [idle] at finishing
  | insertGuid here free =>
      exact KeepsOn.insert free (not_keeps_of_login consistent here LoginPc.noConfusion)
  | undoGuid here =>
      refine KeepsOn.remove owned ?_ ?_
      · rw [here]
        trivial
      · intro keeps
        exact absurd keeps (not_keeps_of_login consistent here LoginPc.noConfusion)
  | guidTaken here | idTaken here | remoteEndpoint here | noRemoteEndpoint here =>
      exact KeepsOn.of_not (not_keeps_of_login consistent here LoginPc.noConfusion)
  | allocId here | addSession here | addDb here =>
      exact KeepsOn.of_not (v := { v with .. })
        (not_keeps_of_login consistent here LoginPc.noConfusion)
  | @finish s n ok here =>
      cases ok with
      | false =>
          exact KeepsOn.of_not (not_keeps_of_login consistent here (by simp))
      | true =>
          refine KeepsOn.set fun _ keeps => ⟨rfl, rfl, .inr ⟨?_, .inl rfl⟩⟩
          obtain deleting | ⟨owner, _⟩ := keeps
          · simp [here] at deleting
          · exact owner
  | db => exact fun keeps => ⟨keeps, rfl, rfl⟩

/-- The record that a session adds. -/
def record (v : Registry S) (s : S) (addr : UInt32) : SSessionInfo :=
  ⟨(v.core s).id, addr, (v.core s).guid⟩

/-- A session at its deletion stays there while another one goes on. -/
theorem deleting_update (other : v.task s ≠ .stop .delDb) (task : RegTask) (r : S)
    (deleting : v.task r = .stop .delDb) : Function.update v.task s task r = .stop .delDb := by
  have ne : r ≠ s := by
    rintro rfl
    exact other deleting
  rw [Function.update_of_ne ne]
  exact deleting

/-- The two steps that enqueue an operation, and all others. -/
theorem Step.store_cases (step : Step v a v') :
    v'.store = v.store ∧ (∀ r, v.task r = .stop .delDb → v'.task r = .stop .delDb) ∨
    (∃ s n addr, a = .run s n ∧ v.task s = .login (.addDb addr) ∧
      v' = { v with ssDb := v.ssDb.add (v.record s addr) }.set s (v.core s)
        (.login (.finish true))) ∨
    (∃ s, v.task s = .stop .delDb ∧
      v' = { v with ssDb := v.ssDb.del (v.core s).id }.set s (v.core s) (.stop .eraseMap)) := by
  cases step with
  | own s step =>
      refine .inl ⟨rfl, fun r deleting => ?_⟩
      rw [← deleting]
      exact congrFun (Function.update_eq_self s v.task) r
  | @start s counted =>
      refine .inl ⟨rfl, fun r deleting => ?_⟩
      rw [← deleting]
      exact congrFun (Function.update_eq_self s v.task) r
  | addDb here => exact .inr (.inl ⟨_, _, _, rfl, here, rfl⟩)
  | delDb here => exact .inr (.inr ⟨_, here, rfl⟩)
  | db step => exact .inl ⟨CSessionDb.settled_step step, fun r deleting => deleting⟩
  | timeoutStop here | readStop here | stopAll here | notLogined here | sessionClosed here
  | answer here | proxy here | proxyDone here | login here | guidTaken here | idTaken here
  | remoteEndpoint here | noRemoteEndpoint here | finish here =>
      refine .inl ⟨rfl, deleting_update ?_ _⟩
      simp [here]
  | removeGuid here | eraseMap here | insertGuid here | allocId here | addSession here
  | undoGuid here =>
      refine .inl ⟨rfl, deleting_update ?_ _⟩
      simp [here]

@[simp] theorem store_add (info : SSessionInfo) (core : SessionCore) (task : RegTask) :
    ({ v with ssDb := v.ssDb.add info }.set s core task).store = v.store.operate (.add info) :=
  CSessionDb.settled_add v.ssDb info

@[simp] theorem store_del (id : UInt32) (core : SessionCore) (task : RegTask) :
    ({ v with ssDb := v.ssDb.del id }.set s core task).store = v.store.operate (.del id) :=
  CSessionDb.settled_del v.ssDb id

omit [DecidableEq S] in
/-- What is left of the records after an operation. -/
theorem lookup_of_del {id k : UInt32} {info : SSessionInfo} (mirrored : v.store.Mirrored)
    (found : (v.store.operate (.del id)).db.lookup k = some info) :
    k ≠ id ∧ v.store.db.lookup k = some info := by
  rw [DbStore.lookup_del (mirrored.key id)] at found
  split at found
  · cases found
  · next ne => exact ⟨ne, found⟩

/-- The invariant of the mirror. -/
structure Mirror (v : Registry S) : Prop where
  mirrored : v.store.Mirrored
  kept : v.Kept
  vacant : v.Vacant

omit [DecidableEq S] in
/-- The id and the guid of an added record are new. -/
theorem Mirror.new_record (h : v.Mirror) {n : Net C} {addr : UInt32}
    (clean : v.GuidSettled (.run s n)) (here : v.task s = .login (.addDb addr)) :
    v.store.db.lookup (v.record s addr).uiId = none ∧
      ∀ k info, v.store.db.lookup k = some info → info.sGuid ≠ (v.record s addr).sGuid := by
  refine ⟨?_, h.vacant s _ here trivial⟩
  simp only [GuidSettled, here] at clean
  exact clean

theorem Mirror.step_mirrored (h : v.Mirror) (step : Step v a v') (clean : v.GuidSettled a) :
    v'.store.Mirrored := by
  obtain ⟨same, _⟩ | ⟨s, n, addr, rfl, here, rfl⟩ | ⟨s, here, rfl⟩ := step.store_cases
  · rw [same]
    exact h.mirrored
  · obtain ⟨newId, newGuid⟩ := h.new_record clean here
    rw [store_add]
    exact h.mirrored.add newId newGuid
  · rw [store_del]
    exact h.mirrored.del _

theorem Mirror.step_kept (h : v.Mirror) (step : Step v a v') (clean : v.GuidSettled a)
    (consistent : v.Consistent) (owned : v.Owned) : v'.Kept := by
  obtain ⟨same, still⟩ | ⟨s, n, addr, rfl, here, rfl⟩ | ⟨s, here, rfl⟩ := step.store_cases
  · intro k info found
    obtain ⟨r, keeps, guid, id⟩ := h.kept k info (same ▸ found)
    obtain ⟨keeps', guid', id'⟩ := step.keepsOn consistent owned r (still r) keeps
    exact ⟨r, keeps', guid'.trans guid, id'.trans id⟩
  · intro k info found
    rw [store_add, DbStore.lookup_add (h.new_record clean here).1] at found
    split at found
    · next same =>
      obtain rfl := Option.some.inj found
      refine ⟨s, .inr ⟨?_, .inr (task_set_self _ _ _ _)⟩, ?_, ?_⟩
      · rw [core_set_self]
        refine owned s ?_
        rw [here]
        trivial
      · rw [core_set_self]
        rfl
      · rw [core_set_self]
        exact same.symm
    · obtain ⟨r, keeps, guid, id⟩ := h.kept k info found
      obtain ⟨keeps', guid', id'⟩ := step.keepsOn consistent owned r
        (deleting_update (by simp [here]) _ r) keeps
      exact ⟨r, keeps', guid'.trans guid, id'.trans id⟩
  · intro k info found
    rw [store_del] at found
    obtain ⟨ne, old⟩ := lookup_of_del h.mirrored found
    obtain ⟨r, keeps, guid, id⟩ := h.kept k info old
    have other : r ≠ s := by
      rintro rfl
      exact ne id.symm
    obtain ⟨keeps', guid', id'⟩ := step.keepsOn consistent owned r
      (fun deleting => (Function.update_of_ne other _ _).trans deleting) keeps
    exact ⟨r, keeps', guid'.trans guid, id'.trans id⟩

/-- The session is about to add its record, or inserts its guid in this step. -/
def Comes (v : Registry S) (a : Action S C) (s : S) : Prop :=
  (∃ pc, v.task s = .login pc ∧ pc.Adding) ∨
    ∃ n, a = .run s n ∧ v.task s = .login .insertGuid ∧ v.guidSet (v.core s).guid = none

theorem adding_set {core : SessionCore} {task : RegTask}
    (one : ∀ pc, task = .login pc → pc.Adding → core.guid = (v.core s).guid ∧ v.Comes a s)
    {r : S} {pc : LoginPc} (after : (v.set s core task).task r = .login pc) (adding : pc.Adding) :
    ((v.set s core task).core r).guid = (v.core r).guid ∧ v.Comes a r := by
  refine forall_set_of_ne (P := fun r core task => ∀ pc, task = .login pc → pc.Adding →
    core.guid = (v.core r).guid ∧ v.Comes a r) ?_ one r pc after adding
  intro r _ pc login adding
  exact ⟨rfl, .inl ⟨pc, login, adding⟩⟩

/-- A session that is about to add its record has kept the guid that it inserted. -/
theorem Step.adding (step : Step v a v') {r : S} {pc : LoginPc} (after : v'.task r = .login pc)
    (adding : pc.Adding) : (v'.core r).guid = (v.core r).guid ∧ v.Comes a r := by
  cases step with
  | own s step =>
      refine adding_set ?_ after adding
      intro pc login adding
      exact ⟨step.guid, .inl ⟨pc, login, adding⟩⟩
  | start =>
      refine adding_set ?_ after adding
      intro pc login adding
      exact ⟨rfl, .inl ⟨pc, login, adding⟩⟩
  | timeoutStop | readStop =>
      refine adding_set ?_ after adding
      intro pc login
      split at login <;> cases login
  | stopAll | notLogined | sessionClosed | answer | proxy | proxyDone | finish =>
      refine adding_set ?_ after adding
      intro pc login
      cases login
  | removeGuid | delDb | eraseMap =>
      refine adding_set (v := { v with .. }) ?_ after adding
      intro pc login
      cases login
  | login | guidTaken | idTaken | noRemoteEndpoint =>
      refine adding_set ?_ after adding
      intro pc login adding
      cases login
      exact adding.elim
  | undoGuid | addDb =>
      refine adding_set (v := { v with .. }) ?_ after adding
      intro pc login adding
      cases login
      exact adding.elim
  | insertGuid here free =>
      refine adding_set (v := { v with .. }) ?_ after adding
      intro pc _ _
      exact ⟨rfl, .inr ⟨_, rfl, here, free⟩⟩
  | allocId here | addSession here =>
      refine adding_set (v := { v with .. }) ?_ after adding
      intro pc _ _
      exact ⟨rfl, .inl ⟨_, here, trivial⟩⟩
  | remoteEndpoint here =>
      refine adding_set ?_ after adding
      intro pc _ _
      exact ⟨rfl, .inl ⟨_, here, trivial⟩⟩
  | db => exact ⟨rfl, .inl ⟨pc, after, adding⟩⟩

theorem Mirror.step_vacant (h : v.Mirror) (step : Step v a v') (clean : v.GuidSettled a)
    (owned : v.Owned) : v'.Vacant := by
  intro r pc after adding k info found same
  obtain ⟨guid, before⟩ := step.adding after adding
  rw [guid] at same
  -- records of before the step
  have old : v.store.db.lookup k = some info → False := by
    intro found
    obtain ⟨pc', login, adding'⟩ | ⟨n, rfl, here, free⟩ := before
    · exact h.vacant r pc' login adding' k info found same
    · obtain ⟨o, keeps, guid', rfl⟩ := h.kept k info found
      simp only [GuidSettled, here] at clean
      obtain deleting | ⟨owner, _⟩ := keeps
      · rw [clean o deleting (guid'.trans same)] at found
        cases found
      · rw [guid'.trans same, free] at owner
        cases owner
  obtain ⟨store, _⟩ | ⟨s, n, addr, rfl, here, rfl⟩ | ⟨s, here, rfl⟩ := step.store_cases
  · exact old (store ▸ found)
  · rw [store_add, DbStore.lookup_add (h.new_record clean here).1] at found
    split at found
    · obtain rfl := Option.some.inj found
      obtain ⟨pc', login, adding'⟩ | ⟨n, inserts, inserting, _⟩ := before
      · have holds : (v.core r).Holds (v.task r) := by
          rw [login]
          exact adding'.holds _
        have eq : r = s := owned.eq holds (by rw [here]; trivial) same.symm
        rw [eq, task_set_self] at after
        cases after
        exact adding
      · cases inserts
        rw [here] at inserting
        cases inserting
    · exact old found
  · rw [store_del] at found
    exact old (lookup_of_del h.mirrored found).2

theorem mirror_of_reachable (reached : ((system (C := C)).restrict GuidSettled).Reachable v) :
    v.Mirror := by
  refine reached.invariant (I := Mirror) ?_ ?_
  · rintro _ rfl
    refine ⟨DbStore.mirrored_empty, ?_, ?_⟩
    · intro k info found
      cases found
    · intro s pc login
      cases login
  · intro v a v' reached h ⟨clean, step⟩
    have all := reached.of_restrict
    have owned := owned_of_reachable all
    exact ⟨h.step_mirrored step clean, h.step_kept step clean (consistent_of_reachable all) owned,
      h.step_vacant step clean owned⟩

end Registry

namespace Server

variable {S C : Type} [DecidableEq S] [DecidableEq C]

/-- In every run in which no login takes a guid whose previous session has still to
enqueue its deletion, and no record is added under an id that has one, the
hashes mirror the table whenever the queue is empty. -/
theorem redis_mirrors (cfg : Config) {st : Server S C}
    (reached : ((system cfg).restrict fun st a => st.registry.GuidSettled a).Reachable st)
    (empty : st.ssDb.opStack = []) : st.ssDb.store.Mirrors := by
  have registry := (registry_mapping cfg).reachable_restrict (D := Registry.GuidSettled) reached
  have mirrored := (Registry.mirror_of_reachable registry).mirrored
  have settled : st.registry.store = st.ssDb.store := CSessionDb.settled_of_empty empty
  rw [← settled]
  exact mirrored.toMirrors

/-- The worker applies the next operation and publishes the table. -/
def work {S C : Type} : List (Action S C) := [.db .operate, .db .serial]

/-- A server is closing and has released its guid. It logs in again over a second
connection, and then the first one enqueues its deletion. -/
def reconnect : List (Action (Fin 2) (Fin 1)) :=
  accept 0 ++ receive 0 (loginFrame [0x41] 2) ++ go 0 6 ++ work ++
    [.readFails 0, .onReadHead 0] ++ go 0 3 ++
    accept 1 ++ receive 1 (loginFrame [0x41] 2) ++ go 1 6 ++ go 0 3 ++ work ++ work

theorem redis_not_always_mirrors :
    ¬ ∀ st : Server (Fin 2) (Fin 1), (system ⟨0, 0, 0⟩).Reachable st →
      (∀ s, st.task s = .idle) → st.ssDb.opStack = [] → st.ssDb.store.Mirrors := by
  intro mirrors
  obtain ⟨st, reached, idle, empty, ⟨info, found, guid⟩, gone⟩ :=
    reachable_of_run ⟨0, 0, 0⟩ reconnect (P := fun st =>
      (∀ s, st.task s = .idle) ∧ st.ssDb.opStack = [] ∧
        (∃ info ∈ st.ssDb.store.db.lookup 1001, info.sGuid = [0x41]) ∧
          st.ssDb.store.redis (sessionKey [0x41]) .guid = none)
      (by decide +kernel)
  have present := (mirrors st reached idle empty).present 1001 info found .guid
  rw [guid, gone] at present
  cases present

/-- A server logs in, is closed, and logs in again. -/
def relogin : List (Action (Fin 2) (Fin 1)) :=
  accept 0 ++ receive 0 (loginFrame [0x41] 2) ++ go 0 6 ++ work ++
    [.readFails 0, .onReadHead 0] ++ go 0 6 ++
    accept 1 ++ receive 1 (loginFrame [0x41] 2) ++ go 1 6 ++ work ++ work

/-- The condition on the runs of two sessions, evaluated. -/
def guidSettledTest (st : Server (Fin 2) (Fin 1)) : Action (Fin 2) (Fin 1) → Bool
  | .run s _ =>
      match st.registry.task s with
      | .login .insertGuid => decide (∀ r, st.registry.task r = .stop .delDb →
          (st.registry.core r).guid = (st.registry.core s).guid →
            st.registry.store.db.lookup (st.registry.core r).id = none)
      | .login (.addDb _) =>
          decide (st.registry.store.db.lookup (st.registry.core s).id = none)
      | _ => true
  | _ => true

theorem guidSettled_of_test (st : Server (Fin 2) (Fin 1)) (a : Action (Fin 2) (Fin 1))
    (tested : guidSettledTest st a = true) : st.registry.GuidSettled a := by
  cases a with
  | run s n =>
      simp only [guidSettledTest] at tested
      simp only [Registry.GuidSettled]
      split
      · next here =>
        rw [here] at tested
        exact of_decide_eq_true tested
      · next addr here =>
        rw [here] at tested
        exact of_decide_eq_true tested
      · trivial
  | _ => trivial

theorem redis_mirrors_relogin :
    ∃ st : Server (Fin 2) (Fin 1), st.ssDb.store.db.lookup 1001 ≠ none ∧
      st.ssDb.store.Mirrors := by
  obtain ⟨st, reached, found, empty⟩ :=
    reachable_of_testedRun ⟨0, 0, 0⟩ relogin guidSettled_of_test (P := fun st =>
      st.ssDb.store.db.lookup 1001 ≠ none ∧ st.ssDb.opStack = [])
      (by decide +kernel)
  exact ⟨st, found, redis_mirrors ⟨0, 0, 0⟩ reached empty⟩

end Server

end NatProxy
