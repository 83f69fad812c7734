import NatProxy.Server.Consistency

/-!
# Ownership of guids

A session holds its guid from the insertion into the guid set until it removes
the guid itself: in the login that inserted it, while it is logged in and
running, and during its `stop` up to the removal. `Owned` says that the guid set
records every session that holds a guid as the owner of it, so two sessions
never hold one guid. A failed login holds nothing, so it and the next login may
overwrite the fields of the session.
-/

namespace NatProxy

open Transition

/-- The session has inserted its guid and not removed it again. -/
def SessionCore.Holds (core : SessionCore) : RegTask → Prop
  | .login .insertGuid => False
  | .login (.finish false) => False
  | .login _ => True
  | .stop (.stopAll _) => core.logined
  | .stop .removeGuid => core.logined
  | .stop _ => False
  | .idle => core.logined ∧ core.started
  | .proxy => core.logined ∧ core.started

theorem SessionCore.holds_congr {core core' : SessionCore} (task : RegTask)
    (logined : core'.logined = core.logined) (started : core'.started = core.started) :
    core'.Holds task ↔ core.Holds task := by
  cases task with
  | idle | proxy => simp only [Holds, logined, started]
  | stop pc => cases pc <;> simp only [Holds, logined]
  | login pc =>
      cases pc with
      | finish ok => cases ok <;> rfl
      | _ => rfl

namespace Registry

variable {S C : Type} [DecidableEq S] {v v' : Registry S} {s : S} {a : Action S C}

/-- The guid set records the holders of guids as their owners. -/
def Owned (v : Registry S) : Prop :=
  ∀ s, (v.core s).Holds (v.task s) → v.guidSet (v.core s).guid = some s

omit [DecidableEq S] in
/-- A guid has one holder. -/
theorem Owned.eq (h : v.Owned) {r : S} (hs : (v.core s).Holds (v.task s))
    (hr : (v.core r).Holds (v.task r)) (same : (v.core s).guid = (v.core r).guid) : s = r := by
  have owner : some s = some r := by
    rw [← h s hs, ← h r hr, same]
  exact Option.some.inj owner

/-- A step that does not touch the guid set, after which the session holds
nothing that it did not hold before. -/
theorem Owned.keep (h : v.Owned) {core : SessionCore} {task : RegTask}
    (held : core.Holds task → (v.core s).Holds (v.task s) ∧ core.guid = (v.core s).guid) :
    (v.set s core task).Owned := by
  refine forall_set_of_ne (P := fun r core task =>
    core.Holds task → v.guidSet core.guid = some r) (fun r _ => h r) ?_
  intro holds
  obtain ⟨before, same⟩ := held holds
  rw [same]
  exact h s before

/-- The removal of the guid by the session that holds it. -/
theorem Owned.remove (h : v.Owned) {task : RegTask} (before : (v.core s).Holds (v.task s))
    (after : ¬ (v.core s).Holds task) :
    ({ v with guidSet := Function.update v.guidSet (v.core s).guid none }.set s (v.core s)
      task).Owned := by
  refine forall_set_of_ne (v := { v with .. }) (P := fun r core task => core.Holds task →
    Function.update v.guidSet (v.core s).guid none core.guid = some r) ?_
    fun holds => absurd holds after
  intro r ne holds
  have other : (v.core r).guid ≠ (v.core s).guid := by
    intro same
    exact ne (h.eq holds before same)
  rw [Function.update_of_ne other]
  exact h r holds

/-- The insertion of a guid that nobody holds. -/
theorem Owned.insert (h : v.Owned) {task : RegTask} (free : v.guidSet (v.core s).guid = none) :
    ({ v with guidSet := Function.update v.guidSet (v.core s).guid (some s) }.set s (v.core s)
      task).Owned := by
  refine forall_set_of_ne (v := { v with .. }) (P := fun r core task => core.Holds task →
    Function.update v.guidSet (v.core s).guid (some s) core.guid = some r) ?_
    fun _ => Function.update_self _ _ _
  intro r _ holds
  have other : (v.core r).guid ≠ (v.core s).guid := by
    intro same
    have owner := h r holds
    rw [same, free] at owner
    cases owner
  rw [Function.update_of_ne other]
  exact h r holds

theorem Owned.stopSession (h : v.Owned) {core : SessionCore} (idle : v.task s = .idle)
    (same : core.guid = (v.core s).guid ∧ core.logined = (v.core s).logined ∧
      core.started = (v.core s).started) : (v.stopSession s core).Owned := by
  obtain ⟨guid, logined, started⟩ := same
  apply h.keep
  intro holds
  refine ⟨?_, guid⟩
  rw [idle]
  split at holds
  · next running => exact ⟨logined ▸ holds, started ▸ running⟩
  · exact absurd holds.2 Bool.false_ne_true

theorem Step.owned (step : Step v a v') (consistent : v.Consistent) (h : v.Owned) : v'.Owned := by
  cases step with
  | own s step =>
      apply h.keep
      intro holds
      exact ⟨(SessionCore.holds_congr _ step.logined step.started).mp holds, step.guid⟩
  | start counted =>
      obtain ⟨idle, fresh⟩ := (consistent _).fresh (by rw [counted]; trivial)
      apply h.keep
      intro holds
      rw [idle, fresh] at holds
      exact absurd holds.1 Bool.false_ne_true
  | timeoutStop idle fired => exact h.stopSession idle ⟨rfl, rfl, rfl⟩
  | readStop idle fails =>
      obtain ⟨_, read, rfl, _⟩ := fails
      exact h.stopSession idle ⟨rfl, rfl, rfl⟩
  | @stopAll s net side here =>
      apply h.keep
      intro holds
      rw [here]
      cases side <;> exact ⟨holds, rfl⟩
  | removeGuid here logined =>
      refine h.remove ?_ (fun holds => holds)
      rw [here]
      exact logined
  | delDb | eraseMap => exact Owned.keep (v := { v with .. }) h False.elim
  | notLogined | guidTaken | noRemoteEndpoint | login => exact h.keep False.elim
  | sessionClosed here =>
      apply h.keep
      intro holds
      have running := holds.2
      rw [(consistent _).stopped _ here] at running
      cases running
  | answer idle read | proxy idle read | proxyDone idle =>
      apply h.keep
      intro holds
      rw [idle]
      exact ⟨holds, rfl⟩
  | insertGuid here free => exact h.insert free
  | undoGuid here =>
      refine h.remove ?_ (fun holds => holds)
      rw [here]
      trivial
  | allocId here | addSession here | addDb here =>
      refine Owned.keep (v := { v with .. }) h (fun _ => ⟨?_, rfl⟩)
      rw [here]
      trivial
  | idTaken here | remoteEndpoint here =>
      refine h.keep (fun _ => ⟨?_, rfl⟩)
      rw [here]
      trivial
  | @finish s net ok here =>
      apply h.keep
      intro holds
      refine ⟨?_, rfl⟩
      rw [here]
      cases ok with
      | true => trivial
      | false => exact absurd holds.1 Bool.false_ne_true
  | db step => exact h

theorem owned_of_reachable (reached : (system (C := C)).Reachable v) : v.Owned := by
  refine reached.invariant (I := Owned) ?_ ?_
  · rintro _ rfl s holds
    exact absurd holds.1 Bool.false_ne_true
  · intro v a v' reached h step
    exact step.owned (consistent_of_reachable reached) h

end Registry

namespace Server

variable {S C : Type} [DecidableEq S] [DecidableEq C]

/-- The session is running and logged in. -/
def Running (st : Server S C) (s : S) : Prop :=
  (st.session s).started = true ∧ (st.session s).logined = true

instance (st : Server S C) (s : S) : Decidable (st.Running s) := inferInstanceAs (Decidable (_ ∧ _))

omit [DecidableEq S] [DecidableEq C] in
/-- A running session that is logged in is in no login and in no `stop`. -/
theorem Running.call {st : Server S C} {s : S} (consistent : st.registry.Consistent)
    (running : st.Running s) : st.registry.task s = .idle ∨ st.registry.task s = .proxy := by
  obtain ⟨started, logined⟩ := running
  cases call : st.registry.task s with
  | idle => exact .inl rfl
  | proxy => exact .inr rfl
  | stop pc =>
      have stopped := (consistent s).stopped pc call
      rw [registry_core, started] at stopped
      cases stopped
  | login pc =>
      have pending := (consistent s).pending pc call
      rw [registry_core, logined] at pending
      cases pending

omit [DecidableEq S] [DecidableEq C] in
/-- A running session that is logged in holds its guid, whatever its thread does. -/
theorem Running.holds {st : Server S C} {s : S} (consistent : st.registry.Consistent)
    (running : st.Running s) : (st.registry.core s).Holds (st.registry.task s) := by
  obtain call | call := running.call consistent <;>
  · rw [call]
    exact ⟨running.2, running.1⟩

/-- In every reachable state, two different running sessions that are logged in
have different guids. -/
theorem guid_unique (cfg : Config) {st : Server S C} (reached : (system cfg).Reachable st)
    {s r : S} (distinct : s ≠ r) (hs : st.Running s) (hr : st.Running r) :
    (st.session s).guid ≠ (st.session r).guid := by
  have registry := (registry_mapping cfg).reachable reached
  have consistent := Registry.consistent_of_reachable registry
  have owned := Registry.owned_of_reachable registry
  intro same
  exact distinct (owned.eq (hs.holds consistent) (hr.holds consistent) same)

/-- A client with guid `A` logs in; a second one is refused the same guid and
then logs in with guid `B`. -/
def retriedLogin : List (Action (Fin 2) (Fin 1)) :=
  accept 0 ++ accept 1 ++
    receive 0 (loginFrame [0x41] 1) ++ go 0 3 ++
    receive 1 (loginFrame [0x41] 1) ++ go 1 2 ++
    receive 1 (loginFrame [0x42] 1) ++ go 1 3

theorem guid_unique_retriedLogin :
    ∃ st : Server (Fin 2) (Fin 1), (system ⟨0, 0, 0⟩).Reachable st ∧ st.Running 0 ∧ st.Running 1 ∧
      (st.session 0).guid ≠ (st.session 1).guid := by
  obtain ⟨st, reached, hs, hr⟩ := reachable_of_run ⟨0, 0, 0⟩ retriedLogin
    (P := fun st => st.Running 0 ∧ st.Running 1) (by decide +kernel)
  exact ⟨st, reached, hs, hr, guid_unique ⟨0, 0, 0⟩ reached (by decide) hs hr⟩

end Server

end NatProxy
