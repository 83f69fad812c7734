import NatProxy.Server.Consistency

/-!
# The login timer

`onReqLogin` cancels the timer when the login has succeeded. `cancel` reaches a timer
that is armed; a handler that was queued before is called without an error code, and
`onTimeout` looks at nothing else before it calls `stop`.
-/

namespace NatProxy

open Transition

variable {S C : Type} [DecidableEq S]

/-- The handler of the timer will be called without an error code, or may be. -/
def Timer.Pending (t : Timer) : Prop := t = .armed ∨ t = .fired false

/-- `cancel` leaves nothing pending but a handler that is queued. -/
theorem Timer.Pending.of_cancel {t : Timer} (pending : t.cancel.Pending) : t = .fired false := by
  cases t with
  | idle | armed => simp [Timer.cancel, Timer.Pending] at pending
  | fired ec => simpa [Timer.cancel, Timer.Pending] using pending

/-- The timer can stop the session only while it is not logged in. -/
def SessionCore.PendingBefore (core : SessionCore) : Prop :=
  core.timer.Pending → core.logined = false

namespace Registry

variable {v v' : Registry S} {s : S} {a : Action S C}

/-- No login succeeds while the expiry of its timer is queued. -/
def SucceedsInTime (v : Registry S) : Action S C → Prop
  | .run s _ => v.task s = .login (.finish true) → (v.core s).timer ≠ .fired false
  | _ => True

def PendingBefore (v : Registry S) : Prop := ∀ s, (v.core s).PendingBefore

omit [DecidableEq S] in
theorem PendingBefore.of_core (h : v.PendingBefore) (same : v'.core = v.core) :
    v'.PendingBefore := by
  intro s
  rw [same]
  exact h s

theorem PendingBefore.keep (h : v.PendingBefore) {core : SessionCore} {task : RegTask}
    (before : core.timer.Pending → (v.core s).timer.Pending)
    (logined : core.logined = (v.core s).logined) : (v.set s core task).PendingBefore := by
  refine forall_set (P := fun core _ => core.PendingBefore) h fun pending => ?_
  rw [logined]
  exact h s (before pending)

theorem PendingBefore.stopSession (h : v.PendingBefore) {core : SessionCore}
    (before : core.timer.Pending → (v.core s).timer.Pending)
    (logined : core.logined = (v.core s).logined) : (v.stopSession s core).PendingBefore :=
  h.keep (fun pending => before (.inr (Timer.Pending.of_cancel pending))) logined

theorem Step.pendingBefore (step : Step v a v') (inTime : v.SucceedsInTime a)
    (consistent : v.Consistent) (h : v.PendingBefore) : v'.PendingBefore := by
  cases step with
  | own s step =>
      refine h.keep ?_ step.logined
      cases step with
      | timerExpires armed => exact fun _ => .inl armed
      | timerAborted fired => simp [Timer.Pending]
      | _ => exact fun pending => pending
  | @start s counted =>
      -- a session that is not started yet is as it was constructed
      obtain ⟨_, fresh⟩ := (consistent s).fresh (by rw [counted]; trivial)
      refine forall_set (P := fun core _ => core.PendingBefore) h fun _ => ?_
      rw [fresh]
      rfl
  | timeoutStop idle fired => exact h.stopSession (fun _ => .inr fired) rfl
  | readStop idle fails =>
      obtain ⟨_, read, rfl, _⟩ := fails
      exact h.stopSession (fun pending => pending) rfl
  | @finish s net ok here =>
      refine forall_set (P := fun core _ => core.PendingBefore) h fun pending => ?_
      cases ok with
      | true => exact absurd (Timer.Pending.of_cancel pending) (inTime here)
      | false => rfl
  | db step => exact h
  | allocId =>
      have counted : PendingBefore { v with sessionId := v.sessionId + 1 } := h
      exact counted.keep (fun pending => pending) rfl
  | removeGuid | delDb | eraseMap | insertGuid | addSession | undoGuid | addDb =>
      exact h.of_core (Function.update_eq_self _ _)
  | _ => exact h.keep (fun pending => pending) rfl

theorem pendingBefore_of_reachable
    (reached : ((system (C := C)).restrict SucceedsInTime).Reachable v) : v.PendingBefore := by
  refine reached.invariant (I := PendingBefore) ?_ ?_
  · rintro _ rfl s _
    rfl
  · intro v a v' before h step
    exact step.2.pendingBefore step.1 (consistent_of_reachable before.of_restrict) h

end Registry

namespace Server

variable [DecidableEq C]

/-- In every run in which no login succeeds while the expiry of its timer is queued,
`onTimeout` of a session that is logged in does not call `stop`: it is called because
the timer was cancelled. -/
theorem onTimeout_of_logined (cfg : Config) {st st' : Server S C}
    (reached : ((system cfg).restrict fun st a => st.registry.SucceedsInTime a).Reachable st)
    {s : S} (run : step cfg st (.onTimeout s) = some st')
    (logined : (st.session s).logined = true) :
    (st.session s).timer = .fired true ∧
      st' = st.modSession s fun ss => { ss with timer := .idle } := by
  have registry := (registry_mapping cfg).reachable_restrict (D := Registry.SucceedsInTime) reached
  have before := Registry.pendingBefore_of_reachable registry s
  obtain ⟨_, run⟩ := Option.ite_none_right_eq_some.mp run
  obtain ⟨ec, fired, rfl⟩ := onTimeout_eq_some run
  cases ec with
  | true => exact ⟨fired, rfl⟩
  | false =>
      have pending : (st.session s).logined = false := before (.inr fired)
      rw [logined] at pending
      cases pending

/-- A client logs in, and the handler of its cancelled timer is queued. -/
def cancelledTimer : List (Action (Fin 1) (Fin 1)) :=
  accept 0 ++ receive 0 (loginFrame [0x41] 1) ++ go 0 3

/-- No thread goes on while an expiry is queued. -/
def expiriesRun (st : Server (Fin 1) (Fin 1)) : Action (Fin 1) (Fin 1) → Bool
  | .run s _ => (st.session s).timer != .fired false
  | _ => true

theorem succeedsInTime_of_expiriesRun (st : Server (Fin 1) (Fin 1)) (a : Action (Fin 1) (Fin 1))
    (tested : expiriesRun st a = true) : st.registry.SucceedsInTime a := by
  cases a with
  | run s net =>
      intro _
      rw [registry_core]
      simpa [expiriesRun] using tested
  | _ => trivial

theorem onTimeout_of_logined_cancelledTimer :
    ∃ st st' : Server (Fin 1) (Fin 1), step ⟨0, 0, 0⟩ st (.onTimeout 0) = some st' ∧
      (st.session 0).logined = true ∧
      st' = st.modSession 0 fun ss => { ss with timer := .idle } := by
  obtain ⟨st, reached, logined, taken⟩ :=
    reachable_of_testedRun ⟨0, 0, 0⟩ cancelledTimer succeedsInTime_of_expiriesRun (P := fun st =>
      (st.session 0).logined = true ∧ (step ⟨0, 0, 0⟩ st (.onTimeout 0)).isSome = true)
      (by decide +kernel)
  obtain ⟨st', run⟩ := Option.isSome_iff_exists.mp taken
  exact ⟨st, st', run, logined, (onTimeout_of_logined ⟨0, 0, 0⟩ reached run logined).2⟩

/-- The timer expires while the login is handled. -/
def expiredTimer : List (Action (Fin 1) (Fin 1)) :=
  accept 0 ++ receive 0 (loginFrame [0x41] 1) ++ [.timerExpires 0] ++ go 0 3

theorem onTimeout_not_always_of_logined :
    ¬ ∀ (st st' : Server (Fin 1) (Fin 1)) (s : Fin 1), (system ⟨0, 0, 0⟩).Reachable st →
      step ⟨0, 0, 0⟩ st (.onTimeout s) = some st' → (st.session s).logined = true →
      (st.session s).timer = .fired true ∧
        st' = st.modSession s fun ss => { ss with timer := .idle } := by
  intro always
  obtain ⟨st, reached, logined, fired, taken⟩ :=
    reachable_of_run ⟨0, 0, 0⟩ expiredTimer (P := fun st => (st.session 0).logined = true ∧
      (st.session 0).timer = .fired false ∧
      (step ⟨0, 0, 0⟩ st (.onTimeout 0)).isSome = true) (by decide +kernel)
  obtain ⟨st', run⟩ := Option.isSome_iff_exists.mp taken
  have aborted := (always st st' 0 reached run logined).1
  rw [fired] at aborted
  cases aborted

end Server

end NatProxy
