import NatProxy.Server.Registry

/-!
# Consistency of a session with its own call

Facts about the members of one session and the call that its thread is in, which
hold whatever the other sessions and the shared tables do: a session that is
being stopped is not running, a session that is logging in is not logged in, and
a session that was not started yet still has the members it was constructed with.
-/

namespace NatProxy

namespace Registry

variable {S C : Type} [DecidableEq S]

variable {v : Registry S} {s : S} {core : SessionCore} {task : RegTask}

/-- A predicate of the sessions, of which one is replaced. -/
theorem forall_set_of_ne {P : S → SessionCore → RegTask → Prop}
    (others : ∀ r, r ≠ s → P r (v.core r) (v.task r)) (one : P s core task) (r : S) :
    P r ((v.set s core task).core r) ((v.set s core task).task r) := by
  by_cases h : r = s
  · subst h
    rwa [core_set_self, task_set_self]
  · rw [core_set_of_ne _ _ _ h, task_set_of_ne _ _ _ h]
    exact others r h

theorem forall_set {P : SessionCore → RegTask → Prop} (all : ∀ r, P (v.core r) (v.task r))
    (one : P core task) (r : S) : P ((v.set s core task).core r) ((v.set s core task).task r) :=
  forall_set_of_ne (P := fun _ => P) (fun r _ => all r) one r

end Registry

/-- The session has not been started yet. -/
def Phase.Early : Phase → Prop
  | .live => False
  | .destroyed => False
  | _ => True

/-- A session that was started does not become fresh again. -/
theorem CoreStep.late {core core' : SessionCore} (step : CoreStep core core')
    (late : ¬ core.phase.Early) : ¬ core'.phase.Early := by
  cases step with
  | tested early | counted early =>
      exact absurd (show core.phase.Early by rw [early]; trivial) late
  | destroyed => exact fun early => early
  | _ => exact late

/-- The parts of a login that only servers go through. -/
def LoginPc.ServerOnly : LoginPc → Prop
  | .addSession => True
  | .undoGuid => True
  | .remoteEndpoint => True
  | .addDb _ => True
  | _ => False

/-- What the code keeps about a session and its own call. -/
structure SessionCore.Consistent (core : SessionCore) (task : RegTask) : Prop where
  stopped : ∀ pc, task = .stop pc → core.started = false
  pending : ∀ pc, task = .login pc → core.logined = false
  fresh : core.phase.Early → task = .idle ∧ core = { SessionCore.new with phase := core.phase }

namespace SessionCore.Consistent

variable {core core' : SessionCore} {task : RegTask}

/-- A session that has left its early phases. -/
theorem of_live (h : core.phase.Early → False)
    (stopped : ∀ pc, task = .stop pc → core.started = false)
    (pending : ∀ pc, task = .login pc → core.logined = false) : core.Consistent task :=
  ⟨stopped, pending, fun early => (h early).elim⟩

/-- A started read, an armed timer or a call in progress shows that the session
is no longer fresh. -/
theorem not_early (h : core.Consistent task)
    (used : task ≠ .idle ∨ core.read.op ≠ .none ∨ core.timer ≠ .idle) : ¬ core.phase.Early := by
  intro early
  obtain ⟨idle, fresh⟩ := h.fresh early
  obtain busy | reading | armed := used
  · exact busy idle
  · exact reading (by rw [fresh]; rfl)
  · exact armed (by rw [fresh]; rfl)

theorem coreStep (h : core.Consistent task) (step : CoreStep core core') :
    core'.Consistent task := by
  have live : ¬ core.phase.Early → core'.phase = core.phase → core'.started = core.started →
      core'.logined = core.logined → core'.Consistent task := by
    intro late phase started logined
    refine of_live (by rwa [phase]) ?_ ?_
    · intro pc stop
      rw [started]
      exact h.stopped pc stop
    · intro pc login
      rw [logined]
      exact h.pending pc login
  cases step with
  | tested created result =>
      obtain ⟨idle, fresh⟩ := h.fresh (by rw [created]; trivial)
      refine ⟨h.stopped, h.pending, fun _ => ⟨idle, ?_⟩⟩
      rw [fresh]
  | counted admitted =>
      obtain ⟨idle, fresh⟩ := h.fresh (by rw [admitted]; trivial)
      refine ⟨h.stopped, h.pending, fun _ => ⟨idle, ?_⟩⟩
      rw [fresh]
  | destroyed ended unused => exact of_live (fun early => early) h.stopped h.pending
  | timerExpires armed => exact live (h.not_early (by simp [armed])) rfl rfl rfl
  | timerAborted fired => exact live (h.not_early (by simp [fired])) rfl rfl rfl
  | deliver delivered =>
      refine live (h.not_early (.inr (.inl ?_))) rfl rfl rfl
      intro none
      simp [ReadLoop.deliver, none] at delivered
  | readFails =>
      by_cases early : core.phase.Early
      · obtain ⟨idle, fresh⟩ := h.fresh early
        refine ⟨h.stopped, h.pending, fun _ => ⟨idle, ?_⟩⟩
        rw [fresh]
        rfl
      · exact live early rfl rfl rfl
  | onReadHead done checked => exact live (h.not_early (by simp [done])) rfl rfl rfl

end SessionCore.Consistent

namespace Registry

variable {S C : Type} [DecidableEq S] {v v' : Registry S} {s : S} {a : Action S C}

/-- Every session of the registry is consistent. -/
def Consistent (v : Registry S) : Prop := ∀ s, (v.core s).Consistent (v.task s)

omit [DecidableEq S] in
theorem consistent_new : (new : Registry S).Consistent := by
  intro s
  refine ⟨?_, ?_, ?_⟩
  · intro pc stop
    cases stop
  · intro pc login
    cases login
  · intro _
    exact ⟨rfl, rfl⟩

/-- `stop` is consistent whatever it finds. -/
theorem Consistent.stopSession (h : v.Consistent) {core : SessionCore}
    (late : ¬ core.phase.Early) : (v.stopSession s core).Consistent := by
  refine forall_set h (.of_live late ?_ ?_)
  · intro pc _
    rfl
  · intro pc login
    split at login <;> cases login

/-- A call goes on, or begins on the handler of a completed read. -/
theorem Consistent.call (h : v.Consistent) {core : SessionCore} {task : RegTask}
    (used : v.task s ≠ .idle ∨ (v.core s).read.op ≠ .none)
    (phase : core.phase = (v.core s).phase)
    (stopped : ∀ pc, task = .stop pc → core.started = false)
    (pending : ∀ pc, task = .login pc → core.logined = false) :
    (v.set s core task).Consistent := by
  have late : ¬ (v.core s).phase.Early := (h s).not_early (by tauto)
  exact forall_set h (.of_live (by rwa [phase]) stopped pending)

theorem Step.consistent (step : Step v a v') (h : v.Consistent) : v'.Consistent := by
  cases step with
  | own s step => exact forall_set h ((h s).coreStep step)
  | start counted =>
      obtain ⟨idle, fresh⟩ := (h _).fresh (by rw [counted]; trivial)
      refine forall_set h (.of_live (fun early => early) ?_ ?_) <;>
      · intro pc busy
        rw [idle] at busy
        cases busy
  | timeoutStop idle fired => exact h.stopSession ((h _).not_early (by simp [fired]))
  | readStop idle fails =>
      obtain ⟨⟨part, ec, bytes, done⟩, read, rfl, _⟩ := fails
      exact h.stopSession ((h _).not_early (by simp [done]))
  | stopAll here | notLogined here =>
      refine h.call (by simp [here]) rfl ?_ ?_
      · intro pc _
        exact (h _).stopped _ here
      · intro pc login
        cases login
  | removeGuid here _ | delDb here | eraseMap here =>
      refine Consistent.call (v := { v with .. }) h (by simp [here]) rfl ?_ ?_
      · intro pc _
        exact (h _).stopped _ here
      · intro pc login
        cases login
  | sessionClosed here | proxyDone here | finish here =>
      refine h.call (by simp [here]) rfl ?_ ?_ <;>
      · intro pc busy
        cases busy
  | answer idle read =>
      obtain ⟨bytes, done⟩ := read
      refine h.call (by simp [done]) rfl ?_ ?_ <;>
      · intro pc busy
        cases busy
  | proxy idle decodes =>
      obtain ⟨⟨bytes, done⟩, _⟩ := decodes
      refine h.call (by simp [done]) rfl ?_ ?_ <;>
      · intro pc busy
        cases busy
  | login idle decodes logined =>
      obtain ⟨⟨bytes, done⟩, _⟩ := decodes
      refine h.call (by simp [done]) rfl ?_ ?_
      · intro pc stop
        cases stop
      · intro pc _
        exact Bool.eq_false_iff.mpr logined
  | guidTaken here | idTaken here | remoteEndpoint here | noRemoteEndpoint here =>
      refine h.call (by simp [here]) rfl ?_ ?_
      · intro pc stop
        cases stop
      · intro pc _
        exact (h _).pending _ here
  | insertGuid here | allocId here | addSession here | undoGuid here | addDb here =>
      refine Consistent.call (v := { v with .. }) h (by simp [here]) rfl ?_ ?_
      · intro pc stop
        cases stop
      · intro pc _
        exact (h _).pending _ here
  | db step => exact h

theorem consistent_of_reachable (reached : (system (C := C)).Reachable v) : v.Consistent := by
  refine reached.invariant (I := Consistent) ?_ ?_
  · rintro _ rfl
    exact consistent_new
  · intro v a v' _ h step
    exact step.consistent h

/-- The calls that enter a session into the session map and the database are
reached for the types that belong there. -/
def ServersOnly (v : Registry S) : Prop :=
  ∀ s pc, v.task s = .login pc → pc.ServerOnly → (v.core s).isServer = true

/-- No call that is for servers only begins. -/
theorem ServersOnly.keep (h : v.ServersOnly) {core : SessionCore} {task : RegTask}
    (same : ∀ pc, task = .login pc → pc.ServerOnly →
      v.task s = .login pc ∧ core.sessionType = (v.core s).sessionType) :
    (v.set s core task).ServersOnly := by
  refine forall_set (P := fun core task =>
    ∀ pc, task = .login pc → pc.ServerOnly → core.isServer = true) h ?_
  intro pc login server
  obtain ⟨before, type⟩ := same pc login server
  rw [SessionCore.isServer, type]
  exact h s pc before server

/-- One such call follows another. -/
theorem ServersOnly.next (h : v.ServersOnly) {task : RegTask} {pc : LoginPc}
    (here : v.task s = .login pc) (server : pc.ServerOnly) :
    (v.set s (v.core s) task).ServersOnly := by
  refine forall_set (P := fun core task =>
    ∀ pc, task = .login pc → pc.ServerOnly → core.isServer = true) h ?_
  intro _ _ _
  exact h s pc here server

theorem Step.serversOnly (step : Step v a v') (h : v.ServersOnly) : v'.ServersOnly := by
  cases step with
  | own s step => exact h.keep fun pc login _ => ⟨login, step.sessionType⟩
  | start => exact h.keep fun pc login _ => ⟨login, rfl⟩
  | timeoutStop | readStop =>
      apply h.keep
      intro pc login
      split at login <;> cases login
  | stopAll | notLogined | sessionClosed | answer | proxy | proxyDone | finish =>
      apply h.keep
      intro pc login
      cases login
  | removeGuid | delDb | eraseMap =>
      apply ServersOnly.keep (v := { v with .. }) h
      intro pc login
      cases login
  | login | guidTaken | noRemoteEndpoint =>
      apply h.keep
      intro pc login server
      cases login
      exact server.elim
  | insertGuid | undoGuid =>
      apply ServersOnly.keep (v := { v with .. }) h
      intro pc login server
      cases login
      exact server.elim
  | allocId here =>
      refine forall_set (v := { v with .. }) (P := fun core task =>
        ∀ pc, task = .login pc → pc.ServerOnly → core.isServer = true) h ?_
      intro pc login server
      split at login
      · next isServer => exact isServer
      · cases login
        exact server.elim
  | addSession here => exact ServersOnly.next (v := { v with .. }) h here trivial
  | addDb here => exact ServersOnly.next (v := { v with .. }) h here trivial
  | idTaken here | remoteEndpoint here => exact h.next here trivial
  | db step => exact h

theorem serversOnly_of_reachable (reached : (system (C := C)).Reachable v) : v.ServersOnly := by
  refine reached.invariant (I := ServersOnly) ?_ ?_
  · rintro _ rfl s pc login
    cases login
  · intro v a v' _ h step
    exact step.serversOnly h

theorem Step.late (step : Step v a v') (late : ¬ (v.core s).phase.Early) :
    ¬ (v'.core s).phase.Early := by
  have update : ∀ {r : S} {core : SessionCore}, (r = s → ¬ core.phase.Early) →
      ¬ (Function.update v.core r core s).phase.Early := by
    intro r core one
    by_cases eq : s = r
    · subst eq
      rw [Function.update_self]
      exact one rfl
    · rwa [Function.update_of_ne eq]
  cases step with
  | own r step =>
      apply update
      rintro rfl
      exact step.late late
  | start => exact update fun _ early => early
  | timeoutStop => exact update (by rintro rfl; exact late)
  | readStop _ fails =>
      obtain ⟨_, read, rfl, _⟩ := fails
      exact update (by rintro rfl; exact late)
  | db => exact late
  | _ => exact update (by rintro rfl; exact late)

/-- The sessions in the session map have been started. -/
def MapUsed (v : Registry S) : Prop :=
  ∀ id s, v.ssMap id = some s → ¬ (v.core s).phase.Early

theorem Step.mapUsed (step : Step v a v') (consistent : v.Consistent) (h : v.MapUsed) :
    v'.MapUsed := by
  intro id s owner
  apply step.late
  cases step with
  | @addSession r n here free =>
      by_cases eq : r = s
      · subst eq
        exact (consistent r).not_early (by simp [here])
      · exact h id s (old_of_insert eq owner)
  | eraseMap => exact h id s (old_of_remove owner)
  | _ => exact h id s owner

theorem mapUsed_of_reachable (reached : (system (C := C)).Reachable v) : v.MapUsed := by
  refine reached.invariant (I := MapUsed) ?_ ?_
  · rintro _ rfl id s owner
    cases owner
  · intro v a v' reached h step
    exact step.mapUsed (consistent_of_reachable reached) h

end Registry

end NatProxy
