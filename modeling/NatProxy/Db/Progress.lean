import NatProxy.Db.Linearization

/-!
# The worker left to itself

The worker never waits for a thread that waits for it: while no call holds the mutex or owes
a notification, it publishes all that was pushed and falls asleep, whatever `serial` has
published before of more entries than fit. After `stop` it exits, unless one of two steps of
`stop` comes at the wrong time. When the notification comes between the worker's test of
`_started` and its wait, `stop` has returned and the worker sleeps until an `add` or a `del`
wakes it up. When the client is disconnected between the worker's `isConnected` and its
`command`, the process ends.
-/

namespace NatProxy

open Memory Transition

namespace DbMap

/-- An operation adds one entry at most. -/
theorem length_operate (db : DbMap) (item : OperationItem) :
    (DbMap.operate db item).entries.length ≤ db.entries.length + 1 := by
  cases item with
  | add info =>
      rw [operate]
      split
      · exact Nat.le_succ _
      · next new =>
        rw [AList.entries_insert_of_notMem new, List.length_cons]
  | del uiId =>
      rw [operate]
      split
      · exact Nat.le_succ _
      · next info _ =>
        have fewer : (db.erase info.uiId).entries.length ≤ db.entries.length :=
          (List.kerase_sublist info.uiId db.entries).length_le
        exact Nat.le_succ_of_le fewer

/-- The table behind `_db`. -/
def table (db : DbMap) : Table := fun id => db.lookup id

theorem table_operate {db : DbMap} (keyed : (DbMap.table db).Keyed) (item : OperationItem) :
    DbMap.table (DbMap.operate db item) = (DbMap.table db).apply item := by
  have applied := DbStore.table_operate (s := ⟨db, fun _ _ => none⟩) keyed item
  rwa [show DbStore.table _ = DbMap.table _ from rfl, DbStore.db_operate] at applied

end DbMap

/-- The steps of the worker up to the end of `serial`, or to its sleep. -/
def WorkerPc.rank : WorkerPc → Nat
  | .waiting => 8
  | .woken | .serializing => 7
  | .testing => 6
  | .locking => 5
  | .checking => 4
  | .applying => 3
  | .commanding => 2
  | .popping => 1
  | .exited | .terminated => 0

/-- The front of the queue is in `_db` and still in the queue. -/
def WorkerPc.applied : WorkerPc → Bool
  | .commanding | .popping | .terminated => true
  | _ => false

/-- `serial` has run after the last operation. -/
def WorkerPc.published : WorkerPc → Bool
  | .commanding | .popping | .terminated | .serializing => false
  | _ => true

/-- The call has cleared `_started`, and has still to disconnect the client or to notify the
worker. -/
def CallPc.Stops (pc : CallPc) : Prop := pc = .disconnecting ∨ pc = .notifyingStop

namespace DbThreads

variable {T : Type} {c c' : DbThreads T} {a : DbAction T}

/-- The steps up to the sleep with an empty queue. -/
def rank (c : DbThreads T) : Nat :=
  if c.monitor.asleep none then 0 else 7 * c.opStack.length + c.worker.rank

/-- The operations that are not in `_db`. -/
def left (c : DbThreads T) : List OperationItem :=
  if c.worker.applied then c.opStack.tail else c.opStack

/-- The entries and those that the queue may add. -/
def load (c : DbThreads T) : Nat := c.db.entries.length + c.left.length

theorem load_le_of_few (few : c.db.entries.length + c.opStack.length ≤ 255) : c.load ≤ 255 := by
  rw [load, left]
  split
  · rw [List.length_tail]
    omega
  · exact few

variable [DecidableEq T]

theorem Step.load_le (step : Step c .worker c') : c'.load ≤ c.load := by
  cases step with
  | goes here | exits here | locks here | sleeps here | finds here | relocks here | rechecks here
  | returns here | commands here | terminates here | publishes here =>
      simp [load, left, here, WorkerPc.applied]
  | @applies item rest here front | @issues item rest here front =>
      have one := c.db.length_operate item
      simp [load, left, here, front, WorkerPc.applied]
      omega
  | pops here front => simp [load, left, here, front, WorkerPc.applied]

/-- The worker touches neither the calls nor the Redis client. -/
theorem Step.kept (step : Step c .worker c') :
    c'.started = c.started ∧ c'.call = c.call ∧ c'.redis = c.redis := by
  cases step <;> exact ⟨rfl, rfl, rfl⟩

theorem Step.rank_lt (step : Step c .worker c') (started : c.started = true)
    (up : c.monitor.asleep none = false) : c'.rank < c.rank := by
  cases step with
  | goes here | finds here | rechecks here | applies here | issues here | commands here
  | terminates here | publishes here => simp [rank, here, up, WorkerPc.rank]
  | exits here stopped | returns here stopped => cases started.symm.trans stopped
  | locks here taken | relocks here _ taken =>
      obtain ⟨_, rfl⟩ := Monitor.lock_eq_some_iff.mp taken
      simp [rank, here, up, WorkerPc.rank]
  | sleeps here => simp [rank, here, up, WorkerPc.rank, Monitor.wait]
  | pops here front =>
      simp [rank, here, up, front, WorkerPc.rank, Monitor.unlock]
      omega

omit [DecidableEq T] in
/-- Nobody has the mutex while the worker is outside and no call is inside. -/
theorem Safe.owner_none (h : c.Safe) (free : ∀ t, (c.call t).inside = false)
    (outside : c.worker.inside = false) : c.monitor.owner = none := by
  cases owner : c.monitor.owner with
  | none => rfl
  | some t =>
      have inside := (h.guards t).mp owner
      cases t with
      | none => cases outside.symm.trans inside
      | some t => cases (free t).symm.trans inside

/-- The worker, awake, can go on. -/
theorem Safe.enabled (h : c.Safe) (free : ∀ t, (c.call t).inside = false) (few : c.load ≤ 255)
    (up : c.monitor.asleep none = false) (here : c.worker ≠ .exited)
    (alive : c.worker ≠ .terminated) : ∃ c', c.step .worker = some c' := by
  have lock : c.worker.inside = false → ∃ monitor, c.monitor.lock none = some monitor := by
    intro outside
    exact ⟨_, Monitor.lock_eq_some_iff.mpr ⟨h.owner_none free outside, rfl⟩⟩
  rw [step, if_neg alive]
  show ∃ c', c.runWorker = some c'
  rw [runWorker]
  cases worker : c.worker with
  | testing | commanding => exact ⟨_, rfl⟩
  | locking =>
      obtain ⟨monitor, taken⟩ := lock (by rw [worker]; rfl)
      dsimp only
      rw [taken]
      exact ⟨_, rfl⟩
  | checking =>
      dsimp only
      split <;> exact ⟨_, rfl⟩
  | waiting =>
      obtain ⟨monitor, taken⟩ := lock (by rw [worker]; rfl)
      dsimp only
      rw [up, taken]
      exact ⟨_, rfl⟩
  | woken =>
      dsimp only
      split <;> exact ⟨_, rfl⟩
  | applying | popping =>
      obtain ⟨item, rest, front⟩ := List.exists_cons_of_ne_nil (h.front (by rw [worker]; rfl))
      dsimp only
      rw [front]
      exact ⟨_, rfl⟩
  | serializing =>
      have entries : c.db.entries.length ≤ 255 := by
        rw [load] at few
        omega
      dsimp only
      rw [serial_eq entries]
      exact ⟨_, rfl⟩
  | exited => exact absurd worker here
  | terminated => exact absurd worker alive

/-! ## The commands of the worker -/

/-- `command` of the worker finds the client connected. -/
structure Commands (c : DbThreads T) : Prop where
  alive : c.worker ≠ .terminated
  connected : c.worker = .commanding → c.redis = .connected
  unsubscribed : c.redis ≠ .subscribed

theorem Step.commands_keep (step : Step c a c') (h : c.Commands)
    (untouched : ∀ t, a = .run t → c.call t = .disconnecting → c.worker ≠ .commanding) :
    c'.Commands := by
  cases step with
  | issues here front connected =>
      refine ⟨by rintro ⟨⟩, fun _ => ?_, h.unsubscribed⟩
      obtain connected | subscribed := of_decide_eq_true connected
      · exact connected
      · exact absurd subscribed h.unsubscribed
  | terminates here gone => exact absurd (h.connected here) gone
  | connects new => exact ⟨h.alive, fun _ => rfl, by rintro ⟨⟩⟩
  | disconnects here =>
      exact ⟨h.alive, fun commanding => absurd commanding (untouched _ rfl here), by rintro ⟨⟩⟩
  | goes | exits | locks | sleeps | finds | relocks | rechecks | returns | applies | commands
  | pops | publishes | overruns => exact ⟨by rintro ⟨⟩, by rintro ⟨⟩, h.unsubscribed⟩
  | wakes | enqueue | stop | callLocks | pushes | unlocks | notifies | tests | clears =>
      exact ⟨h.alive, h.connected, h.unsubscribed⟩

/-- A started database is not being disconnected. -/
structure Serves (c : DbThreads T) : Prop where
  here : c.worker ≠ .exited
  undisturbed : ∀ t, c.call t ≠ .disconnecting
  commands : c.Commands

theorem Step.serves (step : Step c a c') (h : c.started = true → c.Serves)
    (started : c'.started = true) : c'.Serves := by
  have before : c.Serves := by
    cases step with
    | clears => cases started
    | _ => exact h started
  have commands := step.commands_keep before.commands
    fun t _ here => absurd here (before.undisturbed t)
  -- a call goes on, but not to `_redis.disconnect()`
  have goes : ∀ {t : T} {pc : CallPc}, pc ≠ .disconnecting →
      ∀ u, Function.update c.call t pc u ≠ .disconnecting := by
    intro t pc other u
    exact call_update (P := (· ≠ .disconnecting)) (before.undisturbed u) fun _ => other
  cases step with
  | exits here stopped => cases started.symm.trans stopped
  | clears => cases started
  | disconnects here => exact absurd here (before.undisturbed _)
  | enqueue | stop | callLocks | pushes | unlocks | notifies =>
      exact ⟨before.here, goes (by rintro ⟨⟩), commands⟩
  | tests here =>
      refine ⟨before.here, goes ?_, commands⟩
      split <;> rintro ⟨⟩
  | wakes | connects => exact ⟨before.here, before.undisturbed, commands⟩
  | _ => exact ⟨by rintro ⟨⟩, before.undisturbed, commands⟩

theorem serves_of_reachable (reached : (System (T := T)).Reachable c)
    (started : c.started = true) : c.Serves := by
  refine reached.invariant (I := fun c => c.started = true → c.Serves) ?_ ?_ started
  · rintro _ rfl _
    exact ⟨by rintro ⟨⟩, fun _ => by rintro ⟨⟩, by rintro ⟨⟩, by rintro ⟨⟩, by rintro ⟨⟩⟩
  · intro c a c' _ h run started
    exact (step_of_run run).serves h started

/-! ## The worker publishes all -/

/-- The operations that have left the queue are in `_db`, and `_db` is published, unless there
was no operation yet or there are more entries than fit. -/
structure Accounted (c : DbThreads T) (log : List OperationItem) : Prop where
  applied : ∃ ops, log = ops ++ c.left ∧ c.db.table = Table.after ops
  published : c.worker.published = true → c.outBuff = [] ∧ log = c.left ∨
    255 < c.db.entries.length ∨ serial c.db = .ok c.outBuff

omit [DecidableEq T] in
theorem accounted_new : Accounted (new : DbThreads T) [] :=
  ⟨⟨[], rfl, rfl⟩, fun _ => .inl ⟨rfl, rfl⟩⟩

omit [DecidableEq T] in
/-- Nothing is pushed, taken or published. -/
theorem Accounted.same {log : List OperationItem} (h : Accounted c log) (db : c'.db = c.db)
    (left : c'.left = c.left) (outBuff : c'.outBuff = c.outBuff)
    (published : c'.worker.published = true → c.worker.published = true) : Accounted c' log := by
  refine ⟨?_, fun now => ?_⟩
  · rw [db, left]
    exact h.applied
  · rw [db, left, outBuff]
    exact h.published (published now)

omit [DecidableEq T] in
/-- The front of the queue goes to `_db`. -/
theorem Accounted.take {log rest : List OperationItem} {item : OperationItem}
    (h : Accounted c log) (taken : c.left = item :: rest) (db : c'.db = c.db.operate item)
    (left : c'.left = rest) (unpublished : c'.worker.published = false) : Accounted c' log := by
  obtain ⟨ops, split, table⟩ := h.applied
  have keyed : c.db.table.Keyed := by
    rw [table]
    exact Table.keyed_after ops
  refine ⟨⟨ops ++ [item], ?_, ?_⟩, fun now => ?_⟩
  · rw [split, taken, left, List.append_assoc, List.singleton_append]
  · rw [db, DbMap.table_operate keyed, table, Table.after_append]
  · cases unpublished.symm.trans now

omit [DecidableEq T] in
/-- A call pushes an operation while nothing is taken from the queue. -/
theorem Accounted.push {log : List OperationItem} {item : OperationItem} (h : Accounted c log)
    (left : c.left = c.opStack) (db : c'.db = c.db) (longer : c'.left = c.opStack ++ [item])
    (outBuff : c'.outBuff = c.outBuff) (worker : c'.worker = c.worker) :
    Accounted c' (log ++ [item]) := by
  obtain ⟨ops, split, table⟩ := h.applied
  refine ⟨⟨ops, ?_, db ▸ table⟩, fun now => ?_⟩
  · rw [split, longer, left, List.append_assoc]
  · rw [db, outBuff, longer]
    refine (h.published (worker ▸ now)).imp_left ?_
    rintro ⟨empty, all⟩
    exact ⟨empty, by rw [all, left]⟩

omit [DecidableEq T] in
/-- `serial` is over, and has not changed the queue. -/
theorem Accounted.serialized {log : List OperationItem} {out : Bytes} (h : Accounted c log)
    (here : c.worker = .serializing)
    (published : 255 < c.db.entries.length ∨ serial c.db = .ok out) :
    Accounted { c with outBuff := out, worker := .testing } log := by
  have same : c.left = left { c with outBuff := out, worker := .testing } := by
    rw [left, here]
    rfl
  refine ⟨?_, fun _ => .inr published⟩
  rw [← same]
  exact h.applied

/-- The steps that push nothing. -/
theorem Step.accounted_other {log : List OperationItem} (step : Step c a c')
    (nothing : pushed c a = []) (h : Accounted c log) : Accounted c' log := by
  cases step with
  | pushes here =>
      rw [pushed, here] at nothing
      cases nothing
  | callLocks | unlocks | notifies | tests | clears | disconnects | wakes | connects | enqueue
  | stop => exact h.same rfl rfl rfl id
  | @applies item rest here front | @issues item rest here front =>
      have taken : c.left = item :: rest := by rw [left, here, front]; rfl
      refine h.take taken ?_ ?_ ?_
      · rfl
      · exact congrArg List.tail front
      · rfl
  | publishes here serialized => exact h.serialized here (.inr serialized)
  | overruns here many => exact h.serialized here (.inl many)
  | pops here front =>
      refine h.same rfl ?_ rfl (by rintro ⟨⟩)
      rw [left, left, here, front]
      rfl
  | goes here | exits here | locks here | sleeps here | finds here | relocks here | rechecks here
  | returns here | commands here | terminates here =>
      refine h.same rfl ?_ rfl fun now => ?_
      · rw [left, left, here]
        rfl
      · first | (rw [here]; rfl) | cases now

theorem Step.accounted {log : List OperationItem} (step : Step c a c') (safe : c.Safe)
    (h : Accounted c log) : Accounted c' (log ++ pushed c a) := by
  by_cases nothing : pushed c a = []
  · rw [nothing, List.append_nil]
    exact step.accounted_other nothing h
  cases step with
  | @pushes t item here =>
      have outside := safe.worker_outside (t := t) (by rw [here]; rfl)
      have unapplied : c.worker.applied = false := by
        cases worker : c.worker <;> rw [worker] at outside <;> first | rfl | cases outside
      rw [show pushed c (.run t) = [item] by rw [pushed, here]]
      refine h.push ?_ rfl ?_ rfl rfl <;>
      · simp only [left, setCall, unapplied]
        rfl
  | callLocks here | unlocks here | tests here | clears here | disconnects here =>
      exact absurd (by rw [pushed, here]) nothing
  | notifies here =>
      exact absurd (by obtain here | here := here <;> rw [pushed, here]) nothing
  | _ => exact absurd rfl nothing

theorem accounted_of_reachable {log : List OperationItem}
    (reached : ((System (T := T)).logged pushed).Reachable (c, log)) : Accounted c log := by
  refine reached.log_invariant (I := fun c log => Accounted c log) ?_ ?_
  · rintro _ rfl
    exact accounted_new
  · intro c a c' log before h run
    exact (step_of_run run).accounted (safe_of_reachable before) h

omit [DecidableEq T] in
/-- The worker sleeps, and no call is about to notify it. -/
theorem Accounted.caughtUp {log : List OperationItem} (h : Accounted c log) (safe : c.Safe)
    (few : c.load ≤ 255) (asleep : c.monitor.asleep none = true) (quiet : ∀ t, ¬ (c.call t).Owes) :
    c.opStack = [] ∧ (c.outBuff = [] ∧ log = [] ∨ Encodes c.outBuff (Table.after log)) := by
  have empty : c.opStack = [] := not_not.mp (safe.woken.not_ready asleep quiet)
  have waiting : c.worker = .waiting := (safe.sleeps none asleep).2
  have nothing : c.left = [] := by rw [left, waiting]; exact empty
  have entries : c.db.entries.length ≤ 255 := (Nat.le_add_right _ _).trans few
  obtain ⟨ops, split, table⟩ := h.applied
  rw [nothing, List.append_nil] at split
  subst split
  refine ⟨empty, ?_⟩
  obtain ⟨unpublished, none⟩ | many | serialized := h.published (by rw [waiting]; rfl)
  · exact .inl ⟨unpublished, none.trans nothing⟩
  · omega
  · refine .inr ?_
    rw [← table]
    have keyed : c.db.table.Keyed := by
      rw [table]
      exact Table.keyed_after log
    obtain ⟨out, same, encodes⟩ := encodes_serial (s := ⟨c.db, fun _ _ => none⟩) keyed entries
    obtain rfl := Except.ok.inj (serialized.symm.trans same)
    exact encodes

/-- No call holds the mutex or owes a notification. -/
def Quiet (c : DbThreads T) : Prop := ∀ t, (c.call t).inside = false ∧ ¬ (c.call t).Owes

/-- The worker can go on by itself with what has been pushed. -/
structure Alone (log : List OperationItem) (c : DbThreads T) : Prop where
  safe : c.Safe
  accounted : Accounted c log
  started : c.started = true
  serves : c.Serves
  quiet : c.Quiet
  few : c.load ≤ 255

theorem Alone.goes {log : List OperationItem} (c : DbThreads T) (h : c.Alone log)
    (up : ¬ c.monitor.asleep none = true) :
    ∃ c', c.step .worker = some c' ∧ c'.Alone log ∧ c'.rank < c.rank := by
  have up := Bool.eq_false_iff.mpr up
  obtain ⟨c', run⟩ := h.safe.enabled (fun t => (h.quiet t).1) h.few up h.serves.here
    h.serves.commands.alive
  have step := step_of_run run
  obtain ⟨sameStarted, sameCall, _⟩ := step.kept
  have started := sameStarted.trans h.started
  have accounted := step.accounted h.safe h.accounted
  rw [show pushed c .worker = [] from rfl, List.append_nil] at accounted
  have quiet : c'.Quiet := by
    rw [Quiet, sameCall]
    exact h.quiet
  exact ⟨c', run, ⟨step.safe h.safe, accounted, started, step.serves (fun _ => h.serves) started,
    quiet, step.load_le.trans h.few⟩, step.rank_lt h.started up⟩

/-- From every reachable state in which the database is started and the calls are quiet, at
most `7 n + 8` steps of the worker alone, for `n` operations in the queue, lead to its sleep
with all pushed operations published, if the entries and the operations are 255 at most. -/
theorem worker_publishes_all {log : List OperationItem}
    (reached : ((System (T := T)).logged pushed).Reachable (c, log))
    (started : c.started = true) (quiet : c.Quiet)
    (few : c.db.entries.length + c.opStack.length ≤ 255) :
    ∃ n c', n ≤ 7 * c.opStack.length + 8 ∧
      System.runSteps step c (List.replicate n .worker) = some c' ∧
      c'.monitor.asleep none = true ∧ c'.opStack = [] ∧
      (c'.outBuff = [] ∧ log = [] ∨ Encodes c'.outBuff (Table.after log)) := by
  have reached' := reached.of_logged
  have alone : c.Alone log := ⟨safe_of_reachable reached', accounted_of_reachable reached,
    started, serves_of_reachable reached' started, quiet, load_le_of_few few⟩
  obtain ⟨n, c', le, run, alone', asleep⟩ := System.exists_repeat Alone.goes alone
  obtain ⟨empty, published⟩ := alone'.accounted.caughtUp alone'.safe alone'.few asleep
    fun t => (alone'.quiet t).2
  refine ⟨n, c', le.trans ?_, run, asleep, empty, published⟩
  rw [rank]
  split
  · omega
  · cases c.worker <;> simp [WorkerPc.rank]

theorem exists_run (as : List (DbAction Bool)) {P : DbThreads Bool → List OperationItem → Prop}
    (check : ∃ p ∈ System.runSteps (System.logStep step pushed) (new, []) as, P p.1 p.2) :
    ∃ c log, ((System (T := Bool)).logged pushed).Reachable (c, log) ∧ P c log :=
  System.logged_of_steps rfl check

theorem worker_publishes_all_bothPush : ∃ (c : DbThreads Bool) (log : List OperationItem),
    log.length = 2 ∧ c.monitor.asleep none = false ∧ ∃ n c', n ≤ 22 ∧
      System.runSteps step c (List.replicate n .worker) = some c' ∧
      c'.monitor.asleep none = true ∧ c'.opStack = [] ∧
      (c'.outBuff = [] ∧ log = [] ∨ Encodes c'.outBuff (Table.after log)) := by
  obtain ⟨c, log, reached, two, up, queue, one, other, started, few⟩ :=
    exists_run (bothPush.take 14) (P := fun c log => log.length = 2 ∧
      c.monitor.asleep none = false ∧ c.opStack.length = 2 ∧ c.call true = .idle ∧
        c.call false = .idle ∧ c.started = true ∧
          c.db.entries.length + c.opStack.length ≤ 255) (by decide +kernel)
  have quiet : c.Quiet := by
    rintro (_ | _) <;> simp [CallPc.Owes, CallPc.inside, one, other]
  have all := worker_publishes_all reached started quiet few
  rw [queue] at all
  exact ⟨c, log, two, up, all⟩

/-! ## The end of the worker -/

/-- The worker has found `_started` set, and goes on to wait. -/
def Drowsy (c : DbThreads T) : Prop :=
  (c.worker = .locking ∨ c.worker = .checking) ∧ c.opStack = []

/-- `stop` does not disconnect the client between the test of the worker and its command, and
does not notify the worker between its test of `_started` and its wait. -/
def Heeds (c : DbThreads T) : DbAction T → Prop
  | .run t => (c.call t = .disconnecting → c.worker ≠ .commanding) ∧
      (c.call t = .notifyingStop → ¬ c.Drowsy)
  | _ => True

/-- After `stop` the worker is up and not on its way to wait, once it is notified. -/
def Told (c : DbThreads T) : Prop :=
  c.started = false → (∃ t, (c.call t).Stops) ∨ c.monitor.asleep none = false ∧ ¬ c.Drowsy

/-- After `stop` the client is closed, once it is disconnected. -/
def Disconnected (c : DbThreads T) : Prop :=
  c.started = false → (∃ t, c.call t = .disconnecting) ∨ c.redis = .closed

theorem Step.told (step : Step c a c') (heeds : Heeds c a) (h : c.Told) : c'.Told := by
  intro stopped
  have lets : ∀ {t : T} {pc : CallPc}, ¬ (c.call t).Stops ∨ pc.Stops → c.started = false →
      (∃ u, (Function.update c.call t pc u).Stops) ∨
        c.monitor.asleep none = false ∧ ¬ c.Drowsy := by
    intro t pc goes stopped
    refine (h stopped).imp_left ?_
    rintro ⟨u, here⟩
    exact ⟨u, call_update (P := CallPc.Stops) here (goes.resolve_left ∘ not_not_intro)⟩
  cases step with
  | goes here started | rechecks here started => cases started.symm.trans stopped
  | exits | finds | returns | applies | issues | commands | terminates | pops | publishes
  | overruns =>
      refine (h stopped).imp_right fun awake => ⟨awake.1, ?_⟩
      rintro ⟨now | now, _⟩ <;> cases now
  | locks here taken =>
      obtain ⟨_, rfl⟩ := Monitor.lock_eq_some_iff.mp taken
      refine (h stopped).imp_right fun awake => ⟨awake.1, ?_⟩
      rintro ⟨_, empty⟩
      exact awake.2 ⟨.inl here, empty⟩
  | sleeps here empty =>
      exact (h stopped).imp_right fun awake => absurd ⟨.inr here, empty⟩ awake.2
  | relocks here up taken =>
      obtain ⟨_, rfl⟩ := Monitor.lock_eq_some_iff.mp taken
      refine (h stopped).imp_right fun _ => ⟨up, ?_⟩
      rintro ⟨now | now, _⟩ <;> cases now
  | connects => exact h stopped
  | wakes here =>
      refine .inr ⟨by simp [Monitor.wake], ?_⟩
      rintro ⟨now | now, _⟩ <;> cases here.symm.trans now
  | enqueue t item here | stop t here => exact lets (.inl (by simp [CallPc.Stops, here])) stopped
  | callLocks here taken =>
      obtain ⟨_, rfl⟩ := Monitor.lock_eq_some_iff.mp taken
      exact lets (.inl (by simp [CallPc.Stops, here])) stopped
  | unlocks here | tests here => exact lets (.inl (by simp [CallPc.Stops, here])) stopped
  | pushes here =>
      refine (lets (.inl (by simp [CallPc.Stops, here])) stopped).imp_right
        fun awake => ⟨awake.1, ?_⟩
      rintro ⟨_, empty⟩
      cases List.append_ne_nil_of_right_ne_nil _ (List.cons_ne_nil _ _) empty
  | notifies here =>
      obtain here | here := here
      · refine (lets (.inl (by simp [CallPc.Stops, here])) stopped).imp_right
          fun awake => ⟨rfl, awake.2⟩
      · exact .inr ⟨rfl, heeds.2 here⟩
  | @clears t here =>
      refine .inl ⟨t, .inl ?_⟩
      exact Function.update_self (f := c.call) ..
  | disconnects here => exact lets (.inr (.inr rfl)) stopped

theorem Step.disconnected (step : Step c a c') (h : c.Disconnected) : c'.Disconnected := by
  intro stopped
  have lets : ∀ {t : T} {pc : CallPc}, c.call t ≠ .disconnecting → c.started = false →
      (∃ u, Function.update c.call t pc u = .disconnecting) ∨ c.redis = .closed := by
    intro t pc other stopped
    refine (h stopped).imp_left ?_
    rintro ⟨u, here⟩
    exact ⟨u, call_update (P := (· = .disconnecting)) here (absurd · other)⟩
  cases step with
  | connects new =>
      obtain disconnecting | closed := h stopped
      · exact .inl disconnecting
      · cases new.symm.trans closed
  | enqueue t item here | stop t here | callLocks here | pushes here | unlocks here | tests here =>
      exact lets (by simp [here]) stopped
  | notifies here =>
      refine lets ?_ stopped
      obtain here | here := here <;> simp [here]
  | @clears t here => exact .inl ⟨t, Function.update_self (f := c.call) ..⟩
  | disconnects => exact .inr rfl
  | _ => exact h stopped

/-- The steps of a worker that finds the database stopped. -/
def stoppedRank (c : DbThreads T) : Nat :=
  match c.worker with
  | .locking => 6
  | .checking => 5
  | .applying | .waiting => 4
  | .popping | .woken => 3
  | .serializing => 2
  | .testing => 1
  | .commanding | .exited | .terminated => 0

theorem Step.stoppedRank_lt (step : Step c .worker c') (stopped : c.started = false)
    (closed : c.redis = .closed) (unissued : c.worker ≠ .commanding) (awake : ¬ c.Drowsy) :
    c'.stoppedRank < c.stoppedRank := by
  cases step with
  | goes here started | rechecks here started => cases started.symm.trans stopped
  | sleeps here empty => exact absurd ⟨.inr here, empty⟩ awake
  | issues here front connected => simp [isConnected, closed] at connected
  | commands here | terminates here => exact absurd here unissued
  | exits here | locks here | finds here | relocks here | returns here | applies here
  | pops here | publishes here => simp [stoppedRank, here]

/-- The worker of a stopped database is on its way out. -/
structure Leaving (c : DbThreads T) : Prop where
  safe : c.Safe
  told : c.Told
  commands : c.Commands
  stopped : c.started = false
  closed : c.redis = .closed
  returned : ∀ t, ¬ (c.call t).Stops
  free : ∀ t, (c.call t).inside = false
  few : c.load ≤ 255

theorem Leaving.goes (c : DbThreads T) (h : c.Leaving) (here : ¬ c.worker = .exited) :
    ∃ c', c.step .worker = some c' ∧ c'.Leaving ∧ c'.stoppedRank < c.stoppedRank := by
  have awake : c.monitor.asleep none = false ∧ ¬ c.Drowsy := by
    obtain ⟨t, stops⟩ | awake := h.told h.stopped
    · exact absurd stops (h.returned t)
    · exact awake
  have unissued : c.worker ≠ .commanding := by
    intro commanding
    cases h.closed.symm.trans (h.commands.connected commanding)
  obtain ⟨c', run⟩ := h.safe.enabled h.free h.few awake.1 here h.commands.alive
  have step := step_of_run run
  obtain ⟨sameStarted, sameCall, sameRedis⟩ := step.kept
  have commands := step.commands_keep h.commands fun _ same => by cases same
  refine ⟨c', run, ⟨step.safe h.safe, step.told trivial h.told, commands,
    sameStarted.trans h.stopped, sameRedis.trans h.closed, ?_, ?_, step.load_le.trans h.few⟩,
    step.stoppedRank_lt h.stopped h.closed unissued awake.2⟩
  · rw [sameCall]
    exact h.returned
  · rw [sameCall]
    exact h.free

/-- When no `stop` disconnects the client between the test of the worker and its command, and
none notifies the worker between its test of `_started` and its wait, then a database whose
`stop` has returned has a worker that exits after six steps at most, as soon as the calls let
it, if the entries and the operations are 255 at most. -/
theorem stop_ends_worker (reached : ((System (T := T)).restrict Heeds).Reachable c)
    (stopped : c.started = false) (returned : ∀ t, ¬ (c.call t).Stops)
    (free : ∀ t, (c.call t).inside = false)
    (few : c.db.entries.length + c.opStack.length ≤ 255) :
    ∃ n c', n ≤ 6 ∧ System.runSteps step c (List.replicate n .worker) = some c' ∧
      c'.worker = .exited := by
  obtain ⟨told, disconnected, commands⟩ : c.Told ∧ c.Disconnected ∧ c.Commands := by
    refine reached.invariant (I := fun c => c.Told ∧ c.Disconnected ∧ c.Commands) ?_ ?_
    · rintro _ rfl
      exact ⟨by rintro ⟨⟩, by rintro ⟨⟩, by rintro ⟨⟩, by rintro ⟨⟩, by rintro ⟨⟩⟩
    · rintro c a c' _ ⟨told, disconnected, commands⟩ ⟨heeds, run⟩
      have step := step_of_run run
      refine ⟨step.told heeds told, step.disconnected disconnected, step.commands_keep commands ?_⟩
      rintro t rfl
      exact heeds.1
  have closed : c.redis = .closed := by
    obtain ⟨t, here⟩ | closed := disconnected stopped
    · exact absurd (.inl here) (returned t)
    · exact closed
  have leaving : c.Leaving := ⟨safe_of_reachable reached.of_restrict, told, commands, stopped,
    closed, returned, free, load_le_of_few few⟩
  obtain ⟨n, c', le, run, _, exited⟩ := System.exists_repeat Leaving.goes leaving
  refine ⟨n, c', le.trans ?_, run, exited⟩
  rw [stoppedRank]
  cases c.worker <;> decide

/-- A test for `Heeds`. -/
def heeds (c : DbThreads Bool) (_ : DbAction Bool) : Bool :=
  c.worker ≠ .commanding ∧ c.worker ≠ .locking ∧ c.worker ≠ .checking ∨
    ∀ t, c.call t ≠ .disconnecting ∧ c.call t ≠ .notifyingStop

theorem heeds_sound (c : DbThreads Bool) (a : DbAction Bool) (tested : heeds c a = true) :
    Heeds c a := by
  cases a with
  | run t =>
      obtain ⟨unissued, before, within⟩ | returned := of_decide_eq_true tested
      · refine ⟨fun _ => unissued, fun _ => ?_⟩
        rintro ⟨now | now, _⟩
        · exact before now
        · exact within now
      · exact ⟨fun here => absurd here (returned t).1, fun here => absurd here (returned t).2⟩
  | worker | wakes | overruns | connects | enqueue | stop => trivial

theorem exists_heeded (as : List (DbAction Bool)) {P : DbThreads Bool → Prop}
    (check : ∃ c ∈ System.runSteps (fun c a => if heeds c a then step c a else none) new as, P c) :
    ∃ c, ((System (T := Bool)).restrict Heeds).Reachable c ∧ P c :=
  System.reachable_of_testedSteps heeds_sound rfl check

/-- A `stop` that finds the client connected and the worker asleep. -/
def stopAsleep : List (DbAction Bool) :=
  [.connects, .worker, .worker, .worker, .stop true, .run true, .run true, .run true, .run true]

theorem stop_ends_worker_asleep : ∃ c : DbThreads Bool, c.worker = .waiting ∧
    ∃ n c', n ≤ 6 ∧ System.runSteps step c (List.replicate n .worker) = some c' ∧
      c'.worker = .exited := by
  obtain ⟨c, reached, waiting, stopped, few, one, other⟩ :=
    exists_heeded stopAsleep (P := fun c => c.worker = .waiting ∧ c.started = false ∧
      c.db.entries.length + c.opStack.length ≤ 255 ∧ c.call true = .idle ∧
        c.call false = .idle) (by decide +kernel)
  refine ⟨c, waiting, stop_ends_worker reached stopped ?_ ?_ few⟩
  · rintro (_ | _) <;> simp [CallPc.Stops, one, other]
  · rintro (_ | _) <;> simp [CallPc.inside, one, other]

/-- A `stop` that finds the worker before its lock returns, and the worker falls asleep. -/
example :
    ∃ c ∈ System.runSteps step (new : DbThreads Bool)
      ([.worker, .stop true] ++ .replicate 4 (.run true) ++ [.worker, .worker]),
      c.started = false ∧ c.monitor.asleep none = true ∧ c.opStack = [] ∧
        c.call true = .idle ∧ c.call false = .idle := by
  decide +kernel

/-- A `stop` that finds the worker between `isConnected` and `command`. -/
example :
    ∃ c ∈ System.runSteps step (new : DbThreads Bool)
      ([.connects, .enqueue false (.add ⟨1000, 0, [0x41]⟩)] ++ .replicate 4 (.run false) ++
        .replicate 4 .worker ++ [.stop true] ++ .replicate 3 (.run true) ++ [.worker]),
      c.worker = .terminated := by
  decide +kernel

end DbThreads

end NatProxy
