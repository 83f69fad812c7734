import NatProxy.Db.Capacity
import NatProxy.Db.Publication
import NatProxy.Redis.Client
import NatProxy.Transition.Monitor

/-!
# The threads of the session database

`add` and `del` are called by the threads of the sessions, `stop` by that of the owner, and
`worker` runs on its own thread. `_op_mutex` guards the queue, and the worker waits for
`_op_cond` while the queue is empty. `_started` is read and written without the mutex.

Each use of the mutex, of the condition, of `_started` and of the state of the Redis client is
a step of its own. The mutex keeps the worker and the callers apart, and the worker sleeps with
operations in the queue only while a call is about to notify it. Nothing keeps `stop` from
disconnecting the client after the worker has asked whether it is connected.

What the commands do to the hashes is left out here.
-/

namespace NatProxy

open Memory Transition

namespace DbMap

/-- What the switch of `operate` does to `_db`. -/
def operate (db : DbMap) : OperationItem → DbMap
  | .add info => if info.uiId ∈ db then db else db.insert info.uiId info
  | .del uiId =>
      match db.lookup uiId with
      | none => db
      | some info => db.erase info.uiId

/-- The switch asks whether Redis is connected, to issue a command. -/
def asks (db : DbMap) : OperationItem → Bool
  | .add _ => true
  | .del uiId => (db.lookup uiId).isSome

end DbMap

theorem DbStore.db_operate (s : DbStore) (item : OperationItem) :
    (s.operate item).db = DbMap.operate s.db item := by
  cases item with
  | add info => rfl
  | del uiId =>
      rw [DbStore.operate, DbMap.operate]
      cases s.db.lookup uiId <;> rfl

/-- Where the thread of the worker is. -/
inductive WorkerPc
  /-- `while (_started)` of `worker`. -/
  | testing
  /-- The lock at the beginning of `operate`. -/
  | locking
  /-- `while (_op_stack.empty())`, with the mutex. -/
  | checking
  /-- In `_op_cond.wait`. -/
  | waiting
  /-- `if (!_started)` after the wait, with the mutex. -/
  | woken
  /-- The switch of `operate`, with the mutex, up to the test of `isConnected`. -/
  | applying
  /-- `command` of the Redis client. -/
  | commanding
  /-- `_op_stack.pop_front()` and the end of the lock. -/
  | popping
  | serializing
  | exited
  /-- `command` has found the client disconnected. Its assertion, or its exception, which leaves
  the thread, has ended the process. -/
  | terminated
  deriving DecidableEq, Repr

/-- Where a call of `add`, `del` or `stop` is. -/
inductive CallPc
  | idle
  | locking (item : OperationItem)
  | pushing (item : OperationItem)
  | unlocking
  /-- `notify_all` of `add` or `del`. -/
  | notifying
  /-- `if (_started)` of `stop`. -/
  | testing
  | clearing
  /-- `_redis.disconnect()` of `stop`. -/
  | disconnecting
  /-- `notify_all` of `stop`. -/
  | notifyingStop
  deriving DecidableEq, Repr

/-- The database and its threads: the worker is `none`, a caller `some t`. -/
structure DbThreads (T : Type) where
  db : DbMap
  /-- The state of the Redis client. -/
  redis : ClientState
  opStack : List OperationItem
  outBuff : Bytes
  started : Bool
  monitor : Monitor (Option T)
  worker : WorkerPc
  call : T → CallPc

inductive DbAction (T : Type)
  | worker
  /-- `wait` returns without a notification. -/
  | wakes
  /-- `serial` has more entries than fit. It writes outside `_buff`, and goes on with some
  string. -/
  | overruns (out : Bytes)
  /-- `handleAsyncConnect` of the Redis client. On a closed socket its `set_option` throws. -/
  | connects
  /-- A thread calls `add` or `del`. -/
  | enqueue (t : T) (item : OperationItem)
  | stop (t : T)
  /-- A thread goes on with its call. -/
  | run (t : T)
  deriving DecidableEq, Repr

namespace DbThreads

variable {T : Type} [DecidableEq T]

/-- After `start`. -/
def new : DbThreads T where
  db := ∅
  redis := .notConnected
  opStack := []
  outBuff := []
  started := true
  monitor := .free
  worker := .testing
  call := fun _ => .idle

def setCall (c : DbThreads T) (t : T) (pc : CallPc) : DbThreads T :=
  { c with call := Function.update c.call t pc }

/-- `_redis.isConnected()` -/
def isConnected (c : DbThreads T) : Bool := c.redis = .connected ∨ c.redis = .subscribed

/-- The worker goes on. -/
def runWorker (c : DbThreads T) : Option (DbThreads T) :=
  match c.worker with
  | .testing => some { c with worker := if c.started then .locking else .exited }
  | .locking => (c.monitor.lock none).map fun monitor => { c with monitor, worker := .checking }
  | .checking =>
      match c.opStack with
      | [] => some { c with monitor := c.monitor.wait none, worker := .waiting }
      | _ :: _ => some { c with worker := .applying }
  | .waiting =>
      if c.monitor.asleep none then none
      else (c.monitor.lock none).map fun monitor => { c with monitor, worker := .woken }
  | .woken =>
      if c.started then some { c with worker := .checking }
      else some { c with monitor := c.monitor.unlock, worker := .serializing }
  | .applying =>
      match c.opStack with
      | [] => none
      | item :: _ =>
          some { c with
            db := c.db.operate item
            worker := if c.db.asks item ∧ c.isConnected then .commanding else .popping }
  | .commanding =>
      some { c with worker := if c.redis = .connected then .popping else .terminated }
  | .popping =>
      match c.opStack with
      | [] => none
      | _ :: rest =>
          some { c with opStack := rest, monitor := c.monitor.unlock, worker := .serializing }
  | .serializing =>
      match serial c.db with
      | .ok outBuff => some { c with outBuff, worker := .testing }
      | .error _ => none
  | .exited | .terminated => none

/-- A caller goes on. -/
def runCall (c : DbThreads T) (t : T) : Option (DbThreads T) :=
  match c.call t with
  | .idle => none
  | .locking item =>
      (c.monitor.lock (some t)).map fun monitor => { c with monitor }.setCall t (.pushing item)
  | .pushing item => some ({ c with opStack := c.opStack ++ [item] }.setCall t .unlocking)
  | .unlocking => some ({ c with monitor := c.monitor.unlock }.setCall t .notifying)
  | .notifying => some ({ c with monitor := c.monitor.notifyAll }.setCall t .idle)
  | .testing => some (c.setCall t (if c.started then .clearing else .idle))
  | .clearing => some ({ c with started := false }.setCall t .disconnecting)
  | .disconnecting => some ({ c with redis := .closed }.setCall t .notifyingStop)
  | .notifyingStop => some ({ c with monitor := c.monitor.notifyAll }.setCall t .idle)

def run (c : DbThreads T) : DbAction T → Option (DbThreads T)
  | .worker => c.runWorker
  | .wakes => if c.worker = .waiting then some { c with monitor := c.monitor.wake none } else none
  | .overruns out =>
      match c.worker, serial c.db with
      | .serializing, .error _ => some { c with outBuff := out, worker := .testing }
      | _, _ => none
  | .connects => if c.redis = .notConnected then some { c with redis := .connected } else none
  | .enqueue t item => if c.call t = .idle then some (c.setCall t (.locking item)) else none
  | .stop t => if c.call t = .idle then some (c.setCall t .testing) else none
  | .run t => c.runCall t

/-- The threads run as long as the process does. -/
def step (c : DbThreads T) (a : DbAction T) : Option (DbThreads T) :=
  if c.worker = .terminated then none else c.run a

def System : Transition.System (DbThreads T) (DbAction T) :=
  .ofStep (fun c => c = new) step

/-- The steps one by one. -/
inductive Step : DbThreads T → DbAction T → DbThreads T → Prop
  | goes {c} (here : c.worker = .testing) (started : c.started = true) :
      Step c .worker { c with worker := .locking }
  | exits {c} (here : c.worker = .testing) (stopped : c.started = false) :
      Step c .worker { c with worker := .exited }
  | locks {c monitor} (here : c.worker = .locking) (taken : c.monitor.lock none = some monitor) :
      Step c .worker { c with monitor, worker := .checking }
  | sleeps {c} (here : c.worker = .checking) (empty : c.opStack = []) :
      Step c .worker { c with monitor := c.monitor.wait none, worker := .waiting }
  | finds {c item rest} (here : c.worker = .checking) (front : c.opStack = item :: rest) :
      Step c .worker { c with worker := .applying }
  | relocks {c monitor} (here : c.worker = .waiting) (awake : c.monitor.asleep none = false)
      (taken : c.monitor.lock none = some monitor) :
      Step c .worker { c with monitor, worker := .woken }
  | rechecks {c} (here : c.worker = .woken) (started : c.started = true) :
      Step c .worker { c with worker := .checking }
  | returns {c} (here : c.worker = .woken) (stopped : c.started = false) :
      Step c .worker { c with monitor := c.monitor.unlock, worker := .serializing }
  | applies {c item rest} (here : c.worker = .applying) (front : c.opStack = item :: rest) :
      Step c .worker { c with db := c.db.operate item, worker := .popping }
  | issues {c item rest} (here : c.worker = .applying) (front : c.opStack = item :: rest)
      (connected : c.isConnected = true) :
      Step c .worker { c with db := c.db.operate item, worker := .commanding }
  | commands {c} (here : c.worker = .commanding) (connected : c.redis = .connected) :
      Step c .worker { c with worker := .popping }
  | terminates {c} (here : c.worker = .commanding) (gone : c.redis ≠ .connected) :
      Step c .worker { c with worker := .terminated }
  | pops {c item rest} (here : c.worker = .popping) (front : c.opStack = item :: rest) :
      Step c .worker
        { c with opStack := rest, monitor := c.monitor.unlock, worker := .serializing }
  | publishes {c out} (here : c.worker = .serializing) (serialized : serial c.db = .ok out) :
      Step c .worker { c with outBuff := out, worker := .testing }
  | overruns {c out} (here : c.worker = .serializing) (many : 255 < c.db.entries.length) :
      Step c (.overruns out) { c with outBuff := out, worker := .testing }
  | connects {c} (new : c.redis = .notConnected) : Step c .connects { c with redis := .connected }
  | wakes {c} (here : c.worker = .waiting) :
      Step c .wakes { c with monitor := c.monitor.wake none }
  | enqueue {c} (t : T) (item : OperationItem) (idle : c.call t = .idle) :
      Step c (.enqueue t item) (c.setCall t (.locking item))
  | stop {c} (t : T) (idle : c.call t = .idle) : Step c (.stop t) (c.setCall t .testing)
  | callLocks {c t item monitor} (here : c.call t = .locking item)
      (taken : c.monitor.lock (some t) = some monitor) :
      Step c (.run t) ({ c with monitor }.setCall t (.pushing item))
  | pushes {c t item} (here : c.call t = .pushing item) :
      Step c (.run t) ({ c with opStack := c.opStack ++ [item] }.setCall t .unlocking)
  | unlocks {c t} (here : c.call t = .unlocking) :
      Step c (.run t) ({ c with monitor := c.monitor.unlock }.setCall t .notifying)
  | notifies {c t} (here : c.call t = .notifying ∨ c.call t = .notifyingStop) :
      Step c (.run t) ({ c with monitor := c.monitor.notifyAll }.setCall t .idle)
  | tests {c t} (here : c.call t = .testing) :
      Step c (.run t) (c.setCall t (if c.started then .clearing else .idle))
  | clears {c t} (here : c.call t = .clearing) :
      Step c (.run t) ({ c with started := false }.setCall t .disconnecting)
  | disconnects {c t} (here : c.call t = .disconnecting) :
      Step c (.run t) ({ c with redis := .closed }.setCall t .notifyingStop)

variable {c c' : DbThreads T}

theorem step_of_runWorker (run : c.runWorker = some c') : Step c .worker c' := by
  rw [runWorker] at run
  split at run
  · next here =>
    obtain rfl := Option.some.inj run
    by_cases started : c.started = true
    · rw [if_pos started]
      exact .goes here started
    · rw [if_neg started]
      exact .exits here (Bool.eq_false_iff.mpr started)
  · next here =>
    obtain ⟨monitor, taken, rfl⟩ := Option.map_eq_some_iff.mp run
    exact .locks here taken
  · next here =>
    split at run <;> obtain rfl := Option.some.inj run
    · next empty => exact .sleeps here empty
    · next front => exact .finds here front
  · next here =>
    obtain ⟨awake, run⟩ := Option.ite_none_left_eq_some.mp run
    obtain ⟨monitor, taken, rfl⟩ := Option.map_eq_some_iff.mp run
    exact .relocks here (Bool.eq_false_iff.mpr awake) taken
  · next here =>
    split at run <;> obtain rfl := Option.some.inj run
    · next started => exact .rechecks here started
    · next stopped => exact .returns here (Bool.eq_false_iff.mpr stopped)
  · next here =>
    split at run
    · cases run
    · next item _ front =>
      obtain rfl := Option.some.inj run
      by_cases issued : c.db.asks item = true ∧ c.isConnected = true
      · rw [if_pos issued]
        exact .issues here front issued.2
      · rw [if_neg issued]
        exact .applies here front
  · next here =>
    obtain rfl := Option.some.inj run
    by_cases connected : c.redis = .connected
    · rw [if_pos connected]
      exact .commands here connected
    · rw [if_neg connected]
      exact .terminates here connected
  · next here =>
    split at run
    · cases run
    · next front =>
      obtain rfl := Option.some.inj run
      exact .pops here front
  · next here =>
    split at run
    · next serialized =>
      obtain rfl := Option.some.inj run
      exact .publishes here serialized
    · cases run
  · cases run
  · cases run

theorem step_of_runCall {t : T} (run : c.runCall t = some c') : Step c (.run t) c' := by
  rw [runCall] at run
  split at run
  · cases run
  · next here =>
    obtain ⟨monitor, taken, rfl⟩ := Option.map_eq_some_iff.mp run
    exact .callLocks here taken
  all_goals
    next here =>
    obtain rfl := Option.some.inj run
    first
      | exact .pushes here
      | exact .unlocks here
      | exact .notifies (.inl here)
      | exact .tests here
      | exact .clears here
      | exact .disconnects here
      | exact .notifies (.inr here)

theorem step_of_run {a : DbAction T} (run : c.step a = some c') : Step c a c' := by
  obtain ⟨_, run⟩ := Option.ite_none_left_eq_some.mp run
  cases a with
  | worker => exact step_of_runWorker run
  | wakes =>
      obtain ⟨here, same⟩ := Option.ite_none_right_eq_some.mp run
      obtain rfl := Option.some.inj same
      exact .wakes here
  | overruns out =>
      rw [DbThreads.run] at run
      split at run
      · next here overflow =>
        obtain rfl := Option.some.inj run
        refine .overruns here (Nat.lt_of_not_le fun few => ?_)
        rw [serial_eq few] at overflow
        cases overflow
      · cases run
  | connects =>
      obtain ⟨new, same⟩ := Option.ite_none_right_eq_some.mp run
      obtain rfl := Option.some.inj same
      exact .connects new
  | enqueue t item =>
      obtain ⟨idle, same⟩ := Option.ite_none_right_eq_some.mp run
      obtain rfl := Option.some.inj same
      exact .enqueue t item idle
  | stop t =>
      obtain ⟨idle, same⟩ := Option.ite_none_right_eq_some.mp run
      obtain rfl := Option.some.inj same
      exact .stop t idle
  | run t => exact step_of_runCall run

/-- The operations in the order in which they are pushed. -/
def pushed (c : DbThreads T) : DbAction T → List OperationItem
  | .run t =>
      match c.call t with
      | .pushing item => [item]
      | _ => []
  | _ => []

/-! ## The mutex and the condition -/

end DbThreads

/-- The worker has the mutex. -/
def WorkerPc.inside : WorkerPc → Bool
  | .checking | .woken | .applying | .commanding | .popping | .terminated => true
  | _ => false

/-- The worker has something in the queue. -/
def WorkerPc.busy : WorkerPc → Bool
  | .applying | .commanding | .popping => true
  | _ => false

def CallPc.inside : CallPc → Bool
  | .pushing _ | .unlocking => true
  | _ => false

/-- The call has pushed its operation and has still to notify the worker. -/
def CallPc.Owes (pc : CallPc) : Prop := pc = .unlocking ∨ pc = .notifying

namespace DbThreads

variable {T : Type} {c c' : DbThreads T} {a : DbAction T}

def inside (c : DbThreads T) : Option T → Bool
  | none => c.worker.inside
  | some t => (c.call t).inside

/-- What the mutex and the condition keep. -/
structure Safe (c : DbThreads T) : Prop where
  guards : c.monitor.Guards c.inside
  sleeps : ∀ t, c.monitor.asleep t = true → t = none ∧ c.worker = .waiting
  front : c.worker.busy = true → c.opStack ≠ []
  woken : Woken (fun c t => Monitor.asleep (DbThreads.monitor c) t = true)
    (fun c => c.opStack ≠ []) (fun c (t : T) => (c.call t).Owes) c

variable [DecidableEq T]

theorem guards_worker {m : Monitor (Option T)} (call : c'.call = c.call)
    (h : m.Guards (Function.update c.inside none c'.worker.inside)) : m.Guards c'.inside := by
  intro t
  rw [h t]
  cases t with
  | none => rw [Function.update_self, inside]
  | some t => rw [Function.update_of_ne (Option.some_ne_none t), inside, inside, call]

theorem guards_call {m : Monitor (Option T)} {t : T} {pc : CallPc} (worker : c'.worker = c.worker)
    (call : c'.call = Function.update c.call t pc)
    (h : m.Guards (Function.update c.inside (some t) pc.inside)) : m.Guards c'.inside := by
  intro u
  rw [h u]
  cases u with
  | none => rw [Function.update_of_ne (Option.some_ne_none t).symm, inside, inside, worker]
  | some u =>
      rw [inside, call]
      by_cases eq : u = t
      · subst eq
        rw [Function.update_self, Function.update_self]
      · rw [Function.update_of_ne eq, Function.update_of_ne (fun same => eq (Option.some.inj same)),
          inside]

theorem Step.guards (step : Step c a c') (h : c.monitor.Guards c.inside) :
    c'.monitor.Guards c'.inside := by
  cases step with
  | goes here | exits here | finds here | rechecks here | applies here | issues here
  | commands here | terminates here | publishes here | overruns here =>
      refine guards_worker (c := c) rfl ?_
      exact h.keep (by rw [inside, here]; rfl)
  | locks here taken | relocks here _ taken =>
      refine guards_worker (c := c) rfl ?_
      exact h.lock taken
  | sleeps here | returns here | pops here =>
      refine guards_worker (c := c) rfl ?_
      exact h.leave (by rw [inside, here]; rfl) rfl
  | wakes | connects => exact h
  | enqueue t item here | stop t here =>
      refine guards_call (c := c) rfl rfl ?_
      exact h.keep (by rw [inside, here]; rfl)
  | callLocks here taken =>
      refine guards_call (c := c) rfl rfl ?_
      exact h.lock taken
  | pushes here | clears here | disconnects here =>
      refine guards_call (c := c) rfl rfl ?_
      exact h.keep (by rw [inside, here]; rfl)
  | unlocks here =>
      refine guards_call (c := c) rfl rfl ?_
      exact h.leave (by rw [inside, here]; rfl) rfl
  | @notifies t here =>
      refine guards_call (c := c) rfl rfl ?_
      have outside : c.inside (some t) = false := by
        rw [inside]
        obtain here | here := here <;> rw [here] <;> rfl
      exact h.keep outside.symm
  | @tests t here =>
      refine guards_call (c := c) rfl rfl ?_
      have outside : c.inside (some t) = false := by rw [inside, here]; rfl
      refine h.keep ?_
      rw [outside]
      split <;> rfl

omit [DecidableEq T] in
/-- A caller inside keeps the worker out. -/
theorem Safe.worker_outside (h : c.Safe) {t : T} (here : (c.call t).inside = true) :
    c.worker.inside = false := by
  rw [← Bool.not_eq_true]
  intro both
  cases h.guards.unique (t := none) (u := some t) both here

theorem Step.sleepers (step : Step c a c')
    (h : ∀ t, c.monitor.asleep t = true → t = none ∧ c.worker = .waiting) (t : Option T)
    (asleep : c'.monitor.asleep t = true) : t = none ∧ c'.worker = .waiting := by
  cases step with
  | sleeps here =>
      obtain rfl | before := Monitor.asleep_wait asleep
      · exact ⟨rfl, rfl⟩
      · exact ⟨(h t before).1, rfl⟩
  | wakes => exact h t (Monitor.asleep_wake asleep).2
  | notifies => cases asleep
  | locks here taken =>
      obtain ⟨_, rfl⟩ := Monitor.lock_eq_some_iff.mp taken
      cases here.symm.trans (h t asleep).2
  | relocks here awake taken =>
      obtain ⟨_, rfl⟩ := Monitor.lock_eq_some_iff.mp taken
      obtain ⟨rfl, _⟩ := h t asleep
      cases awake.symm.trans asleep
  | callLocks here taken =>
      obtain ⟨_, rfl⟩ := Monitor.lock_eq_some_iff.mp taken
      exact h t asleep
  | goes here | exits here | finds here | rechecks here | applies here | issues here
  | commands here | terminates here | publishes here | overruns here | returns here
  | pops here => cases here.symm.trans (h t asleep).2
  | enqueue | stop | pushes | unlocks | tests | clears | disconnects | connects => exact h t asleep

theorem Step.front (step : Step c a c') (h : c.worker.busy = true → c.opStack ≠ [])
    (now : c'.worker.busy = true) : c'.opStack ≠ [] := by
  cases step with
  | finds here front | applies here front | issues here front =>
      show c.opStack ≠ []
      rw [front]
      exact List.cons_ne_nil _ _
  | commands here => exact h (by rw [here]; rfl)
  | pushes here => exact List.append_ne_nil_of_right_ne_nil _ (List.cons_ne_nil _ _)
  | wakes | connects | enqueue | stop | callLocks | unlocks | notifies | tests | clears
  | disconnects => exact h now
  | goes | exits | locks | sleeps | relocks | rechecks | returns | terminates | pops | publishes
  | overruns => cases now

/-- A property of a call is kept when another call goes on. -/
theorem call_update {P : CallPc → Prop} {t : T} {pc : CallPc} {call : T → CallPc} {u : T}
    (here : P (call u)) (same : P (call t) → P pc) : P (Function.update call t pc u) := by
  by_cases eq : u = t
  · subst eq
    rw [Function.update_self]
    exact same here
  · rwa [Function.update_of_ne eq]

theorem Step.woken (step : Step c a c')
    (h : Woken (fun c t => Monitor.asleep (DbThreads.monitor c) t = true)
      (fun c => c.opStack ≠ []) (fun c (t : T) => (c.call t).Owes) c) :
    Woken (fun c t => Monitor.asleep (DbThreads.monitor c) t = true)
      (fun c => c.opStack ≠ []) (fun c (t : T) => (c.call t).Owes) c' := by
  refine h.step ?_ ?_ ?_
  · intro t asleep
    cases step with
    | sleeps here empty => exact .inr fun now => now empty
    | wakes => exact .inl (Monitor.asleep_wake asleep).2
    | notifies => cases asleep
    | locks here taken | relocks here _ taken | callLocks here taken =>
        obtain ⟨_, rfl⟩ := Monitor.lock_eq_some_iff.mp taken
        exact .inl asleep
    | _ => exact .inl asleep
  · intro ready
    cases step with
    | @pushes t item here =>
        refine .inr ⟨t, .inl ?_⟩
        show Function.update c.call t _ t = _
        rw [Function.update_self]
    | pops here front =>
        refine .inl ?_
        show c.opStack ≠ []
        rw [front]
        exact List.cons_ne_nil _ _
    | _ => exact .inl ready
  · intro u owes
    cases step with
    | notifies => exact .inr fun _ asleep => by cases asleep
    | unlocks => exact .inl (call_update (P := CallPc.Owes) owes fun _ => .inr rfl)
    | enqueue t item here | stop t here =>
        refine .inl (call_update (P := CallPc.Owes) owes fun owed => ?_)
        obtain now | now := owed <;> cases here.symm.trans now
    | callLocks here | pushes here | tests here | clears here | disconnects here =>
        refine .inl (call_update (P := CallPc.Owes) owes fun owed => ?_)
        obtain now | now := owed <;> cases here.symm.trans now
    | _ => exact .inl owes

theorem Step.safe (step : Step c a c') (h : c.Safe) : c'.Safe where
  guards := step.guards h.guards
  sleeps := step.sleepers h.sleeps
  front := step.front h.front
  woken := step.woken h.woken

omit [DecidableEq T] in
theorem safe_new : (new : DbThreads T).Safe where
  guards := by
    intro t
    refine iff_of_false (by rintro ⟨⟩) ?_
    cases t <;> exact Bool.false_ne_true
  sleeps _ asleep := by cases asleep
  front busy := by cases busy
  woken _ asleep := by cases asleep

theorem safe_of_reachable (reached : (System (T := T)).Reachable c) : c.Safe := by
  refine reached.invariant (I := Safe) ?_ ?_
  · rintro _ rfl
    exact safe_new
  · intro c a c' _ h run
    exact (step_of_run run).safe h

end DbThreads

end NatProxy
