import NatProxy.Db.Capacity
import NatProxy.Db.Worker

/-!
# The threads of the database and its single steps

`CSessionDb` takes `operate` as one step and knows no mutex. As long as the entries fit when
`serial` runs, a run of the threads is matched by a run of its calls with the same operations:
the switch of `operate` counts as done when it runs, or when the worker, woken up, has read
`_started` and finds something in the queue. So what is published is always the table after
the first of the operations, and after all of them when the calls have returned and the worker
sleeps.
-/

namespace NatProxy

open Memory Transition

namespace DbThreads

variable {T : Type} {c c' : DbThreads T} {a : DbAction T} {d d' : CSessionDb}

/-- The worker of `d` has taken the front of the queue of `c` already. -/
def Ahead (c : DbThreads T) (d : CSessionDb) : Prop :=
  ∃ item rest, c.opStack = item :: rest ∧ d.opStack = rest ∧ d.store.db = c.db.operate item ∧
    d.worker = .serializing

/-- The table is that of `d` already, the queue has still the front. -/
def Popping (c : DbThreads T) (d : CSessionDb) : Prop :=
  d.store.db = c.db ∧ c.opStack.tail = d.opStack ∧ d.worker = .serializing

/-- The worker of `d` is there, with the same table and queue. -/
def At (c : DbThreads T) (d : CSessionDb) (worker : DbWorker) : Prop :=
  d.store.db = c.db ∧ d.opStack = c.opStack ∧ d.worker = worker

/-- Where the worker of `d` may be. -/
def Follows (c : DbThreads T) (d : CSessionDb) : Prop :=
  match c.worker with
  | .testing => At c d .entering ∨ At c d .exited ∧ c.started = false
  | .locking => At c d .entering
  | .checking => At c d .entering ∨ At c d .waiting ∧ c.opStack = [] ∨ Ahead c d
  | .applying => At c d .entering ∨ Ahead c d
  | .commanding | .popping | .terminated => Popping c d
  | .waiting | .woken => At c d .waiting
  | .serializing => At c d .serializing
  | .exited => (At c d .entering ∨ At c d .exited) ∧ c.started = false

/-- Only the part of the worker counts, and whether the database was stopped. -/
theorem Follows.congr (follows : Follows c d) (worker : c'.worker = c.worker)
    (db : c'.db = c.db) (opStack : c'.opStack = c.opStack)
    (stopped : c.started = false → c'.started = false) (sameStore : d'.store = d.store)
    (sameStack : d'.opStack = d.opStack) (sameWorker : d'.worker = d.worker) : Follows c' d' := by
  have at_ : ∀ {pc : DbWorker}, At c d pc → At c' d' pc := by
    intro pc here
    rwa [At, sameStore, sameStack, sameWorker, db, opStack]
  have ahead : Ahead c d → Ahead c' d' := by
    intro here
    rwa [Ahead, sameStore, sameStack, sameWorker, db, opStack]
  have popping : Popping c d → Popping c' d' := by
    intro here
    rwa [Popping, sameStore, sameStack, sameWorker, db, opStack]
  rw [Follows] at follows ⊢
  rw [worker]
  split at follows
  · exact follows.imp at_ (And.imp at_ stopped)
  · exact at_ follows
  · exact follows.imp at_ (Or.imp (And.imp at_ opStack.trans) ahead)
  · exact follows.imp at_ ahead
  · exact popping follows
  · exact popping follows
  · exact popping follows
  · exact at_ follows
  · exact at_ follows
  · exact at_ follows
  · exact follows.imp (Or.imp at_ at_) stopped

/-- The entries that `serial` finds fit. -/
def Fits (c : DbThreads T) : Prop := c.worker = .serializing → c.db.entries.length ≤ 255

structure Refines (c : DbThreads T) (d : CSessionDb) : Prop where
  started : d.started = c.started
  outBuff : d.outBuff = c.outBuff
  follows : Follows c d

/-- The calls that match a step: none, or one. -/
structure Matched (c : DbThreads T) (a : DbAction T) (d : CSessionDb) (calls : List CSessionDb.Call)
    (d' : CSessionDb) : Prop where
  run : System.runSteps CSessionDb.call d calls = some d'
  operations : CSessionDb.operations calls = pushed c a

theorem matched_none (nothing : pushed c a = []) : Matched c a d [] d := ⟨rfl, nothing.symm⟩

theorem matched_one {call : CSessionDb.Call} (run : d.call call = some d')
    (operation : call.operation.toList = pushed c a) : Matched c a d [call] d' := by
  refine ⟨?_, ?_⟩
  · rw [System.runSteps, run]
    rfl
  · rw [← operation]
    cases call <;> rfl

variable [DecidableEq T]

/-- The worker of `d` takes the front of the queue, or waits for one. -/
theorem operate_eq (worker : d.worker = .entering ∨ d.worker = .waiting ∧ d.started = true) :
    d.call (.event .operate) = some d.operateFront := by
  show d.step .operate = _
  obtain worker | ⟨worker, started⟩ := worker <;> rw [CSessionDb.step, worker]
  dsimp only
  rw [if_pos started]

/-- The steps of the worker. -/
theorem Step.matched_worker (step : Step c .worker c') (h : Refines c d) :
    ∃ calls d', Matched c .worker d calls d' ∧ Refines c' d' := by
  have follows := h.follows
  cases step with
  | goes here started =>
      simp only [Follows, here] at follows
      obtain at_ | ⟨_, stopped⟩ := follows
      · exact ⟨_, _, matched_none rfl, h.started, h.outBuff, at_⟩
      · cases started.symm.trans stopped
  | exits here stopped =>
      simp only [Follows, here] at follows
      exact ⟨_, _, matched_none rfl, h.started, h.outBuff, follows.imp id And.left, stopped⟩
  | locks here taken =>
      simp only [Follows, here] at follows
      exact ⟨_, _, matched_none rfl, h.started, h.outBuff, .inl follows⟩
  | sleeps here empty =>
      simp only [Follows, here] at follows
      obtain ⟨db, queue, worker⟩ | ⟨at_, _⟩ | ⟨item, rest, front, _⟩ := follows
      · refine ⟨_, _, matched_one (operate_eq (.inl worker)) rfl, ?_⟩
        rw [CSessionDb.operateFront, queue.trans empty]
        exact ⟨h.started, h.outBuff, db, empty.symm, rfl⟩
      · exact ⟨_, _, matched_none rfl, h.started, h.outBuff, at_⟩
      · cases empty.symm.trans front
  | finds here front =>
      simp only [Follows, here] at follows
      obtain at_ | ⟨_, empty⟩ | ahead := follows
      · exact ⟨_, _, matched_none rfl, h.started, h.outBuff, .inl at_⟩
      · cases empty.symm.trans front
      · exact ⟨_, _, matched_none rfl, h.started, h.outBuff, .inr ahead⟩
  | relocks here awake taken =>
      simp only [Follows, here] at follows
      exact ⟨_, _, matched_none rfl, h.started, h.outBuff, follows⟩
  | rechecks here started =>
      simp only [Follows, here] at follows
      obtain ⟨db, queue, worker⟩ := follows
      by_cases empty : c.opStack = []
      · have asleep : At c d .waiting := ⟨db, queue, worker⟩
        exact ⟨_, _, matched_none rfl, h.started, h.outBuff, .inr (.inl ⟨asleep, empty⟩)⟩
      · obtain ⟨item, rest, front⟩ := List.exists_cons_of_ne_nil empty
        refine ⟨_, _, matched_one (operate_eq (.inr ⟨worker, h.started.trans started⟩)) rfl, ?_⟩
        rw [CSessionDb.operateFront, queue.trans front]
        have applied := (d.store.db_operate item).trans (congrArg (DbMap.operate · item) db)
        exact ⟨h.started, h.outBuff, .inr (.inr ⟨item, rest, front, rfl, applied, rfl⟩)⟩
  | returns here stopped =>
      simp only [Follows, here] at follows
      obtain ⟨db, queue, worker⟩ := follows
      have run : d.call (.event .operate) = some { d with worker := .serializing } := by
        show d.step .operate = _
        rw [CSessionDb.step, worker]
        exact if_neg (Bool.eq_false_iff.mp (h.started.trans stopped))
      exact ⟨_, _, matched_one run rfl, h.started, h.outBuff, db, queue, rfl⟩
  | @applies item rest here front | @issues item rest here front =>
      simp only [Follows, here] at follows
      obtain ⟨db, queue, worker⟩ | ⟨item', rest', front', queue, db, worker⟩ := follows
      · refine ⟨_, _, matched_one (operate_eq (.inl worker)) rfl, ?_⟩
        rw [CSessionDb.operateFront, queue.trans front]
        have applied := (d.store.db_operate item).trans (congrArg (DbMap.operate · item) db)
        exact ⟨h.started, h.outBuff, applied, congrArg List.tail front, rfl⟩
      · cases front.symm.trans front'
        have popped : c.opStack.tail = d.opStack := by rw [front, queue, List.tail_cons]
        exact ⟨_, _, matched_none rfl, h.started, h.outBuff, db, popped, worker⟩
  | commands here | terminates here =>
      simp only [Follows, here] at follows
      exact ⟨_, _, matched_none rfl, h.started, h.outBuff, follows⟩
  | pops here front =>
      simp only [Follows, here] at follows
      obtain ⟨db, queue, worker⟩ := follows
      refine ⟨_, _, matched_none rfl, h.started, h.outBuff, db, ?_, worker⟩
      rw [← queue, front]
      rfl
  | @publishes out here serialized =>
      simp only [Follows, here] at follows
      obtain ⟨db, queue, worker⟩ := follows
      have run : d.call (.event .serial) =
          some { d with
            outBuff := out
            worker := if d.started then .entering else .exited } := by
        show d.step .serial = _
        rw [CSessionDb.step, worker]
        dsimp only
        rw [db, serialized]
      refine ⟨_, _, matched_one run rfl, h.started, rfl, ?_⟩
      cases started : d.started with
      | true => exact .inl ⟨db, queue, rfl⟩
      | false => exact .inr ⟨⟨db, queue, rfl⟩, h.started.symm.trans started⟩

/-- The steps of the callers, which find the worker outside when they push. -/
theorem Step.matched (step : Step c a c') (fits : c.Fits) (safe : c.Safe) (h : Refines c d) :
    ∃ calls d', Matched c a d calls d' ∧ Refines c' d' := by
  by_cases other : a = .worker
  · subst other
    exact step.matched_worker h
  have follows := h.follows
  cases step with
  | overruns here many => exact absurd (fits here) (Nat.not_le_of_lt many)
  | wakes | enqueue | stop | connects =>
      exact ⟨_, _, matched_none rfl, h.started, h.outBuff, follows⟩
  | callLocks here | unlocks here | tests here | disconnects here =>
      exact ⟨_, _, matched_none (by rw [pushed, here]), h.started, h.outBuff, follows⟩
  | notifies here =>
      refine ⟨_, _, matched_none ?_, h.started, h.outBuff, follows⟩
      obtain here | here := here <;> rw [pushed, here]
  | @pushes t item here =>
      have operation : pushed c (.run t) = [item] := by rw [pushed, here]
      obtain ⟨call, run, operates⟩ : ∃ call : CSessionDb.Call,
          d.call call = some { d with opStack := d.opStack ++ [item] } ∧
            call.operation = some item := by
        cases item with
        | add info => exact ⟨.add info, rfl, rfl⟩
        | del uiId => exact ⟨.del uiId, rfl, rfl⟩
      refine ⟨_, _, matched_one run (by rw [operates, operation]; rfl), h.started, h.outBuff, ?_⟩
      have outside := safe.worker_outside (t := t) (by rw [here]; rfl)
      have queue : ∀ {worker : DbWorker}, At c d worker →
          At ({ c with opStack := c.opStack ++ [item] }.setCall t .unlocking)
            { d with opStack := d.opStack ++ [item] } worker := by
        rintro worker ⟨db, queue, here⟩
        exact ⟨db, congrArg (· ++ [item]) queue, here⟩
      cases worker : c.worker with
      | checking | woken | applying | commanding | popping | terminated =>
          rw [worker] at outside
          cases outside
      | testing =>
          simp only [Follows, worker] at follows
          simp only [Follows, setCall]
          exact follows.imp queue (And.imp_left queue)
      | locking | waiting | serializing =>
          simp only [Follows, worker] at follows
          simp only [Follows, setCall]
          exact queue follows
      | exited =>
          simp only [Follows, worker] at follows
          simp only [Follows, setCall]
          exact follows.imp_left (Or.imp queue queue)
  | @clears t here =>
      have nothing : pushed c (.run t) = [] := by rw [pushed, here]
      -- what follows does not need `_started`
      have stopped : ∀ d' : CSessionDb, d'.store = d.store → d'.opStack = d.opStack →
          d'.worker = d.worker →
            Follows ({ c with started := false }.setCall t .disconnecting) d' :=
        fun d' => follows.congr rfl rfl rfl fun _ => rfl
      cases started : d.started with
      | true =>
          have run : d.call (.event .stop) = some { d with started := false } := if_pos started
          exact ⟨_, _, matched_one run nothing.symm, rfl, h.outBuff, stopped _ rfl rfl rfl⟩
      | false => exact ⟨_, _, matched_none nothing, started, h.outBuff, stopped _ rfl rfl rfl⟩
  | _ => exact absurd rfl other

/-! ## What is published -/

/-- What the calls that the steps amount to leave behind. -/
structure Account (log : List OperationItem) (k : Nat) (d : CSessionDb)
    (calls : List CSessionDb.Call) (taken : Nat) : Prop where
  operations : CSessionDb.operations calls = log
  published : CSessionDb.Published calls d taken k
  first : .event .serial ∉ calls → d.outBuff = [] ∧ k = 0

section Calls

variable {calls : List CSessionDb.Call} {call : CSessionDb.Call} {taken k : Nat}

omit [DecidableEq T]

/-- All calls but `serial` leave what is published, however many entries there are. -/
theorem published_other (h : CSessionDb.Published calls d taken k) (run : d.call call = some d')
    (other : call ≠ .event .serial) :
    d'.outBuff = d.outBuff ∧ ∃ taken', CSessionDb.Published (calls ++ [call]) d' taken' k := by
  cases call with
  | add info =>
      obtain rfl := Option.some.inj run
      exact ⟨rfl, taken, h.enqueue rfl (by simp)⟩
  | del uiId =>
      obtain rfl := Option.some.inj run
      exact ⟨rfl, taken, h.enqueue rfl (by simp)⟩
  | output =>
      obtain rfl := Option.some.inj run
      exact ⟨rfl, taken, h.same rfl (by simp) rfl rfl rfl id⟩
  | event e =>
      change d.step e = some d' at run
      cases e with
      | operate =>
          have front : d.operateFront.outBuff = d.outBuff := by
            rw [CSessionDb.operateFront]
            split <;> rfl
          rw [CSessionDb.step] at run
          split at run
          · next here =>
            obtain rfl := Option.some.inj run
            exact ⟨front, h.operateFront (by simp [here])⟩
          · next here =>
            split at run <;> obtain rfl := Option.some.inj run
            · exact ⟨front, h.operateFront (by simp [here])⟩
            · exact ⟨rfl, taken, h.same rfl (by simp) rfl rfl rfl fun idle => absurd rfl idle⟩
          · cases run
      | serial => exact absurd rfl other
      | stop =>
          obtain ⟨_, same⟩ := Option.ite_none_right_eq_some.mp run
          obtain rfl := Option.some.inj same
          exact ⟨rfl, taken, h.same rfl (by simp) rfl rfl rfl id⟩

theorem Account.step {log : List OperationItem} (h : Account log k d calls taken)
    (run : d.call call = some d') :
    ∃ k', k ≤ k' ∧ ∃ taken',
      Account (log ++ call.operation.toList) k' d' (calls ++ [call]) taken' := by
  have operations : CSessionDb.operations (calls ++ [call]) = log ++ call.operation.toList := by
    rw [CSessionDb.operations_concat, h.operations]
  by_cases serial : call = .event .serial
  · subst serial
    obtain ⟨k', later, taken', published⟩ := h.published.call (CSessionDb.few_of_serial run) run
    refine ⟨k', later, taken', operations, published, fun never => ?_⟩
    exact absurd (List.mem_append_right _ (List.mem_singleton_self _)) never
  · obtain ⟨outBuff, taken', published⟩ := published_other h.published run serial
    refine ⟨k, le_rfl, taken', operations, published, fun never => ?_⟩
    obtain ⟨nothing, zero⟩ := h.first fun called => never (List.mem_append_left _ called)
    exact ⟨outBuff.trans nothing, zero⟩

theorem Account.run {log : List OperationItem} (h : Account log k d calls taken)
    {more : List CSessionDb.Call} (run : System.runSteps CSessionDb.call d more = some d') :
    ∃ k', k ≤ k' ∧ ∃ taken',
      Account (log ++ CSessionDb.operations more) k' d' (calls ++ more) taken' := by
  induction more generalizing d calls log k taken with
  | nil =>
      obtain rfl : d = d' := Option.some.inj run
      exact ⟨k, le_rfl, taken, by simpa [CSessionDb.operations] using h⟩
  | cons call more ih =>
      obtain ⟨middle, first, rest⟩ := Option.bind_eq_some_iff.mp run
      obtain ⟨k₁, later, taken₁, one⟩ := h.step first
      obtain ⟨k₂, after, taken₂, all⟩ := ih one rest
      have operations : call.operation.toList ++ CSessionDb.operations more =
          CSessionDb.operations (call :: more) := by
        cases call <;> rfl
      rw [List.append_assoc, operations, List.append_assoc] at all
      exact ⟨k₂, later.trans after, taken₂, all⟩

end Calls

/-- What is published while the threads are at `c`: `k` operations of those pushed. -/
structure Shows (c : DbThreads T) (log : List OperationItem) (k : Nat) : Prop where
  pushed : k ≤ log.length
  encoded : c.outBuff = [] ∧ k = 0 ∨ Encodes c.outBuff (Table.after (log.take k))
  caughtUp : c.monitor.asleep none = true → (∀ t, ¬ (c.call t).Owes) → k = log.length

omit [DecidableEq T] in
theorem Account.shows {log : List OperationItem} {calls : List CSessionDb.Call} {taken k : Nat}
    (h : Account log k d calls taken) (safe : c.Safe) (refines : Refines c d) :
    Shows c log k := by
  have linearized := h.published.linearized
  obtain ⟨operations, _, first⟩ := h
  rw [← operations]
  refine ⟨linearized.enqueued, ?_, ?_⟩
  · rw [← refines.outBuff]
    by_cases called : .event .serial ∈ calls
    · exact .inr (linearized.encoded called)
    · exact .inl (first called)
  · intro asleep quiet
    have waiting : c.worker = .waiting := (safe.sleeps none asleep).2
    have empty : c.opStack = [] := not_not.mp (safe.woken.not_ready asleep quiet)
    have follows := refines.follows
    rw [Follows, waiting] at follows
    obtain ⟨_, queue, worker⟩ := follows
    exact linearized.caughtUp (queue.trans empty) worker

/-- The run of the calls behind a run of the threads. -/
def Linked (c : DbThreads T) (log : List OperationItem) (k : Nat) : Prop :=
  c.Safe ∧ ∃ d calls taken, Account log k d calls taken ∧ Refines c d

omit [DecidableEq T] in
theorem linked_new : Linked (new : DbThreads T) [] 0 := by
  have account : Account [] 0 .new [] 0 := ⟨rfl, CSessionDb.published_new, fun _ => ⟨rfl, rfl⟩⟩
  exact ⟨safe_new, .new, [], 0, account, rfl, rfl, .inl ⟨rfl, rfl, rfl⟩⟩

theorem Linked.step {log : List OperationItem} {k : Nat} (h : Linked c log k) (fits : c.Fits)
    (run : c.step a = some c') : ∃ k', k ≤ k' ∧ Linked c' (log ++ pushed c a) k' := by
  obtain ⟨safe, d, calls, taken, account, refines⟩ := h
  have step := step_of_run run
  obtain ⟨more, d', matched, refines'⟩ := step.matched fits safe refines
  obtain ⟨k', later, taken', account'⟩ := account.run matched.run
  rw [matched.operations] at account'
  exact ⟨k', later, step.safe safe, d', calls ++ more, taken', account', refines'⟩

omit [DecidableEq T] in
theorem Linked.shows {log : List OperationItem} {k : Nat} (h : Linked c log k) :
    Shows c log k := by
  obtain ⟨safe, d, calls, taken, account, refines⟩ := h
  exact account.shows safe refines

/-- In every run of the threads in which the entries fit, at most 255 whenever `serial` runs,
what is published is first nothing and then the table after a number of the operations in the
order in which they were pushed, and this number never decreases. When the worker sleeps and
no call is about to notify it, nothing is missing. -/
theorem output_catches_up {as : List (DbAction T)} {p : DbThreads T × List OperationItem}
    (run : System.runSteps (System.logStep step pushed) (new, []) as = some p)
    (fits : ∀ i ≤ as.length, ∀ q,
      System.runSteps (System.logStep step pushed) (new, []) (as.take i) = some q → q.1.Fits) :
    ∃ k : Nat → Nat, Monotone k ∧ ∀ i ≤ as.length, ∃ q,
      System.runSteps (System.logStep step pushed) (new, []) (as.take i) = some q ∧
        Shows q.1 q.2 (k i) := by
  obtain ⟨k, mono, points⟩ := System.exists_monotone (P := fun p => p.1.Fits)
    (R := fun p _ k => Linked p.1 p.2 k) linked_new
    (by
      rintro ⟨c, log⟩ _ k a q fits h step
      obtain ⟨c', taken, rfl⟩ := Option.map_eq_some_iff.mp step
      exact h.step fits taken)
    run fits
  refine ⟨k, mono, fun i le => ?_⟩
  obtain ⟨q, reached, h⟩ := points i le
  exact ⟨q, reached, h.shows⟩

/-- Two callers push before the worker, which has fallen asleep, is up again. -/
def bothPush : List (DbAction Bool) :=
  [.connects, .worker, .worker, .worker, .enqueue true (.add ⟨1000, 0, [0x41]⟩),
    .enqueue false (.add ⟨1001, 0, [0x42]⟩), .run true, .run true, .run true, .run false,
    .run true, .run false, .run false, .run false] ++ .replicate 17 .worker

theorem output_catches_up_bothPush :
    ∃ p, System.runSteps (System.logStep step pushed) (new, []) bothPush = some p ∧
      p.2.length = 2 ∧ Encodes p.1.outBuff (Table.after p.2) := by
  have check : ∃ p ∈ System.runSteps (System.logStep step pushed) (new, []) bothPush,
      p.2.length = 2 ∧ p.1.monitor.asleep none = true ∧ p.1.outBuff ≠ [] ∧
        p.1.call true = .idle ∧ p.1.call false = .idle := by
    decide +kernel
  obtain ⟨p, run, two, asleep, published, one, other⟩ := check
  refine ⟨p, run, two, ?_⟩
  have few : ∀ i ≤ bothPush.length, ∃ q ∈ System.runSteps (System.logStep step pushed) (new, [])
      (bothPush.take i), q.1.db.entries.length ≤ 255 := by
    decide +kernel
  obtain ⟨k, _, points⟩ := output_catches_up run fun i le q reached => by
    obtain ⟨q', reached', small⟩ := few i le
    obtain rfl := Option.some.inj (reached.symm.trans reached')
    exact fun _ => small
  obtain ⟨q, reached, shows_⟩ := points bothPush.length le_rfl
  rw [List.take_length] at reached
  obtain rfl := Option.some.inj (run.symm.trans reached)
  have all : k bothPush.length = p.2.length := by
    refine shows_.caughtUp asleep ?_
    rintro (_ | _) <;> simp [CallPc.Owes, one, other]
  obtain ⟨nothing, _⟩ | encodes := shows_.encoded
  · exact absurd nothing published
  · rwa [all, List.take_length] at encodes

end DbThreads

end NatProxy
