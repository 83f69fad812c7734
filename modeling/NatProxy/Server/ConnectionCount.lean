import Mathlib.Data.Finset.Card
import NatProxy.Server.Connections
import NatProxy.Server.Registry

/-!
# The counter of connections

The flag `_started` is set once, by the acceptor that has counted the session, and
cleared by the first `stop`, which alone goes on to `sessionClosed`. So a session is
subtracted at most once, and only after it has been counted, whatever calls `stop`
how often; `Accounted` is the invariant. A session that was never started does not
get past the test of `_started`, in a `stop` of its destructor as in any other.
-/

namespace NatProxy

open Transition

variable {S C : Type} [DecidableEq S]

namespace ConnEvent

def isCounted : ConnEvent S → Option S
  | .counted s => some s
  | .closed _ => none

def isClosed : ConnEvent S → Option S
  | .counted _ => none
  | .closed s => some s

end ConnEvent

/-- The sessions whose increment has happened, in order. -/
def counts (log : List (ConnEvent S)) : List S := log.filterMap ConnEvent.isCounted

/-- The sessions whose `stop` has reached `sessionClosed`, in order. -/
def closes (log : List (ConnEvent S)) : List S := log.filterMap ConnEvent.isClosed

/-- The sessions whose increment has happened and whose `stop` has not reached
`sessionClosed`. -/
def openSessions (log : List (ConnEvent S)) : Finset S :=
  (counts log).toFinset \ (closes log).toFinset

theorem mem_openSessions {log : List (ConnEvent S)} {s : S} :
    s ∈ openSessions log ↔ s ∈ counts log ∧ s ∉ closes log := by
  rw [openSessions, Finset.mem_sdiff, List.mem_toFinset, List.mem_toFinset]

section Append

variable (log : List (ConnEvent S)) (s : S)

omit [DecidableEq S] in
@[simp] theorem counts_counted : counts (log ++ [.counted s]) = counts log ++ [s] := by
  simp [counts, ConnEvent.isCounted]

omit [DecidableEq S] in
@[simp] theorem closes_counted : closes (log ++ [.counted s]) = closes log := by
  simp [closes, ConnEvent.isClosed]

omit [DecidableEq S] in
@[simp] theorem counts_closed : counts (log ++ [.closed s]) = counts log := by
  simp [counts, ConnEvent.isCounted]

omit [DecidableEq S] in
@[simp] theorem closes_closed : closes (log ++ [.closed s]) = closes log ++ [s] := by
  simp [closes, ConnEvent.isClosed]

variable {log s}

/-- A session is counted for the first time. -/
theorem openSessions_counted (unclosed : s ∉ closes log) :
    openSessions (log ++ [.counted s]) = insert s (openSessions log) := by
  ext r
  rw [Finset.mem_insert, mem_openSessions, mem_openSessions, counts_counted, closes_counted,
    List.mem_append, List.mem_singleton]
  constructor
  · rintro ⟨old | new, isOpen⟩
    · exact .inr ⟨old, isOpen⟩
    · exact .inl new
  · rintro (rfl | ⟨old, isOpen⟩)
    · exact ⟨.inr rfl, unclosed⟩
    · exact ⟨.inl old, isOpen⟩

/-- A session is subtracted. -/
theorem openSessions_closed : openSessions (log ++ [.closed s]) = (openSessions log).erase s := by
  ext r
  rw [Finset.mem_erase, mem_openSessions, mem_openSessions, counts_closed, closes_closed,
    List.mem_append, List.mem_singleton, not_or]
  tauto

end Append

/-- The session has been counted, and `sessionClosed` is still to come. -/
def Connection.Open (c : Connection) : Prop :=
  c.phase = .counted ∨ c.started = true ∨ c.stop ≠ none

/-- A session in its early phases has not been started, and one that is being stopped
is not started any more. -/
structure Connection.Sound (c : Connection) : Prop where
  early : c.phase.Early → c.started = false ∧ c.stop = none
  stopping : c.stop ≠ none → c.started = false

namespace Connections

variable {cfg : Config} {v v' : Connections S} {a : Action S C} {s : S}
  {log : List (ConnEvent S)}

/-- The log accounts for the counter. -/
structure Accounted (v : Connections S) (log : List (ConnEvent S)) : Prop where
  sound : ∀ s, (v.conn s).Sound
  countedOnce : (counts log).Nodup
  closedOnce : (closes log).Nodup
  closedCounted : ∀ s ∈ closes log, s ∈ counts log
  late : ∀ s ∈ counts log, (v.conn s).phase = .counted ∨ ¬ (v.conn s).phase.Early
  isOpen : ∀ s, (v.conn s).Open ↔ s ∈ openSessions log
  connNum : v.alive = true → v.connNum = UInt32.ofNat (openSessions log).card

/-- A property of each session, of which one is replaced. -/
theorem forall_set_conn {P : S → Connection → Prop} {c : Connection}
    (others : ∀ r, r ≠ s → P r (v.conn r)) (one : P s c) (r : S) : P r ((v.set s c).conn r) :=
  (Function.forall_update_iff _ P).mpr ⟨one, others⟩ r

/-- A step of one session that shows nothing of the counter. -/
theorem Accounted.keep (h : v.Accounted log) {c : Connection} (sound : c.Sound)
    (isOpen : c.Open ↔ (v.conn s).Open)
    (late : (v.conn s).phase = .counted ∨ ¬ (v.conn s).phase.Early →
      c.phase = .counted ∨ ¬ c.phase.Early) : (v.set s c).Accounted log where
  sound := forall_set_conn (P := fun _ c => c.Sound) (fun r _ => h.sound r) sound
  countedOnce := h.countedOnce
  closedOnce := h.closedOnce
  closedCounted := h.closedCounted
  late := forall_set_conn (P := fun s c => s ∈ counts log → c.phase = .counted ∨ ¬ c.phase.Early)
    (fun r _ => h.late r) fun counted => late (h.late s counted)
  isOpen := forall_set_conn (P := fun s c => c.Open ↔ s ∈ openSessions log)
    (fun r _ => h.isOpen r) (isOpen.trans (h.isOpen s))
  connNum := h.connNum

/-- The increment in the acceptor. -/
theorem Accounted.count (h : v.Accounted log) (admitted : (v.conn s).phase = .admitted) :
    ({ v with connNum := v.connNum + 1 }.set s
      { v.conn s with phase := .counted }).Accounted (log ++ [ConnEvent.counted s]) := by
  obtain ⟨notStarted, notStopping⟩ := (h.sound s).early (by rw [admitted]; trivial)
  have uncounted : s ∉ counts log := by
    intro counted
    obtain phase | late := h.late s counted
    · rw [admitted] at phase
      cases phase
    · exact late (by rw [admitted]; trivial)
  have unclosed : s ∉ closes log := fun closed => uncounted (h.closedCounted s closed)
  have notOpen : s ∉ openSessions log := fun isOpen => uncounted (mem_openSessions.mp isOpen).1
  refine ⟨?_, ?_, ?_, ?_, ?_, ?_, ?_⟩
  · exact forall_set_conn (v := { v with .. }) (P := fun _ c => c.Sound) (fun r _ => h.sound r)
      ⟨fun _ => ⟨notStarted, notStopping⟩, (h.sound s).stopping⟩
  · rw [counts_counted]
    exact h.countedOnce.append (List.nodup_singleton s) (List.disjoint_singleton.mpr uncounted)
  · rw [closes_counted]
    exact h.closedOnce
  · rw [counts_counted, closes_counted]
    intro r closed
    exact List.mem_append_left _ (h.closedCounted r closed)
  · rw [counts_counted]
    refine forall_set_conn (v := { v with .. })
      (P := fun r c => r ∈ counts log ++ [s] → c.phase = .counted ∨ ¬ c.phase.Early) ?_
      fun _ => .inl rfl
    intro r ne counted
    refine h.late r ((List.mem_append.mp counted).resolve_right ?_)
    rwa [List.mem_singleton]
  · rw [openSessions_counted unclosed]
    refine forall_set_conn (v := { v with .. })
      (P := fun r c => c.Open ↔ r ∈ insert s (openSessions log)) ?_
      (iff_of_true (.inl rfl) (Finset.mem_insert_self _ _))
    intro r ne
    rw [Finset.mem_insert, or_iff_right ne]
    exact h.isOpen r
  · intro alive
    rw [openSessions_counted unclosed, Finset.card_insert_of_notMem notOpen, UInt32.ofNat_add]
    exact congrArg (· + 1) (h.connNum alive)

/-- The decrement in `sessionClosed`, of a session that is in the count. -/
theorem Accounted.close (h : v.Accounted log) (here : (v.conn s).stop = some .sessionClosed) :
    ({ v with connNum := if v.alive then v.connNum - 1 else v.connNum }.set s
      { v.conn s with stop := none }).Accounted (log ++ [ConnEvent.closed s]) := by
  have stopping : (v.conn s).stop ≠ none := by simp [here]
  have notStarted := (h.sound s).stopping stopping
  have late : ¬ (v.conn s).phase.Early := fun early => stopping ((h.sound s).early early).2
  have isOpen : s ∈ openSessions log := (h.isOpen s).mp (.inr (.inr stopping))
  obtain ⟨counted, unclosed⟩ := mem_openSessions.mp isOpen
  refine ⟨?_, ?_, ?_, ?_, ?_, ?_, ?_⟩
  · exact forall_set_conn (v := { v with .. }) (P := fun _ c => c.Sound) (fun r _ => h.sound r)
      ⟨fun early => absurd early late, fun _ => notStarted⟩
  · rw [counts_closed]
    exact h.countedOnce
  · rw [closes_closed]
    exact h.closedOnce.append (List.nodup_singleton s) (List.disjoint_singleton.mpr unclosed)
  · rw [counts_closed, closes_closed]
    intro r closed
    rcases List.mem_append.mp closed with before | last
    · exact h.closedCounted r before
    · exact List.mem_singleton.mp last ▸ counted
  · rw [counts_closed]
    exact forall_set_conn (v := { v with .. })
      (P := fun r c => r ∈ counts log → c.phase = .counted ∨ ¬ c.phase.Early)
      (fun r _ => h.late r) fun _ => .inr late
  · have shut : ¬ Connection.Open { v.conn s with stop := none } := by
      rintro (phase | started | stopping)
      · exact late (by rw [show (v.conn s).phase = .counted from phase]; trivial)
      · exact absurd (notStarted.symm.trans started) Bool.false_ne_true
      · exact stopping rfl
    rw [openSessions_closed]
    refine forall_set_conn (v := { v with .. })
      (P := fun r c => c.Open ↔ r ∈ (openSessions log).erase s) ?_
      (iff_of_false shut (Finset.notMem_erase s _))
    intro r ne
    rw [Finset.mem_erase, and_iff_right ne]
    exact h.isOpen r
  · intro alive
    have alive : v.alive = true := alive
    have card := Finset.card_erase_add_one isOpen
    have before := h.connNum alive
    rw [← card, UInt32.ofNat_add] at before
    change (if v.alive then v.connNum - 1 else v.connNum) = _
    rw [if_pos alive, before, openSessions_closed]
    exact UInt32.add_sub_cancel _ _

theorem Step.accounted (step : Step cfg v a v') (h : v.Accounted log) :
    v'.Accounted (log ++ v.events a) := by
  have same : ∀ {v' : Connections S}, v.events a = [] → v'.Accounted log →
      v'.Accounted (log ++ v.events a) := by
    intro v' nothing h
    rwa [nothing, List.append_nil]
  cases step with
  | @test s ok created =>
      have early := (h.sound s).early (by rw [created]; trivial)
      refine same rfl (h.keep ⟨fun _ => early, (h.sound s).stopping⟩ ?_ ?_)
      · split <;> simp [Connection.Open, created]
      · rintro (phase | late)
        · rw [created] at phase
          cases phase
        · exact absurd (by rw [created]; trivial) late
  | count admitted => exact h.count admitted
  | @start s counted =>
      have early := (h.sound s).early (by rw [counted]; trivial)
      have sound : Connection.Sound { v.conn s with phase := .live, started := true } :=
        ⟨fun live => live.elim, fun stopping => absurd early.2 stopping⟩
      refine same rfl (h.keep sound ?_ ?_)
      · exact iff_of_true (.inr (.inl rfl)) (.inl counted)
      · exact fun _ => .inr fun live => live
  | @beginStop _ s handler idle =>
      have nothing : v.events a = [] := by obtain rfl | rfl | rfl := handler <;> rfl
      refine same nothing (h.keep ⟨?_, fun _ => rfl⟩ ?_ fun late => late)
      · intro early
        simp [((h.sound s).early early).1]
      · by_cases started : (v.conn s).started <;> simp [Connection.Open, started, idle]
  | @goOn s n pc pc' here more =>
      have stopping : (v.conn s).stop ≠ none := by simp [here]
      have nothing : v.events (.run s n) = [] := by simp [events, here, more]
      refine same nothing (h.keep ⟨?_, fun _ => (h.sound s).stopping stopping⟩ ?_ fun late => late)
      · intro early
        exact absurd ((h.sound s).early early).2 stopping
      · exact iff_of_true (.inr (.inr (by simp))) (.inr (.inr stopping))
  | closed here =>
      rw [events, if_pos here]
      exact h.close here
  | @destroy s ended unused =>
      refine same rfl (h.keep ⟨fun gone => gone.elim, (h.sound s).stopping⟩ ?_ ?_)
      · obtain phase | phase := ended <;> simp [Connection.Open, phase, unused]
      · exact fun _ => .inr fun gone => gone
  | release =>
      refine same rfl ⟨h.sound, h.countedOnce, h.closedOnce, h.closedCounted, h.late, h.isOpen, ?_⟩
      intro alive
      cases alive

theorem accounted_new : (new : Connections S).Accounted [] where
  sound _ := ⟨fun _ => ⟨rfl, rfl⟩, fun _ => rfl⟩
  countedOnce := List.nodup_nil
  closedOnce := List.nodup_nil
  closedCounted _ closed := by cases closed
  late _ counted := by cases counted
  isOpen s := by simp [Connection.Open, new, openSessions, counts]
  connNum _ := rfl

theorem accounted_of_reachable
    (reached : ((system (C := C) cfg).logged events).Reachable (v, log)) : v.Accounted log := by
  refine reached.log_invariant (I := Accounted) ?_ ?_
  · rintro _ rfl
    exact accounted_new
  · intro v a v' log _ h step
    exact step.accounted h

end Connections

/-! ## The destructor -/

theorem ReadLoop.op_asyncRead (r : ReadLoop) (isOpen : Bool) (part : Part) :
    (r.asyncRead isOpen part).op ≠ .none := by
  cases isOpen <;> simp [ReadLoop.asyncRead]

/-- The read of a session goes on until its handler is called. -/
theorem CoreStep.op_ne_none {core core' : SessionCore} (step : CoreStep core core')
    (reading : core.read.op ≠ .none) : core'.read.op ≠ .none := by
  cases step with
  | deliver delivered =>
      rw [ReadLoop.deliver] at delivered
      split at delivered
      · obtain ⟨_, same⟩ := Option.ite_none_right_eq_some.mp delivered
        obtain rfl := Option.some.inj same
        simp
      · cases delivered
  | readFails =>
      change core.read.fail.op ≠ .none
      rw [ReadLoop.fail]
      split
      · simp
      · exact reading
  | onReadHead done checked =>
      rw [ReadLoop.onReadHead] at checked
      split at checked
      · cases checked
      · split at checked
        · cases checked
        · cases checked
          exact ReadLoop.op_asyncRead _ _ _
  | tested | counted | destroyed | timerExpires | timerAborted => exact reading

/-- The end of a handler leaves a started session with a read. -/
theorem SessionCore.op_endBody {core : SessionCore} (started : core.started = true) :
    core.endBody.read.op ≠ .none := by
  change (core.read.finishBody core.started core.isOpen).op ≠ .none
  rw [ReadLoop.finishBody, ReadLoop.doRead, if_pos started]
  exact ReadLoop.op_asyncRead _ _ _

namespace Registry

variable {v v' : Registry S} {a : Action S C}

/-- A started session is referred to by its read, or by the call that it is in. -/
def InUse (v : Registry S) : Prop :=
  ∀ s, (v.core s).started = true → v.task s ≠ .idle ∨ (v.core s).read.op ≠ .none

theorem Step.inUse (step : Step v a v') (consistent : v.Consistent) (h : v.InUse) : v'.InUse := by
  have keep : ∀ {s core task}, (core.started = true → task ≠ .idle ∨ core.read.op ≠ .none) →
      (v.set s core task).InUse := fun one =>
    forall_set (P := fun core task => core.started = true → task ≠ .idle ∨ core.read.op ≠ .none)
      h one
  cases step with
  | own s step =>
      apply keep
      rw [step.started]
      exact fun started => (h s started).imp_right step.op_ne_none
  | start => exact keep fun _ => .inr (ReadLoop.op_asyncRead _ _ _)
  | timeoutStop | readStop => exact keep Bool.noConfusion
  | sessionClosed here =>
      apply keep
      intro started
      have stopped := (consistent _).stopped _ here
      rw [started] at stopped
      cases stopped
  | answer | proxyDone | finish => exact keep fun started => .inr (SessionCore.op_endBody started)
  | db => exact h
  | _ => exact keep fun _ => .inl RegTask.noConfusion

theorem inUse_of_reachable (reached : (system (C := C)).Reachable v) : v.InUse := by
  refine reached.invariant (I := InUse) ?_ ?_
  · rintro _ rfl s started
    cases started
  · intro v a v' reached h step
    exact step.inUse (consistent_of_reachable reached) h

end Registry

namespace Server

variable [DecidableEq C]

/-- A session that neither a read nor a call refers to is not started, so that `stop`
finds `_started` cleared when the destructor calls it. -/
theorem stopped_of_unused (cfg : Config) {st : Server S C} (reached : (system cfg).Reachable st)
    {s : S} (noRead : (st.session s).read.op = .none) (idle : st.idle s = true) :
    (st.session s).started = false := by
  have inUse := Registry.inUse_of_reachable ((registry_mapping cfg).reachable reached)
  by_contra started
  obtain busy | reading := inUse s (Bool.eq_true_of_not_eq_false started)
  · exact busy ((st.idle_iff s).mp idle)
  · exact reading noRead

/-- In every run in which the server object is alive, the counter is the number of
the sessions whose increment has happened and whose `stop` has not yet reached
`sessionClosed`. Every session is counted at most once and subtracted at most once,
no session is subtracted that was not counted, and the one that is about to be
subtracted is among those that make up the counter. -/
theorem connNum_eq (cfg : Config) {st : Server S C} {log : List (ConnEvent S)}
    (reached : ((system cfg).logged fun st a => st.connections.events a).Reachable (st, log)) :
    (st.alive = true → st.connNum = UInt32.ofNat (openSessions log).card) ∧
      (counts log).Nodup ∧ (closes log).Nodup ∧ (∀ s ∈ closes log, s ∈ counts log) ∧
      ∀ s, st.task s = .stop .sessionClosed → s ∈ openSessions log := by
  have mapped : ((Connections.system (C := C) cfg).logged Connections.events).Reachable
      (st.connections, log) := by
    refine reached.map_logged (connections_mapping cfg).start ?_
    intro st a st' _ run
    exact (step_connections run).imp_right fun step => ⟨step, rfl⟩
  have h := Connections.accounted_of_reachable mapped
  refine ⟨h.connNum, h.countedOnce, h.closedOnce, h.closedCounted, ?_⟩
  intro s closing
  refine (h.isOpen s).mp (.inr (.inr ?_))
  change (st.task s).stopPc ≠ none
  simp [closing]

/-- Two connections are accepted, and the first one is closed by its peer. -/
def oneLeft : List (Action (Fin 2) (Fin 1)) :=
  accept 0 ++ accept 1 ++ [.readFails 0, .onReadHead 0] ++ go 0 4

theorem connNum_eq_oneLeft :
    ∃ (st : Server (Fin 2) (Fin 1)) (log : List (ConnEvent (Fin 2))),
      ((system ⟨0, 0, 0⟩).logged fun st a => st.connections.events a).Reachable (st, log) ∧
        log = [.counted 0, .counted 1, .closed 0] ∧ st.connNum = 1 ∧
        st.connNum = UInt32.ofNat (openSessions log).card := by
  have check : ∃ p ∈ System.runSteps (System.logStep (step ⟨0, 0, 0⟩)
      fun st a => st.connections.events a) (new, []) oneLeft,
        p.1.alive = true ∧ p.1.connNum = 1 ∧ p.2 = [.counted 0, .counted 1, .closed 0] := by
    decide +kernel
  obtain ⟨st, log, reached, alive, one, same⟩ :
      ∃ (st : Server (Fin 2) (Fin 1)) (log : List (ConnEvent (Fin 2))),
        ((system ⟨0, 0, 0⟩).logged fun st a => st.connections.events a).Reachable (st, log) ∧
          st.alive = true ∧ st.connNum = 1 ∧ log = [.counted 0, .counted 1, .closed 0] :=
    System.logged_of_steps rfl check
  exact ⟨st, log, reached, same, one, (connNum_eq ⟨0, 0, 0⟩ reached).1 alive⟩

end Server

end NatProxy
