import NatProxy.Transition.System

/-!
# The send queue of a session

`doWrite` posts `writeImpl` on the session's strand; `writeImpl` appends the
message to `_sque` and starts an `async_write` of the front message unless the
queue was already in use. Whether a write is outstanding is not stored anywhere:
the code reads it off the length of the queue. `onWriteComplete` removes the
front message and starts the next write, except after an error, where it returns
early.

The queue is generic in its messages. `inflight` collects the messages of the
`async_write` operations whose completion has not been handled, so that two
overlapping writes could be represented. `called`, `ran` and `handed` only record
the history of the queue.
-/

namespace NatProxy

open Transition

/-- The send side of a session: the strand's posted handlers, `_sque`, and the
operations of the socket. -/
structure SendQueue (M : Type) where
  /-- Messages that `doWrite` accepted, in call order. -/
  called : List M
  /-- `writeImpl` handlers posted on the strand, which runs them in order. -/
  posted : List M
  /-- Messages whose `writeImpl` has run, in that order. -/
  ran : List M
  sque : List M
  inflight : List M
  /-- Messages given to `async_write`, in that order. -/
  handed : List M
  deriving DecidableEq, Repr

namespace SendQueue

variable {M : Type}

/-- The queue of a new session. -/
def empty : SendQueue M := ⟨[], [], [], [], [], []⟩

/-- `CSession::doWrite`; `length` is the message's `length()`. -/
def doWrite (length : M → Nat) (q : SendQueue M) (msg : M) : SendQueue M :=
  if length msg ≤ 0 then q
  else { q with called := q.called ++ [msg], posted := q.posted ++ [msg] }

/-- `CSession::write`: an `async_write` of `_sque[0]`. -/
def write (q : SendQueue M) : SendQueue M :=
  match q.sque with
  | [] => q
  | msg :: _ => { q with inflight := q.inflight ++ [msg], handed := q.handed ++ [msg] }

/-- `CSession::writeImpl`. -/
def writeImpl (q : SendQueue M) (msg : M) : SendQueue M :=
  let q := { q with sque := q.sque ++ [msg], ran := q.ran ++ [msg] }
  if q.sque.length > 1 then q else q.write

/-- `CSession::onWriteComplete`; an empty queue has no `_sque[0]` to log. -/
def onWriteComplete (q : SendQueue M) (ec : Bool) : Option (SendQueue M) :=
  match q.sque with
  | [] => none
  | _ :: rest =>
      let q := { q with sque := rest }
      if ec then some q
      else if rest.isEmpty then some q
      else some q.write

/-- What can happen next to the send side. -/
inductive Event (M : Type)
  /-- Some handler calls `doWrite`. -/
  | doWrite (msg : M)
  /-- The strand runs the next posted `writeImpl`. -/
  | runPosted
  /-- The `i`-th outstanding write completes, with an error or not. -/
  | complete (i : Nat) (ec : Bool)
  deriving DecidableEq, Repr

def step (length : M → Nat) (q : SendQueue M) : Event M → Option (SendQueue M)
  | .doWrite msg => some (q.doWrite length msg)
  | .runPosted =>
      match q.posted with
      | [] => none
      | msg :: rest => some ({ q with posted := rest }.writeImpl msg)
  | .complete i ec =>
      if i < q.inflight.length then
        { q with inflight := q.inflight.eraseIdx i }.onWriteComplete ec
      else none

@[simp] theorem called_write (q : SendQueue M) : q.write.called = q.called := by
  rw [write]
  split <;> rfl

@[simp] theorem called_writeImpl (q : SendQueue M) (msg : M) :
    (q.writeImpl msg).called = q.called := by
  rw [writeImpl]
  split
  · rfl
  · exact called_write _

/-- Only `doWrite` is called by handlers. -/
theorem called_step {length : M → Nat} {q q' : SendQueue M} {e : Event M}
    (other : ∀ msg, e ≠ .doWrite msg) (run : q.step length e = some q') :
    q'.called = q.called := by
  cases e with
  | doWrite msg => exact absurd rfl (other msg)
  | runPosted =>
      rw [step] at run
      split at run
      · cases run
      · obtain rfl := Option.some.inj run
        exact called_writeImpl _ _
  | complete i ec =>
      rw [step] at run
      split at run
      · rw [onWriteComplete] at run
        split at run
        · cases run
        · dsimp only at run
          split at run
          · obtain rfl := Option.some.inj run
            rfl
          · split at run <;> obtain rfl := Option.some.inj run
            · rfl
            · exact called_write _
      · cases run

/-- The bookkeeping that every run keeps, whatever completes with an error. -/
structure Ordered (q : SendQueue M) : Prop where
  /-- At most one `async_write` is outstanding. -/
  one : q.inflight.length ≤ 1
  /-- It is for the front of the queue. -/
  front : ∀ msg ∈ q.inflight, q.sque.head? = some msg
  /-- The messages that ran are those handed to the socket, in order, and then
  those still waiting in the queue. -/
  order : q.handed ++ q.sque.drop q.inflight.length = q.ran

/-- The queue is in use exactly while a write is outstanding. -/
structure Sound (q : SendQueue M) : Prop extends Ordered q where
  live : q.sque ≠ [] ↔ q.inflight ≠ []

/-- A step on which the queue stays sound: a failing write has nothing queued
behind it. -/
def FailsAlone (q : SendQueue M) : Event M → Prop
  | .complete _ true => q.sque.length ≤ 1
  | _ => True

theorem empty_sound : (empty : SendQueue M).Sound where
  one := Nat.zero_le 1
  front := by simp [empty]
  order := rfl
  live := by simp [empty]

/-- An ordered queue has no write outstanding, or exactly the one of its front. -/
theorem Ordered.cases {q : SendQueue M} (h : q.Ordered) :
    q.inflight = [] ∧ q.handed ++ q.sque = q.ran ∨
      ∃ msg rest, q.inflight = [msg] ∧ q.sque = msg :: rest ∧ q.handed ++ rest = q.ran := by
  have one := h.one
  have front := h.front
  have order := h.order
  match inflight : q.inflight with
  | [] =>
      rw [inflight] at order
      exact .inl ⟨rfl, order⟩
  | [msg] =>
      obtain ⟨rest, cons⟩ := List.head?_eq_some_iff.mp (front msg (by simp [inflight]))
      rw [inflight, cons] at order
      exact .inr ⟨msg, rest, rfl, cons, order⟩
  | _ :: _ :: _ => simp [inflight] at one

theorem ordered_of_idle {q : SendQueue M} (idle : q.inflight = [])
    (order : q.handed ++ q.sque = q.ran) : q.Ordered where
  one := by simp [idle]
  front := by simp [idle]
  order := by rw [idle]; exact order

theorem ordered_of_busy {q : SendQueue M} {msg : M} {rest : List M} (busy : q.inflight = [msg])
    (queue : q.sque = msg :: rest) (order : q.handed ++ rest = q.ran) : q.Ordered where
  one := by simp [busy]
  front := by simp [busy, queue]
  order := by rw [busy, queue]; exact order

/-- Starting a write when none is outstanding keeps the order. -/
theorem write_ordered {q : SendQueue M} (idle : q.inflight = [])
    (order : q.handed ++ q.sque = q.ran) : q.write.Ordered := by
  unfold write
  split
  · exact ordered_of_idle idle order
  · next msg rest queue =>
    refine ordered_of_busy (by simp [idle]) queue ?_
    rw [queue] at order
    simpa using order

theorem writeImpl_ordered {q : SendQueue M} (h : q.Ordered) (msg : M) :
    (q.writeImpl msg).Ordered := by
  rcases h.cases with ⟨idle, order⟩ | ⟨front, rest, busy, queue, order⟩
  · have appended : q.handed ++ (q.sque ++ [msg]) = q.ran ++ [msg] := by
      rw [← List.append_assoc, order]
    unfold writeImpl
    simp only
    split
    · exact ordered_of_idle idle appended
    · exact write_ordered idle appended
  · unfold writeImpl
    simp only
    rw [if_pos (by simp [queue])]
    have longer : q.sque ++ [msg] = front :: (rest ++ [msg]) := by
      rw [queue, List.cons_append]
    refine ordered_of_busy busy longer ?_
    rw [← List.append_assoc, order]

/-- Handling a completion removes the front message, and with it the write. -/
theorem complete_cases {length : M → Nat} {q r : SendQueue M} {i : Nat} {ec : Bool}
    (h : q.Ordered) (run : q.step length (.complete i ec) = some r) :
    ∃ msg rest, q.inflight = [msg] ∧ q.sque = msg :: rest ∧ q.handed ++ rest = q.ran ∧
      (if ec ∨ rest = [] then r = { q with inflight := [], sque := rest }
        else r = { q with inflight := [], sque := rest }.write) := by
  simp only [step] at run
  split at run
  · next bound =>
    rcases h.cases with ⟨idle, _⟩ | ⟨msg, rest, busy, queue, order⟩
    · simp [idle] at bound
    · refine ⟨msg, rest, busy, queue, order, ?_⟩
      have zero : i = 0 := by
        rw [busy] at bound
        exact Nat.lt_one_iff.mp bound
      subst zero
      simp only [busy, queue, onWriteComplete, List.eraseIdx_cons_zero] at run
      cases ec with
      | true => simpa using run.symm
      | false =>
          cases rest with
          | nil => simpa using run.symm
          | cons _ _ => simpa using run.symm
  · cases run

theorem step_ordered (length : M → Nat) (q : SendQueue M) (e : Event M) (r : SendQueue M)
    (h : q.Ordered) (run : q.step length e = some r) : r.Ordered := by
  cases e with
  | doWrite msg =>
      obtain rfl := Option.some.inj run
      unfold doWrite
      split
      · exact h
      · exact ⟨h.one, h.front, h.order⟩
  | runPosted =>
      simp only [step] at run
      split at run
      · cases run
      · next msg rest _ =>
        obtain rfl := Option.some.inj run
        have taken : Ordered { q with posted := rest } := ⟨h.one, h.front, h.order⟩
        exact writeImpl_ordered taken msg
  | complete i ec =>
      obtain ⟨msg, rest, busy, queue, order, result⟩ := complete_cases h run
      split at result
      · subst result
        exact ordered_of_idle rfl order
      · subst result
        exact write_ordered rfl order

theorem write_live {q : SendQueue M} (idle : q.inflight = []) :
    q.write.sque ≠ [] ↔ q.write.inflight ≠ [] := by
  unfold write
  split
  · next queue => simp [idle, queue]
  · next queue => simp [idle, queue]

theorem writeImpl_live {q : SendQueue M} (h : q.Sound) (msg : M) :
    (q.writeImpl msg).sque ≠ [] ↔ (q.writeImpl msg).inflight ≠ [] := by
  have live := h.live
  unfold writeImpl
  simp only
  split
  · next more =>
    have used : q.sque ≠ [] := by
      intro nil
      simp [nil] at more
    simp [live.mp used]
  · next only =>
    have unused : q.sque = [] := by
      cases queue : q.sque with
      | nil => rfl
      | cons _ _ => simp [queue] at only
    have idle : q.inflight = [] := by
      by_contra busy
      exact live.mpr busy unused
    exact write_live idle

/-- A step keeps the queue sound exactly when it is not the failure of a write
with messages behind it. -/
theorem step_sound_iff (length : M → Nat) (q : SendQueue M) (e : Event M) (r : SendQueue M)
    (h : q.Sound) (run : q.step length e = some r) : r.Sound ↔ q.FailsAlone e := by
  have ordered := step_ordered length q e r h.toOrdered run
  have reduce : r.Sound ↔ (r.sque ≠ [] ↔ r.inflight ≠ []) :=
    ⟨fun s => s.live, fun live => ⟨ordered, live⟩⟩
  rw [reduce]
  cases e with
  | doWrite msg =>
      obtain rfl := Option.some.inj run
      refine iff_of_true ?_ trivial
      unfold doWrite
      split <;> exact h.live
  | runPosted =>
      simp only [step] at run
      split at run
      · cases run
      · next msg rest _ =>
        obtain rfl := Option.some.inj run
        have taken : Sound { q with posted := rest } := ⟨⟨h.one, h.front, h.order⟩, h.live⟩
        exact iff_of_true (writeImpl_live taken msg) trivial
  | complete i ec =>
      obtain ⟨msg, rest, busy, queue, order, result⟩ := complete_cases h.toOrdered run
      cases ec with
      | true =>
          simp only [true_or, if_true] at result
          subst result
          cases rest with
          | nil => simp [FailsAlone, queue]
          | cons _ _ => simp [FailsAlone, queue]
      | false =>
          refine iff_of_true ?_ trivial
          split at result
          · next last =>
            subst result
            simp_all
          · subst result
            exact write_live rfl

/-- Along every run of `doWrite` calls, strand handlers and completions the queue
is sound at every point if and only if every write that completes with an error
has no message queued behind it. -/
theorem sound_along_iff (length : M → Nat) (events : List (Event M)) :
    System.Along (step length) Sound empty events ↔
      System.Meets (step length) FailsAlone empty events :=
  System.along_iff_meets
    (fun q e r h run => step_ordered length q e r h run)
    (fun q e r _ h run => step_sound_iff length q e r h run)
    empty_sound.toOrdered empty_sound events

/-- The first of two queued messages fails; the second one is never written, and
neither is a third that is sent later. -/
def strandedRun : List (Event Nat) :=
  [.doWrite 1, .doWrite 2, .runPosted, .runPosted, .complete 0 true, .doWrite 3, .runPosted]

theorem queue_not_always_sound :
    (System.runSteps (step fun _ => 1) empty strandedRun).map
        (fun q => (q.handed, q.sque, q.inflight)) = some ([1], [2, 3], []) ∧
      ¬ System.Along (step fun _ => 1) Sound empty strandedRun := by
  refine ⟨by decide, ?_⟩
  rw [sound_along_iff]
  intro meets
  have fails := ((((meets _ rfl).2 _ rfl).2 _ rfl).2 _ rfl).2 _ rfl
  exact absurd (show 2 ≤ 1 from fails.1) (by decide)

end SendQueue

end NatProxy
