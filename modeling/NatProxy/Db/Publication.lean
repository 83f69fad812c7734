import NatProxy.Db.Mirror
import NatProxy.Transition.History

/-!
# What the session database publishes

`Table` is what the database is about: at most one record for each id, a second
`ADD` of an id without effect. `Encodes` says that a string lists a table, in any
order, as a count byte followed by eight bytes for each record.

The published string always lists the table after some number of the enqueued
operations. The number is that of the operations taken when `serial` ran last,
which is behind the operations applied to `_db` only while the worker is between
`operate` and `serial`.
-/

namespace NatProxy

open Memory Transition

/-! ## Tables -/

/-- The records by id. -/
abbrev Table := UInt32 → Option SSessionInfo

namespace Table

/-- An operation on a table. -/
def apply (t : Table) : OperationItem → Table
  | .add info => if t info.uiId = none then Function.update t info.uiId (some info) else t
  | .del uiId => Function.update t uiId none

/-- The table after a sequence of operations. -/
def after (ops : List OperationItem) : Table := ops.foldl apply fun _ => none

theorem after_append (ops : List OperationItem) (op : OperationItem) :
    after (ops ++ [op]) = (after ops).apply op := by
  simp [after]

/-- Records are stored under their own ids. -/
def Keyed (t : Table) : Prop := ∀ id info, t id = some info → info.uiId = id

theorem Keyed.apply {t : Table} (h : t.Keyed) (op : OperationItem) : (t.apply op).Keyed := by
  intro id info found
  cases op with
  | add added =>
      simp only [Table.apply] at found
      split at found
      · by_cases same : id = added.uiId
        · subst same
          rw [Function.update_self] at found
          exact congrArg SSessionInfo.uiId (Option.some.inj found).symm
        · rw [Function.update_of_ne same] at found
          exact h id info found
      · exact h id info found
  | del uiId =>
      by_cases same : id = uiId
      · subst same
        rw [Table.apply, Function.update_self] at found
        cases found
      · rw [Table.apply, Function.update_of_ne same] at found
        exact h id info found

theorem keyed_after (ops : List OperationItem) : (after ops).Keyed := by
  induction ops using List.reverseRecOn with
  | nil =>
      intro id info found
      cases found
  | append_singleton ops op ih =>
      rw [after_append]
      exact ih.apply op

end Table

/-- The table that a store holds. -/
def DbStore.table (s : DbStore) : Table := fun id => s.db.lookup id

/-- The switch of `operate` is the operation on the table. -/
theorem DbStore.table_operate {s : DbStore} (keyed : s.table.Keyed) (op : OperationItem) :
    (s.operate op).table = s.table.apply op := by
  funext id
  cases op with
  | add info =>
      by_cases listed : s.table info.uiId = none
      · rw [table, lookup_add listed, Table.apply, if_pos listed, Function.update_apply]
        rfl
      · have present : info.uiId ∈ s.db := by
          by_contra absent
          exact listed (AList.lookup_eq_none.mpr absent)
        rw [table, operate, if_pos present, Table.apply, if_neg listed]
        rfl
  | del uiId =>
      rw [table, lookup_del (keyed uiId), Table.apply, Function.update_apply]
      rfl

/-! ## Strings -/

/-- The eight bytes of a record. -/
def SSessionInfo.bytes (info : SSessionInfo) : Bytes :=
  leBytes 4 info.uiId.toNat ++ leBytes 4 info.uiAddr.toNat

theorem SSessionInfo.length_bytes (info : SSessionInfo) : info.bytes.length = 8 := by
  simp [bytes]

theorem length_flatMap_bytes (infos : List SSessionInfo) :
    (infos.flatMap SSessionInfo.bytes).length = 8 * infos.length := by
  induction infos with
  | nil => rfl
  | cons info infos ih =>
      rw [List.flatMap_cons, List.length_append, info.length_bytes, ih, List.length_cons]
      omega

/-- The string is the count of the records of the table, followed by the records. -/
def Encodes (out : Bytes) (t : Table) : Prop :=
  ∃ infos : List SSessionInfo, (infos.map SSessionInfo.uiId).Nodup ∧
    (∀ info, info ∈ infos ↔ t info.uiId = some info) ∧ infos.length ≤ 255 ∧
    out = UInt8.ofNat infos.length :: infos.flatMap SSessionInfo.bytes

/-- The loop appends a record to the part of `_buff` that is written. -/
theorem serialLoop_cons {info : SSessionInfo} {infos : List SSessionInfo} {front rest : Bytes}
    {n : Nat} (written : front.length = 1 + 8 * n)
    (size : front.length + rest.length = dbMaxLength) (few : n < 255) :
    serialLoop (info :: infos) (front ++ rest) front.length (UInt8.ofNat n) =
      serialLoop infos (front ++ info.bytes ++ rest.drop 8) (front ++ info.bytes).length
        (UInt8.ofNat (n + 1)) := by
  rw [dbMaxLength] at size
  have enabled : front.length < dbMaxLength ∧
      (UInt8.ofNat n).toNat < dbMaxLength / infoSize := by
    rw [dbMaxLength, infoSize, UInt8.toNat_ofNat']
    omega
  have putId := put_append front rest (leBytes 4 info.uiId.toNat) (by simp; omega)
  have putAddr := put_append (front ++ leBytes 4 info.uiId.toNat) (rest.drop 4)
    (leBytes 4 info.uiAddr.toNat) (by simp; omega)
  simp only [List.length_append, length_leBytes] at putId putAddr
  have joined : front ++ leBytes 4 info.uiId.toNat ++ leBytes 4 info.uiAddr.toNat ++
      (rest.drop 4).drop 4 = front ++ info.bytes ++ rest.drop 8 := by
    rw [List.drop_drop, SSessionInfo.bytes, ← List.append_assoc front]
  rw [serialLoop, if_pos enabled, putId, ok_bind, putAddr, ok_bind, joined, List.length_append,
    info.length_bytes, UInt8.ofNat_add]
  rfl

/-- The loop appends the records to the part of `_buff` that is written. -/
theorem serialLoop_eq (infos : List SSessionInfo) (front rest : Bytes) (n : Nat)
    (written : front.length = 1 + 8 * n) (size : front.length + rest.length = dbMaxLength)
    (few : n + infos.length ≤ 255) :
    serialLoop infos (front ++ rest) front.length (UInt8.ofNat n) =
      .ok (front ++ infos.flatMap SSessionInfo.bytes ++ rest.drop (8 * infos.length),
        front.length + 8 * infos.length, UInt8.ofNat (n + infos.length)) := by
  induction infos generalizing front rest n with
  | nil => simp [serialLoop]
  | cons info infos ih =>
      rw [List.length_cons] at few
      have longer : (front ++ info.bytes).length = front.length + 8 := by
        rw [List.length_append, info.length_bytes]
      have room : 8 ≤ rest.length := by
        rw [dbMaxLength] at size
        omega
      have counted : n + 1 + infos.length = n + (info :: infos).length := by
        rw [List.length_cons]
        omega
      rw [serialLoop_cons written size (by omega),
        ih (front ++ info.bytes) (rest.drop 8) (n + 1) (by omega)
          (by rw [longer, List.length_drop]; omega) (by omega),
        counted, longer, List.drop_drop, List.flatMap_cons, ← List.append_assoc front,
        List.length_cons, Nat.mul_succ, Nat.add_comm 8, Nat.add_assoc, Nat.add_comm 8]

/-- `CSessionDb::serial` publishes the entries of the table. -/
theorem serial_eq {db : DbMap} (few : db.entries.length ≤ 255) :
    serial db = .ok (UInt8.ofNat db.entries.length ::
      (db.entries.map Sigma.snd).flatMap SSessionInfo.bytes) := by
  obtain ⟨infos, entries⟩ : ∃ infos, db.entries.map Sigma.snd = infos := ⟨_, rfl⟩
  obtain ⟨records, recordsEq⟩ : ∃ records, infos.flatMap SSessionInfo.bytes = records := ⟨_, rfl⟩
  obtain ⟨zeros, zerosEq⟩ : ∃ zeros : Bytes,
      (List.replicate (dbMaxLength - 1) 0).drop (8 * infos.length) = zeros := ⟨_, rfl⟩
  have count : db.entries.length = infos.length := by rw [← entries, List.length_map]
  have length : records.length = 8 * infos.length := by rw [← recordsEq, length_flatMap_bytes]
  have room : 1 ≤ zeros.length := by
    rw [← zerosEq, List.length_drop, List.length_replicate, dbMaxLength]
    omega
  have size : ([0] : Bytes).length + (List.replicate (dbMaxLength - 1) (0 : UInt8)).length =
      dbMaxLength := by
    rw [List.length_replicate]
    rfl
  have loop := serialLoop_eq infos [0] (List.replicate (dbMaxLength - 1) 0) 0 rfl size (by omega)
  rw [recordsEq, zerosEq, Nat.zero_add, List.length_singleton] at loop
  change serialLoop infos ([0] ++ _) 1 0 = _ at loop
  have putCount : put ([0] ++ records ++ zeros) 0 [UInt8.ofNat infos.length] =
      .ok (UInt8.ofNat infos.length :: records ++ zeros) :=
    put_append [] ([0] ++ records ++ zeros) [UInt8.ofNat infos.length] (by simp)
  have putEnd := put_append (UInt8.ofNat infos.length :: records) zeros [0] room
  have front : (UInt8.ofNat infos.length :: records).length = 1 + 8 * infos.length := by
    rw [List.length_cons, length, Nat.add_comm]
  have whole : copy (UInt8.ofNat infos.length :: records ++ [0] ++ zeros.drop 1) 0
      (1 + 8 * infos.length) = .ok (UInt8.ofNat infos.length :: records) := by
    rw [copy_eq_ok_iff, List.drop_zero, List.append_assoc, ← front, List.take_left]
    refine ⟨.inr ?_, rfl⟩
    rw [List.length_append]
    omega
  have start : List.replicate dbMaxLength (0 : UInt8) =
      [0] ++ List.replicate (dbMaxLength - 1) 0 := rfl
  rw [front] at putEnd
  simp only [serial, entries, recordsEq, count, start, loop, ok_bind, putCount]
  rw [putEnd, ok_bind]
  exact whole

/-- The published string lists the table. -/
theorem encodes_serial {s : DbStore} (keyed : s.table.Keyed) (few : s.db.entries.length ≤ 255) :
    ∃ out, serial s.db = .ok out ∧ Encodes out s.table := by
  have found : ∀ e : Sigma fun _ : UInt32 => SSessionInfo, e ∈ s.db.entries ↔
      s.table e.1 = some e.2 := fun e => AList.mem_lookup_iff.symm
  have keys : (s.db.entries.map Sigma.snd).map SSessionInfo.uiId = s.db.keys := by
    rw [List.map_map]
    apply List.map_congr_left
    intro e listed
    exact keyed e.1 e.2 ((found e).mp listed)
  refine ⟨_, serial_eq few, s.db.entries.map Sigma.snd, ?_, ?_, ?_, ?_⟩
  · rw [keys]
    exact s.db.keys_nodup
  · intro info
    rw [List.mem_map]
    constructor
    · rintro ⟨e, listed, rfl⟩
      have lookup := (found e).mp listed
      rwa [keyed e.1 e.2 lookup]
    · intro lookup
      exact ⟨⟨info.uiId, info⟩, (found ⟨info.uiId, info⟩).mpr lookup, rfl⟩
  · rwa [List.length_map]
  · rw [List.length_map]

/-! ## The calls of a run -/

namespace CSessionDb

/-- What the threads of the process do with the database: `add`, `del` and `output`
by any of them, the rest by its own thread and its owner. -/
inductive Call
  | add (info : SSessionInfo)
  | del (uiId : UInt32)
  | output
  | event (e : Event)
  deriving DecidableEq, Repr

def call (d : CSessionDb) : Call → Option CSessionDb
  | .add info => some (d.add info)
  | .del uiId => some (d.del uiId)
  | .output => some d
  | .event e => d.step e

/-- The operation that a call enqueues. -/
def Call.operation : Call → Option OperationItem
  | .add info => some (.add info)
  | .del uiId => some (.del uiId)
  | _ => none

/-- The operations in the order in which they were enqueued. -/
def operations (calls : List Call) : List OperationItem := calls.filterMap Call.operation

/-- The number of entries of `_db`. -/
def size (d : CSessionDb) : Nat := d.store.db.entries.length

/-- After the calls, `taken` operations have been applied to `_db` and `k` are
published. -/
structure Published (calls : List Call) (d : CSessionDb) (taken k : Nat) : Prop where
  queued : d.opStack = (operations calls).drop taken
  bound : taken ≤ (operations calls).length
  applied : d.store.table = Table.after ((operations calls).take taken)
  behind : k ≤ taken
  current : d.worker ≠ .serializing → k = taken
  encoded : .event .serial ∈ calls →
    Encodes d.output (Table.after ((operations calls).take k))

theorem published_new : Published [] new 0 0 where
  queued := rfl
  bound := le_rfl
  applied := rfl
  behind := le_rfl
  current _ := rfl
  encoded called := by cases called

variable {calls : List Call} {d d' : CSessionDb} {taken k : Nat}

theorem operations_concat (c : Call) :
    operations (calls ++ [c]) = operations calls ++ c.operation.toList := by
  rw [operations, List.filterMap_append]
  cases c <;> rfl

/-- A call that enqueues an operation, which the worker has not seen yet. -/
theorem Published.enqueue (h : Published calls d taken k) {c : Call} {op : OperationItem}
    (enqueues : c.operation = some op) (notSerial : c ≠ .event .serial) :
    Published (calls ++ [c]) { d with opStack := d.opStack ++ [op] } taken k := by
  have ops : operations (calls ++ [c]) = operations calls ++ [op] := by
    rw [operations_concat, enqueues]
    rfl
  have applied : (operations (calls ++ [c])).take taken = (operations calls).take taken := by
    rw [ops, List.take_append_of_le_length h.bound]
  refine ⟨?_, ?_, ?_, h.behind, h.current, ?_⟩
  · rw [ops, List.drop_append_of_le_length h.bound, ← h.queued]
  · rw [ops, List.length_append]
    exact h.bound.trans (Nat.le_add_right _ _)
  · rw [applied]
    exact h.applied
  · intro called
    rw [ops, List.take_append_of_le_length (h.behind.trans h.bound)]
    refine h.encoded ?_
    rcases List.mem_append.mp called with before | last
    · exact before
    · exact absurd (List.mem_singleton.mp last).symm notSerial

/-- A call that enqueues nothing, with the changes of the worker. -/
theorem Published.same (h : Published calls d taken k) {c : Call} (enqueues : c.operation = none)
    (notSerial : c ≠ .event .serial) (opStack : d'.opStack = d.opStack)
    (store : d'.store = d.store) (outBuff : d'.outBuff = d.outBuff)
    (worker : d'.worker ≠ .serializing → d.worker ≠ .serializing) :
    Published (calls ++ [c]) d' taken k := by
  have ops : operations (calls ++ [c]) = operations calls := by
    rw [operations_concat, enqueues]
    exact List.append_nil _
  refine ⟨?_, ?_, ?_, h.behind, fun idle => h.current (worker idle), ?_⟩
  · rw [ops, opStack]
    exact h.queued
  · rw [ops]
    exact h.bound
  · rw [ops, store]
    exact h.applied
  · intro called
    rw [ops, output, outBuff]
    refine h.encoded ?_
    rcases List.mem_append.mp called with before | last
    · exact before
    · exact absurd (List.mem_singleton.mp last).symm notSerial

/-- The worker goes on with the queue. -/
theorem Published.operateFront (h : Published calls d taken k) (idle : d.worker ≠ .serializing) :
    ∃ taken', Published (calls ++ [.event .operate]) d.operateFront taken' k := by
  cases queue : d.opStack with
  | nil =>
      refine ⟨taken, h.same rfl (by simp) ?_ ?_ ?_ fun _ => idle⟩ <;>
        rw [CSessionDb.operateFront, queue]
  | cons item rest =>
      have ops : operations (calls ++ [.event .operate]) = operations calls := by
        rw [operations_concat]
        exact List.append_nil _
      have queued : (operations calls).drop taken = item :: rest := h.queued.symm.trans queue
      have more : taken < (operations calls).length := by
        have length := congrArg List.length queued
        rw [List.length_drop, List.length_cons] at length
        omega
      have next :
          (operations calls).take (taken + 1) = (operations calls).take taken ++ [item] := by
        rw [List.take_add_one, ← List.head?_drop, queued]
        rfl
      have keyed : d.store.table.Keyed := by
        rw [h.applied]
        exact Table.keyed_after _
      refine ⟨taken + 1, ?_, ?_, ?_, Nat.le_succ_of_le h.behind, ?_, ?_⟩
      · rw [ops, CSessionDb.operateFront, queue, ← List.drop_drop, queued]
        rfl
      · rw [ops]
        exact more
      · rw [ops, CSessionDb.operateFront, queue, next, Table.after_append, ← h.applied]
        exact DbStore.table_operate keyed item
      · rw [CSessionDb.operateFront, queue]
        intro idle
        exact absurd rfl idle
      · intro called
        rw [ops, CSessionDb.operateFront, queue]
        refine h.encoded ?_
        rcases List.mem_append.mp called with before | last
        · exact before
        · simp at last

/-- Every call keeps the account, and none of them takes a published operation back. -/
theorem Published.call (h : Published calls d taken k) (few : d.size ≤ 255) {c : Call}
    (run : d.call c = some d') :
    ∃ k', k ≤ k' ∧ ∃ taken', Published (calls ++ [c]) d' taken' k' := by
  cases c with
  | add info =>
      obtain rfl := Option.some.inj run
      exact ⟨k, le_rfl, taken, h.enqueue rfl (by simp)⟩
  | del uiId =>
      obtain rfl := Option.some.inj run
      exact ⟨k, le_rfl, taken, h.enqueue rfl (by simp)⟩
  | output =>
      obtain rfl := Option.some.inj run
      exact ⟨k, le_rfl, taken, h.same rfl (by simp) rfl rfl rfl fun idle => idle⟩
  | event e =>
      change d.step e = some d' at run
      cases e with
      | operate =>
          cases worker : d.worker with
          | entering =>
              simp only [step, worker] at run
              obtain rfl := Option.some.inj run
              exact ⟨k, le_rfl, h.operateFront (by simp [worker])⟩
          | waiting =>
              simp only [step, worker] at run
              split at run
              · obtain rfl := Option.some.inj run
                exact ⟨k, le_rfl, h.operateFront (by simp [worker])⟩
              · obtain rfl := Option.some.inj run
                exact ⟨k, le_rfl, taken,
                  h.same rfl (by simp) rfl rfl rfl fun idle => absurd rfl idle⟩
          | serializing | exited => simp [step, worker] at run
      | serial =>
          have keyed : d.store.table.Keyed := by
            rw [h.applied]
            exact Table.keyed_after _
          obtain ⟨out, serialized, encodes⟩ := encodes_serial keyed few
          have ops : operations (calls ++ [.event .serial]) = operations calls := by
            rw [operations_concat]
            exact List.append_nil _
          cases worker : d.worker with
          | serializing =>
              simp only [step, worker, serialized] at run
              obtain rfl := Option.some.inj run
              refine ⟨taken, h.behind, taken, ?_, ?_, ?_, le_rfl, fun _ => rfl, fun _ => ?_⟩
              · rw [ops]
                exact h.queued
              · rw [ops]
                exact h.bound
              · rw [ops]
                exact h.applied
              · rw [ops, ← h.applied]
                exact encodes
          | entering | waiting | exited => simp [step, worker] at run
      | stop =>
          simp only [step, Option.ite_none_right_eq_some, Option.some.injEq] at run
          obtain ⟨_, rfl⟩ := run
          exact ⟨k, le_rfl, taken, h.same rfl (by simp) rfl rfl rfl fun idle => idle⟩

/-- What a string that is read after some of the calls shows. -/
structure Linearized (calls : List Call) (d : CSessionDb) (k : Nat) : Prop where
  enqueued : k ≤ (operations calls).length
  encoded : .event .serial ∈ calls →
    Encodes d.output (Table.after ((operations calls).take k))
  caughtUp : d.opStack = [] → d.worker = .waiting → k = (operations calls).length

theorem Published.linearized (h : Published calls d taken k) : Linearized calls d k where
  enqueued := h.behind.trans h.bound
  encoded := h.encoded
  caughtUp := by
    intro empty waiting
    have drained := h.queued.symm.trans empty
    rw [List.drop_eq_nil_iff] at drained
    rw [h.current (by simp [waiting])]
    exact le_antisymm h.bound drained

/-- In every run in which the table has at most 255 entries, the number of
operations behind the published string never decreases, whatever the order of the
calls: from the first `serial` on, the string read after any prefix of the run
lists the table after that many of the operations that were enqueued, in the order
in which they were, and after all of them once the worker waits at an empty queue. -/
theorem output_linearizes {calls : List Call} {d : CSessionDb}
    (run : System.runSteps call new calls = some d)
    (small : ∀ i ≤ calls.length, ∀ r, System.runSteps call new (calls.take i) = some r →
      r.size ≤ 255) :
    ∃ k : Nat → Nat, Monotone k ∧ ∀ i ≤ calls.length, ∃ r,
      System.runSteps call new (calls.take i) = some r ∧ Linearized (calls.take i) r (k i) := by
  obtain ⟨k, mono, points⟩ := System.exists_monotone (P := fun d => d.size ≤ 255)
    (R := fun d calls k => ∃ taken, Published calls d taken k) ⟨0, published_new⟩
    (by
      rintro d calls k c d' few ⟨taken, h⟩ step
      exact h.call few step)
    run small
  refine ⟨k, mono, fun i le => ?_⟩
  obtain ⟨r, reached, taken, h⟩ := points i le
  exact ⟨r, reached, h.linearized⟩

/-- Two records are added. The first one is published before the worker has taken
the second one, and then both. -/
def twoRecords : List Call :=
  [.event .operate, .add ⟨1000, 0, [0x41]⟩, .add ⟨1001, 0, [0x42]⟩, .event .operate,
    .event .serial, .output, .event .operate, .event .serial, .event .operate, .output]

theorem output_linearizes_twoRecords :
    ∃ d, System.runSteps call new twoRecords = some d ∧
      Encodes d.output (Table.after (operations twoRecords)) := by
  have waits : ∃ d ∈ System.runSteps call new twoRecords, d.opStack = [] ∧ d.worker = .waiting := by
    decide +kernel
  have few : ∀ i ≤ twoRecords.length,
      ∃ r ∈ System.runSteps call new (twoRecords.take i), r.size ≤ 255 := by
    decide +kernel
  obtain ⟨d, run, empty, waiting⟩ := waits
  obtain ⟨k, _, points⟩ := output_linearizes run fun i le r reached => by
    obtain ⟨r', reached', small⟩ := few i le
    obtain rfl := Option.some.inj (reached.symm.trans reached')
    exact small
  obtain ⟨r, reached, linearized⟩ := points twoRecords.length le_rfl
  rw [List.take_length] at reached linearized
  obtain rfl := Option.some.inj (run.symm.trans reached)
  have encoded := linearized.encoded (by decide)
  rw [linearized.caughtUp empty waiting, List.take_length] at encoded
  exact ⟨d, run, encoded⟩

end CSessionDb

end NatProxy
