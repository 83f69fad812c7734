import Mathlib.Data.List.AList
import NatProxy.Memory.Buffer

/-!
# The session database

`add` and `del` only enqueue an operation. A worker thread alternates between
`operate`, which takes one operation from the front of the queue and applies it
to the table `_db`, and `serial`, which publishes the table as the string that
`output` returns. `operate` holds the queue's mutex from the test of the queue
to the removal of the operation, so it is one step.

Redis is connected and executes the commands in the order in which they are
issued. Nothing reads the hashes in between, so each command takes effect here
when it is issued.
-/

namespace NatProxy

open Memory

/-- A record of the database. -/
structure SSessionInfo where
  uiId : UInt32
  uiAddr : UInt32
  sGuid : Bytes
  deriving DecidableEq, Repr

/-- `OperationItem`, with the members that its operation uses. -/
inductive OperationItem
  | add (info : SSessionInfo)
  | del (uiId : UInt32)
  deriving DecidableEq, Repr

/-- The fields of the hash of a session. -/
inductive RedisField
  | id
  | addr
  | guid
  deriving DecidableEq, Repr

/-- The hashes, by key and field. -/
abbrev Redis := Bytes → RedisField → Option Bytes

/-- `kRedisKeySession`: the characters of `SESSION:`. -/
def kRedisKeySession : Bytes := [0x53, 0x45, 0x53, 0x53, 0x49, 0x4F, 0x4E, 0x3A]

def sessionKey (guid : Bytes) : Bytes := kRedisKeySession ++ guid

theorem sessionKey_inj {g h : Bytes} : sessionKey g = sessionKey h ↔ g = h :=
  List.append_right_inj kRedisKeySession

/-- `util::to_string` of an unsigned number: its decimal digits. -/
def toDecimal (n : UInt32) : Bytes :=
  (Nat.toDigits 10 n.toNat).map fun c => UInt8.ofNat c.toNat

/-- The value that `HMSET` gives to a field. -/
def SSessionInfo.field (info : SSessionInfo) : RedisField → Bytes
  | .id => toDecimal info.uiId
  | .addr => toDecimal info.uiAddr
  | .guid => info.sGuid

namespace Redis

/-- `HMSET` of all three fields. -/
def hmset (redis : Redis) (info : SSessionInfo) : Redis := fun key f =>
  if key = sessionKey info.sGuid then some (info.field f) else redis key f

/-- `HDEL` of all three fields. -/
def hdel (redis : Redis) (guid : Bytes) : Redis := fun key f =>
  if key = sessionKey guid then none else redis key f

end Redis

abbrev DbMap := AList fun _ : UInt32 => SSessionInfo

/-- `_db` and the hashes that mirror it. -/
structure DbStore where
  db : DbMap
  redis : Redis

namespace DbStore

def empty : DbStore := ⟨∅, fun _ _ => none⟩

/-- The switch of `CSessionDb::operate`. `insert` keeps an entry that is already
there, while the `HMSET` is issued in any case. -/
def operate (s : DbStore) : OperationItem → DbStore
  | .add info =>
      { db := if info.uiId ∈ s.db then s.db else s.db.insert info.uiId info
        redis := s.redis.hmset info }
  | .del uiId =>
      match s.db.lookup uiId with
      | none => s
      | some info => { db := s.db.erase info.uiId, redis := s.redis.hdel info.sGuid }

end DbStore

/-- `CSessionDb::MAX_LENGTH`. -/
def dbMaxLength : Nat := 2048

/-- `SSessionInfo::size()`. -/
def infoSize : Nat := 4 + 4

/-- The loop of `CSessionDb::serial` over the entries in iteration order:
`_buff`, `_buff_len` and the eight-bit counter. -/
def serialLoop : List SSessionInfo → Bytes → Nat → UInt8 → Except Fault (Bytes × Nat × UInt8)
  | [], buff, len, cnt => .ok (buff, len, cnt)
  | info :: rest, buff, len, cnt =>
      if len < dbMaxLength ∧ cnt.toNat < dbMaxLength / infoSize then do
        let buff ← put buff len (leBytes 4 info.uiId.toNat)
        let buff ← put buff (len + 4) (leBytes 4 info.uiAddr.toNat)
        serialLoop rest buff (len + 8) (cnt + 1)
      else .ok (buff, len, cnt)

/-- The string that `CSessionDb::serial` publishes. -/
def serial (db : DbMap) : Except Fault Bytes := do
  let entries := db.entries.map Sigma.snd
  let (buff, len, cnt) ← serialLoop entries (List.replicate dbMaxLength 0) 1 0
  let buff ← put buff 0 [cnt]
  let buff ← put buff len [0]
  copy buff 0 len

/-- Where the worker thread is. -/
inductive DbWorker
  /-- About to call `operate`. -/
  | entering
  /-- In `_op_cond.wait`, having found the queue empty. -/
  | waiting
  /-- About to call `serial`. -/
  | serializing
  | exited
  deriving DecidableEq, Repr

structure CSessionDb where
  store : DbStore
  opStack : List OperationItem
  outBuff : Bytes
  worker : DbWorker
  started : Bool

namespace CSessionDb

/-- The database after `start`. -/
def new : CSessionDb := ⟨.empty, [], [], .entering, true⟩

/-- `CSessionDb::add`. -/
def add (d : CSessionDb) (info : SSessionInfo) : CSessionDb :=
  { d with opStack := d.opStack ++ [.add info] }

/-- `CSessionDb::del`. -/
def del (d : CSessionDb) (uiId : UInt32) : CSessionDb :=
  { d with opStack := d.opStack ++ [.del uiId] }

/-- `CSessionDb::output`. -/
def output (d : CSessionDb) : Bytes := d.outBuff

/-- What the database's own thread and its owner do. -/
inductive Event
  | operate
  | serial
  | stop
  deriving DecidableEq, Repr

/-- Take the front operation, or wait for one. -/
def operateFront (d : CSessionDb) : CSessionDb :=
  match d.opStack with
  | [] => { d with worker := .waiting }
  | item :: rest =>
      { d with store := d.store.operate item, opStack := rest, worker := .serializing }

def step (d : CSessionDb) : Event → Option CSessionDb
  | .operate =>
      match d.worker with
      | .entering => some d.operateFront
      -- woken up in the wait: a stopped database returns without an operation
      | .waiting =>
          if d.started then some d.operateFront else some { d with worker := .serializing }
      | _ => none
  | .serial =>
      match d.worker with
      | .serializing =>
          match NatProxy.serial d.store.db with
          | .ok outBuff =>
              some { d with outBuff, worker := if d.started then .entering else .exited }
          | .error _ => none
      | _ => none
  | .stop => if d.started then some { d with started := false } else none

theorem add_ne (d : CSessionDb) (info : SSessionInfo) : d.add info ≠ d := by
  intro same
  have ops := congrArg opStack same
  simp [add] at ops

theorem add_ne_del (d : CSessionDb) (info : SSessionInfo) (uiId : UInt32) :
    d.add info ≠ d.del uiId := by
  intro same
  have ops := congrArg opStack same
  simp [add, del] at ops

/-- The store once the worker has applied every pending operation. -/
def settled (d : CSessionDb) : DbStore := d.opStack.foldl DbStore.operate d.store

@[simp] theorem settled_add (d : CSessionDb) (info : SSessionInfo) :
    (d.add info).settled = d.settled.operate (.add info) := by
  simp [settled, add]

@[simp] theorem settled_del (d : CSessionDb) (uiId : UInt32) :
    (d.del uiId).settled = d.settled.operate (.del uiId) := by
  simp [settled, del]

theorem settled_of_empty {d : CSessionDb} (h : d.opStack = []) : d.settled = d.store := by
  rw [settled, h, List.foldl_nil]

theorem settled_operateFront (d : CSessionDb) : d.operateFront.settled = d.settled := by
  unfold operateFront
  split <;> simp_all [settled]

/-- The worker moves operations from the queue to the store, so that the settled
store does not change. -/
theorem settled_step {d d' : CSessionDb} {e : Event} (h : d.step e = some d') :
    d'.settled = d.settled := by
  cases e with
  | operate =>
      simp only [step] at h
      split at h
      · obtain rfl := Option.some.inj h
        exact settled_operateFront d
      · split at h
        · obtain rfl := Option.some.inj h
          exact settled_operateFront d
        · obtain rfl := Option.some.inj h
          rfl
      · cases h
  | serial =>
      simp only [step] at h
      split at h
      · split at h
        · obtain rfl := Option.some.inj h
          rfl
        · cases h
      · cases h
  | stop =>
      simp only [step] at h
      split at h
      · obtain rfl := Option.some.inj h
        rfl
      · cases h

end CSessionDb

end NatProxy
