import NatProxy.Db.SessionDb
import NatProxy.Redis.Link

/-!
# The session database and its Redis server

`operate` gives its commands to the Redis client, which answers when it likes. The
server is any one that does with `AUTH`, `HMSET` and `HDEL` what their documentation
says. If each operation is applied while the client is connected and after it has been
given `AUTH`, then the hashes on the server are those that `DbStore` has at once, as they
were some operations ago, and as they are when nothing is under way any more.

The connection handler gives `AUTH` after the state of the client has changed, and the
database is on another thread, so the condition is not empty: a command that comes in
between is refused by a server with a password.
-/

namespace NatProxy

open Memory Transition

/-- `kRedisFieldSessionId` to `kRedisFieldSessionGuid` -/
def RedisField.name : RedisField → Bytes
  | .id => ascii "ID"
  | .addr => ascii "ADDR"
  | .guid => ascii "GUID"

theorem RedisField.name_inj {f g : RedisField} : f.name = g.name ↔ f = g := by
  cases f <;> cases g <;> decide

/-- The callbacks of the database. -/
inductive RedisHandler
  | onRedisAuth
  | onRedisSetSessionCompleted (id : UInt32)
  | onRedisDelSessionCompleted (id : UInt32)
  deriving DecidableEq, Repr

/-- `kRedisAUTH` and its argument. -/
def authItems (passwd : Bytes) : List Bytes := [ascii "AUTH", passwd]

/-- `kRedisHMSET` and its arguments. -/
def hmsetItems (info : SSessionInfo) : List Bytes :=
  [ascii "HMSET", sessionKey info.sGuid, RedisField.id.name, info.field .id,
    RedisField.addr.name, info.field .addr, RedisField.guid.name, info.field .guid]

/-- `kRedisHDEL` and its arguments. -/
def hdelItems (guid : Bytes) : List Bytes :=
  [ascii "HDEL", sessionKey guid, RedisField.id.name, RedisField.addr.name, RedisField.guid.name]

/-- The command of an operation, if it has one. -/
def DbStore.command (s : DbStore) : OperationItem → Option (List Bytes × RedisHandler)
  | .add info => some (hmsetItems info, .onRedisSetSessionCompleted info.uiId)
  | .del uiId =>
      (s.db.lookup uiId).map fun info =>
        (hdelItems info.sGuid, .onRedisDelSessionCompleted info.uiId)

/-- What the documentation of the commands says. -/
structure HashService {σ : Type} (S : Service σ) (passwd : Bytes) where
  hashes : σ → Bytes → Bytes → Option Bytes
  /-- The server has accepted a password, if it wants one. -/
  ready : σ → Prop
  auth : ∀ s, ready (S.next s (authItems passwd)) ∧
    hashes (S.next s (authItems passwd)) = hashes s
  hmset : ∀ s key (pairs : List (Bytes × Bytes)), ready s →
    let s' := S.next s (ascii "HMSET" :: key :: pairs.flatMap fun pair => [pair.1, pair.2])
    ready s' ∧ ∀ k f, hashes s' k f =
      if k = key then ((pairs.reverse.find? fun pair => pair.1 = f).map Prod.snd).or (hashes s k f)
      else hashes s k f
  hdel : ∀ s key (fields : List Bytes), ready s →
    let s' := S.next s (ascii "HDEL" :: key :: fields)
    ready s' ∧ ∀ k f, hashes s' k f = if k = key ∧ f ∈ fields then none else hashes s k f

/-- The database with its client, the server and what is under way between them. -/
structure WiredDb (σ : Type) where
  store : DbStore
  link : RedisLink RedisHandler σ
  /-- The connection handler has not given `AUTH` yet. -/
  connecting : Bool
  /-- The operations, in their order; only a record of the past. -/
  performed : List OperationItem

inductive WireEvent
  /-- The worker applies the operation at the front of its queue. -/
  | operate (item : OperationItem)
  /-- The client changes its state, and then calls `onRedisConnected`. -/
  | connected (ok : Bool)
  | onRedisConnected
  | runPosted
  | transmit (i n : Nat)
  | wrote (i : Nat) (ec : Bool)
  | serve (n : Nat)
  | read (n : Nat)
  | readFails
  | disconnect

namespace WiredDb

variable {σ : Type}

def new (throws : Bool) (refuses : Reserve → Bool) (s : σ) : WiredDb σ :=
  ⟨.empty, .new throws refuses s, false, []⟩

/-- A step of the client, the server or the network. -/
def act (S : Service σ) (w : WiredDb σ) (e : LinkEvent RedisHandler) : Option (WiredDb σ) :=
  (w.link.step S e).map fun link => { w with link }

/-- The switch of `CSessionDb::operate`. -/
def operate (S : Service σ) (w : WiredDb σ) (item : OperationItem) : Option (WiredDb σ) :=
  let w' := { w with store := w.store.operate item, performed := w.performed ++ [item] }
  match w.store.command item with
  | some (items, handler) =>
      if w.link.client.isConnected then w'.act S (.command items handler) else some w'
  | none => some w'

def step (S : Service σ) (passwd : Bytes) (w : WiredDb σ) : WireEvent → Option (WiredDb σ)
  | .operate item => w.operate S item
  | .connected ok => { w with connecting := ok }.act S (.connected ok)
  | .onRedisConnected =>
      if w.connecting then
        { w with connecting := false }.act S (.command (authItems passwd) .onRedisAuth)
      else none
  | .runPosted => w.act S .runPosted
  | .transmit i n => w.act S (.transmit i n)
  | .wrote i ec => w.act S (.wrote i ec)
  | .serve n => w.act S (.serve n)
  | .read n => w.act S (.read n)
  | .readFails => w.act S .readFails
  | .disconnect => w.act S .close

end WiredDb

namespace DbStore

/-- The commands of some operations. -/
def commands : DbStore → List OperationItem → List (List Bytes × RedisHandler)
  | _, [] => []
  | s, item :: items => (s.command item).toList ++ commands (s.operate item) items

theorem commands_append (s : DbStore) (items more : List OperationItem) :
    s.commands (items ++ more) = s.commands items ++ (items.foldl operate s).commands more := by
  induction items generalizing s with
  | nil => rfl
  | cons item items ih => rw [List.cons_append, commands, ih, commands, List.append_assoc]; rfl

/-- The first commands are those of the first operations. -/
theorem exists_take_of_isPrefix {s : DbStore} {items : List OperationItem}
    {first : List (List Bytes × RedisHandler)} (initial : first <+: s.commands items) :
    ∃ n, s.commands (items.take n) = first := by
  induction items generalizing s first with
  | nil => exact ⟨0, (List.prefix_nil.mp initial).symm⟩
  | cons item items ih =>
      rw [commands] at initial
      cases command : s.command item with
      | none =>
          rw [command] at initial
          obtain ⟨n, same⟩ := ih initial
          exact ⟨n + 1, by rw [List.take_succ_cons, commands, command, same]; rfl⟩
      | some cmd =>
          rw [command] at initial
          cases first with
          | nil => exact ⟨0, rfl⟩
          | cons head first =>
              obtain ⟨rfl, later⟩ := List.cons_prefix_cons.mp initial
              obtain ⟨n, same⟩ := ih later
              exact ⟨n + 1, by rw [List.take_succ_cons, commands, command, same]; rfl⟩

end DbStore

namespace HashService

variable {σ : Type} {S : Service σ} {passwd : Bytes} (h : HashService S passwd)

/-- The hashes of the sessions are those of the database. -/
def Reflects (s : σ) (d : DbStore) : Prop :=
  h.ready s ∧ ∀ guid (f : RedisField),
    h.hashes s (sessionKey guid) f.name = d.redis (sessionKey guid) f

variable {h} {s : σ} {d : DbStore}

theorem Reflects.operate (same : h.Reflects s d) (item : OperationItem) :
    h.Reflects (S.after s ((d.command item).toList.map Prod.fst)) (d.operate item) := by
  obtain ⟨ready, same⟩ := same
  cases item with
  | add info =>
      obtain ⟨ready, hashes⟩ := h.hmset s (sessionKey info.sGuid)
        [(RedisField.id.name, info.field .id), (RedisField.addr.name, info.field .addr),
          (RedisField.guid.name, info.field .guid)] ready
      refine ⟨ready, ?_⟩
      intro guid f
      refine (hashes _ _).trans ?_
      dsimp only [DbStore.operate, Redis.hmset]
      by_cases key : sessionKey guid = sessionKey info.sGuid
      · rw [if_pos key, if_pos key]
        cases f <;> simp [RedisField.name_inj]
      · rw [if_neg key, if_neg key, same]
  | del uiId =>
      cases stored : d.db.lookup uiId with
      | none =>
          rw [DbStore.command, DbStore.operate, stored]
          exact ⟨ready, same⟩
      | some info =>
          obtain ⟨ready, hashes⟩ := h.hdel s (sessionKey info.sGuid)
            [RedisField.id.name, RedisField.addr.name, RedisField.guid.name] ready
          rw [DbStore.command, DbStore.operate, stored]
          refine ⟨ready, ?_⟩
          intro guid f
          refine (hashes _ _).trans ?_
          have deleted : f.name ∈
              [RedisField.id.name, RedisField.addr.name, RedisField.guid.name] := by
            cases f <;> simp
          dsimp only [Redis.hdel]
          by_cases key : sessionKey guid = sessionKey info.sGuid
          · rw [if_pos ⟨key, deleted⟩, if_pos key]
          · rw [if_neg fun both => key both.1, if_neg key, same]

/-- The server after all commands of some operations. -/
theorem Reflects.commands (same : h.Reflects s d) (items : List OperationItem) :
    h.Reflects (S.after s ((d.commands items).map Prod.fst)) (items.foldl DbStore.operate d) := by
  induction items generalizing s d with
  | nil => exact same
  | cons item items ih =>
      rw [DbStore.commands, List.map_append, Service.after_append]
      exact ih (same.operate item)

end HashService

namespace WiredDb

variable {σ : Type} {S : Service σ} {passwd : Bytes} {s₀ : σ} {w v : WiredDb σ}

def System (S : Service σ) (passwd : Bytes) (s₀ : σ) : Transition.System (WiredDb σ) WireEvent :=
  .ofStep (fun w => ∃ throws refuses, w = new throws refuses s₀) (step S passwd)

/-- Operations are applied while the client is connected and after `AUTH`. -/
def Steady (w : WiredDb σ) : WireEvent → Prop
  | .operate _ => w.link.client.state = .connected ∧ w.link.issued ≠ []
  | _ => True

/-- The commands that the client has been given are `AUTH` and those of the operations. -/
structure Wired (S : Service σ) (passwd : Bytes) (s₀ : σ) (w : WiredDb σ) : Prop where
  linked : w.link.Linked S s₀
  store : w.store = w.performed.foldl DbStore.operate .empty
  first : w.link.client.connecting = true → w.connecting = false ∧ w.link.issued = []
  early : w.connecting = true → w.link.issued = []
  issued : w.link.issued = [] ∧ w.performed = [] ∨
    w.link.issued = (authItems passwd, .onRedisAuth) :: DbStore.empty.commands w.performed

theorem wired_new (throws : Bool) (refuses : Reserve → Bool) :
    (new throws refuses s₀ : WiredDb σ).Wired S passwd s₀ where
  linked := RedisLink.linked_new throws refuses s₀
  store := rfl
  first := fun _ => ⟨rfl, rfl⟩
  early := fun _ => rfl
  issued := .inl ⟨rfl, rfl⟩

/-- A step that neither connects nor gives a command. -/
theorem Wired.act (h : w.Wired S passwd s₀) {e : LinkEvent RedisHandler}
    (run : w.act S e = some v) (connected : ∀ ok, e ≠ .connected ok)
    (command : ∀ items f, e ≠ .command items f) : v.Wired S passwd s₀ := by
  obtain ⟨link, taken, rfl⟩ := Option.map_eq_some_iff.mp run
  have issued := RedisLink.step_issued taken command
  have connecting := RedisLink.step_connecting taken connected
  refine ⟨h.linked.step taken, h.store, ?_, ?_, ?_⟩
  · rw [issued, connecting]
    exact h.first
  · rw [issued]
    exact h.early
  · rw [issued]
    exact h.issued

theorem Wired.connected (h : w.Wired S passwd s₀) {ok : Bool}
    (run : { w with connecting := ok }.act S (.connected ok) = some v) :
    v.Wired S passwd s₀ := by
  obtain ⟨link, taken, rfl⟩ := Option.map_eq_some_iff.mp run
  have linked := h.linked.step taken
  obtain ⟨d, client, rfl⟩ := Option.map_eq_some_iff.mp taken
  obtain ⟨connecting, client⟩ := Option.ite_none_right_eq_some.mp client
  obtain rfl := Option.some.inj client
  have settled : ({ w.link.client with connecting := false }.handleAsyncConnect ok).connecting =
      false := by
    rw [RedisClientImpl.handleAsyncConnect]
    split <;> rfl
  refine ⟨linked, h.store, ?_, fun _ => (h.first connecting).2, h.issued⟩
  intro still
  dsimp only at still
  rw [settled] at still
  cases still

theorem Wired.onRedisConnected (h : w.Wired S passwd s₀) (connecting : w.connecting = true)
    (run : { w with connecting := false }.act S (.command (authItems passwd) .onRedisAuth) =
      some v) : v.Wired S passwd s₀ := by
  obtain ⟨link, taken, rfl⟩ := Option.map_eq_some_iff.mp run
  have none := h.early connecting
  have performed : w.performed = [] := by
    rcases h.issued with ⟨_, none⟩ | some
    · exact none
    · rw [none] at some
      cases some
  have settled := RedisLink.step_connecting taken (by simp)
  have issued := RedisLink.step_command taken
  refine ⟨h.linked.step taken, h.store, ?_, (by rintro ⟨⟩), ?_⟩
  · intro still
    rw [settled] at still
    have := (h.first still).1
    rw [connecting] at this
    cases this
  · dsimp only at issued ⊢
    rw [issued, none, performed]
    split
    · exact .inr rfl
    · exact .inl ⟨rfl, rfl⟩

theorem Wired.operate (h : w.Wired S passwd s₀) {item : OperationItem}
    (state : w.link.client.state = .connected) (given : w.link.issued ≠ [])
    (run : w.operate S item = some v) : v.Wired S passwd s₀ := by
  have settled : w.link.client.connecting ≠ true := fun still => given (h.first still).2
  have notEarly : w.connecting ≠ true := fun still => given (h.early still)
  have store : w.store.operate item =
      (w.performed ++ [item]).foldl DbStore.operate .empty := by
    rw [List.foldl_append, ← h.store]
    rfl
  have issued : w.link.issued ++ (w.store.command item).toList =
      (authItems passwd, .onRedisAuth) :: DbStore.empty.commands (w.performed ++ [item]) := by
    rcases h.issued with ⟨none, _⟩ | some
    · exact absurd none given
    · rw [some, DbStore.commands_append, ← h.store, List.cons_append]
      simp [DbStore.commands]
  rw [WiredDb.operate] at run
  cases command : w.store.command item with
  | none =>
      rw [command] at run issued
      obtain rfl := Option.some.inj run
      refine ⟨h.linked, store, (absurd · settled), (absurd · notEarly), .inr ?_⟩
      rwa [Option.toList_none, List.append_nil] at issued
  | some cmd =>
      have connected : w.link.client.isConnected = true := by
        simp [RedisClientImpl.isConnected, state]
      rw [command] at run issued
      simp only [connected, if_true] at run
      obtain ⟨link, taken, rfl⟩ := Option.map_eq_some_iff.mp run
      have same := RedisLink.step_connecting taken (by simp)
      refine ⟨h.linked.step taken, store, ?_, (absurd · notEarly), .inr ?_⟩
      · dsimp only at same ⊢
        rw [same]
        exact (absurd · settled)
      · have given := RedisLink.step_command taken
        dsimp only at given ⊢
        rw [given, if_pos state]
        exact issued

theorem Wired.step (h : w.Wired S passwd s₀) {e : WireEvent} (steady : w.Steady e)
    (run : w.step S passwd e = some v) : v.Wired S passwd s₀ := by
  cases e with
  | operate item => exact h.operate steady.1 steady.2 run
  | connected ok => exact h.connected run
  | onRedisConnected =>
      obtain ⟨connecting, run⟩ := Option.ite_none_right_eq_some.mp run
      exact h.onRedisConnected connecting run
  | runPosted => exact h.act (e := .runPosted) run (by simp) (by simp)
  | transmit i n => exact h.act (e := .transmit i n) run (by simp) (by simp)
  | wrote i ec => exact h.act (e := .wrote i ec) run (by simp) (by simp)
  | serve n => exact h.act (e := .serve n) run (by simp) (by simp)
  | read n => exact h.act (e := .read n) run (by simp) (by simp)
  | readFails => exact h.act (e := .readFails) run (by simp) (by simp)
  | disconnect => exact h.act (e := .close) run (by simp) (by simp)

theorem wired_of_reachable (reached : ((System S passwd s₀).restrict Steady).Reachable w) :
    w.Wired S passwd s₀ := by
  refine reached.invariant ?_ ?_
  · rintro _ ⟨throws, refuses, rfl⟩
    exact wired_new throws refuses
  · rintro _ _ _ _ h ⟨steady, run⟩
    exact h.step steady run

/-- The hashes on the server, which starts without the hash of any session and accepts the
password, are those after the first operations, and those after all of them when nothing is
under way. -/
theorem hashes_follow (h : HashService S passwd)
    (clean : ∀ guid (f : RedisField), h.hashes s₀ (sessionKey guid) f.name = none)
    (reached : ((System S passwd s₀).restrict Steady).Reachable w) :
    (∃ n, ∀ guid (f : RedisField), h.hashes w.link.server.store (sessionKey guid) f.name =
        ((w.performed.take n).foldl DbStore.operate .empty).redis (sessionKey guid) f) ∧
      (w.link.Idle → ∀ guid (f : RedisField),
        h.hashes w.link.server.store (sessionKey guid) f.name =
          w.store.redis (sessionKey guid) f) := by
  have wired := wired_of_reachable reached
  have start : ∀ s, h.hashes s = h.hashes s₀ →
      ∀ guid (f : RedisField), h.hashes s (sessionKey guid) f.name =
        DbStore.empty.redis (sessionKey guid) f := by
    intro s same guid f
    rw [same, clean]
    rfl
  -- the server after `AUTH`
  obtain ⟨accepted, untouched⟩ := h.auth s₀
  have ready : h.Reflects (S.next s₀ (authItems passwd)) .empty := ⟨accepted, start _ untouched⟩
  have done := wired.linked.executed_isPrefix
  constructor
  · cases none : w.link.server.executed with
    | nil =>
        refine ⟨0, start _ ?_⟩
        rw [wired.linked.store, none]
        rfl
    | cons auth others =>
        rw [none] at done
        rcases wired.issued with ⟨issued, _⟩ | issued
        · rw [issued] at done
          cases List.prefix_nil.mp done
        · rw [issued] at done
          obtain ⟨rfl, later⟩ := List.cons_prefix_cons.mp done
          obtain ⟨some, initial, rfl⟩ := List.prefix_map_iff.mp later
          obtain ⟨n, rfl⟩ := DbStore.exists_take_of_isPrefix initial
          refine ⟨n, ?_⟩
          rw [wired.linked.store, none]
          exact (ready.commands _).2
  · intro idle
    rw [wired.linked.store, (wired.linked.executed_of_idle idle).2, wired.store]
    rcases wired.issued with ⟨issued, none⟩ | issued
    · rw [issued, none]
      exact start s₀ rfl
    · rw [issued]
      exact (ready.commands _).2

end WiredDb

/-- A server with a password. -/
structure HashStore where
  authenticated : Bool
  hashes : Bytes → Bytes → Option Bytes

namespace HashStore

/-- The fields and values of `HMSET`. -/
def pairsOf : List Bytes → List (Bytes × Bytes)
  | field :: value :: rest => (field, value) :: pairsOf rest
  | _ => []

theorem pairsOf_flatMap (pairs : List (Bytes × Bytes)) :
    pairsOf (pairs.flatMap fun pair => [pair.1, pair.2]) = pairs := by
  induction pairs with
  | nil => rfl
  | cons pair pairs ih =>
      rw [List.flatMap_cons, List.cons_append, List.cons_append, List.nil_append, pairsOf, ih]

def execute (passwd : Bytes) (s : HashStore) : List Bytes → HashStore
  | cmd :: arg :: args =>
      if cmd = ascii "AUTH" then
        if arg = passwd then { s with authenticated := true } else s
      else if s.authenticated = false then s
      else if cmd = ascii "HMSET" then
        { s with hashes := fun k f =>
            if k = arg then
              (((pairsOf args).reverse.find? fun pair => pair.1 = f).map Prod.snd).or (s.hashes k f)
            else s.hashes k f }
      else if cmd = ascii "HDEL" then
        { s with hashes := fun k f => if k = arg ∧ f ∈ args then none else s.hashes k f }
      else s
  | _ => s

/-- Every command that the server executes here is answered with `OK`. -/
def service (passwd : Bytes) : Service HashStore where
  answer _ _ := .string (ascii "OK") false
  bytes _ _ := ReplyKind.string.line (ascii "OK")
  next := execute passwd
  reply _ _ := .string RedisLink.valid_ok

def hashService (passwd : Bytes) : HashService (service passwd) passwd where
  hashes := hashes
  ready s := s.authenticated = true
  auth s := by simp [service, execute, authItems]
  hmset s key pairs ready := by
    have notAuth : ascii "HMSET" ≠ ascii "AUTH" := by decide
    simp [service, execute, notAuth, ready, pairsOf_flatMap]
  hdel s key fields ready := by
    have notAuth : ascii "HDEL" ≠ ascii "AUTH" := by decide
    have notSet : ascii "HDEL" ≠ ascii "HMSET" := by decide
    simp [service, execute, notAuth, notSet, ready]

end HashStore

namespace WiredDb

/-- A session is stored. -/
def storeRun : List WireEvent :=
  [.connected true, .onRedisConnected, .runPosted, .transmit 0 22, .wrote 0 false,
    .operate (.add ⟨1, 2, [0x41]⟩), .runPosted, .transmit 0 79, .wrote 0 false, .serve 101,
    .read 10]

def steady (w : WiredDb HashStore) : WireEvent → Bool
  | .operate _ => w.link.client.state = .connected ∧ w.link.issued.length ≠ 0
  | _ => true

theorem steady_of_steady {w : WiredDb HashStore} {e : WireEvent} (tested : steady w e = true) :
    w.Steady e := by
  cases e with
  | operate item =>
      simp only [steady, decide_eq_true_eq] at tested
      exact ⟨tested.1, fun none => tested.2 (by rw [none]; rfl)⟩
  | _ => trivial

theorem hashes_follow_stored : ∃ w : WiredDb HashStore, w.performed.length = 1 ∧
    (∃ n, ∀ guid (f : RedisField), w.link.server.store.hashes (sessionKey guid) f.name =
        ((w.performed.take n).foldl DbStore.operate .empty).redis (sessionKey guid) f) ∧
      (w.link.Idle → ∀ guid (f : RedisField),
        w.link.server.store.hashes (sessionKey guid) f.name =
          w.store.redis (sessionKey guid) f) := by
  let S := HashStore.service (ascii "pw")
  have check : ∃ w ∈ Transition.System.runSteps
      (fun w e => if steady w e then step S (ascii "pw") w e else none)
      (new true (fun _ => false) ⟨false, fun _ _ => none⟩) storeRun, w.performed.length = 1 := by
    decide +kernel
  have found : ∃ w, ((System S (ascii "pw") ⟨false, fun _ _ => none⟩).restrict Steady).Reachable w ∧
      _ :=
    Transition.System.reachable_of_testedSteps (fun _ _ => steady_of_steady) ⟨true, _, rfl⟩ check
  obtain ⟨w, reached, one⟩ := found
  exact ⟨w, one, hashes_follow (HashStore.hashService _) (fun _ _ => rfl) reached⟩

end WiredDb

end NatProxy
