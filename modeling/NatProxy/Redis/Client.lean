import NatProxy.Redis.Command
import NatProxy.Redis.Refinement
import NatProxy.Transition.System

/-!
# The asynchronous Redis client

A call of the interface posts `doAsyncCommand` on the strand. That queues the bytes of
the command and its handler, and starts an `async_write` unless one is outstanding;
`asyncRead` parses what a read has brought and calls the handlers from the front of
their queue. All of this runs on one thread, so the steps below are the functions that
its handlers run, in any order, with anything in what the server sends. They keep the
names that `RedisClientImpl` and `RedisAsyncClient` give them.

`assert` of a condition that the next line tests again is the test. Every operation on
the socket may fail. What is outstanding when the socket is closed may still succeed,
as its completion may have been queued before. The handlers of commands and messages
return. Two kinds of exceptions leave the functions: that of an error handler that throws,
as the default one does, and that of a `reserve` of the parser.
-/

namespace NatProxy

open Memory Transition

inductive ClientState
  | notConnected
  | connected
  | subscribed
  | closed
  deriving DecidableEq, Repr

/-- What the error handler is told. -/
inductive RedisError
  /-- `ec.message()` -/
  | system
  /-- `[RedisClient] invalid command: ` and the command. -/
  | invalidCommand (command : Bytes)
  /-- `[RedisClient] Protocol error` -/
  | protocolError
  /-- `[RedisClient] unexpected message: ` and `inspect()` of the value. -/
  | unexpectedMessage (v : RedisValue)
  /-- `[RedisClient] Parser error` -/
  | parserError
  /-- `RedisAsyncClient::command called with invalid state ` and the state. -/
  | invalidState (state : ClientState)

inductive ClientException
  /-- `throw std::runtime_error(s)` of `defaulErrorHandler`. -/
  | error (e : RedisError)
  /-- `std::length_error` or `std::bad_alloc`. -/
  | reserve

def ascii (s : String) : Bytes := s.toList.map fun c => UInt8.ofNat c.toNat

/-- What is posted on the strand. -/
inductive Post (H : Type)
  /-- `doAsyncCommand` -/
  | command (buff : Bytes) (handler : H)
  /-- A message handler. -/
  | message (handler : H) (payload : Bytes)

/-- The client, with the operations of its socket that are outstanding. `throws` says what the
error handler does, and `refuses` which calls of `reserve` throw. The fields from `issued` on
are only a record of the past: `issued` are the commands in the order in which they were posted,
`ran` those that `doAsyncCommand` ran for, `processed` the values that `doProcessMessage` got,
and `thrown` what has left a function as an exception. -/
structure RedisClientImpl (H : Type) where
  state : ClientState
  redisParser : RedisParser
  handlers : List H
  /-- The bytes of the commands whose writes are not complete. -/
  queue : List Bytes
  subscribeSeq : Nat
  msgHandlers : List (Bytes × Nat × H)
  singleShotMsgHandlers : List (Bytes × H)
  throws : Bool
  refuses : Reserve → Bool
  posted : List (Post H)
  connecting : Bool
  /-- What each outstanding `async_write` has not yet sent. -/
  writes : List Bytes
  reads : Nat
  issued : List (Bytes × H)
  ran : List (Bytes × H)
  sent : Bytes
  received : Bytes
  processed : List RedisValue
  called : List (H × RedisValue)
  messages : List (H × Bytes)
  errors : List RedisError
  thrown : List ClientException

namespace RedisClientImpl

variable {H : Type}

/-- The client when `connect` has been called. -/
def new (throws : Bool) (refuses : Reserve → Bool) : RedisClientImpl H where
  state := .notConnected
  redisParser := .new
  handlers := []
  queue := []
  subscribeSeq := 0
  msgHandlers := []
  singleShotMsgHandlers := []
  throws := throws
  refuses := refuses
  posted := []
  connecting := true
  writes := []
  reads := 0
  issued := []
  ran := []
  sent := []
  received := []
  processed := []
  called := []
  messages := []
  errors := []
  thrown := []

/-- `errorHandler(e)`, at the end of a function: it returns after it, or the exception leaves
it. -/
def errorHandler (c : RedisClientImpl H) (e : RedisError) : RedisClientImpl H :=
  { c with
    errors := c.errors ++ [e]
    thrown := if c.throws then c.thrown ++ [.error e] else c.thrown }

def close (c : RedisClientImpl H) : RedisClientImpl H :=
  if c.state = .closed then c else { c with msgHandlers := [], state := .closed }

def processMessage (c : RedisClientImpl H) : RedisClientImpl H := { c with reads := c.reads + 1 }

/-- `handlers.front()(v); handlers.pop();` -/
def callHandler (c : RedisClientImpl H) (v : RedisValue) (h : H) (rest : List H) :
    RedisClientImpl H :=
  { c with called := c.called ++ [(h, v)], handlers := rest }

/-- The case `message` of `doProcessMessage`. `find` finds the first of the handlers
with one name. -/
def dispatch (c : RedisClientImpl H) (queueName payload : Bytes) : RedisClientImpl H :=
  let named := c.msgHandlers.filter fun entry => entry.1 = queueName
  let all := named.map fun entry => Post.message entry.2.2 payload
  match c.singleShotMsgHandlers.find? fun entry => entry.1 = queueName with
  | some entry =>
      { c with
        singleShotMsgHandlers := c.singleShotMsgHandlers.eraseP fun entry => entry.1 = queueName
        posted := c.posted ++ [.message entry.2 payload] ++ all }
  | none => { c with posted := c.posted ++ all }

/-- `doProcessMessage`, and whether it has reported an error. -/
def doProcessMessage (c : RedisClientImpl H) (v : RedisValue) : RedisClientImpl H × Bool :=
  let c := { c with processed := c.processed ++ [v] }
  if c.state = .subscribed then
    match v.toArray with
    | [command, queueName, value] =>
        if command.toByteArray = ascii "message" then
          (c.dispatch queueName.toByteArray value.toByteArray, false)
        else if command.toByteArray = ascii "subscribe" ∨
            command.toByteArray = ascii "unsubscribe" then
          match c.handlers with
          | h :: rest => (c.callHandler v h rest, false)
          | [] => (c.errorHandler (.invalidCommand command.toByteArray), true)
        else (c.errorHandler (.invalidCommand command.toByteArray), true)
    | _ => (c.errorHandler .protocolError, true)
  else
    match c.handlers with
    | h :: rest => (c.callHandler v h rest, false)
    | [] => (c.errorHandler (.unexpectedMessage v), true)

/-- `async_write` of the front of the queue. -/
def write (c : RedisClientImpl H) : RedisClientImpl H :=
  match c.queue with
  | [] => c
  | buff :: _ => { c with writes := c.writes ++ [buff] }

/-- There is no front of an empty queue. -/
def asyncWrite (c : RedisClientImpl H) (ec : Bool) : Option (RedisClientImpl H) :=
  if ec then some (c.errorHandler .system)
  else
    match c.queue with
    | [] => none
    | _ :: rest => some { c with queue := rest }.write

def handleAsyncConnect (c : RedisClientImpl H) (ok : Bool) : RedisClientImpl H :=
  if ok then { c with state := .connected }.processMessage else c

def doAsyncCommand (c : RedisClientImpl H) (buff : Bytes) (handler : H) : RedisClientImpl H :=
  let c := { c with
    ran := c.ran ++ [(buff, handler)]
    queue := c.queue ++ [buff]
    handlers := c.handlers ++ [handler] }
  if c.queue.length = 1 then c.write else c

/-- The loop of `asyncRead` over the bytes that are left, fewer than `fuel`. It starts a read
when it comes to the end of the bytes, and none when an exception leaves it. -/
def readLoop : Nat → RedisClientImpl H → Bytes → Option (RedisClientImpl H)
  | 0, _, _ => none
  | fuel + 1, c, bytes =>
      if bytes = [] then some c.processMessage
      else
        match c.redisParser.parse bytes with
        | none => none
        | some (first, r, p) =>
            if p.reserved.any c.refuses then
              some { c with redisParser := p, thrown := c.thrown ++ [.reserve] }
            else
              match r with
              | .completed =>
                  match p.result with
                  | some (v, p) =>
                      let (c, failed) := { c with redisParser := p }.doProcessMessage v
                      if failed && c.throws then some c else readLoop fuel c (bytes.drop first)
                  | none => none
              | .incompleted => some { c with redisParser := p }.processMessage
              | .error => some ({ c with redisParser := p }.errorHandler .parserError)

def asyncRead (c : RedisClientImpl H) (ec : Bool) (bytes : Bytes) : Option (RedisClientImpl H) :=
  if ec ∨ bytes = [] then some (c.errorHandler .system) else readLoop (bytes.length + 1) c bytes

/-! ## The interface -/

def postCommand (c : RedisClientImpl H) (items : List Bytes) (handler : H) : RedisClientImpl H :=
  { c with
    posted := c.posted ++ [.command (makeCommand items) handler]
    issued := c.issued ++ [(makeCommand items, handler)] }

def isConnected (c : RedisClientImpl H) : Bool := c.state = .connected ∨ c.state = .subscribed

/-- `items` is the command with its arguments. -/
def command (c : RedisClientImpl H) (items : List Bytes) (handler : H) : RedisClientImpl H :=
  if c.state ≠ .connected then c.errorHandler (.invalidState c.state)
  else c.postCommand items handler

def subscribe (c : RedisClientImpl H) (channel : Bytes) (msgHandler handler : H) :
    RedisClientImpl H :=
  if c.isConnected then
    { c.postCommand [ascii "SUBSCRIBE", channel] handler with
      subscribeSeq := c.subscribeSeq + 1
      msgHandlers := c.msgHandlers ++ [(channel, c.subscribeSeq, msgHandler)]
      state := .subscribed }
  else c.errorHandler (.invalidState c.state)

/-- `id` is that of the handle that `subscribe` has returned. -/
def unsubscribe (c : RedisClientImpl H) (id : Nat) (channel : Bytes) (dummyHandler : H) :
    RedisClientImpl H :=
  if c.isConnected then
    { c with
      msgHandlers := c.msgHandlers.filter fun entry => ¬(entry.1 = channel ∧ entry.2.1 = id) }
      |>.postCommand [ascii "UNSUBSCRIBE", channel] dummyHandler
  else c.errorHandler (.invalidState c.state)

def singleShotSubscribe (c : RedisClientImpl H) (channel : Bytes) (msgHandler handler : H) :
    RedisClientImpl H :=
  if c.isConnected then
    { c.postCommand [ascii "SUBSCRIBE", channel] handler with
      singleShotMsgHandlers := c.singleShotMsgHandlers ++ [(channel, msgHandler)]
      state := .subscribed }
  else c.errorHandler (.invalidState c.state)

def publish (c : RedisClientImpl H) (channel msg : Bytes) (handler : H) : RedisClientImpl H :=
  if c.state = .connected then c.postCommand [ascii "PUBLISH", channel, msg] handler
  else c.errorHandler (.invalidState c.state)

/-- The strand runs what is posted in order. -/
def runPosted (c : RedisClientImpl H) : Option (RedisClientImpl H) :=
  match c.posted with
  | [] => none
  | .command buff handler :: rest => some ({ c with posted := rest }.doAsyncCommand buff handler)
  | .message handler payload :: rest =>
      some { c with posted := rest, messages := c.messages ++ [(handler, payload)] }

end RedisClientImpl

/-- What can happen next to a client. -/
inductive ClientEvent (H : Type)
  /-- `handleAsyncConnect`, without success also when `set_option` throws. -/
  | connected (ok : Bool)
  | command (items : List Bytes) (handler : H)
  | subscribe (channel : Bytes) (msgHandler handler : H)
  | unsubscribe (id : Nat) (channel : Bytes) (dummyHandler : H)
  | singleShotSubscribe (channel : Bytes) (msgHandler handler : H)
  | publish (channel msg : Bytes) (handler : H)
  | runPosted
  /-- The `i`-th outstanding write sends `n` bytes. -/
  | transmit (i n : Nat)
  /-- The `i`-th outstanding write completes, with an error or not. -/
  | wrote (i : Nat) (ec : Bool)
  /-- A read completes with an error, or with some of the bytes that the server has sent. -/
  | read (ec : Bool) (bytes : Bytes)
  | close

namespace RedisClientImpl

variable {H : Type}

/-- The size of `buf`. -/
def bufSize : Nat := 4096

def step (c : RedisClientImpl H) : ClientEvent H → Option (RedisClientImpl H)
  | .connected ok =>
      if c.connecting then some ({ c with connecting := false }.handleAsyncConnect ok) else none
  | .command items handler => some (c.command items handler)
  | .subscribe channel msgHandler handler => some (c.subscribe channel msgHandler handler)
  | .unsubscribe id channel dummyHandler => some (c.unsubscribe id channel dummyHandler)
  | .singleShotSubscribe channel msgHandler handler =>
      some (c.singleShotSubscribe channel msgHandler handler)
  | .publish channel msg handler => some (c.publish channel msg handler)
  | .runPosted => c.runPosted
  | .transmit i n =>
      match c.writes[i]? with
      | some rest =>
          if n ≤ rest.length then
            some { c with writes := c.writes.set i (rest.drop n), sent := c.sent ++ rest.take n }
          else none
      | none => none
  | .wrote i ec =>
      match c.writes[i]? with
      | some rest =>
          if ec ∨ rest = [] then { c with writes := c.writes.eraseIdx i }.asyncWrite ec else none
      | none => none
  | .read ec bytes =>
      if 0 < c.reads ∧ bytes.length ≤ bufSize then
        { c with reads := c.reads - 1, received := c.received ++ if ec then [] else bytes }
          |>.asyncRead ec bytes
      else none
  | .close => some c.close

end RedisClientImpl

end NatProxy
