import NatProxy.Redis.Pipeline

/-!
# A client and its server

The server is not part of the program. It is taken to read its stream by the grammar,
to execute the commands that it finds in their order, and to answer each of them with
one reply. The two streams between it and the client keep their bytes in order and
bring any number of them at a time.

Commands take effect once and in the order in which they were given, and each handler
is called with the answer to its own command, although nothing in a reply says which
command it answers.
-/

namespace NatProxy

open Memory Transition

/-- What a server does with a command in one of its states. -/
structure Service (σ : Type) where
  answer : σ → List Bytes → RedisValue
  bytes : σ → List Bytes → Bytes
  next : σ → List Bytes → σ
  reply : ∀ s cmd, Reply (answer s cmd) (bytes s cmd)

namespace Service

variable {σ : Type} (S : Service σ)

/-- The state after some commands. -/
def after (s : σ) (cmds : List (List Bytes)) : σ := cmds.foldl S.next s

def answers : σ → List (List Bytes) → List RedisValue
  | _, [] => []
  | s, cmd :: cmds => S.answer s cmd :: answers (S.next s cmd) cmds

def output : σ → List (List Bytes) → Bytes
  | _, [] => []
  | s, cmd :: cmds => S.bytes s cmd ++ output (S.next s cmd) cmds

theorem replies_output (s : σ) (cmds : List (List Bytes)) :
    Replies (S.answers s cmds) (S.output s cmds) := by
  induction cmds generalizing s with
  | nil => exact .nil
  | cons cmd cmds ih => exact .cons (S.reply s cmd) (ih _)

@[simp] theorem length_answers (s : σ) (cmds : List (List Bytes)) :
    (S.answers s cmds).length = cmds.length := by
  induction cmds generalizing s with
  | nil => rfl
  | cons cmd cmds ih => rw [answers, List.length_cons, ih, List.length_cons]

theorem answers_append (s : σ) (cmds more : List (List Bytes)) :
    S.answers s (cmds ++ more) = S.answers s cmds ++ S.answers (S.after s cmds) more := by
  induction cmds generalizing s with
  | nil => rfl
  | cons cmd cmds ih =>
      rw [List.cons_append, answers, ih, answers, List.cons_append]
      rfl

theorem output_append (s : σ) (cmds more : List (List Bytes)) :
    S.output s (cmds ++ more) = S.output s cmds ++ S.output (S.after s cmds) more := by
  induction cmds generalizing s with
  | nil => rfl
  | cons cmd cmds ih =>
      rw [List.cons_append, output, ih, output, List.append_assoc]
      rfl

@[simp] theorem after_append (s : σ) (cmds more : List (List Bytes)) :
    S.after s (cmds ++ more) = S.after (S.after s cmds) more :=
  List.foldl_append

end Service

/-- The command that a value of the stream is. -/
def commandOf : Option RedisValue → Option (List Bytes)
  | some (.array items) =>
      items.mapM fun item =>
        match item with
        | .string buf false => some buf
        | _ => none
  | _ => none

@[simp] theorem commandOf_commandValue (items : List Bytes) :
    commandOf (some (commandValue items)) = some items := by
  rw [commandValue, commandOf]
  induction items with
  | nil => rfl
  | cons item items ih =>
      rw [List.map_cons, List.mapM_cons, ih]
      rfl

structure RedisServer (σ : Type) where
  reader : Partial
  store : σ
  executed : List (List Bytes)

/-- The client and its server, with the bytes between them. -/
structure RedisLink (H σ : Type) where
  client : RedisClientImpl H
  server : RedisServer σ
  toServer : Bytes
  toClient : Bytes
  /-- The commands that were given, with their handlers; only a record of the past. -/
  issued : List (List Bytes × H)

/-- The client only gives commands: the connection of the session database has no
subscriptions, and does not publish. -/
inductive LinkEvent (H : Type)
  | connected (ok : Bool)
  | command (items : List Bytes) (handler : H)
  | runPosted
  | transmit (i n : Nat)
  | wrote (i : Nat) (ec : Bool)
  /-- The server gets `n` bytes and executes the commands that end in them. -/
  | serve (n : Nat)
  /-- A read of the client brings `n` bytes. -/
  | read (n : Nat)
  | readFails
  | close

namespace RedisLink

variable {H σ : Type}

def new (throws : Bool) (refuses : Reserve → Bool) (s : σ) : RedisLink H σ :=
  ⟨.new throws refuses, ⟨.new, s, []⟩, [], [], []⟩

def serve (S : Service σ) (l : RedisLink H σ) (n : Nat) : RedisLink H σ :=
  let (results, reader) :=
    Reader.collect Partial.next .new l.server.reader (l.toServer.take n)
  let cmds := results.filterMap commandOf
  { l with
    toServer := l.toServer.drop n
    toClient := l.toClient ++ S.output l.server.store cmds
    server := ⟨reader, S.after l.server.store cmds, l.server.executed ++ cmds⟩ }

/-- A step of the client alone. -/
def act (l : RedisLink H σ) (e : ClientEvent H) : Option (RedisLink H σ) :=
  (l.client.step e).map fun client => { l with client }

/-- The sizes of a command are those of objects in memory. -/
def step (S : Service σ) (l : RedisLink H σ) : LinkEvent H → Option (RedisLink H σ)
  | .connected ok => l.act (.connected ok)
  | .command items handler =>
      let new := if l.client.state = .connected then [(items, handler)] else []
      if Fits items then { l with issued := l.issued ++ new }.act (.command items handler) else none
  | .runPosted => l.act .runPosted
  | .transmit i n =>
      match l.client.writes[i]? with
      | some rest =>
          { l with toServer := l.toServer ++ rest.take n }.act (.transmit i n)
      | none => none
  | .wrote i ec => l.act (.wrote i ec)
  | .serve n => some (l.serve S n)
  | .read n =>
      if 0 < n ∧ n ≤ l.toClient.length then
        { l with toClient := l.toClient.drop n }.act (.read false (l.toClient.take n))
      else none
  | .readFails => l.act (.read true [])
  | .close => l.act .close

end RedisLink

namespace RedisClientImpl

variable {H : Type} {c d : RedisClientImpl H}

/-! ## What the client does on its own -/

/-- The fields that a step changes only if it brings a reply. -/
structure Calm (c d : RedisClientImpl H) : Prop where
  called : d.called = c.called
  processed : d.processed = c.processed
  received : d.received = c.received
  state : c.state ≠ .subscribed → d.state ≠ .subscribed
  errors : ∀ e ∈ d.errors, e ∈ c.errors ∨ e = .system ∨ ∃ state, e = .invalidState state

theorem Calm.refl (c : RedisClientImpl H) : c.Calm c :=
  ⟨rfl, rfl, rfl, id, fun _ => .inl⟩

theorem calm_errorHandler {e : RedisError} (expected : e = .system ∨ ∃ s, e = .invalidState s) :
    c.Calm (c.errorHandler e) := by
  refine ⟨rfl, rfl, rfl, id, ?_⟩
  intro f mem
  rcases List.mem_append.mp mem with old | new
  · exact .inl old
  · obtain rfl := List.mem_singleton.mp new
    exact .inr expected

theorem calm_command (items : List Bytes) (f : H) :
    c.Calm (c.command items f) ∧ (c.command items f).sent = c.sent ∧
      (c.command items f).issued =
        c.issued ++ if c.state = .connected then [(makeCommand items, f)] else [] := by
  rw [command]
  by_cases connected : c.state = .connected
  · rw [if_neg (not_not_intro connected), if_pos connected]
    exact ⟨⟨rfl, rfl, rfl, id, fun _ => .inl⟩, rfl, rfl⟩
  · rw [if_pos connected, if_neg connected]
    exact ⟨calm_errorHandler (.inr ⟨_, rfl⟩), rfl, (List.append_nil _).symm⟩

/-- The completions other than a read with bytes, and the strand. -/
def Own : ClientEvent H → Prop
  | .connected _ | .runPosted | .wrote _ _ | .read true _ | .close => True
  | _ => False

theorem calm_write (c : RedisClientImpl H) :
    c.Calm c.write ∧ c.write.sent = c.sent ∧ c.write.issued = c.issued := by
  rw [write]
  split
  · exact ⟨.refl c, rfl, rfl⟩
  · exact ⟨⟨rfl, rfl, rfl, id, fun _ => .inl⟩, rfl, rfl⟩

theorem calm_runPosted (run : c.runPosted = some d) :
    c.Calm d ∧ d.sent = c.sent ∧ d.issued = c.issued := by
  rw [runPosted] at run
  split at run
  · cases run
  · obtain rfl := Option.some.inj run
    rw [doAsyncCommand]
    dsimp only
    split
    · obtain ⟨calm, sent, issued⟩ := calm_write (H := H) _
      exact ⟨⟨calm.called, calm.processed, calm.received, calm.state, calm.errors⟩, sent, issued⟩
    · exact ⟨⟨rfl, rfl, rfl, id, fun _ => .inl⟩, rfl, rfl⟩
  · obtain rfl := Option.some.inj run
    exact ⟨⟨rfl, rfl, rfl, id, fun _ => .inl⟩, rfl, rfl⟩

theorem calm_asyncWrite {ec : Bool} (run : c.asyncWrite ec = some d) :
    c.Calm d ∧ d.sent = c.sent ∧ d.issued = c.issued := by
  rw [asyncWrite] at run
  split at run
  · obtain rfl := Option.some.inj run
    exact ⟨calm_errorHandler (.inl rfl), rfl, rfl⟩
  · split at run
    · cases run
    · obtain rfl := Option.some.inj run
      obtain ⟨calm, sent, issued⟩ := calm_write (H := H) _
      exact ⟨⟨calm.called, calm.processed, calm.received, calm.state, calm.errors⟩, sent, issued⟩

theorem calm_step {e : ClientEvent H} (own : Own e) (run : c.step e = some d) :
    c.Calm d ∧ d.sent = c.sent ∧ d.issued = c.issued := by
  cases e with
  | connected ok =>
      obtain ⟨_, run⟩ := Option.ite_none_right_eq_some.mp run
      obtain rfl := Option.some.inj run
      rw [handleAsyncConnect]
      split
      · exact ⟨⟨rfl, rfl, rfl, by simp [processMessage], fun _ => .inl⟩, rfl, rfl⟩
      · exact ⟨⟨rfl, rfl, rfl, id, fun _ => .inl⟩, rfl, rfl⟩
  | runPosted => exact calm_runPosted run
  | wrote i ec =>
      rw [step] at run
      split at run
      · obtain ⟨_, run⟩ := Option.ite_none_right_eq_some.mp run
        obtain ⟨⟨called, processed, received, state, errors⟩, same⟩ := calm_asyncWrite run
        exact ⟨⟨called, processed, received, state, errors⟩, same⟩
      · cases run
  | read ec bytes =>
      cases ec with
      | false => exact own.elim
      | true =>
          obtain ⟨_, run⟩ := Option.ite_none_right_eq_some.mp run
          obtain rfl := Option.some.inj run
          obtain ⟨called, processed, received, state, errors⟩ :=
            calm_errorHandler (c := { c with reads := c.reads - 1 }) (.inl rfl : _ ∨ _)
          exact ⟨⟨called, processed, List.append_nil _, state, errors⟩, rfl, rfl⟩
  | close =>
      obtain rfl := Option.some.inj run
      rw [close]
      split
      · exact ⟨.refl c, rfl, rfl⟩
      · exact ⟨⟨rfl, rfl, rfl, by simp, fun _ => .inl⟩, rfl, rfl⟩
  | _ => exact own.elim

/-! ## What a read brings -/

/-- Replies have been handled by the first handlers, in order. -/
def Answered (c d : RedisClientImpl H) : Prop :=
  ∃ q reads thrown answers, answers.length ≤ c.handlers.length ∧ d = { c with
    redisParser := q
    processed := c.processed ++ answers
    called := c.called ++ c.handlers.zip answers
    handlers := c.handlers.drop answers.length
    reads := reads
    thrown := thrown }

theorem Refused.answered (h : Refused c d) : Answered c d := by
  obtain ⟨q, _, rfl⟩ := h
  exact ⟨q, c.reads, c.thrown ++ [.reserve], [], Nat.zero_le _, by simp⟩

/-- Replies that have a handler each are handled by them in order, all of them, or those up to
an exception of `reserve`. -/
theorem readLoop_answers {s t : Partial} (holds : c.redisParser.Holds s)
    (state : c.state ≠ .subscribed) {fuel : Nat} {bytes : Bytes} (enough : bytes.length < fuel)
    {values : List RedisValue}
    (collected : Reader.collect Partial.next .new s bytes = (values.map some, t))
    (handlers : values.length ≤ c.handlers.length) :
    ∃ d, c.readLoop fuel bytes = some d ∧ Answered c d := by
  induction fuel generalizing c s bytes values with
  | zero => omega
  | succ fuel ih =>
      cases fed : Reader.feed Partial.next s bytes with
      | more u =>
          obtain ⟨d, loop, refused | ⟨q, _, rfl⟩⟩ := readLoop_of_more holds fed fuel
          · exact ⟨d, loop, refused.answered⟩
          · exact ⟨_, loop, q, c.reads + 1, c.thrown, [], Nat.zero_le _, by simp [processMessage]⟩
      | stop r rest =>
          rw [Reader.collect_of_stop fed] at collected
          cases values with
          | nil => cases (Prod.mk.inj collected).1
          | cons v values =>
              obtain ⟨found, last⟩ := Prod.mk.inj collected
              obtain ⟨rfl, later⟩ := List.cons.inj found
              have shorter := Reader.length_lt_of_stop fed
              obtain ⟨d, loop, refused⟩ | ⟨q, holds, loop⟩ := readLoop_of_value holds fed fuel
              · exact ⟨d, loop, refused.answered⟩
              obtain ⟨f, fs, front⟩ : ∃ f fs, c.handlers = f :: fs :=
                List.exists_cons_of_length_pos (by simp at handlers; omega)
              have handled : { c with redisParser := q }.doProcessMessage v =
                  ({ c with
                    redisParser := q
                    processed := c.processed ++ [v]
                    called := c.called ++ [(f, v)]
                    handlers := fs }, false) := by
                simp [doProcessMessage, state, front, callHandler]
              rw [loop, handled]
              obtain ⟨_, run, q', reads, thrown, answers, waiting, rfl⟩ := ih (c := { c with
                    redisParser := q
                    processed := c.processed ++ [v]
                    called := c.called ++ [(f, v)]
                    handlers := fs }) holds state (by omega) (Prod.ext later last)
                (by rw [front] at handlers; simpa using handlers)
              refine ⟨_, run, q', reads, thrown, v :: answers, ?_, by simp [front]⟩
              rw [front]
              exact Nat.succ_le_succ waiting

end RedisClientImpl

namespace RedisLink

variable {H σ : Type} {S : Service σ} {s₀ : σ} {l m : RedisLink H σ}

def System (H : Type) (S : Service σ) (s₀ : σ) : Transition.System (RedisLink H σ) (LinkEvent H) :=
  .ofStep (fun l => ∃ throws refuses, l = new throws refuses s₀) (step S)

/-- What a command is to the client. -/
def entry (cmd : List Bytes × H) : Bytes × H := (makeCommand cmd.1, cmd.2)

/-- The two parties and the bytes between them. -/
structure Linked (S : Service σ) (s₀ : σ) (l : RedisLink H σ) : Prop where
  reached : (RedisClientImpl.System H).Reachable l.client
  issued : l.client.issued = l.issued.map entry
  fits : ∀ cmd ∈ l.issued, Fits cmd.1
  consumed : ∃ taken, taken ++ l.toServer = l.client.sent ∧
    Reader.collect Partial.next .new .new taken =
      ((l.server.executed.map commandValue).map some, l.server.reader)
  store : l.server.store = S.after s₀ l.server.executed
  output : l.client.received ++ l.toClient = S.output s₀ l.server.executed
  state : l.client.state ≠ .subscribed
  answered : l.client.called.map Prod.snd = l.client.processed
  errors : ∀ e ∈ l.client.errors, e = .system ∨ ∃ state, e = .invalidState state

theorem linked_new (throws : Bool) (refuses : Reserve → Bool) (s₀ : σ) :
    (new throws refuses s₀ : RedisLink H σ).Linked S s₀ where
  reached := .start ⟨throws, refuses, rfl⟩
  issued := rfl
  fits := by simp [new]
  consumed := ⟨[], rfl, rfl⟩
  store := rfl
  output := rfl
  state := by simp [new, RedisClientImpl.new]
  answered := rfl
  errors := by simp [new, RedisClientImpl.new]

theorem commandValue_injective : Function.Injective commandValue := by
  intro x y same
  have : commandOf (some (commandValue x)) = commandOf (some (commandValue y)) := by rw [same]
  simpa using this

/-- The commands that end in some of the bytes that the client has sent are the first
ones that it has queued. -/
theorem Linked.exists_ran (h : l.Linked S s₀) {bytes : Bytes} (sent : bytes <+: l.client.sent) :
    ∃ cmds : List (List Bytes × H), cmds <+: l.issued ∧ l.client.ran = cmds.map entry ∧
      (Reader.collect Partial.next .new .new bytes).1 <+:
        ((cmds.map Prod.fst).map commandValue).map some := by
  have pipelined := RedisClientImpl.pipelined_of_reachable h.reached
  have posts := pipelined.posts
  rw [h.issued] at posts
  obtain ⟨cmds, others, split, ran, -⟩ := List.append_eq_map_iff.mp posts
  refine ⟨cmds, ⟨others, split.symm⟩, ran.symm, ?_⟩
  obtain ⟨rest, stream, -⟩ := pipelined.sends
  have all : (l.client.ran.map Prod.fst).flatten = (cmds.map Prod.fst).flatMap makeCommand := by
    rw [← ran, List.map_map, List.flatMap_map, List.flatMap_def]
    rfl
  have fits : ∀ cmd ∈ cmds.map Prod.fst, Fits cmd := by
    intro cmd mem
    obtain ⟨pair, inside, rfl⟩ := List.mem_map.mp mem
    exact h.fits pair (by rw [split]; exact List.mem_append_left _ inside)
  obtain ⟨later, sent⟩ := sent
  have whole : bytes ++ (later ++ rest ++ l.client.queue.tail.flatten) =
      (cmds.map Prod.fst).flatMap makeCommand := by
    rw [← all, ← stream, ← sent]
    simp
  have read := Partial.collect_replies (replies_makeCommand fits)
  rw [← whole] at read
  have first : _ <+: (Reader.collect Partial.next .new .new (bytes ++ _)).1 :=
    Reader.collect_isPrefix Partial.new bytes (later ++ rest ++ l.client.queue.tail.flatten)
  rwa [read] at first

/-- What is executed has been queued. -/
theorem Linked.executed (h : l.Linked S s₀) :
    ∃ cmds : List (List Bytes × H), cmds <+: l.issued ∧ l.client.ran = cmds.map entry ∧
      l.server.executed <+: cmds.map Prod.fst := by
  obtain ⟨taken, sent, collected⟩ := h.consumed
  obtain ⟨cmds, first, ran, found⟩ := h.exists_ran ⟨l.toServer, sent⟩
  rw [collected] at found
  refine ⟨cmds, first, ran, ?_⟩
  rw [List.map_map, List.map_map] at found
  have injective : Function.Injective (some ∘ commandValue) :=
    Function.Injective.comp (fun _ _ => Option.some.inj) commandValue_injective
  exact (List.prefix_map_iff_of_injective injective).mp found

theorem Linked.executed_isPrefix (h : l.Linked S s₀) :
    l.server.executed <+: l.issued.map Prod.fst := by
  obtain ⟨cmds, first, -, executed⟩ := h.executed
  exact executed.trans (first.map Prod.fst)

/-- The client sends some bytes, is given some commands, or does neither. -/
theorem Linked.calm (h : l.Linked S s₀) {e : ClientEvent H} {d : RedisClientImpl H}
    (run : l.client.step e = some d) (calm : l.client.Calm d) {bytes : Bytes}
    (sent : d.sent = l.client.sent ++ bytes) {given : List (List Bytes × H)}
    (issued : d.issued = l.client.issued ++ given.map entry)
    (fits : ∀ cmd ∈ given, Fits cmd.1) :
    { l with
      client := d, toServer := l.toServer ++ bytes, issued := l.issued ++ given }.Linked S s₀ where
  reached := h.reached.next run
  issued := by rw [issued, h.issued, List.map_append]
  fits := by
    intro cmd mem
    rcases List.mem_append.mp mem with old | new
    · exact h.fits cmd old
    · exact fits cmd new
  consumed := by
    obtain ⟨taken, all, collected⟩ := h.consumed
    exact ⟨taken, by rw [sent, ← all, List.append_assoc], collected⟩
  store := h.store
  output := by rw [calm.received, h.output]
  state := calm.state h.state
  answered := by rw [calm.called, calm.processed, h.answered]
  errors := by
    intro f mem
    rcases calm.errors f mem with old | new
    · exact h.errors f old
    · exact new

theorem Linked.own (h : l.Linked S s₀) {e : ClientEvent H} (own : RedisClientImpl.Own e)
    (run : l.act e = some m) : m.Linked S s₀ := by
  obtain ⟨d, taken, rfl⟩ := Option.map_eq_some_iff.mp run
  obtain ⟨calm, sent, issued⟩ := RedisClientImpl.calm_step own taken
  have noBytes : d.sent = l.client.sent ++ [] := by rw [sent, List.append_nil]
  have noCommand : d.issued = l.client.issued ++ [].map entry := by
    rw [issued, List.map_nil, List.append_nil]
  have linked := h.calm taken calm noBytes noCommand (by simp)
  rwa [List.append_nil, List.append_nil] at linked

/-- The server gets some bytes of the stream. -/
theorem Linked.serve (h : l.Linked S s₀) (n : Nat) : (l.serve S n).Linked S s₀ := by
  obtain ⟨taken, sent, collected⟩ := h.consumed
  have stream : Reader.collect Partial.next .new .new (taken ++ l.toServer.take n) = _ :=
    Reader.collect_append Partial.new taken (l.toServer.take n)
  rw [collected] at stream
  have sofar : taken ++ l.toServer.take n <+: l.client.sent :=
    ⟨l.toServer.drop n, by rw [List.append_assoc, List.take_append_drop, sent]⟩
  obtain ⟨cmds, -, -, found⟩ := h.exists_ran sofar
  -- what ends in the bytes are commands
  obtain ⟨more, results⟩ : ∃ more : List (List Bytes),
      (Reader.collect Partial.next .new l.server.reader (l.toServer.take n)).1 =
        (more.map commandValue).map some := by
    rw [stream, List.map_map, List.map_map] at found
    obtain ⟨all, -, same⟩ := List.prefix_map_iff.mp found
    obtain ⟨_, more, _, _, same⟩ := List.append_eq_map_iff.mp same
    exact ⟨more, by rw [List.map_map, same]⟩
  have cmds : (Reader.collect Partial.next .new l.server.reader
      (l.toServer.take n)).1.filterMap commandOf = more := by
    rw [results, List.map_map, List.filterMap_map]
    have : commandOf ∘ some ∘ commandValue = some := by
      funext cmd
      exact commandOf_commandValue cmd
    rw [this, List.filterMap_some]
  rw [RedisLink.serve]
  dsimp only
  rw [cmds]
  exact {
    reached := h.reached
    issued := h.issued
    fits := h.fits
    consumed := by
      refine ⟨taken ++ l.toServer.take n, ?_, ?_⟩
      · rw [List.append_assoc, List.take_append_drop, sent]
      · rw [stream, results, List.map_append, List.map_append]
    store := by rw [h.store, Service.after_append]
    output := by rw [← List.append_assoc, h.output, h.store, Service.output_append]
    state := h.state
    answered := h.answered
    errors := h.errors }

/-- A read brings replies to commands whose handlers wait. -/
theorem Linked.read (h : l.Linked S s₀) {n : Nat} {d : RedisClientImpl H}
    (nonempty : l.toClient.take n ≠ [])
    (run : l.client.step (.read false (l.toClient.take n)) = some d) :
    { l with client := d, toClient := l.toClient.drop n }.Linked S s₀ := by
  have reached := h.reached.next run
  obtain ⟨⟨reading, -⟩, run⟩ := Option.ite_none_right_eq_some.mp run
  obtain ⟨s, collected, holds⟩ :=
    (RedisClientImpl.listening_of_reachable h.reached).parser (.inr reading)
  have stream : Reader.collect Partial.next .new .new
      (l.client.received ++ l.toClient.take n) = _ :=
    Reader.collect_append Partial.new l.client.received (l.toClient.take n)
  have first : _ <+: (Reader.collect Partial.next .new .new
      (l.client.received ++ l.toClient.take n ++ l.toClient.drop n)).1 :=
    Reader.collect_isPrefix Partial.new (l.client.received ++ l.toClient.take n) _
  rw [List.append_assoc, List.take_append_drop, h.output,
    Partial.collect_replies (S.replies_output s₀ l.server.executed), stream, collected] at first
  -- what ends in the bytes are answers
  obtain ⟨values, found, answers⟩ : ∃ values : List RedisValue,
      (Reader.collect Partial.next .new s (l.toClient.take n)).1 = values.map some ∧
        l.client.processed ++ values <+: S.answers s₀ l.server.executed := by
    obtain ⟨all, front, same⟩ := List.prefix_map_iff.mp first
    obtain ⟨old, values, rfl, sameOld, sameNew⟩ := List.append_eq_map_iff.mp same
    have : old = l.client.processed :=
      List.map_injective_iff.mpr (fun _ _ => Option.some.inj) sameOld
    rw [this] at front
    exact ⟨values, sameNew.symm, front⟩
  have waiting : values.length ≤ l.client.handlers.length := by
    obtain ⟨cmds, -, ran, executed⟩ := h.executed
    have calls := congrArg List.length
      (RedisClientImpl.pipelined_of_reachable h.reached).calls
    have called := congrArg List.length h.answered
    have answered := answers.length_le
    have queued := executed.length_le
    rw [ran] at calls
    simp only [List.length_append, List.length_map, Service.length_answers] at *
    omega
  have notEnded : ¬(false = true ∨ l.toClient.take n = []) := by simpa using nonempty
  rw [RedisClientImpl.asyncRead, if_neg notEnded] at run
  obtain ⟨_, loop, q, reads, thrown, answers, enough, rfl⟩ :=
    RedisClientImpl.readLoop_answers (c := { l.client with
        reads := l.client.reads - 1, received := l.client.received ++ l.toClient.take n }) holds
      h.state (Nat.lt_succ_self _) (Prod.ext found rfl) waiting
  obtain rfl := Option.some.inj (loop.symm.trans run)
  exact {
    reached := reached
    issued := h.issued
    fits := h.fits
    consumed := h.consumed
    store := h.store
    output := by
      rw [← h.output]
      simp
    state := h.state
    answered := by
      rw [List.map_append, h.answered, List.map_snd_zip enough]
    errors := h.errors }

theorem Linked.step (h : l.Linked S s₀) {e : LinkEvent H} (run : l.step S e = some m) :
    m.Linked S s₀ := by
  cases e with
  | connected ok => exact h.own (e := .connected ok) trivial run
  | runPosted => exact h.own (e := .runPosted) trivial run
  | wrote i ec => exact h.own (e := .wrote i ec) trivial run
  | readFails => exact h.own (e := .read true []) trivial run
  | close => exact h.own (e := .close) trivial run
  | command items f =>
      obtain ⟨fits, run⟩ := Option.ite_none_right_eq_some.mp run
      obtain ⟨d, taken, rfl⟩ := Option.map_eq_some_iff.mp run
      obtain rfl := Option.some.inj taken
      obtain ⟨calm, sent, issued⟩ := RedisClientImpl.calm_command (c := l.client) items f
      have noBytes : (l.client.command items f).sent = l.client.sent ++ [] := by
        rw [sent, List.append_nil]
      have given : (l.client.command items f).issued = l.client.issued ++
          (if l.client.state = .connected then [(items, f)] else []).map entry := by
        rw [issued]
        split <;> rfl
      have linked := h.calm (e := .command items f) rfl calm noBytes given (by
        intro cmd mem
        split at mem
        · obtain rfl := List.mem_singleton.mp mem
          exact fits
        · cases mem)
      rwa [List.append_nil] at linked
  | transmit i n =>
      rw [RedisLink.step] at run
      split at run
      · next rest at_ =>
        obtain ⟨d, taken, rfl⟩ := Option.map_eq_some_iff.mp run
        have sent := taken
        simp only [RedisClientImpl.step, at_] at sent
        obtain ⟨-, sent⟩ := Option.ite_none_right_eq_some.mp sent
        obtain rfl := Option.some.inj sent
        have noCommand : l.client.issued = l.client.issued ++ [].map entry := by simp
        have linked := h.calm taken ⟨rfl, rfl, rfl, id, fun _ => .inl⟩ rfl noCommand (by simp)
        rwa [List.append_nil] at linked
      · cases run
  | serve n =>
      obtain rfl := Option.some.inj run
      exact h.serve n
  | read n =>
      obtain ⟨⟨positive, enough⟩, run⟩ := Option.ite_none_right_eq_some.mp run
      obtain ⟨d, taken, rfl⟩ := Option.map_eq_some_iff.mp run
      refine h.read ?_ taken
      rw [ne_eq, List.take_eq_nil_iff]
      rintro (zero | none)
      · omega
      · simp [none] at enough
        omega

theorem act_connecting {e : ClientEvent H} (run : l.act e = some m)
    (other : ∀ ok, e ≠ .connected ok) : m.client.connecting = l.client.connecting := by
  obtain ⟨d, taken, rfl⟩ := Option.map_eq_some_iff.mp run
  exact RedisClientImpl.connecting_step other taken

theorem act_issued {e : ClientEvent H} (run : l.act e = some m) : m.issued = l.issued := by
  obtain ⟨d, _, rfl⟩ := Option.map_eq_some_iff.mp run
  rfl

theorem step_connecting {e : LinkEvent H} (run : l.step S e = some m)
    (other : ∀ ok, e ≠ .connected ok) : m.client.connecting = l.client.connecting := by
  cases e with
  | connected ok => exact absurd rfl (other ok)
  | command items f =>
      obtain ⟨_, run⟩ := Option.ite_none_right_eq_some.mp run
      have same := act_connecting run (by simp)
      exact same
  | runPosted => exact act_connecting (e := .runPosted) run (by simp)
  | transmit i n =>
      rw [RedisLink.step] at run
      split at run
      · have same := act_connecting run (by simp)
        exact same
      · cases run
  | wrote i ec => exact act_connecting (e := .wrote i ec) run (by simp)
  | serve n =>
      obtain rfl := Option.some.inj run
      rfl
  | read n =>
      obtain ⟨_, run⟩ := Option.ite_none_right_eq_some.mp run
      have same := act_connecting run (by simp)
      exact same
  | readFails => exact act_connecting (e := .read true []) run (by simp)
  | close => exact act_connecting (e := .close) run (by simp)

theorem step_issued {e : LinkEvent H} (run : l.step S e = some m)
    (other : ∀ items f, e ≠ .command items f) : m.issued = l.issued := by
  cases e with
  | command items f => exact absurd rfl (other items f)
  | connected ok => exact act_issued (e := .connected ok) run
  | runPosted => exact act_issued (e := .runPosted) run
  | transmit i n =>
      rw [RedisLink.step] at run
      split at run
      · have same := act_issued run
        exact same
      · cases run
  | wrote i ec => exact act_issued (e := .wrote i ec) run
  | serve n =>
      obtain rfl := Option.some.inj run
      rfl
  | read n =>
      obtain ⟨_, run⟩ := Option.ite_none_right_eq_some.mp run
      have same := act_issued run
      exact same
  | readFails => exact act_issued (e := .read true []) run
  | close => exact act_issued (e := .close) run

/-- A command is given if the client is connected. -/
theorem step_command {items : List Bytes} {f : H}
    (run : l.step S (.command items f) = some m) :
    m.issued = l.issued ++ if l.client.state = .connected then [(items, f)] else [] := by
  obtain ⟨_, run⟩ := Option.ite_none_right_eq_some.mp run
  obtain ⟨d, _, rfl⟩ := Option.map_eq_some_iff.mp run
  rfl

theorem linked_of_reachable (reached : (System H S s₀).Reachable l) : l.Linked S s₀ := by
  refine reached.invariant ?_ ?_
  · rintro _ ⟨throws, refuses, rfl⟩
    exact linked_new throws refuses s₀
  · intro _ _ _ _ h run
    exact h.step run

/-- The values that are handled are answers. -/
theorem Linked.processed (h : l.Linked S s₀) :
    l.client.processed <+: S.answers s₀ l.server.executed := by
  obtain ⟨front, rest, split, replies⟩ :=
    (RedisClientImpl.listening_of_reachable h.reached).replies
  have whole := Partial.collect_replies (S.replies_output s₀ l.server.executed)
  have first : (Reader.collect Partial.next .new .new front).1 <+:
      (Reader.collect Partial.next .new .new (front ++ (rest ++ l.toClient))).1 :=
    Reader.collect_isPrefix Partial.new front _
  rw [← List.append_assoc, ← split, h.output, whole, Partial.collect_replies replies] at first
  exact (List.prefix_map_iff_of_injective fun _ _ => Option.some.inj).mp first

/-- The client reads (no error and no exception has ended that), and nothing is under way in
either direction. -/
structure Idle (l : RedisLink H σ) : Prop where
  posted : l.client.posted = []
  queue : l.client.queue = []
  toServer : l.toServer = []
  toClient : l.toClient = []
  reading : 0 < l.client.reads

theorem valid_ok : ReplyKind.string.Valid (ascii "OK") where
  accepts := by
    have all : (ascii "OK").all ReplyKind.string.accepts = true := by decide
    exact List.all_eq_true.mp all
  some := by rintro ⟨⟩

/-- A server that counts its commands. -/
def countService : Service Nat where
  answer _ _ := .string (ascii "OK") false
  bytes _ _ := ReplyKind.string.line (ascii "OK")
  next n _ := n + 1
  reply _ _ := .string valid_ok

/-- Two commands, of which the second is given while the first is being written, and
whose answers come in one read. -/
def pingTwice : List (LinkEvent Nat) :=
  [.connected true, .command [ascii "PING"] 7, .runPosted, .transmit 0 3,
    .command [ascii "PING"] 8, .runPosted, .serve 3, .transmit 0 11, .wrote 0 false,
    .transmit 0 14, .wrote 0 false, .serve 25, .read 10]

theorem exists_pingTwice :
    ∃ l, (System Nat countService 0).Reachable l ∧ l.client.called.map Prod.fst = [7, 8] ∧
      l.server.store = 2 ∧ l.Idle := by
  have check : ∃ l ∈ Transition.System.runSteps (step countService)
      (new true (fun _ => false) 0) pingTwice,
      l.client.called.map Prod.fst = [7, 8] ∧ l.server.store = 2 ∧ l.client.posted.length = 0 ∧
        l.client.queue = [] ∧ l.toServer = [] ∧ l.toClient = [] ∧ 0 < l.client.reads := by
    decide +kernel
  have found : ∃ l, (System Nat countService 0).Reachable l ∧ _ :=
    Transition.System.reachable_of_check ⟨true, _, rfl⟩ check
  obtain ⟨l, reached, called, store, posted, queue, toServer, toClient, reading⟩ := found
  exact ⟨l, reached, called, store, List.eq_nil_of_length_eq_zero posted, queue, toServer,
    toClient, reading⟩

/-- The server executes the commands in the order in which they were given, each of them
once at most and unchanged. -/
theorem executed_in_order (reached : (System H S s₀).Reachable l) :
    l.server.executed <+: l.issued.map Prod.fst ∧
      l.server.store = S.after s₀ l.server.executed := by
  have h := linked_of_reachable reached
  exact ⟨h.executed_isPrefix, h.store⟩

theorem executed_in_order_ping : ∃ l : RedisLink Nat Nat,
    l.server.store = 2 ∧ l.server.executed <+: l.issued.map Prod.fst ∧
      l.server.store = countService.after 0 l.server.executed := by
  obtain ⟨l, reached, _, store, _⟩ := exists_pingTwice
  exact ⟨l, store, executed_in_order reached⟩

/-- The calls of handlers are those of the commands in their order, each with the answer
of the server to that command. The client never finds an error in what it reads, nor a
reply that nobody waits for. -/
theorem answers_in_order (reached : (System H S s₀).Reachable l) :
    l.client.called <+: (l.issued.map Prod.snd).zip (S.answers s₀ (l.issued.map Prod.fst)) ∧
      ∀ e ∈ l.client.errors, e = .system ∨ ∃ state, e = .invalidState state := by
  have h := linked_of_reachable reached
  refine ⟨?_, h.errors⟩
  have handlers : l.client.called.map Prod.fst <+: l.issued.map Prod.snd := by
    have := (RedisClientImpl.handlers_in_order h.reached).1
    rwa [h.issued, List.map_map] at this
  have values : l.client.called.map Prod.snd <+: S.answers s₀ (l.issued.map Prod.fst) := by
    obtain ⟨more, all⟩ := h.executed_isPrefix
    rw [h.answered, ← all, Service.answers_append]
    exact h.processed.trans (List.prefix_append _ _)
  obtain ⟨otherHandlers, allHandlers⟩ := handlers
  obtain ⟨otherValues, allValues⟩ := values
  have zipped : l.client.called =
      (l.client.called.map Prod.fst).zip (l.client.called.map Prod.snd) := List.zip_of_prod rfl rfl
  rw [← allHandlers, ← allValues, List.zip_append (by simp), ← zipped]
  exact List.prefix_append _ _

theorem answers_in_order_ping : ∃ l : RedisLink Nat Nat,
    l.client.called.map Prod.fst = [7, 8] ∧
      l.client.called <+:
        (l.issued.map Prod.snd).zip (countService.answers 0 (l.issued.map Prod.fst)) ∧
      ∀ e ∈ l.client.errors, e = .system ∨ ∃ state, e = .invalidState state := by
  obtain ⟨l, reached, called, _⟩ := exists_pingTwice
  exact ⟨l, called, answers_in_order reached⟩

/-- The client has sent all commands, and the server has them all. -/
theorem Linked.executed_of_idle (h : l.Linked S s₀) (idle : l.Idle) :
    l.client.ran = l.issued.map entry ∧ l.server.executed = l.issued.map Prod.fst := by
  have pipelined := RedisClientImpl.pipelined_of_reachable h.reached
  have ran : l.client.ran = l.issued.map entry := by
    rw [← h.issued, ← pipelined.posts, idle.posted]
    simp
  refine ⟨ran, ?_⟩
  obtain ⟨rest, sent, ⟨-, some⟩ | ⟨-, none⟩⟩ := pipelined.sends
  · exact absurd idle.queue some
  · obtain ⟨taken, all, collected⟩ := h.consumed
    have fits : ∀ cmd ∈ l.issued.map Prod.fst, Fits cmd := by
      intro cmd mem
      obtain ⟨pair, inside, rfl⟩ := List.mem_map.mp mem
      exact h.fits pair inside
    rw [idle.toServer, List.append_nil] at all
    have stream : taken = (l.issued.map Prod.fst).flatMap makeCommand := by
      rw [none idle.queue, idle.queue, ran, List.map_map] at sent
      rw [all, List.flatMap_map, List.flatMap_def]
      simpa [entry, Function.comp_def] using sent
    rw [stream, Partial.collect_replies (replies_makeCommand fits)] at collected
    have same := (Prod.mk.inj collected).1
    exact (List.map_injective_iff.mpr commandValue_injective
      (List.map_injective_iff.mpr (fun _ _ => Option.some.inj) same)).symm

/-- When nothing is under way any more, every command has been executed and every handler
has been called with the answer to its command. -/
theorem all_answered_of_idle (reached : (System H S s₀).Reachable l) (idle : l.Idle) :
    l.server.executed = l.issued.map Prod.fst ∧
      l.client.called =
        (l.issued.map Prod.snd).zip (S.answers s₀ (l.issued.map Prod.fst)) := by
  have h := linked_of_reachable reached
  obtain ⟨ran, executed⟩ := h.executed_of_idle idle
  refine ⟨executed, ?_⟩
  have values : l.client.called.map Prod.snd = S.answers s₀ (l.issued.map Prod.fst) := by
    obtain ⟨s, collected, -⟩ :=
      (RedisClientImpl.listening_of_reachable h.reached).parser (.inr idle.reading)
    have output := h.output
    rw [idle.toClient, List.append_nil] at output
    rw [output, Partial.collect_replies (S.replies_output s₀ l.server.executed)] at collected
    rw [h.answered, ← executed]
    exact (List.map_injective_iff.mpr (fun _ _ => Option.some.inj) (Prod.mk.inj collected).1).symm
  have handlers : l.client.called.map Prod.fst = l.issued.map Prod.snd := by
    have calls := (RedisClientImpl.pipelined_of_reachable h.reached).calls
    have count := congrArg List.length calls
    have answered := congrArg List.length values
    rw [ran] at calls count
    simp only [List.length_append, List.length_map, Service.length_answers] at count answered
    have none : l.client.handlers = [] := List.eq_nil_of_length_eq_zero (by omega)
    rw [none, List.append_nil, List.map_map] at calls
    exact calls
  rw [← handlers, ← values]
  exact List.zip_of_prod rfl rfl

theorem all_answered_of_idle_ping : ∃ l : RedisLink Nat Nat,
    l.client.called.map Prod.fst = [7, 8] ∧ l.server.executed = l.issued.map Prod.fst ∧
      l.client.called =
        (l.issued.map Prod.snd).zip (countService.answers 0 (l.issued.map Prod.fst)) := by
  obtain ⟨l, reached, called, _, idle⟩ := exists_pingTwice
  exact ⟨l, called, all_answered_of_idle reached idle⟩

end RedisLink

end NatProxy
