import NatProxy.Redis.Client

/-!
# What a client keeps to, whatever the server does

Commands are written one after another in the order in which they were posted, and
handlers are called in that order, each once at most. What is handled is what the
grammar finds in the stream, however the stream is cut into reads. All of this holds in
every run, with failing operations, with subscriptions and with any bytes from the
server.
-/

namespace NatProxy

open Memory Transition

def Post.command? {H : Type} : Post H → Option (Bytes × H)
  | .command buff handler => some (buff, handler)
  | .message _ _ => none

namespace RedisClientImpl

variable {H : Type} {c d : RedisClientImpl H}

/-- The runs of a client. -/
def System (H : Type) : Transition.System (RedisClientImpl H) (ClientEvent H) :=
  .ofStep (fun c => ∃ throws refuses, c = new throws refuses) step

/-- How the queues of a client hang together. -/
structure Pipelined (c : RedisClientImpl H) : Prop where
  calls : c.called.map Prod.fst ++ c.handlers = c.ran.map Prod.snd
  values : (c.called.map Prod.snd).Sublist c.processed
  posts : c.ran ++ c.posted.filterMap Post.command? = c.issued
  /-- `rest` is what the current write has not sent, or what a failed one had not. -/
  sends : ∃ rest, c.sent ++ rest ++ c.queue.tail.flatten = (c.ran.map Prod.fst).flatten ∧
    (c.writes = [rest] ∧ c.queue ≠ [] ∨ c.writes = [] ∧ (c.queue = [] → rest = []))

theorem pipelined_new (throws : Bool) (refuses : Reserve → Bool) :
    (new throws refuses : RedisClientImpl H).Pipelined :=
  ⟨rfl, .slnil, rfl, [], rfl, .inr ⟨rfl, fun _ => rfl⟩⟩

/-! ## Reading -/

/-- A property that `doProcessMessage` keeps, and that does not look at the parser, the
number of reads, the errors and the exceptions, is kept by `asyncRead`. -/
theorem readLoop_keeps {I : RedisClientImpl H → Prop}
    (parser : ∀ c p thrown, I c → I { c with redisParser := p, thrown := thrown })
    (message : ∀ c v, I c → I (c.doProcessMessage v).1) (more : ∀ c, I c → I c.processMessage)
    (error : ∀ c e, I c → I (c.errorHandler e)) {fuel : Nat} {bytes : Bytes} (hi : I c)
    (run : c.readLoop fuel bytes = some d) : I d := by
  induction fuel generalizing c bytes with
  | zero => cases run
  | succ fuel ih =>
      rw [readLoop] at run
      split at run
      · obtain rfl := Option.some.inj run
        exact more c hi
      · split at run
        · cases run
        · next r p _ =>
          split at run
          · obtain rfl := Option.some.inj run
            exact parser c p _ hi
          · cases r with
            | completed =>
                dsimp only at run
                split at run
                · next v q _ =>
                  have handled := message { c with redisParser := q } v (parser c q c.thrown hi)
                  split at run
                  · obtain rfl := Option.some.inj run
                    exact handled
                  · exact ih handled run
                · cases run
            | incompleted =>
                obtain rfl := Option.some.inj run
                exact more _ (parser c p c.thrown hi)
            | error =>
                obtain rfl := Option.some.inj run
                exact error _ _ (parser c p c.thrown hi)

theorem asyncRead_keeps {I : RedisClientImpl H → Prop}
    (parser : ∀ c p thrown, I c → I { c with redisParser := p, thrown := thrown })
    (message : ∀ c v, I c → I (c.doProcessMessage v).1) (more : ∀ c, I c → I c.processMessage)
    (error : ∀ c e, I c → I (c.errorHandler e)) {ec : Bool} {bytes : Bytes} (hi : I c)
    (run : c.asyncRead ec bytes = some d) : I d := by
  rw [asyncRead] at run
  split at run
  · obtain rfl := Option.some.inj run
    exact error c _ hi
  · exact readLoop_keeps parser message more error hi run

theorem Pipelined.dispatch (h : c.Pipelined) (queueName payload : Bytes) :
    (c.dispatch queueName payload).Pipelined := by
  have messages : ∀ named : List (Bytes × Nat × H),
      (named.map fun entry => Post.message entry.2.2 payload).filterMap Post.command? = [] := by
    intro named
    simp [List.filterMap_map, Post.command?, Function.comp_def]
  rw [RedisClientImpl.dispatch]
  split
  · next entry _ =>
    refine ⟨h.calls, h.values, ?_, h.sends⟩
    rw [← h.posts, List.filterMap_append, List.filterMap_append, messages, List.append_nil]
    simp [Post.command?]
  · refine ⟨h.calls, h.values, ?_, h.sends⟩
    rw [← h.posts, List.filterMap_append, messages, List.append_nil]

theorem Pipelined.callHandler (h : c.Pipelined) {f : H} {rest : List H}
    (handlers : c.handlers = f :: rest) (v : RedisValue) :
    ({ c with processed := c.processed ++ [v] }.callHandler v f rest).Pipelined := by
  refine ⟨?_, ?_, h.posts, h.sends⟩
  · have calls := h.calls
    rw [handlers] at calls
    simpa [RedisClientImpl.callHandler] using calls
  · simpa [RedisClientImpl.callHandler] using h.values.append (List.Sublist.refl [v])

theorem Pipelined.doProcessMessage (h : c.Pipelined) (v : RedisValue) :
    (c.doProcessMessage v).1.Pipelined := by
  have processed : { c with processed := c.processed ++ [v] }.Pipelined :=
    ⟨h.calls, h.values.trans (List.sublist_append_left _ _), h.posts, h.sends⟩
  have failed : ∀ e, ({ c with processed := c.processed ++ [v] }.errorHandler e).Pipelined :=
    fun _ => ⟨processed.calls, processed.values, processed.posts, processed.sends⟩
  rw [RedisClientImpl.doProcessMessage]
  dsimp only
  split
  · split
    · split
      · exact processed.dispatch _ _
      · split
        · split
          · next handlers => exact h.callHandler handlers v
          · exact failed _
        · exact failed _
    · exact failed _
  · split
    · next handlers => exact h.callHandler handlers v
    · exact failed _

theorem Pipelined.asyncRead (h : c.Pipelined) {ec : Bool} {bytes : Bytes}
    (run : c.asyncRead ec bytes = some d) : d.Pipelined :=
  asyncRead_keeps (fun _ _ _ h => ⟨h.calls, h.values, h.posts, h.sends⟩)
    (fun _ v h => h.doProcessMessage v) (fun _ h => ⟨h.calls, h.values, h.posts, h.sends⟩)
    (fun _ _ h => ⟨h.calls, h.values, h.posts, h.sends⟩) h run

/-! ## Writing -/

theorem Pipelined.doAsyncCommand (h : c.Pipelined) {buff : Bytes} {f : H} {rest : List (Post H)}
    (posted : c.posted = .command buff f :: rest) :
    ({ c with posted := rest }.doAsyncCommand buff f).Pipelined := by
  have calls : c.called.map Prod.fst ++ (c.handlers ++ [f]) =
      (c.ran ++ [(buff, f)]).map Prod.snd := by
    rw [← List.append_assoc, h.calls, List.map_append]
    rfl
  have posts : (c.ran ++ [(buff, f)]) ++ rest.filterMap Post.command? = c.issued := by
    have posts := h.posts
    rw [posted] at posts
    simpa [Post.command?] using posts
  obtain ⟨left, sent, writes⟩ := h.sends
  rw [RedisClientImpl.doAsyncCommand]
  cases queue : c.queue with
  | nil =>
      -- nothing is queued, so nothing is being written
      obtain ⟨_, some⟩ | ⟨none, done⟩ := writes
      · exact absurd queue some
      · obtain rfl := done queue
        refine ⟨calls, h.values, posts, buff, ?_, .inl ⟨?_, ?_⟩⟩
        · rw [queue] at sent
          simpa [write] using sent
        · simp [write, none]
        · simp [write]
  | cons first others =>
      have long : (first :: others ++ [buff]).length ≠ 1 := by simp
      rw [if_neg long]
      refine ⟨calls, h.values, posts, left, ?_, ?_⟩
      · rw [queue] at sent
        simp only [List.tail_cons] at sent
        simp [← sent]
      · rcases writes with ⟨one, _⟩ | ⟨none, _⟩
        · exact .inl ⟨one, by simp⟩
        · exact .inr ⟨none, by simp⟩

theorem Pipelined.runPosted (h : c.Pipelined) (run : c.runPosted = some d) : d.Pipelined := by
  rw [RedisClientImpl.runPosted] at run
  split at run
  · cases run
  · next posted =>
    obtain rfl := Option.some.inj run
    exact h.doAsyncCommand posted
  · next posted =>
    obtain rfl := Option.some.inj run
    refine ⟨h.calls, h.values, ?_, h.sends⟩
    have posts := h.posts
    rwa [posted] at posts

theorem Pipelined.postCommand (h : c.Pipelined) (items : List Bytes) (f : H) :
    (c.postCommand items f).Pipelined := by
  refine ⟨h.calls, h.values, ?_, h.sends⟩
  simp [RedisClientImpl.postCommand, Post.command?, ← h.posts]

/-- The one outstanding write is that of the front of the queue. -/
theorem Pipelined.current (h : c.Pipelined) {i : Nat} {left : Bytes}
    (at_ : c.writes[i]? = some left) :
    i = 0 ∧ c.writes = [left] ∧ c.queue ≠ [] ∧
      c.sent ++ left ++ c.queue.tail.flatten = (c.ran.map Prod.fst).flatten := by
  obtain ⟨rest, sent, ⟨one, some⟩ | ⟨none, _⟩⟩ := h.sends
  · rw [one, List.getElem?_singleton] at at_
    split at at_
    · next first =>
      obtain rfl := Option.some.inj at_
      exact ⟨first, one, some, sent⟩
    · cases at_
  · rw [none] at at_
    cases at_

theorem Pipelined.transmit (h : c.Pipelined) {i n : Nat} {left : Bytes}
    (at_ : c.writes[i]? = some left) :
    { c with
      writes := c.writes.set i (left.drop n), sent := c.sent ++ left.take n }.Pipelined := by
  obtain ⟨rfl, one, some, sent⟩ := h.current at_
  refine ⟨h.calls, h.values, h.posts, left.drop n, ?_, .inl ⟨?_, some⟩⟩
  · simpa using sent
  · rw [one]
    rfl

/-- A write that completes is at the front of the queue, which is therefore not empty. -/
theorem Pipelined.wrote (h : c.Pipelined) {i : Nat} {left : Bytes} {ec : Bool}
    (at_ : c.writes[i]? = some left) (done : ec = true ∨ left = []) :
    ∃ d, { c with writes := c.writes.eraseIdx i }.asyncWrite ec = some d ∧ d.Pipelined := by
  obtain ⟨rfl, one, some, sent⟩ := h.current at_
  obtain ⟨buff, others, queue⟩ := List.exists_cons_of_ne_nil some
  rw [asyncWrite, one]
  cases ec with
  | true =>
      exact ⟨_, rfl, h.calls, h.values, h.posts, left, sent, .inr ⟨rfl, (absurd · some)⟩⟩
  | false =>
      obtain rfl : left = [] := by simpa using done
      rw [queue, List.append_nil] at sent
      simp only [queue]
      refine ⟨_, rfl, ?_⟩
      cases others with
      | nil =>
          refine ⟨h.calls, h.values, h.posts, [], ?_, .inr ⟨rfl, fun _ => rfl⟩⟩
          simpa [write] using sent
      | cons next others =>
          refine ⟨h.calls, h.values, h.posts, next, ?_, .inl ⟨rfl, by simp [write]⟩⟩
          simpa [write] using sent

theorem Pipelined.step (h : c.Pipelined) {e : ClientEvent H} (run : c.step e = some d) :
    d.Pipelined := by
  have failed : ∀ e, (c.errorHandler e).Pipelined :=
    fun _ => ⟨h.calls, h.values, h.posts, h.sends⟩
  cases e with
  | connected ok =>
      obtain ⟨_, run⟩ := Option.ite_none_right_eq_some.mp run
      obtain rfl := Option.some.inj run
      rw [handleAsyncConnect]
      split
      · exact ⟨h.calls, h.values, h.posts, h.sends⟩
      · exact ⟨h.calls, h.values, h.posts, h.sends⟩
  | command items f =>
      obtain rfl := Option.some.inj run
      rw [command]
      split
      · exact failed _
      · exact h.postCommand items f
  | subscribe channel msgHandler f =>
      obtain rfl := Option.some.inj run
      have posted := h.postCommand [ascii "SUBSCRIBE", channel] f
      rw [subscribe]
      split
      · exact ⟨posted.calls, posted.values, posted.posts, posted.sends⟩
      · exact failed _
  | unsubscribe id channel f =>
      obtain rfl := Option.some.inj run
      rw [unsubscribe]
      split
      · refine Pipelined.postCommand ?_ _ f
        exact ⟨h.calls, h.values, h.posts, h.sends⟩
      · exact failed _
  | singleShotSubscribe channel msgHandler f =>
      obtain rfl := Option.some.inj run
      have posted := h.postCommand [ascii "SUBSCRIBE", channel] f
      rw [singleShotSubscribe]
      split
      · exact ⟨posted.calls, posted.values, posted.posts, posted.sends⟩
      · exact failed _
  | publish channel msg f =>
      obtain rfl := Option.some.inj run
      rw [publish]
      split
      · exact h.postCommand _ f
      · exact failed _
  | runPosted => exact h.runPosted run
  | transmit i n =>
      rw [RedisClientImpl.step] at run
      split at run
      · next at_ =>
        obtain ⟨_, run⟩ := Option.ite_none_right_eq_some.mp run
        obtain rfl := Option.some.inj run
        exact h.transmit at_
      · cases run
  | wrote i ec =>
      rw [RedisClientImpl.step] at run
      split at run
      · next at_ =>
        obtain ⟨done, run⟩ := Option.ite_none_right_eq_some.mp run
        obtain ⟨_, written, result⟩ := h.wrote at_ done
        obtain rfl := Option.some.inj (written.symm.trans run)
        exact result
      · cases run
  | read ec bytes =>
      obtain ⟨_, run⟩ := Option.ite_none_right_eq_some.mp run
      refine Pipelined.asyncRead ?_ run
      exact ⟨h.calls, h.values, h.posts, h.sends⟩
  | close =>
      obtain rfl := Option.some.inj run
      rw [close]
      split
      · exact h
      · exact ⟨h.calls, h.values, h.posts, h.sends⟩

theorem pipelined_of_reachable (reached : (System H).Reachable c) : c.Pipelined := by
  refine reached.invariant ?_ ?_
  · rintro _ ⟨throws, refuses, rfl⟩
    exact pipelined_new throws refuses
  · intro _ _ _ _ h run
    exact h.step run

/-! ## Parsing -/

/-- What has been handled is what the received bytes begin with, and all that is in them
as long as the client reads on. -/
structure Listening (c : RedisClientImpl H) : Prop where
  one : c.reads ≤ 1
  first : c.connecting = true → c.reads = 0
  replies : ∃ front rest, c.received = front ++ rest ∧ Replies c.processed front
  parser : c.connecting = true ∨ 0 < c.reads →
    ∃ s, Reader.collect Partial.next .new .new c.received = (c.processed.map some, s) ∧
      c.redisParser.Holds s

theorem listening_new (throws : Bool) (refuses : Reserve → Bool) :
    (new throws refuses : RedisClientImpl H).Listening where
  one := Nat.zero_le 1
  first := fun _ => rfl
  replies := ⟨[], [], rfl, .nil⟩
  parser := fun _ => ⟨.new, rfl, RedisParser.holds_new⟩

theorem doProcessMessage_frame (c : RedisClientImpl H) (v : RedisValue) :
    (c.doProcessMessage v).1.redisParser = c.redisParser ∧
      (c.doProcessMessage v).1.reads = c.reads ∧
      (c.doProcessMessage v).1.connecting = c.connecting ∧
      (c.doProcessMessage v).1.received = c.received ∧
      (c.doProcessMessage v).1.processed = c.processed ++ [v] := by
  rw [doProcessMessage]
  dsimp only
  split
  · split
    · split
      · rw [dispatch]
        split
        · exact ⟨rfl, rfl, rfl, rfl, rfl⟩
        · exact ⟨rfl, rfl, rfl, rfl, rfl⟩
      · split
        · split
          · exact ⟨rfl, rfl, rfl, rfl, rfl⟩
          · exact ⟨rfl, rfl, rfl, rfl, rfl⟩
        · exact ⟨rfl, rfl, rfl, rfl, rfl⟩
    · exact ⟨rfl, rfl, rfl, rfl, rfl⟩
  · split
    · exact ⟨rfl, rfl, rfl, rfl, rfl⟩
    · exact ⟨rfl, rfl, rfl, rfl, rfl⟩

section

variable {s t : Partial} {bytes rest : Bytes} {v : RedisValue}

/-! What the loop of `asyncRead` does once: an exception of `reserve` leaves it, or it goes on
with what the parser has returned. -/

/-- A `reserve` throws. -/
def Refused (c d : RedisClientImpl H) : Prop :=
  ∃ p : RedisParser, p.reserved.any c.refuses = true ∧
    d = { c with redisParser := p, thrown := c.thrown ++ [.reserve] }

theorem readLoop_of_more (holds : c.redisParser.Holds s)
    (fed : Reader.feed Partial.next s bytes = .more t) (fuel : Nat) :
    ∃ d, c.readLoop (fuel + 1) bytes = some d ∧
      (Refused c d ∨ ∃ q, q.Holds t ∧ d = { c with redisParser := q }.processMessage) := by
  rw [readLoop]
  split
  · next empty =>
    subst empty
    obtain rfl := Fed.more.inj fed
    exact ⟨_, rfl, .inr ⟨c.redisParser, holds, rfl⟩⟩
  · obtain ⟨q, parsed, holds⟩ := RedisParser.parse_of_more holds fed
    rw [parsed]
    dsimp only
    split
    · next refused => exact ⟨_, rfl, .inl ⟨q, refused, rfl⟩⟩
    · exact ⟨_, rfl, .inr ⟨q, holds, rfl⟩⟩

theorem readLoop_of_error (holds : c.redisParser.Holds s)
    (fed : Reader.feed Partial.next s bytes = .stop none rest) (fuel : Nat) :
    ∃ d, c.readLoop (fuel + 1) bytes = some d ∧
      (Refused c d ∨ ∃ q, d = { c with redisParser := q }.errorHandler .parserError) := by
  have some : bytes ≠ [] := by
    rintro rfl
    cases fed
  obtain ⟨i, q, parsed, _⟩ := RedisParser.parse_of_error holds fed
  rw [readLoop, if_neg some, parsed]
  dsimp only
  split
  · next refused => exact ⟨_, rfl, .inl ⟨q, refused, rfl⟩⟩
  · exact ⟨_, rfl, .inr ⟨q, rfl⟩⟩

theorem readLoop_of_value (holds : c.redisParser.Holds s)
    (fed : Reader.feed Partial.next s bytes = .stop (some v) rest) (fuel : Nat) :
    (∃ d, c.readLoop (fuel + 1) bytes = some d ∧ Refused c d) ∨
      ∃ q, q.Holds .new ∧
        c.readLoop (fuel + 1) bytes =
          let (d, failed) := { c with redisParser := q }.doProcessMessage v
          if failed && d.throws then some d else d.readLoop fuel rest := by
  have some : bytes ≠ [] := by
    rintro rfl
    cases fed
  obtain ⟨i, p, parsed, _, rfl, q, result, holds⟩ := RedisParser.parse_of_value holds fed
  rw [readLoop, if_neg some, parsed]
  dsimp only
  split
  · next refused => exact .inl ⟨_, rfl, p, refused, rfl⟩
  · rw [result]
    exact .inr ⟨q, holds, rfl⟩

end

/-- The loop handles the replies in the order of the bytes. If it does not come to their
end, it starts no other read. -/
theorem readLoop_reads {s : Partial} (holds : c.redisParser.Holds s) {fuel : Nat}
    {bytes : Bytes} (enough : bytes.length < fuel) :
    ∃ d values, c.readLoop fuel bytes = some d ∧ d.connecting = c.connecting ∧
      d.received = c.received ∧ d.processed = c.processed ++ values ∧
      ((∃ t, d.reads = c.reads + 1 ∧
          Reader.collect Partial.next .new s bytes = (values.map some, t) ∧
          d.redisParser.Holds t) ∨
        d.reads = c.reads ∧ values.map some <+: (Reader.collect Partial.next .new s bytes).1) := by
  induction fuel generalizing c s bytes with
  | zero => omega
  | succ fuel ih =>
      cases fed : Reader.feed Partial.next s bytes with
      | more t =>
          obtain ⟨_, loop, ⟨q, _, rfl⟩ | ⟨q, holds, rfl⟩⟩ := readLoop_of_more holds fed fuel
          · exact ⟨_, [], loop, rfl, rfl, (List.append_nil _).symm, .inr ⟨rfl, List.nil_prefix⟩⟩
          · exact ⟨_, [], loop, rfl, rfl, (List.append_nil _).symm,
              .inl ⟨t, rfl, Reader.collect_of_more fed, holds⟩⟩
      | stop r rest =>
          cases r with
          | none =>
              obtain ⟨_, loop, ⟨q, _, rfl⟩ | ⟨q, rfl⟩⟩ := readLoop_of_error holds fed fuel
              · exact ⟨_, [], loop, rfl, rfl, (List.append_nil _).symm, .inr ⟨rfl, List.nil_prefix⟩⟩
              · exact ⟨_, [], loop, rfl, rfl, (List.append_nil _).symm, .inr ⟨rfl, List.nil_prefix⟩⟩
          | some v =>
              have shorter := Reader.length_lt_of_stop fed
              obtain ⟨_, loop, q, _, rfl⟩ | ⟨q, holds, loop⟩ := readLoop_of_value holds fed fuel
              · exact ⟨_, [], loop, rfl, rfl, (List.append_nil _).symm, .inr ⟨rfl, List.nil_prefix⟩⟩
              have frame := doProcessMessage_frame { c with redisParser := q } v
              rw [loop, Reader.collect_of_stop fed]
              generalize { c with redisParser := q }.doProcessMessage v = handled at frame ⊢
              obtain ⟨d, failed⟩ := handled
              obtain ⟨rfl, reads, connecting, received, processed⟩ := frame
              dsimp only at reads connecting received processed ⊢
              split
              · refine ⟨d, [v], rfl, connecting, received, processed, .inr ⟨reads, ?_⟩⟩
                exact List.cons_prefix_cons.mpr ⟨rfl, List.nil_prefix⟩
              · obtain ⟨e, values, run, same, kept, later, reading⟩ :=
                  @ih d .new holds rest (by omega)
                refine ⟨e, v :: values, run, same.trans connecting, kept.trans received, ?_, ?_⟩
                · rw [later, processed, List.append_assoc, List.singleton_append]
                · rcases reading with ⟨t, more, collected, holds⟩ | ⟨none, first⟩
                  · exact .inl ⟨t, by rw [more, reads], by rw [collected]; rfl, holds⟩
                  · exact .inr ⟨by rw [none, reads], List.cons_prefix_cons.mpr ⟨rfl, first⟩⟩

/-- A read that completes is followed by another one, unless something is wrong. -/
theorem Listening.read (h : c.Listening) (reading : 0 < c.reads) (ec : Bool) (bytes : Bytes) :
    ∃ d, { c with
        reads := c.reads - 1, received := c.received ++ if ec then [] else bytes }.asyncRead
          ec bytes = some d ∧ d.Listening := by
  have one := h.one
  have settled : c.connecting ≠ true := fun still => by
    have := h.first still
    omega
  rw [asyncRead]
  split
  · next stops =>
    refine ⟨_, rfl, ?_, (absurd · settled), ?_, ?_⟩
    · simp only [errorHandler]
      omega
    · obtain ⟨front, rest, split, replies⟩ := h.replies
      exact ⟨front, rest ++ if ec then [] else bytes, by simp [errorHandler, split], replies⟩
    · rintro (still | positive)
      · exact absurd still settled
      · simp only [errorHandler] at positive
        omega
  · next goesOn =>
    obtain rfl : ec = false := by
      cases ec with
      | true => exact absurd (.inl rfl) goesOn
      | false => rfl
    obtain ⟨s, collected, holds⟩ := h.parser (.inr reading)
    have stream : Reader.collect Partial.next .new .new (c.received ++ bytes) = _ :=
      Reader.collect_append Partial.new c.received bytes
    rw [collected] at stream
    obtain ⟨d, values, run, connecting, received, processed, after⟩ :=
      readLoop_reads (c := { c with reads := c.reads - 1, received := c.received ++ bytes }) holds
        (Nat.lt_succ_self bytes.length)
    dsimp only at connecting received processed after
    have settled : d.connecting ≠ true := by rwa [connecting]
    have found : d.processed.map some <+:
        (Reader.collect Partial.next .new .new d.received).1 := by
      rw [received, stream, processed, List.map_append]
      rcases after with ⟨t, _, read, _⟩ | ⟨_, first⟩
      · simp [read]
      · simpa using first
    obtain ⟨front, rest, split, replies, _⟩ := Partial.exists_replies_of_isPrefix found
    refine ⟨d, run, ?_, (absurd · settled), ⟨front, rest, split, replies⟩, ?_⟩
    · rcases after with ⟨_, more, _⟩ | ⟨none, _⟩ <;> omega
    · rintro (still | positive)
      · exact absurd still settled
      · rcases after with ⟨t, _, read, holds⟩ | ⟨none, _⟩
        · refine ⟨t, ?_, holds⟩
          rw [received, stream, read, processed, List.map_append]
        · omega

/-- The fields that only the handlers of the connection and of a read change. -/
def SameInput (d c : RedisClientImpl H) : Prop :=
  d.redisParser = c.redisParser ∧ d.reads = c.reads ∧ d.connecting = c.connecting ∧
    d.received = c.received ∧ d.processed = c.processed

theorem SameInput.write (h : d.SameInput c) : d.write.SameInput c := by
  rw [RedisClientImpl.write]
  split
  · exact h
  · exact h

theorem sameInput_runPosted (run : c.runPosted = some d) : d.SameInput c := by
  rw [runPosted] at run
  split at run
  · cases run
  · obtain rfl := Option.some.inj run
    rw [doAsyncCommand]
    dsimp only
    split
    · exact SameInput.write ⟨rfl, rfl, rfl, rfl, rfl⟩
    · exact ⟨rfl, rfl, rfl, rfl, rfl⟩
  · obtain rfl := Option.some.inj run
    exact ⟨rfl, rfl, rfl, rfl, rfl⟩

theorem sameInput_asyncWrite {ec : Bool} (run : c.asyncWrite ec = some d) : d.SameInput c := by
  rw [asyncWrite] at run
  split at run
  · obtain rfl := Option.some.inj run
    exact ⟨rfl, rfl, rfl, rfl, rfl⟩
  · split at run
    · cases run
    · obtain rfl := Option.some.inj run
      exact SameInput.write ⟨rfl, rfl, rfl, rfl, rfl⟩

theorem sameInput_step {e : ClientEvent H} (connected : ∀ ok, e ≠ .connected ok)
    (read : ∀ ec bytes, e ≠ .read ec bytes) (run : c.step e = some d) : d.SameInput c := by
  cases e with
  | connected ok => exact absurd rfl (connected ok)
  | read ec bytes => exact absurd rfl (read ec bytes)
  | runPosted => exact sameInput_runPosted run
  | transmit i n =>
      rw [step] at run
      split at run
      · obtain ⟨_, run⟩ := Option.ite_none_right_eq_some.mp run
        obtain rfl := Option.some.inj run
        exact ⟨rfl, rfl, rfl, rfl, rfl⟩
      · cases run
  | wrote i ec =>
      rw [step] at run
      split at run
      · obtain ⟨_, run⟩ := Option.ite_none_right_eq_some.mp run
        have same := sameInput_asyncWrite run
        exact same
      · cases run
  | command items f =>
      obtain rfl := Option.some.inj run
      rw [command]
      split <;> exact ⟨rfl, rfl, rfl, rfl, rfl⟩
  | subscribe channel msgHandler f =>
      obtain rfl := Option.some.inj run
      rw [subscribe]
      split <;> exact ⟨rfl, rfl, rfl, rfl, rfl⟩
  | unsubscribe id channel f =>
      obtain rfl := Option.some.inj run
      rw [unsubscribe]
      split <;> exact ⟨rfl, rfl, rfl, rfl, rfl⟩
  | singleShotSubscribe channel msgHandler f =>
      obtain rfl := Option.some.inj run
      rw [singleShotSubscribe]
      split <;> exact ⟨rfl, rfl, rfl, rfl, rfl⟩
  | publish channel msg f =>
      obtain rfl := Option.some.inj run
      rw [publish]
      split <;> exact ⟨rfl, rfl, rfl, rfl, rfl⟩
  | close =>
      obtain rfl := Option.some.inj run
      rw [close]
      split <;> exact ⟨rfl, rfl, rfl, rfl, rfl⟩

/-- The connection is made once. -/
theorem connecting_step {e : ClientEvent H} (other : ∀ ok, e ≠ .connected ok)
    (run : c.step e = some d) : d.connecting = c.connecting := by
  by_cases read : ∃ ec bytes, e = .read ec bytes
  · obtain ⟨ec, bytes, rfl⟩ := read
    obtain ⟨_, run⟩ := Option.ite_none_right_eq_some.mp run
    refine asyncRead_keeps (I := fun d => d.connecting = c.connecting) ?_ ?_ ?_ ?_ ?_ run
    · exact fun _ _ _ same => same
    · exact fun d v same => (doProcessMessage_frame d v).2.2.1.trans same
    · exact fun _ same => same
    · exact fun _ _ same => same
    · rfl
  · have input := sameInput_step other (fun ec bytes same => read ⟨ec, bytes, same⟩) run
    exact input.2.2.1

theorem Listening.of_sameInput (h : c.Listening) (same : d.SameInput c) : d.Listening := by
  obtain ⟨parser, reads, connecting, received, processed⟩ := same
  refine ⟨?_, ?_, ?_, ?_⟩
  · rw [reads]
    exact h.one
  · rw [connecting, reads]
    exact h.first
  · rw [received, processed]
    exact h.replies
  · rw [connecting, reads, received, processed, parser]
    exact h.parser

theorem Listening.step (h : c.Listening) {e : ClientEvent H} (run : c.step e = some d) :
    d.Listening := by
  cases e with
  | connected ok =>
      obtain ⟨connecting, run⟩ := Option.ite_none_right_eq_some.mp run
      obtain rfl := Option.some.inj run
      have none := h.first connecting
      rw [handleAsyncConnect]
      split
      · refine ⟨?_, by rintro ⟨⟩, h.replies, fun _ => h.parser (.inl connecting)⟩
        simp [processMessage, none]
      · refine ⟨h.one, by rintro ⟨⟩, h.replies, ?_⟩
        simp [none]
  | read ec bytes =>
      obtain ⟨⟨reading, _⟩, run⟩ := Option.ite_none_right_eq_some.mp run
      obtain ⟨_, read, result⟩ := h.read reading ec bytes
      obtain rfl := Option.some.inj (read.symm.trans run)
      exact result
  | command => exact h.of_sameInput (sameInput_step (by simp) (by simp) run)
  | subscribe => exact h.of_sameInput (sameInput_step (by simp) (by simp) run)
  | unsubscribe => exact h.of_sameInput (sameInput_step (by simp) (by simp) run)
  | singleShotSubscribe => exact h.of_sameInput (sameInput_step (by simp) (by simp) run)
  | publish => exact h.of_sameInput (sameInput_step (by simp) (by simp) run)
  | runPosted => exact h.of_sameInput (sameInput_step (by simp) (by simp) run)
  | transmit => exact h.of_sameInput (sameInput_step (by simp) (by simp) run)
  | wrote => exact h.of_sameInput (sameInput_step (by simp) (by simp) run)
  | close => exact h.of_sameInput (sameInput_step (by simp) (by simp) run)

theorem listening_of_reachable (reached : (System H).Reachable c) : c.Listening := by
  refine reached.invariant ?_ ?_
  · rintro _ ⟨throws, refuses, rfl⟩
    exact listening_new throws refuses
  · intro _ _ _ _ h run
    exact h.step run

/-! ## Every run -/

/-- A command whose reply comes in two reads. -/
def pingRun : List (ClientEvent Nat) :=
  [.connected true, .command [ascii "PING"] 7, .runPosted, .transmit 0 14, .wrote 0 false,
    .read false (ascii "+PO"), .read false (ascii "NG" ++ crlf)]

theorem exists_ping :
    ∃ c, (System Nat).Reachable c ∧ c.called.map Prod.fst = [7] ∧ c.reads = 1 := by
  have check : ∃ c ∈ Transition.System.runSteps step (new true fun _ => false) pingRun,
      c.called.map Prod.fst = [7] ∧ c.reads = 1 := by
    decide +kernel
  exact Transition.System.reachable_of_check ⟨true, _, rfl⟩ check

/-- Handlers are called in the order in which their commands were given, each with a
value of its own and each once at most. -/
theorem handlers_in_order (reached : (System H).Reachable c) :
    c.called.map Prod.fst <+: c.issued.map Prod.snd ∧
      (c.called.map Prod.snd).Sublist c.processed := by
  have h := pipelined_of_reachable reached
  refine ⟨?_, h.values⟩
  rw [← h.posts, List.map_append, ← h.calls, List.append_assoc]
  exact List.prefix_append _ _

theorem handlers_in_order_ping : ∃ c : RedisClientImpl Nat,
    c.called.map Prod.fst = [7] ∧ c.called.map Prod.fst <+: c.issued.map Prod.snd ∧
      (c.called.map Prod.snd).Sublist c.processed := by
  obtain ⟨c, reached, called, _⟩ := exists_ping
  exact ⟨c, called, handlers_in_order reached⟩

/-- One write at most is outstanding, and the server gets the commands one after another
in the order in which they were given, none of them torn or left out. -/
theorem writes_in_order (reached : (System H).Reachable c) :
    c.writes.length ≤ 1 ∧ c.sent <+: (c.issued.map Prod.fst).flatten := by
  have h := pipelined_of_reachable reached
  obtain ⟨rest, sent, writes⟩ := h.sends
  constructor
  · rcases writes with ⟨one, _⟩ | ⟨none, _⟩
    · rw [one]
      exact Nat.le_refl 1
    · rw [none]
      exact Nat.zero_le 1
  · rw [← h.posts, List.map_append, List.flatten_append, ← sent, List.append_assoc,
      List.append_assoc]
    exact List.prefix_append _ _

theorem writes_in_order_ping : ∃ c : RedisClientImpl Nat,
    c.called.map Prod.fst = [7] ∧ c.writes.length ≤ 1 ∧
      c.sent <+: (c.issued.map Prod.fst).flatten := by
  obtain ⟨c, reached, called, _⟩ := exists_ping
  exact ⟨c, called, writes_in_order reached⟩

/-- The values that are handled are those of the replies at the beginning of what the
server has sent, whatever the reads were. As long as the client reads, no reply that has
arrived is left. -/
theorem replies_in_order (reached : (System H).Reachable c) :
    ∃ front rest, c.received = front ++ rest ∧ Replies c.processed front ∧
      (0 < c.reads → ∀ v reply after, rest = reply ++ after → ¬ Reply v reply) := by
  have h := listening_of_reachable reached
  by_cases reading : 0 < c.reads
  · obtain ⟨s, collected, _⟩ := h.parser (.inr reading)
    obtain ⟨front, rest, split, replies, more⟩ := Partial.collect_eq_iff.mp collected
    refine ⟨front, rest, split, replies, ?_⟩
    rintro _ v reply after rfl accepted
    rw [Partial.feed_eq_stop_iff.mpr ⟨reply, rfl, accepted⟩] at more
    cases more
  · obtain ⟨front, rest, split, replies⟩ := h.replies
    exact ⟨front, rest, split, replies, (absurd · reading)⟩

theorem replies_in_order_ping : ∃ c : RedisClientImpl Nat, c.reads = 1 ∧
    ∃ front rest, c.received = front ++ rest ∧ Replies c.processed front ∧
      (0 < c.reads → ∀ v reply after, rest = reply ++ after → ¬ Reply v reply) := by
  obtain ⟨c, reached, _, reads⟩ := exists_ping
  exact ⟨c, reads, replies_in_order reached⟩

/-! ## What leaves a handler -/

/-- How the handler of a completion ends. -/
inductive Ends (c d : RedisClientImpl H) : Prop
  /-- It returns, and with an error handler that throws there was no error. -/
  | returns (thrown : d.thrown = c.thrown) (errors : c.throws = true → d.errors = c.errors)
  /-- The error handler throws. -/
  | error (throws : c.throws = true) (e : RedisError) (errors : d.errors = c.errors ++ [e])
      (thrown : d.thrown = c.thrown ++ [.error e])
  /-- The parser reserves, for the size in a reply, and `reserve` throws. -/
  | reserve (r : Reserve) (reserved : r ∈ d.redisParser.reserved) (refused : c.refuses r = true)
      (errors : c.throws = true → d.errors = c.errors) (thrown : d.thrown = c.thrown ++ [.reserve])

/-- The client is as it was, as far as exceptions go. -/
structure Unthrown (c d : RedisClientImpl H) : Prop where
  throws : d.throws = c.throws
  refuses : d.refuses = c.refuses
  thrown : d.thrown = c.thrown
  errors : c.throws = true → d.errors = c.errors

theorem Ends.of_unthrown {b : RedisClientImpl H} (before : Unthrown b c) (h : Ends c d) :
    Ends b d := by
  cases h with
  | returns thrown errors =>
      refine .returns (thrown.trans before.thrown) fun throws => ?_
      exact (errors (before.throws.trans throws)).trans (before.errors throws)
  | error throws e errors thrown =>
      have throws := before.throws.symm.trans throws
      refine .error throws e ?_ ?_
      · rw [errors, before.errors throws]
      · rw [thrown, before.thrown]
  | reserve r reserved refused errors thrown =>
      refine .reserve r reserved ?_ (fun throws => ?_) ?_
      · rwa [← before.refuses]
      · exact (errors (before.throws.trans throws)).trans (before.errors throws)
      · rw [thrown, before.thrown]

theorem Unthrown.errorHandler (h : Unthrown c d) (silent : c.throws = false) (e : RedisError) :
    Unthrown c (d.errorHandler e) where
  throws := h.throws
  refuses := h.refuses
  thrown := by
    rw [RedisClientImpl.errorHandler, h.throws, silent]
    exact h.thrown
  errors throws := by cases silent.symm.trans throws

theorem Unthrown.ends_errorHandler (h : Unthrown c d) (e : RedisError) :
    Ends c (d.errorHandler e) := by
  cases throws : c.throws with
  | true =>
      refine .error throws e ?_ ?_
      · rw [RedisClientImpl.errorHandler, h.errors throws]
      · rw [RedisClientImpl.errorHandler, h.throws, throws, h.thrown]
        rfl
  | false =>
      have after := h.errorHandler throws e
      exact .returns after.thrown after.errors

/-- `doProcessMessage` returns, or the error handler throws out of it. -/
theorem doProcessMessage_ends (c : RedisClientImpl H) (v : RedisValue) :
    ((c.doProcessMessage v).2 = false ∧ Unthrown c (c.doProcessMessage v).1) ∨
      (c.doProcessMessage v).2 = true ∧
        ∃ e, (c.doProcessMessage v).1 =
          { c with processed := c.processed ++ [v] }.errorHandler e := by
  rw [doProcessMessage]
  dsimp only
  split
  · split
    · split
      · refine .inl ⟨rfl, ?_⟩
        rw [dispatch]
        dsimp only
        split <;> exact ⟨rfl, rfl, rfl, fun _ => rfl⟩
      · split
        · split
          · exact .inl ⟨rfl, rfl, rfl, rfl, fun _ => rfl⟩
          · exact .inr ⟨rfl, _, rfl⟩
        · exact .inr ⟨rfl, _, rfl⟩
    · exact .inr ⟨rfl, _, rfl⟩
  · split
    · exact .inl ⟨rfl, rfl, rfl, rfl, fun _ => rfl⟩
    · exact .inr ⟨rfl, _, rfl⟩

theorem readLoop_ends {fuel : Nat} {bytes : Bytes} (run : c.readLoop fuel bytes = some d) :
    Ends c d := by
  induction fuel generalizing c bytes with
  | zero => cases run
  | succ fuel ih =>
      rw [readLoop] at run
      split at run
      · obtain rfl := Option.some.inj run
        exact .returns rfl fun _ => rfl
      · split at run
        · cases run
        · next r p _ =>
          split at run
          · next refused =>
            obtain rfl := Option.some.inj run
            obtain ⟨r, reserved, refused⟩ := List.any_eq_true.mp refused
            exact .reserve r reserved refused (fun _ => rfl) rfl
          · cases r with
            | completed =>
                dsimp only at run
                split at run
                · next v q _ =>
                  have handled := doProcessMessage_ends { c with redisParser := q } v
                  generalize { c with redisParser := q }.doProcessMessage v = after at handled run
                  obtain ⟨d', failed⟩ := after
                  dsimp only at handled run
                  obtain ⟨rfl, same⟩ | ⟨rfl, e, rfl⟩ := handled
                  · rw [Bool.false_and, if_neg Bool.false_ne_true] at run
                    exact (ih run).of_unthrown ⟨same.throws, same.refuses, same.thrown, same.errors⟩
                  · have same : Unthrown c
                        { c with redisParser := q, processed := c.processed ++ [v] } :=
                      ⟨rfl, rfl, rfl, fun _ => rfl⟩
                    cases throws : c.throws with
                    | true =>
                        rw [if_pos (by simp [errorHandler, throws])] at run
                        obtain rfl := Option.some.inj run
                        exact same.ends_errorHandler e
                    | false =>
                        rw [if_neg (by simp [errorHandler, throws])] at run
                        exact (ih run).of_unthrown (same.errorHandler throws e)
                · cases run
            | incompleted =>
                obtain rfl := Option.some.inj run
                exact .returns rfl fun _ => rfl
            | error =>
                obtain rfl := Option.some.inj run
                refine Unthrown.ends_errorHandler ?_ _
                exact ⟨rfl, rfl, rfl, fun _ => rfl⟩

theorem asyncRead_ends {ec : Bool} {bytes : Bytes} (run : c.asyncRead ec bytes = some d) :
    Ends c d := by
  rw [asyncRead] at run
  split at run
  · obtain rfl := Option.some.inj run
    exact Unthrown.ends_errorHandler ⟨rfl, rfl, rfl, fun _ => rfl⟩ _
  · exact readLoop_ends run

theorem asyncWrite_ends {ec : Bool} (run : c.asyncWrite ec = some d) : Ends c d := by
  rw [asyncWrite] at run
  split at run
  · obtain rfl := Option.some.inj run
    exact Unthrown.ends_errorHandler ⟨rfl, rfl, rfl, fun _ => rfl⟩ _
  · split at run
    · cases run
    · obtain rfl := Option.some.inj run
      rw [write]
      split <;> exact .returns rfl fun _ => rfl

/-- No assertion fails: whenever an operation completes, its handler runs until it returns,
or until the error handler or a `reserve` of the parser throws. -/
theorem completions_run (reached : (System H).Reachable c) :
    (∀ i ec left, c.writes[i]? = some left → ec = true ∨ left = [] →
        ∃ d, c.step (.wrote i ec) = some d ∧ Ends c d) ∧
      ∀ ec bytes, 0 < c.reads → bytes.length ≤ bufSize →
        ∃ d, c.step (.read ec bytes) = some d ∧ Ends c d := by
  constructor
  · intro i ec left at_ done
    obtain ⟨d, run, _⟩ := (pipelined_of_reachable reached).wrote at_ done
    refine ⟨d, ?_, ?_⟩
    · rw [step, at_]
      dsimp only
      rw [if_pos done]
      exact run
    · refine (asyncWrite_ends run).of_unthrown ?_
      exact ⟨rfl, rfl, rfl, fun _ => rfl⟩
  · intro ec bytes reading short
    obtain ⟨d, run, _⟩ := (listening_of_reachable reached).read reading ec bytes
    refine ⟨d, ?_, ?_⟩
    · rw [step, if_pos ⟨reading, short⟩]
      exact run
    · refine (asyncRead_ends run).of_unthrown ?_
      exact ⟨rfl, rfl, rfl, fun _ => rfl⟩

theorem completions_run_ping : ∃ c : RedisClientImpl Nat, c.reads = 1 ∧
    (∀ i ec left, c.writes[i]? = some left → ec = true ∨ left = [] →
        ∃ d, c.step (.wrote i ec) = some d ∧ Ends c d) ∧
      ∀ ec bytes, 0 < c.reads → bytes.length ≤ bufSize →
        ∃ d, c.step (.read ec bytes) = some d ∧ Ends c d := by
  obtain ⟨c, reached, _, reads⟩ := exists_ping
  exact ⟨c, reads, completions_run reached⟩

end RedisClientImpl

end NatProxy
