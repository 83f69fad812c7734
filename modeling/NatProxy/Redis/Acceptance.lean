import NatProxy.Redis.Grammar
import NatProxy.Redis.Refinement

/-!
# What the parser accepts

The results of `parse` in terms of the grammar, for the bytes of one read, for bytes
that come in two, and for any number of reads, as `doSyncCommand` makes them.
-/

namespace NatProxy

open Memory Transition

namespace RedisParser

variable {p : RedisParser} {s : Partial}

/-- `parse` completes a reply exactly where the grammar ends one. -/
theorem parse_completed_iff {bytes : Bytes} {v : RedisValue} {n : Nat} :
    (∃ p q, new.parse bytes = some (n, .completed, p) ∧ p.result = some (v, q)) ↔
      ∃ front rest, bytes = front ++ rest ∧ front.length = n ∧ Reply v front := by
  constructor
  · rintro ⟨p, q, found, result⟩
    cases fed : Reader.feed Partial.next .new bytes with
    | more t =>
        obtain ⟨_, parsed, _⟩ := parse_of_more holds_new fed
        rw [parsed] at found
        cases found
    | stop r rest =>
        cases r with
        | none =>
            obtain ⟨_, _, parsed, _⟩ := parse_of_error holds_new fed
            rw [parsed] at found
            cases found
        | some w =>
            obtain ⟨_, _, parsed, read, -, _, same, _⟩ := parse_of_value holds_new fed
            rw [parsed] at found
            cases found
            rw [same] at result
            cases result
            obtain ⟨front, split, reply⟩ := Partial.feed_eq_stop_iff.mp fed
            refine ⟨front, rest, split, ?_, reply⟩
            rw [split, List.length_append] at read
            omega
  · rintro ⟨front, rest, rfl, rfl, reply⟩
    have fed : Reader.feed Partial.next .new (front ++ rest) = .stop (some v) rest :=
      Partial.feed_eq_stop_iff.mpr ⟨front, rfl, reply⟩
    obtain ⟨i, p, parsed, read, -, q, result, _⟩ := parse_of_value holds_new fed
    obtain rfl : i = front.length := by
      rw [List.length_append] at read
      omega
    exact ⟨p, q, parsed, result⟩

/-- Bytes that come in two reads are parsed as they would be in one. -/
theorem parse_append (holds : p.Holds s) (xs ys : Bytes) :
    ∃ i r q, p.parse xs = some (i, r, q) ∧
      if r = .incompleted then
        ∃ j r' q' q'', i = xs.length ∧ q.parse ys = some (j, r', q') ∧
          p.parse (xs ++ ys) = some (i + j, r', q'') ∧
          (r' = .completed → q'.result.map Prod.fst = q''.result.map Prod.fst)
      else
        ∃ q', p.parse (xs ++ ys) = some (i, r, q') ∧
          (r = .completed → q.result.map Prod.fst = q'.result.map Prod.fst) := by
  cases fed : Reader.feed Partial.next s xs with
  | more t =>
      obtain ⟨q, first, held⟩ := parse_of_more holds fed
      refine ⟨_, _, q, first, ?_⟩
      rw [if_pos rfl]
      have all := Reader.feed_append_of_more fed ys
      cases later : Reader.feed Partial.next t ys with
      | more u =>
          obtain ⟨q', second, _⟩ := parse_of_more held later
          obtain ⟨q'', whole, _⟩ := parse_of_more holds (all.trans later)
          rw [List.length_append] at whole
          exact ⟨_, _, q', q'', rfl, second, whole, by rintro ⟨⟩⟩
      | stop r rest =>
          cases r with
          | none =>
              obtain ⟨j, q', second, read⟩ := parse_of_error held later
              obtain ⟨k, q'', whole, together⟩ := parse_of_error holds (all.trans later)
              obtain rfl : k = xs.length + j := by
                rw [List.length_append] at together
                omega
              exact ⟨j, _, q', q'', rfl, second, whole, by rintro ⟨⟩⟩
          | some v =>
              obtain ⟨j, q', second, read, -, _, value, _⟩ := parse_of_value held later
              obtain ⟨k, q'', whole, together, -, _, same, _⟩ :=
                parse_of_value holds (all.trans later)
              obtain rfl : k = xs.length + j := by
                rw [List.length_append] at together
                omega
              exact ⟨j, _, q', q'', rfl, second, whole, fun _ => by rw [value, same]; rfl⟩
  | stop r rest =>
      have all := Reader.feed_append_of_stop fed ys
      cases r with
      | none =>
          obtain ⟨i, q, first, read⟩ := parse_of_error holds fed
          obtain ⟨k, q', whole, together⟩ := parse_of_error holds all
          obtain rfl : k = i := by
            rw [List.length_append, List.length_append] at together
            omega
          exact ⟨k, _, q, first, by rw [if_neg (by simp)]; exact ⟨q', whole, by rintro ⟨⟩⟩⟩
      | some v =>
          obtain ⟨i, q, first, read, -, _, value, _⟩ := parse_of_value holds fed
          obtain ⟨k, q', whole, together, -, _, same, _⟩ := parse_of_value holds all
          obtain rfl : k = i := by
            rw [List.length_append, List.length_append] at together
            omega
          refine ⟨k, _, q, first, ?_⟩
          rw [if_neg (by simp)]
          exact ⟨q', whole, fun _ => by rw [value, same]; rfl⟩

/-- A bulk string that is cut inside its length. -/
theorem parse_append_bulk : ∃ i r q, RedisParser.new.parse [0x24, 0x31] = some (i, r, q) ∧
    if r = .incompleted then
      ∃ j r' q' q'', i = 2 ∧ q.parse [0x31, CR] = some (j, r', q') ∧
        RedisParser.new.parse [0x24, 0x31, 0x31, CR] = some (i + j, r', q'') ∧
        (r' = .completed → q'.result.map Prod.fst = q''.result.map Prod.fst)
    else
      ∃ q', RedisParser.new.parse [0x24, 0x31, 0x31, CR] = some (i, r, q') ∧
        (r = .completed → q.result.map Prod.fst = q'.result.map Prod.fst) :=
  parse_append holds_new [0x24, 0x31] [0x31, CR]

end RedisParser

/-- What a synchronous command comes to. -/
inductive SyncReply
  | value (v : RedisValue)
  /-- `errorHandler("[RedisClient] Parser error")` -/
  | parserError
  /-- It waits in `read_some`. -/
  | reading

/-- The loop of `doSyncCommand` over the bytes of a read, fewer than `fuel`. What follows
a reply in the same read is not looked at. -/
def syncLoop : Nat → RedisParser → Bytes → Option (SyncReply × RedisParser)
  | 0, _, _ => none
  | fuel + 1, p, bytes =>
      if bytes = [] then some (.reading, p)
      else
        match p.parse bytes with
        | some (_, .completed, p) => p.result.map fun (v, p) => (.value v, p)
        | some (first, .incompleted, p) => syncLoop fuel p (bytes.drop first)
        | some (_, .error, p) => some (.parserError, p)
        | none => none

/-- `doSyncCommand`, when the command has been written, with what its reads bring. -/
def doSyncCommand (p : RedisParser) : List Bytes → Option (SyncReply × RedisParser)
  | [] => some (.reading, p)
  | bytes :: reads =>
      match syncLoop (bytes.length + 1) p bytes with
      | some (.reading, p) => doSyncCommand p reads
      | done => done

section

variable {p : RedisParser} {s t : Partial}

theorem syncLoop_of_more (holds : p.Holds s) {bytes : Bytes}
    (fed : Reader.feed Partial.next s bytes = .more t) :
    ∃ q, syncLoop (bytes.length + 1) p bytes = some (.reading, q) ∧ q.Holds t := by
  cases bytes with
  | nil =>
      obtain rfl := Fed.more.inj fed
      exact ⟨p, rfl, holds⟩
  | cons c bytes =>
      obtain ⟨q, parsed, held⟩ := RedisParser.parse_of_more holds fed
      refine ⟨q, ?_, held⟩
      rw [syncLoop, if_neg (List.cons_ne_nil _ _), parsed, List.length_cons]
      dsimp only
      rw [syncLoop, ← List.length_cons, List.drop_length, if_pos rfl]

/-- A reply that comes in any number of reads. -/
theorem doSyncCommand_of_value (holds : p.Holds s) {v : RedisValue} {rest : Bytes}
    {reads : List Bytes} (fed : Reader.feed Partial.next s reads.flatten = .stop (some v) rest) :
    ∃ q, doSyncCommand p reads = some (.value v, q) ∧ q.Holds .new := by
  induction reads generalizing p s with
  | nil => cases fed
  | cons bytes reads ih =>
      rw [List.flatten_cons] at fed
      rw [doSyncCommand]
      cases first : Reader.feed Partial.next s bytes with
      | more t =>
          rw [Reader.feed_append_of_more first] at fed
          obtain ⟨q, loop, held⟩ := syncLoop_of_more holds first
          rw [loop]
          exact ih held fed
      | stop r after =>
          rw [Reader.feed_append_of_stop first] at fed
          obtain ⟨rfl, rfl⟩ := Fed.stop.inj fed
          have some : bytes ≠ [] := by
            rintro rfl
            cases first
          obtain ⟨i, p', parsed, _, _, q, result, held⟩ := RedisParser.parse_of_value holds first
          refine ⟨q, ?_, held⟩
          rw [syncLoop, if_neg some, parsed]
          dsimp only
          rw [result]
          rfl

end

/-- One command after another. -/
def doSyncCommands : RedisParser → List (List Bytes) → Option (List SyncReply)
  | _, [] => some []
  | p, reads :: others =>
      match doSyncCommand p reads with
      | some (r, p) => (doSyncCommands p others).map fun rs => r :: rs
      | none => none

/-- If the reads of each command bring its reply, each command returns the value of its
reply, wherever the reads cut it. -/
theorem doSyncCommands_replies {values : List RedisValue} {reads : List (List Bytes)}
    (replies : List.Forall₂ (fun v read => Reply v read.flatten) values reads) :
    doSyncCommands .new reads = some (values.map .value) := by
  have all : ∀ p : RedisParser, p.Holds .new →
      doSyncCommands p reads = some (values.map .value) := by
    induction replies with
    | nil => intros; rfl
    | @cons v read values reads reply _ ih =>
        intro p holds
        have fed : Reader.feed Partial.next .new read.flatten = .stop (some v) [] :=
          Partial.feed_eq_stop_iff.mpr ⟨_, (List.append_nil _).symm, reply⟩
        obtain ⟨q, command, held⟩ := doSyncCommand_of_value holds fed
        rw [doSyncCommands, command]
        dsimp only
        rw [ih q held]
        rfl
  exact all .new RedisParser.holds_new

/-- Two commands, the reply to the first one in two reads. -/
theorem doSyncCommands_replies_two :
    doSyncCommands .new [[[0x2B, 0x4F], [0x4B, CR, LF]], [[0x3A, 0x37, CR, LF]]] =
      some [.value (.string [0x4F, 0x4B] false), .value (.int 7)] := by
  have ok : Reply (.string [0x4F, 0x4B] false) [0x2B, 0x4F, 0x4B, CR, LF] :=
    .string ⟨List.all_eq_true.mp (by decide), by decide⟩
  have seven : Reply (.int 7) [0x3A, 0x37, CR, LF] :=
    @Reply.integer [0x37] ⟨List.all_eq_true.mp (by decide), by decide⟩
  exact doSyncCommands_replies (.cons ok (.cons seven .nil))

end NatProxy
