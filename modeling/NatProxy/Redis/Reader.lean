import NatProxy.Redis.Parser
import NatProxy.Transition.Reader

/-!
# Reading a reply byte by byte

What the parser is for: a reader of one byte at a time, which has the arrays that are
open around the current element in a list, the innermost first. `parse` goes through
the bytes of a read exactly as this reader does, however many of them there are, so
that the replies that are found do not depend on how the stream is cut into reads.
-/

namespace NatProxy

open Memory Transition

/-- What the first character of an element announces. -/
inductive ReplyKind
  | string
  | error
  | integer
  | bulk
  | array
  deriving DecidableEq, Repr

namespace ReplyKind

def ofChar (c : UInt8) : Option ReplyKind :=
  if c = stringReply then some .string
  else if c = errorReply then some .error
  else if c = integerReply then some .integer
  else if c = bulkReply then some .bulk
  else if c = arrayReply then some .array
  else none

/-- The line of a string may hold any printable text, the other ones a number. -/
def isText : ReplyKind → Bool
  | .string | .error => true
  | _ => false

/-- The characters of the line. -/
def accepts (k : ReplyKind) (c : UInt8) : Bool :=
  if k.isText then isChar c && !isControl c else isDigit c || c == MINUS

end ReplyKind

/-- Inside one element. -/
inductive Lexer
  | start
  | line (k : ReplyKind) (buf : Bytes)
  | lineEnd (k : ReplyKind) (buf : Bytes)
  | bulk (buf : Bytes) (missing : Nat)
  | bulkCR (buf : Bytes)
  | bulkLF (buf : Bytes)

/-- What a byte brings. -/
inductive Token
  | more (l : Lexer)
  | value (v : RedisValue)
  /-- The elements of an array follow. -/
  | elements (n : Nat)
  | error

/-- The end of the first line of an element. -/
def ReplyKind.finish (k : ReplyKind) (buf : Bytes) : Token :=
  match k with
  | .string => .value (.string buf false)
  | .error => .value (.string buf true)
  | .integer => .value (.int (strtol buf))
  | .bulk =>
      if strtol buf = -1 then .value .null
      else if strtol buf < 0 then .error
      else if strtol buf = 0 then .more (.bulkCR [])
      else .more (.bulk [] (strtol buf).toNat)
  | .array =>
      if strtol buf = -1 ∨ strtol buf = 0 then .value (.array [])
      else if strtol buf < 0 then .error
      else .elements (strtol buf).toNat

def Lexer.read (l : Lexer) (c : UInt8) : Token :=
  match l with
  | .start =>
      match ReplyKind.ofChar c with
      | some k => .more (.line k [])
      | none => .error
  | .line k buf =>
      if c = CR then
        if k.isText = false ∧ buf = [] then .error else .more (.lineEnd k buf)
      else if k.accepts c then .more (.line k (buf ++ [c]))
      else .error
  | .lineEnd k buf => if c = LF then k.finish buf else .error
  | .bulk buf missing =>
      if missing ≤ 1 then .more (.bulkCR (buf ++ [c])) else .more (.bulk (buf ++ [c]) (missing - 1))
  | .bulkCR buf => if c = CR then .more (.bulkLF buf) else .error
  | .bulkLF buf => if c = LF then .value (.string buf false) else .error

/-- An open array: its elements so far, and how many it still lacks. -/
structure OpenArray where
  items : List RedisValue
  missing : Nat

/-- A reply of which a part has been read. -/
structure Partial where
  lexer : Lexer
  frames : List OpenArray

namespace Partial

/-- Nothing has been read. -/
def new : Partial := ⟨.start, []⟩

/-- A value ends the reply, or is the next element of the innermost array. A reply that
is no reply is `none`. -/
def deliver : RedisValue → List OpenArray → Reading Partial (Option RedisValue)
  | v, [] => .stop (some v)
  | v, f :: frames =>
      if f.missing ≤ 1 then deliver (.array (f.items ++ [v])) frames
      else .more ⟨.start, ⟨f.items ++ [v], f.missing - 1⟩ :: frames⟩

def next (s : Partial) (c : UInt8) : Reading Partial (Option RedisValue) :=
  match s.lexer.read c with
  | .more lexer => .more { s with lexer }
  | .value v => deliver v s.frames
  | .elements n => .more ⟨.start, ⟨[], n⟩ :: s.frames⟩
  | .error => .stop none

/-- Go on inside more open arrays. -/
def within (outer : List OpenArray) : Reading Partial (Option RedisValue) →
    Reading Partial (Option RedisValue)
  | .more s => .more { s with frames := s.frames ++ outer }
  | .stop (some v) => deliver v outer
  | .stop none => .stop none

theorem deliver_append (v : RedisValue) (frames outer : List OpenArray) :
    deliver v (frames ++ outer) = within outer (deliver v frames) := by
  induction frames generalizing v with
  | nil => rfl
  | cons f frames ih =>
      rw [List.cons_append, deliver, deliver]
      split
      · exact ih _
      · rfl

theorem next_append (l : Lexer) (frames outer : List OpenArray) (c : UInt8) :
    next ⟨l, frames ++ outer⟩ c = within outer (next ⟨l, frames⟩ c) := by
  rw [next, next]
  cases l.read c with
  | more l' => rfl
  | value v => exact deliver_append v frames outer
  | elements n => rfl
  | error => rfl

/-- The bytes of a reply inside an array are read as they are on their own. -/
theorem feed_append_frames (l : Lexer) (frames outer : List OpenArray) (bytes : Bytes) :
    Reader.feed next ⟨l, frames ++ outer⟩ bytes =
      match Reader.feed next ⟨l, frames⟩ bytes with
      | .more s => .more { s with frames := s.frames ++ outer }
      | .stop (some v) rest => Reader.resume next (deliver v outer) rest
      | .stop none rest => .stop none rest := by
  induction bytes generalizing l frames with
  | nil => rfl
  | cons c bytes ih =>
      rw [Reader.feed_cons, Reader.feed_cons, next_append]
      cases next ⟨l, frames⟩ c with
      | more s => exact ih s.lexer s.frames
      | stop r =>
          cases r with
          | some v => rfl
          | none => rfl

/-- The middle of a bulk. -/
theorem feed_bulk_of_lt {buf : Bytes} {missing : Nat} {frames : List OpenArray} {bytes : Bytes}
    (short : bytes.length < missing) :
    Reader.feed next ⟨.bulk buf missing, frames⟩ bytes =
      .more ⟨.bulk (buf ++ bytes) (missing - bytes.length), frames⟩ := by
  induction bytes generalizing buf missing with
  | nil => simp
  | cons c bytes ih =>
      rw [List.length_cons] at short
      have step : next ⟨.bulk buf missing, frames⟩ c =
          .more ⟨.bulk (buf ++ [c]) (missing - 1), frames⟩ := by
        rw [next, Lexer.read, if_neg (by omega)]
      rw [Reader.feed_cons_more step, ih (by omega), List.append_assoc, List.length_cons,
        List.singleton_append, Nat.sub_sub, Nat.add_comm 1]

/-- A whole bulk. -/
theorem feed_bulk (buf : Bytes) (frames : List OpenArray) {bytes : Bytes} (some : bytes ≠ [])
    (rest : Bytes) :
    Reader.feed next ⟨.bulk buf bytes.length, frames⟩ (bytes ++ rest) =
      Reader.feed next ⟨.bulkCR (buf ++ bytes), frames⟩ rest := by
  obtain ⟨front, last, rfl⟩ := List.eq_nil_or_concat bytes |>.resolve_left some
  have last_step : next ⟨.bulk (buf ++ front) 1, frames⟩ last =
      .more ⟨.bulkCR (buf ++ front ++ [last]), frames⟩ := by
    rw [next, Lexer.read, if_pos (Nat.le_refl 1)]
  rw [List.concat_eq_append, List.append_assoc, List.length_append, List.length_singleton,
    Reader.feed_append_of_more (feed_bulk_of_lt (by omega)), Nat.add_sub_cancel_left,
    List.singleton_append, Reader.feed_cons_more last_step, List.append_assoc]

/-- The bytes of a bulk, as many of them as there are. -/
theorem feed_bulk_eq {buf : Bytes} {missing : Nat} {frames : List OpenArray}
    (positive : 0 < missing) (bytes : Bytes) :
    Reader.feed next ⟨.bulk buf missing, frames⟩ bytes =
      if bytes.length < missing then
        .more ⟨.bulk (buf ++ bytes) (missing - bytes.length), frames⟩
      else Reader.feed next ⟨.bulkCR (buf ++ bytes.take missing), frames⟩ (bytes.drop missing) := by
  split
  · next short => exact feed_bulk_of_lt short
  · next long =>
    have length : (bytes.take missing).length = missing := by
      rw [List.length_take]
      omega
    have some : bytes.take missing ≠ [] := by
      rintro none
      rw [none] at length
      exact absurd length (by simp; omega)
    have whole := feed_bulk buf frames some (bytes.drop missing)
    rwa [length, List.take_append_drop] at whole

end Partial

end NatProxy
