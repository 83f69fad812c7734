import NatProxy.Redis.Reader

/-!
# The grammar of replies

`Reply v bytes` says that `bytes` is a reply with the value `v`, without saying how it is
read. The byte reader stops with a value exactly at the end of a reply, wherever the
bytes come from, so no reply is the beginning of another one.
-/

namespace NatProxy

open Memory Transition

namespace ReplyKind

/-- The character that announces the kind. -/
def char : ReplyKind → UInt8
  | .string => stringReply
  | .error => errorReply
  | .integer => integerReply
  | .bulk => bulkReply
  | .array => arrayReply

@[simp] theorem ofChar_char (k : ReplyKind) : ofChar k.char = some k := by
  cases k <;> rfl

theorem eq_char_of_ofChar {k : ReplyKind} {c : UInt8} (kind : ofChar c = some k) : c = k.char := by
  rw [ofChar] at kind
  split at kind
  · next same => cases kind; exact same
  · split at kind
    · next same => cases kind; exact same
    · split at kind
      · next same => cases kind; exact same
      · split at kind
        · next same => cases kind; exact same
        · split at kind
          · next same => cases kind; exact same
          · cases kind

/-- A number is made of digits and minus signs, one of them at least, and stands for what
`strtol` reads of it, so that a lone minus is 0. A text may be empty. -/
structure Valid (k : ReplyKind) (text : Bytes) : Prop where
  accepts : ∀ c ∈ text, k.accepts c = true
  some : k.isText = false → text ≠ []

/-- The first line of an element. -/
def line (k : ReplyKind) (text : Bytes) : Bytes := k.char :: text ++ [CR, LF]

theorem ne_CR_of_accepts {k : ReplyKind} {c : UInt8} (ok : k.accepts c = true) : c ≠ CR := by
  rintro rfl
  cases k <;> cases ok

end ReplyKind

mutual

/-- A reply with a value. -/
inductive Reply : RedisValue → Bytes → Prop
  | string {text : Bytes} : ReplyKind.string.Valid text →
      Reply (.string text false) (ReplyKind.string.line text)
  | error {text : Bytes} : ReplyKind.error.Valid text →
      Reply (.string text true) (ReplyKind.error.line text)
  | integer {text : Bytes} : ReplyKind.integer.Valid text →
      Reply (.int (strtol text)) (ReplyKind.integer.line text)
  | null {text : Bytes} : ReplyKind.bulk.Valid text → strtol text = -1 →
      Reply .null (ReplyKind.bulk.line text)
  | bulk {text buf : Bytes} : ReplyKind.bulk.Valid text → strtol text = buf.length →
      Reply (.string buf false) (ReplyKind.bulk.line text ++ (buf ++ [CR, LF]))
  | nullArray {text : Bytes} : ReplyKind.array.Valid text → strtol text = -1 →
      Reply (.array []) (ReplyKind.array.line text)
  | array {text : Bytes} {items : List RedisValue} {bytes : Bytes} :
      ReplyKind.array.Valid text → strtol text = items.length → Replies items bytes →
      Reply (.array items) (ReplyKind.array.line text ++ bytes)

/-- One reply after another. -/
inductive Replies : List RedisValue → Bytes → Prop
  | nil : Replies [] []
  | cons {v : RedisValue} {items : List RedisValue} {bytes rest : Bytes} :
      Reply v bytes → Replies items rest → Replies (v :: items) (bytes ++ rest)

end

namespace Partial

variable {v : RedisValue} {items : List RedisValue} {frames : List OpenArray} {bytes rest : Bytes}
  {k : ReplyKind} {text : Bytes}

/-! ## Every reply is read -/

theorem feed_text {read : Bytes} (valid : ∀ c ∈ text, k.accepts c = true) (rest : Bytes) :
    Reader.feed next ⟨.line k read, frames⟩ (text ++ rest) =
      Reader.feed next ⟨.line k (read ++ text), frames⟩ rest := by
  induction text generalizing read with
  | nil => rw [List.nil_append, List.append_nil]
  | cons c text ih =>
      have ok : k.accepts c = true := valid c (by simp)
      have step : next ⟨.line k read, frames⟩ c = .more ⟨.line k (read ++ [c]), frames⟩ := by
        rw [next, Lexer.read, if_neg (ReplyKind.ne_CR_of_accepts ok), if_pos ok]
      rw [List.cons_append, Reader.feed_cons_more step,
        ih fun d mem => valid d (List.mem_cons_of_mem c mem), List.append_assoc,
        List.singleton_append]

/-- The first line of an element, up to its last character. -/
theorem feed_line (valid : k.Valid text) (frames : List OpenArray) (rest : Bytes) :
    Reader.feed next ⟨.start, frames⟩ (k.line text ++ rest) =
      Reader.resume next (next ⟨.lineEnd k text, frames⟩ LF) rest := by
  have first : next ⟨.start, frames⟩ k.char = .more ⟨.line k [], frames⟩ := by
    rw [next, Lexer.read, ReplyKind.ofChar_char]
  have cr : next ⟨.line k text, frames⟩ CR = .more ⟨.lineEnd k text, frames⟩ := by
    rw [next, Lexer.read, if_pos rfl, if_neg fun none => valid.some none.1 none.2]
  have split : k.line text ++ rest = k.char :: (text ++ (CR :: LF :: rest)) := by
    simp [ReplyKind.line]
  rw [split, Reader.feed_cons_more first, feed_text valid.accepts, List.nil_append,
    Reader.feed_cons_more cr, Reader.feed_cons]

/-- A line that is all of its element. -/
theorem feed_line_value (valid : k.Valid text) (value : k.finish text = .value v)
    (frames : List OpenArray) (rest : Bytes) :
    Reader.feed next ⟨.start, frames⟩ (k.line text ++ rest) =
      Reader.resume next (deliver v frames) rest := by
  rw [feed_line valid, next, Lexer.read, if_pos rfl, value]

theorem feed_bulk_end (buf : Bytes) (frames : List OpenArray) (rest : Bytes) :
    Reader.feed next ⟨.bulkCR buf, frames⟩ ([CR, LF] ++ rest) =
      Reader.resume next (deliver (.string buf false) frames) rest := by
  have cr : next ⟨.bulkCR buf, frames⟩ CR = .more ⟨.bulkLF buf, frames⟩ := by
    rw [next, Lexer.read, if_pos rfl]
  rw [List.cons_append, Reader.feed_cons_more cr, List.cons_append, Reader.feed_cons, next,
    Lexer.read, if_pos rfl]
  rfl

theorem feed_bulk_reply {buf : Bytes} (valid : ReplyKind.bulk.Valid text)
    (size : strtol text = buf.length) (frames : List OpenArray) (rest : Bytes) :
    Reader.feed next ⟨.start, frames⟩ (ReplyKind.bulk.line text ++ (buf ++ [CR, LF]) ++ rest) =
      Reader.resume next (deliver (.string buf false) frames) rest := by
  rw [List.append_assoc, feed_line valid, next, Lexer.read, if_pos rfl, ReplyKind.finish,
    if_neg (by omega), if_neg (by omega), List.append_assoc]
  cases buf with
  | nil =>
      rw [if_pos (by simpa using size)]
      exact feed_bulk_end [] frames rest
  | cons c buf =>
      rw [if_neg (by simp at size; omega), size, Int.toNat_natCast]
      exact (feed_bulk [] frames (by simp) _).trans (feed_bulk_end (c :: buf) frames rest)

mutual

theorem feed_reply {v : RedisValue} {bytes : Bytes} (reply : Reply v bytes)
    (frames : List OpenArray) (rest : Bytes) :
    Reader.feed next ⟨.start, frames⟩ (bytes ++ rest) =
      Reader.resume next (deliver v frames) rest := by
  cases reply with
  | string valid => exact feed_line_value valid rfl frames rest
  | error valid => exact feed_line_value valid rfl frames rest
  | integer valid => exact feed_line_value valid rfl frames rest
  | null valid size =>
      exact feed_line_value valid (by rw [ReplyKind.finish, if_pos size]) frames rest
  | bulk valid size => exact feed_bulk_reply valid size frames rest
  | nullArray valid size =>
      exact feed_line_value valid (by rw [ReplyKind.finish, if_pos (.inl size)]) frames rest
  | @array _ items _ valid size replies =>
      by_cases empty : items = []
      · subst empty
        cases replies with
        | nil =>
            rw [List.append_nil]
            exact feed_line_value valid (by rw [ReplyKind.finish, if_pos (.inr size)]) frames rest
      · have positive := List.length_pos_of_ne_nil empty
        rw [List.append_assoc, feed_line valid, next, Lexer.read, if_pos rfl, ReplyKind.finish,
          if_neg (by omega), if_neg (by omega), size, Int.toNat_natCast]
        exact feed_replies replies empty [] frames rest

/-- The elements that an open array still lacks. -/
theorem feed_replies {items : List RedisValue} {bytes : Bytes} (replies : Replies items bytes)
    (some : items ≠ []) (read : List RedisValue) (frames : List OpenArray) (rest : Bytes) :
    Reader.feed next ⟨.start, ⟨read, items.length⟩ :: frames⟩ (bytes ++ rest) =
      Reader.resume next (deliver (.array (read ++ items)) frames) rest := by
  cases replies with
  | nil => exact absurd rfl some
  | @cons v items bytes after reply replies =>
      rw [List.append_assoc, feed_reply reply, deliver]
      by_cases last : items = []
      · subst last
        cases replies with
        | nil => rw [if_pos (by simp), List.nil_append]
      · have positive := List.length_pos_of_ne_nil last
        rw [if_neg (by simp; omega), List.length_cons, Nat.add_sub_cancel, Reader.resume,
          feed_replies replies last, List.append_assoc, List.singleton_append]

end

end Partial

/-! ## Whatever is read is a reply -/

theorem Replies.append_singleton {items : List RedisValue} {bytes last : Bytes} {v : RedisValue}
    (replies : Replies items bytes) (reply : Reply v last) :
    Replies (items ++ [v]) (bytes ++ last) := by
  induction items generalizing bytes with
  | nil =>
      cases replies with
      | nil => simpa using Replies.cons reply .nil
  | cons w items ih =>
      cases replies with
      | cons first replies =>
          rw [List.append_assoc]
          exact .cons first (ih replies)

/-- The bytes of an element that its reader has read. -/
def Lexer.Read : Lexer → Bytes → Prop
  | .start, bytes => bytes = []
  | .line k text, bytes => (∀ c ∈ text, k.accepts c = true) ∧ bytes = k.char :: text
  | .lineEnd k text, bytes => k.Valid text ∧ bytes = k.char :: text ++ [CR]
  | .bulk buf missing, bytes => ∃ text, ReplyKind.bulk.Valid text ∧ 0 < missing ∧
      strtol text = buf.length + missing ∧ bytes = ReplyKind.bulk.line text ++ buf
  | .bulkCR buf, bytes => ∃ text, ReplyKind.bulk.Valid text ∧
      strtol text = buf.length ∧ bytes = ReplyKind.bulk.line text ++ buf
  | .bulkLF buf, bytes => ∃ text, ReplyKind.bulk.Valid text ∧
      strtol text = buf.length ∧ bytes = ReplyKind.bulk.line text ++ (buf ++ [CR])

/-- What a byte brings is right if `bytes` is the element with it. -/
def Token.Read : Token → Bytes → Prop
  | .more l, bytes => l.Read bytes
  | .value v, bytes => Reply v bytes
  | .elements n, bytes => ∃ text, ReplyKind.array.Valid text ∧ 0 < n ∧ strtol text = n ∧
      bytes = ReplyKind.array.line text
  | .error, _ => True

theorem ReplyKind.read_finish {k : ReplyKind} {text : Bytes} (valid : k.Valid text) :
    (k.finish text).Read (k.line text) := by
  cases k with
  | string => exact .string valid
  | error => exact .error valid
  | integer => exact .integer valid
  | bulk =>
      rw [finish]
      split
      · next null => exact Reply.null valid null
      · split
        · trivial
        · split
          · next zero => exact ⟨text, valid, zero, (List.append_nil _).symm⟩
          · next some =>
            refine ⟨text, valid, by omega, ?_, (List.append_nil _).symm⟩
            rw [List.length_nil]
            omega
  | array =>
      rw [finish]
      split
      · next empty =>
        rcases empty with null | zero
        · exact Reply.nullArray valid null
        · have count : strtol text = ([] : List RedisValue).length := zero
          simpa [Token.Read] using Reply.array valid count .nil
      · split
        · trivial
        · next some => exact ⟨text, valid, by omega, by omega, rfl⟩

theorem Lexer.read_read {l : Lexer} {bytes : Bytes} (read : l.Read bytes) (c : UInt8) :
    (l.read c).Read (bytes ++ [c]) := by
  cases l with
  | start =>
      obtain rfl : bytes = [] := read
      rw [Lexer.read]
      split
      · next k kind =>
        obtain rfl := ReplyKind.eq_char_of_ofChar kind
        exact ⟨by simp, rfl⟩
      · trivial
  | line k text =>
      obtain ⟨accepted, rfl⟩ := read
      rw [Lexer.read]
      split
      · next cr =>
        split
        · trivial
        · next some =>
          subst cr
          exact ⟨⟨accepted, fun number none => some ⟨number, none⟩⟩, rfl⟩
      · split
        · next ok =>
          refine ⟨?_, rfl⟩
          intro d mem
          rcases List.mem_append.mp mem with old | new
          · exact accepted d old
          · obtain rfl := List.mem_singleton.mp new
            exact ok
        · trivial
  | lineEnd k text =>
      obtain ⟨valid, rfl⟩ := read
      rw [Lexer.read]
      split
      · next lf =>
        subst lf
        simpa [ReplyKind.line] using ReplyKind.read_finish valid
      · trivial
  | bulk buf missing =>
      obtain ⟨text, valid, positive, size, rfl⟩ := read
      rw [Lexer.read]
      split
      · refine ⟨text, valid, ?_, List.append_assoc _ _ _⟩
        rw [List.length_append, List.length_singleton]
        omega
      · refine ⟨text, valid, by omega, ?_, List.append_assoc _ _ _⟩
        rw [List.length_append, List.length_singleton]
        omega
  | bulkCR buf =>
      obtain ⟨text, valid, size, rfl⟩ := read
      rw [Lexer.read]
      split
      · next cr =>
        subst cr
        exact ⟨text, valid, size, List.append_assoc _ _ _⟩
      · trivial
  | bulkLF buf =>
      obtain ⟨text, valid, size, rfl⟩ := read
      rw [Lexer.read]
      split
      · next lf =>
        subst lf
        simpa [Token.Read] using Reply.bulk valid size
      · trivial

/-- The bytes before the current element, of the arrays that are open around it. -/
inductive Opened : List OpenArray → Bytes → Prop
  | nil : Opened [] []
  | cons {f : OpenArray} {frames : List OpenArray} {before text bytes : Bytes} :
      Opened frames before → ReplyKind.array.Valid text →
      strtol text = f.items.length + f.missing → 0 < f.missing → Replies f.items bytes →
      Opened (f :: frames) (before ++ (ReplyKind.array.line text ++ bytes))

namespace Partial

/-- What has been read. -/
def Read (s : Partial) (bytes : Bytes) : Prop :=
  ∃ before element, bytes = before ++ element ∧ Opened s.frames before ∧ s.lexer.Read element

theorem read_new : new.Read [] := ⟨[], [], rfl, .nil, rfl⟩

/-- What comes of the bytes is right. -/
def Explains (bytes : Bytes) : Reading Partial (Option RedisValue) → Prop
  | .more s => s.Read bytes
  | .stop (some v) => Reply v bytes
  | .stop none => True

theorem explains_deliver {v : RedisValue} {frames : List OpenArray} {before bytes : Bytes}
    (opened : Opened frames before) (reply : Reply v bytes) :
    Explains (before ++ bytes) (deliver v frames) := by
  induction opened generalizing v bytes with
  | nil => exact reply
  | @cons f frames before text inner opened valid size positive replies ih =>
      have replies := replies.append_singleton reply
      rw [deliver]
      split
      · next last =>
        have count : strtol text = (f.items ++ [v]).length := by
          rw [List.length_append, List.length_singleton]
          omega
        have := ih (Reply.array valid count replies)
        simpa only [List.append_assoc] using this
      · refine ⟨_, [], (List.append_nil _).symm, ?_, rfl⟩
        have : Opened (⟨f.items ++ [v], f.missing - 1⟩ :: frames)
            (before ++ (ReplyKind.array.line text ++ (inner ++ bytes))) :=
          .cons opened valid (by simp; omega) (by simp; omega) replies
        simpa only [List.append_assoc] using this

theorem explains_next {s : Partial} {bytes : Bytes} (read : s.Read bytes) (c : UInt8) :
    Explains (bytes ++ [c]) (next s c) := by
  obtain ⟨before, element, rfl, opened, read⟩ := read
  have read := Lexer.read_read read c
  rw [next, List.append_assoc]
  cases token : s.lexer.read c with
  | more l =>
      rw [token] at read
      exact ⟨before, element ++ [c], rfl, opened, read⟩
  | value v =>
      rw [token] at read
      exact explains_deliver opened read
  | elements n =>
      rw [token] at read
      obtain ⟨text, valid, positive, size, line⟩ := read
      rw [line]
      refine ⟨_, [], (List.append_nil _).symm, ?_, rfl⟩
      simpa using Opened.cons (f := ⟨[], n⟩) opened valid (by simpa using size) positive .nil
  | error => trivial

/-- The reader stops with a value at the end of a reply with that value, and nowhere else. -/
theorem feed_eq_stop_iff {v : RedisValue} {bytes rest : Bytes} :
    Reader.feed next new bytes = .stop (some v) rest ↔
      ∃ front, bytes = front ++ rest ∧ Reply v front := by
  constructor
  · intro stops
    have keep : ∀ s c t read, s.Read read → next s c = .more t → t.Read (read ++ [c]) := by
      intro s c t read hs step
      have := explains_next hs c
      rwa [step] at this
    obtain ⟨-, atEnd⟩ := Reader.feed_invariant keep read_new
    obtain ⟨t, c, before, rfl, read, last⟩ := atEnd _ _ stops
    have reply := explains_next read c
    rw [last] at reply
    exact ⟨before ++ [c], by simp, reply⟩
  · rintro ⟨front, rfl, reply⟩
    exact feed_reply reply [] rest

/-- The first results, if they are values, are those of replies. -/
theorem exists_replies_of_isPrefix {items : List RedisValue} {bytes : Bytes}
    (found : items.map some <+: (Reader.collect next new new bytes).1) :
    ∃ front rest, bytes = front ++ rest ∧ Replies items front ∧
      Reader.collect next new new bytes =
        (items.map some ++ (Reader.collect next new new rest).1,
          (Reader.collect next new new rest).2) := by
  induction items generalizing bytes with
  | nil => exact ⟨[], bytes, rfl, .nil, rfl⟩
  | cons v items ih =>
      cases fed : Reader.feed next new bytes with
      | more t =>
          rw [Reader.collect_of_more fed] at found
          cases List.prefix_nil.mp found
      | stop r rest =>
          rw [Reader.collect_of_stop fed] at found
          obtain ⟨rfl, later⟩ := List.cons_prefix_cons.mp found
          obtain ⟨front, rfl, reply⟩ := feed_eq_stop_iff.mp fed
          obtain ⟨after, rest, rfl, replies, collected⟩ := ih later
          refine ⟨front ++ after, rest, (List.append_assoc _ _ _).symm, .cons reply replies, ?_⟩
          rw [Reader.collect_of_stop fed, collected]
          rfl

/-- The replies of a stream, and where the reader is in the one that is not complete. -/
theorem collect_eq_iff {items : List RedisValue} {bytes : Bytes} {s : Partial} :
    Reader.collect next new new bytes = (items.map some, s) ↔
      ∃ front rest, bytes = front ++ rest ∧ Replies items front ∧
        Reader.feed next new rest = .more s := by
  constructor
  · intro collected
    have all : items.map some <+: (Reader.collect next new new bytes).1 := by
      simp [collected]
    obtain ⟨front, rest, split, replies, later⟩ := exists_replies_of_isPrefix all
    refine ⟨front, rest, split, replies, ?_⟩
    rw [collected, Prod.mk.injEq, List.self_eq_append_right] at later
    obtain ⟨none, last⟩ := later
    cases fed : Reader.feed next new rest with
    | more t =>
        rw [Reader.collect_of_more fed] at last
        rw [last]
    | stop r after =>
        rw [Reader.collect_of_stop fed] at none
        cases none
  · rintro ⟨front, rest, rfl, replies, more⟩
    induction items generalizing front with
    | nil =>
        cases replies with
        | nil => exact Reader.collect_of_more more
    | cons v items ih =>
        cases replies with
        | cons reply replies =>
            rw [List.append_assoc, Reader.collect_of_stop (feed_eq_stop_iff.mpr ⟨_, rfl, reply⟩),
              ih _ replies, List.map_cons]

theorem collect_replies {items : List RedisValue} {bytes : Bytes} (replies : Replies items bytes) :
    Reader.collect next new new bytes = (items.map some, new) :=
  collect_eq_iff.mpr ⟨bytes, [], (List.append_nil bytes).symm, replies, rfl⟩

end Partial

end NatProxy
