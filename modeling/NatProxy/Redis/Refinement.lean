import NatProxy.Redis.Reader

/-!
# The parser is the reader

`Holds` says which state of the byte reader a parser has stored between two reads. Every
function of the parser goes through its bytes as the reader does from that state, with
no failing assertion, and with calls that nest no deeper than the length of the bytes
and the number of open arrays allow.
-/

namespace NatProxy

open Memory Transition

namespace RedisParser

variable {p q : RedisParser} {ptr : Bytes} {i j : Nat} {c : UInt8}

def lexer (p : RedisParser) : Lexer :=
  match p.state with
  | .start => .start
  | .string => .line .string p.buf
  | .stringLF => .lineEnd .string p.buf
  | .errorString => .line .error p.buf
  | .errorLF => .lineEnd .error p.buf
  | .integer => .line .integer p.buf
  | .integerLF => .lineEnd .integer p.buf
  | .bulkSize => .line .bulk p.buf
  | .bulkSizeLF => .lineEnd .bulk p.buf
  | .bulk => .bulk p.buf p.bulkSize.toNat
  | .bulkCR => .bulkCR p.buf
  | .bulkLF => .bulkLF p.buf
  | .arraySize => .line .array p.buf
  | .arraySizeLF => .lineEnd .array p.buf

/-- The parser has stored a partial reply. -/
structure Holds (p : RedisParser) (s : Partial) : Prop where
  lexer : p.lexer = s.lexer
  bulk : p.state = .bulk → 0 < p.bulkSize
  arrays : p.arrayStack = (s.frames.map fun f => (f.missing : Int)).reverse
  values : p.valueStack = (s.frames.map fun f => .array f.items).reverse
  missing : ∀ f ∈ s.frames, 0 < f.missing

/-- The parser inside one element, its arrays being open in the calls of the program. -/
structure Inside (p : RedisParser) : Prop where
  arrays : p.arrayStack = []
  values : p.valueStack = []
  bulk : p.state = .bulk → 0 < p.bulkSize

theorem Inside.holds (inside : p.Inside) : p.Holds ⟨p.lexer, []⟩ :=
  ⟨rfl, inside.bulk, inside.arrays, inside.values, by simp⟩

/-- The parser after a value, when the value has been taken off its stack. -/
theorem inside_of_start (arrays : p.arrayStack = []) (start : p.state = .start) :
    { p with valueStack := [] }.Inside ∧ { p with valueStack := [] }.lexer = .start := by
  refine ⟨⟨arrays, rfl, by simp [start]⟩, ?_⟩
  rw [lexer, start]

theorem holds_new : new.Holds .new := ⟨rfl, by rintro ⟨⟩, rfl, rfl, by simp [Partial.new]⟩

/-- What the parser returns after the bytes `ptr` is what the reader finds in them. -/
def Agrees (ptr : Bytes) (out : Parsed) : Fed Partial (Option RedisValue) UInt8 → Prop
  | .more s => out.1 = ptr.length ∧ out.2.1 = .incompleted ∧ out.2.2.Holds s
  | .stop (some v) rest =>
      out.1 ≤ ptr.length ∧ rest = ptr.drop out.1 ∧ out.2.1 = .completed ∧
        out.2.2.arrayStack = [] ∧ out.2.2.valueStack = [v] ∧ out.2.2.state = .start
  | .stop none rest => out.1 ≤ ptr.length ∧ rest = ptr.drop out.1 ∧ out.2.1 = .error

/-- The same of the body of the loop at `ptr[i]`. -/
def IterationAgrees (ptr : Bytes) (i : Nat) (fed : Fed Partial (Option RedisValue) UInt8) :
    Iteration → Prop
  | .next j p =>
      i < j ∧ j ≤ ptr.length ∧ p.Inside ∧ p.state ≠ .bulk ∧
        fed = Reader.feed Partial.next ⟨p.lexer, []⟩ (ptr.drop j)
  | .result j r p => Agrees ptr (j, r, p) fed
  | .elements j p =>
      ∃ n, i < j ∧ j ≤ ptr.length ∧ p.Holds ⟨.start, [⟨[], n⟩]⟩ ∧
        fed = Reader.feed Partial.next ⟨.start, [⟨[], n⟩]⟩ (ptr.drop j)
  | .undefined => False

theorem agrees_next (at_ : ptr[i]? = some c) (inside : q.Inside) (bulk : q.state ≠ .bulk)
    (read : p.lexer.read c = .more q.lexer) :
    IterationAgrees ptr i (Reader.feed Partial.next ⟨p.lexer, []⟩ (ptr.drop i))
      (.next (i + 1) q) := by
  obtain ⟨lt, rfl⟩ := List.getElem?_eq_some_iff.mp at_
  refine ⟨Nat.lt_succ_self i, lt, inside, bulk, ?_⟩
  rw [List.drop_eq_getElem_cons lt]
  exact Reader.feed_cons_more (by rw [Partial.next, read]) _

theorem agrees_fail (at_ : ptr[i]? = some c) (read : p.lexer.read c = .error) :
    IterationAgrees ptr i (Reader.feed Partial.next ⟨p.lexer, []⟩ (ptr.drop i)) (q.fail i) := by
  obtain ⟨lt, rfl⟩ := List.getElem?_eq_some_iff.mp at_
  rw [List.drop_eq_getElem_cons lt, Reader.feed_cons_stop (r := none) (by rw [Partial.next, read])]
  exact ⟨lt, rfl, rfl⟩

theorem agrees_complete (at_ : ptr[i]? = some c) {v : RedisValue} (arrays : q.arrayStack = [])
    (values : q.valueStack = []) (read : p.lexer.read c = .value v) :
    IterationAgrees ptr i (Reader.feed Partial.next ⟨p.lexer, []⟩ (ptr.drop i))
      (q.complete i v) := by
  obtain ⟨lt, rfl⟩ := List.getElem?_eq_some_iff.mp at_
  rw [List.drop_eq_getElem_cons lt,
    Reader.feed_cons_stop (r := some v) (by rw [Partial.next, read]; rfl)]
  exact ⟨lt, rfl, rfl, arrays, by rw [values], rfl⟩

theorem agrees_readText (at_ : ptr[i]? = some c) (inside : p.Inside) {k : ReplyKind}
    {lf : ParserState} (text : k.isText = true) (line : ∀ buf, { p with buf }.lexer = .line k buf)
    (line_end : { p with state := lf }.lexer = .lineEnd k p.buf) (state : p.state ≠ .bulk)
    (lf_state : lf ≠ .bulk) :
    IterationAgrees ptr i (Reader.feed Partial.next ⟨p.lexer, []⟩ (ptr.drop i))
      (p.readText i c lf) := by
  have lexer : p.lexer = .line k p.buf := line p.buf
  rw [readText]
  split
  · next cr =>
    refine agrees_next at_ ⟨inside.arrays, inside.values, (absurd · lf_state)⟩ lf_state ?_
    rw [lexer, line_end, Lexer.read, if_pos cr, if_neg (by simp [text])]
  · next cr =>
    split
    · next printable =>
      refine agrees_next at_ ⟨inside.arrays, inside.values, inside.bulk⟩ state ?_
      rw [lexer, line, Lexer.read, if_neg cr, if_pos]
      rwa [ReplyKind.accepts, if_pos text]
    · next other =>
      refine agrees_fail at_ ?_
      rw [lexer, Lexer.read, if_neg cr, if_neg]
      rwa [ReplyKind.accepts, if_pos text]

theorem agrees_readNumber (at_ : ptr[i]? = some c) (inside : p.Inside) {k : ReplyKind}
    {lf : ParserState} (number : k.isText = false)
    (line : ∀ buf, { p with buf }.lexer = .line k buf)
    (line_end : { p with state := lf }.lexer = .lineEnd k p.buf) (state : p.state ≠ .bulk)
    (lf_state : lf ≠ .bulk) :
    IterationAgrees ptr i (Reader.feed Partial.next ⟨p.lexer, []⟩ (ptr.drop i))
      (p.readNumber i c lf) := by
  have lexer : p.lexer = .line k p.buf := line p.buf
  rw [readNumber]
  split
  · next cr =>
    split
    · next empty =>
      refine agrees_fail at_ ?_
      rw [lexer, Lexer.read, if_pos cr, if_pos ⟨number, empty⟩]
    · next some =>
      refine agrees_next at_ ⟨inside.arrays, inside.values, (absurd · lf_state)⟩ lf_state ?_
      rw [lexer, line_end, Lexer.read, if_pos cr, if_neg fun none => some none.2]
  · next cr =>
    split
    · next digit =>
      refine agrees_next at_ ⟨inside.arrays, inside.values, inside.bulk⟩ state ?_
      rw [lexer, line, Lexer.read, if_neg cr, if_pos]
      rwa [ReplyKind.accepts, number, if_neg Bool.false_ne_true]
    · next other =>
      refine agrees_fail at_ ?_
      rw [lexer, Lexer.read, if_neg cr, if_neg]
      rwa [ReplyKind.accepts, number, if_neg Bool.false_ne_true]

theorem agrees_beginBulk (at_ : ptr[i]? = some c) (arrays : q.arrayStack = [])
    (values : q.valueStack = []) (empty : q.buf = []) (positive : 0 < q.bulkSize)
    (read : p.lexer.read c = .more (.bulk [] q.bulkSize.toNat)) :
    IterationAgrees ptr i (Reader.feed Partial.next ⟨p.lexer, []⟩ (ptr.drop i))
      (q.beginBulk ptr i) := by
  obtain ⟨lt, rfl⟩ := List.getElem?_eq_some_iff.mp at_
  rw [List.drop_eq_getElem_cons lt, Reader.feed_cons_more (by rw [Partial.next, read]),
    Partial.feed_bulk_eq (by omega), List.length_drop, List.nil_append, List.nil_append]
  have buf : ∀ k : Int, (if k > 0 then (ptr.drop (i + 1)).take k.toNat else q.buf) =
      (ptr.drop (i + 1)).take k.toNat := by
    intro k
    split
    · rfl
    · next none => rw [empty, Int.toNat_of_nonpos (by omega), List.take_zero]
  simp only [beginBulk, buf]
  by_cases short : ptr.length - (i + 1) < q.bulkSize.toNat
  · have all : min q.bulkSize (ptr.length - i - 1) = ptr.length - (i + 1 : Nat) := by omega
    rw [if_pos short, all, if_pos (by omega)]
    refine ⟨by simp; omega, rfl, ?_, ?_, arrays, values, by simp⟩
    · have read_all : ((ptr.length : Int) - (i + 1 : Nat)).toNat = ptr.length - (i + 1) := by omega
      have rest_all : (ptr.drop (i + 1)).take (ptr.length - (i + 1)) = ptr.drop (i + 1) :=
        List.take_of_length_le (by simp)
      have missing : (q.bulkSize - ((ptr.length : Int) - (i + 1 : Nat))).toNat =
          q.bulkSize.toNat - (ptr.length - (i + 1)) := by omega
      simp only [RedisParser.lexer, read_all, rest_all, missing]
    · intro _
      simp
      omega
  · have whole : min q.bulkSize (ptr.length - i - 1) = q.bulkSize := by omega
    rw [if_neg short, whole, if_neg (by omega)]
    refine ⟨by omega, by omega, ⟨arrays, values, by simp⟩, by simp, ?_⟩
    rw [List.drop_drop, Nat.add_right_comm]
    rfl

theorem agrees_bulkSizeLF (at_ : ptr[i]? = some c) (inside : p.Inside)
    (state : p.state = .bulkSizeLF) :
    IterationAgrees ptr i (Reader.feed Partial.next ⟨p.lexer, []⟩ (ptr.drop i))
      (p.iterate ptr i c) := by
  have lexer : p.lexer = .lineEnd .bulk p.buf := by rw [RedisParser.lexer, state]
  simp only [iterate, state]
  split
  · next lf =>
    have read : p.lexer.read c = ReplyKind.bulk.finish p.buf := by
      rw [lexer, Lexer.read, if_pos lf]
    split
    · next null =>
      refine agrees_complete at_ inside.arrays inside.values ?_
      rw [read, ReplyKind.finish, if_pos null]
    · next notNull =>
      split
      · next zero =>
        refine agrees_next at_ ⟨inside.arrays, inside.values, by simp⟩ (by simp) ?_
        rw [read, ReplyKind.finish, if_neg notNull, if_neg (by omega), if_pos zero]
        rfl
      · next notZero =>
        split
        · next negative =>
          refine agrees_fail at_ ?_
          rw [read, ReplyKind.finish, if_neg notNull, if_pos negative]
        · next notNegative =>
          have more : p.lexer.read c = .more (.bulk [] (strtol p.buf).toNat) := by
            rw [read, ReplyKind.finish, if_neg notNull, if_neg notNegative, if_neg notZero]
          refine agrees_beginBulk at_ ?_ ?_ ?_ ?_ more
          · exact inside.arrays
          · exact inside.values
          · rfl
          · simp
            omega
  · next lf =>
    exact agrees_fail at_ (by rw [lexer, Lexer.read, if_neg lf])

theorem agrees_bulk (at_ : ptr[0]? = some c) (inside : p.Inside) (state : p.state = .bulk) :
    IterationAgrees ptr 0 (Reader.feed Partial.next ⟨p.lexer, []⟩ ptr) (p.iterate ptr 0 c) := by
  have lexer : p.lexer = .bulk p.buf p.bulkSize.toNat := by rw [RedisParser.lexer, state]
  have positive := inside.bulk state
  obtain ⟨some, _⟩ := List.getElem?_eq_some_iff.mp at_
  rw [lexer, Partial.feed_bulk_eq (by omega)]
  simp only [iterate, state, readBulk]
  by_cases short : ptr.length < p.bulkSize.toNat
  · have all : min (ptr.length - (0 : Nat) : Int) p.bulkSize = ptr.length := by omega
    rw [if_pos short, all, if_neg (by omega), if_pos (by simp; omega)]
    refine ⟨by simp, rfl, ?_, ?_, inside.arrays, inside.values, by simp⟩
    · simp [RedisParser.lexer]
    · intro _
      simp
      omega
  · have whole : min (ptr.length - (0 : Nat) : Int) p.bulkSize = p.bulkSize := by omega
    rw [if_neg short, whole, if_neg (by omega), if_neg (by simp)]
    split
    · next last =>
      have none : ptr.drop p.bulkSize.toNat = [] := List.drop_eq_nil_of_le (by omega)
      rw [none]
      exact ⟨by simp [last], rfl, rfl, by simp, inside.arrays, inside.values, by simp⟩
    · next more =>
      refine ⟨by omega, by omega, ⟨inside.arrays, inside.values, by simp⟩, by simp, ?_⟩
      rw [Nat.zero_add]
      rfl

theorem agrees_arraySizeLF (at_ : ptr[i]? = some c) (inside : p.Inside)
    (state : p.state = .arraySizeLF) :
    IterationAgrees ptr i (Reader.feed Partial.next ⟨p.lexer, []⟩ (ptr.drop i))
      (p.iterate ptr i c) := by
  have lexer : p.lexer = .lineEnd .array p.buf := by rw [RedisParser.lexer, state]
  simp only [iterate, state]
  split
  · next lf =>
    have read : p.lexer.read c = ReplyKind.array.finish p.buf := by
      rw [lexer, Lexer.read, if_pos lf]
    split
    · next empty =>
      refine agrees_complete at_ inside.arrays inside.values ?_
      rw [read, ReplyKind.finish, if_pos empty]
    · next notEmpty =>
      split
      · next negative =>
        refine agrees_fail at_ ?_
        rw [read, ReplyKind.finish, if_neg notEmpty, if_pos negative]
      · next notNegative =>
        have opens : p.lexer.read c = .elements (strtol p.buf).toNat := by
          rw [read, ReplyKind.finish, if_neg notEmpty, if_neg notNegative]
        obtain ⟨lt, rfl⟩ := List.getElem?_eq_some_iff.mp at_
        have size : (strtol p.buf).toNat = strtol p.buf := Int.toNat_of_nonneg (by omega)
        have fed : Reader.feed Partial.next ⟨p.lexer, []⟩ (ptr.drop i) =
            Reader.feed Partial.next ⟨.start, [⟨[], (strtol p.buf).toNat⟩]⟩ (ptr.drop (i + 1)) := by
          rw [List.drop_eq_getElem_cons lt]
          exact Reader.feed_cons_more (by rw [Partial.next, opens]) _
        have holds : ∀ q : RedisParser, q.state = .start →
            q.arrayStack = strtol p.buf :: p.arrayStack → q.valueStack = .array [] :: p.valueStack →
            q.Holds ⟨.start, [⟨[], (strtol p.buf).toNat⟩]⟩ := by
          intro q state arrays values
          refine ⟨?_, ?_, ?_, ?_, ?_⟩
          · rw [RedisParser.lexer, state]
          · simp [state]
          · simp [arrays, inside.arrays]
            omega
          · simp [values, inside.values]
          · simp
            omega
        rw [fed]
        split
        · next more =>
          exact ⟨_, Nat.lt_succ_self i, lt, holds _ rfl rfl rfl, rfl⟩
        · next last =>
          rw [List.drop_eq_nil_of_le (by omega)]
          exact ⟨by omega, rfl, holds _ rfl rfl rfl⟩
  · next lf =>
    exact agrees_fail at_ (by rw [lexer, Lexer.read, if_neg lf])

theorem agrees_start (at_ : ptr[i]? = some c) (inside : p.Inside) (state : p.state = .start) :
    IterationAgrees ptr i (Reader.feed Partial.next ⟨p.lexer, []⟩ (ptr.drop i))
      (p.iterate ptr i c) := by
  have lexer : p.lexer = .start := by rw [RedisParser.lexer, state]
  have announced : ∀ {k : ReplyKind} {q : RedisParser}, ReplyKind.ofChar c = some k →
      q.arrayStack = p.arrayStack → q.valueStack = p.valueStack → q.state ≠ .bulk →
      q.lexer = .line k [] →
      IterationAgrees ptr i (Reader.feed Partial.next ⟨p.lexer, []⟩ (ptr.drop i))
        (.next (i + 1) q) := by
    intro k q kind arrays values bulk after
    refine agrees_next at_ ⟨?_, ?_, (absurd · bulk)⟩ bulk ?_
    · rw [arrays, inside.arrays]
    · rw [values, inside.values]
    · rw [lexer, Lexer.read, kind, after]
  simp only [iterate, state]
  split
  · next same => exact announced (k := .string) (by rw [same]; rfl) rfl rfl (by simp) rfl
  · split
    · next same => exact announced (k := .error) (by rw [same]; rfl) rfl rfl (by simp) rfl
    · split
      · next same => exact announced (k := .integer) (by rw [same]; rfl) rfl rfl (by simp) rfl
      · split
        · next same => exact announced (k := .bulk) (by rw [same]; rfl) rfl rfl (by simp) rfl
        · split
          · next same => exact announced (k := .array) (by rw [same]; rfl) rfl rfl (by simp) rfl
          · refine agrees_fail at_ ?_
            rw [lexer, Lexer.read, ReplyKind.ofChar]
            simp [*]

theorem agrees_iterate (at_ : ptr[i]? = some c) (inside : p.Inside)
    (first : p.state = .bulk → i = 0) :
    IterationAgrees ptr i (Reader.feed Partial.next ⟨p.lexer, []⟩ (ptr.drop i))
      (p.iterate ptr i c) := by
  cases state : p.state with
  | start => exact agrees_start at_ inside state
  | string =>
      simp only [iterate, state]
      exact agrees_readText at_ inside (k := .string) rfl (by simp [lexer, state])
        (by simp [lexer]) (by simp [state]) (by simp)
  | errorString =>
      simp only [iterate, state]
      exact agrees_readText at_ inside (k := .error) rfl (by simp [lexer, state])
        (by simp [lexer]) (by simp [state]) (by simp)
  | integer =>
      simp only [iterate, state]
      exact agrees_readNumber at_ inside (k := .integer) rfl (by simp [lexer, state])
        (by simp [lexer]) (by simp [state]) (by simp)
  | bulkSize =>
      simp only [iterate, state]
      exact agrees_readNumber at_ inside (k := .bulk) rfl (by simp [lexer, state])
        (by simp [lexer]) (by simp [state]) (by simp)
  | arraySize =>
      simp only [iterate, state]
      exact agrees_readNumber at_ inside (k := .array) rfl (by simp [lexer, state])
        (by simp [lexer]) (by simp [state]) (by simp)
  | stringLF =>
      have lexer : p.lexer = .lineEnd .string p.buf := by rw [lexer, state]
      simp only [iterate, state]
      split
      · next lf =>
        refine agrees_complete at_ inside.arrays inside.values ?_
        rw [lexer, Lexer.read, if_pos lf, ReplyKind.finish]
      · next lf => exact agrees_fail at_ (by rw [lexer, Lexer.read, if_neg lf])
  | errorLF =>
      have lexer : p.lexer = .lineEnd .error p.buf := by rw [lexer, state]
      simp only [iterate, state]
      split
      · next lf =>
        refine agrees_complete at_ inside.arrays inside.values ?_
        rw [lexer, Lexer.read, if_pos lf, ReplyKind.finish]
      · next lf => exact agrees_fail at_ (by rw [lexer, Lexer.read, if_neg lf])
  | integerLF =>
      have lexer : p.lexer = .lineEnd .integer p.buf := by rw [lexer, state]
      simp only [iterate, state]
      split
      · next lf =>
        refine agrees_complete at_ inside.arrays inside.values ?_
        rw [lexer, Lexer.read, if_pos lf, ReplyKind.finish]
      · next lf => exact agrees_fail at_ (by rw [lexer, Lexer.read, if_neg lf])
  | bulkSizeLF => exact agrees_bulkSizeLF at_ inside state
  | arraySizeLF => exact agrees_arraySizeLF at_ inside state
  | bulk =>
      obtain rfl := first state
      exact agrees_bulk at_ inside state
  | bulkCR =>
      have lexer : p.lexer = .bulkCR p.buf := by rw [lexer, state]
      simp only [iterate, state]
      split
      · next cr =>
        refine agrees_next at_ ⟨inside.arrays, inside.values, by simp⟩ (by simp) ?_
        rw [lexer, Lexer.read, if_pos cr]
        rfl
      · next cr => exact agrees_fail at_ (by rw [lexer, Lexer.read, if_neg cr])
  | bulkLF =>
      have lexer : p.lexer = .bulkLF p.buf := by rw [lexer, state]
      simp only [iterate, state]
      split
      · next lf =>
        refine agrees_complete at_ inside.arrays inside.values ?_
        rw [lexer, Lexer.read, if_pos lf]
      · next lf => exact agrees_fail at_ (by rw [lexer, Lexer.read, if_neg lf])

/-! ## The calls of the parser -/

theorem Agrees.completed {r : ParseResult} {v : RedisValue} {rest : Bytes}
    (agrees : Agrees ptr (i, r, q) (.stop (some v) rest)) :
    i ≤ ptr.length ∧ rest = ptr.drop i ∧ r = .completed ∧ q.arrayStack = [] ∧
      q.valueStack = [v] ∧ q.state = .start :=
  agrees

theorem Agrees.shift {ptr : Bytes} {i : Nat} {out : Parsed}
    {fed : Fed Partial (Option RedisValue) UInt8} (le : i ≤ ptr.length)
    (agrees : Agrees (ptr.drop i) out fed) : Agrees ptr (i + out.1, out.2) fed := by
  cases fed with
  | more s =>
      obtain ⟨all, rest⟩ := agrees
      refine ⟨?_, rest⟩
      rw [all, List.length_drop]
      omega
  | stop r rest =>
      cases r with
      | some v =>
          obtain ⟨some, rfl, done⟩ := agrees
          rw [List.length_drop] at some
          exact ⟨by omega, List.drop_drop, done⟩
      | none =>
          obtain ⟨some, rfl, failed⟩ := agrees
          rw [List.length_drop] at some
          exact ⟨by omega, List.drop_drop, failed⟩

/-- The reader at the element that follows `items`, if one is missing. -/
def feedElements (lexer : Lexer) (items : List RedisValue) (missing : Nat) (bytes : Bytes) :
    Fed Partial (Option RedisValue) UInt8 :=
  if missing = 0 then .stop (some (.array items)) bytes
  else Reader.feed Partial.next ⟨lexer, [⟨items, missing⟩]⟩ bytes

theorem resume_deliver (v : RedisValue) (items : List RedisValue) {missing : Nat}
    (positive : 0 < missing) (bytes : Bytes) :
    Reader.resume Partial.next (Partial.deliver v [⟨items, missing⟩]) bytes =
      feedElements .start (items ++ [v]) (missing - 1) bytes := by
  rw [Partial.deliver, feedElements]
  by_cases last : missing ≤ 1
  · rw [if_pos last, if_pos (by omega)]
    rfl
  · rw [if_neg last, if_neg (by omega)]
    rfl

/-- What every function of the parser returns if enough calls may nest. -/
structure Returns (fuel : Nat) : Prop where
  element : ∀ p ptr, p.Inside → 5 * ptr.length + 2 ≤ fuel →
    ∃ out, parseIn fuel p ptr = some out ∧
      Agrees ptr out (Reader.feed Partial.next ⟨p.lexer, []⟩ ptr)
  chunk : ∀ p ptr i, p.Inside → i ≤ ptr.length → (p.state = .bulk → i = 0) →
    5 * (ptr.length - i) + 1 ≤ fuel →
    ∃ out, parseChunk fuel p ptr i = some out ∧
      Agrees ptr out (Reader.feed Partial.next ⟨p.lexer, []⟩ (ptr.drop i))
  array : ∀ p ptr s, p.Holds s → s.frames ≠ [] → 5 * ptr.length + s.frames.length + 4 ≤ fuel →
    ∃ out, parseArray fuel p ptr = some out ∧ Agrees ptr out (Reader.feed Partial.next s ptr)
  rest : ∀ p ptr i items (missing : Nat), p.Inside → i ≤ ptr.length →
    (missing = 0 → p.state = .start) → 5 * (ptr.length - i) + 4 ≤ fuel →
    ∃ out, parseRest fuel p ptr i items missing = some out ∧
      Agrees ptr out (feedElements p.lexer items missing (ptr.drop i))
  elements : ∀ p ptr i items (missing : Nat), p.Inside → i ≤ ptr.length →
    (missing = 0 → p.state = .start) → 5 * (ptr.length - i) + 3 ≤ fuel →
    ∃ out, parseElements fuel p ptr i items missing = some out ∧
      Agrees ptr out (feedElements p.lexer items missing (ptr.drop i))

namespace Returns

variable {fuel : Nat} {s : Partial} {items : List RedisValue} {missing : Nat}

/-- What has been read of the elements is pushed back. -/
theorem holds_pushArray (holds : q.Holds s) (positive : 0 < missing) :
    (q.pushArray items missing).Holds { s with frames := s.frames ++ [⟨items, missing⟩] } := by
  refine ⟨holds.lexer, holds.bulk, ?_, ?_, ?_⟩
  · rw [List.map_append, List.reverse_append, ← holds.arrays]
    rfl
  · rw [List.map_append, List.reverse_append, ← holds.values]
    rfl
  · intro f mem
    rcases List.mem_append.mp mem with inner | last
    · exact holds.missing f inner
    · obtain rfl := List.mem_singleton.mp last
      exact positive

theorem succ_element (ih : Returns fuel) (inside : p.Inside)
    (enough : 5 * ptr.length + 2 ≤ fuel + 1) :
    ∃ out, parseIn (fuel + 1) p ptr = some out ∧
      Agrees ptr out (Reader.feed Partial.next ⟨p.lexer, []⟩ ptr) := by
  rw [parseIn, if_pos inside.arrays]
  exact ih.chunk p ptr 0 inside (Nat.zero_le _) (fun _ => rfl) (by omega)

theorem succ_chunk (ih : Returns fuel) (inside : p.Inside) (le : i ≤ ptr.length)
    (first : p.state = .bulk → i = 0) (enough : 5 * (ptr.length - i) + 1 ≤ fuel + 1) :
    ∃ out, parseChunk (fuel + 1) p ptr i = some out ∧
      Agrees ptr out (Reader.feed Partial.next ⟨p.lexer, []⟩ (ptr.drop i)) := by
  rw [parseChunk]
  split
  · next at_ =>
    have all : ptr.length ≤ i := List.getElem?_eq_none_iff.mp at_
    rw [List.drop_eq_nil_of_le all]
    exact ⟨_, rfl, by simp only; omega, rfl, inside.holds⟩
  · next c at_ =>
    have iteration := agrees_iterate at_ inside first
    cases it : p.iterate ptr i c with
    | next j q =>
        rw [it] at iteration
        obtain ⟨lt, le, inside, bulk, fed⟩ := iteration
        rw [fed]
        exact ih.chunk q ptr j inside le (absurd · bulk) (by omega)
    | result j r q =>
        rw [it] at iteration
        exact ⟨_, rfl, iteration⟩
    | elements j q =>
        rw [it] at iteration
        obtain ⟨n, lt, le, holds, fed⟩ := iteration
        obtain ⟨out, parsed, agrees⟩ := ih.array q (ptr.drop j) _ holds (by simp)
          (by rw [List.length_drop]; simp; omega)
        rw [fed]
        refine ⟨(out.1 + j, out.2), by simp only [parsed]; rfl, ?_⟩
        rw [Nat.add_comm]
        exact agrees.shift le
    | undefined =>
        rw [it] at iteration
        exact iteration.elim

theorem succ_rest (ih : Returns fuel) (inside : p.Inside) (le : i ≤ ptr.length)
    (last : missing = 0 → p.state = .start) (enough : 5 * (ptr.length - i) + 4 ≤ fuel + 1) :
    ∃ out, parseRest (fuel + 1) p ptr i items missing = some out ∧
      Agrees ptr out (feedElements p.lexer items missing (ptr.drop i)) := by
  rw [parseRest]
  split
  · next all =>
    rw [List.drop_eq_nil_of_le (by omega)]
    split
    · next none =>
      rw [feedElements, if_pos (by omega)]
      exact ⟨_, rfl, le, by rw [all, List.drop_length], rfl, inside.arrays, by rw [inside.values],
        last (by omega)⟩
    · next some =>
      rw [feedElements, if_neg (by omega)]
      exact ⟨_, rfl, all, rfl, holds_pushArray inside.holds (by omega)⟩
  · exact ih.elements p ptr i items missing inside le last (by omega)

theorem succ_elements (ih : Returns fuel) (inside : p.Inside) (le : i ≤ ptr.length)
    (last : missing = 0 → p.state = .start) (enough : 5 * (ptr.length - i) + 3 ≤ fuel + 1) :
    ∃ out, parseElements (fuel + 1) p ptr i items missing = some out ∧
      Agrees ptr out (feedElements p.lexer items missing (ptr.drop i)) := by
  rw [parseElements]
  split
  · next positive =>
    obtain ⟨⟨first, r, q⟩, parsed, agrees⟩ := ih.element p (ptr.drop i) inside
      (by rw [List.length_drop]; omega)
    have agrees := agrees.shift le
    rw [parsed, feedElements, if_neg (by omega), ← List.nil_append [_], Partial.feed_append_frames]
    cases fed : Reader.feed Partial.next ⟨p.lexer, []⟩ (ptr.drop i) with
    | more s =>
        rw [fed] at agrees
        obtain ⟨all, rfl, holds⟩ := agrees
        exact ⟨_, rfl, all, rfl, holds_pushArray holds (by omega)⟩
    | stop r rest =>
        rw [fed] at agrees
        cases r with
        | none =>
            obtain ⟨le, rfl, rfl⟩ := agrees
            exact ⟨_, rfl, le, rfl, rfl⟩
        | some v =>
            have some := Reader.length_lt_of_stop fed
            obtain ⟨le, rfl, rfl, arrays, values, start⟩ := agrees.completed
            obtain ⟨inside, lexer⟩ := inside_of_start arrays start
            obtain ⟨out, parsed, agrees⟩ := ih.elements { q with valueStack := [] } ptr (i + first)
              (items ++ [v]) (missing - 1) inside le (fun _ => start)
              (by simp only [List.length_drop] at some; omega)
            refine ⟨out, ?_, ?_⟩
            · rw [← parsed]
              simp only [values]
              congr 1
              omega
            · rw [lexer] at agrees
              rwa [← resume_deliver v items (by omega)] at agrees
  · next none =>
    obtain rfl : missing = 0 := by omega
    exact ⟨_, rfl, le, rfl, rfl, inside.arrays, by rw [inside.values], last rfl⟩

/-- The outermost array is on top of the stacks. -/
theorem exists_inner {lexer : Lexer} {inner : List OpenArray} {outer : OpenArray}
    (holds : p.Holds ⟨lexer, inner ++ [outer]⟩) :
    ∃ (arrayStack : List Int) (valueStack : List RedisValue),
      p.arrayStack = (outer.missing : Int) :: arrayStack ∧
      p.valueStack = .array outer.items :: valueStack ∧
      { p with arrayStack, valueStack }.Holds ⟨lexer, inner⟩ := by
  refine ⟨(inner.map fun f => (f.missing : Int)).reverse,
    (inner.map fun f => .array f.items).reverse, ?_, ?_, ?_⟩
  · simp [holds.arrays]
  · simp [holds.values]
  · exact ⟨holds.lexer, holds.bulk, rfl, rfl, fun f mem => holds.missing f (by simp [mem])⟩

theorem succ_array (ih : Returns fuel) (holds : p.Holds s) (open_ : s.frames ≠ [])
    (enough : 5 * ptr.length + s.frames.length + 4 ≤ fuel + 1) :
    ∃ out, parseArray (fuel + 1) p ptr = some out ∧
      Agrees ptr out (Reader.feed Partial.next s ptr) := by
  obtain ⟨lexer, frames⟩ := s
  obtain ⟨inner, outer, rfl⟩ := List.eq_nil_or_concat frames |>.resolve_left open_
  rw [List.concat_eq_append] at holds enough ⊢
  have positive : 0 < outer.missing := holds.missing outer (by simp)
  obtain ⟨arrayStack, valueStack, arrays, values, holds⟩ := exists_inner holds
  rw [List.length_append, List.length_singleton] at enough
  rw [parseArray, arrays, values]
  dsimp only [RedisValue.toArray]
  have closed : arrayStack = [] ↔ inner = [] := by
    have : arrayStack = _ := holds.arrays
    rw [this]
    simp
  by_cases single : inner = []
  · subst single
    rw [if_pos (closed.mpr rfl)]
    obtain ⟨out, parsed, agrees⟩ := ih.rest _ ptr 0 outer.items outer.missing
      ⟨holds.arrays, holds.values, holds.bulk⟩ (Nat.zero_le _) (by omega)
      (by simp at enough ⊢; omega)
    refine ⟨out, parsed, ?_⟩
    rw [feedElements, if_neg (by omega), holds.lexer] at agrees
    exact agrees
  · rw [if_neg (mt closed.mp single)]
    obtain ⟨⟨i, r, q⟩, parsed, agrees⟩ := ih.array _ ptr ⟨lexer, inner⟩ holds single
      (by simp at enough ⊢; omega)
    rw [parsed, Partial.feed_append_frames]
    cases fed : Reader.feed Partial.next ⟨lexer, inner⟩ ptr with
    | more s =>
        rw [fed] at agrees
        obtain ⟨all, rfl, holds⟩ := agrees
        exact ⟨_, rfl, all, rfl, holds_pushArray holds positive⟩
    | stop r rest =>
        rw [fed] at agrees
        cases r with
        | none =>
            obtain ⟨le, rfl, rfl⟩ := agrees
            exact ⟨_, rfl, le, rfl, rfl⟩
        | some v =>
            have some := Reader.length_lt_of_stop fed
            obtain ⟨le, rfl, rfl, arrays, values, start⟩ := agrees.completed
            obtain ⟨inside, lexer⟩ := inside_of_start arrays start
            obtain ⟨out, parsed, agrees⟩ := ih.rest { q with valueStack := [] } ptr i
              (outer.items ++ [v]) (outer.missing - 1) inside le (fun _ => start)
              (by simp only [List.length_drop] at some; omega)
            refine ⟨out, ?_, ?_⟩
            · rw [← parsed]
              simp only [values]
              congr 1
              omega
            · rw [lexer] at agrees
              rwa [← resume_deliver v outer.items positive] at agrees

theorem returns (fuel : Nat) : Returns fuel := by
  induction fuel with
  | zero => exact ⟨by omega, by omega, by omega, by omega, by omega⟩
  | succ fuel ih =>
      exact ⟨fun _ _ => ih.succ_element, fun _ _ _ => ih.succ_chunk, fun _ _ _ => ih.succ_array,
        fun _ _ _ _ _ => ih.succ_rest, fun _ _ _ _ _ => ih.succ_elements⟩

end Returns

/-- Between two reads the parser is where the reader is, and `parse` reads on as the reader
does: it finds the same reply and leaves the same bytes, and no assertion fails. -/
theorem parse_refines {s : Partial} (holds : p.Holds s) (ptr : Bytes) :
    ∃ out, p.parse ptr = some out ∧ Agrees ptr out (Reader.feed Partial.next s ptr) := by
  obtain ⟨lexer, frames⟩ := s
  have depth : p.arrayStack.length = frames.length := by
    rw [holds.arrays, List.length_reverse, List.length_map]
  rw [parse, depth]
  by_cases closed : frames = []
  · subst closed
    obtain rfl : p.lexer = lexer := holds.lexer
    exact (Returns.returns _).element p ptr ⟨holds.arrays, holds.values, holds.bulk⟩ (by omega)
  · have open_ : p.arrayStack ≠ [] := by
      rw [holds.arrays]
      simpa using closed
    rw [parseIn, if_neg open_]
    exact (Returns.returns _).array p ptr _ holds closed (by simp only; omega)

/-- `result` after `parse` has returned `Completed`: the reply, with nothing left of it. -/
theorem Agrees.result {r : ParseResult} {v : RedisValue} {rest : Bytes}
    (agrees : Agrees ptr (i, r, q) (.stop (some v) rest)) :
    q.result = some (v, { q with valueStack := [] }) ∧
      { q with valueStack := [] }.Holds .new := by
  obtain ⟨_, _, _, arrays, values, start⟩ := agrees.completed
  obtain ⟨inside, lexer⟩ := inside_of_start arrays start
  refine ⟨by rw [RedisParser.result, values], ?_⟩
  have holds := inside.holds
  rwa [lexer] at holds

section

variable {s t : Partial} {v : RedisValue} {rest : Bytes}

/-! ## The results of `parse` -/

theorem parse_of_more (holds : p.Holds s) (fed : Reader.feed Partial.next s ptr = .more t) :
    ∃ q, p.parse ptr = some (ptr.length, .incompleted, q) ∧ q.Holds t := by
  obtain ⟨⟨i, r, q⟩, parsed, agrees⟩ := parse_refines holds ptr
  rw [fed] at agrees
  obtain ⟨rfl, rfl, holds⟩ := agrees
  exact ⟨q, parsed, holds⟩

theorem parse_of_error (holds : p.Holds s)
    (fed : Reader.feed Partial.next s ptr = .stop none rest) :
    ∃ i q, p.parse ptr = some (i, .error, q) ∧ i + rest.length = ptr.length := by
  obtain ⟨⟨i, r, q⟩, parsed, agrees⟩ := parse_refines holds ptr
  rw [fed] at agrees
  obtain ⟨le, rfl, rfl⟩ := agrees
  refine ⟨i, q, parsed, ?_⟩
  rw [List.length_drop]
  exact Nat.add_sub_cancel' le

theorem parse_of_value (holds : p.Holds s)
    (fed : Reader.feed Partial.next s ptr = .stop (some v) rest) :
    ∃ i q, p.parse ptr = some (i, .completed, q) ∧ i + rest.length = ptr.length ∧
      rest = ptr.drop i ∧ ∃ q', q.result = some (v, q') ∧ q'.Holds .new := by
  obtain ⟨⟨i, r, q⟩, parsed, agrees⟩ := parse_refines holds ptr
  rw [fed] at agrees
  obtain ⟨le, rfl, rfl, _⟩ := agrees.completed
  refine ⟨i, q, parsed, ?_, rfl, _, agrees.result⟩
  rw [List.length_drop]
  exact Nat.add_sub_cancel' le

end

end RedisParser

end NatProxy
