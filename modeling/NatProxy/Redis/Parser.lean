import NatProxy.Memory.Buffer

/-!
# The parser of Redis replies

`parse` gets the bytes of one read of the socket. What it has parsed of a reply that
does not end there stays in the parser: the state of the innermost element, and a stack
each for the open arrays and the elements that they still lack. The innermost array is
at the bottom of the stacks, since the calls of `parseArray` push what is left while
they return.

A `reserve` may throw, by `max_size()` or for want of memory. The parser goes on here with a
record of what it has reserved, and its caller looks at the record first.
-/

namespace NatProxy

open Memory

/-- `RedisValue`, its variant and its error flag in one. -/
inductive RedisValue
  | null
  | int (value : Int)
  | string (buf : Bytes) (error : Bool)
  | array (items : List RedisValue)

namespace RedisValue

/-- `castTo< std::vector<RedisValue> >()` -/
def toArray : RedisValue → List RedisValue
  | .array items => items
  | _ => []

/-- `castTo<std::vector<char> >()` -/
def toByteArray : RedisValue → Bytes
  | .string buf _ => buf
  | _ => []

end RedisValue

/-- `RedisParser::ParseResult` -/
inductive ParseResult
  | completed
  | incompleted
  | error
  deriving DecidableEq, Repr

inductive ParserState
  | start
  | string
  | stringLF
  | errorString
  | errorLF
  | integer
  | integerLF
  | bulkSize
  | bulkSizeLF
  | bulk
  | bulkCR
  | bulkLF
  | arraySize
  | arraySizeLF
  deriving DecidableEq, Repr

/-- A call of `reserve`. -/
inductive Reserve
  /-- `buf.reserve(bulkSize)` -/
  | bulk (size : Int)
  /-- `array.reserve(arraySize)` -/
  | array (size : Int)
  deriving DecidableEq, Repr

structure RedisParser where
  state : ParserState
  bulkSize : Int
  buf : Bytes
  /-- The top of a stack is its first element. -/
  arrayStack : List Int
  valueStack : List RedisValue
  /-- A record of all calls of `reserve`. -/
  reserved : List Reserve

/-- `'\r'` -/
def CR : UInt8 := 0x0D
/-- `'\n'` -/
def LF : UInt8 := 0x0A
/-- `'-'` -/
def MINUS : UInt8 := 0x2D

/-- `stringReply` to `arrayReply`: the characters `+`, `-`, `:`, `$` and `*`. -/
def stringReply : UInt8 := 0x2B
def errorReply : UInt8 := 0x2D
def integerReply : UInt8 := 0x3A
def bulkReply : UInt8 := 0x24
def arrayReply : UInt8 := 0x2A

/-- `isChar`: a `char` is signed. -/
def isChar (c : UInt8) : Bool := c.toNat ≤ 127

def isControl (c : UInt8) : Bool := c.toNat ≤ 31 || c.toNat == 127

def isDigit (c : UInt8) : Bool := 48 ≤ c.toNat && c.toNat ≤ 57

/-- The number that the leading digits of a text stand for. -/
def leadingNumber (s : Bytes) : Nat :=
  (s.takeWhile isDigit).foldl (fun n c => 10 * n + (c.toNat - 48)) 0

/-- `strtol` and `strtoll` in base 10, of a text without white space: the number stays
in the range of 64 bits. -/
def strtol (s : Bytes) : Int :=
  match s with
  | c :: rest =>
      if c = MINUS then max (-(leadingNumber rest : Int)) (-9223372036854775808)
      else min (leadingNumber s : Int) 9223372036854775807
  | [] => 0

/-- What the body of the loop of `parseChunk` does. -/
inductive Iteration
  /-- Go on at `ptr[i]`. -/
  | next (i : Nat) (p : RedisParser)
  | result (i : Nat) (r : ParseResult) (p : RedisParser)
  /-- Go on with `parseArray` at `ptr[i]`. -/
  | elements (i : Nat) (p : RedisParser)
  /-- An assertion fails, or the iterators of `insert` are not a range. -/
  | undefined

namespace RedisParser

def new : RedisParser := ⟨.start, 0, [], [], [], []⟩

/-- `state = Start; return std::make_pair(i + 1, Error);` -/
def fail (p : RedisParser) (i : Nat) : Iteration :=
  .result (i + 1) .error { p with state := .start }

/-- `state = Start; valueStack.push(value); return std::make_pair(i + 1, Completed);` -/
def complete (p : RedisParser) (i : Nat) (value : RedisValue) : Iteration :=
  .result (i + 1) .completed { p with state := .start, valueStack := value :: p.valueStack }

/-- The cases `String` and `ErrorString`. -/
def readText (p : RedisParser) (i : Nat) (c : UInt8) (lf : ParserState) : Iteration :=
  if c = CR then .next (i + 1) { p with state := lf }
  else if isChar c && !isControl c then .next (i + 1) { p with buf := p.buf ++ [c] }
  else p.fail i

/-- The cases `BulkSize`, `ArraySize` and `Integer`. -/
def readNumber (p : RedisParser) (i : Nat) (c : UInt8) (lf : ParserState) : Iteration :=
  if c = CR then
    if p.buf = [] then p.fail i else .next (i + 1) { p with state := lf }
  else if isDigit c || c == MINUS then .next (i + 1) { p with buf := p.buf ++ [c] }
  else p.fail i

/-- The bytes of a bulk that follow its size in the same read, the size ending at
`ptr[i]`. -/
def beginBulk (p : RedisParser) (ptr : Bytes) (i : Nat) : Iteration :=
  let available : Int := ptr.length - i - 1
  let canRead := min p.bulkSize available
  let buf := if canRead > 0 then (ptr.drop (i + 1)).take canRead.toNat else p.buf
  let i := i + canRead.toNat
  if p.bulkSize > available then
    .result (i + 1) .incompleted
      { p with buf, bulkSize := p.bulkSize - canRead, state := .bulk }
  else .next (i + 1) { p with buf, state := .bulkCR }

/-- The case `Bulk`. -/
def readBulk (p : RedisParser) (ptr : Bytes) (i : Nat) : Iteration :=
  let available : Int := ptr.length - i
  let canRead := min available p.bulkSize
  -- `insert(buf.end(), ptr + i, ptr + canRead)`
  if p.bulkSize ≤ 0 ∨ canRead < i then .undefined
  else
    let p := { p with
      buf := p.buf ++ (ptr.drop i).take (canRead.toNat - i), bulkSize := p.bulkSize - canRead }
    let i := i + canRead.toNat
    if p.bulkSize > 0 then .result i .incompleted p
    else if ptr.length = i then .result i .incompleted { p with state := .bulkCR }
    else .next i { p with state := .bulkCR }

/-- The body of the loop for `c = ptr[i]`. -/
def iterate (p : RedisParser) (ptr : Bytes) (i : Nat) (c : UInt8) : Iteration :=
  match p.state with
  | .start =>
      let p := { p with buf := [] }
      if c = stringReply then .next (i + 1) { p with state := .string }
      else if c = errorReply then .next (i + 1) { p with state := .errorString }
      else if c = integerReply then .next (i + 1) { p with state := .integer }
      else if c = bulkReply then .next (i + 1) { p with state := .bulkSize, bulkSize := 0 }
      else if c = arrayReply then .next (i + 1) { p with state := .arraySize }
      else p.fail i
  | .string => p.readText i c .stringLF
  | .errorString => p.readText i c .errorLF
  | .bulkSize => p.readNumber i c .bulkSizeLF
  | .stringLF => if c = LF then p.complete i (.string p.buf false) else p.fail i
  | .errorLF => if c = LF then p.complete i (.string p.buf true) else p.fail i
  | .bulkSizeLF =>
      if c = LF then
        let bulkSize := strtol p.buf
        let p := { p with bulkSize, buf := [] }
        if bulkSize = -1 then p.complete i .null
        else if bulkSize = 0 then .next (i + 1) { p with state := .bulkCR }
        else if bulkSize < 0 then p.fail i
        else { p with reserved := p.reserved ++ [Reserve.bulk bulkSize] }.beginBulk ptr i
      else p.fail i
  | .bulk => p.readBulk ptr i
  | .bulkCR => if c = CR then .next (i + 1) { p with state := .bulkLF } else p.fail i
  | .bulkLF => if c = LF then p.complete i (.string p.buf false) else p.fail i
  | .arraySize => p.readNumber i c .arraySizeLF
  | .arraySizeLF =>
      if c = LF then
        let arraySize := strtol p.buf
        let p := { p with buf := [] }
        if arraySize = -1 ∨ arraySize = 0 then p.complete i (.array [])
        else if arraySize < 0 then p.fail i
        else
          let p := { p with
            arrayStack := arraySize :: p.arrayStack, valueStack := .array [] :: p.valueStack,
            reserved := p.reserved ++ [Reserve.array arraySize], state := .start }
          if i + 1 ≠ ptr.length then .elements (i + 1) p else .result (i + 1) .incompleted p
      else p.fail i
  | .integer => p.readNumber i c .integerLF
  | .integerLF =>
      if c = LF then { p with buf := [] }.complete i (.int (strtol p.buf)) else p.fail i

/-- What is left of an array goes back onto the stacks. -/
def pushArray (p : RedisParser) (arrayValue : List RedisValue) (arraySize : Int) : RedisParser :=
  { p with
    arrayStack := arraySize :: p.arrayStack, valueStack := .array arrayValue :: p.valueStack }

/-- What a call of the parser returns: how much it has read and the result, with the
parser after it. -/
abbrev Parsed := Nat × ParseResult × RedisParser

mutual

/-- `parse`, `none` if an assertion fails, or if the calls nest deeper than `fuel`. -/
def parseIn : Nat → RedisParser → Bytes → Option Parsed
  | 0, _, _ => none
  | fuel + 1, p, ptr =>
      if p.arrayStack = [] then parseChunk fuel p ptr 0 else parseArray fuel p ptr

/-- The loop of `parseChunk` from `i` on. -/
def parseChunk : Nat → RedisParser → Bytes → Nat → Option Parsed
  | 0, _, _, _ => none
  | fuel + 1, p, ptr, i =>
      match ptr[i]? with
      | none => some (i, .incompleted, p)
      | some c =>
          match p.iterate ptr i c with
          | .next i p => parseChunk fuel p ptr i
          | .result i r p => some (i, r, p)
          | .elements i p =>
              (parseArray fuel p (ptr.drop i)).map fun (first, r, p) => (first + i, r, p)
          | .undefined => none

def parseArray : Nat → RedisParser → Bytes → Option Parsed
  | 0, _, _ => none
  | fuel + 1, p, ptr =>
      match p.arrayStack, p.valueStack with
      | arraySize :: arrayStack, value :: valueStack =>
          let p := { p with arrayStack, valueStack }
          let arrayValue := value.toArray
          if p.arrayStack = [] then parseRest fuel p ptr 0 arrayValue arraySize
          else
            match parseArray fuel p ptr with
            | some (i, .completed, p) =>
                match p.valueStack with
                | value :: valueStack =>
                    parseRest fuel { p with valueStack } ptr i (arrayValue ++ [value])
                      (arraySize - 1)
                | [] => none
            | some (i, r, p) => some (i, r, p.pushArray arrayValue arraySize)
            | none => none
      | _, _ => none

/-- `parseArray` from the test `i == size` on. -/
def parseRest : Nat → RedisParser → Bytes → Nat → List RedisValue → Int → Option Parsed
  | 0, _, _, _, _, _ => none
  | fuel + 1, p, ptr, i, arrayValue, arraySize =>
      if i = ptr.length then
        if arraySize = 0 then
          some (i, .completed, { p with valueStack := .array arrayValue :: p.valueStack })
        else some (i, .incompleted, p.pushArray arrayValue arraySize)
      else parseElements fuel p ptr i arrayValue arraySize

/-- The loop of `parseArray`, with the number of elements that are left. -/
def parseElements : Nat → RedisParser → Bytes → Nat → List RedisValue → Int → Option Parsed
  | 0, _, _, _, _, _ => none
  | fuel + 1, p, ptr, i, arrayValue, arraySize =>
      if 0 < arraySize then
        match parseIn fuel p (ptr.drop i) with
        | some (first, .error, p) => some (i + first, .error, p)
        | some (first, .incompleted, p) =>
            some (i + first, .incompleted, p.pushArray arrayValue arraySize)
        | some (first, .completed, p) =>
            match p.valueStack with
            | value :: valueStack =>
                parseElements fuel { p with valueStack } ptr (i + first) (arrayValue ++ [value])
                  (arraySize - 1)
            | [] => none
        | none => none
      else if arraySize = 0 then
        some (i, .completed, { p with valueStack := .array arrayValue :: p.valueStack })
      else none

end

/-- `parse` -/
def parse (p : RedisParser) (ptr : Bytes) : Option Parsed :=
  parseIn (5 * ptr.length + p.arrayStack.length + 5) p ptr

/-- `result` -/
def result (p : RedisParser) : Option (RedisValue × RedisParser) :=
  match p.valueStack with
  | [] => none
  | value :: valueStack => some (value, { p with valueStack })

end RedisParser

end NatProxy
