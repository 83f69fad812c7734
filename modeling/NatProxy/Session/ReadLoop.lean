import NatProxy.Transition.System
import NatProxy.Protocol.DecodeSafety

/-!
# The read loop of a session

`doRead` asks for a header, `onReadHead` checks it and asks for the body,
`onReadBody` dispatches the frame, consumes it and calls `doRead` again. Both
reads append to one buffer `_rbuf`. An `async_read` with `transfer_exactly(k)`
either delivers exactly the next `k` bytes or fails, and its handler runs some
time after it completed, so an operation is outstanding, completed with its
handler queued, or absent.

The operations are those of `CSession` on the fields they touch; the session
itself is built from them. `Reader` closes the loop over a byte stream, with
dispatch reduced to a record of the buffer that the switch was reached with.
-/

namespace NatProxy

open Memory

/-- The two reads of the loop. -/
inductive Part
  | head
  | body
  deriving DecidableEq, Repr

/-- The read operation of a session. -/
inductive ReadOp
  | none
  /-- An `async_read` is outstanding. -/
  | reading (part : Part)
  /-- It has completed; its handler is queued with these arguments. -/
  | done (part : Part) (ec : Bool) (bytes : Nat)
  deriving DecidableEq, Repr

/-- `_rbuf`, `_hdr` and the read operation. -/
structure ReadLoop where
  rbuf : Bytes
  hdr : TagPktHdr
  op : ReadOp
  deriving DecidableEq, Repr

namespace ReadLoop

def new : ReadLoop := ⟨[], .zero, .none⟩

/-- The number of bytes that an `async_read` asks for. -/
def need (r : ReadLoop) : Part → Nat
  | .head => TagPktHdr.size
  | .body => r.hdr.usBodyLen.toNat

/-- Start an `async_read`. On a closed socket it completes with an error. -/
def asyncRead (r : ReadLoop) (isOpen : Bool) (part : Part) : ReadLoop :=
  { r with op := if isOpen then .reading part else .done part true 0 }

/-- The outstanding read completes with exactly the bytes it asked for. -/
def deliver (r : ReadLoop) (data : Bytes) : Option ReadLoop :=
  match r.op with
  | .reading part =>
      if data.length = r.need part then
        some { r with rbuf := r.rbuf ++ data, op := .done part false data.length }
      else none
  | _ => none

/-- The outstanding read fails, because of the connection or because the socket
was closed. A completion that is already queued is not affected. -/
def fail (r : ReadLoop) : ReadLoop :=
  match r.op with
  | .reading part => { r with op := .done part true 0 }
  | _ => r

/-- `CSession::doRead`. -/
def doRead (r : ReadLoop) (started isOpen : Bool) : ReadLoop :=
  if started then r.asyncRead isOpen .head else r

/-- `CSession::checkHead`: a bad header is cleared and consumed. -/
def checkHead (r : ReadLoop) : Bool × ReadLoop :=
  let hdr := TagPktHdr.ofBytes r.rbuf
  if hdr.valid then (true, { r with hdr })
  else (false, { r with hdr := .zero, rbuf := r.rbuf.drop TagPktHdr.size })

/-- `CSession::onReadHead`; the flag tells whether it ends in `stop`. -/
def onReadHead (r : ReadLoop) (isOpen ec : Bool) (bytes : Nat) : Bool × ReadLoop :=
  if ec || bytes == 0 then (true, r)
  else
    match r.checkHead with
    | (false, r) => (true, r)
    | (true, r) => (false, r.asyncRead isOpen .body)

/-- The test at the top of `CSession::onReadBody`. -/
def bodyFails (ec : Bool) (bytes : Nat) : Bool := ec || bytes == 0

/-- The end of `CSession::onReadBody`, after the handler. -/
def finishBody (r : ReadLoop) (started isOpen : Bool) : ReadLoop :=
  let r := { r with rbuf := r.rbuf.drop (TagPktHdr.size + r.hdr.usBodyLen.toNat) }
  r.doRead started isOpen

/-- A failed header leaves the session without a read. -/
theorem op_of_onReadHead {r r' : ReadLoop} {isOpen ec : Bool} {bytes : Nat} (taken : r.op = .none)
    (fails : r.onReadHead isOpen ec bytes = (true, r')) : r'.op = .none := by
  rw [onReadHead] at fails
  split at fails
  · cases fails
    exact taken
  · rw [checkHead] at fails
    split at fails
    · next rest bad =>
      cases fails
      split at bad
      · cases bad
      · cases bad
        exact taken
    · cases fails

/-- On a closed socket the read of the body fails. -/
theorem op_of_onReadHead_closed {r r' : ReadLoop} {ec : Bool} {bytes : Nat}
    (checked : r.onReadHead false ec bytes = (false, r')) : r'.op = .done .body true 0 := by
  rw [onReadHead] at checked
  split at checked
  · cases checked
  · split at checked
    · cases checked
    · cases checked
      rfl

end ReadLoop

/-- A session that only reads: the loop, `_started`, the bytes that the peer has
still to send, and the buffer contents at each dispatch. -/
structure Reader where
  loop : ReadLoop
  started : Bool
  input : Bytes
  dispatched : List Bytes
  deriving DecidableEq, Repr

namespace Reader

/-- `start` on an empty buffer. -/
def start (input : Bytes) : Reader where
  loop := ReadLoop.new.doRead true true
  started := true
  input := input
  dispatched := []

/-- Run the queued handler, or let the outstanding read take its bytes. -/
def next (s : Reader) : Option Reader :=
  match s.loop.op with
  | .none => none
  | .reading part =>
      (s.loop.deliver (s.input.take (s.loop.need part))).map fun loop =>
        { s with loop, input := s.input.drop (s.loop.need part) }
  | .done .head ec bytes =>
      let loop := { s.loop with op := .none }
      match loop.onReadHead s.started ec bytes with
      | (true, loop) => some { s with loop, started := false }
      | (false, loop) => some { s with loop }
  | .done .body ec bytes =>
      let loop := { s.loop with op := .none }
      if ReadLoop.bodyFails ec bytes then some { s with loop, started := false }
      else some { s with
        loop := loop.finishBody s.started s.started
        dispatched := s.dispatched ++ [loop.rbuf] }

end Reader

/-- A frame on the wire: any header, and exactly the body that it announces. -/
structure Frame where
  hdr : TagPktHdr
  body : Bytes
  length_body : body.length = hdr.usBodyLen.toNat
  deriving DecidableEq

namespace Frame

def bytes (f : Frame) : Bytes := f.hdr.toBytes ++ f.body

theorem length_bytes (f : Frame) : f.bytes.length = TagPktHdr.size + f.hdr.usBodyLen.toNat := by
  rw [bytes, List.length_append, TagPktHdr.length_toBytes, f.length_body]

/-- The bytes of frames sent back to back. -/
def stream (fs : List Frame) : Bytes := fs.flatMap bytes

end Frame

end NatProxy
