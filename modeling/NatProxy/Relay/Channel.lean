import NatProxy.Server.State
import NatProxy.Transition.History

/-!
# The two directions of a channel

A started channel has two coroutines: `uploader`, which authenticates the source and
then forwards its datagrams, and `downloader` for the destination. Both run on the
thread of the channel, so they interleave only where they wait for a socket. The
functions below are the parts of `srcAuth`, `uploader`, `dstAuth` and `downloader`
between two such waits. A socket fills the buffer and the endpoint of a receive when
the datagram arrives, which is before the coroutine resumes.

The session map, the sessions and the display of the counters play no role here;
`stop` is the part of `CChannel::stop` that the coroutines can see.
-/

namespace NatProxy

open Memory

structure Datagram where
  data : Bytes
  sender : Endpoint
  deriving DecidableEq, Repr

/-- What a coroutine waits for. -/
inductive Wait
  /-- `async_receive_from` or `async_receive` is outstanding. -/
  | receive
  /-- It has completed, with a datagram or with an error. -/
  | received (result : Option Datagram)
  /-- `async_send_to` or `async_send` of the first bytes of the buffer; `fails` when
  the socket was closed or had no destination. -/
  | send (bytes : Nat) (dest : Option Endpoint) (fails : Bool)
  deriving DecidableEq, Repr

inductive CoroPc
  | spawned
  /-- In `srcAuth` or `dstAuth`. -/
  | auth (wait : Wait)
  /-- In the loop of `uploader` or `downloader`. -/
  | relay (wait : Wait)
  | exited
  deriving DecidableEq, Repr

structure UdpEnd where
  remoteEp : Endpoint
  /-- `_socket` is open. -/
  isOpen : Bool
  buf : Bytes
  opened : Bool
  deriving DecidableEq, Repr

/-- The members of `CChannel` that the coroutines use, and the coroutines. -/
structure Relay where
  started : Bool
  srcEnd : UdpEnd
  dstEnd : UdpEnd
  /-- The endpoint that the destination socket is connected to. -/
  connected : Option Endpoint
  /-- The variable `ep` of `uploader`. -/
  ep : Endpoint
  uploader : CoroPc
  downloader : CoroPc
  upBytes : UInt64
  upPacks : UInt64
  downBytes : UInt64
  downPacks : UInt64
  deriving DecidableEq, Repr

namespace UdpEnd

/-- The end after `CEnd::init` for a session whose peer has the address. -/
def init (mtu : Nat) (addr : UInt32) : UdpEnd where
  remoteEp := ⟨addr, 0⟩
  isOpen := true
  buf := List.replicate mtu 0
  opened := false

def zeroBuf (e : UdpEnd) : UdpEnd := { e with buf := List.replicate e.buf.length 0 }

def fill (e : UdpEnd) (data : Bytes) : UdpEnd :=
  { e with buf := data ++ e.buf.drop data.length }

def sendTo (e : UdpEnd) (bytes : Nat) (dest : Endpoint) : Wait := .send bytes (some dest) !e.isOpen

end UdpEnd

def doAuth (bytes : Nat) : Bool := decide (bytes > 0)

/-- What the calls that a coroutine makes on its way return: whether the outstanding
send has succeeded, whether `connect` can open a closed socket, and whether it
succeeds. -/
structure Outcome where
  sends : Bool
  opens : Bool
  connects : Bool
  deriving DecidableEq, Repr

namespace Relay

/-- The channel after `init` and `start`, for the addresses of the two peers. -/
def start (mtu : Nat) (src dst : UInt32) : Relay where
  started := true
  srcEnd := .init mtu src
  dstEnd := .init mtu dst
  connected := none
  ep := ⟨0, 0⟩
  uploader := .spawned
  downloader := .spawned
  upBytes := 0
  upPacks := 0
  downBytes := 0
  downPacks := 0

variable (ch : Relay)

/-! `CEnd::stop` of each end, and `CChannel::stop`. -/

def closeSrc : Relay := { ch with srcEnd := { ch.srcEnd with isOpen := false } }

def closeDst : Relay :=
  { ch with dstEnd := { ch.dstEnd with isOpen := false }, connected := none }

def stop : Relay := if ch.started then { ch with started := false }.closeSrc.closeDst else ch

/-! ## The uploader -/

def uploaderLoop : Relay :=
  { ch with uploader := if ch.started then .relay .receive else .exited }

/-- The head of the loop of `srcAuth`, which returns into `uploader`. -/
def srcAuthLoop : Relay :=
  if ch.started && !ch.srcEnd.opened then { ch with uploader := .auth .receive }
  else ch.uploaderLoop

def srcAuthReceived (ec : Bool) (bytes : Nat) : Relay :=
  if ec || bytes == 0 then
    if !ch.srcEnd.isOpen then { ch.stop with uploader := .exited }
    else ch.srcAuthLoop
  else
    let srcEnd :=
      if doAuth bytes && ch.dstEnd.opened then { ch.srcEnd with opened := true }
      else ch.srcEnd.zeroBuf
    { ch with srcEnd, uploader := .auth (srcEnd.sendTo bytes srcEnd.remoteEp) }

def srcAuthSent (ok : Bool) : Relay :=
  if !ok then
    let ch := { ch with srcEnd := { ch.srcEnd with opened := false } }
    if !ch.srcEnd.isOpen then { ch.stop with uploader := .exited }
    else ch.srcAuthLoop
  else ch.srcAuthLoop

/-- `uploader` hands the payload to `async_send`, unless it is a heartbeat. -/
def upload (bytes : Nat) : Relay :=
  if bytes ≤ 2 then ch.uploaderLoop
  else { ch with uploader := .relay (.send bytes ch.connected (ch.connected.isNone)) }

def uploaderReceived (ec : Bool) (bytes : Nat) : Relay :=
  if ec || bytes == 0 then (if !ch.srcEnd.isOpen then ch.stop else ch).uploaderLoop
  else if ch.ep ≠ ch.srcEnd.remoteEp then
    if ch.ep.addr ≠ ch.srcEnd.remoteEp.addr then ch.uploaderLoop
    else
      let remoteEp := { ch.srcEnd.remoteEp with port := ch.ep.port }
      { ch with srcEnd := { ch.srcEnd with remoteEp } }.upload bytes
  else ch.upload bytes

def uploaderSent (bytes : Nat) (ok : Bool) : Relay :=
  if !ok then (if !ch.dstEnd.isOpen then ch.stop else ch).uploaderLoop
  else
    { ch with
      upBytes := ch.upBytes + UInt64.ofNat bytes
      upPacks := ch.upPacks + 1 }.uploaderLoop

/-! ## The downloader -/

def downloaderLoop : Relay :=
  { ch with downloader := if ch.started then .relay .receive else .exited }

/-- `connect`, which opens a closed socket first. An error is only logged. -/
def connect (o : Outcome) : Relay :=
  let isOpen := ch.dstEnd.isOpen || o.opens
  { ch with
    dstEnd := { ch.dstEnd with isOpen }
    connected := if isOpen && o.connects then some ch.dstEnd.remoteEp else ch.connected }

/-- The head of the loop of `dstAuth`, which returns into `downloader`. -/
def dstAuthLoop (o : Outcome) : Relay :=
  if ch.started && !ch.dstEnd.opened then { ch with downloader := .auth .receive }
  else (ch.connect o).downloaderLoop

def dstAuthReceived (o : Outcome) (ec : Bool) (bytes : Nat) : Relay :=
  if ec || bytes == 0 then
    if !ch.dstEnd.isOpen then { ch.stop with downloader := .exited }
    else ch.dstAuthLoop o
  else
    let dstEnd :=
      if doAuth bytes then { ch.dstEnd with opened := true }
      else ch.dstEnd.zeroBuf
    { ch with dstEnd, downloader := .auth (dstEnd.sendTo bytes dstEnd.remoteEp) }

def dstAuthSent (o : Outcome) (ok : Bool) : Relay :=
  if !ok then
    if !ch.dstEnd.isOpen then { ch.stop with downloader := .exited }
    else ch.dstAuthLoop o
  else ch.dstAuthLoop o

def downloaderReceived (ec : Bool) (bytes : Nat) : Relay :=
  if ec || bytes == 0 then (if !ch.dstEnd.isOpen then ch.stop else ch).downloaderLoop
  else if bytes ≤ 2 then ch.downloaderLoop
  else { ch with downloader := .relay (ch.srcEnd.sendTo bytes ch.srcEnd.remoteEp) }

def downloaderSent (bytes : Nat) (ok : Bool) : Relay :=
  if !ok then (if !ch.srcEnd.isOpen then ch.stop else ch).downloaderLoop
  else
    { ch with
      downBytes := ch.downBytes + UInt64.ofNat bytes
      downPacks := ch.downPacks + 1 }.downloaderLoop

/-! ## Steps -/

def bytesOf (result : Option Datagram) : Nat := result.elim 0 fun d => d.data.length

def resumeUploader (o : Outcome) : Option Relay :=
  match ch.uploader with
  | .spawned => some ch.srcAuthLoop
  | .auth (.received result) => some (ch.srcAuthReceived result.isNone (bytesOf result))
  | .auth (.send _ _ fails) => some (ch.srcAuthSent (!fails && o.sends))
  | .relay (.received result) => some (ch.uploaderReceived result.isNone (bytesOf result))
  | .relay (.send bytes _ fails) => some (ch.uploaderSent bytes (!fails && o.sends))
  | _ => none

def resumeDownloader (o : Outcome) : Option Relay :=
  match ch.downloader with
  | .spawned => some (ch.dstAuthLoop o)
  | .auth (.received result) => some (ch.dstAuthReceived o result.isNone (bytesOf result))
  | .auth (.send _ _ fails) => some (ch.dstAuthSent o (!fails && o.sends))
  | .relay (.received result) => some (ch.downloaderReceived result.isNone (bytesOf result))
  | .relay (.send bytes _ fails) => some (ch.downloaderSent bytes (!fails && o.sends))
  | _ => none

/-- A datagram arrives at the source socket, whose receive is outstanding. `srcAuth`
receives the sender into `_remote_ep`, `uploader` into its own variable. -/
def arriveSrc (d : Datagram) : Option Relay :=
  if ch.srcEnd.isOpen ∧ d.data.length ≤ ch.srcEnd.buf.length then
    match ch.uploader with
    | .auth .receive => some { ch with
        srcEnd := { ch.srcEnd.fill d.data with remoteEp := d.sender }
        uploader := .auth (.received (some d)) }
    | .relay .receive => some { ch with
        srcEnd := ch.srcEnd.fill d.data
        ep := d.sender
        uploader := .relay (.received (some d)) }
    | _ => none
  else none

/-- A datagram arrives at the destination socket. `dstAuth` receives the sender into
`_remote_ep`, and `downloader` does not ask for it. -/
def arriveDst (d : Datagram) : Option Relay :=
  if ch.dstEnd.isOpen ∧ d.data.length ≤ ch.dstEnd.buf.length then
    match ch.downloader with
    | .auth .receive => some { ch with
        dstEnd := { ch.dstEnd.fill d.data with remoteEp := d.sender }
        downloader := .auth (.received (some d)) }
    | .relay .receive => some { ch with
        dstEnd := ch.dstEnd.fill d.data
        downloader := .relay (.received (some d)) }
    | _ => none
  else none

variable {ch} {ch' : Relay} {d : Datagram}

/-- `srcAuth` takes the datagram, or the loop of `uploader`. -/
theorem arriveSrc_cases (run : ch.arriveSrc d = some ch') :
    (ch.uploader = .auth .receive ∧ ch' = { ch with
      srcEnd := { ch.srcEnd.fill d.data with remoteEp := d.sender }
      uploader := .auth (.received (some d)) }) ∨
    (ch.uploader = .relay .receive ∧ ch' = { ch with
      srcEnd := ch.srcEnd.fill d.data
      ep := d.sender
      uploader := .relay (.received (some d)) }) := by
  rw [arriveSrc, Option.ite_none_right_eq_some] at run
  obtain ⟨_, run⟩ := run
  split at run
  · next here => exact .inl ⟨here, (Option.some.inj run).symm⟩
  · next here => exact .inr ⟨here, (Option.some.inj run).symm⟩
  · cases run

/-- `dstAuth` takes the datagram, or the loop of `downloader`. -/
theorem arriveDst_cases (run : ch.arriveDst d = some ch') :
    (ch.downloader = .auth .receive ∧ ch' = { ch with
      dstEnd := { ch.dstEnd.fill d.data with remoteEp := d.sender }
      downloader := .auth (.received (some d)) }) ∨
    (ch.downloader = .relay .receive ∧ ch' = { ch with
      dstEnd := ch.dstEnd.fill d.data
      downloader := .relay (.received (some d)) }) := by
  rw [arriveDst, Option.ite_none_right_eq_some] at run
  obtain ⟨_, run⟩ := run
  split at run
  · next here => exact .inl ⟨here, (Option.some.inj run).symm⟩
  · next here => exact .inr ⟨here, (Option.some.inj run).symm⟩
  · cases run

end Relay

def CoroPc.failReceive : CoroPc → Option CoroPc
  | .auth .receive => some (.auth (.received none))
  | .relay .receive => some (.relay (.received none))
  | _ => none

inductive RelayAction
  | arrive (side : Side) (d : Datagram)
  /-- The outstanding receive fails, for one because the socket was closed. -/
  | receiveFails (side : Side)
  /-- The coroutine of the socket resumes. -/
  | resume (side : Side) (o : Outcome)
  /-- A posted `CChannel::stop` runs. -/
  | stop
  /-- The checker of an end closes its socket. -/
  | expire (side : Side)
  deriving DecidableEq, Repr

namespace Relay

def step (ch : Relay) : RelayAction → Option Relay
  | .arrive .src d => ch.arriveSrc d
  | .arrive .dst d => ch.arriveDst d
  | .receiveFails .src => ch.uploader.failReceive.map fun uploader => { ch with uploader }
  | .receiveFails .dst => ch.downloader.failReceive.map fun downloader => { ch with downloader }
  | .resume .src o => ch.resumeUploader o
  | .resume .dst o => ch.resumeDownloader o
  | .stop => some ch.stop
  | .expire .src => some ch.closeSrc
  | .expire .dst => some ch.closeDst

/-- All runs of a channel, for the size of its buffers and the addresses of the peers. -/
def system (mtu : Nat) (src dst : UInt32) : Transition.System Relay RelayAction :=
  .ofStep (fun ch => ch = start mtu src dst) step

end Relay

end NatProxy
