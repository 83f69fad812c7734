import NatProxy.Relay.Channel

/-!
# The flow of datagrams

`Flow` is the part of a channel that decides where its datagrams go: the endpoints,
buffers and flags of the two ends, the positions of the coroutines and the counters.
Whether the channel is started and which sockets are open only selects among the
steps that `Flow.Step` allows. `Relay.step_flow` connects the two, together with what
an observer sees of a step.
-/

namespace NatProxy

open Memory Transition

/-- What an observer sees of a channel. -/
inductive RelayEvent
  /-- An authentication loop accepts a datagram and sets `_opened`. -/
  | authenticated (side : Side) (d : Datagram)
  /-- The loop of `uploader` or `downloader` takes a datagram that is not empty. -/
  | received (side : Side) (d : Datagram)
  /-- A payload is handed to a send call, with the flags of the two ends. -/
  | issued (side : Side) (data : Bytes) (dest : Option Endpoint) (srcOpened dstOpened : Bool)
  /-- The send of a payload is over, with the bytes that the buffer has then. -/
  | finished (side : Side) (data : Bytes) (ok : Bool)
  deriving DecidableEq, Repr

namespace Relay

/-- What the uploader finds when it resumes. -/
def foundUploader (ch : Relay) (o : Outcome) : List RelayEvent :=
  match ch.uploader with
  | .auth (.received (some d)) =>
      if doAuth d.data.length && ch.dstEnd.opened then [.authenticated .src d] else []
  | .relay (.received (some d)) => if d.data = [] then [] else [.received .src d]
  | .relay (.send bytes _ fails) =>
      [.finished .src (ch.srcEnd.buf.take bytes) (!fails && o.sends)]
  | _ => []

/-- What the downloader finds when it resumes. -/
def foundDownloader (ch : Relay) (o : Outcome) : List RelayEvent :=
  match ch.downloader with
  | .auth (.received (some d)) => if doAuth d.data.length then [.authenticated .dst d] else []
  | .relay (.received (some d)) => if d.data = [] then [] else [.received .dst d]
  | .relay (.send bytes _ fails) =>
      [.finished .dst (ch.dstEnd.buf.take bytes) (!fails && o.sends)]
  | _ => []

/-- The payload that the uploader has handed to the send call it waits for. -/
def handedUp (ch : Relay) : List RelayEvent :=
  match ch.uploader with
  | .relay (.send bytes dest _) =>
      [.issued .src (ch.srcEnd.buf.take bytes) dest ch.srcEnd.opened ch.dstEnd.opened]
  | _ => []

/-- The payload that the downloader has handed to the send call it waits for. -/
def handedDown (ch : Relay) : List RelayEvent :=
  match ch.downloader with
  | .relay (.send bytes dest _) =>
      [.issued .dst (ch.dstEnd.buf.take bytes) dest ch.srcEnd.opened ch.dstEnd.opened]
  | _ => []

/-- What a step shows: what the coroutine finds, and what it hands to a send call
before it waits again. -/
def observe (ch : Relay) (a : RelayAction) : List RelayEvent :=
  match a with
  | .resume .src o => ch.foundUploader o ++ (ch.step a).elim [] handedUp
  | .resume .dst o => ch.foundDownloader o ++ (ch.step a).elim [] handedDown
  | _ => []

end Relay

/-! ## The view -/

/-- An end without its socket. -/
structure FlowEnd where
  remoteEp : Endpoint
  buf : Bytes
  opened : Bool

structure Flow where
  src : FlowEnd
  dst : FlowEnd
  ep : Endpoint
  uploader : CoroPc
  downloader : CoroPc
  upBytes : UInt64
  upPacks : UInt64
  downBytes : UInt64
  downPacks : UInt64

namespace FlowEnd

/-- A datagram is written into the buffer. -/
def fill (e : FlowEnd) (data : Bytes) : FlowEnd :=
  { e with buf := data ++ e.buf.drop data.length }

def zeroBuf (e : FlowEnd) : FlowEnd := { e with buf := List.replicate e.buf.length 0 }

/-- The sender of an accepted datagram may have changed its port. -/
def port (e : FlowEnd) (port : UInt16) : FlowEnd :=
  { e with remoteEp := { e.remoteEp with port } }

end FlowEnd

/-- Where a coroutine continues at the head of its authentication loop. -/
def AuthHead (opened : Bool) (pc : CoroPc) : Prop :=
  pc = .auth .receive ∧ opened = false ∨ pc = .relay .receive ∧ opened = true ∨ pc = .exited

/-- Where a coroutine continues at the head of its relay loop. -/
def RelayHead (pc : CoroPc) : Prop := pc = .relay .receive ∨ pc = .exited

theorem failReceive_eq_some {pc pc' : CoroPc} (failed : pc.failReceive = some pc') :
    pc = .auth .receive ∧ pc' = .auth (.received none) ∨
      pc = .relay .receive ∧ pc' = .relay (.received none) := by
  unfold CoroPc.failReceive at failed
  split at failed
  · exact .inl ⟨rfl, (Option.some.inj failed).symm⟩
  · exact .inr ⟨rfl, (Option.some.inj failed).symm⟩
  · cases failed

/-- A coroutine that is about to test the condition of its authentication loop. -/
def CoroPc.Retries (pc : CoroPc) : Prop :=
  pc = .spawned ∨ (∃ result, pc = .auth (.received result) ∧ Relay.bytesOf result = 0) ∨
    ∃ bytes dest fails, pc = .auth (.send bytes dest fails)

namespace Flow

/-- What a step of the channel does to the flow, and what it shows. -/
inductive Step : Flow → List RelayEvent → Flow → Prop
  | control {f} : Step f [] f
  -- the sockets
  | srcAuthArrives {f d} (here : f.uploader = .auth .receive) :
      Step f [] { f with
        src := { f.src.fill d.data with remoteEp := d.sender }
        uploader := .auth (.received (some d)) }
  | srcArrives {f d} (here : f.uploader = .relay .receive) :
      Step f [] { f with
        src := f.src.fill d.data
        ep := d.sender
        uploader := .relay (.received (some d)) }
  | srcFails {f pc} (failed : f.uploader.failReceive = some pc) :
    Step f [] { f with uploader := pc }
  | dstAuthArrives {f d} (here : f.downloader = .auth .receive) :
      Step f [] { f with
        dst := { f.dst.fill d.data with remoteEp := d.sender }
        downloader := .auth (.received (some d)) }
  | dstArrives {f d} (here : f.downloader = .relay .receive) :
      Step f [] { f with
        dst := f.dst.fill d.data
        downloader := .relay (.received (some d)) }
  | dstFails {f pc} (failed : f.downloader.failReceive = some pc) :
      Step f [] { f with downloader := pc }
  -- `srcAuth`
  | srcAuth {f pc} (retries : f.uploader.Retries) (head : AuthHead f.src.opened pc) :
      Step f [] { f with uploader := pc }
  | srcRevoked {f pc bytes dest fails} (here : f.uploader = .auth (.send bytes dest fails))
      (head : AuthHead false pc) :
      Step f [] { f with src := { f.src with opened := false }, uploader := pc }
  | srcAccepts {f d fails} (here : f.uploader = .auth (.received (some d))) (full : d.data ≠ [])
      (opened : f.dst.opened = true) :
      Step f [.authenticated .src d] { f with
        src := { f.src with opened := true }
        uploader := .auth (.send d.data.length (some f.src.remoteEp) fails) }
  | srcRejects {f d fails} (here : f.uploader = .auth (.received (some d))) (full : d.data ≠ [])
      (closed : f.dst.opened = false) :
      Step f [] { f with
        src := f.src.zeroBuf
        uploader := .auth (.send d.data.length (some f.src.remoteEp) fails) }
  -- `uploader`
  | uploadEmpty {f pc result} (here : f.uploader = .relay (.received result))
      (empty : Relay.bytesOf result = 0) (head : RelayHead pc) : Step f [] { f with uploader := pc }
  | uploadRefused {f pc d} (here : f.uploader = .relay (.received (some d))) (full : d.data ≠ [])
      (other : f.ep.addr ≠ f.src.remoteEp.addr) (head : RelayHead pc) :
      Step f [.received .src d] { f with uploader := pc }
  | uploadShort {f pc d} (here : f.uploader = .relay (.received (some d))) (full : d.data ≠ [])
      (same : f.ep.addr = f.src.remoteEp.addr) (short : d.data.length ≤ 2) (head : RelayHead pc) :
      Step f [.received .src d] { f with src := f.src.port f.ep.port, uploader := pc }
  | upload {f d dest fails} (here : f.uploader = .relay (.received (some d)))
      (same : f.ep.addr = f.src.remoteEp.addr) (long : 2 < d.data.length) :
      Step f [.received .src d,
          .issued .src (f.src.buf.take d.data.length) dest f.src.opened f.dst.opened]
        { f with
          src := f.src.port f.ep.port
          uploader := .relay (.send d.data.length dest fails) }
  | uploadFails {f pc bytes dest fails} (here : f.uploader = .relay (.send bytes dest fails))
      (head : RelayHead pc) :
      Step f [.finished .src (f.src.buf.take bytes) false] { f with uploader := pc }
  | uploaded {f pc bytes dest fails} (here : f.uploader = .relay (.send bytes dest fails))
      (head : RelayHead pc) :
      Step f [.finished .src (f.src.buf.take bytes) true] { f with
        uploader := pc
        upBytes := f.upBytes + UInt64.ofNat bytes
        upPacks := f.upPacks + 1 }
  -- `dstAuth`
  | dstAuth {f pc} (retries : f.downloader.Retries) (head : AuthHead f.dst.opened pc) :
      Step f [] { f with downloader := pc }
  | dstAccepts {f d fails} (here : f.downloader = .auth (.received (some d))) (full : d.data ≠ []) :
      Step f [.authenticated .dst d] { f with
        dst := { f.dst with opened := true }
        downloader := .auth (.send d.data.length (some f.dst.remoteEp) fails) }
  -- `downloader`
  | downloadEmpty {f pc result} (here : f.downloader = .relay (.received result))
      (empty : Relay.bytesOf result = 0) (head : RelayHead pc) :
      Step f [] { f with downloader := pc }
  | downloadShort {f pc d} (here : f.downloader = .relay (.received (some d))) (full : d.data ≠ [])
      (short : d.data.length ≤ 2) (head : RelayHead pc) :
      Step f [.received .dst d] { f with downloader := pc }
  | download {f d fails} (here : f.downloader = .relay (.received (some d)))
      (long : 2 < d.data.length) :
      Step f [.received .dst d, .issued .dst (f.dst.buf.take d.data.length)
          (some f.src.remoteEp) f.src.opened f.dst.opened]
        { f with downloader := .relay (.send d.data.length (some f.src.remoteEp) fails) }
  | downloadFails {f pc bytes dest fails} (here : f.downloader = .relay (.send bytes dest fails))
      (head : RelayHead pc) :
      Step f [.finished .dst (f.dst.buf.take bytes) false] { f with downloader := pc }
  | downloaded {f pc bytes dest fails} (here : f.downloader = .relay (.send bytes dest fails))
      (head : RelayHead pc) :
      Step f [.finished .dst (f.dst.buf.take bytes) true] { f with
        downloader := pc
        downBytes := f.downBytes + UInt64.ofNat bytes
        downPacks := f.downPacks + 1 }

end Flow

def UdpEnd.flow (e : UdpEnd) : FlowEnd := ⟨e.remoteEp, e.buf, e.opened⟩

namespace Relay

def flow (ch : Relay) : Flow where
  src := ch.srcEnd.flow
  dst := ch.dstEnd.flow
  ep := ch.ep
  uploader := ch.uploader
  downloader := ch.downloader
  upBytes := ch.upBytes
  upPacks := ch.upPacks
  downBytes := ch.downBytes
  downPacks := ch.downPacks

variable (ch : Relay)

@[simp] theorem flow_closeSrc : ch.closeSrc.flow = ch.flow := rfl

@[simp] theorem flow_closeDst : ch.closeDst.flow = ch.flow := rfl

@[simp] theorem flow_stop : ch.stop.flow = ch.flow := by
  rw [stop]
  split <;> rfl

@[simp] theorem flow_stopIf (closed : Bool) :
    (if closed then ch.stop else ch).flow = ch.flow := by
  split
  · exact ch.flow_stop
  · rfl

@[simp] theorem flow_connect (o : Outcome) : (ch.connect o).flow = ch.flow := rfl

@[simp] theorem flow_uploader (pc : CoroPc) :
    ({ ch with uploader := pc } : Relay).flow = { ch.flow with uploader := pc } := rfl

@[simp] theorem flow_downloader (pc : CoroPc) :
    ({ ch with downloader := pc } : Relay).flow = { ch.flow with downloader := pc } := rfl

/-- The loop of `uploader` goes on or ends. -/
theorem uploaderLoop_flow : ∃ pc, RelayHead pc ∧
    ch.uploaderLoop.flow = { ch.flow with uploader := pc } ∧ ch.uploaderLoop.handedUp = [] := by
  rw [uploaderLoop]
  split
  · exact ⟨_, .inl rfl, rfl, rfl⟩
  · exact ⟨_, .inr rfl, rfl, rfl⟩

/-- The loop of `srcAuth` goes on, or `srcAuth` returns into the loop of `uploader`. -/
theorem srcAuthLoop_flow : ∃ pc, AuthHead ch.srcEnd.opened pc ∧
    ch.srcAuthLoop.flow = { ch.flow with uploader := pc } ∧ ch.srcAuthLoop.handedUp = [] := by
  rw [srcAuthLoop]
  split
  · next enters =>
      simp only [Bool.and_eq_true, Bool.not_eq_true'] at enters
      exact ⟨_, .inl ⟨rfl, enters.2⟩, rfl, rfl⟩
  · next leaves =>
      rw [uploaderLoop]
      by_cases started : ch.started
      · simp only [started, Bool.true_and, Bool.not_eq_true, Bool.not_eq_false'] at leaves
        rw [if_pos started]
        exact ⟨_, .inr (.inl ⟨rfl, leaves⟩), rfl, rfl⟩
      · rw [if_neg started]
        exact ⟨_, .inr (.inr rfl), rfl, rfl⟩

/-- `srcAuth` after an error. -/
theorem srcAuthError_flow (next : Relay)
    (eq : next = if !ch.srcEnd.isOpen then { ch.stop with uploader := .exited }
      else ch.srcAuthLoop) : ∃ pc, AuthHead ch.srcEnd.opened pc ∧
    next.flow = { ch.flow with uploader := pc } ∧ next.handedUp = [] := by
  subst eq
  split
  · refine ⟨.exited, .inr (.inr rfl), ?_, rfl⟩
    rw [flow_uploader, flow_stop]
  · exact ch.srcAuthLoop_flow

/-- `uploader` after an error, which may have ended in `stop`. -/
theorem uploaderError_flow (isOpen : Bool) (next : Relay)
    (eq : next = (if !isOpen then ch.stop else ch).uploaderLoop) : ∃ pc, RelayHead pc ∧
    next.flow = { ch.flow with uploader := pc } ∧ next.handedUp = [] := by
  subst eq
  obtain ⟨pc, head, flow, handed⟩ := (if !isOpen then ch.stop else ch).uploaderLoop_flow
  rw [flow_stopIf] at flow
  exact ⟨pc, head, flow, handed⟩

/-- `downloader` and `dstAuth` alike. -/
theorem downloaderLoop_flow : ∃ pc, RelayHead pc ∧
    ch.downloaderLoop.flow = { ch.flow with downloader := pc } ∧
      ch.downloaderLoop.handedDown = [] := by
  rw [downloaderLoop]
  split
  · exact ⟨_, .inl rfl, rfl, rfl⟩
  · exact ⟨_, .inr rfl, rfl, rfl⟩

theorem dstAuthLoop_flow (o : Outcome) : ∃ pc, AuthHead ch.dstEnd.opened pc ∧
    (ch.dstAuthLoop o).flow = { ch.flow with downloader := pc } ∧
      (ch.dstAuthLoop o).handedDown = [] := by
  rw [dstAuthLoop]
  split
  · next enters =>
      simp only [Bool.and_eq_true, Bool.not_eq_true'] at enters
      exact ⟨_, .inl ⟨rfl, enters.2⟩, rfl, rfl⟩
  · next leaves =>
      rw [downloaderLoop]
      by_cases started : ch.started
      · simp only [started, Bool.true_and, Bool.not_eq_true, Bool.not_eq_false'] at leaves
        have enters : (ch.connect o).started = true := started
        rw [if_pos enters]
        exact ⟨_, .inr (.inl ⟨rfl, leaves⟩), rfl, rfl⟩
      · have ends : ¬ (ch.connect o).started = true := started
        rw [if_neg ends]
        exact ⟨_, .inr (.inr rfl), rfl, rfl⟩

theorem dstAuthError_flow (o : Outcome) (next : Relay)
    (eq : next = if !ch.dstEnd.isOpen then { ch.stop with downloader := .exited }
      else ch.dstAuthLoop o) : ∃ pc, AuthHead ch.dstEnd.opened pc ∧
    next.flow = { ch.flow with downloader := pc } ∧ next.handedDown = [] := by
  subst eq
  split
  · refine ⟨.exited, .inr (.inr rfl), ?_, rfl⟩
    rw [flow_downloader, flow_stop]
  · exact ch.dstAuthLoop_flow o

theorem downloaderError_flow (isOpen : Bool) (next : Relay)
    (eq : next = (if !isOpen then ch.stop else ch).downloaderLoop) : ∃ pc, RelayHead pc ∧
    next.flow = { ch.flow with downloader := pc } ∧ next.handedDown = [] := by
  subst eq
  obtain ⟨pc, head, flow, handed⟩ := (if !isOpen then ch.stop else ch).downloaderLoop_flow
  rw [flow_stopIf] at flow
  exact ⟨pc, head, flow, handed⟩

variable {ch} {ch' : Relay} {o : Outcome}

/-- A receive failed or returned an empty datagram, or it returned one with data. -/
theorem received_cases (result : Option Datagram) :
    bytesOf result = 0 ∧ (result.isNone || bytesOf result == 0) = true ∨
      ∃ d, result = some d ∧ d.data ≠ [] ∧
        ¬ ((some d).isNone || bytesOf (some d) == 0) = true := by
  cases result with
  | none => exact .inl ⟨rfl, rfl⟩
  | some d =>
      by_cases empty : d.data = []
      · exact .inl (by simp [bytesOf, empty])
      · exact .inr ⟨d, rfl, empty, by simp [bytesOf, empty]⟩

theorem doAuth_of_ne_nil {data : Bytes} (full : data ≠ []) : doAuth data.length = true := by
  simp [doAuth, List.length_pos_iff, full]

/-- A receive without data shows nothing. -/
theorem foundUploader_empty {result : Option Datagram} (empty : bytesOf result = 0)
    (here : ch.uploader = .auth (.received result) ∨ ch.uploader = .relay (.received result)) :
    ch.foundUploader o = [] := by
  cases result with
  | none => obtain here | here := here <;> simp [foundUploader, here]
  | some d =>
      have nil : d.data = [] := List.eq_nil_of_length_eq_zero empty
      obtain here | here := here <;> simp [foundUploader, here, doAuth, nil]

theorem foundDownloader_empty {result : Option Datagram} (empty : bytesOf result = 0)
    (here : ch.downloader = .auth (.received result) ∨
      ch.downloader = .relay (.received result)) : ch.foundDownloader o = [] := by
  cases result with
  | none => obtain here | here := here <;> simp [foundDownloader, here]
  | some d =>
      have nil : d.data = [] := List.eq_nil_of_length_eq_zero empty
      obtain here | here := here <;> simp [foundDownloader, here, doAuth, nil]

theorem srcAuthReceived_flow {result : Option Datagram}
    (here : ch.uploader = .auth (.received result))
    (eq : ch' = ch.srcAuthReceived result.isNone (bytesOf result)) :
    Flow.Step ch.flow (ch.foundUploader o ++ ch'.handedUp) ch'.flow := by
  rw [srcAuthReceived] at eq
  obtain ⟨empty, failed⟩ | ⟨d, rfl, full, received⟩ := received_cases result
  · rw [if_pos failed] at eq
    obtain ⟨pc, head, flow, handed⟩ := ch.srcAuthError_flow ch' eq
    rw [foundUploader_empty empty (.inl here), handed, flow]
    exact .srcAuth (.inr (.inl ⟨result, here, empty⟩)) head
  · rw [if_neg received] at eq
    subst eq
    cases opened : ch.dstEnd.opened with
    | true =>
        simp only [foundUploader, here, doAuth_of_ne_nil full, opened, Bool.and_self, if_true,
          bytesOf, Option.elim]
        exact .srcAccepts here full opened
    | false =>
        simp only [foundUploader, here, doAuth_of_ne_nil full, opened, Bool.and_false,
          Bool.false_eq_true, if_false, bytesOf, Option.elim]
        exact .srcRejects here full opened

theorem srcAuthSent_flow {bytes : Nat} {dest : Option Endpoint} {fails ok : Bool}
    (here : ch.uploader = .auth (.send bytes dest fails)) (eq : ch' = ch.srcAuthSent ok) :
    Flow.Step ch.flow (ch.foundUploader o ++ ch'.handedUp) ch'.flow := by
  have nothing : ch.foundUploader o = [] := by simp [foundUploader, here]
  rw [srcAuthSent] at eq
  cases ok with
  | true =>
      obtain ⟨pc, head, flow, handed⟩ := ch.srcAuthLoop_flow
      have same : ch' = ch.srcAuthLoop := eq
      rw [nothing, same, handed, flow]
      exact .srcAuth (.inr (.inr ⟨bytes, dest, fails, here⟩)) head
  | false =>
      obtain ⟨pc, head, flow, handed⟩ := srcAuthError_flow _ ch' eq
      rw [nothing, handed, flow]
      exact .srcRevoked here head

theorem uploaderReceived_flow {result : Option Datagram}
    (here : ch.uploader = .relay (.received result))
    (eq : ch' = ch.uploaderReceived result.isNone (bytesOf result)) :
    Flow.Step ch.flow (ch.foundUploader o ++ ch'.handedUp) ch'.flow := by
  rw [uploaderReceived] at eq
  obtain ⟨empty, failed⟩ | ⟨d, rfl, full, received⟩ := received_cases result
  · rw [if_pos failed] at eq
    obtain ⟨pc, head, flow, handed⟩ := ch.uploaderError_flow _ ch' eq
    rw [foundUploader_empty empty (.inr here), handed, flow]
    exact .uploadEmpty here empty head
  · rw [if_neg received] at eq
    have found : ch.foundUploader o = [.received .src d] := by
      simp [foundUploader, here, full]
    rw [found]
    by_cases same : ch.ep.addr = ch.srcEnd.remoteEp.addr
    · -- whether the port has changed or not, it is the one of the sender afterwards
      have ported : ch' = Relay.upload { ch with srcEnd := { ch.srcEnd with
          remoteEp := { ch.srcEnd.remoteEp with port := ch.ep.port } } } d.data.length := by
        split at eq
        · rw [if_neg (not_not_intro same)] at eq
          exact eq
        · next unchanged =>
            have port : ch.ep.port = ch.srcEnd.remoteEp.port :=
              congrArg _ (not_not.mp unchanged)
            rw [port]
            exact eq
      rw [upload] at ported
      by_cases short : d.data.length ≤ 2
      · rw [if_pos short] at ported
        obtain ⟨pc, head, flow, handed⟩ := uploaderLoop_flow _
        rw [ported, handed, flow]
        exact .uploadShort here full same short head
      · rw [if_neg short] at ported
        subst ported
        exact .upload here same (Nat.lt_of_not_le short)
    · have other : ch.ep ≠ ch.srcEnd.remoteEp := fun equal => same (congrArg _ equal)
      rw [if_pos other, if_pos same] at eq
      obtain ⟨pc, head, flow, handed⟩ := ch.uploaderLoop_flow
      rw [eq, handed, flow]
      exact .uploadRefused here full same head

theorem uploaderSent_flow {bytes : Nat} {dest : Option Endpoint} {fails : Bool}
    (here : ch.uploader = .relay (.send bytes dest fails))
    (eq : ch' = ch.uploaderSent bytes (!fails && o.sends)) :
    Flow.Step ch.flow (ch.foundUploader o ++ ch'.handedUp) ch'.flow := by
  have found : ch.foundUploader o =
      [.finished .src (ch.srcEnd.buf.take bytes) (!fails && o.sends)] := by
    simp [foundUploader, here]
  rw [found]
  rw [uploaderSent] at eq
  cases ok : !fails && o.sends with
  | true =>
      rw [ok] at eq
      obtain ⟨pc, head, flow, handed⟩ := uploaderLoop_flow { ch with
        upBytes := ch.upBytes + UInt64.ofNat bytes
        upPacks := ch.upPacks + 1 }
      have same : ch' = uploaderLoop _ := eq
      rw [same, handed, flow]
      exact .uploaded here head
  | false =>
      rw [ok] at eq
      obtain ⟨pc, head, flow, handed⟩ := ch.uploaderError_flow _ ch' eq
      rw [handed, flow]
      exact .uploadFails here head

theorem resumeUploader_flow (run : ch.resumeUploader o = some ch') :
    Flow.Step ch.flow (ch.foundUploader o ++ ch'.handedUp) ch'.flow := by
  rw [resumeUploader] at run
  split at run
  · next here =>
      obtain ⟨pc, head, flow, handed⟩ := ch.srcAuthLoop_flow
      obtain rfl := Option.some.inj run
      have nothing : ch.foundUploader o = [] := by simp [foundUploader, here]
      rw [nothing, handed, flow]
      exact .srcAuth (.inl here) head
  · next here => exact srcAuthReceived_flow here (Option.some.inj run).symm
  · next here => exact srcAuthSent_flow here (Option.some.inj run).symm
  · next here => exact uploaderReceived_flow here (Option.some.inj run).symm
  · next here => exact uploaderSent_flow here (Option.some.inj run).symm
  · cases run

theorem dstAuthReceived_flow {result : Option Datagram}
    (here : ch.downloader = .auth (.received result))
    (eq : ch' = ch.dstAuthReceived o result.isNone (bytesOf result)) :
    Flow.Step ch.flow (ch.foundDownloader o ++ ch'.handedDown) ch'.flow := by
  rw [dstAuthReceived] at eq
  obtain ⟨empty, failed⟩ | ⟨d, rfl, full, received⟩ := received_cases result
  · rw [if_pos failed] at eq
    obtain ⟨pc, head, flow, handed⟩ := ch.dstAuthError_flow o ch' eq
    rw [foundDownloader_empty empty (.inl here), handed, flow]
    exact .dstAuth (.inr (.inl ⟨result, here, empty⟩)) head
  · rw [if_neg received] at eq
    subst eq
    simp only [foundDownloader, here, doAuth_of_ne_nil full, if_true, bytesOf, Option.elim]
    exact .dstAccepts here full

theorem dstAuthSent_flow {bytes : Nat} {dest : Option Endpoint} {fails ok : Bool}
    (here : ch.downloader = .auth (.send bytes dest fails)) (eq : ch' = ch.dstAuthSent o ok) :
    Flow.Step ch.flow (ch.foundDownloader o ++ ch'.handedDown) ch'.flow := by
  have nothing : ch.foundDownloader o = [] := by simp [foundDownloader, here]
  rw [dstAuthSent] at eq
  have continues : ∃ pc, AuthHead ch.dstEnd.opened pc ∧
      ch'.flow = { ch.flow with downloader := pc } ∧ ch'.handedDown = [] := by
    cases ok with
    | true =>
        obtain rfl : ch' = ch.dstAuthLoop o := eq
        exact ch.dstAuthLoop_flow o
    | false => exact ch.dstAuthError_flow o ch' eq
  obtain ⟨pc, head, flow, handed⟩ := continues
  rw [nothing, handed, flow]
  exact .dstAuth (.inr (.inr ⟨bytes, dest, fails, here⟩)) head

theorem downloaderReceived_flow {result : Option Datagram}
    (here : ch.downloader = .relay (.received result))
    (eq : ch' = ch.downloaderReceived result.isNone (bytesOf result)) :
    Flow.Step ch.flow (ch.foundDownloader o ++ ch'.handedDown) ch'.flow := by
  rw [downloaderReceived] at eq
  obtain ⟨empty, failed⟩ | ⟨d, rfl, full, received⟩ := received_cases result
  · rw [if_pos failed] at eq
    obtain ⟨pc, head, flow, handed⟩ := ch.downloaderError_flow _ ch' eq
    rw [foundDownloader_empty empty (.inr here), handed, flow]
    exact .downloadEmpty here empty head
  · rw [if_neg received] at eq
    have found : ch.foundDownloader o = [.received .dst d] := by
      simp [foundDownloader, here, full]
    rw [found]
    by_cases short : d.data.length ≤ 2
    · have same : ch' = ch.downloaderLoop := eq.trans (if_pos short)
      obtain ⟨pc, head, flow, handed⟩ := ch.downloaderLoop_flow
      rw [same, handed, flow]
      exact .downloadShort here full short head
    · obtain rfl := eq.trans (if_neg short)
      exact .download here (Nat.lt_of_not_le short)

theorem downloaderSent_flow {bytes : Nat} {dest : Option Endpoint} {fails : Bool}
    (here : ch.downloader = .relay (.send bytes dest fails))
    (eq : ch' = ch.downloaderSent bytes (!fails && o.sends)) :
    Flow.Step ch.flow (ch.foundDownloader o ++ ch'.handedDown) ch'.flow := by
  have found : ch.foundDownloader o =
      [.finished .dst (ch.dstEnd.buf.take bytes) (!fails && o.sends)] := by
    simp [foundDownloader, here]
  rw [found]
  rw [downloaderSent] at eq
  cases ok : !fails && o.sends with
  | true =>
      rw [ok] at eq
      obtain ⟨pc, head, flow, handed⟩ := downloaderLoop_flow { ch with
        downBytes := ch.downBytes + UInt64.ofNat bytes
        downPacks := ch.downPacks + 1 }
      have same : ch' = downloaderLoop _ := eq
      rw [same, handed, flow]
      exact .downloaded here head
  | false =>
      rw [ok] at eq
      obtain ⟨pc, head, flow, handed⟩ := ch.downloaderError_flow _ ch' eq
      rw [handed, flow]
      exact .downloadFails here head

theorem resumeDownloader_flow (run : ch.resumeDownloader o = some ch') :
    Flow.Step ch.flow (ch.foundDownloader o ++ ch'.handedDown) ch'.flow := by
  rw [resumeDownloader] at run
  split at run
  · next here =>
      obtain ⟨pc, head, flow, handed⟩ := ch.dstAuthLoop_flow o
      obtain rfl := Option.some.inj run
      have nothing : ch.foundDownloader o = [] := by simp [foundDownloader, here]
      rw [nothing, handed, flow]
      exact .dstAuth (.inl here) head
  · next here => exact dstAuthReceived_flow here (Option.some.inj run).symm
  · next here => exact dstAuthSent_flow here (Option.some.inj run).symm
  · next here => exact downloaderReceived_flow here (Option.some.inj run).symm
  · next here => exact downloaderSent_flow here (Option.some.inj run).symm
  · cases run

/-- Every step of a channel is a step of its flow, which shows the same. -/
theorem step_flow {a : RelayAction} (run : ch.step a = some ch') :
    Flow.Step ch.flow (ch.observe a) ch'.flow := by
  cases a with
  | arrive side d =>
      cases side with
      | src =>
          obtain ⟨here, rfl⟩ | ⟨here, rfl⟩ := arriveSrc_cases run
          · exact .srcAuthArrives here
          · exact .srcArrives here
      | dst =>
          obtain ⟨here, rfl⟩ | ⟨here, rfl⟩ := arriveDst_cases run
          · exact .dstAuthArrives here
          · exact .dstArrives here
  | receiveFails side =>
      cases side with
      | src =>
          obtain ⟨pc, failed, rfl⟩ := Option.map_eq_some_iff.mp run
          exact .srcFails failed
      | dst =>
          obtain ⟨pc, failed, rfl⟩ := Option.map_eq_some_iff.mp run
          exact .dstFails failed
  | resume side o =>
      cases side with
      | src =>
          have shown : ch.observe (.resume .src o) = ch.foundUploader o ++ ch'.handedUp := by
            simp only [observe, run, Option.elim]
          rw [shown]
          exact resumeUploader_flow run
      | dst =>
          have shown : ch.observe (.resume .dst o) = ch.foundDownloader o ++ ch'.handedDown := by
            simp only [observe, run, Option.elim]
          rw [shown]
          exact resumeDownloader_flow run
  | stop =>
      obtain rfl := Option.some.inj run
      rw [flow_stop]
      exact .control
  | expire side =>
      cases side <;>
      · obtain rfl := Option.some.inj run
        exact .control

/-- A run of a channel shows that a state with `P` is reachable with its log. -/
theorem logged_of_run {β : Type} (obs : Relay → RelayAction → List β) (mtu : Nat)
    (src dst : UInt32) (as : List RelayAction) {P : Relay → List β → Prop}
    (check : ∃ p ∈ System.runSteps (System.logStep step obs) (start mtu src dst, []) as,
      P p.1 p.2) :
    ∃ ch log, ((system mtu src dst).logged obs).Reachable (ch, log) ∧ P ch log :=
  System.logged_of_steps rfl check

/-- An invariant of the flow and of what an observer has seen. -/
theorem flow_invariant {mtu : Nat} {src dst : UInt32} {J : Flow → List RelayEvent → Prop}
    (init : J (start mtu src dst).flow [])
    (preserved : ∀ f es f' log, J f log → Flow.Step f es f' → J f' (log ++ es))
    {log : List RelayEvent} (reached : ((system mtu src dst).logged observe).Reachable (ch, log)) :
    J ch.flow log := by
  refine reached.log_invariant (I := fun ch log => J ch.flow log) ?_ ?_
  · rintro _ rfl
    exact init
  · intro ch a ch' log _ h run
    exact preserved _ _ _ _ h (step_flow run)

end Relay

/-! ## The handshake -/

/-- The datagram is in the buffer. -/
def FlowEnd.Holds (e : FlowEnd) (d : Datagram) : Prop := e.buf.take d.data.length = d.data

theorem FlowEnd.holds_fill (e : FlowEnd) (d : Datagram) : (e.fill d.data).Holds d :=
  List.take_left

/-- The position of a coroutine agrees with its end: it waits for an authentication
only while `_opened` is not set, and for a payload only when it is. -/
def CoroPc.Agrees (pc : CoroPc) (e : FlowEnd) (sent : Datagram → Prop) : Prop :=
  match pc with
  | .spawned => e.opened = false
  | .auth .receive => e.opened = false
  | .auth (.received result) =>
      e.opened = false ∧ ∀ d ∈ result, e.Holds d ∧ e.remoteEp = d.sender
  | .auth (.send _ _ _) => True
  | .relay (.received result) => e.opened = true ∧ ∀ d ∈ result, e.Holds d ∧ sent d
  | .relay _ => e.opened = true
  | .exited => True

namespace CoroPc.Agrees

variable {pc : CoroPc} {e : FlowEnd} {sent : Datagram → Prop}

theorem of_authHead (head : AuthHead e.opened pc) : pc.Agrees e sent := by
  obtain ⟨rfl, opened⟩ | ⟨rfl, opened⟩ | rfl := head
  · exact opened
  · exact opened
  · trivial

theorem of_relayHead (head : RelayHead pc) (opened : e.opened = true) : pc.Agrees e sent := by
  obtain rfl | rfl := head
  · exact opened
  · trivial

/-- A receive that fails shows nothing. -/
theorem failReceive {pc' : CoroPc} (h : pc.Agrees e sent) (failed : pc.failReceive = some pc') :
    pc'.Agrees e sent := by
  obtain ⟨rfl, rfl⟩ | ⟨rfl, rfl⟩ := failReceive_eq_some failed <;>
  exact ⟨h, fun d none => by cases none⟩

/-- A coroutine in its relay loop has authenticated its end. -/
theorem opened {wait : Wait} (h : (CoroPc.relay wait).Agrees e sent) : e.opened = true := by
  cases wait with
  | receive | send => exact h
  | received => exact h.1

end CoroPc.Agrees

namespace Flow

/-- The positions agree with the ends, and the source is authenticated after the
destination. -/
structure Handshake (f : Flow) : Prop where
  uploader : f.uploader.Agrees f.src fun d => f.ep = d.sender
  downloader : f.downloader.Agrees f.dst fun _ => True
  order : f.src.opened = true → f.dst.opened = true

variable {f f' : Flow} {es : List RelayEvent}

theorem Step.handshake (step : Step f es f') (h : f.Handshake) : f'.Handshake := by
  obtain ⟨uploader, downloader, order⟩ := h
  cases step with
  | control => exact ⟨uploader, downloader, order⟩
  | srcAuthArrives here =>
      rw [here] at uploader
      exact ⟨⟨uploader, by rintro _ ⟨⟩; exact ⟨f.src.holds_fill _, rfl⟩⟩, downloader, order⟩
  | srcArrives here =>
      rw [here] at uploader
      exact ⟨⟨uploader, by rintro _ ⟨⟩; exact ⟨f.src.holds_fill _, rfl⟩⟩, downloader, order⟩
  | srcFails failed => exact ⟨uploader.failReceive failed, downloader, order⟩
  | dstAuthArrives here =>
      rw [here] at downloader
      exact ⟨uploader, ⟨downloader, by rintro _ ⟨⟩; exact ⟨f.dst.holds_fill _, rfl⟩⟩, order⟩
  | dstArrives here =>
      rw [here] at downloader
      exact ⟨uploader, ⟨downloader, by rintro _ ⟨⟩; exact ⟨f.dst.holds_fill _, trivial⟩⟩, order⟩
  | dstFails failed => exact ⟨uploader, downloader.failReceive failed, order⟩
  | srcAuth retries head => exact ⟨.of_authHead head, downloader, order⟩
  | srcRevoked here head =>
      exact ⟨.of_authHead head, downloader, fun opened => absurd opened Bool.false_ne_true⟩
  | srcAccepts here full opened => exact ⟨trivial, downloader, fun _ => opened⟩
  | srcRejects here full closed => exact ⟨trivial, downloader, order⟩
  | uploadEmpty here empty head =>
      rw [here] at uploader
      exact ⟨.of_relayHead head uploader.opened, downloader, order⟩
  | uploadRefused here full other head =>
      rw [here] at uploader
      exact ⟨.of_relayHead head uploader.opened, downloader, order⟩
  | uploadShort here full same short head =>
      rw [here] at uploader
      exact ⟨.of_relayHead head uploader.opened, downloader, order⟩
  | upload here same long =>
      rw [here] at uploader
      exact ⟨uploader.opened, downloader, order⟩
  | uploadFails here head =>
      rw [here] at uploader
      exact ⟨.of_relayHead head uploader.opened, downloader, order⟩
  | uploaded here head =>
      rw [here] at uploader
      exact ⟨.of_relayHead head uploader.opened, downloader, order⟩
  | dstAuth retries head => exact ⟨uploader, .of_authHead head, order⟩
  | dstAccepts here full => exact ⟨uploader, trivial, fun _ => rfl⟩
  | downloadEmpty here empty head =>
      rw [here] at downloader
      exact ⟨uploader, .of_relayHead head downloader.opened, order⟩
  | downloadShort here full short head =>
      rw [here] at downloader
      exact ⟨uploader, .of_relayHead head downloader.opened, order⟩
  | download here long =>
      rw [here] at downloader
      exact ⟨uploader, downloader.opened, order⟩
  | downloadFails here head =>
      rw [here] at downloader
      exact ⟨uploader, .of_relayHead head downloader.opened, order⟩
  | downloaded here head =>
      rw [here] at downloader
      exact ⟨uploader, .of_relayHead head downloader.opened, order⟩

end Flow

theorem Relay.handshake_start (mtu : Nat) (src dst : UInt32) :
    (Relay.start mtu src dst).flow.Handshake :=
  ⟨rfl, rfl, fun opened => absurd opened Bool.false_ne_true⟩

end NatProxy
