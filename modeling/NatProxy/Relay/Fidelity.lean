import NatProxy.Relay.Flow

/-!
# Fidelity of the relay

`Account` reads the events of a channel without a look at the channel: it follows the
endpoint of the source, fixed by the authentication up to its port, and collects the
payloads that have to be sent in each direction. The channel sends exactly those
payloads of the account whose send succeeds, in their order, counts them, and
addresses each payload for the authenticated source to the endpoint that the account
has at that time.
-/

namespace NatProxy

open Memory Transition

/-! ## The account of the observer -/

/-- What an observer makes of the events: the endpoint of the source, whether the
destination is authenticated, and the payloads to be sent in each direction. -/
structure Account where
  source : Option Endpoint
  dstOpened : Bool
  up : List Bytes
  down : List Bytes

namespace Account

/-- A datagram of one or two bytes is a heartbeat. -/
def payload (d : Datagram) : List Bytes := if 2 < d.data.length then [d.data] else []

def note (a : Account) : RelayEvent → Account
  | .authenticated .src d => { a with source := some d.sender }
  | .authenticated .dst _ => { a with dstOpened := true }
  | .received .src d =>
      match a.source with
      | some ep =>
          if d.sender.addr = ep.addr then
            { a with source := some { ep with port := d.sender.port }, up := a.up ++ payload d }
          else a
      | none => a
  | .received .dst d => if a.dstOpened then { a with down := a.down ++ payload d } else a
  | _ => a

def of (log : List RelayEvent) : Account := log.foldl note ⟨none, false, [], []⟩

theorem of_append (log es : List RelayEvent) : of (log ++ es) = es.foldl note (of log) :=
  List.foldl_append

theorem of_issued (log : List RelayEvent) (side : Side) (data : Bytes) (dest : Option Endpoint)
    (src dst : Bool) : of (log ++ [.issued side data dest src dst]) = of log := of_append _ _

theorem of_finished (log : List RelayEvent) (side : Side) (data : Bytes) (ok : Bool) :
    of (log ++ [.finished side data ok]) = of log := of_append _ _

end Account

/-- A send of a direction that is over, with its result. -/
def RelayEvent.attempt (side : Side) : RelayEvent → Option (Bytes × Bool)
  | .finished s data ok => if s = side then some (data, ok) else none
  | _ => none

/-- The sends of a direction in their order. -/
def attempts (side : Side) (log : List RelayEvent) : List (Bytes × Bool) :=
  log.filterMap (RelayEvent.attempt side)

/-- What the successful sends of a direction have transmitted. -/
def transmitted (side : Side) (log : List RelayEvent) : List Bytes :=
  ((attempts side log).filter Prod.snd).map Prod.fst

theorem attempts_append (side : Side) (log es : List RelayEvent) :
    attempts side (log ++ es) = attempts side log ++ attempts side es := List.filterMap_append

theorem transmitted_append (side : Side) (log es : List RelayEvent) :
    transmitted side (log ++ es) = transmitted side log ++ transmitted side es := by
  rw [transmitted, attempts_append, List.filter_append, List.map_append]
  rfl

/-- A payload for the authenticated source is addressed as the account says. -/
def Addressed (before : List RelayEvent) : RelayEvent → Prop
  | .issued .dst _ dest true _ => dest = (Account.of before).source ∧ dest ≠ none
  | _ => True

/-! ## One direction -/

/-- The payload that a coroutine has handed to the send call it waits for. -/
def inFlight (pc : CoroPc) (buf : Bytes) : List Bytes :=
  match pc with
  | .relay (.send bytes _ _) => [buf.take bytes]
  | _ => []

theorem inFlight_authHead {opened : Bool} {pc : CoroPc} (head : AuthHead opened pc) (buf : Bytes) :
    inFlight pc buf = [] := by
  obtain ⟨rfl, _⟩ | ⟨rfl, _⟩ | rfl := head <;> rfl

theorem inFlight_relayHead {pc : CoroPc} (head : RelayHead pc) (buf : Bytes) :
    inFlight pc buf = [] := by
  obtain rfl | rfl := head <;> rfl

/-- The payloads of a direction have been sent in their order up to the one in
flight, and the counters count the successful sends. -/
structure Direction (side : Side) (log : List RelayEvent) (payloads : List Bytes) (pc : CoroPc)
    (buf : Bytes) (packs bytes : UInt64) : Prop where
  settled : payloads = (attempts side log).map Prod.fst ++ inFlight pc buf
  fits : ∀ n dest fails, pc = .relay (.send n dest fails) → n ≤ buf.length
  packs : packs = UInt64.ofNat (transmitted side log).length
  bytes : bytes = UInt64.ofNat (transmitted side log).flatten.length

namespace Direction

variable {side : Side} {log es : List RelayEvent} {payloads : List Bytes} {pc pc' : CoroPc}
  {buf buf' : Bytes} {packs bytes : UInt64}

/-- Only the other coroutine goes on. -/
theorem pass (h : Direction side log payloads pc buf packs bytes) (none : attempts side es = []) :
    Direction side (log ++ es) payloads pc buf packs bytes := by
  have same : attempts side (log ++ es) = attempts side log := by
    rw [attempts_append, none, List.append_nil]
  have sameData : transmitted side (log ++ es) = transmitted side log := by
    rw [transmitted, same, transmitted]
  refine ⟨?_, h.fits, ?_, ?_⟩
  · rw [same]
    exact h.settled
  · rw [sameData]
    exact h.packs
  · rw [sameData]
    exact h.bytes

/-- The coroutine goes on, without a payload in flight before or after. -/
theorem move (h : Direction side log payloads pc buf packs bytes) (idle : inFlight pc buf = [])
    (idle' : inFlight pc' buf' = []) : Direction side log payloads pc' buf' packs bytes := by
  refine ⟨?_, ?_, h.packs, h.bytes⟩
  · rw [idle', ← idle]
    exact h.settled
  · rintro n dest fails rfl
    cases idle'

/-- The next payload is handed to a send call. -/
theorem issue (h : Direction side log payloads pc buf packs bytes) (idle : inFlight pc buf = [])
    {n : Nat} {dest : Option Endpoint} {fails : Bool} (fits : n ≤ buf.length) :
    Direction side log (payloads ++ [buf.take n]) (.relay (.send n dest fails)) buf packs
      bytes := by
  refine ⟨?_, ?_, h.packs, h.bytes⟩
  · rw [h.settled, idle, List.append_nil]
    rfl
  · rintro _ _ _ ⟨⟩
    exact fits

/-- The send call is over. -/
theorem finish {n : Nat} {dest : Option Endpoint} {fails : Bool}
    (h : Direction side log payloads (.relay (.send n dest fails)) buf packs bytes)
    (idle : inFlight pc' buf = []) (ok : Bool) :
    Direction side (log ++ [.finished side (buf.take n) ok]) payloads pc' buf
      (if ok then packs + 1 else packs) (if ok then bytes + UInt64.ofNat n else bytes) := by
  have attempted : attempts side [.finished side (buf.take n) ok] = [(buf.take n, ok)] := by
    simp [attempts, RelayEvent.attempt]
  have sent : transmitted side [.finished side (buf.take n) ok] =
      if ok then [buf.take n] else [] := by
    rw [transmitted, attempted]
    cases ok <;> rfl
  have size : (buf.take n).length = n := by
    rw [List.length_take, Nat.min_eq_left (h.fits n dest fails rfl)]
  refine ⟨?_, ?_, ?_, ?_⟩
  · rw [attempts_append, attempted, List.map_append, idle, List.append_nil]
    exact h.settled
  · rintro m d f rfl
    cases idle
  · rw [transmitted_append, sent, h.packs]
    cases ok with
    | true => simp [UInt64.ofNat_add]
    | false => simp
  · rw [transmitted_append, sent, h.bytes]
    cases ok with
    | true => simp [size, UInt64.ofNat_add]
    | false => simp

end Direction

/-! ## The run of a channel -/

theorem inFlight_retries {pc : CoroPc} (retries : pc.Retries) (buf : Bytes) :
    inFlight pc buf = [] := by
  obtain rfl | ⟨result, rfl, _⟩ | ⟨bytes, dest, fails, rfl⟩ := retries <;> rfl

theorem inFlight_failReceive {pc pc' : CoroPc} (failed : pc.failReceive = some pc')
    (buf : Bytes) : inFlight pc buf = [] ∧ inFlight pc' buf = [] := by
  obtain ⟨rfl, rfl⟩ | ⟨rfl, rfl⟩ := failReceive_eq_some failed <;> exact ⟨rfl, rfl⟩

/-- What holds of the flow after the events of a log. -/
structure Flow.Tracks (f : Flow) (log : List RelayEvent) : Prop where
  handshake : f.Handshake
  source : f.src.opened = true → (Account.of log).source = some f.src.remoteEp
  dstOpened : f.dst.opened = true → (Account.of log).dstOpened = true
  up : Direction .src log (Account.of log).up f.uploader f.src.buf f.upPacks f.upBytes
  down : Direction .dst log (Account.of log).down f.downloader f.dst.buf f.downPacks f.downBytes
  addressed : System.EachEntry Addressed log

namespace Flow.Tracks

variable {f f' : Flow} {log : List RelayEvent}

/-- A step that the account does not change at, and that opens no end. -/
theorem advance (h : f.Tracks log) {es : List RelayEvent}
    (account : Account.of (log ++ es) = Account.of log) (handshake : f'.Handshake)
    (source : f'.src.opened = true → f.src.opened = true ∧ f'.src.remoteEp = f.src.remoteEp)
    (dstOpened : f'.dst.opened = f.dst.opened)
    (up : Direction .src (log ++ es) (Account.of log).up f'.uploader f'.src.buf f'.upPacks
      f'.upBytes)
    (down : Direction .dst (log ++ es) (Account.of log).down f'.downloader f'.dst.buf f'.downPacks
      f'.downBytes)
    (addressed : System.EachEntry Addressed (log ++ es)) : f'.Tracks (log ++ es) := by
  refine ⟨handshake, ?_, ?_, ?_, ?_, addressed⟩ <;> rw [account]
  · intro opened
    obtain ⟨was, remoteEp⟩ := source opened
    rw [remoteEp]
    exact h.source was
  · intro opened
    exact h.dstOpened (dstOpened ▸ opened)
  · exact up
  · exact down

/-- A step that shows nothing. -/
theorem silent (h : f.Tracks log) (handshake : f'.Handshake)
    (source : f'.src.opened = true → f.src.opened = true ∧ f'.src.remoteEp = f.src.remoteEp)
    (dstOpened : f'.dst.opened = f.dst.opened)
    (up : Direction .src log (Account.of log).up f'.uploader f'.src.buf f'.upPacks f'.upBytes)
    (down : Direction .dst log (Account.of log).down f'.downloader f'.dst.buf f'.downPacks
      f'.downBytes) : f'.Tracks (log ++ []) := by
  have same : log ++ [] = log := List.append_nil log
  apply h.advance (congrArg Account.of same) handshake source dstOpened <;> rw [same]
  · exact up
  · exact down
  · exact h.addressed

/-- The account of a datagram that the uploader has received. -/
theorem received_src (h : f.Tracks log) (opened : f.src.opened = true) (d : Datagram) :
    Account.of (log ++ [.received .src d]) =
      if d.sender.addr = f.src.remoteEp.addr then
        { Account.of log with
          source := some (f.src.port d.sender.port).remoteEp
          up := (Account.of log).up ++ Account.payload d }
      else Account.of log := by
  rw [Account.of_append, List.foldl_cons, List.foldl_nil, Account.note, h.source opened]
  rfl

theorem received_dst (h : f.Tracks log) (opened : f.dst.opened = true) (d : Datagram) :
    Account.of (log ++ [.received .dst d]) =
      { Account.of log with down := (Account.of log).down ++ Account.payload d } := by
  rw [Account.of_append, List.foldl_cons, List.foldl_nil, Account.note, if_pos (h.dstOpened opened)]

/-- The uploader goes on after a datagram from the source. -/
theorem uploads (h : f.Tracks log) {d : Datagram}
    (here : f.uploader = .relay (.received (some d)))
    (same : f.ep.addr = f.src.remoteEp.addr) :
    (Account.of (log ++ [.received .src d])).source = some (f.src.port f.ep.port).remoteEp ∧
      (Account.of (log ++ [.received .src d])).dstOpened = (Account.of log).dstOpened ∧
      (Account.of (log ++ [.received .src d])).up =
        (Account.of log).up ++ Account.payload d ∧
      (Account.of (log ++ [.received .src d])).down = (Account.of log).down := by
  have agrees := h.handshake.uploader
  rw [here] at agrees
  have ep : f.ep = d.sender := (agrees.2 d rfl).2
  rw [ep] at same ⊢
  rw [h.received_src agrees.1, if_pos same]
  exact ⟨rfl, rfl, rfl, rfl⟩

end Flow.Tracks

theorem FlowEnd.Holds.fits {e : FlowEnd} {d : Datagram} (holds : e.Holds d) :
    d.data.length ≤ e.buf.length := by
  have length := congrArg List.length holds
  rw [List.length_take] at length
  omega

namespace Flow.Step

variable {f f' : Flow} {es log : List RelayEvent}

/-- Every step keeps the account. -/
theorem tracks (step : Flow.Step f es f') (h : f.Tracks log) : f'.Tracks (log ++ es) := by
  have handshake := step.handshake h.handshake
  have uploader := h.handshake.uploader
  have downloader := h.handshake.downloader
  cases step with
  | control =>
      rw [List.append_nil]
      exact h
  | srcAuthArrives here =>
      rw [here] at uploader
      refine h.silent handshake (fun opened => ?_) rfl (h.up.move (by rw [here]; rfl) rfl) h.down
      exact absurd (uploader.symm.trans opened) Bool.false_ne_true
  | srcArrives here =>
      exact h.silent handshake (fun opened => ⟨opened, rfl⟩) rfl (h.up.move (by rw [here]; rfl) rfl)
        h.down
  | srcFails failed =>
      obtain ⟨idle, idle'⟩ := inFlight_failReceive failed f.src.buf
      exact h.silent handshake (fun opened => ⟨opened, rfl⟩) rfl (h.up.move idle idle') h.down
  | dstAuthArrives here =>
      exact h.silent handshake (fun opened => ⟨opened, rfl⟩) rfl h.up
        (h.down.move (by rw [here]; rfl) rfl)
  | dstArrives here =>
      exact h.silent handshake (fun opened => ⟨opened, rfl⟩) rfl h.up
        (h.down.move (by rw [here]; rfl) rfl)
  | dstFails failed =>
      obtain ⟨idle, idle'⟩ := inFlight_failReceive failed f.dst.buf
      exact h.silent handshake (fun opened => ⟨opened, rfl⟩) rfl h.up (h.down.move idle idle')
  | srcAuth retries head =>
      exact h.silent handshake (fun opened => ⟨opened, rfl⟩) rfl
        (h.up.move (inFlight_retries retries _) (inFlight_authHead head _)) h.down
  | srcRevoked here head =>
      exact h.silent handshake (fun opened => absurd opened Bool.false_ne_true) rfl
        (h.up.move (by rw [here]; rfl) (inFlight_authHead head _)) h.down
  | @srcAccepts d fails here full opened =>
      rw [here] at uploader
      have account : Account.of (log ++ [.authenticated .src d]) =
          { Account.of log with source := some d.sender } := Account.of_append _ _
      refine ⟨handshake, fun _ => ?_, ?_, ?_, ?_, h.addressed.concat trivial⟩ <;> rw [account]
      · exact congrArg some (uploader.2 d rfl).2.symm
      · exact h.dstOpened
      · exact (h.up.move (by rw [here]; rfl) rfl).pass rfl
      · exact h.down.pass rfl
  | srcRejects here full closed =>
      exact h.silent handshake (fun opened => ⟨opened, rfl⟩) rfl (h.up.move (by rw [here]; rfl) rfl)
        h.down
  | uploadEmpty here empty head =>
      exact h.silent handshake (fun opened => ⟨opened, rfl⟩) rfl
        (h.up.move (by rw [here]; rfl) (inFlight_relayHead head _)) h.down
  | @uploadRefused pc d here full other head =>
      have idle : inFlight f.uploader f.src.buf = [] := by rw [here]; rfl
      rw [here] at uploader
      have account := h.received_src uploader.1 d
      rw [if_neg (by rw [← (uploader.2 d rfl).2]; exact other)] at account
      exact h.advance account handshake (fun opened => ⟨opened, rfl⟩) rfl
        ((h.up.move idle (inFlight_relayHead head _)).pass rfl) (h.down.pass rfl)
        (h.addressed.concat trivial)
  | @uploadShort pc d here full same short head =>
      obtain ⟨source, dstOpened, up, down⟩ := h.uploads here same
      have nothing : Account.payload d = [] := if_neg (Nat.not_lt_of_le short)
      rw [nothing, List.append_nil] at up
      refine ⟨handshake, fun _ => source, ?_, ?_, ?_, h.addressed.concat trivial⟩
      · rw [dstOpened]
        exact h.dstOpened
      · rw [up]
        exact (h.up.move (by rw [here]; rfl) (inFlight_relayHead head _)).pass rfl
      · rw [down]
        exact h.down.pass rfl
  | @upload d dest fails here same long =>
      obtain ⟨source, dstOpened, up, down⟩ := h.uploads here same
      have idle : inFlight f.uploader f.src.buf = [] := by rw [here]; rfl
      rw [here] at uploader
      have holds : f.src.Holds d := (uploader.2 d rfl).1
      have payload : Account.payload d = [f.src.buf.take d.data.length] := by
        rw [holds]
        exact if_pos long
      have addressed : System.EachEntry Addressed (log ++ [.received .src d]) :=
        h.addressed.concat trivial
      rw [List.append_cons]
      refine ⟨handshake, ?_, ?_, ?_, ?_, addressed.concat trivial⟩ <;> rw [Account.of_issued]
      · exact fun _ => source
      · rw [dstOpened]
        exact h.dstOpened
      · rw [up, payload, ← List.append_cons]
        exact (h.up.issue idle holds.fits).pass rfl
      · rw [down, ← List.append_cons]
        exact h.down.pass rfl
  | uploadFails here head =>
      have up := h.up
      rw [here] at up
      exact h.advance (Account.of_finished _ _ _ _) handshake (fun opened => ⟨opened, rfl⟩) rfl
        (up.finish (inFlight_relayHead head _) false) (h.down.pass rfl) (h.addressed.concat trivial)
  | uploaded here head =>
      have up := h.up
      rw [here] at up
      exact h.advance (Account.of_finished _ _ _ _) handshake (fun opened => ⟨opened, rfl⟩) rfl
        (up.finish (inFlight_relayHead head _) true) (h.down.pass rfl) (h.addressed.concat trivial)
  | dstAuth retries head =>
      exact h.silent handshake (fun opened => ⟨opened, rfl⟩) rfl h.up
        (h.down.move (inFlight_retries retries _) (inFlight_authHead head _))
  | @dstAccepts d fails here full =>
      have account : Account.of (log ++ [.authenticated .dst d]) =
          { Account.of log with dstOpened := true } := Account.of_append _ _
      refine ⟨handshake, ?_, ?_, ?_, ?_, h.addressed.concat trivial⟩ <;> rw [account]
      · exact h.source
      · exact fun _ => rfl
      · exact h.up.pass rfl
      · exact (h.down.move (by rw [here]; rfl) rfl).pass rfl
  | downloadEmpty here empty head =>
      exact h.silent handshake (fun opened => ⟨opened, rfl⟩) rfl h.up
        (h.down.move (by rw [here]; rfl) (inFlight_relayHead head _))
  | @downloadShort pc d here full short head =>
      have idle : inFlight f.downloader f.dst.buf = [] := by rw [here]; rfl
      rw [here] at downloader
      have account := h.received_dst downloader.1 d
      have nothing : Account.payload d = [] := if_neg (Nat.not_lt_of_le short)
      rw [nothing, List.append_nil] at account
      refine ⟨handshake, ?_, ?_, ?_, ?_, h.addressed.concat trivial⟩ <;> rw [account]
      · exact h.source
      · exact h.dstOpened
      · exact h.up.pass rfl
      · exact (h.down.move idle (inFlight_relayHead head _)).pass rfl
  | @download d fails here long =>
      have idle : inFlight f.downloader f.dst.buf = [] := by rw [here]; rfl
      rw [here] at downloader
      have account := h.received_dst downloader.1 d
      have holds : f.dst.Holds d := (downloader.2 d rfl).1
      have payload : Account.payload d = [f.dst.buf.take d.data.length] := by
        rw [holds]
        exact if_pos long
      have addressed : System.EachEntry Addressed (log ++ [.received .dst d]) :=
        h.addressed.concat trivial
      rw [List.append_cons]
      refine ⟨handshake, ?_, ?_, ?_, ?_, addressed.concat ?_⟩
      · rw [Account.of_issued, account]
        exact h.source
      · rw [Account.of_issued, account]
        exact h.dstOpened
      · rw [Account.of_issued, account, ← List.append_cons]
        exact h.up.pass rfl
      · rw [Account.of_issued, account, payload, ← List.append_cons]
        exact (h.down.issue idle holds.fits).pass rfl
      · cases opened : f.src.opened with
        | false => trivial
        | true =>
            rw [Addressed, account]
            exact ⟨(h.source opened).symm, by simp⟩
  | downloadFails here head =>
      have down := h.down
      rw [here] at down
      exact h.advance (Account.of_finished _ _ _ _) handshake (fun opened => ⟨opened, rfl⟩) rfl
        (h.up.pass rfl) (down.finish (inFlight_relayHead head _) false) (h.addressed.concat trivial)
  | downloaded here head =>
      have down := h.down
      rw [here] at down
      exact h.advance (Account.of_finished _ _ _ _) handshake (fun opened => ⟨opened, rfl⟩) rfl
        (h.up.pass rfl) (down.finish (inFlight_relayHead head _) true) (h.addressed.concat trivial)

end Flow.Step

theorem Relay.tracks_start (mtu : Nat) (src dst : UInt32) :
    (Relay.start mtu src dst).flow.Tracks [] := by
  refine ⟨handshake_start mtu src dst, ?_, ?_, ?_, ?_, System.eachEntry_nil _⟩
  · exact fun opened => absurd opened Bool.false_ne_true
  · exact fun opened => absurd opened Bool.false_ne_true
  · exact ⟨rfl, by rintro _ _ _ ⟨⟩, rfl, rfl⟩
  · exact ⟨rfl, by rintro _ _ _ ⟨⟩, rfl, rfl⟩

/-- What a channel has relayed after the events of a log. -/
structure Faithful (ch : Relay) (log : List RelayEvent) : Prop where
  /-- The payloads for the destination have been sent in their order, up to the one
  that the uploader is sending. -/
  up : (Account.of log).up =
    (attempts .src log).map Prod.fst ++ inFlight ch.uploader ch.srcEnd.buf
  down : (Account.of log).down =
    (attempts .dst log).map Prod.fst ++ inFlight ch.downloader ch.dstEnd.buf
  addressed : System.EachEntry Addressed log
  upPacks : ch.upPacks = UInt64.ofNat (transmitted .src log).length
  upBytes : ch.upBytes = UInt64.ofNat (transmitted .src log).flatten.length
  downPacks : ch.downPacks = UInt64.ofNat (transmitted .dst log).length
  downBytes : ch.downBytes = UInt64.ofNat (transmitted .dst log).flatten.length

/-- In every run of a started channel, and for every size of the buffers, the sends of
the uploader are those of the datagrams of more than two bytes that its loop has
received from the address of the authenticated source, and the sends of the
downloader are those of the datagrams of more than two bytes that its loop has
received, each once, in order and byte for byte. A payload for the authenticated
source goes to its address with the port of its latest datagram, and the counters are
the numbers and the bytes of the successful sends. -/
theorem relay_faithful (mtu : Nat) (src dst : UInt32) {ch : Relay} {log : List RelayEvent}
    (reached : ((Relay.system mtu src dst).logged Relay.observe).Reachable (ch, log)) :
    Faithful ch log := by
  have tracks : ch.flow.Tracks log :=
    Relay.flow_invariant (Relay.tracks_start mtu src dst) (fun _ _ _ _ h step => step.tracks h)
      reached
  exact ⟨tracks.up.settled, tracks.down.settled, tracks.addressed, tracks.up.packs,
    tracks.up.bytes, tracks.down.packs, tracks.down.bytes⟩

/-- The destination and then the source authenticate, and a payload goes each way. -/
def oneEachWay : List RelayAction :=
  let o : Outcome := ⟨true, true, true⟩
  [.resume .dst o, .arrive .dst ⟨[1], ⟨2, 20⟩⟩, .resume .dst o, .resume .dst o,
    .resume .src o, .arrive .src ⟨[1], ⟨1, 10⟩⟩, .resume .src o, .resume .src o,
    .arrive .src ⟨[1, 2, 3], ⟨1, 11⟩⟩, .resume .src o, .resume .src o,
    .arrive .dst ⟨[4, 5, 6], ⟨2, 20⟩⟩, .resume .dst o, .resume .dst o]

theorem relay_faithful_oneEachWay :
    ∃ (ch : Relay) (log : List RelayEvent), (Account.of log).up = [[1, 2, 3]] ∧
      (Account.of log).down = [[4, 5, 6]] ∧ ch.upPacks = 1 ∧ ch.downBytes = 3 := by
  obtain ⟨ch, log, reached, up, down, sent, received, idle⟩ :=
    Relay.logged_of_run Relay.observe 4 1 2 oneEachWay (P := fun ch log =>
      attempts .src log = [([1, 2, 3], true)] ∧ attempts .dst log = [([4, 5, 6], true)] ∧
        transmitted .src log = [[1, 2, 3]] ∧ transmitted .dst log = [[4, 5, 6]] ∧
        ch.uploader = .relay .receive ∧ ch.downloader = .relay .receive) (by decide +kernel)
  have faithful := relay_faithful 4 1 2 reached
  refine ⟨ch, log, ?_, ?_, ?_, ?_⟩
  · rw [faithful.up, up, idle.1]
    rfl
  · rw [faithful.down, down, idle.2]
    rfl
  · rw [faithful.upPacks, sent]
    rfl
  · rw [faithful.downBytes, received]
    rfl

end NatProxy
