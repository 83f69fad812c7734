import NatProxy.Relay.Expiry
import NatProxy.Server.Follow

/-!
# Sessions and sockets together

Of a running channel the server knows that it is started, and a `Relay` knows what its
coroutines and sockets do. `Relaying` runs both: `CChannel::start` makes the relay of a
channel, `CChannel::stop` stops it, and a coroutine that finds a socket closed calls `stop` of
its channel. Every run of `Relaying` is a run of the server, and for each channel a run of a
relay between the peers of its two sessions.
-/

namespace NatProxy

open Transition

variable {S C : Type}

structure Relaying (S C : Type) where
  server : Server S C
  /-- The sockets and coroutines of the channels that have been started. -/
  relay : C → Option Relay

inductive RelayingAction (S C : Type)
  | server (a : Action S C)
  /-- A socket or a coroutine of a channel goes on. -/
  | socket (c : C) (a : RelayAction)
  /-- A `portExpiredChecker` wakes up. -/
  | checker (c : C) (side : Side) (expired : Bool)
  /-- The reference of a coroutine that has returned goes. -/
  | returned (c : C) (side : Side)

/-- The relay that `CChannel::start` makes. The port of an end may have expired before. -/
def Relay.ofChannel (mtu : Nat) (peer : S → UInt32) (ch : CChannel S) : Relay :=
  let relay := start mtu (peer (ch.ss .src)) (peer (ch.ss .dst))
  let relay := if (ch.ends .src).isOpen then relay else relay.closeSrc
  if (ch.ends .dst).isOpen then relay else relay.closeDst

namespace Relaying

section Operations

variable [DecidableEq S] [DecidableEq C]
variable (cfg : Config) (mtu : Nat) (peer : S → UInt32) (w : Relaying S C) (c : C) (side : Side)

/-- After `CServer::start`. -/
def new : Relaying S C := ⟨.new, fun _ => none⟩

/-- `_socket.is_open()` of an end. -/
def isOpen : Bool :=
  match w.relay c with
  | some r => (r.udpEnd side).isOpen
  | none => (w.server.channel c).any fun ch => (ch.ends side).isOpen

/-- The relays after a step of the server: a channel may have been started or stopped. -/
def follow (server : Server S C) (c : C) : Option Relay :=
  match w.server.channel c, server.channel c with
  | some ch, some ch' =>
      if ch.started = ch'.started then w.relay c
      else if ch'.started then some (.ofChannel mtu peer ch')
      else (w.relay c).map Relay.stop
  | _, _ => w.relay c

/-- A socket, or the coroutine of one, goes on while the thread of the channel is in no other
call. A coroutine that calls `stop` leaves it there. -/
def socketStep (ch : CChannel S) (r : Relay) (a : RelayAction) : Option (Relaying S C) :=
  if ch.pc = .idle ∧ a.side.isSome then
    (r.step a).map fun r' =>
      ⟨if r'.started then w.server else w.server.setChannel c ch.beginStop,
        Function.update w.relay c (some r')⟩
  else none

def step (w : Relaying S C) : RelayingAction S C → Option (Relaying S C)
  | .server a =>
      if a.ofSockets then none
      else (w.server.step cfg a).map fun server => ⟨server, w.follow mtu peer server⟩
  | .socket c a =>
      match w.server.channel c, w.relay c with
      | some ch, some r => w.socketStep c ch r a
      | _, _ => none
  | .checker c side expired =>
      -- an open socket that has not expired is looked at again
      if w.isOpen c side && !expired then some w
      else (w.server.step cfg (.checker c side expired)).map fun server =>
        ⟨server, if w.isOpen c side then
            Function.update w.relay c ((w.relay c).map (·.close side))
          else w.relay⟩
  | .returned c side =>
      match w.server.channel c, w.relay c with
      | some ch, some r =>
          if r.coro side = .exited ∧ ch.coro side then
            (w.server.step cfg (.coroExit c side.coro)).map fun server => ⟨server, w.relay⟩
          else none
      | _, _ => none

/-- All runs of the server with its channels, for the size of their buffers and the addresses
of the peers of the sessions. -/
def system : System (Relaying S C) (RelayingAction S C) :=
  .ofStep (fun w => w = new) (step cfg mtu peer)

end Operations

/-! ## The steps -/

section Steps

variable [DecidableEq S] [DecidableEq C]
variable {cfg : Config} {mtu : Nat} {peer : S → UInt32} {w w' : Relaying S C}

inductive Step (cfg : Config) (mtu : Nat) (peer : S → UInt32) (w : Relaying S C) :
    RelayingAction S C → Relaying S C → Prop
  | server {a server} (own : a.ofSockets = false) (run : w.server.step cfg a = some server) :
      Step cfg mtu peer w (.server a) ⟨server, w.follow mtu peer server⟩
  | socket {c ch r a r'} (found : w.server.channel c = some ch) (made : w.relay c = some r)
      (idle : ch.pc = .idle) (moves : a.side.isSome = true) (run : r.step a = some r') :
      Step cfg mtu peer w (.socket c a)
        ⟨if r'.started then w.server else w.server.setChannel c ch.beginStop,
          Function.update w.relay c (some r')⟩
  | waits {c side} : Step cfg mtu peer w (.checker c side false) w
  | closes {c side server} (isOpen : w.isOpen c side = true)
      (run : w.server.step cfg (.checker c side true) = some server) :
      Step cfg mtu peer w (.checker c side true)
        ⟨server, Function.update w.relay c ((w.relay c).map (·.close side))⟩
  | ends {c side expired server} (closed : w.isOpen c side = false)
      (run : w.server.step cfg (.checker c side expired) = some server) :
      Step cfg mtu peer w (.checker c side expired) ⟨server, w.relay⟩
  | returned {c side ch r server} (found : w.server.channel c = some ch)
      (made : w.relay c = some r) (ended : r.coro side = .exited) (holds : ch.coro side = true)
      (run : w.server.step cfg (.coroExit c side.coro) = some server) :
      Step cfg mtu peer w (.returned c side) ⟨server, w.relay⟩

theorem step_of_run {a : RelayingAction S C} (run : step cfg mtu peer w a = some w') :
    Step cfg mtu peer w a w' := by
  cases a with
  | server a =>
      obtain ⟨own, run⟩ := Option.ite_none_left_eq_some.mp run
      obtain ⟨server, moved, rfl⟩ := Option.map_eq_some_iff.mp run
      exact .server (Bool.eq_false_iff.mpr own) moved
  | socket c a =>
      rw [step] at run
      split at run
      · next ch r found made =>
        obtain ⟨⟨idle, moves⟩, run⟩ := Option.ite_none_right_eq_some.mp run
        obtain ⟨r', moved, rfl⟩ := Option.map_eq_some_iff.mp run
        exact .socket found made idle moves moved
      · cases run
  | checker c side expired =>
      rw [step] at run
      split at run
      · next again =>
        obtain rfl := Option.some.inj run
        obtain ⟨_, early⟩ := Bool.and_eq_true_iff.mp again
        obtain rfl : expired = false := (Bool.not_eq_true' _).mp early
        exact .waits
      · next over_ =>
        obtain ⟨server, moved, rfl⟩ := Option.map_eq_some_iff.mp run
        by_cases isOpen : w.isOpen c side = true
        · rw [if_pos isOpen]
          rw [isOpen, Bool.true_and, Bool.not_eq_true', Bool.not_eq_false] at over_
          subst over_
          exact .closes isOpen moved
        · rw [if_neg isOpen]
          exact .ends (Bool.eq_false_iff.mpr isOpen) moved
  | returned c side =>
      rw [step] at run
      split at run
      · next ch r found made =>
        obtain ⟨⟨ended, holds⟩, run⟩ := Option.ite_none_right_eq_some.mp run
        obtain ⟨server, moved, rfl⟩ := Option.map_eq_some_iff.mp run
        exact .returned found made ended holds moved
      · cases run

end Steps

end Relaying

/-! ## One channel and its relay -/

namespace Relay

variable {mtu : Nat} {peer : S → UInt32} {ch : CChannel S} {r r' : Relay}

theorem step_close (r : Relay) (side : Side) : r.step (.expire side) = some (r.close side) := by
  cases side <;> rfl

theorem started_close (r : Relay) (side : Side) : (r.close side).started = r.started := by
  cases side <;> rfl

theorem coro_close (r : Relay) (side : Side) : (r.close side).coro = r.coro := by
  cases side <;> rfl

theorem isOpen_close {side s : Side} (isOpen : ((r.close side).udpEnd s).isOpen = false) :
    s = side ∨ (r.udpEnd s).isOpen = false := by
  cases side <;> cases s <;> simp_all [close, closeSrc, closeDst, udpEnd]

theorem ofChannel_reachable (mtu : Nat) (peer : S → UInt32) (ch : CChannel S) :
    (system mtu (peer (ch.ss .src)) (peer (ch.ss .dst))).Reachable (ofChannel mtu peer ch) := by
  have first : (system mtu (peer (ch.ss .src)) (peer (ch.ss .dst))).Reachable
      (start mtu (peer (ch.ss .src)) (peer (ch.ss .dst))) := .start rfl
  have closes : ∀ {r : Relay} {b : Bool} (side : Side),
      (system mtu (peer (ch.ss .src)) (peer (ch.ss .dst))).Reachable r →
      (system mtu (peer (ch.ss .src)) (peer (ch.ss .dst))).Reachable
        (if b then r else r.close side) := by
    intro r b side before
    split
    · exact before
    · exact before.next (step_close r side)
  exact closes .dst (closes .src first)

theorem started_ofChannel (mtu : Nat) (peer : S → UInt32) (ch : CChannel S) :
    (ofChannel mtu peer ch).started = true := by
  rw [ofChannel]
  split <;> split <;> rfl

theorem coro_ofChannel (mtu : Nat) (peer : S → UInt32) (ch : CChannel S) (side : Side) :
    (ofChannel mtu peer ch).coro side = .spawned := by
  rw [ofChannel]
  cases side <;> split <;> split <;> rfl

theorem isOpen_ofChannel (mtu : Nat) (peer : S → UInt32) (ch : CChannel S) (side : Side) :
    ((ofChannel mtu peer ch).udpEnd side).isOpen = (ch.ends side).isOpen := by
  rw [ofChannel]
  cases side <;> split <;> split <;> simp_all [closeSrc, closeDst, udpEnd, start, UdpEnd.init]

end Relay

/-- What a channel and its relay know of each other. -/
structure Joined (ch : CChannel S) (r : Relay) : Prop where
  started : r.started = ch.started
  closed : ch.pc = .idle → ∀ side, (r.udpEnd side).isOpen = false → (ch.ends side).isOpen = false
  holds : ∀ side, r.coro side ≠ .exited → ch.coro side = true
  ended : ∀ side, r.coro side = .exited → r.started = false

namespace Joined

variable {ch ch' : CChannel S} {r r' : Relay}

/-- The channel goes on, and is not started or stopped. -/
theorem keep (h : Joined ch r) (follows : ch.Follows ch') (same : ch.started = ch'.started) :
    Joined ch' r where
  started := h.started.trans same
  closed idle side gone := by
    by_contra isOpen
    obtain ⟨before, now⟩ := follows.closed idle side (Bool.not_eq_false _ ▸ isOpen)
    cases (h.closed before side gone).symm.trans now
  holds side runs := by
    have coro := follows.coro (by rw [← same]; exact (Bool.eq_false_or_eq_true _))
    rw [coro]
    exact h.holds side runs
  ended := h.ended

/-- The channel is stopped. -/
theorem stop (h : Joined ch r) (follows : ch.Follows ch') (running : ch.started = true)
    (stopped : ch'.started = false) : Joined ch' r.stop where
  started := by
    have now : r.stop.life.started = false := by
      rw [Relay.life_stop]
      exact Life.started_stop
    exact now.trans stopped.symm
  closed idle := absurd idle (follows.stops running stopped)
  holds side runs := by
    have same : r.stop.life.coro = r.life.coro := by
      rw [Relay.life_stop]
      exact Life.coro_stop
    rw [follows.coro (.inl running)]
    exact h.holds side fun gone => runs ((congrFun same side).trans gone)
  ended _ _ := by
    have now : r.stop.life.started = false := by
      rw [Relay.life_stop]
      exact Life.started_stop
    exact now

theorem of_start {mtu : Nat} {peer : S → UInt32} (follows : ch.Follows ch')
    (stopped : ch.started = false) (started : ch'.started = true) :
    Joined ch' (.ofChannel mtu peer ch') where
  started := (Relay.started_ofChannel mtu peer ch').trans started.symm
  closed _ side closed := (Relay.isOpen_ofChannel mtu peer ch' side).symm.trans closed
  holds side _ := by rw [follows.starts stopped started]
  ended side ended := by cases (Relay.coro_ofChannel mtu peer ch' side).symm.trans ended

/-- A coroutine goes on, and may call `stop`. -/
theorem socket (h : Joined ch r) {a : RelayAction} (moves : a.side.isSome = true)
    (run : r.step a = some r') : Joined (if r'.started then ch else ch.beginStop) r' := by
  have life := Relay.step_life run
  have ended : ∀ side, r'.coro side = .exited → r'.started = false := life.ended h.ended
  obtain ⟨same, closes⟩ | ⟨started, stopped, _⟩ := life.calls moves
  · have same : r'.started = r.started := same
    have channel : (if r'.started then ch else ch.beginStop) = ch := by
      split
      · rfl
      · next stopped =>
        refine CChannel.beginStop_of_stopped ?_
        rw [← h.started, ← same]
        exact Bool.eq_false_iff.mpr stopped
    rw [channel]
    exact ⟨same.trans h.started, fun idle side closed => h.closed idle side (closes side closed),
      fun side runs => h.holds side (life.runs (.inl runs)), ended⟩
  · have started : ch.started = true := h.started.symm.trans started
    have stopped : r'.started = false := stopped
    rw [if_neg (Bool.eq_false_iff.mp stopped), CChannel.beginStop, if_pos started]
    refine ⟨stopped, fun idle => ?_, fun side runs => h.holds side (life.runs (.inl runs)), ended⟩
    cases idle

/-- The checker of an end closes it. -/
theorem close (h : Joined ch r) {side : Side} {e : CEnd S} (closed : e.isOpen = false) :
    Joined (ch.setEnd side e) (r.close side) where
  started := (r.started_close side).trans h.started
  closed idle s gone := by
    by_cases eq : s = side
    · subst eq
      simpa [CChannel.setEnd] using closed
    · obtain same | before := Relay.isOpen_close gone
      · exact absurd same eq
      · simpa [CChannel.setEnd, eq] using h.closed idle s before
  holds s runs := h.holds s (by rwa [r.coro_close side] at runs)
  ended s gone := (r.started_close side).trans (h.ended s (by rwa [r.coro_close side] at gone))

/-- The checker of an end finds it closed. -/
theorem setEnd (h : Joined ch r) {side : Side} {e : CEnd S} (closed : e.isOpen = false) :
    Joined (ch.setEnd side e) r where
  started := h.started
  closed idle s gone := by
    by_cases eq : s = side
    · subst eq
      simpa [CChannel.setEnd] using closed
    · simpa [CChannel.setEnd, eq] using h.closed idle s gone
  holds := h.holds
  ended := h.ended

/-- A coroutine that has returned drops its reference. -/
theorem exit (h : Joined ch r) {side : Side} (ended : r.coro side = .exited) :
    Joined (ch.exit side.coro) r where
  started := h.started.trans (by cases side <;> rfl)
  closed idle s gone := by
    rw [CChannel.pc_exit] at idle
    rw [CChannel.ends_exit]
    exact h.closed idle s gone
  holds s runs := by
    have other : s ≠ side := by
      rintro rfl
      exact runs ended
    have same : (ch.exit side.coro).coro s = ch.coro s := by
      cases side <;> cases s <;> first | rfl | exact absurd rfl other
    rw [same]
    exact h.holds s runs
  ended := h.ended

end Joined

/-! ## The server and all relays -/

namespace Relaying

variable [DecidableEq S] [DecidableEq C] {cfg : Config} {mtu : Nat} {peer : S → UInt32}
variable {w w' : Relaying S C} {c : C}

/-- A channel that has been started has a relay between the peers of its sessions. -/
def Agrees (mtu : Nat) (peer : S → UInt32) : Option (CChannel S) → Option Relay → Prop
  | some ch, some r => Joined ch r ∧
      (Relay.system mtu (peer (ch.ss .src)) (peer (ch.ss .dst))).Reachable r
  | some ch, none => ch.started = false
  | none, made => made = none

structure Sound (cfg : Config) (mtu : Nat) (peer : S → UInt32) (w : Relaying S C) : Prop where
  server : (Server.system cfg).Reachable w.server
  agrees : ∀ c, Agrees mtu peer (w.server.channel c) (w.relay c)
  /-- A call that has not started its channel yet has no relay for it. -/
  building : ∀ s req pc c, w.server.task s = .proxy req pc → pc.channel = some c →
    pc.Building → w.relay c = none

omit [DecidableEq S] [DecidableEq C] in
theorem Agrees.joined {mtu : Nat} {peer : S → UInt32} {made : Option Relay} {r : Relay}
    {found : Option (CChannel S)} (h : Agrees mtu peer found made) (eq : made = some r) :
    ∃ ch, found = some ch ∧ Joined ch r ∧
      (Relay.system mtu (peer (ch.ss .src)) (peer (ch.ss .dst))).Reachable r := by
  subst eq
  cases found with
  | none => cases h
  | some ch => exact ⟨ch, rfl, h.1, h.2⟩

theorem Sound.follow (h : Sound cfg mtu peer w) {a : Action S C} {server : Server S C}
    (own : a.ofSockets = false) (run : Server.step cfg w.server a = some server) (c : C) :
    Agrees mtu peer (server.channel c) (w.follow mtu peer server c) := by
  have agrees := h.agrees c
  rw [Relaying.follow]
  cases found : w.server.channel c with
  | none =>
      rw [found] at agrees
      have none : w.relay c = none := agrees
      rw [none]
      cases found' : server.channel c with
      | none => rfl
      | some ch' => exact Server.not_started_of_new h.server run found found'
  | some ch =>
      obtain ⟨ch', found', follows⟩ := Server.moves h.server run own found
      rw [found] at agrees
      rw [found']
      show Agrees mtu peer (some ch') (if ch.started = ch'.started then w.relay c
        else if ch'.started then some (.ofChannel mtu peer ch') else (w.relay c).map Relay.stop)
      by_cases same : ch.started = ch'.started
      · rw [if_pos same]
        cases made : w.relay c with
        | none =>
            rw [made] at agrees
            exact same.symm.trans agrees
        | some r =>
            rw [made] at agrees
            rw [Agrees, follows.ss]
            exact ⟨agrees.1.keep follows same, agrees.2⟩
      · rw [if_neg same]
        by_cases started : ch'.started = true
        · have stopped : ch.started = false := by
            rw [started] at same
            exact Bool.eq_false_iff.mpr same
          rw [if_pos started]
          exact ⟨.of_start follows stopped started, Relay.ofChannel_reachable mtu peer ch'⟩
        · have stopped := Bool.eq_false_iff.mpr started
          have running : ch.started = true := by
            rw [stopped] at same
            simpa using same
          rw [if_neg started]
          cases made : w.relay c with
          | none =>
              rw [made] at agrees
              cases running.symm.trans agrees
          | some r =>
              rw [made] at agrees
              rw [Option.map_some, Agrees, follows.ss]
              exact ⟨agrees.1.stop follows running stopped, agrees.2.next (a := .stop) rfl⟩

theorem Sound.building_follow (h : Sound cfg mtu peer w) {a : Action S C} {server : Server S C}
    (run : Server.step cfg w.server a = some server) {s : S} {req : CReqProxyPkt}
    {pc : ProxyPc S C} (here : server.task s = .proxy req pc) (makes : pc.channel = some c)
    (early : pc.Building) : w.follow mtu peer server c = none := by
  obtain ⟨ch', found', stopped⟩ :=
    Server.not_started_of_building (h.server.next run) here makes early
  have none : w.relay c = none := by
    obtain fresh | ⟨pc', before, made, still⟩ := Server.building h.server run here makes early
    · have agrees := h.agrees c
      rw [fresh] at agrees
      exact agrees
    · exact h.building s req pc' c before made still
  rw [Relaying.follow, found']
  split
  · next found eq =>
    obtain rfl := Option.some.inj eq
    rw [none, stopped]
    split <;> rfl
  · exact none

/-- Only one channel changes. -/
theorem Sound.set (h : Sound cfg mtu peer w) {server : Server S C} (ch' : CChannel S)
    (made : Option Relay) (reached : (Server.system cfg).Reachable server)
    (tasks : server.task = w.server.task)
    (channel : server.channel = Function.update w.server.channel c (some ch'))
    (agrees : Agrees mtu peer (some ch') made) (none : w.relay c = none → made = none) :
    Sound cfg mtu peer ⟨server, Function.update w.relay c made⟩ where
  server := reached
  agrees d := by
    show Agrees mtu peer (server.channel d) (Function.update w.relay c made d)
    rw [channel]
    by_cases eq : d = c
    · subst eq
      rw [Function.update_self, Function.update_self]
      exact agrees
    · rw [Function.update_of_ne eq, Function.update_of_ne eq]
      exact h.agrees d
  building s req pc d here makes early := by
    have before := h.building s req pc d (congrFun tasks s ▸ here) makes early
    show Function.update w.relay c made d = _
    by_cases eq : d = c
    · subst eq
      rw [Function.update_self]
      exact none before
    · rw [Function.update_of_ne eq]
      exact before

/-- A coroutine that stops the channel has found a socket closed, and so has the server. -/
theorem Sound.stops (h : Sound cfg mtu peer w) {ch : CChannel S} {r r' : Relay} {a : RelayAction}
    (found : w.server.channel c = some ch) (made : w.relay c = some r) (idle : ch.pc = .idle)
    (moves : a.side.isSome = true) (run : r.step a = some r') :
    (Server.system cfg).Reachable
      (if r'.started then w.server else w.server.setChannel c ch.beginStop) := by
  obtain ⟨ch, found₀, joined, _⟩ := (h.agrees c).joined made
  obtain rfl := Option.some.inj (found.symm.trans found₀)
  have life := Relay.step_life run
  split
  · exact h.server
  · next stopped =>
    obtain ⟨same, _⟩ | ⟨_, _, s, closed⟩ := life.calls moves
    · have none : ch.started = false := by
        rw [← joined.started, ← show r'.started = r.started from same]
        exact Bool.eq_false_iff.mpr stopped
      have same : w.server.setChannel c ch = w.server := by
        rw [Server.setChannel, ← found, Function.update_eq_self]
      rw [CChannel.beginStop_of_stopped none, same]
      exact h.server
    · obtain ⟨side, mover⟩ := Option.isSome_iff_exists.mp moves
      have holds := joined.holds side (life.runs (.inr mover))
      have holds : ch.uploader = true ∨ ch.downloader = true := by
        cases side with
        | src => exact .inl holds
        | dst => exact .inr holds
      have closed := joined.closed idle s closed
      have ends : (!(ch.ends .src).isOpen) = true ∨ (!(ch.ends .dst).isOpen) = true := by
        cases s with
        | src => exact .inl (by rw [closed]; rfl)
        | dst => exact .inr (by rw [closed]; rfl)
      exact h.server.next (a := .socketStop c) (Server.onChannel_eq_some_iff.mpr
        ⟨ch, found, idle, if_pos ⟨holds, ends⟩⟩)

theorem Sound.socket (h : Sound cfg mtu peer w) {ch : CChannel S} {r r' : Relay}
    {a : RelayAction} (found : w.server.channel c = some ch) (made : w.relay c = some r)
    (idle : ch.pc = .idle) (moves : a.side.isSome = true) (run : r.step a = some r') :
    Sound cfg mtu peer ⟨if r'.started then w.server else w.server.setChannel c ch.beginStop,
      Function.update w.relay c (some r')⟩ := by
  obtain ⟨ch, found₀, joined, reached⟩ := (h.agrees c).joined made
  obtain rfl := Option.some.inj (found.symm.trans found₀)
  refine h.set (if r'.started then ch else ch.beginStop) _
    (h.stops found made idle moves run) ?_ ?_ ⟨joined.socket moves run, ?_⟩ ?_
  · split <;> rfl
  · split
    · rw [← found, Function.update_eq_self]
    · rfl
  · have ss : (if r'.started then ch else ch.beginStop).ss = ch.ss := by
      split
      · rfl
      · exact ch.ss_beginStop
    rw [ss]
    exact reached.next run
  · intro none
    cases made.symm.trans none

theorem Sound.closes (h : Sound cfg mtu peer w) {side : Side} {server : Server S C}
    (run : Server.step cfg w.server (.checker c side true) = some server) :
    Sound cfg mtu peer
      ⟨server, Function.update w.relay c ((w.relay c).map (·.close side))⟩ := by
  have reached := h.server.next run
  obtain ⟨ch, found, idle, ⟨_, ⟨⟩, _⟩ | ⟨e, closed, rfl⟩⟩ := Server.checker_eq_some run
  have closed : e.isOpen = false := by
    by_contra isOpen
    cases (closed (Bool.not_eq_false _ ▸ isOpen)).2
  have agrees := h.agrees c
  rw [found] at agrees
  refine h.set (ch.setEnd side e) _ reached rfl rfl ?_ ?_
  · cases made : w.relay c with
    | none =>
        rw [made] at agrees
        exact agrees
    | some r =>
        rw [made] at agrees
        exact ⟨agrees.1.close closed, agrees.2.next (r.step_close side)⟩
  · intro none
    rw [none]
    rfl

theorem Sound.ends (h : Sound cfg mtu peer w) {side : Side} {expired : Bool}
    {server : Server S C} (closed : w.isOpen c side = false)
    (run : Server.step cfg w.server (.checker c side expired) = some server) :
    Sound cfg mtu peer ⟨server, w.relay⟩ := by
  have reached := h.server.next run
  obtain ⟨ch, found, idle, moved⟩ := Server.checker_eq_some run
  have agrees := h.agrees c
  rw [found] at agrees
  have gone : (ch.ends side).isOpen = false := by
    rw [Relaying.isOpen] at closed
    cases made : w.relay c with
    | none =>
        rw [made, found] at closed
        exact closed
    | some r =>
        rw [made] at closed agrees
        exact agrees.1.closed idle side closed
  obtain ⟨isOpen, _⟩ | ⟨e, looked, rfl⟩ := moved
  · cases gone.symm.trans isOpen
  · have closed : e.isOpen = false := by
      by_contra isOpen
      cases gone.symm.trans (looked (Bool.not_eq_false _ ▸ isOpen)).1
    have set := h.set (ch.setEnd side e) (w.relay c) reached rfl rfl ?_ fun eq => eq
    · rwa [Function.update_eq_self] at set
    · cases made : w.relay c with
      | none =>
          rw [made] at agrees
          exact agrees
      | some r =>
          rw [made] at agrees
          exact ⟨agrees.1.setEnd closed, agrees.2⟩

theorem Sound.returned (h : Sound cfg mtu peer w) {side : Side} {r : Relay}
    {server : Server S C} (made : w.relay c = some r) (ended : r.coro side = .exited)
    (run : Server.step cfg w.server (.coroExit c side.coro) = some server) :
    Sound cfg mtu peer ⟨server, w.relay⟩ := by
  have reached := h.server.next run
  obtain ⟨ch, found, _, _, rfl⟩ := Server.coroExit_eq_some run
  obtain ⟨ch, found₀, joined, link⟩ := (h.agrees c).joined made
  obtain rfl := Option.some.inj (found.symm.trans found₀)
  have set := h.set (ch.exit side.coro) (w.relay c) reached rfl rfl ?_ fun eq => eq
  · rwa [Function.update_eq_self] at set
  · rw [made, Agrees, CChannel.ss_exit]
    exact ⟨joined.exit ended, link⟩

theorem sound_of_reachable (reached : (system cfg mtu peer).Reachable w) :
    Sound cfg mtu peer w := by
  refine reached.invariant (I := Sound cfg mtu peer) ?_ ?_
  · rintro _ rfl
    exact ⟨.start rfl, fun _ => rfl, fun _ _ _ _ _ _ _ => rfl⟩
  · intro w a w' _ h run
    cases step_of_run run with
    | server own moved =>
        exact ⟨h.server.next moved, h.follow own moved, fun s req pc c here makes early =>
          h.building_follow moved here makes early⟩
    | socket found made idle moves moved => exact h.socket found made idle moves moved
    | waits => exact h
    | closes _ moved => exact h.closes moved
    | ends closed moved => exact h.ends closed moved
    | returned _ made ended _ moved => exact h.returned made ended moved

/-- In every run of the server with the sockets and coroutines of its channels, the server is
in a state that it reaches by itself, and every channel that has been started has a relay, in a
state that a relay between the peers of the two sessions reaches by itself. Both agree whether
the channel is started, and a coroutine that has not returned holds the channel. -/
theorem parts_reachable (reached : (system cfg mtu peer).Reachable w) :
    (Server.system cfg).Reachable w.server ∧
      (∀ c ch, w.server.channel c = some ch → ch.started = true → (w.relay c).isSome = true) ∧
      ∀ c r, w.relay c = some r → ∃ ch, w.server.channel c = some ch ∧
        (Relay.system mtu (peer (ch.ss .src)) (peer (ch.ss .dst))).Reachable r ∧
        r.started = ch.started ∧ ∀ side, r.coro side ≠ .exited → ch.held = true := by
  have sound := sound_of_reachable reached
  refine ⟨sound.server, fun c ch found started => ?_, fun c r made => ?_⟩
  · by_contra none
    have agrees := sound.agrees c
    rw [found, Option.not_isSome_iff_eq_none.mp none] at agrees
    cases started.symm.trans agrees
  · obtain ⟨ch, found, joined, link⟩ := (sound.agrees c).joined made
    refine ⟨ch, found, link, joined.started, fun side runs => ?_⟩
    have holds := joined.holds side runs
    cases side with
    | src => simp [CChannel.held, show ch.uploader = true from holds]
    | dst => simp [CChannel.held, show ch.downloader = true from holds]

/-- A channel is made for a client and a server, both authenticate themselves, and the client
sends a datagram. -/
def relayOnce : List (RelayingAction (Fin 2) (Fin 1)) :=
  (requestChannel ++ go 0 11).map .server ++ List.map (.socket 0) [
    .resume .src ⟨true, true, true⟩, .resume .dst ⟨true, true, true⟩,
    .arrive .dst ⟨[1, 2, 3], ⟨2, 7⟩⟩, .resume .dst ⟨true, true, true⟩,
    .resume .dst ⟨true, true, true⟩, .arrive .src ⟨[4, 5, 6], ⟨1, 9⟩⟩,
    .resume .src ⟨true, true, true⟩, .resume .src ⟨true, true, true⟩,
    .arrive .src ⟨[7, 8, 9], ⟨1, 9⟩⟩, .resume .src ⟨true, true, true⟩]

theorem exists_relayOnce {P : Relaying (Fin 2) (Fin 1) → Prop}
    (check : ∃ w ∈ System.runSteps (step ⟨0, 0, 0⟩ 8 fun s => if s = 0 then 1 else 2) new relayOnce,
      P w) :
    ∃ w, (system ⟨0, 0, 0⟩ 8 fun s : Fin 2 => if s = 0 then 1 else 2).Reachable w ∧ P w :=
  System.reachable_of_check rfl check

theorem parts_reachable_relayOnce : ∃ w : Relaying (Fin 2) (Fin 1), ∃ r, w.relay 0 = some r ∧
    r.uploader = .relay (.send 3 (some ⟨2, 7⟩) false) ∧
    (Server.system ⟨0, 0, 0⟩).Reachable w.server ∧ ∃ ch, w.server.channel 0 = some ch ∧
      (Relay.system 8 (if ch.ss .src = 0 then 1 else 2)
        (if ch.ss .dst = 0 then 1 else 2)).Reachable r ∧
      r.started = ch.started ∧ ∀ side, r.coro side ≠ .exited → ch.held = true := by
  obtain ⟨w, reached, r, made, sending⟩ := exists_relayOnce
    (P := fun w => ∃ r ∈ w.relay 0, r.uploader = .relay (.send 3 (some ⟨2, 7⟩) false))
    (by decide +kernel)
  obtain ⟨server, _, relays⟩ := parts_reachable reached
  exact ⟨w, r, made, sending, server, relays 0 r made⟩

end Relaying

end NatProxy
