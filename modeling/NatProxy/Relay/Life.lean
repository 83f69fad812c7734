import NatProxy.Relay.Echo

/-!
# How a channel ends

`Life` is the part of a channel that decides how long it lives: whether it is started, which
sockets are open, and where the coroutines are. A coroutine calls `stop` only when it finds a
socket closed, and it returns only when the channel is stopped. Once the channel is stopped,
each coroutine returns after three more steps at most, whatever its socket does. It does not
wait for a peer any more: `stop` has closed both sockets, and a receive on a closed socket
fails (`Shut`).
-/

namespace NatProxy

open Transition

/-- The steps that are left to a coroutine of a stopped channel. -/
def Wait.turns : Wait → Nat
  | .receive => 3
  | .received _ => 2
  | .send _ _ _ => 1

def CoroPc.turns : CoroPc → Nat
  | .spawned => 1
  | .auth wait | .relay wait => wait.turns
  | .exited => 0

@[ext]
structure Life where
  started : Bool
  isOpen : Side → Bool
  coro : Side → CoroPc

namespace Life

section Operations

variable (l : Life) (side : Side)

def setCoro (pc : CoroPc) : Life := { l with coro := Function.update l.coro side pc }

def close : Life := { l with isOpen := Function.update l.isOpen side false }

def stop : Life := if l.started then { l with started := false, isOpen := fun _ => false } else l

/-- The head of the relay loop. -/
def loop : Life := l.setCoro side (if l.started then .relay .receive else .exited)

/-- `connect`, which may open the socket. -/
def connect (opens : Bool) : Life :=
  { l with isOpen := Function.update l.isOpen .dst (l.isOpen .dst || opens) }

end Operations

/-- What a coroutine does between two waits. -/
inductive Turn : Life → Side → Life → Prop
  | loops {l side} : Turn l side (l.loop side)
  | asks {l side} (running : l.started = true) (auth : (l.coro side).inAuth = true) :
      Turn l side (l.setCoro side (.auth .receive))
  | connects {l} (opens : Bool) (auth : (l.coro .dst).inAuth = true) :
      Turn l .dst ((l.connect opens).loop .dst)
  | stops {l side} (closed : ∃ s, l.isOpen s = false) :
      Turn l side (l.stop.setCoro side .exited)
  | sends {l side pc} (received : (l.coro side).turns = 2) (sending : pc.turns = 1)
      (auth : pc.inAuth = (l.coro side).inAuth) : Turn l side (l.setCoro side pc)

inductive Step : Life → RelayAction → Life → Prop
  | resume {l side o l'} (runs : l.coro side ≠ .exited) (turn : Turn l side l') :
      Step l (.resume side o) l'
  | arrive {l side d pc} (receives : (l.coro side).turns = 3) (received : pc.turns = 2)
      (auth : pc.inAuth = (l.coro side).inAuth) : Step l (.arrive side d) (l.setCoro side pc)
  | receiveFails {l side pc} (receives : (l.coro side).turns = 3) (received : pc.turns = 2)
      (auth : pc.inAuth = (l.coro side).inAuth) : Step l (.receiveFails side) (l.setCoro side pc)
  | stop {l} : Step l .stop l.stop
  | expire {l side} : Step l (.expire side) (l.close side)

/-- A stopped channel leaves the loop. -/
theorem loop_stop {l : Life} {side : Side} : l.stop.loop side = l.stop.setCoro side .exited := by
  rw [loop, stop]
  by_cases started : l.started = true
  · rw [if_pos started]
    rfl
  · rw [if_neg started, if_neg started]

end Life

namespace Relay

variable {ch ch' : Relay} {o : Outcome}

def life (ch : Relay) : Life where
  started := ch.started
  isOpen := fun side => (ch.udpEnd side).isOpen
  coro := ch.coro

/-! ## The view -/

theorem life_eq {l : Life} (started : ch.started = l.started)
    (src : ch.srcEnd.isOpen = l.isOpen .src) (dst : ch.dstEnd.isOpen = l.isOpen .dst)
    (uploader : ch.uploader = l.coro .src) (downloader : ch.downloader = l.coro .dst) :
    ch.life = l := by
  apply Life.ext
  · exact started
  · funext side
    cases side
    · exact src
    · exact dst
  · funext side
    cases side
    · exact uploader
    · exact downloader

theorem life_setUploader (ch : Relay) (pc : CoroPc) :
    { ch with uploader := pc }.life = ch.life.setCoro .src pc :=
  life_eq rfl rfl rfl rfl rfl

theorem life_setDownloader (ch : Relay) (pc : CoroPc) :
    { ch with downloader := pc }.life = ch.life.setCoro .dst pc :=
  life_eq rfl rfl rfl rfl rfl

theorem life_closeSrc : ch.closeSrc.life = ch.life.close .src := life_eq rfl rfl rfl rfl rfl

theorem life_closeDst : ch.closeDst.life = ch.life.close .dst := life_eq rfl rfl rfl rfl rfl

theorem life_stop : ch.stop.life = ch.life.stop := by
  rw [stop, Life.stop]
  by_cases started : ch.started = true
  · rw [if_pos started, if_pos (show ch.life.started = true from started)]
    exact life_eq rfl rfl rfl rfl rfl
  · rw [if_neg started, if_neg (show ¬ ch.life.started = true from started)]

theorem life_uploaderLoop : ch.uploaderLoop.life = ch.life.loop .src :=
  life_setUploader ch _

theorem life_downloaderLoop : ch.downloaderLoop.life = ch.life.loop .dst :=
  life_setDownloader ch _

theorem life_setSrc (ch : Relay) {e : UdpEnd} (isOpen : e.isOpen = ch.srcEnd.isOpen) :
    { ch with srcEnd := e }.life = ch.life := life_eq rfl isOpen rfl rfl rfl

/-- A receive or a send changes the buffer, the remote endpoint and the wait. -/
theorem life_waitSrc (ch : Relay) {srcEnd : UdpEnd} {ep : Endpoint} (pc : CoroPc)
    (isOpen : srcEnd.isOpen = ch.srcEnd.isOpen) :
    { ch with srcEnd, ep, uploader := pc }.life = ch.life.setCoro .src pc :=
  life_eq rfl isOpen rfl rfl rfl

theorem life_waitDst (ch : Relay) {dstEnd : UdpEnd} (pc : CoroPc)
    (isOpen : dstEnd.isOpen = ch.dstEnd.isOpen) :
    { ch with dstEnd, downloader := pc }.life = ch.life.setCoro .dst pc :=
  life_eq rfl rfl isOpen rfl rfl

theorem life_connect : (ch.connect o).life = ch.life.connect o.opens := life_eq rfl rfl rfl rfl rfl

/-! ## The turns of the uploader -/

theorem closed_src (closed : (!ch.srcEnd.isOpen) = true) : ∃ s, ch.life.isOpen s = false :=
  ⟨.src, (Bool.not_eq_true' _).mp closed⟩

theorem closed_dst (closed : (!ch.dstEnd.isOpen) = true) : ∃ s, ch.life.isOpen s = false :=
  ⟨.dst, (Bool.not_eq_true' _).mp closed⟩

/-- The uploader calls `stop` if it finds a socket closed, and goes on. -/
theorem uploaderError_turn {closed : Bool}
    (found : closed = true → ∃ s, ch.life.isOpen s = false) :
    Life.Turn ch.life .src (if closed then ch.stop else ch).uploaderLoop.life := by
  rw [life_uploaderLoop]
  split
  · next now =>
    rw [life_stop, Life.loop_stop]
    exact .stops (found now)
  · exact .loops

theorem srcAuthLoop_turn (auth : ch.uploader.inAuth = true) :
    Life.Turn ch.life .src ch.srcAuthLoop.life := by
  rw [srcAuthLoop]
  split
  · next more =>
    rw [life_setUploader ch (.auth .receive)]
    exact .asks (Bool.and_eq_true_iff.mp more).1 auth
  · rw [life_uploaderLoop]
    exact .loops

theorem srcAuthError_turn (auth : ch.uploader.inAuth = true) : Life.Turn ch.life .src
    (if !ch.srcEnd.isOpen then { ch.stop with uploader := .exited } else ch.srcAuthLoop).life := by
  split
  · next closed =>
    rw [life_setUploader ch.stop .exited, life_stop]
    exact .stops (closed_src closed)
  · exact srcAuthLoop_turn auth

/-- `async_send_to` or `async_send`. -/
theorem send_src {srcEnd : UdpEnd} {pc : CoroPc} (isOpen : srcEnd.isOpen = ch.srcEnd.isOpen)
    (received : (ch.life.coro .src).turns = 2) (sending : pc.turns = 1)
    (auth : pc.inAuth = (ch.life.coro .src).inAuth) :
    Life.Turn ch.life .src { ch with srcEnd, uploader := pc }.life := by
  rw [life_waitSrc ch pc isOpen]
  exact .sends received sending auth

theorem upload_turn {bytes : Nat} (received : (ch.life.coro .src).turns = 2)
    (left : (ch.life.coro .src).inAuth = false) :
    Life.Turn ch.life .src (ch.upload bytes).life := by
  rw [upload]
  split
  · rw [life_uploaderLoop]
    exact .loops
  · exact send_src rfl received rfl left.symm

theorem resumeUploader_turn (run : ch.resumeUploader o = some ch') :
    Life.Turn ch.life .src ch'.life := by
  rw [resumeUploader] at run
  split at run
  · next here =>
    obtain rfl := Option.some.inj run
    exact srcAuthLoop_turn (congrArg CoroPc.inAuth here)
  · next result here =>
    obtain rfl := Option.some.inj run
    have auth : ch.uploader.inAuth = true := congrArg CoroPc.inAuth here
    rw [srcAuthReceived]
    split
    · exact srcAuthError_turn auth
    · refine send_src ?_ (congrArg CoroPc.turns here) rfl auth.symm
      split <;> rfl
  · next here =>
    obtain rfl := Option.some.inj run
    have auth : ch.uploader.inAuth = true := congrArg CoroPc.inAuth here
    rw [srcAuthSent]
    split
    · rw [← life_setSrc ch (e := { ch.srcEnd with opened := false }) rfl]
      exact srcAuthError_turn auth
    · exact srcAuthLoop_turn auth
  · next result here =>
    obtain rfl := Option.some.inj run
    have received : (ch.life.coro .src).turns = 2 := congrArg CoroPc.turns here
    have left : (ch.life.coro .src).inAuth = false := congrArg CoroPc.inAuth here
    rw [uploaderReceived]
    split
    · exact uploaderError_turn closed_src
    · split
      · split
        · rw [life_uploaderLoop]
          exact .loops
        · have same := life_setSrc ch
            (e := { ch.srcEnd with remoteEp := { ch.srcEnd.remoteEp with port := ch.ep.port } }) rfl
          rw [← same] at received left ⊢
          exact upload_turn received left
      · exact upload_turn received left
  · obtain rfl := Option.some.inj run
    rw [uploaderSent]
    split
    · exact uploaderError_turn closed_dst
    · rw [life_uploaderLoop]
      exact .loops
  · cases run

/-! ## The turns of the downloader -/

theorem downloaderError_turn {closed : Bool}
    (found : closed = true → ∃ s, ch.life.isOpen s = false) :
    Life.Turn ch.life .dst (if closed then ch.stop else ch).downloaderLoop.life := by
  rw [life_downloaderLoop]
  split
  · next now =>
    rw [life_stop, Life.loop_stop]
    exact .stops (found now)
  · exact .loops

theorem dstAuthLoop_turn (auth : ch.downloader.inAuth = true) :
    Life.Turn ch.life .dst (ch.dstAuthLoop o).life := by
  rw [dstAuthLoop]
  split
  · next more =>
    rw [life_setDownloader ch (.auth .receive)]
    exact .asks (Bool.and_eq_true_iff.mp more).1 auth
  · rw [life_downloaderLoop, life_connect]
    exact .connects o.opens auth

theorem dstAuthError_turn (auth : ch.downloader.inAuth = true) : Life.Turn ch.life .dst
    (if !ch.dstEnd.isOpen then { ch.stop with downloader := .exited }
      else ch.dstAuthLoop o).life := by
  split
  · next closed =>
    rw [life_setDownloader ch.stop .exited, life_stop]
    exact .stops (closed_dst closed)
  · exact dstAuthLoop_turn auth

theorem send_dst {dstEnd : UdpEnd} {pc : CoroPc} (isOpen : dstEnd.isOpen = ch.dstEnd.isOpen)
    (received : (ch.life.coro .dst).turns = 2) (sending : pc.turns = 1)
    (auth : pc.inAuth = (ch.life.coro .dst).inAuth) :
    Life.Turn ch.life .dst { ch with dstEnd, downloader := pc }.life := by
  rw [life_waitDst ch pc isOpen]
  exact .sends received sending auth

theorem resumeDownloader_turn (run : ch.resumeDownloader o = some ch') :
    Life.Turn ch.life .dst ch'.life := by
  rw [resumeDownloader] at run
  split at run
  · next here =>
    obtain rfl := Option.some.inj run
    exact dstAuthLoop_turn (congrArg CoroPc.inAuth here)
  · next result here =>
    obtain rfl := Option.some.inj run
    have auth : ch.downloader.inAuth = true := congrArg CoroPc.inAuth here
    rw [dstAuthReceived]
    split
    · exact dstAuthError_turn auth
    · refine send_dst ?_ (congrArg CoroPc.turns here) rfl auth.symm
      split <;> rfl
  · next here =>
    obtain rfl := Option.some.inj run
    have auth : ch.downloader.inAuth = true := congrArg CoroPc.inAuth here
    rw [dstAuthSent]
    split
    · exact dstAuthError_turn auth
    · exact dstAuthLoop_turn auth
  · next result here =>
    obtain rfl := Option.some.inj run
    have left : (ch.life.coro .dst).inAuth = false := congrArg CoroPc.inAuth here
    rw [downloaderReceived]
    split
    · exact downloaderError_turn closed_dst
    · split
      · rw [life_downloaderLoop]
        exact .loops
      · exact send_dst rfl (congrArg CoroPc.turns here) rfl left.symm
  · obtain rfl := Option.some.inj run
    rw [downloaderSent]
    split
    · exact downloaderError_turn closed_src
    · rw [life_downloaderLoop]
      exact .loops
  · cases run

/-! ## Steps -/

theorem uploader_runs (run : ch.resumeUploader o = some ch') : ch.uploader ≠ .exited := by
  intro ended
  rw [resumeUploader, ended] at run
  cases run

theorem downloader_runs (run : ch.resumeDownloader o = some ch') : ch.downloader ≠ .exited := by
  intro ended
  rw [resumeDownloader, ended] at run
  cases run

/-- Every step of a channel is a step of its life. -/
theorem step_life {a : RelayAction} (run : ch.step a = some ch') :
    Life.Step ch.life a ch'.life := by
  cases a with
  | arrive side d =>
      cases side with
      | src =>
          obtain ⟨here, rfl⟩ | ⟨here, rfl⟩ := arriveSrc_cases run
          · rw [life_waitSrc ch (.auth _) (by rfl)]
            exact .arrive (congrArg CoroPc.turns here) rfl (congrArg CoroPc.inAuth here).symm
          · rw [life_waitSrc ch (.relay _) (by rfl)]
            exact .arrive (congrArg CoroPc.turns here) rfl (congrArg CoroPc.inAuth here).symm
      | dst =>
          obtain ⟨here, rfl⟩ | ⟨here, rfl⟩ := arriveDst_cases run
          · rw [life_waitDst ch (.auth _) (by rfl)]
            exact .arrive (congrArg CoroPc.turns here) rfl (congrArg CoroPc.inAuth here).symm
          · rw [life_waitDst ch (.relay _) (by rfl)]
            exact .arrive (congrArg CoroPc.turns here) rfl (congrArg CoroPc.inAuth here).symm
  | receiveFails side =>
      cases side with
      | src =>
          obtain ⟨pc, failed, rfl⟩ := Option.map_eq_some_iff.mp run
          rw [life_setUploader ch pc]
          obtain ⟨here, rfl⟩ | ⟨here, rfl⟩ := failReceive_eq_some failed <;>
          · exact .receiveFails (congrArg CoroPc.turns here) rfl (congrArg CoroPc.inAuth here).symm
      | dst =>
          obtain ⟨pc, failed, rfl⟩ := Option.map_eq_some_iff.mp run
          rw [life_setDownloader ch pc]
          obtain ⟨here, rfl⟩ | ⟨here, rfl⟩ := failReceive_eq_some failed <;>
          · exact .receiveFails (congrArg CoroPc.turns here) rfl (congrArg CoroPc.inAuth here).symm
  | resume side o =>
      cases side with
      | src => exact .resume (uploader_runs run) (resumeUploader_turn run)
      | dst => exact .resume (downloader_runs run) (resumeDownloader_turn run)
  | stop =>
      obtain rfl := Option.some.inj run
      rw [life_stop]
      exact .stop
  | expire side =>
      cases side with
      | src =>
          obtain rfl := Option.some.inj run
          rw [life_closeSrc]
          exact .expire
      | dst =>
          obtain rfl := Option.some.inj run
          rw [life_closeDst]
          exact .expire

end Relay

/-! ## What a step does to a life -/

theorem CoroPc.turns_pos {pc : CoroPc} (runs : pc ≠ .exited) : 0 < pc.turns := by
  cases pc with
  | spawned => exact Nat.one_pos
  | auth wait | relay wait => cases wait <;> exact Nat.succ_pos _
  | exited => exact absurd rfl runs

theorem CoroPc.turns_le (pc : CoroPc) : pc.turns ≤ 3 := by
  cases pc with
  | spawned | exited => decide
  | auth wait | relay wait => cases wait <;> simp [CoroPc.turns, Wait.turns]

/-- The coroutine that a step is about. -/
def RelayAction.side : RelayAction → Option Side
  | .arrive side _ | .receiveFails side | .resume side _ => some side
  | .stop | .expire _ => none

namespace Life

variable {l l' : Life} {side : Side} {a : RelayAction}

@[simp] theorem coro_setCoro (pc : CoroPc) : (l.setCoro side pc).coro side = pc :=
  Function.update_self ..

theorem coro_setCoro_of_ne {s : Side} (other : s ≠ side) (pc : CoroPc) :
    (l.setCoro side pc).coro s = l.coro s := Function.update_of_ne other ..

theorem coro_stop : l.stop.coro = l.coro := by
  rw [stop]
  split <;> rfl

theorem started_stop : l.stop.started = false := by
  rw [stop]
  split
  · rfl
  · next stopped => exact Bool.eq_false_iff.mpr stopped

theorem Turn.other (turn : Turn l side l') {s : Side} (other : s ≠ side) :
    l'.coro s = l.coro s := by
  cases turn with
  | loops => exact coro_setCoro_of_ne other _
  | asks => exact coro_setCoro_of_ne other _
  | connects opens => exact (coro_setCoro_of_ne other _).trans rfl
  | stops => rw [coro_setCoro_of_ne other, coro_stop]
  | sends => exact coro_setCoro_of_ne other _

/-- A turn calls `stop` only when a socket is closed, and then it returns. Otherwise it closes
no socket. -/
theorem Turn.calls (turn : Turn l side l') :
    l'.started = l.started ∧ (∀ s, l'.isOpen s = false → l.isOpen s = false) ∨
      l.started = true ∧ (∃ s, l.isOpen s = false) ∧ l' = l.stop.setCoro side .exited := by
  cases turn with
  | loops => exact .inl ⟨rfl, fun _ => id⟩
  | asks => exact .inl ⟨rfl, fun _ => id⟩
  | sends => exact .inl ⟨rfl, fun _ => id⟩
  | connects opens =>
      refine .inl ⟨rfl, fun s closed => ?_⟩
      cases s with
      | src => exact closed
      | dst =>
          have neither : (l.isOpen .dst || opens) = false := closed
          exact (Bool.or_eq_false_iff.mp neither).1
  | stops closed =>
      by_cases started : l.started = true
      · exact .inr ⟨started, closed, rfl⟩
      · have same : l.stop = l := if_neg started
        rw [same]
        exact .inl ⟨rfl, fun _ => id⟩

/-- A turn opens no socket but that of the destination, when the downloader leaves `dstAuth`. -/
theorem Turn.opened (turn : Turn l side l') {s : Side} (isOpen : l'.isOpen s = true) :
    l.isOpen s = true ∨
      s = .dst ∧ (l.coro .dst).inAuth = true ∧ (l'.coro .dst).inAuth = false := by
  cases turn with
  | loops => exact .inl isOpen
  | asks => exact .inl isOpen
  | sends => exact .inl isOpen
  | connects opens auth =>
      cases s with
      | src => exact .inl isOpen
      | dst =>
          refine .inr ⟨rfl, auth, ?_⟩
          rw [loop, coro_setCoro]
          split <;> rfl
  | stops =>
      by_cases started : l.started = true
      · rw [stop, if_pos started] at isOpen
        cases isOpen
      · rw [stop, if_neg started] at isOpen
        exact .inl isOpen

/-- A coroutine does not come back to its authentication loop. -/
theorem Turn.left (turn : Turn l side l') {s : Side} (left : (l.coro s).inAuth = false) :
    (l'.coro s).inAuth = false := by
  have head : (if l.started then CoroPc.relay .receive else .exited).inAuth = false := by
    split <;> rfl
  by_cases other : s = side
  · subst other
    cases turn with
    | loops =>
        rw [loop, coro_setCoro]
        exact head
    | asks _ auth => cases auth.symm.trans left
    | connects opens =>
        rw [loop, coro_setCoro]
        exact head
    | stops => exact congrArg CoroPc.inAuth (coro_setCoro _)
    | sends _ _ auth =>
        rw [coro_setCoro]
        exact auth.trans left
  · rw [turn.other other]
    exact left

/-- Only a stopped channel's coroutine returns. -/
theorem Turn.ended (turn : Turn l side l') (ended : l'.coro side = .exited) :
    l'.started = false := by
  have left : (if l.started then CoroPc.relay .receive else .exited) = .exited →
      l.started = false := by
    intro left
    by_contra running
    rw [if_pos (Bool.not_eq_false _ ▸ running)] at left
    cases left
  cases turn with
  | loops => exact left ((coro_setCoro _).symm.trans ended)
  | asks => cases (coro_setCoro _).symm.trans ended
  | connects opens => exact left ((coro_setCoro _).symm.trans ended)
  | stops => exact started_stop
  | sends _ sending =>
      rw [(coro_setCoro _).symm.trans ended] at sending
      cases sending

/-- In a stopped channel a turn uses one of those that are left. -/
theorem Turn.turns_lt (turn : Turn l side l') (runs : l.coro side ≠ .exited)
    (stopped : l.started = false) : (l'.coro side).turns < (l.coro side).turns := by
  cases turn with
  | loops =>
      rw [loop, stopped, coro_setCoro]
      exact CoroPc.turns_pos runs
  | asks running => cases running.symm.trans stopped
  | connects opens =>
      have left : ((l.connect opens).loop .dst).coro .dst = .exited := by
        rw [loop, coro_setCoro]
        exact if_neg (Bool.eq_false_iff.mp stopped)
      rw [left]
      exact CoroPc.turns_pos runs
  | stops =>
      rw [coro_setCoro]
      exact CoroPc.turns_pos runs
  | sends received sending =>
      rw [coro_setCoro, received, sending]
      decide

theorem Turn.stopped (turn : Turn l side l') (stopped : l.started = false) :
    l'.started = false := by
  obtain ⟨same, _⟩ | ⟨started, _⟩ := turn.calls
  · exact same.trans stopped
  · cases started.symm.trans stopped

theorem Step.opened (step : Step l a l') {s : Side} (isOpen : l'.isOpen s = true) :
    l.isOpen s = true ∨
      s = .dst ∧ (l.coro .dst).inAuth = true ∧ (l'.coro .dst).inAuth = false := by
  cases step with
  | resume _ turn => exact turn.opened isOpen
  | arrive | receiveFails => exact .inl isOpen
  | stop =>
      rw [Life.stop] at isOpen
      split at isOpen
      · cases isOpen
      · exact .inl isOpen
  | @expire side =>
      by_cases eq : s = side
      · subst eq
        cases (Function.update_self ..).symm.trans isOpen
      · exact .inl ((Function.update_of_ne eq ..).symm.trans isOpen)

theorem Step.left (step : Step l a l') {s : Side} (left : (l.coro s).inAuth = false) :
    (l'.coro s).inAuth = false := by
  cases step with
  | resume _ turn => exact turn.left left
  | @arrive side _ pc _ _ auth | @receiveFails side pc _ _ auth =>
      by_cases eq : s = side
      · subst eq
        rw [coro_setCoro, auth]
        exact left
      · rw [coro_setCoro_of_ne eq]
        exact left
  | stop =>
      rw [coro_stop]
      exact left
  | expire => exact left

theorem Step.stopped (step : Step l a l') (stopped : l.started = false) : l'.started = false := by
  cases step with
  | resume _ turn => exact turn.stopped stopped
  | arrive | receiveFails | expire => exact stopped
  | stop => exact started_stop

/-- A receive of a stopped channel waits for a closed socket. -/
def Shut (l : Life) : Prop :=
  l.started = false → ∀ side, (l.coro side).turns = 3 → l.isOpen side = false

theorem isOpen_stop (started : l.started = true) (s : Side) : l.stop.isOpen s = false := by
  rw [stop, if_pos started]

/-- A coroutine opens no socket but its own. -/
theorem Turn.opened_own (turn : Turn l side l') {s : Side} (other : s ≠ side)
    (isOpen : l'.isOpen s = true) : l.isOpen s = true := by
  cases turn with
  | loops | asks | sends => exact isOpen
  | connects opens => exact (Function.update_of_ne other ..).symm.trans isOpen
  | stops =>
      by_cases started : l.started = true
      · cases (isOpen_stop started s).symm.trans isOpen
      · rwa [stop, if_neg started] at isOpen

theorem Turn.shut (turn : Turn l side l') (runs : l.coro side ≠ .exited) (h : l.Shut) :
    l'.Shut := by
  intro stopped s receives
  by_cases before : l.started = true
  · -- this turn has called `stop`
    obtain ⟨same, _⟩ | ⟨_, _, rfl⟩ := turn.calls
    · cases (same.trans before).symm.trans stopped
    · exact isOpen_stop before s
  · have before := Bool.eq_false_iff.mpr before
    have other : s ≠ side := by
      rintro rfl
      have less := turn.turns_lt runs before
      have most := (l.coro s).turns_le
      omega
    rw [turn.other other] at receives
    exact Bool.eq_false_iff.mpr fun isOpen =>
      Bool.eq_false_iff.mp (h before s receives) (turn.opened_own other isOpen)

theorem Step.shut (step : Step l a l') (h : l.Shut) : l'.Shut := by
  have completes : ∀ {side : Side} {pc : CoroPc}, pc.turns = 2 → (l.setCoro side pc).Shut := by
    intro side pc received stopped s receives
    have other : s ≠ side := by
      rintro rfl
      rw [coro_setCoro, received] at receives
      cases receives
    rw [coro_setCoro_of_ne other] at receives
    exact h stopped s receives
  cases step with
  | resume runs turn => exact turn.shut runs h
  | arrive _ received | receiveFails _ received => exact completes received
  | stop =>
      intro _ s receives
      rw [coro_stop] at receives
      by_cases started : l.started = true
      · exact isOpen_stop started s
      · rw [Life.stop, if_neg started]
        exact h (Bool.eq_false_iff.mpr started) s receives
  | @expire side =>
      intro stopped s receives
      by_cases eq : s = side
      · subst eq
        exact Function.update_self ..
      · exact (Function.update_of_ne eq ..).trans (h stopped s receives)

/-- A coroutine that has returned makes no step. -/
theorem Step.runs (step : Step l a l') {s : Side} (now : l'.coro s ≠ .exited ∨ a.side = some s) :
    l.coro s ≠ .exited := by
  have waits : ∀ {side : Side} {pc : CoroPc}, (l.coro side).turns = 3 →
      ((l.setCoro side pc).coro s ≠ .exited ∨ some side = some s) → l.coro s ≠ .exited := by
    intro side pc receives now ended
    by_cases eq : s = side
    · subst eq
      rw [ended] at receives
      cases receives
    · obtain other | same := now
      · rw [coro_setCoro_of_ne eq] at other
        exact other ended
      · exact eq (Option.some.inj same).symm
  cases step with
  | @resume side _ _ runs turn =>
      by_cases eq : s = side
      · subst eq
        exact runs
      · obtain other | same := now
        · rwa [turn.other eq] at other
        · exact absurd (Option.some.inj same).symm eq
  | arrive receives | receiveFails receives => exact waits receives now
  | stop =>
      obtain other | same := now
      · rwa [coro_stop] at other
      · cases same
  | expire =>
      obtain other | same := now
      · exact other
      · cases same

/-- Where every coroutine that has returned belongs to a stopped channel, this stays so. -/
theorem Step.ended (step : Step l a l') (h : ∀ s, l.coro s = .exited → l.started = false)
    (s : Side) (ended : l'.coro s = .exited) : l'.started = false := by
  have waits : ∀ {side : Side} {pc : CoroPc}, pc.turns = 2 →
      (l.setCoro side pc).coro s = .exited → l.started = false := by
    intro side pc received ended
    by_cases eq : s = side
    · subst eq
      rw [coro_setCoro] at ended
      rw [ended] at received
      cases received
    · rw [coro_setCoro_of_ne eq] at ended
      exact h s ended
  cases step with
  | @resume side _ _ runs turn =>
      by_cases eq : s = side
      · subst eq
        exact turn.ended ended
      · rw [turn.other eq] at ended
        exact turn.stopped (h s ended)
  | arrive _ received | receiveFails _ received => exact waits received ended
  | stop => exact started_stop
  | expire => exact h s ended

/-- A socket or a coroutine stops the channel only when a socket is closed. Otherwise it closes
no socket. -/
theorem Step.calls (step : Step l a l') (moves : a.side.isSome = true) :
    l'.started = l.started ∧ (∀ s, l'.isOpen s = false → l.isOpen s = false) ∨
      l.started = true ∧ l'.started = false ∧ ∃ s, l.isOpen s = false := by
  cases step with
  | resume _ turn =>
      obtain same | ⟨started, closed, rfl⟩ := turn.calls
      · exact .inl same
      · exact .inr ⟨started, started_stop, closed⟩
  | arrive | receiveFails => exact .inl ⟨rfl, fun _ closed => closed⟩
  | stop | expire => cases moves

/-- In a stopped channel every step of a coroutine uses a turn, and the others use none. -/
theorem Step.turns (step : Step l a l') (stopped : l.started = false) (side : Side) :
    (if a.side = some side then 1 else 0) + (l'.coro side).turns ≤ (l.coro side).turns := by
  have moves : ∀ {s : Side} {l' : Life}, (s = side → (l'.coro s).turns < (l.coro s).turns) →
      (side ≠ s → l'.coro side = l.coro side) →
        (if some s = some side then 1 else 0) + (l'.coro side).turns ≤ (l.coro side).turns := by
    intro s l' less same
    by_cases eq : s = side
    · subst eq
      rw [if_pos rfl]
      have less := less rfl
      omega
    · rw [if_neg (fun equal => eq (Option.some.inj equal)), same (Ne.symm eq), Nat.zero_add]
  cases step with
  | resume runs turn => exact moves (fun _ => turn.turns_lt runs stopped) turn.other
  | arrive receives received | receiveFails receives received =>
      refine moves (fun _ => ?_) fun other => coro_setCoro_of_ne other _
      rw [coro_setCoro, receives, received]
      decide
  | stop =>
      rw [coro_stop]
      exact (Nat.zero_add _).le
  | expire => exact (Nat.zero_add _).le

end Life

namespace Relay

variable {ch ch' : Relay} {as : List RelayAction}

/-- A stopped channel stays so, and its coroutines use up the turns that they have left. -/
theorem turns_of_run (run : System.runSteps step ch as = some ch') (stopped : ch.started = false)
    (side : Side) : ch'.started = false ∧
      as.countP (·.side = some side) + (ch'.coro side).turns ≤ (ch.coro side).turns := by
  refine System.countP_le_rank (I := fun ch => ch.started = false)
    (r := fun ch => (ch.coro side).turns) ?_ stopped run
  intro ch a ch' stopped run
  have life := step_life run
  refine ⟨life.stopped stopped, ?_⟩
  simp only [decide_eq_true_eq]
  exact life.turns stopped side

theorem shut_of_reachable {mtu : Nat} {src dst : UInt32}
    (reached : (system mtu src dst).Reachable ch) : ch.life.Shut := by
  refine reached.invariant (I := fun ch => ch.life.Shut) ?_ ?_
  · rintro _ rfl stopped
    cases stopped
  · intro ch a ch' _ h run
    exact (step_life run).shut h

/-- The coroutine goes on without its peer: it can resume, whatever the calls on its way
return, or its receive is outstanding on a closed socket and fails. -/
def Due (ch : Relay) (side : Side) : Prop :=
  (∀ o, (ch.step (.resume side o)).isSome = true) ∨
    (ch.udpEnd side).isOpen = false ∧ (ch.step (.receiveFails side)).isSome = true

/-- In a stopped channel a coroutine that has not returned goes on. -/
theorem due_of_stopped (shut : ch.life.Shut) (stopped : ch.started = false) {side : Side}
    (runs : ch.coro side ≠ .exited) : ch.Due side := by
  have closed := shut stopped side
  cases side with
  | src =>
      cases here : ch.uploader with
      | spawned => exact .inl fun o => by simp [step, resumeUploader, here]
      | auth wait | relay wait =>
          cases wait with
          | receive =>
              refine .inr ⟨closed (congrArg CoroPc.turns here), ?_⟩
              simp [step, CoroPc.failReceive, here]
          | received | send => exact .inl fun o => by simp [step, resumeUploader, here]
      | exited => exact absurd here runs
  | dst =>
      cases here : ch.downloader with
      | spawned => exact .inl fun o => by simp [step, resumeDownloader, here]
      | auth wait | relay wait =>
          cases wait with
          | receive =>
              refine .inr ⟨closed (congrArg CoroPc.turns here), ?_⟩
              simp [step, CoroPc.failReceive, here]
          | received | send => exact .inl fun o => by simp [step, resumeDownloader, here]
      | exited => exact absurd here runs

/-- In every run from a state in which the channel is stopped, each coroutine takes three steps
at most, and as long as it has not returned it goes on without its peer. -/
theorem stopped_channel_returns {mtu : Nat} {src dst : UInt32}
    (reached : (system mtu src dst).Reachable ch) (stopped : ch.started = false)
    (run : System.runSteps step ch as = some ch') (side : Side) :
    as.countP (·.side = some side) ≤ 3 ∧ (ch'.coro side = .exited ∨ ch'.Due side) := by
  obtain ⟨still, turns⟩ := turns_of_run run stopped side
  have most := (ch.coro side).turns_le
  have shut := shut_of_reachable ((System.exec_of_runSteps run).reachable reached)
  refine ⟨by omega, ?_⟩
  by_cases returned : ch'.coro side = .exited
  · exact .inl returned
  · exact .inr (due_of_stopped shut still returned)

/-- The destination has sent a datagram when the channel is stopped, and the source has not. -/
def stoppedEarly : List RelayAction :=
  [.resume .src ⟨true, true, true⟩, .resume .dst ⟨true, true, true⟩,
    .arrive .dst ⟨[1, 2, 3], ⟨2, 2⟩⟩, .stop]

/-- The downloader answers the datagram, and returns. -/
def dstReturns : List RelayAction :=
  List.replicate 2 (.resume .dst ⟨true, true, true⟩)

theorem stopped_channel_returns_early : ∃ ch ch' : Relay, ch.started = false ∧
    ch'.uploader = .auth .receive ∧ ch'.downloader = .exited ∧
      dstReturns.countP (·.side = some .src) ≤ 3 ∧ (ch'.coro .src = .exited ∨ ch'.Due .src) := by
  have check : ∃ ch ∈ System.runSteps step (start 1500 1 2) stoppedEarly,
      ∃ ch' ∈ System.runSteps step ch dstReturns,
        ch.started = false ∧ ch'.uploader = .auth .receive ∧ ch'.downloader = .exited := by
    decide +kernel
  obtain ⟨ch, early, ch', run, stopped, waits, returned⟩ := check
  have reached : (system 1500 1 2).Reachable ch := System.reachable_of_runSteps rfl early
  exact ⟨ch, ch', stopped, waits, returned, stopped_channel_returns reached stopped run .src⟩

end Relay

end NatProxy
