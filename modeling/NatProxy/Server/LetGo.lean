import NatProxy.Server.Relaying

/-!
# A stopped channel is let go

When a channel has been stopped, what is left is counted: the rest of `CChannel::stop`, the
turns of the two coroutines, and the two references that these drop when they return. Every
step of the channel uses up one of these, and nobody adds to them, since the channel is not
started again. None of them waits for a peer, since `stop` has closed the sockets.
-/

namespace NatProxy

open Transition

variable {S C : Type}

/-- The coroutine of a side goes on, or is gone. -/
def RelayingAction.ofChannel [DecidableEq C] (c : C) : RelayingAction S C → Bool
  | .server (.runStop d) | .socket d _ | .returned d _ => decide (d = c)
  | _ => false

/-- The turns of a coroutine, and its reference. -/
def Relay.left (ch : CChannel S) (r : Relay) (side : Side) : Nat :=
  (r.coro side).turns + (ch.coro side).toNat

/-- The steps that are left to a stopped channel. -/
def Relaying.left (c : C) (w : Relaying S C) : Nat :=
  match w.server.channel c, w.relay c with
  | some ch, some r => ch.pc.turns + r.left ch .src + r.left ch .dst
  | _, _ => 0

namespace Server

variable [DecidableEq S] [DecidableEq C] {cfg : Config} {st st' : Server S C} {c : C}
variable {ch : CChannel S}

theorem runStop_turns (run : step cfg st (.runStop c) = some st') (found : st.channel c = some ch) :
    ∃ ch', st'.channel c = some ch' ∧ ch'.pc.turns < ch.pc.turns := by
  obtain ⟨_, again, run⟩ := Option.bind_eq_some_iff.mp run
  obtain rfl := Option.some.inj (found.symm.trans again)
  rw [runChannel] at run
  split at run
  · cases run
  · next side here =>
    rw [here]
    split at run
    · obtain rfl := Option.some.inj run
      exact ⟨_, Function.update_self .., turns_notify side _⟩
    · obtain rfl := Option.some.inj run
      exact ⟨_, Function.update_self .., (turns_afterClose side (ch.ss side)).trans
        (turns_notify side _)⟩
  · next side ss here =>
    rw [here]
    obtain rfl := Option.some.inj run
    exact ⟨_, Function.update_self .., turns_afterClose side ss⟩
  · next here =>
    rw [here]
    obtain rfl := Option.some.inj run
    exact ⟨_, Function.update_self .., Nat.one_pos⟩

theorem runStop_enabled (found : st.channel c = some ch) (busy : ch.pc ≠ .idle) :
    (step cfg st (.runStop c)).isSome = true := by
  rw [step, found, Option.bind_some, runChannel]
  split
  · next idle => exact absurd idle busy
  · split <;> rfl
  · rfl
  · rfl

theorem coroExit_enabled {coro : Coro} (found : st.channel c = some ch) (idle : ch.pc = .idle)
    (stopped : ch.started = false) : (step cfg st (.coroExit c coro)).isSome = true := by
  have exits : st.channelStep c ch (.coroExit c coro) = some (st.setChannel c (ch.exit coro)) :=
    if_neg (Bool.eq_false_iff.mp stopped)
  have run := onChannel_eq_some_iff.mpr ⟨ch, found, idle, exits⟩
  rw [step, run]
  rfl

end Server

namespace Relaying

variable [DecidableEq S] [DecidableEq C] {cfg : Config} {mtu : Nat} {peer : S → UInt32}
variable {w w' : Relaying S C} {c : C} {ch : CChannel S} {r : Relay}

/-- The channel has been started, and stopped. -/
def Stopped (c : C) (w : Relaying S C) : Prop :=
  ∃ ch r, w.server.channel c = some ch ∧ w.relay c = some r ∧ ch.started = false

omit [DecidableEq S] [DecidableEq C] in
theorem left_eq (found : w.server.channel c = some ch) (made : w.relay c = some r) :
    w.left c = ch.pc.turns + r.left ch .src + r.left ch .dst := by
  rw [left, found, made]

omit [DecidableEq S] [DecidableEq C] in
/-- Nothing happens to the channel. -/
theorem pays_of_same {a : RelayingAction S C} [DecidableEq C] (other : a.ofChannel c = false)
    (channel : w'.server.channel c = w.server.channel c) (relay : w'.relay c = w.relay c)
    (h : Stopped c w) :
    Stopped c w' ∧ (if a.ofChannel c then 1 else 0) + w'.left c ≤ w.left c := by
  refine ⟨?_, ?_⟩
  · rw [Stopped, channel, relay]
    exact h
  · rw [other, left, left, channel, relay]
    exact (Nat.zero_add _).le

theorem Sound.pays_server (h : Sound cfg mtu peer w) {a : Action S C} {server : Server S C}
    (own : a.ofSockets = false) (run : Server.step cfg w.server a = some server)
    (stopped : Stopped c w) :
    Stopped c ⟨server, w.follow mtu peer server⟩ ∧
      (if (RelayingAction.server a).ofChannel c then 1 else 0) +
        (⟨server, w.follow mtu peer server⟩ : Relaying S C).left c ≤ w.left c := by
  obtain ⟨ch, r, found, made, stopped⟩ := stopped
  obtain ⟨ch', found', follows⟩ := Server.moves h.server run own found
  -- a channel is started only by the call that has created it, before it has a relay
  have still : ch'.started = false := by
    by_contra started
    obtain ⟨s, req, d, here⟩ := Server.starts h.server run found found' stopped
      (Bool.not_eq_false _ ▸ started)
    have none := h.building s req _ c here rfl trivial
    cases none.symm.trans made
  have made' : w.follow mtu peer server c = some r := by
    rw [Relaying.follow, found, found']
    show (if ch.started = ch'.started then w.relay c else _) = _
    rw [if_pos (stopped.trans still.symm), made]
  have coro := follows.coro (.inr still)
  have same : ∀ side, r.left ch' side = r.left ch side := by
    intro side
    rw [Relay.left, Relay.left, coro]
  refine ⟨⟨ch', r, found', made', still⟩, ?_⟩
  rw [left_eq found made, left_eq (w := ⟨server, _⟩) found' made', same, same]
  by_cases stops : (RelayingAction.server a).ofChannel c = true
  · rw [if_pos stops]
    obtain rfl : a = .runStop c := by
      cases a with
      | runStop d => exact congrArg Action.runStop (of_decide_eq_true stops)
      | _ => cases stops
    obtain ⟨_, again, less⟩ := Server.runStop_turns run found
    obtain rfl := Option.some.inj (found'.symm.trans again)
    omega
  · rw [if_neg stops]
    have less := follows.pc stopped
    omega

theorem Sound.pays_socket (h : Sound cfg mtu peer w) {d : C} {r' : Relay} {a : RelayAction}
    (found : w.server.channel d = some ch) (made : w.relay d = some r)
    (run : r.step a = some r') (moves : a.side.isSome = true) (stopped : Stopped c w) :
    let w' : Relaying S C := ⟨if r'.started then w.server else w.server.setChannel d ch.beginStop,
      Function.update w.relay d (some r')⟩
    Stopped c w' ∧ (if (RelayingAction.socket (S := S) d a).ofChannel c then 1 else 0) +
      w'.left c ≤ w.left c := by
  intro w'
  by_cases eq : d = c
  · subst eq
    obtain ⟨_, _, again, made₀, still⟩ := stopped
    obtain rfl := Option.some.inj (found.symm.trans again)
    obtain rfl := Option.some.inj (made.symm.trans made₀)
    obtain ⟨_, again, joined, _⟩ := (h.agrees d).joined made
    obtain rfl := Option.some.inj (found.symm.trans again)
    have life := Relay.step_life run
    have before : r.started = false := joined.started.trans still
    have after : r'.started = false := life.stopped before
    have found' : w'.server.channel d = some ch := by
      show (if r'.started then w.server else w.server.setChannel d ch.beginStop).channel d = _
      rw [if_neg (Bool.eq_false_iff.mp after), CChannel.beginStop_of_stopped still]
      exact Function.update_self ..
    have made' : w'.relay d = some r' := Function.update_self ..
    refine ⟨⟨ch, r', found', made', still⟩, ?_⟩
    have src : (if a.side = some .src then 1 else 0) + (r'.coro .src).turns ≤
      (r.coro .src).turns := life.turns before .src
    have dst : (if a.side = some .dst then 1 else 0) + (r'.coro .dst).turns ≤
      (r.coro .dst).turns := life.turns before .dst
    have mover : 1 ≤ (if a.side = some .src then 1 else 0) +
        (if a.side = some .dst then 1 else 0) := by
      obtain ⟨side, mover⟩ := Option.isSome_iff_exists.mp moves
      rw [mover]
      cases side <;> decide
    have own : (RelayingAction.socket (S := S) d a).ofChannel d = true := decide_eq_true rfl
    rw [if_pos own, left_eq found made, left_eq found' made']
    simp only [Relay.left]
    omega
  · refine pays_of_same (decide_eq_false eq) ?_ (Function.update_of_ne (Ne.symm eq) ..) stopped
    show (if r'.started then w.server else w.server.setChannel d ch.beginStop).channel c = _
    split
    · rfl
    · exact Function.update_of_ne (Ne.symm eq) ..

omit [DecidableEq S] in
/-- The checker of an end, or a coroutine that has returned, changes one channel. -/
theorem pays_set {a : RelayingAction S C} {d : C} {ch' : CChannel S} {relay : C → Option Relay}
    (found : w.server.channel d = some ch)
    (of_other : d ≠ c → a.ofChannel c = false ∧ relay c = w.relay c)
    (pays : ∀ r, d = c → w.relay c = some r → ch.started = false →
      ∃ r', relay c = some r' ∧ ch'.started = false ∧ ch'.pc = ch.pc ∧
        (if a.ofChannel c then 1 else 0) + (r'.left ch' .src + r'.left ch' .dst) ≤
          r.left ch .src + r.left ch .dst) (stopped : Stopped c w) :
    Stopped c ⟨w.server.setChannel d ch', relay⟩ ∧ (if a.ofChannel c then 1 else 0) +
      (⟨w.server.setChannel d ch', relay⟩ : Relaying S C).left c ≤ w.left c := by
  by_cases eq : d = c
  · subst eq
    obtain ⟨_, r, again, made, still⟩ := stopped
    obtain rfl := Option.some.inj (found.symm.trans again)
    obtain ⟨r', made', stopped, pc, less⟩ := pays r rfl made still
    have found' : (w.server.setChannel d ch').channel d = some ch' := Function.update_self ..
    refine ⟨⟨ch', r', found', made', stopped⟩, ?_⟩
    rw [left_eq found made, left_eq (w := ⟨w.server.setChannel d ch', relay⟩) found' made', pc]
    omega
  · obtain ⟨other, same⟩ := of_other eq
    exact pays_of_same other (Function.update_of_ne (Ne.symm eq) ..) same stopped

theorem Sound.pays (h : Sound cfg mtu peer w) {a : RelayingAction S C}
    (step : Step cfg mtu peer w a w') (stopped : Stopped c w) :
    Stopped c w' ∧ (if a.ofChannel c then 1 else 0) + w'.left c ≤ w.left c := by
  cases step with
  | server own run => exact h.pays_server own run stopped
  | socket found made idle moves run => exact h.pays_socket found made run moves stopped
  | waits => exact pays_of_same rfl rfl rfl stopped
  | @closes d side server isOpen run =>
      obtain ⟨ch, found, _, ⟨_, ⟨⟩, _⟩ | ⟨e, _, rfl⟩⟩ := Server.checker_eq_some run
      refine pays_set found (fun eq => ⟨rfl, Function.update_of_ne (Ne.symm eq) ..⟩) ?_ stopped
      rintro r rfl made still
      have other : (RelayingAction.checker (S := S) d side true).ofChannel d = false := rfl
      refine ⟨r.close side, ?_, still, rfl, ?_⟩
      · rw [Function.update_self, made]
        rfl
      · rw [other, if_neg Bool.false_ne_true, Nat.zero_add, Relay.left, Relay.left, r.coro_close]
        exact le_rfl
  | ends closed run =>
      obtain ⟨ch, found, _, ⟨_, _, rfl⟩ | ⟨e, _, rfl⟩⟩ := Server.checker_eq_some run
      · exact pays_of_same rfl rfl rfl stopped
      · refine pays_set found (fun _ => ⟨rfl, rfl⟩) (fun r _ made still => ?_) stopped
        exact ⟨r, made, still, rfl, (Nat.zero_add _).le⟩
  | @returned d side ch _ _ found made ended holds run =>
      obtain ⟨_, again, _, _, rfl⟩ := Server.coroExit_eq_some run
      obtain rfl := Option.some.inj (found.symm.trans again)
      refine pays_set found (fun eq => ⟨decide_eq_false eq, rfl⟩) ?_ stopped
      rintro r rfl made still
      have own : (RelayingAction.returned (S := S) d side).ofChannel d = true := decide_eq_true rfl
      refine ⟨r, made, ?_, CChannel.pc_exit .., ?_⟩
      · cases side <;> exact still
      · rw [if_pos own]
        cases side with
        | src =>
            have holds : ch.uploader = true := holds
            simp only [Relay.left, CChannel.coro, CChannel.exit, Side.coro, holds, Bool.toNat_true,
              Bool.toNat_false]
            omega
        | dst =>
            have holds : ch.downloader = true := holds
            simp only [Relay.left, CChannel.coro, CChannel.exit, Side.coro, holds, Bool.toNat_true,
              Bool.toNat_false]
            omega

/-- The channel goes on without a peer: with `CChannel::stop`, or with a coroutine that can
resume whatever the calls on its way return, whose receive is outstanding on a closed socket and
fails, or that has returned and drops its reference. -/
def Due (cfg : Config) (mtu : Nat) (peer : S → UInt32) (w : Relaying S C) (c : C) : Prop :=
  (step cfg mtu peer w (.server (.runStop c))).isSome = true ∨
    ∃ side, (∀ o, (step cfg mtu peer w (.socket c (.resume side o))).isSome = true) ∨
      (∃ r, w.relay c = some r ∧ (r.udpEnd side).isOpen = false) ∧
        (step cfg mtu peer w (.socket c (.receiveFails side))).isSome = true ∨
      (step cfg mtu peer w (.returned c side)).isSome = true

/-- Until the coroutines have let a stopped channel go, it goes on. -/
theorem Sound.due (h : Sound cfg mtu peer w) (found : w.server.channel c = some ch)
    (made : w.relay c = some r) (stopped : ch.started = false)
    (left : ch.pc ≠ .idle ∨ ∃ side, ch.coro side = true) : w.Due cfg mtu peer c := by
  by_cases idle : ch.pc = .idle
  · obtain busy | ⟨side, holds⟩ := left
    · exact absurd idle busy
    · refine .inr ⟨side, ?_⟩
      by_cases ended : r.coro side = .exited
      · have exits : (Server.step cfg w.server (.coroExit c side.coro)).isSome = true :=
          Server.coroExit_enabled found idle stopped
        refine .inr (.inr ?_)
        simp only [step, found, made, ended, holds, and_self, if_true, Option.isSome_map]
        exact exits
      · -- the coroutine of a socket goes on as it does in the channel by itself
        have socket : ∀ a : RelayAction, a.side.isSome = true → (r.step a).isSome = true →
            (step cfg mtu peer w (.socket c a)).isSome = true := by
          intro a moves goes
          simp only [step, found, made, socketStep, idle, moves, and_self, if_true,
            Option.isSome_map]
          exact goes
        obtain ⟨_, again, joined, reached⟩ := (h.agrees c).joined made
        obtain rfl := Option.some.inj (found.symm.trans again)
        obtain resumes | ⟨closed, fails⟩ := Relay.due_of_stopped (Relay.shut_of_reachable reached)
          (joined.started.trans stopped) ended
        · exact .inl fun o => socket _ rfl (resumes o)
        · exact .inr (.inl ⟨⟨r, made, closed⟩, socket _ rfl fails⟩)
  · have runs : (Server.step cfg w.server (.runStop c)).isSome = true :=
      Server.runStop_enabled found idle
    have own : (Action.runStop c : Action S C).ofSockets = false := rfl
    refine .inl ?_
    rw [step, own, if_neg Bool.false_ne_true, Option.isSome_map]
    exact runs

omit [DecidableEq S] [DecidableEq C] in
theorem left_le (found : w.server.channel c = some ch) (made : w.relay c = some r) :
    w.left c ≤ 13 := by
  have pc : ch.pc.turns ≤ 5 := by
    cases ch.pc with
    | idle | ends => simp [ChannelPc.turns]
    | close side | notify side => cases side <;> simp [ChannelPc.turns]
  have src := (r.coro .src).turns_le
  have dst := (r.coro .dst).turns_le
  have up := (ch.coro .src).toNat_le
  have down := (ch.coro .dst).toNat_le
  rw [left_eq found made, Relay.left, Relay.left]
  omega

/-- In every run from a state in which a channel has been started and stopped, the channel
takes at most 13 steps: the rest of `CChannel::stop`, and three turns and the return of each
coroutine. Until `stop` has come to its end and both coroutines have dropped their references
it goes on without its peers. -/
theorem stopped_channel_let_go (reached : (system cfg mtu peer).Reachable w)
    (found : w.server.channel c = some ch) (made : w.relay c = some r)
    (stopped : ch.started = false) {as : List (RelayingAction S C)}
    (run : System.runSteps (step cfg mtu peer) w as = some w') :
    as.countP (·.ofChannel c) ≤ 13 ∧ ∃ ch', w'.server.channel c = some ch' ∧
      (ch'.pc = .idle ∧ ch'.uploader = false ∧ ch'.downloader = false ∨
        w'.Due cfg mtu peer c) := by
  have keep : ∀ w a w', (system cfg mtu peer).Reachable w ∧ Stopped c w →
      step cfg mtu peer w a = some w' → ((system cfg mtu peer).Reachable w' ∧ Stopped c w') ∧
        (if a.ofChannel c then 1 else 0) + w'.left c ≤ w.left c := by
    rintro w a w' ⟨reached, stopped⟩ run
    obtain ⟨still, paid⟩ := (sound_of_reachable reached).pays (step_of_run run) stopped
    exact ⟨⟨reached.next run, still⟩, paid⟩
  obtain ⟨⟨reached', still⟩, paid⟩ := System.countP_le_rank (r := left c) keep
    ⟨reached, ch, r, found, made, stopped⟩ run
  refine ⟨(Nat.le_add_right ..).trans (paid.trans (left_le found made)), ?_⟩
  obtain ⟨ch', r', found', made', stopped'⟩ := still
  refine ⟨ch', found', ?_⟩
  by_cases gone : ch'.pc = .idle ∧ ch'.uploader = false ∧ ch'.downloader = false
  · exact .inl gone
  · refine .inr ((sound_of_reachable reached').due found' made' stopped' ?_)
    by_contra none
    obtain ⟨idle, coro⟩ := not_or.mp none
    refine gone ⟨not_ne_iff.mp idle, ?_, ?_⟩
    · exact Bool.eq_false_iff.mpr fun holds => coro ⟨.src, holds⟩
    · exact Bool.eq_false_iff.mpr fun holds => coro ⟨.dst, holds⟩

/-- A channel is made and started, its uploader waits for the source, the destination closes
its connection, and the posted `CChannel::stop` begins. -/
def beginsStop : List (RelayingAction (Fin 2) (Fin 1)) :=
  (requestChannel ++ go 0 11).map .server ++ [.socket 0 (.resume .src ⟨true, true, true⟩)] ++
    List.map .server ([.readFails 1, .onReadHead 1] ++ go 1 6 ++ [.strandStop 0])

/-- The rest of `stop`, and the last turns of the two coroutines. -/
def letsGo : List (RelayingAction (Fin 2) (Fin 1)) :=
  List.replicate 5 (.server (.runStop 0)) ++
    [.socket 0 (.receiveFails .src), .socket 0 (.resume .src ⟨true, true, true⟩),
      .socket 0 (.resume .dst ⟨true, true, true⟩), .returned 0 .src, .returned 0 .dst]

theorem stopped_channel_let_go_all : ∃ w w' : Relaying (Fin 2) (Fin 1),
    System.runSteps (step ⟨0, 0, 0⟩ 8 fun s => if s = 0 then 1 else 2) w letsGo = some w' ∧
    (∃ r ∈ w.relay 0, r.uploader = .auth .receive) ∧
    (∃ ch ∈ w.server.channel 0, ch.held = true) ∧ (∃ ch ∈ w'.server.channel 0, ch.held = false) ∧
    letsGo.countP (·.ofChannel 0) ≤ 13 ∧ ∃ ch', w'.server.channel 0 = some ch' ∧
      (ch'.pc = .idle ∧ ch'.uploader = false ∧ ch'.downloader = false ∨
        w'.Due ⟨0, 0, 0⟩ 8 (fun s => if s = 0 then 1 else 2) 0) := by
  have check : ∃ w ∈ System.runSteps (step ⟨0, 0, 0⟩ 8 fun s => if s = 0 then 1 else 2) new
      beginsStop,
      ∃ w' ∈ System.runSteps (step ⟨0, 0, 0⟩ 8 fun s => if s = 0 then 1 else 2) w letsGo,
        (∃ ch ∈ w.server.channel 0, (∃ r ∈ w.relay 0, r.uploader = .auth .receive) ∧
          ch.started = false ∧ ch.held = true) ∧
          ∃ ch ∈ w'.server.channel 0, ch.held = false := by
    decide +kernel
  obtain ⟨w, begun, w', run, ⟨ch, found, ⟨r, made, waits⟩, stopped, held⟩, gone⟩ := check
  have reached : (system ⟨0, 0, 0⟩ 8 fun s : Fin 2 => if s = 0 then 1 else 2).Reachable w :=
    System.reachable_of_runSteps rfl begun
  exact ⟨w, w', run, ⟨r, made, waits⟩, ⟨ch, found, held⟩, gone,
    stopped_channel_let_go reached found made stopped run⟩

end Relaying

end NatProxy
