import NatProxy.Server.Lifecycle

/-!
# What happens to a running channel

`CChannel.Follows` is what a step of the server can do to a channel as far as its sockets and
coroutines have to know: the step may start or stop the channel, or go on with its `stop`. The
steps that the sockets and the coroutines decide themselves are not among these.
-/

namespace NatProxy

open Transition

variable {S C : Type}

def Side.coro : Side → Coro
  | .src => .uploader
  | .dst => .downloader

/-- The coroutine of a side holds the channel. -/
def CChannel.coro (ch : CChannel S) : Side → Bool
  | .src => ch.uploader
  | .dst => ch.downloader

/-- The steps of the server that the sockets and the coroutines of a channel decide. -/
def Action.ofSockets : Action S C → Bool
  | .socketStop _ | .checker _ _ _ | .coroExit _ .uploader | .coroExit _ .downloader => true
  | _ => false

/-- The steps that are left to `CChannel::stop`. -/
def ChannelPc.turns : ChannelPc S → Nat
  | .idle => 0
  | .ends => 1
  | .notify .dst _ => 2
  | .close .dst => 3
  | .notify .src _ => 4
  | .close .src => 5

/-- What the relay of a channel has to follow. -/
structure CChannel.Follows (ch ch' : CChannel S) : Prop where
  ss : ch'.ss = ch.ss
  coro : ch.started = true ∨ ch'.started = false → ch'.coro = ch.coro
  starts : ch.started = false → ch'.started = true → ch'.coro = fun _ => true
  stops : ch.started = true → ch'.started = false → ch'.pc ≠ .idle
  closed : ch'.pc = .idle → ∀ side, (ch'.ends side).isOpen = true →
    ch.pc = .idle ∧ (ch.ends side).isOpen = true
  pc : ch.started = false → ch'.pc.turns ≤ ch.pc.turns

namespace CChannel

variable {ch ch' : CChannel S} {cfg : Config}

/-- The sockets and the coroutines are left alone. -/
theorem follows_of_same (ss : ch'.ss = ch.ss) (started : ch'.started = ch.started)
    (coro : ch'.coro = ch.coro) (pc : ch'.pc = ch.pc)
    (isOpen : ∀ side, (ch'.ends side).isOpen = true → (ch.ends side).isOpen = true) :
    ch.Follows ch' where
  ss := ss
  coro _ := coro
  starts stopped now := absurd (stopped.symm.trans (started.symm.trans now)) Bool.false_ne_true
  stops running now := absurd (now.symm.trans (started.trans running)) Bool.false_ne_true
  closed idle side now := ⟨pc.symm.trans idle, isOpen side now⟩
  pc _ := (congrArg ChannelPc.turns pc).le

theorem follows_refl (ch : CChannel S) : ch.Follows ch :=
  follows_of_same rfl rfl rfl rfl fun _ now => now

theorem follows_start (ch : CChannel S) : ch.Follows (ch.start cfg) := by
  by_cases started : ch.started = true
  · rw [start, if_pos started]
    exact follows_refl ch
  · have made : ch.start cfg = { ch with
        started := true, uploader := true, downloader := true
        displayer := decide (cfg.displayInterval > 0) } := if_neg started
    rw [made]
    refine ⟨rfl, ?_, fun _ _ => ?_, fun _ stopped => ?_, fun idle _ now => ⟨idle, now⟩,
      fun _ => le_rfl⟩
    · rintro (running | stopped)
      · exact absurd running started
      · cases stopped
    · funext side
      cases side <;> rfl
    · cases stopped

theorem follows_beginStop (ch : CChannel S) : ch.Follows ch.beginStop := by
  by_cases started : ch.started = true
  · rw [beginStop, if_pos started]
    refine ⟨rfl, fun _ => rfl, fun stopped _ => ?_, fun _ _ idle => ?_, fun idle => ?_,
      fun stopped => ?_⟩
    · cases started.symm.trans stopped
    · cases idle
    · cases idle
    · cases started.symm.trans stopped
  · rw [beginStop_of_stopped (Bool.eq_false_iff.mpr started)]
    exact follows_refl ch

/-- The number of posted handlers, or the reference of the call, changes as well. -/
theorem Follows.other (h : ch.Follows ch') (posted : Nat) (creating stopped : Bool) :
    ch.Follows { ch' with posted, creating, stopped } :=
  ⟨h.ss, h.coro, h.starts, h.stops, h.closed, h.pc⟩

/-- `CChannel::stop` goes on. -/
theorem follows_setPc {pc : ChannelPc S} (busy : pc ≠ .idle) (less : pc.turns ≤ ch.pc.turns) :
    ch.Follows { ch with pc } where
  ss := rfl
  coro _ := rfl
  starts stopped now := absurd (stopped.symm.trans now) Bool.false_ne_true
  stops _ _ := busy
  closed idle := absurd idle busy
  pc _ := less

/-- `CChannel::stop` closes both ends, and returns. -/
theorem follows_finish {ends : Side → CEnd S} (closed : ∀ side, (ends side).isOpen = false) :
    ch.Follows { ch with ends, pc := .idle, stopped := true } where
  ss := rfl
  coro _ := rfl
  starts stopped now := absurd (stopped.symm.trans now) Bool.false_ne_true
  stops running now := absurd (now.symm.trans running) Bool.false_ne_true
  closed _ side now := absurd ((closed side).symm.trans now) Bool.false_ne_true
  pc _ := Nat.zero_le _

theorem isOpen_setEnd {side s : Side} {e : CEnd S} (e_open : e.isOpen = (ch.ends side).isOpen) :
    ((ch.setEnd side e).ends s).isOpen = (ch.ends s).isOpen := by
  by_cases eq : s = side
  · subst eq
    simpa [setEnd] using e_open
  · simp [setEnd, eq]

end CChannel

theorem CEnd.isOpen_init {e e' : CEnd S} {cfg : Config} {ss : S} {id : UInt32} {r : InitResult}
    {ok : Bool} (result : e.init cfg ss id r = (ok, e')) : e'.isOpen = e.isOpen := by
  cases r <;>
  · obtain ⟨-, rfl⟩ := Prod.mk.inj result
    rfl

theorem afterClose_ne_idle (side : Side) : (afterClose side : ChannelPc S) ≠ .idle := by
  cases side <;> rintro ⟨⟩

theorem turns_afterClose (side : Side) (ss : S) :
    (afterClose side : ChannelPc S).turns < (ChannelPc.notify side ss).turns := by
  cases side <;> exact Nat.lt_succ_self _

theorem turns_notify (side : Side) (ss : S) :
    (ChannelPc.notify side ss).turns < (ChannelPc.close (S := S) side).turns := by
  cases side <;> exact Nat.lt_succ_self _

namespace Channels

variable [DecidableEq S] [DecidableEq C] {cfg : Config} {v v' : Channels S C} {a : Action S C}
variable {c : C} {ch ch' : CChannel S}

theorem Step.moves (step : Step cfg v a v') (own : a.ofSockets = false)
    (found : v.channel c = some ch) (found' : v'.channel c = some ch') : ch.Follows ch' := by
  have same : v'.channel = v.channel → ch.Follows ch' := by
    intro eq
    rw [eq, found] at found'
    obtain rfl := Option.some.inj found'
    exact CChannel.follows_refl _
  have update : ∀ {c₀ : C} {ch₀ ch₁ : CChannel S}, v.channel c₀ = some ch₀ →
      v'.channel = Function.update v.channel c₀ (some ch₁) → ch₀.Follows ch₁ → ch.Follows ch' := by
    intro c₀ ch₀ ch₁ found₀ eq follows
    rw [eq] at found'
    by_cases here : c = c₀
    · subst here
      rw [Function.update_self] at found'
      obtain rfl := Option.some.inj found'
      obtain rfl := Option.some.inj (found.symm.trans found₀)
      exact follows
    · rw [Function.update_of_ne here, found] at found'
      obtain rfl := Option.some.inj found'
      exact CChannel.follows_refl _
  cases step with
  | stopAll =>
      rw [channel_setTask, channel_stopAll, found, Option.map_some] at found'
      obtain rfl := Option.some.inj found'
      split
      · exact (CChannel.follows_refl ch).other _ _ _
      · exact CChannel.follows_refl ch
  | create _ fresh =>
      rw [channel_setTask, channel_setChannel, Function.update_of_ne, found] at found'
      · obtain rfl := Option.some.inj found'
        exact CChannel.follows_refl ch
      · rintro rfl
        cases found.symm.trans fresh
  | initEnd _ found₀ result | initFails _ found₀ result =>
      refine update found₀ rfl (CChannel.follows_of_same rfl rfl rfl rfl fun side now => ?_)
      rwa [CChannel.isOpen_setEnd (CEnd.isOpen_init result)] at now
  | fail _ found₀ => exact update found₀ rfl ((CChannel.follows_beginStop _).other _ _ _)
  | startChannel _ found₀ => exact update found₀ rfl (CChannel.follows_start _)
  | dstGone _ found₀ | dstStopped _ found₀ | respOk _ found₀ =>
      exact update found₀ rfl ((CChannel.follows_refl _).other _ _ _)
  | @strandStop _ ch₀ found₀ =>
      have posted : { ch₀ with posted := ch₀.posted - 1 }.beginStop =
          { ch₀.beginStop with posted := ch₀.posted - 1 } := by
        rw [CChannel.beginStop, CChannel.beginStop]
        split <;> rfl
      rw [posted] at update found'
      exact update found₀ rfl ((CChannel.follows_beginStop ch₀).other _ _ _)
  | @exit _ _ coro found₀ =>
      cases coro with
      | uploader | downloader => cases own
      | displayer =>
          exact update found₀ rfl (CChannel.follows_of_same rfl rfl rfl rfl fun _ now => now)
  | socketStop | checkerDone | expires => cases own
  | close found₀ here =>
      refine update found₀ rfl (CChannel.follows_setPc ?_ ?_)
      · rintro ⟨⟩
      · rw [here]
        exact (turns_notify _ _).le
  | @gone _ ch₀ side found₀ here =>
      refine update found₀ rfl (CChannel.follows_setPc (afterClose_ne_idle side) ?_)
      rw [here]
      exact ((turns_afterClose side (ch₀.ss side)).trans (turns_notify side _)).le
  | notify found₀ here =>
      refine update found₀ rfl (CChannel.follows_setPc (afterClose_ne_idle _) ?_)
      rw [here]
      exact (turns_afterClose _ _).le
  | finish found₀ => exact update found₀ rfl (CChannel.follows_finish fun _ => rfl)
  | _ => exact same rfl

/-- Only the call that has created a channel starts it. -/
theorem Step.starts (step : Step cfg v a v') (found : v.channel c = some ch)
    (found' : v'.channel c = some ch') (stopped : ch.started = false)
    (started : ch'.started = true) : ∃ s req d, v.task s = .proxy req (.start d c) := by
  have same : v'.channel ≠ v.channel := by
    intro eq
    rw [eq, found] at found'
    obtain rfl := Option.some.inj found'
    cases stopped.symm.trans started
  have update : ∀ {c₀ : C} {ch₀ ch₁ : CChannel S}, v.channel c₀ = some ch₀ →
      v'.channel = Function.update v.channel c₀ (some ch₁) →
        c = c₀ ∧ ch₀.started = false ∧ ch₁.started = true := by
    intro c₀ ch₀ ch₁ found₀ eq
    rw [eq] at found'
    by_cases here : c = c₀
    · subst here
      rw [Function.update_self] at found'
      obtain rfl := Option.some.inj found'
      obtain rfl := Option.some.inj (found.symm.trans found₀)
      exact ⟨rfl, stopped, started⟩
    · rw [Function.update_of_ne here, found] at found'
      obtain rfl := Option.some.inj found'
      cases stopped.symm.trans started
  cases step with
  | startChannel here found₀ =>
      obtain ⟨rfl, -, -⟩ := update found₀ rfl
      exact ⟨_, _, _, here⟩
  | stopAll =>
      rw [channel_setTask, channel_stopAll, found, Option.map_some] at found'
      obtain rfl := Option.some.inj found'
      have started := started
      split at started <;> cases stopped.symm.trans started
  | create _ fresh =>
      rw [channel_setTask, channel_setChannel, Function.update_of_ne, found] at found'
      · obtain rfl := Option.some.inj found'
        cases stopped.symm.trans started
      · rintro rfl
        cases found.symm.trans fresh
  | fail _ found₀ =>
      obtain ⟨_, -, now⟩ := update found₀ rfl
      cases (CChannel.started_beginStop _).symm.trans now
  | strandStop found₀ | socketStop found₀ =>
      obtain ⟨_, -, now⟩ := update found₀ rfl
      cases (CChannel.started_beginStop _).symm.trans now
  | @exit _ _ coro found₀ =>
      obtain ⟨_, before, now⟩ := update found₀ rfl
      cases coro <;> cases before.symm.trans now
  | initEnd _ found₀ | initFails _ found₀ | dstGone _ found₀ | dstStopped _ found₀
  | respOk _ found₀ | checkerDone found₀ | expires found₀ | close found₀ | gone found₀
  | notify found₀ | finish found₀ =>
      obtain ⟨_, before, now⟩ := update found₀ rfl
      cases before.symm.trans now
  | _ => exact absurd rfl same

/-- A call that has created a channel and not started it yet was that before, or creates the
channel now. -/
theorem Step.building (step : Step cfg v a v') {s : S} {req : CReqProxyPkt} {pc : ProxyPc S C}
    (here : v'.task s = .proxy req pc) (makes : pc.channel = some c) (early : pc.Building) :
    v.channel c = none ∨
      ∃ pc', v.task s = .proxy req pc' ∧ pc'.channel = some c ∧ pc'.Building := by
  have goesOn : ∀ {s₀ : S} {req₀ : CReqProxyPkt} {pc₀ pc₁ : ProxyPc S C},
      v.task s₀ = .proxy req₀ pc₀ → v'.task = Function.update v.task s₀ (.proxy req₀ pc₁) →
      (pc₁.channel = some c → pc₁.Building → pc₀.channel = some c ∧ pc₀.Building) →
      ∃ pc', v.task s = .proxy req pc' ∧ pc'.channel = some c ∧ pc'.Building := by
    intro s₀ req₀ pc₀ pc₁ before after back
    rw [after] at here
    by_cases eq : s = s₀
    · subst eq
      rw [Function.update_self] at here
      obtain ⟨rfl, rfl⟩ := ChanTask.proxy.inj here
      exact ⟨pc₀, before, back makes early⟩
    · rw [Function.update_of_ne eq] at here
      exact ⟨pc, here, makes, early⟩
  have leaves : ∀ {s₀ : S} {t : ChanTask S C}, v'.task = Function.update v.task s₀ t →
      (∀ req pc, t = .proxy req pc → pc.channel = none) →
      ∃ pc', v.task s = .proxy req pc' ∧ pc'.channel = some c ∧ pc'.Building := by
    intro s₀ t after none
    rw [after] at here
    by_cases eq : s = s₀
    · subst eq
      rw [Function.update_self] at here
      cases (none req pc here).symm.trans makes
    · rw [Function.update_of_ne eq] at here
      exact ⟨pc, here, makes, early⟩
  cases step with
  | create before fresh =>
      by_cases eq : v.channel c = none
      · exact .inl eq
      · refine .inr (goesOn before rfl ?_)
        rintro ⟨⟩
        exact absurd fresh eq
  | @initEnd _ _ _ side _ _ _ _ _ _ before =>
      refine .inr (goesOn before rfl fun made _ => ⟨?_, trivial⟩)
      cases side <;> exact made
  | initFails before | addSrc before | srcTaken before | addDst before | dstTaken before
  | undoRemove before | undoNotify before | lockDst before | checkDst before =>
      exact .inr (goesOn before rfl fun made _ => ⟨made, trivial⟩)
  | startChannel before | access before => exact .inr (goesOn before rfl fun _ early => early.elim)
  | request | lookup | notFound | createThrows | fail =>
      refine .inr (leaves rfl ?_)
      rintro _ _ ⟨⟩
      rfl
  | stopAll | respErr | dstGone | dstStopped | respOk =>
      refine .inr (leaves rfl ?_)
      rintro _ _ ⟨⟩
  | beginStop =>
      refine .inr (leaves rfl fun req pc proxy => ?_)
      split at proxy <;> cases proxy
  | closing _ _ next =>
      refine .inr (leaves rfl fun req pc proxy => ?_)
      obtain rfl | ⟨_, rfl, _⟩ := next <;> cases proxy
  | _ => exact .inr ⟨pc, here, makes, early⟩

end Channels

namespace Server

variable [DecidableEq S] [DecidableEq C] {cfg : Config} {st st' : Server S C} {a : Action S C}
variable {c : C} {ch ch' : CChannel S}

theorem moves (reached : (system cfg).Reachable st) (run : step cfg st a = some st')
    (own : a.ofSockets = false) (found : st.channel c = some ch) :
    ∃ ch', st'.channel c = some ch' ∧ ch.Follows ch' := by
  obtain same | moved := (channels_mapping cfg).step st a st' reached run
  · have channel : st'.channel = st.channel := congrArg Channels.channel same
    exact ⟨ch, by rw [channel, found], CChannel.follows_refl ch⟩
  · obtain ⟨ch', found', _⟩ := moved.keeps found
    exact ⟨ch', found', moved.moves own found found'⟩

/-- The call that starts a channel. -/
theorem starts (reached : (system cfg).Reachable st) (run : step cfg st a = some st')
    (found : st.channel c = some ch) (found' : st'.channel c = some ch')
    (stopped : ch.started = false) (started : ch'.started = true) :
    ∃ s req d, st.task s = .proxy req (.start d c) := by
  obtain same | moved := (channels_mapping cfg).step st a st' reached run
  · have channel : st'.channel = st.channel := congrArg Channels.channel same
    obtain rfl := Option.some.inj ((channel ▸ found').symm.trans found)
    cases stopped.symm.trans started
  · obtain ⟨s, req, d, here⟩ := moved.starts found found' stopped started
    exact ⟨s, req, d, (st.channels_task_eq_proxy s).mp here⟩

/-- A call that has created its channel and not started it. -/
theorem building (reached : (system cfg).Reachable st) (run : step cfg st a = some st') {s : S}
    {req : CReqProxyPkt} {pc : ProxyPc S C} (here : st'.task s = .proxy req pc)
    (makes : pc.channel = some c) (early : pc.Building) :
    st.channel c = none ∨
      ∃ pc', st.task s = .proxy req pc' ∧ pc'.channel = some c ∧ pc'.Building := by
  have here' : st'.channels.task s = .proxy req pc := (st'.channels_task_eq_proxy s).mpr here
  obtain same | moved := (channels_mapping cfg).step st a st' reached run
  · rw [same] at here'
    exact .inr ⟨pc, (st.channels_task_eq_proxy s).mp here', makes, early⟩
  · obtain fresh | ⟨pc', before, made, still⟩ := moved.building here' makes early
    · exact .inl fresh
    · exact .inr ⟨pc', (st.channels_task_eq_proxy s).mp before, made, still⟩

theorem not_started_of_building (reached : (system cfg).Reachable st) {s : S}
    {req : CReqProxyPkt} {pc : ProxyPc S C} (here : st.task s = .proxy req pc)
    (makes : pc.channel = some c) (early : pc.Building) :
    ∃ ch, st.channel c = some ch ∧ ch.started = false := by
  have channels := (channels_mapping cfg).reachable reached
  have task : st.channels.task s = .proxy req pc := (st.channels_task_eq_proxy s).mpr here
  obtain ⟨ch, found, src, _⟩ :=
    ((Channels.wired_of_reachable channels).callers s).maker req pc c task makes
  have creator : (st.channels.link c ch).creator = some pc :=
    ChanTask.creates_eq_some.mpr ⟨req, src ▸ task, makes⟩
  exact ⟨ch, found,
    ((Channels.lifecycle_of_reachable channels found).building pc creator early).1⟩

theorem not_started_of_new (reached : (system cfg).Reachable st) (run : step cfg st a = some st')
    (fresh : st.channel c = none) (found : st'.channel c = some ch') : ch'.started = false := by
  obtain same | moved := (channels_mapping cfg).step st a st' reached run
  · have channel : st'.channel = st.channel := congrArg Channels.channel same
    cases (channel ▸ found).symm.trans fresh
  · obtain ⟨old, before⟩ | ⟨_, _, _, _, _, _, _, rfl, _⟩ := moved.old_or_new found
    · cases before.symm.trans fresh
    · rfl

/-- The checker of an end finds it closed, or waits again, or closes it. -/
theorem checker_eq_some {side : Side} {expired : Bool}
    (run : step cfg st (.checker c side expired) = some st') :
    ∃ ch, st.channel c = some ch ∧ ch.pc = .idle ∧
      ((ch.ends side).isOpen = true ∧ expired = false ∧ st' = st ∨
        ∃ e : CEnd S, (e.isOpen = true → (ch.ends side).isOpen = true ∧ expired = false) ∧
          st' = st.setChannel c (ch.setEnd side e)) := by
  obtain ⟨ch, found, idle, run⟩ := onChannel_eq_some_iff.mp run
  obtain ⟨_, run⟩ := Option.ite_none_right_eq_some.mp run
  refine ⟨ch, found, idle, ?_⟩
  split at run
  · next closed =>
    obtain rfl := Option.some.inj run
    refine .inr ⟨_, fun isOpen => ?_, rfl⟩
    cases ((Bool.not_eq_true' _).mp closed).symm.trans isOpen
  · next isOpen =>
    split at run
    · obtain rfl := Option.some.inj run
      refine .inr ⟨_, fun isOpen => ?_, rfl⟩
      cases isOpen
    · next early =>
      obtain rfl := Option.some.inj run
      exact .inl ⟨by simpa using isOpen, by simpa using early, rfl⟩

theorem coroExit_eq_some {coro : Coro} (run : step cfg st (.coroExit c coro) = some st') :
    ∃ ch, st.channel c = some ch ∧ ch.pc = .idle ∧ ch.started = false ∧
      st' = st.setChannel c (ch.exit coro) := by
  obtain ⟨ch, found, idle, run⟩ := onChannel_eq_some_iff.mp run
  obtain ⟨stopped, run⟩ := Option.ite_none_left_eq_some.mp run
  exact ⟨ch, found, idle, Bool.eq_false_iff.mpr stopped, (Option.some.inj run).symm⟩

end Server

end NatProxy
