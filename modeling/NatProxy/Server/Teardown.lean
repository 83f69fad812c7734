import NatProxy.Server.Lifecycle

/-!
# A stopped channel has left its sessions

`CChannel::stop` removes the channel from the map of each session and queues one
STOPPROXY to it. It finds the session through the owner of the end, and
`CEnd::stop` clears the owner: when a `portExpiredChecker` has closed an end, the
later `CChannel::stop` finds no session there and leaves its map and the session
itself alone.

`Channels.ExpiresIdle` says that ports expire only of channels that do not run and
are not being created. Then a stopped channel has been removed from the maps of
both sessions, as far as they still exist, and each has been told exactly once.
-/

namespace NatProxy

open Transition

variable {S C : Type}

/-- `CChannel::stop` has removed the entry of a side. -/
def ChannelPc.Removed : ChannelPc S → Side → Prop
  | .notify .src _, .src => True
  | .close .dst, .src => True
  | .notify .dst _, _ => True
  | .ends, _ => True
  | _, _ => False

/-- `CChannel::stop` has told the session of a side. -/
def ChannelPc.Notified : ChannelPc S → Side → Prop
  | .close .dst, .src => True
  | .notify .dst _, .src => True
  | .ends, _ => True
  | _, _ => False

/-- The call has initialised the end of a side, and may still start the channel. -/
def ProxyPc.Initialised : Side → ProxyPc S C → Prop
  | .src, .initEnd .dst _ _ => True
  | _, .addChannel _ _ _ => True
  | _, .lockDst _ => True
  | _, .checkDst _ _ => True
  | _, .start _ _ => True
  | _, _ => False

/-- The call may still start the channel. -/
def ProxyPc.MayStart : ProxyPc S C → Prop
  | .undoRemove _ _ => False
  | .undoNotify _ _ => False
  | .fail _ _ => False
  | .access _ _ => False
  | .respOk _ _ => False
  | _ => True

theorem ProxyPc.MayStart.building {pc : ProxyPc S C} (h : pc.MayStart) : pc.Building := by
  cases pc <;> trivial

theorem ProxyPc.Initialised.mayStart {side : Side} {pc : ProxyPc S C} (h : pc.Initialised side) :
    pc.MayStart := by
  cases side <;> cases pc <;> trivial

namespace CEnd

theorem owner_of_init_ok {e e' : CEnd S} {cfg : Config} {ss : S} {id : UInt32} {r : InitResult}
    (ok : e.init cfg ss id r = (true, e')) : e'.ownerSs = some ss := by
  cases r with
  | ok ep =>
      obtain ⟨-, rfl⟩ := Prod.mk.inj ok
      rfl
  | _ => cases (Prod.mk.inj ok).1

end CEnd

namespace Link

/-- The STOPPROXY responses for an end. -/
def stops (l : Link S C) (side : Side) : List (Queued C) := (l.said side).filter Queued.isStopProxy

section Said

variable {l l' : Link S C} {side : Side} {msg : Queued C}

theorem stops_of_plain (said : l'.said = Function.update l.said side (l.said side ++ [msg]))
    (plain : msg.isStopProxy = false) (other : Side) : l'.stops other = l.stops other := by
  rw [stops, said]
  by_cases eq : other = side
  · subst eq
    simp [stops, plain]
  · rw [Function.update_of_ne eq, stops]

theorem stops_of_stop (said : l'.said = Function.update l.said side (l.said side ++ [msg]))
    (stop : msg.isStopProxy = true) : l'.stops side = l.stops side ++ [msg] := by
  rw [stops, said]
  simp [stops, stop]

theorem stops_of_other (said : l'.said = Function.update l.said side (l.said side ++ [msg]))
    {other : Side} (ne : other ≠ side) : l'.stops other = l.stops other := by
  rw [stops, said, Function.update_of_ne ne, stops]

end Said

/-- Ports expire of channels only that do not run and are not being created. -/
def ExpiresIdle (l : Link S C) : Event → Prop
  | .expires _ => l.ch.started = false ∧ l.ch.creating = false
  | _ => True

/-- How far the two sessions have been separated from the channel `c`. -/
structure Separates (c : C) (l : Link S C) : Prop where
  initialised : ∀ side pc, l.creator = some pc → pc.Initialised side →
    (l.ch.ends side).ownerSs = some (l.ch.ss side)
  owner : l.ch.started = true ∨ l.ch.pc ≠ .idle →
    ∀ side, (l.ch.ends side).ownerSs = some (l.ch.ss side)
  fresh : ∀ pc, l.creator = some pc → pc.MayStart → ∀ side, l.stops side = []
  running : l.ch.started = true → ∀ side, l.stops side = []
  closing : l.ch.pc ≠ .idle → ∀ side, ¬ l.ch.pc.Notified side → l.stops side = []
  removed : ∀ side, l.ch.stopped = true ∨ l.ch.pc.Removed side → l.entered side →
    l.dead (l.ch.ss side)
  notified : ∀ side, l.ch.stopped = true ∨ l.ch.pc.Notified side →
    l.stops side = [stopProxyMsg side c l.ch] ∨ l.dead (l.ch.ss side)

namespace Separates

variable {c : C} {l l' : Link S C}

/-- While the channel is being built, only the owners and the silence count. -/
theorem of_building (started : l.ch.started = false) (idle : l.ch.pc = .idle)
    (fresh : l.ch.stopped = false)
    (initialised : ∀ side pc, l.creator = some pc → pc.Initialised side →
      (l.ch.ends side).ownerSs = some (l.ch.ss side))
    (silent : ∀ pc, l.creator = some pc → pc.MayStart → ∀ side, l.stops side = []) :
    l.Separates c where
  initialised := initialised
  owner := by simp [started, idle]
  fresh := silent
  running := by simp [started]
  closing := by simp [idle]
  removed side := by simp [fresh, idle, ChannelPc.Removed]
  notified side := by simp [fresh, idle, ChannelPc.Notified]

theorem of_born (born : l.Born c) : l.Separates c := by
  obtain ⟨id, new⟩ := born.ch
  obtain ⟨d, creator⟩ := born.creator
  apply of_building
  · rw [new]
    rfl
  · rw [new]
    rfl
  · rw [new]
    rfl
  · intro side pc call initialised
    obtain rfl := Option.some.inj (creator.symm.trans call)
    cases side <;> exact initialised.elim
  · intro pc _ _ side
    rw [stops, born.said side]
    rfl

/-- The members of a channel that its separation is told by. -/
structure SameEnds (c : C) (ch ch' : CChannel S) : Prop where
  started : ch'.started = true → ch.started = true
  pc : ch'.pc = ch.pc
  stopped : ch'.stopped = ch.stopped
  ss : ch'.ss = ch.ss
  owner : ∀ side, (ch'.ends side).ownerSs = (ch.ends side).ownerSs
  msg : ∀ side, stopProxyMsg side c ch' = stopProxyMsg side c ch

/-- Nothing is said and nothing entered, and the call at most ends. -/
theorem keep (h : l.Separates c) (ch : SameEnds c l.ch l'.ch)
    (creator : l'.creator = l.creator ∨ ∀ pc, l'.creator = some pc → ¬ pc.MayStart)
    (entered : ∀ side, l'.entered side → l.entered side) (dead : ∀ s, l.dead s → l'.dead s)
    (stops : ∀ side, l'.stops side = l.stops side) : l'.Separates c := by
  have call : ∀ pc, l'.creator = some pc → pc.MayStart → l.creator = some pc := by
    intro pc now may
    obtain same | ended := creator
    · rwa [same] at now
    · exact absurd may (ended pc now)
  refine ⟨?_, ?_, ?_, ?_, ?_, ?_, ?_⟩
  · intro side pc now initialised
    rw [ch.owner, ch.ss]
    exact h.initialised side pc (call pc now initialised.mayStart) initialised
  · intro busy side
    rw [ch.owner, ch.ss]
    rw [ch.pc] at busy
    exact h.owner (busy.imp_left ch.started) side
  · intro pc now may side
    rw [stops]
    exact h.fresh pc (call pc now may) may side
  · intro started side
    rw [stops]
    exact h.running (ch.started started) side
  · rw [ch.pc]
    intro closing side
    rw [stops]
    exact h.closing closing side
  · intro side past now
    rw [ch.stopped, ch.pc] at past
    rw [ch.ss]
    exact dead _ (h.removed side past (entered side now))
  · intro side past
    rw [ch.stopped, ch.pc] at past
    rw [ch.ss, ch.msg, stops]
    exact (h.notified side past).imp_right (dead _)

/-- The call goes on building the channel. -/
theorem build (h : l.Separates c) (life : l.Lifecycle) {pc pc' : ProxyPc S C}
    (here : l.creator = some pc) (early : pc.Building) (ch : l'.ch = l.ch)
    (next : l'.creator = some pc')
    (initialised : ∀ side, pc'.Initialised side → pc.Initialised side)
    (may : pc'.MayStart → pc.MayStart ∧ l'.said = l.said) : l'.Separates c := by
  obtain ⟨started, idle, fresh⟩ := life.building pc here early
  apply of_building
  · rw [ch, started]
  · rw [ch, idle]
  · rw [ch, fresh]
  · intro side pc'' call reg
    obtain rfl := Option.some.inj (next.symm.trans call)
    rw [ch]
    exact h.initialised side pc here (initialised side reg)
  · intro pc'' call start side
    obtain rfl := Option.some.inj (next.symm.trans call)
    obtain ⟨before, said⟩ := may start
    rw [stops, said]
    exact h.fresh pc here before side

/-- While `CChannel::stop` is under way, no call builds the channel. -/
theorem of_closing (started : l'.ch.started = false)
    (late : ∀ pc, l'.creator = some pc → ¬ pc.Building)
    (owner : l'.ch.pc ≠ .idle → ∀ side, (l'.ch.ends side).ownerSs = some (l'.ch.ss side))
    (closing : l'.ch.pc ≠ .idle → ∀ side, ¬ l'.ch.pc.Notified side → l'.stops side = [])
    (removed : ∀ side, l'.ch.stopped = true ∨ l'.ch.pc.Removed side → l'.entered side →
      l'.dead (l'.ch.ss side))
    (notified : ∀ side, l'.ch.stopped = true ∨ l'.ch.pc.Notified side →
      l'.stops side = [stopProxyMsg side c l'.ch] ∨ l'.dead (l'.ch.ss side)) :
    l'.Separates c where
  initialised side pc call initialised :=
    absurd initialised.mayStart.building (late pc call)
  owner busy := by
    rw [started] at busy
    exact owner (busy.resolve_left Bool.false_ne_true)
  fresh pc call may := absurd may.building (late pc call)
  running now := by cases started.symm.trans now
  closing := closing
  removed := removed
  notified := notified

theorem late_of_closing (life : l.Lifecycle) (closing : l.ch.pc ≠ .idle) (pc : ProxyPc S C)
    (call : l.creator = some pc) : ¬ pc.Building :=
  fun early => closing (life.building pc call early).2.1

/-- `CChannel::stop` is called. -/
theorem beginStop (h : l.Separates c) (life : l.Lifecycle) {ch : CChannel S}
    (same : SameEnds c l.ch ch) (started : ch.started = l.ch.started) :
    ({ l with ch := ch.beginStop } : Link S C).Separates c := by
  by_cases running : l.ch.started = true
  · have began : ch.beginStop = { ch with started := false, pc := .close .src } := by
      rw [CChannel.beginStop, if_pos (started.trans running)]
    obtain ⟨idle, fresh, _⟩ := life.running running
    rw [began]
    apply of_closing
    · rfl
    · intro pc call early
      cases running.symm.trans (life.building pc call early).1
    · intro _ side
      dsimp only
      rw [same.owner, same.ss]
      exact h.owner (.inl running) side
    · intro _ side _
      exact h.running running side
    · rintro side (stopped | removed)
      · cases fresh.symm.trans (same.stopped.symm.trans stopped)
      · exact removed.elim
    · rintro side (stopped | notified)
      · cases fresh.symm.trans (same.stopped.symm.trans stopped)
      · exact notified.elim
  · rw [CChannel.beginStop_of_stopped (started.trans (Bool.eq_false_iff.mpr running))]
    exact h.keep same (.inl rfl) (fun _ entry => entry) (fun _ dead => dead) fun _ => rfl

theorem SameEnds.refl (ch : CChannel S) : SameEnds c ch ch :=
  ⟨fun now => now, rfl, rfl, rfl, fun _ => rfl, fun _ => rfl⟩

theorem SameEnds.setEnd {ch : CChannel S} {side : Side} {e : CEnd S}
    (owner : e.ownerSs = (ch.ends side).ownerSs) (localEp : e.localEp = (ch.ends side).localEp) :
    SameEnds c ch (ch.setEnd side e) := by
  refine ⟨fun now => now, rfl, rfl, rfl, ?_, ?_⟩
  · intro other
    by_cases eq : other = side
    · subst eq
      simpa [CChannel.setEnd] using owner
    · simp [CChannel.setEnd, eq]
  · intro other
    by_cases eq : other = side
    · subst eq
      simp [stopProxyMsg, CChannel.setEnd, localEp]
    · simp [stopProxyMsg, CChannel.setEnd, eq]

/-- One entry is removed. -/
theorem entered_of_remove {side other : Side} {entered : Side → Prop}
    (now : Function.update entered side False other) : entered other := by
  obtain ⟨_, never⟩ | old := eq_of_update (eq_true now)
  · exact (of_eq_true never).elim
  · exact of_eq_true old

/-- `CEnd::init` succeeds. -/
theorem initEnd (h : l.Separates c) (life : l.Lifecycle) {cfg : Config} {side : Side} {d : S}
    {id : UInt32} {r : InitResult} {e : CEnd S} (here : l.creator = some (.initEnd side d c))
    (ok : (l.ch.ends side).init cfg (l.ch.ss side) id r = (true, e)) :
    ({ l with
      ch := l.ch.setEnd side e
      creator := some (Channels.afterInit d c side) } : Link S C).Separates c := by
  obtain ⟨started, idle, fresh⟩ := life.building _ here trivial
  refine of_building started idle fresh ?_ ?_
  · rintro other _ ⟨⟩ init
    by_cases eq : other = side
    · subst eq
      simpa [CChannel.setEnd] using CEnd.owner_of_init_ok ok
    · have before : (ProxyPc.initEnd side d c).Initialised other := by
        cases side <;> cases other <;> trivial
      simpa [CChannel.setEnd, eq] using h.initialised other _ here before
  · intro _ _ _ other
    exact h.fresh _ here trivial other

theorem startChannel (h : l.Separates c) (life : l.Lifecycle) {cfg : Config} {d : S}
    (here : l.creator = some (.start d c)) :
    ({ l with
      ch := l.ch.start cfg
      creator := some (.access d c) } : Link S C).Separates c := by
  obtain ⟨_, idle, fresh⟩ := life.building _ here trivial
  have pc : (l.ch.start cfg).pc = .idle := by rw [CChannel.pc_start, idle]
  have stopped : (l.ch.start cfg).stopped = false := by rw [CChannel.stopped_start, fresh]
  refine ⟨?_, ?_, ?_, ?_, ?_, ?_, ?_⟩
  · rintro (_ | _) _ ⟨⟩ init <;> exact init.elim
  · intro _ side
    simp only [CChannel.ends_start, CChannel.ss_start]
    exact h.initialised side _ here (by cases side <;> trivial)
  · rintro _ ⟨⟩ may
    exact may.elim
  · intro _ side
    exact h.fresh _ here trivial side
  · exact fun closing => absurd pc closing
  · rintro side (past | past)
    · cases stopped.symm.trans past
    · simp only [pc] at past
      exact past.elim
  · rintro side (past | past)
    · cases stopped.symm.trans past
    · simp only [pc] at past
      exact past.elim

/-- A port expires while the channel is not in use. -/
theorem expires (h : l.Separates c) (life : l.Lifecycle) {side : Side} (idle : l.ch.pc = .idle)
    (unused : l.ch.started = false ∧ l.ch.creating = false) :
    ({ l with
      ch := l.ch.setEnd side { (l.ch.ends side).stop with checker := false } } :
        Link S C).Separates c := by
  obtain ⟨stopped, free⟩ := unused
  have noCall : ∀ pc, l.creator ≠ some pc := by
    intro pc call
    have creating := life.creating
    rw [free, call] at creating
    cases creating
  have msg : ∀ other, stopProxyMsg other c
      (l.ch.setEnd side { (l.ch.ends side).stop with checker := false }) =
        stopProxyMsg other c l.ch := by
    intro other
    by_cases eq : other = side
    · subst eq
      simp [stopProxyMsg, CChannel.setEnd, CEnd.stop]
    · simp [stopProxyMsg, CChannel.setEnd, eq]
  refine of_closing stopped (fun pc call => absurd call (noCall pc)) (absurd idle) (absurd idle)
    h.removed fun other past => ?_
  rw [msg]
  exact h.notified other past

/-- `CChannel::stop` has found the session of a side. -/
theorem close (h : l.Separates c) (life : l.Lifecycle) {side : Side} {x : S}
    (here : l.ch.pc = .close side) :
    ({ l with
      entered := Function.update l.entered side False
      ch := { l.ch with pc := .notify side x } } : Link S C).Separates c := by
  have closing : l.ch.pc ≠ .idle := by simp [here]
  have late := late_of_closing life closing
  obtain ⟨started, fresh⟩ := life.closing closing
  have notified : ∀ other, (ChannelPc.notify side x).Notified other ↔ l.ch.pc.Notified other := by
    intro other
    rw [here]
    cases side <;> cases other <;> exact Iff.rfl
  refine of_closing started late (fun _ => h.owner (.inr closing))
    (fun _ other silent => h.closing closing other (mt (notified other).mpr silent)) ?_ ?_
  · intro other past entry
    dsimp only at entry
    by_cases eq : other = side
    · subst eq
      rw [Function.update_self] at entry
      exact entry.elim
    · rw [Function.update_of_ne eq] at entry
      refine h.removed other (past.imp_right fun past => ?_) entry
      rw [here]
      cases side <;> cases other <;> first | exact absurd rfl eq | exact past
  · intro other past
    exact h.notified other (past.imp_right (notified other).mp)

/-- The session of a side is gone. -/
theorem gone (h : l.Separates c) (life : l.Lifecycle) {side : Side} (here : l.ch.pc = .close side)
    (gone : (l.ch.ends side).ownerSs = some (l.ch.ss side) → l.dead (l.ch.ss side)) :
    ({ l with ch := { l.ch with pc := afterClose side } } : Link S C).Separates c := by
  have closing : l.ch.pc ≠ .idle := by simp [here]
  have late := late_of_closing life closing
  obtain ⟨started, fresh⟩ := life.closing closing
  have dead := gone (h.owner (.inr closing) side)
  refine of_closing started late (fun _ => h.owner (.inr closing)) ?_ ?_ ?_
  · intro _ other silent
    refine h.closing closing other fun before => silent ?_
    rw [here] at before
    cases side <;> cases other <;> first | exact before | exact before.elim
  · intro other past entry
    by_cases eq : other = side
    · subst eq
      exact dead
    · refine h.removed other (past.imp_right fun past => ?_) entry
      rw [here]
      cases side <;> cases other <;> first | exact absurd rfl eq | exact past
  · intro other past
    by_cases eq : other = side
    · subst eq
      exact .inr dead
    · refine h.notified other (past.imp_right fun past => ?_)
      rw [here]
      cases side <;> cases other <;> first | exact absurd rfl eq | exact past

/-- `onRespStopProxy` of the session of a side. -/
theorem notify (h : l.Separates c) (life : l.Lifecycle) {side : Side} {x : S}
    (here : l.ch.pc = .notify side x) :
    ({ l with
      said := Function.update l.said side (l.said side ++ [stopProxyMsg side c l.ch])
      ch := { l.ch with pc := afterClose side } } : Link S C).Separates c := by
  have closing : l.ch.pc ≠ .idle := by simp [here]
  have late := late_of_closing life closing
  obtain ⟨started, fresh⟩ := life.closing closing
  refine of_closing started late (fun _ => h.owner (.inr closing)) ?_ ?_ ?_
  · intro _ other silent
    have ne : other ≠ side := by
      rintro rfl
      cases other <;> exact silent trivial
    rw [stops_of_other rfl ne]
    refine h.closing closing other fun before => silent ?_
    rw [here] at before
    cases side <;> cases other <;> first | exact absurd rfl ne | exact before
  · intro other past entry
    refine h.removed other (past.imp_right fun past => ?_) entry
    rw [here]
    cases side <;> cases other <;> exact past
  · intro other past
    by_cases eq : other = side
    · subst eq
      left
      have silent : l.stops other = [] := by
        refine h.closing closing other fun before => ?_
        rw [here] at before
        cases other <;> exact before
      rw [stops_of_stop rfl rfl, silent]
      rfl
    · rw [stops_of_other rfl eq]
      refine h.notified other (past.imp_right fun past => ?_)
      rw [here]
      cases side <;> cases other <;> first | exact absurd rfl eq | exact past

theorem step [DecidableEq S] {cfg : Config} {e : Event} (h : l.Separates c) (life : l.Lifecycle)
    (step : Step cfg c l e l') (expires : l.ExpiresIdle e) : l'.Separates c := by
  cases step with
  | start | beginStop | stopAll | closing =>
      exact h.keep (.refl l.ch) (.inl rfl) (fun _ entry => entry) (fun _ dead => dead) fun _ => rfl
  | @destroy s =>
      refine h.keep (.refl l.ch) (.inl rfl) (fun _ entry => entry) (fun r dead => ?_) fun _ => rfl
      by_cases eq : r = s
      · subst eq
        simp
      · simpa [eq] using dead
  | robbed =>
      exact h.keep (.refl l.ch) (.inl rfl) (fun _ entry => entered_of_remove entry)
        (fun _ dead => dead) fun _ => rfl
  | stopsLink here own maybe =>
      refine h.keep ?_ (.inl rfl) (fun _ entry => entered_of_remove entry) (fun _ dead => dead)
        fun _ => rfl
      obtain rfl | rfl := maybe
      · exact ⟨fun now => now, rfl, rfl, rfl, fun _ => rfl, fun _ => rfl⟩
      · exact .refl _
  | initEnd here ok => exact h.initEnd life here ok
  | initFails here failed =>
      obtain ⟨started, idle, fresh⟩ := life.building _ here trivial
      refine of_building started idle fresh ?_ ?_
      · rintro (_ | _) _ ⟨⟩ init <;> exact init.elim
      · rintro _ ⟨⟩ may
        exact may.elim
  | addSrc here | addDst here | lockDst here | checkDst here =>
      refine h.build life here trivial rfl rfl ?_ fun _ => ⟨trivial, rfl⟩
      rintro (_ | _) _ <;> trivial
  | srcTaken here | dstTaken here | undoRemove here | undoNotify here =>
      refine h.build life here trivial rfl rfl ?_ fun may => may.elim
      rintro (_ | _) init <;> exact init.elim
  | fail here =>
      have stopped := (life.building _ here trivial).1
      rw [CChannel.beginStop_of_stopped stopped]
      exact h.keep ⟨fun now => now, rfl, rfl, rfl, fun _ => rfl, fun _ => rfl⟩ (.inr nofun)
        (fun _ entry => entry) (fun _ dead => dead) fun _ => rfl
  | dstGone here | dstStopped here =>
      exact h.keep ⟨fun now => now, rfl, rfl, rfl, fun _ => rfl, fun _ => rfl⟩ (.inr nofun)
        (fun _ entry => entry) (fun _ dead => dead) fun _ => rfl
  | startChannel here => exact h.startChannel life here
  | access here =>
      refine h.keep (.refl l.ch) (.inr ?_) (fun _ entry => entry) (fun _ dead => dead)
        (stops_of_plain rfl rfl)
      rintro _ ⟨⟩ may
      exact may.elim
  | respOk here =>
      exact h.keep ⟨fun now => now, rfl, rfl, rfl, fun _ => rfl, fun _ => rfl⟩ (.inr nofun)
        (fun _ entry => entry) (fun _ dead => dead) (stops_of_plain rfl rfl)
  | strandStop idle posted =>
      exact h.beginStop life ⟨fun now => now, rfl, rfl, rfl, fun _ => rfl, fun _ => rfl⟩ rfl
  | socketStop idle => exact h.beginStop life (.refl l.ch) rfl
  | @exit coro stopped =>
      refine h.keep ?_ (.inl rfl) (fun _ entry => entry) (fun _ dead => dead) fun _ => rfl
      cases coro <;> exact ⟨fun now => now, rfl, rfl, rfl, fun _ => rfl, fun _ => rfl⟩
  | checkerDone =>
      exact h.keep (.setEnd rfl rfl) (.inl rfl) (fun _ entry => entry) (fun _ dead => dead)
        fun _ => rfl
  | expires idle => exact h.expires life idle expires
  | close here owner => exact h.close life here
  | gone here gone => exact h.gone life here gone
  | notify here => exact h.notify life here
  | finish here =>
      have closing : l.ch.pc ≠ .idle := by simp [here]
      have late := late_of_closing life closing
      refine of_closing (life.closing closing).1 late (absurd rfl)
        (absurd rfl) ?_ ?_
      · intro side _ entry
        exact h.removed side (.inr (by rw [here]; trivial)) entry
      · intro side _
        exact h.notified side (.inr (by rw [here]; trivial))

end Separates

theorem separates_of_reachable [DecidableEq S] {cfg : Config} {c : C} {l : Link S C}
    (reached : ((system cfg c).restrict ExpiresIdle).Reachable l) : l.Separates c := by
  refine invariant_of_reachable (I := Separates c) ?_ ?_ reached
  · intro l born
    exact .of_born born
  · intro l e l' life met h step
    exact h.step life step met

end Link

/-! ## The channels of the server -/

namespace Channels

/-- A port expires only of a channel that does not run and is not being created. -/
def ExpiresIdle (v : Channels S C) : Action S C → Prop
  | .checker c _ true => ∀ ch, v.channel c = some ch → ch.started = false ∧ ch.creating = false
  | _ => True

theorem ExpiresIdle.link [DecidableEq C] {v : Channels S C} {a : Action S C} {c : C}
    {ch : CChannel S} {e : Link.Event} (found : v.channel c = some ch) (h : v.ExpiresIdle a)
    (causes : v.Causes a c e) : (v.link c ch).ExpiresIdle e := by
  cases e with
  | expires side =>
      obtain rfl : a = .checker c side true := causes
      exact h ch found
  | _ => trivial

end Channels

namespace Server

variable [DecidableEq S] [DecidableEq C]

/-- The STOPPROXY responses for an end of a channel that were queued to a session. -/
def stopsQueued (st : Server S C) (s : S) (c : C) (side : Side) : List (Queued C) :=
  (st.sendq s).called.filter fun msg => msg.about = some (c, side) ∧ msg.isStopProxy

/-- In every run in which ports expire only of channels that are not in use, a
stopped channel has left the map of each session that still exists, and has told
it once. -/
theorem stopped_channel_separated (cfg : Config) {st : Server S C}
    (reached : ((system cfg).restrict fun st a => st.channels.ExpiresIdle a).Reachable st) {c : C}
    {ch : CChannel S} (found : st.channel c = some ch) (stopped : ch.stopped = true) (side : Side)
    (alive : (st.session (ch.ss side)).phase ≠ .destroyed) :
    (st.session (ch.ss side)).channels side ch.id ≠ some c ∧
      st.stopsQueued (ch.ss side) c side = [stopProxyMsg side c ch] := by
  have separates := Link.separates_of_reachable (link_reachable (E := fun _ => Link.ExpiresIdle)
    (fun _ _ _ _ _ _ found h causes => h.link found causes) reached found)
  refine ⟨?_, ?_⟩
  · intro entry
    exact alive (separates.removed side (.inl stopped) entry)
  · obtain once | dead := separates.notified side (.inl stopped)
    · have same : st.stopsQueued (ch.ss side) c side = (st.channels.link c ch).stops side := by
        simp [stopsQueued, Link.stops, Channels.link, channels, List.filter_filter, Bool.and_comm]
      exact same.trans once
    · exact absurd dead alive

/-- The port of the source end expires while the channel runs, and the channel
stops because its socket is closed. -/
def expiredEnd : List (Action (Fin 2) (Fin 1)) :=
  requestChannel ++ go 0 11 ++ [.checker 0 .src true, .socketStop 0] ++
    List.replicate 4 (.runStop 0)

theorem stopped_channel_not_always_separated :
    ¬ ∀ st : Server (Fin 2) (Fin 1), (system ⟨0, 60, 0⟩).Reachable st →
      ∀ c ch, st.channel c = some ch → ch.stopped = true →
        ∀ side, (st.session (ch.ss side)).phase ≠ .destroyed →
          (st.session (ch.ss side)).channels side ch.id ≠ some c ∧
            st.stopsQueued (ch.ss side) c side = [stopProxyMsg side c ch] := by
  intro separated
  obtain ⟨st, reached, ch, found, stopped, alive, silent⟩ :=
    reachable_of_run ⟨0, 60, 0⟩ expiredEnd (P := fun st =>
      ∃ ch ∈ st.channel 0, ch.stopped = true ∧ (st.session (ch.ss .src)).phase ≠ .destroyed ∧
        st.stopsQueued (ch.ss .src) 0 .src = [])
      (by decide +kernel)
  have once := (separated st reached 0 ch found stopped .src alive).2
  cases silent.symm.trans once

/-- No port expires. -/
def neverExpires (_ : Server (Fin 2) (Fin 1)) : Action (Fin 2) (Fin 1) → Bool
  | .checker _ _ expired => !expired
  | _ => true

theorem expiresIdle_of_neverExpires (st : Server (Fin 2) (Fin 1)) (a : Action (Fin 2) (Fin 1))
    (tested : neverExpires st a = true) : st.channels.ExpiresIdle a := by
  cases a with
  | checker c side expired =>
      cases expired with
      | true => cases tested
      | false => trivial
  | _ => trivial

theorem stopped_channel_separated_closedDestination :
    ∃ st : Server (Fin 2) (Fin 1), ∃ ch, st.channel 0 = some ch ∧ ch.stopped = true ∧
      ∀ side, (st.session (ch.ss side)).phase ≠ .destroyed ∧
        (st.session (ch.ss side)).channels side ch.id ≠ some 0 ∧
          st.stopsQueued (ch.ss side) 0 side = [stopProxyMsg side 0 ch] := by
  obtain ⟨st, reached, ch, found, stopped, src, dst⟩ :=
    reachable_of_testedRun ⟨0, 60, 0⟩ closedDestination expiresIdle_of_neverExpires
      (P := fun st => ∃ ch ∈ st.channel 0, ch.stopped = true ∧
        (st.session (ch.ss .src)).phase ≠ .destroyed ∧
          (st.session (ch.ss .dst)).phase ≠ .destroyed)
      (by decide +kernel)
  refine ⟨st, ch, found, stopped, fun side => ?_⟩
  have alive : (st.session (ch.ss side)).phase ≠ .destroyed := by
    cases side with
    | src => exact src
    | dst => exact dst
  exact ⟨alive, stopped_channel_separated ⟨0, 60, 0⟩ reached found stopped side alive⟩

end Server

end NatProxy
