import NatProxy.Server.Link

/-!
# The phases of a channel

A channel is built by the call that creates it, runs, closes, and has stopped; or
its creation fails, and it is never started. These phases are what the results
about single channels argue by.
-/

namespace NatProxy

variable {S C : Type}

/-- The call has not come to `CChannel::start` yet. -/
def ProxyPc.Building : ProxyPc S C → Prop
  | .access _ _ => False
  | .respOk _ _ => False
  | _ => True

namespace CChannel

variable (ch : CChannel S)

@[simp] theorem started_beginStop : ch.beginStop.started = false := by
  rw [beginStop]
  split
  · rfl
  · next stopped => exact Bool.eq_false_iff.mpr stopped

theorem beginStop_of_stopped {ch : CChannel S} (stopped : ch.started = false) :
    ch.beginStop = ch := by
  rw [beginStop, stopped]
  rfl

/-- The members of a channel by which its phase is told. -/
structure SamePhase (ch ch' : CChannel S) : Prop where
  started : ch'.started = ch.started
  pc : ch'.pc = ch.pc
  stopped : ch'.stopped = ch.stopped
  creating : ch'.creating = ch.creating
  uploader : ch.started = true → ch'.uploader = ch.uploader

end CChannel

namespace Link

/-- What the call that creates a channel and `CChannel::stop` know of each other. -/
structure Lifecycle (l : Link S C) : Prop where
  creating : l.ch.creating = l.creator.isSome
  building : ∀ pc, l.creator = some pc → pc.Building →
    l.ch.started = false ∧ l.ch.pc = .idle ∧ l.ch.stopped = false
  running : l.ch.started = true →
    l.ch.pc = .idle ∧ l.ch.stopped = false ∧ l.ch.uploader = true
  closing : l.ch.pc ≠ .idle → l.ch.started = false ∧ l.ch.stopped = false

namespace Lifecycle

variable {l l' : Link S C}

theorem of_born {c : C} (born : l.Born c) : l.Lifecycle := by
  obtain ⟨id, new⟩ := born.ch
  obtain ⟨d, creator⟩ := born.creator
  refine ⟨?_, ?_, ?_, ?_⟩
  · rw [new, creator]
    rfl
  · intro pc _ _
    rw [new]
    exact ⟨rfl, rfl, rfl⟩
  · intro started
    rw [new] at started
    cases started
  · intro closing
    rw [new] at closing
    exact absurd rfl closing

/-- Neither the object nor the call changes its phase. -/
theorem keep (h : l.Lifecycle) (ch : l.ch.SamePhase l'.ch)
    (creator : l'.creator.isSome = l.creator.isSome)
    (building : ∀ pc, l'.creator = some pc → pc.Building →
      ∃ pc', l.creator = some pc' ∧ pc'.Building) : l'.Lifecycle where
  creating := by rw [ch.creating, creator, h.creating]
  building pc call early := by
    obtain ⟨pc', call', before⟩ := building pc call early
    rw [ch.started, ch.pc, ch.stopped]
    exact h.building pc' call' before
  running started := by
    rw [ch.started] at started
    rw [ch.pc, ch.stopped, ch.uploader started]
    exact h.running started
  closing pc := by
    rw [ch.pc] at pc
    rw [ch.started, ch.stopped]
    exact h.closing pc

/-- The call gives up a channel that it has not started. -/
theorem givesUp (h : l.Lifecycle) {pc : ProxyPc S C} (here : l.creator = some pc)
    (early : pc.Building) (creating : l'.ch.creating = false) (creator : l'.creator = none)
    (started : l'.ch.started = l.ch.started) (idle : l'.ch.pc = l.ch.pc) : l'.Lifecycle where
  creating := by rw [creating, creator]; rfl
  building pc call := by
    rw [creator] at call
    cases call
  running now := by
    obtain ⟨stopped, _⟩ := h.building pc here early
    rw [started, stopped] at now
    cases now
  closing now := by
    obtain ⟨_, same, _⟩ := h.building pc here early
    exact absurd (idle.trans same) now

/-- `CChannel::stop` is called. -/
theorem beginStop (h : l.Lifecycle) {ch : CChannel S} (same : l.ch.SamePhase ch) :
    { l with ch := ch.beginStop }.Lifecycle := by
  by_cases started : l.ch.started = true
  · obtain ⟨_, stopped, _⟩ := h.running started
    have began : ch.beginStop = { ch with started := false, pc := .close .src } := by
      rw [CChannel.beginStop, if_pos (same.started.trans started)]
    rw [began]
    refine ⟨same.creating.trans h.creating, ?_, ?_, ?_⟩
    · intro pc call early
      obtain ⟨fresh, _⟩ := h.building pc call early
      cases started.symm.trans fresh
    · intro now
      cases now
    · intro _
      exact ⟨rfl, same.stopped.trans stopped⟩
  · have none : ch.started = false := by rw [same.started, Bool.eq_false_iff.mpr started]
    rw [CChannel.beginStop_of_stopped none]
    exact h.keep same rfl fun pc call early => ⟨pc, call, early⟩

/-- The next part of `CChannel::stop`. -/
theorem goesOn (h : l.Lifecycle) (closing : l.ch.pc ≠ .idle)
    (creating : l'.ch.creating = l.ch.creating) (creator : l'.creator = l.creator)
    (started : l'.ch.started = l.ch.started) (stopped : l'.ch.pc ≠ .idle →
      l'.ch.stopped = l.ch.stopped) : l'.Lifecycle where
  creating := by rw [creating, creator, h.creating]
  building pc call early := by
    rw [creator] at call
    exact absurd (h.building pc call early).2.1 closing
  running now := by
    rw [started, (h.closing closing).1] at now
    cases now
  closing now := by
    rw [started, stopped now]
    exact h.closing closing

theorem step [DecidableEq S] {cfg : Config} {c : C} {e : Event} (h : l.Lifecycle)
    (step : Step cfg c l e l') : l'.Lifecycle := by
  have same : ∀ {ch : CChannel S}, ch.SamePhase ch := ⟨rfl, rfl, rfl, rfl, fun _ => rfl⟩
  have call : ∀ {pc pc' : ProxyPc S C}, l.creator = some pc → l'.creator = some pc' →
      l'.creator.isSome = l.creator.isSome := by
    intro pc pc' before after
    rw [before, after]
    rfl
  cases step with
  | start | destroy | beginStop | stopAll | closing | robbed =>
      exact h.keep same rfl fun pc call early => ⟨pc, call, early⟩
  | stopsLink here own maybe =>
      refine h.keep ?_ rfl fun pc call early => ⟨pc, call, early⟩
      obtain rfl | rfl := maybe
      · exact ⟨rfl, rfl, rfl, rfl, fun _ => rfl⟩
      · exact same
  | initEnd here | initFails here =>
      exact h.keep ⟨rfl, rfl, rfl, rfl, fun _ => rfl⟩ (call here rfl)
        fun _ _ _ => ⟨_, here, trivial⟩
  | addSrc here | srcTaken here | addDst here | dstTaken here | undoRemove here | undoNotify here
  | lockDst here | checkDst here =>
      exact h.keep same (call here rfl) fun _ _ _ => ⟨_, here, trivial⟩
  | fail here =>
      have stopped := (h.building _ here trivial).1
      refine h.givesUp here trivial rfl rfl ?_ ?_ <;>
      · rw [CChannel.beginStop_of_stopped stopped]
        rfl
  | dstGone here | dstStopped here => exact h.givesUp here trivial rfl rfl rfl rfl
  | startChannel here =>
      obtain ⟨stopped, idle, fresh⟩ := h.building _ here trivial
      have now : l.ch.start cfg = { l.ch with
          started := true, uploader := true, downloader := true
          displayer := decide (cfg.displayInterval > 0) } := by
        rw [CChannel.start, stopped]
        rfl
      rw [now]
      refine ⟨?_, ?_, fun _ => ⟨idle, fresh, rfl⟩, fun closing => absurd idle closing⟩
      · rw [show l.ch.creating = true from by rw [h.creating, here]; rfl]
        rfl
      · rintro _ ⟨⟩ early
        exact early.elim
  | access here =>
      refine h.keep same (call here rfl) ?_
      rintro _ ⟨⟩ early
      exact early.elim
  | respOk here =>
      refine ⟨rfl, ?_, h.running, h.closing⟩
      rintro _ ⟨⟩
  | strandStop idle posted => exact h.beginStop ⟨rfl, rfl, rfl, rfl, fun _ => rfl⟩
  | socketStop idle => exact h.beginStop same
  | @exit coro stopped =>
      refine h.keep ?_ rfl fun pc call early => ⟨pc, call, early⟩
      refine ⟨?_, ?_, ?_, ?_, fun now => ?_⟩
      · cases coro <;> rfl
      · cases coro <;> rfl
      · cases coro <;> rfl
      · cases coro <;> rfl
      · cases stopped.symm.trans now
  | checkerDone =>
      exact h.keep ⟨rfl, rfl, rfl, rfl, fun _ => rfl⟩ rfl fun pc call early => ⟨pc, call, early⟩
  | expires =>
      exact h.keep ⟨rfl, rfl, rfl, rfl, fun _ => rfl⟩ rfl fun pc call early => ⟨pc, call, early⟩
  | close here | gone here | notify here =>
      exact h.goesOn (by simp [here]) rfl rfl rfl fun _ => rfl
  | finish here => exact h.goesOn (by simp [here]) rfl rfl rfl fun closing => absurd rfl closing

end Lifecycle

theorem lifecycle_of_reachable [DecidableEq S] {cfg : Config} {c : C} {l : Link S C}
    (reached : (system cfg c).Reachable l) : l.Lifecycle := by
  refine reached.invariant (I := Lifecycle) ?_ ?_
  · intro l born
    exact .of_born born
  · intro l e l' _ h step
    exact h.step step

/-- A property that a link is born with, and that every step keeps which meets a
condition. -/
theorem invariant_of_reachable [DecidableEq S] {cfg : Config} {c : C} {I : Link S C → Prop}
    {E : Link S C → Event → Prop} (born : ∀ l, l.Born c → I l)
    (keep : ∀ l e l', l.Lifecycle → E l e → I l → Step cfg c l e l' → I l') {l : Link S C}
    (reached : ((system cfg c).restrict E).Reachable l) : I l := by
  refine reached.invariant born ?_
  intro l e l' before h step
  exact keep l e l' (lifecycle_of_reachable before.of_restrict) step.1 h step.2

end Link

/-- The phases of the channels of the server. -/
theorem Channels.lifecycle_of_reachable [DecidableEq S] [DecidableEq C] {cfg : Config}
    {v : Channels S C} (reached : (system cfg).Reachable v) {c : C} {ch : CChannel S}
    (found : v.channel c = some ch) : (v.link c ch).Lifecycle := by
  have all : ((system cfg).restrict fun _ _ => True).Reachable v :=
    reached.mono (fun _ first => first) fun _ _ _ taken => ⟨trivial, taken⟩
  exact Link.lifecycle_of_reachable
    (link_reachable (E := fun _ _ _ => True) (fun _ _ _ _ _ _ _ _ _ => trivial) all
      found).of_restrict

end NatProxy
