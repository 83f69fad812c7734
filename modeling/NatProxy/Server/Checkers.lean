import NatProxy.Server.Lifecycle

/-!
# The checkers of a channel

Every coroutine of a channel holds a shared reference to it, but the
`portExpiredChecker` of an end, which is bound to the address of the end. `Watched`
says that whoever holds the channel outlives the checkers of its ends.

`Orphans` lists what takes the last reference while a checker has not ended, by the
state in which it happens: a call gives the channel up before it has started it and no
`stop` was posted, or the call, a coroutine, a posted `stop` or `CChannel::stop` itself
leaves a started channel as the last. `watched_along_iff` shows that `Watched` holds
along a run exactly when none of these happens.
-/

namespace NatProxy

open Transition

variable {S C : Type} [DecidableEq S]

/-- A channel with a checker has a holder. -/
def CChannel.Watched (ch : CChannel S) : Prop :=
  ∀ side, (ch.ends side).checker = true → ch.held = true

/-- Who can hold shared references to a channel. -/
inductive Holder
  /-- The call of `onReqProxy` that has created it. -/
  | call
  | coro (coro : Coro)
  /-- The posted `CChannel::stop` handlers. -/
  | posted
  /-- The `CChannel::stop` that is in progress. -/
  | stop
  deriving DecidableEq

namespace CChannel

variable {ch ch' : CChannel S}

/-- The coroutine has not exited. -/
def runs (ch : CChannel S) : Coro → Bool
  | .uploader => ch.uploader
  | .downloader => ch.downloader
  | .displayer => ch.displayer

omit [DecidableEq S] in
theorem runs_exit (coro other : Coro) :
    (ch.exit coro).runs other = if other = coro then false else ch.runs other := by
  cases coro <;> cases other <;> rfl

/-- How many references a holder has. -/
def refs (ch : CChannel S) : Holder → Nat
  | .call => ch.creating.toNat
  | .coro coro => (ch.runs coro).toNat
  | .posted => ch.posted
  | .stop => if ch.pc = .idle then 0 else 1

/-- One reference of a holder is released. -/
def leave (ch : CChannel S) : Holder → CChannel S
  | .call => ch.drop
  | .coro coro => ch.exit coro
  | .posted => { ch with posted := ch.posted - 1 }
  | .stop => { ch with pc := .idle }

/-- There is no reference but one of this holder. -/
def Last (ch : CChannel S) (h : Holder) : Prop :=
  ∀ other, ch.refs other ≤ if other = h then 1 else 0

theorem held_eq_false_iff : ch.held = false ↔ ∀ h, ch.refs h = 0 := by
  constructor
  · intro gone h
    simp only [held, Bool.or_eq_false_iff, decide_eq_false_iff_not] at gone
    obtain ⟨⟨⟨⟨⟨call, uploader⟩, downloader⟩, displayer⟩, posted⟩, stop⟩ := gone
    cases h with
    | call => simp [refs, call]
    | coro coro => cases coro <;> simp [refs, runs, uploader, downloader, displayer]
    | posted => exact Nat.eq_zero_of_not_pos posted
    | stop => exact if_pos (not_not.mp stop)
  · intro none
    have call : ch.creating.toNat = 0 := none .call
    have coro : ∀ coro, (ch.runs coro).toNat = 0 := fun coro => none (.coro coro)
    have posted : ch.posted = 0 := none .posted
    have stop : (if ch.pc = .idle then 0 else 1) = 0 := none .stop
    simp only [Bool.toNat_eq_zero] at call coro
    have uploader : ch.uploader = false := coro .uploader
    have downloader : ch.downloader = false := coro .downloader
    have displayer : ch.displayer = false := coro .displayer
    simp only [ite_eq_left_iff, Nat.one_ne_zero, imp_false, not_not] at stop
    simp [held, call, uploader, downloader, displayer, posted, stop]

theorem refs_leave (h other : Holder) :
    (ch.leave h).refs other = if other = h then ch.refs h - 1 else ch.refs other := by
  have one : ∀ b : Bool, b.toNat - 1 = 0 := by decide
  cases h with
  | call =>
      cases other with
      | call => exact (one _).symm
      | _ => rfl
  | coro coro =>
      cases other with
      | coro other =>
          simp only [leave, refs, runs_exit, Holder.coro.injEq]
          split
          · exact (one _).symm
          · rfl
      | call | posted | stop => cases coro <;> rfl
  | posted => cases other <;> rfl
  | stop =>
      cases other with
      | stop =>
          simp only [leave, refs, if_true]
          split <;> rfl
      | _ => rfl

/-- Who leaves a channel without a holder has had the last reference. -/
theorem held_leave_iff {h : Holder} : (ch.leave h).held = false ↔ ch.Last h := by
  rw [held_eq_false_iff]
  refine forall_congr' fun other => ?_
  rw [refs_leave]
  split
  · next eq =>
    rw [eq]
    omega
  · omega

theorem watched_of_held (held : ch.held = true) : ch.Watched :=
  fun _ _ => held

/-- No new checker, and nobody who lets the channel go. -/
theorem Watched.keep (h : ch.Watched)
    (checker : ∀ side, (ch'.ends side).checker = true → (ch.ends side).checker = true)
    (held : ch.held = true → ch'.held = true) : ch'.Watched :=
  fun side sleeps => held (h side (checker side sleeps))

theorem held_of_creating (creating : ch.creating = true) : ch.held = true := by
  simp [held, creating]

theorem held_of_posted (posted : 0 < ch.posted) : ch.held = true := by
  simp [held, posted]

theorem held_of_pc (closing : ch.pc ≠ .idle) : ch.held = true := by
  simp [held, closing]

theorem held_beginStop (held : ch.held = true) : ch.beginStop.held = true := by
  rw [beginStop]
  split
  · exact held_of_pc (by rintro ⟨⟩)
  · exact held

/-- `init` of an end that fails spawns no checker. -/
theorem watched_setEnd (h : ch.Watched) {side : Side} {e : CEnd S}
    (checker : e.checker = true → (ch.ends side).checker = true) :
    (ch.setEnd side e).Watched := by
  refine h.keep (fun other sleeps => ?_) fun held => held
  by_cases eq : other = side
  · subst eq
    exact checker (by simpa [setEnd] using sleeps)
  · simpa [setEnd, eq] using sleeps

end CChannel

/-! ## Channels that were not started -/

/-- The coroutines of a channel are spawned by `CChannel::start`. -/
def Link.Unspawned (l : Link S C) : Prop :=
  ∀ pc, l.creator = some pc → pc.Building → ∀ coro, l.ch.runs coro = false

theorem Link.unspawned_of_reachable {cfg : Config} {c : C} {l : Link S C}
    (reached : (Link.system cfg c).Reachable l) : l.Unspawned := by
  refine reached.invariant (I := Unspawned) ?_ ?_
  · intro l born pc _ _ coro
    obtain ⟨id, new⟩ := born.ch
    rw [new]
    cases coro <;> rfl
  · intro l e l' before h step
    have same : ∀ {ch : CChannel S}, ch.uploader = l.ch.uploader →
        ch.downloader = l.ch.downloader → ch.displayer = l.ch.displayer →
        ch.runs = l.ch.runs := by
      intro ch uploader downloader displayer
      funext coro
      cases coro
      · exact uploader
      · exact downloader
      · exact displayer
    have began : ∀ {ch : CChannel S}, ch.runs = l.ch.runs → ch.beginStop.runs = l.ch.runs := by
      intro ch eq
      rw [CChannel.beginStop]
      split
      · rw [← eq]
        exact funext fun coro => by cases coro <;> rfl
      · exact eq
    have keep : ∀ {ch : CChannel S}, ch.runs = l.ch.runs → ∀ {pc}, l.creator = some pc →
        pc.Building → ∀ coro, ch.runs coro = false := by
      intro ch eq pc call early coro
      rw [eq]
      exact h pc call early coro
    cases step with
    | initEnd here | initFails here | addSrc here | srcTaken here | addDst here | dstTaken here
    | undoRemove here | undoNotify here | lockDst here | checkDst here =>
        exact fun pc _ _ => keep (same rfl rfl rfl) here trivial
    | fail | dstGone | dstStopped | respOk =>
        intro pc call
        cases call
    | startChannel | access =>
        intro pc call early
        cases call
        exact early.elim
    | stopsLink here own maybe =>
        refine fun pc => keep ?_
        obtain rfl | rfl := maybe
        · exact same rfl rfl rfl
        · rfl
    | strandStop | socketStop =>
        refine fun pc => keep (began ?_)
        exact same rfl rfl rfl
    | exit =>
        intro pc call early coro
        change (l.ch.exit _).runs coro = false
        rw [CChannel.runs_exit, h pc call early coro, ite_self]
    | start | destroy | beginStop | stopAll | closing | robbed | checkerDone | expires | close
    | gone | notify | finish => exact fun pc => keep (same rfl rfl rfl)

namespace Channels

variable [DecidableEq C] {cfg : Config} {v v' : Channels S C} {a : Action S C}
variable {c : C} {ch ch' : CChannel S} {h : Holder}

/-- The step takes the last reference to a channel with a checker that has not ended. -/
inductive Orphans (v : Channels S C) : Action S C → Prop
  /-- `createChannel` gives the channel up: the other end cannot be initialised, or the
  channel cannot be entered into a map. -/
  | fail {s n req d c ch side} (here : v.task s = .proxy req (.fail d c))
      (found : v.channel c = some ch) (sleeps : (ch.ends side).checker = true)
      (unposted : ch.posted = 0) : Orphans v (.run s n)
  /-- `onReqProxy` returns since the destination is gone, or does not run any more. -/
  | dstGone {s n req c ch side} (here : v.task s = .proxy req (.lockDst c))
      (found : v.channel c = some ch) (gone : ∀ d, ¬ v.Locks (ch.ends .dst).ownerSs d)
      (sleeps : (ch.ends side).checker = true) (unposted : ch.posted = 0) : Orphans v (.run s n)
  | dstStopped {s n req d c ch side} (here : v.task s = .proxy req (.checkDst d c))
      (found : v.channel c = some ch) (stopped : v.started d = false)
      (sleeps : (ch.ends side).checker = true) (unposted : ch.posted = 0) : Orphans v (.run s n)
  /-- `onReqProxy` returns after all coroutines of the channel have exited. -/
  | respOk {s n req d c ch side} (here : v.task s = .proxy req (.respOk d c))
      (found : v.channel c = some ch) (sleeps : (ch.ends side).checker = true)
      (last : ch.Last .call) : Orphans v (.run s n)
  /-- The last coroutine exits. -/
  | exit {c coro ch side} (found : v.channel c = some ch) (idle : ch.pc = .idle)
      (stopped : ch.started = false) (sleeps : (ch.ends side).checker = true)
      (last : ch.Last (.coro coro)) : Orphans v (.coroExit c coro)
  /-- The last posted `CChannel::stop` finds the channel stopped. -/
  | strandStop {c ch side} (found : v.channel c = some ch) (idle : ch.pc = .idle)
      (posted : 0 < ch.posted) (stopped : ch.started = false)
      (sleeps : (ch.ends side).checker = true) (last : ch.Last .posted) :
      Orphans v (.strandStop c)
  /-- `CChannel::stop` returns after all coroutines have exited. -/
  | finish {c ch side} (found : v.channel c = some ch) (here : ch.pc = .ends)
      (sleeps : (ch.ends side).checker = true) (last : ch.Last .stop) : Orphans v (.runStop c)

/-- The step ends something that holds the channel. -/
inductive Releases (v : Channels S C) (c : C) (ch : CChannel S) : Action S C → Holder → Prop
  | fail {s n req d} (here : v.task s = .proxy req (.fail d c)) : Releases v c ch (.run s n) .call
  | dstGone {s n req} (here : v.task s = .proxy req (.lockDst c))
      (gone : ∀ d, ¬ v.Locks (ch.ends .dst).ownerSs d) : Releases v c ch (.run s n) .call
  | dstStopped {s n req d} (here : v.task s = .proxy req (.checkDst d c))
      (stopped : v.started d = false) : Releases v c ch (.run s n) .call
  | respOk {s n req d} (here : v.task s = .proxy req (.respOk d c)) :
      Releases v c ch (.run s n) .call
  | strandStop (idle : ch.pc = .idle) (posted : 0 < ch.posted) (stopped : ch.started = false) :
      Releases v c ch (.strandStop c) .posted
  | exit {coro} (idle : ch.pc = .idle) (stopped : ch.started = false) :
      Releases v c ch (.coroExit c coro) (.coro coro)
  | finish (here : ch.pc = .ends) : Releases v c ch (.runStop c) .stop

/-- A call that has not started its channel has the last reference to it, if no `stop` was
posted. -/
theorem last_call_iff (reached : (system cfg).Reachable v) (wired : v.Wired) {s : S}
    {req : CReqProxyPkt} {pc : ProxyPc S C} (here : v.task s = .proxy req pc)
    (makes : pc.channel = some c) (early : pc.Building) (found : v.channel c = some ch) :
    ch.Last .call ↔ ch.posted = 0 := by
  obtain ⟨_, again, src, -⟩ := (wired.callers s).maker req pc c here makes
  obtain rfl := Option.some.inj (found.symm.trans again)
  have call : (v.link c ch).creator = some pc :=
    ChanTask.creates_eq_some.mpr ⟨req, src ▸ here, makes⟩
  have all : ((system cfg).restrict fun _ _ => True).Reachable v :=
    reached.mono (fun _ first => first) fun _ _ _ taken => ⟨trivial, taken⟩
  have linked := (link_reachable (E := fun _ _ _ => True) (fun _ _ _ _ _ _ _ _ _ => trivial) all
    found).of_restrict
  have idle := ((Link.lifecycle_of_reachable linked).building pc call early).2.1
  constructor
  · intro last
    exact Nat.eq_zero_of_le_zero (last .posted)
  · intro unposted other
    rcases other with _ | coro | _ | _
    · exact Bool.toNat_le _
    · have none := Link.unspawned_of_reachable linked pc call early coro
      exact Nat.le_of_eq (congrArg Bool.toNat none)
    · exact Nat.le_of_eq unposted
    · exact Nat.le_of_eq (if_pos idle)

/-- A step orphans a checker if it releases the last reference to its channel. -/
theorem orphans_iff (reached : (system cfg).Reachable v) (wired : v.Wired) : v.Orphans a ↔
    ∃ c ch h side, v.channel c = some ch ∧ v.Releases c ch a h ∧ ch.Last h ∧
      (ch.ends side).checker = true := by
  constructor
  · rintro (@⟨_, _, _, _, _, _, side, here, found, sleeps, unposted⟩ |
      @⟨_, _, _, _, _, side, here, found, gone, sleeps, unposted⟩ |
      @⟨_, _, _, _, _, _, side, here, found, stopped, sleeps, unposted⟩ |
      @⟨_, _, _, _, _, _, side, here, found, sleeps, last⟩ |
      @⟨_, _, _, side, found, idle, stopped, sleeps, last⟩ |
      @⟨_, _, side, found, idle, posted, stopped, sleeps, last⟩ |
      @⟨_, _, side, found, here, sleeps, last⟩)
    · have last := (last_call_iff reached wired here rfl trivial found).mpr unposted
      exact ⟨_, _, _, side, found, .fail here, last, sleeps⟩
    · have last := (last_call_iff reached wired here rfl trivial found).mpr unposted
      exact ⟨_, _, _, side, found, .dstGone here gone, last, sleeps⟩
    · have last := (last_call_iff reached wired here rfl trivial found).mpr unposted
      exact ⟨_, _, _, side, found, .dstStopped here stopped, last, sleeps⟩
    · exact ⟨_, _, _, side, found, .respOk here, last, sleeps⟩
    · exact ⟨_, _, _, side, found, .exit idle stopped, last, sleeps⟩
    · exact ⟨_, _, _, side, found, .strandStop idle posted stopped, last, sleeps⟩
    · exact ⟨_, _, _, side, found, .finish here, last, sleeps⟩
  · rintro ⟨c, ch, h, side, found, releases, last, sleeps⟩
    cases releases with
    | fail here =>
        exact .fail here found sleeps ((last_call_iff reached wired here rfl trivial found).mp last)
    | dstGone here gone =>
        exact .dstGone here found gone sleeps
          ((last_call_iff reached wired here rfl trivial found).mp last)
    | dstStopped here stopped =>
        exact .dstStopped here found stopped sleeps
          ((last_call_iff reached wired here rfl trivial found).mp last)
    | respOk here => exact .respOk here found sleeps last
    | strandStop idle posted stopped => exact .strandStop found idle posted stopped sleeps last
    | exit idle stopped => exact .exit found idle stopped sleeps last
    | finish here => exact .finish found here sleeps last

/-- What is left of a channel that somebody lets go. -/
theorem watched_of_releases (reached : (system cfg).Reachable v) (wired : v.Wired)
    (kept : ¬ v.Orphans a) (found : v.channel c = some ch) (releases : v.Releases c ch a h)
    (checker : ∀ side, (ch'.ends side).checker = true → (ch.ends side).checker = true)
    (held : (ch.leave h).held = true → ch'.held = true) : ch'.Watched := by
  intro side sleeps
  by_contra gone
  have last : ch.Last h :=
    CChannel.held_leave_iff.mp (Bool.eq_false_iff.mpr fun still => gone (held still))
  exact kept ((orphans_iff reached wired).mpr
    ⟨c, ch, h, side, found, releases, last, checker side sleeps⟩)

theorem Step.watched (step : Step cfg v a v') (reached : (system cfg).Reachable v)
    (wired : v.Wired) (kept : ¬ v.Orphans a)
    (h : ∀ c ch, v.channel c = some ch → ch.Watched) (found' : v'.channel c = some ch') :
    ch'.Watched := by
  have same : v'.channel = v.channel → ch'.Watched := by
    intro eq
    rw [eq] at found'
    exact h c ch' found'
  have update : ∀ {c₀ : C} {ch₁ : CChannel S},
      v'.channel = Function.update v.channel c₀ (some ch₁) → ch₁.Watched → ch'.Watched := by
    intro c₀ ch₁ channel watched
    rw [channel] at found'
    by_cases eq : c = c₀
    · rw [eq, Function.update_self] at found'
      rwa [← Option.some.inj found']
    · rw [Function.update_of_ne eq] at found'
      exact h c ch' found'
  have lets : ∀ {c₀ ch₀ ch₁ h₀}, v.channel c₀ = some ch₀ → v.Releases c₀ ch₀ a h₀ →
      (∀ side, (CChannel.ends ch₁ side).checker = true → (ch₀.ends side).checker = true) →
      ((ch₀.leave h₀).held = true → ch₁.held = true) → ch₁.Watched :=
    watched_of_releases reached wired kept
  -- the call that creates a channel holds it
  have creating : ∀ {s req pc c₀ ch₀}, v.task s = .proxy req pc → pc.channel = some c₀ →
      v.channel c₀ = some ch₀ → ch₀.creating = true := by
    intro s req pc c₀ ch₀ here makes found₀
    obtain ⟨_, again, src, -⟩ := (wired.callers s).maker req pc c₀ here makes
    obtain rfl := Option.some.inj (found₀.symm.trans again)
    have call : (v.link c₀ ch₀).creator = some pc :=
      ChanTask.creates_eq_some.mpr ⟨req, src ▸ here, makes⟩
    exact (lifecycle_of_reachable reached found₀).creating.trans (by rw [call]; rfl)
  cases step with
  | stopAll =>
      rw [channel_setTask, channel_stopAll] at found'
      obtain ⟨ch, found, rfl⟩ := Option.map_eq_some_iff.mp found'
      split
      · exact CChannel.watched_of_held (CChannel.held_of_posted (Nat.succ_pos _))
      · exact h c ch found
  | create => exact update rfl (CChannel.watched_of_held (CChannel.held_of_creating rfl))
  | initEnd here found₀ | initFails here found₀ =>
      have held := creating here rfl found₀
      exact update rfl (CChannel.watched_of_held (CChannel.held_of_creating held))
  | startChannel here found₀ =>
      have held := creating here rfl found₀
      refine update rfl (CChannel.watched_of_held (CChannel.held_of_creating ?_))
      rw [CChannel.start]
      split <;> exact held
  | fail here found₀ =>
      refine update rfl (lets found₀ (.fail here) (fun _ sleeps => ?_) fun held => ?_)
      · simpa using sleeps
      · rw [CChannel.beginStop]
        split
        · exact CChannel.held_of_pc (by rintro ⟨⟩)
        · exact held
  | dstGone here found₀ gone =>
      exact update rfl (lets found₀ (.dstGone here gone) (fun _ sleeps => sleeps)
        fun held => held)
  | dstStopped here found₀ stopped =>
      exact update rfl (lets found₀ (.dstStopped here stopped) (fun _ sleeps => sleeps)
        fun held => held)
  | respOk here found₀ =>
      exact update rfl (lets found₀ (.respOk here) (fun _ sleeps => sleeps)
        fun held => held)
  | @strandStop c₀ ch₀ found₀ idle posted =>
      by_cases started : ch₀.started = true
      · refine update rfl (CChannel.watched_of_held (CChannel.held_of_pc ?_))
        rw [CChannel.beginStop, if_pos started]
        rintro ⟨⟩
      · have stopped := Bool.eq_false_iff.mpr started
        have none : { ch₀ with posted := ch₀.posted - 1 }.beginStop =
            { ch₀ with posted := ch₀.posted - 1 } := CChannel.beginStop_of_stopped stopped
        refine update rfl ?_
        rw [none]
        exact lets found₀ (.strandStop idle posted stopped) (fun _ sleeps => sleeps)
          fun held => held
  | socketStop found₀ =>
      refine update rfl ((h _ _ found₀).keep (fun side sleeps => ?_) CChannel.held_beginStop)
      simpa using sleeps
  | exit found₀ idle stopped =>
      refine update rfl (lets found₀ (.exit idle stopped) (fun _ sleeps => ?_)
        fun held => held)
      simpa using sleeps
  | checkerDone found₀ | expires found₀ =>
      exact update rfl (CChannel.watched_setEnd (h _ _ found₀) (by rintro ⟨⟩))
  | close => exact update rfl (CChannel.watched_of_held (CChannel.held_of_pc (by rintro ⟨⟩)))
  | @gone _ _ side | @notify _ _ side =>
      refine update rfl (CChannel.watched_of_held (CChannel.held_of_pc ?_))
      cases side <;> rintro ⟨⟩
  | finish found₀ here =>
      exact update rfl (lets found₀ (.finish here) (fun _ sleeps => sleeps)
        fun held => held)
  | _ => exact same rfl

end Channels

namespace Server

variable [DecidableEq C] {cfg : Config} {st st' : Server S C} {a : Action S C}

/-- Every checker belongs to a channel that somebody holds. -/
def Watched (st : Server S C) : Prop :=
  ∀ c ch, st.channel c = some ch → ch.Watched

/-- What the steps that let a channel go leave of it. -/
theorem releases_step {c : C} {ch : CChannel S} {h : Holder} (reached : (system cfg).Reachable st)
    (run : step cfg st a = some st') (found : st.channel c = some ch)
    (releases : st.channels.Releases c ch a h) :
    ∃ ch', st'.channel c = some ch' ∧ (∀ side, (ch'.ends side).checker = (ch.ends side).checker) ∧
      ch'.held = (ch.leave h).held := by
  have channels := (channels_mapping cfg).reachable reached
  cases releases with
  | @fail s n req d here =>
      have wired := wired_of_reachable reached
      obtain ⟨_, again, src, -⟩ := (wired.callers s).maker _ _ c here rfl
      obtain rfl := Option.some.inj (found.symm.trans again)
      have call : (st.channels.link c ch).creator = some (.fail d c) :=
        ChanTask.creates_eq_some.mpr ⟨req, src ▸ here, rfl⟩
      have life := Channels.lifecycle_of_reachable channels found
      -- `stop` does nothing to a channel that was not started
      have stopped : ch.beginStop = ch :=
        CChannel.beginStop_of_stopped (life.building _ call trivial).1
      simp only [step, (st.channels_task_eq_proxy s).mp here, runProxy, found, Option.map_some,
        Option.some.injEq] at run
      subst run
      rw [stopped]
      exact ⟨ch.drop, Function.update_self .., fun _ => rfl, rfl⟩
  | @dstGone s n req here gone =>
      simp only [step, (st.channels_task_eq_proxy s).mp here, runProxy, found, Option.map_some,
        Option.some.injEq, st.lock_eq_none_iff.mpr gone] at run
      subst run
      exact ⟨ch.drop, Function.update_self .., fun _ => rfl, rfl⟩
  | @dstStopped s n req d here stopped =>
      simp only [step, (st.channels_task_eq_proxy s).mp here, runProxy, found, Option.map_some,
        Option.some.injEq, show (st.session d).started = false from stopped] at run
      subst run
      exact ⟨ch.drop, Function.update_self .., fun _ => rfl, rfl⟩
  | @respOk s n req d here =>
      simp only [step, (st.channels_task_eq_proxy s).mp here, runProxy, found, Option.map_some,
        Option.some.injEq] at run
      subst run
      exact ⟨ch.drop, Function.update_self .., fun _ => rfl, rfl⟩
  | strandStop idle posted stopped =>
      simp only [step, onChannel, found, if_pos idle, channelStep, if_pos posted,
        Option.some.injEq] at run
      let rest : CChannel S := { ch with posted := ch.posted - 1 }
      subst run
      rw [show rest.beginStop = rest from CChannel.beginStop_of_stopped stopped]
      exact ⟨rest, Function.update_self .., fun _ => rfl, rfl⟩
  | @exit coro idle stopped =>
      simp only [step, onChannel, found, if_pos idle, channelStep, stopped, Bool.false_eq_true,
        if_false, Option.some.injEq] at run
      subst run
      refine ⟨ch.exit coro, Function.update_self .., fun _ => ?_, rfl⟩
      rw [CChannel.ends_exit]
  | finish here =>
      simp only [step, found, Option.bind_some, runChannel, here, Option.some.injEq] at run
      subst run
      exact ⟨_, Function.update_self .., fun _ => rfl, rfl⟩

theorem watched_step_iff (reached : (system cfg).Reachable st) (h : st.Watched)
    (run : step cfg st a = some st') : st'.Watched ↔ ¬ st.channels.Orphans a := by
  have channels := (channels_mapping cfg).reachable reached
  have wired := wired_of_reachable reached
  constructor
  · intro after orphans
    obtain ⟨c, ch, h, side, found, releases, last, sleeps⟩ :=
      (Channels.orphans_iff channels wired).mp orphans
    obtain ⟨ch', found', checker, held⟩ := releases_step reached run found releases
    have still := after c ch' found' side ((checker side).trans sleeps)
    cases (held.trans (CChannel.held_leave_iff.mpr last)).symm.trans still
  · intro kept c ch' found'
    obtain same | moved := (channels_mapping cfg).step _ _ _ reached run
    · exact h c ch' ((congrFun (congrArg Channels.channel same) c).symm.trans found')
    · exact moved.watched channels wired kept h found'

/-- In a run of the server every checker has a channel that somebody holds, at every
point, if and only if no step takes the last reference to a channel one of whose checkers
has not ended. -/
theorem watched_along_iff (cfg : Config) (as : List (Action S C)) :
    System.Along (step cfg) Watched new as ↔
      System.Meets (step cfg) (fun st a => ¬ st.channels.Orphans a) new as :=
  System.along_iff_meets (W := (system cfg).Reachable)
    (fun _ _ _ reached run => reached.next run)
    (fun _ _ _ reached h run => watched_step_iff reached h run)
    (.start rfl) (by rintro _ _ ⟨⟩) as

/-- The socket of the destination's end cannot be bound. The source's end has been
initialised before, and its checker spawned. -/
def bindFails : List (Action (Fin 2) (Fin 1)) :=
  requestChannel ++ go 0 3 ++ [.run 0 { Net.success 0 with init := .noBind }] ++ go 0 1

theorem not_always_watched :
    ¬ ∀ st : Server (Fin 2) (Fin 1), (system ⟨0, 10, 0⟩).Reachable st → st.Watched := by
  intro watched
  obtain ⟨st, reached, ch, found, sleeps, gone⟩ := reachable_of_run ⟨0, 10, 0⟩ bindFails
    (P := fun st => ∃ ch ∈ st.channel 0, (ch.ends .src).checker = true ∧ ch.held = false)
    (by decide +kernel)
  cases gone.symm.trans (watched st reached 0 ch found .src sleeps)

end Server

end NatProxy
