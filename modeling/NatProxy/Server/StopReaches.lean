import NatProxy.Server.Lifecycle

/-!
# A started channel has running sessions

A session that stops asks every channel in its maps to stop. A channel that is
being created is in the maps before it is started, and `CChannel::stop` does
nothing to a channel that is not started: `onReqProxy` tests that the destination
still runs, but the test and the start are two steps. If a session stops and the
`CChannel::stop` that it posts runs before the start, nobody stops the channel any
more.

`Channels.StopsReach` excludes this, and also that a channel removes the map entry
of another one with the same id, which is possible once the counter of the channel
ids has wrapped. Under this condition a started channel is always covered: its
sessions run, or their stop has still to come to it, or is on its way.
-/

namespace NatProxy

open Transition

variable {S C : Type}

/-- The call has entered the channel into the map of a side. -/
def ProxyPc.Registered : Side → ProxyPc S C → Prop
  | .src, .addChannel .dst _ _ => True
  | _, .lockDst _ => True
  | _, .checkDst _ _ => True
  | _, .start _ _ => True
  | _, _ => False

theorem ProxyPc.Registered.building {side : Side} {pc : ProxyPc S C} (h : pc.Registered side) :
    pc.Building := by
  cases side <;> cases pc <;> trivial

/-- `CSession::stop` has still to come to the map of a side. -/
def StopPc.Precedes (side : Side) (pc : Option StopPc) : Prop :=
  pc = some (.stopAll .src) ∨ side = .dst ∧ pc = some (.stopAll .dst)

/-- Clearing the map of one side does not bring `CSession::stop` past the other. -/
theorem StopPc.precedes_afterStopAll {side other : Side} (ne : other ≠ side) :
    StopPc.Precedes other (some (Channels.afterStopAll side)) ↔
      StopPc.Precedes other (some (.stopAll side)) := by
  cases side <;> cases other <;> simp [StopPc.Precedes, Channels.afterStopAll] at ne ⊢

namespace Link

/-- The session of a side runs, or its stop has still to come to the channel. -/
def Covers (l : Link S C) (side : Side) : Prop :=
  l.started (l.ch.ss side) = true ∨ StopPc.Precedes side (l.stop (l.ch.ss side))

/-- The channel is only started while a stop of its sessions would reach it, and
its entries are its own. -/
def Reached (l : Link S C) : Event → Prop
  | .start => ∀ side, l.Covers side ∨ 0 < l.ch.posted
  | .robbed => False
  | _ => True

structure Guarded (l : Link S C) : Prop where
  busy : l.creator ≠ none → l.stop (l.ch.ss .src) = none
  stopped : ∀ side pc, l.stop (l.ch.ss side) = some pc → l.started (l.ch.ss side) = false
  registered : ∀ side pc, l.creator = some pc → pc.Registered side → l.Covers side →
    l.entered side
  covered : l.ch.started = true → ∀ side, (l.entered side ∧ l.Covers side) ∨ 0 < l.ch.posted

namespace Guarded

variable {l l' : Link S C}

theorem of_born {c : C} {l : Link S C} (born : l.Born c) : l.Guarded where
  busy _ := born.idle
  stopped _ := born.stopped _
  registered side pc call registered _ := by
    obtain ⟨d, creator⟩ := born.creator
    obtain rfl := Option.some.inj (creator.symm.trans call)
    cases side <;> exact registered.elim
  covered started := by
    obtain ⟨id, new⟩ := born.ch
    rw [new] at started
    cases started

/-- Only the object changes, and it does not get started. -/
theorem setCh (h : l.Guarded) {ch : CChannel S} (ss : ch.ss = l.ch.ss)
    (running : ch.started = true → l.ch.started = true ∧ ch.posted = l.ch.posted) :
    { l with ch := ch }.Guarded where
  busy call := by
    dsimp only
    rw [ss]
    exact h.busy call
  stopped side pc := by
    dsimp only
    rw [ss]
    exact h.stopped side pc
  registered side pc call registered covers := by
    simp only [Covers, ss] at covers
    exact h.registered side pc call registered covers
  covered started side := by
    obtain ⟨before, posted⟩ := running started
    obtain covered | waits := h.covered before side
    · left
      simpa only [Covers, ss] using covered
    · right
      dsimp only
      rwa [posted]

/-- The object changes in other members. -/
theorem setCh_same (h : l.Guarded) {ch : CChannel S} (ss : ch.ss = l.ch.ss)
    (started : ch.started = l.ch.started) (posted : ch.posted = l.ch.posted) :
    { l with ch := ch }.Guarded :=
  h.setCh ss fun now => ⟨by rw [← started, now], posted⟩

/-- The call goes on without a new entry, or ends. -/
theorem setCreator (h : l.Guarded) {next : Option (ProxyPc S C)}
    (busy : next ≠ none → l.creator ≠ none)
    (registered : ∀ side pc, next = some pc → pc.Registered side →
      ∃ pc', l.creator = some pc' ∧ pc'.Registered side) : { l with creator := next }.Guarded where
  busy call := h.busy (busy call)
  stopped := h.stopped
  registered side pc call registered' covers := by
    obtain ⟨pc', call', before⟩ := registered side pc call registered'
    exact h.registered side pc' call' before covers
  covered := h.covered

/-- The responses do not matter. -/
theorem of_said (said : Side → List (Queued C)) (h : { l with said := said }.Guarded) :
    l.Guarded :=
  ⟨h.busy, h.stopped, h.registered, h.covered⟩

/-- The sessions move on: a covered side stays covered, and no other one becomes it. -/
theorem setSessions (h : l.Guarded) {started : S → Bool} {stop : S → Option StopPc}
    (busy : l.creator ≠ none → stop (l.ch.ss .src) = none)
    (stopped : ∀ side pc, stop (l.ch.ss side) = some pc → started (l.ch.ss side) = false)
    (covers : ∀ side, (started (l.ch.ss side) = true ∨
      StopPc.Precedes side (stop (l.ch.ss side))) ↔ l.Covers side) :
    { l with started := started, stop := stop }.Guarded where
  busy := busy
  stopped := stopped
  registered side pc call registered now :=
    h.registered side pc call registered ((covers side).mp now)
  covered running side := by
    obtain ⟨entered, before⟩ | waits := h.covered running side
    · exact .inl ⟨entered, (covers side).mpr before⟩
    · exact .inr waits

/-- `CSession::stop` has just been called. -/
theorem beginStop [DecidableEq S] (h : l.Guarded) {s : S} (idle : l.stop s = none)
    (free : s = l.ch.ss .src → l.creator = none) :
    { l with
      started := Function.update l.started s false
      stop := Function.update l.stop s
        (if l.started s then some (.stopAll .src) else none) }.Guarded := by
  apply h.setSessions
  · intro call
    have ne : l.ch.ss .src ≠ s := fun eq => call (free eq.symm)
    rw [Function.update_of_ne ne]
    exact h.busy call
  · intro side pc stop
    by_cases eq : l.ch.ss side = s
    · rw [eq, Function.update_self]
    · rw [Function.update_of_ne eq] at stop ⊢
      exact h.stopped side pc stop
  · intro side
    by_cases eq : l.ch.ss side = s
    · rw [Covers, eq, Function.update_self, Function.update_self, idle]
      cases l.started s <;> simp [StopPc.Precedes]
    · rw [Covers, Function.update_of_ne eq, Function.update_of_ne eq]

/-- A step of `CSession::stop` that does not change which sides it precedes. -/
theorem setStop [DecidableEq S] (h : l.Guarded) {s : S} {pc : StopPc} {next : Option StopPc}
    (here : l.stop s = some pc) (precedes : ∀ side, l.ch.ss side = s →
      (StopPc.Precedes side next ↔ StopPc.Precedes side (some pc))) :
    { l with stop := Function.update l.stop s next }.Guarded := by
  apply h.setSessions
  · intro call
    have idle := h.busy call
    have ne : l.ch.ss .src ≠ s := by
      rintro rfl
      cases idle.symm.trans here
    rwa [Function.update_of_ne ne]
  · intro side pc' stop
    by_cases eq : l.ch.ss side = s
    · exact h.stopped side pc (by rw [eq, here])
    · rw [Function.update_of_ne eq] at stop
      exact h.stopped side pc' stop
  · intro side
    by_cases eq : l.ch.ss side = s
    · rw [Covers, eq, Function.update_self, here, precedes side eq]
    · rw [Covers, Function.update_of_ne eq]

/-- `stopAll` of the map of a side asks the channel to stop, if it is in the map. -/
theorem stopsLink [DecidableEq S] (h : l.Guarded) (life : l.Lifecycle) {side : Side}
    {ch : CChannel S} (here : l.stop (l.ch.ss side) = some (.stopAll side))
    (maybe : ch = l.ch.toStop ∨ ch = l.ch)
    (posted : l.entered side → l.ch.held → ch = l.ch.toStop) :
    { l with
      ch := ch
      stop := Function.update l.stop (l.ch.ss side) (some (Channels.afterStopAll side))
      entered := Function.update l.entered side False }.Guarded := by
  -- The other side is covered as before; of this one nothing is promised but the post.
  have ss : ch.ss = l.ch.ss := by obtain rfl | rfl := maybe <;> rfl
  have running : ch.started = l.ch.started := by obtain rfl | rfl := maybe <;> rfl
  have more : 0 < l.ch.posted → 0 < ch.posted := by
    intro waits
    obtain rfl | rfl := maybe
    · exact Nat.succ_pos _
    · exact waits
  have past : ¬ (l.started (l.ch.ss side) = true ∨
      StopPc.Precedes side (some (Channels.afterStopAll side))) := by
    rw [h.stopped side _ here]
    cases side <;> simp [StopPc.Precedes, Channels.afterStopAll]
  have covers : ∀ other, other ≠ side → ((l.started (l.ch.ss other) = true ∨
      StopPc.Precedes other (Function.update l.stop (l.ch.ss side)
        (some (Channels.afterStopAll side)) (l.ch.ss other))) ↔ l.Covers other) := by
    intro other ne
    by_cases eq : l.ch.ss other = l.ch.ss side
    · rw [Covers, eq, Function.update_self, here, StopPc.precedes_afterStopAll ne]
    · rw [Covers, Function.update_of_ne eq]
  refine ⟨?_, ?_, ?_, ?_⟩
  · intro call
    have idle := h.busy call
    have ne : l.ch.ss .src ≠ l.ch.ss side := by
      intro eq
      rw [eq] at idle
      cases idle.symm.trans here
    dsimp only
    rwa [ss, Function.update_of_ne ne]
  · intro other pc stop
    dsimp only at stop ⊢
    rw [ss] at stop ⊢
    by_cases eq : l.ch.ss other = l.ch.ss side
    · rw [eq]
      exact h.stopped side _ here
    · rw [Function.update_of_ne eq] at stop
      exact h.stopped other pc stop
  · intro other pc call registered now
    simp only [Covers, ss] at now ⊢
    by_cases eq : other = side
    · subst eq
      rw [Function.update_self] at now
      exact absurd now past
    · rw [Function.update_of_ne eq]
      exact h.registered other pc call registered ((covers other eq).mp now)
  · intro now other
    have started : l.ch.started = true := running ▸ now
    simp only [Covers, ss]
    by_cases eq : other = side
    · subst eq
      right
      obtain ⟨entered, _⟩ | waits := h.covered started other
      · have held : l.ch.held = true := by simp [CChannel.held, (life.running started).2.2]
        rw [posted entered held]
        exact Nat.succ_pos _
      · exact more waits
    · rw [Function.update_of_ne eq]
      obtain ⟨entered, before⟩ | waits := h.covered started other
      · exact .inl ⟨entered, (covers other eq).mpr before⟩
      · exact .inr (more waits)

/-- The call enters the channel into the map of a side. -/
theorem enter (h : l.Guarded) {side : Side} {pc pc' : ProxyPc S C} (here : l.creator = some pc)
    (registered : ∀ other, other ≠ side → pc'.Registered other → pc.Registered other) :
    { l with
      entered := Function.update l.entered side True
      creator := some pc' }.Guarded where
  busy _ := h.busy (by simp [here])
  stopped := h.stopped
  registered other pc'' call reg covers := by
    obtain rfl := Option.some.inj call
    by_cases eq : other = side
    · subst eq
      simp
    · dsimp only
      rw [Function.update_of_ne eq]
      exact h.registered other pc here (registered other eq reg) covers
  covered started other := by
    obtain ⟨entered, covers⟩ | waits := h.covered started other
    · left
      refine ⟨?_, covers⟩
      by_cases eq : other = side
      · subst eq
        simp
      · simpa [eq] using entered
    · exact .inr waits

/-- An entry is removed while the channel is not running and the call does not rely
on the entry. -/
theorem remove (h : l.Guarded) {side : Side} {ch : CChannel S} {next : Option (ProxyPc S C)}
    (stopped : ch.started = false) (ss : ch.ss = l.ch.ss) (busy : next ≠ none → l.creator ≠ none)
    (registered : ∀ pc other, next = some pc → ¬ pc.Registered other) :
    { l with
      ch := ch
      creator := next
      entered := Function.update l.entered side False }.Guarded where
  busy call := by
    dsimp only
    rw [ss]
    exact h.busy (busy call)
  stopped := by
    dsimp only
    rw [ss]
    exact h.stopped
  registered other pc call reg _ := absurd reg (registered pc other call)
  covered now := by cases stopped.symm.trans now

theorem step [DecidableEq S] {cfg : Config} {c : C} {e : Event} (h : l.Guarded)
    (life : l.Lifecycle) (step : Step cfg c l e l') (reached : l.Reached e) : l'.Guarded := by
  cases step with
  | @start s unused =>
      have same : ∀ side, Function.update l.started s true (l.ch.ss side) =
          l.started (l.ch.ss side) :=
        fun side => Function.update_of_ne (fun eq => unused side eq.symm) ..
      refine h.setSessions h.busy ?_ ?_
      · intro side pc stop
        rw [same]
        exact h.stopped side pc stop
      · intro side
        rw [same, Covers]
  | destroy => exact ⟨h.busy, h.stopped, h.registered, h.covered⟩
  | beginStop idle free => exact h.beginStop idle free
  | @stopAll s side here other =>
      refine h.setStop here fun side' eq => StopPc.precedes_afterStopAll ?_
      rintro rfl
      exact other eq.symm
  | stopsLink here own maybe posted =>
      subst own
      exact h.stopsLink life here maybe posted
  | closing here cleared later =>
      refine h.setStop here fun side _ => ?_
      simp [StopPc.Precedes, later, cleared]
  | @initEnd side d id r e here ok =>
      refine Guarded.setCh_same (l := { l with creator := _ }) ?_ rfl rfl rfl
      refine h.setCreator (by simp [here]) ?_
      rintro other _ ⟨⟩ reg
      cases side <;> cases other <;> exact reg.elim
  | initFails here failed =>
      refine Guarded.setCh_same (l := { l with creator := _ }) ?_ rfl rfl rfl
      refine h.setCreator (by simp [here]) ?_
      rintro (_ | _) _ ⟨⟩ reg <;> exact reg.elim
  | addSrc here =>
      refine h.enter here ?_
      rintro (_ | _) ne reg
      · exact absurd rfl ne
      · exact reg.elim
  | addDst here =>
      refine h.enter here ?_
      rintro (_ | _) ne reg
      · trivial
      · exact absurd rfl ne
  | undoRemove here =>
      refine h.remove (life.building _ here trivial).1 rfl (by simp [here]) ?_
      rintro _ (_ | _) ⟨⟩ reg <;> exact reg.elim
  | undoNotify here =>
      refine .of_said l.said ?_
      refine h.setCreator (by simp [here]) ?_
      rintro (_ | _) _ ⟨⟩ reg <;> exact reg.elim
  | srcTaken here | dstTaken here =>
      refine h.setCreator (by simp [here]) ?_
      rintro (_ | _) _ ⟨⟩ reg <;> exact reg.elim
  | lockDst here | checkDst here =>
      refine h.setCreator (by simp [here]) ?_
      rintro (_ | _) _ ⟨⟩ reg <;> exact ⟨_, here, trivial⟩
  | fail here =>
      have stopped := (life.building _ here trivial).1
      rw [CChannel.beginStop_of_stopped stopped]
      refine Guarded.setCh_same (l := { l with creator := none }) ?_ rfl rfl rfl
      exact h.setCreator (fun some => absurd rfl some) nofun
  | dstGone here | dstStopped here =>
      refine Guarded.setCh_same (l := { l with creator := none }) ?_ rfl rfl rfl
      exact h.setCreator (fun some => absurd rfl some) nofun
  | startChannel here =>
      refine ⟨?_, ?_, ?_, ?_⟩
      · intro _
        dsimp only
        rw [CChannel.ss_start]
        exact h.busy (by simp [here])
      · dsimp only
        rw [CChannel.ss_start]
        exact h.stopped
      · rintro (_ | _) _ ⟨⟩ reg <;> exact reg.elim
      · intro _ side
        simp only [Covers, CChannel.ss_start, CChannel.posted_start]
        obtain covers | waits := reached side
        · exact .inl ⟨h.registered side _ here (by cases side <;> trivial) covers, covers⟩
        · exact .inr waits
  | access here =>
      refine .of_said l.said ?_
      refine h.setCreator (by simp [here]) ?_
      rintro (_ | _) _ ⟨⟩ reg <;> exact reg.elim
  | respOk here =>
      refine .of_said l.said ?_
      refine Guarded.setCh_same (l := { l with creator := none }) ?_ rfl rfl rfl
      exact h.setCreator (fun some => absurd rfl some) nofun
  | strandStop idle posted =>
      refine h.setCh (CChannel.ss_beginStop _) fun now => ?_
      cases (CChannel.started_beginStop _).symm.trans now
  | socketStop idle =>
      refine h.setCh (CChannel.ss_beginStop _) fun now => ?_
      cases (CChannel.started_beginStop _).symm.trans now
  | @exit coro stopped =>
      refine h.setCh (CChannel.ss_exit _ _) fun now => ?_
      cases coro <;> cases stopped.symm.trans now
  | checkerDone => exact h.setCh_same rfl rfl rfl
  | expires idle => exact h.setCh_same rfl rfl rfl
  | close here owner =>
      have closing : l.ch.pc ≠ .idle := by simp [here]
      refine h.remove (life.closing closing).1 rfl (fun call => call) ?_
      intro pc other call reg
      exact closing (life.building pc call reg.building).2.1
  | gone here gone => exact h.setCh_same rfl rfl rfl
  | @notify side ss here =>
      refine .of_said l.said ?_
      exact h.setCh_same rfl rfl rfl
  | finish here => exact h.setCh_same rfl rfl rfl
  | robbed => exact reached.elim

end Guarded

theorem guarded_of_reachable [DecidableEq S] {cfg : Config} {c : C} {l : Link S C}
    (reached : ((system cfg c).restrict Reached).Reachable l) : l.Guarded := by
  refine invariant_of_reachable (I := Guarded) ?_ ?_ reached
  · intro l born
    exact .of_born born
  · intro l e l' life met h step
    exact h.step life step met

end Link

/-! ## The channels of the server -/

namespace Channels

variable [DecidableEq S] [DecidableEq C]

/-- The session runs, or its stop has still to come to the map of the side. -/
def StopComes (v : Channels S C) (s : S) (side : Side) : Prop :=
  v.started s = true ∨ StopPc.Precedes side (v.task s).stopping

/-- Where a stop of the sessions of a channel might not reach it: when the channel
is started, and when an entry is removed that belongs to another channel. -/
def StopsReach (v : Channels S C) : Action S C → Prop
  | .run s _ => ∀ req d c ch, v.task s = .proxy req (.start d c) → v.channel c = some ch →
      ∀ side, v.StopComes (endpoints s d side) side ∨ 0 < ch.posted
  | .runStop c => ∀ ch side s c', v.channel c = some ch → ch.pc = .close side →
      v.Locks (ch.ends side).ownerSs s → v.map s side ch.id = some c' → c' = c
  | _ => True

omit [DecidableEq S] in
theorem StopsReach.reached {v : Channels S C} {a : Action S C} {c : C} {ch : CChannel S}
    {e : Link.Event} (wired : v.Wired) (found : v.channel c = some ch) (h : v.StopsReach a)
    (causes : v.Causes a c e) : (v.link c ch).Reached e := by
  cases e with
  | start =>
      obtain ⟨s, n, req, d, rfl, here⟩ := causes
      obtain ⟨_, again, src, dst⟩ := (wired.callers s).maker _ _ _ here rfl
      obtain rfl := Option.some.inj (found.symm.trans again)
      intro side
      have ss : endpoints s d side = ch.ss side := by
        cases side with
        | src => exact src.symm
        | dst => exact dst d rfl
      have comes := h req d c ch here found side
      rwa [ss] at comes
  | robbed =>
      obtain ⟨c', ch', side, s, rfl, found', here, locks, entry, ne⟩ := causes
      exact ne (h ch' side s c found' here locks entry)
  | _ => trivial

end Channels

namespace Server

variable [DecidableEq S] [DecidableEq C]

/-- No `onReqProxy` and no `CSession::stop` is under way, and no posted
`CChannel::stop` waits. -/
structure Quiet (st : Server S C) : Prop where
  noStop : ∀ s pc, st.task s ≠ .stop pc
  noProxy : ∀ s req pc, st.task s ≠ .proxy req pc
  noPosted : ∀ c ch, st.channel c = some ch → ch.posted = 0

/-- In every run in which a channel is only started while a stop of its sessions
would still reach it, a started channel has running sessions once nothing is under
way. -/
theorem started_channel_running (cfg : Config) {st : Server S C}
    (reached : ((system cfg).restrict fun st a => st.channels.StopsReach a).Reachable st)
    (quiet : st.Quiet) {c : C} {ch : CChannel S} (found : st.channel c = some ch)
    (started : ch.started = true) (side : Side) :
    (st.session (ch.ss side)).started = true := by
  have guarded := Link.guarded_of_reachable (link_reachable (E := fun _ => Link.Reached)
    (fun _ _ _ _ _ wired found h causes => h.reached wired found causes) reached found)
  have noStop : ∀ pc, (st.channels.task (ch.ss side)).stopping ≠ some pc := by
    intro pc stop
    have task := ChanTask.stopping_eq_some.mp stop
    exact quiet.noStop _ pc (st.channels_task_eq_stop _ |>.mp task)
  obtain ⟨_, running | precedes⟩ | waits := guarded.covered started side
  · exact running
  · obtain stop | ⟨_, stop⟩ := precedes <;> exact absurd stop (noStop _)
  · rw [show (st.channels.link c ch).ch.posted = 0 from quiet.noPosted c ch found] at waits
    exact absurd waits (Nat.lt_irrefl 0)

/-- The destination stops between the test and the start, and the stop that it
posts runs before the start. -/
def lateStart : List (Action (Fin 2) (Fin 1)) :=
  requestChannel ++ go 0 8 ++ [.readFails 1, .onReadHead 1] ++ go 1 6 ++ [.strandStop 0] ++ go 0 3

omit [DecidableEq S] [DecidableEq C] in
theorem quiet_of_idle {st : Server S C} (idle : ∀ s, st.task s = .idle)
    (posted : ∀ c, ∀ ch ∈ st.channel c, ch.posted = 0) : st.Quiet where
  noStop s pc := by
    rw [idle s]
    rintro ⟨⟩
  noProxy s req pc := by
    rw [idle s]
    rintro ⟨⟩
  noPosted c ch found := posted c ch found

theorem started_channel_not_always_running :
    ¬ ∀ st : Server (Fin 2) (Fin 1), (system ⟨0, 0, 0⟩).Reachable st → st.Quiet →
      ∀ c ch, st.channel c = some ch → ch.started = true →
        ∀ side, (st.session (ch.ss side)).started = true := by
  intro running
  obtain ⟨st, reached, idle, posted, ch, found, started, stopped⟩ :=
    reachable_of_run ⟨0, 0, 0⟩ lateStart (P := fun st =>
      (∀ s, st.task s = .idle) ∧ (∀ c, ∀ ch ∈ st.channel c, ch.posted = 0) ∧
        ∃ ch ∈ st.channel 0, ch.started = true ∧ (st.session (ch.ss .dst)).started = false)
      (by decide +kernel)
  have now := running st reached (quiet_of_idle idle posted) 0 ch found started .dst
  exact Bool.false_ne_true (stopped.symm.trans now)

/-- Two clients ask for a channel to the same server. One of them closes its connection, and
its channel stops. -/
def otherStops : List (Action (Fin 3) (Fin 2)) :=
  let go (s : Fin 3) (c : Fin 2) (n : Nat) : List (Action (Fin 3) (Fin 2)) :=
    List.replicate n (.run s (.success c))
  accept 0 ++ receive 0 (loginFrame [0x41] 1) ++ go 0 0 3 ++
    accept 1 ++ receive 1 (loginFrame [0x42] 2) ++ go 1 0 6 ++
    accept 2 ++ receive 2 (loginFrame [0x43] 1) ++ go 2 0 3 ++
    receive 0 (proxyFrame 1001) ++ go 0 0 11 ++ receive 2 (proxyFrame 1001) ++ go 2 1 11 ++
    [.readFails 2, .onReadHead 2] ++ go 2 0 6 ++ [.strandStop 1] ++ List.replicate 5 (.runStop 1)

/-- Both sessions run when a channel is started, and no other channel is entered under the id
of one that is being stopped. -/
def startsWhileRunning (st : Server (Fin 3) (Fin 2)) : Action (Fin 3) (Fin 2) → Bool
  | .run s _ =>
      match st.task s with
      | .proxy _ (.start d _) => (st.session s).started && (st.session d).started
      | _ => true
  | .runStop c =>
      ∀ ch ∈ st.channel c, ∀ s, ∀ c' ≠ c, (st.session s).channels .src ch.id ≠ some c' ∧
        (st.session s).channels .dst ch.id ≠ some c'
  | _ => true

theorem stopsReach_of_startsWhileRunning (st : Server (Fin 3) (Fin 2))
    (a : Action (Fin 3) (Fin 2)) (tested : startsWhileRunning st a = true) :
    st.channels.StopsReach a := by
  cases a with
  | run s n =>
      intro req d c ch here found side
      rw [startsWhileRunning, (st.channels_task_eq_proxy s).mp here, Bool.and_eq_true] at tested
      left
      left
      cases side with
      | src => exact tested.1
      | dst => exact tested.2
  | runStop c =>
      intro ch side s c' found _ _ entry
      have own := of_decide_eq_true tested ch found s
      by_contra other
      cases side with
      | src => exact (own c' other).1 entry
      | dst => exact (own c' other).2 entry
  | _ => trivial

theorem started_channel_running_request :
    ∃ st : Server (Fin 3) (Fin 2), ∃ ch, st.channel 0 = some ch ∧ ch.started = true ∧
      (∃ other ∈ st.channel 1, other.stopped = true) ∧
      ∀ side, (st.session (ch.ss side)).started = true := by
  obtain ⟨st, reached, idle, posted, other, ch, found, started⟩ :=
    reachable_of_testedRun ⟨0, 0, 0⟩ otherStops
      stopsReach_of_startsWhileRunning (P := fun st =>
        (∀ s, st.task s = .idle) ∧ (∀ c, ∀ ch ∈ st.channel c, ch.posted = 0) ∧
          (∃ other ∈ st.channel 1, other.stopped = true) ∧
          ∃ ch ∈ st.channel 0, ch.started = true)
      (by decide +kernel)
  exact ⟨st, ch, found, started, other, started_channel_running ⟨0, 0, 0⟩ reached
    (quiet_of_idle idle posted) found started⟩

end Server

end NatProxy
