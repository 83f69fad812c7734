import NatProxy.Server.Lifecycle

/-!
# STOPPROXY comes after the announcement

`onReqProxy` starts the channel before it queues the ACCESS to the destination and
the success response to the source. From the start on the channel may stop, on its
own thread, and `CChannel::stop` queues a STOPPROXY to both sessions. A channel
whose id is in use at the destination is given up with a STOPPROXY to a source that
was never told of it.

`Channels.CallGoesFirst` says that `CChannel::stop` comes to the session of an end
only after the call that created the channel has passed its announcement, and that
the id of a new channel is free at the destination.
-/

namespace NatProxy

open Transition

variable {S C : Type}

/-- Every message with `later` has one with `earlier` before it. -/
def Preceded {M : Type} (earlier later : M → Prop) (msgs : List M) : Prop :=
  ∀ pre msg post, msgs = pre ++ msg :: post → later msg → ∃ first ∈ pre, earlier first

namespace Preceded

variable {M : Type} {earlier later : M → Prop} {msgs : List M} {msg : M}

theorem nil : Preceded earlier later [] := by
  intro pre msg post split
  cases pre <;> cases split

/-- A message is added to the end. -/
theorem concat (h : Preceded earlier later msgs)
    (last : later msg → ∃ first ∈ msgs, earlier first) :
    Preceded earlier later (msgs ++ [msg]) := by
  intro pre msg' post split late
  obtain rfl | ⟨rest, final, rfl⟩ := post.eq_nil_or_concat
  · obtain ⟨rfl, same⟩ := List.append_inj' split rfl
    obtain rfl := List.singleton_inj.mp same
    exact last late
  · have assoc : msgs ++ [msg] = (pre ++ msg' :: rest) ++ [final] := by simpa using split
    obtain ⟨same, _⟩ := List.append_inj' assoc rfl
    exact h pre msg' rest same late

end Preceded

/-- The response announces the end of a side of the channel with the id. -/
def Queued.Announces (side : Side) (id : UInt32) (msg : Queued C) : Prop :=
  match side, msg.pkt with
  | .src, .proxy resp => resp.ucErr = ERRCODE.SUCCESS ∧ resp.uiUdpId = id
  | .dst, .access resp => resp.uiUdpId = id
  | _, _ => False

/-- The call has not passed `onRespAccess`, or for the source `onRespProxyOk`. -/
def ProxyPc.Before : Side → ProxyPc S C → Prop
  | .dst, .respOk _ _ => False
  | _, _ => True

/-- The call gives the channel up because its id is taken. -/
def ProxyPc.Undoes : ProxyPc S C → Prop
  | .undoRemove _ _ => True
  | .undoNotify _ _ => True
  | _ => False

namespace Link

/-- `CChannel::stop` comes to an end after the call that created the channel, and no
channel is given up because of its id. -/
def CallGoesFirst (l : Link S C) : Event → Prop
  | .notify side => ∀ pc, l.creator = some pc → ¬ pc.Before side
  | .dstTaken => False
  | _ => True

/-- The end of a side has been announced to its session. -/
def Announced (l : Link S C) (side : Side) : Prop :=
  ∃ msg ∈ l.said side, msg.Announces side l.ch.id

structure InOrder (l : Link S C) : Prop where
  kept : ∀ pc, l.creator = some pc → ¬ pc.Undoes
  access : ∀ d c, l.creator = some (.respOk d c) → l.Announced .dst
  finished : l.creator = none → l.ch.started = true ∨ l.ch.pc ≠ .idle →
    ∀ side, l.Announced side
  order : ∀ side, Preceded (Queued.Announces side l.ch.id) (·.isStopProxy = true) (l.said side)

namespace InOrder

variable {l l' : Link S C}

theorem of_born {c : C} (born : l.Born c) : l.InOrder := by
  obtain ⟨d, creator⟩ := born.creator
  refine ⟨?_, ?_, ?_, ?_⟩
  · intro pc call
    obtain rfl := Option.some.inj (creator.symm.trans call)
    exact not_false
  · intro d c call
    cases creator.symm.trans call
  · intro none
    cases creator.symm.trans none
  · intro side
    rw [born.said side]
    exact .nil

/-- Nothing is said, and the channel gets neither started nor stopped. -/
theorem keep (h : l.InOrder) (said : l'.said = l.said) (id : l'.ch.id = l.ch.id)
    (creator : ∀ pc, l'.creator = some pc → l.creator = some pc ∨ pc.Building ∧ ¬ pc.Undoes)
    (finished : l'.creator = none → l'.ch.started = true ∨ l'.ch.pc ≠ .idle →
      l.creator = none ∧ (l.ch.started = true ∨ l.ch.pc ≠ .idle)) : l'.InOrder := by
  have announced : ∀ side, l.Announced side → l'.Announced side := by
    rintro side ⟨msg, mem, announces⟩
    exact ⟨msg, by rwa [said], by rwa [id]⟩
  refine ⟨?_, ?_, ?_, ?_⟩
  · intro pc call
    obtain same | ⟨_, kept⟩ := creator pc call
    · exact h.kept pc same
    · exact kept
  · intro d c call
    obtain same | ⟨early, _⟩ := creator _ call
    · exact announced _ (h.access d c same)
    · exact early.elim
  · intro none busy side
    obtain ⟨before, was⟩ := finished none busy
    exact announced side (h.finished before was side)
  · rw [said, id]
    exact h.order

/-- The call that creates the channel goes on before the start. -/
theorem build (h : l.InOrder) (life : l.Lifecycle) {pc : ProxyPc S C}
    (here : l.creator = some pc) (early : pc.Building) (said : l'.said = l.said)
    (id : l'.ch.id = l.ch.id) (started : l'.ch.started = l.ch.started) (idle : l'.ch.pc = l.ch.pc)
    (next : ∀ pc', l'.creator = some pc' → pc'.Building ∧ ¬ pc'.Undoes) : l'.InOrder := by
  obtain ⟨stopped, rest, _⟩ := life.building pc here early
  refine h.keep said id (fun pc' call => .inr (next pc' call)) ?_
  rw [started, idle, stopped, rest]
  rintro _ (now | now)
  · cases now
  · exact absurd rfl now

/-- A response about an end of the channel is queued; a STOPPROXY only for an end
that has been announced. -/
theorem say (h : l.InOrder) {side : Side} {msg : Queued C}
    (last : msg.isStopProxy = true → l.Announced side)
    (said : l'.said = Function.update l.said side (l.said side ++ [msg]))
    (id : l'.ch.id = l.ch.id) (kept : ∀ pc, l'.creator = some pc → ¬ pc.Undoes)
    (access : ∀ d c, l'.creator = some (.respOk d c) →
      l.Announced .dst ∨ side = .dst ∧ msg.Announces .dst l.ch.id)
    (finished : l'.creator = none → l'.ch.started = true ∨ l'.ch.pc ≠ .idle →
      ∀ other, l.Announced other ∨ side = other ∧ msg.Announces other l.ch.id) : l'.InOrder := by
  have announced : ∀ other, l.Announced other ∨ side = other ∧ msg.Announces other l.ch.id →
      l'.Announced other := by
    rintro other (⟨first, mem, announces⟩ | ⟨rfl, announces⟩)
    · refine ⟨first, ?_, by rwa [id]⟩
      rw [said]
      by_cases eq : other = side
      · subst eq
        simp [mem]
      · simpa [eq] using mem
    · exact ⟨msg, by simp [said], by rwa [id]⟩
  refine ⟨kept, fun d c call => announced _ (access d c call),
    fun none busy other => announced other (finished none busy other), ?_⟩
  intro other
  rw [said, id]
  by_cases eq : other = side
  · subst eq
    rw [Function.update_self]
    exact (h.order other).concat last
  · rw [Function.update_of_ne eq]
    exact h.order other

/-- `CChannel::stop` is called. -/
theorem beginStop (h : l.InOrder) {ch : CChannel S} (started : ch.started = l.ch.started)
    (pc : ch.pc = l.ch.pc) (id : ch.id = l.ch.id) :
    { l with ch := ch.beginStop }.InOrder := by
  refine h.keep rfl (ch.id_beginStop.trans id) (fun pc call => .inl call) fun none busy =>
    ⟨none, ?_⟩
  by_cases running : l.ch.started = true
  · exact .inl running
  · have same := CChannel.beginStop_of_stopped
      (started.trans (Bool.eq_false_iff.mpr running))
    rwa [same, started, pc] at busy

theorem step [DecidableEq S] {cfg : Config} {c : C} {e : Event} (h : l.InOrder)
    (life : l.Lifecycle) (step : Step cfg c l e l') (first : l.CallGoesFirst e) :
    l'.InOrder := by
  cases step with
  | start | destroy | beginStop | stopAll | closing | robbed =>
      exact h.keep rfl rfl (fun pc call => .inl call) fun none busy => ⟨none, busy⟩
  | stopsLink here own maybe =>
      refine h.keep rfl ?_ (fun pc call => .inl call) ?_
      · obtain rfl | rfl := maybe <;> rfl
      · obtain rfl | rfl := maybe <;> exact fun none busy => ⟨none, busy⟩
  | @initEnd side d id r e here ok =>
      refine h.build life here trivial rfl rfl rfl rfl ?_
      rintro _ ⟨⟩
      cases side <;> exact ⟨trivial, not_false⟩
  | initFails here failed =>
      refine h.build life here trivial rfl rfl rfl rfl ?_
      rintro _ ⟨⟩
      exact ⟨trivial, not_false⟩
  | addSrc here | srcTaken here | addDst here | lockDst here | checkDst here =>
      refine h.build life here trivial rfl rfl rfl rfl ?_
      rintro _ ⟨⟩
      exact ⟨trivial, not_false⟩
  | dstTaken here => exact first.elim
  | undoRemove here | undoNotify here => exact absurd trivial (h.kept _ here)
  | fail here =>
      have stopped := (life.building _ here trivial).1
      rw [CChannel.beginStop_of_stopped stopped]
      exact h.build life here trivial rfl rfl rfl rfl nofun
  | dstGone here | dstStopped here => exact h.build life here trivial rfl rfl rfl rfl nofun
  | startChannel here =>
      refine ⟨?_, ?_, ?_, ?_⟩
      · rintro _ ⟨⟩
        exact not_false
      · rintro _ _ ⟨⟩
      · rintro ⟨⟩
      · dsimp only
        rw [CChannel.id_start]
        exact h.order
  | access here =>
      refine h.say (fun stop => by cases stop) rfl rfl ?_ (fun _ _ _ => .inr ⟨rfl, rfl⟩) nofun
      rintro _ ⟨⟩
      exact not_false
  | respOk here =>
      refine h.say (fun stop => by cases stop) rfl rfl nofun nofun fun _ _ other => ?_
      cases other with
      | src => exact .inr ⟨rfl, rfl, rfl⟩
      | dst => exact .inl (h.access _ _ here)
  | strandStop idle posted => exact h.beginStop rfl rfl rfl
  | socketStop idle => exact h.beginStop rfl rfl rfl
  | @exit coro stopped =>
      refine h.keep rfl ?_ (fun pc call => .inl call) ?_
      · cases coro <;> rfl
      · cases coro <;> exact fun none busy => ⟨none, busy⟩
  | checkerDone | expires =>
      exact h.keep rfl rfl (fun pc call => .inl call) fun none busy => ⟨none, busy⟩
  | close here | gone here =>
      refine h.keep rfl rfl (fun pc call => .inl call) fun none _ => ⟨none, .inr ?_⟩
      simp [here]
  | @notify side ss here =>
      have closing : l.ch.pc ≠ .idle := by simp [here]
      have done : l.creator = none → ∀ other, l.Announced other :=
        fun none other => h.finished none (.inr closing) other
      have announced : l.Announced side := by
        cases call : l.creator with
        | none => exact done call side
        | some pc =>
            -- The call is past this side, so it has queued the ACCESS already.
            have past := first pc call
            cases side with
            | src => cases pc <;> exact absurd trivial past
            | dst =>
                cases pc with
                | respOk d c' => exact h.access d c' call
                | _ => exact absurd trivial past
      exact h.say (fun _ => announced) rfl rfl h.kept (fun d c call => .inl (h.access d c call))
        fun none _ other => .inl (done none other)
  | finish here =>
      refine h.keep rfl rfl (fun pc call => .inl call) ?_
      rintro none (now | now)
      · have stopped := (life.closing (by simp [here])).1
        cases stopped.symm.trans now
      · exact absurd rfl now

end InOrder

theorem inOrder_of_reachable [DecidableEq S] {cfg : Config} {c : C} {l : Link S C}
    (reached : ((system cfg c).restrict CallGoesFirst).Reachable l) : l.InOrder := by
  refine invariant_of_reachable (I := InOrder) ?_ ?_ reached
  · intro l born
    exact .of_born born
  · intro l e l' life met h step
    exact h.step life step met

end Link

/-! ## The channels of the server -/

namespace Channels

/-- The id of a new channel is free at the destination, and when `CChannel::stop`
comes to `onRespStopProxy` of the session of an end, the call that created the
channel is past `onRespAccess`, or for the source past `onRespProxyOk`. -/
def CallGoesFirst (v : Channels S C) : Action S C → Prop
  | .run s _ => ∀ req d c ch, v.task s = .proxy req (.addChannel .dst d c) →
      v.channel c = some ch → v.map d .dst ch.id = none
  | .runStop c => ∀ ch side ss, v.channel c = some ch → ch.pc = .notify side ss →
      ∀ s req pc, v.task s = .proxy req pc → pc.channel = some c → ¬ pc.Before side
  | _ => True

theorem CallGoesFirst.link [DecidableEq C] {v : Channels S C} {a : Action S C} {c : C}
    {ch : CChannel S} {e : Link.Event} (h : v.CallGoesFirst a) (causes : v.Causes a c e) :
    (v.link c ch).CallGoesFirst e := by
  cases e with
  | dstTaken =>
      obtain ⟨s, n, req, d, ch', rfl, here, found, taken⟩ := causes
      exact taken (h req d c ch' here found)
  | notify side =>
      obtain ⟨ch', ss, rfl, found, here⟩ := causes
      intro pc creates
      obtain ⟨req, task, makes⟩ := ChanTask.creates_eq_some.mp creates
      exact h ch' side ss found here _ req pc task makes
  | _ => trivial

end Channels

namespace Server

variable [DecidableEq S] [DecidableEq C]

/-- In every run in which the creating call goes first, a STOPPROXY that is queued to
a session is about an end of one of its channels, and the announcement of that end
under the same id was queued before it. -/
theorem stopProxy_after_announcement (cfg : Config) {st : Server S C}
    (reached : ((system cfg).restrict fun st a => st.channels.CallGoesFirst a).Reachable st)
    {s : S} {pre post : List (Queued C)} {msg : Queued C} {resp : CRespStopProxy}
    (queued : (st.sendq s).called = pre ++ msg :: post) (stop : msg.pkt = .stopProxy resp) :
    ∃ c ch side, st.channel c = some ch ∧ ch.ss side = s ∧ resp.uiUdpId = ch.id ∧
      ∃ first ∈ pre, first.about = some (c, side) ∧ first.Announces side resp.uiUdpId := by
  have wired := wired_of_reachable reached.of_restrict
  have fits := wired.called s msg (by
    change msg ∈ (st.sendq s).called
    simp [queued])
  obtain ⟨c, side, ch, about, found, id⟩ := fits.stops resp stop
  obtain ⟨_, again, rfl⟩ := fits.about c side about
  obtain rfl := Option.some.inj (found.symm.trans again)
  have inOrder := Link.inOrder_of_reachable (link_reachable (E := fun _ => Link.CallGoesFirst)
    (fun _ _ _ _ _ _ _ h causes => h.link causes) reached found)
  let ours : Queued C → Bool := fun msg => msg.about = some (c, side)
  have split : (st.channels.link c ch).said side = pre.filter ours ++ msg :: post.filter ours := by
    change ((st.sendq (ch.ss side)).called).filter ours = _
    rw [queued, List.filter_append, List.filter_cons_of_pos]
    simpa [ours] using about
  have late : msg.isStopProxy = true := by rw [Queued.isStopProxy, stop]
  obtain ⟨first, mem, announces⟩ := inOrder.order side _ msg _ split late
  obtain ⟨mem, mine⟩ := List.mem_filter.mp mem
  refine ⟨c, ch, side, found, rfl, id, first, mem, by simpa [ours] using mine, ?_⟩
  rw [id]
  exact announces

/-- The destination closes its connection right after the channel was started, and the
channel stops before `onReqProxy` goes on. -/
def stopsAtOnce : List (Action (Fin 2) (Fin 1)) :=
  requestChannel ++ go 0 9 ++ [.readFails 1, .onReadHead 1] ++ go 1 6 ++
    [.strandStop 0, .runStop 0, .runStop 0]

theorem stopProxy_not_always_after_announcement :
    ¬ ∀ st : Server (Fin 2) (Fin 1), (system ⟨0, 0, 0⟩).Reachable st →
      ∀ s pre post msg resp, (st.sendq s).called = pre ++ msg :: post →
        msg.pkt = .stopProxy resp →
          ∃ c ch side, st.channel c = some ch ∧ ch.ss side = s ∧ resp.uiUdpId = ch.id ∧
            ∃ first ∈ pre, first.about = some (c, side) ∧ first.Announces side resp.uiUdpId := by
  intro after
  obtain ⟨st, reached, msg, last, stop, silent⟩ :=
    reachable_of_run ⟨0, 0, 0⟩ stopsAtOnce (P := fun st =>
      ∃ msg ∈ (st.sendq 0).called.getLast?, msg.isStopProxy = true ∧
        ∀ first ∈ (st.sendq 0).called.dropLast, first.about = none)
      (by decide +kernel)
  obtain ⟨resp, pkt⟩ := Queued.isStopProxy_iff.mp stop
  have split := List.dropLast_append_getLast? msg last
  obtain ⟨c, ch, side, _, _, _, first, mem, about, _⟩ :=
    after st reached 0 _ [] msg resp split.symm pkt
  cases (silent first mem).symm.trans about

/-- Ids are free, and channels stop while no proxy request is under way. -/
def stopsLater (st : Server (Fin 2) (Fin 1)) : Action (Fin 2) (Fin 1) → Bool
  | .run s _ =>
      match st.task s with
      | .proxy _ (.addChannel .dst d c) =>
          (st.channel c).all fun ch => (st.session d).channels .dst ch.id == none
      | _ => true
  | .runStop _ => st.idle 0 && st.idle 1
  | _ => true

theorem callGoesFirst_of_stopsLater (st : Server (Fin 2) (Fin 1)) (a : Action (Fin 2) (Fin 1))
    (tested : stopsLater st a = true) : st.channels.CallGoesFirst a := by
  cases a with
  | run s n =>
      intro req d c ch here found
      have found : st.channel c = some ch := found
      rw [stopsLater, (st.channels_task_eq_proxy s).mp here] at tested
      change (st.session d).channels .dst ch.id = none
      simpa [found] using tested
  | runStop c =>
      intro ch side ss _ _ s req pc task
      rw [stopsLater, Bool.and_eq_true] at tested
      have idle : st.idle s = true := by
        match s with
        | 0 => exact tested.1
        | 1 => exact tested.2
      cases (st.channels_idle s idle).symm.trans task
  | _ => trivial

theorem stopProxy_after_announcement_closedDestination :
    ∃ st : Server (Fin 2) (Fin 1), ∃ pre msg resp,
      (st.sendq 0).called = pre ++ [msg] ∧ msg.pkt = .stopProxy resp ∧
        ∃ c ch side, st.channel c = some ch ∧ ch.ss side = 0 ∧ resp.uiUdpId = ch.id ∧
          ∃ first ∈ pre, first.about = some (c, side) ∧ first.Announces side resp.uiUdpId := by
  obtain ⟨st, reached, msg, last, stop⟩ :=
    reachable_of_testedRun ⟨0, 60, 0⟩ closedDestination callGoesFirst_of_stopsLater
      (P := fun st => ∃ msg ∈ (st.sendq 0).called.getLast?, msg.isStopProxy = true)
      (by decide +kernel)
  obtain ⟨resp, pkt⟩ := Queued.isStopProxy_iff.mp stop
  have split := (List.dropLast_append_getLast? msg last).symm
  exact ⟨st, _, msg, resp, split, pkt, stopProxy_after_announcement ⟨0, 60, 0⟩ reached split pkt⟩

end Server

end NatProxy
