import NatProxy.Server.Lifecycle
import NatProxy.Server.ProxyCall

/-!
# A PROXY request is all or nothing

`onReqProxy` enters the channel into the maps of both sessions before it asks
whether the destination still runs. If it does not, the call returns without an
undo and without a response. If the destination stops, or the channel, after it was
asked, the call answers with a success all the same. And if the process has no socket left for
a new channel, an exception takes the call and the loop of its thread, without a response.
`Channels.Undisturbed` says that nothing of this happens to the call.
-/

namespace NatProxy

open Transition

variable {S C : Type}

namespace ProxyPc

/-- The call has entered the channel into the map of a side. -/
def HasEntry : ProxyPc S C → Side → Prop
  | .addChannel .dst _ _, .src => True
  | .undoRemove _ _, .src => True
  | .lockDst _, _ | .checkDst _ _, _ | .start _ _, _ | .access _ _, _ | .respOk _ _, _ => True
  | _, _ => False

/-- The call has entered the channel, and does not know yet whether the destination
runs. -/
def Asks : ProxyPc S C → Prop
  | .lockDst _ | .checkDst _ _ => True
  | _ => False

/-- The call has found the destination running. -/
def Checked : ProxyPc S C → Prop
  | .start _ _ | .access _ _ | .respOk _ _ => True
  | _ => False

end ProxyPc

/-! ## The course of a call -/

namespace Link

/-- The channel while the call at `pc` creates it. -/
structure Course (l : Link S C) (pc : ProxyPc S C) : Prop where
  started : ¬ pc.Building → l.ch.started = true
  entered : ∀ side, l.entered side → pc.HasEntry side
  src : pc.HasEntry .src → l.entered .src
  /-- Only a destination that stops removes the entry. -/
  dst : pc.HasEntry .dst → l.entered .dst ∨ pc.Asks ∧ l.started (l.ch.ss .dst) = false

namespace Course

variable {l l' : Link S C} {pc pc' : ProxyPc S C}

theorem of_born {c : C} (born : l.Born c) (call : l.creator = some pc) : l.Course pc := by
  obtain ⟨d, creator⟩ := born.creator
  obtain rfl := Option.some.inj (creator.symm.trans call)
  refine ⟨absurd trivial, fun side entry => absurd entry (born.entered side), ?_, ?_⟩
  · rintro ⟨⟩
  · rintro ⟨⟩

/-- A step of another thread. -/
theorem keep (h : l.Course pc) (ss : l'.ch.ss = l.ch.ss)
    (started : l.ch.started = true → l'.ch.started = true)
    (entered : ∀ side, l'.entered side ↔ l.entered side)
    (stopped : l.started (l.ch.ss .dst) = false → l'.started (l.ch.ss .dst) = false) :
    l'.Course pc where
  started late := started (h.started late)
  entered side entry := h.entered side ((entered side).mp entry)
  src has := (entered .src).mpr (h.src has)
  dst has := by
    rw [ss]
    obtain entry | ⟨asks, before⟩ := h.dst has
    · exact .inl ((entered .dst).mpr entry)
    · exact .inr ⟨asks, stopped before⟩

/-- The call goes on, and leaves the entries alone. -/
theorem next (h : l.Course pc) (ss : l'.ch.ss = l.ch.ss) (running : l'.started = l.started)
    (started : ¬ pc'.Building → l'.ch.started = true)
    (entered : l'.entered = l.entered) (same : ∀ side, pc'.HasEntry side ↔ pc.HasEntry side)
    (asks : pc.Asks → l.started (l.ch.ss .dst) = false → pc'.Asks) : l'.Course pc' where
  started := started
  entered side entry := by
    rw [entered] at entry
    exact (same side).mpr (h.entered side entry)
  src has := by
    rw [entered]
    exact h.src ((same .src).mp has)
  dst has := by
    rw [entered, ss, running]
    obtain entry | ⟨before, stopped⟩ := h.dst ((same .dst).mp has)
    · exact .inl entry
    · exact .inr ⟨asks before stopped, stopped⟩

theorem step [DecidableEq S] {cfg : Config} {c : C} {e : Event} (h : l.Course pc)
    (step : Step cfg c l e l') (life : l.Lifecycle) (call : l.creator = some pc)
    (busy : l.stop (l.ch.ss .src) = none)
    (stops : ∀ s pc, l.stop s = some pc → l.started s = false)
    (asked : l'.creator ≠ l.creator → ∀ d, pc = .checkDst d c → l.started (l.ch.ss .dst) = true)
    (mapped : pc.Checked → l'.stop (l.ch.ss .dst) ≠ l.stop (l.ch.ss .dst) →
      l.stop (l.ch.ss .dst) ≠ some (.stopAll .dst))
    (calm : ¬ pc.Building → l.ch.started = true → l'.ch.started = true)
    (own : e ≠ .robbed) (goes : l'.creator = some pc') : l'.Course pc' := by
  have running : l.ch.started = true → l'.ch.started = true := by
    intro now
    by_cases early : pc.Building
    · cases now.symm.trans (life.building pc call early).1
    · exact calm early now
  have idle : l.ch.pc = .idle := by
    by_cases early : pc.Building
    · exact (life.building pc call early).2.1
    · exact (life.running (h.started early)).1
  have other : l'.creator = l.creator → pc' = pc := by
    intro same
    exact Option.some.inj (goes.symm.trans (same.trans call))
  have before : ∀ {pc₀ : ProxyPc S C}, l.creator = some pc₀ → pc₀ = pc := by
    intro pc₀ here
    exact Option.some.inj (here.symm.trans call)
  cases step with
  | @start s unused =>
      obtain rfl := other rfl
      refine h.keep rfl running (fun _ => .rfl) fun stopped => ?_
      dsimp only
      rwa [Function.update_of_ne fun eq => unused .dst eq.symm]
  | @beginStop s _ _ =>
      obtain rfl := other rfl
      refine h.keep rfl running (fun _ => .rfl) fun stopped => ?_
      dsimp only
      by_cases eq : l.ch.ss .dst = s
      · rw [eq, Function.update_self]
      · rwa [Function.update_of_ne eq]
  | destroy | stopAll | closing =>
      obtain rfl := other rfl
      exact h.keep rfl running (fun _ => .rfl) id
  | @stopsLink s side here eq ch maybe =>
      obtain rfl := other rfl
      subst eq
      have same : ch.ss = l.ch.ss := by
        obtain rfl | rfl := maybe
        · rfl
        · rfl
      cases side with
      | src => cases busy.symm.trans here
      | dst =>
          -- the destination has stopped before the call asked
          have asks : ¬ pc'.Checked := by
            intro checked
            refine mapped checked ?_ here
            dsimp only
            rw [Function.update_self, here]
            rintro ⟨⟩
          refine ⟨fun late => running (h.started late), ?_, h.src, fun has => ?_⟩
          · intro side entry
            cases side with
            | src => exact h.entered .src entry
            | dst => exact entry.elim
          · refine .inr ⟨?_, ?_⟩
            · cases pc' with
              | lockDst | checkDst => trivial
              | start | access | respOk => exact absurd trivial asks
              | addChannel side => cases side <;> exact has.elim
              | _ => exact has.elim
            · dsimp only
              rw [same]
              exact stops _ _ here
  | @initEnd side d _ _ _ here =>
      obtain rfl := Option.some.inj goes
      obtain rfl := before here
      cases side <;> exact h.next rfl rfl (absurd trivial) rfl (fun _ => .rfl) (by rintro ⟨⟩)
  | initFails here | srcTaken here | undoNotify here =>
      obtain rfl := Option.some.inj goes
      obtain rfl := before here
      exact h.next rfl rfl (absurd trivial) rfl (fun _ => .rfl) (by rintro ⟨⟩)
  | addSrc here =>
      obtain rfl := Option.some.inj goes
      obtain rfl := before here
      refine ⟨absurd trivial, ?_, fun _ => trivial, by rintro ⟨⟩⟩
      intro side entry
      cases side with
      | src => trivial
      | dst => exact (h.entered .dst entry).elim
  | addDst here =>
      obtain rfl := Option.some.inj goes
      obtain rfl := before here
      exact ⟨absurd trivial, fun _ _ => trivial,
        fun _ => h.src trivial, fun _ => .inl trivial⟩
  | dstTaken here =>
      obtain rfl := Option.some.inj goes
      obtain rfl := before here
      refine h.next rfl rfl (absurd trivial) rfl (fun side => ?_) (by rintro ⟨⟩)
      cases side <;> exact .rfl
  | undoRemove here =>
      obtain rfl := Option.some.inj goes
      obtain rfl := before here
      refine ⟨absurd trivial, ?_, by rintro ⟨⟩, by rintro ⟨⟩⟩
      intro side entry
      cases side with
      | src => exact entry.elim
      | dst => exact (h.entered .dst entry).elim
  | lockDst here =>
      obtain rfl := Option.some.inj goes
      obtain rfl := before here
      exact h.next rfl rfl (absurd trivial) rfl (fun _ => .rfl) fun _ _ => trivial
  | checkDst here =>
      obtain rfl := Option.some.inj goes
      obtain rfl := before here
      refine h.next rfl rfl (absurd trivial) rfl (fun _ => .rfl) fun _ stopped => ?_
      refine absurd (asked ?_ _ rfl) (Bool.eq_false_iff.mp stopped)
      rw [here]
      rintro ⟨⟩
  | startChannel here =>
      obtain rfl := Option.some.inj goes
      obtain rfl := before here
      refine h.next (CChannel.ss_start ..) rfl (fun _ => ?_) rfl (fun _ => .rfl) (by rintro ⟨⟩)
      change (l.ch.start cfg).started = true
      rw [CChannel.start]
      split
      · assumption
      · rfl
  | access here =>
      obtain rfl := Option.some.inj goes
      obtain rfl := before here
      exact h.next rfl rfl (fun _ => h.started not_false) rfl (fun _ => .rfl) (by rintro ⟨⟩)
  | fail | dstGone | dstStopped | respOk => cases goes
  | strandStop | socketStop =>
      obtain rfl := other rfl
      exact h.keep (CChannel.ss_beginStop _) running (fun _ => .rfl) id
  | exit =>
      obtain rfl := other rfl
      exact h.keep (CChannel.ss_exit ..) running (fun _ => .rfl) id
  | checkerDone | expires =>
      obtain rfl := other rfl
      exact h.keep rfl running (fun _ => .rfl) id
  | close here | gone here | notify here | finish here => cases idle.symm.trans here
  | robbed => exact absurd rfl own

end Course

/-- The call has given up a channel that it has not started. -/
structure GivenUp (l : Link S C) : Prop where
  creator : l.creator = none
  stopped : l.ch.started = false
  entered : ∀ side, ¬ l.entered side

namespace GivenUp

variable {l l' : Link S C}

/-- Nobody starts the channel or enters it into a map. -/
theorem keep (h : l.GivenUp) (creator : l'.creator = l.creator)
    (stopped : l'.ch.started = l.ch.started) (entered : ∀ side, l'.entered side → l.entered side) :
    l'.GivenUp where
  creator := creator.trans h.creator
  stopped := stopped.trans h.stopped
  entered side entry := h.entered side (entered side entry)

theorem step [DecidableEq S] {cfg : Config} {c : C} {e : Event} (h : l.GivenUp)
    (step : Step cfg c l e l') : l'.GivenUp := by
  have less : ∀ {side other : Side}, Function.update l.entered side False other →
      l.entered other := by
    intro side other entry
    by_cases eq : other = side
    · rw [eq, Function.update_self] at entry
      exact entry.elim
    · rwa [Function.update_of_ne eq] at entry
  cases step with
  | start | destroy | beginStop | stopAll | closing | checkerDone | expires | gone | notify
  | finish => exact h.keep rfl rfl fun _ => id
  | stopsLink _ _ maybe =>
      refine h.keep rfl ?_ fun _ => less
      obtain rfl | rfl := maybe
      · rfl
      · rfl
  | close | robbed => exact h.keep rfl rfl fun _ => less
  | strandStop | socketStop =>
      exact h.keep rfl ((CChannel.started_beginStop _).trans h.stopped.symm) fun _ => id
  | @exit coro =>
      refine h.keep rfl ?_ fun _ => id
      cases coro <;> rfl
  | initEnd here | initFails here | addSrc here | srcTaken here | addDst here | dstTaken here
  | undoRemove here | undoNotify here | fail here | lockDst here | dstGone here | checkDst here
  | dstStopped here | startChannel here | access here | respOk here =>
      cases h.creator.symm.trans here

end GivenUp

/-- The call gives up a channel that it has taken out of the maps again. -/
theorem Course.givesUp [DecidableEq S] {l l' : Link S C} {cfg : Config} {c : C} {e : Event}
    {pc : ProxyPc S C} (h : l.Course pc) (step : Step cfg c l e l') (call : l.creator = some pc)
    (none : ∀ side, ¬ pc.HasEntry side) (gone : l'.creator = .none) : l'.GivenUp := by
  cases step with
  | fail =>
      refine ⟨rfl, ?_, fun side entry => none side (h.entered side entry)⟩
      exact CChannel.started_beginStop _
  | dstGone here | dstStopped here | respOk here =>
      obtain rfl := Option.some.inj (here.symm.trans call)
      exact absurd trivial (none .src)
  | initEnd | initFails | addSrc | srcTaken | addDst | dstTaken | undoRemove | undoNotify
  | lockDst | checkDst | startChannel | access => cases gone
  | start | destroy | beginStop | stopAll | stopsLink | closing | strandStop | socketStop | exit
  | checkerDone | expires | close | gone | notify | finish | robbed =>
      cases call.symm.trans gone

end Link

/-! ## The condition -/

namespace Channels

variable [DecidableEq S] [DecidableEq C] {cfg : Config} {v v' : Channels S C} {a : Action S C}
variable {s : S} {c : C} {ch ch' : CChannel S}

/-- Nobody interferes with the call of `s` in a way that its exits do not expect. -/
structure Undisturbed (s : S) (v : Channels S C) (a : Action S C) : Prop where
  /-- The constructor of the channel can open and configure its sockets. -/
  opens : ∀ n req d, a = .run s n → v.task s = .proxy req (.create d) → n.ok = true
  /-- The destination is there when the call locks it. -/
  alive : ∀ n req c ch, a = .run s n → v.task s = .proxy req (.lockDst c) →
    v.channel c = some ch → ∃ d, v.Locks (ch.ends .dst).ownerSs d
  /-- The destination runs when the call asks it. -/
  running : ∀ n req d c, a = .run s n → v.task s = .proxy req (.checkDst d c) →
    v.started d = true
  /-- From then on, the destination does not clear its map. -/
  mapped : ∀ req pc d n, v.task s = .proxy req pc → pc.Checked → pc.dst = some d →
    a = .run d n → v.task d ≠ .stop (.stopAll .dst)
  /-- The started channel is not stopped. -/
  started : ∀ req pc c, v.task s = .proxy req pc → ¬ pc.Building → pc.channel = some c →
    a ≠ .strandStop c ∧ a ≠ .socketStop c
  /-- No other channel with the same id removes the entries. -/
  own : ∀ req pc c, v.task s = .proxy req pc → pc.channel = some c → ¬ v.Causes a c .robbed

/-- A channel that runs is stopped by `CChannel::stop` only. -/
theorem Step.started_of_calm (step : Step cfg v a v') (found : v.channel c = some ch)
    (found' : v'.channel c = some ch') (now : ch.started = true)
    (kept : ∀ s req d, v.task s ≠ .proxy req (.fail d c))
    (calm : a ≠ .strandStop c ∧ a ≠ .socketStop c) : ch'.started = true := by
  have same : v'.channel c = some ch → ch'.started = true := by
    intro still
    rwa [← Option.some.inj (still.symm.trans found')]
  have update : ∀ {c₀ : C} {ch₀ ch₁ : CChannel S}, v.channel c₀ = some ch₀ →
      v'.channel = Function.update v.channel c₀ (some ch₁) →
      (c₀ = c → ch₀.started = true → ch₁.started = true) → ch'.started = true := by
    intro c₀ ch₀ ch₁ found₀ channel own
    by_cases eq : c = c₀
    · subst eq
      rw [channel, Function.update_self] at found'
      obtain rfl := Option.some.inj found'
      obtain rfl := Option.some.inj (found.symm.trans found₀)
      exact own rfl now
    · exact same (by rwa [channel, Function.update_of_ne eq])
  cases step with
  | stopAll here =>
      rw [channel_setTask, channel_stopAll, found, Option.map_some] at found'
      obtain rfl := Option.some.inj found'
      split <;> exact now
  | @create s n req d c₀ id here fresh =>
      refine same ?_
      have ne : c ≠ c₀ := by
        rintro rfl
        cases found.symm.trans fresh
      rwa [channel_setTask, channel_setChannel, Function.update_of_ne ne]
  | initEnd _ found₀ | initFails _ found₀ | dstGone _ found₀ | dstStopped _ found₀
  | respOk _ found₀ | checkerDone found₀ | expires found₀ | close found₀ | gone found₀
  | notify found₀ | finish found₀ => exact update found₀ rfl fun _ => id
  | fail here found₀ =>
      refine update found₀ rfl ?_
      rintro rfl _
      exact absurd here (kept _ _ _)
  | startChannel _ found₀ =>
      refine update found₀ rfl fun _ before => ?_
      rw [CChannel.start, if_pos before]
      exact before
  | strandStop found₀ =>
      refine update found₀ rfl ?_
      rintro rfl _
      exact absurd rfl calm.1
  | socketStop found₀ =>
      refine update found₀ rfl ?_
      rintro rfl _
      exact absurd rfl calm.2
  | @exit _ _ coro found₀ =>
      refine update found₀ rfl fun _ before => ?_
      cases coro <;> exact before
  | _ => exact same found

/-- A call with a channel, and the course of the channel. -/
theorem Step.course {req req' : CReqProxyPkt} {pc pc' : ProxyPc S C} (step : Step cfg v a v')
    (wired : v.Wired) (life : (v.link c ch).Lifecycle) (found : v.channel c = some ch)
    (here : v.task s = .proxy req pc) (makes : pc.channel = some c)
    (course : (v.link c ch).Course pc) (quiet : v.Undisturbed s a)
    (found' : v'.channel c = some ch') (here' : v'.task s = .proxy req' pc')
    (makes' : pc'.channel = some c) : (v'.link c ch').Course pc' := by
  obtain ⟨_, again, src, dst⟩ := (wired.callers s).maker req pc c here makes
  obtain rfl := Option.some.inj (found.symm.trans again)
  obtain ⟨_, again, ss, -⟩ := step.keeps found
  obtain rfl := Option.some.inj (found'.symm.trans again)
  have call : (v.link c ch).creator = some pc :=
    ChanTask.creates_eq_some.mpr ⟨req, src ▸ here, makes⟩
  have goes : (v'.link c ch').creator = some pc' :=
    ChanTask.creates_eq_some.mpr ⟨req', by rw [ss, src, here'], makes'⟩
  obtain ⟨_, again, same | ⟨e, moved, causes⟩⟩ := step.follows wired found
  · obtain rfl := Option.some.inj (found'.symm.trans again)
    obtain rfl := Option.some.inj (goes.symm.trans (same ▸ call))
    rwa [same]
  · obtain rfl := Option.some.inj (found'.symm.trans again)
    refine course.step moved life call ?_ ?_ ?_ ?_ ?_ ?_ goes
    · change (v.task (ch.ss .src)).stopping = none
      rw [src, here]
      rfl
    · intro r pc stop
      exact (wired.stops r pc (ChanTask.stopping_eq_some.mp stop)).2
    · rintro other d rfl
      change v.started (ch.ss .dst) = true
      rw [← dst d rfl]
      -- only the call itself goes on
      by_cases own : ∃ n, a = .run s n
      · obtain ⟨n, rfl⟩ := own
        exact quiet.running n req d c rfl here
      · have same := step.task_of_other (by rw [here]; rintro ⟨⟩) (not_exists.mp own)
        rw [here', here] at same
        obtain ⟨-, rfl⟩ := ChanTask.proxy.inj same
        exact absurd (goes.trans call.symm) other
    · intro checked other stop
      have task := ChanTask.stopping_eq_some.mp stop
      have locked : pc.dst = some (ch.ss .dst) := by
        cases pc with
        | start d | access d | respOk d => rw [← dst d rfl]; rfl
        | _ => exact checked.elim
      by_cases own : ∃ n, a = .run (ch.ss .dst) n
      · obtain ⟨n, rfl⟩ := own
        exact quiet.mapped req pc _ n here checked locked rfl task
      · refine other (congrArg ChanTask.stopping ?_)
        exact step.task_of_other (by rw [task]; rintro ⟨⟩) (not_exists.mp own)
    · intro late now
      refine step.started_of_calm found found' now ?_ (quiet.started req pc c here late makes)
      intro r req₀ d fail
      obtain ⟨_, again, own, -⟩ := (wired.callers r).maker req₀ _ c fail rfl
      obtain rfl := Option.some.inj (found.symm.trans again)
      obtain rfl := own.symm.trans src
      obtain ⟨-, rfl⟩ := ChanTask.proxy.inj (fail.symm.trans here)
      exact late trivial
    · rintro rfl
      exact quiet.own req pc c here makes causes

theorem Step.givenUp (step : Step cfg v a v') (wired : v.Wired) (found : v.channel c = some ch)
    (h : (v.link c ch).GivenUp) (found' : v'.channel c = some ch') :
    (v'.link c ch').GivenUp := by
  obtain ⟨_, again, same | ⟨e, moved, -⟩⟩ := step.follows wired found
  · obtain rfl := Option.some.inj (found'.symm.trans again)
    rwa [same]
  · obtain rfl := Option.some.inj (found'.symm.trans again)
    exact h.step moved

theorem Step.givesUp {req req' : CReqProxyPkt} {pc : ProxyPc S C} (step : Step cfg v a v')
    (wired : v.Wired) (found : v.channel c = some ch) (here : v.task s = .proxy req pc)
    (makes : pc.channel = some c) (course : (v.link c ch).Course pc)
    (none : ∀ side, ¬ pc.HasEntry side) (found' : v'.channel c = some ch')
    (here' : v'.task s = .proxy req' .respErr) : (v'.link c ch').GivenUp := by
  obtain ⟨_, again, src, -⟩ := (wired.callers s).maker req pc c here makes
  obtain rfl := Option.some.inj (found.symm.trans again)
  obtain ⟨_, again, ss, -⟩ := step.keeps found
  obtain rfl := Option.some.inj (found'.symm.trans again)
  have call : (v.link c ch).creator = some pc :=
    ChanTask.creates_eq_some.mpr ⟨req, src ▸ here, makes⟩
  have gone : (v'.link c ch').creator = .none := by
    change (v'.task (ch'.ss .src)).creates c = .none
    rw [ss, src, here']
    rfl
  obtain ⟨_, again, same | ⟨e, moved, -⟩⟩ := step.follows wired found
  · obtain rfl := Option.some.inj (found'.symm.trans again)
    rw [same] at gone
    cases call.symm.trans gone
  · obtain rfl := Option.some.inj (found'.symm.trans again)
    exact course.givesUp moved call none gone

end Channels

/-! ## The calls of the server -/

/-- How a call of `s` has ended. -/
inductive AllOrNothing [DecidableEq S] (s : S) (st : Server S C) : List (Effect S C) → Prop
  /-- The channel runs, both sessions have it, and both were told. -/
  | all {c : C} {ch : CChannel S} {toDst toSrc : Queued C} (found : st.channel c = some ch)
      (started : ch.started = true) (src : (st.session s).channels .src ch.id = some c)
      (dst : (st.session (ch.ss .dst)).channels .dst ch.id = some c)
      (access : toDst.isAccess = true) (reply : toSrc.proxyErr? = some ERRCODE.SUCCESS) :
      AllOrNothing s st (entering s (ch.ss .dst) ch.id c ++
        [.start c, .queue (ch.ss .dst) toDst, .queue s toSrc])
  /-- The call has only answered. -/
  | nothing {msg : Queued C} (reply : ∃ e ≠ ERRCODE.SUCCESS, msg.proxyErr? = some e) :
      AllOrNothing s st [.queue s msg]
  /-- The channel was not started, no session has it, and the source was told. -/
  | undone {c : C} {ch : CChannel S} {log : List (Effect S C)} {msg : Queued C}
      (found : st.channel c = some ch) (stopped : ch.started = false)
      (entered : ∀ r side id, (st.session r).channels side id ≠ some c)
      (undone : Undone s ch.id c log)
      (restored : ∀ m, m s .src ch.id = none → log.foldl Effect.onMap m = m)
      (reply : ∃ e ≠ ERRCODE.SUCCESS, msg.proxyErr? = some e) :
      AllOrNothing s st (log ++ [.queue s msg])

/-- The call has answered. -/
def Effect.isReply : Effect S C → Bool
  | .queue _ _ => true
  | _ => false

theorem AllOrNothing.replied [DecidableEq S] {s : S} {st : Server S C}
    {log : List (Effect S C)} (h : AllOrNothing s st log) : log.any Effect.isReply = true := by
  cases h with
  | all => rfl
  | nothing => rfl
  | undone => simp [Effect.isReply]

theorem Progress.channel {s d : S} {id : UInt32} {c : C} {pc : ProxyPc S C}
    {log : List (Effect S C)} (h : Progress s d id c pc log) :
    pc.channel = some c ∨ pc = .respErr := by
  cases h with
  | respErr => exact .inr rfl
  | _ => exact .inl rfl

/-- What was undone leaves the maps as they were. -/
theorem Undone.onMap [DecidableEq S] {s : S} {id : UInt32} {c : C} {log : List (Effect S C)}
    (h : Undone s id c log) {m : S → Side → CChannelMap C} (free : m s .src id = none) :
    log.foldl Effect.onMap m = m := by
  cases h with
  | created => rfl
  | removed =>
      simp [Effect.onMap, CChannelMap.remove, Function.update_idem, ← free]

namespace Server

variable [DecidableEq S] [DecidableEq C] {cfg : Config} {st st' : Server S C} {a : Action S C}
variable {s : S} {req req' : CReqProxyPkt} {pc pc' : ProxyPc S C} {log log' : List (Effect S C)}

/-- The call at `pc` has created the channel `c`. -/
structure Making (s : S) (st : Server S C) (pc : ProxyPc S C) (log : List (Effect S C)) (c : C)
    (ch : CChannel S) : Prop where
  found : st.channel c = some ch
  progress : Progress s (ch.ss .dst) ch.id c pc log
  course : pc.channel = some c → (st.channels.link c ch).Course pc
  given : pc = .respErr → (st.channels.link c ch).GivenUp

namespace Making

variable {c : C} {ch : CChannel S}

theorem next (h : Making s st pc log c ch) (reached : (system cfg).Reachable st)
    (run : step cfg st a = some st') (here : st.task s = .proxy req pc)
    (quiet : st.channels.Undisturbed s a) (here' : st'.task s = .proxy req' pc')
    (progress : Progress s (ch.ss .dst) ch.id c pc' log')
    (fails : pc' = .respErr → pc = .respErr ∨ ∃ d, pc = .fail d c) :
    ∃ ch', Making s st' pc' log' c ch' := by
  have task := (st.channels_task_eq_proxy s).mpr here
  have task' := (st'.channels_task_eq_proxy s).mpr here'
  obtain same | moved := (channels_mapping cfg).step _ _ _ reached run
  · obtain ⟨-, rfl⟩ := ChanTask.proxy.inj (task'.symm.trans ((congrFun
      (congrArg Channels.task same) s).trans task))
    refine ⟨ch, ?_, progress, ?_, ?_⟩
    · exact (congrFun (congrArg Channels.channel same) c).trans h.found
    · rw [same]
      exact h.course
    · rw [same]
      exact h.given
  · have wired := wired_of_reachable reached
    have life := Channels.lifecycle_of_reachable ((channels_mapping cfg).reachable reached) h.found
    obtain ⟨ch', found', ss, id⟩ := moved.keeps h.found
    refine ⟨ch', found', by rwa [ss, id], fun makes => ?_, fun failed => ?_⟩
    · obtain before | rfl := h.progress.channel
      · exact moved.course wired life h.found task before (h.course before) quiet found' task' makes
      · -- a call that has failed does not come back to its channel
        obtain ⟨_, again, src, -⟩ := ((moved.wired wired).callers s).maker _ _ c task' makes
        obtain rfl := Option.some.inj (found'.symm.trans again)
        have given := moved.givenUp wired h.found (h.given rfl) found'
        have call : (st'.channels.link c ch').creator = some pc' :=
          ChanTask.creates_eq_some.mpr ⟨req', src ▸ task', makes⟩
        cases given.creator.symm.trans call
    · subst failed
      obtain rfl | ⟨d, rfl⟩ := fails rfl
      · exact moved.givenUp wired h.found (h.given rfl) found'
      · obtain makes | no := h.progress.channel
        · exact moved.givesUp wired h.found task makes (h.course makes) (fun _ => not_false) found'
            task'
        · cases no

theorem ended {net : Net C} (h : Making s st pc log c ch) (reached : (system cfg).Reachable st)
    (run : st.runProxy cfg s req net pc = some st') (here : st.task s = .proxy req pc)
    (quiet : st.channels.Undisturbed s (.run s net)) (ended : Ended st s ch c pc log') :
    AllOrNothing s st' log' := by
  have task := (st.channels_task_eq_proxy s).mpr here
  have wired := wired_of_reachable reached
  have registry := (registry_mapping cfg).reachable reached
  have moved : Channels.Step cfg st.channels (.run s net) st'.channels :=
    runProxy_channels (Registry.mapUsed_of_reachable registry) here run
  cases ended with
  | @error log msg undone reply =>
      obtain ⟨ch', found', ss, id⟩ := moved.keeps h.found
      have given := moved.givenUp wired h.found (h.given rfl) found'
      refine .undone found' given.stopped ?_ (id ▸ undone) (fun m free => ?_) ⟨_, ?_, reply⟩
      · intro r side id' entry
        obtain ⟨_, again, rfl, rfl⟩ := (moved.wired wired).mapped r side id' c entry
        obtain rfl := Option.some.inj (found'.symm.trans again)
        exact given.entered side entry
      · exact undone.onMap (id ▸ free)
      · decide
  | dstGone gone =>
      obtain ⟨d, owner, alive⟩ := quiet.alive net req c ch rfl task h.found
      cases gone.symm.trans (st.lock_eq_some_iff.mpr ⟨owner, alive⟩)
  | dstStopped stopped =>
      cases stopped.symm.trans (quiet.running net req _ c rfl task)
  | success access reply =>
      obtain ⟨_, again, rfl, -⟩ := (wired.callers s).maker req _ c task rfl
      obtain rfl := Option.some.inj (h.found.symm.trans again)
      have course := h.course rfl
      have maps : st'.channels.map = st.channels.map := by
        simpa [effects, h.found, Effect.onMap] using (runProxy_effects run).1
      have entry : ∀ side, st'.channels.map (ch.ss side) side ch.id = some c := by
        rw [maps]
        intro side
        cases side with
        | src => exact course.src trivial
        | dst => exact (course.dst trivial).resolve_right fun no => no.1
      have found' : st'.channel c = some ch.drop := by
        simp only [runProxy, h.found, Option.map_some, Option.some.injEq] at run
        rw [← run]
        exact Function.update_self ..
      have all : AllOrNothing (ch.ss .src) st' (entering (ch.ss .src) (ch.drop.ss .dst) ch.drop.id c
          ++ _) := .all found' (course.started not_false) (entry .src) (entry .dst) access reply
      exact all

end Making

/-- The call of `s` is under way. -/
def Calling (s : S) (st : Server S C) (log : List (Effect S C)) : Prop :=
  ∃ req pc, st.task s = .proxy req pc ∧
    (pc.Early ∧ log = [] ∨ ∃ c ch, Making s st pc log c ch)

omit [DecidableEq S] in
theorem Calling.caught (h : Calling s st log) (here : st.task s = .proxy req pc) :
    pc ≠ .thrown := by
  rintro rfl
  obtain ⟨_, _, again, ⟨early, _⟩ | ⟨c, ch, making⟩⟩ := h
  · obtain ⟨-, rfl⟩ := Task.proxy.inj (here.symm.trans again)
    exact early
  · obtain ⟨-, rfl⟩ := Task.proxy.inj (here.symm.trans again)
    have made := making.progress
    cases made

/-- A step of the call itself. -/
theorem calling_own {net : Net C} (h : Calling s st log) (reached : (system cfg).Reachable st)
    (run : step cfg st (.run s net) = some st')
    (quiet : st.channels.Undisturbed s (.run s net)) :
    Calling s st' (log ++ st.account s (.run s net)) ∨
      st'.task s = .idle ∧ AllOrNothing s st' (log ++ st.account s (.run s net)) := by
  obtain ⟨req, pc, here, goes⟩ := h
  have account : st.account s (.run s net) = st.effects s req net pc := by
    simp [Server.account, here]
  have run' : st.runProxy cfg s req net pc = some st' := by
    simpa only [step, here] using run
  rw [account]
  obtain ⟨early, rfl⟩ | ⟨c, ch, making⟩ := goes
  · obtain ⟨idle, msg, reply, does⟩ | ⟨pc', next, ⟨early', does⟩ | ⟨d, rfl, failed⟩ |
      ⟨d, c, id, rfl, fresh, found, does⟩⟩ := runProxy_of_early early run'
    · rw [does]
      exact .inr ⟨idle, .nothing ⟨_, by decide, reply⟩⟩
    · rw [does]
      exact .inl ⟨req, pc', next, .inl ⟨early', rfl⟩⟩
    · have task := (st.channels_task_eq_proxy s).mpr here
      cases failed.symm.trans (quiet.opens net req d rfl task)
    · rw [does]
      refine .inl ⟨req, _, next, .inr ⟨c, _, found, .initEnd, fun _ => ?_, by rintro ⟨⟩⟩⟩
      have wired := wired_of_reachable reached
      have registry := (registry_mapping cfg).reachable reached
      have born := (runProxy_channels (Registry.mapUsed_of_reachable registry) here
        run').born wired fresh found
      refine .of_born born (ChanTask.creates_eq_some.mpr ⟨req, ?_, rfl⟩)
      exact (st'.channels_task_eq_proxy s).mpr next
  · have own := (wired_of_reachable reached).own c ch making.found
    obtain ⟨idle, ended⟩ | ⟨pc', next, progress, fails⟩ :=
      runProxy_of_progress making.progress making.found own run'
    · exact .inr ⟨idle, making.ended reached run' here quiet ended⟩
    · obtain ⟨ch', making'⟩ := making.next reached run here quiet next progress
        fun failed => .inr ⟨_, fails failed⟩
      exact .inl ⟨req, pc', next, .inr ⟨c, ch', making'⟩⟩

/-- A step of another thread. -/
theorem calling_other (h : Calling s st log) (reached : (system cfg).Reachable st)
    (run : step cfg st a = some st') (quiet : st.channels.Undisturbed s a)
    (other : ∀ n, a ≠ .run s n) : Calling s st' log := by
  obtain ⟨req, pc, here, goes⟩ := h
  have here' := task_of_other reached run here other
  refine ⟨req, pc, here', ?_⟩
  obtain early | ⟨c, ch, making⟩ := goes
  · exact .inl early
  · obtain ⟨ch', making'⟩ := making.next reached run here quiet here' making.progress .inl
    exact .inr ⟨c, ch', making'⟩

omit [DecidableEq C] in
theorem account_of_other (other : ∀ n, a ≠ .run s n) : st.account s a = [] := by
  cases a with
  | run r n =>
      refine if_neg ?_
      rintro rfl
      exact other n rfl
  | _ => rfl

/-- A call that is not disturbed has done all of its work, or none, when it ends, and it
ends after a bounded number of steps of its own. -/
theorem allOrNothing_of_undisturbed (cfg : Config) (s : S)
    {p : Server S C × List (Effect S C)}
    (called : (call cfg (fun st a => st.channels.Undisturbed s a) s).Reachable p) :
    p.1.task s = .idle ∧ AllOrNothing s p.1 p.2 ∨ GoesOn cfg s p.1 := by
  have holds : (system cfg).Reachable p.1 ∧
      (Calling s p.1 p.2 ∨ p.1.task s = .idle ∧ AllOrNothing s p.1 p.2) := by
    refine called.invariant (I := fun p => (system cfg).Reachable p.1 ∧
      (Calling s p.1 p.2 ∨ p.1.task s = .idle ∧ AllOrNothing s p.1 p.2)) ?_ ?_
    · rintro ⟨st, log⟩ ⟨reached, ⟨req, here⟩, rfl⟩
      exact ⟨reached, .inl ⟨req, .lookup, here, .inl ⟨trivial, rfl⟩⟩⟩
    · rintro ⟨st, log⟩ a ⟨st', log'⟩ _ ⟨reached, before⟩ ⟨busy, ⟨quiet, run⟩, rfl⟩
      refine ⟨reached.next run, ?_⟩
      obtain calling | ⟨idle, -⟩ := before
      · by_cases own : ∃ n, a = .run s n
        · obtain ⟨n, rfl⟩ := own
          exact calling_own calling reached run quiet
        · have other := not_exists.mp own
          rw [account_of_other other, List.append_nil]
          exact .inl (calling_other calling reached run quiet other)
      · exact absurd idle busy
  obtain ⟨reached, calling | all⟩ := holds
  · obtain ⟨req, pc, here, -⟩ := id calling
    exact .inr (goesOn_of_proxy (wired_of_reachable reached) here (calling.caught here))
  · exact .inl all

/-- Only the call goes on, and finds its destination running. -/
def goesAlone (st : Server (Fin 2) (Fin 1)) : Action (Fin 2) (Fin 1) → Bool
  | .run 0 net =>
      match st.task 0 with
      | .proxy _ (.create _) => net.ok
      | .proxy _ (.lockDst c) =>
          (st.channel c).all fun ch => (st.lock (ch.ends .dst).ownerSs).isSome
      | .proxy _ (.checkDst d _) => (st.session d).started
      | _ => true
  | _ => false

theorem undisturbed_of_goesAlone (st : Server (Fin 2) (Fin 1)) (a : Action (Fin 2) (Fin 1))
    (tested : goesAlone st a = true) : st.channels.Undisturbed 0 a := by
  unfold goesAlone at tested
  split at tested
  · next n =>
    refine ⟨?_, ?_, ?_, ?_, fun _ _ _ _ _ _ => ⟨by rintro ⟨⟩, by rintro ⟨⟩⟩, ?_⟩
    · rintro _ req d ⟨⟩ here
      rwa [(st.channels_task_eq_proxy 0).mp here] at tested
    · intro _ req c ch _ here found
      rw [(st.channels_task_eq_proxy 0).mp here] at tested
      change (st.channel c).all _ = true at tested
      rw [show st.channel c = some ch from found] at tested
      obtain ⟨d, locked⟩ := Option.isSome_iff_exists.mp tested
      exact ⟨d, st.lock_eq_some_iff.mp locked⟩
    · intro _ req d c _ here
      rwa [(st.channels_task_eq_proxy 0).mp here] at tested
    · rintro req pc d _ here _ _ ⟨⟩ stop
      cases here.symm.trans stop
    · rintro req pc c _ _ ⟨_, _, _, _, ⟨⟩, _⟩
  · cases tested

theorem allOrNothing_of_alone : ∃ p : Server (Fin 2) (Fin 1) × List (Effect (Fin 2) (Fin 1)),
    p.2.length = 6 ∧ AllOrNothing 0 p.1 p.2 := by
  obtain ⟨p, called, idle, length⟩ := call_of_testedSteps ⟨0, 0, 0⟩ 0 undisturbed_of_goesAlone
    requestChannel (go 0 11) (P := fun st log => st.task 0 = .idle ∧ log.length = 6)
    (by decide +kernel)
  obtain ⟨-, all⟩ | ⟨req, pc, here, -⟩ := allOrNothing_of_undisturbed ⟨0, 0, 0⟩ 0 called
  · exact ⟨p, length, all⟩
  · cases here.symm.trans idle

/-- The destination closes its connection before the call asks whether it runs. -/
def dstCloses : List (Action (Fin 2) (Fin 1)) :=
  go 0 6 ++ [.readFails 1, .onReadHead 1] ++ go 0 2

theorem not_always_allOrNothing :
    ¬ ∀ p : Server (Fin 2) (Fin 1) × List (Effect (Fin 2) (Fin 1)),
      (call ⟨0, 0, 0⟩ (fun _ _ => True) 0).Reachable p → p.1.task 0 = .idle →
        AllOrNothing 0 p.1 p.2 := by
  intro all
  obtain ⟨p, called, idle, silent⟩ := call_of_testedSteps ⟨0, 0, 0⟩ 0
    (D := fun _ _ => True) (fun _ _ (_ : true = true) => trivial) requestChannel dstCloses
    (P := fun st log => st.task 0 = .idle ∧ log.any Effect.isReply = false)
    (by decide +kernel)
  cases silent.symm.trans (all p called idle).replied

end Server

end NatProxy
