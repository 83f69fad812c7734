import NatProxy.Server.Wiring

/-!
# The life of one channel

A `Link` is everything that concerns one channel: its object, the call that
creates it, the entries of its two sessions, what these sessions are doing as far
as the channel is concerned, and the responses about it. `Link.Step` says what
can happen to a link. `Channels.link_reachable` shows that the links of the
server go through these steps only, so that a property of all links is a property
of all channels of the server.

The steps on which a later result depends carry an `Event` of their own, by which
a condition on the steps of the server becomes one on the steps of its links.
-/

namespace NatProxy

open Transition

variable {S C : Type}

/-- Where the session's `stop` is. -/
def ChanTask.stopping : ChanTask S C → Option StopPc
  | .stop pc => some pc
  | _ => none

theorem ChanTask.stopping_eq_some {t : ChanTask S C} {pc : StopPc} :
    t.stopping = some pc ↔ t = .stop pc := by
  cases t <;> simp [stopping]

/-- Where the call that creates the channel is. -/
def ChanTask.creates [DecidableEq C] (c : C) : ChanTask S C → Option (ProxyPc S C)
  | .proxy _ pc => if pc.channel = some c then some pc else none
  | _ => none

theorem ChanTask.creates_eq_some [DecidableEq C] {c : C} {t : ChanTask S C} {pc : ProxyPc S C} :
    t.creates c = some pc ↔ ∃ req, t = .proxy req pc ∧ pc.channel = some c := by
  cases t with
  | proxy req pc' =>
      rw [creates, Option.ite_none_right_eq_some, Option.some.injEq]
      constructor
      · rintro ⟨channel, rfl⟩
        exact ⟨req, rfl, channel⟩
      · rintro ⟨_, ⟨⟩, channel⟩
        exact ⟨channel, rfl⟩
  | _ => simp [creates]

@[ext]
structure Link (S C : Type) where
  ch : CChannel S
  /-- The call that has created the channel and still holds it. -/
  creator : Option (ProxyPc S C)
  started : S → Bool
  stop : S → Option StopPc
  dead : S → Prop
  /-- The session of a side has the channel in its map. -/
  entered : Side → Prop
  /-- The responses about an end that were queued to its session. -/
  said : Side → List (Queued C)

namespace Link

/-- The steps that a result may depend on. -/
inductive Event
  /-- `CChannel::start`. -/
  | start
  /-- Another channel with the same id removes the entry. -/
  | robbed
  /-- The port of an end expires. -/
  | expires (side : Side)
  /-- The id of the new channel is in use at the destination. -/
  | dstTaken
  /-- `CChannel::stop` queues its response. -/
  | notify (side : Side)
  | other

variable [DecidableEq S]

/-- What can happen to the channel `c`. -/
inductive Step (cfg : Config) (c : C) : Link S C → Event → Link S C → Prop
  -- the sessions
  | start {l s} (unused : ∀ side, s ≠ l.ch.ss side) :
      Step cfg c l .other { l with started := Function.update l.started s true }
  | destroy {l s} : Step cfg c l .other { l with dead := Function.update l.dead s True }
  | beginStop {l s} (idle : l.stop s = none) (free : s = l.ch.ss .src → l.creator = none) :
      Step cfg c l .other { l with
        started := Function.update l.started s false
        stop := Function.update l.stop s
          (if l.started s then some (.stopAll .src) else none) }
  | stopAll {l s side} (here : l.stop s = some (.stopAll side)) (other : s ≠ l.ch.ss side) :
      Step cfg c l .other { l with
        stop := Function.update l.stop s (some (Channels.afterStopAll side)) }
  | stopsLink {l s side} (here : l.stop s = some (.stopAll side)) (own : s = l.ch.ss side)
      {ch : CChannel S} (maybe : ch = l.ch.toStop ∨ ch = l.ch)
      (posted : l.entered side → l.ch.held → ch = l.ch.toStop) :
      Step cfg c l .other { l with
        ch := ch
        stop := Function.update l.stop s (some (Channels.afterStopAll side))
        entered := Function.update l.entered side False }
  | closing {l s pc next} (here : l.stop s = some pc) (cleared : ∀ side, pc ≠ .stopAll side)
      (later : ∀ side, next ≠ some (.stopAll side)) :
      Step cfg c l .other { l with stop := Function.update l.stop s next }
  -- the call that creates the channel
  | initEnd {l side d id r e} (here : l.creator = some (.initEnd side d c))
      (ok : (l.ch.ends side).init cfg (l.ch.ss side) id r = (true, e)) :
      Step cfg c l .other { l with
        ch := l.ch.setEnd side e
        creator := some (Channels.afterInit d c side) }
  | initFails {l side d id r e} (here : l.creator = some (.initEnd side d c))
      (failed : (l.ch.ends side).init cfg (l.ch.ss side) id r = (false, e)) :
      Step cfg c l .other { l with ch := l.ch.setEnd side e, creator := some (.fail d c) }
  | addSrc {l d} (here : l.creator = some (.addChannel .src d c)) :
      Step cfg c l .other { l with
        entered := Function.update l.entered .src True
        creator := some (.addChannel .dst d c) }
  | srcTaken {l d} (here : l.creator = some (.addChannel .src d c)) :
      Step cfg c l .other { l with creator := some (.fail d c) }
  | addDst {l d} (here : l.creator = some (.addChannel .dst d c)) :
      Step cfg c l .other { l with
        entered := Function.update l.entered .dst True
        creator := some (.lockDst c) }
  | dstTaken {l d} (here : l.creator = some (.addChannel .dst d c)) :
      Step cfg c l .dstTaken { l with creator := some (.undoRemove d c) }
  | undoRemove {l d} (here : l.creator = some (.undoRemove d c)) :
      Step cfg c l .other { l with
        entered := Function.update l.entered .src False
        creator := some (.undoNotify d c) }
  | undoNotify {l d} (here : l.creator = some (.undoNotify d c)) :
      Step cfg c l .other { l with
        said := Function.update l.said .src (l.said .src ++ [stopProxyMsg .src c l.ch])
        creator := some (.fail d c) }
  | fail {l d} (here : l.creator = some (.fail d c)) :
      Step cfg c l .other { l with ch := l.ch.beginStop.drop, creator := none }
  | lockDst {l d} (here : l.creator = some (.lockDst c)) :
      Step cfg c l .other { l with creator := some (.checkDst d c) }
  | dstGone {l} (here : l.creator = some (.lockDst c)) :
      Step cfg c l .other { l with ch := l.ch.drop, creator := none }
  | checkDst {l d} (here : l.creator = some (.checkDst d c)) :
      Step cfg c l .other { l with creator := some (.start d c) }
  | dstStopped {l d} (here : l.creator = some (.checkDst d c)) :
      Step cfg c l .other { l with ch := l.ch.drop, creator := none }
  | startChannel {l d} (here : l.creator = some (.start d c)) :
      Step cfg c l .start { l with ch := l.ch.start cfg, creator := some (.access d c) }
  | access {l d header ss} (here : l.creator = some (.access d c)) :
      Step cfg c l .other { l with
        said := Function.update l.said .dst (l.said .dst ++ [accessMsg header ss c l.ch])
        creator := some (.respOk d c) }
  | respOk {l d header} (here : l.creator = some (.respOk d c)) :
      Step cfg c l .other { l with
        said := Function.update l.said .src (l.said .src ++ [proxyOkMsg header c l.ch])
        ch := l.ch.drop
        creator := none }
  -- the channel
  | strandStop {l} (idle : l.ch.pc = .idle) (posted : 0 < l.ch.posted) :
      Step cfg c l .other { l with
        ch := { l.ch with posted := l.ch.posted - 1 }.beginStop }
  | socketStop {l} (idle : l.ch.pc = .idle) :
      Step cfg c l .other { l with ch := l.ch.beginStop }
  | exit {l coro} (stopped : l.ch.started = false) :
      Step cfg c l .other { l with ch := l.ch.exit coro }
  | checkerDone {l side} :
      Step cfg c l .other { l with
        ch := l.ch.setEnd side { l.ch.ends side with checker := false } }
  | expires {l side} (idle : l.ch.pc = .idle) :
      Step cfg c l (.expires side) { l with
        ch := l.ch.setEnd side { (l.ch.ends side).stop with checker := false } }
  | close {l side} (here : l.ch.pc = .close side)
      (owner : (l.ch.ends side).ownerSs = some (l.ch.ss side)) :
      Step cfg c l .other { l with
        entered := Function.update l.entered side False
        ch := { l.ch with pc := .notify side (l.ch.ss side) } }
  | gone {l side} (here : l.ch.pc = .close side)
      (gone : (l.ch.ends side).ownerSs = some (l.ch.ss side) → l.dead (l.ch.ss side)) :
      Step cfg c l .other { l with ch := { l.ch with pc := afterClose side } }
  | notify {l side ss} (here : l.ch.pc = .notify side ss) :
      Step cfg c l (.notify side) { l with
        said := Function.update l.said side (l.said side ++ [stopProxyMsg side c l.ch])
        ch := { l.ch with pc := afterClose side } }
  | finish {l} (here : l.ch.pc = .ends) :
      Step cfg c l .other { l with
        ch := { l.ch with
          ends := fun side => (l.ch.ends side).stop
          pc := .idle
          stopped := true } }
  | robbed {l side} :
      Step cfg c l .robbed { l with entered := Function.update l.entered side False }

/-- A link as `onReqProxy` makes it. -/
structure Born (c : C) (l : Link S C) : Prop where
  ch : ∃ id, l.ch = .new id l.ch.ss
  creator : ∃ d, l.creator = some (.initEnd .src d c)
  idle : l.stop (l.ch.ss .src) = none
  stopped : ∀ s pc, l.stop s = some pc → l.started s = false
  entered : ∀ side, ¬ l.entered side
  said : ∀ side, l.said side = []

/-- All lives of the channel `c`. -/
def system (cfg : Config) (c : C) : System (Link S C) Event where
  start l := l.Born c
  step := Step cfg c

end Link

/-! ## The links of the server -/

namespace Channels

section View

variable [DecidableEq S] [DecidableEq C]

/-- The link of the channel `c`, whose object is `ch`. -/
def link (v : Channels S C) (c : C) (ch : CChannel S) : Link S C where
  ch := ch
  creator := (v.task (ch.ss .src)).creates c
  started := v.started
  stop := fun s => (v.task s).stopping
  dead := v.dead
  entered := fun side => v.map (ch.ss side) side ch.id = some c
  said := fun side => (v.called (ch.ss side)).filter fun msg => msg.about = some (c, side)

variable (v : Channels S C) (c : C) (ch ch' : CChannel S) (s : S)

omit [DecidableEq S] in
/-- A change of the object, but not of its sessions and its id. -/
theorem link_ch (ss : ch'.ss = ch.ss) (id : ch'.id = ch.id) :
    v.link c ch' = { v.link c ch with ch := ch' } := by
  simp [link, ss, id]

omit [DecidableEq S] in
theorem link_setChannel (c' : C) : (v.setChannel c' ch').link c ch = v.link c ch := rfl

theorem link_setTask (t : ChanTask S C) : (v.setTask s t).link c ch = { v.link c ch with
    creator := if ch.ss .src = s then t.creates c else (v.link c ch).creator
    stop := Function.update (v.link c ch).stop s t.stopping } := by
  apply Link.ext <;> first | rfl | skip
  · by_cases eq : ch.ss .src = s
    · simp [link, eq]
    · simp [link, eq]
  · exact Function.comp_update ChanTask.stopping v.task s t

/-- A task that does not concern the link. -/
theorem link_setTask_other {t : ChanTask S C} (stop : t.stopping = (v.task s).stopping)
    (creator : ch.ss .src = s → t.creates c = (v.task s).creates c) :
    (v.setTask s t).link c ch = v.link c ch := by
  rw [link_setTask]
  apply Link.ext <;> first | rfl | skip
  · change (if _ then _ else _) = (v.task (ch.ss .src)).creates c
    split
    · next src => rw [src, creator src]
    · rfl
  · rw [stop]
    exact Function.update_eq_self s _

theorem link_say_other {msg : Queued C} (other : ∀ side, msg.about ≠ some (c, side)) :
    (v.say s msg).link c ch = v.link c ch := by
  apply Link.ext <;> first | rfl | skip
  funext side
  by_cases eq : ch.ss side = s
  · simp [link, eq, other]
  · simp [link, eq]

theorem link_say {msg : Queued C} {side : Side} (about : msg.about = some (c, side)) :
    (v.say (ch.ss side) msg).link c ch = { v.link c ch with
      said := Function.update (v.link c ch).said side ((v.link c ch).said side ++ [msg]) } := by
  apply Link.ext <;> first | rfl | skip
  funext other
  by_cases same : other = side
  · subst same
    simp [link, about]
  · have ne : ¬ side = other := fun eq => same eq.symm
    by_cases eq : ch.ss other = ch.ss side
    · simp [link, same, eq, about, ne]
    · simp [link, same, eq]

/-- A change of a map that leaves the entries of the link alone. -/
theorem link_setMap_other {side : Side} {m : CChannelMap C}
    (same : ch.ss side = s → (m ch.id = some c ↔ v.map s side ch.id = some c)) :
    (v.setMap s side m).link c ch = v.link c ch := by
  apply Link.ext <;> first | rfl | skip
  funext other
  change ((v.setMap s side m).map (ch.ss other) other ch.id = some c) = _
  rw [map_setMap]
  split
  · next here =>
    obtain ⟨eq, rfl⟩ := here
    simp [link, eq, same eq]
  · rfl

theorem link_setMap {side : Side} {m : CChannelMap C} {p : Prop} (now : m ch.id = some c ↔ p) :
    (v.setMap (ch.ss side) side m).link c ch = { v.link c ch with
      entered := Function.update (v.link c ch).entered side p } := by
  apply Link.ext <;> first | rfl | skip
  funext other
  change ((v.setMap (ch.ss side) side m).map (ch.ss other) other ch.id = some c) = _
  rw [map_setMap]
  by_cases same : other = side
  · subst same
    simp [now]
  · simp [same, link]

end View

section Refinement

variable [DecidableEq S] [DecidableEq C] {v v' : Channels S C} {cfg : Config} {a : Action S C}
variable {c : C} {ch : CChannel S}

/-- The steps that are an event of the channel `c`. -/
def Causes (v : Channels S C) (a : Action S C) (c : C) : Link.Event → Prop
  | .start => ∃ s n req d, a = .run s n ∧ v.task s = .proxy req (.start d c)
  | .robbed => ∃ c' ch side ss, a = .runStop c' ∧ v.channel c' = some ch ∧ ch.pc = .close side ∧
      v.Locks (ch.ends side).ownerSs ss ∧ v.map ss side ch.id = some c ∧ c ≠ c'
  | .expires side => a = .checker c side true
  | .dstTaken => ∃ s n req d ch, a = .run s n ∧ v.task s = .proxy req (.addChannel .dst d c) ∧
      v.channel c = some ch ∧ v.map d .dst ch.id ≠ none
  | .notify side => ∃ ch ss, a = .runStop c ∧ v.channel c = some ch ∧ ch.pc = .notify side ss
  | .other => True

/-- The link of a channel takes a step, or none. -/
def Follows (cfg : Config) (v : Channels S C) (a : Action S C) (v' : Channels S C) (c : C)
    (ch : CChannel S) : Prop :=
  ∃ ch', v'.channel c = some ch' ∧ (v'.link c ch' = v.link c ch ∨
    ∃ e, Link.Step cfg c (v.link c ch) e (v'.link c ch') ∧ v.Causes a c e)

/-- A step about the channel `c₀`. -/
theorem follows_of_own {c₀ : C} {ch₀ ch₁ : CChannel S} {e : Link.Event}
    (found : v.channel c = some ch) (found₀ : v.channel c₀ = some ch₀)
    (channel : v'.channel = Function.update v.channel c₀ (some ch₁))
    (others : c ≠ c₀ → v'.link c ch = v.link c ch)
    (own : Link.Step cfg c₀ (v.link c₀ ch₀) e (v'.link c₀ ch₁)) (causes : v.Causes a c₀ e) :
    Follows cfg v a v' c ch := by
  by_cases eq : c = c₀
  · subst eq
    obtain rfl := Option.some.inj (found.symm.trans found₀)
    exact ⟨ch₁, by rw [channel, Function.update_self], .inr ⟨e, own, causes⟩⟩
  · exact ⟨ch, by rwa [channel, Function.update_of_ne eq], .inl (others eq)⟩

/-- A step of the call that creates the channel `c₀`. -/
theorem follows_of_call {s : S} {req : CReqProxyPkt} {pc : ProxyPc S C} {t : ChanTask S C}
    {mid : Channels S C} {c₀ : C} {ch₀ ch₁ : CChannel S} {e : Link.Event}
    {next : Option (ProxyPc S C)} (wired : v.Wired) (found : v.channel c = some ch)
    (found₀ : v.channel c₀ = some ch₀) (here : v.task s = .proxy req pc)
    (makes : pc.channel = some c₀) (task : mid.task = v.task) (stopping : t.stopping = none)
    (creates : c ≠ c₀ → t.creates c = none) (now : t.creates c₀ = next)
    (channel : mid.channel = Function.update v.channel c₀ (some ch₁)) (ss : ch₁.ss = ch₀.ss)
    (others : c ≠ c₀ → mid.link c ch = v.link c ch) (causes : v.Causes a c₀ e)
    (own : (v.link c₀ ch₀).creator = some pc → ch₀.ss .src = s →
      (∀ d, pc.dst = some d → d = ch₀.ss .dst) →
      Link.Step cfg c₀ (v.link c₀ ch₀) e { mid.link c₀ ch₁ with creator := next }) :
    Follows cfg v a (mid.setTask s t) c ch := by
  obtain ⟨_, again, src, dst⟩ := (wired.callers s).maker req pc c₀ here makes
  obtain rfl := Option.some.inj (found₀.symm.trans again)
  have idle : (mid.task s).stopping = none := by rw [task, here]; rfl
  have creator : (v.link c₀ ch₀).creator = some pc := by
    simp [link, src, here, ChanTask.creates, makes]
  refine follows_of_own found found₀ channel ?_ ?_ causes
  · intro ne
    rw [link_setTask_other, others ne]
    · rw [stopping, idle]
    · intro _
      rw [creates ne, task, here, ChanTask.creates, makes, if_neg]
      simpa using fun eq => ne eq.symm
  · have same : Function.update (mid.link c₀ ch₁).stop s none = (mid.link c₀ ch₁).stop := by
      rw [← idle]
      exact Function.update_eq_self s _
    have after : (mid.setTask s t).link c₀ ch₁ = { mid.link c₀ ch₁ with creator := next } := by
      rw [link_setTask, if_pos (ss ▸ src), stopping, same, now]
    rw [after]
    exact own creator src dst

theorem follows_same (found : v'.channel c = some ch) (same : v'.link c ch = v.link c ch) :
    Follows cfg v a v' c ch :=
  ⟨ch, found, .inl same⟩

/-- A task that is neither a `stop` nor a call with the channel. -/
theorem link_setTask_idle {s : S} {t : ChanTask S C} (stop : t.stopping = (v.task s).stopping)
    (before : (v.task s).creates c = none) (after : t.creates c = none) :
    (v.setTask s t).link c ch = v.link c ch :=
  v.link_setTask_other c ch s stop fun _ => by rw [before, after]

/-- `CSession::stop` goes on. -/
theorem link_setTask_stop {s : S} {t : ChanTask S C} (before : (v.task s).creates c = none)
    (after : t.creates c = none) : (v.setTask s t).link c ch = { v.link c ch with
      stop := Function.update (v.link c ch).stop s t.stopping } := by
  rw [link_setTask]
  apply Link.ext <;> first | rfl | skip
  change (if _ then _ else _) = (v.link c ch).creator
  split
  · next src =>
    rw [after, ← before, ← src]
    rfl
  · rfl

omit [DecidableEq S] in
theorem creates_of_other {req : CReqProxyPkt} {pc : ProxyPc S C} {c₀ : C}
    (channel : pc.channel = some c₀) (ne : c ≠ c₀) :
    (ChanTask.proxy req pc).creates c = none := by
  rw [ChanTask.creates, channel, if_neg]
  simpa using fun eq => ne eq.symm

omit [DecidableEq S] in
theorem creates_self {req : CReqProxyPkt} {pc : ProxyPc S C} (channel : pc.channel = some c) :
    (ChanTask.proxy req pc).creates c = some pc := by
  rw [ChanTask.creates, if_pos channel]

omit [DecidableEq S] [DecidableEq C] in
theorem about_other {c₀ : C} {side : Side} (ne : c ≠ c₀) (other : Side) :
    some (c₀, side) ≠ some (c, other) := by
  simpa using fun eq => absurd eq.symm ne

omit [DecidableEq S] [DecidableEq C] in
theorem entry_of_insert {m : CChannelMap C} {c₀ : C} {id id₀ : UInt32} (free : m id₀ = none)
    (ne : c ≠ c₀) : Function.update m id₀ (some c₀) id = some c ↔ m id = some c := by
  by_cases eq : id = id₀
  · subst eq
    simpa [free] using fun eq : c₀ = c => ne eq.symm
  · rw [Function.update_of_ne eq]

omit [DecidableEq S] [DecidableEq C] in
theorem entry_of_remove {m : CChannelMap C} {id id₀ : UInt32} (other : m id₀ ≠ some c) :
    m.remove id₀ id = some c ↔ m id = some c := by
  by_cases eq : id = id₀
  · subst eq
    simpa [CChannelMap.remove] using other
  · rw [CChannelMap.remove, Function.update_of_ne eq]

theorem link_stopAll (s : S) (side : Side) :
    (v.stopAll s side).link c ch = (v.setMap s side fun _ => none).link c ch := rfl

theorem Step.follows (step : Step cfg v a v') (wired : v.Wired) (found : v.channel c = some ch) :
    Follows cfg v a v' c ch := by
  cases step with
  | @start s unused =>
      refine ⟨ch, found, .inr ⟨.other, .start (s := s) ?_, trivial⟩⟩
      rintro side rfl
      exact unused (wired.used c ch side found)
  | @destroy s => exact ⟨ch, found, .inr ⟨.other, .destroy (s := s), trivial⟩⟩
  | answer other about =>
      refine follows_same found (link_say_other _ _ _ _ ?_)
      intro side eq
      cases about.symm.trans eq
  | directory =>
      refine follows_same found (link_say_other _ _ _ _ ?_)
      rintro _ ⟨⟩
  | @beginStop a s other _ =>
      have call : (v.task s).creates c = none := by rw [other]; rfl
      have step : Link.Step cfg c (v.link c ch) .other _ := .beginStop (s := s)
        (congrArg ChanTask.stopping other) (by rintro rfl; exact call)
      refine ⟨ch, found, .inr ⟨.other, ?_, trivial⟩⟩
      rw [link_setTask_stop, apply_ite ChanTask.stopping]
      · exact step
      · exact call
      · split <;> rfl
  | @stopAll s n side here =>
      have call : (v.task s).creates c = none := by rw [here]; rfl
      have stop : (v.link c ch).stop s = some (.stopAll side) := congrArg ChanTask.stopping here
      by_cases own : s = ch.ss side
      · subst own
        let ch' := if v.map (ch.ss side) side ch.id = some c ∧ ch.held then ch.toStop else ch
        have after : (v.stopAll (ch.ss side) side).channel c = some ch' := by
          rw [channel_stopAll, found]
          rfl
        have ss : ch'.ss = ch.ss := by simp only [ch']; split <;> rfl
        have id : ch'.id = ch.id := by simp only [ch']; split <;> rfl
        refine ⟨ch', after, .inr ⟨.other, ?_, trivial⟩⟩
        rw [link_setTask_stop (by rw [task_stopAll, here]; rfl) rfl,
          Channels.link_ch _ c ch ch' ss id, link_stopAll, link_setMap (p := False) _ _ _ (by simp)]
        have maybe : ch' = ch.toStop ∨ ch' = ch := by
          simp only [ch']
          split
          · exact .inl rfl
          · exact .inr rfl
        exact .stopsLink stop rfl maybe fun entered held => if_pos ⟨entered, held⟩
      · have none : ¬ (v.map s side ch.id = some c ∧ ch.held) := by
          rintro ⟨entry, _⟩
          obtain ⟨_, again, _, eq⟩ := wired.mapped s side ch.id c entry
          obtain rfl := Option.some.inj (found.symm.trans again)
          exact own eq.symm
        refine ⟨ch, ?_, .inr ⟨.other, ?_, trivial⟩⟩
        · rw [channel_setTask, channel_stopAll, found, Option.map_some, if_neg none]
        · rw [link_setTask_stop (by rw [task_stopAll, here]; rfl) rfl, link_stopAll,
            link_setMap_other _ _ _ _ fun eq => absurd eq.symm own]
          exact .stopAll stop own
  | @closing s n pc task here cleared next =>
      refine ⟨ch, found, .inr ⟨.other, ?_, trivial⟩⟩
      rw [link_setTask_stop (by rw [here]; rfl)]
      · have stop : (v.link c ch).stop s = some pc := congrArg ChanTask.stopping here
        refine .closing stop cleared ?_
        obtain rfl | ⟨pc, rfl, later⟩ := next
        · rintro _ ⟨⟩
        · intro side eq
          exact later side (Option.some.inj eq)
      · obtain rfl | ⟨pc, rfl, later⟩ := next <;> rfl
  | request other used =>
      exact follows_same found (link_setTask_idle (by rw [other]; rfl) (by rw [other]; rfl) rfl)
  | lookup here | notFound here | createThrows here =>
      exact follows_same found (link_setTask_idle (by rw [here]; rfl) (by rw [here]; rfl) rfl)
  | @create s n req d c₀ id here fresh =>
      have ne : c ≠ c₀ := by
        rintro rfl
        cases fresh.symm.trans found
      refine follows_same ?_ ?_
      · simpa [ne] using found
      · rw [link_setTask_idle, link_setChannel]
        · rw [task_setChannel, here]
          rfl
        · rw [task_setChannel, here]
          rfl
        · exact creates_of_other rfl ne
  | respErr here =>
      refine follows_same found ?_
      rw [link_setTask_idle (by rw [task_say, here]; rfl) (by rw [task_say, here]; rfl) rfl]
      refine link_say_other _ _ _ _ ?_
      rintro _ ⟨⟩
  | @initEnd s n req side d c₀ ch₀ id r e here found₀ ok =>
      have next : (afterInit d c₀ side).channel = some c₀ := by cases side <;> rfl
      refine follows_of_call (e := .other) wired found found₀ here rfl rfl rfl
        (creates_of_other next) (creates_self next) rfl rfl (fun _ => rfl) trivial
        fun creator src dst => ?_
      have ss : endpoints s d side = ch₀.ss side := by
        cases side with
        | src => exact src.symm
        | dst => exact dst d rfl
      rw [ss] at ok
      rw [link_setChannel, v.link_ch c₀ ch₀ _ rfl rfl]
      exact .initEnd creator ok
  | @initFails s n req side d c₀ ch₀ id r e here found₀ failed =>
      refine follows_of_call (e := .other) wired found found₀ here rfl rfl rfl
        (creates_of_other rfl) (creates_self rfl) rfl rfl (fun _ => rfl) trivial
        fun creator src dst => ?_
      have ss : endpoints s d side = ch₀.ss side := by
        cases side with
        | src => exact src.symm
        | dst => exact dst d rfl
      rw [ss] at failed
      rw [link_setChannel, v.link_ch c₀ ch₀ _ rfl rfl]
      exact .initFails creator failed
  | @addSrc s n req d c₀ ch₀ here found₀ free =>
      refine follows_of_call (e := .other) wired found found₀ here rfl rfl rfl
        (creates_of_other rfl) (creates_self rfl) (by simp [← found₀]) rfl ?_ trivial
        fun creator src dst => ?_
      · intro ne
        exact link_setMap_other _ _ _ _ fun _ => entry_of_insert free ne
      · obtain rfl := src
        rw [link_setMap (p := True)]
        · exact .addSrc creator
        · simp
  | @srcTaken s n req d c₀ ch₀ here found₀ taken =>
      refine follows_of_call (e := .other) wired found found₀ here rfl rfl rfl
        (creates_of_other rfl) (creates_self rfl) (by simp [← found₀]) rfl (fun _ => rfl) trivial
        fun creator src dst => ?_
      exact .srcTaken creator
  | @addDst s n req d c₀ ch₀ here found₀ free =>
      refine follows_of_call (e := .other) wired found found₀ here rfl rfl rfl
        (creates_of_other rfl) (creates_self rfl) (by simp [← found₀]) rfl ?_ trivial
        fun creator src dst => ?_
      · intro ne
        exact link_setMap_other _ _ _ _ fun _ => entry_of_insert free ne
      · obtain rfl := dst d rfl
        rw [link_setMap (p := True)]
        · exact .addDst creator
        · simp
  | @dstTaken s n req d c₀ ch₀ here found₀ taken =>
      refine follows_of_call (e := .dstTaken) wired found found₀ here rfl rfl rfl
        (creates_of_other rfl) (creates_self rfl) (by simp [← found₀]) rfl (fun _ => rfl)
        ⟨s, n, req, d, ch₀, rfl, here, found₀, taken⟩ fun creator src dst => ?_
      exact .dstTaken creator
  | @undoRemove s n req d c₀ ch₀ here found₀ =>
      refine follows_of_call (e := .other) wired found found₀ here rfl rfl rfl
        (creates_of_other rfl) (creates_self rfl) (by simp [← found₀]) rfl ?_ trivial
        fun creator src dst => ?_
      · intro ne
        refine link_setMap_other _ _ _ _ fun _ => entry_of_remove ?_
        intro entry
        exact ne ((wired.callers s).slot _ _ c₀ ch₀ here rfl found₀ c entry)
      · obtain rfl := src
        rw [link_setMap (p := False)]
        · exact .undoRemove creator
        · simp [CChannelMap.remove]
  | @undoNotify s n req d c₀ ch₀ here found₀ =>
      refine follows_of_call (e := .other) wired found found₀ here rfl rfl rfl
        (creates_of_other rfl) (creates_self rfl) (by simp [← found₀]) rfl ?_ trivial
        fun creator src dst => ?_
      · intro ne
        exact link_say_other _ _ _ _ (about_other ne)
      · obtain rfl := src
        rw [link_say]
        · exact .undoNotify creator
        · rfl
  | @fail s n req d c₀ ch₀ here found₀ =>
      refine follows_of_call (e := .other) wired found found₀ here rfl rfl rfl (fun _ => rfl) rfl
        rfl (by simp) (fun _ => rfl) trivial fun creator src dst => ?_
      rw [link_setChannel, v.link_ch c₀ ch₀ ch₀.beginStop.drop (by simp) (by simp)]
      exact .fail creator
  | @lockDst s n req c₀ ch₀ d here found₀ locks =>
      refine follows_of_call (e := .other) wired found found₀ here rfl rfl rfl
        (creates_of_other rfl) (creates_self rfl) (by simp [← found₀]) rfl (fun _ => rfl) trivial
        fun creator src dst => ?_
      exact .lockDst creator
  | @dstGone s n req c₀ ch₀ here found₀ gone =>
      refine follows_of_call (e := .other) wired found found₀ here rfl rfl rfl (fun _ => rfl) rfl
        rfl rfl (fun _ => rfl) trivial fun creator src dst => ?_
      rw [link_setChannel, v.link_ch c₀ ch₀ _ rfl rfl]
      exact .dstGone creator
  | @checkDst s n req d c₀ ch₀ here found₀ running =>
      refine follows_of_call (e := .other) wired found found₀ here rfl rfl rfl
        (creates_of_other rfl) (creates_self rfl) (by simp [← found₀]) rfl (fun _ => rfl) trivial
        fun creator src dst => ?_
      exact .checkDst creator
  | @dstStopped s n req d c₀ ch₀ here found₀ stopped =>
      refine follows_of_call (e := .other) wired found found₀ here rfl rfl rfl (fun _ => rfl) rfl
        rfl rfl (fun _ => rfl) trivial fun creator src dst => ?_
      rw [link_setChannel, v.link_ch c₀ ch₀ _ rfl rfl]
      exact .dstStopped creator
  | @startChannel s n req d c₀ ch₀ here found₀ =>
      refine follows_of_call (e := .start) wired found found₀ here rfl rfl rfl
        (creates_of_other rfl) (creates_self rfl) rfl (by simp) (fun _ => rfl)
        ⟨s, n, req, d, rfl, here⟩ fun creator src dst => ?_
      rw [link_setChannel, v.link_ch c₀ ch₀ (ch₀.start cfg) (by simp) (by simp)]
      exact .startChannel creator
  | @access s n req d c₀ ch₀ ss here found₀ =>
      refine follows_of_call (e := .other) wired found found₀ here rfl rfl rfl
        (creates_of_other rfl) (creates_self rfl) (by simp [← found₀]) rfl ?_ trivial
        fun creator src dst => ?_
      · intro ne
        exact link_say_other _ _ _ _ (about_other ne)
      · obtain rfl := dst d rfl
        rw [link_say]
        · exact .access creator
        · rfl
  | @respOk s n req d c₀ ch₀ here found₀ =>
      refine follows_of_call (e := .other) wired found found₀ here rfl rfl rfl (fun _ => rfl) rfl
        rfl rfl ?_ trivial fun creator src dst => ?_
      · intro ne
        rw [link_setChannel]
        exact link_say_other _ _ _ _ (about_other ne)
      · obtain rfl := src
        rw [link_setChannel, Channels.link_ch _ c₀ ch₀ ch₀.drop rfl rfl, link_say]
        · exact .respOk creator
        · rfl
  | @strandStop c₀ ch₀ found₀ idle posted =>
      refine follows_of_own (e := .other) found found₀ rfl (fun _ => rfl) ?_ trivial
      let popped : CChannel S := { ch₀ with posted := ch₀.posted - 1 }
      rw [link_setChannel, v.link_ch c₀ ch₀ popped.beginStop popped.ss_beginStop
        popped.id_beginStop]
      exact .strandStop idle posted
  | @socketStop c₀ ch₀ found₀ idle closed =>
      refine follows_of_own (e := .other) found found₀ rfl (fun _ => rfl) ?_ trivial
      rw [link_setChannel, v.link_ch c₀ ch₀ ch₀.beginStop (by simp) (by simp)]
      exact .socketStop idle
  | @exit c₀ ch₀ coro found₀ idle stopped =>
      refine follows_of_own (e := .other) found found₀ rfl (fun _ => rfl) ?_ trivial
      rw [link_setChannel, v.link_ch c₀ ch₀ (ch₀.exit coro) (by simp) (by simp)]
      exact .exit stopped
  | @checkerDone c₀ ch₀ side expired found₀ idle closed =>
      refine follows_of_own (e := .other) found found₀ rfl (fun _ => rfl) ?_ trivial
      rw [link_setChannel, v.link_ch c₀ ch₀ _ rfl rfl]
      exact .checkerDone
  | @expires c₀ ch₀ side found₀ idle =>
      refine follows_of_own (e := .expires side) found found₀ rfl (fun _ => rfl) ?_ rfl
      rw [link_setChannel, v.link_ch c₀ ch₀ _ rfl rfl]
      exact .expires idle
  | @close c₀ ch₀ side ss found₀ here locks =>
      have owner := (wired.own _ _ found₀).owner side ss locks.1
      by_cases robs : v.map ss side ch₀.id = some c ∧ c ≠ c₀
      · obtain ⟨entry, ne⟩ := robs
        obtain ⟨_, again, id, own⟩ := wired.mapped ss side ch₀.id c entry
        obtain rfl := Option.some.inj (found.symm.trans again)
        refine ⟨ch, by simpa [ne] using found, .inr ⟨.robbed, ?_, ?_⟩⟩
        · obtain rfl := own
          rw [link_setChannel, link_setMap (p := False)]
          · exact .robbed
          · simp [CChannelMap.remove, id]
        · exact ⟨c₀, ch₀, side, ss, rfl, found₀, here, locks, entry, ne⟩
      · refine follows_of_own (e := .other) found found₀ rfl ?_ ?_ trivial
        · intro ne
          rw [link_setChannel]
          refine link_setMap_other _ _ _ _ fun _ => entry_of_remove ?_
          exact fun entry => robs ⟨entry, ne⟩
        · subst owner
          rw [link_setChannel, Channels.link_ch _ c₀ ch₀
            { ch₀ with pc := .notify side (ch₀.ss side) } rfl rfl, link_setMap (p := False)]
          · exact .close here locks.1
          · simp [CChannelMap.remove]
  | @gone c₀ ch₀ side found₀ here gone =>
      refine follows_of_own (e := .other) found found₀ rfl (fun _ => rfl) ?_ trivial
      rw [link_setChannel, v.link_ch c₀ ch₀ _ rfl rfl]
      refine .gone here fun owner => ?_
      by_contra alive
      exact gone _ ⟨owner, alive⟩
  | @notify c₀ ch₀ side ss found₀ here =>
      obtain rfl := (wired.own _ _ found₀).notify side ss here
      refine follows_of_own (e := .notify side) found found₀ rfl ?_ ?_ ⟨ch₀, _, rfl, found₀, here⟩
      · intro ne
        rw [link_setChannel]
        exact link_say_other _ _ _ _ (about_other ne)
      · rw [link_setChannel, Channels.link_ch _ c₀ ch₀ { ch₀ with pc := afterClose side } rfl rfl,
          link_say]
        · exact .notify here
        · rfl
  | @finish c₀ ch₀ found₀ here =>
      refine follows_of_own (e := .other) found found₀ rfl (fun _ => rfl) ?_ trivial
      rw [link_setChannel, v.link_ch c₀ ch₀ _ rfl rfl]
      exact .finish here

/-- A channel begins its life as `onReqProxy` makes it. -/
theorem Step.born (step : Step cfg v a v') (wired : v.Wired) (fresh : v.channel c = none)
    (found : v'.channel c = some ch) : (v'.link c ch).Born c := by
  obtain ⟨old, before⟩ | ⟨s, n, req, d, id, rfl, here, rfl, rfl⟩ := step.old_or_new found
  · cases fresh.symm.trans before
  have src : (CChannel.new id (endpoints s d)).ss .src = s := rfl
  refine ⟨⟨id, rfl⟩, ⟨d, ?_⟩, ?_, ?_, ?_, ?_⟩
  · rw [link_setTask, if_pos src]
    simp [ChanTask.creates, ProxyPc.channel]
  · rw [link_setTask]
    exact Function.update_self ..
  · intro r pc stop
    have task := ChanTask.stopping_eq_some.mp stop
    by_cases eq : r = s
    · subst eq
      simp at task
    · rw [task_setTask, Function.update_of_ne eq] at task
      exact (wired.stops r pc task).2
  · intro side entry
    obtain ⟨_, exists_, _⟩ := wired.mapped _ side id c entry
    cases fresh.symm.trans exists_
  · intro side
    refine List.filter_eq_nil_iff.mpr ?_
    intro msg mem about
    obtain ⟨_, exists_, _⟩ := (wired.called _ msg mem).about c side (by simpa using about)
    cases fresh.symm.trans exists_

/-- The channels of the server live as links do, also under conditions on the
steps. -/
theorem link_reachable {D : Channels S C → Action S C → Prop}
    {E : C → Link S C → Link.Event → Prop}
    (cond : ∀ v a c ch e, v.Wired → v.channel c = some ch → D v a → v.Causes a c e →
      E c (v.link c ch) e)
    (reached : ((system cfg).restrict D).Reachable v) (found : v.channel c = some ch) :
    ((Link.system cfg c).restrict (E c)).Reachable (v.link c ch) := by
  induction reached generalizing ch with
  | start first =>
      obtain rfl : _ = Channels.new := first
      cases found
  | @next v v' a before step ih =>
      have wired := wired_of_reachable before.of_restrict
      by_cases old : ∃ ch, v.channel c = some ch
      · obtain ⟨ch₀, found₀⟩ := old
        obtain ⟨ch', found', link⟩ := step.2.follows wired found₀
        obtain rfl := Option.some.inj (found'.symm.trans found)
        obtain same | ⟨e, moved, causes⟩ := link
        · rw [same]
          exact ih found₀
        · exact (ih found₀).next ⟨cond v a c ch₀ e wired found₀ step.1 causes, moved⟩
      · have fresh : v.channel c = none := by
          simpa [Option.eq_none_iff_forall_ne_some] using old
        exact .start (step.2.born wired fresh found)

end Refinement

end Channels

namespace Server

variable [DecidableEq S] [DecidableEq C] {st : Server S C} {cfg : Config} {c : C}
variable {ch : CChannel S}

theorem wired_of_reachable (reached : (system cfg).Reachable st) : st.channels.Wired :=
  Channels.wired_of_reachable ((channels_mapping cfg).reachable reached)

/-- A channel of the server, in a run whose steps meet a condition. -/
theorem link_reachable {D : Channels S C → Action S C → Prop}
    {E : C → Link S C → Link.Event → Prop}
    (cond : ∀ v a c ch e, v.Wired → v.channel c = some ch → D v a → v.Causes a c e →
      E c (v.link c ch) e)
    (reached : ((system cfg).restrict fun st a => D st.channels a).Reachable st)
    (found : st.channel c = some ch) :
    ((Link.system cfg c).restrict (E c)).Reachable (st.channels.link c ch) :=
  Channels.link_reachable cond ((channels_mapping cfg).reachable_restrict reached) found

end Server

end NatProxy
