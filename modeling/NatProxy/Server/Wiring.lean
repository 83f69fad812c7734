import NatProxy.Server.Channels

/-!
# What belongs to a channel

A channel is made by one call, for two sessions. The members that refer to a
channel or to a session of a channel agree on this in every run: the maps of the
sessions, the owners of the ends, and the call that creates the channel and may
still hold it.
-/

namespace NatProxy

variable {S C : Type}

namespace ProxyPc

/-- The channel that the call has created. -/
def channel : ProxyPc S C → Option C
  | .lookup | .create _ | .respErr | .thrown => none
  | .initEnd _ _ c | .addChannel _ _ c | .undoRemove _ c | .undoNotify _ c | .fail _ c
  | .lockDst c | .checkDst _ c | .start _ c | .access _ c | .respOk _ c => some c

/-- The destination session that the call has locked. -/
def dst : ProxyPc S C → Option S
  | .lookup | .respErr | .thrown | .lockDst _ => none
  | .create d | .initEnd _ d _ | .addChannel _ d _ | .undoRemove d _ | .undoNotify d _ | .fail d _
  | .checkDst d _ | .start d _ | .access d _ | .respOk d _ => some d

/-- The call has entered the channel into the map of the source session, and may
remove it again. -/
def HoldsSlot (c : C) : ProxyPc S C → Prop
  | .addChannel .dst _ c' => c' = c
  | .undoRemove _ c' => c' = c
  | _ => False

theorem HoldsSlot.channel {pc : ProxyPc S C} {c : C} (slot : pc.HoldsSlot c) :
    pc.channel = some c := by
  cases pc with
  | addChannel side d c' =>
      cases side with
      | src => exact slot.elim
      | dst => exact congrArg some slot
  | undoRemove d c' => exact congrArg some slot
  | _ => exact slot.elim

end ProxyPc

namespace CChannel

variable (ch : CChannel S) (side : Side) (e : CEnd S) (coro : Coro) (cfg : Config)

@[simp] theorem ss_setEnd : (ch.setEnd side e).ss = ch.ss := rfl
@[simp] theorem id_setEnd : (ch.setEnd side e).id = ch.id := rfl
@[simp] theorem pc_setEnd : (ch.setEnd side e).pc = ch.pc := rfl
@[simp] theorem ss_toStop : ch.toStop.ss = ch.ss := rfl
@[simp] theorem id_toStop : ch.toStop.id = ch.id := rfl
@[simp] theorem pc_toStop : ch.toStop.pc = ch.pc := rfl
@[simp] theorem ends_toStop : ch.toStop.ends = ch.ends := rfl
@[simp] theorem ss_drop : ch.drop.ss = ch.ss := rfl
@[simp] theorem id_drop : ch.drop.id = ch.id := rfl
@[simp] theorem pc_drop : ch.drop.pc = ch.pc := rfl
@[simp] theorem ends_drop : ch.drop.ends = ch.ends := rfl

@[simp] theorem ss_start : (ch.start cfg).ss = ch.ss := by
  rw [start]
  split <;> rfl

@[simp] theorem id_start : (ch.start cfg).id = ch.id := by
  rw [start]
  split <;> rfl

@[simp] theorem posted_start : (ch.start cfg).posted = ch.posted := by
  rw [start]
  split <;> rfl

@[simp] theorem stopped_start : (ch.start cfg).stopped = ch.stopped := by
  rw [start]
  split <;> rfl

@[simp] theorem pc_start : (ch.start cfg).pc = ch.pc := by
  rw [start]
  split <;> rfl

@[simp] theorem ends_start : (ch.start cfg).ends = ch.ends := by
  rw [start]
  split <;> rfl

@[simp] theorem ss_beginStop : ch.beginStop.ss = ch.ss := by
  rw [beginStop]
  split <;> rfl

@[simp] theorem id_beginStop : ch.beginStop.id = ch.id := by
  rw [beginStop]
  split <;> rfl

@[simp] theorem ends_beginStop : ch.beginStop.ends = ch.ends := by
  rw [beginStop]
  split <;> rfl

theorem pc_beginStop : ch.beginStop.pc = ch.pc ∨ ch.beginStop.pc = .close .src := by
  rw [beginStop]
  split
  · exact .inr rfl
  · exact .inl rfl

@[simp] theorem ss_exit : (ch.exit coro).ss = ch.ss := by cases coro <;> rfl
@[simp] theorem id_exit : (ch.exit coro).id = ch.id := by cases coro <;> rfl
@[simp] theorem pc_exit : (ch.exit coro).pc = ch.pc := by cases coro <;> rfl
@[simp] theorem ends_exit : (ch.exit coro).ends = ch.ends := by cases coro <;> rfl

/-- Owners, and the session that is being notified, are those of the channel. -/
structure Own (ch : CChannel S) : Prop where
  owner : ∀ side x, (ch.ends side).ownerSs = some x → x = ch.ss side
  notify : ∀ side x, ch.pc = .notify side x → x = ch.ss side

end CChannel

namespace CEnd

variable {e e' : CEnd S} {cfg : Config} {ss : S} {id : UInt32} {r : InitResult} {ok : Bool}

/-- `init` leaves the owner alone or makes it the given session. -/
theorem owner_of_init (result : e.init cfg ss id r = (ok, e')) {x : S}
    (owner : e'.ownerSs = some x) : e.ownerSs = some x ∨ x = ss := by
  cases r with
  | noLocalEndpoint | noBind =>
      obtain ⟨-, rfl⟩ := Prod.mk.inj result
      exact .inl owner
  | noRemoteEndpoint | ok =>
      obtain ⟨-, rfl⟩ := Prod.mk.inj result
      exact .inr (Option.some.inj owner).symm

end CEnd

namespace CChannel.Own

variable {ch : CChannel S}

theorem of_ends {ch' : CChannel S} (own : ch.Own) (ss : ch'.ss = ch.ss) (ends : ch'.ends = ch.ends)
    (notify : ∀ side x, ch'.pc = .notify side x → x = ch.ss side) : ch'.Own where
  owner side x := by
    rw [ends, ss]
    exact own.owner side x
  notify side x := by
    rw [ss]
    exact notify side x

theorem setEnd (own : ch.Own) {side : Side} {e : CEnd S}
    (owner : ∀ x, e.ownerSs = some x → x = ch.ss side) : (ch.setEnd side e).Own where
  owner other x := by
    by_cases eq : other = side
    · subst eq
      simpa [CChannel.setEnd] using owner x
    · simpa [CChannel.setEnd, eq] using own.owner other x
  notify := own.notify

theorem beginStop (own : ch.Own) : ch.beginStop.Own := by
  refine own.of_ends ch.ss_beginStop ch.ends_beginStop fun side x here => ?_
  obtain same | closing := ch.pc_beginStop
  · exact own.notify side x (same ▸ here)
  · rw [closing] at here
    cases here

end CChannel.Own

namespace Channels

variable {v v' : Channels S C} {cfg : Config} {a : Action S C} {c : C} {ch : CChannel S}

/-- The call of a session refers to a channel of that session. -/
structure CallerOf (v : Channels S C) (s : S) (task : ChanTask S C) : Prop where
  used : ∀ req pc, task = .proxy req pc → v.used s ∧ ∀ d, pc.dst = some d → v.used d
  maker : ∀ req pc c, task = .proxy req pc → pc.channel = some c →
    ∃ ch, v.channel c = some ch ∧ ch.ss .src = s ∧ ∀ d, pc.dst = some d → d = ch.ss .dst
  /-- While the call may remove its entry again, nobody has replaced it. -/
  slot : ∀ req pc c ch, task = .proxy req pc → pc.HoldsSlot c → v.channel c = some ch →
    ∀ c', v.map s .src ch.id = some c' → c' = c

/-- A response that was queued to `s` is about an end of a channel that `s` is the
session of, and a STOPPROXY names a channel. -/
structure Fits (v : Channels S C) (s : S) (msg : Queued C) : Prop where
  about : ∀ c side, msg.about = some (c, side) → ∃ ch, v.channel c = some ch ∧ ch.ss side = s
  stops : ∀ resp, msg.pkt = .stopProxy resp → ∃ c side ch, msg.about = some (c, side) ∧
    v.channel c = some ch ∧ resp.uiUdpId = ch.id

/-- What the members that refer to a channel agree on. -/
structure Wired (v : Channels S C) : Prop where
  used : ∀ c ch side, v.channel c = some ch → v.used (ch.ss side)
  own : ∀ c ch, v.channel c = some ch → ch.Own
  mapped : ∀ s side id c, v.map s side id = some c →
    ∃ ch, v.channel c = some ch ∧ ch.id = id ∧ ch.ss side = s
  callers : ∀ s, v.CallerOf s (v.task s)
  called : ∀ s, ∀ msg ∈ v.called s, v.Fits s msg
  stops : ∀ s pc, v.task s = .stop pc → v.used s ∧ v.started s = false

variable [DecidableEq S] [DecidableEq C]

/-- A channel stays, under its id, the channel of its two sessions. -/
theorem Step.keeps (step : Step cfg v a v') (found : v.channel c = some ch) :
    ∃ ch', v'.channel c = some ch' ∧ ch'.ss = ch.ss ∧ ch'.id = ch.id := by
  have update : ∀ {c₀ : C} {ch₀ ch₁ : CChannel S}, v.channel c₀ = some ch₀ → ch₁.ss = ch₀.ss →
      ch₁.id = ch₀.id → ∃ ch', Function.update v.channel c₀ (some ch₁) c = some ch' ∧
        ch'.ss = ch.ss ∧ ch'.id = ch.id := by
    intro c₀ ch₀ ch₁ found₀ ss id
    by_cases eq : c = c₀
    · subst eq
      obtain rfl := Option.some.inj (found.symm.trans found₀)
      exact ⟨ch₁, Function.update_self .., ss, id⟩
    · exact ⟨ch, by rwa [Function.update_of_ne eq], rfl, rfl⟩
  cases step with
  | @stopAll s n side here =>
      refine ⟨if v.map s side ch.id = some c ∧ ch.held then ch.toStop else ch, ?_, ?_, ?_⟩
      · simp [channel_stopAll, found]
      · split <;> rfl
      · split <;> rfl
  | @create s n req d c₀ id here fresh =>
      have ne : c ≠ c₀ := by
        rintro rfl
        cases found.symm.trans fresh
      exact ⟨ch, by simpa [ne] using found, rfl, rfl⟩
  | initEnd _ found₀ | initFails _ found₀ | dstGone _ found₀ | dstStopped _ found₀
  | respOk _ found₀ | checkerDone found₀ | expires found₀ | close found₀ | gone found₀
  | notify found₀ | finish found₀ => exact update found₀ rfl rfl
  | fail _ found₀ | startChannel _ found₀ | strandStop found₀ | socketStop found₀
  | exit found₀ => exact update found₀ (by simp) (by simp)
  | _ => exact ⟨ch, found, rfl, rfl⟩

/-- A channel is one that existed, or the one that the step creates. -/
theorem Step.old_or_new (step : Step cfg v a v') (found : v'.channel c = some ch) :
    (∃ old, v.channel c = some old) ∨
      ∃ s n req d id, a = .run s n ∧ v.task s = .proxy req (.create d) ∧
        ch = .new id (endpoints s d) ∧
        v' = (v.setChannel c ch).setTask s (.proxy req (.initEnd .src d c)) := by
  by_cases old : ∃ old, v.channel c = some old
  · exact .inl old
  · right
    have none : v.channel c = none := by simpa [Option.eq_none_iff_forall_ne_some] using old
    have update : ∀ {c₀ : C} {ch₀ ch₁ : CChannel S}, v.channel c₀ = some ch₀ →
        ¬ Function.update v.channel c₀ (some ch₁) c = some ch := by
      intro c₀ ch₀ ch₁ found₀ updated
      by_cases eq : c = c₀
      · subst eq
        cases none.symm.trans found₀
      · rw [Function.update_of_ne eq] at updated
        cases none.symm.trans updated
    cases step with
    | @create s n req d c₀ id here fresh =>
        by_cases eq : c = c₀
        · subst eq
          rw [channel_setTask, channel_setChannel, Function.update_self] at found
          obtain rfl := Option.some.inj found
          exact ⟨s, n, req, d, id, rfl, here, rfl, rfl⟩
        · rw [channel_setTask, channel_setChannel, Function.update_of_ne eq] at found
          cases none.symm.trans found
    | stopAll => simp [channel_stopAll, none] at found
    | initEnd _ found₀ | initFails _ found₀ | dstGone _ found₀ | dstStopped _ found₀
    | respOk _ found₀ | checkerDone found₀ | expires found₀ | close found₀ | gone found₀
    | notify found₀ | finish found₀ | fail _ found₀ | startChannel _ found₀ | strandStop found₀
    | socketStop found₀ | exit found₀ => exact absurd found (update found₀)
    | _ => cases none.symm.trans found

omit [DecidableEq C] in
theorem map_of_remove {s r : S} {side other : Side} {id id' : UInt32}
    (entry : (v.setMap s side ((v.map s side).remove id)).map r other id' = some c) :
    v.map r other id' = some c := by
  rw [map_setMap] at entry
  split at entry
  · next here =>
    obtain ⟨rfl, rfl⟩ := here
    by_cases eq : id' = id
    · simp [CChannelMap.remove, eq] at entry
    · simpa [CChannelMap.remove, eq] using entry
  · exact entry

omit [DecidableEq C] in
theorem map_of_insert {s r : S} {side other : Side} {id id' : UInt32} {c' : C}
    (entry : (v.setMap s side (Function.update (v.map s side) id (some c'))).map r other id' =
      some c) :
    v.map r other id' = some c ∨ (r = s ∧ other = side ∧ id' = id ∧ c' = c) := by
  rw [map_setMap] at entry
  split at entry
  · next here =>
    obtain ⟨rfl, rfl⟩ := here
    by_cases eq : id' = id
    · subst eq
      rw [Function.update_self] at entry
      exact .inr ⟨rfl, rfl, rfl, Option.some.inj entry⟩
    · rw [Function.update_of_ne eq] at entry
      exact .inl entry
  · exact .inl entry

/-- An entry of a map is one that was there, or the one that the step adds. -/
theorem Step.map_old (step : Step cfg v a v') {r : S} {side : Side} {id : UInt32}
    (entry : v'.map r side id = some c) :
    v.map r side id = some c ∨ ∃ s n req d ch, a = .run s n ∧
      v.task s = .proxy req (.addChannel side d c) ∧ v.channel c = some ch ∧ ch.id = id ∧
      r = endpoints s d side := by
  cases step with
  | stopAll here =>
      rw [map_setTask, map_stopAll] at entry
      split at entry
      · cases entry
      · exact .inl entry
  | addSrc here found free =>
      obtain old | ⟨rfl, rfl, rfl, rfl⟩ := map_of_insert entry
      · exact .inl old
      · exact .inr ⟨_, _, _, _, _, rfl, here, found, rfl, rfl⟩
  | addDst here found free =>
      obtain old | ⟨rfl, rfl, rfl, rfl⟩ := map_of_insert entry
      · exact .inl old
      · exact .inr ⟨_, _, _, _, _, rfl, here, found, rfl, rfl⟩
  | undoRemove => exact .inl (map_of_remove entry)
  | close => exact .inl (map_of_remove entry)
  | _ => exact .inl entry

theorem Step.used (step : Step cfg v a v') {s : S} (used : v.used s) : v'.used s := by
  have update : ∀ r, Function.update v.used r True s := by
    intro r
    by_cases eq : s = r
    · subst eq
      rw [Function.update_self]
      trivial
    · rwa [Function.update_of_ne eq]
  cases step with
  | start => exact update _
  | destroy => exact update _
  | _ => exact used

namespace CallerOf

variable {s : S} {task : ChanTask S C} {req : CReqProxyPkt} {pc pc' : ProxyPc S C}

omit [DecidableEq S] [DecidableEq C] in
theorem of_other (other : ∀ req pc, task ≠ .proxy req pc) : v.CallerOf s task where
  used req pc here := absurd here (other req pc)
  maker req pc _ here := absurd here (other req pc)
  slot req pc _ _ here := absurd here (other req pc)

/-- The call of a session stays right whatever is done to the channels. -/
theorem keep (h : v.CallerOf s (v.task s)) (step : Step cfg v a v') :
    v'.CallerOf s (v.task s) where
  used req pc here := by
    obtain ⟨used, dst⟩ := h.used req pc here
    exact ⟨step.used used, fun d eq => step.used (dst d eq)⟩
  maker req pc c here channel := by
    obtain ⟨ch, found, src, dst⟩ := h.maker req pc c here channel
    obtain ⟨ch', found', ss, _⟩ := step.keeps found
    exact ⟨ch', found', by rw [ss, src], fun d eq => by rw [ss, dst d eq]⟩
  slot req pc c ch' here slot found' c' entry := by
    obtain ⟨ch, found, _, _⟩ := h.maker req pc c here slot.channel
    obtain ⟨ch'', found'', _, id⟩ := step.keeps found
    obtain rfl := Option.some.inj (found''.symm.trans found')
    rw [id] at entry
    obtain old | ⟨r, _, _, d, _, _, adding, _, _, rfl⟩ := step.map_old entry
    · exact h.slot req pc c ch here slot found c' old
    · -- The session itself would be adding another entry.
      have same : ChanTask.proxy _ _ = ChanTask.proxy req pc := adding.symm.trans here
      cases same
      exact slot.elim

omit [DecidableEq S] [DecidableEq C] in
/-- The call goes on with the same channel and destination, or without them. -/
theorem next (h : v.CallerOf s (.proxy req pc))
    (channel : pc'.channel = pc.channel ∨ pc'.channel = none)
    (dst : pc'.dst = pc.dst ∨ pc'.dst = none) (slot : ∀ c, pc'.HoldsSlot c → pc.HoldsSlot c) :
    v.CallerOf s (.proxy req pc') := by
  have dst : ∀ d, pc'.dst = some d → pc.dst = some d := by
    intro d eq
    obtain same | none := dst
    · rwa [same] at eq
    · cases none.symm.trans eq
  refine ⟨?_, ?_, ?_⟩
  · rintro _ _ ⟨⟩
    exact ⟨(h.used req pc rfl).1, fun d eq => (h.used req pc rfl).2 d (dst d eq)⟩
  · rintro _ _ c ⟨⟩ eq
    obtain same | none := channel
    · obtain ⟨ch, found, src, right⟩ := h.maker req pc c rfl (same ▸ eq)
      exact ⟨ch, found, src, fun d eq => right d (dst d eq)⟩
    · cases none.symm.trans eq
  · rintro _ _ c ch ⟨⟩ holds
    exact h.slot req pc c ch rfl (slot c holds)

end CallerOf

omit [DecidableEq C] in
/-- A predicate of all calls, of which one goes on. -/
theorem forall_task {P : S → ChanTask S C → Prop} {s : S} {t : ChanTask S C}
    (all : ∀ r, P r (v.task r)) (one : P s t) (r : S) : P r (Function.update v.task s t r) :=
  (Function.forall_update_iff _ P).mpr ⟨one, fun r _ => all r⟩ r

theorem Step.callers (step : Step cfg v a v') (h : v.Wired) (s : S) :
    v'.CallerOf s (v'.task s) := by
  have keep : ∀ r, v'.CallerOf r (v.task r) := fun r => (h.callers r).keep step
  have goesOn : ∀ {s : S} {req : CReqProxyPkt} {pc pc' : ProxyPc S C},
      v.task s = .proxy req pc → (pc'.channel = pc.channel ∨ pc'.channel = none) →
      (pc'.dst = pc.dst ∨ pc'.dst = none) → (∀ c, pc'.HoldsSlot c → pc.HoldsSlot c) →
      ∀ r, v'.CallerOf r (Function.update v.task s (.proxy req pc') r) := by
    intro s req pc pc' here channel dst slot
    refine forall_task keep ((here ▸ keep s).next channel dst slot)
  have ends : ∀ {s : S} {t : ChanTask S C}, (∀ req pc, t ≠ .proxy req pc) →
      ∀ r, v'.CallerOf r (Function.update v.task s t r) :=
    fun other => forall_task keep (.of_other other)
  revert s
  cases step with
  | beginStop =>
      apply ends
      intro req pc
      split <;> nofun
  | stopAll | respErr | dstGone | dstStopped | respOk => exact ends nofun
  | closing _ _ next =>
      apply ends
      rintro req pc rfl
      obtain other | ⟨pc, other, _⟩ := next <;> cases other
  | request other used =>
      refine forall_task keep ⟨?_, ?_, ?_⟩
      · rintro _ _ ⟨⟩
        exact ⟨used, nofun⟩
      · rintro _ _ _ ⟨⟩ channel
        cases channel
      · rintro _ _ _ _ ⟨⟩ holds
        exact holds.elim
  | lookup here used =>
      refine forall_task keep ⟨?_, ?_, ?_⟩
      · rintro _ _ ⟨⟩
        refine ⟨((h.callers _).used _ _ here).1, ?_⟩
        rintro _ ⟨⟩
        exact used
      · rintro _ _ _ ⟨⟩ channel
        cases channel
      · rintro _ _ _ _ ⟨⟩ holds
        exact holds.elim
  | create here fresh =>
      refine forall_task keep ⟨?_, ?_, ?_⟩
      · rintro _ _ ⟨⟩
        have used := (keep _).used _ _ here
        exact used
      · rintro _ _ c ⟨⟩ ⟨⟩
        refine ⟨_, Function.update_self .., rfl, ?_⟩
        rintro _ ⟨⟩
        rfl
      · rintro _ _ _ _ ⟨⟩ holds
        exact holds.elim
  | addSrc here found free =>
      refine forall_task keep ⟨?_, ?_, ?_⟩
      · rintro _ _ ⟨⟩
        have used := (keep _).used _ _ here
        exact used
      · rintro _ _ c ⟨⟩ ⟨⟩
        have maker := (keep _).maker _ _ _ here rfl
        exact maker
      · rintro _ _ c ch ⟨⟩ ⟨⟩ again c' entry
        obtain rfl := Option.some.inj (found.symm.trans again)
        rw [map_setTask, map_setMap, if_pos ⟨rfl, rfl⟩, Function.update_self] at entry
        exact (Option.some.inj entry).symm
  | lockDst here found locks =>
      refine forall_task keep ⟨?_, ?_, ?_⟩
      · rintro _ _ ⟨⟩
        refine ⟨((h.callers _).used _ _ here).1, ?_⟩
        rintro _ ⟨⟩
        rw [(h.own _ _ found).owner .dst _ locks.1]
        exact h.used _ _ _ found
      · rintro _ _ c ⟨⟩ ⟨⟩
        obtain ⟨ch, again, src, _⟩ := (h.callers _).maker _ _ _ here rfl
        obtain rfl := Option.some.inj (found.symm.trans again)
        refine ⟨_, found, src, ?_⟩
        rintro _ ⟨⟩
        exact (h.own _ _ found).owner .dst _ locks.1
      · rintro _ _ _ _ ⟨⟩ holds
        exact holds.elim
  | dstTaken here => exact goesOn here (.inl rfl) (.inl rfl) fun _ holds => holds
  | @initEnd _ _ _ side _ _ _ _ _ _ here =>
      cases side with
      | src => exact goesOn here (.inl rfl) (.inl rfl) nofun
      | dst => exact goesOn here (.inl rfl) (.inl rfl) nofun
  | initFails here => exact goesOn here (.inl rfl) (.inl rfl) nofun
  | notFound here | createThrows here | fail here | srcTaken here | undoRemove here
  | undoNotify here | checkDst here | startChannel here | access here =>
      exact goesOn here (by first | exact .inl rfl | exact .inr rfl)
        (by first | exact .inl rfl | exact .inr rfl) nofun
  | addDst here => exact goesOn here (.inl rfl) (.inr rfl) nofun
  | _ => exact keep

/-- The sessions of every channel have been started. -/
theorem Step.usedChannels (step : Step cfg v a v') (h : v.Wired) (side : Side)
    (found : v'.channel c = some ch) : v'.used (ch.ss side) := by
  obtain ⟨old, before⟩ | ⟨s, n, req, d, id, rfl, here, rfl, _⟩ := step.old_or_new found
  · obtain ⟨ch', after, ss, _⟩ := step.keeps before
    obtain rfl := Option.some.inj (after.symm.trans found)
    rw [ss]
    exact step.used (h.used c old side before)
  · obtain ⟨src, dst⟩ := (h.callers s).used _ _ here
    cases side with
    | src => exact step.used src
    | dst => exact step.used (dst d rfl)

theorem Step.own (step : Step cfg v a v') (h : v.Wired) (found : v'.channel c = some ch) :
    ch.Own := by
  have update : ∀ {c₀ : C} {ch₁ : CChannel S},
      Function.update v.channel c₀ (some ch₁) c = some ch → ch₁.Own → ch.Own := by
    intro c₀ ch₁ updated own
    obtain ⟨_, new⟩ | old := eq_of_update updated
    · exact Option.some.inj new ▸ own
    · exact h.own c ch old
  have initialised : ∀ {s : S} {req : CReqProxyPkt} {side : Side} {d : S} {c₀ : C} {id : UInt32}
      {ch₀ : CChannel S} {r : InitResult} {ok : Bool} {e : CEnd S},
      v.task s = .proxy req (.initEnd side d c₀) → v.channel c₀ = some ch₀ →
      (ch₀.ends side).init cfg (endpoints s d side) id r = (ok, e) → (ch₀.setEnd side e).Own := by
    intro s req side d c₀ id ch₀ r ok e here found₀ result
    obtain ⟨_, again, src, dst⟩ := (h.callers s).maker _ _ _ here rfl
    obtain rfl := Option.some.inj (found₀.symm.trans again)
    refine (h.own _ _ found₀).setEnd fun x owner => ?_
    obtain old | new := CEnd.owner_of_init result owner
    · exact (h.own _ _ found₀).owner side x old
    · rw [new]
      cases side with
      | src => exact src.symm
      | dst => exact dst d rfl
  have same : ∀ {c₀ : C} {ch₀ ch₁ : CChannel S}, v.channel c₀ = some ch₀ → ch₁.ss = ch₀.ss →
      ch₁.ends = ch₀.ends → ch₁.pc = ch₀.pc → ch₁.Own := by
    intro c₀ ch₀ ch₁ found₀ ss ends pc
    refine (h.own _ _ found₀).of_ends ss ends ?_
    rw [pc]
    exact (h.own _ _ found₀).notify
  cases step with
  | @stopAll s n side here =>
      rw [channel_setTask, channel_stopAll, Option.map_eq_some_iff] at found
      obtain ⟨old, before, rfl⟩ := found
      split
      · exact same before rfl rfl rfl
      · exact h.own c old before
  | create =>
      refine update found ⟨?_, ?_⟩
      · rintro (_ | _) _ ⟨⟩
      · rintro _ _ ⟨⟩
  | initEnd here found₀ result => exact update found (initialised here found₀ result)
  | initFails here found₀ result => exact update found (initialised here found₀ result)
  | fail _ found₀ =>
      have stopped := (h.own _ _ found₀).beginStop
      exact update found (stopped.of_ends rfl rfl stopped.notify)
  | dstGone _ found₀ | dstStopped _ found₀ | respOk _ found₀ =>
      exact update found (same found₀ rfl rfl rfl)
  | startChannel _ found₀ | exit found₀ =>
      exact update found (same found₀ (by simp) (by simp) (by simp))
  | strandStop found₀ => exact update found (CChannel.Own.beginStop (same found₀ rfl rfl rfl))
  | socketStop found₀ => exact update found (h.own _ _ found₀).beginStop
  | checkerDone found₀ =>
      refine update found ((h.own _ _ found₀).setEnd fun x owner => ?_)
      exact (h.own _ _ found₀).owner _ x owner
  | expires found₀ =>
      refine update found ((h.own _ _ found₀).setEnd fun x owner => ?_)
      cases owner
  | close found₀ here locks =>
      refine update found ((h.own _ _ found₀).of_ends rfl rfl ?_)
      rintro _ _ ⟨⟩
      exact (h.own _ _ found₀).owner _ _ locks.1
  | @gone _ _ side found₀ here | @notify _ _ side _ found₀ here =>
      refine update found ((h.own _ _ found₀).of_ends rfl rfl ?_)
      cases side <;> rintro _ _ ⟨⟩
  | finish found₀ =>
      refine update found ⟨?_, ?_⟩ <;> rintro _ _ ⟨⟩
  | _ => exact h.own c ch found

theorem Step.mapped (step : Step cfg v a v') (h : v.Wired) {s : S} {side : Side} {id : UInt32}
    (entry : v'.map s side id = some c) :
    ∃ ch, v'.channel c = some ch ∧ ch.id = id ∧ ch.ss side = s := by
  have kept : (∃ ch, v.channel c = some ch ∧ ch.id = id ∧ ch.ss side = s) →
      ∃ ch, v'.channel c = some ch ∧ ch.id = id ∧ ch.ss side = s := by
    rintro ⟨ch, found, rfl, rfl⟩
    obtain ⟨ch', found', ss, id⟩ := step.keeps found
    exact ⟨ch', found', id, by rw [ss]⟩
  apply kept
  obtain old | ⟨r, n, req, d, ch, rfl, here, found, id, rfl⟩ := step.map_old entry
  · exact h.mapped s side id c old
  · obtain ⟨_, again, src, dst⟩ := (h.callers r).maker _ _ _ here rfl
    obtain rfl := Option.some.inj (found.symm.trans again)
    refine ⟨_, found, id, ?_⟩
    cases side with
    | src => exact src
    | dst => exact (dst d rfl).symm

/-- Responses still fit after a step. -/
theorem Fits.keep {s : S} {msg : Queued C} (h : v.Fits s msg) (step : Step cfg v a v') :
    v'.Fits s msg where
  about c side eq := by
    obtain ⟨ch, found, ss⟩ := h.about c side eq
    obtain ⟨ch', found', same, _⟩ := step.keeps found
    exact ⟨ch', found', by rw [same, ss]⟩
  stops resp eq := by
    obtain ⟨c, side, ch, about, found, id⟩ := h.stops resp eq
    obtain ⟨ch', found', _, same⟩ := step.keeps found
    exact ⟨c, side, ch', about, found', by rw [same, id]⟩

omit [DecidableEq S] [DecidableEq C] in
theorem fits_of_plain {s : S} {msg : Queued C} (about : msg.about = none)
    (plain : msg.isStopProxy = false) : v.Fits s msg where
  about c side eq := by
    rw [about] at eq
    cases eq
  stops resp eq := by
    rw [Queued.isStopProxy, eq] at plain
    cases plain

omit [DecidableEq S] [DecidableEq C] in
theorem fits_stopProxyMsg {s : S} {side : Side} (found : v.channel c = some ch)
    (ss : ch.ss side = s) : v.Fits s (stopProxyMsg side c ch) where
  about := by
    rintro _ _ ⟨⟩
    exact ⟨ch, found, ss⟩
  stops := by
    rintro _ ⟨⟩
    exact ⟨c, side, ch, rfl, found, rfl⟩

theorem Step.called (step : Step cfg v a v') (h : v.Wired) {s : S} {msg : Queued C}
    (mem : msg ∈ v'.called s) : v'.Fits s msg := by
  have said : ∀ {r : S} {one : Queued C}, v.Fits r one →
      msg ∈ Function.update v.called r (v.called r ++ [one]) s → v.Fits s msg := by
    intro r one fits mem
    by_cases eq : s = r
    · subst eq
      rw [Function.update_self, List.mem_append, List.mem_singleton] at mem
      obtain old | rfl := mem
      · exact h.called s msg old
      · exact fits
    · rw [Function.update_of_ne eq] at mem
      exact h.called s msg mem
  have made : ∀ {r : S} {req : CReqProxyPkt} {pc : ProxyPc S C} {c : C} {ch : CChannel S},
      v.task r = .proxy req pc → pc.channel = some c → v.channel c = some ch →
      ch.ss .src = r ∧ ∀ d, pc.dst = some d → d = ch.ss .dst := by
    intro r req pc c ch here channel found
    obtain ⟨_, again, right⟩ := (h.callers r).maker req pc c here channel
    obtain rfl := Option.some.inj (found.symm.trans again)
    exact right
  refine Fits.keep ?_ step
  cases step with
  | answer other about plain => exact said (fits_of_plain about plain) mem
  | directory | respErr => exact said (fits_of_plain rfl rfl) mem
  | undoNotify here found => exact said (fits_stopProxyMsg found (made here rfl found).1) mem
  | notify found here =>
      exact said (fits_stopProxyMsg found ((h.own _ _ found).notify _ _ here).symm) mem
  | access here found =>
      refine said ⟨?_, fun _ stop => by cases stop⟩ mem
      rintro _ _ ⟨⟩
      exact ⟨_, found, ((made here rfl found).2 _ rfl).symm⟩
  | respOk here found =>
      refine said ⟨?_, fun _ stop => by cases stop⟩ mem
      rintro _ _ ⟨⟩
      exact ⟨_, found, (made here rfl found).1⟩
  | _ => exact h.called s msg mem

/-- A session that is being stopped has cleared `_started`. -/
theorem Step.stops (step : Step cfg v a v') (h : v.Wired) {s : S} {pc : StopPc}
    (stop : v'.task s = .stop pc) : v'.used s ∧ v'.started s = false := by
  have keep : v.task s = .stop pc → v'.started s = v.started s →
      v'.used s ∧ v'.started s = false := by
    intro before started
    obtain ⟨used, stopped⟩ := h.stops s pc before
    exact ⟨step.used used, by rw [started, stopped]⟩
  have set : ∀ {r : S} {t : ChanTask S C}, Function.update v.task r t s = .stop pc →
      (s = r ∧ t = .stop pc) ∨ v.task s = .stop pc := eq_of_update
  cases step with
  | @start r unused =>
      obtain ⟨used, stopped⟩ := h.stops s pc stop
      have ne : s ≠ r := by
        rintro rfl
        exact unused used
      exact ⟨by simpa [ne] using used, by simpa [ne] using stopped⟩
  | @beginStop _ r other used =>
      obtain ⟨rfl, _⟩ | before := set stop
      · exact ⟨used, Function.update_self ..⟩
      · obtain ⟨used, stopped⟩ := h.stops s pc before
        refine ⟨used, ?_⟩
        by_cases same : s = r
        · subst same
          exact Function.update_self ..
        · simpa [same] using stopped
  | stopAll here =>
      obtain ⟨rfl, _⟩ | before := set stop
      · exact h.stops s _ here
      · exact h.stops s pc before
  | closing here =>
      obtain ⟨rfl, _⟩ | before := set stop
      · exact h.stops s _ here
      · exact h.stops s pc before
  | request | lookup | notFound | create | createThrows | initEnd | initFails | addSrc | srcTaken
  | addDst | dstTaken | undoRemove | undoNotify | fail | respErr | lockDst | dstGone | checkDst
  | dstStopped | startChannel | access | respOk =>
      obtain ⟨rfl, eq⟩ | before := set stop
      · cases eq
      · exact keep before rfl
  | _ => exact keep stop rfl

theorem Step.wired (step : Step cfg v a v') (h : v.Wired) : v'.Wired where
  used _ _ side found := step.usedChannels h side found
  own _ _ found := step.own h found
  mapped _ _ _ _ entry := step.mapped h entry
  callers := step.callers h
  called _ _ mem := step.called h mem
  stops _ _ stop := step.stops h stop

theorem wired_of_reachable (reached : (system cfg).Reachable v) : v.Wired := by
  refine reached.invariant (I := Wired) ?_ ?_
  · rintro _ rfl
    exact ⟨nofun, nofun, nofun, fun s => .of_other nofun, nofun, nofun⟩
  · intro v a v' _ h step
    exact step.wired h

end Channels

end NatProxy
