import NatProxy.Server.Wiring

/-!
# A call of `onReqProxy`

`effects` is what a step of the call does to what other threads see: the channel
object, the channel maps and the queued responses. `call` follows one request of a
session from `lookup` until `onReadBody` returns, with the account of these effects,
while the other threads take their steps in any order. Whatever they do, the account
is at each point one of the few lists of `Progress`.
-/

namespace NatProxy

open Transition

variable {S C : Type}

/-- What a call does. -/
inductive Effect (S C : Type)
  | create (c : C)
  | enter (s : S) (side : Side) (id : UInt32) (c : C)
  | remove (s : S) (side : Side) (id : UInt32)
  | start (c : C)
  /-- `doWrite` of the session. -/
  | queue (s : S) (msg : Queued C)

namespace Effect

variable [DecidableEq S]

/-- The maps after an effect. -/
def onMap (m : S → Side → CChannelMap C) : Effect S C → S → Side → CChannelMap C
  | .enter s side id c =>
      Function.update m s (Function.update (m s) side (Function.update (m s side) id (some c)))
  | .remove s side id => Function.update m s (Function.update (m s) side ((m s side).remove id))
  | _ => m

/-- The queued responses after an effect. -/
def onCalled (called : S → List (Queued C)) : Effect S C → S → List (Queued C)
  | .queue s msg => Function.update called s (called s ++ [msg])
  | _ => called

end Effect

/-! ## How far a call has come -/

/-- The response is an ACCESS. -/
def Queued.isAccess (msg : Queued C) : Bool :=
  match msg.pkt with
  | .access _ => true
  | _ => false

/-- The error code of a response to a PROXY request. -/
def Queued.proxyErr? (msg : Queued C) : Option UInt8 :=
  match msg.pkt with
  | .proxy resp => some resp.ucErr
  | _ => none

section Account

variable (s d : S) (id : UInt32) (c : C)

/-- The channel was created, and its entry at the source undone. -/
inductive Undone : List (Effect S C) → Prop
  | created : Undone [.create c]
  | removed {msg : Queued C} (stop : msg.isStopProxy = true) :
      Undone [.create c, .enter s .src id c, .remove s .src id, .queue s msg]

/-- The channel was created and entered into both maps. -/
def entering : List (Effect S C) := [.create c, .enter s .src id c, .enter d .dst id c]

/-- The account of a call that has created the channel `c` for `s` and `d`. -/
inductive Progress : ProxyPc S C → List (Effect S C) → Prop
  | initEnd {side} : Progress (.initEnd side d c) [.create c]
  | addSrc : Progress (.addChannel .src d c) [.create c]
  | addDst : Progress (.addChannel .dst d c) [.create c, .enter s .src id c]
  | undoRemove : Progress (.undoRemove d c) [.create c, .enter s .src id c]
  | undoNotify :
      Progress (.undoNotify d c) [.create c, .enter s .src id c, .remove s .src id]
  | fail {log} (undone : Undone s id c log) : Progress (.fail d c) log
  | respErr {log} (undone : Undone s id c log) : Progress .respErr log
  | lockDst : Progress (.lockDst c) (entering s d id c)
  | checkDst : Progress (.checkDst d c) (entering s d id c)
  | start : Progress (.start d c) (entering s d id c)
  | access : Progress (.access d c) (entering s d id c ++ [.start c])
  | respOk {msg : Queued C} (access : msg.isAccess = true) :
      Progress (.respOk d c) (entering s d id c ++ [.start c, .queue d msg])

end Account

/-- The call has not created a channel. -/
def ProxyPc.Early : ProxyPc S C → Prop
  | .lookup | .create _ | .respErr => True
  | _ => False

/-- As many steps of its own are left to the call, at most. -/
def ProxyPc.left : ProxyPc S C → Nat
  | .lookup => 13
  | .create _ => 12
  | .initEnd .src _ _ => 11
  | .initEnd .dst _ _ => 10
  | .addChannel .src _ _ => 9
  | .addChannel .dst _ _ => 8
  | .lockDst _ => 7
  | .checkDst _ _ => 6
  | .start _ _ => 5
  | .access _ _ => 4
  | .respOk _ _ => 3
  | .undoRemove _ _ => 4
  | .undoNotify _ _ => 3
  | .fail _ _ => 2
  | .respErr => 1
  -- the call never ends
  | .thrown => 13

namespace Channels

variable [DecidableEq S] [DecidableEq C] {cfg : Config} {v v' : Channels S C} {a : Action S C}
variable {s : S}

/-- A call goes on by the steps of its own thread only. -/
theorem Step.task_of_other (step : Step cfg v a v') (busy : v.task s ≠ .other)
    (other : ∀ n, a ≠ .run s n) : v'.task s = v.task s := by
  have own : ∀ {r : S} {n : Net C} {t : ChanTask S C}, a = .run r n →
      Function.update v.task r t s = v.task s := by
    intro r n t eq
    refine Function.update_of_ne ?_ ..
    rintro rfl
    exact other n eq
  have idle : ∀ {r : S} {t : ChanTask S C}, v.task r = .other →
      Function.update v.task r t s = v.task s := by
    intro r t eq
    refine Function.update_of_ne ?_ ..
    rintro rfl
    exact busy eq
  cases step with
  | beginStop free | request free => exact idle free
  | stopAll | closing | lookup | notFound | create | createThrows | initEnd | initFails | addSrc
  | srcTaken | addDst | dstTaken | undoRemove | undoNotify | fail | respErr | lockDst | dstGone
  | checkDst | dstStopped | startChannel | access | respOk => exact own rfl
  | _ => rfl

end Channels

namespace Server

variable [DecidableEq S] [DecidableEq C]

/-- What the next step of the call does. -/
def effects (st : Server S C) (s : S) (req : CReqProxyPkt) (net : Net C) :
    ProxyPc S C → List (Effect S C)
  | .create _ => if net.ok then [.create net.fresh] else []
  | .addChannel side d c =>
      (st.channel c).elim [] fun ch =>
        if (st.session (endpoints s d side)).channels side ch.id = none then
          [.enter (endpoints s d side) side ch.id c]
        else []
  | .undoRemove _ c => (st.channel c).elim [] fun ch => [.remove s .src ch.id]
  | .undoNotify _ c => (st.channel c).elim [] fun ch => [.queue s (stopProxyMsg .src c ch)]
  | .respErr => [.queue s (proxyErrMsg req.header ERRCODE.CREATE_UDP_FAILED)]
  | .start _ c => [.start c]
  | .access d c => (st.channel c).elim [] fun ch =>
      [.queue d (accessMsg req.header (st.session d).toSessionCore c ch)]
  | .respOk _ c => (st.channel c).elim [] fun ch => [.queue s (proxyOkMsg req.header c ch)]
  | _ => []

/-- The account of the call of `s`. -/
def account (s : S) (st : Server S C) : Action S C → List (Effect S C)
  | .run r net =>
      if r = s then
        match st.task s with
        | .proxy req pc => st.effects s req net pc
        | _ => []
      else []
  | _ => []

/-- One call of `onReqProxy` of `s`, among steps that meet a condition. -/
def call (cfg : Config) (D : Server S C → Action S C → Prop) (s : S) :
    System (Server S C × List (Effect S C)) (Action S C) where
  start p := (system cfg).Reachable p.1 ∧ (∃ req, p.1.task s = .proxy req .lookup) ∧ p.2 = []
  step p a q := p.1.task s ≠ .idle ∧
    (((system cfg).restrict D).logged (account s)).step p a q

/-- The next step of the call of `s` is possible, and ends the call or brings it nearer
to its end, if the sockets of a new channel can be opened. -/
def GoesOn (cfg : Config) (s : S) (st : Server S C) : Prop :=
  ∃ req pc, st.task s = .proxy req pc ∧ ∀ net, st.channel net.fresh = none →
    (∀ d, pc = .create d → net.ok = true) → ∃ st', step cfg st (.run s net) = some st' ∧
      (st'.task s = .idle ∨ ∃ pc', st'.task s = .proxy req pc' ∧ pc'.left < pc.left)

/-- The session has come to `onReqProxy`. -/
def asks (st : Server S C) (s : S) : Bool :=
  match st.task s with
  | .proxy _ .lookup => true
  | _ => false

/-- A run to the call, and a run of the call whose steps pass a test. -/
theorem call_of_testedSteps (cfg : Config) (s : S) {D : Server S C → Action S C → Prop}
    {test : Server S C → Action S C → Bool} (sound : ∀ st a, test st a = true → D st a)
    (before during : List (Action S C)) {P : Server S C → List (Effect S C) → Prop}
    (check : ∃ st ∈ System.runSteps (step cfg) new before, st.asks s = true ∧
      ∃ p ∈ System.runSteps (fun p a => if p.1.task s ≠ .idle ∧ test p.1 a then
        System.logStep (step cfg) (account s) p a else none) (st, []) during, P p.1 p.2) :
    ∃ p, (call cfg D s).Reachable p ∧ P p.1 p.2 := by
  obtain ⟨st, run, asked, check⟩ := check
  obtain ⟨p, reached, holds⟩ := System.reachable_of_check
    (rfl : (fun p => p = (st, ([] : List (Effect S C)))) (st, [])) check
  refine ⟨p, reached.mono ?_ ?_, holds⟩
  · rintro _ rfl
    refine ⟨System.reachable_of_runSteps rfl run, ?_, rfl⟩
    rw [asks] at asked
    split at asked
    · next req here => exact ⟨req, here⟩
    · cases asked
  · intro p a q tried
    obtain ⟨⟨busy, tested⟩, step⟩ := Option.ite_none_right_eq_some.mp tried
    obtain ⟨r, taken, rfl⟩ := Option.map_eq_some_iff.mp step
    exact ⟨busy, ⟨sound _ _ tested, taken⟩, rfl⟩

section Steps

variable {cfg : Config} {st st' : Server S C} {s : S} {req : CReqProxyPkt} {pc : ProxyPc S C}
variable {net : Net C}

/-- The effects are all that a step of the call does to the maps and to the queues. -/
theorem runProxy_effects (run : st.runProxy cfg s req net pc = some st') :
    st'.channels.map = (st.effects s req net pc).foldl Effect.onMap st.channels.map ∧
      st'.channels.called = (st.effects s req net pc).foldl Effect.onCalled st.channels.called := by
  cases pc with
  | lookup =>
      simp only [runProxy] at run
      split at run
      · obtain rfl := Option.some.inj run
        simp [effects]
      · obtain rfl := Option.some.inj run
        simp [effects]
  | respErr =>
      obtain rfl := Option.some.inj run
      simp [effects, Effect.onMap, Effect.onCalled]
  | create d =>
      obtain ⟨ok, _, rfl⟩ | ⟨failed, rfl⟩ := create_eq_some run
      · rw [effects, if_pos ok, channels_setTask]
        exact ⟨rfl, rfl⟩
      · rw [effects, failed, if_neg Bool.false_ne_true, channels_setTask]
        exact ⟨rfl, rfl⟩
  | thrown => cases run
  | addChannel side d c =>
      cases side with
      | src =>
          simp only [runProxy, Option.map_eq_some_iff] at run
          obtain ⟨ch, found, rfl⟩ := run
          cases slot : (st.session s).channels .src ch.id with
          | none =>
              have does : st.effects s req net (.addChannel .src d c) =
                  [.enter s .src ch.id c] := by
                simp [effects, found, slot, endpoints]
              simp only [does, CChannelMap.insert, slot, channels_setTask, channels_setChannels]
              exact ⟨rfl, rfl⟩
          | some other => simp [effects, found, CChannelMap.insert, slot, endpoints]
      | dst =>
          simp only [runProxy, Option.map_eq_some_iff] at run
          obtain ⟨ch, found, rfl⟩ := run
          cases slot : (st.session d).channels .dst ch.id with
          | none =>
              have does : st.effects s req net (.addChannel .dst d c) =
                  [.enter d .dst ch.id c] := by
                simp [effects, found, slot, endpoints]
              simp only [does, CChannelMap.insert, slot, channels_setTask, channels_release,
                channels_setChannels]
              exact ⟨rfl, rfl⟩
          | some other => simp [effects, found, CChannelMap.insert, slot, endpoints]
  | undoRemove d c =>
      simp only [runProxy, Option.map_eq_some_iff] at run
      obtain ⟨ch, found, rfl⟩ := run
      have does : st.effects s req net (.undoRemove d c) = [.remove s .src ch.id] := by
        simp [effects, found]
      rw [does, channels_setTask, channels_setChannels]
      exact ⟨rfl, rfl⟩
  | lockDst c | checkDst d c =>
      simp only [runProxy, Option.map_eq_some_iff] at run
      obtain ⟨ch, found, rfl⟩ := run
      split <;> simp [effects]
  | initEnd side d c | undoNotify d c | fail d c | start d c | access d c | respOk d c =>
      simp only [runProxy, Option.map_eq_some_iff] at run
      obtain ⟨ch, found, rfl⟩ := run
      simp [effects, found, Effect.onMap, Effect.onCalled]

/-- How a step from `pc` ends a call that has created the channel `c`. -/
inductive Ended (st : Server S C) (s : S) (ch : CChannel S) (c : C) :
    ProxyPc S C → List (Effect S C) → Prop
  | error {log : List (Effect S C)} {msg : Queued C} (undone : Undone s ch.id c log)
      (reply : msg.proxyErr? = some ERRCODE.CREATE_UDP_FAILED) :
      Ended st s ch c .respErr (log ++ [.queue s msg])
  | dstGone (gone : st.lock (ch.ends .dst).ownerSs = none) :
      Ended st s ch c (.lockDst c) (entering s (ch.ss .dst) ch.id c)
  | dstStopped (stopped : (st.session (ch.ss .dst)).started = false) :
      Ended st s ch c (.checkDst (ch.ss .dst) c) (entering s (ch.ss .dst) ch.id c)
  | success {toDst toSrc : Queued C} (access : toDst.isAccess = true)
      (reply : toSrc.proxyErr? = some ERRCODE.SUCCESS) :
      Ended st s ch c (.respOk (ch.ss .dst) c) (entering s (ch.ss .dst) ch.id c ++
        [.start c, .queue (ch.ss .dst) toDst, .queue s toSrc])

/-- The call of `onReqProxy` goes on or ends; it does not leave its channel. -/
theorem runProxy_of_progress {c : C} {ch : CChannel S} {log : List (Effect S C)}
    (h : Progress s (ch.ss .dst) ch.id c pc log) (found : st.channel c = some ch) (own : ch.Own)
    (run : st.runProxy cfg s req net pc = some st') :
    st'.task s = .idle ∧ Ended st s ch c pc (log ++ st.effects s req net pc) ∨
      ∃ pc', st'.task s = .proxy req pc' ∧
        Progress s (ch.ss .dst) ch.id c pc' (log ++ st.effects s req net pc) ∧
        (pc' = .respErr → pc = .fail (ch.ss .dst) c) := by
  cases h with
  | @initEnd side =>
      simp only [Server.runProxy, found, Option.map_some, Option.some.injEq] at run
      subst run
      refine .inr ⟨_, Function.update_self .., ?_⟩
      simp only [effects, List.append_nil]
      split
      · exact ⟨.initEnd, by rintro ⟨⟩⟩
      · exact ⟨.addSrc, by rintro ⟨⟩⟩
      · exact ⟨.fail .created, by rintro ⟨⟩⟩
  | addSrc =>
      simp only [Server.runProxy, found, Option.map_some, Option.some.injEq] at run
      cases slot : (st.session s).channels .src ch.id with
      | none =>
          simp only [CChannelMap.insert, slot] at run
          subst run
          refine .inr ⟨_, Function.update_self .., ?_, by rintro ⟨⟩⟩
          simp only [effects, found, Option.elim_some, endpoints, slot, if_true]
          exact .addDst
      | some other =>
          simp only [CChannelMap.insert, slot] at run
          subst run
          refine .inr ⟨_, Function.update_self .., ?_, by rintro ⟨⟩⟩
          simp only [effects, found, Option.elim_some, endpoints, slot, reduceCtorEq, if_false]
          exact .fail .created
  | addDst =>
      simp only [Server.runProxy, found, Option.map_some, Option.some.injEq] at run
      cases slot : (st.session (ch.ss .dst)).channels .dst ch.id with
      | none =>
          simp only [CChannelMap.insert, slot] at run
          subst run
          refine .inr ⟨_, Function.update_self .., ?_, by rintro ⟨⟩⟩
          simp only [effects, found, Option.elim_some, endpoints, slot, if_true]
          exact .lockDst
      | some other =>
          simp only [CChannelMap.insert, slot] at run
          subst run
          refine .inr ⟨_, Function.update_self .., ?_, by rintro ⟨⟩⟩
          simp only [effects, found, Option.elim_some, endpoints, slot, reduceCtorEq, if_false]
          exact .undoRemove
  | undoRemove =>
      simp only [Server.runProxy, found, Option.map_some, Option.some.injEq] at run
      subst run
      refine .inr ⟨_, Function.update_self .., ?_, by rintro ⟨⟩⟩
      rw [effects, found]
      exact .undoNotify
  | undoNotify =>
      simp only [Server.runProxy, found, Option.map_some, Option.some.injEq] at run
      subst run
      refine .inr ⟨_, Function.update_self .., ?_, by rintro ⟨⟩⟩
      rw [effects, found]
      exact .fail (.removed rfl)
  | fail undone =>
      simp only [Server.runProxy, found, Option.map_some, Option.some.injEq] at run
      subst run
      refine .inr ⟨_, Function.update_self .., ?_, fun _ => rfl⟩
      simp only [effects, List.append_nil]
      exact .respErr undone
  | respErr undone =>
      obtain rfl := Option.some.inj run
      exact .inl ⟨Function.update_self .., .error undone rfl⟩
  | lockDst =>
      simp only [Server.runProxy, found, Option.map_some, Option.some.injEq] at run
      subst run
      simp only [effects, List.append_nil]
      split
      · next d locked =>
        obtain ⟨owner, _⟩ := st.lock_eq_some_iff.mp locked
        obtain rfl := own.owner .dst d owner
        exact .inr ⟨_, Function.update_self .., .checkDst, by rintro ⟨⟩⟩
      · next gone => exact .inl ⟨Function.update_self .., .dstGone gone⟩
  | checkDst =>
      simp only [Server.runProxy, found, Option.map_some, Option.some.injEq] at run
      subst run
      simp only [effects, List.append_nil]
      split
      · exact .inr ⟨_, Function.update_self .., .start, by rintro ⟨⟩⟩
      · next stopped =>
        exact .inl ⟨Function.update_self .., .dstStopped (Bool.eq_false_iff.mpr stopped)⟩
  | start =>
      simp only [Server.runProxy, found, Option.map_some, Option.some.injEq] at run
      subst run
      exact .inr ⟨_, Function.update_self .., .access, by rintro ⟨⟩⟩
  | access =>
      simp only [Server.runProxy, found, Option.map_some, Option.some.injEq] at run
      subst run
      refine .inr ⟨_, Function.update_self .., ?_, by rintro ⟨⟩⟩
      rw [effects, found]
      exact .respOk rfl
  | respOk access =>
      simp only [Server.runProxy, found, Option.map_some, Option.some.injEq] at run
      subst run
      refine .inl ⟨Function.update_self .., ?_⟩
      rw [effects, found]
      exact .success access rfl

/-- The call finds its destination and creates a channel, throws, or ends at once. -/
theorem runProxy_of_early (h : pc.Early)
    (run : st.runProxy cfg s req net pc = some st') :
    (st'.task s = .idle ∧ ∃ msg, msg.proxyErr? = some ERRCODE.CREATE_UDP_FAILED ∧
        st.effects s req net pc = [.queue s msg]) ∨
      ∃ pc', st'.task s = .proxy req pc' ∧ (pc'.Early ∧ st.effects s req net pc = [] ∨
        (∃ d, pc = .create d ∧ net.ok = false) ∨
        ∃ d c id, pc' = .initEnd .src d c ∧ st.channel c = none ∧
          st'.channel c = some (.new id (endpoints s d)) ∧
          st.effects s req net pc = [.create c]) := by
  cases pc with
  | lookup =>
      simp only [Server.runProxy] at run
      split at run
      · obtain rfl := Option.some.inj run
        exact .inr ⟨_, Function.update_self .., .inl ⟨trivial, rfl⟩⟩
      · obtain rfl := Option.some.inj run
        exact .inr ⟨_, Function.update_self .., .inl ⟨trivial, rfl⟩⟩
  | create d =>
      obtain ⟨ok, fresh, rfl⟩ | ⟨failed, rfl⟩ := create_eq_some run
      · exact .inr ⟨_, Function.update_self .., .inr (.inr ⟨d, net.fresh, st.channelId, rfl, fresh,
          Function.update_self .., if_pos ok⟩)⟩
      · exact .inr ⟨_, Function.update_self .., .inr (.inl ⟨d, rfl, failed⟩)⟩
  | respErr =>
      obtain rfl := Option.some.inj run
      exact .inl ⟨Function.update_self .., _, rfl, rfl⟩
  | _ => exact h.elim

/-- A call that has not ended goes on, unless it has thrown. -/
theorem goesOn_of_proxy (wired : st.channels.Wired) (here : st.task s = .proxy req pc)
    (caught : pc ≠ .thrown) : GoesOn cfg s st := by
  refine ⟨req, pc, here, fun net fresh opens => ?_⟩
  simp only [step, here]
  have goes : ∀ {f : CChannel S → Server S C} {c : C}, pc.channel = some c →
      (∀ ch, (f ch).task s = .idle ∨
        ∃ pc', (f ch).task s = .proxy req pc' ∧ pc'.left < pc.left) →
      ∃ st', (st.channel c).map f = some st' ∧
        (st'.task s = .idle ∨ ∃ pc', st'.task s = .proxy req pc' ∧ pc'.left < pc.left) := by
    intro f c makes next
    have task := (st.channels_task_eq_proxy s).mpr here
    obtain ⟨ch, found, -⟩ := (wired.callers s).maker req pc c task makes
    exact ⟨f ch, by rw [show st.channel c = some ch from found, Option.map_some], next ch⟩
  have next : ∀ {st' : Server S C} {pc'}, pc'.left < pc.left →
      (st'.setTask s (.proxy req pc')).task s = .idle ∨
        ∃ pc'', (st'.setTask s (.proxy req pc')).task s = .proxy req pc'' ∧
          pc''.left < pc.left :=
    fun less => .inr ⟨_, Function.update_self .., less⟩
  cases pc with
  | lookup =>
      simp only [runProxy]
      split
      · exact ⟨_, rfl, next (by simp [ProxyPc.left])⟩
      · exact ⟨_, rfl, next (by simp [ProxyPc.left])⟩
  | create d =>
      simp only [runProxy, opens d rfl, if_true, fresh]
      exact ⟨_, rfl, next (by simp [ProxyPc.left])⟩
  | thrown => exact absurd rfl caught
  | respErr => exact ⟨_, rfl, .inl (Function.update_self ..)⟩
  | initEnd side d c =>
      refine goes rfl fun ch => next ?_
      cases side with
      | src => split <;> simp_all [ProxyPc.left]
      | dst => split <;> simp_all [ProxyPc.left]
  | addChannel side d c =>
      cases side with
      | src =>
          refine goes rfl fun ch => ?_
          split <;> exact next (by simp [ProxyPc.left])
      | dst =>
          refine goes rfl fun ch => ?_
          split <;> exact next (by simp [ProxyPc.left])
  | lockDst c =>
      refine goes rfl fun ch => ?_
      split
      · exact next (by simp [ProxyPc.left])
      · exact .inl (Function.update_self ..)
  | checkDst d c =>
      refine goes rfl fun ch => ?_
      split
      · exact next (by simp [ProxyPc.left])
      · exact .inl (Function.update_self ..)
  | respOk d c => exact goes rfl fun ch => .inl (Function.update_self ..)
  | undoRemove | undoNotify | fail | start | access =>
      exact goes rfl fun ch => next (by simp [ProxyPc.left])

/-- The steps of other threads leave the call where it is. -/
theorem task_of_other {a : Action S C} (reached : (system cfg).Reachable st)
    (run : step cfg st a = some st') (here : st.task s = .proxy req pc)
    (other : ∀ n, a ≠ .run s n) : st'.task s = .proxy req pc := by
  have task : st.channels.task s = .proxy req pc := congrArg Task.channels here
  refine (st'.channels_task_eq_proxy s).mp ?_
  obtain same | moved := (channels_mapping cfg).step _ _ _ reached run
  · rw [same, task]
  · rw [moved.task_of_other (by rw [task]; rintro ⟨⟩) other, task]

end Steps

end Server

end NatProxy
