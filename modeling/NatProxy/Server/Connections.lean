import NatProxy.Server.Consistency

/-!
# The connections of the server

`Connections` is the part of the server that the counter of connections depends
on: the phase of each session, its flag `_started`, and where its thread is in
`stop`. The sessions are counted by the acceptors and subtracted at the end of
`stop`, which only a session that it found started gets to.
-/

namespace NatProxy

open Transition

/-- One session. -/
structure Connection where
  phase : Phase
  started : Bool
  /-- Where its thread is in `CSession::stop`. -/
  stop : Option StopPc
  deriving DecidableEq, Repr

structure Connections (S : Type) where
  conn : S → Connection
  connNum : UInt32
  alive : Bool

/-- A change of the counter. -/
inductive ConnEvent (S : Type)
  | counted (s : S)
  | closed (s : S)
  deriving DecidableEq, Repr

variable {S C : Type}

namespace Connections

def new : Connections S where
  conn := fun _ => ⟨.created, false, none⟩
  connNum := 0
  alive := true

variable [DecidableEq S]

def set (v : Connections S) (s : S) (c : Connection) : Connections S :=
  { v with conn := Function.update v.conn s c }

section Set

variable (v : Connections S) (s : S) (c c' : Connection)

@[simp] theorem set_set : (v.set s c).set s c' = v.set s c' := by simp [set]

@[simp] theorem set_self : v.set s (v.conn s) = v := by simp [set]

@[simp] theorem conn_set_self : (v.set s c).conn s = c := by simp [set]

theorem conn_set_of_ne {r : S} (ne : r ≠ s) : (v.set s c).conn r = v.conn r := by simp [set, ne]

end Set

/-- What a step of the server does to the connections. -/
inductive Step (cfg : Config) : Connections S → Action S C → Connections S → Prop
  | test {v s ok} (created : (v.conn s).phase = .created) :
      Step cfg v (.acceptorTest s ok) (v.set s { v.conn s with
        phase := if !ok ∨ cfg.maxSessions > 0 ∧ v.connNum > cfg.maxSessions then .rejected
          else .admitted })
  | count {v s} (admitted : (v.conn s).phase = .admitted) :
      Step cfg v (.acceptorCount s)
        ({ v with connNum := v.connNum + 1 }.set s { v.conn s with phase := .counted })
  | start {v s} (counted : (v.conn s).phase = .counted) :
      Step cfg v (.acceptorStart s) (v.set s { v.conn s with phase := .live, started := true })
  -- the beginning of `CSession::stop` in one of its callers
  | beginStop {v a s} (handler : a = .onTimeout s ∨ a = .onReadHead s ∨ a = .onReadBody s)
      (idle : (v.conn s).stop = none) :
      Step cfg v a (v.set s { v.conn s with
        started := false
        stop := if (v.conn s).started then some (.stopAll .src) else none })
  | goOn {v s n pc pc'} (here : (v.conn s).stop = some pc) (more : pc ≠ .sessionClosed) :
      Step cfg v (.run s n) (v.set s { v.conn s with stop := some pc' })
  | closed {v s n} (here : (v.conn s).stop = some .sessionClosed) :
      Step cfg v (.run s n)
        ({ v with connNum := if v.alive then v.connNum - 1 else v.connNum }.set s
          { v.conn s with stop := none })
  | destroy {v s} (ended : (v.conn s).phase = .rejected ∨ (v.conn s).phase = .live)
      (unused : (v.conn s).started = false ∧ (v.conn s).stop = none) :
      Step cfg v (.destroy s) (v.set s { v.conn s with phase := .destroyed })
  | release {v} : Step cfg v .releaseServer { v with alive := false }

/-- What a step shows of the counter: a session is counted, or subtracted. -/
def events (v : Connections S) : Action S C → List (ConnEvent S)
  | .acceptorCount s => [.counted s]
  | .run s _ => if (v.conn s).stop = some .sessionClosed then [.closed s] else []
  | _ => []

/-- All runs of the connections. -/
def system (cfg : Config) : Transition.System (Connections S) (Action S C) where
  start v := v = .new
  step := Step cfg

end Connections

/-- Where a call is in `CSession::stop`. -/
@[simp] def Task.stopPc : Task S C → Option StopPc
  | .stop pc => some pc
  | _ => none

namespace Server

def connections (st : Server S C) : Connections S where
  conn := fun s => ⟨(st.session s).phase, (st.session s).started, (st.task s).stopPc⟩
  connNum := st.connNum
  alive := st.alive

section Projections

variable [DecidableEq S] (st : Server S C) (s : S)

theorem connections_modSession (f : SessionCore → SessionCore) :
    (st.modSession s f).connections = st.connections.set s
      ⟨(f (st.session s).toSessionCore).phase, (f (st.session s).toSessionCore).started,
        (st.task s).stopPc⟩ := by
  simp only [connections, Connections.set, Connections.mk.injEq]
  refine ⟨?_, rfl, rfl⟩
  funext r
  by_cases eq : r = s
  · subst eq
    simp [modSession]
  · simp [modSession, eq]

/-- A change of other members. -/
theorem connections_modSession_of_same {f : SessionCore → SessionCore}
    (phase : (f (st.session s).toSessionCore).phase = (st.session s).phase)
    (started : (f (st.session s).toSessionCore).started = (st.session s).started) :
    (st.modSession s f).connections = st.connections := by
  rw [connections_modSession, phase, started]
  exact st.connections.set_self s

@[simp] theorem connections_setTask (t : Task S C) :
    (st.setTask s t).connections =
      st.connections.set s { st.connections.conn s with stop := t.stopPc } := by
  simp only [connections, Connections.set, Connections.mk.injEq]
  refine ⟨?_, rfl, rfl⟩
  funext r
  by_cases eq : r = s
  · subst eq
    simp [setTask]
  · simp [setTask, eq]

@[simp] theorem connections_setChannels (side : Side) (m : CChannelMap C) :
    (st.setChannels s side m).connections = st.connections := by
  simp only [connections, Connections.mk.injEq]
  refine ⟨?_, rfl, rfl⟩
  funext r
  by_cases eq : r = s
  · subst eq
    simp [setChannels]
  · simp [setChannels, eq]

@[simp] theorem connections_doWrite (msg : Queued C) :
    (st.doWrite s msg).connections = st.connections := rfl

@[simp] theorem connections_acquire : (st.acquire s).connections = st.connections := rfl

@[simp] theorem connections_release : (st.release s).connections = st.connections := rfl

@[simp] theorem connections_stopAll [DecidableEq C] (side : Side) :
    (st.stopAll s side).connections = st.connections :=
  st.connections_setChannels s side fun _ => none

omit [DecidableEq S] in
@[simp] theorem connections_setChannel [DecidableEq C] (c : C) (ch : CChannel S) :
    (st.setChannel c ch).connections = st.connections := rfl

omit [DecidableEq S] in
theorem conn_of_idle (idle : st.idle s = true) : (st.connections.conn s).stop = none := by
  rw [Server.idle] at idle
  split at idle
  · next here => exact congrArg Task.stopPc here
  · cases idle

/-- The thread of a session is not in `stop` before and after. -/
theorem connections_setTask_of_none {t : Task S C} (before : (st.connections.conn s).stop = none)
    (after : t.stopPc = none) : (st.setTask s t).connections = st.connections := by
  rw [connections_setTask, after, ← before]
  exact st.connections.set_self s

theorem connections_endHandler (before : (st.connections.conn s).stop = none) :
    (st.endHandler s).connections = st.connections := by
  have same := st.connections_modSession_of_same s
    (f := fun ss => { ss with read := ss.read.finishBody ss.started ss.isOpen }) rfl rfl
  rw [endHandler, connections_setTask_of_none _ _ (by rw [same]; exact before) rfl, same]

theorem connections_stopSession :
    (st.stopSession s).connections = st.connections.set s { st.connections.conn s with
      started := false
      stop := if (st.session s).started then some (.stopAll .src) else none } := by
  have stop : (if (st.session s).started then .stop (.stopAll .src) else .idle :
      Task S C).stopPc = if (st.session s).started then some (.stopAll .src) else none := by
    split <;> rfl
  rw [stopSession, connections_setTask, connections_modSession, Connections.set_set,
    Connections.conn_set_self, stop]
  rfl

end Projections

section Steps

variable [DecidableEq S] [DecidableEq C] {cfg : Config} {st st' : Server S C} {s : S} {net : Net C}

open Connections (Step)

theorem runStop_connections {pc : StopPc} (here : st.task s = .stop pc) :
    Step cfg st.connections (.run s net) (st.runStop s pc).connections := by
  have at_pc : (st.connections.conn s).stop = some pc := congrArg Task.stopPc here
  cases pc with
  | stopAll side =>
      cases side <;>
      · rw [runStop, connections_setTask, connections_stopAll]
        exact .goOn at_pc (by simp)
  | removeGuid =>
      rw [runStop]
      split
      · rw [connections_setTask]
        exact .goOn at_pc (by simp)
      · rw [connections_setTask]
        exact .goOn at_pc (by simp)
  | delDb =>
      rw [runStop, connections_setTask]
      exact .goOn at_pc (by simp)
  | eraseMap =>
      rw [runStop, connections_setTask]
      exact .goOn at_pc (by simp)
  | sessionClosed =>
      rw [runStop, connections_setTask]
      exact .closed at_pc

omit [DecidableEq C] in
/-- A login does not stop its session. -/
theorem runLogin_connections {header : TagPktHdr} {pc : LoginPc}
    (none : (st.connections.conn s).stop = none) :
    (st.runLogin s header net pc).connections = st.connections := by
  have keep : ∀ {st₁ : Server S C} {pc : LoginPc}, st₁.connections = st.connections →
      (st₁.setTask s (.login header pc)).connections = st.connections := by
    intro st₁ pc same
    rw [connections_setTask_of_none _ _ (by rw [same]; exact none) rfl, same]
  cases pc with
  | insertGuid | addSession =>
      rw [runLogin]
      split <;> exact keep rfl
  | allocId =>
      apply keep
      exact connections_modSession_of_same { st with sessionId := st.sessionId + 1 } s rfl rfl
  | undoGuid | remoteEndpoint | addDb => exact keep rfl
  | finish ok =>
      have done : ∀ {f : SessionCore → SessionCore} {msg : Queued C},
          (st.modSession s f).connections = st.connections →
          (((st.modSession s f).doWrite s msg).endHandler s).connections = st.connections := by
        intro f msg same
        rw [connections_endHandler, connections_doWrite, same]
        rw [connections_doWrite, same]
        exact none
      cases ok <;> exact done (connections_modSession_of_same _ _ rfl rfl)

theorem runProxy_connections {req : CReqProxyPkt} {pc : ProxyPc S C}
    (none : (st.connections.conn s).stop = none) (run : st.runProxy cfg s req net pc = some st') :
    st'.connections = st.connections := by
  have keep : ∀ {st₁ : Server S C} {pc : ProxyPc S C}, st₁.connections = st.connections →
      (st₁.setTask s (.proxy req pc)).connections = st.connections := by
    intro st₁ pc same
    rw [connections_setTask_of_none _ _ (by rw [same]; exact none) rfl, same]
  have done : ∀ {st₁ : Server S C}, st₁.connections = st.connections →
      (st₁.endHandler s).connections = st.connections := by
    intro st₁ same
    rw [connections_endHandler _ _ (by rw [same]; exact none), same]
  cases pc with
  | lookup =>
      simp only [runProxy] at run
      split at run <;> obtain rfl := Option.some.inj run <;> exact keep (by simp)
  | respErr =>
      obtain rfl := Option.some.inj run
      exact done (by simp)
  | create d =>
      obtain ⟨_, _, rfl⟩ | ⟨_, rfl⟩ := create_eq_some run <;> exact keep rfl
  | thrown => cases run
  | addChannel side d c =>
      cases side <;>
      · simp only [runProxy, Option.map_eq_some_iff] at run
        obtain ⟨ch, _, rfl⟩ := run
        split <;> exact keep (by simp)
  | lockDst c | checkDst d c =>
      simp only [runProxy, Option.map_eq_some_iff] at run
      obtain ⟨ch, _, rfl⟩ := run
      split
      · exact keep (by simp)
      · exact done (by simp)
  | respOk d c =>
      simp only [runProxy, Option.map_eq_some_iff] at run
      obtain ⟨ch, _, rfl⟩ := run
      exact done (by simp)
  | initEnd | undoRemove | undoNotify | fail | start | access =>
      simp only [runProxy, Option.map_eq_some_iff] at run
      obtain ⟨ch, _, rfl⟩ := run
      exact keep (by simp)

theorem onChannel_connections {c : C} {a : Action S C} (run : st.onChannel c a = some st') :
    st'.connections = st.connections := by
  obtain rfl | ⟨ch, rfl⟩ := onChannel_eq_some run <;> rfl

theorem runChannel_connections {c : C} {ch : CChannel S} (run : st.runChannel c ch = some st') :
    st'.connections = st.connections := by
  rw [runChannel] at run
  split at run
  · cases run
  · split at run <;> obtain rfl := Option.some.inj run <;> simp
  · obtain rfl := Option.some.inj run
    simp
  · obtain rfl := Option.some.inj run
    simp

omit [DecidableEq C] in
theorem handle_connections {req : Request} (none : (st.connections.conn s).stop = none) :
    (st.handle s req).connections = st.connections := by
  cases req with
  | none => exact connections_endHandler _ _ none
  | proxy req => exact connections_setTask_of_none _ _ none rfl
  | getProxies req => exact connections_endHandler (st.doWrite s _) s none
  | login req =>
      rw [handle, onReqLogin]
      split
      · exact connections_endHandler (st.doWrite s _) s none
      · rw [connections_setTask_of_none _ _ _ rfl, connections_modSession_of_same _ _ rfl rfl]
        rw [connections_modSession_of_same _ _ rfl rfl]
        exact none

omit [DecidableEq C] in
/-- `stop` is called with other members changed only. -/
theorem stopSession_connections {a : Action S C} {f : SessionCore → SessionCore}
    (handler : a = .onTimeout s ∨ a = .onReadHead s ∨ a = .onReadBody s)
    (none : (st.connections.conn s).stop = none)
    (phase : (f (st.session s).toSessionCore).phase = (st.session s).phase)
    (started : (f (st.session s).toSessionCore).started = (st.session s).started) :
    Step cfg st.connections a ((st.modSession s f).stopSession s).connections := by
  have same := st.connections_modSession_of_same s phase started
  have flag : ((st.modSession s f).session s).started = (st.connections.conn s).started := by
    rw [← same]
    rfl
  rw [connections_stopSession, same, flag]
  exact .beginStop handler none

omit [DecidableEq C] in
theorem onTimeout_connections (none : (st.connections.conn s).stop = none)
    (run : st.onTimeout s = some st') :
    st'.connections = st.connections ∨
      Step (C := C) cfg st.connections (.onTimeout s) st'.connections := by
  obtain ⟨ec, _, rfl⟩ := onTimeout_eq_some run
  cases ec with
  | true =>
      left
      rw [if_pos rfl, connections_modSession_of_same _ _ rfl rfl]
  | false => exact .inr (stopSession_connections (.inl rfl) none rfl rfl)

omit [DecidableEq C] in
theorem onReadHead_connections (none : (st.connections.conn s).stop = none)
    (run : st.onReadHead s = some st') :
    st'.connections = st.connections ∨
      Step (C := C) cfg st.connections (.onReadHead s) st'.connections := by
  obtain ⟨ec, bytes, stops, read, _, _, rfl⟩ := onReadHead_eq_some run
  cases stops with
  | true => exact .inr (stopSession_connections (.inr (.inl rfl)) none rfl rfl)
  | false =>
      left
      rw [if_neg Bool.false_ne_true]
      exact connections_modSession_of_same _ _ rfl rfl

omit [DecidableEq C] in
theorem onReadBody_connections (none : (st.connections.conn s).stop = none)
    (run : st.onReadBody s = some st') :
    st'.connections = st.connections ∨
      Step (C := C) cfg st.connections (.onReadBody s) st'.connections := by
  obtain ⟨ec, bytes, _, rfl | ⟨_, req, _, rfl⟩⟩ := onReadBody_eq_some run
  · exact .inr (stopSession_connections (.inr (.inr rfl)) none rfl rfl)
  · left
    rw [handle_connections] <;> rw [connections_modSession_of_same _ _ rfl rfl]
    exact none

/-- Every step of the server is a step of the connections, or does not change them
and shows nothing of the counter. -/
theorem step_connections {a : Action S C} (run : step cfg st a = some st') :
    st'.connections = st.connections ∧ st.connections.events a = [] ∨
      Step cfg st.connections a st'.connections := by
  cases a with
  | acceptorTest s ok =>
      obtain ⟨created, rfl⟩ := acceptorTest_eq_some run
      right
      rw [connections_modSession]
      exact .test created
  | acceptorCount s =>
      obtain ⟨admitted, rfl⟩ := acceptorCount_eq_some run
      right
      rw [connections_modSession]
      exact .count admitted
  | acceptorStart s =>
      obtain ⟨counted, rfl⟩ := acceptorStart_eq_some run
      right
      rw [connections_modSession]
      exact .start counted
  | timerExpires s =>
      obtain ⟨_, rfl⟩ := timerExpires_eq_some run
      exact .inl ⟨connections_modSession_of_same _ _ (by rfl) (by rfl), rfl⟩
  | deliver s data =>
      obtain ⟨read, _, rfl⟩ := deliver_eq_some run
      exact .inl ⟨connections_modSession_of_same _ _ (by rfl) (by rfl), rfl⟩
  | readFails s =>
      obtain rfl := Option.some.inj run
      exact .inl ⟨connections_modSession_of_same _ _ (by rfl) (by rfl), rfl⟩
  | onTimeout s =>
      obtain ⟨idle, run⟩ := Option.ite_none_right_eq_some.mp run
      refine Or.imp_left (fun same => ⟨same, rfl⟩) ?_
      exact onTimeout_connections (st.conn_of_idle s idle) run
  | onReadHead s =>
      obtain ⟨idle, run⟩ := Option.ite_none_right_eq_some.mp run
      refine Or.imp_left (fun same => ⟨same, rfl⟩) ?_
      exact onReadHead_connections (st.conn_of_idle s idle) run
  | onReadBody s =>
      obtain ⟨idle, run⟩ := Option.ite_none_right_eq_some.mp run
      refine Or.imp_left (fun same => ⟨same, rfl⟩) ?_
      exact onReadBody_connections (st.conn_of_idle s idle) run
  | run s net =>
      have quiet :
          (st.connections.conn s).stop = none → st.connections.events (.run s net) = [] := by
        intro none
        simp [Connections.events, none]
      obtain ⟨pc, here, rfl⟩ | ⟨header, pc, here, rfl⟩ | ⟨req, pc, here, goes⟩ := run_cases run
      · exact .inr (runStop_connections here)
      · have none : (st.connections.conn s).stop = none := congrArg Task.stopPc here
        exact .inl ⟨runLogin_connections none, quiet none⟩
      · have none : (st.connections.conn s).stop = none := congrArg Task.stopPc here
        exact .inl ⟨runProxy_connections none goes, quiet none⟩
  | writer s e =>
      obtain ⟨q, _, _, rfl⟩ := writer_eq_some run
      exact .inl ⟨rfl, rfl⟩
  | destroy s =>
      obtain ⟨ended, unused, rfl⟩ := destroy_eq_some run
      right
      rw [connections_modSession]
      simp only [unreferenced, SessionCore.unreferenced, Bool.and_eq_true,
        Bool.not_eq_true'] at unused
      exact .destroy ended ⟨unused.1.1.1.1.1.1, st.conn_of_idle s unused.1.1.1.2⟩
  | strandStop c => exact .inl ⟨onChannel_connections run, rfl⟩
  | socketStop c => exact .inl ⟨onChannel_connections run, rfl⟩
  | checker c side expired => exact .inl ⟨onChannel_connections run, rfl⟩
  | coroExit c coro => exact .inl ⟨onChannel_connections run, rfl⟩
  | runStop c =>
      obtain ⟨ch, _, stopped⟩ := Option.bind_eq_some_iff.mp run
      exact .inl ⟨runChannel_connections stopped, rfl⟩
  | db e =>
      obtain ⟨ssDb, _, rfl⟩ := db_eq_some run
      exact .inl ⟨rfl, rfl⟩
  | releaseServer =>
      obtain ⟨_, rfl⟩ := releaseServer_eq_some run
      exact .inr .release

/-- The server refines the connections. -/
theorem connections_mapping (cfg : Config) :
    Transition.Mapping (system (S := S) (C := C) cfg) (Connections.system cfg) connections where
  start st first := by
    obtain rfl : st = .new := first
    rfl
  step _ _ _ _ run := (step_connections run).imp_left And.left

end Steps

end Server

end NatProxy
