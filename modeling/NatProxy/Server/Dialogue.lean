import Mathlib.Data.List.ModifyLast
import NatProxy.Protocol.ResponseStream
import NatProxy.Server.Channels

/-!
# The dialogue of a session with its peer

A session reads requests and queues replies. Its other responses, the ACCESS and
STOPPROXY notices of channels, come from calls of any session and of any channel at any
time. What is left when these are taken out is a dialogue: each frame that reaches the
switch of `onReadBody` is answered before the next one does, or it is ignored, or given up
by `onReqProxy`.

`Dialogue` is what the state of the server has of it, and `heard` what the peer has
contributed and which requests were given up.
-/

namespace NatProxy

open Memory Transition

variable {S C : Type}

/-- The response answers a request, and is not the notice of a channel. -/
def RespKind.isReply : RespKind → Bool
  | .login | .proxy | .getProxies => true
  | .access | .stopProxy => false

def Queued.isReply (msg : Queued C) : Bool := msg.pkt.kind.isReply

/-- The reply that a request is handled for, and the header that it gets. -/
def Request.expects : Request → Option (RespKind × TagPktHdr)
  | .none => Option.none
  | .login req => some (.login, req.header)
  | .proxy req => some (.proxy, req.header)
  | .getProxies req => some (.getProxies, req.header)

/-- The same for a handler in progress. -/
def Task.expects : Task S C → Option (RespKind × TagPktHdr)
  | .login header _ => some (.login, header)
  | .proxy req _ => some (.proxy, req.header)
  | _ => none

/-- The message is the expected one. -/
def Queued.Meets (msg : Queued C) (expected : RespKind × TagPktHdr) : Prop :=
  msg.pkt.kind = expected.1 ∧ msg.header = expected.2

/-- What the peer contributes: the bytes that completed reads take, and the buffers that
reach the switch with the session type at that time. -/
inductive Heard
  | bytes (data : Bytes)
  | frame (buffer : Bytes) (sessionType : UInt32)
  /-- `onReqProxy` finds the destination of its channel gone or stopped, and returns. -/
  | givenUp
  deriving DecidableEq, Repr

namespace Heard

def data : Heard → Bytes
  | .bytes data => data
  | .frame _ _ | .givenUp => []

def request : Heard → Option (Bytes × UInt32)
  | .frame buffer sessionType => some (buffer, sessionType)
  | .bytes _ | .givenUp => none

/-- The requests so far, each with a mark if it was given up. -/
def note (turns : List ((Bytes × UInt32) × Bool)) : Heard → List ((Bytes × UInt32) × Bool)
  | .bytes _ => turns
  | .frame buffer sessionType => turns ++ [((buffer, sessionType), false)]
  | .givenUp => turns.modifyLast fun turn => (turn.1, true)

def turns (log : List Heard) : List ((Bytes × UInt32) × Bool) := log.foldl note []

theorem turns_append (log es : List Heard) : turns (log ++ es) = es.foldl note (turns log) :=
  List.foldl_append

/-- The marks apart, the turns are the requests. -/
theorem map_turns (log : List Heard) : (turns log).map Prod.fst = log.filterMap request := by
  induction log using List.reverseRecOn with
  | nil => rfl
  | append_singleton log e ih =>
      rw [turns_append, List.filterMap_append, ← ih, List.foldl_cons, List.foldl_nil]
      cases e with
      | bytes => simp [note, request]
      | frame => simp [note, request]
      | givenUp =>
          obtain none | ⟨before, last, eq⟩ := (turns log).eq_nil_or_concat
          · simp [note, request, none, List.modifyLast, List.modifyLast.go]
          · simp [note, request, eq, List.concat_eq_append, List.modifyLast_concat]

end Heard

structure Dialogue (C : Type) where
  read : ReadLoop
  /-- The reply that the handler in progress owes. -/
  owes : Option (RespKind × TagPktHdr)
  replies : List (Queued C)

namespace Dialogue

/-- The handler of the completed read has started. -/
def taken (d : Dialogue C) : ReadLoop := { d.read with op := .none }

/-- The steps of a dialogue, which starts in a state where it may be the `first` one. The
flags are `_started` and whether the socket is open. -/
inductive Step (first : Prop) : Dialogue C → List Heard → Dialogue C → Prop
  | quiet {d} : Step first d [] d
  | fail {d} : Step first d [] { d with read := d.read.fail }
  | start {d} (now : first) (fresh : d.read = .new) (isOpen : Bool) :
      Step first d [] { d with read := d.read.asyncRead isOpen .head }
  | deliver {d data read} (delivered : d.read.deliver data = some read) :
      Step first d [.bytes data] { d with read }
  | head {d ec n isOpen stops read} (idle : d.owes = none) (done : d.read.op = .done .head ec n)
      (checked : d.taken.onReadHead isOpen ec n = (stops, read)) : Step first d [] { d with read }
  | noBody {d ec n} (idle : d.owes = none) (done : d.read.op = .done .body ec n)
      (fails : ReadLoop.bodyFails ec n = true) : Step first d [] { d with read := d.taken }
  | ignore {d n sessionType} (idle : d.owes = none) (done : d.read.op = .done .body false n)
      (pos : n ≠ 0) (decoded : dispatch sessionType d.read.hdr d.read.rbuf = .ok .none)
      (started isOpen : Bool) :
      Step first d [.frame d.read.rbuf sessionType]
        { d with read := d.taken.finishBody started isOpen }
  | call {d n sessionType req} (idle : d.owes = none) (done : d.read.op = .done .body false n)
      (pos : n ≠ 0) (decoded : dispatch sessionType d.read.hdr d.read.rbuf = .ok req)
      (request : req ≠ .none) :
      Step first d [.frame d.read.rbuf sessionType] { d with read := d.taken, owes := req.expects }
  | reply {d n sessionType req expected msg} (idle : d.owes = none)
      (done : d.read.op = .done .body false n) (pos : n ≠ 0)
      (decoded : dispatch sessionType d.read.hdr d.read.rbuf = .ok req)
      (expects : req.expects = some expected) (meets : msg.Meets expected)
      (reply : expected.1.isReply = true) (started isOpen : Bool) :
      Step first d [.frame d.read.rbuf sessionType]
        { d with read := d.taken.finishBody started isOpen, replies := d.replies ++ [msg] }
  | answer {d expected msg} (owes : d.owes = some expected) (meets : msg.Meets expected)
      (started isOpen : Bool) :
      Step first d [] {
        read := d.read.finishBody started isOpen, owes := none, replies := d.replies ++ [msg] }
  | drop {d header} (owes : d.owes = some (.proxy, header)) (started isOpen : Bool) :
      Step first d [.givenUp] { d with read := d.read.finishBody started isOpen, owes := none }

end Dialogue

/-- Without an outstanding read nothing fails. -/
theorem ReadLoop.fail_of_none {r : ReadLoop} (none : r.op = .none) : r.fail = r := by
  rw [ReadLoop.fail, none]

namespace Server

def dialogue (st : Server S C) (s : S) : Dialogue C where
  read := (st.session s).read
  owes := (st.task s).expects
  replies := (st.sendq s).called.filter Queued.isReply

/-- `onReqProxy` is at one of its early exits: the destination cannot be locked, or does not
run. -/
def givesUp (st : Server S C) (s : S) : Bool :=
  match st.task s with
  | .proxy _ (.lockDst c) => (st.channel c).any fun ch => (st.lock (ch.ends .dst).ownerSs).isNone
  | .proxy _ (.checkDst d _) => !(st.session d).started
  | _ => false

/-- What a step shows of the dialogue of a session. -/
def heard [DecidableEq S] (s : S) (st : Server S C) : Action S C → List Heard
  | .deliver r data => if r = s then [.bytes data] else []
  | .onReadBody r =>
      match (st.session s).read.op with
      | .done .body ec n =>
          if r = s ∧ ReadLoop.bodyFails ec n = false then
            [.frame (st.session s).read.rbuf (st.session s).sessionType]
          else []
      | _ => []
  | .run r _ => if r = s ∧ st.givesUp s then [.givenUp] else []
  | _ => []

section View

variable (st : Server S C) (s r : S) [DecidableEq S]

theorem dialogue_setTask_self (t : Task S C) :
    (st.setTask s t).dialogue s = { st.dialogue s with owes := t.expects } := by
  simp [dialogue, setTask]

theorem dialogue_setTask_of_ne (t : Task S C) (other : s ≠ r) :
    (st.setTask r t).dialogue s = st.dialogue s := by
  simp [dialogue, setTask, other]

theorem dialogue_modSession_self (f : SessionCore → SessionCore) :
    (st.modSession s f).dialogue s =
      { st.dialogue s with read := (f (st.session s).toSessionCore).read } := by
  simp [dialogue, modSession]

theorem dialogue_modSession_of_ne (f : SessionCore → SessionCore) (other : s ≠ r) :
    (st.modSession r f).dialogue s = st.dialogue s := by
  simp [dialogue, modSession, other]

/-- The thread goes on with the handler. -/
theorem dialogue_setTask (t : Task S C) (same : t.expects = (st.task r).expects) :
    (st.setTask r t).dialogue s = st.dialogue s := by
  by_cases eq : s = r
  · subst eq
    rw [dialogue_setTask_self, same]
    rfl
  · exact st.dialogue_setTask_of_ne s r t eq

/-- A change that leaves the reads alone. -/
@[simp] theorem dialogue_modSession (f : SessionCore → SessionCore)
    (same : (f (st.session r).toSessionCore).read = (st.session r).read) :
    (st.modSession r f).dialogue s = st.dialogue s := by
  by_cases eq : s = r
  · subst eq
    rw [dialogue_modSession_self, same]
    rfl
  · exact st.dialogue_modSession_of_ne s r f eq

@[simp] theorem dialogue_setChannels (side : Side) (m : CChannelMap C) :
    (st.setChannels r side m).dialogue s = st.dialogue s := by
  by_cases eq : s = r
  · subst eq
    simp [dialogue, setChannels]
  · simp [dialogue, setChannels, eq]

@[simp] theorem dialogue_acquire : (st.acquire r).dialogue s = st.dialogue s := rfl

@[simp] theorem dialogue_release : (st.release r).dialogue s = st.dialogue s := rfl

omit [DecidableEq S] in
@[simp] theorem dialogue_setChannel [DecidableEq C] (c : C) (ch : CChannel S) :
    (st.setChannel c ch).dialogue s = st.dialogue s := rfl

theorem dialogue_doWrite_self (msg : Queued C) (reply : msg.isReply = true) :
    (st.doWrite s msg).dialogue s =
      { st.dialogue s with replies := (st.dialogue s).replies ++ [msg] } := by
  simp [dialogue, doWrite, called_doWrite, List.filter_append, reply]

theorem dialogue_doWrite_of_ne (msg : Queued C) (other : s ≠ r) :
    (st.doWrite r msg).dialogue s = st.dialogue s := by
  simp [dialogue, doWrite, other]

/-- Notices are no part of the dialogue. -/
@[simp] theorem dialogue_doWrite_notice (msg : Queued C) (notice : msg.isReply = false) :
    (st.doWrite r msg).dialogue s = st.dialogue s := by
  by_cases eq : s = r
  · subst eq
    simp [dialogue, doWrite, called_doWrite, List.filter_append, notice]
  · exact st.dialogue_doWrite_of_ne s r msg eq

theorem dialogue_endHandler_self :
    (st.endHandler s).dialogue s = { st.dialogue s with
      read := (st.dialogue s).read.finishBody (st.session s).started (st.session s).isOpen
      owes := none } := by
  rw [endHandler, dialogue_setTask_self, dialogue_modSession_self]
  rfl

theorem dialogue_endHandler_of_ne (other : s ≠ r) :
    (st.endHandler r).dialogue s = st.dialogue s := by
  rw [endHandler, dialogue_setTask_of_ne _ _ _ _ other, dialogue_modSession_of_ne _ _ _ _ other]

theorem dialogue_stopSession_self :
    (st.stopSession s).dialogue s =
      { st.dialogue s with read := (st.dialogue s).read.fail, owes := none } := by
  rw [stopSession, dialogue_setTask_self, dialogue_modSession_self]
  split <;> rfl

theorem dialogue_stopSession_of_ne (other : s ≠ r) :
    (st.stopSession r).dialogue s = st.dialogue s := by
  rw [stopSession, dialogue_setTask_of_ne _ _ _ _ other, dialogue_modSession_of_ne _ _ _ _ other]

end View

/-! ## Steps of the server -/

section Steps

variable [DecidableEq S] {st st' : Server S C} {s r : S} {first : Prop}

/-- A handler goes on without a reply. -/
theorem step_setTask {w : Server S C} {t : Task S C} (same : w.dialogue s = st.dialogue s)
    (task : w.task r = st.task r) (owes : t.expects = (st.task r).expects) :
    Dialogue.Step first (st.dialogue s) [] ((w.setTask r t).dialogue s) := by
  rw [w.dialogue_setTask s r t (by rw [task, owes]), same]
  exact .quiet

/-- A handler ends with its reply. -/
theorem step_answer {w : Server S C} {msg : Queued C} {expected : RespKind × TagPktHdr}
    (same : w.dialogue s = st.dialogue s) (owes : (st.task r).expects = some expected)
    (meets : msg.Meets expected) (reply : msg.isReply = true) :
    Dialogue.Step first (st.dialogue s) [] (((w.doWrite r msg).endHandler r).dialogue s) := by
  by_cases eq : s = r
  · subst eq
    rw [dialogue_endHandler_self, dialogue_doWrite_self _ _ _ reply, same]
    exact .answer owes meets _ _
  · rw [dialogue_endHandler_of_ne _ _ _ eq, dialogue_doWrite_of_ne _ _ _ _ eq, same]
    exact .quiet

/-- A proxy request is given up. -/
theorem step_drop {w : Server S C} {req : CReqProxyPkt} {pc : ProxyPc S C} {net : Net C}
    (same : w.dialogue s = st.dialogue s) (here : st.task r = .proxy req pc)
    (gives : st.givesUp r = true) :
    Dialogue.Step first (st.dialogue s) (heard s st (.run r net))
      ((w.endHandler r).dialogue s) := by
  by_cases eq : s = r
  · subst eq
    rw [heard, if_pos ⟨rfl, gives⟩, dialogue_endHandler_self, same]
    exact .drop (congrArg Task.expects here) _ _
  · rw [heard, if_neg (fun both => eq both.1.symm), dialogue_endHandler_of_ne _ _ _ eq, same]
    exact .quiet

omit [DecidableEq S] in
theorem givesUp_lockDst {req : CReqProxyPkt} {c : C} {ch : CChannel S}
    (here : st.task r = .proxy req (.lockDst c)) (found : st.channel c = some ch) :
    st.givesUp r = (st.lock (ch.ends .dst).ownerSs).isNone := by
  simp only [givesUp, here, found, Option.any_some]

omit [DecidableEq S] in
theorem givesUp_checkDst {req : CReqProxyPkt} {d : S} {c : C}
    (here : st.task r = .proxy req (.checkDst d c)) :
    st.givesUp r = !(st.session d).started := by
  rw [givesUp, here]

/-- A call that does not give up shows nothing. -/
theorem heard_run (net : Net C) (goes : st.givesUp r = false) : heard s st (.run r net) = [] := by
  refine if_neg ?_
  rintro ⟨rfl, gives⟩
  cases goes.symm.trans gives

theorem runLogin_dialogue {header : TagPktHdr} {pc : LoginPc} {net : Net C}
    (here : st.task r = .login header pc) :
    Dialogue.Step first (st.dialogue s) [] ((st.runLogin r header net pc).dialogue s) := by
  have owes : ∀ pc', (Task.login header pc' : Task S C).expects = (st.task r).expects := by
    intro pc'
    rw [here]
    rfl
  cases pc with
  | insertGuid | addSession =>
      rw [runLogin]
      split
      · exact step_setTask rfl rfl (owes _)
      · exact step_setTask rfl rfl (owes _)
  | allocId => exact step_setTask (dialogue_modSession _ _ _ _ rfl) rfl (owes _)
  | undoGuid | remoteEndpoint | addDb => exact step_setTask rfl rfl (owes _)
  | finish ok =>
      have expects : (st.task r).expects = some (.login, header) := (owes .insertGuid).symm
      cases ok with
      | true => exact step_answer (dialogue_modSession _ _ _ _ rfl) expects ⟨rfl, rfl⟩ rfl
      | false => exact step_answer (dialogue_modSession _ _ _ _ rfl) expects ⟨rfl, rfl⟩ rfl

variable [DecidableEq C]

/-- `CSession::stop` goes on. -/
theorem dialogue_runStop {pc : StopPc} (here : st.task r = .stop pc) :
    (st.runStop r pc).dialogue s = st.dialogue s := by
  have next : ∀ (w : Server S C) (t : Task S C), w.dialogue s = st.dialogue s →
      w.task r = st.task r → t.expects = none → (w.setTask r t).dialogue s = st.dialogue s := by
    intro w t same task none
    rw [w.dialogue_setTask s r t (by rw [task, here, none]; rfl), same]
  cases pc with
  | stopAll side =>
      cases side <;>
        exact next (st.stopAll r _) _ (st.dialogue_setChannels s r _ _) rfl rfl
  | removeGuid =>
      rw [runStop]
      split
      · exact next _ _ rfl rfl rfl
      · exact next _ _ rfl rfl rfl
  | delDb | eraseMap | sessionClosed => exact next _ _ rfl rfl rfl

theorem runProxy_dialogue {cfg : Config} {req : CReqProxyPkt} {pc : ProxyPc S C} {net : Net C}
    (here : st.task r = .proxy req pc) (run : st.runProxy cfg r req net pc = some st') :
    Dialogue.Step first (st.dialogue s) (heard s st (.run r net)) (st'.dialogue s) := by
  have owes : ∀ pc' : ProxyPc S C, (Task.proxy req pc').expects = (st.task r).expects := by
    intro pc'
    rw [here]
    rfl
  have expects : (st.task r).expects = some (.proxy, req.header) := (owes .lookup).symm
  -- only two parts of the call may give up
  have silent : st.givesUp r = false →
      Dialogue.Step first (st.dialogue s) [] (st'.dialogue s) →
        Dialogue.Step first (st.dialogue s) (heard s st (.run r net)) (st'.dialogue s) := by
    intro goes step
    rwa [heard_run net goes]
  -- every part but the first ones looks up its channel
  have mapped : ∀ {c : C} {f : CChannel S → Server S C} {es : List Heard},
      (∀ ch, st.channel c = some ch →
        Dialogue.Step first (st.dialogue s) es ((f ch).dialogue s)) →
          (st.channel c).map f = some st' →
            Dialogue.Step first (st.dialogue s) es (st'.dialogue s) := by
    intro c f es each ran
    obtain ⟨ch, found, rfl⟩ := Option.map_eq_some_iff.mp ran
    exact each ch found
  cases pc with
  | lookup =>
      refine silent (by rw [givesUp, here]) ?_
      rw [runProxy] at run
      split at run <;> obtain rfl := Option.some.inj run
      · exact step_setTask rfl rfl (owes _)
      · exact step_setTask rfl rfl (owes _)
  | create d =>
      refine silent (by rw [givesUp, here]) ?_
      obtain ⟨_, _, rfl⟩ | ⟨_, rfl⟩ := create_eq_some run <;>
      exact step_setTask rfl rfl (owes _)
  | thrown => cases run
  | initEnd side d c =>
      refine silent (by rw [givesUp, here]) (mapped (fun ch _ => ?_) run)
      refine step_setTask rfl rfl ?_
      split <;> exact owes _
  | addChannel side d c =>
      refine silent (by rw [givesUp, here]) ?_
      cases side with
      | src =>
          refine mapped (fun ch _ => ?_) run
          split
          · exact step_setTask (dialogue_setChannels _ _ _ _ _) rfl (owes _)
          · exact step_setTask rfl rfl (owes _)
      | dst =>
          refine mapped (fun ch _ => ?_) run
          split
          · exact step_setTask (dialogue_setChannels _ _ _ _ _) rfl (owes _)
          · exact step_setTask rfl rfl (owes _)
  | undoRemove d c =>
      refine silent (by rw [givesUp, here]) ?_
      exact mapped (fun ch _ => step_setTask (dialogue_setChannels _ _ _ _ _) rfl (owes _)) run
  | undoNotify d c =>
      refine silent (by rw [givesUp, here]) ?_
      exact mapped (fun ch _ => step_setTask (dialogue_doWrite_notice _ _ _ _ rfl) rfl (owes _)) run
  | fail d c =>
      refine silent (by rw [givesUp, here]) (mapped (fun ch _ => ?_) run)
      exact step_setTask rfl rfl (owes _)
  | respErr =>
      refine silent (by rw [givesUp, here]) ?_
      obtain rfl := Option.some.inj run
      exact step_answer rfl expects ⟨rfl, rfl⟩ rfl
  | lockDst c =>
      refine mapped (fun ch found => ?_) run
      have gives := givesUp_lockDst here found
      cases locked : st.lock (ch.ends .dst).ownerSs with
      | some d =>
          rw [heard_run net (gives.trans (by rw [locked]; rfl))]
          exact step_setTask rfl rfl (owes _)
      | none => exact step_drop rfl here (gives.trans (by rw [locked]; rfl))
  | checkDst d c =>
      refine mapped (fun ch _ => ?_) run
      have gives := givesUp_checkDst here
      split
      · next running =>
        rw [heard_run net (gives.trans (by rw [running]; rfl))]
        exact step_setTask rfl rfl (owes _)
      · next stopped =>
        refine step_drop rfl here (gives.trans ?_)
        rw [Bool.eq_false_iff.mpr stopped]
        rfl
  | start d c =>
      refine silent (by rw [givesUp, here]) (mapped (fun ch _ => ?_) run)
      exact step_setTask rfl rfl (owes _)
  | access d c =>
      refine silent (by rw [givesUp, here]) ?_
      exact mapped (fun ch _ => step_setTask (dialogue_doWrite_notice _ _ _ _ rfl) rfl (owes _)) run
  | respOk d c =>
      refine silent (by rw [givesUp, here]) (mapped (fun ch _ => ?_) run)
      have meets : (proxyOkMsg req.header c ch).Meets (.proxy, req.header) := ⟨rfl, rfl⟩
      exact step_answer rfl expects meets rfl

/-! The handlers of a session that start on its idle thread. -/

omit [DecidableEq S] [DecidableEq C] in
theorem expects_of_idle (idle : st.idle r = true) : (st.task r).expects = none := by
  rw [Server.idle] at idle
  split at idle
  · next here => rw [here]; rfl
  · cases idle

omit [DecidableEq C] in
theorem onTimeout_dialogue (idle : st.idle r = true) (run : st.onTimeout r = some st') :
    Dialogue.Step first (st.dialogue s) [] (st'.dialogue s) := by
  obtain ⟨ec, _, rfl⟩ := onTimeout_eq_some run
  have same : ((st.modSession r fun ss => { ss with timer := .idle }).dialogue s) =
      st.dialogue s := dialogue_modSession _ _ _ _ rfl
  split
  · rw [same]
    exact .quiet
  · by_cases eq : s = r
    · subst eq
      have none : (st.dialogue s).owes = none := expects_of_idle idle
      rw [dialogue_stopSession_self, same, ← none]
      exact .fail
    · rw [dialogue_stopSession_of_ne _ _ _ eq, same]
      exact .quiet

omit [DecidableEq C] in
theorem onReadHead_dialogue (idle : st.idle r = true) (run : st.onReadHead r = some st') :
    Dialogue.Step first (st.dialogue s) [] (st'.dialogue s) := by
  obtain ⟨ec, bytes, stops, read, done, checked, rfl⟩ := onReadHead_eq_some run
  by_cases eq : s = r
  · subst eq
    have none : (st.dialogue s).owes = none := expects_of_idle idle
    have step : Dialogue.Step first (st.dialogue s) [] { st.dialogue s with read } :=
      .head none done checked
    split
    · next stopped =>
      subst stopped
      rw [dialogue_stopSession_self, dialogue_modSession_self]
      dsimp only
      rw [ReadLoop.fail_of_none (ReadLoop.op_of_onReadHead rfl checked), ← none]
      exact step
    · rw [dialogue_modSession_self]
      exact step
  · split
    · rw [dialogue_stopSession_of_ne _ _ _ eq, dialogue_modSession_of_ne _ _ _ _ eq]
      exact .quiet
    · rw [dialogue_modSession_of_ne _ _ _ _ eq]
      exact .quiet

omit [DecidableEq C] in
/-- What `onReadBody` of another session does is no part of the dialogue. -/
theorem handle_dialogue_of_ne (req : Request) (other : s ≠ r) :
    (st.handle r req).dialogue s = st.dialogue s := by
  cases req with
  | none => exact dialogue_endHandler_of_ne _ _ _ other
  | login req =>
      rw [handle, onReqLogin]
      split
      · rw [dialogue_endHandler_of_ne _ _ _ other, dialogue_doWrite_of_ne _ _ _ _ other]
      · rw [dialogue_setTask_of_ne _ _ _ _ other, dialogue_modSession_of_ne _ _ _ _ other]
  | proxy req => exact dialogue_setTask_of_ne _ _ _ _ other
  | getProxies req =>
      rw [handle, dialogue_endHandler_of_ne _ _ _ other, dialogue_doWrite_of_ne _ _ _ _ other]

omit [DecidableEq C] in
/-- The handler of the body runs, up to the first cut of its call. -/
theorem onReadBody_dialogue (idle : st.idle r = true) (run : st.onReadBody r = some st') :
    Dialogue.Step first (st.dialogue s) (heard s st (.onReadBody r)) (st'.dialogue s) := by
  by_cases eq : s = r
  · subst eq
    have free : (st.dialogue s).owes = none := expects_of_idle idle
    rw [onReadBody] at run
    split at run
    · next ec n done =>
      have done : (st.dialogue s).read.op = .done .body ec n := done
      have done' : (st.session s).read.op = .done .body ec n := done
      dsimp only at run
      obtain ⟨mid, taken⟩ : ∃ mid, st.modSession s
        (fun ss => { ss with read := { ss.read with op := .none } }) = mid := ⟨_, rfl⟩
      have here : mid.dialogue s = { st.dialogue s with read := (st.dialogue s).taken } := by
        rw [← taken, dialogue_modSession_self]
        rfl
      rw [taken] at run
      split at run
      · next fails =>
        obtain rfl := Option.some.inj run
        have nothing : heard s st (.onReadBody s) = [] := by simp [heard, done', fails]
        rw [nothing, dialogue_stopSession_self, here]
        dsimp only
        rw [ReadLoop.fail_of_none rfl, ← free]
        exact .noBody free done fails
      · next succeeds =>
        have heardFrame : heard s st (.onReadBody s) =
            [.frame (st.dialogue s).read.rbuf (st.session s).sessionType] := by
          simp [heard, done', succeeds]
          rfl
        obtain ⟨rfl, pos⟩ : ec = false ∧ n ≠ 0 := by
          simpa [ReadLoop.bodyFails] using succeeds
        rw [heardFrame]
        split at run
        · next req decoded =>
          obtain rfl := Option.some.inj run
          cases req with
          | none =>
              rw [handle, dialogue_endHandler_self, here]
              dsimp only
              rw [← free]
              exact .ignore free done pos decoded _ _
          | login req =>
              rw [handle, onReqLogin]
              split
              · rw [dialogue_endHandler_self, dialogue_doWrite_self _ _ _ rfl, here]
                dsimp only
                rw [← free]
                exact .reply free done pos decoded rfl ⟨rfl, rfl⟩ rfl _ _
              · rw [dialogue_setTask_self, dialogue_modSession _ _ _ _ rfl, here]
                exact .call free done pos decoded (by rintro ⟨⟩)
          | proxy req =>
              rw [handle, dialogue_setTask_self, here]
              exact .call free done pos decoded (by rintro ⟨⟩)
          | getProxies req =>
              rw [handle, dialogue_endHandler_self, dialogue_doWrite_self _ _ _ rfl, here]
              dsimp only
              rw [← free]
              exact .reply free done pos decoded rfl ⟨rfl, rfl⟩ rfl _ _
        · cases run
    · cases run
  · have nothing : heard s st (.onReadBody r) = [] := by
      rw [heard]
      split
      · exact if_neg fun both => eq both.1.symm
      · rfl
    obtain ⟨ec, bytes, _, rfl | ⟨_, req, _, rfl⟩⟩ := onReadBody_eq_some run
    · rw [nothing, dialogue_stopSession_of_ne _ _ _ eq, dialogue_modSession_of_ne _ _ _ _ eq]
      exact .quiet
    · rw [nothing, handle_dialogue_of_ne _ eq, dialogue_modSession_of_ne _ _ _ _ eq]
      exact .quiet

/-- A channel only sends notices. -/
theorem runChannel_dialogue {c : C} {ch : CChannel S} (run : st.runChannel c ch = some st') :
    st'.dialogue s = st.dialogue s := by
  rw [runChannel] at run
  split at run
  · cases run
  · split at run <;> obtain rfl := Option.some.inj run
    · exact dialogue_setChannels _ _ _ _ _
    · rfl
  · next side ss _ =>
    obtain rfl := Option.some.inj run
    exact st.dialogue_doWrite_notice s ss (stopProxyMsg side c ch) rfl
  · obtain rfl := Option.some.inj run
    rfl

/-- Every step of the server is a step of the dialogue of each session. -/
theorem step_dialogue {cfg : Config} {a : Action S C} (consistent : st.registry.Consistent)
    (run : step cfg st a = some st') :
    Dialogue.Step (st.session s).phase.Early (st.dialogue s) (heard s st a) (st'.dialogue s) := by
  have same : st'.dialogue s = st.dialogue s →
      Dialogue.Step (st.session s).phase.Early (st.dialogue s) [] (st'.dialogue s) := by
    intro same
    rw [same]
    exact .quiet
  cases a with
  | acceptorTest r ok =>
      obtain ⟨_, rfl⟩ := acceptorTest_eq_some run
      exact same (dialogue_modSession _ _ _ _ rfl)
  | acceptorCount r =>
      obtain ⟨_, rfl⟩ := acceptorCount_eq_some run
      exact same (dialogue_modSession _ _ _ _ rfl)
  | acceptorStart r =>
      obtain ⟨counted, rfl⟩ := acceptorStart_eq_some run
      by_cases eq : s = r
      · subst eq
        have early : (st.session s).phase.Early := by
          rw [counted]
          trivial
        obtain ⟨_, fresh⟩ := (consistent s).fresh early
        have new : (st.dialogue s).read = .new := congrArg SessionCore.read fresh
        rw [dialogue_modSession_self]
        exact .start early new _
      · exact same (dialogue_modSession_of_ne _ _ _ _ eq)
  | timerExpires r =>
      obtain ⟨_, rfl⟩ := timerExpires_eq_some run
      exact same (dialogue_modSession _ _ _ _ rfl)
  | deliver r data =>
      obtain ⟨read, delivered, rfl⟩ := deliver_eq_some run
      by_cases eq : s = r
      · subst eq
        rw [heard, if_pos rfl, dialogue_modSession_self]
        exact .deliver delivered
      · rw [heard, if_neg (Ne.symm eq)]
        exact same (dialogue_modSession_of_ne _ _ _ _ eq)
  | readFails r =>
      obtain rfl := Option.some.inj run
      by_cases eq : s = r
      · subst eq
        show Dialogue.Step (st.session s).phase.Early (st.dialogue s) [] _
        rw [dialogue_modSession_self]
        exact .fail
      · exact same (dialogue_modSession_of_ne _ _ _ _ eq)
  | onTimeout r =>
      obtain ⟨idle, run⟩ := Option.ite_none_right_eq_some.mp run
      exact onTimeout_dialogue idle run
  | onReadHead r =>
      obtain ⟨idle, run⟩ := Option.ite_none_right_eq_some.mp run
      exact onReadHead_dialogue idle run
  | onReadBody r =>
      obtain ⟨idle, run⟩ := Option.ite_none_right_eq_some.mp run
      exact onReadBody_dialogue idle run
  | run r net =>
      obtain ⟨pc, here, rfl⟩ | ⟨header, pc, here, rfl⟩ | ⟨req, pc, here, run⟩ := run_cases run
      · rw [heard_run net (by rw [givesUp, here])]
        exact same (dialogue_runStop here)
      · rw [heard_run net (by rw [givesUp, here])]
        exact runLogin_dialogue here
      · exact runProxy_dialogue here run
  | writer r e =>
      obtain ⟨q, other, ran, rfl⟩ := writer_eq_some run
      refine same ?_
      by_cases eq : s = r
      · subst eq
        simp [dialogue, SendQueue.called_step other ran]
      · simp [dialogue, eq]
  | destroy r =>
      obtain ⟨_, _, rfl⟩ := destroy_eq_some run
      exact same (dialogue_modSession _ _ _ _ rfl)
  | strandStop c | socketStop c | checker c | coroExit c =>
      obtain rfl | ⟨ch, rfl⟩ := onChannel_eq_some run
      · exact same rfl
      · exact same rfl
  | runStop c =>
      obtain ⟨ch, _, run⟩ := Option.bind_eq_some_iff.mp run
      exact same (runChannel_dialogue run)
  | db e =>
      obtain ⟨ssDb, _, rfl⟩ := db_eq_some run
      exact same rfl
  | releaseServer =>
      obtain ⟨_, rfl⟩ := releaseServer_eq_some run
      exact same rfl

end Steps

end Server

end NatProxy
