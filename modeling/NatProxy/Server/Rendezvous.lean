import NatProxy.Protocol.ResponseStream
import NatProxy.Server.Link

/-!
# The two announcements of a channel

`onReqProxy` of the source calls `onRespAccess` on the destination session, whose
members `_id` and `_private_addr` are therefore the destination's own. Between this
call and the response to the source any other thread may run; the channel keeps its
id and the local endpoints of its ends, so that the two frames agree on these.
-/

namespace NatProxy

open Memory Transition

variable {S C : Type}

/-- The bytes that a response is sent as. -/
def Queued.frame (msg : Queued C) : Bytes := CRespPkt.frame (msg.pkt, msg.header)

/-- A receiver reads a response at the offsets of its format. -/
theorem Queued.decode_frame {msg : Queued C} (fits : msg.pkt.Fits) :
    decodeBody (msg.frame.drop TagPktHdr.size) msg.pkt.kind = msg.pkt :=
  (CRespPkt.carries_frame fits : Carries (msg.pkt, msg.header) msg.frame).decoded

/-! ## The local endpoints -/

namespace Link

variable [DecidableEq S] {cfg : Config} {c : C} {l l' : Link S C} {e : Event}

/-- The call that creates the channel is past `CChannel::init`. -/
def Initialised (l : Link S C) : Prop := ∀ side d c, l.creator ≠ some (.initEnd side d c)

omit [DecidableEq S] in
/-- An end is replaced by one with the same local endpoint. -/
theorem localEp_setEnd {ch : CChannel S} {side : Side} {x : CEnd S}
    (same : x.localEp = (ch.ends side).localEp) (other : Side) :
    ((ch.setEnd side x).ends other).localEp = (ch.ends other).localEp := by
  by_cases eq : other = side
  · subst eq
    simpa [CChannel.setEnd] using same
  · simp [CChannel.setEnd, eq]

/-- Only `CChannel::init` assigns the local endpoints. -/
theorem Step.localEp (step : Step cfg c l e l') (h : l.Initialised) :
    l'.Initialised ∧ ∀ side, (l'.ch.ends side).localEp = (l.ch.ends side).localEp := by
  have kept : ∀ {ch : CChannel S}, ch.ends = l.ch.ends →
      ∀ side, (ch.ends side).localEp = (l.ch.ends side).localEp := by
    intro ch same side
    rw [same]
  cases step with
  | initEnd here | initFails here => exact absurd here (h _ _ _)
  | stopsLink here own maybe =>
      refine ⟨h, ?_⟩
      obtain rfl | rfl := maybe <;> exact kept rfl
  | addSrc | srcTaken | addDst | dstTaken | undoRemove | undoNotify | lockDst | dstGone | checkDst
  | dstStopped | access | respOk => exact ⟨nofun, kept rfl⟩
  | fail => exact ⟨nofun, kept (by simp)⟩
  | startChannel => exact ⟨nofun, kept (by simp)⟩
  | strandStop | socketStop | exit => exact ⟨h, kept (by simp)⟩
  | checkerDone => exact ⟨h, localEp_setEnd rfl⟩
  | expires => exact ⟨h, localEp_setEnd rfl⟩
  | finish => exact ⟨h, fun _ => rfl⟩
  | _ => exact ⟨h, kept rfl⟩

end Link

namespace Server

variable [DecidableEq S] [DecidableEq C] {cfg : Config} {st st' : Server S C} {c : C}
variable {ch : CChannel S}

/-- In every run the channel keeps its id and its local endpoints, from the end of
`CChannel::init` on. -/
theorem channel_of_exec {as : List (Action S C)} (reached : (system cfg).Reachable st)
    (run : (system cfg).Exec st as st') (found : st.channel c = some ch)
    (init : (st.channels.link c ch).Initialised) :
    ∃ ch', st'.channel c = some ch' ∧ ch'.id = ch.id ∧
      ∀ side, (ch'.ends side).localEp = (ch.ends side).localEp := by
  induction run generalizing ch with
  | nil => exact ⟨ch, found, rfl, fun _ => rfl⟩
  | @cons st mid _ a _ step _ ih =>
      obtain same | moved := (channels_mapping cfg).step _ _ _ reached step
      · have channel : mid.channel = st.channel := congrArg Channels.channel same
        refine ih (reached.next step) (by rwa [channel]) ?_
        rwa [same]
      · have wired := wired_of_reachable reached
        obtain ⟨ch₁, found₁, link⟩ := moved.follows wired found
        obtain ⟨_, again, _, id⟩ := moved.keeps found
        obtain rfl := Option.some.inj (found₁.symm.trans again)
        obtain ⟨init₁, ends⟩ : (mid.channels.link c ch₁).Initialised ∧
            ∀ side, (ch₁.ends side).localEp = (ch.ends side).localEp := by
          obtain same | ⟨e, next, _⟩ := link
          · have eq : ch₁ = ch := congrArg Link.ch same
            exact ⟨same ▸ init, fun side => by rw [eq]⟩
          · exact next.localEp init
        obtain ⟨ch', found', id', ends'⟩ := ih (reached.next step) found₁ init₁
        exact ⟨ch', found', id'.trans id, fun side => (ends' side).trans (ends side)⟩

/-! ## The two frames -/

/-- The step queues one response to the session, which is serialized to the frame. -/
def Emits (st st' : Server S C) (s : S) (frame : Bytes) : Prop :=
  ∃ msg, (st'.sendq s).called = (st.sendq s).called ++ [msg] ∧
    msg.pkt.serialize msg.header = .ok frame

/-- A successful request of `s` for a channel to `d`. The call comes to
`onRespAccess` in `st`, and to `onRespProxyOk` in `st₂`. -/
structure Succeeds (cfg : Config) (s d : S) (req : CReqProxyPkt) (c : C)
    (st st₁ st₂ st₃ : Server S C) : Prop where
  reached : (system cfg).Reachable st
  access : st.task s = .proxy req (.access d c)
  announced : ∃ net, step cfg st (.run s net) = some st₁
  /-- Other threads run in between. -/
  between : ∃ as, (system cfg).Exec st₁ as st₂
  respOk : st₂.task s = .proxy req (.respOk d c)
  answered : ∃ net, step cfg st₂ (.run s net) = some st₃

/-- What the receivers of the two frames read at the offsets of their formats. -/
structure Rendezvous (ss : SessionCore) (ch : CChannel S) (access response : Bytes) : Prop where
  func : (TagPktHdr.ofBytes access).ucFunc = FUNC.RESP.ACCESS
  access : decodeBody (access.drop TagPktHdr.size) .access = .access {
    uiSrcId := ss.id
    uiUdpId := ch.id
    uiUdpAddr := (ch.ends .dst).localEp.addr
    usUdpPort := hostToNetworkShort (ch.ends .dst).localEp.port
    uiPrivateAddr := ss.privateAddr }
  response : decodeBody (response.drop TagPktHdr.size) .proxy = .proxy {
    ucErr := ERRCODE.SUCCESS
    uiUdpId := ch.id
    uiUdpAddr := (ch.ends .src).localEp.addr
    usUdpPort := hostToNetworkShort (ch.ends .src).localEp.port }

omit [DecidableEq S] [DecidableEq C] in
theorem emits_of_called {s : S} {msg : Queued C} (fits : msg.pkt.Fits)
    (called : st'.channels.called s = st.channels.called s ++ [msg]) :
    st.Emits st' s (msg.frame) :=
  ⟨msg, called, CRespPkt.serialize_eq fits msg.header⟩

/-- The call queues the ACCESS, with the members of the destination. -/
theorem emits_access {s d : S} {req : CReqProxyPkt} {net : Net C}
    (here : st.task s = .proxy req (.access d c)) (run : step cfg st (.run s net) = some st')
    (found : st.channel c = some ch) {msg : Queued C}
    (built : accessMsg req.header (st.session d).toSessionCore c ch = msg) :
    st.Emits st' d (msg.frame) := by
  simp only [step, here, runProxy, found, Option.map_some, Option.some.injEq] at run
  subst built run
  refine emits_of_called trivial ?_
  rw [channels_setTask, channels_doWrite]
  exact Function.update_self ..

/-- The call queues the response to the source. -/
theorem emits_response {s d : S} {req : CReqProxyPkt} {net : Net C}
    (here : st.task s = .proxy req (.respOk d c)) (run : step cfg st (.run s net) = some st')
    (found : st.channel c = some ch) {msg : Queued C} (built : proxyOkMsg req.header c ch = msg) :
    st.Emits st' s (msg.frame) := by
  simp only [step, here, runProxy, found, Option.map_some, Option.some.injEq] at run
  subst built run
  refine emits_of_called trivial ?_
  rw [channels_endHandler, channels_release, channels_setChannel, channels_doWrite]
  exact Function.update_self ..

/-- While the call queues its announcements, the channel is initialised. -/
theorem initialised_of_access {s d : S} {req : CReqProxyPkt} (reached : (system cfg).Reachable st)
    (here : st.task s = .proxy req (.access d c)) :
    ∃ ch, st.channel c = some ch ∧ (st.channels.link c ch).Initialised := by
  have task : st.channels.task s = .proxy req (.access d c) := congrArg Task.channels here
  obtain ⟨ch, found, src, _⟩ :=
    ((wired_of_reachable reached).callers s).maker req _ c task rfl
  refine ⟨ch, found, fun side d' c' call => ?_⟩
  change (st.channels.task (ch.ss .src)).creates c = _ at call
  rw [src, task] at call
  obtain ⟨_, eq, _⟩ := ChanTask.creates_eq_some.mp call
  cases eq

omit [DecidableEq S] [DecidableEq C] in
theorem Emits.unique {s : S} {frame frame' : Bytes} (h : st.Emits st' s frame)
    (h' : st.Emits st' s frame') : frame = frame' := by
  obtain ⟨msg, called, serialized⟩ := h
  obtain ⟨msg', called', serialized'⟩ := h'
  have same := List.append_cancel_left (called.symm.trans called')
  obtain rfl := List.singleton_inj.mp same
  exact Except.ok.inj (serialized.symm.trans serialized')

section Success

variable {s d : S} {req : CReqProxyPkt} {st₁ st₂ st₃ : Server S C} {access response : Bytes}

/-- The receiver of the ACCESS reads the members of the destination. -/
theorem Succeeds.same_of_rendezvous (success : Succeeds cfg s d req c st st₁ st₂ st₃)
    (emits : st.Emits st₁ d access)
    (rendezvous : Rendezvous (st.session s).toSessionCore ch access response) :
    (st.session d).id = (st.session s).id ∧
      (st.session d).privateAddr = (st.session s).privateAddr := by
  obtain ⟨net, announced⟩ := success.announced
  obtain ⟨ch', found, _⟩ := initialised_of_access success.reached success.access
  have frame := emits_access success.access announced found rfl
  obtain rfl := frame.unique emits
  have read : decodeBody ((accessMsg req.header (st.session d).toSessionCore c ch').frame.drop
      TagPktHdr.size) .access = _ := Queued.decode_frame trivial
  have same := read.symm.trans rendezvous.access
  simp only [accessMsg, CRespPkt.access.injEq, CRespAccess.mk.injEq] at same
  exact ⟨same.1, same.2.2.2.2⟩

/-- The two frames of a successful request agree on the channel and on its local
endpoints. The ACCESS shows the id and the private address of the source exactly if
the destination has the same ones. -/
theorem rendezvous_iff (success : Succeeds cfg s d req c st st₁ st₂ st₃) :
    ∃ ch access response, st.channel c = some ch ∧ st.Emits st₁ d access ∧
      st₂.Emits st₃ s response ∧
      (Rendezvous (st.session s).toSessionCore ch access response ↔
        (st.session d).id = (st.session s).id ∧
          (st.session d).privateAddr = (st.session s).privateAddr) := by
  obtain ⟨net, announced⟩ := success.announced
  obtain ⟨as, between⟩ := success.between
  obtain ⟨net', answered⟩ := success.answered
  obtain ⟨ch, found, init⟩ := initialised_of_access success.reached success.access
  obtain ⟨ch', found', id, ends⟩ :=
    channel_of_exec success.reached (.cons announced between) found init
  have access := emits_access success.access announced found rfl
  have response := emits_response success.respOk answered found' rfl
  refine ⟨ch, _, _, found, access, response, success.same_of_rendezvous access, ?_⟩
  rintro ⟨sameId, sameAddr⟩
  refine ⟨congrArg TagPktHdr.ucFunc (TagPktHdr.ofBytes_toBytes_append _ _), ?_, ?_⟩
  · have read : decodeBody ((accessMsg req.header (st.session d).toSessionCore c ch).frame.drop
        TagPktHdr.size) .access = _ := Queued.decode_frame trivial
    rw [read, accessMsg, sameId, sameAddr]
  · have read : decodeBody ((proxyOkMsg req.header c ch').frame.drop TagPktHdr.size) .proxy = _ :=
      Queued.decode_frame trivial
    rw [read, proxyOkMsg, id, ends .src]

end Success

/-- The request that `proxyFrame` is decoded to. -/
def proxyRequest (dstId : UInt32) : CReqProxyPkt where
  header := TagPktHdr.ofBytes (proxyFrame dstId).1
  uiId := 0
  uiDstId := dstId
  szGameId := []

/-- A run up to `onRespAccess` after which the call goes on at once. -/
theorem exists_succeeds (cfg : Config) (as : List (Action S C)) (s d : S) (req : CReqProxyPkt)
    (c : C) (net : Net C) {P : Server S C → Prop}
    (check : ∃ st ∈ System.runSteps (step cfg) new as,
      (st.task s = .proxy req (.access d c) ∧ P st) ∧ ∃ st₁ ∈ step cfg st (.run s net),
        st₁.task s = .proxy req (.respOk d c) ∧ (step cfg st₁ (.run s net)).isSome = true) :
    ∃ st st₁ st₃, Succeeds cfg s d req c st st₁ st₁ st₃ ∧ P st := by
  obtain ⟨st, reached, ⟨access, found⟩, st₁, announced, respOk, answers⟩ :=
    reachable_of_run cfg as check
  obtain ⟨st₃, answered⟩ := Option.isSome_iff_exists.mp answers
  exact ⟨st, st₁, st₃, ⟨reached, access, ⟨net, announced⟩, ⟨[], .nil _⟩, respOk,
    ⟨net, answered⟩⟩, found⟩

/-- A session of both types asks for a channel to itself. -/
theorem rendezvous_of_itself : ∃ (st st₁ st₃ : Server (Fin 2) (Fin 1)) (ch : CChannel (Fin 2))
    (access response : Bytes), st.Emits st₁ 0 access ∧ st₁.Emits st₃ 0 response ∧
      Rendezvous (st.session 0).toSessionCore ch access response := by
  obtain ⟨st, st₁, st₃, success, _⟩ :=
    exists_succeeds (S := Fin 2) ⟨0, 0, 0⟩
      (accept 0 ++ receive 0 (loginFrame [0x41] 3) ++ go 0 6 ++ receive 0 (proxyFrame 1000) ++
        go 0 9) 0 0 (proxyRequest 1000) 0 (.success 0) (P := fun _ => True) (by decide +kernel)
  obtain ⟨ch, access, response, _, toDst, toSrc, rendezvous⟩ := rendezvous_iff success
  exact ⟨st, st₁, st₃, ch, access, response, toDst, toSrc, rendezvous.mpr ⟨rfl, rfl⟩⟩

/-- The destination is told its own id as that of the source. -/
theorem not_always_rendezvous : ¬ ∀ (cfg : Config) (s d : Fin 2) (req : CReqProxyPkt) (c : Fin 1)
    (st st₁ st₂ st₃ : Server (Fin 2) (Fin 1)), Succeeds cfg s d req c st st₁ st₂ st₃ →
      ∃ ch access response, st.channel c = some ch ∧ st.Emits st₁ d access ∧
        st₂.Emits st₃ s response ∧
        Rendezvous (st.session s).toSessionCore ch access response := by
  intro always
  obtain ⟨st, st₁, st₃, success, ids⟩ :=
    exists_succeeds ⟨0, 0, 0⟩ (requestChannel ++ go 0 9) 0 1 (proxyRequest 1001) 0 (.success 0)
      (P := fun st => (st.session 1).id ≠ (st.session 0).id) (by decide +kernel)
  obtain ⟨ch, access, response, _, toDst, _, rendezvous⟩ := always _ _ _ _ _ _ _ _ _ success
  exact ids (success.same_of_rendezvous toDst rendezvous).1

end Server

end NatProxy
