import NatProxy.Server.Dialogue
import NatProxy.Session.Framing
import NatProxy.Session.Grammar

/-!
# Requests and replies

The bytes that a session takes from its connection are frames, and each frame that has
arrived reaches the switch once and in its turn. The replies follow the frames in order:
each carries the header of the request that it answers, none answers a frame twice, and
only the frames that ask for nothing, and the PROXY requests that `onReqProxy` gives up, go
without one. This holds for every session whatever the others do, since they only send it
notices.
-/

namespace NatProxy

open Memory Transition

variable {S C : Type}

/-! ## What the frames ask for -/

/-- The function code of a request, or of a notice. -/
def RespKind.func : RespKind → UInt8
  | .login => FUNC.REQ.LOGIN
  | .proxy => FUNC.REQ.PROXY
  | .getProxies => FUNC.REQ.GETPROXIES
  | .access => FUNC.RESP.ACCESS
  | .stopProxy => FUNC.RESP.STOPPROXY

/-- The frame, sent to a session of the type, asks for the reply. -/
structure Asks (e : Frame × UInt32) (expected : RespKind × TagPktHdr) : Prop where
  header : expected.2 = e.1.hdr
  func : e.1.hdr.ucFunc = expected.1.func
  may : expected.1 ≠ .login → mayRequest e.2 = true
  reply : expected.1.isReply = true

/-- The frame asks for no reply: it is no LOGIN, and a PROXY or a GETPROXIES only when the type
may not ask. -/
structure AsksNothing (e : Frame × UInt32) : Prop where
  login : e.1.hdr.ucFunc ≠ FUNC.REQ.LOGIN
  proxy : e.1.hdr.ucFunc = FUNC.REQ.PROXY → mayRequest e.2 = false
  getProxies : e.1.hdr.ucFunc = FUNC.REQ.GETPROXIES → mayRequest e.2 = false

namespace Frame

variable (f : Frame)

/-- The header of a decoded request is that of its frame. -/
theorem header_login {ok : Bool} {req : CReqLoginPkt}
    (decoded : CReqLoginPkt.new.deserialize f.bytes = .ok (ok, req)) : req.header = f.hdr := by
  rw [f.login_bytes] at decoded
  obtain ⟨_, _, decoded⟩ := bind_eq_ok_iff.mp decoded
  dsimp only at decoded
  split at decoded
  · cases decoded
    rfl
  · obtain ⟨_, _, decoded⟩ := bind_eq_ok_iff.mp decoded
    obtain ⟨_, _, decoded⟩ := bind_eq_ok_iff.mp decoded
    -- whatever the type is read from
    split at decoded
    · cases decoded
      rfl
    · split at decoded
      · obtain ⟨_, _, decoded⟩ := bind_eq_ok_iff.mp decoded
        cases decoded
        rfl
      · cases decoded
        rfl

theorem header_proxy {ok : Bool} {req : CReqProxyPkt} (body : f.hasBody = true)
    (decoded : CReqProxyPkt.new.deserialize f.bytes = .ok (ok, req)) : req.header = f.hdr := by
  have pos : 1 ≤ f.body.length := by
    rw [f.length_body]
    exact of_decide_eq_true body
  rw [f.proxy_bytes pos] at decoded
  obtain ⟨_, _, decoded⟩ := bind_eq_ok_iff.mp decoded
  obtain ⟨_, _, decoded⟩ := bind_eq_ok_iff.mp decoded
  obtain ⟨_, _, decoded⟩ := bind_eq_ok_iff.mp decoded
  dsimp only at decoded
  split at decoded
  · cases decoded
    rfl
  · obtain ⟨_, _, decoded⟩ := bind_eq_ok_iff.mp decoded
    cases decoded
    rfl

theorem header_getProxies {ok : Bool} {req : CReqGetProxiesPkt}
    (decoded : CReqGetProxiesPkt.deserialize f.bytes = .ok (ok, req)) : req.header = f.hdr := by
  rw [CReqGetProxiesPkt.deserialize, f.copy_header, ok_bind] at decoded
  obtain ⟨_, _, decoded⟩ := bind_eq_ok_iff.mp decoded
  cases decoded
  exact f.ofBytes_toBytes

/-- The switch takes a frame for what it asks for. -/
theorem asks_of_dispatch {sessionType : UInt32} {req : Request}
    {expected : RespKind × TagPktHdr} (body : f.hasBody = true)
    (decoded : dispatch sessionType f.hdr f.bytes = .ok req)
    (expects : req.expects = some expected) : Asks (f, sessionType) expected := by
  have func := dispatch_cases decoded
  obtain ⟨_, _, decoded⟩ := bind_eq_ok_iff.mp decoded
  cases req with
  | none => cases expects
  | login req =>
      obtain rfl := Option.some.inj expects
      refine ⟨?_, func, fun other => absurd rfl other, rfl⟩
      rw [func, if_neg (by decide), if_pos rfl] at decoded
      obtain ⟨⟨ok, pkt⟩, read, same⟩ := bind_eq_ok_iff.mp decoded
      cases same
      exact f.header_login read
  | proxy req =>
      obtain rfl := Option.some.inj expects
      refine ⟨?_, func.1, fun _ => func.2, rfl⟩
      rw [func.1, if_neg (by decide), if_neg (by decide), if_pos rfl, if_pos func.2] at decoded
      obtain ⟨⟨ok, pkt⟩, read, same⟩ := bind_eq_ok_iff.mp decoded
      cases same
      exact f.header_proxy body read
  | getProxies req =>
      obtain rfl := Option.some.inj expects
      refine ⟨?_, func.1, fun _ => func.2, rfl⟩
      rw [func.1, if_neg (by decide), if_neg (by decide), if_neg (by decide), if_pos rfl,
        if_pos func.2] at decoded
      obtain ⟨⟨ok, pkt⟩, read, same⟩ := bind_eq_ok_iff.mp decoded
      cases same
      exact f.header_getProxies read

theorem asksNothing_of_dispatch {sessionType : UInt32}
    (decoded : dispatch sessionType f.hdr f.bytes = .ok .none) : AsksNothing (f, sessionType) := by
  obtain ⟨_, _, decoded⟩ := bind_eq_ok_iff.mp decoded
  constructor
  · intro login
    change f.hdr.ucFunc = _ at login
    rw [login] at decoded
    obtain ⟨_, _, same⟩ := bind_eq_ok_iff.mp decoded
    cases same
  · intro proxy
    change f.hdr.ucFunc = _ at proxy
    rw [proxy, if_neg (by decide), if_neg (by decide), if_pos rfl] at decoded
    split at decoded
    · obtain ⟨_, _, same⟩ := bind_eq_ok_iff.mp decoded
      cases same
    · next no => exact Bool.eq_false_iff.mpr no
  · intro getProxies
    change f.hdr.ucFunc = _ at getProxies
    rw [getProxies, if_neg (by decide), if_neg (by decide), if_neg (by decide), if_pos rfl]
      at decoded
    split at decoded
    · obtain ⟨_, _, same⟩ := bind_eq_ok_iff.mp decoded
      cases same
    · next no => exact Bool.eq_false_iff.mpr no

end Frame

/-- The frames that reached the switch, with the type of the session at that time and a mark
if they were given up, and the replies: each frame is answered before the next one, unless it
asks for nothing or is a PROXY that was given up. -/
inductive Conversation : List ((Frame × UInt32) × Bool) → List (Queued C) → Prop
  | nil : Conversation [] []
  | answered {es msgs e msg} : Conversation es msgs → Asks e (msg.pkt.kind, msg.header) →
      Conversation (es ++ [(e, false)]) (msgs ++ [msg])
  | ignored {es msgs e} : Conversation es msgs → AsksNothing e →
      Conversation (es ++ [(e, false)]) msgs
  | givenUp {es msgs e header} : Conversation es msgs → Asks e (.proxy, header) →
      Conversation (es ++ [(e, true)]) msgs

/-! ## The invariant -/

namespace Dialogue

/-- What the session has taken from the connection behind the last frame: nothing while a
handler runs, and else the header or the frame in `_rbuf`. -/
def Remains (d : Dialogue C) (rest : Bytes) : Prop :=
  match d.owes, d.read.op with
  | some _, op => op = .none ∧ rest = [] ∧
      d.read.rbuf.length = TagPktHdr.size + d.read.hdr.usBodyLen.toNat
  | none, .none => rest.length ≤ TagPktHdr.size
  | none, .reading .head | none, .done .head true _ => rest = [] ∧ d.read.rbuf = []
  | none, .done .head false _ => rest = d.read.rbuf ∧ rest.length = TagPktHdr.size
  | none, .reading .body | none, .done .body true _ =>
      rest = d.read.rbuf ∧ rest = d.read.hdr.toBytes ∧ d.read.hdr.valid = true
  | none, .done .body false n => ∃ f : Frame, f.hdr = d.read.hdr ∧ f.good = true ∧
      n = f.hdr.usBodyLen.toNat ∧ d.read.rbuf = f.bytes ∧ rest = f.bytes

/-- The replies so far; the last frame may still be owed one. -/
def Spoken (d : Dialogue C) (es : List ((Frame × UInt32) × Bool)) : Prop :=
  match d.owes with
  | none => Conversation es d.replies
  | some expected => ∃ before e, es = before ++ [(e, false)] ∧ Conversation before d.replies ∧
      Asks e expected

/-- The turn of a frame, as `Heard.turns` has it. -/
def turn (e : (Frame × UInt32) × Bool) : (Bytes × UInt32) × Bool := ((e.1.1.bytes, e.1.2), e.2)

/-- What the peer has contributed is the frames and what remains. -/
structure Held (d : Dialogue C) (log : List Heard) (es : List ((Frame × UInt32) × Bool))
    (rest : Bytes) : Prop where
  turns : Heard.turns log = es.map turn
  served : ∀ e ∈ es, e.1.1.good = true ∧ e.1.1.hasBody = true
  bytes : log.flatMap Heard.data = Frame.stream (es.map fun e => e.1.1) ++ rest
  remains : d.Remains rest
  spoken : d.Spoken es

namespace Held

variable {first : Prop} {d d' : Dialogue C} {log heard : List Heard}
  {es : List ((Frame × UInt32) × Bool)} {rest : Bytes}

/-- The peer contributes nothing. -/
theorem keep (h : d.Held log es rest) (remains : d'.Remains rest) (spoken : d'.Spoken es) :
    d'.Held (log ++ []) es rest := by
  rw [List.append_nil]
  exact ⟨h.turns, h.served, h.bytes, remains, spoken⟩

/-- A frame reaches the switch. -/
theorem serve (h : d.Held log es rest) {n : Nat} (idle : d.owes = none)
    (done : d.read.op = .done .body false n) (pos : n ≠ 0) (sessionType : UInt32) :
    ∃ f : Frame, f.hasBody = true ∧ d.read.hdr = f.hdr ∧ d.read.rbuf = f.bytes ∧
      ∀ d' : Dialogue C, d'.Remains [] → d'.Spoken (es ++ [((f, sessionType), false)]) →
        d'.Held (log ++ [Heard.frame d.read.rbuf sessionType])
          (es ++ [((f, sessionType), false)]) [] := by
  have remains := h.remains
  simp only [Remains, idle, done] at remains
  obtain ⟨f, hdr, good, size, buffer, rfl⟩ := remains
  have body : f.hasBody = true := decide_eq_true (by omega)
  refine ⟨f, body, hdr.symm, buffer, fun d' remains spoken => ⟨?_, ?_, ?_, remains, spoken⟩⟩
  · rw [Heard.turns_append, h.turns, List.map_append, buffer]
    rfl
  · intro e mem
    obtain mem | last := List.mem_append.mp mem
    · exact h.served e mem
    · obtain rfl := List.mem_singleton.mp last
      exact ⟨good, body⟩
  · rw [List.flatMap_append, h.bytes, List.map_append, Frame.stream, Frame.stream,
      List.flatMap_append]
    simp [Heard.data]

/-- The end of `onReadBody` leaves an empty buffer. -/
theorem remains_finishBody {read : ReadLoop} {replies : List (Queued C)} (none : read.op = .none)
    (size : read.rbuf.length = TagPktHdr.size + read.hdr.usBodyLen.toNat)
    (started isOpen : Bool) :
    Remains ⟨read.finishBody started isOpen, Option.none, replies⟩ [] := by
  have empty : read.rbuf.drop (TagPktHdr.size + read.hdr.usBodyLen.toNat) = [] :=
    List.drop_eq_nil_of_le (Nat.le_of_eq size)
  cases started <;> cases isOpen <;>
    simp [Remains, ReadLoop.finishBody, ReadLoop.doRead, ReadLoop.asyncRead, empty, none]

theorem buffer_size {f : Frame} (hdr : d.read.hdr = f.hdr) (buffer : d.read.rbuf = f.bytes) :
    d.read.rbuf.length = TagPktHdr.size + d.read.hdr.usBodyLen.toNat := by
  rw [hdr, buffer, f.length_bytes]

/-- The outstanding read fails. -/
theorem remains_fail (h : d.Remains rest) : Remains { d with read := d.read.fail } rest := by
  cases owes : d.owes with
  | some expected =>
      simp only [Remains, owes] at h ⊢
      rw [ReadLoop.fail_of_none h.1]
      exact h
  | none =>
      cases op : d.read.op with
      | none =>
          rw [ReadLoop.fail_of_none op, ← owes]
          exact h
      | reading part =>
          cases part <;>
          · simp only [Remains, owes, op, ReadLoop.fail] at h ⊢
            exact h
      | done part ec n =>
          have same : d.read.fail = d.read := by rw [ReadLoop.fail, op]
          rw [same, ← owes]
          exact h

/-- A read takes its bytes. -/
theorem remains_deliver {data : Bytes} {read : ReadLoop} (h : d.Remains rest)
    (delivered : d.read.deliver data = some read) :
    Remains { d with read } (rest ++ data) := by
  rw [ReadLoop.deliver] at delivered
  split at delivered
  · next part op =>
    obtain ⟨whole, same⟩ := Option.ite_none_right_eq_some.mp delivered
    obtain rfl := Option.some.inj same
    cases owes : d.owes with
    | some expected =>
        simp only [Remains, owes] at h
        cases op.symm.trans h.1
    | none =>
        cases part with
        | head =>
            simp only [Remains, owes, op] at h
            obtain ⟨rfl, empty⟩ := h
            simp only [Remains, empty, List.nil_append]
            exact ⟨trivial, whole⟩
        | body =>
            simp only [Remains, owes, op] at h
            obtain ⟨rfl, header, valid⟩ := h
            simp only [Remains]
            refine ⟨⟨d.read.hdr, data, whole⟩, rfl, valid, whole, ?_, ?_⟩ <;>
              rw [header, Frame.bytes]
  · cases delivered

/-- The handler of a header stops, or it asks for the body. -/
theorem remains_head {ec isOpen stops : Bool} {n : Nat} {read : ReadLoop} (h : d.Remains rest)
    (idle : d.owes = none) (done : d.read.op = .done .head ec n)
    (checked : d.taken.onReadHead isOpen ec n = (stops, read)) :
    Remains { d with read } rest := by
  have short : rest.length ≤ TagPktHdr.size := by
    cases ec <;> simp only [Remains, idle, done] at h
    · exact Nat.le_of_eq h.2
    · rw [h.1]
      exact Nat.zero_le _
  have stopped : ∀ r : ReadLoop, r.op = .none → Remains { d with read := r } rest := by
    intro r none
    simp only [Remains, idle, none]
    exact short
  rw [ReadLoop.onReadHead] at checked
  split at checked
  · cases checked
    exact stopped _ rfl
  · next succeeds =>
    obtain rfl : ec = false := by
      cases ec
      · rfl
      · simp at succeeds
    simp only [Remains, idle, done] at h
    obtain ⟨rfl, size⟩ := h
    rw [ReadLoop.checkHead] at checked
    split at checked
    · next rest bad =>
      cases checked
      split at bad <;> cases bad
      exact stopped _ rfl
    · next checkedHead ok =>
      cases checked
      split at ok
      · next valid =>
        cases ok
        have header := TagPktHdr.toBytes_ofBytes size
        cases isOpen <;> simp only [Remains, idle, ReadLoop.asyncRead] <;>
          exact ⟨rfl, header.symm, valid⟩
      · cases ok

/-- The read of a body has failed, or there was none to read. -/
theorem remains_noBody {ec : Bool} {n : Nat} (h : d.Remains rest) (idle : d.owes = none)
    (done : d.read.op = .done .body ec n) (fails : ReadLoop.bodyFails ec n = true) :
    Remains { d with read := d.taken } rest := by
  simp only [Remains, idle, taken]
  cases ec with
  | true =>
      simp only [Remains, idle, done] at h
      rw [h.2.1]
      exact Nat.le_of_eq (TagPktHdr.length_toBytes _)
  | false =>
      simp only [Remains, idle, done] at h
      obtain ⟨f, _, _, rfl, _, rfl⟩ := h
      have none : f.hdr.usBodyLen.toNat = 0 := by simpa [ReadLoop.bodyFails] using fails
      rw [f.length_bytes, none, Nat.add_zero]

/-- Each step keeps the dialogue; it starts before anything has been heard. -/
theorem step (h : d.Held log es rest) (step : Step first d heard d') (silent : first → log = []) :
    ∃ es' rest', d'.Held (log ++ heard) es' rest' := by
  have none : d.taken.op = .none := rfl
  cases step with
  | quiet => exact ⟨es, rest, h.keep h.remains h.spoken⟩
  | fail => exact ⟨es, rest, h.keep (remains_fail h.remains) h.spoken⟩
  | start now fresh isOpen =>
      have nothing := h.bytes
      rw [silent now] at nothing
      obtain rfl := (List.append_eq_nil_iff.mp nothing.symm).2
      refine ⟨es, [], h.keep ?_ h.spoken⟩
      cases owes : d.owes with
      | some expected =>
          have size := h.remains
          simp only [Remains, owes, fresh, ReadLoop.new, TagPktHdr.size, List.length_nil] at size
          omega
      | none => cases isOpen <;> simp [Remains, fresh, ReadLoop.new, ReadLoop.asyncRead]
  | @deliver data read delivered =>
      refine ⟨es, rest ++ data, ?_, h.served, ?_, remains_deliver h.remains delivered, h.spoken⟩
      · rw [Heard.turns_append, h.turns]
        rfl
      · rw [List.flatMap_append, h.bytes, List.append_assoc]
        simp [Heard.data]
  | head idle done checked =>
      exact ⟨es, rest, h.keep (remains_head h.remains idle done checked) h.spoken⟩
  | noBody idle done fails =>
      exact ⟨es, rest, h.keep (remains_noBody h.remains idle done fails) h.spoken⟩
  | @ignore n sessionType idle done pos decoded started isOpen =>
      obtain ⟨f, body, hdr, buffer, held⟩ := h.serve idle done pos sessionType
      have spoken := h.spoken
      simp only [Spoken, idle] at spoken
      rw [hdr, buffer] at decoded
      refine ⟨_, _, held _ ?_ ?_⟩
      · rw [idle]
        exact remains_finishBody none (buffer_size hdr buffer) started isOpen
      · simp only [Spoken, idle]
        exact .ignored spoken (f.asksNothing_of_dispatch decoded)
  | @call n sessionType req idle done pos decoded request =>
      obtain ⟨f, body, hdr, buffer, held⟩ := h.serve idle done pos sessionType
      have spoken := h.spoken
      simp only [Spoken, idle] at spoken
      rw [hdr, buffer] at decoded
      obtain ⟨expected, expects⟩ : ∃ expected, req.expects = some expected := by
        cases req with
        | none => exact absurd rfl request
        | _ => exact ⟨_, rfl⟩
      refine ⟨_, _, held _ ?_ ?_⟩
      · simp only [Remains, expects]
        exact ⟨none, trivial, buffer_size hdr buffer⟩
      · simp only [Spoken, expects]
        exact ⟨es, _, rfl, spoken, f.asks_of_dispatch body decoded expects⟩
  | @reply n sessionType req expected msg idle done pos decoded expects meets reply started
      isOpen =>
      obtain ⟨f, body, hdr, buffer, held⟩ := h.serve idle done pos sessionType
      have spoken := h.spoken
      simp only [Spoken, idle] at spoken
      rw [hdr, buffer] at decoded
      refine ⟨_, _, held _ ?_ ?_⟩
      · rw [idle]
        exact remains_finishBody none (buffer_size hdr buffer) started isOpen
      · simp only [Spoken, idle]
        refine .answered spoken ?_
        rw [meets.1, meets.2]
        exact f.asks_of_dispatch body decoded expects
  | @answer expected msg owes meets started isOpen =>
      have remains := h.remains
      have spoken := h.spoken
      simp only [Remains, Spoken, owes] at remains spoken
      obtain ⟨none, rfl, size⟩ := remains
      obtain ⟨before, e, rfl, spoken, asks⟩ := spoken
      refine ⟨_, _, h.keep (remains_finishBody none size started isOpen) (.answered spoken ?_)⟩
      rw [meets.1, meets.2]
      exact asks
  | @drop header owes started isOpen =>
      have remains := h.remains
      have spoken := h.spoken
      simp only [Remains, Spoken, owes] at remains spoken
      obtain ⟨none, rfl, size⟩ := remains
      obtain ⟨before, e, rfl, spoken, asks⟩ := spoken
      refine ⟨before ++ [(e, true)], [], ?_, ?_, ?_, remains_finishBody none size started isOpen,
        .givenUp spoken asks⟩
      · rw [Heard.turns_append, h.turns, List.map_append, List.map_append, List.foldl_cons,
          List.foldl_nil, Heard.note, List.map_singleton, List.modifyLast_concat]
        rfl
      · intro e' mem
        obtain mem | last := List.mem_append.mp mem
        · exact h.served e' (List.mem_append_left _ mem)
        · obtain rfl := List.mem_singleton.mp last
          exact h.served (e, false) (List.mem_append_right _ (List.mem_singleton_self _))
      · rw [List.flatMap_append, h.bytes, List.map_append, List.map_append]
        simp [Heard.data]

/-- Behind the last frame there is at most a header, or the next frame, whose handler is
queued. -/
theorem rest_cases (h : d.Held log es rest) :
    rest.length ≤ TagPktHdr.size ∨
      ∃ (f : Frame) (n : Nat), d.read.op = .done .body false n ∧ f.good = true ∧
        rest = f.bytes := by
  have remains := h.remains
  cases owes : d.owes with
  | some expected =>
      simp only [Remains, owes] at remains
      rw [remains.2.1]
      exact .inl (Nat.zero_le _)
  | none =>
      cases op : d.read.op with
      | none =>
          simp only [Remains, owes, op] at remains
          exact .inl remains
      | reading part =>
          cases part <;> simp only [Remains, owes, op] at remains
          · rw [remains.1]
            exact .inl (Nat.zero_le _)
          · rw [remains.2.1]
            exact .inl (Nat.le_of_eq (TagPktHdr.length_toBytes _))
      | done part ec n =>
          cases part <;> cases ec <;> simp only [Remains, owes, op] at remains
          · exact .inl (Nat.le_of_eq remains.2)
          · rw [remains.1]
            exact .inl (Nat.zero_le _)
          · obtain ⟨f, _, good, _, _, same⟩ := remains
            exact .inr ⟨f, n, rfl, good, same⟩
          · rw [remains.2.1]
            exact .inl (Nat.le_of_eq (TagPktHdr.length_toBytes _))

end Held

end Dialogue

/-! ## The sessions of the server -/

namespace Server

variable [DecidableEq S] [DecidableEq C] {st st' : Server S C} {s : S} {log : List Heard}

/-- The peer of a session that has not been started is not heard. -/
theorem heard_of_early {cfg : Config} {a : Action S C} (consistent : st.registry.Consistent)
    (early : (st.session s).phase.Early) (run : step cfg st a = some st') :
    heard s st a = [] := by
  obtain ⟨idle, fresh⟩ := (consistent s).fresh early
  have none : (st.session s).read.op = .none := congrArg (fun core => core.read.op) fresh
  cases a with
  | run r net =>
      refine if_neg ?_
      rintro ⟨rfl, gives⟩
      have idle := (st.idle_iff r).mpr idle
      rw [Server.idle] at idle
      split at idle
      · next here => simp [givesUp, here] at gives
      · cases idle
  | deliver r data =>
      refine if_neg ?_
      rintro rfl
      obtain ⟨read, delivered, _⟩ := deliver_eq_some run
      simp [ReadLoop.deliver, none] at delivered
  | onReadBody r => rw [heard, none]
  | _ => rfl

theorem held_of_reachable (cfg : Config)
    (reached : ((system cfg).logged (heard s)).Reachable (st, log)) :
    ∃ es rest, (st.dialogue s).Held log es rest := by
  refine (reached.log_invariant (I := fun st log =>
    ((st.session s).phase.Early → log = []) ∧ ∃ es rest, (st.dialogue s).Held log es rest)
    ?_ ?_).2
  · rintro _ rfl
    refine ⟨fun _ => rfl, [], [], rfl, nofun, rfl, ?_, .nil⟩
    exact Nat.zero_le _
  · intro st a st' log before ⟨silent, es, rest, held⟩ run
    have consistent : st.registry.Consistent :=
      Registry.consistent_of_reachable ((registry_mapping cfg).reachable before)
    refine ⟨fun early => ?_, held.step (step_dialogue consistent run) silent⟩
    have was : (st.session s).phase.Early := by
      by_contra late
      obtain same | step := step_registry run
      · have core : (st'.session s).toSessionCore = (st.session s).toSessionCore :=
          congrArg (fun v => v.core s) same
        exact late (core ▸ early)
      · exact step.late late early
    rw [silent was, heard_of_early consistent was run]
    rfl

/-- The bytes that the completed reads of a session have taken from its connection are the
frames that have reached the switch, in this order, and behind them at most a header, or a
frame whose handler is queued. What a read that fails has received is not counted. -/
theorem requests_framed (cfg : Config)
    (reached : ((system cfg).logged (heard s)).Reachable (st, log)) :
    ∃ (fs : List Frame) (rest : Bytes), log.flatMap Heard.data = Frame.stream fs ++ rest ∧
      (log.filterMap Heard.request).map Prod.fst = fs.map Frame.bytes ∧
      (∀ f ∈ fs, f.good = true ∧ f.hasBody = true) ∧
      (rest.length ≤ TagPktHdr.size ∨ ∃ (f : Frame) (n : Nat),
        (st.session s).read.op = .done .body false n ∧ f.good = true ∧ rest = f.bytes) := by
  obtain ⟨es, rest, held⟩ := held_of_reachable cfg reached
  refine ⟨es.map fun e => e.1.1, rest, held.bytes, ?_, ?_, held.rest_cases⟩
  · rw [← Heard.map_turns, held.turns, List.map_map, List.map_map, List.map_map]
    rfl
  · intro f mem
    obtain ⟨e, listed, rfl⟩ := List.mem_map.mp mem
    exact held.served e listed

/-- A client logs in and asks for the proxies; the header of a further request has arrived. -/
def askedTwice : List (Action (Fin 2) (Fin 1)) :=
  accept 0 ++ receive 0 (loginFrame [0x41] 1) ++ go 0 3 ++
    receive 0 (requestFrame FUNC.REQ.GETPROXIES (leBytes 4 0)) ++ [.deliver 0 (proxyFrame 1).1]

theorem exists_askedTwice {P : Server (Fin 2) (Fin 1) → List Heard → Prop}
    (check : ∃ p ∈ System.runSteps (System.logStep (step ⟨0, 0, 0⟩) (heard 0)) (new, []) askedTwice,
      P p.1 p.2) :
    ∃ st log, ((system ⟨0, 0, 0⟩).logged (heard 0)).Reachable (st, log) ∧ P st log :=
  System.logged_of_steps rfl check

theorem requests_framed_askedTwice : ∃ (st : Server (Fin 2) (Fin 1)) (log : List Heard),
    (log.filterMap Heard.request).length = 2 ∧
    ∃ (fs : List Frame) (rest : Bytes), log.flatMap Heard.data = Frame.stream fs ++ rest ∧
      (log.filterMap Heard.request).map Prod.fst = fs.map Frame.bytes ∧
      (∀ f ∈ fs, f.good = true ∧ f.hasBody = true) ∧
      (rest.length ≤ TagPktHdr.size ∨ ∃ (f : Frame) (n : Nat),
        (st.session 0).read.op = .done .body false n ∧ f.good = true ∧ rest = f.bytes) := by
  obtain ⟨st, log, reached, two⟩ := exists_askedTwice
    (P := fun _ log => (log.filterMap Heard.request).length = 2) (by decide +kernel)
  exact ⟨st, log, two, requests_framed ⟨0, 0, 0⟩ reached⟩

/-- The replies that a session queues answer the frames that have reached the switch, in
their order. Only the last frame can be without its reply, while its handler runs; the others
without one ask for nothing, or are the PROXY requests that `givesUp` has marked. -/
theorem requests_answered (cfg : Config)
    (reached : ((system cfg).logged (heard s)).Reachable (st, log)) :
    ∃ es last : List ((Frame × UInt32) × Bool),
      Heard.turns log = (es ++ last).map Dialogue.turn ∧
      Conversation es ((st.sendq s).called.filter Queued.isReply) ∧
      match (st.task s).expects with
      | none => last = []
      | some expected => ∃ e, last = [(e, false)] ∧ Asks e expected := by
  obtain ⟨es, rest, held⟩ := held_of_reachable cfg reached
  have requests := held.turns
  have spoken := held.spoken
  cases owes : (st.task s).expects with
  | none =>
      have owes : (st.dialogue s).owes = none := owes
      simp only [Dialogue.Spoken, owes] at spoken
      exact ⟨es, [], by rw [List.append_nil]; exact requests, spoken, rfl⟩
  | some expected =>
      have owes : (st.dialogue s).owes = some expected := owes
      simp only [Dialogue.Spoken, owes] at spoken
      obtain ⟨before, e, rfl, spoken, asks⟩ := spoken
      exact ⟨before, [(e, false)], requests, spoken, e, rfl, asks⟩

/-- The client asks for a channel, whose destination closes its connection before
`onReqProxy` looks at it, and for the proxies. -/
def givenUpOnce : List (Action (Fin 2) (Fin 1)) :=
  requestChannel ++ go 0 6 ++ [.readFails 1, .onReadHead 1] ++ go 0 2 ++
    receive 0 (requestFrame FUNC.REQ.GETPROXIES (leBytes 4 0))

theorem requests_answered_givenUpOnce : ∃ (st : Server (Fin 2) (Fin 1)) (log : List Heard),
    (Heard.turns log).map Prod.snd = [false, true, false] ∧
    ((st.sendq 0).called.filter Queued.isReply).length = 2 ∧
    ∃ es last : List ((Frame × UInt32) × Bool),
      Heard.turns log = (es ++ last).map Dialogue.turn ∧
      Conversation es ((st.sendq 0).called.filter Queued.isReply) ∧
      match (st.task 0).expects with
      | none => last = []
      | some expected => ∃ e, last = [(e, false)] ∧ Asks e expected := by
  have check : ∃ p ∈ System.runSteps (System.logStep (step ⟨0, 0, 0⟩) (heard 0)) (new, [])
      givenUpOnce, (Heard.turns p.2).map Prod.snd = [false, true, false] ∧
        ((p.1.sendq 0).called.filter Queued.isReply).length = 2 := by decide +kernel
  obtain ⟨st, log, reached, marks, two⟩ : ∃ (st : Server (Fin 2) (Fin 1)) (log : List Heard),
      ((system ⟨0, 0, 0⟩).logged (heard 0)).Reachable (st, log) ∧
        (Heard.turns log).map Prod.snd = [false, true, false] ∧
          ((st.sendq 0).called.filter Queued.isReply).length = 2 :=
    System.logged_of_steps rfl check
  exact ⟨st, log, marks, two, requests_answered ⟨0, 0, 0⟩ reached⟩

end Server

end NatProxy
