import NatProxy.Server.Channels
import NatProxy.Server.LoginUndo

/-!
# Requests that the decoder rejects

`onReadBody` does not look at what `deserialize` returns. A LOGIN that was rejected
is handled with an empty guid, the address zero and the type zero, and a PROXY with
the destination that was read before the rejection.
-/

namespace NatProxy

open Memory Transition

variable {S C : Type}

/-- A rejected login has at most its header. -/
theorem CReqLoginPkt.of_rejected {p : Bytes} {pkt : CReqLoginPkt}
    (rejected : CReqLoginPkt.new.deserialize p = .ok (false, pkt)) :
    ∃ header, pkt = { CReqLoginPkt.new with header } := by
  rw [deserialize] at rejected
  split at rejected
  · cases rejected
    exact ⟨_, rfl⟩
  · obtain ⟨_, _, rejected⟩ := bind_eq_ok_iff.mp rejected
    obtain ⟨_, _, rejected⟩ := bind_eq_ok_iff.mp rejected
    dsimp only at rejected
    split at rejected
    · cases rejected
      exact ⟨_, rfl⟩
    · -- all later exits return true
      obtain ⟨_, _, rejected⟩ := bind_eq_ok_iff.mp rejected
      obtain ⟨_, _, rejected⟩ := bind_eq_ok_iff.mp rejected
      split at rejected
      · cases rejected
      · split at rejected
        · obtain ⟨_, _, rejected⟩ := bind_eq_ok_iff.mp rejected
          cases rejected
        · cases rejected

/-- Every socket call of `CEnd::init` succeeds. -/
def InitResult.isOk : InitResult → Bool
  | .ok _ => true
  | _ => false

theorem CEnd.init_fst (e : CEnd S) (cfg : Config) (ss : S) (id : UInt32) (r : InitResult) :
    (e.init cfg ss id r).1 = r.isOk := by
  cases r <;> rfl

namespace Server

/-- What a rejected frame should leave alone: the members of its session that a login
assigns, the stores of the session manager, and the channel maps. -/
structure Unchanged (s : S) (st st' : Server S C) : Prop where
  logined : (st'.session s).logined = (st.session s).logined
  guid : (st'.session s).guid = (st.session s).guid
  privateAddr : (st'.session s).privateAddr = (st.session s).privateAddr
  sessionType : (st'.session s).sessionType = (st.session s).sessionType
  id : (st'.session s).id = (st.session s).id
  guidSet : st'.guidSet = st.guidSet
  ssMap : st'.ssMap = st.ssMap
  ssDb : st'.ssDb = st.ssDb
  channels : ∀ r, (st'.session r).channels = (st.session r).channels

namespace Unchanged

variable {s : S} {st mid st' : Server S C}

/-- A step that does not touch the sessions and the stores at all. -/
theorem of_session (session : st'.session = st.session := by rfl)
    (guidSet : st'.guidSet = st.guidSet := by rfl) (ssMap : st'.ssMap = st.ssMap := by rfl)
    (ssDb : st'.ssDb = st.ssDb := by rfl) : Unchanged s st st' := by
  refine ⟨?_, ?_, ?_, ?_, ?_, guidSet, ssMap, ssDb, ?_⟩ <;> simp [session]

theorem trans (h : Unchanged s st mid) (h' : Unchanged s mid st') : Unchanged s st st' where
  logined := h'.logined.trans h.logined
  guid := h'.guid.trans h.guid
  privateAddr := h'.privateAddr.trans h.privateAddr
  sessionType := h'.sessionType.trans h.sessionType
  id := h'.id.trans h.id
  guidSet := h'.guidSet.trans h.guidSet
  ssMap := h'.ssMap.trans h.ssMap
  ssDb := h'.ssDb.trans h.ssDb
  channels r := (h'.channels r).trans (h.channels r)

theorem symm (h : Unchanged s st mid) : Unchanged s mid st where
  logined := h.logined.symm
  guid := h.guid.symm
  privateAddr := h.privateAddr.symm
  sessionType := h.sessionType.symm
  id := h.id.symm
  guidSet := h.guidSet.symm
  ssMap := h.ssMap.symm
  ssDb := h.ssDb.symm
  channels r := (h.channels r).symm

/-- Only what comes after an unchanged state matters. -/
theorem iff_of_left (h : Unchanged s st mid) : Unchanged s st st' ↔ Unchanged s mid st' :=
  ⟨h.symm.trans, h.trans⟩

theorem iff_of_right (h : Unchanged s mid st') : Unchanged s st st' ↔ Unchanged s st mid :=
  ⟨fun h' => h'.trans h.symm, fun h' => h'.trans h⟩

variable [DecidableEq S]

/-- A change of one session, judged by the five members. -/
theorem modSession_iff {f : SessionCore → SessionCore} :
    Unchanged s st (st.modSession s f) ↔
      (f (st.session s).toSessionCore).logined = (st.session s).logined ∧
        (f (st.session s).toSessionCore).guid = (st.session s).guid ∧
        (f (st.session s).toSessionCore).privateAddr = (st.session s).privateAddr ∧
        (f (st.session s).toSessionCore).sessionType = (st.session s).sessionType ∧
        (f (st.session s).toSessionCore).id = (st.session s).id := by
  have core : ((st.modSession s f).session s).toSessionCore = f (st.session s).toSessionCore := by
    simp [modSession]
  constructor
  · intro h
    rw [← core]
    exact ⟨h.logined, h.guid, h.privateAddr, h.sessionType, h.id⟩
  · rw [← core]
    rintro ⟨logined, guid, privateAddr, sessionType, id⟩
    refine ⟨logined, guid, privateAddr, sessionType, id, rfl, rfl, rfl, fun r => ?_⟩
    by_cases eq : r = s
    · subst eq
      simp [modSession]
    · simp [modSession, eq]

/-- The end of `onReadBody` goes on with the read loop. -/
theorem endHandler (st : Server S C) (s : S) : Unchanged s st (st.endHandler s) := by
  have read : Unchanged s st (st.modSession s fun ss =>
      { ss with read := ss.read.finishBody ss.started ss.isOpen }) :=
    modSession_iff.mpr ⟨rfl, rfl, rfl, rfl, rfl⟩
  exact read.trans (.of_session)

/-- A response is queued, and `onReadBody` ends. -/
theorem answer (st : Server S C) (s : S) (msg : Queued C) :
    Unchanged s st ((st.doWrite s msg).endHandler s) :=
  (of_session : Unchanged s st (st.doWrite s msg)).trans (endHandler _ s)

end Unchanged

/-- The frame in `_rbuf` is a LOGIN or a PROXY that `deserialize` rejects, having
read the fields of `req`. -/
def Rejects (read : ReadLoop) : Request → Prop
  | .login req => read.hdr.ucFunc = FUNC.REQ.LOGIN ∧
      CReqLoginPkt.new.deserialize read.rbuf = .ok (false, req)
  | .proxy req => read.hdr.ucFunc = FUNC.REQ.PROXY ∧
      CReqProxyPkt.new.deserialize read.rbuf = .ok (false, req)
  | _ => False

/-- The switch hands the rejected request on, if the session may ask for it. -/
theorem dispatch_of_rejects {read : ReadLoop} {req req' : Request} {sessionType : UInt32}
    (rejects : Rejects read req) (decoded : dispatch sessionType read.hdr read.rbuf = .ok req') :
    (∃ pkt, req = .proxy pkt) ∧ mayRequest sessionType = false ∧ req' = .none ∨
      (∀ pkt, req = .proxy pkt → mayRequest sessionType = true) ∧ req' = req := by
  obtain ⟨_, _, decoded⟩ := bind_eq_ok_iff.mp decoded
  cases req with
  | login pkt =>
      obtain ⟨func, rejected⟩ := rejects
      rw [func, if_neg (by decide), if_pos rfl, rejected] at decoded
      cases decoded
      exact .inr ⟨by rintro _ ⟨⟩, rfl⟩
  | proxy pkt =>
      obtain ⟨func, rejected⟩ := rejects
      rw [func, if_neg (by decide), if_neg (by decide), if_pos rfl] at decoded
      split at decoded
      · next may =>
        rw [rejected] at decoded
        cases decoded
        exact .inr ⟨fun _ _ => may, rfl⟩
      · next may =>
        cases decoded
        exact .inl ⟨⟨pkt, rfl⟩, Bool.eq_false_iff.mpr may, rfl⟩
  | none | getProxies => exact rejects.elim

variable [DecidableEq S] [DecidableEq C] {cfg : Config} {s : S} {st st' : Server S C}
variable {nets : List (Net C)}

/-- The call of the session has returned, or an exception has ended it. -/
def Over (st : Server S C) (s : S) : Prop :=
  st.task s = .idle ∨ ∃ req, st.task s = .proxy req .thrown

/-- `onReadBody` is called with a frame and runs to its end, with the answers `nets`
of the environment and while no other thread runs. -/
def Handles (cfg : Config) (s : S) (nets : List (Net C)) (st st' : Server S C) : Prop :=
  (∃ bytes, (st.session s).read.op = .done .body false bytes ∧ bytes ≠ 0) ∧
    ∃ mid, step cfg st (.onReadBody s) = some mid ∧
      (system cfg).Exec mid (nets.map (.run s)) st' ∧ st'.Over s

/-- The handler takes the read that it is called for. -/
def takeRead (st : Server S C) (s : S) : Server S C :=
  st.modSession s fun ss => { ss with read := { ss.read with op := .none } }

omit [DecidableEq C] in
theorem core_takeRead (st : Server S C) (s r : S) : ∃ read : ReadLoop,
    ((st.takeRead s).session r).toSessionCore =
      { (st.session r).toSessionCore with read := read } := by
  by_cases eq : r = s
  · subst eq
    exact ⟨{ (st.session r).read with op := .none }, by simp [takeRead, modSession]⟩
  · exact ⟨(st.session r).read, by simp [takeRead, modSession, eq]⟩

omit [DecidableEq C] in
theorem Unchanged.takeRead (st : Server S C) (s : S) : Unchanged s st (st.takeRead s) :=
  modSession_iff.mpr ⟨rfl, rfl, rfl, rfl, rfl⟩

/-- `onReadBody` handles the rejected request, or ignores it. -/
theorem Handles.run {req : Request} (handles : Handles cfg s nets st st')
    (rejects : Rejects (st.session s).read req) :
    (∃ pkt, req = .proxy pkt) ∧ mayRequest (st.session s).sessionType = false ∧
        Unchanged s st st' ∨
      (∀ pkt, req = .proxy pkt → mayRequest (st.session s).sessionType = true) ∧
        (system cfg).Exec ((st.takeRead s).handle s req) (nets.map (.run s)) st' := by
  obtain ⟨⟨bytes, op, pos⟩, mid, called, run, _⟩ := handles
  simp only [step, onReadBody, op, Option.ite_none_right_eq_some] at called
  obtain ⟨_, called⟩ := called
  have delivered : ReadLoop.bodyFails false bytes = false := by simp [ReadLoop.bodyFails, pos]
  rw [delivered, if_neg Bool.false_ne_true] at called
  split at called
  · next req' decoded =>
    obtain rfl := Option.some.inj called
    obtain ⟨proxy, may, rfl⟩ | ⟨may, rfl⟩ := dispatch_of_rejects rejects decoded
    · obtain ⟨_, rfl⟩ := exec_run_idle run (Function.update_self ..)
      exact .inl ⟨proxy, may, (Unchanged.takeRead st s).trans (.endHandler _ s)⟩
    · exact .inr ⟨may, run⟩
  · cases called

/-! ## A rejected LOGIN -/

variable {header : TagPktHdr}

omit [DecidableEq C] in
/-- A login does not throw. -/
theorem runLogin_task (st : Server S C) (s : S) (header : TagPktHdr) (net : Net C) (pc : LoginPc) :
    (st.runLogin s header net pc).task s = .idle ∨
      ∃ pc', (st.runLogin s header net pc).task s = .login header pc' := by
  cases pc with
  | insertGuid | addSession =>
      rw [runLogin]
      split <;> exact .inr ⟨_, Function.update_self ..⟩
  | finish ok => cases ok <;> exact .inl (Function.update_self ..)
  | _ => exact .inr ⟨_, Function.update_self ..⟩

/-- The call of a login that is over has returned. -/
theorem idle_of_login {pc : LoginPc} (run : (system cfg).Exec st (nets.map (.run s)) st')
    (here : st.task s = .login header pc) (over_ : st'.Over s) : st'.task s = .idle := by
  induction nets generalizing st pc with
  | nil =>
      cases run
      obtain idle | ⟨_, thrown⟩ := over_
      · exact idle
      · cases here.symm.trans thrown
  | cons net nets ih =>
      cases run with
      | cons first rest =>
          simp only [system, System.ofStep_step, step, here, Option.some.injEq] at first
          subst first
          obtain idle | ⟨pc', next⟩ := runLogin_task st s header net pc
          · obtain ⟨_, rfl⟩ := exec_run_idle rest idle
            exact idle
          · exact ih rest next

/-- The login is refused because of its guid. -/
theorem unchanged_of_taken (run : (system cfg).Exec st (nets.map (.run s)) st')
    (here : st.task s = .login header .insertGuid) (idle : st'.task s = .idle)
    (taken : st.guidSet (st.session s).guid ≠ none) (fresh : (st.session s).logined = false) :
    Unchanged s st st' := by
  obtain ⟨_, nets, run⟩ := login_goes run here (by rw [idle]; rintro ⟨⟩)
  rw [runLogin] at run
  split at run
  · next other found =>
    obtain ⟨_, nets, run⟩ := login_goes run (Function.update_self ..) (by rw [idle]; rintro ⟨⟩)
    rw [runLogin] at run
    obtain ⟨_, rfl⟩ := exec_run_idle run (Function.update_self ..)
    refine Unchanged.trans ?_ (.answer _ s _)
    have moved : Unchanged s st (st.setTask s (.login header (.finish false))) :=
      .of_session
    exact moved.trans (Unchanged.modSession_iff.mpr ⟨fresh.symm, rfl, rfl, rfl, rfl⟩)
  · next free => exact absurd free taken

/-- A client with a free guid logs in. -/
theorem guidSet_of_free (run : (system cfg).Exec st (nets.map (.run s)) st')
    (here : st.task s = .login header .insertGuid) (idle : st'.task s = .idle)
    (free : st.guidSet (st.session s).guid = none) (client : (st.session s).isServer = false) :
    st'.guidSet (st.session s).guid ≠ none := by
  obtain ⟨_, nets, run⟩ := login_goes run here (by rw [idle]; rintro ⟨⟩)
  simp only [runLogin, free] at run
  obtain ⟨B, inserted⟩ : ∃ B, setTask { st with
      guidSet := Function.update st.guidSet (st.session s).guid (some s) } s
        (.login header .allocId) = B := ⟨_, rfl⟩
  rw [inserted] at run
  have kept : B.guidSet (st.session s).guid = some s := by
    rw [← inserted]
    exact Function.update_self ..
  obtain ⟨net, nets, run⟩ := login_goes run (by rw [← inserted]; exact Function.update_self ..)
    (by rw [idle]; rintro ⟨⟩)
  have next : (B.runLogin s header net .allocId).task s = .login header (.finish true) := by
    simp [← inserted, runLogin, setTask, client]
  obtain ⟨_, nets, run⟩ := login_goes run next (by rw [idle]; rintro ⟨⟩)
  obtain ⟨_, rfl⟩ := exec_run_idle run (Function.update_self ..)
  exact fun gone => Option.some_ne_none s (kept.symm.trans gone)

/-- A LOGIN without a guid, in a session that is not logged in. -/
theorem login_unchanged_iff (fresh : (st.session s).logined = false)
    (run : (system cfg).Exec (st.onReqLogin s { CReqLoginPkt.new with header })
      (nets.map (.run s)) st')
    (idle : st'.task s = .idle) :
    Unchanged s st st' ↔ (st.session s).guid = [] ∧ (st.session s).privateAddr = 0 ∧
      (st.session s).sessionType = 0 ∧ st.guidSet [] ≠ none := by
  rw [onReqLogin, fresh, if_neg Bool.false_ne_true] at run
  obtain ⟨A, assigned⟩ : ∃ A, (st.modSession s fun ss => { ss with
      guid := [], privateAddr := 0, sessionType := 0 }).setTask s (.login header .insertGuid) =
        A := ⟨_, rfl⟩
  have start : (system cfg).Exec A (nets.map (.run s)) st' := assigned ▸ run
  have here : A.task s = .login header .insertGuid := by
    rw [← assigned]
    exact Function.update_self ..
  have core : (A.session s).toSessionCore = { (st.session s).toSessionCore with
      guid := [], privateAddr := 0, sessionType := 0 } := by simp [← assigned, modSession, setTask]
  have guidSet : A.guidSet = st.guidSet := by rw [← assigned]; rfl
  have assigns : Unchanged s st A ↔ Unchanged s st (st.modSession s fun ss => { ss with
      guid := [], privateAddr := 0, sessionType := 0 }) := by
    rw [← assigned]
    exact Unchanged.iff_of_right (.of_session)
  by_cases free : st.guidSet [] = none
  · have kept := guidSet_of_free start here idle (by rw [core, guidSet, free])
      (by rw [core]; rfl)
    rw [core] at kept
    refine iff_of_false (fun h => kept ?_) fun h => h.2.2.2 free
    rw [h.guidSet, free]
  · have refused := unchanged_of_taken start here idle (by rw [core, guidSet]; exact free)
      (by rw [core]; exact fresh)
    rw [Unchanged.iff_of_right refused, assigns, Unchanged.modSession_iff]
    constructor
    · rintro ⟨_, guid, privateAddr, sessionType, _⟩
      exact ⟨guid.symm, privateAddr.symm, sessionType.symm, free⟩
    · rintro ⟨guid, privateAddr, sessionType, _⟩
      exact ⟨rfl, guid.symm, privateAddr.symm, sessionType.symm, rfl⟩

/-! ## A rejected PROXY -/

/-- The call no longer touches a channel map. -/
def Late : ProxyPc S C → Prop
  | .undoNotify _ _ | .fail _ _ | .respErr | .lockDst _ | .checkDst _ _ | .start _ _ | .access _ _
  | .respOk _ _ => True
  | _ => False

/-- The call of `onReqProxy` goes on. -/
theorem proxy_moves {req : CReqProxyPkt} {pc : ProxyPc S C}
    (run : (system cfg).Exec st (nets.map (.run s)) st') (here : st.task s = .proxy req pc)
    (moves : st'.task s ≠ .proxy req pc) :
    ∃ net nets' mid, nets = net :: nets' ∧ st.runProxy cfg s req net pc = some mid ∧
      (system cfg).Exec mid (List.map (Action.run s) nets') st' := by
  obtain ⟨net, nets', mid, split, first, rest⟩ := exec_run_cons run (here ▸ moves.symm)
  simp only [step, here] at first
  exact ⟨net, nets', mid, split, first, rest⟩

theorem proxy_goes {req : CReqProxyPkt} {pc : ProxyPc S C}
    (run : (system cfg).Exec st (nets.map (.run s)) st') (here : st.task s = .proxy req pc)
    (idle : st'.task s = .idle) :
    ∃ net nets' mid, nets = net :: nets' ∧ st.runProxy cfg s req net pc = some mid ∧
      (system cfg).Exec mid (List.map (Action.run s) nets') st' :=
  proxy_moves run here (by rw [idle]; rintro ⟨⟩)

/-- The call has not come past the constructor of its channel, which may throw. -/
def MayThrow : ProxyPc S C → Prop
  | .lookup | .create _ | .thrown => True
  | _ => False

theorem runProxy_task {req : CReqProxyPkt} {pc : ProxyPc S C} {net : Net C}
    (safe : ¬ MayThrow pc) (run : st.runProxy cfg s req net pc = some st') :
    st'.task s = .idle ∨ ∃ pc', st'.task s = .proxy req pc' ∧ ¬ MayThrow pc' := by
  have goes : ∀ {A : Server S C} {pc' : ProxyPc S C}, ¬ MayThrow pc' →
      (A.setTask s (.proxy req pc')).task s = .idle ∨
        ∃ pc'', (A.setTask s (.proxy req pc')).task s = .proxy req pc'' ∧ ¬ MayThrow pc'' :=
    fun safe => .inr ⟨_, Function.update_self .., safe⟩
  have ends : ∀ {A : Server S C}, (A.endHandler s).task s = .idle ∨
      ∃ pc', (A.endHandler s).task s = .proxy req pc' ∧ ¬ MayThrow pc' :=
    .inl (Function.update_self ..)
  cases pc with
  | lookup | create | thrown => exact absurd trivial safe
  | respErr =>
      obtain rfl := Option.some.inj run
      exact ends
  | initEnd side d c =>
      simp only [runProxy, Option.map_eq_some_iff] at run
      obtain ⟨ch, _, rfl⟩ := run
      refine goes ?_
      split <;> exact not_false
  | addChannel side d c =>
      cases side <;>
      · simp only [runProxy, Option.map_eq_some_iff] at run
        obtain ⟨ch, _, rfl⟩ := run
        split <;> exact goes not_false
  | lockDst c | checkDst d c =>
      simp only [runProxy, Option.map_eq_some_iff] at run
      obtain ⟨ch, _, rfl⟩ := run
      split
      · exact goes not_false
      · exact ends
  | undoRemove d c | undoNotify d c | fail d c | start d c | access d c =>
      simp only [runProxy, Option.map_eq_some_iff] at run
      obtain ⟨ch, _, rfl⟩ := run
      exact goes not_false
  | respOk d c =>
      simp only [runProxy, Option.map_eq_some_iff] at run
      obtain ⟨ch, _, rfl⟩ := run
      exact ends

/-- A call that has its channel does not throw. -/
theorem not_thrown_of_safe {req req' : CReqProxyPkt} {pc : ProxyPc S C}
    (run : (system cfg).Exec st (nets.map (.run s)) st') (here : st.task s = .proxy req pc)
    (safe : ¬ MayThrow pc) : st'.task s ≠ .proxy req' .thrown := by
  induction nets generalizing st pc with
  | nil =>
      cases run
      intro thrown
      obtain ⟨-, rfl⟩ := Task.proxy.inj (here.symm.trans thrown)
      exact safe trivial
  | cons net nets ih =>
      cases run with
      | cons first rest =>
          simp only [system, System.ofStep_step, step, here] at first
          obtain idle | ⟨pc', next, safe'⟩ := runProxy_task safe first
          · obtain ⟨_, rfl⟩ := exec_run_idle rest idle
            intro thrown
            cases idle.symm.trans thrown
          · exact ih rest next safe'

theorem runProxy_late {req : CReqProxyPkt} {pc : ProxyPc S C} {net : Net C} (late : Late pc)
    (run : st.runProxy cfg s req net pc = some st') :
    Unchanged s st st' ∧ (st'.task s = .idle ∨ ∃ pc', st'.task s = .proxy req pc' ∧ Late pc') := by
  have goes : ∀ {A : Server S C} {pc' : ProxyPc S C}, Unchanged s st A → Late pc' →
      Unchanged s st (A.setTask s (.proxy req pc')) ∧
        ((A.setTask s (.proxy req pc')).task s = .idle ∨
          ∃ pc'', (A.setTask s (.proxy req pc')).task s = .proxy req pc'' ∧ Late pc'') :=
    fun same late => ⟨same.trans (.of_session),
      .inr ⟨_, Function.update_self .., late⟩⟩
  have ends : ∀ {A : Server S C}, Unchanged s st A → Unchanged s st (A.endHandler s) ∧
      ((A.endHandler s).task s = .idle ∨
        ∃ pc', (A.endHandler s).task s = .proxy req pc' ∧ Late pc') :=
    fun same => ⟨same.trans (.endHandler _ s), .inl (Function.update_self ..)⟩
  cases pc with
  | respErr =>
      obtain rfl := Option.some.inj run
      exact ends (.of_session)
  | lockDst c =>
      simp only [runProxy, Option.map_eq_some_iff] at run
      obtain ⟨ch, _, rfl⟩ := run
      split
      · exact goes (.of_session) trivial
      · exact ends (.of_session)
  | checkDst d c =>
      simp only [runProxy, Option.map_eq_some_iff] at run
      obtain ⟨ch, _, rfl⟩ := run
      split
      · exact goes (.of_session) trivial
      · exact ends (.of_session)
  | undoNotify d c | fail d c | start d c | access d c =>
      simp only [runProxy, Option.map_eq_some_iff] at run
      obtain ⟨ch, _, rfl⟩ := run
      exact goes (.of_session) trivial
  | respOk d c =>
      simp only [runProxy, Option.map_eq_some_iff] at run
      obtain ⟨ch, _, rfl⟩ := run
      exact ends (.of_session)
  | _ => exact late.elim

theorem unchanged_of_late {req : CReqProxyPkt} {pc : ProxyPc S C}
    (run : (system cfg).Exec st (nets.map (.run s)) st') (here : st.task s = .proxy req pc)
    (late : Late pc) (idle : st'.task s = .idle) : Unchanged s st st' := by
  induction nets generalizing st pc with
  | nil =>
      cases run
      cases here.symm.trans idle
  | cons net nets ih =>
      obtain ⟨net, nets, mid, split, first, rest⟩ := proxy_goes run here idle
      obtain ⟨rfl, rfl⟩ := List.cons.inj split
      obtain ⟨same, done | ⟨pc', next, late'⟩⟩ := runProxy_late late first
      · obtain ⟨_, rfl⟩ := exec_run_idle rest done
        exact same
      · exact same.trans (ih rest next late')

omit [DecidableEq C] in
theorem channels_of_setChannels (r : S) (side other : Side) (m : CChannelMap C) :
    ((st.setChannels s side m).session r).channels other =
      if r = s ∧ other = side then m else (st.session r).channels other := by
  by_cases same : r = s
  · subst same
    by_cases here : other = side
    · subst here
      simp [setChannels]
    · simp [setChannels, here]
  · simp [setChannels, same]

section Registration

variable {req : CReqProxyPkt} {d : S} {c : C} {ch : CChannel S}

/-- The destination's map has the id already, or the channel stays entered. -/
theorem addDst_cases (run : (system cfg).Exec st (nets.map (.run s)) st')
    (here : st.task s = .proxy req (.addChannel .dst d c)) (found : st.channel c = some ch)
    (idle : st'.task s = .idle) :
    (st.session d).channels .dst ch.id = none ∧ (st'.session d).channels .dst ch.id = some c ∨
      (st.session d).channels .dst ch.id ≠ none ∧ Unchanged s (st.setChannels s .src
        (((st.session s).channels .src).remove ch.id)) st' := by
  obtain ⟨_, nets, mid, _, first, run⟩ := proxy_goes run here idle
  simp only [runProxy, found, Option.map_some, Option.some.injEq, CChannelMap.insert] at first
  cases slot : (st.session d).channels .dst ch.id with
  | none =>
      simp only [slot] at first
      subst first
      have same := unchanged_of_late run (Function.update_self ..) trivial idle
      refine .inl ⟨rfl, ?_⟩
      rw [same.channels]
      change ((st.setChannels d .dst _).session d).channels .dst ch.id = some c
      rw [channels_of_setChannels, if_pos ⟨rfl, rfl⟩, Function.update_self]
  | some other =>
      simp only [slot] at first
      subst first
      obtain ⟨_, nets, mid, _, second, run⟩ := proxy_goes run (Function.update_self ..) idle
      simp only [runProxy, Option.map_eq_some_iff] at second
      obtain ⟨_, again, rfl⟩ := second
      obtain rfl := Option.some.inj (found.symm.trans again)
      have same := unchanged_of_late run (Function.update_self ..) trivial idle
      have moved : Unchanged s (st.setChannels s .src (((st.session s).channels .src).remove ch.id))
          (((st.setTask s (.proxy req (.undoRemove d c))).setChannels s .src
            (((st.session s).channels .src).remove ch.id)).setTask s
              (.proxy req (.undoNotify d c))) := .of_session
      exact .inr ⟨by rintro ⟨⟩, moved.trans same⟩

/-- The channel is entered into the two maps, or nothing is changed. -/
theorem addSrc_unchanged_iff (run : (system cfg).Exec st (nets.map (.run s)) st')
    (here : st.task s = .proxy req (.addChannel .src d c)) (found : st.channel c = some ch)
    (idle : st'.task s = .idle) :
    Unchanged s st st' ↔ ¬ ((st.session s).channels .src ch.id = none ∧
      (st.session d).channels .dst ch.id = none) := by
  obtain ⟨_, nets, mid, _, first, run⟩ := proxy_goes run here idle
  simp only [runProxy, found, Option.map_some, Option.some.injEq, CChannelMap.insert] at first
  cases slot : (st.session s).channels .src ch.id with
  | some other =>
      simp only [slot] at first
      subst first
      have same := unchanged_of_late run (Function.update_self ..) trivial idle
      have moved : Unchanged s st (st.setTask s (.proxy req (.fail d c))) :=
        .of_session
      exact iff_of_true (moved.trans same) fun free => by cases free.1
  | none =>
      simp only [slot] at first
      obtain ⟨X, entered⟩ : ∃ X, (st.setChannels s .src (Function.update
        ((st.session s).channels .src) ch.id (some c))).setTask s
          (.proxy req (.addChannel .dst d c)) = X := ⟨_, rfl⟩
      obtain rfl := entered.symm.trans first
      have src : (X.session s).channels .src =
          Function.update ((st.session s).channels .src) ch.id (some c) := by
        rw [← entered]
        exact (channels_of_setChannels ..).trans (if_pos ⟨rfl, rfl⟩)
      have dst : (X.session d).channels .dst = (st.session d).channels .dst := by
        rw [← entered]
        exact (channels_of_setChannels ..).trans (if_neg (by rintro ⟨_, ⟨⟩⟩))
      have next : X.task s = .proxy req (.addChannel .dst d c) := by
        rw [← entered]
        exact Function.update_self ..
      have still : X.channel c = some ch := by rwa [← entered]
      obtain ⟨free, entered⟩ | ⟨taken, undone⟩ := addDst_cases run next still idle
      · rw [dst] at free
        refine iff_of_false (fun same => ?_) fun taken => taken ⟨rfl, free⟩
        rw [same.channels, free] at entered
        cases entered
      · -- the entry is taken out of the slot that it was put into
        rw [dst] at taken
        have restored : CChannelMap.remove ((X.session s).channels .src) ch.id =
            (st.session s).channels .src := by
          rw [src, CChannelMap.remove, Function.update_idem, ← slot, Function.update_eq_self]
        rw [restored] at undone
        have session : (X.setChannels s .src ((st.session s).channels .src)).session =
            st.session := by simp [← entered, setChannels, setTask]
        have same : Unchanged s st (X.setChannels s .src ((st.session s).channels .src)) := by
          refine .of_session session ?_ ?_ ?_ <;> rw [← entered] <;> rfl
        exact iff_of_true (same.trans undone) fun free => taken free.2

/-- What `CEnd::init` answers. -/
def opens (st : Server S C) (s : S) (net : Net C) : Bool :=
  (st.session s).isOpen && net.init.isOk

theorem runProxy_initEnd {side : Side} {net : Net C}
    (run : st.runProxy cfg s req net (.initEnd side d c) = some st')
    (found : st.channel c = some ch) : ∃ ch', ch'.id = ch.id ∧
      st' = (st.setChannel c ch').setTask s (.proxy req (if st.opens (endpoints s d side) net then
        Channels.afterInit d c side else .fail d c)) := by
  have answer : (if (st.session (endpoints s d side)).isOpen then net.init
      else .noLocalEndpoint).isOk = st.opens (endpoints s d side) net := by
    rw [opens]
    cases (st.session (endpoints s d side)).isOpen <;> rfl
  simp only [runProxy, found, Option.map_some, Option.some.injEq, CEnd.init_fst, answer] at run
  subst run
  cases st.opens (endpoints s d side) net with
  | false => exact ⟨ch.setEnd side _, rfl, rfl⟩
  | true => cases side <;> exact ⟨ch.setEnd _ _, rfl, rfl⟩

/-- The call gives the channel up, or goes on with an initialised end. -/
theorem initEnd_goes {side : Side} (run : (system cfg).Exec st (nets.map (.run s)) st')
    (here : st.task s = .proxy req (.initEnd side d c)) (found : st.channel c = some ch)
    (idle : st'.task s = .idle) : ∃ net rest, nets = net :: rest ∧
      (st.opens (endpoints s d side) net = false ∧ rest ≠ [] ∧ Unchanged s st st' ∨
        st.opens (endpoints s d side) net = true ∧ ∃ ch', ch'.id = ch.id ∧
          (system cfg).Exec ((st.setChannel c ch').setTask s (.proxy req
            (Channels.afterInit d c side))) (List.map (Action.run s) rest) st') := by
  obtain ⟨net, rest, mid, split, first, run⟩ := proxy_goes run here idle
  obtain ⟨ch', id, rfl⟩ := runProxy_initEnd first found
  refine ⟨net, rest, split, ?_⟩
  cases opened : st.opens (endpoints s d side) net with
  | false =>
      rw [opened, if_neg Bool.false_ne_true] at run
      have same := unchanged_of_late run (Function.update_self ..) trivial idle
      have moved : ∀ t, Unchanged s st ((st.setChannel c ch').setTask s t) :=
        fun t => .of_session
      obtain ⟨_, _, _, rfl, _⟩ := proxy_goes run (Function.update_self ..) idle
      exact .inl ⟨rfl, List.cons_ne_nil _ _, (moved _).trans same⟩
  | true =>
      rw [opened, if_pos rfl] at run
      exact .inr ⟨rfl, ch', id, run⟩

/-- The environment lets the call enter a channel with the id into both maps. -/
structure Enters (st : Server S C) (s d : S) (id : UInt32) (src dst : Net C) : Prop where
  src : st.opens s src = true
  dst : st.opens d dst = true
  srcFree : (st.session s).channels .src id = none
  dstFree : (st.session d).channels .dst id = none

theorem init_unchanged_iff (run : (system cfg).Exec st (nets.map (.run s)) st')
    (here : st.task s = .proxy req (.initEnd .src d c)) (found : st.channel c = some ch)
    (idle : st'.task s = .idle) : ∃ src dst rest, nets = src :: dst :: rest ∧
      (Unchanged s st st' ↔ ¬ st.Enters s d ch.id src dst) := by
  obtain ⟨src, rest, rfl, ⟨closed, more, same⟩ | ⟨opened, ch₁, id₁, run⟩⟩ :=
    initEnd_goes run here found idle
  · obtain ⟨dst, rest, rfl⟩ := List.exists_cons_of_ne_nil more
    refine ⟨src, dst, rest, rfl, iff_of_true same fun enters => ?_⟩
    cases closed.symm.trans enters.src
  · have moved : ∀ t, Unchanged s st ((st.setChannel c ch₁).setTask s t) :=
      fun t => .of_session
    obtain ⟨dst, rest, rfl, ⟨closed, _, same⟩ | ⟨openedDst, ch₂, id₂, run⟩⟩ :=
      initEnd_goes run (Function.update_self ..) (Function.update_self ..) idle
    · refine ⟨src, dst, rest, rfl, iff_of_true ((moved _).trans same) fun enters => ?_⟩
      cases closed.symm.trans enters.dst
    · have moved₂ : ∀ A : Server S C, ∀ t, Unchanged s A ((A.setChannel c ch₂).setTask s t) :=
        fun _ _ => .of_session
      have entered := addSrc_unchanged_iff run (Function.update_self ..) (Function.update_self ..)
        idle
      refine ⟨src, dst, rest, rfl, ?_⟩
      rw [Unchanged.iff_of_left ((moved _).trans (moved₂ _ _)), entered, id₂, id₁]
      exact not_congr ⟨fun free => ⟨opened, openedDst, free.1, free.2⟩,
        fun enters => ⟨enters.srcFree, enters.dstFree⟩⟩

/-- The call finds a destination, and the environment lets it make and enter a channel. -/
def Registers (st : Server S C) (s : S) (req : CReqProxyPkt) (nets : List (Net C)) : Prop :=
  ∃ d lookup create src dst rest, nets = lookup :: create :: src :: dst :: rest ∧
    st.alive = true ∧ st.lock (st.ssMap req.uiDstId) = some d ∧ create.ok = true ∧
    st.Enters s d st.channelId src dst

omit [DecidableEq S] [DecidableEq C] in
/-- The call asks for these members only. -/
theorem Registers.of_same (h : st.Registers s req nets) (alive : st'.alive = st.alive)
    (ssMap : st'.ssMap = st.ssMap) (channelId : st'.channelId = st.channelId)
    (isOpen : ∀ r, (st'.session r).isOpen = (st.session r).isOpen)
    (phase : ∀ r, (st'.session r).phase = (st.session r).phase)
    (channels : ∀ r, (st'.session r).channels = (st.session r).channels) :
    st'.Registers s req nets := by
  obtain ⟨d, lookup, create, src, dst, rest, split, exists_, locked, made, enters⟩ := h
  refine ⟨d, lookup, create, src, dst, rest, split, alive.trans exists_, ?_, made, ?_, ?_, ?_, ?_⟩
  · simpa only [lock, phase, ssMap] using locked
  · simpa only [opens, isOpen] using enters.src
  · simpa only [opens, isOpen] using enters.dst
  · rw [channels, channelId]
    exact enters.srcFree
  · rw [channels, channelId]
    exact enters.dstFree

theorem proxy_unchanged_iff (run : (system cfg).Exec st (nets.map (.run s)) st')
    (here : st.task s = .proxy req .lookup) (idle : st'.task s = .idle) :
    Unchanged s st st' ↔ ¬ st.Registers s req nets := by
  obtain ⟨lookup, rest, mid, rfl, first, run⟩ := proxy_goes run here idle
  simp only [runProxy] at first
  split at first
  · next d locked =>
    obtain ⟨alive, locked⟩ := Option.ite_none_right_eq_some.mp locked
    obtain rfl := Option.some.inj first
    obtain ⟨create, rest, mid, rfl, second, run⟩ := proxy_goes run (Function.update_self ..) idle
    obtain ⟨ok, _, rfl⟩ | ⟨_, rfl⟩ := create_eq_some second
    · obtain ⟨src, dst, rest, rfl, entered⟩ :=
        init_unchanged_iff run (Function.update_self ..) (Function.update_self ..) idle
      refine ((Unchanged.iff_of_left ?_).trans entered).trans ?_
      · exact .of_session
      refine not_congr ⟨fun h => ⟨d, lookup, create, src, dst, rest, rfl, alive, locked, ok,
        h.src, h.dst, h.srcFree, h.dstFree⟩, ?_⟩
      rintro ⟨d', _, _, _, _, _, split, _, locked', _, h⟩
      obtain rfl := Option.some.inj (locked.symm.trans locked')
      simp only [List.cons.injEq] at split
      obtain ⟨_, _, rfl, rfl, _⟩ := split
      exact ⟨h.src, h.dst, h.srcFree, h.dstFree⟩
    · -- a call that has thrown does not return
      obtain ⟨_, _, _, _, stuck, _⟩ := proxy_goes run (Function.update_self ..) idle
      cases stuck
  · next gone =>
    obtain rfl := Option.some.inj first
    have same := unchanged_of_late run (Function.update_self ..) trivial idle
    have moved : Unchanged s st (st.setTask s (.proxy req .respErr)) := .of_session
    refine iff_of_true (moved.trans same) ?_
    rintro ⟨d, _, _, _, _, _, _, alive, locked, _⟩
    rw [if_pos alive, locked] at gone
    cases gone

/-- A call that throws has changed nothing, and has entered no channel. -/
theorem unchanged_of_thrown {req' : CReqProxyPkt}
    (run : (system cfg).Exec st (nets.map (.run s)) st') (here : st.task s = .proxy req .lookup)
    (thrown : st'.task s = .proxy req' .thrown) :
    Unchanged s st st' ∧ ¬ st.Registers s req nets := by
  have moves : ∀ {pc : ProxyPc S C}, pc ≠ .thrown → st'.task s ≠ .proxy req pc := by
    intro pc other here
    exact other (Task.proxy.inj (here.symm.trans thrown)).2
  obtain ⟨lookup, rest, mid, rfl, first, run⟩ := proxy_moves run here (moves (by rintro ⟨⟩))
  simp only [runProxy] at first
  split at first
  · obtain rfl := Option.some.inj first
    obtain ⟨create, rest, mid, rfl, second, run⟩ :=
      proxy_moves run (Function.update_self ..) (moves (by rintro ⟨⟩))
    obtain ⟨_, _, rfl⟩ | ⟨failed, rfl⟩ := create_eq_some second
    · exact absurd thrown (not_thrown_of_safe run (Function.update_self ..) not_false)
    · have none : rest = [] := by
        cases rest with
        | nil => rfl
        | cons net rest =>
            cases run with
            | cons stuck _ =>
                simp [system, step, setTask, runProxy] at stuck
      subst none
      cases run
      refine ⟨.of_session, ?_⟩
      rintro ⟨_, _, _, _, _, _, split, _⟩
      simp at split
  · obtain rfl := Option.some.inj first
    exact absurd thrown (not_thrown_of_safe run (Function.update_self ..) not_false)

end Registration

/-! ## Every rejected frame -/

/-- The request does no harm, whether or not it was decoded. -/
def Harmless (st : Server S C) (s : S) (nets : List (Net C)) : Request → Prop
  | .login _ => (st.session s).logined = true ∨ (st.session s).guid = [] ∧
      (st.session s).privateAddr = 0 ∧ (st.session s).sessionType = 0 ∧ st.guidSet [] ≠ none
  | .proxy req => mayRequest (st.session s).sessionType = true → ¬ st.Registers s req nets
  | _ => True

/-- A rejected LOGIN changes nothing exactly if the session is logged in, or if it has
no guid, address and type and the empty guid is taken; a rejected PROXY, exactly if it
may not be asked for or does not get a channel into the maps. -/
theorem unchanged_iff_harmless {req : Request} (rejects : Rejects (st.session s).read req)
    (handles : Handles cfg s nets st st') :
    Unchanged s st st' ↔ st.Harmless s nets req := by
  have over_ : st'.Over s := by
    obtain ⟨_, _, _, _, over_⟩ := handles
    exact over_
  obtain ⟨⟨pkt, rfl⟩, mayNot, same⟩ | ⟨may, run⟩ := handles.run rejects
  · refine iff_of_true same fun may => ?_
    cases mayNot.symm.trans may
  · rw [Unchanged.iff_of_left (.takeRead st s)]
    cases req with
    | login pkt =>
        obtain ⟨header, rfl⟩ := CReqLoginPkt.of_rejected rejects.2
        have core : ((st.takeRead s).session s).logined = (st.session s).logined :=
          (Unchanged.takeRead st s).logined
        by_cases logined : (st.session s).logined = true
        · rw [handle, onReqLogin, if_pos (core.trans logined)] at run
          obtain ⟨_, rfl⟩ := exec_run_idle run (Function.update_self ..)
          exact iff_of_true (.answer _ s _) (.inl logined)
        · have idle : st'.task s = .idle := by
            rw [handle, onReqLogin, if_neg (core ▸ logined)] at run
            exact idle_of_login run (Function.update_self ..) over_
          have taken := Unchanged.takeRead st s
          rw [login_unchanged_iff (core.trans (Bool.eq_false_iff.mpr logined)) run idle, taken.guid,
            taken.privateAddr, taken.sessionType, taken.guidSet]
          exact ⟨.inr, fun h => h.resolve_left logined⟩
    | proxy pkt =>
        have entered : Unchanged s ((st.takeRead s).handle s (.proxy pkt)) st' ↔
            ¬ ((st.takeRead s).handle s (.proxy pkt)).Registers s pkt nets := by
          obtain idle | ⟨_, thrown⟩ := over_
          · exact proxy_unchanged_iff run (Function.update_self ..) idle
          · obtain ⟨same, none⟩ := unchanged_of_thrown run (Function.update_self ..) thrown
            exact iff_of_true same none
        refine ((Unchanged.iff_of_left ?_).trans entered).trans ?_
        · exact .of_session
        have isOpen : ∀ r, ((st.takeRead s).session r).isOpen = (st.session r).isOpen := by
          intro r
          obtain ⟨_, core⟩ := st.core_takeRead s r
          rw [core]
        have phase : ∀ r, ((st.takeRead s).session r).phase = (st.session r).phase := by
          intro r
          obtain ⟨_, core⟩ := st.core_takeRead s r
          rw [core]
        have channels := (Unchanged.takeRead st s).channels
        constructor
        · intro h _ registers
          exact h (registers.of_same rfl rfl rfl isOpen phase channels)
        · intro h registers
          exact h (may pkt rfl) (registers.of_same rfl rfl rfl (fun r => (isOpen r).symm)
            (fun r => (phase r).symm) fun r => (channels r).symm)
    | none | getProxies => exact rejects.elim

/-- The read loop after a frame with a body of one byte. -/
def readOf (frame : Bytes × Bytes) : ReadLoop where
  rbuf := frame.1 ++ frame.2
  hdr := TagPktHdr.ofBytes frame.1
  op := .done .body false 1

/-- A LOGIN whose length byte is larger than the frame. -/
def longGuid : Bytes × Bytes := requestFrame FUNC.REQ.LOGIN [0x7F]

theorem rejects_longGuid : Rejects (readOf longGuid)
    (.login { CReqLoginPkt.new with header := TagPktHdr.ofBytes longGuid.1 }) :=
  ⟨rfl, rfl⟩

/-- The frame `longGuid` is handled in a run. -/
theorem exists_handles (cfg : Config) (as : List (Action S C)) (s : S) (nets : List (Net C))
    {P : Server S C → Server S C → Prop}
    (check : ∃ st ∈ System.runSteps (step cfg) new as, (st.session s).read = readOf longGuid ∧
      ∃ mid ∈ step cfg st (.onReadBody s),
        ∃ st' ∈ System.runSteps (step cfg) mid (nets.map (.run s)),
          st'.task s = .idle ∧ P st st') :
    ∃ st st', (system cfg).Reachable st ∧ Rejects (st.session s).read
      (.login { CReqLoginPkt.new with header := TagPktHdr.ofBytes longGuid.1 }) ∧
      Handles cfg s nets st st' ∧ P st st' := by
  obtain ⟨st, reached, read, mid, called, st', run, idle, found⟩ := reachable_of_run cfg as check
  refine ⟨st, st', reached, ?_, ⟨⟨1, ?_, Nat.one_ne_zero⟩, mid, called,
    System.exec_of_runSteps run, .inl idle⟩, found⟩
  · rw [read]
    exact rejects_longGuid
  · rw [read]
    rfl

/-- The session is logged in. -/
theorem unchanged_of_logined : ∃ st st' : Server (Fin 1) (Fin 1),
    Handles ⟨0, 0, 0⟩ 0 [] st st' ∧ Unchanged 0 st st' := by
  obtain ⟨st, st', _, rejects, handles, logined⟩ :=
    exists_handles (S := Fin 1) (C := Fin 1) ⟨0, 0, 0⟩
      (accept 0 ++ receive 0 (loginFrame [0x41] 1) ++ go 0 3 ++
        [.deliver 0 longGuid.1, .onReadHead 0, .deliver 0 longGuid.2]) 0 []
      (P := fun st _ => (st.session 0).logined = true) (by decide +kernel)
  exact ⟨st, st', handles, (unchanged_iff_harmless rejects handles).mpr (.inl logined)⟩

/-- The first frame of a session logs it in with the empty guid. -/
theorem not_always_unchanged : ¬ ∀ (cfg : Config) (s : Fin 1) (nets : List (Net (Fin 1)))
    (st st' : Server (Fin 1) (Fin 1)) (req : Request), (system cfg).Reachable st →
      Rejects (st.session s).read req → Handles cfg s nets st st' → Unchanged s st st' := by
  intro always
  obtain ⟨st, st', reached, rejects, handles, before, after⟩ :=
    exists_handles (S := Fin 1) (C := Fin 1) ⟨0, 0, 0⟩
      (accept 0 ++ [.deliver 0 longGuid.1, .onReadHead 0, .deliver 0 longGuid.2]) 0
      [.success 0, .success 0, .success 0]
      (P := fun st st' => (st.session 0).logined = false ∧ (st'.session 0).logined = true)
      (by decide +kernel)
  have same := (always _ _ _ _ _ _ reached rejects handles).logined
  rw [before, after] at same
  cases same

end Server

end NatProxy
