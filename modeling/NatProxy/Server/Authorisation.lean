import NatProxy.Server.Wiring

/-!
# Requests are served to sessions that are logged in

`onReadBody` decides by the type of the session whether to serve PROXY and
GETPROXIES, and `onReqLogin` assigns the type before it knows whether the login
succeeds. A session whose login was refused keeps the type that it asked for, and
is served. In the same way `createChannel` finds every session that
`onSessionLogin` has entered into the session map: also one whose login is not
finished, and one whose login failed after the entry.

`Server.Orderly` is the condition that no step goes these ways. Under it every
request that is served comes from a session that is logged in, and every channel
leads to one.
-/

namespace NatProxy

open Transition

variable {S C : Type}

theorem SessionCore.isServer_congr {core core' : SessionCore}
    (type : core'.sessionType = core.sessionType) : core'.isServer = core.isServer := by
  rw [isServer, type, isServer]

/-- The call is a login. -/
def RegTask.IsLogin (task : RegTask) : Prop := ∃ pc, task = .login pc

namespace Registry

variable {v v' : Registry S} {a : Action S C} {s : S}

/-- What a step does to the login of one session. -/
inductive LoginStep (v : Registry S) (a : Action S C) (v' : Registry S) (s : S) : Prop
  | same (logined : (v'.core s).logined = (v.core s).logined)
      (type : (v'.core s).sessionType = (v.core s).sessionType)
      (login : (v.task s).IsLogin → (v'.task s).IsLogin)
  | begins {req : CReqLoginPkt} (body : a = .onReadBody s) (idle : v.task s = .idle)
      (decodes : (v.core s).Decodes (.login req)) (before : (v.core s).logined = false)
      (type : (v'.core s).sessionType = req.uctype.toUInt32) (login : (v'.task s).IsLogin)
  | finishes {n : Net C} {ok : Bool} (runs : a = .run s n)
      (here : v.task s = .login (.finish ok)) (logined : (v'.core s).logined = ok)
      (type : (v'.core s).sessionType = (v.core s).sessionType)

/-- No login of a session that is logged in begins, and none ends. -/
theorem LoginStep.keeps (step : LoginStep v a v' s) (consistent : v.Consistent)
    (logined : (v.core s).logined = true) :
    (v'.core s).logined = true ∧ (v'.core s).sessionType = (v.core s).sessionType := by
  cases step with
  | same same type => exact ⟨same.trans logined, type⟩
  | begins _ _ _ before => cases logined.symm.trans before
  | finishes _ here => cases logined.symm.trans ((consistent s).pending _ here)

variable [DecidableEq S]

theorem loginStep_set {w : Registry S} {r : S} {core : SessionCore} {task : RegTask}
    (others : w.core = v.core ∧ w.task = v.task)
    (one : s = r → core.logined = (v.core r).logined ∧
      core.sessionType = (v.core r).sessionType ∧ ((v.task r).IsLogin → task.IsLogin)) :
    LoginStep v a (w.set r core task) s := by
  by_cases eq : s = r
  · subst eq
    obtain ⟨logined, type, login⟩ := one rfl
    exact .same (by simpa using logined) (by simpa using type) (by simpa using login)
  · have sameCore := (w.core_set_of_ne core task eq).trans (congrFun others.1 s)
    have sameTask := (w.task_set_of_ne core task eq).trans (congrFun others.2 s)
    exact .same (by rw [sameCore]) (by rw [sameCore]) (by rw [sameTask]; exact id)

theorem Step.loginStep (step : Step v a v') (s : S) : LoginStep v a v' s := by
  have no : ∀ {task : RegTask} {P : Prop}, (∀ pc, task ≠ .login pc) → task.IsLogin → P := by
    rintro task P other ⟨pc, here⟩
    exact absurd here (other pc)
  cases step with
  | own r step =>
      exact loginStep_set ⟨rfl, rfl⟩ fun _ => ⟨step.logined, step.sessionType, id⟩
  | start => exact loginStep_set ⟨rfl, rfl⟩ fun _ => ⟨rfl, rfl, id⟩
  | timeoutStop idle => exact loginStep_set ⟨rfl, rfl⟩ fun _ => ⟨rfl, rfl, no (by simp [idle])⟩
  | readStop idle fails =>
      obtain ⟨_, read, rfl, _⟩ := fails
      exact loginStep_set ⟨rfl, rfl⟩ fun _ => ⟨rfl, rfl, no (by simp [idle])⟩
  | stopAll here | removeGuid here | notLogined here | delDb here | eraseMap here
  | sessionClosed here | answer here | proxy here | proxyDone here =>
      exact loginStep_set ⟨rfl, rfl⟩ fun _ => ⟨rfl, rfl, no (by simp [here])⟩
  | insertGuid | guidTaken | allocId | addSession | idTaken | undoGuid | remoteEndpoint
  | noRemoteEndpoint | addDb =>
      exact loginStep_set ⟨rfl, rfl⟩ fun _ => ⟨rfl, rfl, fun _ => ⟨_, rfl⟩⟩
  | @login r req idle decodes logined =>
      by_cases eq : s = r
      · subst eq
        refine .begins rfl idle decodes (Bool.eq_false_iff.mpr logined) ?_ ⟨.insertGuid, ?_⟩
        · rw [core_set_self]
          rfl
        · rw [task_set_self]
      · exact loginStep_set ⟨rfl, rfl⟩ fun same => absurd same eq
  | @finish r n ok here =>
      by_cases eq : s = r
      · subst eq
        refine .finishes rfl here ?_ ?_ <;>
        · rw [core_set_self]
          rfl
      · exact loginStep_set ⟨rfl, rfl⟩ fun same => absurd same eq
  | db => exact .same rfl rfl id

/-- A session enters the session map in its own login. -/
theorem Step.entered (step : Step v a v') {id : UInt32} (entry : v'.ssMap id = some s) :
    v.ssMap id = some s ∨ v.task s = .login .addSession := by
  cases step with
  | @addSession r n here free =>
      by_cases eq : r = s
      · subst eq
        exact .inr here
      · exact .inl (old_of_insert eq entry)
  | eraseMap => exact .inl (old_of_remove entry)
  | _ => exact .inl entry

/-- A proxy request begins on the handler of a completed read. -/
theorem Step.requested (step : Step v a v') (proxy : v'.task s = .proxy) :
    v.task s = .proxy ∨ ∃ req, a = .onReadBody s ∧ v.task s = .idle ∧
      (v.core s).Decodes (.proxy req) := by
  have set : ∀ {r : S} {task : RegTask}, Function.update v.task r task s = .proxy →
      (s = r ∧ task = .proxy) ∨ v.task s = .proxy := eq_of_update
  cases step with
  | db => exact .inl proxy
  | own | start =>
      obtain ⟨rfl, before⟩ | before := set proxy
      · exact .inl before
      · exact .inl before
  | proxy idle decodes =>
      obtain ⟨rfl, _⟩ | before := set proxy
      · exact .inr ⟨_, rfl, idle, decodes⟩
      · exact .inl before
  | timeoutStop | readStop =>
      obtain ⟨rfl, other⟩ | before := set proxy
      · split at other <;> cases other
      · exact .inl before
  | _ =>
      obtain ⟨rfl, other⟩ | before := set proxy
      · cases other
      · exact .inl before

end Registry

namespace Channels

variable [DecidableEq S] [DecidableEq C] {v v' : Channels S C} {cfg : Config} {a : Action S C}
variable {s : S} {msg : Queued C}

omit [DecidableEq C] in
theorem mem_say {r : S} {one : Queued C} (mem : msg ∈ v.called s) :
    msg ∈ (v.say r one).called s := by
  by_cases eq : s = r
  · subst eq
    simp [mem]
  · simpa [eq] using mem

omit [DecidableEq C] in
theorem mem_of_say {r : S} {one : Queued C} (mem : msg ∈ (v.say r one).called s) :
    msg ∈ v.called s ∨ s = r ∧ msg = one := by
  by_cases eq : s = r
  · subst eq
    simpa using mem
  · exact .inl (by simpa [eq] using mem)

/-- What was queued stays in the record. -/
theorem Step.called_mono (step : Step cfg v a v') (mem : msg ∈ v.called s) :
    msg ∈ v'.called s := by
  cases step with
  | answer | directory | undoNotify | respErr | access | respOk | notify => exact mem_say mem
  | _ => exact mem

/-- The list of sessions is queued by the handler of a body. -/
theorem Step.directories (step : Step cfg v a v') (mem : msg ∈ v'.called s)
    (list : msg.isDirectory = true) : msg ∈ v.called s ∨ a = .onReadBody s := by
  cases step with
  | answer _ _ _ discreet =>
      obtain old | ⟨_, rfl⟩ := mem_of_say mem
      · exact .inl old
      · cases discreet.symm.trans list
  | directory =>
      obtain old | ⟨rfl, _⟩ := mem_of_say mem
      · exact .inl old
      · exact .inr rfl
  | undoNotify | respErr | access | respOk | notify =>
      obtain old | ⟨_, rfl⟩ := mem_of_say mem
      · exact .inl old
      · cases list
  | _ => exact .inl mem

/-- The destination of a new channel is the session that `lookup` found. -/
theorem Step.target (step : Step cfg v a v') {req : CReqProxyPkt} {d : S}
    (create : v'.task s = .proxy req (.create d)) : v.task s = .proxy req (.create d) ∨
      ∃ n, a = .run s n ∧ v.task s = .proxy req .lookup := by
  have set : ∀ {r : S} {task : ChanTask S C},
      Function.update v.task r task s = .proxy req (.create d) →
        (s = r ∧ task = .proxy req (.create d)) ∨ v.task s = .proxy req (.create d) :=
    eq_of_update
  cases step with
  | lookup here =>
      obtain ⟨rfl, found⟩ | before := set create
      · cases found
        exact .inr ⟨_, rfl, here⟩
      · exact .inl before
  | beginStop =>
      obtain ⟨rfl, other⟩ | before := set create
      · split at other <;> cases other
      · exact .inl before
  | closing _ _ next =>
      obtain ⟨rfl, rfl⟩ | before := set create
      · obtain other | ⟨pc, other, _⟩ := next <;> cases other
      · exact .inl before
  | @initEnd _ _ _ side =>
      obtain ⟨rfl, other⟩ | before := set create
      · cases side <;> cases other
      · exact .inl before
  | stopAll | request | notFound | create | createThrows | initFails | addSrc | srcTaken | addDst
  | dstTaken | undoRemove | undoNotify | fail | respErr | lockDst | dstGone | checkDst | dstStopped
  | startChannel | access | respOk =>
      obtain ⟨rfl, other⟩ | before := set create
      · cases other
      · exact .inl before
  | _ => exact .inl create

end Channels

namespace Server

section Logins

variable (st : Server S C) (s : S)

/-- A login of the session is under way. -/
def LoggingIn : Prop := (st.registry.task s).IsLogin

/-- The session was answered that its login failed. -/
def Told : Prop := ∃ header, loginMsg header ERRCODE.LOGINED_FAILED 0 ∈ (st.sendq s).called

/-- The session was answered that its login failed, and no login has succeeded. -/
def Refused : Prop := (st.session s).logined = false ∧ st.Told s

/-- A login of the session has succeeded, is under way or has failed. -/
def Asked : Prop := (st.session s).logined = true ∨ st.LoggingIn s ∨ st.Told s

/-- The session is logged in with a type that may ask for channels. -/
def MayAsk : Prop :=
  (st.session s).logined = true ∧ mayRequest (st.session s).sessionType = true

/-- The session is logged in with a type that channels may lead to. -/
def MayServe : Prop := (st.session s).logined = true ∧ (st.session s).isServer = true

variable {st s}

theorem Asked.logined (asked : st.Asked s) (idle : ¬ st.LoggingIn s) (welcome : ¬ st.Refused s) :
    (st.session s).logined = true := by
  obtain logined | busy | told := asked
  · exact logined
  · exact absurd busy idle
  · by_contra failed
    exact welcome ⟨Bool.eq_false_iff.mpr failed, told⟩

end Logins

/-- A session whose logins have been refused sends no PROXY and no GETPROXIES, and one
that is in the session map without being logged in does not ask to log in with a type
that does not belong there. -/
def Admissible (st : Server S C) (s : S) : Request → Prop
  | .none => True
  | .login req => (st.session s).logined = false → ∀ id, st.ssMap id = some s →
      ((st.session s).toSessionCore.request req).isServer = true
  | .proxy _ => ¬ st.Refused s
  | .getProxies _ => ¬ st.Refused s

/-- The requests are admissible, and the session that `createChannel` looks up is neither
logging in nor refused. -/
def Orderly (st : Server S C) : Action S C → Prop
  | .onReadBody s => ∀ req, (st.registry.core s).Decodes req → st.Admissible s req
  | .run s _ => ∀ req d, st.task s = .proxy req .lookup → st.ssMap req.uiDstId = some d →
      ¬ st.LoggingIn d ∧ ¬ st.Refused d
  | _ => True

/-- The sessions of every channel are logged in with the types for it, and the list of
sessions was sent to sessions that are logged in. -/
structure Authorised (st : Server S C) : Prop where
  source : ∀ c ch, st.channel c = some ch → st.MayAsk (ch.ss .src)
  destination : ∀ c ch, st.channel c = some ch → st.MayServe (ch.ss .dst)
  directory : ∀ s, ∀ msg ∈ (st.sendq s).called, msg.isDirectory = true →
    (st.session s).logined = true

/-- What leads to it: a type that may ask, and an entry of the session map, come with a
login. -/
structure Vetted (st : Server S C) : Prop extends st.Authorised where
  requests : ∀ s, mayRequest (st.session s).sessionType = true → st.Asked s
  entries : ∀ id s, st.ssMap id = some s → (st.session s).isServer = true ∧ st.Asked s
  callers : ∀ s, st.registry.task s = .proxy → st.MayAsk s
  targets : ∀ s req d, st.task s = .proxy req (.create d) → st.MayServe d

variable [DecidableEq S] [DecidableEq C]

/-- A refused login is answered. -/
theorem told_of_finish {cfg : Config} {st st' : Server S C} {s : S} {n : Net C}
    (run : step cfg st (.run s n) = some st') (here : st.registry.task s = .login (.finish false)) :
    st'.Told s := by
  cases call : st.task s with
  | login header pc =>
      rw [registry_task, call] at here
      cases here
      simp only [step, call] at run
      obtain rfl := Option.some.inj run
      refine ⟨header, ?_⟩
      change _ ∈ (Server.channels _).called s
      simp [runLogin]
  | idle | stop pc | proxy req pc =>
      rw [registry_task, call] at here
      cases here

omit [DecidableEq C] in
/-- `onReadBody` sends the list of sessions on a GETPROXIES. -/
theorem decodes_of_directory {st st' : Server S C} {s : S} {msg : Queued C}
    (run : st.onReadBody s = some st') (old : msg ∉ (st.sendq s).called)
    (mem : msg ∈ (st'.sendq s).called) (list : msg.isDirectory = true) :
    ∃ req, (st.registry.core s).Decodes (.getProxies req) := by
  have unchanged : ∀ {w : Server S C}, (w.sendq s).called = (st.sendq s).called →
      msg ∈ (w.sendq s).called → False := by
    intro w same mem
    rw [same] at mem
    exact old mem
  obtain ⟨ec, bytes, done, rfl | ⟨rfl, req, decoded, rfl⟩⟩ := onReadBody_eq_some run
  · exact (unchanged rfl mem).elim
  · cases req with
    | none => exact (unchanged rfl mem).elim
    | proxy req => exact (unchanged rfl mem).elim
    | getProxies req => exact ⟨req, ⟨bytes, done⟩, decoded⟩
    | login req =>
        rw [handle, onReqLogin] at mem
        split at mem
        · -- A repeated login is answered with a login response.
          have said : msg ∈ ((st.modSession s SessionCore.takeRead).doWrite s
              (loginMsg req.header ERRCODE.REPEAT_LOGINED_ERR _)).channels.called s := mem
          rw [channels_doWrite] at said
          obtain before | ⟨_, rfl⟩ := Channels.mem_of_say said
          · exact absurd before old
          · cases list
        · exact (unchanged rfl mem).elim

/-- `createChannel` looks the destination up in the session map. -/
theorem ssMap_of_lookup {cfg : Config} {st st' : Server S C} {s d : S} {n : Net C}
    {req : CReqProxyPkt} (run : step cfg st (.run s n) = some st')
    (here : st.task s = .proxy req .lookup) (create : st'.task s = .proxy req (.create d)) :
    st.ssMap req.uiDstId = some d := by
  simp only [step, here, runProxy] at run
  split at run
  · next found locked =>
    obtain rfl := Option.some.inj run
    simp only [setTask, Function.update_self] at create
    cases create
    obtain ⟨_, locked⟩ := Option.ite_none_right_eq_some.mp locked
    exact (st.lock_eq_some_iff.mp locked).1
  · obtain rfl := Option.some.inj run
    simp only [setTask, Function.update_self] at create
    cases create

section Steps

variable {cfg : Config} {st st' : Server S C} {a : Action S C} {s : S}

theorem loginStep (run : step cfg st a = some st') (s : S) :
    st.registry.LoginStep a st'.registry s := by
  obtain same | step := step_registry run
  · rw [same]
    exact .same rfl rfl id
  · exact step.loginStep s

/-- A session that is logged in stays so, with its type. -/
theorem keeps_login (consistent : st.registry.Consistent) (run : step cfg st a = some st')
    (logined : (st.session s).logined = true) :
    (st'.session s).logined = true ∧ (st'.session s).sessionType = (st.session s).sessionType :=
  (loginStep run s).keeps consistent logined

theorem MayAsk.keep (may : st.MayAsk s) (consistent : st.registry.Consistent)
    (run : step cfg st a = some st') : st'.MayAsk s := by
  obtain ⟨logined, type⟩ := keeps_login consistent run may.1
  exact ⟨logined, by rw [type]; exact may.2⟩

theorem MayServe.keep (may : st.MayServe s) (consistent : st.registry.Consistent)
    (run : step cfg st a = some st') : st'.MayServe s := by
  obtain ⟨logined, type⟩ := keeps_login consistent run may.1
  exact ⟨logined, (SessionCore.isServer_congr type).trans may.2⟩

theorem Told.keep (told : st.Told s) (reached : (system cfg).Reachable st)
    (run : step cfg st a = some st') : st'.Told s := by
  obtain ⟨header, mem⟩ := told
  refine ⟨header, ?_⟩
  obtain same | step := (channels_mapping cfg).step st a st' reached run
  · have called : (st'.sendq s).called = (st.sendq s).called :=
      congrFun (congrArg Channels.called same) s
    rwa [called]
  · exact step.called_mono mem

theorem Asked.keep (asked : st.Asked s) (reached : (system cfg).Reachable st)
    (run : step cfg st a = some st') : st'.Asked s := by
  have told : st.Told s → st'.Told s := fun told => told.keep reached run
  cases loginStep run s with
  | same logined _ login =>
      obtain before | busy | failed := asked
      · exact .inl (logined.trans before)
      · exact .inr (.inl (login busy))
      · exact .inr (.inr (told failed))
  | begins _ _ _ _ _ login => exact .inr (.inl login)
  | @finishes n ok runs here logined =>
      subst runs
      cases ok with
      | true => exact .inl logined
      | false => exact .inr (.inr (told_of_finish run here))

omit [DecidableEq S] [DecidableEq C] in
/-- A session between two handlers, with a type that may ask, is logged in or refused. -/
theorem Vetted.mayAsk (h : st.Vetted) (idle : st.registry.task s = .idle)
    (may : mayRequest (st.session s).sessionType = true) (welcome : ¬ st.Refused s) :
    st.MayAsk s := by
  refine ⟨(h.requests s may).logined ?_ welcome, may⟩
  rintro ⟨pc, login⟩
  cases idle.symm.trans login

theorem Vetted.step_requests (h : st.Vetted) (reached : (system cfg).Reachable st)
    (run : step cfg st a = some st') (may : mayRequest (st'.session s).sessionType = true) :
    st'.Asked s := by
  cases loginStep run s with
  | same _ type | finishes _ _ _ type =>
      have before : mayRequest (st.session s).sessionType = true := type ▸ may
      exact (h.requests s before).keep reached run
  | begins _ _ _ _ _ login => exact .inr (.inl login)

theorem Vetted.step_entries (h : st.Vetted) (reached : (system cfg).Reachable st)
    (run : step cfg st a = some st') (orderly : st.Orderly a) {id : UInt32}
    (entry : st'.ssMap id = some s) : (st'.session s).isServer = true ∧ st'.Asked s := by
  have registry := (registry_mapping cfg).reachable reached
  have entered : st.ssMap id = some s ∨ st.registry.task s = .login .addSession := by
    obtain same | step := step_registry run
    · exact .inl ((congrFun (congrArg Registry.ssMap same) id).symm.trans entry)
    · exact step.entered entry
  have before : (st.session s).isServer = true ∧ st.Asked s := by
    obtain old | adding := entered
    · exact h.entries id s old
    · exact ⟨Registry.serversOnly_of_reachable registry s _ adding trivial,
        .inr (.inl ⟨_, adding⟩)⟩
  refine ⟨?_, before.2.keep reached run⟩
  cases loginStep run s with
  | same _ type | finishes _ _ _ type => exact (SessionCore.isServer_congr type).trans before.1
  | begins body idle decodes fresh type =>
      subst body
      obtain old | adding := entered
      · have admitted := orderly _ decodes fresh id old
        exact (SessionCore.isServer_congr type).trans admitted
      · cases idle.symm.trans adding

theorem Vetted.step_callers (h : st.Vetted) (reached : (system cfg).Reachable st)
    (run : step cfg st a = some st') (orderly : st.Orderly a)
    (proxy : st'.registry.task s = .proxy) : st'.MayAsk s := by
  have consistent := Registry.consistent_of_reachable ((registry_mapping cfg).reachable reached)
  refine MayAsk.keep ?_ consistent run
  obtain same | step := step_registry run
  · exact h.callers s (same ▸ proxy)
  · obtain before | ⟨req, rfl, idle, decodes⟩ := step.requested proxy
    · exact h.callers s before
    · exact h.mayAsk idle (dispatch_cases decodes.2).2 (orderly _ decodes)

theorem Vetted.step_targets (h : st.Vetted) (reached : (system cfg).Reachable st)
    (run : step cfg st a = some st') (orderly : st.Orderly a) {req : CReqProxyPkt} {d : S}
    (create : st'.task s = .proxy req (.create d)) : st'.MayServe d := by
  have consistent := Registry.consistent_of_reachable ((registry_mapping cfg).reachable reached)
  refine MayServe.keep ?_ consistent run
  have create : st'.channels.task s = .proxy req (.create d) :=
    (st'.channels_task_eq_proxy s).mpr create
  obtain same | step := (channels_mapping cfg).step st a st' reached run
  · exact h.targets s req d ((st.channels_task_eq_proxy s).mp (same ▸ create))
  · obtain before | ⟨n, rfl, lookup⟩ := step.target create
    · exact h.targets s req d ((st.channels_task_eq_proxy s).mp before)
    · have here := (st.channels_task_eq_proxy s).mp lookup
      have found := ssMap_of_lookup run here ((st'.channels_task_eq_proxy s).mp create)
      obtain ⟨server, asked⟩ := h.entries _ d found
      obtain ⟨idle, welcome⟩ := orderly req d here found
      exact ⟨asked.logined idle welcome, server⟩

theorem Vetted.step_channel (h : st.Vetted) (reached : (system cfg).Reachable st)
    (run : step cfg st a = some st') {c : C} {ch : CChannel S} (found : st'.channel c = some ch) :
    st'.MayAsk (ch.ss .src) ∧ st'.MayServe (ch.ss .dst) := by
  have consistent := Registry.consistent_of_reachable ((registry_mapping cfg).reachable reached)
  have before : st.MayAsk (ch.ss .src) ∧ st.MayServe (ch.ss .dst) := by
    obtain same | step := (channels_mapping cfg).step st a st' reached run
    · have old : st.channel c = some ch :=
        (congrFun (congrArg Channels.channel same) c).symm.trans found
      exact ⟨h.source c ch old, h.destination c ch old⟩
    · obtain ⟨old, existed⟩ | ⟨s, n, req, d, id, _, here, rfl, _⟩ := step.old_or_new found
      · obtain ⟨ch', again, ss, _⟩ := step.keeps existed
        obtain rfl := Option.some.inj (again.symm.trans found)
        rw [ss]
        exact ⟨h.source c old existed, h.destination c old existed⟩
      · have here := (st.channels_task_eq_proxy s).mp here
        have proxy : st.registry.task s = .proxy := by rw [registry_task, here, Task.registry]
        exact ⟨h.callers s proxy, h.targets s req d here⟩
  exact ⟨before.1.keep consistent run, before.2.keep consistent run⟩

theorem Vetted.step_directory (h : st.Vetted) (reached : (system cfg).Reachable st)
    (run : step cfg st a = some st') (orderly : st.Orderly a) {msg : Queued C}
    (mem : msg ∈ (st'.sendq s).called) (list : msg.isDirectory = true) :
    (st'.session s).logined = true := by
  have consistent := Registry.consistent_of_reachable ((registry_mapping cfg).reachable reached)
  refine (keeps_login consistent run ?_).1
  by_cases old : msg ∈ (st.sendq s).called
  · exact h.directory s msg old list
  · obtain same | step := (channels_mapping cfg).step st a st' reached run
    · have called : (st'.sendq s).called = (st.sendq s).called :=
        congrFun (congrArg Channels.called same) s
      exact absurd (called ▸ mem) old
    · obtain before | rfl := step.directories mem list
      · exact absurd before old
      · obtain ⟨idle, run⟩ := Option.ite_none_right_eq_some.mp run
        obtain ⟨req, decodes⟩ := decodes_of_directory run old mem list
        exact (h.mayAsk ((st.idle_iff s).mp idle) (dispatch_cases decodes.2).2
          (orderly _ decodes)).1

theorem Vetted.step (h : st.Vetted) (reached : (system cfg).Reachable st)
    (run : Server.step cfg st a = some st') (orderly : st.Orderly a) : st'.Vetted where
  source _ _ found := (h.step_channel reached run found).1
  destination _ _ found := (h.step_channel reached run found).2
  directory _ _ mem list := h.step_directory reached run orderly mem list
  requests _ may := h.step_requests reached run may
  entries _ _ entry := h.step_entries reached run orderly entry
  callers _ proxy := h.step_callers reached run orderly proxy
  targets _ _ _ create := h.step_targets reached run orderly create

end Steps

/-- In every run whose steps are orderly, every channel leads from a session that is logged
in as a client to one that is logged in as a server, and the list of sessions was sent to
sessions that are logged in. -/
theorem served_authorised (cfg : Config) {st : Server S C}
    (reached : ((system cfg).restrict Orderly).Reachable st) : st.Authorised := by
  suffices vetted : st.Vetted from vetted.toAuthorised
  refine reached.invariant (I := Vetted) ?_ ?_
  · rintro _ rfl
    refine { source := nofun, destination := nofun, directory := ?_, requests := ?_,
             entries := nofun, callers := nofun, targets := nofun }
    · rintro s msg mem
      cases mem
    · intro s may
      cases may
  · intro st a st' before h step
    exact h.step before.of_restrict step.2 step.1

/-- A server logs in; a client is refused its guid and asks for a channel to it. -/
def refusedClient : List (Action (Fin 2) (Fin 1)) :=
  accept 1 ++ receive 1 (loginFrame [0x42] 2) ++ go 1 6 ++
    accept 0 ++ receive 0 (loginFrame [0x42] 1) ++ go 0 2 ++ receive 0 (proxyFrame 1000) ++ go 0 9

theorem served_not_always_authorised :
    ¬ ∀ st : Server (Fin 2) (Fin 1), (system ⟨0, 0, 0⟩).Reachable st →
      ∀ c ch, st.channel c = some ch → ch.started = true →
        st.MayAsk (ch.ss .src) ∧ st.MayServe (ch.ss .dst) := by
  intro always
  obtain ⟨st, reached, ch, found, started, refused⟩ :=
    reachable_of_run ⟨0, 0, 0⟩ refusedClient (P := fun st => ∃ ch ∈ st.channel 0,
      ch.started = true ∧ (st.session (ch.ss .src)).logined = false) (by decide +kernel)
  have served := (always st reached 0 ch found started).1.1
  cases refused.symm.trans served

/-- Two sessions that may ask and serve log in; one asks for the list and for a channel. -/
def peers : List (Action (Fin 2) (Fin 1)) :=
  accept 0 ++ receive 0 (loginFrame [0x41] 3) ++ go 0 6 ++
    accept 1 ++ receive 1 (loginFrame [0x42] 3) ++ go 1 6 ++
    receive 0 (requestFrame FUNC.REQ.GETPROXIES [0, 0, 0, 0]) ++
    receive 0 (proxyFrame 1001) ++ go 0 11

/-- Logins are for types that serve, and requests are among sessions that are logged in. -/
def amongPeers (st : Server (Fin 2) (Fin 1)) : Action (Fin 2) (Fin 1) → Bool
  | .onReadBody s =>
      let ss := (st.session s).toSessionCore
      match dispatch ss.sessionType ss.read.hdr ss.read.rbuf with
      | .ok (.login req) => (ss.request req).isServer
      | .ok _ => ss.logined
      | .error _ => true
  | .run s _ =>
      match st.task s with
      | .proxy req .lookup =>
          (st.ssMap req.uiDstId).all fun d => st.idle d && (st.session d).logined
      | _ => true
  | _ => true

theorem orderly_of_amongPeers (st : Server (Fin 2) (Fin 1)) (a : Action (Fin 2) (Fin 1))
    (tested : amongPeers st a = true) : st.Orderly a := by
  have welcome : ∀ {s : Fin 2}, (st.session s).logined = true → ¬ st.Refused s := by
    rintro s logined ⟨failed, _⟩
    cases logined.symm.trans failed
  cases a with
  | onReadBody s =>
      rintro req ⟨_, decoded⟩
      have decoded : dispatch (st.session s).sessionType (st.session s).read.hdr
          (st.session s).read.rbuf = .ok req := decoded
      simp only [amongPeers, decoded] at tested
      cases req with
      | none => trivial
      | login req => exact fun _ _ _ => tested
      | proxy req => exact welcome tested
      | getProxies req => exact welcome tested
  | run s n =>
      intro req d here found
      simp only [amongPeers, here, found, Option.all_some, Bool.and_eq_true] at tested
      refine ⟨?_, welcome tested.2⟩
      rintro ⟨pc, login⟩
      cases ((st.idle_iff d).mp tested.1).symm.trans login
  | _ => trivial

theorem served_authorised_peers :
    ∃ st : Server (Fin 2) (Fin 1), ∃ ch msg, st.channel 0 = some ch ∧ ch.started = true ∧
      msg ∈ (st.sendq 0).called ∧ msg.isDirectory = true ∧
      st.MayAsk (ch.ss .src) ∧ st.MayServe (ch.ss .dst) ∧ (st.session 0).logined = true := by
  obtain ⟨st, reached, ⟨ch, found, started⟩, msg, mem, list⟩ :=
    reachable_of_testedRun ⟨0, 0, 0⟩ peers orderly_of_amongPeers
      (P := fun st => (∃ ch ∈ st.channel 0, ch.started = true) ∧
        ∃ msg ∈ (st.sendq 0).called, msg.isDirectory = true)
      (by decide +kernel)
  have authorised := served_authorised ⟨0, 0, 0⟩ reached
  exact ⟨st, ch, msg, found, started, mem, list, authorised.source 0 ch found,
    authorised.destination 0 ch found, authorised.directory 0 msg mem list⟩

end Server

end NatProxy
