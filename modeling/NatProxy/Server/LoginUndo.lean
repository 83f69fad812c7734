import NatProxy.Server.Step

/-!
# What a refused login leaves behind

`onSessionLogin` inserts the guid, enters the session into the map and queues an
operation of the session db, and it returns false at three places. The duplicate
guid is found before any of the three updates, and the taken id takes the guid out
again. After `remote_endpoint` has failed, both updates stay.
-/

namespace NatProxy

open Transition

variable {S C : Type}

namespace Server

variable [DecidableEq S] [DecidableEq C]

/-- The call of `onSessionLogin` for `s` that begins in `st` returns `ok` in `st'`,
while no other thread runs. -/
def LoginReturns (cfg : Config) (s : S) (ok : Bool) (st st' : Server S C) : Prop :=
  ∃ header nets, st.task s = .login header .insertGuid ∧
    (system cfg).Exec st (List.map (Action.run s) nets) st' ∧
    st'.task s = .login header (.finish ok)

/-- The guid set, the session map and the session db are those of `st`. -/
structure SameStores (st st' : Server S C) : Prop where
  guidSet : st'.guidSet = st.guidSet
  ssMap : st'.ssMap = st.ssMap
  ssDb : st'.ssDb = st.ssDb

variable {cfg : Config} {s : S} {st st' : Server S C} {header : TagPktHdr} {nets : List (Net C)}

/-- The call that the thread is in goes on. -/
theorem exec_run_cons (run : (system cfg).Exec st (nets.map (.run s)) st')
    (moves : st.task s ≠ st'.task s) :
    ∃ net nets' mid, nets = net :: nets' ∧ step cfg st (.run s net) = some mid ∧
      (system cfg).Exec mid (List.map (Action.run s) nets') st' := by
  cases nets with
  | nil =>
      cases run
      exact absurd rfl moves
  | cons net nets =>
      cases run with
      | cons first rest => exact ⟨net, nets, _, rfl, first, rest⟩

/-- A thread that is in no call does not go on. -/
theorem exec_run_idle (run : (system cfg).Exec st (nets.map (.run s)) st')
    (idle : st.task s = .idle) : nets = [] ∧ st' = st := by
  cases nets with
  | nil =>
      cases run
      exact ⟨rfl, rfl⟩
  | cons net nets =>
      cases run with
      | cons first _ => simp [system, step, idle] at first

/-- The call of a login goes on. -/
theorem login_goes {pc : LoginPc} (run : (system cfg).Exec st (nets.map (.run s)) st')
    (here : st.task s = .login header pc) (moves : st'.task s ≠ .login header pc) :
    ∃ net nets', (system cfg).Exec (st.runLogin s header net pc)
      (List.map (Action.run s) nets') st' := by
  obtain ⟨net, nets', mid, _, first, rest⟩ := exec_run_cons run (here ▸ moves.symm)
  simp only [step, here, Option.some.injEq] at first
  subst first
  exact ⟨net, nets', rest⟩

/-- The call goes on until its result is there. -/
theorem login_step {pc : LoginPc} {ok : Bool} (run : (system cfg).Exec st (nets.map (.run s)) st')
    (here : st.task s = .login header pc) (returned : st'.task s = .login header (.finish ok))
    (more : ∀ ok, pc ≠ .finish ok) :
    ∃ net nets', (system cfg).Exec (st.runLogin s header net pc)
      (List.map (Action.run s) nets') st' := by
  refine login_goes run here ?_
  rw [returned]
  rintro ⟨⟩
  exact more ok rfl

/-- After the result the call goes on to its end. -/
theorem login_done {ok result : Bool} (run : (system cfg).Exec st (nets.map (.run s)) st')
    (here : st.task s = .login header (.finish result))
    (returned : st'.task s = .login header (.finish ok)) : result = ok ∧ st' = st := by
  cases nets with
  | nil =>
      cases run
      obtain ⟨_, same⟩ := Task.login.inj (here.symm.trans returned)
      exact ⟨LoginPc.finish.inj same, rfl⟩
  | cons net nets =>
      cases run with
      | cons first rest =>
          simp only [system, System.ofStep_step, step, here, Option.some.injEq] at first
          have idle : (st.runLogin s header net (.finish result)).task s = .idle := by
            cases result <;> exact Function.update_self ..
          subst first
          obtain ⟨_, rfl⟩ := exec_run_idle rest idle
          cases idle.symm.trans returned

/-- `addSession` finds the id in the map, or goes on to `remote_endpoint`. -/
theorem login_addSession (run : (system cfg).Exec st (nets.map (.run s)) st')
    (here : st.task s = .login header .addSession)
    (returned : st'.task s = .login header (.finish false)) :
    st.ssMap (st.session s).id ≠ none ∧ st'.ssMap = st.ssMap ∧ st'.ssDb = st.ssDb ∧
        st'.guidSet = Function.update st.guidSet (st.session s).guid none ∨
      st.ssMap (st.session s).id = none ∧ st'.guidSet = st.guidSet := by
  obtain ⟨_, nets, run⟩ := login_step run here returned nofun
  rw [runLogin] at run
  cases slot : st.ssMap (st.session s).id with
  | some other =>
      simp only [slot] at run
      obtain ⟨_, nets, run⟩ := login_step run (Function.update_self ..) returned nofun
      obtain ⟨_, rfl⟩ := login_done run (Function.update_self ..) returned
      exact .inl ⟨nofun, rfl, rfl, rfl⟩
  | none =>
      simp only [slot] at run
      obtain ⟨net, nets, run⟩ := login_step run (Function.update_self ..) returned nofun
      rw [runLogin] at run
      split at run
      · -- the call would return true
        obtain ⟨_, nets, run⟩ := login_step run (Function.update_self ..) returned nofun
        obtain ⟨ok, _⟩ := login_done run (Function.update_self ..) returned
        cases ok
      · obtain ⟨_, rfl⟩ := login_done run (Function.update_self ..) returned
        exact .inr ⟨rfl, rfl⟩

/-- The same for the id that the call has just allocated. -/
theorem login_allocId (run : (system cfg).Exec st (nets.map (.run s)) st')
    (here : st.task s = .login header .allocId)
    (returned : st'.task s = .login header (.finish false)) :
    st.ssMap st.sessionId ≠ none ∧ st'.ssMap = st.ssMap ∧ st'.ssDb = st.ssDb ∧
        st'.guidSet = Function.update st.guidSet (st.session s).guid none ∨
      st.ssMap st.sessionId = none ∧ st'.guidSet = st.guidSet := by
  obtain ⟨net, nets, run⟩ := login_step run here returned nofun
  have id : ((st.runLogin s header net .allocId).session s).id = st.sessionId := by
    simp [runLogin, modSession, setTask]
  have guid : ((st.runLogin s header net .allocId).session s).guid = (st.session s).guid := by
    simp [runLogin, modSession, setTask]
  cases type : (st.session s).isServer with
  | true =>
      have next : (st.runLogin s header net .allocId).task s = .login header .addSession := by
        simp [runLogin, setTask, type]
      have stores := login_addSession run next returned
      rwa [id, guid] at stores
  | false =>
      -- a client is not entered, and the call would return true
      have next : (st.runLogin s header net .allocId).task s = .login header (.finish true) := by
        simp [runLogin, setTask, type]
      obtain ⟨ok, _⟩ := login_done run next returned
      cases ok

/-- A refused login has found the guid or the id taken and has changed nothing, or
its guid stays in the set. -/
theorem LoginReturns.stores (refused : LoginReturns cfg s false st st') :
    (st.guidSet (st.session s).guid ≠ none ∨ st.ssMap st.sessionId ≠ none) ∧ st.SameStores st' ∨
      st.guidSet (st.session s).guid = none ∧ st.ssMap st.sessionId = none ∧
        st'.guidSet (st.session s).guid ≠ none := by
  obtain ⟨header, nets, here, run, returned⟩ := refused
  obtain ⟨net, nets, run⟩ := login_step run here returned nofun
  rw [runLogin] at run
  cases slot : st.guidSet (st.session s).guid with
  | some other =>
      simp only [slot] at run
      obtain ⟨_, rfl⟩ := login_done run (Function.update_self ..) returned
      exact .inl ⟨.inl nofun, rfl, rfl, rfl⟩
  | none =>
      simp only [slot] at run
      obtain ⟨taken, ssMap, ssDb, guidSet⟩ | ⟨free, guidSet⟩ :=
        login_allocId run (Function.update_self ..) returned
      · have undone : Function.update (Function.update st.guidSet (st.session s).guid (some s))
            (st.session s).guid none = st.guidSet := by
          rw [Function.update_idem, ← slot, Function.update_eq_self]
        exact .inl ⟨.inr taken, guidSet.trans undone, ssMap, ssDb⟩
      · refine .inr ⟨rfl, free, ?_⟩
        rw [guidSet]
        change Function.update st.guidSet _ _ _ ≠ none
        rw [Function.update_self]
        exact Option.some_ne_none s

/-- A login that is refused leaves the guid set, the session map and the session db
as they were exactly if it finds its guid or its new id taken. -/
theorem sameStores_iff (refused : LoginReturns cfg s false st st') :
    st.SameStores st' ↔
      st.guidSet (st.session s).guid ≠ none ∨ st.ssMap st.sessionId ≠ none := by
  obtain ⟨taken, same⟩ | ⟨guid, id, kept⟩ := refused.stores
  · exact iff_of_true same taken
  · refine iff_of_false (fun same => kept ?_) ?_
    · rw [same.guidSet, guid]
    · rintro (taken | taken)
      · exact taken guid
      · exact taken id

/-- A call of `onSessionLogin` in a run. -/
theorem exists_loginReturns (cfg : Config) (as : List (Action S C)) (s : S) (header : TagPktHdr)
    (nets : List (Net C)) {P : Server S C → Server S C → Prop}
    (check : ∃ st ∈ System.runSteps (step cfg) new as, st.task s = .login header .insertGuid ∧
      ∃ st' ∈ System.runSteps (step cfg) st (nets.map (.run s)),
        st'.task s = .login header (.finish false) ∧ P st st') :
    ∃ st st', (system cfg).Reachable st ∧ LoginReturns cfg s false st st' ∧ P st st' := by
  obtain ⟨st, reached, called, st', run, returned, found⟩ := reachable_of_run cfg as check
  exact ⟨st, st', reached, ⟨header, nets, called, System.exec_of_runSteps run, returned⟩, found⟩

/-- A second session asks for the guid of the first. -/
theorem sameStores_of_duplicate : ∃ st st' : Server (Fin 2) (Fin 1),
    st.guidSet [0x41] = some 0 ∧ st.SameStores st' := by
  obtain ⟨st, st', _, refused, guid, taken⟩ :=
    exists_loginReturns (S := Fin 2) (C := Fin 1) ⟨0, 0, 0⟩
      (accept 0 ++ receive 0 (loginFrame [0x41] 1) ++ go 0 3 ++
        accept 1 ++ receive 1 (loginFrame [0x41] 2)) 1
      (TagPktHdr.ofBytes (loginFrame [0x41] 2).1) [.success 0]
      (P := fun st _ => (st.session 1).guid = [0x41] ∧ st.guidSet [0x41] = some 0)
      (by decide +kernel)
  refine ⟨st, st', taken, (sameStores_iff refused).mpr (.inl ?_)⟩
  rw [guid, taken]
  exact Option.some_ne_none 0

/-- The connection is reset before `remote_endpoint` asks for its peer. -/
theorem not_always_sameStores : ¬ ∀ (cfg : Config) (s : Fin 2) (st st' : Server (Fin 2) (Fin 1)),
    LoginReturns cfg s false st st' → st.SameStores st' := by
  intro always
  obtain ⟨st, st', _, refused, free, taken⟩ :=
    exists_loginReturns (S := Fin 2) (C := Fin 1) ⟨0, 0, 0⟩
      (accept 0 ++ receive 0 (loginFrame [0x41] 2)) 0 (TagPktHdr.ofBytes (loginFrame [0x41] 2).1)
      [.success 0, .success 0, .success 0, ⟨false, 0, .noBind, 0⟩]
      (P := fun st st' => st.guidSet [0x41] = none ∧ st'.guidSet [0x41] = some 0)
      (by decide +kernel)
  have same := (always _ _ _ _ refused).guidSet
  rw [same, free] at taken
  cases taken

end Server

end NatProxy
