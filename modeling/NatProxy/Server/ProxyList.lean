import NatProxy.Db.Publication
import NatProxy.Protocol.ResponseStream
import NatProxy.Server.Registry

/-!
# The list of proxies

`onReqGetProxies` copies the string that `CSessionDb` published last into its
response. The string is constructed empty, and the worker publishes one only after
it has taken an operation, which a process without servers does not have. A client
that asks before that gets a response without a body, not even a count of zero.
-/

namespace NatProxy

open Memory Transition

/-- The body of the frame is a count followed by as many records of eight bytes. -/
def ListsProxies (frame : Bytes) : Prop :=
  ∃ k ≤ 255, (frame.drop TagPktHdr.size).length = 1 + 8 * k ∧
    (frame.drop TagPktHdr.size).head? = some (UInt8.ofNat k)

namespace Server

variable {S C : Type}

/-- Whatever the request, the response to it that is built now lists the proxies. -/
def ProxiesListed (st : Server S C) : Prop :=
  ∀ header : TagPktHdr, ∃ frame,
    (getProxiesMsg (C := C) header st.ssDb.output).pkt.serialize header = .ok frame ∧
      ListsProxies frame

/-- The string is a count followed by records. -/
def CountedList (out : Bytes) : Prop :=
  ∃ infos : List SSessionInfo, infos.length ≤ 255 ∧
    out = UInt8.ofNat infos.length :: infos.flatMap SSessionInfo.bytes

theorem proxiesListed_of_counted {st : Server S C} (counted : CountedList st.ssDb.output) :
    st.ProxiesListed := by
  obtain ⟨infos, few, out⟩ := counted
  have length : st.ssDb.output.length = 1 + 8 * infos.length := by
    rw [out, List.length_cons, length_flatMap_bytes, Nat.add_comm]
  have fits : (CRespPkt.getProxies ⟨st.ssDb.output⟩).Fits := by
    change st.ssDb.output.length ≤ 65535
    omega
  intro header
  refine ⟨_, CRespPkt.serialize_eq fits header, infos.length, few, ?_⟩
  have body : (CRespPkt.getProxies ⟨st.ssDb.output⟩).body = st.ssDb.output := List.append_nil _
  rw [List.drop_left' (TagPktHdr.length_toBytes _), body, length, out]
  exact ⟨rfl, rfl⟩

/-- Without a published string the body is empty. -/
theorem not_proxiesListed_of_empty {st : Server S C} (empty : st.ssDb.output = []) :
    ¬ st.ProxiesListed := by
  intro listed
  obtain ⟨frame, serialized, k, _, length, _⟩ := listed .zero
  rw [empty, getProxiesMsg, CRespPkt.serialize_eq (by simp [CRespPkt.Fits])] at serialized
  obtain rfl := Except.ok.inj serialized
  rw [List.drop_left' (TagPktHdr.length_toBytes _)] at length
  simp only [CRespPkt.body, CRespPkt.fields, List.flatMap_cons, List.flatMap_nil, List.append_nil,
    List.length_nil] at length
  omega

/-- The runs of `serial` in a step. -/
def publications (_ : Server S C) : Action S C → List Unit
  | .db .serial => [()]
  | _ => []

end Server

variable {S C : Type} [DecidableEq S]

theorem Registry.Step.outBuff {v v' : Registry S} {a : Action S C} (step : Registry.Step v a v') :
    v'.ssDb.outBuff = v.ssDb.outBuff ∨ ∃ e, a = .db e ∧ v.ssDb.step e = some v'.ssDb := by
  cases step with
  | db step => exact .inr ⟨_, rfl, step⟩
  | _ => exact .inl rfl

/-- Only `serial` publishes. -/
theorem CSessionDb.outBuff_step {d d' : CSessionDb} {e : CSessionDb.Event}
    (run : d.step e = some d') (other : e ≠ .serial) : d'.outBuff = d.outBuff := by
  cases e with
  | serial => exact absurd rfl other
  | operate =>
      have front : d.operateFront.outBuff = d.outBuff := by
        unfold CSessionDb.operateFront
        split <;> rfl
      simp only [CSessionDb.step] at run
      split at run
      · obtain rfl := Option.some.inj run
        exact front
      · split at run <;> obtain rfl := Option.some.inj run
        · exact front
        · rfl
      · cases run
  | stop =>
      simp only [CSessionDb.step, Option.ite_none_right_eq_some, Option.some.injEq] at run
      obtain ⟨_, rfl⟩ := run
      rfl

/-- What `serial` publishes of a small table. -/
theorem CSessionDb.counted_serial {d d' : CSessionDb} (run : d.step .serial = some d')
    (few : d.size ≤ 255) : Server.CountedList d'.output := by
  cases worker : d.worker with
  | serializing =>
      simp only [CSessionDb.step, worker, serial_eq few] at run
      obtain rfl := Option.some.inj run
      refine ⟨d.store.db.entries.map Sigma.snd, ?_, ?_⟩
      · rwa [List.length_map]
      · rw [List.length_map]
        rfl
  | entering | waiting | exited => simp [CSessionDb.step, worker] at run

namespace Server

variable [DecidableEq C]

/-- A published string is a counted list, and before that there is none. -/
theorem output_of_reachable (cfg : Config) {st : Server S C} {log : List Unit}
    (reached : (((system cfg).restrict fun st _ => st.ssDb.size ≤ 255).logged
      publications).Reachable (st, log)) :
    (log = [] → st.ssDb.output = []) ∧ (log ≠ [] → CountedList st.ssDb.output) := by
  refine System.Reachable.log_invariant (I := fun st log =>
    (log = [] → st.ssDb.output = []) ∧ (log ≠ [] → CountedList st.ssDb.output)) ?_ ?_ reached
  · rintro _ rfl
    exact ⟨fun _ => rfl, fun published => absurd rfl published⟩
  · rintro st a st' log _ ih ⟨few, run⟩
    change step cfg st a = some st' at run
    by_cases publishes : a = .db .serial
    · subst publishes
      obtain ⟨ssDb, stepped, rfl⟩ := db_eq_some run
      refine ⟨?_, fun _ => CSessionDb.counted_serial stepped few⟩
      intro empty
      exact absurd empty (by simp [publications])
    · have none : st.publications a = [] := by
        cases a with
        | db e =>
            cases e with
            | serial => exact absurd rfl publishes
            | operate | stop => rfl
        | _ => rfl
      have same : st'.ssDb.outBuff = st.ssDb.outBuff := by
        obtain unchanged | registryStep := step_registry run
        · exact congrArg (fun v => v.ssDb.outBuff) unchanged
        · obtain same | ⟨e, rfl, stepped⟩ := registryStep.outBuff
          · exact same
          · refine CSessionDb.outBuff_step stepped ?_
            rintro rfl
            exact publishes rfl
      rw [none, List.append_nil, CSessionDb.output, same]
      exact ih

/-- While the table has had at most 255 entries, the response to GETPROXIES lists
the proxies exactly once the worker has run `serial`. -/
theorem proxiesListed_iff (cfg : Config) {st : Server S C} {log : List Unit}
    (reached : (((system cfg).restrict fun st _ => st.ssDb.size ≤ 255).logged
      publications).Reachable (st, log)) :
    st.ProxiesListed ↔ 0 < log.length := by
  obtain ⟨before, after⟩ := output_of_reachable cfg reached
  rw [List.length_pos_iff]
  constructor
  · intro listed empty
    exact not_proxiesListed_of_empty (before empty) listed
  · intro published
    exact proxiesListed_of_counted (after published)

/-- The condition on the table, evaluated. -/
def smallTest (st : Server (Fin 2) (Fin 1)) (_ : Action (Fin 2) (Fin 1)) : Bool :=
  decide (st.ssDb.size ≤ 255)

theorem small_of_test (st : Server (Fin 2) (Fin 1)) (a : Action (Fin 2) (Fin 1))
    (tested : smallTest st a = true) : st.ssDb.size ≤ 255 := of_decide_eq_true tested

/-- A client logs in and asks for the proxies, before any server has logged in. -/
def earlyRequest : List (Action (Fin 2) (Fin 1)) :=
  [.db .operate] ++ accept 0 ++ receive 0 (loginFrame [0x41] 1) ++ go 0 3 ++
    receive 0 (requestFrame FUNC.REQ.GETPROXIES (leBytes 4 0))

theorem proxies_not_always_listed :
    ¬ ∀ st : Server (Fin 2) (Fin 1),
      ((system ⟨0, 0, 0⟩).restrict fun st _ => st.ssDb.size ≤ 255).Reachable st →
        st.ProxiesListed := by
  intro listed
  obtain ⟨st, reached, empty, _⟩ :=
    reachable_of_testedRun ⟨0, 0, 0⟩ earlyRequest small_of_test
      (P := fun st => st.ssDb.output = [] ∧
        (st.sendq 0).posted.map Queued.pkt = [.login ⟨0, 1000⟩, .getProxies ⟨[]⟩])
      (by decide +kernel)
  exact not_proxiesListed_of_empty empty (listed st reached)

/-- A server logs in, and the worker publishes it. -/
def publishedServer : List (Action (Fin 2) (Fin 1)) :=
  accept 0 ++ receive 0 (loginFrame [0x41] 2) ++ go 0 6 ++ [.db .operate, .db .serial]

theorem proxiesListed_publishedServer : ∃ st : Server (Fin 2) (Fin 1), st.ProxiesListed := by
  obtain ⟨st, log, reached, published⟩ :=
    logged_of_testedRun ⟨0, 0, 0⟩ publications publishedServer small_of_test
      (P := fun _ log => 0 < log.length) (by decide +kernel)
  exact ⟨st, (proxiesListed_iff ⟨0, 0, 0⟩ reached).mpr published⟩

end Server

end NatProxy
