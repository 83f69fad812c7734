import NatProxy.Db.Capacity
import NatProxy.Server.Channels
import NatProxy.Server.ProxyList
import NatProxy.Session.SendQueue

/-!
# What the peer of a session reads

Responses are queued with `doWrite` from calls of any session and of any channel. The
send queue hands them to the socket one after another in the order of these calls. Each
fits into its length field, so the peer can cut the stream of the serialized responses
into the frames that were queued.
-/

namespace NatProxy

open Memory Transition

namespace SendQueue

variable {M : Type} {length : M → Nat} {q r : SendQueue M}

/-- The strand runs the posted handlers in the order of the calls. -/
structure Kept (q : SendQueue M) : Prop extends Ordered q where
  calls : q.ran ++ q.posted = q.called

theorem empty_kept : (empty : SendQueue M).Kept := ⟨empty_sound.toOrdered, rfl⟩

theorem doWrite_kept (h : q.Kept) (msg : M) : (q.doWrite length msg).Kept := by
  rw [doWrite]
  split
  · exact h
  · refine ⟨⟨h.one, h.front, h.order⟩, ?_⟩
    show q.ran ++ (q.posted ++ [msg]) = q.called ++ [msg]
    rw [← List.append_assoc, h.calls]

theorem write_calls (h : q.ran ++ q.posted = q.called) :
    q.write.ran ++ q.write.posted = q.write.called := by
  rw [write]
  split
  · exact h
  · exact h

theorem step_kept {e : Event M} (h : q.Kept) (run : q.step length e = some r) : r.Kept := by
  refine ⟨step_ordered length q e r h.toOrdered run, ?_⟩
  cases e with
  | doWrite msg =>
      obtain rfl := Option.some.inj run
      exact (doWrite_kept h msg).calls
  | runPosted =>
      simp only [step] at run
      split at run
      · cases run
      · next msg rest posted =>
        obtain rfl := Option.some.inj run
        have moved : (q.ran ++ [msg]) ++ rest = q.called := by
          rw [← h.calls, posted, List.append_assoc, List.singleton_append]
        rw [writeImpl]
        dsimp only
        split
        · exact moved
        · exact write_calls moved
  | complete i ec =>
      obtain ⟨msg, rest, _, _, _, result⟩ := complete_cases h.toOrdered run
      split at result
      · subst result
        exact h.calls
      · subst result
        exact write_calls h.calls

/-- The socket gets the messages in the order of the calls. -/
theorem handed_isPrefix (h : q.Kept) : q.handed <+: q.called := by
  rw [← h.calls, ← h.order, List.append_assoc]
  exact List.prefix_append _ _

end SendQueue

variable {S C : Type}

namespace Server

/-- The published string is empty, or a counted list. A table that does not fit is never
published: `serial` has no defined result on it. -/
def Listed (st : Server S C) : Prop := st.ssDb.outBuff = [] ∨ CountedList st.ssDb.outBuff

theorem Listed.length_le {st : Server S C} (h : st.Listed) : st.ssDb.outBuff.length ≤ 65535 := by
  obtain empty | ⟨infos, few, out⟩ := h
  · rw [empty]
    exact Nat.zero_le _
  · rw [out, List.length_cons, length_flatMap_bytes]
    omega

variable [DecidableEq S] [DecidableEq C]

theorem listed_step {cfg : Config} {st st' : Server S C} {a : Action S C} (h : st.Listed)
    (run : step cfg st a = some st') : st'.Listed := by
  obtain same | registryStep := step_registry run
  · have out : st'.ssDb = st.ssDb := congrArg Registry.ssDb same
    rw [Listed, out]
    exact h
  · obtain same | ⟨e, rfl, stepped⟩ := registryStep.outBuff
    · have out : st'.ssDb.outBuff = st.ssDb.outBuff := same
      rw [Listed, out]
      exact h
    · have stepped : st.ssDb.step e = some st'.ssDb := stepped
      by_cases serial : e = .serial
      · subst serial
        exact .inr (CSessionDb.counted_serial stepped (CSessionDb.few_of_serial stepped))
      · rw [Listed, CSessionDb.outBuff_step stepped serial]
        exact h

theorem listed_of_reachable {cfg : Config} {st : Server S C}
    (reached : (system cfg).Reachable st) : st.Listed := by
  refine reached.invariant (I := Listed) ?_ ?_
  · rintro _ rfl
    exact .inl rfl
  · intro st a st' _ h run
    exact listed_step h run

/-! ## The queues of all sessions -/

/-- What the calls of `doWrite` with responses that fit, the strand and the socket keep. -/
structure QueueInvariant (P : SendQueue (Queued C) → Prop) : Prop where
  doWrite : ∀ q msg, P q → msg.pkt.Fits → P (q.doWrite Queued.length msg)
  step : ∀ q e r, P q → (∀ msg, e ≠ .doWrite msg) → q.step Queued.length e = some r → P r

def Queues (P : SendQueue (Queued C) → Prop) (st : Server S C) : Prop := ∀ s, P (st.sendq s)

section Queues

variable {P : SendQueue (Queued C) → Prop} {st st' : Server S C} {s : S}

omit [DecidableEq C] in
theorem Queues.doWrite (all : st.Queues P) (inv : QueueInvariant P) {msg : Queued C}
    (fits : msg.pkt.Fits) : (st.doWrite s msg).Queues P := by
  intro r
  by_cases eq : r = s
  · subst eq
    show P (Function.update st.sendq r _ r)
    rw [Function.update_self]
    exact inv.doWrite _ msg (all r) fits
  · show P (Function.update st.sendq s _ r)
    rw [Function.update_of_ne eq]
    exact all r

omit [DecidableEq C] in
theorem queues_runLogin (all : st.Queues P) (inv : QueueInvariant P) {header : TagPktHdr}
    {net : Net C} {pc : LoginPc} : (st.runLogin s header net pc).Queues P := by
  cases pc with
  | insertGuid | addSession =>
      rw [runLogin]
      split
      · exact all
      · exact all
  | allocId | undoGuid | remoteEndpoint | addDb => exact all
  | finish ok =>
      have modified : ∀ f, (st.modSession s f).Queues P := fun _ => all
      cases ok with
      | true => exact (modified _).doWrite inv trivial
      | false => exact (modified _).doWrite inv trivial

theorem queues_runProxy (all : st.Queues P) (inv : QueueInvariant P) {cfg : Config}
    {req : CReqProxyPkt} {net : Net C} {pc : ProxyPc S C}
    (run : st.runProxy cfg s req net pc = some st') : st'.Queues P := by
  have mapped : ∀ {c : C} {f : CChannel S → Server S C}, (∀ ch, (f ch).Queues P) →
      (st.channel c).map f = some st' → st'.Queues P := by
    intro c f each ran
    obtain ⟨ch, _, rfl⟩ := Option.map_eq_some_iff.mp ran
    exact each ch
  have say : ∀ (r : S) {msg : Queued C}, msg.pkt.Fits → (st.doWrite r msg).Queues P :=
    fun r _ fits => all.doWrite inv fits
  cases pc with
  | lookup =>
      rw [runProxy] at run
      split at run <;> obtain rfl := Option.some.inj run <;> exact all
  | create d => obtain ⟨_, _, rfl⟩ | ⟨_, rfl⟩ := create_eq_some run <;> exact all
  | thrown => cases run
  | initEnd side d c =>
      refine mapped (fun ch => ?_) run
      exact all
  | addChannel side d c =>
      cases side <;>
      · refine mapped (fun ch => ?_) run
        split <;> exact all
  | undoRemove d c | fail d c | start d c =>
      refine mapped (fun ch => ?_) run
      exact all
  | undoNotify d c =>
      refine mapped (fun ch => ?_) run
      exact say s trivial
  | respErr =>
      obtain rfl := Option.some.inj run
      exact say s trivial
  | lockDst c =>
      refine mapped (fun ch => ?_) run
      split <;> exact all
  | checkDst d c =>
      refine mapped (fun ch => ?_) run
      split <;> exact all
  | access d c =>
      refine mapped (fun ch => ?_) run
      exact say d trivial
  | respOk d c =>
      refine mapped (fun ch => ?_) run
      exact say s trivial

omit [DecidableEq C] in
/-- The directory fits because the published string does. -/
theorem queues_handle (all : st.Queues P) (inv : QueueInvariant P)
    (short : st.ssDb.outBuff.length ≤ 65535) (req : Request) : (st.handle s req).Queues P := by
  cases req with
  | none => exact all
  | login req =>
      rw [handle, onReqLogin]
      split
      · exact all.doWrite inv trivial
      · exact all
  | proxy req => exact all
  | getProxies req => exact all.doWrite inv short

theorem queues_step (all : st.Queues P) (inv : QueueInvariant P) (listed : st.Listed)
    {cfg : Config} {a : Action S C} (run : step cfg st a = some st') : st'.Queues P := by
  cases a with
  | acceptorTest s ok =>
      obtain ⟨_, rfl⟩ := acceptorTest_eq_some run
      exact all
  | acceptorCount s =>
      obtain ⟨_, rfl⟩ := acceptorCount_eq_some run
      exact all
  | acceptorStart s =>
      obtain ⟨_, rfl⟩ := acceptorStart_eq_some run
      exact all
  | timerExpires s =>
      obtain ⟨_, rfl⟩ := timerExpires_eq_some run
      exact all
  | deliver s data =>
      obtain ⟨_, _, rfl⟩ := deliver_eq_some run
      exact all
  | readFails s =>
      obtain rfl := Option.some.inj run
      exact all
  | onTimeout s =>
      obtain ⟨_, run⟩ := Option.ite_none_right_eq_some.mp run
      obtain ⟨_, _, rfl⟩ := onTimeout_eq_some run
      split <;> exact all
  | onReadHead s =>
      obtain ⟨_, run⟩ := Option.ite_none_right_eq_some.mp run
      obtain ⟨_, _, _, _, _, _, rfl⟩ := onReadHead_eq_some run
      split <;> exact all
  | onReadBody s =>
      obtain ⟨_, run⟩ := Option.ite_none_right_eq_some.mp run
      obtain ⟨_, _, _, rfl | ⟨_, req, _, rfl⟩⟩ := onReadBody_eq_some run
      · exact all
      · have modified : ∀ f, (st.modSession s f).Queues P := fun _ => all
        exact queues_handle (modified _) inv listed.length_le req
  | run s net =>
      obtain ⟨pc, _, rfl⟩ | ⟨header, pc, _, rfl⟩ | ⟨req, pc, _, run⟩ := run_cases run
      · cases pc with
        | stopAll side => cases side <;> exact all
        | removeGuid =>
            rw [runStop]
            split <;> exact all
        | delDb | eraseMap | sessionClosed => exact all
      · exact queues_runLogin all inv
      · exact queues_runProxy all inv run
  | writer s e =>
      obtain ⟨q, other, ran, rfl⟩ := writer_eq_some run
      intro r
      by_cases eq : r = s
      · subst eq
        show P (Function.update st.sendq r q r)
        rw [Function.update_self]
        exact inv.step _ e q (all r) other ran
      · show P (Function.update st.sendq s q r)
        rw [Function.update_of_ne eq]
        exact all r
  | destroy s =>
      obtain ⟨_, _, rfl⟩ := destroy_eq_some run
      exact all
  | strandStop c | socketStop c | checker c | coroExit c =>
      obtain rfl | ⟨ch, rfl⟩ := onChannel_eq_some run
      · exact all
      · exact all
  | runStop c =>
      obtain ⟨ch, _, run⟩ := Option.bind_eq_some_iff.mp run
      rw [runChannel] at run
      split at run
      · cases run
      · split at run <;> obtain rfl := Option.some.inj run <;> exact all
      · obtain rfl := Option.some.inj run
        exact Queues.doWrite all inv trivial
      · obtain rfl := Option.some.inj run
        exact all
  | db e =>
      obtain ⟨_, _, rfl⟩ := db_eq_some run
      exact all
  | releaseServer =>
      obtain ⟨_, rfl⟩ := releaseServer_eq_some run
      exact all

theorem queues_of_reachable {cfg : Config} (inv : QueueInvariant P) (empty : P .empty)
    (reached : (system cfg).Reachable st) : st.Queues P := by
  refine reached.invariant ?_ ?_
  · rintro _ rfl s
    exact empty
  · intro st a st' before all run
    exact queues_step all inv (listed_of_reachable before) run

end Queues

/-- What is handed to the socket was queued before, in the same order, and every response
fits into its length field. -/
structure Delivers (q : SendQueue (Queued C)) : Prop extends SendQueue.Kept q where
  fits : ∀ msg ∈ q.called, msg.pkt.Fits

omit [DecidableEq C] in
theorem delivers_invariant : QueueInvariant (Delivers (C := C)) where
  doWrite q msg h fits := by
    refine ⟨SendQueue.doWrite_kept h.toKept msg, ?_⟩
    rw [called_doWrite]
    intro other mem
    obtain old | last := List.mem_append.mp mem
    · exact h.fits other old
    · rwa [List.mem_singleton.mp last]
  step q e r h other run := by
    refine ⟨SendQueue.step_kept h.toKept run, ?_⟩
    rw [SendQueue.called_step other run]
    exact h.fits

theorem delivers_of_reachable {cfg : Config} {st : Server S C}
    (reached : (system cfg).Reachable st) (s : S) : Delivers (st.sendq s) :=
  queues_of_reachable delivers_invariant ⟨SendQueue.empty_kept, nofun⟩ reached s

/-- The messages that a session's socket has been given are a prefix of those that were
queued, whoever queued them, and the peer cuts the stream of their bytes into frames that
carry them one by one. -/
theorem responses_framed (cfg : Config) {st : Server S C} (reached : (system cfg).Reachable st)
    (s : S) :
    (st.sendq s).handed <+: (st.sendq s).called ∧
      ∃ frames : List Bytes, splitFrames frames.flatten = some frames ∧
        List.Forall₂ (fun msg frame => msg.pkt.serialize msg.header = .ok frame ∧
          Carries (msg.pkt, msg.header) frame) (st.sendq s).handed frames := by
  have delivers := delivers_of_reachable reached s
  have order := SendQueue.handed_isPrefix delivers.toKept
  have fits : ∀ msg ∈ (st.sendq s).handed, msg.pkt.Fits :=
    fun msg mem => delivers.fits msg (order.subset mem)
  refine ⟨order, (st.sendq s).handed.map fun msg => CRespPkt.frame (msg.pkt, msg.header), ?_, ?_⟩
  · have split := splitFrames_flatten ((st.sendq s).handed.map fun msg => (msg.pkt, msg.header))
      (List.forall_mem_map.mpr fits)
    rwa [List.map_map] at split
  · rw [List.forall₂_map_right_iff, List.forall₂_same]
    intro msg mem
    exact ⟨CRespPkt.serialize_eq (fits msg mem) msg.header, CRespPkt.carries_frame (fits msg mem)⟩

/-- A client logs in and asks for the proxies; the first response is written. -/
def writtenTwice : List (Action (Fin 2) (Fin 1)) :=
  accept 0 ++ receive 0 (loginFrame [0x41] 1) ++ go 0 3 ++ [.writer 0 .runPosted] ++
    receive 0 (requestFrame FUNC.REQ.GETPROXIES (leBytes 4 0)) ++
    [.writer 0 .runPosted, .writer 0 (.complete 0 false)]

theorem responses_framed_writtenTwice : ∃ st : Server (Fin 2) (Fin 1),
    (st.sendq 0).handed.length = 2 ∧ (st.sendq 0).handed <+: (st.sendq 0).called ∧
      ∃ frames : List Bytes, splitFrames frames.flatten = some frames ∧
        List.Forall₂ (fun msg frame => msg.pkt.serialize msg.header = .ok frame ∧
          Carries (msg.pkt, msg.header) frame) (st.sendq 0).handed frames := by
  obtain ⟨st, reached, two⟩ := reachable_of_run ⟨0, 0, 0⟩ writtenTwice
    (P := fun st => (st.sendq 0).handed.length = 2) (by decide +kernel)
  exact ⟨st, two, responses_framed ⟨0, 0, 0⟩ reached 0⟩

end Server

end NatProxy
