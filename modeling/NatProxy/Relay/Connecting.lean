import NatProxy.Relay.Echo

/-!
# Payloads before the destination socket is connected

The uploader sends on the destination socket without an endpoint, which needs the
`connect` of the downloader. What releases the uploader is `_opened` of the destination,
and `dstAuth` sets it before its echo: until the echo is over, and after a `connect` that
fails, the source can be authenticated and send payloads to a socket without a peer.
-/

namespace NatProxy

open Memory Transition

/-- What an observer sees of the destination socket. -/
inductive PeerEvent
  /-- `dstAuth` takes a datagram. -/
  | authenticated (d : Datagram)
  /-- `connect` in the started channel. -/
  | connected (ep : Endpoint) (ok : Bool)
  /-- `uploader` calls `async_send` in the started channel. -/
  | uploads
  deriving DecidableEq, Repr

/-- What the notes of the destination say about its socket: `dstAuth` takes every
datagram that is not empty, and `connect` follows when it returns. -/
def AuthNote.peerEvents (ep : Endpoint) (ok : Bool) : AuthNote → List PeerEvent
  | .received d => [.authenticated d]
  | .echoed _ _ _ => []
  | .returned => [.connected ep ok]

namespace Relay

/-- A payload is handed to `async_send`. -/
def uploadEvents (ch next : Relay) : RelayAction → List PeerEvent
  | .resume .src _ =>
      match next.uploader with
      | .relay (.send _ _ _) => if ch.started then [.uploads] else []
      | _ => []
  | _ => []

/-- What a step shows of the destination socket. -/
def peerObserve (ch : Relay) (a : RelayAction) : List PeerEvent :=
  (ch.step a).elim [] fun next =>
    (notes .dst (ch.authObserve a)).flatMap (AuthNote.peerEvents next.dstEnd.remoteEp
      (decide (next.connected = some next.dstEnd.remoteEp))) ++ ch.uploadEvents next a

end Relay

/-- The socket has been connected to the endpoint that was authenticated. -/
def ConnectedBefore (before : List PeerEvent) (e : PeerEvent) : Prop :=
  e = .uploads → ∃ d, .authenticated d ∈ before ∧ .connected d.sender true ∈ before

/-- The calls of `connect`. -/
def connects (log : List PeerEvent) : List (Endpoint × Bool) :=
  log.filterMap fun
    | .connected ep ok => some (ep, ok)
    | _ => none

theorem connects_append (log es : List PeerEvent) :
    connects (log ++ es) = connects log ++ connects es := List.filterMap_append

theorem mem_connects {log : List PeerEvent} {ep : Endpoint} {ok : Bool} :
    (ep, ok) ∈ connects log ↔ .connected ep ok ∈ log := by
  rw [connects, List.mem_filterMap]
  constructor
  · rintro ⟨e, shown, eq⟩
    cases e with
    | connected => cases eq; exact shown
    | authenticated | uploads => cases eq
  · intro shown
    exact ⟨_, shown, rfl⟩

/-- `connect` is called once, when `dstAuth` returns, with the endpoint of the datagram
that it has taken. -/
def Connecting (e : FlowEnd) (log : List PeerEvent) : CoroPc → Prop
  | .auth (.send _ _ _) =>
      connects log = [] ∧ ∃ d, .authenticated d ∈ log ∧ e.remoteEp = d.sender
  | .relay _ => ∃ d ok, .authenticated d ∈ log ∧ connects log = [(d.sender, ok)]
  | .exited => True
  | _ => connects log = []

namespace Connecting

variable {e : FlowEnd} {log : List PeerEvent} {pc : CoroPc}

theorem of_inAuth (h : Connecting e log pc) (inAuth : pc.inAuth = true) : connects log = [] := by
  cases pc with
  | spawned => exact h
  | auth wait =>
      cases wait with
      | receive | received => exact h
      | send => exact h.1
  | relay | exited => cases inAuth

/-- Payloads do not matter. -/
theorem quiet (h : Connecting e log pc) {es : List PeerEvent} (uploads : ∀ e ∈ es, e = .uploads) :
    Connecting e (log ++ es) pc := by
  have none : connects es = [] := by
    rw [connects, List.filterMap_eq_nil_iff]
    intro e shown
    rw [uploads e shown]
  have same : connects (log ++ es) = connects log := by rw [connects_append, none, List.append_nil]
  cases pc with
  | spawned => exact same.trans h
  | auth wait =>
      cases wait with
      | receive | received => exact same.trans h
      | send =>
          obtain ⟨before, d, shown, sender⟩ := h
          exact ⟨same.trans before, d, List.mem_append_left _ shown, sender⟩
  | relay wait =>
      obtain ⟨d, ok, shown, once⟩ := h
      exact ⟨d, ok, List.mem_append_left _ shown, same.trans once⟩
  | exited => trivial

/-- The loop goes on, or it is left for `connect`. -/
theorem of_authHead {ep : Endpoint} {opened ok : Bool} {before : CoroPc}
    (none : connects log = []) (inAuth : before.inAuth = true) (head : AuthHead opened pc)
    (taken : opened = true → ∃ d, .authenticated d ∈ log ∧ ep = d.sender) :
    Connecting e (log ++ (returnNote before pc).flatMap (AuthNote.peerEvents ep ok)) pc := by
  obtain ⟨rfl, _⟩ | ⟨rfl, opened⟩ | rfl := head
  · simpa [returnNote, Connecting] using none
  · obtain ⟨d, shown, rfl⟩ := taken opened
    refine ⟨d, ok, List.mem_append_left _ shown, ?_⟩
    rw [connects_append, none, returnNote, if_pos ⟨inAuth, rfl⟩]
    rfl
  · trivial

end Connecting

/-- A step of `dstAuth` keeps account of `connect`. -/
theorem AuthStep.connecting {e e' : FlowEnd} {pc pc' : CoroPc} {ns : List AuthNote}
    {log : List PeerEvent} {ok : Bool} (step : AuthStep .dst e pc ns e' pc')
    (agrees : pc.Agrees e fun _ => True) (h : Connecting e log pc) :
    Connecting e' (log ++ ns.flatMap (AuthNote.peerEvents e'.remoteEp ok)) pc' := by
  cases step with
  | same =>
      rw [List.flatMap_nil, List.append_nil]
      exact h
  | @relays wait _ pc' stays =>
      rw [List.flatMap_nil, List.append_nil]
      cases pc' with
      | relay => exact h
      | exited => trivial
      | spawned | auth => cases stays
  | arrives => exact h.quiet (by simp)
  | fails failed =>
      rw [List.flatMap_nil, List.append_nil]
      obtain ⟨rfl, rfl⟩ | ⟨rfl, rfl⟩ := failReceive_eq_some failed <;> exact h
  | enters head =>
      exact .of_authHead h rfl head fun opened =>
        absurd (agrees.symm.trans opened) Bool.false_ne_true
  | retries _ head =>
      exact .of_authHead h rfl head fun opened =>
        absurd (agrees.1.symm.trans opened) Bool.false_ne_true
  | @accepts d fails full =>
      refine ⟨?_, d, List.mem_append_right _ (List.mem_singleton_self _), (agrees.2 d rfl).2⟩
      rw [connects_append]
      exact congrArg (· ++ []) h
  | rejects _ src => cases src
  | echoes _ head => exact .of_authHead h.1 rfl head fun _ => h.2

/-- Only `uploader` hands a payload of the source to a send call. -/
theorem Flow.Step.takes {f f' : Flow} {es : List RelayEvent} {data : Bytes}
    {dest : Option Endpoint} {src dst : Bool} (step : Flow.Step f es f')
    (issued : .issued .src data dest src dst ∈ es) :
    ∃ d, f.uploader = .relay (.received (some d)) ∧ f.ep.addr = f.src.remoteEp.addr ∧
      2 < d.data.length := by
  cases step with
  | upload here same long => exact ⟨_, here, same, long⟩
  | _ => simp at issued

namespace Relay

variable {ch ch' : Relay} {o : Outcome} {a : RelayAction}

/-! ## When the downloader has ended -/

/-- The downloader ends only in a channel that is not started any more. -/
def EndsStopped (ch : Relay) : Prop := ch.downloader = .exited → ch.started = false

theorem started_of_stop (started : ch.stop.started = true) : False := by
  rw [stop] at started
  split at started
  · cases started
  · next stopped => exact stopped started

theorem endsStopped_downloaderLoop (ch : Relay) : ch.downloaderLoop.EndsStopped := by
  intro ended
  cases started : ch.started with
  | false => exact started
  | true => simp [downloaderLoop, started] at ended

theorem endsStopped_dstAuthLoop (ch : Relay) (o : Outcome) : (ch.dstAuthLoop o).EndsStopped := by
  rw [dstAuthLoop]
  split
  · exact CoroPc.noConfusion
  · exact endsStopped_downloaderLoop _

theorem endsStopped_dstAuthError (ch : Relay) (o : Outcome) :
    (if !ch.dstEnd.isOpen then { ch.stop with downloader := .exited }
      else ch.dstAuthLoop o).EndsStopped := by
  split
  · exact fun _ => Bool.eq_false_iff.mpr started_of_stop
  · exact endsStopped_dstAuthLoop ch o

theorem resumeDownloader_endsStopped (run : ch.resumeDownloader o = some ch') :
    ch'.EndsStopped := by
  rw [resumeDownloader] at run
  split at run
  · obtain rfl := Option.some.inj run
    exact endsStopped_dstAuthLoop ch o
  · obtain rfl := Option.some.inj run
    rw [dstAuthReceived]
    split
    · exact endsStopped_dstAuthError ch o
    · exact CoroPc.noConfusion
  · obtain rfl := Option.some.inj run
    rw [dstAuthSent]
    split
    · exact endsStopped_dstAuthError ch o
    · exact endsStopped_dstAuthLoop ch o
  · obtain rfl := Option.some.inj run
    rw [downloaderReceived]
    split
    · exact endsStopped_downloaderLoop _
    · split
      · exact endsStopped_downloaderLoop _
      · exact CoroPc.noConfusion
  · obtain rfl := Option.some.inj run
    rw [downloaderSent]
    split <;> exact endsStopped_downloaderLoop _
  · cases run

theorem started_srcAuthLoop (ch : Relay) : ch.srcAuthLoop.started = ch.started := by
  rw [srcAuthLoop]
  split <;> rfl

theorem started_upload (ch : Relay) (bytes : Nat) : (ch.upload bytes).started = ch.started := by
  rw [upload]
  split <;> rfl

theorem started_of_stopIf {closed : Bool}
    (started : (if closed then ch.stop else ch).started = true) : ch.started = true := by
  split at started
  · exact (started_of_stop started).elim
  · exact started

theorem started_of_srcAuthError (ch : Relay) (started : (if !ch.srcEnd.isOpen then
      { ch.stop with uploader := .exited } else ch.srcAuthLoop).started = true) :
    ch.started = true := by
  split at started
  · exact (started_of_stop started).elim
  · rwa [started_srcAuthLoop] at started

/-- The uploader does not start the channel. -/
theorem resumeUploader_started (run : ch.resumeUploader o = some ch')
    (started : ch'.started = true) : ch.started = true := by
  rw [resumeUploader] at run
  split at run
  · obtain rfl := Option.some.inj run
    rwa [started_srcAuthLoop] at started
  · obtain rfl := Option.some.inj run
    rw [srcAuthReceived] at started
    split at started
    · exact started_of_srcAuthError ch started
    · exact started
  · obtain rfl := Option.some.inj run
    rw [srcAuthSent] at started
    split at started
    · exact started_of_srcAuthError { ch with srcEnd := { ch.srcEnd with opened := false } } started
    · rwa [started_srcAuthLoop] at started
  · obtain rfl := Option.some.inj run
    rw [uploaderReceived] at started
    split at started
    · exact started_of_stopIf started
    · split at started
      · split at started
        · exact started
        · rwa [started_upload] at started
      · rwa [started_upload] at started
  · obtain rfl := Option.some.inj run
    rw [uploaderSent] at started
    split at started
    · exact started_of_stopIf started
    · exact started
  · cases run

theorem EndsStopped.step (ends : ch.EndsStopped) (run : ch.step a = some ch') :
    ch'.EndsStopped := by
  have keep : ch'.downloader = ch.downloader → (ch'.started = true → ch.started = true) →
      ch'.EndsStopped := by
    intro same started ended
    refine Bool.eq_false_iff.mpr fun still => ?_
    exact Bool.false_ne_true ((ends (same.symm.trans ended)).symm.trans (started still))
  cases a with
  | arrive side d =>
      cases side with
      | src =>
          obtain ⟨_, rfl⟩ | ⟨_, rfl⟩ := arriveSrc_cases run
          · exact keep rfl id
          · exact keep rfl id
      | dst =>
          obtain ⟨_, rfl⟩ | ⟨_, rfl⟩ := arriveDst_cases run
          · exact CoroPc.noConfusion
          · exact CoroPc.noConfusion
  | receiveFails side =>
      cases side with
      | src =>
          obtain ⟨pc, _, rfl⟩ := Option.map_eq_some_iff.mp run
          exact keep rfl id
      | dst =>
          obtain ⟨pc, failed, rfl⟩ := Option.map_eq_some_iff.mp run
          obtain ⟨_, rfl⟩ | ⟨_, rfl⟩ := failReceive_eq_some failed <;> exact CoroPc.noConfusion
  | resume side o =>
      cases side with
      | src =>
          have same := congrArg Prod.snd (resumeUploader_party run).2
          exact keep same (resumeUploader_started run)
      | dst => exact resumeDownloader_endsStopped run
  | stop =>
      obtain rfl := Option.some.inj run
      exact fun _ => Bool.eq_false_iff.mpr started_of_stop
  | expire side =>
      cases side <;>
      · obtain rfl := Option.some.inj run
        exact keep rfl id

/-! ## Payloads -/

/-- The uploader takes a payload from the source in the started channel. -/
def TakesPayload (ch : Relay) (a : RelayAction) : Prop :=
  ∃ o d, a = .resume .src o ∧ ch.uploader = .relay (.received (some d)) ∧ 2 < d.data.length ∧
    ch.ep.addr = ch.srcEnd.remoteEp.addr ∧ ch.started = true

/-- A payload that the uploader takes is handed to `async_send` at once. -/
theorem uploadEvents_of_takes (run : ch.step a = some ch') (takes : TakesPayload ch a) :
    ch.uploadEvents ch' a = [.uploads] := by
  obtain ⟨o, d, rfl, here, long, same, started⟩ := takes
  have full : d.data.length ≠ 0 := by omega
  have sends : ∃ bytes dest fails, ch'.uploader = .relay (.send bytes dest fails) := by
    simp only [step, resumeUploader, here, uploaderReceived, bytesOf, Option.elim,
      Option.isNone_some, Bool.false_or, beq_iff_eq, full, if_false, same, ne_eq,
      not_true_eq_false, upload, Nat.not_le_of_lt long] at run
    obtain rfl := Option.some.inj run
    split <;> exact ⟨_, _, _, rfl⟩
  obtain ⟨bytes, dest, fails, sends⟩ := sends
  simp [uploadEvents, sends, started]

/-- Nothing else hands one over. -/
theorem takes_of_uploadEvents (run : ch.step a = some ch') (shown : ch.uploadEvents ch' a ≠ []) :
    TakesPayload ch a := by
  cases a with
  | arrive | receiveFails | stop | expire => exact absurd rfl shown
  | resume side o =>
      cases side with
      | dst => exact absurd rfl shown
      | src =>
          rw [uploadEvents] at shown
          split at shown
          · next bytes dest fails sends =>
              split at shown
              · next started =>
                  have issued : .issued .src (ch'.srcEnd.buf.take bytes) dest ch'.srcEnd.opened
                      ch'.dstEnd.opened ∈ ch.observe (.resume .src o) := by
                    simp only [observe, run, Option.elim, handedUp, sends]
                    exact List.mem_append_right _ (List.mem_singleton_self _)
                  obtain ⟨d, here, same, long⟩ := (step_flow run).takes issued
                  exact ⟨o, d, rfl, here, long, same, started⟩
              · exact absurd rfl shown
          · exact absurd rfl shown

/-- The downloader has left `dstAuth`, and its `connect` has not failed. -/
def HasConnected (ch : Relay) (log : List PeerEvent) : Prop :=
  ch.downloader.inAuth = false ∧ ∀ ep, .connected ep false ∉ log

/-- The uploader takes a payload only when the downloader has connected the socket. -/
def TakesConnected (p : Relay × List PeerEvent) (a : RelayAction) : Prop :=
  TakesPayload p.1 a → p.1.HasConnected p.2

/-- What is known of the destination socket in every run. -/
def ConnectInv (p : Relay × List PeerEvent) : Prop :=
  p.1.flow.Handshake ∧ Connecting p.1.flow.dst p.2 p.1.downloader ∧ p.1.EndsStopped

theorem connectInv_start (mtu : Nat) (src dst : UInt32) : ConnectInv (start mtu src dst, []) :=
  ⟨handshake_start mtu src dst, rfl, CoroPc.noConfusion⟩

theorem ConnectInv.step {log : List PeerEvent} (h : ConnectInv (ch, log))
    (run : ch.step a = some ch') : ConnectInv (ch', log ++ ch.peerObserve a) := by
  obtain ⟨handshake, connecting, ends⟩ := h
  have dst : Connecting ch'.flow.dst (log ++ (notes .dst (ch.authObserve a)).flatMap
      (AuthNote.peerEvents ch'.dstEnd.remoteEp
        (decide (ch'.connected = some ch'.dstEnd.remoteEp)))) ch'.downloader :=
    (step_auth run .dst).connecting handshake.downloader connecting
  have uploads : ∀ e ∈ ch.uploadEvents ch' a, e = .uploads := by
    intro e shown
    have takes := takes_of_uploadEvents run (List.ne_nil_of_mem shown)
    rw [uploadEvents_of_takes run takes] at shown
    exact List.mem_singleton.mp shown
  refine ⟨(step_flow run).handshake handshake, ?_, ends.step run⟩
  rw [peerObserve, run, Option.elim, ← List.append_assoc]
  exact dst.quiet uploads

/-- A payload is handed to a connected socket exactly when the downloader has connected
it. -/
theorem connectedBefore_iff {log : List PeerEvent} (h : ConnectInv (ch, log))
    (started : ch.started = true) :
    ConnectedBefore log .uploads ↔ ch.HasConnected log := by
  obtain ⟨_, connecting, ends⟩ := h
  constructor
  · intro connected
    obtain ⟨d, _, succeeded⟩ := connected rfl
    have listed := mem_connects.mpr succeeded
    have left : ch.downloader.inAuth = false := by
      by_contra inAuth
      rw [Bool.not_eq_false] at inAuth
      rw [connecting.of_inAuth inAuth] at listed
      cases listed
    refine ⟨left, fun ep failed => ?_⟩
    cases here : ch.downloader with
    | spawned | auth =>
        rw [here] at left
        cases left
    | exited => exact Bool.false_ne_true ((ends here).symm.trans started)
    | relay wait =>
        dsimp only at connecting
        rw [here] at connecting
        obtain ⟨d', ok, _, once⟩ := connecting
        have other := mem_connects.mpr failed
        rw [once, List.mem_singleton] at listed other
        have ok := (Prod.mk.inj listed).2
        rw [← (Prod.mk.inj other).2] at ok
        cases ok
  · rintro ⟨left, none⟩ _
    cases here : ch.downloader with
    | spawned | auth =>
        rw [here] at left
        cases left
    | exited => exact absurd ((ends here).symm.trans started) Bool.false_ne_true
    | relay wait =>
        dsimp only at connecting
        rw [here] at connecting
        obtain ⟨d, ok, shown, once⟩ := connecting
        have called : .connected d.sender ok ∈ log := by
          rw [← mem_connects, once]
          exact List.mem_singleton_self _
        cases ok with
        | true => exact ⟨d, shown, called⟩
        | false => exact absurd called (none d.sender)

/-- In every run, every payload has been handed to a connected socket exactly when the
uploader has taken payloads only after the downloader had left `dstAuth`, and `connect`
had not failed. -/
theorem connected_iff (mtu : Nat) (src dst : UInt32) (as : List RelayAction) :
    System.Along (System.logStep step peerObserve)
        (fun p => System.EachEntry ConnectedBefore p.2) (start mtu src dst, []) as ↔
      System.Meets (System.logStep step peerObserve) TakesConnected (start mtu src dst, [])
        as := by
  refine System.along_iff_meets (W := ConnectInv) ?_ ?_
    (connectInv_start mtu src dst) (System.eachEntry_nil _) as
  · rintro ⟨ch, log⟩ a p' inv run
    obtain ⟨ch', stepped, rfl⟩ := Option.map_eq_some_iff.mp run
    exact inv.step stepped
  · rintro ⟨ch, log⟩ a p' inv before run
    obtain ⟨ch', stepped, rfl⟩ := Option.map_eq_some_iff.mp run
    by_cases takes : TakesPayload ch a
    · have shown := uploadEvents_of_takes stepped takes
      obtain ⟨o, d, rfl, _, _, _, started⟩ := id takes
      have observed : ch.peerObserve (.resume .src o) = [.uploads] := by
        rw [peerObserve, stepped, Option.elim, notes_resume stepped, shown]
        rfl
      rw [observed, System.eachEntry_concat_iff, connectedBefore_iff inv started]
      constructor
      · exact fun connected _ => connected.2
      · exact fun connected => ⟨before, connected takes⟩
    · refine iff_of_true (before.append ?_) fun taken => absurd taken takes
      have nothing : ch.uploadEvents ch' a = [] := by
        by_contra shown
        exact takes (takes_of_uploadEvents stepped shown)
      rintro log' e shown rfl
      rw [peerObserve, stepped, Option.elim, nothing, List.append_nil, List.mem_flatMap] at shown
      obtain ⟨note, _, shown⟩ := shown
      cases note <;> simp [AuthNote.peerEvents] at shown

/-- The destination sends its datagram and the source authenticates and sends a payload
while the echo to the destination is under way. -/
def payloadDuringEcho : List RelayAction :=
  let o : Outcome := ⟨true, true, true⟩
  [.resume .dst o, .arrive .dst ⟨[1], ⟨2, 20⟩⟩, .resume .dst o,
    .resume .src o, .arrive .src ⟨[1], ⟨1, 10⟩⟩, .resume .src o, .resume .src o,
    .arrive .src ⟨[4, 5, 6], ⟨1, 10⟩⟩, .resume .src o]

theorem not_always_connected :
    ¬ ∀ (mtu : Nat) (src dst : UInt32) (ch : Relay) (log : List PeerEvent),
      ((system mtu src dst).logged peerObserve).Reachable (ch, log) →
        System.EachEntry ConnectedBefore log := by
  intro connected
  obtain ⟨ch, log, reached, shown⟩ := logged_of_run peerObserve 1500 1 2 payloadDuringEcho
    (P := fun _ log => log = [.authenticated ⟨[1], ⟨2, 20⟩⟩, .uploads]) (by decide +kernel)
  obtain ⟨d, _, called⟩ := connected 1500 1 2 ch log reached
    [.authenticated ⟨[1], ⟨2, 20⟩⟩] .uploads [] shown rfl
  simp at called

end Relay

end NatProxy
