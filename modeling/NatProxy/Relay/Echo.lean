import NatProxy.Relay.Flow

/-!
# The echo of an authentication

`srcAuth` and `dstAuth` are one loop: receive a datagram, set `_opened` if it is taken,
echo it, and leave the loop when `_opened` is set. They differ in what they do when the
echo fails: `srcAuth` takes `_opened` back, and `dstAuth` leaves it set, so that it
returns without an echo. `AuthStep` is the loop of either side.
-/

namespace NatProxy

open Memory Transition

/-- What an observer sees of an authentication loop. -/
inductive AuthNote
  /-- The loop takes a datagram that is not empty. -/
  | received (d : Datagram)
  /-- The echo is over, with the bytes of the buffer and the result. -/
  | echoed (data : Bytes) (dest : Option Endpoint) (ok : Bool)
  /-- The loop returns true while the channel is started. -/
  | returned
  deriving DecidableEq, Repr

/-- The coroutine has not left its authentication loop. -/
def CoroPc.inAuth : CoroPc → Bool
  | .spawned => true
  | .auth _ => true
  | _ => false

/-- The authentication loop is left for the relay loop. -/
def returnNote (before after : CoroPc) : List AuthNote :=
  if before.inAuth ∧ after = .relay .receive then [.returned] else []

namespace Relay

def udpEnd (ch : Relay) : Side → UdpEnd
  | .src => ch.srcEnd
  | .dst => ch.dstEnd

def coro (ch : Relay) : Side → CoroPc
  | .src => ch.uploader
  | .dst => ch.downloader

/-- What an authentication loop finds when it resumes. -/
def authNotes (ch : Relay) (side : Side) (o : Outcome) : List AuthNote :=
  match ch.coro side with
  | .auth (.received (some d)) => if d.data = [] then [] else [.received d]
  | .auth (.send bytes dest fails) =>
      [.echoed ((ch.udpEnd side).buf.take bytes) dest (!fails && o.sends)]
  | _ => []

/-- What a step shows of the authentication loops. -/
def authObserve (ch : Relay) (a : RelayAction) : List (Side × AuthNote) :=
  match a with
  | .resume side o =>
      (ch.authNotes side o ++
        (ch.step a).elim [] fun next => returnNote (ch.coro side) (next.coro side)).map
          fun note => (side, note)
  | _ => []

end Relay

/-- The notes of one side. -/
def notes (side : Side) (log : List (Side × AuthNote)) : List AuthNote :=
  log.filterMap fun entry => if entry.1 = side then some entry.2 else none

theorem notes_append (side : Side) (log es : List (Side × AuthNote)) :
    notes side (log ++ es) = notes side log ++ notes side es := List.filterMap_append

theorem notes_map (side other : Side) (ns : List AuthNote) :
    notes side (ns.map fun note => (other, note)) = if other = side then ns else [] := by
  by_cases same : other = side <;> simp [notes, List.filterMap_map, same]

/-- An authentication loop returns after its echo of the last datagram that it took. -/
def Echoed (before : List AuthNote) (note : AuthNote) : Prop :=
  note = .returned → ∃ rest d, before = rest ++ [.received d, .echoed d.data (some d.sender) true]

/-! ## One side -/

/-- What a step of the channel does to one end and its coroutine while that is in its
authentication loop. The source may refuse a datagram, and takes `_opened` back. -/
inductive AuthStep (side : Side) : FlowEnd → CoroPc → List AuthNote → FlowEnd → CoroPc → Prop
  | same {e pc} : AuthStep side e pc [] e pc
  | relays {e wait e' pc'} (stays : pc'.inAuth = false) :
      AuthStep side e (.relay wait) [] e' pc'
  | arrives {e d} : AuthStep side e (.auth .receive) []
      { e.fill d.data with remoteEp := d.sender } (.auth (.received (some d)))
  | fails {e pc pc'} (failed : pc.failReceive = some pc') : AuthStep side e pc [] e pc'
  | enters {e pc'} (head : AuthHead e.opened pc') :
      AuthStep side e .spawned (returnNote .spawned pc') e pc'
  | retries {e result pc'} (empty : Relay.bytesOf result = 0) (head : AuthHead e.opened pc') :
      AuthStep side e (.auth (.received result)) (returnNote (.auth (.received result)) pc') e pc'
  | accepts {e d fails} (full : d.data ≠ []) :
      AuthStep side e (.auth (.received (some d))) [.received d] { e with opened := true }
        (.auth (.send d.data.length (some e.remoteEp) fails))
  | rejects {e d fails} (full : d.data ≠ []) (src : side = .src) :
      AuthStep side e (.auth (.received (some d))) [.received d] e.zeroBuf
        (.auth (.send d.data.length (some e.remoteEp) fails))
  | echoes {e bytes dest fails pc'} {ok opened : Bool}
      (keeps : opened = (e.opened && (ok || side = .dst))) (head : AuthHead opened pc') :
      AuthStep side e (.auth (.send bytes dest fails))
        (.echoed (e.buf.take bytes) dest ok :: returnNote (.auth (.send bytes dest fails)) pc')
        { e with opened := opened } pc'

/-- The loop knows its last datagram until the echo is over, and the destination echoes
nothing else than a datagram that has opened it. -/
def Echoing (side : Side) (e : FlowEnd) (ns : List AuthNote) : CoroPc → Prop
  | .spawned => e.opened = false
  | .auth .receive => e.opened = false
  | .auth (.received result) =>
      e.opened = false ∧ ∀ d ∈ result, e.Holds d ∧ e.remoteEp = d.sender
  | .auth (.send bytes dest _) =>
      (side = .dst → e.opened = true) ∧
        (e.opened = true →
          ∃ rest d, ns = rest ++ [.received d] ∧ e.buf.take bytes = d.data ∧ dest = some d.sender)
  | _ => True

namespace Echoing

variable {side : Side} {e : FlowEnd} {ns : List AuthNote} {pc : CoroPc}

theorem of_past (left : pc.inAuth = false) : Echoing side e ns pc := by
  cases pc with
  | spawned | auth => cases left
  | relay | exited => trivial

theorem of_authHead (head : AuthHead e.opened pc) : Echoing side e ns pc := by
  obtain ⟨rfl, opened⟩ | ⟨rfl, _⟩ | rfl := head
  · exact opened
  · trivial
  · trivial

end Echoing

theorem returnNote_of_closed {before after : CoroPc} {opened : Bool} (closed : opened = false)
    (head : AuthHead opened after) : returnNote before after = [] := by
  obtain ⟨rfl, _⟩ | ⟨_, isOpen⟩ | rfl := head
  · simp [returnNote]
  · rw [closed] at isOpen
    cases isOpen
  · simp [returnNote]

namespace AuthStep

variable {side : Side} {e e' : FlowEnd} {ns log : List AuthNote} {pc pc' : CoroPc}

theorem echoing (step : AuthStep side e pc ns e' pc') (h : Echoing side e log pc) :
    Echoing side e' (log ++ ns) pc' := by
  cases step with
  | same =>
      rw [List.append_nil]
      exact h
  | relays stays => exact .of_past stays
  | @arrives d =>
      refine ⟨h, ?_⟩
      rintro _ ⟨⟩
      exact ⟨e.holds_fill d, rfl⟩
  | fails failed =>
      obtain ⟨rfl, rfl⟩ | ⟨rfl, rfl⟩ := failReceive_eq_some failed
      · exact ⟨h, fun d none => by cases none⟩
      · trivial
  | enters head | retries _ head | echoes _ head => exact .of_authHead head
  | @accepts d fails full =>
      obtain ⟨holds, sender⟩ := h.2 d rfl
      exact ⟨fun _ => rfl, fun _ => ⟨log, d, rfl, holds, congrArg some sender⟩⟩
  | rejects full src =>
      refine ⟨fun dst => absurd (src.symm.trans dst) (by decide), fun opened => ?_⟩
      exact absurd (h.1.symm.trans opened) Bool.false_ne_true

/-- A step returns from the loop of an end only after an echo. -/
theorem eachEntry_iff (step : AuthStep side e pc ns e' pc') (h : Echoing side e log pc)
    (before : System.EachEntry Echoed log) :
    System.EachEntry Echoed (log ++ ns) ↔
      ∀ data dest, ns ≠ [.echoed data dest false, .returned] := by
  have quiet : ∀ {ns : List AuthNote}, ns = [] → (System.EachEntry Echoed (log ++ ns) ↔
      ∀ data dest, ns ≠ [.echoed data dest false, .returned]) := by
    rintro _ rfl
    rw [List.append_nil]
    exact iff_of_true before (by simp)
  have one : ∀ {note : AuthNote}, note ≠ .returned → (System.EachEntry Echoed (log ++ [note]) ↔
      ∀ data dest, [note] ≠ [.echoed data dest false, .returned]) := by
    intro note other
    exact iff_of_true (before.concat fun returned => absurd returned other) (by simp)
  cases step with
  | same | relays | arrives | fails => exact quiet rfl
  | enters head => exact quiet (returnNote_of_closed h head)
  | retries _ head => exact quiet (returnNote_of_closed h.1 head)
  | accepts | rejects => exact one AuthNote.noConfusion
  | @echoes bytes dest fails _ ok opened keeps head =>
      by_cases returns : pc' = .relay .receive
      · have note : returnNote (.auth (.send bytes dest fails)) pc' = [.returned] :=
          if_pos ⟨rfl, returns⟩
        have isOpen : opened = true := by
          subst returns
          obtain ⟨other, _⟩ | ⟨_, isOpen⟩ | other := head
          · cases other
          · exact isOpen
          · cases other
        rw [isOpen] at keeps
        obtain ⟨was, _⟩ := Bool.and_eq_true_iff.mp keeps.symm
        obtain ⟨rest, d, rfl, sent, rfl⟩ := h.2 was
        rw [note, sent, List.append_cons]
        cases ok with
        | true =>
            have echoed : System.EachEntry Echoed
                (rest ++ [.received d] ++ [.echoed d.data (some d.sender) true]) :=
              before.concat AuthNote.noConfusion
            have last := echoed.concat (e := .returned) fun _ =>
              ⟨rest, d, by rw [List.append_assoc]; rfl⟩
            exact iff_of_true last (by simp)
        | false =>
            refine iff_of_false ?_ fun no => no d.data (some d.sender) rfl
            intro after
            obtain ⟨_, d', ends⟩ := (System.eachEntry_concat_iff.mp after).2 rfl
            rw [List.append_cons _ (AuthNote.received d')] at ends
            obtain ⟨_, same⟩ := List.append_inj' ends rfl
            simp at same
      · have note : returnNote (.auth (.send bytes dest fails)) pc' = [] :=
          if_neg fun both => returns both.2
        rw [note]
        exact one AuthNote.noConfusion

end AuthStep

/-! ## The two coroutines -/

/-- An end and its coroutine. -/
def Flow.party (f : Flow) : Side → FlowEnd × CoroPc
  | .src => (f.src, f.uploader)
  | .dst => (f.dst, f.downloader)

namespace Relay

variable {ch ch' : Relay} {o : Outcome} {side : Side}

/-- The loop of a party is left, and the other party is as it was. -/
def LeavesAuth (side other : Side) (ch ch' : Relay) : Prop :=
  (ch'.flow.party side).2.inAuth = false ∧ ch'.flow.party other = ch.flow.party other

theorem inAuth_of_relayHead {pc : CoroPc} (head : RelayHead pc) : pc.inAuth = false := by
  obtain rfl | rfl := head <;> rfl

theorem uploaderReceived_leavesAuth {ec : Bool} {bytes : Nat} :
    LeavesAuth .src .dst ch (ch.uploaderReceived ec bytes) := by
  have loop : ∀ next : Relay, next.flow.party .dst = ch.flow.party .dst →
      LeavesAuth .src .dst ch next.uploaderLoop := by
    intro next same
    obtain ⟨pc, head, flow, _⟩ := next.uploaderLoop_flow
    rw [LeavesAuth, flow]
    exact ⟨inAuth_of_relayHead head, same⟩
  have upload : ∀ next : Relay, next.flow.party .dst = ch.flow.party .dst →
      LeavesAuth .src .dst ch (next.upload bytes) := by
    intro next same
    rw [Relay.upload]
    split
    · exact loop next same
    · exact ⟨rfl, same⟩
  rw [uploaderReceived]
  split
  · exact loop _ (by rw [flow_stopIf])
  · split
    · split
      · exact loop ch rfl
      · exact upload _ rfl
    · exact upload ch rfl

theorem uploaderSent_leavesAuth {bytes : Nat} {ok : Bool} :
    LeavesAuth .src .dst ch (ch.uploaderSent bytes ok) := by
  rw [uploaderSent]
  split
  · obtain ⟨pc, head, flow, _⟩ := ch.uploaderError_flow ch.dstEnd.isOpen _ rfl
    rw [LeavesAuth, flow]
    exact ⟨inAuth_of_relayHead head, rfl⟩
  · obtain ⟨pc, head, flow, _⟩ := uploaderLoop_flow { ch with
      upBytes := ch.upBytes + UInt64.ofNat bytes
      upPacks := ch.upPacks + 1 }
    rw [LeavesAuth, flow]
    exact ⟨inAuth_of_relayHead head, rfl⟩

theorem downloaderReceived_leavesAuth {ec : Bool} {bytes : Nat} :
    LeavesAuth .dst .src ch (ch.downloaderReceived ec bytes) := by
  rw [downloaderReceived]
  split
  · obtain ⟨pc, head, flow, _⟩ := ch.downloaderError_flow ch.dstEnd.isOpen _ rfl
    rw [LeavesAuth, flow]
    exact ⟨inAuth_of_relayHead head, rfl⟩
  · split
    · obtain ⟨pc, head, flow, _⟩ := ch.downloaderLoop_flow
      rw [LeavesAuth, flow]
      exact ⟨inAuth_of_relayHead head, rfl⟩
    · exact ⟨rfl, rfl⟩

theorem downloaderSent_leavesAuth {bytes : Nat} {ok : Bool} :
    LeavesAuth .dst .src ch (ch.downloaderSent bytes ok) := by
  rw [downloaderSent]
  split
  · obtain ⟨pc, head, flow, _⟩ := ch.downloaderError_flow ch.srcEnd.isOpen _ rfl
    rw [LeavesAuth, flow]
    exact ⟨inAuth_of_relayHead head, rfl⟩
  · obtain ⟨pc, head, flow, _⟩ := downloaderLoop_flow { ch with
      downBytes := ch.downBytes + UInt64.ofNat bytes
      downPacks := ch.downPacks + 1 }
    rw [LeavesAuth, flow]
    exact ⟨inAuth_of_relayHead head, rfl⟩

/-- A step of one party, which leaves the other one as it was. -/
def PartyStep (side other : Side) (ns : List AuthNote) (ch ch' : Relay) : Prop :=
  AuthStep side (ch.flow.party side).1 (ch.flow.party side).2 ns (ch'.flow.party side).1
      (ch'.flow.party side).2 ∧
    ch'.flow.party other = ch.flow.party other

theorem partyStep_src {e : FlowEnd} {before after : CoroPc} {ns : List AuthNote}
    (here : ch.uploader = before) (flow : ch'.flow = { ch.flow with src := e, uploader := after })
    (step : AuthStep .src ch.flow.src before ns e after) : PartyStep .src .dst ns ch ch' := by
  have uploader : ch.flow.uploader = before := here
  rw [← uploader] at step
  rw [PartyStep, flow]
  exact ⟨step, rfl⟩

theorem partyStep_dst {e : FlowEnd} {before after : CoroPc} {ns : List AuthNote}
    (here : ch.downloader = before)
    (flow : ch'.flow = { ch.flow with dst := e, downloader := after })
    (step : AuthStep .dst ch.flow.dst before ns e after) : PartyStep .dst .src ns ch ch' := by
  have downloader : ch.flow.downloader = before := here
  rw [← downloader] at step
  rw [PartyStep, flow]
  exact ⟨step, rfl⟩

/-- The loop of a party takes nothing, or nothing that is not empty. -/
theorem authNotes_empty (side : Side) {result : Option Datagram}
    (here : ch.coro side = .auth (.received result)) (empty : bytesOf result = 0) :
    ch.authNotes side o = [] := by
  cases result with
  | none => simp [authNotes, here]
  | some d =>
      have nil : d.data = [] := List.eq_nil_of_length_eq_zero empty
      simp [authNotes, here, nil]

theorem srcAuthReceived_party {result : Option Datagram}
    (here : ch.uploader = .auth (.received result))
    (eq : ch' = ch.srcAuthReceived result.isNone (bytesOf result)) :
    PartyStep .src .dst (ch.authNotes .src o ++ returnNote ch.uploader ch'.uploader) ch ch' := by
  rw [srcAuthReceived] at eq
  obtain ⟨empty, failed⟩ | ⟨d, rfl, full, received⟩ := received_cases result
  · rw [if_pos failed] at eq
    obtain ⟨pc, head, flow, _⟩ := ch.srcAuthError_flow ch' eq
    have after : ch'.uploader = pc := congrArg Flow.uploader flow
    rw [authNotes_empty .src here empty, after, here]
    exact partyStep_src here flow (.retries empty head)
  · rw [if_neg received] at eq
    have found : ch.authNotes .src o = [.received d] := by simp [authNotes, coro, here, full]
    rw [found, here]
    cases opened : ch.dstEnd.opened with
    | true =>
        simp only [doAuth_of_ne_nil full, opened, Bool.and_self, if_true, bytesOf,
          Option.elim] at eq
        subst eq
        exact partyStep_src here rfl (.accepts full)
    | false =>
        simp only [doAuth_of_ne_nil full, opened, Bool.and_false, Bool.false_eq_true, if_false,
          bytesOf, Option.elim] at eq
        subst eq
        exact partyStep_src here rfl (.rejects full rfl)

theorem srcAuthSent_party {bytes : Nat} {dest : Option Endpoint} {fails : Bool}
    (here : ch.uploader = .auth (.send bytes dest fails))
    (eq : ch' = ch.srcAuthSent (!fails && o.sends)) :
    PartyStep .src .dst (ch.authNotes .src o ++ returnNote ch.uploader ch'.uploader) ch ch' := by
  have found : ch.authNotes .src o =
      [.echoed (ch.srcEnd.buf.take bytes) dest (!fails && o.sends)] := by
    simp [authNotes, coro, udpEnd, here]
  rw [srcAuthSent] at eq
  rw [found]
  cases ok : !fails && o.sends with
  | true =>
      rw [ok] at eq
      obtain ⟨pc, head, flow, _⟩ := ch.srcAuthLoop_flow
      obtain rfl : ch' = ch.srcAuthLoop := eq
      have after : ch.srcAuthLoop.uploader = pc := congrArg Flow.uploader flow
      have keeps : ch.flow.src.opened =
          (ch.flow.src.opened && (true || decide (Side.src = .dst))) := by simp
      rw [after, here]
      exact partyStep_src here flow (.echoes keeps head)
  | false =>
      rw [ok] at eq
      obtain ⟨pc, head, flow, _⟩ := srcAuthError_flow _ ch' eq
      have after : ch'.uploader = pc := congrArg Flow.uploader flow
      rw [after, here]
      exact partyStep_src here flow (.echoes (by simp) head)

/-- A step of the relay loop of a party shows nothing of its authentication. -/
theorem partyStep_of_leavesAuth (side : Side) {other : Side} {ns : List AuthNote} {wait : Wait}
    (here : (ch.flow.party side).2 = .relay wait) (leaves : LeavesAuth side other ch ch')
    (nothing : ns = []) : PartyStep side other ns ch ch' := by
  subst nothing
  rw [PartyStep, here]
  exact ⟨.relays leaves.1, leaves.2⟩

/-- The notes of a party in its relay loop. -/
theorem authNotes_relay (side : Side) {wait : Wait} {after : CoroPc}
    (here : ch.coro side = .relay wait) :
    ch.authNotes side o ++ returnNote (ch.coro side) after = [] := by
  simp [authNotes, returnNote, here, CoroPc.inAuth]

theorem resumeUploader_party (run : ch.resumeUploader o = some ch') :
    PartyStep .src .dst (ch.authNotes .src o ++ returnNote ch.uploader ch'.uploader) ch ch' := by
  rw [resumeUploader] at run
  split at run
  · next here =>
      obtain ⟨pc, head, flow, _⟩ := ch.srcAuthLoop_flow
      obtain rfl := Option.some.inj run
      have after : ch.srcAuthLoop.uploader = pc := congrArg Flow.uploader flow
      have nothing : ch.authNotes .src o = [] := by simp [authNotes, coro, here]
      rw [nothing, after, here]
      exact partyStep_src here flow (.enters head)
  · next here => exact srcAuthReceived_party here (Option.some.inj run).symm
  · next here => exact srcAuthSent_party here (Option.some.inj run).symm
  · next here =>
      obtain rfl := Option.some.inj run
      exact partyStep_of_leavesAuth .src here uploaderReceived_leavesAuth
        (authNotes_relay .src here)
  · next here =>
      obtain rfl := Option.some.inj run
      exact partyStep_of_leavesAuth .src here uploaderSent_leavesAuth
        (authNotes_relay .src here)
  · cases run

theorem dstAuthReceived_party {result : Option Datagram}
    (here : ch.downloader = .auth (.received result))
    (eq : ch' = ch.dstAuthReceived o result.isNone (bytesOf result)) :
    PartyStep .dst .src (ch.authNotes .dst o ++ returnNote ch.downloader ch'.downloader) ch
      ch' := by
  rw [dstAuthReceived] at eq
  obtain ⟨empty, failed⟩ | ⟨d, rfl, full, received⟩ := received_cases result
  · rw [if_pos failed] at eq
    obtain ⟨pc, head, flow, _⟩ := ch.dstAuthError_flow o ch' eq
    have after : ch'.downloader = pc := congrArg Flow.downloader flow
    rw [authNotes_empty .dst here empty, after, here]
    exact partyStep_dst here flow (.retries empty head)
  · rw [if_neg received] at eq
    have found : ch.authNotes .dst o = [.received d] := by simp [authNotes, coro, here, full]
    simp only [doAuth_of_ne_nil full, if_true, bytesOf, Option.elim] at eq
    subst eq
    rw [found, here]
    exact partyStep_dst here rfl (.accepts full)

/-- `dstAuth` goes on or returns after its echo, without a look at the result. -/
theorem dstAuthSent_party {bytes : Nat} {dest : Option Endpoint} {fails : Bool}
    (here : ch.downloader = .auth (.send bytes dest fails))
    (eq : ch' = ch.dstAuthSent o (!fails && o.sends)) :
    PartyStep .dst .src (ch.authNotes .dst o ++ returnNote ch.downloader ch'.downloader) ch
      ch' := by
  have found : ch.authNotes .dst o =
      [.echoed (ch.dstEnd.buf.take bytes) dest (!fails && o.sends)] := by
    simp [authNotes, coro, udpEnd, here]
  have continues : ∃ pc, AuthHead ch.dstEnd.opened pc ∧
      ch'.flow = { ch.flow with downloader := pc } ∧ ch'.handedDown = [] := by
    rw [dstAuthSent] at eq
    cases ok : !fails && o.sends with
    | true =>
        rw [ok] at eq
        obtain rfl : ch' = ch.dstAuthLoop o := eq
        exact ch.dstAuthLoop_flow o
    | false =>
        rw [ok] at eq
        exact ch.dstAuthError_flow o ch' eq
  obtain ⟨pc, head, flow, _⟩ := continues
  have after : ch'.downloader = pc := congrArg Flow.downloader flow
  have keeps : ch.flow.dst.opened =
      (ch.flow.dst.opened && (!fails && o.sends || decide (Side.dst = .dst))) := by simp
  rw [found, after, here]
  exact partyStep_dst here flow (.echoes keeps head)

theorem resumeDownloader_party (run : ch.resumeDownloader o = some ch') :
    PartyStep .dst .src (ch.authNotes .dst o ++ returnNote ch.downloader ch'.downloader) ch
      ch' := by
  rw [resumeDownloader] at run
  split at run
  · next here =>
      obtain ⟨pc, head, flow, _⟩ := ch.dstAuthLoop_flow o
      obtain rfl := Option.some.inj run
      have after : (ch.dstAuthLoop o).downloader = pc := congrArg Flow.downloader flow
      have nothing : ch.authNotes .dst o = [] := by simp [authNotes, coro, here]
      rw [nothing, after, here]
      exact partyStep_dst here flow (.enters head)
  · next here => exact dstAuthReceived_party here (Option.some.inj run).symm
  · next here => exact dstAuthSent_party here (Option.some.inj run).symm
  · next here =>
      obtain rfl := Option.some.inj run
      exact partyStep_of_leavesAuth .dst here downloaderReceived_leavesAuth
        (authNotes_relay .dst here)
  · next here =>
      obtain rfl := Option.some.inj run
      exact partyStep_of_leavesAuth .dst here downloaderSent_leavesAuth
        (authNotes_relay .dst here)
  · cases run

/-- The other end of the channel. -/
def peer : Side → Side
  | .src => .dst
  | .dst => .src

/-- A datagram arrives in the authentication loop of a party, or after it. -/
theorem arrive_party {d : Datagram} (run : ch.step (.arrive side d) = some ch') :
    PartyStep side (peer side) [] ch ch' := by
  cases side with
  | src =>
      obtain ⟨here, rfl⟩ | ⟨here, rfl⟩ := arriveSrc_cases run
      · exact partyStep_src here rfl .arrives
      · exact partyStep_of_leavesAuth .src here ⟨rfl, rfl⟩ rfl
  | dst =>
      obtain ⟨here, rfl⟩ | ⟨here, rfl⟩ := arriveDst_cases run
      · exact partyStep_dst here rfl .arrives
      · exact partyStep_of_leavesAuth .dst here ⟨rfl, rfl⟩ rfl

theorem receiveFails_party (run : ch.step (.receiveFails side) = some ch') :
    PartyStep side (peer side) [] ch ch' := by
  cases side with
  | src =>
      obtain ⟨pc, failed, rfl⟩ := Option.map_eq_some_iff.mp run
      exact partyStep_src rfl rfl (.fails failed)
  | dst =>
      obtain ⟨pc, failed, rfl⟩ := Option.map_eq_some_iff.mp run
      exact partyStep_dst rfl rfl (.fails failed)

/-- What a step shows of one side. -/
theorem notes_resume (run : ch.step (.resume side o) = some ch') (of : Side) :
    notes of (ch.authObserve (.resume side o)) =
      if side = of then ch.authNotes side o ++ returnNote (ch.coro side) (ch'.coro side)
      else [] := by
  rw [authObserve, run]
  exact notes_map of side _

/-- Every step of a channel is a step of the authentication loops. -/
theorem step_auth {a : RelayAction} (run : ch.step a = some ch') (side : Side) :
    AuthStep side (ch.flow.party side).1 (ch.flow.party side).2 (notes side (ch.authObserve a))
      (ch'.flow.party side).1 (ch'.flow.party side).2 := by
  have unchanged : ch'.flow.party side = ch.flow.party side →
      AuthStep side (ch.flow.party side).1 (ch.flow.party side).2 []
        (ch'.flow.party side).1 (ch'.flow.party side).2 := by
    intro same
    rw [same]
    exact .same
  have one : ∀ {active : Side} {ns : List AuthNote}, PartyStep active (peer active) ns ch ch' →
      notes side (ch.authObserve a) = (if active = side then ns else []) →
      AuthStep side (ch.flow.party side).1 (ch.flow.party side).2 (notes side (ch.authObserve a))
        (ch'.flow.party side).1 (ch'.flow.party side).2 := by
    intro active ns party shown
    rw [shown]
    split
    · next same =>
        subst same
        exact party.1
    · next other =>
        refine unchanged ?_
        have peer : side = peer active := by
          cases side <;> cases active <;> first | rfl | exact absurd rfl other
        rw [peer]
        exact party.2
  cases a with
  | arrive active d => exact one (arrive_party run) (ite_self _).symm
  | receiveFails active => exact one (receiveFails_party run) (ite_self _).symm
  | resume active o =>
      cases active with
      | src => exact one (resumeUploader_party run) (notes_resume run side)
      | dst => exact one (resumeDownloader_party run) (notes_resume run side)
  | stop =>
      obtain rfl := Option.some.inj run
      exact unchanged (by rw [flow_stop])
  | expire active =>
      cases active <;>
      · obtain rfl := Option.some.inj run
        exact unchanged rfl

/-! ## Runs -/

/-- Each loop knows its last datagram. -/
def EchoingBoth (ch : Relay) (log : List (Side × AuthNote)) : Prop :=
  ∀ side, Echoing side (ch.flow.party side).1 (notes side log) (ch.flow.party side).2

/-- An echo of `dstAuth` does not fail while the channel is started and the socket of
the destination is open. -/
def DstEchoSucceeds (ch : Relay) (a : RelayAction) : Prop :=
  ∀ o bytes dest fails, a = .resume .dst o → ch.downloader = .auth (.send bytes dest fails) →
    ch.started = true → ch.dstEnd.isOpen = true → (!fails && o.sends) = true

/-- The loop has returned from an echo that has failed. -/
theorem failed_of_notes {after : CoroPc} {data : Bytes} {dest : Option Endpoint}
    (shown : ch.authNotes side o ++ returnNote (ch.coro side) after =
      [.echoed data dest false, .returned]) :
    (∃ bytes dest fails, ch.coro side = .auth (.send bytes dest fails) ∧
      (!fails && o.sends) = false) ∧ after = .relay .receive := by
  have note : returnNote (ch.coro side) after = [] ∨
      returnNote (ch.coro side) after = [.returned] ∧ after = .relay .receive := by
    rw [returnNote]
    split
    · next returns => exact .inr ⟨rfl, returns.2⟩
    · exact .inl rfl
  have found : ch.authNotes side o = [] ∨ (∃ d, ch.authNotes side o = [.received d]) ∨
      ∃ bytes dest fails, ch.coro side = .auth (.send bytes dest fails) ∧ ch.authNotes side o =
        [.echoed ((ch.udpEnd side).buf.take bytes) dest (!fails && o.sends)] := by
    rw [authNotes]
    split
    · next d _ =>
        split
        · exact .inl rfl
        · exact .inr (.inl ⟨d, rfl⟩)
    · next bytes dest fails here => exact .inr (.inr ⟨bytes, dest, fails, here, rfl⟩)
    · exact .inl rfl
  obtain nothing | ⟨returned, left⟩ := note
  · obtain found | ⟨d, found⟩ | ⟨bytes, dest, fails, here, found⟩ := found <;>
      simp [nothing, found] at shown
  · obtain found | ⟨d, found⟩ | ⟨bytes, dest, fails, here, found⟩ := found
    · simp [returned, found] at shown
    · simp [returned, found] at shown
    · rw [returned, found] at shown
      injection shown with echo _
      injection echo with _ _ failed
      exact ⟨⟨bytes, dest, fails, here, failed⟩, left⟩

/-- `srcAuth` goes on or gives up after an echo that has failed. -/
theorem srcAuthSent_failed : (ch.srcAuthSent false).uploader ≠ .relay .receive := by
  rw [srcAuthSent]
  split
  · dsimp only
    split
    · exact CoroPc.noConfusion
    · rw [srcAuthLoop]
      split
      · simp
      · next leaves =>
          have stopped : ch.started = false := by simpa using leaves
          simp [uploaderLoop, stopped]
  · next sent => exact absurd rfl sent

/-- `dstAuth` returns after it, if the channel is started and the socket open. -/
theorem dstAuthSent_failed (returns : (ch.dstAuthSent o false).downloader = .relay .receive) :
    ch.started = true ∧ ch.dstEnd.isOpen = true := by
  rw [dstAuthSent] at returns
  simp only [Bool.not_false, if_true] at returns
  cases isOpen : ch.dstEnd.isOpen with
  | false => simp [isOpen] at returns
  | true =>
      cases started : ch.started with
      | false => simp [isOpen, dstAuthLoop, downloaderLoop, connect, started] at returns
      | true => exact ⟨rfl, rfl⟩

/-- When a loop returns after an echo that has failed. -/
theorem notes_failed_iff {a : RelayAction} (run : ch.step a = some ch')
    {log : List (Side × AuthNote)} (echoing : ch.EchoingBoth log) :
    (∀ side data dest, notes side (ch.authObserve a) ≠ [.echoed data dest false, .returned]) ↔
      ch.DstEchoSucceeds a := by
  constructor
  · rintro succeeds o bytes dest fails rfl here started isOpen
    by_contra failed
    have ok : (!fails && o.sends) = false := Bool.eq_false_iff.mpr failed
    have opened : ch.dstEnd.opened = true := by
      have dst := echoing .dst
      simp only [Flow.party] at dst
      have downloader : ch.flow.downloader = .auth (.send bytes dest fails) := here
      rw [downloader] at dst
      exact dst.1 rfl
    refine succeeds .dst (ch.dstEnd.buf.take bytes) dest ?_
    rw [notes_resume run, if_pos rfl]
    have found : ch.authNotes .dst o = [.echoed (ch.dstEnd.buf.take bytes) dest false] := by
      simp only [authNotes, coro, here, udpEnd, ok]
    have after : ch'.downloader = .relay .receive := by
      simp only [step, resumeDownloader, here, ok, dstAuthSent, dstAuthLoop, downloaderLoop,
        connect, started, isOpen, opened] at run
      obtain rfl := Option.some.inj run
      rfl
    rw [found]
    exact congrArg (_ :: ·) (if_pos ⟨by rw [coro, here]; rfl, after⟩)
  · intro succeeds side data dest shown
    cases a with
    | arrive | receiveFails | stop | expire => cases shown
    | resume active o =>
        rw [notes_resume run] at shown
        split at shown
        · next same =>
            subst same
            obtain ⟨⟨bytes, dest, fails, here, failed⟩, returns⟩ := failed_of_notes shown
            cases active with
            | src =>
                have uploader : ch.uploader = .auth (.send bytes dest fails) := here
                simp only [step, resumeUploader, uploader, failed] at run
                obtain rfl := Option.some.inj run
                exact srcAuthSent_failed returns
            | dst =>
                have downloader : ch.downloader = .auth (.send bytes dest fails) := here
                simp only [step, resumeDownloader, downloader, failed] at run
                obtain rfl := Option.some.inj run
                obtain ⟨started, isOpen⟩ := dstAuthSent_failed returns
                have ok := succeeds o bytes dest fails rfl downloader started isOpen
                exact Bool.false_ne_true (failed.symm.trans ok)
        · cases shown

/-- In every run, each authentication loop has returned only after it had echoed its last
datagram exactly when no echo of `dstAuth` has failed while the channel was started and
the socket of the destination open. -/
theorem echoed_iff (mtu : Nat) (src dst : UInt32) (as : List RelayAction) :
    System.Along (System.logStep step authObserve)
        (fun p => ∀ side, System.EachEntry Echoed (notes side p.2)) (start mtu src dst, []) as ↔
      System.Meets (System.logStep step authObserve) (fun p a => DstEchoSucceeds p.1 a)
        (start mtu src dst, []) as := by
  refine System.along_iff_meets (W := fun p : Relay × List (Side × AuthNote) =>
    p.1.EchoingBoth p.2) ?_ ?_ ?_ (fun _ => System.eachEntry_nil _) as
  · intro p a p' echoing run side
    obtain ⟨ch', stepped, rfl⟩ := Option.map_eq_some_iff.mp run
    rw [notes_append]
    exact (step_auth stepped side).echoing (echoing side)
  · intro p a p' echoing before run
    obtain ⟨ch', stepped, rfl⟩ := Option.map_eq_some_iff.mp run
    rw [← notes_failed_iff stepped echoing]
    refine forall_congr' fun side => ?_
    rw [notes_append]
    exact (step_auth stepped side).eachEntry_iff (echoing side) (before side)
  · intro side
    cases side <;> rfl

/-- The destination sends a datagram, and the socket does not take the echo. -/
def echoFails : List RelayAction :=
  let o : Outcome := ⟨true, true, true⟩
  [.resume .dst o, .arrive .dst ⟨[1], ⟨2, 20⟩⟩, .resume .dst o, .resume .dst ⟨false, true, true⟩]

theorem not_always_echoed :
    ¬ ∀ (mtu : Nat) (src dst : UInt32) (ch : Relay) (log : List (Side × AuthNote)),
      ((system mtu src dst).logged authObserve).Reachable (ch, log) →
        ∀ side, System.EachEntry Echoed (notes side log) := by
  intro echoed
  obtain ⟨ch, log, reached, shown⟩ := logged_of_run authObserve 1500 1 2 echoFails
    (P := fun _ log => notes .dst log =
      [.received ⟨[1], ⟨2, 20⟩⟩, .echoed [1] (some ⟨2, 20⟩) false, .returned])
    (by decide +kernel)
  obtain ⟨rest, d, ends⟩ := echoed 1500 1 2 ch log reached .dst
    [.received ⟨[1], ⟨2, 20⟩⟩, .echoed [1] (some ⟨2, 20⟩) false] .returned [] shown rfl
  have last := congrArg List.getLast? ends
  simp at last

end Relay

end NatProxy
