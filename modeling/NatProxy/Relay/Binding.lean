import NatProxy.Relay.Fidelity

/-!
# The binding of the source

`CEnd::init` installs the address of the peer of the source session in `_remote_ep`,
and `uploader` refuses datagrams from another address than the one in `_remote_ep`.
In between, `srcAuth` passes `_remote_ep` to its receive as the output argument, so
that whoever sends a datagram while `srcAuth` waits for one installs his own address,
and is the source once the destination is authenticated.
-/

namespace NatProxy

open Transition

/-- The datagram comes from the peer: one that authenticates the source, and the one
whose bytes the uploader hands to a send call. -/
def FromPeer (peer : UInt32) (before : List RelayEvent) : RelayEvent → Prop
  | .authenticated .src d => d.sender.addr = peer
  | .issued .src data _ _ _ =>
      ∃ rest d, before = rest ++ [.received .src d] ∧ d.data = data ∧ d.sender.addr = peer
  | _ => True

/-- The account keeps the address that the source was authenticated with. -/
theorem source_of_fromPeer {peer : UInt32} {log : List RelayEvent}
    (bound : System.EachEntry (FromPeer peer) log) {ep : Endpoint}
    (source : (Account.of log).source = some ep) : ep.addr = peer := by
  induction log using List.reverseRecOn generalizing ep with
  | nil => cases source
  | append_singleton log e ih =>
      obtain ⟨before, last⟩ := System.eachEntry_concat_iff.mp bound
      rw [Account.of_append, List.foldl_cons, List.foldl_nil] at source
      cases e with
      | authenticated side d =>
          cases side with
          | src =>
              obtain rfl := Option.some.inj source
              exact last
          | dst => exact ih before source
      | received side d =>
          cases side with
          | src =>
              cases known : (Account.of log).source with
              | none =>
                  simp only [Account.note, known] at source
                  cases source
              | some old =>
                  simp only [Account.note, known] at source
                  split at source
                  · have same := ih before known
                    obtain rfl := Option.some.inj source
                    exact same
                  · exact ih before source
          | dst =>
              simp only [Account.note] at source
              split at source <;> exact ih before source
      | issued | finished => exact ih before source

/-- A step keeps the source bound to its peer exactly when it authenticates nobody
else. -/
theorem Flow.Step.fromPeer_iff {peer : UInt32} {f f' : Flow} {es log : List RelayEvent}
    (step : Flow.Step f es f') (tracks : f.Tracks log)
    (bound : System.EachEntry (FromPeer peer) log) :
    System.EachEntry (FromPeer peer) (log ++ es) ↔
      ∀ d, .authenticated .src d ∈ es → d.sender.addr = peer := by
  constructor
  · intro after d shown
    obtain ⟨front, back, rfl⟩ := List.append_of_mem shown
    exact after (log ++ front) _ back (by rw [List.append_assoc])
  · intro authentic
    have quiet : ∀ {e}, FromPeer peer log e → System.EachEntry (FromPeer peer) (log ++ [e]) :=
      fun last => bound.concat last
    cases step with
    | srcAccepts => exact quiet (authentic _ (List.mem_singleton_self _))
    | @upload d dest fails here same long =>
        have uploader := tracks.handshake.uploader
        rw [here] at uploader
        obtain ⟨holds, ep⟩ := uploader.2 d rfl
        have source := source_of_fromPeer bound (tracks.source uploader.1)
        have received : System.EachEntry (FromPeer peer) (log ++ [.received .src d]) :=
          bound.concat trivial
        rw [List.append_cons]
        refine received.concat ⟨log, d, rfl, holds.symm, ?_⟩
        rw [← ep, same]
        exact source
    | @download d fails here long =>
        have received : System.EachEntry (FromPeer peer) (log ++ [.received .dst d]) :=
          bound.concat trivial
        rw [List.append_cons]
        exact received.concat trivial
    | uploadRefused | uploadShort | uploadFails | uploaded | dstAccepts | downloadShort
    | downloadFails | downloaded => exact quiet trivial
    | _ =>
        rw [List.append_nil]
        exact bound

namespace Relay

/-- A datagram that is not empty, and that `srcAuth` takes once the destination is
authenticated, comes from the peer. -/
def AuthFromPeer (peer : UInt32) (ch : Relay) (a : RelayAction) : Prop :=
  ∀ o d, a = .resume .src o → ch.uploader = .auth (.received (some d)) → d.data ≠ [] →
    ch.dstEnd.opened = true → d.sender.addr = peer

/-- When the source is authenticated. -/
theorem authenticated_src_iff {ch : Relay} {a : RelayAction} {d : Datagram} :
    .authenticated .src d ∈ ch.observe a ↔ ∃ o, a = .resume .src o ∧
      ch.uploader = .auth (.received (some d)) ∧ d.data ≠ [] ∧ ch.dstEnd.opened = true := by
  have notUp : ∀ next : Option Relay, .authenticated .src d ∉ next.elim [] handedUp := by
    intro next shown
    cases next with
    | none => cases shown
    | some next =>
        simp only [Option.elim, handedUp] at shown
        split at shown <;> simp at shown
  have notDown : ∀ next : Option Relay, .authenticated .src d ∉ next.elim [] handedDown := by
    intro next shown
    cases next with
    | none => cases shown
    | some next =>
        simp only [Option.elim, handedDown] at shown
        split at shown <;> simp at shown
  constructor
  · intro shown
    cases a with
    | arrive | receiveFails | stop | expire => cases shown
    | resume side o =>
        cases side with
        | src =>
            refine ⟨o, rfl, ?_⟩
            have found := (List.mem_append.mp shown).resolve_right (notUp _)
            simp only [foundUploader] at found
            split at found
            · next here =>
                split at found
                · next accepted =>
                    obtain ⟨⟩ := List.mem_singleton.mp found
                    simp only [doAuth, Bool.and_eq_true, decide_eq_true_eq] at accepted
                    exact ⟨here, List.length_pos_iff.mp accepted.1, accepted.2⟩
                · cases found
            · split at found <;> simp at found
            · simp at found
            · cases found
        | dst =>
            have found := (List.mem_append.mp shown).resolve_right (notDown _)
            simp only [foundDownloader] at found
            split at found
            · split at found <;> simp at found
            · split at found <;> simp at found
            · simp at found
            · cases found
  · rintro ⟨o, rfl, here, full, opened⟩
    refine List.mem_append_left _ ?_
    simp [foundUploader, here, doAuth, opened, List.length_pos_iff, full]

/-- In every run, the source has been bound to the peer of its session all the time
exactly when `srcAuth` has taken a datagram from the peer whenever it has taken one
with the destination authenticated. -/
theorem source_bound_iff (mtu : Nat) (src dst : UInt32) (as : List RelayAction) :
    System.Along (System.logStep step observe)
        (fun p => System.EachEntry (FromPeer src) p.2) (start mtu src dst, []) as ↔
      System.Meets (System.logStep step observe) (fun p a => AuthFromPeer src p.1 a)
        (start mtu src dst, []) as := by
  refine System.along_iff_meets (W := fun p : Relay × List RelayEvent => p.1.flow.Tracks p.2) ?_ ?_
    (tracks_start mtu src dst) (System.eachEntry_nil _) as
  · intro p a p' tracks run
    obtain ⟨ch', stepped, rfl⟩ := Option.map_eq_some_iff.mp run
    exact (step_flow stepped).tracks tracks
  · intro p a p' tracks bound run
    obtain ⟨ch', stepped, rfl⟩ := Option.map_eq_some_iff.mp run
    refine ((step_flow stepped).fromPeer_iff tracks bound).trans ?_
    simp only [authenticated_src_iff]
    constructor
    · intro authentic o d resumes here full opened
      exact authentic d ⟨o, resumes, here, full, opened⟩
    · rintro condition d ⟨o, resumes, here, full, opened⟩
      exact condition o d resumes here full opened

/-- The destination authenticates, and then a sender that is not the peer of the
source session is taken for the source. -/
def strangerAuthenticates : List RelayAction :=
  let o : Outcome := ⟨true, true, true⟩
  [.resume .dst o, .arrive .dst ⟨[1], ⟨2, 20⟩⟩, .resume .dst o,
    .resume .src o, .arrive .src ⟨[1], ⟨9, 90⟩⟩, .resume .src o]

theorem source_not_always_bound :
    ¬ ∀ (mtu : Nat) (src dst : UInt32) (ch : Relay) (log : List RelayEvent),
      ((system mtu src dst).logged observe).Reachable (ch, log) →
        System.EachEntry (FromPeer src) log := by
  intro bound
  obtain ⟨ch, log, reached, shown⟩ := logged_of_run observe 1500 1 2 strangerAuthenticates
    (P := fun _ log => log =
      [.authenticated .dst ⟨[1], ⟨2, 20⟩⟩, .authenticated .src ⟨[1], ⟨9, 90⟩⟩])
    (by decide +kernel)
  have entry := bound 1500 1 2 ch log reached [.authenticated .dst ⟨[1], ⟨2, 20⟩⟩]
    (.authenticated .src ⟨[1], ⟨9, 90⟩⟩) [] shown
  have same : (9 : UInt32) = 1 := entry
  exact absurd same (by decide)

end Relay

end NatProxy
