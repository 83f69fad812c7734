import NatProxy.Relay.Flow

/-!
# Payloads before the source is authenticated

`srcAuth` waits for the destination, so that the uploader hands a payload to a send
call only when both ends are opened. The downloader waits for its own end alone: what
the destination sends before the source is authenticated goes to whatever endpoint
`_remote_ep` of the source holds at that time.
-/

namespace NatProxy

open Memory Transition

/-- A payload is handed to a send call with both ends opened. -/
def RelayEvent.BothOpened : RelayEvent → Prop
  | .issued _ _ _ srcOpened dstOpened => srcOpened = true ∧ dstOpened = true
  | _ => True

/-- Only a payload of the downloader can come before the source is authenticated. -/
theorem Flow.Step.bothOpened {f f' : Flow} {es : List RelayEvent} (step : Flow.Step f es f')
    (handshake : f.Handshake)
    (opened : ∀ data dest dstOpened d,
      .issued .dst data dest f.src.opened dstOpened ∈ es →
        f.downloader = .relay (.received (some d)) → 2 < d.data.length → f.src.opened = true) :
    ∀ e ∈ es, e.BothOpened := by
  cases step with
  | @upload d dest fails here same long =>
      have uploader := handshake.uploader
      rw [here] at uploader
      intro e shown
      obtain rfl | rfl : e = _ ∨ e = _ := by simpa using shown
      · trivial
      · exact ⟨uploader.1, handshake.order uploader.1⟩
  | @download d fails here long =>
      have downloader := handshake.downloader
      rw [here] at downloader
      intro e shown
      obtain rfl | rfl : e = _ ∨ e = _ := by simpa using shown
      · trivial
      · exact ⟨opened _ _ _ d shown here long, downloader.1⟩
  | srcAccepts | uploadRefused | uploadShort | uploadFails | uploaded | dstAccepts
  | downloadShort | downloadFails | downloaded =>
      intro e shown
      obtain rfl := List.mem_singleton.mp shown
      trivial
  | _ =>
      intro e shown
      cases shown

namespace Relay

/-- The downloader takes a payload only when the source is authenticated. -/
def DownloadsOpened (ch : Relay) (a : RelayAction) : Prop :=
  ∀ o d, a = .resume .dst o → ch.downloader = .relay (.received (some d)) →
    2 < d.data.length → ch.srcEnd.opened = true

/-- Only the downloader hands a payload of the downloader to a send call. -/
theorem resumes_of_issued {ch : Relay} {a : RelayAction} {data : Bytes} {dest : Option Endpoint}
    {srcOpened dstOpened : Bool}
    (shown : .issued .dst data dest srcOpened dstOpened ∈ ch.observe a) :
    ∃ o, a = .resume .dst o := by
  cases a with
  | arrive | receiveFails | stop | expire => cases shown
  | resume side o =>
      cases side with
      | dst => exact ⟨o, rfl⟩
      | src =>
          simp only [observe, List.mem_append] at shown
          obtain found | handed := shown
          · simp only [foundUploader] at found
            split at found
            · split at found <;> simp at found
            · split at found <;> simp at found
            · simp at found
            · cases found
          · cases next : ch.step (.resume .src o) with
            | none =>
                rw [next] at handed
                cases handed
            | some ch' =>
                rw [next] at handed
                simp only [Option.elim, handedUp] at handed
                split at handed <;> simp at handed

/-- The payload that the downloader takes is handed to a send call at once. -/
theorem issued_of_downloads {ch : Relay} {o : Outcome} {d : Datagram}
    (here : ch.downloader = .relay (.received (some d))) (long : 2 < d.data.length) :
    .issued .dst (ch.dstEnd.buf.take d.data.length) (some ch.srcEnd.remoteEp) ch.srcEnd.opened
      ch.dstEnd.opened ∈ ch.observe (.resume .dst o) := by
  have full : d.data.length ≠ 0 := by omega
  have run : ch.step (.resume .dst o) = some { ch with
      downloader := .relay (ch.srcEnd.sendTo d.data.length ch.srcEnd.remoteEp) } := by
    simp [step, resumeDownloader, here, downloaderReceived, bytesOf, full, Nat.not_le_of_lt long]
  simp only [observe, run]
  exact List.mem_append_right _ (List.mem_singleton_self _)

/-- In every run, every payload has been handed to a send call with both ends opened
exactly when the downloader has taken payloads only with the source authenticated. -/
theorem bothOpened_iff (mtu : Nat) (src dst : UInt32) (as : List RelayAction) :
    System.Along (System.logStep step observe) (fun p => ∀ e ∈ p.2, e.BothOpened)
        (start mtu src dst, []) as ↔
      System.Meets (System.logStep step observe) (fun p a => DownloadsOpened p.1 a)
        (start mtu src dst, []) as := by
  refine System.along_iff_meets (W := fun p : Relay × List RelayEvent => p.1.flow.Handshake) ?_ ?_
    (handshake_start mtu src dst) (fun e shown => by cases shown) as
  · intro p a p' handshake run
    obtain ⟨ch', stepped, rfl⟩ := Option.map_eq_some_iff.mp run
    exact (step_flow stepped).handshake handshake
  · intro p a p' handshake before run
    obtain ⟨ch', stepped, rfl⟩ := Option.map_eq_some_iff.mp run
    constructor
    · rintro opened o d rfl here long
      exact (opened _ (List.mem_append_right _ (issued_of_downloads here long))).1
    · intro condition e shown
      rcases List.mem_append.mp shown with old | new
      · exact before e old
      · refine (step_flow stepped).bothOpened handshake ?_ e new
        intro data dest dstOpened d issued here long
        obtain ⟨o, rfl⟩ := resumes_of_issued issued
        exact condition o d rfl here long

/-- A datagram arrives at the source too early to authenticate it. Then the destination
authenticates and sends a payload at once. -/
def earlyPayload : List RelayAction :=
  let o : Outcome := ⟨true, true, true⟩
  [.resume .src o, .arrive .src ⟨[1], ⟨9, 90⟩⟩, .resume .src o, .resume .src o,
    .resume .dst o, .arrive .dst ⟨[1], ⟨2, 20⟩⟩, .resume .dst o, .resume .dst o,
    .arrive .dst ⟨[4, 5, 6], ⟨2, 20⟩⟩, .resume .dst o]

theorem not_always_bothOpened :
    ¬ ∀ (mtu : Nat) (src dst : UInt32) (ch : Relay) (log : List RelayEvent),
      ((system mtu src dst).logged observe).Reachable (ch, log) → ∀ e ∈ log, e.BothOpened := by
  intro opened
  obtain ⟨ch, log, reached, shown⟩ := logged_of_run observe 1500 1 2 earlyPayload
    (P := fun _ log => .issued .dst [4, 5, 6] (some ⟨9, 90⟩) false true ∈ log) (by decide +kernel)
  exact absurd (opened 1500 1 2 ch log reached _ shown).1 Bool.false_ne_true

end Relay

end NatProxy
