import NatProxy.Relay.Life

/-!
# The expiry of the ports

With a `port_expired`, each end has a coroutine `portExpiredChecker`, and `updateTime` notes
in `_endtime` when the end was last used. The checker closes the socket of an end that has not
been used for `port_expired` seconds. It looks every ten seconds, so it is late by that much
and by what its timer is late.

`TimedRelay` is a channel with a clock, which counts the seconds of `local_time` and is never
set back. It is a channel whose sockets expire when the checkers say so.
-/

namespace NatProxy

open Transition

/-- Where a `portExpiredChecker` is. -/
inductive CheckerPc
  | spawned
  /-- It waits for its timer, which was set to this second. -/
  | waiting (due : Nat)
  | exited
  deriving DecidableEq, Repr

structure TimedRelay where
  relay : Relay
  now : Nat
  endtime : Side → Nat
  checker : Side → CheckerPc

inductive TimedAction
  | tick
  /-- The sockets and the other coroutines; only the checkers let a port expire. -/
  | relay (a : RelayAction)
  /-- The checker goes on, or the wait for its timer fails. -/
  | checker (side : Side) (ec : Bool)
  deriving DecidableEq, Repr

/-- The coroutine of a side calls `updateTime` when it resumes: it has a datagram, which comes
from the address of the peer unless it authenticates itself. -/
def Relay.updates (ch : Relay) : Side → Bool
  | .src =>
      match ch.uploader with
      | .auth (.received (some d)) => !d.data.isEmpty
      | .relay (.received (some d)) => !d.data.isEmpty && ch.ep.addr == ch.srcEnd.remoteEp.addr
      | _ => false
  | .dst =>
      match ch.downloader with
      | .auth (.received (some d)) | .relay (.received (some d)) => !d.data.isEmpty
      | _ => false

def Relay.close (ch : Relay) : Side → Relay
  | .src => ch.closeSrc
  | .dst => ch.closeDst

namespace TimedRelay

/-- After `init` and `start`. The ends were made in the second `0`. -/
def start (mtu : Nat) (src dst : UInt32) : TimedRelay where
  relay := .start mtu src dst
  now := 0
  endtime := fun _ => 0
  checker := fun _ => .spawned

variable (c : TimedRelay)

/-- `CEnd::updateTime`. -/
def updateTime (side : Side) : TimedRelay :=
  { c with endtime := Function.update c.endtime side c.now }

def setChecker (side : Side) (pc : CheckerPc) : TimedRelay :=
  { c with checker := Function.update c.checker side pc }

/-- `CEnd::stop`. -/
def close (side : Side) : TimedRelay := { c with relay := c.relay.close side }

/-- The loop of `portExpiredChecker`, up to its wait. -/
def checkerLoop (expired : Nat) (side : Side) : TimedRelay :=
  if !(c.relay.udpEnd side).isOpen then c.setChecker side .exited
  else if c.now - c.endtime side ≥ expired then (c.close side).setChecker side .exited
  else c.setChecker side (.waiting (c.now + 10))

def step (expired : Nat) (c : TimedRelay) : TimedAction → Option TimedRelay
  | .tick => some { c with now := c.now + 1 }
  | .relay (.expire _) => none
  | .relay (.resume side o) =>
      (c.relay.step (.resume side o)).map fun relay =>
        if c.relay.updates side then { c.updateTime side with relay } else { c with relay }
  | .relay a => (c.relay.step a).map fun relay => { c with relay }
  | .checker side ec =>
      match c.checker side with
      | .spawned => some (c.checkerLoop expired side)
      | .waiting due =>
          -- after an error the checker stops the end, and then it finds the socket closed
          if ec then some ((c.close side).checkerLoop expired side)
          else if due ≤ c.now then some (c.checkerLoop expired side)
          else none
      | .exited => none

/-- All runs of a channel whose ports expire after some seconds. -/
def system (expired mtu : Nat) (src dst : UInt32) : System TimedRelay TimedAction :=
  .ofStep (fun c => c = start mtu src dst) (step expired)

/-- What an observer sees of the ends. -/
inductive Event
  | used (side : Side) (second : Nat)
  /-- The checker has closed the open socket, though no timer failed. -/
  | expired (side : Side) (second : Nat)
  /-- The checker has returned, while the downloader was in `dstAuth` or after it. -/
  | returned (side : Side) (auth : Bool)
  deriving DecidableEq, Repr

/-- The wait of the checker for its timer has failed. -/
def timerFails (c : TimedRelay) (side : Side) (ec : Bool) : Bool :=
  match c.checker side with
  | .waiting _ => ec
  | _ => false

/-- What the step of a checker from `c` to `c'` shows. -/
def checked (c c' : TimedRelay) (side : Side) (fails : Bool) : List Event :=
  (if (c.relay.udpEnd side).isOpen ∧ !(c'.relay.udpEnd side).isOpen ∧ !fails then
    [.expired side c.now] else []) ++
  if c'.checker side = .exited then [.returned side c.relay.downloader.inAuth] else []

def observe (expired : Nat) (c : TimedRelay) : TimedAction → List Event
  | .relay (.resume side _) => if c.relay.updates side then [.used side c.now] else []
  | .checker side ec =>
      (step expired c (.checker side ec)).elim []
        fun c' => checked c c' side (c.timerFails side ec)
  | _ => []

variable {c} {c' : TimedRelay} {expired : Nat} {side : Side} {ec fails : Bool}

/-! ## The steps -/

/-- What the checker has done when it waits again or has returned. -/
inductive Looks (expired : Nat) (c : TimedRelay) (side : Side) (fails : Bool) :
    TimedRelay → Prop
  | waits (isOpen : (c.relay.udpEnd side).isOpen = true)
      (early : c.now - c.endtime side < expired) :
      Looks expired c side fails (c.setChecker side (.waiting (c.now + 10)))
  | returns (closed : (c.relay.udpEnd side).isOpen = false) :
      Looks expired c side fails (c.setChecker side .exited)
  | closes (cause : fails = false → c.now - c.endtime side ≥ expired) :
      Looks expired c side fails ((c.close side).setChecker side .exited)

theorem looks_checkerLoop (c : TimedRelay) :
    Looks expired c side fails (c.checkerLoop expired side) := by
  rw [checkerLoop]
  split
  · next closed => exact .returns ((Bool.not_eq_true' _).mp closed)
  · next isOpen =>
    split
    · next late => exact .closes fun _ => late
    · next early =>
      exact .waits (by simpa using isOpen) (Nat.lt_of_not_ge early)

theorem isOpen_close (c : TimedRelay) (side : Side) :
    ((c.close side).relay.udpEnd side).isOpen = false := by
  cases side <;> rfl

/-- After a failed wait the checker closes the socket, and returns. -/
theorem looks_failed (c : TimedRelay) :
    Looks expired c side true ((c.close side).checkerLoop expired side) := by
  rw [checkerLoop, isOpen_close]
  exact .closes Bool.noConfusion

inductive Step (expired : Nat) : TimedRelay → TimedAction → TimedRelay → Prop
  | tick {c : TimedRelay} : Step expired c .tick { c with now := c.now + 1 }
  | uses {c : TimedRelay} {side o relay} (run : c.relay.step (.resume side o) = some relay)
      (updates : c.relay.updates side = true) :
      Step expired c (.relay (.resume side o)) { c.updateTime side with relay }
  | moves {c : TimedRelay} {a relay} (run : c.relay.step a = some relay)
      (other : ∀ side, a ≠ .expire side)
      (quiet : ∀ side o, a = .resume side o → c.relay.updates side = false) :
      Step expired c (.relay a) { c with relay }
  | looks {c c' : TimedRelay} {side ec} (looks : Looks expired c side (c.timerFails side ec) c') :
      Step expired c (.checker side ec) c'

theorem step_of_run {a : TimedAction} (run : step expired c a = some c') : Step expired c a c' := by
  cases a with
  | tick =>
      obtain rfl := Option.some.inj run
      exact .tick
  | relay a =>
      cases a with
      | expire => cases run
      | resume side o =>
          obtain ⟨relay, moved, rfl⟩ := Option.map_eq_some_iff.mp run
          split
          · next updates => exact .uses moved updates
          · next updates =>
            refine .moves moved (by simp) ?_
            rintro _ _ ⟨⟩
            exact Bool.eq_false_iff.mpr updates
      | arrive | receiveFails =>
          obtain ⟨relay, moved, rfl⟩ := Option.map_eq_some_iff.mp run
          exact .moves moved (by simp) (by simp)
      | stop =>
          have moved : c.relay.step .stop = some c.relay.stop := rfl
          obtain rfl := Option.some.inj run
          exact .moves moved (by simp) (by simp)
  | checker side ec =>
      rw [step] at run
      split at run
      · obtain rfl := Option.some.inj run
        exact .looks (looks_checkerLoop c)
      · next here =>
        split at run
        · next failed =>
          obtain rfl := Option.some.inj run
          have fails : c.timerFails side ec = true := by
            rw [timerFails, here]
            exact failed
          refine .looks ?_
          rw [fails]
          exact looks_failed c
        · obtain ⟨_, same⟩ := Option.ite_none_right_eq_some.mp run
          obtain rfl := Option.some.inj same
          exact .looks (looks_checkerLoop c)
      · cases run

/-- A channel with a clock is a channel. -/
theorem relay_reachable {mtu : Nat} {src dst : UInt32}
    (reached : (system expired mtu src dst).Reachable c) :
    (Relay.system mtu src dst).Reachable c.relay := by
  refine reached.invariant (I := fun c => (Relay.system mtu src dst).Reachable c.relay) ?_ ?_
  · rintro _ rfl
    exact .start rfl
  · intro c a c' _ h run
    have closes : ∀ side, c.relay.step (.expire side) = some (c.relay.close side) := by
      rintro (_ | _) <;> rfl
    cases step_of_run run with
    | tick => exact h
    | uses moved | moves moved => exact h.next moved
    | looks looks =>
        cases looks with
        | waits | returns => exact h
        | closes => exact h.next (closes _)

/-! ## A port that is used does not expire -/

theorem Looks.times (looks : Looks expired c side fails c') :
    c'.now = c.now ∧ c'.endtime = c.endtime := by
  cases looks <;> exact ⟨rfl, rfl⟩

theorem Step.past {a : TimedAction} (step : Step expired c a c') (past : ∀ s, c.endtime s ≤ c.now)
    (s : Side) : c'.endtime s ≤ c'.now := by
  cases step with
  | tick => exact Nat.le_succ_of_le (past s)
  | @uses side =>
      show Function.update c.endtime side c.now s ≤ c.now
      by_cases eq : s = side
      · subst eq
        rw [Function.update_self]
      · rw [Function.update_of_ne eq]
        exact past s
  | moves => exact past s
  | looks looks =>
      obtain ⟨now, endtime⟩ := looks.times
      rw [now, endtime]
      exact past s

/-- When an end expires it has not been used for `expired` seconds. -/
def Unused (expired : Nat) (before : List Event) (e : Event) : Prop :=
  ∀ side t, e = .expired side t →
    expired ≤ t ∧ ∀ t', .used side t' ∈ before → t' + expired ≤ t

/-- `_endtime` is the second of the last use of the end, or `0`. -/
structure Noted (expired : Nat) (c : TimedRelay) (log : List Event) : Prop where
  past : ∀ side, c.endtime side ≤ c.now
  used : ∀ side t, .used side t ∈ log → t ≤ c.endtime side
  last : ∀ side, c.endtime side = 0 ∨ .used side (c.endtime side) ∈ log
  unused : System.EachEntry (Unused expired) log

theorem observe_moves {a : RelayAction}
    (quiet : ∀ side o, a = .resume side o → c.relay.updates side = false) :
    observe expired c (.relay a) = [] := by
  cases a with
  | resume side o => exact if_neg (Bool.eq_false_iff.mp (quiet side o rfl))
  | arrive | receiveFails | stop | expire => rfl

theorem observe_checker (run : step expired c (.checker side ec) = some c') :
    observe expired c (.checker side ec) = checked c c' side (c.timerFails side ec) := by
  rw [observe, run]
  rfl

theorem not_used_mem_checked {s : Side} {t : Nat} : .used s t ∉ checked c c' side fails := by
  intro mem
  rw [checked] at mem
  rcases List.mem_append.mp mem with first | second
  · split at first
    · cases List.mem_singleton.mp first
    · cases first
  · split at second
    · cases List.mem_singleton.mp second
    · cases second

/-- The checker closes the socket when the end has not been used. -/
theorem Looks.late (looks : Looks expired c side fails c')
    (isOpen : (c.relay.udpEnd side).isOpen = true) (closed : (c'.relay.udpEnd side).isOpen = false)
    (fine : fails = false) : c.now - c.endtime side ≥ expired := by
  cases looks with
  | waits => cases isOpen.symm.trans closed
  | returns closed => cases isOpen.symm.trans closed
  | closes cause => exact cause fine

theorem Noted.checked {log : List Event} (h : Noted expired c log)
    (looks : Looks expired c side fails c') :
    System.EachEntry (Unused expired) (log ++ checked c c' side fails) := by
  have first : System.EachEntry (Unused expired) (log ++
      if (c.relay.udpEnd side).isOpen ∧ !(c'.relay.udpEnd side).isOpen ∧ !fails then
        [.expired side c.now] else []) := by
    split
    · next shut =>
      obtain ⟨isOpen, closed, fine⟩ := shut
      have late := looks.late isOpen ((Bool.not_eq_true' _).mp closed)
        ((Bool.not_eq_true' _).mp fine)
      have past := h.past side
      refine h.unused.concat ?_
      rintro _ _ ⟨⟩
      refine ⟨by omega, fun t' before => ?_⟩
      have noted := h.used side t' before
      omega
    · rw [List.append_nil]
      exact h.unused
  rw [TimedRelay.checked, ← List.append_assoc]
  by_cases returned : c'.checker side = .exited
  · rw [if_pos returned]
    refine first.concat ?_
    rintro _ _ ⟨⟩
  · rw [if_neg returned, List.append_nil]
    exact first

theorem Noted.step {log : List Event} (h : Noted expired c log) {a : TimedAction}
    (run : step expired c a = some c') : Noted expired c' (log ++ observe expired c a) := by
  have step := step_of_run run
  have past := step.past h.past
  cases step with
  | tick =>
      rw [show observe expired c .tick = [] from rfl, List.append_nil]
      exact ⟨past, h.used, h.last, h.unused⟩
  | @uses side o relay _ updates =>
      have shows_ : observe expired c (.relay (.resume side o)) = [.used side c.now] :=
        if_pos updates
      rw [shows_]
      refine ⟨past, fun s t mem => ?_, fun s => ?_, h.unused.concat ?_⟩
      · show t ≤ Function.update c.endtime side c.now s
        have noted := h.used s t
        by_cases eq : s = side
        · subst eq
          rw [Function.update_self]
          obtain before | last := List.mem_append.mp mem
          · exact (noted before).trans (h.past s)
          · obtain ⟨⟩ := List.mem_singleton.mp last
            exact le_rfl
        · rw [Function.update_of_ne eq]
          obtain before | last := List.mem_append.mp mem
          · exact noted before
          · obtain ⟨⟩ := List.mem_singleton.mp last
            exact absurd rfl eq
      · show Function.update c.endtime side c.now s = 0 ∨
          Event.used s (Function.update c.endtime side c.now s) ∈ _
        by_cases eq : s = side
        · subst eq
          rw [Function.update_self]
          exact .inr (List.mem_append_right _ (List.mem_singleton_self _))
        · rw [Function.update_of_ne eq]
          exact (h.last s).imp_right (List.mem_append_left _)
      · rintro _ _ ⟨⟩
  | moves _ _ quiet =>
      rw [observe_moves quiet, List.append_nil]
      exact ⟨past, h.used, h.last, h.unused⟩
  | @looks _ side ec looks =>
      rw [observe_checker run]
      refine ⟨past, fun s t mem => ?_, fun s => ?_, h.checked looks⟩
      · rw [looks.times.2]
        exact h.used s t ((List.mem_append.mp mem).resolve_right not_used_mem_checked)
      · rw [looks.times.2]
        exact (h.last s).imp_right (List.mem_append_left _)

theorem noted_of_reachable {mtu : Nat} {src dst : UInt32} {log : List Event}
    (reached : ((system expired mtu src dst).logged (observe expired)).Reachable (c, log)) :
    Noted expired c log := by
  refine reached.log_invariant (I := Noted expired) ?_ ?_
  · rintro _ rfl
    refine ⟨fun _ => le_rfl, fun _ _ mem => ?_, fun _ => .inl rfl, System.eachEntry_nil _⟩
    cases mem
  · intro c a c' log _ h run
    exact h.step run

/-- In every run, a checker whose timer does not fail closes the socket of its end only when the
end has not been used for `expired` seconds, nor made. -/
theorem expired_unused {mtu : Nat} {src dst : UInt32} {log : List Event}
    (reached : ((system expired mtu src dst).logged (observe expired)).Reachable (c, log)) :
    System.EachEntry (Unused expired) log :=
  (noted_of_reachable reached).unused

/-- The source is used in the first second, and expires when its checker looks again. -/
def usedOnce : List TimedAction :=
  [.relay (.resume .src ⟨true, true, true⟩), .relay (.arrive .src ⟨[1, 2, 3], ⟨1, 1⟩⟩), .tick,
    .relay (.resume .src ⟨true, true, true⟩), .checker .src false] ++ .replicate 10 .tick ++
      [.checker .src false]

theorem exists_usedOnce {P : TimedRelay → List Event → Prop}
    (check : ∃ p ∈ System.runSteps (System.logStep (step 5) (observe 5)) (start 1500 1 2, [])
      usedOnce, P p.1 p.2) :
    ∃ c log, ((system 5 1500 1 2).logged (observe 5)).Reachable (c, log) ∧ P c log :=
  System.logged_of_steps rfl check

theorem expired_unused_usedOnce : ∃ log : List Event,
    log = [.used .src 1, .expired .src 11, .returned .src true] ∧
      System.EachEntry (Unused 5) log := by
  obtain ⟨c, log, reached, shown⟩ := exists_usedOnce
    (P := fun _ log => log = [.used .src 1, .expired .src 11, .returned .src true])
    (by decide +kernel)
  exact ⟨log, shown, expired_unused reached⟩

/-! ## A port that is not used expires -/

end TimedRelay

/-- The second from which on the checker can go on. -/
def CheckerPc.due : CheckerPc → Option Nat
  | .spawned => some 0
  | .waiting due => some due
  | .exited => none

namespace TimedRelay

variable {c c' : TimedRelay} {expired late : Nat} {side : Side}

/-- The checkers go on less than `late` seconds after they can. -/
def Timely (late : Nat) (c : TimedRelay) (a : TimedAction) : Prop :=
  a = .tick → ∀ side due, (c.checker side).due = some due → c.now < due + late

/-- The checker looks again before the end has been idle for ten seconds more. -/
structure Watches (expired late : Nat) (c : TimedRelay) (side : Side) : Prop where
  early : ∀ due, (c.checker side).due = some due → due < c.endtime side + expired + 10
  due : ∀ due, (c.checker side).due = some due → c.now ≤ due + late

theorem watches_start (mtu : Nat) (src dst : UInt32) :
    Watches expired late (start mtu src dst) side where
  early := by
    rintro _ ⟨⟩
    exact Nat.add_pos_right _ (by decide)
  due := by
    rintro _ ⟨⟩
    exact Nat.zero_le _

theorem Watches.later {relay : Relay} {endtime : Side → Nat} (h : Watches expired late c side)
    (later : c.endtime side ≤ endtime side) :
    Watches expired late { c with relay, endtime } side where
  early due here := by
    have early := h.early due here
    show due < endtime side + expired + 10
    omega
  due := h.due

/-- The other checker does not notice. -/
theorem Watches.setChecker_other (h : Watches expired late c side) {s : Side} (other : side ≠ s)
    {relay : Relay} (pc : CheckerPc) :
    Watches expired late ({ c with relay }.setChecker s pc) side := by
  have same : ({ c with relay }.setChecker s pc).checker side = c.checker side :=
    Function.update_of_ne other ..
  refine ⟨?_, ?_⟩
  · rw [same]
    exact h.early
  · rw [same]
    exact h.due

theorem Watches.looks (h : ∀ s, Watches expired late c s) (looks : Looks expired c side fails c')
    (past : c.endtime side ≤ c.now) (s : Side) : Watches expired late c' s := by
  have exited : ∀ {relay : Relay},
      Watches expired late ({ c with relay }.setChecker side .exited) side := by
    intro relay
    have ended : ({ c with relay }.setChecker side .exited).checker side = .exited :=
      Function.update_self ..
    refine ⟨?_, ?_⟩ <;>
    · rw [ended]
      rintro _ ⟨⟩
  by_cases eq : s = side
  · subst eq
    cases looks with
    | waits isOpen early =>
        have waits : (c.setChecker s (.waiting (c.now + 10))).checker s = .waiting (c.now + 10) :=
          Function.update_self ..
        refine ⟨?_, ?_⟩
        · rw [waits]
          rintro _ ⟨⟩
          show c.now + 10 < c.endtime s + expired + 10
          omega
        · rw [waits]
          rintro _ ⟨⟩
          show c.now ≤ c.now + 10 + late
          omega
    | returns => exact exited
    | closes => exact exited
  · cases looks with
    | waits | returns | closes => exact (h s).setChecker_other eq _

theorem Watches.step (h : ∀ s, Watches expired late c s) (past : ∀ s, c.endtime s ≤ c.now)
    {a : TimedAction} (step : Step expired c a c') (timely : Timely late c a) (s : Side) :
    Watches expired late c' s := by
  cases step with
  | tick =>
      refine ⟨(h s).early, fun due here => ?_⟩
      exact timely rfl s due here
  | @uses side =>
      refine (h s).later ?_
      show c.endtime s ≤ Function.update c.endtime side c.now s
      by_cases eq : s = side
      · subst eq
        rw [Function.update_self]
        exact past s
      · rw [Function.update_of_ne eq]
  | moves => exact (h s).later le_rfl
  | looks looks => exact Watches.looks h looks (past _) s

/-- When a checker has returned the socket is closed, unless the downloader has left `dstAuth`,
and connected it again, after the checker had returned. -/
structure Closed (c : TimedRelay) (log : List Event) : Prop where
  opened : ∀ side, c.checker side = .exited → (c.relay.udpEnd side).isOpen = true →
    side = .dst ∧ c.relay.downloader.inAuth = false ∧ .returned .dst true ∈ log
  auth : c.checker .dst = .exited → c.relay.downloader.inAuth = true → .returned .dst true ∈ log

theorem Closed.moves {log events : List Event} (h : Closed c log) {a : RelayAction} {relay : Relay}
    {endtime : Side → Nat} (run : c.relay.step a = some relay) :
    Closed { c with relay, endtime } (log ++ events) where
  opened side returned isOpen := by
    have life := Relay.step_life run
    obtain before | ⟨rfl, auth, left⟩ := life.opened isOpen
    · obtain ⟨rfl, left, noted⟩ := h.opened side returned before
      exact ⟨rfl, life.left (s := .dst) left, List.mem_append_left _ noted⟩
    · exact ⟨rfl, left, List.mem_append_left _ (h.auth returned auth)⟩
  auth returned auth := by
    have life := Relay.step_life run
    refine List.mem_append_left _ (h.auth returned ?_)
    by_contra left
    exact Bool.eq_false_iff.mp (life.left (s := .dst) (Bool.eq_false_iff.mpr left)) auth

theorem returned_mem_checked (c : TimedRelay) (fails : Bool)
    (returned : c'.checker side = .exited) :
    .returned side c.relay.downloader.inAuth ∈ checked c c' side fails := by
  rw [checked, if_pos returned]
  exact List.mem_append_right _ (List.mem_singleton_self _)

/-- A checker returns only when the socket is closed. -/
theorem Looks.closed (looks : Looks expired c side fails c')
    (returned : c'.checker side = .exited) :
    (c'.relay.udpEnd side).isOpen = false := by
  cases looks with
  | waits => cases (Function.update_self ..).symm.trans returned
  | returns closed => exact closed
  | closes => exact isOpen_close c side

theorem Looks.other (looks : Looks expired c side fails c') {s : Side} (other : s ≠ side) :
    c'.checker s = c.checker s ∧ (c'.relay.udpEnd s).isOpen = (c.relay.udpEnd s).isOpen := by
  cases looks with
  | waits | returns => exact ⟨Function.update_of_ne other .., rfl⟩
  | closes =>
      refine ⟨Function.update_of_ne other .., ?_⟩
      cases s <;> cases side <;> first | rfl | exact absurd rfl other

theorem Looks.downloader (looks : Looks expired c side fails c') :
    c'.relay.downloader = c.relay.downloader := by
  cases looks with
  | waits | returns => rfl
  | closes => cases side <;> rfl

theorem Closed.looks {log : List Event} (h : Closed c log)
    (looks : Looks expired c side fails c') : Closed c' (log ++ checked c c' side fails) where
  opened s returned isOpen := by
    by_cases eq : s = side
    · subst eq
      cases (looks.closed returned).symm.trans isOpen
    · obtain ⟨checker, same⟩ := looks.other eq
      obtain ⟨rfl, left, noted⟩ := h.opened s (checker ▸ returned) (same ▸ isOpen)
      exact ⟨rfl, looks.downloader ▸ left, List.mem_append_left _ noted⟩
  auth returned auth := by
    rw [looks.downloader] at auth
    by_cases eq : side = .dst
    · subst eq
      have noted := returned_mem_checked c fails returned
      rw [auth] at noted
      exact List.mem_append_right _ noted
    · exact List.mem_append_left _ (h.auth ((looks.other (Ne.symm eq)).1 ▸ returned) auth)

theorem closed_of_reachable {mtu : Nat} {src dst : UInt32} {log : List Event}
    (reached : ((system expired mtu src dst).logged (observe expired)).Reachable (c, log)) :
    Closed c log := by
  refine reached.log_invariant (I := Closed) ?_ ?_
  · rintro _ rfl
    exact ⟨fun _ => CheckerPc.noConfusion, CheckerPc.noConfusion⟩
  · intro c a c' log _ h run
    cases step_of_run run with
    | tick =>
        rw [show observe expired c .tick = [] from rfl, List.append_nil]
        exact ⟨h.opened, h.auth⟩
    | uses moved | moves moved => exact h.moves moved
    | looks looks =>
        rw [observe_checker run]
        exact h.looks looks

/-- If in a run the checkers go on less than `late` seconds after their timers let them, an end
whose checker has not returned was used, or made, less than `expired + 10 + late` seconds ago.
When its checker has returned the socket is closed, but for that of the destination, if the
downloader has left `dstAuth` after the checker had returned during it. -/
theorem used_in_time {mtu : Nat} {src dst : UInt32} {log : List Event}
    (reached : (((system expired mtu src dst).restrict (Timely late)).logged
      (observe expired)).Reachable (c, log)) (side : Side) :
    (c.checker side ≠ .exited →
      ∃ t, (t = 0 ∨ .used side t ∈ log) ∧ c.now < t + expired + 10 + late) ∧
      (c.checker side = .exited → (c.relay.udpEnd side).isOpen = true →
        side = .dst ∧ c.relay.downloader.inAuth = false ∧ .returned .dst true ∈ log) := by
  have all : ((system expired mtu src dst).logged (observe expired)).Reachable (c, log) :=
    reached.mono (fun _ first => first) fun _ _ _ step => ⟨step.1.2, step.2⟩
  have watched : (∀ s, c.endtime s ≤ c.now) ∧ ∀ s, Watches expired late c s := by
    refine reached.of_logged.invariant
      (I := fun c => (∀ s, c.endtime s ≤ c.now) ∧ ∀ s, Watches expired late c s) ?_ ?_
    · rintro _ rfl
      exact ⟨fun _ => le_rfl, fun _ => watches_start mtu src dst⟩
    · rintro c a c' _ ⟨past, h⟩ ⟨timely, run⟩
      have step := step_of_run run
      exact ⟨step.past past, Watches.step h past step timely⟩
  have watches := watched.2 side
  refine ⟨fun runs => ⟨c.endtime side, (noted_of_reachable all).last side, ?_⟩,
    (closed_of_reachable all).opened side⟩
  obtain ⟨due, here⟩ : ∃ due, (c.checker side).due = some due := by
    cases here : c.checker side with
    | spawned => exact ⟨0, rfl⟩
    | waiting due => exact ⟨due, rfl⟩
    | exited => exact absurd here runs
  have early := watches.early due here
  have soon := watches.due due here
  omega

/-- A test for `Timely`. -/
def timely (late : Nat) (c : TimedRelay) (_ : TimedAction) : Bool :=
  (c.checker .src).due.all (fun due => c.now < due + late) &&
    (c.checker .dst).due.all (fun due => c.now < due + late)

theorem timely_sound (late : Nat) (c : TimedRelay) (a : TimedAction)
    (tested : timely late c a = true) : Timely late c a := by
  rintro _ side due here
  obtain ⟨src, dst⟩ := Bool.and_eq_true_iff.mp tested
  cases side with
  | src => exact of_decide_eq_true (by simpa [here] using src)
  | dst => exact of_decide_eq_true (by simpa [here] using dst)

/-- The source is used after its checker has looked. The destination expires while its echo is
being sent, and is connected again. -/
def usedLater : List TimedAction :=
  [.checker .src false, .checker .dst false, .relay (.resume .src ⟨true, true, true⟩),
    .relay (.resume .dst ⟨true, true, true⟩), .tick,
    .relay (.arrive .src ⟨[1, 2, 3], ⟨1, 1⟩⟩), .relay (.resume .src ⟨true, true, true⟩),
    .relay (.arrive .dst ⟨[4, 5, 6], ⟨2, 2⟩⟩), .relay (.resume .dst ⟨true, true, true⟩)] ++
    .replicate 9 .tick ++ [.checker .dst false, .relay (.resume .dst ⟨true, true, true⟩)]

theorem exists_usedLater {P : TimedRelay → List Event → Prop}
    (check : ∃ p ∈ System.runSteps (fun p a => if timely 2 p.1 a then
      System.logStep (step 5) (observe 5) p a else none) (start 8 1 2, []) usedLater, P p.1 p.2) :
    ∃ c log, (((system 5 8 1 2).restrict (Timely 2)).logged (observe 5)).Reachable (c, log) ∧
      P c log :=
  System.logged_of_testedSteps (timely_sound 2) rfl check

theorem used_in_time_usedLater : ∃ (c : TimedRelay) (log : List Event), c.now = 10 ∧
    c.checker .src ≠ .exited ∧ c.checker .dst = .exited ∧ c.relay.dstEnd.isOpen = true ∧
    ∀ side, (c.checker side ≠ .exited →
      ∃ t, (t = 0 ∨ .used side t ∈ log) ∧ c.now < t + 5 + 10 + 2) ∧
      (c.checker side = .exited → (c.relay.udpEnd side).isOpen = true →
        side = .dst ∧ c.relay.downloader.inAuth = false ∧ .returned .dst true ∈ log) := by
  obtain ⟨c, log, reached, now, src, dst, isOpen⟩ := exists_usedLater
    (P := fun c _ => c.now = 10 ∧ c.checker .src ≠ .exited ∧ c.checker .dst = .exited ∧
      c.relay.dstEnd.isOpen = true) (by decide +kernel)
  exact ⟨c, log, now, src, dst, isOpen, used_in_time reached⟩

end TimedRelay

end NatProxy
