import NatProxy.Server.ConnectionCount

/-!
# The limit of connections

The acceptors compare the counter with the limit before they increment it, and
refuse a connection only when the counter has already passed the limit. So a test
lets a session through at the limit itself, and does not see a session that has
passed the test of another acceptor and is not counted yet. In a run in which no
test takes place at the limit, and no test below it finds the rest of the room taken
by such sessions, the limit holds: `Limited` is the invariant.
-/

namespace NatProxy

variable {S C : Type} [DecidableEq S]

instance (c : Connection) : Decidable c.Open := inferInstanceAs (Decidable (_ ∨ _ ∨ _))

namespace Connections

variable {cfg : Config} {v v' : Connections S} {a : Action S C} {s : S} {c : Connection}
  {m : Nat}

/-- The counter and the sessions that are admitted but not counted yet stay below the
limit `m`. -/
def Room (v : Connections S) (m : Nat) : Prop :=
  ∀ F : Finset S, (∀ s ∈ F, (v.conn s).phase = .admitted) → v.connNum.toNat + F.card < m

/-- No accepted connection is tested when the counter is equal to the limit, or when it
is below the limit and the sessions on their way to the increment take the rest. -/
def TestsRoom (cfg : Config) (v : Connections S) : Action S C → Prop
  | .acceptorTest _ true =>
      v.connNum ≠ cfg.maxSessions ∧
        (v.connNum < cfg.maxSessions → v.Room cfg.maxSessions.toNat)
  | _ => True

/-- What keeps the sessions within the limit `m`: the ones to come still fit, and the
counter is no less than the number of the open ones. -/
structure Limited (v : Connections S) (m : Nat) : Prop where
  admitted : ∀ F : Finset S, (∀ s ∈ F, (v.conn s).phase = .admitted) →
    v.connNum.toNat + F.card ≤ m
  isOpen : ∀ F : Finset S, (∀ s ∈ F, (v.conn s).Open) → F.card ≤ v.connNum.toNat

/-- A step of one session that neither changes the counter nor adds to the sessions
that are admitted or open. -/
theorem Limited.keep (h : v.Limited m)
    (admitted : c.phase = .admitted → (v.conn s).phase = .admitted)
    (isOpen : c.Open → (v.conn s).Open) : (v.set s c).Limited m where
  admitted F listed := h.admitted F fun r mem =>
    forall_set_conn (P := fun r c => c.phase = .admitted → (v.conn r).phase = .admitted)
      (fun _ _ old => old) admitted r (listed r mem)
  isOpen F listed := h.isOpen F fun r mem =>
    forall_set_conn (P := fun r c => c.Open → (v.conn r).Open)
      (fun _ _ old => old) isOpen r (listed r mem)

/-- A session passes its test where there is room for it. -/
theorem Limited.admit (h : v.Limited m) (room : v.Room m)
    (isOpen : c.Open → (v.conn s).Open) : (v.set s c).Limited m where
  admitted F listed := by
    have others : ∀ r ∈ F.erase s, (v.conn r).phase = .admitted := by
      intro r mem
      obtain ⟨ne, mem⟩ := Finset.mem_erase.mp mem
      rw [← conn_set_of_ne v s c ne]
      exact listed r mem
    have below := room _ others
    have card := Finset.pred_card_le_card_erase (s := F) (a := s)
    change v.connNum.toNat + F.card ≤ m
    omega
  isOpen F listed := h.isOpen F fun r mem =>
    forall_set_conn (P := fun r c => c.Open → (v.conn r).Open)
      (fun _ _ old => old) isOpen r (listed r mem)

/-- The increment: an admitted session becomes an open one. The counter does not wrap,
since it was below the limit with that session. -/
theorem Limited.count (h : v.Limited m) (bound : m < 2 ^ 32)
    (admitted : (v.conn s).phase = .admitted) :
    ({ v with connNum := v.connNum + 1 }.set s { v.conn s with phase := .counted }).Limited m := by
  have one := h.admitted {s} fun r mem => by rwa [Finset.mem_singleton.mp mem]
  rw [Finset.card_singleton] at one
  have next : (v.connNum + 1).toNat = v.connNum.toNat + 1 := by
    rw [UInt32.toNat_add]
    exact Nat.mod_eq_of_lt (Nat.lt_of_le_of_lt one bound)
  constructor
  · intro F listed
    have uncounted : s ∉ F := by
      intro mem
      simpa using listed s mem
    have all : ∀ r ∈ insert s F, (v.conn r).phase = .admitted := by
      intro r mem
      rcases Finset.mem_insert.mp mem with rfl | mem
      · exact admitted
      · have ne : r ≠ s := fun eq => uncounted (eq ▸ mem)
        rw [← conn_set_of_ne { v with connNum := v.connNum + 1 } s _ ne]
        exact listed r mem
    have fits := h.admitted _ all
    rw [Finset.card_insert_of_notMem uncounted] at fits
    change (v.connNum + 1).toNat + F.card ≤ m
    omega
  · intro F listed
    have others : ∀ r ∈ F.erase s, (v.conn r).Open := by
      intro r mem
      obtain ⟨ne, mem⟩ := Finset.mem_erase.mp mem
      rw [← conn_set_of_ne { v with connNum := v.connNum + 1 } s _ ne]
      exact listed r mem
    have fewer := h.isOpen _ others
    have card := Finset.pred_card_le_card_erase (s := F) (a := s)
    change F.card ≤ (v.connNum + 1).toNat
    omega

/-- The decrement: the session that is subtracted was an open one and is not any more. -/
theorem Limited.close (h : v.Limited m) (sound : (v.conn s).Sound)
    (here : (v.conn s).stop = some .sessionClosed) :
    ({ v with connNum := if v.alive then v.connNum - 1 else v.connNum }.set s
      { v.conn s with stop := none }).Limited m := by
  have stopping : (v.conn s).stop ≠ none := by simp [here]
  have shut : ¬ Connection.Open { v.conn s with stop := none } := by
    rintro (phase | started | stopping')
    · exact stopping (sound.early (by rw [show (v.conn s).phase = _ from phase]; trivial)).2
    · exact Bool.false_ne_true ((sound.stopping stopping).symm.trans started)
    · exact stopping' rfl
  have less : ∀ n : Nat, n + 1 ≤ v.connNum.toNat →
      n ≤ (if v.alive then v.connNum - 1 else v.connNum).toNat ∧
        (if v.alive then v.connNum - 1 else v.connNum).toNat ≤ v.connNum.toNat := by
    intro n le
    have one : (1 : UInt32) ≤ v.connNum := UInt32.le_iff_toNat_le.mpr (by simp; omega)
    have previous : (v.connNum - 1).toNat = v.connNum.toNat - 1 := UInt32.toNat_sub_of_le _ _ one
    split <;> omega
  have still : ∀ F : Finset S, (∀ r ∈ F, r ≠ s ∧ (v.conn r).Open) →
      F.card + 1 ≤ v.connNum.toNat := by
    intro F listed
    have absent : s ∉ F := fun mem => (listed s mem).1 rfl
    rw [← Finset.card_insert_of_notMem absent]
    refine h.isOpen _ ?_
    intro r mem
    rcases Finset.mem_insert.mp mem with rfl | mem
    · exact .inr (.inr stopping)
    · exact (listed r mem).2
  constructor
  · intro F listed
    refine le_trans (Nat.add_le_add_right (less 0 (still ∅ (by simp))).2 _) (h.admitted F ?_)
    intro r mem
    exact forall_set_conn (v := { v with .. }) (c := { v.conn s with stop := none })
      (P := fun r c => c.phase = .admitted → (v.conn r).phase = .admitted)
      (fun _ _ old => old) (fun old => old) r (listed r mem)
  · intro F listed
    refine (less F.card (still F ?_)).1
    intro r mem
    exact forall_set_conn (v := { v with .. }) (P := fun r c => c.Open → r ≠ s ∧ (v.conn r).Open)
      (fun _ ne isOpen => ⟨ne, isOpen⟩) (fun isOpen => absurd isOpen shut) r (listed r mem)

theorem Step.limited (step : Step cfg v a v') (sound : ∀ s, (v.conn s).Sound)
    (limit : 0 < cfg.maxSessions) (tests : v.TestsRoom cfg a)
    (h : v.Limited cfg.maxSessions.toNat) : v'.Limited cfg.maxSessions.toNat := by
  cases step with
  | @test s ok created =>
      have early := (sound s).early (by rw [created]; trivial)
      have unopened : ∀ p : Phase, p ≠ .counted →
          ¬ Connection.Open { v.conn s with phase := p } := by
        rintro p other (phase | started | stopping)
        · exact other phase
        · exact Bool.false_ne_true (early.1.symm.trans started)
        · exact stopping early.2
      split
      · exact h.keep (fun phase => by cases phase)
          fun isOpen => absurd isOpen (unopened _ (by simp))
      · next passed =>
        -- a test that passes has found the counter below the limit or at it
        rw [not_or, Bool.not_eq_true', Bool.not_eq_false] at passed
        obtain ⟨rfl, passed⟩ := passed
        have le : v.connNum ≤ cfg.maxSessions :=
          UInt32.not_lt.mp fun more => passed ⟨limit, more⟩
        exact h.admit (tests.2 (UInt32.lt_of_le_of_ne le tests.1))
          fun isOpen => absurd isOpen (unopened _ (by simp))
  | count admitted => exact h.count (UInt32.toNat_lt _) admitted
  | start counted => exact h.keep (fun phase => by cases phase) fun _ => .inl counted
  | @beginStop _ s handler idle =>
      refine h.keep id ?_
      rintro (phase | started | stopping)
      · exact .inl phase
      · cases started
      · refine .inr (.inl ?_)
        by_contra notStarted
        exact stopping (if_neg notStarted)
  | goOn here more => exact h.keep id fun _ => .inr (.inr (by simp [here]))
  | closed here => exact h.close (sound _) here
  | @destroy s ended unused =>
      refine h.keep (fun phase => by cases phase) ?_
      rintro (phase | started | stopping)
      · cases phase
      · exact .inr (.inl started)
      · exact .inr (.inr stopping)
  | release => exact ⟨h.admitted, h.isOpen⟩

omit [DecidableEq S] in
theorem limited_new (m : Nat) : (new : Connections S).Limited m where
  admitted F listed := by
    have empty : F = ∅ := by
      rw [Finset.eq_empty_iff_forall_notMem]
      intro s mem
      simpa [new] using listed s mem
    simp [empty, new]
  isOpen F listed := by
    have empty : F = ∅ := by
      rw [Finset.eq_empty_iff_forall_notMem]
      intro s mem
      simpa [Connection.Open, new] using listed s mem
    simp [empty]

/-- The connections are sound in every reachable state. -/
theorem sound_of_reachable (reached : (system (C := C) cfg).Reachable v) (s : S) :
    (v.conn s).Sound := by
  obtain ⟨log, logged⟩ := reached.exists_log events
  exact (accounted_of_reachable logged).sound s

theorem limited_of_reachable (limit : 0 < cfg.maxSessions)
    (reached : ((system (C := C) cfg).restrict (TestsRoom cfg)).Reachable v) :
    v.Limited cfg.maxSessions.toNat := by
  refine reached.invariant (I := fun v => v.Limited cfg.maxSessions.toNat) ?_ ?_
  · rintro _ rfl
    exact limited_new _
  · intro v a v' reached h step
    exact step.2.limited (sound_of_reachable reached.of_restrict) limit step.1 h

end Connections

namespace Server

variable [DecidableEq C]

/-- In every run in which no accepted connection is tested when `_conn_num` is equal to
`MaxSessions`, or when it is below `MaxSessions` and the sessions that are admitted but
not counted yet take the rest, at most `MaxSessions` sessions are counted and not yet
closed. -/
theorem open_le_maxSessions (cfg : Config) (limit : 0 < cfg.maxSessions) {st : Server S C}
    (reached : ((system cfg).restrict fun st a => st.connections.TestsRoom cfg a).Reachable st)
    (F : Finset S) (isOpen : ∀ s ∈ F, (st.connections.conn s).Open) :
    F.card ≤ cfg.maxSessions.toNat := by
  have mapped := (connections_mapping cfg).reachable_restrict
    (D := Connections.TestsRoom cfg) reached
  have limited := Connections.limited_of_reachable limit mapped
  have counted := limited.isOpen F isOpen
  have within := limited.admitted ∅ (by simp)
  rw [Finset.card_empty, Nat.add_zero] at within
  exact counted.trans within

/-- Two connections are accepted one after the other. -/
def twoConnections : List (Action (Fin 2) (Fin 1)) := accept 0 ++ accept 1

theorem open_not_always_le_maxSessions :
    ¬ ∀ cfg : Config, 0 < cfg.maxSessions → ∀ st : Server (Fin 2) (Fin 1),
      (system cfg).Reachable st → ∀ F : Finset (Fin 2),
        (∀ s ∈ F, (st.connections.conn s).Open) → F.card ≤ cfg.maxSessions.toNat := by
  intro bounded
  obtain ⟨st, reached, isOpen⟩ := reachable_of_run ⟨1, 0, 0⟩ twoConnections
    (P := fun st : Server (Fin 2) (Fin 1) =>
      ∀ s, (st.connections.conn s).phase = .live ∧ (st.connections.conn s).started = true)
    (by decide +kernel)
  have two := bounded ⟨1, 0, 0⟩ (by decide) st reached {0, 1}
    fun s _ => .inr (.inl (isOpen s).2)
  exact absurd two (by decide)

/-- The second connection is accepted after the first one has been closed. -/
def oneAtATime : List (Action (Fin 2) (Fin 1)) :=
  accept 0 ++ [.readFails 0, .onReadHead 0] ++ go 0 4 ++ accept 1

/-- The condition for a limit of one, evaluated. -/
def testsRoomTest (st : Server (Fin 2) (Fin 1)) : Action (Fin 2) (Fin 1) → Bool
  | .acceptorTest _ true =>
      decide (st.connNum ≠ 1 ∧
        (st.connNum < 1 → ∀ s, (st.connections.conn s).phase ≠ .admitted))
  | _ => true

theorem testsRoom_of_test (st : Server (Fin 2) (Fin 1)) (a : Action (Fin 2) (Fin 1))
    (tested : testsRoomTest st a = true) : st.connections.TestsRoom ⟨1, 0, 0⟩ a := by
  cases a with
  | acceptorTest s ok =>
      cases ok with
      | false => trivial
      | true =>
          obtain ⟨ne, none⟩ := of_decide_eq_true tested
          refine ⟨ne, fun less F admitted => ?_⟩
          have empty : F = ∅ := by
            rw [Finset.eq_empty_iff_forall_notMem]
            exact fun r mem => none less r (admitted r mem)
          rw [empty, Finset.card_empty]
          exact UInt32.lt_iff_toNat_lt.mp less
  | _ => trivial

theorem open_le_maxSessions_oneAtATime :
    ∃ st : Server (Fin 2) (Fin 1), (st.connections.conn 1).Open ∧
      ∀ F : Finset (Fin 2), (∀ s ∈ F, (st.connections.conn s).Open) → F.card ≤ 1 := by
  obtain ⟨st, reached, isOpen⟩ := reachable_of_testedRun ⟨1, 0, 0⟩ oneAtATime testsRoom_of_test
    (P := fun st => (st.connections.conn 1).Open) (by decide +kernel)
  exact ⟨st, isOpen, open_le_maxSessions ⟨1, 0, 0⟩ (by decide) reached⟩

end Server

end NatProxy
