import Mathlib.Data.Fintype.Basic
import Mathlib.Logic.Function.Basic
import NatProxy.Transition.History

/-!
# The pool of contexts

The threads of the acceptors and of `createChannel` all take their contexts from
`getIoContext`, without a lock. Between its increment and its reset the index may stand
at the size of the pool, and the comparison tests for nothing but equality: another call
in between reads behind the contexts, or takes the index past the size, where no
comparison finds it again.
-/

namespace NatProxy

open Transition

/-- Where a call of `getIoContext` is. `io` is the context that it has bound, `none` for
an element behind the contexts. -/
inductive GetPc
  | idle
  | increment (io : Option Nat)
  | compare (io : Option Nat)
  | reset (io : Option Nat)
  deriving DecidableEq, Repr

namespace GetPc

/-- The call is about to compare the index. -/
def compares : GetPc → Bool
  | .compare _ => true
  | _ => false

/-- The call has found the index at the end, and is about to reset it. -/
def resets : GetPc → Bool
  | .reset _ => true
  | _ => false

/-- The call has bound a context, if anything. -/
def Bound : GetPc → Prop
  | .idle => True
  | .increment io | .compare io | .reset io => io.isSome = true

end GetPc

/-- The pool and the calls of its threads. The contexts are numbered as the constructor
makes them. -/
structure CIoContextPool (T : Type) where
  ioContexts : List Nat
  /-- The size of a vector is a `size_t`. -/
  fits : ioContexts.length < UInt64.size
  nextContextIndex : UInt64
  calls : T → GetPc

/-- What an observer sees of a call. -/
inductive PoolEvent
  /-- `_io_contexts[index]` -/
  | access (index : UInt64)
  | returns (io : Option Nat)
  deriving DecidableEq, Repr

namespace CIoContextPool

variable {T : Type}

def new (poolSize : UInt64) : CIoContextPool T where
  ioContexts := List.range poolSize.toNat
  fits := by
    rw [List.length_range]
    exact poolSize.toNat_lt
  nextContextIndex := 0
  calls := fun _ => .idle

/-- `_io_contexts.size()` -/
def size (pool : CIoContextPool T) : UInt64 := UInt64.ofNat pool.ioContexts.length

theorem toNat_size (pool : CIoContextPool T) : pool.size.toNat = pool.ioContexts.length :=
  UInt64.toNat_ofNat_of_lt' pool.fits

/-- The indexes below `_io_contexts.size()` are those of the contexts. -/
theorem isSome_ioContexts {pool : CIoContextPool T} {index : UInt64} :
    pool.ioContexts[index.toNat]?.isSome = true ↔ index < pool.size := by
  rw [isSome_getElem?, UInt64.lt_iff_toNat_lt, toNat_size]

theorem size_new (poolSize : UInt64) : (new poolSize : CIoContextPool T).size = poolSize := by
  rw [size, new, List.length_range, UInt64.ofNat_toNat]

section Statements

variable [DecidableEq T]

/-- The call of a thread comes to its next statement. -/
def setCall (pool : CIoContextPool T) (t : T) (pc : GetPc) : CIoContextPool T :=
  { pool with calls := Function.update pool.calls t pc }

section Simp

variable (pool : CIoContextPool T) (t : T) (pc : GetPc)

@[simp] theorem nextContextIndex_setCall :
    (pool.setCall t pc).nextContextIndex = pool.nextContextIndex := rfl
@[simp] theorem calls_setCall : (pool.setCall t pc).calls = Function.update pool.calls t pc := rfl

end Simp

/-- The next statement of `getIoContext` on the thread `t`, the first one if no call is in
progress there. -/
def getIoContext (pool : CIoContextPool T) (t : T) : CIoContextPool T :=
  match pool.calls t with
  | .idle => pool.setCall t (.increment pool.ioContexts[pool.nextContextIndex.toNat]?)
  | .increment io =>
      { pool with nextContextIndex := pool.nextContextIndex + 1 }.setCall t (.compare io)
  | .compare io => pool.setCall t (if pool.nextContextIndex = pool.size then .reset io else .idle)
  | .reset _ => { pool with nextContextIndex := 0 }.setCall t .idle

/-- What the statement shows. -/
def observe (pool : CIoContextPool T) (t : T) : List PoolEvent :=
  match pool.calls t with
  | .idle => [.access pool.nextContextIndex]
  | .increment _ => []
  | .compare io => if pool.nextContextIndex = pool.size then [] else [.returns io]
  | .reset io => [.returns io]

/-- The pool with a log of what its calls show. -/
def step : CIoContextPool T × List PoolEvent → T → Option (CIoContextPool T × List PoolEvent) :=
  System.logStep (fun pool t => some (pool.getIoContext t)) observe

end Statements

/-- No call is in progress. -/
def Quiet (pool : CIoContextPool T) : Prop := ∀ t, pool.calls t = .idle

/-- Every access was to an element of the vector, and the index is one unless a call is
in progress. -/
def InRange (p : CIoContextPool T × List PoolEvent) : Prop :=
  (∀ index, .access index ∈ p.2 → index < p.1.size) ∧
    (p.1.Quiet → p.1.nextContextIndex < p.1.size)

/-! ## Calls that leave the end of the pool to each other -/

/-- A call in progress still has to take the index back from the end. -/
def ResetDue (pool : CIoContextPool T) : Prop :=
  (pool.nextContextIndex = pool.size ∧ ∃ t, (pool.calls t).compares = true) ∨
    pool.size ≤ pool.nextContextIndex ∧ ∃ t, (pool.calls t).resets = true

/-- No call begins while a reset of the index is due, and none increments the index at
the end unless its reset is certain. -/
def LeavesEnd (pool : CIoContextPool T) (t : T) : Prop :=
  match pool.calls t with
  | .idle => ¬ pool.ResetDue
  | .increment _ => pool.nextContextIndex = pool.size → ∃ u, (pool.calls u).resets = true
  | _ => True

instance [Fintype T] (pool : CIoContextPool T) : Decidable pool.ResetDue :=
  inferInstanceAs (Decidable ((_ ∧ ∃ _, _ = true) ∨ _ ∧ ∃ _, _ = true))

instance [Fintype T] (pool : CIoContextPool T) (t : T) : Decidable (pool.LeavesEnd t) :=
  match now : pool.calls t with
  | .idle => decidable_of_iff (¬ pool.ResetDue) (by rw [LeavesEnd, now])
  | .increment _ =>
      decidable_of_iff
        (pool.nextContextIndex = pool.size → ∃ u, (pool.calls u).resets = true)
        (by rw [LeavesEnd, now])
  | .compare _ | .reset _ => isTrue (by rw [LeavesEnd, now]; trivial)

/-- An index behind the contexts comes back. -/
def ComesBack (pool : CIoContextPool T) : Prop :=
  pool.size ≤ pool.nextContextIndex → pool.ResetDue

theorem le_of_resetDue {pool : CIoContextPool T} (due : pool.ResetDue) :
    pool.size ≤ pool.nextContextIndex := by
  rcases due with ⟨full, _⟩ | ⟨behind, _⟩
  · exact UInt64.le_of_eq full.symm
  · exact behind

theorem lt_size {pool : CIoContextPool T} (back : pool.ComesBack) (notDue : ¬ pool.ResetDue) :
    pool.nextContextIndex < pool.size := by
  by_contra behind
  exact notDue (back (UInt64.not_lt.mp behind))

theorem lt_size_of_quiet {pool : CIoContextPool T} (back : pool.ComesBack) (quiet : pool.Quiet) :
    pool.nextContextIndex < pool.size := by
  refine lt_size back ?_
  rintro (⟨_, u, compares⟩ | ⟨_, u, resets⟩)
  · simp [quiet u, GetPc.compares] at compares
  · simp [quiet u, GetPc.resets] at resets

/-- Only a call that begins accesses an element. -/
theorem access_mem_observe {pool : CIoContextPool T} {t : T} {index : UInt64}
    (shown : .access index ∈ pool.observe t) :
    pool.calls t = .idle ∧ index = pool.nextContextIndex := by
  cases now : pool.calls t with
  | idle => simpa [observe, now] using shown
  | increment io => simp [observe, now] at shown
  | compare io =>
      by_cases full : pool.nextContextIndex = pool.size
      · simp [observe, now, full] at shown
      · simp [observe, now, full] at shown
  | reset io => simp [observe, now] at shown

/-- Only a call that has passed its comparison returns. -/
theorem returns_mem_observe {pool : CIoContextPool T} {t : T} {io : Option Nat}
    (shown : .returns io ∈ pool.observe t) :
    pool.calls t = .compare io ∨ pool.calls t = .reset io := by
  cases now : pool.calls t with
  | idle => simp [observe, now] at shown
  | increment io' => simp [observe, now] at shown
  | compare io' =>
      by_cases full : pool.nextContextIndex = pool.size
      · simp [observe, now, full] at shown
      · simpa [observe, now, full, eq_comm] using shown
  | reset io' => simpa [observe, now, eq_comm] using shown

theorem toNat_add_one (index : UInt64) (room : index.toNat + 1 < UInt64.size) :
    (index + 1).toNat = index.toNat + 1 := by
  rw [UInt64.toNat_add]
  exact Nat.mod_eq_of_lt room

/-- An increment that leaves the contexts stops at their size. -/
theorem increment_eq {index size : UInt64} (inside : index < size) (behind : size ≤ index + 1) :
    index + 1 = size := by
  have limit := size.toNat_lt_size
  rw [UInt64.lt_iff_toNat_lt] at inside
  have grown := toNat_add_one index (by omega)
  rw [UInt64.le_iff_toNat_le, grown] at behind
  rw [← UInt64.toNat_inj, grown]
  omega

section Step

variable [DecidableEq T] {pool : CIoContextPool T} {t : T} {test : GetPc → Bool}

theorem size_getIoContext (pool : CIoContextPool T) (t : T) :
    (pool.getIoContext t).size = pool.size := by
  rw [getIoContext]
  split <;> rfl

theorem exists_setCall {pc : GetPc} (passes : test pc = true) :
    ∃ u, test ((pool.setCall t pc).calls u) = true := by
  refine ⟨t, ?_⟩
  rw [calls_setCall, Function.update_self]
  exact passes

/-- A call that passes a test is another thread's if this thread's does not pass it, and
stays where it is. -/
theorem exists_setCall_of_ne {pc : GetPc} (fails : test (pool.calls t) = false)
    (found : ∃ u, test (pool.calls u) = true) :
    ∃ u, test ((pool.setCall t pc).calls u) = true := by
  obtain ⟨u, passes⟩ := found
  have other : u ≠ t := by
    rintro rfl
    simp [fails] at passes
  refine ⟨u, ?_⟩
  rw [calls_setCall, Function.update_of_ne other]
  exact passes

theorem forall_setCall (P : GetPc → Prop) {pc : GetPc} (others : ∀ u, P (pool.calls u))
    (own : P pc) (u : T) : P ((pool.setCall t pc).calls u) := by
  rw [calls_setCall, Function.update_apply]
  split
  · exact own
  · exact others u

theorem noReset_setCall {pc : GetPc} (noReset : ∀ u, (pool.calls u).resets = false)
    (own : pc.resets = false) (u : T) : ((pool.setCall t pc).calls u).resets = false :=
  forall_setCall (fun pc => pc.resets = false) noReset own u

theorem getIoContext_idle (now : pool.calls t = .idle) :
    pool.getIoContext t =
      pool.setCall t (.increment pool.ioContexts[pool.nextContextIndex.toNat]?) := by
  rw [getIoContext, now]

theorem getIoContext_increment {io : Option Nat} (now : pool.calls t = .increment io) :
    pool.getIoContext t =
      { pool with nextContextIndex := pool.nextContextIndex + 1 }.setCall t (.compare io) := by
  rw [getIoContext, now]

theorem getIoContext_compare_eq {io : Option Nat} (now : pool.calls t = .compare io)
    (full : pool.nextContextIndex = pool.size) :
    pool.getIoContext t = pool.setCall t (.reset io) := by
  simp only [getIoContext, now, if_pos full]

theorem getIoContext_compare_ne {io : Option Nat} (now : pool.calls t = .compare io)
    (other : pool.nextContextIndex ≠ pool.size) :
    pool.getIoContext t = pool.setCall t .idle := by
  simp only [getIoContext, now, if_neg other]

theorem getIoContext_reset {io : Option Nat} (now : pool.calls t = .reset io) :
    pool.getIoContext t = { pool with nextContextIndex := 0 }.setCall t .idle := by
  rw [getIoContext, now]

theorem comesBack_getIoContext (nonempty : 0 < pool.size) (back : pool.ComesBack)
    (met : pool.LeavesEnd t) : (pool.getIoContext t).ComesBack := by
  cases now : pool.calls t with
  | idle =>
      rw [LeavesEnd, now] at met
      have inside := lt_size back met
      rw [getIoContext_idle now]
      intro behind
      exact absurd inside (UInt64.not_lt.mpr behind)
  | increment io =>
      rw [LeavesEnd, now] at met
      rw [getIoContext_increment now]
      intro behind
      by_cases inside : pool.nextContextIndex < pool.size
      · -- this call has taken the index to the end, and its comparison is still to come
        exact .inl ⟨increment_eq inside behind, exists_setCall rfl⟩
      · refine .inr ⟨behind, exists_setCall_of_ne (by simp [now, GetPc.resets]) ?_⟩
        rcases back (UInt64.not_lt.mp inside) with ⟨full, _⟩ | ⟨_, found⟩
        · exact met full
        · exact found
  | compare io =>
      by_cases full : pool.nextContextIndex = pool.size
      · rw [getIoContext_compare_eq now full]
        intro behind
        exact .inr ⟨behind, exists_setCall rfl⟩
      · rw [getIoContext_compare_ne now full]
        intro behind
        rcases back behind with ⟨same, _⟩ | ⟨_, found⟩
        · exact absurd same full
        · exact .inr ⟨behind, exists_setCall_of_ne (by simp [now, GetPc.resets]) found⟩
  | reset io =>
      rw [getIoContext_reset now]
      intro behind
      exact absurd nonempty (UInt64.not_lt.mpr behind)

theorem bound_getIoContext (bound : ∀ u, (pool.calls u).Bound) (back : pool.ComesBack)
    (met : pool.LeavesEnd t) (u : T) : ((pool.getIoContext t).calls u).Bound := by
  have own := bound t
  cases now : pool.calls t with
  | idle =>
      rw [LeavesEnd, now] at met
      rw [getIoContext_idle now]
      refine forall_setCall GetPc.Bound bound ?_ u
      exact isSome_ioContexts.mpr (lt_size back met)
  | increment io =>
      rw [now] at own
      rw [getIoContext_increment now]
      refine forall_setCall GetPc.Bound bound ?_ u
      exact own
  | compare io =>
      rw [now] at own
      by_cases full : pool.nextContextIndex = pool.size
      · rw [getIoContext_compare_eq now full]
        refine forall_setCall GetPc.Bound bound ?_ u
        exact own
      · rw [getIoContext_compare_ne now full]
        refine forall_setCall GetPc.Bound bound ?_ u
        exact trivial
  | reset io =>
      rw [getIoContext_reset now]
      refine forall_setCall GetPc.Bound bound ?_ u
      exact trivial

end Step

/-- What the steps that leave the end to each other keep. -/
structure Kept (poolSize : UInt64) (p : CIoContextPool T × List PoolEvent) : Prop where
  size : p.1.size = poolSize
  back : p.1.ComesBack
  accessed : ∀ index, .access index ∈ p.2 → index < p.1.size
  bound : ∀ t, (p.1.calls t).Bound
  returned : ∀ io, .returns io ∈ p.2 → io.isSome = true

/-- No call will take the index back from behind the contexts, nor can `k` increments
carry it around. -/
structure Stray (k : Nat) (pool : CIoContextPool T) : Prop where
  behind : pool.size < pool.nextContextIndex
  far : pool.nextContextIndex.toNat + k < UInt64.size
  noReset : ∀ t, (pool.calls t).resets = false

section Runs

variable {poolSize : UInt64} {p q : CIoContextPool T × List PoolEvent} {t : T} {k : Nat}

theorem Kept.inRange (kept : Kept poolSize p) : InRange p :=
  ⟨kept.accessed, lt_size_of_quiet kept.back⟩

theorem kept_new (nonempty : 0 < poolSize) :
    Kept poolSize ((new poolSize, []) : CIoContextPool T × List PoolEvent) where
  size := size_new poolSize
  back behind := by
    rw [size_new] at behind
    exact absurd nonempty (UInt64.not_lt.mpr behind)
  accessed := by simp
  bound _ := trivial
  returned := by simp

theorem Stray.not_inRange (stray : Stray k p.1) (quiet : p.1.Quiet) : ¬ InRange p := by
  intro inRange
  exact absurd stray.behind (UInt64.not_lt.mpr (UInt64.le_of_lt (inRange.2 quiet)))

variable [DecidableEq T]

theorem eq_of_step (taken : step p t = some q) :
    q = (p.1.getIoContext t, p.2 ++ p.1.observe t) :=
  (Option.some.inj taken).symm

theorem kept_step (nonempty : 0 < poolSize) (kept : Kept poolSize p) (met : p.1.LeavesEnd t)
    (taken : step p t = some q) : Kept poolSize q := by
  obtain rfl := eq_of_step taken
  refine ⟨?_, ?_, ?_, ?_, ?_⟩
  · rw [size_getIoContext, kept.size]
  · exact comesBack_getIoContext (kept.size ▸ nonempty) kept.back met
  · intro index shown
    rw [size_getIoContext]
    rcases List.mem_append.mp shown with before | last
    · exact kept.accessed index before
    · obtain ⟨now, rfl⟩ := access_mem_observe last
      rw [LeavesEnd, now] at met
      exact lt_size kept.back met
  · exact bound_getIoContext kept.bound kept.back met
  · intro io shown
    rcases List.mem_append.mp shown with before | last
    · exact kept.returned io before
    · have own := kept.bound t
      rcases returns_mem_observe last with now | now
      · rwa [now] at own
      · rwa [now] at own

theorem stray_step (stray : Stray (k + 1) p.1) (taken : step p t = some q) : Stray k q.1 := by
  obtain rfl := eq_of_step taken
  have behind := stray.behind
  have far := stray.far
  cases now : p.1.calls t with
  | idle =>
      rw [getIoContext_idle now]
      exact ⟨behind, by rw [nextContextIndex_setCall]; omega, noReset_setCall stray.noReset rfl⟩
  | increment io =>
      rw [getIoContext_increment now]
      have grown := toNat_add_one p.1.nextContextIndex (by omega)
      refine ⟨?_, ?_, noReset_setCall stray.noReset rfl⟩
      · rw [UInt64.lt_iff_toNat_lt] at behind ⊢
        change p.1.size.toNat < (p.1.nextContextIndex + 1).toNat
        omega
      · change (p.1.nextContextIndex + 1).toNat + k < _
        omega
  | compare io =>
      rw [getIoContext_compare_ne now (UInt64.ne_of_lt behind).symm]
      exact ⟨behind, by rw [nextContextIndex_setCall]; omega, noReset_setCall stray.noReset rfl⟩
  | reset io =>
      have := stray.noReset t
      simp [now, GetPc.resets] at this

/-- A step that does not leave the end accesses an element behind the contexts, or takes
the index past their size with no reset to come. -/
theorem stray_of_unmet (kept : Kept poolSize p) (room : poolSize.toNat + (k + 1) < UInt64.size)
    (unmet : ¬ p.1.LeavesEnd t) (taken : step p t = some q) (inRange : InRange q) :
    Stray k q.1 := by
  obtain rfl := eq_of_step taken
  cases now : p.1.calls t with
  | idle =>
      rw [LeavesEnd, now, not_not] at unmet
      have accessed : .access p.1.nextContextIndex ∈ p.2 ++ p.1.observe t := by
        simp [observe, now]
      have inside := inRange.1 _ accessed
      rw [size_getIoContext] at inside
      exact absurd inside (UInt64.not_lt.mpr (le_of_resetDue unmet))
  | increment io =>
      rw [LeavesEnd, now] at unmet
      obtain ⟨full, none⟩ := Classical.not_imp.mp unmet
      have atSize : p.1.nextContextIndex.toNat = poolSize.toNat := by rw [full, kept.size]
      have grown := toNat_add_one p.1.nextContextIndex (by omega)
      have noReset : ∀ u, (p.1.calls u).resets = false := by
        intro u
        rw [← Bool.not_eq_true]
        exact fun resets => none ⟨u, resets⟩
      rw [getIoContext_increment now]
      refine ⟨?_, ?_, noReset_setCall noReset rfl⟩
      · rw [UInt64.lt_iff_toNat_lt]
        change p.1.size.toNat < (p.1.nextContextIndex + 1).toNat
        rw [grown, full]
        exact Nat.lt_succ_self _
      · change (p.1.nextContextIndex + 1).toNat + k < _
        omega
  | compare io => simp [LeavesEnd, now] at unmet
  | reset io => simp [LeavesEnd, now] at unmet

/-- Every call that returns has one of the contexts. -/
theorem returned_along_of_leavesEnd (nonempty : 0 < poolSize) {ts : List T}
    (meets : System.Meets step (fun p t => p.1.LeavesEnd t) (new poolSize, []) ts) :
    System.Along step (fun p => ∀ io, .returns io ∈ p.2 → io.isSome = true)
      (new poolSize, []) ts :=
  System.along_of_meets (fun _ _ _ => kept_step nonempty) (fun _ kept => kept.returned)
    (kept_new nonempty) meets

/-- The accesses stay inside the pool, and the index comes back there, in every run whose
calls leave its end to each other. A run that ends with no call in progress, and is too
short to carry the index around, cannot do without. -/
theorem inRange_along_of_leavesEnd (nonempty : 0 < poolSize) (ts : List T) :
    (System.Meets step (fun p t => p.1.LeavesEnd t) (new poolSize, []) ts →
        System.Along step InRange (new poolSize, []) ts) ∧
      ∀ p, System.runSteps step (new poolSize, []) ts = some p → p.1.Quiet →
        poolSize.toNat + ts.length < UInt64.size →
        System.Along step InRange (new poolSize, []) ts →
        System.Meets step (fun p t => p.1.LeavesEnd t) (new poolSize, []) ts := by
  have keep : ∀ (p : CIoContextPool T × List PoolEvent) t q, Kept poolSize p →
      p.1.LeavesEnd t → step p t = some q → Kept poolSize q := by
    intro p t q kept met taken
    exact kept_step nonempty kept met taken
  constructor
  · intro meets
    exact System.along_of_meets keep (fun p kept => kept.inRange) (kept_new nonempty) meets
  · intro p run quiet room along
    have lost : ∀ (p : CIoContextPool T × List PoolEvent) t q k, Kept poolSize p →
        ¬ p.1.LeavesEnd t → step p t = some q → InRange q → k < ts.length → Stray k q.1 := by
      intro p t q k kept unmet taken inRange short
      exact stray_of_unmet kept (by omega) unmet taken inRange
    have never : ∀ p : CIoContextPool T × List PoolEvent,
        Stray 0 p.1 → p.1.Quiet → ¬ InRange p := by
      intro p stray still
      exact stray.not_inRange still
    exact System.meets_of_along keep lost (fun _ _ _ _ => stray_step) never
      (kept_new nonempty) le_rfl run quiet along

end Runs

/-- Two calls that overlap in a pool of two: both take the index a step further, and both
find it at the end. -/
theorem inRange_along_overlapping :
    System.Along step InRange (new 2, []) ([0, 1, 0, 1, 0, 1, 0, 1] : List (Fin 2)) := by
  refine (inRange_along_of_leavesEnd (by decide) _).1 ?_
  have sound : ∀ (p : CIoContextPool (Fin 2) × List PoolEvent) t,
      decide (p.1.LeavesEnd t) = true → p.1.LeavesEnd t := by
    intro p t
    exact of_decide_eq_true
  exact System.meets_of_testedSteps sound (by decide)

/-- The same two calls in a pool of one: none of them finds the index at the end. -/
def overlappingRun : List (Fin 2) := [0, 1, 0, 1, 0, 1]

/-- Both calls have returned and have left the index past the pool. -/
theorem not_always_inRange :
    (System.runSteps step (new 1, []) overlappingRun).map
        (fun p => (p.1.size, p.1.nextContextIndex, p.1.calls 0, p.1.calls 1)) =
          some (1, 2, .idle, .idle) ∧
      ¬ System.Along step InRange (new 1, []) overlappingRun := by
  have shown : (System.runSteps step (new 1, []) overlappingRun).map
      (fun p => (p.1.size, p.1.nextContextIndex, p.1.calls 0, p.1.calls 1)) =
        some (1, 2, .idle, .idle) := by decide
  refine ⟨shown, ?_⟩
  intro along
  obtain ⟨p, run, seen⟩ := Option.map_eq_some_iff.mp shown
  simp only [Prod.mk.injEq] at seen
  obtain ⟨size, index, idle₀, idle₁⟩ := seen
  have quiet : p.1.Quiet := Fin.forall_fin_two.mpr ⟨idle₀, idle₁⟩
  have inside := (along.last run).2 quiet
  rw [size, index] at inside
  exact absurd inside (by decide)

end CIoContextPool

end NatProxy
