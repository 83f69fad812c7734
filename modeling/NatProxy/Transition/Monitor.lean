import Mathlib.Logic.Function.Basic

/-!
# Monitors

A mutex with a condition variable. `wait` gives the mutex up and falls asleep in one step;
after a notification, or without one, the thread has to take the mutex again.

`Woken` is what a correct use of the condition keeps: when what the sleepers wait for has
come true, some thread is on its way to notify them. `Woken.step` derives it from what
one step does to the sleepers, to the condition and to the threads under way.
-/

namespace Transition

universe u v w

/-- Who holds the mutex, and who sleeps in `wait`. -/
structure Monitor (T : Type u) where
  owner : Option T
  asleep : T → Bool

namespace Monitor

variable {T : Type u}

def free : Monitor T := ⟨none, fun _ => false⟩

/-- The mutex is taken by one thread at a time. -/
def lock (m : Monitor T) (t : T) : Option (Monitor T) :=
  match m.owner with
  | none => some { m with owner := some t }
  | some _ => none

def unlock (m : Monitor T) : Monitor T := { m with owner := none }

def notifyAll (m : Monitor T) : Monitor T := { m with asleep := fun _ => false }

theorem lock_eq_some_iff {m m' : Monitor T} {t : T} :
    m.lock t = some m' ↔ m.owner = none ∧ m' = { m with owner := some t } := by
  rw [lock]
  cases m.owner with
  | none => simp [eq_comm]
  | some u => simp

/-- The threads that are between `lock` and `unlock` are the owner. -/
def Guards (m : Monitor T) (inside : T → Bool) : Prop :=
  ∀ t, m.owner = some t ↔ inside t = true

theorem Guards.unique {m : Monitor T} {inside : T → Bool} (h : m.Guards inside) {t u : T}
    (one : inside t = true) (other : inside u = true) : t = u :=
  Option.some.inj (((h t).mpr one).symm.trans ((h u).mpr other))

variable [DecidableEq T]

/-- `wait` up to its sleep. -/
def wait (m : Monitor T) (t : T) : Monitor T := ⟨none, Function.update m.asleep t true⟩

/-- The thread wakes up, notified or not. -/
def wake (m : Monitor T) (t : T) : Monitor T :=
  { m with asleep := Function.update m.asleep t false }

theorem asleep_wait {m : Monitor T} {t u : T} (sleeps : (m.wait t).asleep u = true) :
    u = t ∨ m.asleep u = true := by
  by_cases eq : u = t
  · exact .inl eq
  · simp only [wait, Function.update_of_ne eq] at sleeps
    exact .inr sleeps

theorem asleep_wake {m : Monitor T} {t u : T} (sleeps : (m.wake t).asleep u = true) :
    u ≠ t ∧ m.asleep u = true := by
  by_cases eq : u = t
  · subst eq
    simp [wake] at sleeps
  · simp only [wake, Function.update_of_ne eq] at sleeps
    exact ⟨eq, sleeps⟩

namespace Guards

variable {m m' : Monitor T} {inside : T → Bool} {t : T}

/-- The thread stays where it is. -/
theorem keep (h : m.Guards inside) {b : Bool} (same : b = inside t) :
    m.Guards (Function.update inside t b) := by
  rw [same, Function.update_eq_self]
  exact h

theorem lock (h : m.Guards inside) (taken : m.lock t = some m') :
    m'.Guards (Function.update inside t true) := by
  obtain ⟨free, rfl⟩ := lock_eq_some_iff.mp taken
  intro u
  by_cases eq : u = t
  · subst eq
    simp
  · have outside : ¬ inside u = true := by
      rw [← h u, free]
      rintro ⟨⟩
    rw [Function.update_of_ne eq]
    exact iff_of_false (fun same => eq (Option.some.inj same).symm) outside

theorem leave (h : m.Guards inside) (here : inside t = true) (free : m'.owner = none) :
    m'.Guards (Function.update inside t false) := by
  intro u
  rw [free]
  by_cases eq : u = t
  · subst eq
    simp
  · rw [Function.update_of_ne eq]
    refine iff_of_false nofun fun other => eq ?_
    exact h.unique other here

end Guards

end Monitor

section Woken

variable {σ : Type u} {T : Type v} {U : Type w}

/-- If what the sleepers wait for is true, then some thread still owes its notification. -/
def Woken (asleep : σ → T → Prop) (ready : σ → Prop) (owes : σ → U → Prop) (s : σ) : Prop :=
  ∀ t, asleep s t → ready s → ∃ u, owes s u

variable {asleep : σ → T → Prop} {ready : σ → Prop} {owes : σ → U → Prop} {s s' : σ}

/-- A thread falls asleep only when there is nothing to wait for, a step that makes it true
leaves a thread that owes its notification, and this thread wakes up all. -/
theorem Woken.step (h : Woken asleep ready owes s)
    (sleeps : ∀ t, asleep s' t → asleep s t ∨ ¬ ready s')
    (rises : ready s' → ready s ∨ ∃ u, owes s' u)
    (pays : ∀ u, owes s u → owes s' u ∨ ∀ t, ¬ asleep s' t) : Woken asleep ready owes s' := by
  intro t asleep' now
  obtain before | nothing := sleeps t asleep'
  · obtain was | owing := rises now
    · obtain ⟨u, owed⟩ := h t before was
      obtain still | none := pays u owed
      · exact ⟨u, still⟩
      · exact absurd asleep' (none t)
    · exact owing
  · exact absurd now nothing

/-- When nobody is under way, sleepers have nothing to do. -/
theorem Woken.not_ready (h : Woken asleep ready owes s) {t : T} (sleeping : asleep s t)
    (quiet : ∀ u, ¬ owes s u) : ¬ ready s := by
  intro now
  obtain ⟨u, owed⟩ := h t sleeping now
  exact quiet u owed

end Woken

end Transition
