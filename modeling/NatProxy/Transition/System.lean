import Mathlib.Logic.Relation
import Mathlib.Data.List.Basic

/-!
# Labelled transition systems

A system is a set of starting states and a labelled step relation. The labels
are the choices that the system does not make itself: which party moves next
and what its environment answers. Every property below is about arbitrary
finite runs, so a fact proved of `Reachable` states holds for every order of
the labels.

`restrict` keeps the steps that meet a condition on the state before the step.
A result about the restricted system is a result about the runs of the original
one whose steps all meet that condition. `Mapping` relates a system to a more
abstract one: each step is matched by an abstract step or leaves the abstract
state unchanged.
-/

namespace Transition

universe u v

/-- Starting states and labelled steps. -/
structure System (σ : Type u) (α : Type v) where
  start : σ → Prop
  step : σ → α → σ → Prop

namespace System

variable {σ τ : Type u} {α β : Type v}

/-- The system of an executable step function: a label that is not enabled has
no result. -/
def ofStep (start : σ → Prop) (next : σ → α → Option σ) : System σ α where
  start := start
  step s a t := next s a = some t

@[simp] theorem ofStep_step {start : σ → Prop} {next : σ → α → Option σ} {s t : σ} {a : α} :
    (ofStep start next).step s a t ↔ next s a = some t := Iff.rfl

@[simp] theorem ofStep_start {start : σ → Prop} {next : σ → α → Option σ} {s : σ} :
    (ofStep start next).start s ↔ start s := Iff.rfl

/-- Keep only the steps whose state and label meet `C`. -/
def restrict (M : System σ α) (C : σ → α → Prop) : System σ α where
  start := M.start
  step s a t := C s a ∧ M.step s a t

@[simp] theorem restrict_step {M : System σ α} {C : σ → α → Prop} {s t : σ} {a : α} :
    (M.restrict C).step s a t ↔ C s a ∧ M.step s a t := Iff.rfl

@[simp] theorem restrict_start {M : System σ α} {C : σ → α → Prop} {s : σ} :
    (M.restrict C).start s ↔ M.start s := Iff.rfl

/-- A finite run through the given labels. -/
inductive Exec (M : System σ α) : σ → List α → σ → Prop
  | nil (s : σ) : Exec M s [] s
  | cons {s t r : σ} {a : α} {as : List α} :
      M.step s a t → Exec M t as r → Exec M s (a :: as) r

/-- A state that some finite run from a starting state ends in. -/
inductive Reachable (M : System σ α) : σ → Prop
  | start {s : σ} : M.start s → Reachable M s
  | next {s t : σ} {a : α} : Reachable M s → M.step s a t → Reachable M t

theorem Exec.reachable {M : System σ α} {s t : σ} {as : List α}
    (run : M.Exec s as t) (first : M.Reachable s) : M.Reachable t := by
  induction run with
  | nil => exact first
  | cons step _ ih => exact ih (first.next step)

/-- A predicate that holds initially and is preserved by every step from a
reachable state holds in every reachable state. Facts already proved of
reachable states may be used in the step. -/
theorem Reachable.invariant {M : System σ α} {I : σ → Prop}
    (init : ∀ s, M.start s → I s)
    (preserved : ∀ s a t, M.Reachable s → I s → M.step s a t → I t)
    {s : σ} (reached : M.Reachable s) : I s := by
  induction reached with
  | start first => exact init _ first
  | next before step ih => exact preserved _ _ _ before ih step

/-- More starting states and more steps reach more states. -/
theorem Reachable.mono {M N : System σ α} {s : σ} (reached : M.Reachable s)
    (start : ∀ s, M.start s → N.start s) (step : ∀ s a t, M.step s a t → N.step s a t) :
    N.Reachable s := by
  induction reached with
  | start first => exact .start (start _ first)
  | next _ taken ih => exact ih.next (step _ _ _ taken)

theorem Reachable.of_restrict {M : System σ α} {C : σ → α → Prop} {s : σ}
    (reached : (M.restrict C).Reachable s) : M.Reachable s :=
  reached.mono (fun _ first => first) fun _ _ _ step => step.2

/-- Run an executable step function through a list of labels. -/
def runSteps (next : σ → α → Option σ) : σ → List α → Option σ
  | s, [] => some s
  | s, a :: as => (next s a).bind fun t => runSteps next t as

theorem exec_of_runSteps {start : σ → Prop} {next : σ → α → Option σ} {s t : σ}
    {as : List α} (run : runSteps next s as = some t) : (ofStep start next).Exec s as t := by
  induction as generalizing s with
  | nil =>
      obtain rfl : s = t := Option.some.inj run
      exact .nil s
  | cons a as ih =>
      obtain ⟨middle, first, rest⟩ := Option.bind_eq_some_iff.mp run
      exact .cons first (ih rest)

/-- A label that is enabled, and lowers the rank, wherever `I` holds short of `done`, leads
to `done` when it is repeated. -/
theorem exists_repeat {next : σ → α → Option σ} {a : α} {I done : σ → Prop} {rank : σ → Nat}
    (goes : ∀ s, I s → ¬ done s → ∃ t, next s a = some t ∧ I t ∧ rank t < rank s)
    {s : σ} (hi : I s) :
    ∃ n t, n ≤ rank s ∧ runSteps next s (List.replicate n a) = some t ∧ I t ∧ done t := by
  induction h : rank s using Nat.strongRecOn generalizing s with
  | _ r ih =>
      subst h
      by_cases now : done s
      · exact ⟨0, s, Nat.zero_le _, rfl, hi, now⟩
      · obtain ⟨middle, first, hm, less⟩ := goes s hi now
        obtain ⟨n, t, le, rest, ht, there⟩ := ih (rank middle) less hm rfl
        refine ⟨n + 1, t, Nat.lt_of_le_of_lt le less, ?_, ht, there⟩
        rw [List.replicate_succ, runSteps, first]
        exact rest

/-- If each step with one of the `own` labels uses up one of the `r s` that are left, and no
other step adds to them, then a run has at most that many of these labels. -/
theorem countP_le_rank {next : σ → α → Option σ} {own : α → Bool} {I : σ → Prop} {r : σ → Nat}
    (pays : ∀ s a t, I s → next s a = some t → I t ∧ (if own a then 1 else 0) + r t ≤ r s)
    {s t : σ} {as : List α} (hi : I s) (run : runSteps next s as = some t) :
    I t ∧ as.countP own + r t ≤ r s := by
  induction as generalizing s with
  | nil =>
      obtain rfl : s = t := Option.some.inj run
      exact ⟨hi, Nat.le_of_eq (Nat.zero_add _)⟩
  | cons a as ih =>
      obtain ⟨middle, first, rest⟩ := Option.bind_eq_some_iff.mp run
      obtain ⟨hm, paid⟩ := pays s a middle hi first
      obtain ⟨ht, later⟩ := ih hm rest
      refine ⟨ht, ?_⟩
      rw [List.countP_cons]
      omega

/-- Executing a list of labels from a starting state reaches its result. -/
theorem reachable_of_runSteps {start : σ → Prop} {next : σ → α → Option σ} {s t : σ}
    {as : List α} (first : start s) (run : runSteps next s as = some t) :
    (ofStep start next).Reachable t :=
  (exec_of_runSteps run).reachable (.start first)

/-- Executing a list of labels shows that a state with `P` is reachable. -/
theorem reachable_of_check {P : σ → Prop} {start : σ → Prop} {next : σ → α → Option σ} {s : σ}
    {as : List α} (first : start s) (check : ∃ t ∈ runSteps next s as, P t) :
    ∃ t, (ofStep start next).Reachable t ∧ P t := by
  obtain ⟨t, run, found⟩ := check
  exact ⟨t, reachable_of_runSteps first run, found⟩

/-- From a state of a restricted system, with a test that decides enough of the condition. -/
theorem Reachable.testedSteps {C : σ → α → Prop} {test : σ → α → Bool}
    (sound : ∀ s a, test s a = true → C s a) {P : σ → Prop} {start : σ → Prop}
    {next : σ → α → Option σ} {s : σ} {as : List α}
    (reached : ((ofStep start next).restrict C).Reachable s)
    (check : ∃ t ∈ runSteps (fun s a => if test s a then next s a else none) s as, P t) :
    ∃ t, ((ofStep start next).restrict C).Reachable t ∧ P t := by
  obtain ⟨t, run, found⟩ := check
  induction as generalizing s with
  | nil =>
      obtain rfl := Option.some.inj run
      exact ⟨s, reached, found⟩
  | cons a as ih =>
      obtain ⟨middle, tried, rest⟩ := Option.bind_eq_some_iff.mp run
      obtain ⟨tested, step⟩ := Option.ite_none_right_eq_some.mp tried
      exact ih (reached.next ⟨sound s a tested, step⟩) rest

/-- The same from the start. -/
theorem reachable_of_testedSteps {C : σ → α → Prop} {test : σ → α → Bool}
    (sound : ∀ s a, test s a = true → C s a) {P : σ → Prop} {start : σ → Prop}
    {next : σ → α → Option σ} {s : σ} {as : List α} (first : start s)
    (check : ∃ t ∈ runSteps (fun s a => if test s a then next s a else none) s as, P t) :
    ∃ t, ((ofStep start next).restrict C).Reachable t ∧ P t :=
  (Reachable.start first).testedSteps sound check

/-- `P` holds in every state that the labels pass through, both ends included. A
run stops at the first label that is not enabled. -/
def Along (next : σ → α → Option σ) (P : σ → Prop) : σ → List α → Prop
  | s, [] => P s
  | s, a :: as => P s ∧ ∀ t, next s a = some t → Along next P t as

/-- `C` holds of every step that the labels take. -/
def Meets (next : σ → α → Option σ) (C : σ → α → Prop) : σ → List α → Prop
  | _, [] => True
  | s, a :: as => ∀ t, next s a = some t → C s a ∧ Meets next C t as

theorem Along.first {next : σ → α → Option σ} {P : σ → Prop} {s : σ} {as : List α}
    (along : Along next P s as) : P s := by
  cases as with
  | nil => exact along
  | cons _ _ => exact along.1

theorem Along.last {next : σ → α → Option σ} {P : σ → Prop} {s t : σ} {as : List α}
    (along : Along next P s as) (run : runSteps next s as = some t) : P t := by
  induction as generalizing s with
  | nil =>
      obtain rfl : s = t := Option.some.inj run
      exact along
  | cons a as ih =>
      obtain ⟨middle, first, rest⟩ := Option.bind_eq_some_iff.mp run
      exact ih (along.2 middle first) rest

/-- If each step that meets `C` keeps an invariant with `P`, then `P` holds all along
a run whose steps meet `C`. -/
theorem along_of_meets {next : σ → α → Option σ} {I P : σ → Prop} {C : σ → α → Prop}
    (keep : ∀ s a t, I s → C s a → next s a = some t → I t) (holds : ∀ s, I s → P s)
    {s : σ} (hi : I s) {as : List α} (meets : Meets next C s as) : Along next P s as := by
  induction as generalizing s with
  | nil => exact holds s hi
  | cons a as ih =>
      refine ⟨holds s hi, fun t step => ?_⟩
      obtain ⟨met, later⟩ := meets t step
      exact ih (keep s a t hi met step) later

/-- If a step that does not meet `C` loses `P` at once, or in such a way that no later
step brings it back, then all steps of a run meet `C` if `P` holds all along it and the
run is final. `Lost k` says that `P` does not come back within `k` steps. -/
theorem meets_of_along {next : σ → α → Option σ} {I P final : σ → Prop} {C : σ → α → Prop}
    {Lost : Nat → σ → Prop} {n : Nat}
    (keep : ∀ s a t, I s → C s a → next s a = some t → I t)
    (lost : ∀ s a t k, I s → ¬ C s a → next s a = some t → P t → k < n → Lost k t)
    (stays : ∀ s a t k, Lost (k + 1) s → next s a = some t → Lost k t)
    (never : ∀ t, Lost 0 t → final t → ¬ P t)
    {s t : σ} {as : List α} (hi : I s) (short : as.length ≤ n)
    (run : runSteps next s as = some t) (done : final t) (along : Along next P s as) :
    Meets next C s as := by
  have gone : ∀ (as : List α) (s : σ), Lost as.length s → runSteps next s as = some t →
      Lost 0 t := by
    intro as
    induction as with
    | nil =>
        intro s now run
        obtain rfl : s = t := Option.some.inj run
        exact now
    | cons a as ih =>
        intro s now run
        obtain ⟨middle, first, rest⟩ := Option.bind_eq_some_iff.mp run
        exact ih middle (stays s a middle _ now first) rest
  induction as generalizing s with
  | nil => trivial
  | cons a as ih =>
      obtain ⟨middle, first, rest⟩ := Option.bind_eq_some_iff.mp run
      rw [List.length_cons] at short
      have later := along.2 middle first
      have met : C s a := by
        by_contra unmet
        have now := lost s a middle as.length hi unmet first later.first (by omega)
        exact never t (gone as middle now rest) done (later.last rest)
      intro other step
      obtain rfl := Option.some.inj (first.symm.trans step)
      exact ⟨met, ih (keep s a middle hi met first) (by omega) rest later⟩

/-- A run each of whose steps passes a test. -/
theorem meets_of_testedSteps {next : σ → α → Option σ} {C : σ → α → Prop} {test : σ → α → Bool}
    (sound : ∀ s a, test s a = true → C s a) {s : σ} {as : List α}
    (check : (runSteps (fun s a => if test s a then next s a else none) s as).isSome = true) :
    Meets next C s as := by
  induction as generalizing s with
  | nil => trivial
  | cons a as ih =>
      obtain ⟨t, run⟩ := Option.isSome_iff_exists.mp check
      obtain ⟨middle, tried, rest⟩ := Option.bind_eq_some_iff.mp run
      obtain ⟨tested, first⟩ := Option.ite_none_right_eq_some.mp tried
      intro other step
      obtain rfl := Option.some.inj (first.symm.trans step)
      exact ⟨sound s a tested, ih (Option.isSome_iff_exists.mpr ⟨t, rest⟩)⟩

/-- If each step from a state with `W` and `P` keeps `P` exactly when it meets
`C`, then `P` holds all along a run exactly when all its steps meet `C`. `W` is
an invariant of every run, whether or not its steps meet `C`. -/
theorem along_iff_meets {next : σ → α → Option σ} {W P : σ → Prop} {C : σ → α → Prop}
    (keep : ∀ s a t, W s → next s a = some t → W t)
    (exact_step : ∀ s a t, W s → P s → next s a = some t → (P t ↔ C s a))
    {s : σ} (hw : W s) (hp : P s) (as : List α) :
    Along next P s as ↔ Meets next C s as := by
  induction as generalizing s with
  | nil => exact iff_of_true hp trivial
  | cons a as ih =>
      constructor
      · rintro ⟨_, later⟩ t step
        have along := later t step
        have met := (exact_step s a t hw hp step).mp along.first
        exact ⟨met, (ih (keep s a t hw step) along.first).mp along⟩
      · intro meets
        refine ⟨hp, fun t step => ?_⟩
        obtain ⟨met, later⟩ := meets t step
        have hpt := (exact_step s a t hw hp step).mpr met
        exact (ih (keep s a t hw step) hpt).mpr later

end System

/-- `f` maps every step of `M` to a step of `N` with the same label or to no
change of the abstract state. -/
structure Mapping {σ τ : Type u} {α : Type v} (M : System σ α) (N : System τ α)
    (f : σ → τ) : Prop where
  start : ∀ s, M.start s → N.start (f s)
  step : ∀ s a t, M.Reachable s → M.step s a t → f t = f s ∨ N.step (f s) a (f t)

namespace Mapping

variable {σ τ : Type u} {α : Type v} {M : System σ α} {N : System τ α} {f : σ → τ}

/-- Reachable states are mapped to reachable states, so invariants of the
abstract system hold of the images. -/
theorem reachable (map : Mapping M N f) {s : σ} (reached : M.Reachable s) :
    N.Reachable (f s) := by
  induction reached with
  | start first => exact .start (map.start _ first)
  | next before step ih =>
      obtain same | abstract := map.step _ _ _ before step
      · rwa [same]
      · exact ih.next abstract

/-- Reachability under a condition on the abstract steps is preserved as well. -/
theorem reachable_restrict (map : Mapping M N f) {D : τ → α → Prop} {s : σ}
    (reached : (M.restrict fun s a => D (f s) a).Reachable s) :
    (N.restrict D).Reachable (f s) := by
  induction reached with
  | start first => exact .start (map.start _ first)
  | next before step ih =>
      obtain same | abstract := map.step _ _ _ before.of_restrict step.2
      · rwa [same]
      · exact ih.next ⟨step.1, abstract⟩

end Mapping

/-- The maximal run of a deterministic transition function: `Settles next s t`
says that steps from `s` lead to `t`, where no step is possible. -/
inductive Settles {σ : Type u} (next : σ → Option σ) : σ → σ → Prop
  | done {s : σ} : next s = none → Settles next s s
  | step {s t r : σ} : next s = some t → Settles next t r → Settles next s r

namespace Settles

variable {σ : Type u} {next : σ → Option σ} {s t r : σ}

/-- A deterministic run has one final state. -/
theorem unique (left : Settles next s t) (right : Settles next s r) : t = r := by
  induction left with
  | done stuck =>
      cases right with
      | done => rfl
      | step first => simp [stuck] at first
  | step first _ ih =>
      cases right with
      | done stuck => simp [stuck] at first
      | step second rest =>
          obtain rfl := Option.some.inj (first.symm.trans second)
          exact ih rest

end Settles

end Transition
