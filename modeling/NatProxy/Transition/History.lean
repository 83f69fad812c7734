import Mathlib.Data.List.Induction
import Mathlib.Order.Monotone.Defs
import Mathlib.Order.Nat
import NatProxy.Transition.System

/-!
# Histories

`logged` runs a system next to a log of what an observer sees of its steps. The
log is a function of the run and does not influence it, so a fact about the
reachable pairs is a fact about the runs of the original system: how often a kind
of step was taken, or in which order some data passed.
-/

namespace Transition

universe u v w

namespace System

variable {σ τ : Type u} {α : Type v} {β : Type w}

/-- Record what each step shows. -/
def logged (M : System σ α) (obs : σ → α → List β) : System (σ × List β) α where
  start p := M.start p.1 ∧ p.2 = []
  step p a q := M.step p.1 a q.1 ∧ q.2 = p.2 ++ obs p.1 a

variable {M : System σ α} {obs : σ → α → List β}

@[simp] theorem logged_start {p : σ × List β} :
    (M.logged obs).start p ↔ M.start p.1 ∧ p.2 = [] := Iff.rfl

@[simp] theorem logged_step {p q : σ × List β} {a : α} :
    (M.logged obs).step p a q ↔ M.step p.1 a q.1 ∧ q.2 = p.2 ++ obs p.1 a := Iff.rfl

/-- The log can be forgotten. -/
theorem Reachable.of_logged {p : σ × List β} (reached : (M.logged obs).Reachable p) :
    M.Reachable p.1 := by
  induction reached with
  | start first => exact .start first.1
  | next _ step ih => exact ih.next step.1

/-- Every run has a log. -/
theorem Reachable.exists_log (obs : σ → α → List β) {s : σ} (reached : M.Reachable s) :
    ∃ log, (M.logged obs).Reachable (s, log) := by
  induction reached with
  | start first => exact ⟨[], .start ⟨first, rfl⟩⟩
  | next _ step ih =>
      obtain ⟨log, reached⟩ := ih
      exact ⟨_, reached.next ⟨step, rfl⟩⟩

/-- A property of a state and its log that every step keeps. -/
theorem Reachable.log_invariant {I : σ → List β → Prop}
    (init : ∀ s, M.start s → I s [])
    (preserved : ∀ s a t log, M.Reachable s → I s log → M.step s a t → I t (log ++ obs s a))
    {p : σ × List β} (reached : (M.logged obs).Reachable p) : I p.1 p.2 := by
  refine Reachable.invariant (I := fun p => I p.1 p.2) ?_ ?_ reached
  · rintro ⟨s, log⟩ ⟨first, rfl⟩
    exact init s first
  · rintro ⟨s, log⟩ a ⟨t, log'⟩ before h ⟨step, rfl⟩
    exact preserved s a t log before.of_logged h step

/-- The step function of an executable system with its log. -/
def logStep (next : σ → α → Option σ) (obs : σ → α → List β) (p : σ × List β) (a : α) :
    Option (σ × List β) :=
  (next p.1 a).map fun t => (t, p.2 ++ obs p.1 a)

/-- Executing a list of labels reaches a state with its log. -/
theorem logged_of_steps {start : σ → Prop} {next : σ → α → Option σ} {P : σ → List β → Prop}
    {s : σ} {as : List α} (first : start s)
    (check : ∃ p ∈ runSteps (logStep next obs) (s, []) as, P p.1 p.2) :
    ∃ t log, ((ofStep start next).logged obs).Reachable (t, log) ∧ P t log := by
  obtain ⟨⟨t, log⟩, reached, found⟩ : ∃ p, (ofStep (fun p => p = (s, []))
      (logStep next obs)).Reachable p ∧ P p.1 p.2 := reachable_of_check rfl check
  refine ⟨t, log, reached.mono ?_ ?_, found⟩
  · rintro p rfl
    exact ⟨first, rfl⟩
  · intro p a q step
    obtain ⟨r, taken, rfl⟩ := Option.map_eq_some_iff.mp step
    exact ⟨taken, rfl⟩

/-- Executing a list of labels, each of which passes a test, reaches a state with
its log. -/
theorem logged_of_testedSteps {C : σ → α → Prop} {test : σ → α → Bool}
    (sound : ∀ s a, test s a = true → C s a) {start : σ → Prop} {next : σ → α → Option σ}
    {P : σ → List β → Prop} {s : σ} {as : List α} (first : start s)
    (check : ∃ p ∈ runSteps
      (fun p a => if test p.1 a then logStep next obs p a else none) (s, []) as, P p.1 p.2) :
    ∃ t log, (((ofStep start next).restrict C).logged obs).Reachable (t, log) ∧ P t log := by
  obtain ⟨⟨t, log⟩, reached, found⟩ : ∃ p, (ofStep (fun p => p = (s, []))
      fun p a => if test p.1 a then logStep next obs p a else none).Reachable p ∧ P p.1 p.2 :=
    reachable_of_check rfl check
  refine ⟨t, log, reached.mono ?_ ?_, found⟩
  · rintro p rfl
    exact ⟨first, rfl⟩
  · intro p a q tried
    obtain ⟨tested, step⟩ := Option.ite_none_right_eq_some.mp tried
    obtain ⟨r, taken, rfl⟩ := Option.map_eq_some_iff.mp step
    exact ⟨⟨sound _ _ tested, taken⟩, rfl⟩

/-- If each step is matched by an abstract step that shows the same, or shows
nothing and leaves the abstract state unchanged, then the logs are the same. -/
theorem Reachable.map_logged {N : System τ α} {obs' : τ → α → List β} {f : σ → τ}
    (start : ∀ s, M.start s → N.start (f s))
    (step : ∀ s a t, M.Reachable s → M.step s a t →
      f t = f s ∧ obs s a = [] ∨ N.step (f s) a (f t) ∧ obs s a = obs' (f s) a)
    {s : σ} {log : List β} (reached : (M.logged obs).Reachable (s, log)) :
    (N.logged obs').Reachable (f s, log) := by
  refine reached.log_invariant (I := fun s log => (N.logged obs').Reachable (f s, log)) ?_ ?_
  · intro s first
    exact .start ⟨start s first, rfl⟩
  · intro s a t log before ih run
    obtain ⟨same, nothing⟩ | ⟨matched, shows⟩ := step s a t before run
    · rw [same, nothing, List.append_nil]
      exact ih
    · rw [shows]
      exact ih.next ⟨matched, rfl⟩

/-- `P` holds of each entry of a log and the entries before it. -/
def EachEntry (P : List β → β → Prop) (log : List β) : Prop :=
  ∀ before e after, log = before ++ e :: after → P before e

theorem eachEntry_nil (P : List β → β → Prop) : EachEntry P [] := by
  intro before e after split
  simp at split

theorem EachEntry.concat {P : List β → β → Prop} {log : List β} (h : EachEntry P log) {e : β}
    (last : P log e) : EachEntry P (log ++ [e]) := by
  intro before e' after split
  rcases List.eq_nil_or_concat after with rfl | ⟨rest, b, rfl⟩
  · obtain ⟨rfl, same⟩ := List.append_inj' split rfl
    obtain rfl := List.singleton_inj.mp same
    exact last
  · rw [List.concat_eq_append, ← List.cons_append, ← List.append_assoc] at split
    obtain ⟨rfl, _⟩ := List.append_inj' split rfl
    exact h before e' rest rfl

/-- Entries with `P` whatever comes before them. -/
theorem EachEntry.append {P : List β → β → Prop} {log es : List β} (h : EachEntry P log)
    (each : ∀ before, ∀ e ∈ es, P before e) : EachEntry P (log ++ es) := by
  induction es generalizing log with
  | nil =>
      rw [List.append_nil]
      exact h
  | cons e es ih =>
      rw [List.append_cons]
      refine ih (h.concat (each log e (List.mem_cons_self ..))) ?_
      intro before e' listed
      exact each before e' (List.mem_cons_of_mem e listed)

theorem eachEntry_concat_iff {P : List β → β → Prop} {log : List β} {e : β} :
    EachEntry P (log ++ [e]) ↔ EachEntry P log ∧ P log e := by
  constructor
  · intro h
    refine ⟨?_, h log e [] rfl⟩
    intro before e' after split
    exact h before e' (after ++ [e]) (by rw [split, List.append_assoc, List.cons_append])
  · rintro ⟨h, last⟩
    exact h.concat last

theorem runSteps_append {next : σ → α → Option σ} (s : σ) (as bs : List α) :
    runSteps next s (as ++ bs) = (runSteps next s as).bind fun t => runSteps next t bs := by
  induction as generalizing s with
  | nil => rfl
  | cons a as ih =>
      rw [List.cons_append, runSteps, runSteps, Option.bind_assoc]
      exact congrArg (next s a).bind (funext ih)

/-- A number that every step can only increase, followed through all prefixes of a
run. `P` holds in the states that the run passes through. -/
theorem exists_monotone {next : σ → α → Option σ} {P : σ → Prop} {R : σ → List α → Nat → Prop}
    {s : σ} (init : R s [] 0)
    (grows : ∀ t as k a r, P t → R t as k → next t a = some r → ∃ k', k ≤ k' ∧ R r (as ++ [a]) k')
    {as : List α} {t : σ} (run : runSteps next s as = some t)
    (holds : ∀ i ≤ as.length, ∀ r, runSteps next s (as.take i) = some r → P r) :
    ∃ k : Nat → Nat, Monotone k ∧
      ∀ i ≤ as.length, ∃ r, runSteps next s (as.take i) = some r ∧ R r (as.take i) (k i) := by
  induction as using List.reverseRecOn generalizing t with
  | nil =>
      refine ⟨fun _ => 0, fun _ _ _ => le_rfl, fun i _ => ?_⟩
      rw [List.take_nil]
      exact ⟨s, rfl, init⟩
  | append_singleton as a ih =>
      have short : ∀ i ≤ as.length, (as ++ [a]).take i = as.take i := by
        intro i le
        exact List.take_append_of_le_length le
      rw [runSteps_append] at run
      obtain ⟨middle, first, last⟩ := Option.bind_eq_some_iff.mp run
      obtain ⟨t', step, same⟩ := Option.bind_eq_some_iff.mp last
      obtain rfl := Option.some.inj same
      obtain ⟨k, mono, points⟩ := ih first (by
        intro i le r reached
        refine holds i (by rw [List.length_append]; omega) r ?_
        rwa [short i le])
      obtain ⟨r, reached, related⟩ := points as.length le_rfl
      rw [List.take_length] at reached related
      obtain rfl := Option.some.inj (first.symm.trans reached)
      have met : P middle := by
        refine holds as.length (by rw [List.length_append]; omega) middle ?_
        rw [short _ le_rfl, List.take_length]
        exact first
      obtain ⟨k', grown, related'⟩ := grows middle as _ a t' met related step
      -- the old numbers up to the old run, the new one from there on
      refine ⟨fun i => if i ≤ as.length then k i else k', ?_, ?_⟩
      · intro i j le
        by_cases hj : j ≤ as.length
        · simpa only [if_pos hj, if_pos (le.trans hj)] using mono le
        · by_cases hi : i ≤ as.length
          · simpa only [if_pos hi, if_neg hj] using (mono hi).trans grown
          · simp only [if_neg hi, if_neg hj, le_refl]
      · intro i le
        by_cases hi : i ≤ as.length
        · simp only [short i hi, if_pos hi]
          exact points i hi
        · have whole : (as ++ [a]).take i = as ++ [a] := by
            apply List.take_of_length_le
            rw [List.length_append, List.length_singleton]
            omega
          simp only [whole, if_neg hi, runSteps_append, first]
          exact ⟨t', last, related'⟩

end System

end Transition
