import Mathlib.Data.List.Basic

/-!
# Reading one symbol at a time

A reader takes a state and a symbol to the next state, or stops with a result.
`feed` reads until the reader stops, `collect` starts it again after every result.
What either of them finds in an input does not depend on how the input is cut into
pieces, so a program that gets its input in pieces of any size may be compared with
a reader that sees all of it at once.
-/

namespace Transition

universe u v w

/-- What a reader does with a symbol. -/
inductive Reading (σ : Type u) (ρ : Type v)
  | more (s : σ)
  | stop (r : ρ)

/-- How the reading of an input ends: in the middle, or with a result and the rest of
the input. -/
inductive Fed (σ : Type u) (ρ : Type v) (α : Type w)
  | more (s : σ)
  | stop (r : ρ) (rest : List α)

namespace Reader

variable {σ τ : Type u} {ρ : Type v} {α : Type w} {next : σ → α → Reading σ ρ}

/-- Read up to the first result. -/
def feed (next : σ → α → Reading σ ρ) : σ → List α → Fed σ ρ α
  | s, [] => .more s
  | s, a :: as =>
      match next s a with
      | .more t => feed next t as
      | .stop r => .stop r as

@[simp] theorem feed_nil (s : σ) : feed next s [] = .more s := rfl

theorem feed_cons_more {s t : σ} {a : α} (step : next s a = .more t) (as : List α) :
    feed next s (a :: as) = feed next t as := by
  rw [feed, step]

theorem feed_cons_stop {s : σ} {a : α} {r : ρ} (step : next s a = .stop r) (as : List α) :
    feed next s (a :: as) = .stop r as := by
  rw [feed, step]

/-- Go on with what the reader did with the last symbol. -/
def resume (next : σ → α → Reading σ ρ) : Reading σ ρ → List α → Fed σ ρ α
  | .more t, as => feed next t as
  | .stop r, as => .stop r as

theorem feed_cons (s : σ) (a : α) (as : List α) :
    feed next s (a :: as) = resume next (next s a) as := by
  rw [feed]
  cases next s a with
  | more t => rfl
  | stop r => rfl

theorem feed_append_of_more {s t : σ} {xs : List α} (first : feed next s xs = .more t)
    (ys : List α) : feed next s (xs ++ ys) = feed next t ys := by
  induction xs generalizing s with
  | nil =>
      obtain rfl : s = t := Fed.more.inj first
      rfl
  | cons a as ih =>
      rw [List.cons_append, feed_cons]
      rw [feed_cons] at first
      cases step : next s a with
      | more u =>
          rw [step] at first
          exact ih first
      | stop r =>
          rw [step] at first
          cases first

theorem feed_append_of_stop {s : σ} {r : ρ} {xs rest : List α}
    (first : feed next s xs = .stop r rest) (ys : List α) :
    feed next s (xs ++ ys) = .stop r (rest ++ ys) := by
  induction xs generalizing s with
  | nil => cases first
  | cons a as ih =>
      rw [List.cons_append, feed_cons]
      rw [feed_cons] at first
      cases step : next s a with
      | more u =>
          rw [step] at first
          exact ih first
      | stop r' =>
          rw [step] at first
          obtain ⟨rfl, rfl⟩ := Fed.stop.inj first
          rfl

/-- What a reader has left is the end of its input, and it has read something. -/
theorem exists_prefix_of_stop {s : σ} {r : ρ} {xs rest : List α}
    (stops : feed next s xs = .stop r rest) : ∃ a as, xs = a :: as ++ rest := by
  induction xs generalizing s with
  | nil => cases stops
  | cons a as ih =>
      rw [feed_cons] at stops
      cases step : next s a with
      | more u =>
          rw [step] at stops
          obtain ⟨b, bs, split⟩ := ih stops
          exact ⟨a, b :: bs, by rw [split]; rfl⟩
      | stop r' =>
          rw [step] at stops
          obtain ⟨rfl, rfl⟩ := Fed.stop.inj stops
          exact ⟨a, [], rfl⟩

theorem length_lt_of_stop {s : σ} {r : ρ} {xs rest : List α}
    (stops : feed next s xs = .stop r rest) : rest.length < xs.length := by
  obtain ⟨a, as, rfl⟩ := exists_prefix_of_stop stops
  rw [List.length_append, List.length_cons]
  omega

/-- A property of the state and of what has been read so far. -/
theorem feed_invariant {I : σ → List α → Prop}
    (keep : ∀ s a t read, I s read → next s a = .more t → I t (read ++ [a])) {s : σ}
    {read : List α} (hi : I s read) {xs : List α} :
    (∀ t, feed next s xs = .more t → I t (read ++ xs)) ∧
      ∀ r rest, feed next s xs = .stop r rest →
        ∃ t a before, xs = before ++ a :: rest ∧ I t (read ++ before) ∧ next t a = .stop r := by
  induction xs generalizing s read with
  | nil =>
      constructor
      · intro t same
        obtain rfl : s = t := Fed.more.inj same
        rwa [List.append_nil]
      · intro r rest stops
        cases stops
  | cons a as ih =>
      rw [feed_cons]
      cases step : next s a with
      | more u =>
          obtain ⟨reads, stops⟩ := ih (keep s a u read hi step)
          constructor
          · intro t found
            have := reads t found
            rwa [List.append_assoc] at this
          · intro r rest found
            obtain ⟨t, b, before, rfl, inv, last⟩ := stops r rest found
            refine ⟨t, b, a :: before, rfl, ?_, last⟩
            rwa [List.append_assoc] at inv
      | stop r' =>
          constructor
          · intro t found
            cases found
          · intro r rest found
            obtain ⟨rfl, rfl⟩ := Fed.stop.inj found
            exact ⟨s, a, [], rfl, by rwa [List.append_nil], step⟩

/-! ## Result after result -/

/-- All results in an input, the reader starting again at `s₀` after each, and where it
is at the end. -/
def collect (next : σ → α → Reading σ ρ) (s₀ : σ) : σ → List α → List ρ × σ
  | s, [] => ([], s)
  | s, a :: as =>
      match next s a with
      | .more t => collect next s₀ t as
      | .stop r => (r :: (collect next s₀ s₀ as).1, (collect next s₀ s₀ as).2)

variable {s₀ : σ}

@[simp] theorem collect_nil (s : σ) : collect next s₀ s [] = ([], s) := rfl

theorem collect_of_more {s t : σ} {xs : List α} (reads : feed next s xs = .more t) :
    collect next s₀ s xs = ([], t) := by
  induction xs generalizing s with
  | nil =>
      obtain rfl : s = t := Fed.more.inj reads
      rfl
  | cons a as ih =>
      rw [feed_cons] at reads
      cases step : next s a with
      | more u =>
          rw [step] at reads
          rw [collect, step]
          exact ih reads
      | stop r =>
          rw [step] at reads
          cases reads

theorem collect_of_stop {s : σ} {r : ρ} {xs rest : List α}
    (stops : feed next s xs = .stop r rest) :
    collect next s₀ s xs = (r :: (collect next s₀ s₀ rest).1, (collect next s₀ s₀ rest).2) := by
  induction xs generalizing s with
  | nil => cases stops
  | cons a as ih =>
      rw [feed_cons] at stops
      cases step : next s a with
      | more u =>
          rw [step] at stops
          rw [collect, step]
          exact ih stops
      | stop r' =>
          rw [step] at stops
          obtain ⟨rfl, rfl⟩ := Fed.stop.inj stops
          rw [collect, step]

/-- The results do not depend on how the input is cut. -/
theorem collect_append (s : σ) (xs ys : List α) :
    collect next s₀ s (xs ++ ys) =
      ((collect next s₀ s xs).1 ++ (collect next s₀ (collect next s₀ s xs).2 ys).1,
        (collect next s₀ (collect next s₀ s xs).2 ys).2) := by
  induction xs generalizing s with
  | nil => rfl
  | cons a as ih =>
      rw [List.cons_append, collect, collect]
      cases next s a with
      | more t => exact ih t
      | stop r => simp only [ih s₀, List.cons_append]

theorem collect_isPrefix (s : σ) (xs ys : List α) :
    (collect next s₀ s xs).1 <+: (collect next s₀ s (xs ++ ys)).1 := by
  rw [collect_append]
  exact List.prefix_append _ _

end Reader

end Transition
