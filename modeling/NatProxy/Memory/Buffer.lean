import Mathlib.Data.List.Basic
import Mathlib.Algebra.Group.Nat.Defs

/-!
# Bounded reads of a byte buffer

A buffer is the list of its bytes. Reading at an offset that the buffer does not
have is a `Fault`, and so is a string operation that is asked for more than the
string type can hold. A computation that returns `.ok` has therefore read only
bytes inside the buffer and has raised no exception.

Sizes are 64-bit and unsigned: a signed byte that is used as a size is extended
with its sign first, and sums are taken modulo `2 ^ 64`.
-/

namespace Memory

abbrev Bytes := List UInt8

/-- The ways in which a read can leave the defined behaviour. -/
inductive Fault
  | outOfBounds
  | lengthError
  deriving DecidableEq, Repr

/-- The computation returns: no fault happened on the way. -/
def Returns {α : Type} (x : Except Fault α) : Prop := ∃ r, x = .ok r

@[simp] theorem ok_bind {α β : Type} (a : α) (f : α → Except Fault β) :
    ((.ok a : Except Fault α) >>= f) = f a := rfl

/-- A computation returns when its parts do. -/
theorem bind_eq_ok_iff {α β : Type} {x : Except Fault α} {f : α → Except Fault β} {b : β} :
    x >>= f = .ok b ↔ ∃ a, x = .ok a ∧ f a = .ok b := by
  cases x with
  | error e =>
      constructor
      · intro h
        cases h
      · rintro ⟨a, h, _⟩
        cases h
  | ok a => simp

namespace Returns

variable {α β : Type}

@[simp] theorem ok (a : α) : Returns (.ok a : Except Fault α) := ⟨a, rfl⟩

@[simp] theorem pure (a : α) : Returns (Pure.pure a : Except Fault α) := ⟨a, rfl⟩

@[simp] theorem not_error (e : Fault) : ¬ Returns (.error e : Except Fault α) := by
  rintro ⟨r, h⟩
  cases h

/-- A sequence returns exactly when its first part returns a value from which
the rest returns. -/
theorem bind_iff {x : Except Fault α} {f : α → Except Fault β} :
    Returns (x >>= f) ↔ ∃ a, x = .ok a ∧ Returns (f a) := by
  cases x with
  | error e =>
      constructor
      · intro h
        exact absurd h (not_error e)
      · rintro ⟨a, h, _⟩
        cases h
  | ok a =>
      constructor
      · intro h
        exact ⟨a, rfl, h⟩
      · rintro ⟨b, h, hb⟩
        cases h
        exact hb

/-- A pure function of the result cannot fault. -/
@[simp] theorem map_iff {x : Except Fault α} {f : α → β} : Returns (f <$> x) ↔ Returns x := by
  cases x with
  | error e => exact iff_of_false (not_error e) (not_error e)
  | ok a => exact iff_of_true (ok (f a)) (ok a)

end Returns

/-- Whether the offsets `off, …, off + len - 1` all lie in a buffer of `n` bytes.
An empty range touches no offset. -/
def InRange (n off len : Nat) : Prop := len = 0 ∨ off + len ≤ n

instance (n off len : Nat) : Decidable (InRange n off len) :=
  inferInstanceAs (Decidable (_ ∨ _))

/-- Copy `len` bytes from offset `off`. -/
def copy (buf : Bytes) (off len : Nat) : Except Fault Bytes :=
  if InRange buf.length off len then .ok ((buf.drop off).take len) else .error .outOfBounds

/-- One byte. -/
def byteAt (buf : Bytes) (off : Nat) : Except Fault UInt8 :=
  if off < buf.length then .ok (buf.getD off 0) else .error .outOfBounds

/-- Overwrite the bytes from offset `off` on. -/
def put (buf : Bytes) (off : Nat) (bs : Bytes) : Except Fault Bytes :=
  if InRange buf.length off bs.length then
    .ok (buf.take off ++ bs ++ buf.drop (off + bs.length))
  else .error .outOfBounds

/-- The bytes behind the written front of a buffer are overwritten. -/
theorem put_append (front rest bs : Bytes) (fits : bs.length ≤ rest.length) :
    put (front ++ rest) front.length bs = .ok (front ++ bs ++ rest.drop bs.length) := by
  have inRange : InRange (front ++ rest).length front.length bs.length := by
    refine .inr ?_
    rw [List.length_append]
    omega
  rw [put, if_pos inRange, List.take_left, ← List.drop_drop, List.drop_left]

theorem copy_of_inRange {buf : Bytes} {off len : Nat} (h : InRange buf.length off len) :
    copy buf off len = .ok ((buf.drop off).take len) := if_pos h

theorem copy_eq_ok_iff {buf : Bytes} {off len : Nat} {bs : Bytes} :
    copy buf off len = .ok bs ↔ InRange buf.length off len ∧ (buf.drop off).take len = bs := by
  by_cases h : InRange buf.length off len <;> simp [copy, h]

@[simp] theorem returns_copy_iff {buf : Bytes} {off len : Nat} :
    Returns (copy buf off len) ↔ InRange buf.length off len := by
  by_cases h : InRange buf.length off len <;> simp [copy, h]

theorem byteAt_of_lt {buf : Bytes} {off : Nat} (h : off < buf.length) :
    byteAt buf off = .ok (buf.getD off 0) := if_pos h

theorem byteAt_eq_ok_iff {buf : Bytes} {off : Nat} {b : UInt8} :
    byteAt buf off = .ok b ↔ off < buf.length ∧ buf.getD off 0 = b := by
  by_cases h : off < buf.length <;> simp [byteAt, h]

/-- The number of a 64-bit size type. -/
def sizeMod : Nat := 2 ^ 64

/-- A signed byte converted to a size: bytes from `0x80` on are negative. -/
def sizeOfChar (b : UInt8) : Nat :=
  if b.toNat < 128 then b.toNat else sizeMod - 256 + b.toNat

/-- Unsigned addition of sizes. -/
def addSize (a b : Nat) : Nat := (a + b) % sizeMod

/-- The longest string that the standard library can hold. -/
def stringMaxSize : Nat := 2 ^ 62 - 1

/-- `std::string::assign`: it checks the requested length, then copies. -/
def assign (buf : Bytes) (off len : Nat) : Except Fault Bytes :=
  if len ≤ stringMaxSize then copy buf off len else .error .lengthError

@[simp] theorem returns_assign_iff {buf : Bytes} {off len : Nat} :
    Returns (assign buf off len) ↔ len ≤ stringMaxSize ∧ InRange buf.length off len := by
  by_cases h : len ≤ stringMaxSize <;> simp [assign, h]

theorem sizeOfChar_of_lt {b : UInt8} (h : b.toNat < 128) : sizeOfChar b = b.toNat := if_pos h

theorem sizeOfChar_of_ge {b : UInt8} (h : 128 ≤ b.toNat) :
    sizeOfChar b = sizeMod - 256 + b.toNat := if_neg (Nat.not_lt.mpr h)

/-- A negative length byte is larger than every string. -/
theorem stringMaxSize_lt_sizeOfChar {b : UInt8} (h : 128 ≤ b.toNat) :
    stringMaxSize < sizeOfChar b := by
  rw [sizeOfChar_of_ge h, stringMaxSize, sizeMod]
  omega

/-- The value of a little-endian byte string. -/
def leNat : Bytes → Nat
  | [] => 0
  | b :: bs => b.toNat + 256 * leNat bs

/-- The `k` low bytes of a number, the lowest first. -/
def leBytes : Nat → Nat → Bytes
  | 0, _ => []
  | k + 1, n => UInt8.ofNat n :: leBytes k (n / 256)

@[simp] theorem length_leBytes (k n : Nat) : (leBytes k n).length = k := by
  induction k generalizing n with
  | zero => rfl
  | succ k ih => simp [leBytes, ih]

/-- Reading back the `k` low bytes of a number gives it modulo `256 ^ k`. -/
theorem leNat_leBytes (k n : Nat) : leNat (leBytes k n) = n % 256 ^ k := by
  induction k generalizing n with
  | zero => simp [leBytes, leNat, Nat.mod_one]
  | succ k ih =>
      have split : n % (256 * 256 ^ k) = n % 256 + 256 * (n / 256 % 256 ^ k) := Nat.mod_mul
      rw [Nat.pow_succ', split, leBytes, leNat, ih, UInt8.toNat_ofNat']

theorem leNat_lt (bs : Bytes) : leNat bs < 256 ^ bs.length := by
  induction bs with
  | nil => exact Nat.one_pos
  | cons b bs ih =>
      have := b.toNat_lt
      rw [leNat, List.length_cons, Nat.pow_succ']
      omega

/-- A byte string is the bytes of its value. -/
theorem leBytes_leNat (bs : Bytes) : leBytes bs.length (leNat bs) = bs := by
  induction bs with
  | nil => rfl
  | cons b bs ih =>
      have low : UInt8.ofNat (b.toNat + 256 * leNat bs) = b := by
        rw [← UInt8.toNat_inj, UInt8.toNat_ofNat']
        have := b.toNat_lt
        omega
      have high : (b.toNat + 256 * leNat bs) / 256 = leNat bs := by
        have := b.toNat_lt
        omega
      rw [leNat, List.length_cons, leBytes, low, high, ih]

end Memory
