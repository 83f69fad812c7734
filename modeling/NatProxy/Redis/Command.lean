import Mathlib.Data.List.TakeWhile
import NatProxy.Redis.Grammar

/-!
# Commands

`makeCommand` writes a command as an array of bulks, with sizes in decimal, so the
grammar of replies is the grammar of commands too.
-/

namespace NatProxy

open Memory Transition

/-- `boost::lexical_cast<std::string>` of a size: its decimal digits. -/
def decimal (n : Nat) : Bytes := (Nat.toDigits 10 n).map fun c => UInt8.ofNat c.toNat

theorem decimal_ne_nil (n : Nat) : decimal n ≠ [] := by
  simp [decimal]

theorem toNat_ofNat_of_isDigit {c : Char} (digit : c.isDigit = true) :
    (UInt8.ofNat c.toNat).toNat = c.toNat ∧ 48 ≤ c.toNat ∧ c.toNat ≤ 57 := by
  have range : 48 ≤ c.toNat ∧ c.toNat ≤ 57 := Char.isDigit_iff_toNat.mp digit
  refine ⟨?_, range⟩
  rw [UInt8.toNat_ofNat']
  omega

theorem isDigit_of_mem_decimal {n : Nat} {b : UInt8} (mem : b ∈ decimal n) :
    isDigit b = true := by
  obtain ⟨c, char, rfl⟩ := List.mem_map.mp mem
  have digit := Nat.isDigit_of_mem_toDigits (by omega) (by omega) char
  obtain ⟨same, low, high⟩ := toNat_ofNat_of_isDigit digit
  simp [isDigit, same, low, high]

theorem leadingNumber_decimal (n : Nat) : leadingNumber (decimal n) = n := by
  have all : (decimal n).takeWhile isDigit = decimal n :=
    List.takeWhile_eq_self_iff.mpr fun b mem => isDigit_of_mem_decimal mem
  have digits : ∀ (cs : List Char) (init : Nat), (∀ c ∈ cs, c.isDigit = true) →
      (cs.map fun c => UInt8.ofNat c.toNat).foldl (fun n c => 10 * n + (c.toNat - 48)) init =
        Nat.ofDigitChars 10 cs init := by
    intro cs
    induction cs with
    | nil => intros; simp
    | cons c cs ih =>
        intro init digit
        rw [List.map_cons, List.foldl_cons, Nat.ofDigitChars_cons,
          (toNat_ofNat_of_isDigit (digit c (by simp))).1]
        exact ih _ fun d mem => digit d (List.mem_cons_of_mem c mem)
  rw [leadingNumber, all, decimal,
    digits _ 0 fun c mem => Nat.isDigit_of_mem_toDigits (by omega) (by omega) mem]
  exact Nat.ofDigitChars_ten_toDigits

/-- A size that fits is read back. -/
theorem strtol_decimal {n : Nat} (fits : n < 2 ^ 63) : strtol (decimal n) = n := by
  obtain ⟨c, rest, eq⟩ := List.exists_cons_of_ne_nil (decimal_ne_nil n)
  have digit : isDigit c = true := isDigit_of_mem_decimal (n := n) (by rw [eq]; simp)
  have notMinus : c ≠ MINUS := by
    rintro rfl
    cases digit
  have number := leadingNumber_decimal n
  rw [eq] at number ⊢
  rw [strtol, if_neg notMinus, number]
  omega

/-- `append(result, crlf)` -/
def crlf : Bytes := [CR, LF]

/-- The part of `makeCommand` for one item. -/
def makeItem (item : Bytes) : Bytes :=
  [bulkReply] ++ decimal item.length ++ crlf ++ item ++ crlf

def makeCommand (items : List Bytes) : Bytes :=
  [arrayReply] ++ decimal items.length ++ crlf ++ items.flatMap makeItem

/-- The sizes are those of objects in memory. -/
structure Fits (items : List Bytes) : Prop where
  count : items.length < 2 ^ 63
  sizes : ∀ item ∈ items, item.length < 2 ^ 63

instance (items : List Bytes) : Decidable (Fits items) :=
  decidable_of_iff (items.length < 2 ^ 63 ∧ ∀ item ∈ items, item.length < 2 ^ 63)
    ⟨fun h => ⟨h.1, h.2⟩, fun h => ⟨h.count, h.sizes⟩⟩

/-- What a reader of commands gets. -/
def commandValue (items : List Bytes) : RedisValue :=
  .array (items.map fun item => .string item false)

theorem valid_decimal {k : ReplyKind} (number : k.isText = false) (n : Nat) :
    k.Valid (decimal n) where
  accepts := by
    intro c mem
    rw [ReplyKind.accepts, number, if_neg Bool.false_ne_true, isDigit_of_mem_decimal mem]
    rfl
  some := fun _ => decimal_ne_nil n

theorem reply_makeItem {item : Bytes} (fits : item.length < 2 ^ 63) :
    Reply (.string item false) (makeItem item) := by
  have reply := Reply.bulk (valid_decimal rfl item.length) (strtol_decimal fits)
  simpa [makeItem, ReplyKind.line, ReplyKind.char, crlf] using reply

theorem replies_makeItem {items : List Bytes} (fits : ∀ item ∈ items, item.length < 2 ^ 63) :
    Replies (items.map fun item => .string item false) (items.flatMap makeItem) := by
  induction items with
  | nil => exact .nil
  | cons item items ih =>
      exact .cons (reply_makeItem (fits item (by simp)))
        (ih fun other mem => fits other (List.mem_cons_of_mem item mem))

theorem reply_makeCommand {items : List Bytes} (fits : Fits items) :
    Reply (commandValue items) (makeCommand items) := by
  have count : strtol (decimal items.length) =
      (items.map fun item => RedisValue.string item false).length := by
    rw [List.length_map]
    exact strtol_decimal fits.count
  have reply := Reply.array (valid_decimal rfl items.length) count (replies_makeItem fits.sizes)
  simpa [makeCommand, commandValue, ReplyKind.line, ReplyKind.char, crlf] using reply

theorem replies_makeCommand {cmds : List (List Bytes)} (fits : ∀ cmd ∈ cmds, Fits cmd) :
    Replies (cmds.map commandValue) (cmds.flatMap makeCommand) := by
  induction cmds with
  | nil => exact .nil
  | cons cmd cmds ih =>
      exact .cons (reply_makeCommand (fits cmd (by simp)))
        (ih fun other mem => fits other (List.mem_cons_of_mem cmd mem))

end NatProxy
