import NatProxy.Db.Publication

/-!
# How many records fit into the buffer

The records start behind the count byte, so `_buff` has room for 255 of them and the
terminator. The loop of `serial` tests that the next record starts inside `_buff`, and
that the count is below 256, which holds of every byte: a 256th record starts inside and
ends outside.
-/

namespace NatProxy

open Memory

/-- The loop writes outside `_buff` when it comes to a 256th record. -/
theorem serialLoop_overflows (infos : List SSessionInfo) (front rest : Bytes) (n : Nat)
    (written : front.length = 1 + 8 * n) (size : front.length + rest.length = dbMaxLength)
    (before : n ≤ 255) (many : 256 ≤ n + infos.length) :
    serialLoop infos (front ++ rest) front.length (UInt8.ofNat n) = .error .outOfBounds := by
  induction infos generalizing front rest n with
  | nil =>
      rw [List.length_nil] at many
      omega
  | cons info infos ih =>
      rw [List.length_cons] at many
      have room : 7 ≤ rest.length := by
        rw [dbMaxLength] at size
        omega
      by_cases last : n = 255
      · -- three of the four bytes of the address fit
        have enabled : front.length < dbMaxLength ∧
            (UInt8.ofNat n).toNat < dbMaxLength / infoSize := by
          rw [dbMaxLength, infoSize, UInt8.toNat_ofNat']
          omega
        have putId := put_append front rest (leBytes 4 info.uiId.toNat) (by simp; omega)
        have outside : ¬ InRange (front ++ leBytes 4 info.uiId.toNat ++ rest.drop 4).length
            (front.length + 4) (leBytes 4 info.uiAddr.toNat).length := by
          simp only [InRange, List.length_append, length_leBytes, List.length_drop]
          rw [dbMaxLength] at size
          omega
        rw [length_leBytes] at putId
        rw [serialLoop, if_pos enabled, putId, ok_bind, put, if_neg outside]
        rfl
      · have longer : (front ++ info.bytes).length = front.length + 8 := by
          rw [List.length_append, info.length_bytes]
        rw [serialLoop_cons written size (by omega)]
        refine ih (front ++ info.bytes) (rest.drop 8) (n + 1) (by omega) ?_ (by omega) (by omega)
        rw [dbMaxLength] at *
        rw [longer, List.length_drop]
        omega

/-- `serial` of a table with more than 255 entries. -/
theorem serial_overflows {db : DbMap} (many : 256 ≤ db.entries.length) :
    serial db = .error .outOfBounds := by
  have count : (db.entries.map Sigma.snd).length = db.entries.length := List.length_map _
  have size : ([0] : Bytes).length + (List.replicate (dbMaxLength - 1) (0 : UInt8)).length =
      dbMaxLength := by
    rw [List.length_replicate]
    rfl
  have loop := serialLoop_overflows (db.entries.map Sigma.snd) [0]
    (List.replicate (dbMaxLength - 1) 0) 0 rfl size (by omega) (by omega)
  have start : List.replicate dbMaxLength (0 : UInt8) =
      [0] ++ List.replicate (dbMaxLength - 1) 0 := rfl
  rw [serial, start]
  exact congrArg (· >>= _) loop

/-- `serial` returns only when the entries fit. -/
theorem CSessionDb.few_of_serial {d d' : CSessionDb} (run : d.step .serial = some d') :
    d.size ≤ 255 := by
  by_contra many
  have overflows : serial d.store.db = .error .outOfBounds :=
    serial_overflows (Nat.lt_of_not_le many)
  rw [step] at run
  split at run
  · rw [overflows] at run
    cases run
  · cases run

/-- The string is the number `k` of listed entries, 255 at most, and the records of `k`
different entries. -/
def ListsUpTo255 (db : DbMap) (out : Bytes) : Prop :=
  ∃ listed : List (Sigma fun _ : UInt32 => SSessionInfo), listed.Nodup ∧
    (∀ e ∈ listed, e ∈ db.entries) ∧ listed.length = min db.entries.length 255 ∧
    out.length = 1 + 8 * listed.length ∧ (out.getD 0 0).toNat = listed.length ∧
    out.drop 1 = (listed.map Sigma.snd).flatMap SSessionInfo.bytes

/-- `serial` stays inside `_buff` and publishes the entries, up to 255 of them, exactly
when there are no more. -/
theorem serial_listsUpTo255_iff (db : DbMap) :
    (∃ out, serial db = .ok out ∧ ListsUpTo255 db out) ↔ db.entries.length ≤ 255 := by
  constructor
  · rintro ⟨out, published, _⟩
    by_contra many
    rw [serial_overflows (by omega)] at published
    cases published
  · intro few
    refine ⟨_, serial_eq few, db.entries, ?_, fun e listed => listed, ?_, ?_, ?_, rfl⟩
    · exact db.nodupKeys.nodup
    · omega
    · rw [List.length_cons, length_flatMap_bytes, List.length_map, Nat.add_comm]
    · rw [List.getD_cons_zero, UInt8.toNat_ofNat']
      omega

/-- A table of `n` sessions. -/
def tableOf (n : Nat) (small : n ≤ 2 ^ 32) : DbMap where
  entries := (List.range n).map fun i => ⟨UInt32.ofNat i, ⟨UInt32.ofNat i, 0, []⟩⟩
  nodupKeys := by
    rw [List.NodupKeys, List.keys, List.map_map]
    refine List.nodup_range.map_on ?_
    intro i hi j hj same
    have hi := List.mem_range.mp hi
    have hj := List.mem_range.mp hj
    have equal := congrArg UInt32.toNat (show UInt32.ofNat i = UInt32.ofNat j from same)
    rwa [UInt32.toNat_ofNat', UInt32.toNat_ofNat', Nat.mod_eq_of_lt (by omega),
      Nat.mod_eq_of_lt (by omega)] at equal

theorem serial_not_always_listsUpTo255 :
    (¬ ∀ db : DbMap, ∃ out, serial db = .ok out ∧ ListsUpTo255 db out) ∧
      serial (tableOf 256 (by decide)) = .error .outOfBounds := by
  have length : (tableOf 256 (by decide)).entries.length = 256 := by
    simp [tableOf]
  refine ⟨?_, serial_overflows length.ge⟩
  intro always
  have few := (serial_listsUpTo255_iff (tableOf 256 (by decide))).mp (always _)
  omega

end NatProxy
