import Mathlib.Data.List.TakeWhile
import NatProxy.Session.ReadLoop

/-!
# What the read loop makes of a stream of frames

The induction is on the list of frames that are still to be sent; its invariant
is that the loop waits for a header with an empty buffer (`waiting`). A frame
with a good header and a body takes four steps back to such a state and is
dispatched once. A frame with a bad header stops the session before its body is
read. A frame with a good header and an empty body stops it as well: its body
read completes without error, but with no bytes, which `onReadBody` takes for a
failure. So the loop serves exactly the streams whose good frames have bodies.
-/

namespace NatProxy

open Memory Transition

/-- A list is cut at the same place by `p` and by `p` with `q` exactly when `q`
holds before the cut of `p`. -/
theorem length_takeWhile_and_eq_iff {α : Type} (p q : α → Bool) (l : List α) :
    (l.takeWhile fun x => p x && q x).length = (l.takeWhile p).length ↔
      ∀ x ∈ l.takeWhile p, q x = true := by
  induction l with
  | nil => simp
  | cons x xs ih =>
      cases hp : p x with
      | false => simp [hp]
      | true =>
          cases hq : q x with
          | false => simp [hp, hq]
          | true => simp [hp, hq, ih]

theorem takeWhile_and_eq {α : Type} {p q : α → Bool} {l : List α}
    (h : ∀ x ∈ l.takeWhile p, q x = true) :
    (l.takeWhile fun x => p x && q x) = l.takeWhile p := by
  induction l with
  | nil => rfl
  | cons x xs ih =>
      cases hp : p x with
      | false => simp [hp]
      | true =>
          simp only [List.takeWhile_cons, hp, if_true, List.forall_mem_cons] at h
          simp [hp, h.1, ih h.2]

namespace Frame

/-- The header passes `checkHead`. -/
def good (f : Frame) : Bool := f.hdr.valid

def hasBody (f : Frame) : Bool := decide (0 < f.hdr.usBodyLen.toNat)

/-- The frames that are dispatched: those before the first bad header or empty
body. -/
def served (fs : List Frame) : List Frame := fs.takeWhile fun f => f.good && f.hasBody

theorem stream_cons (f : Frame) (fs : List Frame) : stream (f :: fs) = f.bytes ++ stream fs := by
  simp [stream]

end Frame

namespace Reader

/-- Between two frames: a header is being read into an empty buffer. -/
def waiting (hdr : TagPktHdr) (input : Bytes) (dispatched : List Bytes) : Reader where
  loop := ⟨[], hdr, .reading .head⟩
  started := true
  input := input
  dispatched := dispatched

theorem next_waiting_nil (hdr : TagPktHdr) (log : List Bytes) :
    (waiting hdr [] log).next = none := rfl

theorem next_head (hdr : TagPktHdr) (f : Frame) (rest : Bytes) (log : List Bytes) :
    (waiting hdr (f.bytes ++ rest) log).next =
      some ⟨⟨f.hdr.toBytes, hdr, .done .head false TagPktHdr.size⟩, true, f.body ++ rest, log⟩ := by
  have take : (f.bytes ++ rest).take TagPktHdr.size = f.hdr.toBytes := by
    rw [Frame.bytes, List.append_assoc, List.take_left' f.hdr.length_toBytes]
  have drop : (f.bytes ++ rest).drop TagPktHdr.size = f.body ++ rest := by
    rw [Frame.bytes, List.append_assoc, List.drop_left' f.hdr.length_toBytes]
  simp [next, waiting, ReadLoop.deliver, ReadLoop.need, take, drop]

theorem next_checked (hdr : TagPktHdr) (f : Frame) (rest : Bytes) (log : List Bytes)
    (h : f.good = true) :
    next ⟨⟨f.hdr.toBytes, hdr, .done .head false TagPktHdr.size⟩, true, rest, log⟩ =
      some ⟨⟨f.hdr.toBytes, f.hdr, .reading .body⟩, true, rest, log⟩ := by
  have back : TagPktHdr.ofBytes f.hdr.toBytes = f.hdr := by
    simpa using TagPktHdr.ofBytes_toBytes_append f.hdr []
  have valid : f.hdr.valid = true := h
  simp [next, ReadLoop.onReadHead, ReadLoop.checkHead, ReadLoop.asyncRead, TagPktHdr.size, back,
    valid]

theorem next_rejected (hdr : TagPktHdr) (f : Frame) (rest : Bytes) (log : List Bytes)
    (h : f.good = false) :
    next ⟨⟨f.hdr.toBytes, hdr, .done .head false TagPktHdr.size⟩, true, rest, log⟩ =
      some ⟨⟨[], .zero, .none⟩, false, rest, log⟩ := by
  have back : TagPktHdr.ofBytes f.hdr.toBytes = f.hdr := by
    simpa using TagPktHdr.ofBytes_toBytes_append f.hdr []
  have valid : f.hdr.valid = false := h
  have gone : f.hdr.toBytes.drop TagPktHdr.size = [] :=
    List.drop_eq_nil_of_le (Nat.le_of_eq f.hdr.length_toBytes)
  simp only [next, ReadLoop.onReadHead, ReadLoop.checkHead, back, valid, gone]
  rfl

theorem next_body (f : Frame) (rest : Bytes) (log : List Bytes) :
    next ⟨⟨f.hdr.toBytes, f.hdr, .reading .body⟩, true, f.body ++ rest, log⟩ =
      some ⟨⟨f.bytes, f.hdr, .done .body false f.hdr.usBodyLen.toNat⟩, true, rest, log⟩ := by
  simp [next, ReadLoop.deliver, ReadLoop.need, List.take_left' f.length_body,
    List.drop_left' f.length_body, f.length_body, Frame.bytes]

theorem next_dispatch (f : Frame) (rest : Bytes) (log : List Bytes) (h : f.hasBody = true) :
    next ⟨⟨f.bytes, f.hdr, .done .body false f.hdr.usBodyLen.toNat⟩, true, rest, log⟩ =
      some (waiting f.hdr rest (log ++ [f.bytes])) := by
  have pos : f.hdr.usBodyLen.toNat ≠ 0 := Nat.ne_of_gt (of_decide_eq_true h)
  have gone : f.bytes.drop (TagPktHdr.size + f.hdr.usBodyLen.toNat) = [] :=
    List.drop_eq_nil_of_le (Nat.le_of_eq f.length_bytes)
  simp [next, ReadLoop.bodyFails, ReadLoop.finishBody, ReadLoop.doRead, ReadLoop.asyncRead,
    waiting, pos, gone]

theorem next_empty_body (f : Frame) (rest : Bytes) (log : List Bytes) (h : f.hasBody = false) :
    next ⟨⟨f.bytes, f.hdr, .done .body false f.hdr.usBodyLen.toNat⟩, true, rest, log⟩ =
      some ⟨⟨f.bytes, f.hdr, .none⟩, false, rest, log⟩ := by
  have zero : f.hdr.usBodyLen.toNat = 0 := Nat.eq_zero_of_not_pos (of_decide_eq_false h)
  simp [next, ReadLoop.bodyFails, zero]

theorem next_stopped (loop : ReadLoop) (h : loop.op = .none) (input : Bytes) (log : List Bytes) :
    next ⟨loop, false, input, log⟩ = none := by
  simp [next, h]

/-- A good frame with a body is dispatched, and the loop waits for the next one. -/
theorem settles_of_served {hdr : TagPktHdr} {f : Frame} {rest : Bytes} {log : List Bytes}
    {t : Reader} (good : f.good = true) (body : f.hasBody = true)
    (later : Settles next (waiting f.hdr rest (log ++ [f.bytes])) t) :
    Settles next (waiting hdr (f.bytes ++ rest) log) t := by
  refine .step (next_head hdr f rest log) ?_
  refine .step (next_checked hdr f _ log good) ?_
  refine .step (next_body f rest log) ?_
  exact .step (next_dispatch f rest log body) later

/-- Any other frame stops the session without being dispatched. -/
theorem settles_of_not_served (hdr : TagPktHdr) {f : Frame} (rest : Bytes) (log : List Bytes)
    (h : (f.good && f.hasBody) = false) :
    ∃ t, Settles next (waiting hdr (f.bytes ++ rest) log) t ∧ t.dispatched = log ∧
      t.started = false := by
  cases good : f.good with
  | false =>
      refine ⟨⟨⟨[], .zero, .none⟩, false, f.body ++ rest, log⟩, ?_, rfl, rfl⟩
      refine .step (next_head hdr f rest log) ?_
      refine .step (next_rejected hdr f _ log good) ?_
      exact .done (next_stopped _ rfl _ _)
  | true =>
      have body : f.hasBody = false := by simpa [good] using h
      refine ⟨⟨⟨f.bytes, f.hdr, .none⟩, false, rest, log⟩, ?_, rfl, rfl⟩
      refine .step (next_head hdr f rest log) ?_
      refine .step (next_checked hdr f _ log good) ?_
      refine .step (next_body f rest log) ?_
      refine .step (next_empty_body f rest log body) ?_
      exact .done (next_stopped _ rfl _ _)

/-- The loop ends after the served frames: waiting with an empty buffer if those
are all frames, and stopped otherwise. -/
theorem settles_stream (fs : List Frame) (hdr : TagPktHdr) (log : List Bytes) :
    ∃ t, Settles next (waiting hdr (Frame.stream fs) log) t ∧
      t.dispatched = log ++ (Frame.served fs).map Frame.bytes ∧
      if Frame.served fs = fs then ∃ last, t = waiting last [] t.dispatched
      else t.started = false := by
  induction fs generalizing hdr log with
  | nil =>
      refine ⟨waiting hdr [] log, .done (next_waiting_nil hdr log), ?_, ?_⟩
      · simp [waiting, Frame.served]
      · rw [if_pos (by rfl)]
        exact ⟨hdr, rfl⟩
  | cons f fs ih =>
      rw [Frame.stream_cons]
      cases ok : f.good && f.hasBody with
      | false =>
          obtain ⟨t, run, log_eq, stopped⟩ :=
            settles_of_not_served hdr (Frame.stream fs) log ok
          have none : Frame.served (f :: fs) = [] := by simp [Frame.served, ok]
          refine ⟨t, run, by simp [none, log_eq], ?_⟩
          rw [none, if_neg (List.cons_ne_nil f fs).symm]
          exact stopped
      | true =>
          obtain ⟨good, body⟩ := Bool.and_eq_true_iff.mp ok
          obtain ⟨t, run, log_eq, final⟩ := ih f.hdr (log ++ [f.bytes])
          have cons : Frame.served (f :: fs) = f :: Frame.served fs := by
            simp [Frame.served, ok]
          refine ⟨t, settles_of_served good body run, by simp [cons, log_eq], ?_⟩
          rw [cons]
          simpa only [List.cons.injEq, true_and] using final

/-- What the read loop owes to a stream of frames: every frame before the first
bad header reaches the switch once, in order, alone in the buffer; if there is no
bad header the loop is left running on an empty buffer, and otherwise the session
has stopped. -/
def Serves (fs : List Frame) : Prop :=
  ∃ t, Settles next (start (Frame.stream fs)) t ∧
    t.dispatched = (fs.takeWhile Frame.good).map Frame.bytes ∧
    if fs.all Frame.good then
      t.started = true ∧ t.loop.rbuf = [] ∧ t.loop.op = .reading .head
    else t.started = false

theorem served_eq_iff (fs : List Frame) :
    Frame.served fs = fs ↔ fs.all fun f => f.good && f.hasBody := by
  rw [Frame.served, List.takeWhile_eq_self_iff, List.all_eq_true]

/-- The loop serves a stream exactly when every frame before the first bad header
has a body. -/
theorem serves_iff (fs : List Frame) :
    Serves fs ↔ ∀ f ∈ fs.takeWhile Frame.good, 0 < f.hdr.usBodyLen.toNat := by
  have bodies : (∀ f ∈ fs.takeWhile Frame.good, 0 < f.hdr.usBodyLen.toNat) ↔
      ∀ f ∈ fs.takeWhile Frame.good, f.hasBody = true := by
    simp only [Frame.hasBody, decide_eq_true_eq]
  obtain ⟨t, run, log, final⟩ := settles_stream fs .zero []
  rw [bodies]
  constructor
  · rintro ⟨t', run', log', _⟩
    obtain rfl := run.unique run'
    rw [← length_takeWhile_and_eq_iff]
    have lengths := congrArg List.length (log.symm.trans log')
    simpa [Frame.served] using lengths
  · intro h
    have same : Frame.served fs = fs.takeWhile Frame.good := takeWhile_and_eq h
    refine ⟨t, run, by rw [log, same, List.nil_append], ?_⟩
    split
    · next all =>
      have full : fs.takeWhile Frame.good = fs :=
        List.takeWhile_eq_self_iff.mpr (List.all_eq_true.mp all)
      rw [if_pos (same.trans full)] at final
      obtain ⟨last, final⟩ := final
      rw [final]
      exact ⟨rfl, rfl, rfl⟩
    · next some =>
      rw [if_neg] at final
      · exact final
      · intro full
        apply some
        rw [List.all_eq_true]
        intro f hf
        have := List.all_eq_true.mp ((served_eq_iff fs).mp full) f hf
        exact (Bool.and_eq_true_iff.mp this).1

/-- A heartbeat without a body. -/
def heartbeat : Frame where
  hdr := ⟨0xDD, 0x05, 0x01, 0x02, 0x00, 0x00, 0⟩
  body := []
  length_body := rfl

theorem not_serves_heartbeat : heartbeat.good = true ∧ ¬ Serves [heartbeat] := by
  refine ⟨by decide, ?_⟩
  rw [serves_iff]
  intro h
  exact absurd (h heartbeat (by decide)) (by decide)

end Reader

end NatProxy
