import NatProxy.Protocol.Packet

/-!
# Which frames the request decoders can read

The session framing hands a decoder a buffer of `8 + usBodyLen` bytes with a
non-empty body. For each request code the decoder returns on some of these
buffers only: a body that ends before the last fixed field, or a length byte
that the size test lets through although it is negative or reaches past the end,
makes it read outside the buffer or ask `assign` for an impossible length.
`InBounds` is the exact condition.
-/

namespace NatProxy

open Memory

/-- A buffer as the session framing hands it to a decoder: a header and exactly
the non-empty body that the header announces. -/
structure FramedBuffer where
  bytes : Bytes
  length_eq : bytes.length = TagPktHdr.size + (TagPktHdr.ofBytes bytes).usBodyLen.toNat
  body_pos : 0 < (TagPktHdr.ofBytes bytes).usBodyLen.toNat

namespace FramedBuffer

/-- The header of the frame, which is also `_hdr` when the body is handled. -/
def hdr (f : FramedBuffer) : TagPktHdr := TagPktHdr.ofBytes f.bytes

theorem length_ge (f : FramedBuffer) : 9 ≤ f.bytes.length := by
  have := f.length_eq
  have := f.body_pos
  simp only [TagPktHdr.size] at *
  omega

theorem length_lt (f : FramedBuffer) : f.bytes.length < 65544 := by
  have := f.length_eq
  have := (TagPktHdr.ofBytes f.bytes).usBodyLen.toNat_lt
  simp only [TagPktHdr.size] at *
  omega

end FramedBuffer

/-- The request codes that have a decoder. -/
inductive ReqFunc
  | login
  | proxy
  | getProxies
  deriving DecidableEq, Repr

namespace ReqFunc

/-- The function code in the header. -/
def code : ReqFunc → UInt8
  | .login => FUNC.REQ.LOGIN
  | .proxy => FUNC.REQ.PROXY
  | .getProxies => FUNC.REQ.GETPROXIES

/-- The decoder of a function code on a fresh packet. -/
def deserialize : ReqFunc → Bytes → Except Fault Request
  | .login, p => do return .login (← CReqLoginPkt.new.deserialize p).2
  | .proxy, p => do return .proxy (← CReqProxyPkt.new.deserialize p).2
  | .getProxies, p => do return .getProxies (← CReqGetProxiesPkt.deserialize p).2

/-- The length byte at offset `at` of a buffer of `n` bytes is harmless for a
decoder whose size test adds `fixed` to it: it is non-negative and the string it
announces either fails the test or ends, with `tail` more bytes, inside the
buffer; or it is so negative that the test rejects it. -/
def LengthByteOk (fixed tail n : Nat) (b : UInt8) : Prop :=
  (b.toNat < 128 ∧ (n < b.toNat + fixed ∨ b.toNat + tail ≤ n)) ∨
    (128 ≤ b.toNat ∧ b.toNat + fixed < 256)

instance (fixed tail n : Nat) (b : UInt8) : Decidable (LengthByteOk fixed tail n b) :=
  inferInstanceAs (Decidable (_ ∨ _))

/-- The buffers on which a decoder stays inside the buffer. -/
def InBounds : ReqFunc → Bytes → Prop
  | .login, p => LengthByteOk 5 13 p.length (p.getD 8 0)
  | .proxy, p => 17 ≤ p.length ∧ LengthByteOk 9 17 p.length (p.getD 16 0)
  | .getProxies, p => 12 ≤ p.length

instance (r : ReqFunc) (p : Bytes) : Decidable (r.InBounds p) := by
  cases r <;> unfold InBounds <;> infer_instance

end ReqFunc

/-- The size test passes a non-negative length byte when the frame is long
enough, and a negative one when the sum wraps around. -/
theorem addSize_sizeOfChar_le_iff {b : UInt8} {fixed n : Nat} (hf : fixed < 128)
    (hn : n < 65544) (hl : fixed ≤ n) :
    addSize (sizeOfChar b) fixed ≤ n ↔
      (b.toNat < 128 ∧ b.toNat + fixed ≤ n) ∨ (128 ≤ b.toNat ∧ 256 ≤ b.toNat + fixed) := by
  have hb := b.toNat_lt
  unfold addSize sizeMod
  rcases Nat.lt_or_ge b.toNat 128 with h | h
  · rw [sizeOfChar_of_lt h]
    omega
  · rw [sizeOfChar_of_ge h, sizeMod]
    omega

/-- Whenever the size test passes, the string has a possible length and ends
with `tail` more bytes inside the buffer: this is what `LengthByteOk` says. -/
theorem lengthByteOk_iff {b : UInt8} {fixed tail n : Nat} (hf : fixed < 128) (hn : n < 65544)
    (hl : fixed ≤ n) :
    ReqFunc.LengthByteOk fixed tail n b ↔
      (addSize (sizeOfChar b) fixed ≤ n →
        sizeOfChar b ≤ stringMaxSize ∧ sizeOfChar b + tail ≤ n) := by
  rw [addSize_sizeOfChar_le_iff hf hn hl, ReqFunc.LengthByteOk]
  rcases Nat.lt_or_ge b.toNat 128 with h | h
  · have hmax : b.toNat ≤ stringMaxSize := by
      unfold stringMaxSize
      omega
    rw [sizeOfChar_of_lt h]
    omega
  · have hmax := stringMaxSize_lt_sizeOfChar h
    omega

theorem login_returns_iff (f : FramedBuffer) :
    Returns (CReqLoginPkt.new.deserialize f.bytes) ↔ ReqFunc.InBounds .login f.bytes := by
  have h9 := f.length_ge
  have hlen := f.length_eq
  have header : InRange f.bytes.length 0 TagPktHdr.size := Or.inr (by
    simp only [TagPktHdr.size]
    omega)
  rw [ReqFunc.InBounds, lengthByteOk_iff (by decide) f.length_lt (by omega)]
  simp only [CReqLoginPkt.deserialize, copy_of_inRange header,
    byteAt_of_lt (show 8 < f.bytes.length by omega), ok_bind, List.drop_zero,
    TagPktHdr.ofBytes_take_size, pure_bind]
  rw [if_neg (by omega)]
  generalize sizeOfChar (f.bytes.getD 8 0) = len
  by_cases test : f.bytes.length < addSize len 5
  · rw [if_pos test]
    exact iff_of_true (.pure _) (fun h => absurd test (Nat.not_lt.mpr h))
  · rw [if_neg test]
    simp only [Returns.bind_iff, Nat.le_of_not_lt test, forall_const]
    constructor
    · rintro ⟨guid, hguid, addr, haddr, _⟩
      have bound := (returns_assign_iff.mp ⟨guid, hguid⟩).1
      have last := returns_u32At_iff.mp ⟨addr, haddr⟩
      omega
    · rintro ⟨bound, last⟩
      obtain ⟨guid, hguid⟩ := returns_assign_iff.mpr
        (show len ≤ stringMaxSize ∧ InRange f.bytes.length 9 len from ⟨bound, Or.inr (by omega)⟩)
      obtain ⟨addr, haddr⟩ := returns_u32At_iff.mpr
        (show 9 + len + 4 ≤ f.bytes.length by omega)
      refine ⟨guid, hguid, addr, haddr, ?_⟩
      -- the type byte is read only when the body has it
      have sum : addSize (addSize 1 len) 4 = 1 + len + 4 := by
        unfold addSize sizeMod
        have := f.length_lt
        omega
      rw [sum]
      split
      · exact .pure _
      · split
        · next more =>
          have inside : 13 + len < f.bytes.length := by
            simp only [TagPktHdr.size] at hlen
            omega
          rw [byteAt_of_lt inside]
          exact .pure _
        · exact .pure _

theorem proxy_returns_iff (f : FramedBuffer) :
    Returns (CReqProxyPkt.new.deserialize f.bytes) ↔ ReqFunc.InBounds .proxy f.bytes := by
  have h9 := f.length_ge
  have header : InRange f.bytes.length 0 TagPktHdr.size := Or.inr (by
    simp only [TagPktHdr.size]
    omega)
  rw [ReqFunc.InBounds, lengthByteOk_iff (by decide) f.length_lt (by omega)]
  simp only [CReqProxyPkt.deserialize, copy_of_inRange header, ok_bind, List.drop_zero,
    TagPktHdr.ofBytes_take_size]
  rw [if_neg (by omega)]
  simp only [Returns.bind_iff]
  constructor
  · rintro ⟨id, hid, dst, hdst, b, hb, rest⟩
    obtain ⟨inside, rfl⟩ := byteAt_eq_ok_iff.mp hb
    refine ⟨inside, fun test => ?_⟩
    rw [if_neg (Nat.not_lt.mpr test), Returns.bind_iff] at rest
    obtain ⟨game, hgame, _⟩ := rest
    obtain ⟨bound, range⟩ := returns_assign_iff.mp ⟨game, hgame⟩
    rcases range with zero | range <;> omega
  · rintro ⟨inside, tested⟩
    obtain ⟨id, hid⟩ := returns_u32At_iff.mpr (show 8 + 4 ≤ f.bytes.length by omega)
    obtain ⟨dst, hdst⟩ := returns_u32At_iff.mpr (show 12 + 4 ≤ f.bytes.length by omega)
    refine ⟨id, hid, dst, hdst, _, byteAt_of_lt inside, ?_⟩
    split
    · exact .pure _
    · next test =>
      obtain ⟨bound, last⟩ := tested (Nat.le_of_not_lt test)
      obtain ⟨game, hgame⟩ := returns_assign_iff.mpr
        (show _ ∧ InRange f.bytes.length 17 _ from ⟨bound, Or.inr (by omega)⟩)
      exact Returns.bind_iff.mpr ⟨game, hgame, .pure _⟩

theorem getProxies_returns_iff (f : FramedBuffer) :
    Returns (CReqGetProxiesPkt.deserialize f.bytes) ↔ ReqFunc.InBounds .getProxies f.bytes := by
  have h9 := f.length_ge
  have header : InRange f.bytes.length 0 TagPktHdr.size := Or.inr (by
    simp only [TagPktHdr.size]
    omega)
  rw [CReqGetProxiesPkt.deserialize, copy_of_inRange header, ok_bind, Returns.bind_iff,
    ReqFunc.InBounds]
  constructor
  · rintro ⟨id, hid, _⟩
    exact returns_u32At_iff.mp ⟨id, hid⟩
  · intro inside
    obtain ⟨id, hid⟩ := returns_u32At_iff.mpr (show 8 + 4 ≤ f.bytes.length from inside)
    exact ⟨id, hid, .pure _⟩

theorem ReqFunc.returns_deserialize_iff (r : ReqFunc) (f : FramedBuffer) :
    Returns (r.deserialize f.bytes) ↔ r.InBounds f.bytes := by
  cases r with
  | login => simpa [ReqFunc.deserialize] using login_returns_iff f
  | proxy => simpa [ReqFunc.deserialize] using proxy_returns_iff f
  | getProxies => simpa [ReqFunc.deserialize] using getProxies_returns_iff f

/-- The log line and the switch of `onReadBody` return whenever the decoder of
the frame's function code does, whatever the session type lets through. -/
theorem dispatch_returns (r : ReqFunc) (f : FramedBuffer) (code : f.hdr.ucFunc = r.code)
    (decoded : Returns (r.deserialize f.bytes)) (sessionType : UInt32) :
    Returns (dispatch sessionType f.hdr f.bytes) := by
  have logged : InRange f.bytes.length 0 (TagPktHdr.size + f.hdr.usBodyLen.toNat) := by
    have same := f.length_eq
    exact Or.inr (by rw [same, FramedBuffer.hdr]; omega)
  rw [dispatch, copy_of_inRange logged, ok_bind, code]
  cases r with
  | login =>
      rw [ReqFunc.code, if_neg (by decide), if_pos rfl]
      simpa [ReqFunc.deserialize] using decoded
  | proxy =>
      rw [ReqFunc.code, if_neg (by decide), if_neg (by decide), if_pos rfl]
      cases mayRequest sessionType with
      | false => exact .pure _
      | true => simpa [ReqFunc.deserialize] using decoded
  | getProxies =>
      rw [ReqFunc.code, if_neg (by decide), if_neg (by decide), if_neg (by decide), if_pos rfl]
      cases mayRequest sessionType with
      | false => exact .pure _
      | true => simpa [ReqFunc.deserialize] using decoded

/-- Decoding a frame returns, and with it the switch of `onReadBody`. -/
def ReqFunc.ReturnsNormally (r : ReqFunc) (f : FramedBuffer) : Prop :=
  Returns (r.deserialize f.bytes) ∧
    (f.hdr.ucFunc = r.code → ∀ sessionType, Returns (dispatch sessionType f.hdr f.bytes))

/-- The frames that a decoder handles without reading past the frame and without
an exception. -/
theorem decode_returnsNormally_iff (r : ReqFunc) (f : FramedBuffer) :
    r.ReturnsNormally f ↔ r.InBounds f.bytes := by
  rw [← r.returns_deserialize_iff]
  constructor
  · intro h
    exact h.1
  · intro h
    exact ⟨h, fun code => dispatch_returns r f code h⟩

/-- A login frame whose only body byte announces four more. -/
def shortLogin : FramedBuffer where
  bytes := [0xDD, 0x05, 0x01, 0x02, 0x01, 0x00, 0x01, 0x00, 0x04]
  length_eq := by decide
  body_pos := by decide

/-- A login frame with the length byte `-1`. -/
def negativeLogin : FramedBuffer where
  bytes := [0xDD, 0x05, 0x01, 0x02, 0x01, 0x00, 0x01, 0x00, 0xFF]
  length_eq := by decide
  body_pos := by decide

theorem decode_not_always_returnsNormally :
    (¬ ∀ (r : ReqFunc) (f : FramedBuffer), r.ReturnsNormally f) ∧
      CReqLoginPkt.new.deserialize shortLogin.bytes = .error .outOfBounds ∧
      CReqLoginPkt.new.deserialize negativeLogin.bytes = .error .lengthError := by
  refine ⟨?_, by decide, by decide⟩
  intro always
  obtain ⟨req, returned⟩ := (always .login shortLogin).1
  have fault : ReqFunc.deserialize .login shortLogin.bytes = .error .outOfBounds := by decide
  rw [fault] at returned
  cases returned

end NatProxy
