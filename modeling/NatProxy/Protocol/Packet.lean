import NatProxy.Memory.Buffer

/-!
# The request side of the wire protocol

A frame is an eight-byte header followed by `usBodyLen` body bytes. The session
hands the whole frame, header included, to the decoder of its function code. The
decoders below read the buffer at the offsets that the C++ code computes, in the
same order, so that a read outside the buffer is visible as a fault and a
rejected packet keeps exactly the fields that were written before the rejection.

Packets are created value-initialised, so a field that was never written is zero.
-/

namespace NatProxy

open Memory

namespace HEADER
def H1 : UInt8 := 0xDD
def H2 : UInt8 := 0x05
end HEADER

namespace PROTOVERSION
def V1 : UInt8 := 0x01
end PROTOVERSION

namespace SVRVERSION
def NOENCRYP : UInt8 := 0x02
def ENCRYP : UInt8 := 0x04
end SVRVERSION

namespace FUNC.REQ
def HEARTBEAT : UInt8 := 0x00
def LOGIN : UInt8 := 0x01
def PROXY : UInt8 := 0x02
def GETPROXIES : UInt8 := 0x03
end FUNC.REQ

namespace ERRCODE
def SUCCESS : UInt8 := 0x00
def REPEAT_LOGINED_ERR : UInt8 := 0x01
def LOGINED_FAILED : UInt8 := 0x02
def CREATE_UDP_FAILED : UInt8 := 0x05
end ERRCODE

namespace SESSIONTYPE
def CLIENT : UInt32 := 0x01
def SERVER : UInt32 := 0x02
def ANYONE : UInt32 := 0x03
end SESSIONTYPE

/-- The packet header. Its layout has no padding, so `sizeof` is eight and the
body length occupies bytes six and seven. -/
structure TagPktHdr where
  ucHead1 : UInt8
  ucHead2 : UInt8
  ucPrtVersion : UInt8
  ucSvrVersion : UInt8
  ucFunc : UInt8
  ucKeyIndex : UInt8
  usBodyLen : UInt16
  deriving DecidableEq, Repr

namespace TagPktHdr

/-- `sizeof(TagPktHdr)`. -/
def size : Nat := 8

/-- `bzero(&hdr, sizeof(TagPktHdr))`. -/
def zero : TagPktHdr := ⟨0, 0, 0, 0, 0, 0, 0⟩

/-- The header stored in the first eight bytes of a buffer. -/
def ofBytes (bs : Bytes) : TagPktHdr where
  ucHead1 := bs.getD 0 0
  ucHead2 := bs.getD 1 0
  ucPrtVersion := bs.getD 2 0
  ucSvrVersion := bs.getD 3 0
  ucFunc := bs.getD 4 0
  ucKeyIndex := bs.getD 5 0
  usBodyLen := UInt16.ofNat (leNat ((bs.drop 6).take 2))

/-- The header as the encoders copy it to the front of a packet. -/
def toBytes (hdr : TagPktHdr) : Bytes :=
  [hdr.ucHead1, hdr.ucHead2, hdr.ucPrtVersion, hdr.ucSvrVersion, hdr.ucFunc, hdr.ucKeyIndex] ++
    leBytes 2 hdr.usBodyLen.toNat

/-- The first `memcpy` of a decoder copies the header and nothing else. -/
@[simp] theorem ofBytes_take_size (bs : Bytes) : ofBytes (bs.take size) = ofBytes bs := by
  have drop : ((bs.take size).drop 6).take 2 = (bs.drop 6).take 2 := by
    rw [List.drop_take, List.take_take]
    rfl
  have get : ∀ i, i < size → (bs.take size).getD i 0 = bs.getD i 0 := by
    intro i hi
    simp only [List.getD_eq_getElem?_getD, List.getElem?_take_of_lt hi]
  simp only [ofBytes, drop, get 0 (by decide), get 1 (by decide), get 2 (by decide),
    get 3 (by decide), get 4 (by decide), get 5 (by decide)]

@[simp] theorem length_toBytes (hdr : TagPktHdr) : hdr.toBytes.length = size := by
  simp [toBytes, size]

/-- A header is read back from the bytes that it is sent as. -/
@[simp] theorem ofBytes_toBytes_append (hdr : TagPktHdr) (rest : Bytes) :
    ofBytes (hdr.toBytes ++ rest) = hdr := by
  have len : UInt16.ofNat (leNat (leBytes 2 hdr.usBodyLen.toNat)) = hdr.usBodyLen := by
    have small : hdr.usBodyLen.toNat < 256 ^ 2 := hdr.usBodyLen.toNat_lt
    rw [leNat_leBytes, Nat.mod_eq_of_lt small, UInt16.ofNat_toNat]
  have body : ((hdr.toBytes ++ rest).drop 6).take 2 = leBytes 2 hdr.usBodyLen.toNat := by
    have drop : (hdr.toBytes ++ rest).drop 6 = leBytes 2 hdr.usBodyLen.toNat ++ rest := rfl
    rw [drop, List.take_left' (length_leBytes 2 _)]
  have eta : ofBytes (hdr.toBytes ++ rest) =
      { hdr with usBodyLen := UInt16.ofNat (leNat (((hdr.toBytes ++ rest).drop 6).take 2)) } := rfl
  rw [eta, body, len]

/-- Eight bytes are the header that is read from them. -/
theorem toBytes_ofBytes {bs : Bytes} (length : bs.length = size) : (ofBytes bs).toBytes = bs := by
  have small : leNat ((bs.drop 6).take 2) < 65536 := by
    refine Nat.lt_of_lt_of_le (leNat_lt _) ?_
    rw [List.length_take, List.length_drop, length]
    decide
  have len : leBytes 2 (ofBytes bs).usBodyLen.toNat = (bs.drop 6).take 2 := by
    have two : ((bs.drop 6).take 2).length = 2 := by
      rw [List.length_take, List.length_drop, length]
      rfl
    have back := leBytes_leNat ((bs.drop 6).take 2)
    rw [two] at back
    rw [ofBytes, UInt16.toNat_ofNat', Nat.mod_eq_of_lt small, back]
  rw [toBytes, len]
  match bs, length with
  | [_, _, _, _, _, _, _, _], _ => rfl

/-- The test of `checkHead`. -/
def valid (hdr : TagPktHdr) : Bool :=
  (hdr.ucHead1 == HEADER.H1 && hdr.ucHead2 == HEADER.H2) &&
    (SVRVERSION.ENCRYP == hdr.ucSvrVersion || SVRVERSION.NOENCRYP == hdr.ucSvrVersion)

end TagPktHdr

/-- Four bytes of a buffer as a `uint32_t`. -/
def u32At (p : Bytes) (off : Nat) : Except Fault UInt32 := do
  return UInt32.ofNat (leNat (← copy p off 4))

theorem returns_u32At_iff {p : Bytes} {off : Nat} :
    Returns (u32At p off) ↔ off + 4 ≤ p.length := by
  simp [u32At, InRange]

/-- A login request. -/
structure CReqLoginPkt where
  header : TagPktHdr
  uctype : UInt8
  szGuid : Bytes
  uiPrivateAddr : UInt32
  deriving DecidableEq, Repr

/-- A proxy request. -/
structure CReqProxyPkt where
  header : TagPktHdr
  uiId : UInt32
  uiDstId : UInt32
  szGameId : Bytes
  deriving DecidableEq, Repr

/-- A request for the list of proxies. -/
structure CReqGetProxiesPkt where
  header : TagPktHdr
  uiId : UInt32
  deriving DecidableEq, Repr

/-- `make_shared<CReqLoginPkt>()` value-initialises every member. -/
def CReqLoginPkt.new : CReqLoginPkt := ⟨.zero, 0, [], 0⟩

def CReqProxyPkt.new : CReqProxyPkt := ⟨.zero, 0, 0, []⟩

def CReqGetProxiesPkt.new : CReqGetProxiesPkt := ⟨.zero, 0⟩

/-- The size tests compare with the whole frame `n`, while every offset after
the first `memcpy` is eight bytes further on. -/
def CReqLoginPkt.deserialize (pkt : CReqLoginPkt) (p : Bytes) :
    Except Fault (Bool × CReqLoginPkt) := do
  let n := p.length
  if n < 5 then
    return (false, pkt)
  let header := TagPktHdr.ofBytes (← copy p 0 TagPktHdr.size)
  let len := sizeOfChar (← byteAt p 8)
  if n < addSize len 5 then
    return (false, { pkt with header })
  let szGuid ← assign p 9 len
  let uiPrivateAddr ← u32At p (9 + len)
  -- no byte after the address: the type is ANYONE
  let uctype ←
    if header.usBodyLen.toNat = addSize (addSize 1 len) 4 then pure 3
    else if header.usBodyLen.toNat > addSize (addSize 1 len) 4 then byteAt p (13 + len)
    else pure 0
  return (true, { header, uctype, szGuid, uiPrivateAddr })

def CReqProxyPkt.deserialize (pkt : CReqProxyPkt) (p : Bytes) :
    Except Fault (Bool × CReqProxyPkt) := do
  let n := p.length
  if n < 9 then
    return (false, pkt)
  let header := TagPktHdr.ofBytes (← copy p 0 TagPktHdr.size)
  let uiId ← u32At p 8
  let uiDstId ← u32At p 12
  let len := sizeOfChar (← byteAt p 16)
  if n < addSize len 9 then
    return (false, { pkt with header, uiId, uiDstId })
  let szGameId ← assign p 17 len
  return (true, { header, uiId, uiDstId, szGameId })

def CReqGetProxiesPkt.deserialize (p : Bytes) : Except Fault (Bool × CReqGetProxiesPkt) := do
  let header := TagPktHdr.ofBytes (← copy p 0 TagPktHdr.size)
  let uiId ← u32At p 8
  return (true, { header, uiId })

/-- A decoded request as `onReadBody` passes it to its handler. The handlers are
called whatever `deserialize` returned, so the flag is not part of it. -/
inductive Request
  | none
  | login (req : CReqLoginPkt)
  | proxy (req : CReqProxyPkt)
  | getProxies (req : CReqGetProxiesPkt)
  deriving DecidableEq, Repr

/-- The session types that may ask for a proxy or for the list of proxies. -/
def mayRequest (sessionType : UInt32) : Bool :=
  sessionType == SESSIONTYPE.CLIENT || sessionType == SESSIONTYPE.ANYONE

/-- The switch of `onReadBody` up to the call of the handler. The frame is logged
first, which reads `sizeof(_hdr) + _hdr.usBodyLen` bytes of it. -/
def dispatch (sessionType : UInt32) (hdr : TagPktHdr) (pbuf : Bytes) : Except Fault Request := do
  let _ ← copy pbuf 0 (TagPktHdr.size + hdr.usBodyLen.toNat)
  if hdr.ucFunc = FUNC.REQ.HEARTBEAT then
    return .none
  else if hdr.ucFunc = FUNC.REQ.LOGIN then
    return .login (← CReqLoginPkt.new.deserialize pbuf).2
  else if hdr.ucFunc = FUNC.REQ.PROXY then
    if mayRequest sessionType then
      return .proxy (← CReqProxyPkt.new.deserialize pbuf).2
    else
      return .none
  else if hdr.ucFunc = FUNC.REQ.GETPROXIES then
    if mayRequest sessionType then
      return .getProxies (← CReqGetProxiesPkt.deserialize pbuf).2
    else
      return .none
  else
    return .none

/-- Which request the switch hands on, by the function code and the session type. -/
theorem dispatch_cases {sessionType : UInt32} {hdr : TagPktHdr} {pbuf : Bytes} {req : Request}
    (decoded : dispatch sessionType hdr pbuf = .ok req) :
    match req with
    | .none => True
    | .login _ => hdr.ucFunc = FUNC.REQ.LOGIN
    | .proxy _ => hdr.ucFunc = FUNC.REQ.PROXY ∧ mayRequest sessionType = true
    | .getProxies _ => hdr.ucFunc = FUNC.REQ.GETPROXIES ∧ mayRequest sessionType = true := by
  obtain ⟨_, _, decoded⟩ := bind_eq_ok_iff.mp decoded
  split at decoded
  · cases decoded
    trivial
  · split at decoded
    · next func =>
      obtain ⟨r, _, result⟩ := bind_eq_ok_iff.mp decoded
      cases result
      exact func
    · split at decoded
      · next func =>
        split at decoded
        · next may =>
          obtain ⟨r, _, result⟩ := bind_eq_ok_iff.mp decoded
          cases result
          exact ⟨func, may⟩
        · cases decoded
          trivial
      · split at decoded
        · next func =>
          split at decoded
          · next may =>
            obtain ⟨r, _, result⟩ := bind_eq_ok_iff.mp decoded
            cases result
            exact ⟨func, may⟩
          · cases decoded
            trivial
        · cases decoded
          trivial

end NatProxy
