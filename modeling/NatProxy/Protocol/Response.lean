import NatProxy.Protocol.Packet

/-!
# The response side of the wire protocol

Every `serialize` allocates a zeroed buffer for the header and `size()` body
bytes, copies the request's header to its front, overwrites the length field and
copies the fields to fixed offsets. The encoders differ in `size()` and in these
offsets only.
-/

namespace NatProxy

open Memory

namespace FUNC.RESP
def ACCESS : UInt8 := 0x04
def STOPPROXY : UInt8 := 0x05
end FUNC.RESP

structure CRespLogin where
  ucErr : UInt8
  uiId : UInt32
  deriving DecidableEq, Repr

structure CRespProxy where
  ucErr : UInt8
  uiUdpId : UInt32
  uiUdpAddr : UInt32
  usUdpPort : UInt16
  deriving DecidableEq, Repr

structure CRespAccess where
  uiSrcId : UInt32
  uiUdpId : UInt32
  uiUdpAddr : UInt32
  usUdpPort : UInt16
  uiPrivateAddr : UInt32
  deriving DecidableEq, Repr

structure CRespGetProxies where
  sessions : Bytes
  deriving DecidableEq, Repr

structure CRespStopProxy where
  uiUdpId : UInt32
  uiUdpAddr : UInt32
  usUdpPort : UInt16
  deriving DecidableEq, Repr

/-- The five responses. -/
inductive CRespPkt
  | login (resp : CRespLogin)
  | proxy (resp : CRespProxy)
  | access (resp : CRespAccess)
  | getProxies (resp : CRespGetProxies)
  | stopProxy (resp : CRespStopProxy)
  deriving DecidableEq, Repr

namespace CRespPkt

/-- `size()` of each response, as a `uint16_t`. -/
def size : CRespPkt → UInt16
  | .login _ => 1 + 4
  | .proxy _ => 1 + 4 + 4 + 2
  | .access _ => 4 + 4 + 4 + 2 + 4
  | .getProxies resp => UInt16.ofNat resp.sessions.length
  | .stopProxy _ => 4 + 4 + 2

/-- The offsets and the bytes that each encoder copies after the header. -/
def fields : CRespPkt → List (Nat × Bytes)
  | .login resp =>
      [(8, [resp.ucErr]), (9, leBytes 4 resp.uiId.toNat)]
  | .proxy resp =>
      [(8, [resp.ucErr]), (9, leBytes 4 resp.uiUdpId.toNat),
        (9 + 4, leBytes 4 resp.uiUdpAddr.toNat), (9 + 4 + 4, leBytes 2 resp.usUdpPort.toNat)]
  | .access resp =>
      [(8, leBytes 4 resp.uiSrcId.toNat), (8 + 4, leBytes 4 resp.uiUdpId.toNat),
        (8 + 4 + 4, leBytes 4 resp.uiUdpAddr.toNat),
        (8 + 4 + 4 + 4, leBytes 2 resp.usUdpPort.toNat),
        (8 + 4 + 4 + 4 + 2, leBytes 4 resp.uiPrivateAddr.toNat)]
  | .getProxies resp => [(8, resp.sessions)]
  | .stopProxy resp =>
      [(8, leBytes 4 resp.uiUdpId.toNat), (8 + 4, leBytes 4 resp.uiUdpAddr.toNat),
        (8 + 4 + 4, leBytes 2 resp.usUdpPort.toNat)]

/-- `serialize` of each response. -/
def serialize (pkt : CRespPkt) (head : TagPktHdr) : Except Fault Bytes := do
  let len := TagPktHdr.size + pkt.size.toNat
  let buf ← put (List.replicate (len + 1) 0) 0 head.toBytes
  let buf ← put buf 6 (leBytes 2 pkt.size.toNat)
  let buf ← pkt.fields.foldlM (fun buf field => put buf field.1 field.2) buf
  return buf.take len

/-- The `length()` of a serialized response. -/
def length (pkt : CRespPkt) : Nat := TagPktHdr.size + pkt.size.toNat

end CRespPkt

/-- `host_to_network_short` on a little-endian machine. -/
def hostToNetworkShort (port : UInt16) : UInt16 := (port <<< 8) ||| (port >>> 8)

end NatProxy
