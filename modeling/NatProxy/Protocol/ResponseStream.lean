import NatProxy.Protocol.Response

/-!
# A stream of responses

Every encoder writes its fields one directly behind the other, from the byte
after the header on, and `size()` is the sum of their lengths. So a serialized
response is the request's header with the length replaced, followed by the fields
in their order (`serialize_eq`), and a receiver that reads a header and then the
number of bytes that the header announces is at the next response.
-/

namespace NatProxy

open Memory

/-! ## The fields of a response -/

/-- The fields are written to consecutive offsets from `off` on. -/
def Consecutive : Nat → List (Nat × Bytes) → Prop
  | _, [] => True
  | off, (start, bs) :: fields => start = off ∧ Consecutive (off + bs.length) fields

/-- Consecutive fields are written behind the part of the buffer that is written. -/
theorem putFields_eq (fields : List (Nat × Bytes)) (front rest : Bytes)
    (consecutive : Consecutive front.length fields)
    (fits : (fields.flatMap Prod.snd).length ≤ rest.length) :
    fields.foldlM (fun buf field => put buf field.1 field.2) (front ++ rest) =
      (.ok (front ++ fields.flatMap Prod.snd ++ rest.drop (fields.flatMap Prod.snd).length) :
        Except Fault Bytes) := by
  induction fields generalizing front rest with
  | nil => simp [pure, Except.pure]
  | cons field fields ih =>
      obtain ⟨off, bs⟩ := field
      obtain ⟨rfl, consecutive⟩ := consecutive
      simp only [List.flatMap_cons, List.length_append] at fits ⊢
      rw [List.foldlM_cons, put_append front rest bs (by omega), ok_bind]
      have step := ih (front ++ bs) (rest.drop bs.length) (by rwa [List.length_append])
        (by rw [List.length_drop]; omega)
      rw [step, List.drop_drop, List.append_assoc front]

namespace CRespPkt

/-- The body of a serialized response. -/
def body (pkt : CRespPkt) : Bytes := pkt.fields.flatMap Prod.snd

/-- The length of the body fits into the length field. -/
def Fits : CRespPkt → Prop
  | .getProxies resp => resp.sessions.length ≤ 65535
  | _ => True

theorem consecutive_fields (pkt : CRespPkt) : Consecutive TagPktHdr.size pkt.fields := by
  cases pkt <;> simp [fields, Consecutive, TagPktHdr.size]

/-- `size()` is the number of bytes that the encoder writes. -/
theorem length_body {pkt : CRespPkt} (fits : pkt.Fits) : pkt.body.length = pkt.size.toNat := by
  cases pkt with
  | getProxies resp =>
      have small : resp.sessions.length ≤ 65535 := fits
      simp only [body, fields, size, List.flatMap_cons, List.flatMap_nil, List.append_nil,
        UInt16.toNat_ofNat']
      omega
  | _ => simp [body, fields, size]

/-- The header of a serialized response. -/
def header (pkt : CRespPkt) (head : TagPktHdr) : TagPktHdr := { head with usBodyLen := pkt.size }

/-- A serialized response is its header and its fields. -/
theorem serialize_eq {pkt : CRespPkt} (fits : pkt.Fits) (head : TagPktHdr) :
    pkt.serialize head = .ok ((pkt.header head).toBytes ++ pkt.body) := by
  obtain ⟨zeros, zerosEq⟩ : ∃ zeros : Bytes,
    List.replicate (TagPktHdr.size + pkt.size.toNat + 1) 0 = zeros := ⟨_, rfl⟩
  have room : zeros.length = TagPktHdr.size + pkt.size.toNat + 1 := by
    rw [← zerosEq, List.length_replicate]
  have length := length_body fits
  have putHead : put zeros 0 head.toBytes = .ok (head.toBytes ++ zeros.drop TagPktHdr.size) := by
    have written := put_append [] zeros head.toBytes (by rw [head.length_toBytes]; omega)
    rwa [head.length_toBytes] at written
  -- the length field is the end of the copied header
  have putLen : put (head.toBytes ++ zeros.drop TagPktHdr.size) 6 (leBytes 2 pkt.size.toNat) =
      .ok ((pkt.header head).toBytes ++ zeros.drop TagPktHdr.size) := by
    have written := put_append [head.ucHead1, head.ucHead2, head.ucPrtVersion, head.ucSvrVersion,
      head.ucFunc, head.ucKeyIndex] (leBytes 2 head.usBodyLen.toNat ++ zeros.drop TagPktHdr.size)
      (leBytes 2 pkt.size.toNat) (by simp)
    rw [length_leBytes, List.drop_left' (length_leBytes 2 _), ← List.append_assoc] at written
    exact written
  have putFields := putFields_eq pkt.fields (pkt.header head).toBytes (zeros.drop TagPktHdr.size)
    (by rw [TagPktHdr.length_toBytes]; exact pkt.consecutive_fields)
    (by rw [List.length_drop, ← body]; omega)
  have cut : ((pkt.header head).toBytes ++ pkt.body).length =
      TagPktHdr.size + pkt.size.toNat := by
    rw [List.length_append, TagPktHdr.length_toBytes, length]
  rw [← body] at putFields
  simp only [serialize, zerosEq, putHead, putLen, putFields, ok_bind]
  exact congrArg Except.ok (List.take_left' cut)

/-- The frame that a response is sent as. -/
def frame (resp : CRespPkt × TagPktHdr) : Bytes := (resp.1.header resp.2).toBytes ++ resp.1.body

theorem length_frame {resp : CRespPkt × TagPktHdr} (fits : resp.1.Fits) :
    (frame resp).length = TagPktHdr.size + resp.1.size.toNat := by
  rw [frame, List.length_append, TagPktHdr.length_toBytes, length_body fits]

end CRespPkt

/-! ## The receiver -/

/-- Read a header, then the number of bytes in its bytes 6 and 7. -/
def takeFrame (stream : Bytes) : Option (Bytes × Bytes) :=
  let len := TagPktHdr.size + leNat ((stream.drop 6).take 2)
  if TagPktHdr.size ≤ stream.length ∧ len ≤ stream.length then
    some (stream.take len, stream.drop len)
  else none

theorem takeFrame_shorter {stream frame rest : Bytes}
    (h : takeFrame stream = some (frame, rest)) : rest.length < stream.length := by
  rw [takeFrame, Option.ite_none_right_eq_some] at h
  obtain ⟨⟨size, _⟩, taken⟩ := h
  obtain ⟨-, rfl⟩ := Prod.mk.inj (Option.some.inj taken)
  rw [List.length_drop]
  rw [TagPktHdr.size] at size ⊢
  omega

/-- Cut a stream into frames. -/
def splitFrames (stream : Bytes) : Option (List Bytes) :=
  if stream = [] then some []
  else
    match h : takeFrame stream with
    | none => none
    | some (frame, rest) =>
        have := takeFrame_shorter h
        (splitFrames rest).map (frame :: ·)
termination_by stream.length

/-- The number in `k` bytes of a body. -/
def field (k : Nat) (body : Bytes) (off : Nat) : Nat := leNat ((body.drop off).take k)

/-- The five kinds of responses. -/
inductive RespKind
  | login
  | proxy
  | access
  | getProxies
  | stopProxy
  deriving DecidableEq, Repr

def CRespPkt.kind : CRespPkt → RespKind
  | .login _ => .login
  | .proxy _ => .proxy
  | .access _ => .access
  | .getProxies _ => .getProxies
  | .stopProxy _ => .stopProxy

/-- The fields of a body, at the offsets of its kind. -/
def decodeBody (body : Bytes) : RespKind → CRespPkt
  | .login => .login { ucErr := body.getD 0 0, uiId := UInt32.ofNat (field 4 body 1) }
  | .proxy => .proxy {
      ucErr := body.getD 0 0
      uiUdpId := UInt32.ofNat (field 4 body 1)
      uiUdpAddr := UInt32.ofNat (field 4 body 5)
      usUdpPort := UInt16.ofNat (field 2 body 9) }
  | .access => .access {
      uiSrcId := UInt32.ofNat (field 4 body 0)
      uiUdpId := UInt32.ofNat (field 4 body 4)
      uiUdpAddr := UInt32.ofNat (field 4 body 8)
      usUdpPort := UInt16.ofNat (field 2 body 12)
      uiPrivateAddr := UInt32.ofNat (field 4 body 14) }
  | .getProxies => .getProxies { sessions := body }
  | .stopProxy => .stopProxy {
      uiUdpId := UInt32.ofNat (field 4 body 0)
      uiUdpAddr := UInt32.ofNat (field 4 body 4)
      usUdpPort := UInt16.ofNat (field 2 body 8) }

@[simp] theorem field_cons (k : Nat) (b : UInt8) (rest : Bytes) (off : Nat) :
    field k (b :: rest) (off + 1) = field k rest off := rfl

/-- A field does not depend on the fields in front of it. -/
theorem field_append {k : Nat} {front rest : Bytes} {off : Nat} (behind : front.length ≤ off) :
    field k (front ++ rest) off = field k rest (off - front.length) := by
  rw [field, field, List.drop_append, List.drop_of_length_le behind, List.nil_append]

@[simp] theorem field_uint32_append (n : UInt32) (rest : Bytes) :
    UInt32.ofNat (field 4 (leBytes 4 n.toNat ++ rest) 0) = n := by
  have small : n.toNat < 256 ^ 4 := n.toNat_lt
  rw [field, List.drop_zero, List.take_left' (length_leBytes 4 _), leNat_leBytes,
    Nat.mod_eq_of_lt small, UInt32.ofNat_toNat]

@[simp] theorem field_uint32 (n : UInt32) : UInt32.ofNat (field 4 (leBytes 4 n.toNat) 0) = n := by
  simpa using field_uint32_append n []

@[simp] theorem field_uint16_append (n : UInt16) (rest : Bytes) :
    UInt16.ofNat (field 2 (leBytes 2 n.toNat ++ rest) 0) = n := by
  have small : n.toNat < 256 ^ 2 := n.toNat_lt
  rw [field, List.drop_zero, List.take_left' (length_leBytes 2 _), leNat_leBytes,
    Nat.mod_eq_of_lt small, UInt16.ofNat_toNat]

@[simp] theorem field_uint16 (n : UInt16) : UInt16.ofNat (field 2 (leBytes 2 n.toNat) 0) = n := by
  simpa using field_uint16_append n []

/-- Every response is read back from its body. -/
theorem decodeBody_body (pkt : CRespPkt) : decodeBody pkt.body pkt.kind = pkt := by
  cases pkt <;>
    simp [decodeBody, CRespPkt.kind, CRespPkt.body, CRespPkt.fields, List.flatMap_cons,
      field_append]

/-- A frame carries a response to a request: it has the length that it announces,
begins with the bytes of the request's header and decodes to the response. -/
structure Carries (resp : CRespPkt × TagPktHdr) (frame : Bytes) : Prop where
  length : frame.length = TagPktHdr.size + field 2 frame 6
  kept : frame.take 6 = resp.2.toBytes.take 6
  decoded : decodeBody (frame.drop TagPktHdr.size) resp.1.kind = resp.1

namespace CRespPkt

variable {resp : CRespPkt × TagPktHdr}

/-- The length in the header of a frame. -/
theorem field_frame (resp : CRespPkt × TagPktHdr) (rest : Bytes) :
    field 2 (frame resp ++ rest) 6 = resp.1.size.toNat := by
  have small : resp.1.size.toNat < 256 ^ 2 := resp.1.size.toNat_lt
  have behind : field 2 (frame resp ++ rest) 6 =
      field 2 (leBytes 2 resp.1.size.toNat ++ (resp.1.body ++ rest)) 0 := by
    rw [frame, TagPktHdr.toBytes, header]
    simp
  rw [behind, field, List.drop_zero, List.take_left' (length_leBytes 2 _), leNat_leBytes,
    Nat.mod_eq_of_lt small]

theorem carries_frame (fits : resp.1.Fits) : Carries resp (frame resp) where
  length := by
    have announced := field_frame resp []
    rw [List.append_nil] at announced
    rw [length_frame fits, announced]
  kept := rfl
  decoded := by
    rw [frame, List.drop_left' (TagPktHdr.length_toBytes _)]
    exact decodeBody_body resp.1

/-- A frame is cut off the front of a stream. -/
theorem takeFrame_frame (fits : resp.1.Fits) (rest : Bytes) :
    takeFrame (frame resp ++ rest) = some (frame resp, rest) := by
  have len : TagPktHdr.size + leNat (((frame resp ++ rest).drop 6).take 2) =
      (frame resp).length := by
    rw [length_frame fits, ← field_frame resp rest, field]
  have enough : TagPktHdr.size ≤ (frame resp ++ rest).length ∧
      (frame resp).length ≤ (frame resp ++ rest).length := by
    rw [List.length_append, length_frame fits]
    omega
  simp only [takeFrame, len, if_pos enough, List.take_left, List.drop_left]

end CRespPkt

theorem splitFrames_cons {stream frame rest : Bytes}
    (taken : takeFrame stream = some (frame, rest)) :
    splitFrames stream = (splitFrames rest).map (frame :: ·) := by
  have nonempty : stream ≠ [] := by
    rintro rfl
    exact absurd (takeFrame_shorter taken) (Nat.not_lt_zero _)
  rw [splitFrames, if_neg nonempty]
  split
  · next none =>
    rw [taken] at none
    cases none
  · next frame' rest' taken' =>
    obtain ⟨rfl, rfl⟩ := Prod.mk.inj (Option.some.inj (taken.symm.trans taken'))
    rfl

/-- A stream of frames is cut into the frames. -/
theorem splitFrames_flatten (resps : List (CRespPkt × TagPktHdr))
    (fits : ∀ resp ∈ resps, resp.1.Fits) :
    splitFrames (resps.map CRespPkt.frame).flatten = some (resps.map CRespPkt.frame) := by
  induction resps with
  | nil => rw [List.map_nil, List.flatten_nil, splitFrames, if_pos rfl]
  | cons resp resps ih =>
      rw [List.forall_mem_cons] at fits
      rw [List.map_cons, List.flatten_cons,
        splitFrames_cons (CRespPkt.takeFrame_frame fits.1 _), ih fits.2]
      rfl

/-- Whatever the responses and the request headers, the stream of the serialized
responses is cut into as many frames, each of which carries its response. -/
theorem stream_roundTrip (resps : List (CRespPkt × TagPktHdr))
    (fits : ∀ resp ∈ resps, resp.1.Fits) :
    ∃ frames, resps.mapM (fun resp => resp.1.serialize resp.2) = .ok frames ∧
      splitFrames frames.flatten = some frames ∧ List.Forall₂ Carries resps frames := by
  refine ⟨resps.map CRespPkt.frame, ?_, splitFrames_flatten resps fits, ?_⟩
  · induction resps with
    | nil => rfl
    | cons resp resps ih =>
        rw [List.forall_mem_cons] at fits
        rw [List.mapM_cons, CRespPkt.serialize_eq fits.1, ok_bind, ih fits.2, ok_bind]
        rfl
  · induction resps with
    | nil => exact .nil
    | cons resp resps ih =>
        rw [List.forall_mem_cons] at fits
        exact .cons (CRespPkt.carries_frame fits.1) (ih fits.2)

/-- A response to a login, a list of proxies and the announcement of a stopped end. -/
theorem stream_roundTrip_three :
    ∃ first second third, splitFrames (first ++ (second ++ third)) = some [first, second, third] ∧
      decodeBody (second.drop TagPktHdr.size) .getProxies = .getProxies ⟨[1, 2, 3]⟩ ∧
      decodeBody (third.drop TagPktHdr.size) .stopProxy =
        .stopProxy ⟨1, 0x7F000001, 0x1000⟩ := by
  obtain ⟨frames, _, split, carries⟩ := stream_roundTrip
    [(.login ⟨0, 1000⟩, .zero), (.getProxies ⟨[1, 2, 3]⟩, .zero),
      (.stopProxy ⟨1, 0x7F000001, 0x1000⟩, .zero)]
    (by simp [CRespPkt.Fits])
  obtain _ | ⟨_, _ | ⟨second, _ | ⟨third, _ | _⟩⟩⟩ := carries
  simp only [List.flatten_cons, List.flatten_nil, List.append_nil] at split
  exact ⟨_, _, _, split, second.decoded, third.decoded⟩

end NatProxy
