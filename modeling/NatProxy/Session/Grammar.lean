import NatProxy.Session.ReadLoop

/-!
# The grammar of the requests

The size tests of the decoders count the header to the body, and their length byte is
signed. A decoder therefore lets through bodies that end up to eight bytes before the
last field, and it rejects every string from 128 bytes on. For each request the frames
are described on which it decides by the grammar of its body alone.
-/

namespace NatProxy

open Memory

/-! ## Reads behind the header -/

theorem copy_append (front rest : Bytes) (off len : Nat) :
    copy (front ++ rest) (front.length + off) len = copy rest off len := by
  have range : InRange (front ++ rest).length (front.length + off) len ↔
      InRange rest.length off len := by
    simp only [InRange, List.length_append]
    omega
  rw [copy, copy, ← List.drop_drop, List.drop_left]
  exact ite_congr (propext range) (fun _ => rfl) fun _ => rfl

theorem byteAt_append (front rest : Bytes) (off : Nat) :
    byteAt (front ++ rest) (front.length + off) = byteAt rest off := by
  have inside : front.length + off < (front ++ rest).length ↔ off < rest.length := by
    rw [List.length_append]
    omega
  have same : (front ++ rest).getD (front.length + off) 0 = rest.getD off 0 := by
    rw [List.getD_eq_getElem?_getD, List.getElem?_append_right (Nat.le_add_right _ _),
      Nat.add_sub_cancel_left, List.getD_eq_getElem?_getD]
  rw [byteAt, byteAt, same]
  exact ite_congr (propext inside) (fun _ => rfl) fun _ => rfl

theorem assign_append (front rest : Bytes) (off len : Nat) :
    assign (front ++ rest) (front.length + off) len = assign rest off len := by
  rw [assign, assign, copy_append]

theorem u32At_append (front rest : Bytes) (off : Nat) :
    u32At (front ++ rest) (front.length + off) = u32At rest off := by
  rw [u32At, u32At, copy_append]

/-- The field at the front of a buffer. -/
theorem u32At_fields {front field rest : Bytes} {off : Nat} (here : front.length = off)
    (size : field.length = 4) :
    u32At (front ++ field ++ rest) off = .ok (UInt32.ofNat (leNat field)) := by
  subst here
  have read : copy (field ++ rest) 0 4 = .ok field := by
    refine copy_eq_ok_iff.mpr ⟨.inr ?_, ?_⟩
    · rw [List.length_append]
      omega
    · rw [List.drop_zero, ← size, List.take_left]
  have moved := u32At_append front (field ++ rest) 0
  rw [Nat.add_zero] at moved
  rw [List.append_assoc, moved, u32At, read]
  rfl

/-! ## The bodies -/

/-- `L`, the guid of `L` bytes, four bytes of address, and further bytes of which the
first one is the type. -/
def CReqLoginPkt.Body (b : Bytes) (pkt : CReqLoginPkt) : Prop :=
  ∃ (len : UInt8) (addr rest : Bytes), b = len :: pkt.szGuid ++ addr ++ rest ∧
    pkt.szGuid.length = len.toNat ∧ addr.length = 4 ∧
    pkt.uiPrivateAddr = UInt32.ofNat (leNat addr) ∧ pkt.uctype = rest.headD 3

/-- Two ids, `L`, the game id of `L` bytes, and further bytes. -/
def CReqProxyPkt.Body (b : Bytes) (pkt : CReqProxyPkt) : Prop :=
  ∃ (id dst : Bytes) (len : UInt8) (rest : Bytes), b = id ++ dst ++ len :: pkt.szGameId ++ rest ∧
    id.length = 4 ∧ dst.length = 4 ∧ pkt.szGameId.length = len.toNat ∧
    pkt.uiId = UInt32.ofNat (leNat id) ∧ pkt.uiDstId = UInt32.ofNat (leNat dst)

/-- An id and further bytes. -/
def CReqGetProxiesPkt.Body (b : Bytes) (pkt : CReqGetProxiesPkt) : Prop :=
  ∃ id rest : Bytes, b = id ++ rest ∧ id.length = 4 ∧ pkt.uiId = UInt32.ofNat (leNat id)

/-- A decoder returns, it accepts exactly when the body has a reading in the grammar, and
then it has read the fields. -/
def DecidedBy {α : Type} (result : Except Fault (Bool × α)) (grammar : α → Prop) : Prop :=
  ∃ ok pkt, result = .ok (ok, pkt) ∧ (ok = true ↔ ∃ r, grammar r) ∧ (ok = true → grammar pkt)

section DecidedBy

variable {α : Type} {grammar : α → Prop}

theorem decidedBy_error (e : Fault) : ¬ DecidedBy (.error e) grammar := by
  rintro ⟨_, _, returned, _⟩
  cases returned

theorem decidedBy_reject {pkt : α} :
    DecidedBy (.ok (false, pkt)) grammar ↔ ¬ ∃ r, grammar r := by
  constructor
  · rintro ⟨_, _, returned, accepts, _⟩ reading
    cases returned
    exact Bool.false_ne_true (accepts.mpr reading)
  · intro none
    exact ⟨false, pkt, rfl, iff_of_false Bool.false_ne_true none, fun ok => by cases ok⟩

theorem decidedBy_accept {pkt : α} (reads : grammar pkt) : DecidedBy (.ok (true, pkt)) grammar :=
  ⟨true, pkt, rfl, iff_of_true rfl ⟨pkt, reads⟩, fun _ => reads⟩

end DecidedBy

/-! ## The size test -/

/-- A size test that adds `fixed` to the length byte decides on a body of `n` bytes as
the grammar does: a string below 128 bytes ends inside the body, or more than eight bytes
behind its end; a longer one, which is always rejected, does not end inside the body. -/
def LengthByteFits (fixed n : Nat) (len : UInt8) : Prop :=
  (len.toNat < 128 ∧ (fixed + len.toNat ≤ n ∨ n + 8 < fixed + len.toNat)) ∨
    (128 ≤ len.toNat ∧ fixed + len.toNat < 256 ∧ n < fixed + len.toNat)

instance (fixed n : Nat) (len : UInt8) : Decidable (LengthByteFits fixed n len) :=
  inferInstanceAs (Decidable (_ ∨ _))

/-- The size test rejects the body, or it accepts a string inside the body, or it lets a
string through that is impossible or ends outside. -/
theorem sizeTest_cases {fixed n : Nat} (len : UInt8) (hf : fixed < 128) (hn : n < 65536)
    (hl : fixed ≤ 8 + n) :
    (8 + n < addSize (sizeOfChar len) fixed ∧
        (LengthByteFits fixed n len ↔ n < fixed + len.toNat)) ∨
      (¬ 8 + n < addSize (sizeOfChar len) fixed ∧ LengthByteFits fixed n len ∧
        len.toNat < 128 ∧ fixed + len.toNat ≤ n) ∨
      (¬ 8 + n < addSize (sizeOfChar len) fixed ∧ ¬ LengthByteFits fixed n len ∧
        (128 ≤ len.toNat ∨ len.toNat < 128 ∧ n < fixed + len.toNat)) := by
  have test := addSize_sizeOfChar_le_iff (b := len) hf (show 8 + n < 65544 by omega) hl
  rw [← Nat.not_lt] at test
  rw [← not_iff_not, Classical.not_not] at test
  rw [test]
  unfold LengthByteFits
  have := len.toNat_lt
  omega

/-! ## LOGIN -/

namespace Frame

variable (f : Frame)

theorem length_body_lt : f.body.length < 65536 := by
  rw [f.length_body]
  exact f.hdr.usBodyLen.toNat_lt

/-- Every decoder copies the header first. -/
theorem copy_header : copy f.bytes 0 TagPktHdr.size = .ok f.hdr.toBytes := by
  refine copy_eq_ok_iff.mpr ⟨.inr ?_, ?_⟩
  · rw [f.length_bytes]
    omega
  · rw [List.drop_zero, bytes, ← f.hdr.length_toBytes, List.take_left]

theorem ofBytes_toBytes : TagPktHdr.ofBytes f.hdr.toBytes = f.hdr := by
  have same := f.hdr.ofBytes_toBytes_append []
  rwa [List.append_nil] at same

/-- What `CReqLoginPkt::deserialize` does to a frame, in terms of the body. -/
theorem login_bytes : CReqLoginPkt.new.deserialize f.bytes = (do
    let len := sizeOfChar (← byteAt f.body 0)
    if 8 + f.body.length < addSize len 5 then
      return (false, { CReqLoginPkt.new with header := f.hdr })
    let szGuid ← assign f.body 1 len
    let uiPrivateAddr ← u32At f.body (1 + len)
    let uctype ←
      if f.body.length = addSize (addSize 1 len) 4 then pure 3
      else if f.body.length > addSize (addSize 1 len) 4 then byteAt f.body (5 + len)
      else pure 0
    return (true, { header := f.hdr, uctype, szGuid, uiPrivateAddr })) := by
  have length : f.bytes.length = 8 + f.body.length := by
    rw [f.length_bytes, f.length_body]
    rfl
  have lengthByte : byteAt f.bytes 8 = byteAt f.body 0 := byteAt_append f.hdr.toBytes f.body 0
  have guid : ∀ len, assign f.bytes 9 len = assign f.body 1 len :=
    assign_append f.hdr.toBytes f.body 1
  have addr : ∀ len, u32At f.bytes (9 + len) = u32At f.body (1 + len) := by
    intro len
    have moved := u32At_append f.hdr.toBytes f.body (1 + len)
    rwa [f.hdr.length_toBytes, ← Nat.add_assoc] at moved
  have type : ∀ len, byteAt f.bytes (13 + len) = byteAt f.body (5 + len) := by
    intro len
    have moved := byteAt_append f.hdr.toBytes f.body (5 + len)
    rwa [f.hdr.length_toBytes, ← Nat.add_assoc] at moved
  rw [CReqLoginPkt.deserialize, if_neg (by omega), f.copy_header]
  simp only [ok_bind, f.ofBytes_toBytes, lengthByte, guid, addr, type, length, f.length_body]

end Frame

namespace CReqLoginPkt

/-- A body that begins with a length byte is in the grammar if it is long enough. -/
theorem exists_body_iff {len : UInt8} {rest : Bytes} :
    (∃ pkt, Body (len :: rest) pkt) ↔ 5 + len.toNat ≤ (len :: rest).length := by
  constructor
  · rintro ⟨pkt, len', addr, more, body, guid, size, _⟩
    rw [List.cons_append, List.cons_append, List.cons.injEq] at body
    obtain ⟨rfl, rfl⟩ := body
    simp only [List.length_cons, List.length_append]
    omega
  · intro long
    rw [List.length_cons] at long
    refine ⟨⟨.zero, ((rest.drop len.toNat).drop 4).headD 3, rest.take len.toNat,
      UInt32.ofNat (leNat ((rest.drop len.toNat).take 4))⟩, len,
      (rest.drop len.toNat).take 4, (rest.drop len.toNat).drop 4, ?_, ?_, ?_, rfl, rfl⟩
    · rw [List.cons_append, List.cons_append, List.append_assoc, List.take_append_drop,
        List.take_append_drop]
    · rw [List.length_take]
      omega
    · rw [List.length_take, List.length_drop]
      omega

/-- A body in the grammar is read field by field. -/
theorem decidedBy_of_fits {f : Frame} {len : UInt8} {rest : Bytes} (body : f.body = len :: rest)
    (short : len.toNat < 128) (inside : 5 + len.toNat ≤ f.body.length)
    (tested : ¬ 8 + f.body.length < addSize (sizeOfChar len) 5) :
    DecidedBy (CReqLoginPkt.new.deserialize f.bytes) (Body f.body) := by
  obtain ⟨pkt, len', addr, more, fields, guid, size, _⟩ :=
    exists_body_iff.mpr (body ▸ inside : 5 + len.toNat ≤ (len :: rest).length)
  rw [← body] at fields
  obtain rfl : len' = len := by
    rw [body, List.cons_append, List.cons_append, List.cons.injEq] at fields
    exact fields.1.symm
  have sum : addSize (addSize 1 len'.toNat) 4 = 5 + len'.toNat := by
    unfold addSize sizeMod
    omega
  have total : f.body.length = 5 + len'.toNat + more.length := by
    rw [fields]
    simp only [List.length_cons, List.length_append]
    omega
  have readLen : byteAt f.body 0 = .ok len' := by
    rw [byteAt_of_lt (by omega), body]
    rfl
  have readGuid : assign f.body 1 len'.toNat = .ok pkt.szGuid := by
    have bound : len'.toNat ≤ stringMaxSize := by
      unfold stringMaxSize
      omega
    rw [assign, if_pos bound, copy_eq_ok_iff]
    refine ⟨.inr (by omega), ?_⟩
    rw [fields, List.cons_append, List.cons_append, List.drop_one, List.tail_cons, ← guid,
      List.append_assoc, List.take_left]
  have readAddr : u32At f.body (1 + len'.toNat) = .ok (UInt32.ofNat (leNat addr)) := by
    rw [fields]
    refine u32At_fields ?_ size
    rw [List.length_cons, guid, Nat.add_comm]
  rw [f.login_bytes, readLen, ok_bind]
  dsimp only
  rw [if_neg tested, sizeOfChar_of_lt short, readGuid, ok_bind, readAddr, ok_bind, sum]
  cases more with
  | nil =>
      rw [List.length_nil, Nat.add_zero] at total
      rw [if_pos total, pure_bind]
      exact decidedBy_accept ⟨len', addr, [], fields, guid, size, rfl, rfl⟩
  | cons type more =>
      have front : (len' :: pkt.szGuid ++ addr).length = 5 + len'.toNat := by
        simp only [List.length_cons, List.length_append]
        omega
      have readType : byteAt f.body (5 + len'.toNat) = .ok type := by
        have read := byteAt_append (len' :: pkt.szGuid ++ addr) (type :: more) 0
        rw [front, Nat.add_zero, ← fields] at read
        rw [read]
        rfl
      rw [List.length_cons] at total
      rw [if_neg (by omega), if_pos (by omega), readType, ok_bind]
      exact decidedBy_accept ⟨len', addr, type :: more, fields, guid, size, rfl, rfl⟩

/-- `CReqLoginPkt::deserialize` decides by the grammar exactly on the bodies with a length
byte that fits. -/
theorem decidedBy_iff (f : Frame) :
    DecidedBy (CReqLoginPkt.new.deserialize f.bytes) (Body f.body) ↔
      1 ≤ f.body.length ∧ LengthByteFits 5 f.body.length (f.body.getD 0 0) := by
  cases body : f.body with
  | nil =>
      have fault : CReqLoginPkt.new.deserialize f.bytes = .error .outOfBounds := by
        rw [f.login_bytes, body]
        rfl
      rw [fault]
      exact iff_of_false (decidedBy_error _) (fun h => by simp at h)
  | cons len rest =>
      have lengthByte : byteAt f.body 0 = .ok len := by
        rw [body]
        rfl
      rw [List.getD_cons_zero, ← body]
      have pos : 1 ≤ f.body.length := by
        rw [body]
        exact Nat.le_add_left 1 _
      simp only [pos, true_and]
      obtain ⟨rejects, fits⟩ | ⟨tested, fits, short, inside⟩ | ⟨tested, misfits, fault⟩ :=
        sizeTest_cases len (show 5 < 128 by omega) f.length_body_lt (by omega)
      · rw [fits, f.login_bytes, lengthByte, ok_bind]
        dsimp only
        rw [if_pos rejects]
        refine decidedBy_reject.trans ?_
        rw [body, exists_body_iff, Nat.not_le]
      · exact iff_of_true (decidedBy_of_fits body short inside tested) fits
      · refine iff_of_false ?_ misfits
        rintro ⟨_, _, returned, _⟩
        rw [f.login_bytes, lengthByte, ok_bind] at returned
        dsimp only at returned
        rw [if_neg tested] at returned
        obtain ⟨guid, readGuid, returned⟩ := bind_eq_ok_iff.mp returned
        obtain ⟨addr, readAddr, _⟩ := bind_eq_ok_iff.mp returned
        have bound := (returns_assign_iff.mp ⟨guid, readGuid⟩).1
        have last := returns_u32At_iff.mp ⟨addr, readAddr⟩
        obtain long | ⟨short, outside⟩ := fault
        · exact absurd bound (Nat.not_le.mpr (stringMaxSize_lt_sizeOfChar long))
        · rw [sizeOfChar_of_lt short] at last
          omega

end CReqLoginPkt

/-! ## PROXY -/

/-- What `CReqProxyPkt::deserialize` does to a frame with a body, in terms of the body. -/
theorem Frame.proxy_bytes (f : Frame) (pos : 1 ≤ f.body.length) :
    CReqProxyPkt.new.deserialize f.bytes = (do
      let uiId ← u32At f.body 0
      let uiDstId ← u32At f.body 4
      let len := sizeOfChar (← byteAt f.body 8)
      if 8 + f.body.length < addSize len 9 then
        return (false, { CReqProxyPkt.new with header := f.hdr, uiId, uiDstId })
      let szGameId ← assign f.body 9 len
      return (true, { header := f.hdr, uiId, uiDstId, szGameId })) := by
  have length : f.bytes.length = 8 + f.body.length := by
    rw [f.length_bytes, f.length_body]
    rfl
  have id : u32At f.bytes 8 = u32At f.body 0 := u32At_append f.hdr.toBytes f.body 0
  have dst : u32At f.bytes 12 = u32At f.body 4 := u32At_append f.hdr.toBytes f.body 4
  have lengthByte : byteAt f.bytes 16 = byteAt f.body 8 := byteAt_append f.hdr.toBytes f.body 8
  have gameId : ∀ len, assign f.bytes 17 len = assign f.body 9 len :=
    assign_append f.hdr.toBytes f.body 9
  rw [CReqProxyPkt.deserialize, if_neg (by omega), f.copy_header]
  simp only [ok_bind, f.ofBytes_toBytes, id, dst, lengthByte, gameId, length]

namespace CReqProxyPkt

/-- A body with two ids and a length byte is in the grammar if it is long enough. -/
theorem exists_body_iff {id dst rest : Bytes} {len : UInt8} (idSize : id.length = 4)
    (dstSize : dst.length = 4) :
    (∃ pkt, Body (id ++ dst ++ len :: rest) pkt) ↔
      9 + len.toNat ≤ (id ++ dst ++ len :: rest).length := by
  constructor
  · rintro ⟨pkt, id', dst', len', more, body, idSize', dstSize', gameId, _⟩
    rw [List.append_assoc (id' ++ dst')] at body
    obtain ⟨_, same⟩ := List.append_inj body (by
      rw [List.length_append, List.length_append]
      omega)
    rw [List.cons_append, List.cons.injEq] at same
    obtain ⟨rfl, rfl⟩ := same
    simp only [List.length_append, List.length_cons]
    omega
  · intro long
    simp only [List.length_append, List.length_cons] at long
    refine ⟨⟨.zero, UInt32.ofNat (leNat id), UInt32.ofNat (leNat dst), rest.take len.toNat⟩, id,
      dst, len, rest.drop len.toNat, ?_, idSize, dstSize, ?_, rfl, rfl⟩
    · rw [List.append_assoc (id ++ dst), List.cons_append, List.take_append_drop]
    · rw [List.length_take]
      omega

/-- The fixed fields of a body. -/
theorem exists_fields {b : Bytes} (long : 9 ≤ b.length) :
    ∃ (id dst : Bytes) (len : UInt8) (rest : Bytes), b = id ++ dst ++ len :: rest ∧
      id.length = 4 ∧ dst.length = 4 := by
  obtain ⟨len, rest, behind⟩ : ∃ len rest, (b.drop 4).drop 4 = len :: rest := by
    refine List.exists_cons_of_length_pos ?_
    rw [List.length_drop, List.length_drop]
    omega
  refine ⟨b.take 4, (b.drop 4).take 4, len, rest, ?_, ?_, ?_⟩
  · rw [← behind, List.append_assoc, List.take_append_drop, List.take_append_drop]
  · rw [List.length_take]
    omega
  · rw [List.length_take, List.length_drop]
    omega

/-- `CReqProxyPkt::deserialize` decides by the grammar exactly on the empty body and on the
bodies that have a length byte that fits. -/
theorem decidedBy_iff (f : Frame) :
    DecidedBy (CReqProxyPkt.new.deserialize f.bytes) (Body f.body) ↔
      f.body.length = 0 ∨
        9 ≤ f.body.length ∧ LengthByteFits 9 f.body.length (f.body.getD 8 0) := by
  rcases Nat.eq_zero_or_pos f.body.length with empty | pos
  · refine iff_of_true ?_ (.inl empty)
    have short : f.bytes.length < 9 := by
      rw [f.length_bytes, ← f.length_body, empty]
      decide
    rw [deserialize, if_pos short]
    refine decidedBy_reject.mpr ?_
    rintro ⟨pkt, id, dst, len, rest, body, _⟩
    rw [body] at empty
    simp at empty
  · rw [f.proxy_bytes pos]
    rcases Nat.lt_or_ge f.body.length 9 with short | long
    · -- the length byte is outside the body
      refine iff_of_false ?_ (by omega)
      rintro ⟨_, _, returned, _⟩
      obtain ⟨_, _, returned⟩ := bind_eq_ok_iff.mp returned
      obtain ⟨_, _, returned⟩ := bind_eq_ok_iff.mp returned
      obtain ⟨_, read, _⟩ := bind_eq_ok_iff.mp returned
      have inside := (byteAt_eq_ok_iff.mp read).1
      omega
    · obtain ⟨id, dst, len, rest, body, idSize, dstSize⟩ := exists_fields long
      have front : (id ++ dst).length = 8 := by
        rw [List.length_append]
        omega
      have readId : u32At f.body 0 = .ok (UInt32.ofNat (leNat id)) := by
        rw [body, List.append_assoc]
        exact (u32At_fields rfl idSize : u32At ([] ++ id ++ (dst ++ len :: rest)) 0 = _)
      have readDst : u32At f.body 4 = .ok (UInt32.ofNat (leNat dst)) := by
        rw [body]
        exact u32At_fields idSize dstSize
      have lengthByte : byteAt f.body 8 = .ok len := by
        have read := byteAt_append (id ++ dst) (len :: rest) 0
        rw [front, Nat.add_zero, ← body] at read
        rw [read]
        rfl
      have fit : f.body.getD 8 0 = len := (byteAt_eq_ok_iff.mp lengthByte).2
      have reading : (∃ pkt, Body f.body pkt) ↔ 9 + len.toNat ≤ f.body.length := by
        rw [body]
        exact exists_body_iff idSize dstSize
      rw [readId, ok_bind, readDst, ok_bind, lengthByte, ok_bind, fit]
      dsimp only
      have notEmpty : f.body.length ≠ 0 := by omega
      simp only [notEmpty, long, false_or, true_and]
      obtain ⟨rejects, fits⟩ | ⟨tested, fits, short, inside⟩ | ⟨tested, misfits, fault⟩ :=
        sizeTest_cases len (show 9 < 128 by omega) f.length_body_lt (by omega)
      · rw [if_pos rejects, fits]
        refine decidedBy_reject.trans ?_
        rw [reading, Nat.not_le]
      · refine iff_of_true ?_ fits
        have bound : len.toNat ≤ stringMaxSize := by
          unfold stringMaxSize
          omega
        have readGame : assign f.body 9 len.toNat = .ok (rest.take len.toNat) := by
          have read := assign_append (id ++ dst ++ [len]) rest 0 len.toNat
          rw [List.append_assoc (id ++ dst), List.singleton_append, ← body, List.length_append,
            front] at read
          rw [body, List.length_append, List.length_cons] at inside
          rw [show 9 = 8 + [len].length + 0 from rfl, read, assign, if_pos bound, copy_eq_ok_iff,
            List.drop_zero]
          exact ⟨.inr (by omega), rfl⟩
        rw [if_neg tested, sizeOfChar_of_lt short, readGame, ok_bind]
        refine decidedBy_accept ⟨id, dst, len, rest.drop len.toNat, ?_, idSize, dstSize, ?_, rfl,
          rfl⟩
        · rw [List.append_assoc (id ++ dst), List.cons_append, List.take_append_drop]
          exact body
        · rw [body, List.length_append, List.length_cons] at inside
          rw [List.length_take]
          omega
      · refine iff_of_false ?_ misfits
        rintro ⟨_, _, returned, _⟩
        rw [if_neg tested] at returned
        obtain ⟨gameId, readGame, _⟩ := bind_eq_ok_iff.mp returned
        obtain ⟨bound, range⟩ := returns_assign_iff.mp ⟨gameId, readGame⟩
        obtain large | ⟨short, outside⟩ := fault
        · exact absurd bound (Nat.not_le.mpr (stringMaxSize_lt_sizeOfChar large))
        · rw [sizeOfChar_of_lt short] at range
          rcases range with zero | range <;> omega

end CReqProxyPkt

/-! ## GETPROXIES -/

/-- `CReqGetProxiesPkt::deserialize` has no size test. -/
theorem CReqGetProxiesPkt.decidedBy_iff (f : Frame) :
    DecidedBy (CReqGetProxiesPkt.deserialize f.bytes) (Body f.body) ↔ 4 ≤ f.body.length := by
  have read : u32At f.bytes 8 = u32At f.body 0 := u32At_append f.hdr.toBytes f.body 0
  rw [deserialize, f.copy_header, ok_bind, read]
  constructor
  · rintro ⟨_, _, returned, _⟩
    obtain ⟨id, readId, _⟩ := bind_eq_ok_iff.mp returned
    have inside := returns_u32At_iff.mp ⟨id, readId⟩
    rwa [Nat.zero_add] at inside
  · intro long
    have size : (f.body.take 4).length = 4 := by
      rw [List.length_take]
      omega
    have readId : u32At f.body 0 = .ok (UInt32.ofNat (leNat (f.body.take 4))) := by
      have fields := (u32At_fields rfl size :
        u32At ([] ++ f.body.take 4 ++ f.body.drop 4) 0 = _)
      rwa [List.nil_append, List.take_append_drop] at fields
    rw [readId, ok_bind, f.ofBytes_toBytes]
    exact decidedBy_accept ⟨f.body.take 4, f.body.drop 4, (List.take_append_drop 4 _).symm, size,
      rfl⟩

/-! ## All requests -/

namespace ReqFunc

/-- The decoder of a request accepts exactly the grammar of its body. -/
def DecidesByGrammar : ReqFunc → Frame → Prop
  | .login, f => DecidedBy (CReqLoginPkt.new.deserialize f.bytes) (CReqLoginPkt.Body f.body)
  | .proxy, f => DecidedBy (CReqProxyPkt.new.deserialize f.bytes) (CReqProxyPkt.Body f.body)
  | .getProxies, f =>
      DecidedBy (CReqGetProxiesPkt.deserialize f.bytes) (CReqGetProxiesPkt.Body f.body)

/-- The bodies on which it does. -/
def Fits : ReqFunc → Bytes → Prop
  | .login, b => 1 ≤ b.length ∧ LengthByteFits 5 b.length (b.getD 0 0)
  | .proxy, b => b.length = 0 ∨ 9 ≤ b.length ∧ LengthByteFits 9 b.length (b.getD 8 0)
  | .getProxies, b => 4 ≤ b.length

theorem decidesByGrammar_iff (r : ReqFunc) (f : Frame) : r.DecidesByGrammar f ↔ r.Fits f.body := by
  cases r with
  | login => exact CReqLoginPkt.decidedBy_iff f
  | proxy => exact CReqProxyPkt.decidedBy_iff f
  | getProxies => exact CReqGetProxiesPkt.decidedBy_iff f

/-- A login with a guid of `n` bytes. -/
def loginOf (n : Nat) (small : n < 256) : Frame where
  hdr := ⟨HEADER.H1, HEADER.H2, PROTOVERSION.V1, SVRVERSION.NOENCRYP, FUNC.REQ.LOGIN, 0,
    UInt16.ofNat (n + 5)⟩
  body := UInt8.ofNat n :: List.replicate n 0x41 ++ leBytes 4 0
  length_body := by
    rw [UInt16.toNat_ofNat', Nat.mod_eq_of_lt (by omega), List.cons_append, List.length_cons,
      List.length_append, List.length_replicate, length_leBytes]

/-- A guid of 128 bytes is rejected. -/
theorem not_always_decidesByGrammar :
    (¬ ∀ (r : ReqFunc) (f : Frame), r.DecidesByGrammar f) ∧
      CReqLoginPkt.new.deserialize (loginOf 128 (by decide)).bytes =
        .ok (false, { CReqLoginPkt.new with header := (loginOf 128 (by decide)).hdr }) := by
  refine ⟨fun always => ?_, by decide +kernel⟩
  have fits := (decidesByGrammar_iff .login (loginOf 128 (by decide))).mp (always _ _)
  exact absurd fits.2 (by decide +kernel)

end ReqFunc

end NatProxy
