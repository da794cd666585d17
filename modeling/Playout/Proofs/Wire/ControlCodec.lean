import Playout.Wire.Control
import Playout.Proofs.Wire.AudioCodec

/-!
# The control-port formats

Resend requests and sync packets read back as they were written, and an eight-byte request in
the shape the receiver sends reads and writes back to itself. A control datagram is refused as
too short exactly below four bytes; past that it is classified by the payload type in the low
seven bits of its second byte (`ControlPacket.decode_eq`), so every retransmission wrapper is
kept as a retransmitted packet and every sync packet written is read as one.

Main statement: `control_codecs_round_trip`.
-/

namespace Playout

namespace ResendRequest

theorem length_encode (q : ResendRequest) : q.encode.length = 8 := by
  simp [encode, Bytes.be16]

theorem decode_encode (q : ResendRequest) : decode q.encode = .ok q := by
  have htype : PayloadType.ofByte (q.encode.byteAt 1) = some .retransmitRequest := by
    rw [PayloadType.ofByte_eq_some_iff]
    simp only [encode, Bytes.byteAt, List.cons_append, List.getD_cons_succ, List.getD_cons_zero]
    decide
  -- the three words sit at offsets 2, 4 and 6, behind the two header bytes
  have hseq : q.encode.u16 2 = q.requestSeq := by
    rw [encode, List.append_assoc, List.append_assoc]
    exact Bytes.u16_at rfl _ _
  have hfirst : q.encode.u16 4 = q.first := by
    rw [encode, List.append_assoc]
    exact Bytes.u16_at (by simp [Bytes.be16]) _ _
  have hcount : q.encode.u16 6 = q.count := by
    rw [encode, ← List.append_nil (Bytes.be16 q.count)]
    exact Bytes.u16_at (by simp [Bytes.be16]) _ _
  rw [decode, if_neg (by rw [length_encode]; decide), if_neg (by rw [htype]; exact not_not_intro rfl), hseq,
    hfirst, hcount]

/-- An eight-byte request in the shape the receiver sends is read, and written back as the same
eight bytes. -/
theorem encode_decode {b : Bytes} (h : b.length = 8) (h0 : b.byteAt 0 = 0x80) (h1 : b.byteAt 1 = 0xd5) :
    decode b = .ok ⟨b.u16 2, b.u16 4, b.u16 6⟩ ∧ (⟨b.u16 2, b.u16 4, b.u16 6⟩ : ResendRequest).encode = b := by
  have htype : PayloadType.ofByte (b.byteAt 1) = some .retransmitRequest := by
    rw [PayloadType.ofByte_eq_some_iff, h1]
    rfl
  have hlen : ¬ b.length < size := by
    rw [h]
    decide
  refine ⟨?_, ?_⟩
  · rw [decode, if_neg hlen, if_neg (by rw [htype]; exact not_not_intro rfl)]
  · have hlast : (b.drop 6).take 2 = b.drop 6 := List.take_of_length_le (by simp [h])
    rw [encode, Bytes.be16_u16 (by omega), Bytes.be16_u16 (by omega), Bytes.be16_u16 (by omega), hlast]
    simp only [List.append_assoc]
    rw [Bytes.take_append_drop_of_add (rfl : 4 + 2 = 6), Bytes.take_append_drop_of_add (rfl : 2 + 2 = 4)]
    rcases b with _ | ⟨x0, _ | ⟨x1, rest⟩⟩
    · simp at h
    · simp at h
    · simp only [Bytes.byteAt, List.getD_cons_zero, List.getD_cons_succ] at h0 h1
      subst h0 h1
      rfl

end ResendRequest

namespace SyncPacket

theorem length_encode (p : SyncPacket) : p.encode.length = 20 := by
  simp [encode, Bytes.be16, Bytes.be32, Bytes.be64]

theorem decode_encode (p : SyncPacket) : decode p.encode = .ok p := by
  have htype : PayloadType.ofByte (p.encode.byteAt 1) = some .sync := by
    rw [PayloadType.ofByte_eq_some_iff]
    simp only [encode, Bytes.byteAt, List.cons_append, List.getD_cons_succ, List.getD_cons_zero]
    decide
  -- the extension flag is bit 4 of the first byte, written as `90` or `80`
  have hext : decide (p.encode.byteAt 0 &&& 0x10 ≠ 0) = p.extension := by
    rcases p with ⟨_ | _, _, _, _⟩ <;>
      simp only [encode, Bytes.byteAt, List.cons_append, List.getD_cons_zero, if_true, if_false,
        Bool.false_eq_true] <;> decide
  have hts : p.encode.u32 4 = p.rtpTimestamp := by
    rw [encode, List.append_assoc, List.append_assoc]
    exact Bytes.u32_at (by simp [Bytes.be16]) _ _
  have hntp : p.encode.u64 8 = p.ntpTime := by
    rw [encode, List.append_assoc]
    exact Bytes.u64_at (by simp [Bytes.be16, Bytes.be32]) _ _
  have hat : p.encode.u32 16 = p.rtpTimestampAtNtp := by
    rw [encode, ← List.append_nil (Bytes.be32 p.rtpTimestampAtNtp)]
    exact Bytes.u32_at (by simp [Bytes.be16, Bytes.be32, Bytes.be64]) _ _
  rw [decode, if_neg (by rw [length_encode]; decide), if_neg (by rw [htype]; exact not_not_intro rfl), hext, hts,
    hntp, hat]

end SyncPacket

namespace ControlPacket

variable {b : Bytes}

theorem decode_short (h : b.length < 4) : decode b = .error (.bufferTooSmall 4 b.length) := by
  rw [decode, if_pos h]

/-- A datagram of four bytes or more is classified by the payload type in the low seven bits of
its second byte. -/
theorem decode_eq (h : 4 ≤ b.length) : decode b =
    if b.byteAt 1 &&& 0x7f = 0x56 then .ok (.resent b)
    else if b.byteAt 1 &&& 0x7f = 0x54 then .sync <$> SyncPacket.decode b
    else .error (.unknownPayloadType (b.byteAt 1 &&& 0x7f)) := by
  rw [decode, if_neg (Nat.not_lt.mpr h)]
  cases hpt : PayloadType.ofByte (b.byteAt 1) with
  | none =>
    -- no payload type at all: neither of the two the channel carries
    have hnone (t : PayloadType) : b.byteAt 1 &&& 0x7f ≠ t.value := fun ht => by
      rw [(PayloadType.ofByte_eq_some_iff _ t).mpr ht] at hpt
      cases hpt
    have h56 : b.byteAt 1 &&& 0x7f ≠ 0x56 := hnone .retransmitResponse
    have h54 : b.byteAt 1 &&& 0x7f ≠ 0x54 := hnone .sync
    rw [if_neg h56, if_neg h54]
  | some t =>
    have ht := (PayloadType.ofByte_eq_some_iff _ _).mp hpt
    cases t <;> simp [ht, PayloadType.value]

theorem decode_eq_tooSmall_iff : decode b = .error (.bufferTooSmall 4 b.length) ↔ b.length < 4 := by
  constructor
  · intro hd
    refine Nat.lt_of_not_le fun h => ?_
    rw [decode_eq h] at hd
    split at hd
    · cases hd
    · split at hd
      · -- a sync packet too short for its fields is refused with its own size, twenty bytes
        unfold SyncPacket.decode at hd
        split at hd
        · cases hd
        · split at hd <;> cases hd
      · cases hd
  · exact decode_short

theorem decode_wrapResent (k : UInt16) (x : Bytes) :
    decode (AudioPacket.wrapResent k x) = .ok (.resent (AudioPacket.wrapResent k x)) := by
  have hlen : 4 ≤ (AudioPacket.wrapResent k x).length := by
    simp [AudioPacket.wrapResent, Bytes.be16]
  have htype : (AudioPacket.wrapResent k x).byteAt 1 &&& 0x7f = 0x56 := by
    simp only [AudioPacket.wrapResent, Bytes.byteAt, List.cons_append, List.getD_cons_succ, List.getD_cons_zero]
    decide
  rw [decode_eq hlen, if_pos htype]

theorem decode_sync (p : SyncPacket) : decode p.encode = .ok (.sync p) := by
  have hlen : 4 ≤ p.encode.length := by
    rw [SyncPacket.length_encode]
    decide
  have htype : p.encode.byteAt 1 &&& 0x7f = 0x54 := by
    simp only [SyncPacket.encode, Bytes.byteAt, List.cons_append, List.getD_cons_succ, List.getD_cons_zero]
    decide
  rw [decode_eq hlen, if_neg (by rw [htype]; decide), if_pos htype, SyncPacket.decode_encode]
  rfl

end ControlPacket

/-- The control-port codecs round-trip and classify consistently. Requests and sync packets read
back as written, and an eight-byte request beginning `80 d5` reads and writes back to itself. A
control datagram is refused as too short exactly below four bytes; otherwise it is kept whole as
a retransmitted packet for type `0x56`, read as a sync packet for type `0x54` (failing as that
reading fails), and refused by its type for every other one. Every retransmission wrapper is
classified as retransmitted. -/
theorem control_codecs_round_trip :
    (∀ q : ResendRequest, ResendRequest.decode q.encode = .ok q) ∧
    (∀ b : Bytes, b.length = 8 → b.byteAt 0 = 0x80 → b.byteAt 1 = 0xd5 →
      ∃ q, ResendRequest.decode b = .ok q ∧ q.encode = b) ∧
    (∀ p : SyncPacket, SyncPacket.decode p.encode = .ok p ∧ ControlPacket.decode p.encode = .ok (.sync p)) ∧
    (∀ b : Bytes, ControlPacket.decode b = .error (.bufferTooSmall 4 b.length) ↔ b.length < 4) ∧
    (∀ b : Bytes, 4 ≤ b.length → ControlPacket.decode b =
      if b.byteAt 1 &&& 0x7f = 0x56 then .ok (.resent b)
      else if b.byteAt 1 &&& 0x7f = 0x54 then .sync <$> SyncPacket.decode b
      else .error (.unknownPayloadType (b.byteAt 1 &&& 0x7f))) ∧
    (∀ (k : UInt16) (x : Bytes),
      ControlPacket.decode (AudioPacket.wrapResent k x) = .ok (.resent (AudioPacket.wrapResent k x))) := by
  refine ⟨ResendRequest.decode_encode, fun b h h0 h1 => ⟨_, ResendRequest.encode_decode h h0 h1⟩,
    fun p => ⟨SyncPacket.decode_encode p, ControlPacket.decode_sync p⟩, fun b => ControlPacket.decode_eq_tooSmall_iff,
    fun b => ControlPacket.decode_eq, ControlPacket.decode_wrapResent⟩

/-- A request for three packets from 65534 reads back, its eight bytes read and write back to
themselves, and a three-byte datagram is too short. -/
theorem resend_request_reads_back :
    ResendRequest.decode (ResendRequest.encode ⟨1, 65534, 3⟩) = .ok ⟨1, 65534, 3⟩ ∧
      (∃ q, ResendRequest.decode [0x80, 0xd5, 0, 1, 0xff, 0xfe, 0, 3] = .ok q ∧
        q.encode = [0x80, 0xd5, 0, 1, 0xff, 0xfe, 0, 3]) ∧
      ControlPacket.decode [0x80, 0xd5, 0] = .error (.bufferTooSmall 4 3) :=
  ⟨control_codecs_round_trip.1 ⟨1, 65534, 3⟩,
    control_codecs_round_trip.2.1 [0x80, 0xd5, 0, 1, 0xff, 0xfe, 0, 3] (by decide) (by decide) (by decide),
    (control_codecs_round_trip.2.2.2.1 [0x80, 0xd5, 0]).2 (by decide)⟩

end Playout
