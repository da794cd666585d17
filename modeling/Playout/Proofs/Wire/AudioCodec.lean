import Playout.Engine.Control
import Playout.Proofs.Wire.BigEndian

/-!
# The audio datagram format

An audio datagram is read by three checks in turn (length, version, payload type) and then by
its fixed fields. The checks are said once, as `AudioPacket.parse_eq`, and each outcome of a
reading follows from it. Writing and reading undo each other on the format: what `encode`
writes reads back, and a datagram that reads and begins with the two bytes `encode` writes is
what `encode` writes for its fields (`AudioPacket.encode_of_parse`).

The player chooses the reading by the payload type of the second byte
(`Engine.receive_eq_deliver`), so a packet and its copy behind the retransmission prefix are
put alike (`Engine.receive_wrapResent_eq`).

Main statement: `audio_packet_codec_bijective`.
-/

namespace Playout

namespace PayloadType

/-- A header byte names a payload type exactly when its low seven bits are that type's value. -/
theorem ofByte_eq_some_iff (x : UInt8) (t : PayloadType) : ofByte x = some t ↔ x &&& 0x7f = t.value := by
  unfold ofByte
  constructor
  · intro h
    split at h <;> cases h <;> exact UInt8.toNat_inj.mp ‹_›
  · intro h
    rw [h]
    cases t <;> rfl

theorem ofByte_isAudio_iff (x : UInt8) :
    (∃ t, ofByte x = some t ∧ t.isAudio = true) ↔ x &&& 0x7f = 0x60 ∨ x &&& 0x7f = 0x61 := by
  simp only [ofByte_eq_some_iff]
  constructor
  · rintro ⟨t, ht, haudio⟩
    cases t <;> simp_all [isAudio, value]
  · rintro (h | h)
    · exact ⟨.audioRealtime, h, rfl⟩
    · exact ⟨.audioBuffered, h, rfl⟩

end PayloadType

namespace AudioPacket

theorem version_bits (x : UInt8) : (x >>> 6) &&& (3 : UInt8) = x >>> 6 := by
  apply UInt8.toNat_inj.mp
  have hx := x.toNat_lt
  rw [UInt8.toNat_and, UInt8.toNat_shiftRight, show (6 : UInt8).toNat % 8 = 6 from rfl,
    show (3 : UInt8).toNat = 3 from rfl, Nat.and_two_pow_sub_one_eq_mod _ 2, Nat.shiftRight_eq_div_pow]
  omega

/-- The checks `parse` makes, in its order: the length, the version in the top two bits of the
first byte, and the payload type in the low seven bits of the second. -/
theorem parse_eq (b : Bytes) : parse b =
    if b.length < 12 then .error (.bufferTooSmall 12 b.length)
    else if b.byteAt 0 >>> 6 ≠ 2 then .error (.invalidVersion (b.byteAt 0 >>> 6))
    else if b.byteAt 1 &&& 0x7f = 0x60 ∨ b.byteAt 1 &&& 0x7f = 0x61 then
      .ok ⟨b.u16 2, b.u32 4, b.u32 8, b.drop 12⟩
    else .error (.unknownPayloadType (b.byteAt 1 &&& 0x7f)) := by
  unfold parse headerSize
  rw [version_bits]
  by_cases ht : b.byteAt 1 &&& 0x7f = 0x60 ∨ b.byteAt 1 &&& 0x7f = 0x61
  · obtain ⟨t, hpt, haudio⟩ := (PayloadType.ofByte_isAudio_iff _).mpr ht
    simp only [hpt, haudio, ht, if_true]
  · rw [if_neg ht]
    -- a type that is not audio, or no type at all, is refused with the same error
    cases hpt : PayloadType.ofByte (b.byteAt 1) with
    | none => rfl
    | some t =>
      have hnot : t.isAudio = false := by
        cases ha : t.isAudio
        · rfl
        · exact absurd ((PayloadType.ofByte_isAudio_iff _).mp ⟨t, hpt, ha⟩) ht
      simp only [hnot, Bool.false_eq_true, if_false]

variable {b : Bytes}

theorem parse_short (h : b.length < 12) : parse b = .error (.bufferTooSmall 12 b.length) := by
  rw [parse_eq, if_pos h]

theorem parse_bad_version (h : 12 ≤ b.length) (hv : b.byteAt 0 >>> 6 ≠ 2) :
    parse b = .error (.invalidVersion (b.byteAt 0 >>> 6)) := by
  rw [parse_eq, if_neg (Nat.not_lt.mpr h), if_pos hv]

theorem parse_not_audio (h : 12 ≤ b.length) (hv : b.byteAt 0 >>> 6 = 2)
    (ht : ¬ (b.byteAt 1 &&& 0x7f = 0x60 ∨ b.byteAt 1 &&& 0x7f = 0x61)) :
    parse b = .error (.unknownPayloadType (b.byteAt 1 &&& 0x7f)) := by
  rw [parse_eq, if_neg (Nat.not_lt.mpr h), if_neg (not_not_intro hv), if_neg ht]

theorem parse_audio (h : 12 ≤ b.length) (hv : b.byteAt 0 >>> 6 = 2)
    (ht : b.byteAt 1 &&& 0x7f = 0x60 ∨ b.byteAt 1 &&& 0x7f = 0x61) :
    parse b = .ok ⟨b.u16 2, b.u32 4, b.u32 8, b.drop 12⟩ := by
  rw [parse_eq, if_neg (Nat.not_lt.mpr h), if_neg (not_not_intro hv), if_pos ht]

theorem parse_ok_iff : (∃ p, parse b = .ok p) ↔
    12 ≤ b.length ∧ b.byteAt 0 >>> 6 = 2 ∧ (b.byteAt 1 &&& 0x7f = 0x60 ∨ b.byteAt 1 &&& 0x7f = 0x61) := by
  constructor
  · rintro ⟨p, hp⟩
    rw [parse_eq] at hp
    split at hp
    · cases hp
    · split at hp
      · cases hp
      · split at hp
        · rename_i hlen hv ht
          exact ⟨Nat.le_of_not_lt hlen, Decidable.of_not_not hv, ht⟩
        · cases hp
  · rintro ⟨h, hv, ht⟩
    exact ⟨_, parse_audio h hv ht⟩

/-- A datagram that reads as a packet and starts with the two bytes `encode` writes is what
`encode` writes for that packet. -/
theorem encode_of_parse {p : AudioPacket} (hp : parse b = .ok p) (h0 : b.byteAt 0 = 0x80)
    (h1 : b.byteAt 1 = 0xe0) : encode p.sequence p.timestamp p.ssrc p.payload = b := by
  obtain ⟨h, hv, ht⟩ := parse_ok_iff.mp ⟨p, hp⟩
  rw [parse_audio h hv ht] at hp
  cases hp
  -- each field is written back as the bytes it was read from, and the fields tile the datagram
  rw [encode, Bytes.be16_u16 (by omega), Bytes.be32_u32 (by omega), Bytes.be32_u32 (by omega)]
  simp only [List.append_assoc]
  rw [Bytes.take_append_drop_of_add (rfl : 8 + 4 = 12), Bytes.take_append_drop_of_add (rfl : 4 + 4 = 8),
    Bytes.take_append_drop_of_add (rfl : 2 + 2 = 4)]
  rcases b with _ | ⟨x0, _ | ⟨x1, rest⟩⟩
  · simp at h
  · simp at h
  · simp only [Bytes.byteAt, List.getD_cons_zero, List.getD_cons_succ] at h0 h1
    subst h0 h1
    rfl

/-- Behind the retransmission prefix, any datagram long enough to hold a header reads as it
reads alone. -/
theorem parseResent_wrapResent_eq (k : UInt16) (h : 12 ≤ b.length) :
    parseResent (wrapResent k b) = parse b := by
  have hprefix : ([0x80, 0x80 ||| PayloadType.retransmitResponse.value] ++ Bytes.be16 k).length = 4 := by
    simp [Bytes.be16]
  have hlen : ¬ (wrapResent k b).length < resendPrefixSize + headerSize := by
    rw [wrapResent, List.length_append, hprefix, resendPrefixSize, headerSize]
    omega
  rw [parseResent, if_neg hlen, wrapResent, resendPrefixSize, List.drop_left' hprefix]

end AudioPacket

namespace Engine

/-- What the player does with a datagram once it has been read: a packet goes into the buffer,
and why a datagram could not be read is reported. -/
def deliver (e : Engine) :
    Except PacketError AudioPacket → Except Fault (Except PacketError (Option PutOutcome × Engine))
  | .error err => .ok (.error err)
  | .ok packet => .ok <$> e.put packet.sequence packet.timestamp packet.payload

/-- A datagram is read behind the retransmission prefix exactly when its second byte has type
`0x56`, and as a plain packet otherwise. -/
theorem receive_eq_deliver (e : Engine) (b : Bytes) :
    e.receive b = e.deliver
      (if b.byteAt 1 &&& 0x7f = 0x56 then AudioPacket.parseResent b else AudioPacket.parse b) := by
  unfold receive
  cases hx : b[1]? with
  | none =>
    have hzero : b.byteAt 1 = 0 := by simp [Bytes.byteAt, List.getD_eq_getElem?_getD, hx]
    rw [hzero, if_neg (by decide)]
    cases AudioPacket.parse b <;> rfl
  | some x =>
    have hat : b.byteAt 1 = x := by simp [Bytes.byteAt, List.getD_eq_getElem?_getD, hx]
    rw [hat, show (some x >>= PayloadType.ofByte) = PayloadType.ofByte x from rfl]
    by_cases hr : x &&& 0x7f = 0x56
    · rw [(PayloadType.ofByte_eq_some_iff x .retransmitResponse).mpr hr, if_pos hr]
      cases AudioPacket.parseResent b <;> rfl
    · rw [if_neg hr]
      cases hpt : PayloadType.ofByte x with
      | none => cases AudioPacket.parse b <;> rfl
      | some t =>
        -- every other payload type falls through to the plain reading
        cases t
        case retransmitResponse => exact absurd ((PayloadType.ofByte_eq_some_iff _ _).mp hpt) hr
        all_goals cases AudioPacket.parse b <;> rfl

theorem receive_wrapResent_eq (e : Engine) (k : UInt16) {b : Bytes} (h : 12 ≤ b.length)
    (ht : b.byteAt 1 &&& 0x7f ≠ 0x56) : e.receive (AudioPacket.wrapResent k b) = e.receive b := by
  have hwrapped : (AudioPacket.wrapResent k b).byteAt 1 &&& 0x7f = 0x56 := by
    simp only [AudioPacket.wrapResent, Bytes.byteAt, List.cons_append, List.getD_cons_succ, List.getD_cons_zero]
    decide
  rw [receive_eq_deliver, receive_eq_deliver, if_pos hwrapped, if_neg ht,
    AudioPacket.parseResent_wrapResent_eq k h]

end Engine

/-- The audio datagram codec is a bijection on its format. Reading undoes writing, also behind
the retransmission prefix. A datagram reads exactly when it holds a header of version 2 and an
audio payload type, and otherwise fails at the first of the three checks it does not pass. A
datagram that reads and begins `80 e0` is what writing its fields gives. The player reads a
datagram behind the prefix exactly when its second byte has type `0x56`, so a packet and its
retransmitted copy are put alike. -/
theorem audio_packet_codec_bijective :
    (∀ (seq : UInt16) (ts ssrc : UInt32) (payload : Bytes),
      AudioPacket.parse (AudioPacket.encode seq ts ssrc payload) = .ok ⟨seq, ts, ssrc, payload⟩ ∧
      ∀ k, AudioPacket.parseResent (AudioPacket.wrapResent k (AudioPacket.encode seq ts ssrc payload)) =
        .ok ⟨seq, ts, ssrc, payload⟩) ∧
    (∀ b : Bytes, (∃ p, AudioPacket.parse b = .ok p) ↔
      12 ≤ b.length ∧ b.byteAt 0 >>> 6 = 2 ∧ (b.byteAt 1 &&& 0x7f = 0x60 ∨ b.byteAt 1 &&& 0x7f = 0x61)) ∧
    (∀ b : Bytes, b.length < 12 → AudioPacket.parse b = .error (.bufferTooSmall 12 b.length)) ∧
    (∀ b : Bytes, 12 ≤ b.length → b.byteAt 0 >>> 6 ≠ 2 →
      AudioPacket.parse b = .error (.invalidVersion (b.byteAt 0 >>> 6))) ∧
    (∀ b : Bytes, 12 ≤ b.length → b.byteAt 0 >>> 6 = 2 →
      ¬ (b.byteAt 1 &&& 0x7f = 0x60 ∨ b.byteAt 1 &&& 0x7f = 0x61) →
      AudioPacket.parse b = .error (.unknownPayloadType (b.byteAt 1 &&& 0x7f))) ∧
    (∀ (b : Bytes) (p : AudioPacket), AudioPacket.parse b = .ok p → b.byteAt 0 = 0x80 →
      b.byteAt 1 = 0xe0 → AudioPacket.encode p.sequence p.timestamp p.ssrc p.payload = b) ∧
    (∀ (e : Engine) (b : Bytes), e.receive b =
      e.deliver (if b.byteAt 1 &&& 0x7f = 0x56 then AudioPacket.parseResent b else AudioPacket.parse b)) ∧
    (∀ (e : Engine) (k : UInt16) (b : Bytes) (p : AudioPacket), AudioPacket.parse b = .ok p →
      e.receive (AudioPacket.wrapResent k b) = e.receive b) := by
  refine ⟨fun seq ts ssrc payload => ⟨AudioPacket.parse_encode .., fun k => AudioPacket.parseResent_wrapResent ..⟩,
    fun b => AudioPacket.parse_ok_iff, fun b => AudioPacket.parse_short, fun b => AudioPacket.parse_bad_version,
    fun b => AudioPacket.parse_not_audio, fun b p => AudioPacket.encode_of_parse, Engine.receive_eq_deliver, ?_⟩
  intro e k b p hp
  obtain ⟨h, -, ht⟩ := AudioPacket.parse_ok_iff.mp ⟨p, hp⟩
  -- an audio packet's second byte does not carry the retransmission type
  have hnot : b.byteAt 1 &&& 0x7f ≠ 0x56 := by
    rcases ht with ht | ht <;> rw [ht] <;> decide
  exact Engine.receive_wrapResent_eq e k h hnot

/-- A packet at the wrap of both counters reads back behind the retransmission prefix, a
two-byte datagram is too short, and a datagram beginning `80 e0` is what writing its fields gives. -/
theorem audio_packet_wrap_reads_back :
    AudioPacket.parseResent (AudioPacket.wrapResent 7 (AudioPacket.encode 65535 4294967295 1 [1, 2, 3])) =
        .ok ⟨65535, 4294967295, 1, [1, 2, 3]⟩ ∧
      AudioPacket.parse [0x80, 0xe0] = .error (.bufferTooSmall 12 2) ∧
      AudioPacket.encode 5 9 1 [42] = [0x80, 0xe0, 0, 5, 0, 0, 0, 9, 0, 0, 0, 1, 42] :=
  ⟨(audio_packet_codec_bijective.1 65535 4294967295 1 [1, 2, 3]).2 7,
    audio_packet_codec_bijective.2.2.1 [0x80, 0xe0] (by decide),
    audio_packet_codec_bijective.2.2.2.2.2.1 [0x80, 0xe0, 0, 5, 0, 0, 0, 9, 0, 0, 0, 1, 42] ⟨5, 9, 1, [42]⟩
      rfl (by decide) (by decide)⟩

end Playout
