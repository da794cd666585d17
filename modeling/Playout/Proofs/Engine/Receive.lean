import Playout.Proofs.Engine.Phases
import Playout.Sender
import Playout.Proofs.Cipher.Inverse
import Playout.Proofs.Wire.BigEndian

/-!
# What a session makes of the packets a sender sends

A frame of 16-bit samples sent on an L16 stream arrives intact. The sender codes it
big-endian, enciphers the whole blocks when the stream is encrypted and puts the RTP header
in front; a session on the same stream parameters deciphers with the same cipher, decodes the
samples back and puts exactly that frame into its buffer, under the packet's sequence number
and timestamp, whether the datagram comes plain or behind the retransmission prefix.

The layers are taken one at a time: the L16 coding (`decodeL16_l16`), the cipher both sides
build from the key material (`create_of_pcm`), the payload (`decode_payload`) and the
dispatch on the second byte of a datagram (`Engine.receive_encode`,
`Engine.receive_wrapResent`). The decoder deciphers into a scratch buffer it keeps from one
payload to the next, and what the buffer held leaves no trace (`FrameDecoder.decode_eq`).
-/

namespace Playout

/-! ## Big-endian samples -/

theorem u16_append_two {bs : Bytes} (hbs : bs.length = 2) (rest : Bytes) (i : Nat) :
    (bs ++ rest).u16 (2 * (i + 1)) = rest.u16 (2 * i) := by
  rw [Bytes.u16, show 2 * (i + 1) = 2 + 2 * i by omega, Bytes.readBE_append hbs, Bytes.u16]

theorem signed16_ofInt {x : Int} (h : -32768 ≤ x ∧ x < 32768) : signed16 (UInt16.ofInt x) = x := by
  have h1 : Nat.pow 2 (16 - 1) = 32768 := rfl
  simp only [signed16, signedOf, h1, pow_two_16, UInt16.ofInt]
  simp
  split <;> omega

@[simp] theorem l16_nil : PacketFactory.l16 [] = [] := rfl

@[simp] theorem l16_cons (x : Int) (xs : List Int) :
    PacketFactory.l16 (x :: xs) = Bytes.be16 (UInt16.ofInt x) ++ PacketFactory.l16 xs := by
  simp [PacketFactory.l16]

@[simp] theorem length_l16 (pcm : List Int) : (PacketFactory.l16 pcm).length = 2 * pcm.length := by
  induction pcm with
  | nil => rfl
  | cons x xs ih =>
    simp [Bytes.be16, ih]
    omega

theorem samples_l16 (pcm : List Int) :
    (List.range pcm.length).map (fun i => signed16 ((PacketFactory.l16 pcm).u16 (2 * i))) =
      pcm.map fun x => signed16 (UInt16.ofInt x) := by
  induction pcm with
  | nil => simp
  | cons x xs ih =>
    have htwo : (Bytes.be16 (UInt16.ofInt x)).length = 2 := by simp [Bytes.be16]
    have hfirst : (Bytes.be16 (UInt16.ofInt x) ++ PacketFactory.l16 xs).u16 0 = UInt16.ofInt x :=
      @Bytes.u16_at [] 0 rfl _ _
    -- the first word is the first sample's, the others are read past its two bytes
    rw [List.length_cons, List.range_succ_eq_map, List.map_cons, List.map_map, l16_cons, Nat.mul_zero,
      hfirst, List.map_cons, ← ih]
    simp only [Function.comp_def, u16_append_two htwo]

theorem decodeL16_l16 {pcm : List Int} (hpcm : ∀ x ∈ pcm, -32768 ≤ x ∧ x < 32768) :
    decodeL16 (PacketFactory.l16 pcm) = .ok pcm := by
  have hhalf : 2 * pcm.length / 2 = pcm.length := by omega
  rw [decodeL16, length_l16, if_neg (by omega), hhalf, samples_l16]
  congr 1
  conv => rhs; rw [← List.map_id pcm]
  exact List.map_congr_left fun x hx => signed16_ofInt (hpcm x hx)

/-! ## Both ends of an L16 stream -/

/-- The decoder of an L16 stream takes whole frames of L16 and deciphers with the cipher the
sender of the stream enciphers with. -/
theorem create_of_pcm {p : StreamParams} (hcodec : p.codec = .pcm) {d : FrameDecoder}
    (hdec : FrameDecoder.create p = .ok d) :
    d.codec = .l16 ∧ d.frameSamples = p.frameSamples ∧ d.cipher = (PacketFactory.create p).cipher := by
  have hbuilt (c : Option CbcCipher) (h : (⟨c, .l16, p.frameSamples, []⟩ : FrameDecoder) = d) :
      d.codec = .l16 ∧ d.frameSamples = p.frameSamples ∧ d.cipher = c := by
    subst h
    simp
  -- the decoder is built only when the key material makes a cipher, the same one the sender makes
  rcases hk : p.aesKey with _ | key <;> rcases hi : p.aesIv with _ | iv
  case some.some =>
    cases hc : CbcCipher.create key iv with
    | error err =>
      simp [FrameDecoder.create, hcodec, hk, hi, hc, throw, throwThe, MonadExceptOf.throw, Functor.map,
        Except.map] at hdec
    | ok c =>
      simp only [FrameDecoder.create, hcodec, hk, hi, hc, pure, Except.pure, bind, Except.bind,
        Except.ok.injEq] at hdec
      simpa [PacketFactory.create, hk, hi, hc] using hbuilt _ hdec
  all_goals
    simp only [FrameDecoder.create, hcodec, hk, hi, pure, Except.pure, bind, Except.bind, Except.ok.injEq] at hdec
    simpa [PacketFactory.create, hk, hi] using hbuilt _ hdec

namespace FrameDecoder

/-! ## The decoder's scratch buffer -/

/-- The bytes the codec sees: the payload deciphered when the stream is encrypted. -/
def deciphered (d : FrameDecoder) (payload : Bytes) : Bytes :=
  match d.cipher with
  | some c => c.decrypt payload
  | none => payload

@[simp] theorem decodeFrame_withPlaintext (d : FrameDecoder) (buf : Bytes) :
    { d with plaintext := buf }.decodeFrame = d.decodeFrame := rfl

@[simp] theorem deciphered_withPlaintext (d : FrameDecoder) (buf : Bytes) :
    { d with plaintext := buf }.deciphered = d.deciphered := rfl

/-- A decoder deciphers into its scratch buffer, and what the buffer held before leaves no trace:
the answer is the codec's on the deciphered payload, and only the scratch buffer changes. -/
theorem decode_eq (d : FrameDecoder) (payload : Bytes) :
    ∃ buf, d.decode payload = (d.decodeFrame (d.deciphered payload)).map (·, { d with plaintext := buf }) := by
  obtain ⟨cipher, codec, frameSamples, plaintext⟩ := d
  unfold decode deciphered
  cases cipher with
  | none =>
    refine ⟨plaintext, ?_⟩
    dsimp only
    cases decodeFrame ⟨none, codec, frameSamples, plaintext⟩ payload <;> rfl
  | some c =>
    refine ⟨c.decrypt payload, ?_⟩
    dsimp only
    rw [CbcCipher.decryptInto_eq]
    -- the codec does not read the scratch buffer
    rw [show decodeFrame ⟨some c, codec, frameSamples, c.decrypt payload⟩ =
      decodeFrame ⟨some c, codec, frameSamples, plaintext⟩ from rfl]
    cases decodeFrame ⟨some c, codec, frameSamples, plaintext⟩ (c.decrypt payload) <;> rfl

/-- A decoder answers a payload alike whatever its scratch buffer holds, and leaves only the
buffer changed. -/
theorem decode_withPlaintext {d d' : FrameDecoder} {x : Bytes} {r : Except DecodeError (List Int)}
    (h : d.decode x = .ok (r, d')) (buf : Bytes) :
    ∃ buf', { d with plaintext := buf }.decode x = .ok (r, { d with plaintext := buf' }) := by
  obtain ⟨b, hd⟩ := d.decode_eq x
  obtain ⟨b', hd'⟩ := { d with plaintext := buf }.decode_eq x
  rw [hd] at h
  rw [hd', decodeFrame_withPlaintext, deciphered_withPlaintext]
  cases hr : d.decodeFrame (d.deciphered x) with
  | error f =>
    rw [hr] at h
    cases h
  | ok a =>
    rw [hr] at h
    cases h
    exact ⟨b', rfl⟩

/-- Fed one payload after another, a decoder answers each as it answers that payload alone: the
scratch buffer carries nothing from one payload to the next. -/
theorem decodeAll_eq (d : FrameDecoder) (xs : List Bytes) :
    d.decodeAll xs = xs.mapM fun x => d.decodeFrame (d.deciphered x) := by
  induction xs generalizing d with
  | nil => rfl
  | cons x xs ih =>
    obtain ⟨buf, hd⟩ := d.decode_eq x
    have hrest : { d with plaintext := buf }.decodeAll xs = xs.mapM fun x => d.decodeFrame (d.deciphered x) :=
      ih _
    simp only [decodeAll, hd, List.mapM_cons]
    cases d.decodeFrame (d.deciphered x) with
    | error f => rfl
    | ok r => simp only [Except.map, bind, Except.bind, hrest]

theorem create_plaintext {p : StreamParams} {d : FrameDecoder} (h : create p = .ok d) : d.plaintext = [] := by
  unfold create at h
  -- every branch that builds a decoder leaves its scratch buffer empty
  rcases hk : p.aesKey with _ | key <;> rcases hi : p.aesIv with _ | iv <;> rcases hc : p.codec with c | _ <;>
    simp only [hk, hi, hc, bind, Except.bind, pure, Except.pure, throw, throwThe, MonadExceptOf.throw] at h
  all_goals
    repeat' split at h
    all_goals first | (cases h; rfl) | cases h

end FrameDecoder

/-- The payload a sender makes of a frame of 16-bit samples decodes back to the frame, whatever
the decoder's scratch buffer holds. -/
theorem decode_payload {p : StreamParams} (hcodec : p.codec = .pcm) {d : FrameDecoder}
    (hdec : FrameDecoder.create p = .ok { d with plaintext := [] }) {pcm : List Int}
    (hlen : pcm.length = p.frameSamples) (hpcm : ∀ x ∈ pcm, -32768 ≤ x ∧ x < 32768) :
    ∃ body buf, (PacketFactory.create p).payload pcm = .ok (body, PacketFactory.create p) ∧
      d.decode body = .ok (.ok pcm, { d with plaintext := buf }) := by
  obtain ⟨hl16, hsamples, hcipher⟩ := create_of_pcm hcodec hdec
  have hcoder : (PacketFactory.create p).coder = .l16 := by simp [PacketFactory.create, hcodec]
  have hframe : d.decodeFrame (PacketFactory.l16 pcm) = .ok (.ok pcm) := by
    simp only [FrameDecoder.decodeFrame] at hl16 ⊢
    simp at hsamples
    simp [hl16, decodeL16_l16 hpcm, FrameDecoder.fit, hlen, hsamples, bind, Except.bind]
  -- the body is the coded frame, enciphered when the stream is
  obtain ⟨body, hpayload, hplain⟩ : ∃ body, (PacketFactory.create p).payload pcm = .ok (body, PacketFactory.create p) ∧
      d.deciphered body = PacketFactory.l16 pcm := by
    simp only [FrameDecoder.deciphered]
    cases hc : d.cipher with
    | none =>
      refine ⟨PacketFactory.l16 pcm, ?_, rfl⟩
      simp only [PacketFactory.payload, PacketFactory.plainPayload, hcoder, ← hcipher, hc, bind, Except.bind,
        pure, Except.pure]
    | some c =>
      refine ⟨c.encrypt (PacketFactory.l16 pcm), ?_, CbcCipher.decrypt_encrypt c _⟩
      simp only [PacketFactory.payload, PacketFactory.plainPayload, hcoder, ← hcipher, hc, bind, Except.bind,
        pure, Except.pure]
  obtain ⟨buf, hd⟩ := d.decode_eq body
  refine ⟨body, buf, hpayload, ?_⟩
  rw [hd, hplain, hframe]
  rfl

namespace Engine

/-- What a put does with samples that decoded: they go into the buffer under the packet's
sequence number and timestamp and the gaps they reveal are asked for; no counter moves. -/
def store (e : Engine) (s : Session) (seq : UInt16) (ts : UInt32) (pcm : List Int) :
    Option PutOutcome × Engine :=
  let (outcome, buffer) := s.buffer.put seq ts pcm
  let (resends, buffer) := buffer.takeResends
  (some outcome, ({ e with session := some { s with buffer } }).request resends)

/-- A session a start opens on a player without one runs the decoder its stream makes. -/
theorem start_decoder {e : Engine} {sc : SessionConfig} {spawn : Except String Unit} {s : Session}
    (hnone : e.session = none) (h : (e.start sc spawn).2.session = some s) :
    FrameDecoder.create sc.stream = .ok { s.decoder with plaintext := [] } := by
  rcases start_session h with hs | ⟨d, hd, rfl⟩
  · rw [hnone] at hs
    cases hs
  · have hcreate := startChecks_decoder hd
    obtain ⟨c, k, n, plaintext⟩ := d
    have hempty : plaintext = [] := FrameDecoder.create_plaintext hcreate
    subst hempty
    exact hcreate

theorem put_of_decode {e : Engine} {s : Session} (hs : e.session = some s) {payload : Bytes}
    {pcm : List Int} {d : FrameDecoder} (hdecode : s.decoder.decode payload = .ok (.ok pcm, d)) (seq : UInt16)
    (ts : UInt32) : e.put seq ts payload = .ok (e.store { s with decoder := d } seq ts pcm) := by
  simp only [put, hs, hdecode, bind, Except.bind, pure, Except.pure, store]

theorem receive_encode {e : Engine} {s : Session} (hs : e.session = some s) {payload : Bytes}
    {pcm : List Int} {d : FrameDecoder} (hdecode : s.decoder.decode payload = .ok (.ok pcm, d))
    (seq : UInt16) (ts ssrc : UInt32) :
    e.receive (AudioPacket.encode seq ts ssrc payload) = .ok (.ok (e.store { s with decoder := d } seq ts pcm)) := by
  have htype : (AudioPacket.encode seq ts ssrc payload)[1]? >>= PayloadType.ofByte = some .audioRealtime := by
    simp [AudioPacket.encode]
    decide
  rw [receive, htype]
  simp only [AudioPacket.parse_encode, put_of_decode hs hdecode]
  rfl

/-- A retransmitted datagram is put as the packet behind its prefix, whatever the prefix's own
sequence number. -/
theorem receive_wrapResent {e : Engine} {s : Session} (hs : e.session = some s) {payload : Bytes}
    {pcm : List Int} {d : FrameDecoder} (hdecode : s.decoder.decode payload = .ok (.ok pcm, d))
    (k seq : UInt16) (ts ssrc : UInt32) :
    e.receive (AudioPacket.wrapResent k (AudioPacket.encode seq ts ssrc payload)) =
      .ok (.ok (e.store { s with decoder := d } seq ts pcm)) := by
  have htype : (AudioPacket.wrapResent k (AudioPacket.encode seq ts ssrc payload))[1]? >>= PayloadType.ofByte =
      some .retransmitResponse := by
    simp [AudioPacket.wrapResent]
    decide
  rw [receive, htype]
  simp only [AudioPacket.parseResent_wrapResent, put_of_decode hs hdecode]
  rfl

/-- An L16 stream as sent arrives intact: the sender's payload of a frame decodes back to the
frame, whatever the decoder's scratch buffer holds from earlier payloads, and a session running
on the stream's parameters puts exactly that frame, under the packet's sequence number and
timestamp, both for the datagram and for the datagram behind a retransmission prefix, counting
no decode failure. -/
theorem l16_packets_arrive_intact {p : StreamParams} (hcodec : p.codec = .pcm) {e : Engine} {s : Session}
    (hs : e.session = some s) (hdec : FrameDecoder.create p = .ok { s.decoder with plaintext := [] })
    {pcm : List Int} (hlen : pcm.length = p.frameSamples) (hpcm : ∀ x ∈ pcm, -32768 ≤ x ∧ x < 32768)
    (seq : UInt16) (ts : UInt32) (k : UInt16) :
    ∃ body datagram buf, (PacketFactory.create p).payload pcm = .ok (body, PacketFactory.create p) ∧
      s.decoder.decode body = .ok (.ok pcm, { s.decoder with plaintext := buf }) ∧
      (PacketFactory.create p).packet seq ts pcm = .ok (datagram, PacketFactory.create p) ∧
      e.receive datagram =
        .ok (.ok (e.store { s with decoder := { s.decoder with plaintext := buf } } seq ts pcm)) ∧
      e.receive (AudioPacket.wrapResent k datagram) =
        .ok (.ok (e.store { s with decoder := { s.decoder with plaintext := buf } } seq ts pcm)) := by
  obtain ⟨body, buf, hpayload, hdecode⟩ := decode_payload hcodec hdec hlen hpcm
  have hpacket : (PacketFactory.create p).packet seq ts pcm =
      .ok (AudioPacket.encode seq ts (PacketFactory.create p).ssrc body, PacketFactory.create p) := by
    simp only [PacketFactory.packet, hpayload, bind, Except.bind, pure, Except.pure]
  exact ⟨body, _, buf, hpayload, hdecode, hpacket, receive_encode hs hdecode seq ts _,
    receive_wrapResent hs hdecode k seq ts _⟩

/-- An enciphered stream of four-frame packets, on a player that has just started it. -/
theorem l16_packets_arrive_intact_enciphered :
    let p := (StreamParams.pcm 4 44100).withEncryption (List.replicate 16 7) (List.replicate 16 9)
    let e₀ := Engine.create {} (Sink.create .discard) 0
    let e := (e₀.start ⟨p, none⟩).2
    let pcm := [1, -2, 300, -32768, 32767, 0, 5, -5]
    ∃ s, e.session = some s ∧ FrameDecoder.create p = .ok { s.decoder with plaintext := [] } ∧
      ∃ body datagram buf, (PacketFactory.create p).payload pcm = .ok (body, PacketFactory.create p) ∧
        s.decoder.decode body = .ok (.ok pcm, { s.decoder with plaintext := buf }) ∧
        (PacketFactory.create p).packet 65535 4000000000 pcm = .ok (datagram, PacketFactory.create p) ∧
        e.receive datagram =
          .ok (.ok (e.store { s with decoder := { s.decoder with plaintext := buf } } 65535 4000000000 pcm)) ∧
        e.receive (AudioPacket.wrapResent 7 datagram) =
          .ok (.ok (e.store { s with decoder := { s.decoder with plaintext := buf } } 65535 4000000000 pcm)) := by
  intro p e₀ e pcm
  obtain ⟨s, hs⟩ := Option.isSome_iff_exists.mp (show e.session.isSome = true by decide)
  have hdec := start_decoder rfl hs
  exact ⟨s, hs, hdec, l16_packets_arrive_intact rfl hs hdec (by decide) (by decide) 65535 4000000000 7⟩

end Engine

end Playout
