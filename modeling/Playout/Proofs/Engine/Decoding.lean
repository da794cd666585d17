import Playout.Proofs.Engine.Flush
import Playout.Proofs.Engine.Receive
import Playout.Proofs.Wire.BigEndian

/-!
# Decoding L16 payloads

A decoder deciphers each payload into a scratch buffer it keeps, but what the buffer held leaves
no trace (`FrameDecoder.decodeAll_eq`): fed a sequence of payloads, it answers each as it would
answer that payload alone. For an L16 stream the answer is decided by the length of the
deciphered bytes: an odd length is refused by the codec, exactly two bytes a sample decode to the
big-endian samples, and any other even length is refused with the sample count it came out at.
Each case is one lemma (`FrameDecoder.l16_odd`, `l16_whole`, `l16_size`), and the three `iff`s
follow from them.

In a session the decoder is the one the stream makes at the start, and no operation changes it
while the session runs but for its scratch buffer (`Engine.Transition.decoder_kept`,
`Engine.SessionRun.decoder_kept`): a start is refused, a stop ends the session, and the rest
change only the buffer, the reference clock, the phase and what lies outside the session. A put
stores the decoded frame, or a frame of zeros with one more decode failure counted.

Main statement: `l16_decoder_decides_each_payload`, gathered in `DecodesL16`.
-/

namespace Playout

/-- The `j`-th sample of big-endian 16-bit PCM: bytes `2 j` and `2 j + 1`, high byte first,
read as a two's complement number. -/
def beSample (y : Bytes) (j : Nat) : Int :=
  signed16 (UInt16.ofNat ((y.byteAt (2 * j)).toNat * 256 + (y.byteAt (2 * j + 1)).toNat))

theorem u16_eq_beSample (y : Bytes) (j : Nat) : signed16 (y.u16 (2 * j)) = beSample y j := by
  rw [Bytes.u16, Bytes.readBE_succ, Bytes.readBE_succ, beSample]
  simp [Bytes.readBE]

theorem decodeL16_odd {y : Bytes} (h : y.length % 2 = 1) :
    decodeL16 y = .error (.codec s!"odd L16 payload length {y.length}") := by
  have hodd : y.length % 2 ≠ 0 := by omega
  rw [decodeL16, if_pos hodd]

theorem decodeL16_even {y : Bytes} (h : y.length % 2 = 0) :
    decodeL16 y = .ok ((List.range (y.length / 2)).map (beSample y)) := by
  have heven : ¬ y.length % 2 ≠ 0 := by omega
  rw [decodeL16, if_neg heven]
  exact congrArg Except.ok (List.map_congr_left fun j _ => u16_eq_beSample y j)

namespace FrameDecoder

/-! ## The codec's verdict -/

variable {d : FrameDecoder} {y x : Bytes}

theorem l16_odd (hodd : y.length % 2 = 1) :
    decodeL16 y >>= d.fit = .error (.codec s!"odd L16 payload length {y.length}") := by
  rw [decodeL16_odd hodd]
  rfl

theorem l16_whole (hlen : y.length = 2 * d.frameSamples) :
    decodeL16 y >>= d.fit = .ok ((List.range d.frameSamples).map (beSample y)) := by
  rw [decodeL16_even (by omega)]
  have hhalf : y.length / 2 = d.frameSamples := by omega
  simp only [bind, Except.bind, fit, List.length_map, List.length_range, hhalf, ne_eq, not_true_eq_false,
    if_false]

theorem l16_size (heven : y.length % 2 = 0) (hlen : y.length ≠ 2 * d.frameSamples) :
    decodeL16 y >>= d.fit = .error (.unexpectedOutputSize d.frameSamples (y.length / 2)) := by
  rw [decodeL16_even heven]
  have hne : y.length / 2 ≠ d.frameSamples := by omega
  simp only [bind, Except.bind, fit, List.length_map, List.length_range, hne, ne_eq, not_false_eq_true,
    if_true]

theorem l16_codec_iff : (∃ msg, decodeL16 y >>= d.fit = .error (.codec msg)) ↔ y.length % 2 = 1 := by
  constructor
  · rintro ⟨msg, hmsg⟩
    refine Nat.mod_two_ne_zero.mp fun heven => ?_
    by_cases hlen : y.length = 2 * d.frameSamples
    · rw [l16_whole hlen] at hmsg
      cases hmsg
    · rw [l16_size heven hlen] at hmsg
      cases hmsg
  · intro hodd
    exact ⟨_, l16_odd hodd⟩

theorem l16_ok_iff (v : List Int) :
    decodeL16 y >>= d.fit = .ok v ↔ y.length = 2 * d.frameSamples ∧ v = (List.range d.frameSamples).map (beSample y) := by
  constructor
  · intro hv
    by_cases hlen : y.length = 2 * d.frameSamples
    · rw [l16_whole hlen] at hv
      cases hv
      exact ⟨hlen, rfl⟩
    · rcases Nat.mod_two_eq_zero_or_one y.length with heven | hodd
      · rw [l16_size heven hlen] at hv
        cases hv
      · rw [l16_odd hodd] at hv
        cases hv
  · rintro ⟨hlen, rfl⟩
    exact l16_whole hlen

theorem l16_size_iff :
    decodeL16 y >>= d.fit = .error (.unexpectedOutputSize d.frameSamples (y.length / 2)) ↔
      y.length % 2 = 0 ∧ y.length ≠ 2 * d.frameSamples := by
  constructor
  · intro hsize
    rcases Nat.mod_two_eq_zero_or_one y.length with heven | hodd
    · refine ⟨heven, fun hlen => ?_⟩
      rw [l16_whole hlen] at hsize
      cases hsize
    · rw [l16_odd hodd] at hsize
      cases hsize
  · rintro ⟨heven, hlen⟩
    exact l16_size heven hlen

/-- An L16 decoder answers a payload with the codec's verdict on the deciphered bytes. -/
theorem decode_l16_iff (h : d.codec = .l16) (x : Bytes) (r : Except DecodeError (List Int)) :
    (∃ d', d.decode x = .ok (r, d')) ↔ decodeL16 (d.deciphered x) >>= d.fit = r := by
  obtain ⟨buf, hd⟩ := d.decode_eq x
  have hframe : d.decodeFrame (d.deciphered x) = .ok (decodeL16 (d.deciphered x) >>= d.fit) := by
    simp only [decodeFrame, h]
  rw [hd, hframe]
  constructor
  · rintro ⟨d', h'⟩
    cases h'
    rfl
  · intro h'
    exact ⟨_, by rw [h']; rfl⟩

/-- Fed any sequence of payloads, an L16 decoder answers each as it answers that payload alone. -/
theorem decodeAll_l16 (h : d.codec = .l16) (xs : List Bytes) :
    ∃ rs, d.decodeAll xs = .ok rs ∧ List.Forall₂ (fun x r => ∃ d', d.decode x = .ok (r, d')) xs rs := by
  rw [decodeAll_eq]
  induction xs with
  | nil => exact ⟨[], rfl, .nil⟩
  | cons x xs ih =>
    obtain ⟨rs, hrs, hall⟩ := ih
    have hframe : d.decodeFrame (d.deciphered x) = .ok (decodeL16 (d.deciphered x) >>= d.fit) := by
      simp only [decodeFrame, h]
    refine ⟨_ :: rs, ?_, .cons ((decode_l16_iff h x _).2 rfl) hall⟩
    simp only [List.mapM_cons, hframe, hrs]
    rfl

end FrameDecoder

namespace Engine

/-- What a put does with a payload that does not decode: one more decode failure is counted, and
a frame of zeros goes into the buffer under the packet's sequence number and timestamp. -/
theorem put_of_decode_error {e : Engine} {s : Session} (hs : e.session = some s) {payload : Bytes}
    {err : DecodeError} {d : FrameDecoder} (hdecode : s.decoder.decode payload = .ok (.error err, d))
    (seq : UInt16) (ts : UInt32) :
    e.put seq ts payload = .ok ((e.modifyCounters fun c => { c with decodeFailures := c.decodeFailures + 1 }).store
      { s with decoder := d } seq ts (List.replicate s.decoder.frameSamples 0)) := by
  simp only [put, hs, hdecode, bind, Except.bind, pure, Except.pure, store]

theorem pass_keeps_decoder (e : Engine) {s s' : Session} (hs : e.session = some s)
    (hs' : e.pass.2.session = some s') : s'.decoder = s.decoder := by
  have hforward : e.forwardVolume.session = some s := (forwardVolume_session e).trans hs
  obtain ⟨s₁, hs₁, hplays⟩ := nextStep_playsFrom e.forwardVolume e.forwardVolume.sink.delay hforward
  have hperform := perform_decoder (e.forwardVolume.nextStep e.forwardVolume.sink.delay).2
    (e.forwardVolume.nextStep e.forwardVolume.sink.delay).1
  have hpass : e.pass.2 = (e.forwardVolume.nextStep e.forwardVolume.sink.delay).2.perform
      (e.forwardVolume.nextStep e.forwardVolume.sink.delay).1 := rfl
  rw [← hpass, hs', hs₁, Option.map_some, Option.map_some, Option.some_inj] at hperform
  exact hperform.trans hplays.decoder

/-- No operation on a running session changes its decoder but for the scratch buffer a put
deciphers into. -/
theorem Transition.decoder_kept {e e' : Engine} (ht : Transition e e') {s s' : Session}
    (hs : e.session = some s) (hs' : e'.session = some s') : ∃ buf, s'.decoder = { s.decoder with plaintext := buf } := by
  rcases ht.of_running hs hs' with rfl | ⟨f, -, rfl⟩ | ⟨_, _, _, buf, rfl⟩ | ⟨_, _, rfl⟩ | ⟨_, rfl⟩ | rfl
  · exact ⟨_, pass_keeps_decoder e hs hs'⟩
  · obtain ⟨s₂, hs₂, hplays⟩ := crash_playsFrom e f hs
    rw [hs₂, Option.some_inj] at hs'
    exact ⟨_, hs' ▸ hplays.decoder⟩
  · exact ⟨buf, rfl⟩
  all_goals exact ⟨_, rfl⟩

/-- A run of operations during which the session keeps running. -/
def SessionRun : Engine → Engine → Prop :=
  Relation.ReflTransGen fun e e' => Transition e e' ∧ e'.isRunning = true

theorem SessionRun.decoder_kept {e e' : Engine} (hrun : SessionRun e e') {s : Session}
    (hs : e.session = some s) : ∃ s' buf, e'.session = some s' ∧ s'.decoder = { s.decoder with plaintext := buf } := by
  induction hrun with
  | refl => exact ⟨s, _, hs, rfl⟩
  | tail _ hstep ih =>
    obtain ⟨s₁, buf₁, hs₁, hdecoder⟩ := ih
    obtain ⟨ht, hrunning⟩ := hstep
    obtain ⟨s₂, hs₂⟩ := Option.isSome_iff_exists.mp hrunning
    obtain ⟨buf₂, hkept⟩ := ht.decoder_kept hs₁ hs₂
    exact ⟨s₂, buf₂, hs₂, by rw [hkept, hdecoder]⟩

end Engine

theorem FrameDecoder.create_cipher {p : StreamParams} (hcodec : p.codec = .pcm) {d : FrameDecoder}
    (hd : FrameDecoder.create p = .ok d) :
    p.isEncrypted = false ∧ d.cipher = none ∨
      ∃ key iv c, p.aesKey = some key ∧ p.aesIv = some iv ∧ CbcCipher.create key iv = .ok c ∧ d.cipher = some c := by
  -- the decoder deciphers only when both key and IV are given, with the cipher they make
  rcases hk : p.aesKey with _ | key <;> rcases hi : p.aesIv with _ | iv
  case some.some =>
    cases hc : CbcCipher.create key iv with
    | error err =>
      simp [FrameDecoder.create, hcodec, hk, hi, hc, throw, throwThe, MonadExceptOf.throw, Functor.map,
        Except.map] at hd
    | ok c =>
      simp only [FrameDecoder.create, hcodec, hk, hi, hc, pure, Except.pure, bind, Except.bind,
        Except.ok.injEq] at hd
      exact .inr ⟨key, iv, c, rfl, rfl, hc, by rw [← hd]⟩
  all_goals
    simp only [FrameDecoder.create, hcodec, hk, hi, pure, Except.pure, bind, Except.bind, Except.ok.injEq] at hd
    exact .inl ⟨by simp [StreamParams.isEncrypted, hk, hi], by rw [← hd]⟩

/-- What a decoder of an L16 stream does. It makes frames of `2 · frames per packet` samples and
deciphers with the cipher the stream's key and IV make, when both are given. Fed any sequence of
payloads, it answers each as it answers that payload alone, whatever its scratch buffer held, and
decides a payload by the deciphered bytes: refused by the codec for an odd length, decoded to the
big-endian samples for exactly two bytes a sample, refused with the sample count otherwise. A
session on the stream keeps the decoder for as long as it runs, up to the scratch buffer, and
each put stores the payload's frame, or a frame of zeros with one more decode failure counted
where the payload is refused. -/
structure DecodesL16 (p : StreamParams) (d : FrameDecoder) : Prop where
  frameSamples : d.frameSamples = 2 * p.framesPerPacket.toNat
  cipher : p.isEncrypted = false ∧ d.cipher = none ∨
    ∃ key iv c, p.aesKey = some key ∧ p.aesIv = some iv ∧ CbcCipher.create key iv = .ok c ∧ d.cipher = some c
  historyFree : ∀ xs, ∃ rs, d.decodeAll xs = .ok rs ∧ List.Forall₂ (fun x r => ∃ d', d.decode x = .ok (r, d')) xs rs
  odd : ∀ x, (∃ msg d', d.decode x = .ok (.error (.codec msg), d')) ↔ (d.deciphered x).length % 2 = 1
  whole : ∀ x v, (∃ d', d.decode x = .ok (.ok v, d')) ↔
    (d.deciphered x).length = 2 * d.frameSamples ∧ v = (List.range d.frameSamples).map (beSample (d.deciphered x))
  size : ∀ x, (∃ d', d.decode x = .ok (.error (.unexpectedOutputSize d.frameSamples ((d.deciphered x).length / 2)), d')) ↔
    (d.deciphered x).length % 2 = 0 ∧ (d.deciphered x).length ≠ 2 * d.frameSamples
  session : ∀ (e₀ e₁ e : Engine) (latency : Option UInt32), e₀.start ⟨p, latency⟩ = (.ok (), e₁) →
    Engine.SessionRun e₁ e → ∃ s buf, e.session = some s ∧ s.decoder = { d with plaintext := buf } ∧
      ∀ (seq : UInt16) (ts : UInt32) (x : Bytes),
        (∀ v d', d.decode x = .ok (.ok v, d') →
          ∃ buf', e.put seq ts x = .ok (e.store { s with decoder := { d with plaintext := buf' } } seq ts v)) ∧
        (∀ err d', d.decode x = .ok (.error err, d') → ∃ buf', e.put seq ts x =
          .ok ((e.modifyCounters fun c => { c with decodeFailures := c.decodeFailures + 1 }).store
            { s with decoder := { d with plaintext := buf' } } seq ts (List.replicate d.frameSamples 0)))

/-- Every decoder an L16 stream makes decodes as `DecodesL16` says: deciphering into its scratch
buffer leaves the same bytes whatever the buffer held (`CbcCipher.decryptInto_eq`, through
`FrameDecoder.decode_eq`), so its answer for a payload depends on that payload alone, and a
session keeps it throughout. -/
theorem l16_decoder_decides_each_payload {p : StreamParams} (hcodec : p.codec = .pcm) {d : FrameDecoder}
    (hd : FrameDecoder.create p = .ok d) : DecodesL16 p d := by
  obtain ⟨hl16, hsamples, -⟩ := create_of_pcm hcodec hd
  refine ⟨?_, FrameDecoder.create_cipher hcodec hd, FrameDecoder.decodeAll_l16 hl16, fun x => ?_, fun x v => ?_,
    fun x => ?_, ?_⟩
  · rw [hsamples, StreamParams.frameSamples, channels]
    omega
  · simp only [FrameDecoder.decode_l16_iff hl16]
    exact FrameDecoder.l16_codec_iff
  · rw [FrameDecoder.decode_l16_iff hl16]
    exact FrameDecoder.l16_ok_iff v
  · rw [FrameDecoder.decode_l16_iff hl16]
    exact FrameDecoder.l16_size_iff
  · intro e₀ e₁ e latency hstart hrun
    -- the session starts with the decoder the stream makes, and keeps it but for its scratch buffer
    obtain ⟨d₁, sink, hchecks, -, rfl⟩ := Engine.start_ok hstart
    have hs₁ : ({ e₀ with sinkInSlot := false }.openSession ⟨p, latency⟩ d₁ sink).session =
      some (e₀.newSession ⟨p, latency⟩ d₁) := rfl
    have hd₁ : d₁ = d := by
      rw [Engine.startChecks_decoder hchecks] at hd
      exact Except.ok.inj hd
    subst hd₁
    obtain ⟨s, buf, hs, hkept⟩ := hrun.decoder_kept hs₁
    have hdec : s.decoder = { d₁ with plaintext := buf } := hkept
    refine ⟨s, buf, hs, hdec, fun seq ts x => ⟨fun v d' hv => ?_, fun err d' herr => ?_⟩⟩
    · obtain ⟨buf', hv'⟩ := FrameDecoder.decode_withPlaintext hv buf
      rw [← hdec] at hv'
      exact ⟨buf', Engine.put_of_decode hs hv' seq ts⟩
    · obtain ⟨buf', herr'⟩ := FrameDecoder.decode_withPlaintext herr buf
      rw [← hdec] at herr'
      refine ⟨buf', ?_⟩
      rw [Engine.put_of_decode_error hs herr' seq ts, hdec]

/-- An enciphered stream of four-frame packets. -/
theorem l16_decoder_decides_each_payload_enciphered :
    let p := (StreamParams.pcm 4 44100).withEncryption (List.replicate 16 7) (List.replicate 16 9)
    p.codec = .pcm ∧ ∃ d, FrameDecoder.create p = .ok d ∧ DecodesL16 p d := by
  intro p
  cases hc : FrameDecoder.create p with
  | error err =>
    have hok : (FrameDecoder.create p).isOk = true := by decide
    rw [hc] at hok
    cases hok
  | ok d => exact ⟨rfl, d, rfl, l16_decoder_decides_each_payload rfl hc⟩

end Playout
