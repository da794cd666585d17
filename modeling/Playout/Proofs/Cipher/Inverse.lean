import Playout.Proofs.Cipher.RoundTrip
import Mathlib.Data.Finite.Prod
import Mathlib.Data.Fintype.Card
import Mathlib.Data.FinEnum
import Mathlib.Data.UInt

/-!
# Enciphering and deciphering are inverse

Deciphering undoes enciphering (`CbcCipher.decrypt_encrypt`), and that alone makes enciphering
undo deciphering too. Under fixed round keys the block cipher maps the finitely many 16-byte
blocks to themselves, and it is one-to-one since deciphering takes it back; so it is onto, and
every block is the encipherment of its own decipherment. Chaining then gives the same for the
payload cipher on byte strings of any length, whose clear tail is left alone both ways.

A receiver deciphers into a buffer it keeps from packet to packet, block by block in place,
saving each cipher block as the next chaining value before overwriting it; what that leaves in
the buffer is the payload deciphered as a whole, whatever the buffer held before.

* `CbcCipher.payload_cipher_round_trip`: the cipher's checks of key and IV, and the round trip
  both ways, lengths, clear tails and in-place deciphering for every cipher they let through.
-/

namespace Playout.Aes

instance finiteVector {α : Type} [Finite α] {n : Nat} : Finite (Vector α n) :=
  Finite.of_injective (fun v : Vector α n => fun i : Fin n => v[i]) fun _ _ h =>
    Vector.ext fun i hi => congrFun h ⟨i, hi⟩

@[simp] theorem size_decryptBlock (ks : Array Block) (c : Block) : (decryptBlock ks c).size = 16 :=
  size_xorBlock _ _

/-- Enciphering under fixed round keys, as a map of 16-byte vectors. -/
def encryptVector (ks : Array Block) (v : Vector UInt8 16) : Vector UInt8 16 :=
  ⟨encryptBlock ks v.toArray, size_encryptBlock ks v.toArray⟩

theorem encryptVector_injective (ks : Array Block) : Function.Injective (encryptVector ks) := by
  intro v w h
  have hblock : encryptBlock ks v.toArray = encryptBlock ks w.toArray := congrArg Vector.toArray h
  have hback := congrArg (decryptBlock ks) hblock
  rw [decryptBlock_encryptBlock ks v.size_toArray, decryptBlock_encryptBlock ks w.size_toArray] at hback
  exact Vector.toArray_inj.mp hback

theorem encryptBlock_decryptBlock (ks : Array Block) {c : Block} (hc : c.size = 16) :
    encryptBlock ks (decryptBlock ks c) = c := by
  -- one-to-one on the finitely many blocks, hence onto
  obtain ⟨v, hv⟩ := Finite.injective_iff_surjective.mp (encryptVector_injective ks) ⟨c, hc⟩
  have henc : encryptBlock ks v.toArray = c := congrArg Vector.toArray hv
  rw [← henc, decryptBlock_encryptBlock ks v.size_toArray]

end Playout.Aes

namespace Playout.CbcCipher

/-! ## Chaining -/

theorem encrypt_eq (c : CbcCipher) (plain : Bytes) :
    c.encrypt plain =
      (chainEncrypt c.keys c.iv (blocks plain).1).flatMap Array.toList ++ (blocks plain).2 := by
  simp only [encrypt, encrypt_fold, List.nil_append]

theorem decrypt_eq (c : CbcCipher) (data : Bytes) :
    c.decrypt data =
      (chainDecrypt c.keys c.iv (blocks data).1).flatMap Array.toList ++ (blocks data).2 := by
  simp only [decrypt, decrypt_fold, List.nil_append]

theorem size_chainDecrypt (keys : Array Aes.Block) (prev : Aes.Block) (cs : List Aes.Block) :
    ∀ p ∈ chainDecrypt keys prev cs, p.size = 16 := by
  induction cs generalizing prev with
  | nil => simp [chainDecrypt]
  | cons c cs ih =>
    intro p hp
    simp only [chainDecrypt, List.mem_cons] at hp
    rcases hp with rfl | hp
    · exact Aes.size_xorBlock _ _
    · exact ih _ p hp

@[simp] theorem length_chainEncrypt (keys : Array Aes.Block) (prev : Aes.Block) (bs : List Aes.Block) :
    (chainEncrypt keys prev bs).length = bs.length := by
  induction bs generalizing prev with
  | nil => rfl
  | cons b bs ih => simp [chainEncrypt, ih]

@[simp] theorem length_chainDecrypt (keys : Array Aes.Block) (prev : Aes.Block) (cs : List Aes.Block) :
    (chainDecrypt keys prev cs).length = cs.length := by
  induction cs generalizing prev with
  | nil => rfl
  | cons c cs ih => simp [chainDecrypt, ih]

theorem chainEncrypt_chainDecrypt (keys : Array Aes.Block) (prev : Aes.Block) {cs : List Aes.Block}
    (hcs : ∀ c ∈ cs, c.size = 16) : chainEncrypt keys prev (chainDecrypt keys prev cs) = cs := by
  induction cs generalizing prev with
  | nil => rfl
  | cons c cs ih =>
    simp only [chainDecrypt, chainEncrypt]
    rw [Aes.xorBlock_xorBlock (Aes.size_decryptBlock _ _), Aes.encryptBlock_decryptBlock _ (hcs c (by simp)),
      ih _ fun c' hc' => hcs c' (by simp [hc'])]

/-! ## Lengths and the clear tail -/

theorem length_flatMap_blocks {bs : List Aes.Block} (h : ∀ b ∈ bs, b.size = 16) :
    (bs.flatMap Array.toList).length = 16 * bs.length := by
  induction bs with
  | nil => rfl
  | cons b bs ih =>
    rw [List.flatMap_cons, List.length_append, Array.length_toList, h b (by simp),
      ih fun b' hb' => h b' (by simp [hb']), List.length_cons]
    omega

@[simp] theorem length_blocks (data : Bytes) : (blocks data).1.length = data.length / 16 := by
  simp [blocks]

theorem blocks_tail (data : Bytes) : (blocks data).2 = data.drop (16 * (data.length / 16)) := rfl

theorem frame_blocks {data : Bytes} {ws : List Aes.Block} (hws : ∀ w ∈ ws, w.size = 16)
    (hlen : ws.length = (blocks data).1.length) :
    (ws.flatMap Array.toList ++ (blocks data).2).length = data.length ∧
      (ws.flatMap Array.toList ++ (blocks data).2).drop (16 * (data.length / 16)) =
        data.drop (16 * (data.length / 16)) := by
  obtain ⟨hcat, hwhole, -⟩ := blocks_spec data
  have hws_len : (ws.flatMap Array.toList).length = 16 * (data.length / 16) := by
    rw [length_flatMap_blocks hws, hlen, length_blocks]
  refine ⟨?_, ?_⟩
  · -- both are as many whole blocks followed by the same tail
    conv => rhs; rw [← hcat]
    rw [List.length_append, List.length_append, hws_len, length_flatMap_blocks hwhole, length_blocks]
  · rw [← hws_len, List.drop_left, blocks_tail, hws_len]

/-! ## Deciphering in place -/

theorem overwrite_block (acc old rest : Bytes) (hold : old.length = 16) (b : Aes.Block) :
    overwrite (acc ++ old ++ rest) acc.length b = acc ++ b.toList ++ rest := by
  have hdrop : (acc ++ old ++ rest).drop (acc.length + 16) = rest := by
    rw [List.append_assoc, ← hold, ← List.length_append, ← List.append_assoc, List.drop_left]
  rw [overwrite, hdrop, List.append_assoc acc old rest, List.take_left]

theorem decryptInPlace_blocks (c : CbcCipher) {cs : List Aes.Block} (hcs : ∀ b ∈ cs, b.size = 16)
    (acc tail : Bytes) (i : Nat) (hacc : acc.length = 16 * i) (prev : Aes.Block) :
    decryptInPlace c cs.length i prev (acc ++ cs.flatMap Array.toList ++ tail) =
      acc ++ (chainDecrypt c.keys prev cs).flatMap Array.toList ++ tail := by
  induction cs generalizing acc i prev with
  | nil => rfl
  | cons cb cs ih =>
    have hcb : cb.toList.length = 16 := by rw [Array.length_toList, hcs cb (by simp)]
    have hbuf : acc ++ (cb :: cs).flatMap Array.toList ++ tail =
        acc ++ cb.toList ++ (cs.flatMap Array.toList ++ tail) := by
      simp [List.append_assoc]
    -- the block read back is the cipher block itself
    have hread :
        ((acc ++ cb.toList ++ (cs.flatMap Array.toList ++ tail)).drop (16 * i)).take 16 = cb.toList := by
      rw [← hacc, List.append_assoc, List.drop_left, ← hcb, List.take_left]
    have hrest := ih (fun b hb => hcs b (by simp [hb]))
    rw [List.length_cons, hbuf, decryptInPlace, hread, Array.toArray_toList, ← hacc,
      overwrite_block _ _ _ hcb, ← List.append_assoc, hrest _ (i + 1) (by simp [hacc]; omega) cb]
    simp [chainDecrypt, List.append_assoc]

theorem decryptInto_eq (c : CbcCipher) (data out : Bytes) :
    c.decryptInto data out = c.decrypt data := by
  obtain ⟨hcat, hwhole, -⟩ := blocks_spec data
  have hbuf : out.take 0 ++ data = [] ++ (blocks data).1.flatMap Array.toList ++ (blocks data).2 := by
    rw [List.take_zero, List.nil_append, List.nil_append, hcat]
  rw [decryptInto, hbuf, ← length_blocks, decryptInPlace_blocks c hwhole [] _ 0 rfl, List.nil_append,
    decrypt_eq]

/-! ## The payload cipher -/

theorem encrypt_decrypt (c : CbcCipher) (data : Bytes) : c.encrypt (c.decrypt data) = data := by
  obtain ⟨hcat, hwhole, htail⟩ := blocks_spec data
  rw [encrypt_eq, decrypt_eq, blocks_flatMap (size_chainDecrypt _ _ _) htail,
    chainEncrypt_chainDecrypt _ _ hwhole, hcat]

theorem create_error_key (key iv : Bytes) :
    (∃ n, create key iv = .error (.invalidKeyLength n)) ↔ key.length ≠ 16 := by
  by_cases hkey : key.length = 16 <;> by_cases hiv : iv.length = 16 <;> simp [create, hkey, hiv]

theorem create_error_iv (key iv : Bytes) :
    (∃ n, create key iv = .error (.invalidIvLength n)) ↔ key.length = 16 ∧ iv.length ≠ 16 := by
  by_cases hkey : key.length = 16 <;> by_cases hiv : iv.length = 16 <;> simp [create, hkey, hiv]

/-- The payload cipher refuses a key that is not 16 bytes long, and then an IV that is not. For
every cipher it builds and every byte string, deciphering undoes enciphering and enciphering
undoes deciphering; both keep the length and leave the bytes after the last whole block as they
were, and deciphering into a kept buffer leaves the same bytes whatever the buffer held. A cipher
holds no state that a call changes, so every call starts again from the IV. -/
theorem payload_cipher_round_trip (key iv : Bytes) :
    ((∃ n, create key iv = .error (.invalidKeyLength n)) ↔ key.length ≠ 16) ∧
    ((∃ n, create key iv = .error (.invalidIvLength n)) ↔ key.length = 16 ∧ iv.length ≠ 16) ∧
    ∀ c, create key iv = .ok c → ∀ x out : Bytes,
      c.decrypt (c.encrypt x) = x ∧ c.encrypt (c.decrypt x) = x ∧
      (c.encrypt x).length = x.length ∧ (c.decrypt x).length = x.length ∧
      (c.encrypt x).drop (16 * (x.length / 16)) = x.drop (16 * (x.length / 16)) ∧
      (c.decrypt x).drop (16 * (x.length / 16)) = x.drop (16 * (x.length / 16)) ∧
      c.decryptInto x out = c.decrypt x := by
  refine ⟨create_error_key key iv, create_error_iv key iv, fun c _ x out => ?_⟩
  have henc := frame_blocks (size_chainEncrypt c.keys c.iv (blocks x).1) (length_chainEncrypt _ _ _)
  have hdec := frame_blocks (size_chainDecrypt c.keys c.iv (blocks x).1) (length_chainDecrypt _ _ _)
  rw [← encrypt_eq] at henc
  rw [← decrypt_eq] at hdec
  exact ⟨decrypt_encrypt c x, encrypt_decrypt c x, henc.1, hdec.1, henc.2, hdec.2,
    decryptInto_eq c x out⟩

/-- The test vector key and IV of NIST SP 800-38A, on a payload of two whole blocks and a
tail, deciphered into a buffer that still holds an earlier packet. -/
theorem payload_cipher_round_trip_nist :
    let key : Bytes :=
      [0x2b, 0x7e, 0x15, 0x16, 0x28, 0xae, 0xd2, 0xa6, 0xab, 0xf7, 0x15, 0x88, 0x09, 0xcf, 0x4f, 0x3c]
    let iv : Bytes := (List.range 16).map UInt8.ofNat
    let c : CbcCipher := ⟨Aes.roundKeys key, iv.toArray⟩
    let x : Bytes := (List.range 37).map UInt8.ofNat
    let out : Bytes := [1, 2, 3]
    create key iv = .ok c ∧
      (c.decrypt (c.encrypt x) = x ∧ c.encrypt (c.decrypt x) = x ∧
        (c.encrypt x).length = x.length ∧ (c.decrypt x).length = x.length ∧
        (c.encrypt x).drop (16 * (x.length / 16)) = x.drop (16 * (x.length / 16)) ∧
        (c.decrypt x).drop (16 * (x.length / 16)) = x.drop (16 * (x.length / 16)) ∧
        c.decryptInto x out = c.decrypt x) := by
  intro key iv c x out
  exact ⟨rfl, (payload_cipher_round_trip key iv).2.2 c rfl x out⟩

end Playout.CbcCipher
