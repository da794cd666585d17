import Playout.Cipher.Cbc

/-!
# Deciphering undoes enciphering

AES-128 decryption inverts encryption under every expanded key, and so CBC decryption of a
packet inverts its encryption under every key and IV, the clear tail included.

The block cipher is undone round by round: key addition is its own inverse, the inverse row
shift and the inverse substitution undo theirs (the latter because the S-box takes no value
twice, so the inverse table built from it is a true inverse), and the inverse column mixing
undoes the mixing. That last step rests on multiplication in GF(2^8) distributing over
addition: the composite is additive, so one column is the sum of four one-byte columns and
each is checked over the 256 byte values.

* `Aes.decryptBlock_encryptBlock`: every 16-byte block comes back.
* `CbcCipher.decrypt_encrypt`: every payload comes back.
-/

namespace Playout.Aes

/-! ## Bytes -/

/-- Whether `p` holds of every byte. -/
def allBytes (p : UInt8 → Bool) : Bool := (List.range 256).all fun n => p (UInt8.ofNat n)

theorem allBytes_spec {p : UInt8 → Bool} (h : allBytes p = true) (b : UInt8) : p b = true := by
  have hb : b.toNat < 256 := b.toNat_lt
  simpa using List.all_eq_true.mp h b.toNat (List.mem_range.mpr hb)

theorem xor_xor_cancel_right (a b : UInt8) : a ^^^ b ^^^ b = a := by
  rw [UInt8.xor_assoc, UInt8.xor_self, UInt8.xor_zero]

theorem xor_cancel_common (x y c : UInt8) : (x ^^^ c) ^^^ (y ^^^ c) = x ^^^ y := by
  rw [UInt8.xor_assoc, ← UInt8.xor_assoc c y c, UInt8.xor_comm c y, xor_xor_cancel_right]

theorem top_bit_cases (a : UInt8) : a &&& 0x80 = 0 ∨ a &&& 0x80 = 0x80 := by
  simpa using allBytes_spec (p := fun a => a &&& 0x80 == 0 || a &&& 0x80 == 0x80) (by decide +kernel) a

theorem xtime_xor (a b : UInt8) : xtime (a ^^^ b) = xtime a ^^^ xtime b := by
  have htop : (a ^^^ b) &&& 0x80 = (a &&& 0x80) ^^^ (b &&& 0x80) := by
    apply UInt8.toBitVec_inj.mp
    ext i
    simp [Bool.and_xor_distrib_right]
  unfold xtime
  rw [UInt8.shiftLeft_xor, htop]
  -- the reduction constant is added once for each operand whose top bit is set
  rcases top_bit_cases a with ha | ha <;> rcases top_bit_cases b with hb | hb
  · simp [ha, hb]
  · simp [ha, hb, UInt8.xor_assoc]
  · simp [ha, hb]
    ac_rfl
  · simp [ha, hb]
    rw [xor_cancel_common]

/-- `gmul` by structural recursion on the number of bits of the multiplier, which the kernel
evaluates quickly. -/
def gmulBits : Nat → UInt8 → Nat → UInt8
  | 0, _, _ => 0
  | bits + 1, a, n => if n = 0 then 0 else (if n % 2 = 1 then a else 0) ^^^ gmulBits bits (xtime a) (n / 2)

theorem gmul_eq_gmulBits (bits : Nat) (a : UInt8) {n : Nat} (hn : n < Nat.pow 2 bits) :
    gmul a n = gmulBits bits a n := by
  induction bits generalizing a n with
  | zero =>
    have hzero : n = 0 := by simp [Nat.pow] at hn; omega
    subst hzero
    rw [gmul]
    simp [gmulBits]
  | succ bits ih =>
    have hpow : Nat.pow 2 (bits + 1) = Nat.pow 2 bits * 2 := rfl
    rw [gmul, gmulBits, ih (xtime a) (by omega)]

theorem gmulBits_xor (bits : Nat) (a b : UInt8) (n : Nat) :
    gmulBits bits (a ^^^ b) n = gmulBits bits a n ^^^ gmulBits bits b n := by
  induction bits generalizing a b n with
  | zero => simp [gmulBits]
  | succ bits ih =>
    simp only [gmulBits, xtime_xor, ih]
    split
    · simp
    · split
      · ac_rfl
      · simp

theorem gmul_xor (a b : UInt8) (n : Nat) : gmul (a ^^^ b) n = gmul a n ^^^ gmul b n := by
  have hn : n < Nat.pow 2 n := Nat.lt_two_pow_self
  rw [gmul_eq_gmulBits n (a ^^^ b) hn, gmul_eq_gmulBits n a hn, gmul_eq_gmulBits n b hn, gmulBits_xor]

theorem gmul_one (a : UInt8) : gmul a 1 = a := by simp [gmul]

/-! ## The S-box and its inverse -/

/-- Whether no value of the list comes twice, each checked against the bits of those before it. -/
def freshAll : Nat → List Nat → Bool
  | _, [] => true
  | seen, x :: xs => !seen.testBit x && freshAll (seen ||| Nat.pow 2 x) xs

theorem nodup_of_freshAll {seen : Nat} {xs : List Nat} (h : freshAll seen xs = true) :
    xs.Nodup ∧ ∀ x ∈ xs, seen.testBit x = false := by
  induction xs generalizing seen with
  | nil => simp
  | cons x xs ih =>
    simp only [freshAll, Bool.and_eq_true, Bool.not_eq_true'] at h
    obtain ⟨hx, hrest⟩ := h
    obtain ⟨hnodup, hfresh⟩ := ih hrest
    -- a later value is neither among the earlier ones nor `x` itself
    have hlater (y : Nat) (hy : y ∈ xs) : seen.testBit y = false ∧ x ≠ y := by
      have := hfresh y hy
      simpa only [Nat.testBit_or, Bool.or_eq_false_iff, Nat.pow_eq, Nat.testBit_two_pow,
        decide_eq_false_iff_not] using this
    refine ⟨List.nodup_cons.mpr ⟨fun hmem => (hlater x hmem).2 rfl, hnodup⟩, fun y hy => ?_⟩
    rcases List.mem_cons.mp hy with rfl | hy
    · exact hx
    · exact (hlater y hy).1

theorem sbox_nodup : sbox.toList.Nodup :=
  List.Pairwise.of_map UInt8.toNat (fun _ _ hne heq => hne (congrArg UInt8.toNat heq))
    (nodup_of_freshAll (by decide +kernel : freshAll 0 (sbox.toList.map UInt8.toNat) = true)).1

theorem length_sbox : sbox.toList.length = 256 := by decide +kernel

theorem sbox_injective {i j : Nat} (hi : i < 256) (hj : j < 256) (h : sbox.getD i 0 = sbox.getD j 0) :
    i = j := by
  simp only [Array.getD_eq_getD_getElem?, ← Array.getElem?_toList, ← List.getD_eq_getElem?_getD] at h
  exact (List.getD_inj (by rw [length_sbox]; exact hi) (by rw [length_sbox]; exact hj) sbox_nodup).mp h

theorem getD_setIfInBounds_self {t : Array UInt8} {i : Nat} (h : i < t.size) (v : UInt8) :
    (t.setIfInBounds i v).getD i 0 = v := by
  simp [Array.getD_eq_getD_getElem?, h]

theorem getD_setIfInBounds_ne {t : Array UInt8} {i j : Nat} (h : i ≠ j) (v : UInt8) :
    (t.setIfInBounds i v).getD j 0 = t.getD j 0 := by
  simp [Array.getD_eq_getD_getElem?, h]

/-- The inverse table after its first `n` entries are filled in. -/
theorem invSbox_filled (n : Nat) (hn : n ≤ 256) :
    let t := (List.range n).foldl (fun t i => t.setIfInBounds (sbox.getD i 0).toNat (UInt8.ofNat i))
      (Array.replicate 256 0)
    t.size = 256 ∧ ∀ j < n, t.getD (sbox.getD j 0).toNat 0 = UInt8.ofNat j := by
  induction n with
  | zero => simp
  | succ n ih =>
    obtain ⟨hsize, hprev⟩ := ih (by omega)
    simp only [List.range_succ, List.foldl_append, List.foldl_cons, List.foldl_nil]
    generalize (List.range n).foldl _ _ = t at hsize hprev ⊢
    refine ⟨by simp [hsize], fun j hj => ?_⟩
    by_cases hjn : j = n
    · subst hjn
      exact getD_setIfInBounds_self (by rw [hsize]; exact (sbox.getD j 0).toNat_lt) _
    · -- an earlier entry sits at another position, since the table takes no value twice
      have hne : (sbox.getD n 0).toNat ≠ (sbox.getD j 0).toNat := fun heq =>
        hjn (sbox_injective (by omega) (by omega) (UInt8.toNat_inj.mp heq)).symm
      rw [getD_setIfInBounds_ne hne]
      exact hprev j (by omega)

theorem invSub_sub (b : UInt8) : invSub (sub b) = b := by
  have h := (invSbox_filled 256 (Nat.le_refl _)).2 b.toNat b.toNat_lt
  simpa [invSub, sub, invSbox] using h

/-! ## Blocks -/

theorem byte_map_range (f : Nat → UInt8) {i : Nat} (hi : i < 16) : byte ((Array.range 16).map f) i = f i := by
  simp [byte, hi]

@[simp] theorem size_map_range (f : Nat → UInt8) : ((Array.range 16).map f).size = 16 := by simp

@[simp] theorem size_xorBlock (a b : Block) : (xorBlock a b).size = 16 := size_map_range _

@[simp] theorem size_shiftRows (s : Block) : (shiftRows s).size = 16 := size_map_range _

@[simp] theorem size_mixColumns (s : Block) : (mixColumns s).size = 16 := size_map_range _

@[simp] theorem size_subBytes (s : Block) : (subBytes s).size = s.size := Array.size_map ..

theorem block_ext {a b : Block} (ha : a.size = 16) (hb : b.size = 16) (h : ∀ i < 16, byte a i = byte b i) :
    a = b := by
  apply Array.ext (by rw [ha, hb])
  intro i hia hib
  simpa [byte, hia, hib] using h i (by omega)

theorem xorBlock_xorBlock {a : Block} (ha : a.size = 16) (k : Block) : xorBlock (xorBlock a k) k = a := by
  refine block_ext (size_xorBlock _ _) ha fun i hi => ?_
  rw [xorBlock, byte_map_range _ hi, xorBlock, byte_map_range _ hi, xor_xor_cancel_right]

theorem invShiftRows_shiftRows {s : Block} (hs : s.size = 16) : invShiftRows (shiftRows s) = s := by
  refine block_ext (size_map_range _) hs fun i hi => ?_
  have hj : i % 4 + 4 * ((i / 4 + 4 - i % 4) % 4) < 16 := by omega
  rw [invShiftRows, byte_map_range _ hi, shiftRows, byte_map_range _ hj]
  congr 1
  omega

theorem invSubBytes_subBytes (s : Block) : invSubBytes (subBytes s) = s := by
  simp [invSubBytes, subBytes, Array.map_map, Function.comp_def, invSub_sub]

/-! ## Column mixing -/

/-- The products by the mixing constants that each byte of a column contributes to the first
byte of the unmixed column: the byte itself for the first, nothing for the others. -/
def mixCoefficients : Bool :=
  allBytes fun a =>
    (gmulBits 4 (gmulBits 4 a 2) 14 ^^^ gmulBits 4 a 11 ^^^ gmulBits 4 a 13 ^^^ gmulBits 4 (gmulBits 4 a 3) 9) == a &&
    (gmulBits 4 (gmulBits 4 a 3) 14 ^^^ gmulBits 4 (gmulBits 4 a 2) 11 ^^^ gmulBits 4 a 13 ^^^ gmulBits 4 a 9) == 0 &&
    (gmulBits 4 a 14 ^^^ gmulBits 4 (gmulBits 4 a 3) 11 ^^^ gmulBits 4 (gmulBits 4 a 2) 13 ^^^ gmulBits 4 a 9) == 0 &&
    (gmulBits 4 a 14 ^^^ gmulBits 4 a 11 ^^^ gmulBits 4 (gmulBits 4 a 3) 13 ^^^ gmulBits 4 (gmulBits 4 a 2) 9) == 0

theorem mixCoefficients_eq : mixCoefficients = true := by decide +kernel

theorem unmix_row (x0 x1 x2 x3 : UInt8) :
    gmul (gmul x0 2 ^^^ gmul x1 3 ^^^ gmul x2 1 ^^^ gmul x3 1) 14 ^^^
      gmul (gmul x1 2 ^^^ gmul x2 3 ^^^ gmul x3 1 ^^^ gmul x0 1) 11 ^^^
      gmul (gmul x2 2 ^^^ gmul x3 3 ^^^ gmul x0 1 ^^^ gmul x1 1) 13 ^^^
      gmul (gmul x3 2 ^^^ gmul x0 3 ^^^ gmul x1 1 ^^^ gmul x2 1) 9 = x0 := by
  have hcoeff (a : UInt8) := allBytes_spec mixCoefficients_eq a
  simp only [Bool.and_eq_true, beq_iff_eq] at hcoeff
  obtain ⟨⟨⟨h0, -⟩, -⟩, -⟩ := hcoeff x0
  obtain ⟨⟨⟨-, h1⟩, -⟩, -⟩ := hcoeff x1
  obtain ⟨⟨-, h2⟩, -⟩ := hcoeff x2
  obtain ⟨-, h3⟩ := hcoeff x3
  have hbits (a : UInt8) (n : Nat) (hn : n < 16) : gmul a n = gmulBits 4 a n := gmul_eq_gmulBits 4 a hn
  simp only [gmul_xor, gmul_one]
  -- distribute, then collect the sixteen products by the byte they come from
  calc _ = (gmul (gmul x0 2) 14 ^^^ gmul x0 11 ^^^ gmul x0 13 ^^^ gmul (gmul x0 3) 9) ^^^
        (gmul (gmul x1 3) 14 ^^^ gmul (gmul x1 2) 11 ^^^ gmul x1 13 ^^^ gmul x1 9) ^^^
        (gmul x2 14 ^^^ gmul (gmul x2 3) 11 ^^^ gmul (gmul x2 2) 13 ^^^ gmul x2 9) ^^^
        (gmul x3 14 ^^^ gmul x3 11 ^^^ gmul (gmul x3 3) 13 ^^^ gmul (gmul x3 2) 9) := by ac_rfl
    _ = x0 ^^^ 0 ^^^ 0 ^^^ 0 := by
      simp only [hbits _ _ (by decide : 2 < 16), hbits _ _ (by decide : 3 < 16), hbits _ _ (by decide : 9 < 16),
        hbits _ _ (by decide : 11 < 16), hbits _ _ (by decide : 13 < 16), hbits _ _ (by decide : 14 < 16),
        h0, h1, h2, h3]
    _ = x0 := by simp

theorem byte_mixWith (m : List Nat) (s : Block) {c r : Nat} (hc : c < 4) (hr : r < 4) :
    byte (mixWith m s) (4 * c + r) =
      gmul (byte s (4 * c + r % 4)) (m.getD 0 0) ^^^ gmul (byte s (4 * c + (r + 1) % 4)) (m.getD 1 0) ^^^
      gmul (byte s (4 * c + (r + 2) % 4)) (m.getD 2 0) ^^^ gmul (byte s (4 * c + (r + 3) % 4)) (m.getD 3 0) := by
  have hdiv : (4 * c + r) / 4 = c := by omega
  have hmod : (4 * c + r) % 4 = r := by omega
  rw [mixWith, byte_map_range _ (by omega)]
  simp only [hdiv, hmod]
  simp [List.range_succ]

theorem invMixColumns_mixColumns {s : Block} (hs : s.size = 16) : invMixColumns (mixColumns s) = s := by
  refine block_ext (size_map_range _) hs fun i hi => ?_
  obtain ⟨c, r, hc, hr, rfl⟩ : ∃ c r, c < 4 ∧ r < 4 ∧ i = 4 * c + r :=
    ⟨i / 4, i % 4, by omega, by omega, by omega⟩
  have hrow (k : Nat) : (r + k) % 4 < 4 := Nat.mod_lt _ (by decide)
  rw [invMixColumns, byte_mixWith _ _ hc hr, mixColumns, byte_mixWith _ _ hc (Nat.mod_lt r (by decide)),
    byte_mixWith _ _ hc (hrow 1), byte_mixWith _ _ hc (hrow 2), byte_mixWith _ _ hc (hrow 3)]
  -- each row of a column is the first row of the column rotated
  rcases (by omega : r = 0 ∨ r = 1 ∨ r = 2 ∨ r = 3) with rfl | rfl | rfl | rfl <;>
    simpa using unmix_row _ _ _ _

/-! ## Rounds -/

/-- The state after the first key addition and `n` full rounds of encryption. -/
def encryptRounds (ks : Array Block) (b : Block) (n : Nat) : Block :=
  (List.range n).foldl (fun s r => xorBlock (mixColumns (shiftRows (subBytes s))) (ks.getD (r + 1) #[]))
    (xorBlock b (ks.getD 0 #[]))

/-- The state after the last key is removed and `n` full rounds of decryption. -/
def decryptRounds (ks : Array Block) (c : Block) (n : Nat) : Block :=
  (List.range n).foldl (fun s r => invMixColumns (xorBlock (invSubBytes (invShiftRows s)) (ks.getD (9 - r) #[])))
    (xorBlock c (ks.getD 10 #[]))

theorem encryptBlock_eq (ks : Array Block) (b : Block) :
    encryptBlock ks b = xorBlock (shiftRows (subBytes (encryptRounds ks b 9))) (ks.getD 10 #[]) := rfl

theorem decryptBlock_eq (ks : Array Block) (c : Block) :
    decryptBlock ks c = xorBlock (invSubBytes (invShiftRows (decryptRounds ks c 9))) (ks.getD 0 #[]) := rfl

@[simp] theorem size_encryptBlock (ks : Array Block) (b : Block) : (encryptBlock ks b).size = 16 :=
  size_xorBlock _ _

theorem encryptRounds_succ (ks : Array Block) (b : Block) (n : Nat) :
    encryptRounds ks b (n + 1) =
      xorBlock (mixColumns (shiftRows (subBytes (encryptRounds ks b n)))) (ks.getD (n + 1) #[]) := by
  simp [encryptRounds, List.range_succ]

theorem decryptRounds_succ (ks : Array Block) (c : Block) (n : Nat) :
    decryptRounds ks c (n + 1) =
      invMixColumns (xorBlock (invSubBytes (invShiftRows (decryptRounds ks c n))) (ks.getD (9 - n) #[])) := by
  simp [decryptRounds, List.range_succ]

@[simp] theorem size_encryptRounds (ks : Array Block) (b : Block) (n : Nat) : (encryptRounds ks b n).size = 16 := by
  cases n with
  | zero => simp [encryptRounds]
  | succ n => simp [encryptRounds_succ]

/-- Decryption walks the encryption rounds back: after `m` of its rounds it holds the state
encryption had after `9 - m` rounds, substituted and shifted. -/
theorem decryptRounds_encryptBlock (ks : Array Block) (b : Block) {m : Nat} (hm : m ≤ 9) :
    decryptRounds ks (encryptBlock ks b) m = shiftRows (subBytes (encryptRounds ks b (9 - m))) := by
  induction m with
  | zero => simp [decryptRounds, encryptBlock_eq, xorBlock_xorBlock]
  | succ m ih =>
    have hround : 9 - m = (9 - (m + 1)) + 1 := by omega
    rw [decryptRounds_succ, ih (by omega), invShiftRows_shiftRows (by simp), invSubBytes_subBytes, hround,
      encryptRounds_succ, ← hround, xorBlock_xorBlock (by simp), invMixColumns_mixColumns (by simp)]

/-- Every 16-byte block comes back, whatever the round keys. -/
theorem decryptBlock_encryptBlock (ks : Array Block) {b : Block} (hb : b.size = 16) :
    decryptBlock ks (encryptBlock ks b) = b := by
  rw [decryptBlock_eq, decryptRounds_encryptBlock ks b (Nat.le_refl 9), invShiftRows_shiftRows (by simp),
    invSubBytes_subBytes]
  exact xorBlock_xorBlock hb _

end Playout.Aes

namespace Playout.CbcCipher

/-! ## Chaining -/

theorem blocks_short {data : Bytes} (h : data.length < 16) : blocks data = ([], data) := by
  simp [blocks, Nat.div_eq_of_lt h]

theorem blocks_cons {x : Bytes} (hx : x.length = 16) (rest : Bytes) :
    blocks (x ++ rest) = (x.toArray :: (blocks rest).1, (blocks rest).2) := by
  have hn : (x ++ rest).length / 16 = rest.length / 16 + 1 := by simp [hx]
  have hdrop (i : Nat) : (x ++ rest).drop (16 * (i + 1)) = rest.drop (16 * i) := by
    rw [show 16 * (i + 1) = x.length + 16 * i by rw [hx]; omega, List.drop_length_add_append]
  have htake : (x ++ rest).take 16 = x := by rw [← hx, List.take_append_length]
  simp only [blocks, hn, List.range_succ_eq_map, List.map_cons, List.map_map, Nat.mul_zero, List.drop_zero,
    htake, Function.comp_def, hdrop]

theorem blocks_flatMap {bs : List Aes.Block} (hbs : ∀ b ∈ bs, b.size = 16) {tail : Bytes}
    (ht : tail.length < 16) : blocks (bs.flatMap Array.toList ++ tail) = (bs, tail) := by
  induction bs with
  | nil => simpa using blocks_short ht
  | cons b bs ih =>
    rw [List.flatMap_cons, List.append_assoc, blocks_cons (by simpa using hbs b (by simp)),
      ih fun b' hb' => hbs b' (by simp [hb'])]

theorem blocks_spec (data : Bytes) :
    (blocks data).1.flatMap Array.toList ++ (blocks data).2 = data ∧
      (∀ b ∈ (blocks data).1, b.size = 16) ∧ (blocks data).2.length < 16 := by
  by_cases hshort : data.length < 16
  · rw [blocks_short hshort]
    simpa using hshort
  · -- a whole first block, then the rest split the same way
    have hx : (data.take 16).length = 16 := by simp; omega
    obtain ⟨hcat, hwhole, htail⟩ := blocks_spec (data.drop 16)
    rw [← List.take_append_drop 16 data, blocks_cons hx]
    refine ⟨?_, ?_, htail⟩
    · rw [List.flatMap_cons, List.append_assoc, hcat]
    · intro b hb
      rcases List.mem_cons.mp hb with rfl | hb
      · simpa using hx
      · exact hwhole b hb
termination_by data.length
decreasing_by simp; omega

/-- Cipher blocks chained from `prev`: each plain block is mixed with the cipher block before it. -/
def chainEncrypt (keys : Array Aes.Block) : Aes.Block → List Aes.Block → List Aes.Block
  | _, [] => []
  | prev, b :: bs =>
    let e := Aes.encryptBlock keys (Aes.xorBlock b prev)
    e :: chainEncrypt keys e bs

/-- Plain blocks recovered from cipher blocks chained from `prev`. -/
def chainDecrypt (keys : Array Aes.Block) : Aes.Block → List Aes.Block → List Aes.Block
  | _, [] => []
  | prev, c :: cs => Aes.xorBlock (Aes.decryptBlock keys c) prev :: chainDecrypt keys c cs

theorem encrypt_fold (keys : Array Aes.Block) (bs : List Aes.Block) (acc : Bytes) (prev : Aes.Block) :
    (bs.foldl (fun (acc, prev) b =>
      let e := Aes.encryptBlock keys (Aes.xorBlock b prev)
      (acc ++ e.toList, e)) (acc, prev)).1 = acc ++ (chainEncrypt keys prev bs).flatMap Array.toList := by
  induction bs generalizing acc prev with
  | nil => simp [chainEncrypt]
  | cons b bs ih => simp [chainEncrypt, ih]

theorem decrypt_fold (keys : Array Aes.Block) (cs : List Aes.Block) (acc : Bytes) (prev : Aes.Block) :
    (cs.foldl (fun (acc, prev) c => (acc ++ (Aes.xorBlock (Aes.decryptBlock keys c) prev).toList, c))
      (acc, prev)).1 = acc ++ (chainDecrypt keys prev cs).flatMap Array.toList := by
  induction cs generalizing acc prev with
  | nil => simp [chainDecrypt]
  | cons c cs ih => simp [chainDecrypt, ih]

theorem chainDecrypt_chainEncrypt (keys : Array Aes.Block) (prev : Aes.Block) {bs : List Aes.Block}
    (hbs : ∀ b ∈ bs, b.size = 16) : chainDecrypt keys prev (chainEncrypt keys prev bs) = bs := by
  induction bs generalizing prev with
  | nil => rfl
  | cons b bs ih =>
    simp only [chainEncrypt, chainDecrypt]
    rw [Aes.decryptBlock_encryptBlock _ (Aes.size_xorBlock _ _), Aes.xorBlock_xorBlock (hbs b (by simp)),
      ih _ fun b' hb' => hbs b' (by simp [hb'])]

theorem size_chainEncrypt (keys : Array Aes.Block) (prev : Aes.Block) (bs : List Aes.Block) :
    ∀ e ∈ chainEncrypt keys prev bs, e.size = 16 := by
  induction bs generalizing prev with
  | nil => simp [chainEncrypt]
  | cons b bs ih =>
    intro e he
    simp only [chainEncrypt, List.mem_cons] at he
    rcases he with rfl | he
    · exact Aes.size_encryptBlock _ _
    · exact ih _ e he

/-- Decryption undoes encryption under every key and IV: the whole blocks are deciphered back,
and the tail went in the clear both ways. -/
theorem decrypt_encrypt (c : CbcCipher) (plain : Bytes) : c.decrypt (c.encrypt plain) = plain := by
  obtain ⟨hcat, hwhole, htail⟩ := blocks_spec plain
  have hcipher : c.encrypt plain =
      (chainEncrypt c.keys c.iv (blocks plain).1).flatMap Array.toList ++ (blocks plain).2 := by
    simp only [encrypt, encrypt_fold, List.nil_append]
  rw [decrypt, hcipher, blocks_flatMap (size_chainEncrypt _ _ _) htail]
  simp only [decrypt_fold, List.nil_append, chainDecrypt_chainEncrypt _ _ hwhole, hcat]

end Playout.CbcCipher
