import Playout.Wire.Bytes

/-!
# Big-endian words

Reading `n` bytes big-endian and writing a number as its low `n` bytes undo each other. The
bytes written for a number read back as the number modulo `256 ^ n`, whatever follows them;
the number read from `n` bytes is written back as exactly those bytes. The fixed-width fields
of the wire formats are the cases of 2, 4 and 8 bytes (`u16_at`, `be16_u16` and their
siblings).
-/

namespace Playout.Bytes

theorem readBE_succ (bs : Bytes) (i n : Nat) :
    bs.readBE i (n + 1) = bs.readBE i n * 256 + (bs.byteAt (i + n)).toNat := by
  simp only [readBE, List.range_succ, List.foldl_append, List.foldl_cons, List.foldl_nil]

theorem readBE_lt (bs : Bytes) (i n : Nat) : bs.readBE i n < Nat.pow 256 n := by
  induction n with
  | zero => simp [readBE]
  | succ n ih =>
    have hbyte := (bs.byteAt (i + n)).toNat_lt
    have hpow : Nat.pow 256 (n + 1) = Nat.pow 256 n * 256 := rfl
    rw [readBE_succ, hpow]
    omega

theorem readBE_append {bs : Bytes} {m : Nat} (hbs : bs.length = m) (rest : Bytes) (i n : Nat) :
    (bs ++ rest).readBE (m + i) n = rest.readBE i n := by
  simp only [readBE, byteAt]
  congr 1
  funext acc k
  rw [List.getD_eq_getElem?_getD, List.getElem?_append_right (by omega), List.getD_eq_getElem?_getD]
  congr 4
  omega

theorem readBE_after (pre rest : Bytes) (n : Nat) : (pre ++ rest).readBE pre.length n = rest.readBE 0 n :=
  readBE_append rfl rest 0 n

theorem ofNatBE_succ (n v : Nat) : ofNatBE (n + 1) v = ofNatBE n (v / 256) ++ [UInt8.ofNat v] := by
  simp only [ofNatBE, List.range_succ, List.map_append, List.map_cons, List.map_nil, Nat.add_sub_cancel,
    Nat.sub_self]
  congr 1
  · apply List.map_congr_left
    intro k hk
    have hk : k < n := List.mem_range.mp hk
    have hpow : Nat.pow 256 (n - k) = 256 * Nat.pow 256 (n - 1 - k) := by
      rw [show n - k = (n - 1 - k) + 1 by omega]
      exact Nat.mul_comm _ _
    rw [hpow, Nat.div_div_eq_div_mul]
  · rw [show Nat.pow 256 0 = 1 from rfl, Nat.div_one]

/-- The bytes written for a number read back as the number, reduced to their width. -/
theorem readBE_ofNatBE (n v : Nat) (rest : Bytes) : (ofNatBE n v ++ rest).readBE 0 n = v % Nat.pow 256 n := by
  induction n generalizing v rest with
  | zero => simp [readBE, Nat.mod_one]
  | succ n ih =>
    have hpow : Nat.pow 256 (n + 1) = 256 * Nat.pow 256 n := Nat.mul_comm _ _
    have hlast : (ofNatBE n (v / 256) ++ UInt8.ofNat v :: rest).byteAt (0 + n) = UInt8.ofNat v := by
      simp [byteAt]
    -- the high bytes are the number over 256, the last byte its remainder
    rw [readBE_succ, ofNatBE_succ, List.append_assoc, List.singleton_append, ih, hlast, UInt8.toNat_ofNat', hpow,
      Nat.mod_mul]
    omega

theorem ofNatBE_readBE {bs : Bytes} {i n : Nat} (h : i + n ≤ bs.length) :
    ofNatBE n (bs.readBE i n) = (bs.drop i).take n := by
  induction n with
  | zero => simp [ofNatBE]
  | succ n ih =>
    have hbyte := (bs.byteAt (i + n)).toNat_lt
    have hhigh : (bs.readBE i n * 256 + (bs.byteAt (i + n)).toNat) / 256 = bs.readBE i n := by omega
    have hlow : UInt8.ofNat (bs.readBE i n * 256 + (bs.byteAt (i + n)).toNat) = bs.byteAt (i + n) := by
      apply UInt8.toNat_inj.mp
      rw [UInt8.toNat_ofNat']
      omega
    have hat : (bs.drop i)[n]? = some (bs.byteAt (i + n)) := by
      rw [List.getElem?_drop, byteAt, List.getD_eq_getElem?_getD, List.getElem?_eq_getElem (by omega)]
      rfl
    rw [readBE_succ, ofNatBE_succ, hhigh, hlow, ih (by omega), List.take_add_one, hat]
    rfl

theorem take_append_drop_of_add {bs : Bytes} {i n j : Nat} (h : i + n = j) :
    (bs.drop i).take n ++ bs.drop j = bs.drop i := by
  rw [← h, ← List.drop_drop, List.take_append_drop]

/-! ## Words -/

/-- A word reads back at the offset where it was written, whatever comes before and after. -/
theorem u16_at {pre : Bytes} {i : Nat} (h : pre.length = i) (w : UInt16) (rest : Bytes) :
    (pre ++ (be16 w ++ rest)).u16 i = w := by
  subst h
  have hw : w.toNat < Nat.pow 256 2 := w.toNat_lt
  rw [u16, readBE_after, be16, readBE_ofNatBE, Nat.mod_eq_of_lt hw, UInt16.ofNat_toNat]

theorem u32_at {pre : Bytes} {i : Nat} (h : pre.length = i) (w : UInt32) (rest : Bytes) :
    (pre ++ (be32 w ++ rest)).u32 i = w := by
  subst h
  have hw : w.toNat < Nat.pow 256 4 := w.toNat_lt
  rw [u32, readBE_after, be32, readBE_ofNatBE, Nat.mod_eq_of_lt hw, UInt32.ofNat_toNat]

theorem u64_at {pre : Bytes} {i : Nat} (h : pre.length = i) (w : UInt64) (rest : Bytes) :
    (pre ++ (be64 w ++ rest)).u64 i = w := by
  subst h
  have hw : w.toNat < Nat.pow 256 8 := w.toNat_lt
  rw [u64, readBE_after, be64, readBE_ofNatBE, Nat.mod_eq_of_lt hw, UInt64.ofNat_toNat]

theorem be16_u16 {bs : Bytes} {i : Nat} (h : i + 2 ≤ bs.length) : be16 (bs.u16 i) = (bs.drop i).take 2 := by
  rw [be16, u16, UInt16.toNat_ofNat', Nat.mod_eq_of_lt (bs.readBE_lt i 2), ofNatBE_readBE h]

theorem be32_u32 {bs : Bytes} {i : Nat} (h : i + 4 ≤ bs.length) : be32 (bs.u32 i) = (bs.drop i).take 4 := by
  rw [be32, u32, UInt32.toNat_ofNat', Nat.mod_eq_of_lt (bs.readBE_lt i 4), ofNatBE_readBE h]

end Playout.Bytes
