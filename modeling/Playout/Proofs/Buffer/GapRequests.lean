import Playout.Proofs.Buffer.Steps
import Mathlib.Data.List.Nodup

/-!
# Gap requests

A put that lands ahead of the write cursor but not right after it reports a gap: the numbers
strictly between the old write cursor and the packet, queued for retransmission in pieces of at
most the resend span. Along one stream (no reset, no flush, no put that restarts the window) the
write cursor only moves forward, so measured from the first sequence number `s0` every gap
covers offsets just above everything asked or stored before it.

`gap_requests_partition`: as long as the write cursor travels less than a full turn, the gap
requests queued along a run ask for no number twice, and they ask for exactly the numbers between
`s0` and the final write cursor that no put ahead of the write cursor delivered.
-/

namespace Playout

/-- Operations that keep the buffer on one stream. -/
def BufferOp.keepsStream : BufferOp → Bool
  | .reset | .flush _ => false
  | _ => true

/-- Replies of puts that start the window over. -/
def BufferReply.restarts : BufferReply → Bool
  | .put .synced | .put .overrun => true
  | _ => false

namespace JitterBuffer

/-- What `f` reads off each step of a run, in order. -/
def collect {α : Type} (f : JitterBuffer → BufferOp → List α) : JitterBuffer → List BufferOp → List α
  | _, [] => []
  | b, op :: ops => f b op ++ collect f (b.exec op).2 ops

/-- The pieces a step queues because its put reported a gap. -/
def gapChunks (b : JitterBuffer) (op : BufferOp) : List SeqRange :=
  match (b.exec op).1 with
  | .put (.gap r) => chunks b.shape.maxResendSpan r.first r.count.toNat
  | _ => []

/-- The number a step's put delivers ahead of the write cursor, if it does. -/
def aheadSeq (b : JitterBuffer) : BufferOp → List UInt16
  | .put s ts pcm =>
    match (b.put s ts pcm).1 with
    | .expected | .gap _ => [s]
    | _ => []
  | _ => []

/-- How far the write cursor moves forward along a run. -/
def writeTravel : JitterBuffer → List BufferOp → Nat
  | _, [] => 0
  | b, op :: ops => (Seq.diff b.write (b.exec op).2.write).toNat + writeTravel (b.exec op).2 ops

/-! ## The pieces of a range -/

theorem ofNat_add_ofNat (x : UInt16) (c i : Nat) :
    x + UInt16.ofNat c + UInt16.ofNat i = x + UInt16.ofNat (c + i) := by
  rw [UInt16.add_assoc, ← UInt16.ofNat_add]

theorem flatMap_members_chunks (span : Nat) (first : UInt16) (n : Nat) (hn : n < 65536) :
    (chunks span first n).flatMap SeqRange.members = (List.range n).map (first + UInt16.ofNat ·) := by
  induction first, n using chunks.induct span with
  | case1 first => simp [chunks]
  | case2 first n hn0 c ih =>
    rw [chunks.eq_1, if_neg hn0]
    dsimp only
    rw [show min n (max span 1) = c from rfl]
    have hc : c ≤ n := Nat.min_le_left _ _
    have hcount : (UInt16.ofNat c).toNat = c := by
      rw [UInt16.toNat_ofNat']
      exact Nat.mod_eq_of_lt (by simp only [Nat.reducePow]; omega)
    -- the first piece holds the first `c` members, the rest holds the others shifted by `c`
    have hsplit : n = c + (n - c) := by omega
    rw [List.flatMap_cons, ih (by omega), SeqRange.members, hcount]
    conv => rhs; rw [hsplit, List.range_add, List.map_append, List.map_map]
    congr 1
    apply List.map_congr_left
    intro i _
    exact ofNat_add_ofNat first c i

/-! ## One step -/

theorem write_get (b : JitterBuffer) : b.get.2.write = b.write := by
  by_cases hf : b.fill = 0
  · rw [get_of_fill_eq_zero hf]
  · exact get_write hf

theorem write_skip (b : JitterBuffer) (n : Nat) : (b.skip n).2.write = b.write := by
  rw [skip_snd]
  exact skipLoop_induction (fun b' => b'.write = b.write) (fun b' _ h => h) b n 0 rfl

/-- A step on one stream either leaves the write cursor where it was, delivering and asking for
nothing, or moves it forward to the number its put delivers, asking for the numbers skipped. -/
theorem exec_write_cases (b : JitterBuffer) (op : BufferOp) (hkeep : op.keepsStream = true)
    (hcont : (b.exec op).1.restarts = false) :
    ((b.exec op).2.write = b.write ∧ aheadSeq b op = [] ∧ gapChunks b op = []) ∨
    (0 < Seq.diff b.write (b.exec op).2.write ∧ aheadSeq b op = [(b.exec op).2.write] ∧
      (gapChunks b op).flatMap SeqRange.members =
        (List.range (Seq.diff b.write (b.exec op).2.write - 1).toNat).map (b.write + 1 + UInt16.ofNat ·)) := by
  cases op with
  | put s ts pcm =>
    simp only [gapChunks, aheadSeq, exec_put] at hcont ⊢
    have hcase := put_case b s ts pcm
    generalize (b.put s ts pcm).1 = o at hcase hcont ⊢
    generalize (b.put s ts pcm).2 = b' at hcase ⊢
    cases hcase with
    | synced => simp [BufferReply.restarts] at hcont
    | overrun => simp [BufferReply.restarts] at hcont
    | flushed => exact .inl ⟨rfl, rfl, rfl⟩
    | expected hd hs ha hc =>
      right
      simp [ha]
    | gap hd hs ha hc =>
      right
      have hcount : (UInt16.ofNat (Seq.diff b.write s - 1).toNat).toNat = (Seq.diff b.write s - 1).toNat := by
        have := (Seq.diff_spec b.write s).2.1
        rw [UInt16.toNat_ofNat']
        exact Nat.mod_eq_of_lt (by simp only [Nat.reducePow]; omega)
      refine ⟨by simpa using (show (0 : Int) < Seq.diff b.write s by omega), by simp, ?_⟩
      simp only [requestResend_write]
      rw [hcount, flatMap_members_chunks _ _ _ (by have := (Seq.diff_spec b.write s).2.1; omega)]
    | duplicate => exact .inl ⟨rfl, rfl, rfl⟩
    | late => exact .inl ⟨rfl, rfl, rfl⟩
    | tooLate => exact .inl ⟨rfl, rfl, rfl⟩
  | get => exact .inl ⟨write_get b, rfl, by simp [gapChunks]⟩
  | skip n => exact .inl ⟨write_skip b n, rfl, by simp [gapChunks]⟩
  | takeResends => exact .inl ⟨rfl, rfl, by simp [gapChunks]⟩
  | setBuffering v => exact .inl ⟨rfl, rfl, by simp [gapChunks]⟩
  | reset => simp [BufferOp.keepsStream] at hkeep
  | flush target => simp [BufferOp.keepsStream] at hkeep

/-! ## Offsets from the first number -/

section Offsets

variable {o : UInt16}

theorem eq_of_offset_eq {t u : UInt16} (h : (t - o).toNat = (u - o).toNat) : t = u := by
  have ht := UInt16.toNat_sub t o
  have hu := UInt16.toNat_sub u o
  have := t.toNat_lt
  have := u.toNat_lt
  have := o.toNat_lt
  simp only [Nat.reducePow] at ht hu
  rw [← UInt16.toNat_inj]
  omega

theorem offset_add {w : UInt16} {k : Nat} (hfit : (w - o).toNat + k < 65536) :
    (w + UInt16.ofNat k - o).toNat = (w - o).toNat + k := by
  have hw := UInt16.toNat_sub w o
  have hs := UInt16.toNat_sub (w + UInt16.ofNat k) o
  have hsum := UInt16.toNat_add w (UInt16.ofNat k)
  have hk := UInt16.toNat_ofNat' (n := k)
  have := w.toNat_lt
  have := o.toNat_lt
  simp only [Nat.reducePow] at hw hs hsum hk
  omega

theorem offset_of_diff {w s : UInt16} (hd : 0 ≤ Seq.diff w s)
    (hfit : (w - o).toNat + (Seq.diff w s).toNat < 65536) :
    (s - o).toNat = (w - o).toNat + (Seq.diff w s).toNat := by
  have hs : s = w + UInt16.ofNat (Seq.diff w s).toNat := by
    apply Seq.eq_of_diff_eq (a := w)
    rw [Seq.diff_add_ofNat w (by have := (Seq.diff_spec w s).2.1; omega)]
    omega
  conv => lhs; rw [hs]
  exact offset_add hfit

theorem mem_skipped {w t : UInt16} {n : Nat} (hfit : (w - o).toNat + n < 65536) :
    t ∈ (List.range n).map (w + 1 + UInt16.ofNat ·) ↔
      (w - o).toNat < (t - o).toNat ∧ (t - o).toNat ≤ (w - o).toNat + n := by
  have hstep (i : Nat) (hi : i < n) : (w + 1 + UInt16.ofNat i - o).toNat = (w - o).toNat + (i + 1) := by
    rw [show w + 1 + UInt16.ofNat i = w + UInt16.ofNat (i + 1) by
      rw [Nat.add_comm, ← ofNat_add_ofNat]; rfl]
    exact offset_add (by omega)
  constructor
  · rintro h
    obtain ⟨i, hi, rfl⟩ := List.mem_map.1 h
    have hi' := List.mem_range.1 hi
    rw [hstep i hi']
    omega
  · rintro ⟨hlo, hhi⟩
    refine List.mem_map.2 ⟨(t - o).toNat - (w - o).toNat - 1, List.mem_range.2 (by omega), ?_⟩
    apply eq_of_offset_eq (o := o)
    rw [hstep _ (by omega)]
    omega

theorem nodup_skipped (w : UInt16) {n : Nat} (hfit : (w - o).toNat + n < 65536) :
    ((List.range n).map (w + 1 + UInt16.ofNat ·)).Nodup := by
  refine List.Nodup.map_on ?_ List.nodup_range
  intro i hi j hj hij
  have hi' := List.mem_range.1 hi
  have hj' := List.mem_range.1 hj
  have hoff (k : Nat) (hk : k < n) : (w + 1 + UInt16.ofNat k - o).toNat = (w - o).toNat + (k + 1) := by
    rw [show w + 1 + UInt16.ofNat k = w + UInt16.ofNat (k + 1) by
      rw [Nat.add_comm, ← ofNat_add_ofNat]; rfl]
    exact offset_add (by omega)
  have := congrArg (fun x => (x - o).toNat) hij
  simp only [hoff i hi', hoff j hj'] at this
  omega

end Offsets

/-! ## The ledger of a stream -/

/-- What gap detection has asked for and what puts ahead of the write cursor have delivered,
measured from the first number `s0` with the write cursor at `w`: nothing asked twice, everything
delivered in `(s0, w]`, and asked exactly what in `(s0, w]` was not delivered. -/
structure GapLedger (s0 w : UInt16) (asked stored : List UInt16) : Prop where
  nodup : asked.Nodup
  stored_between : ∀ t ∈ stored, 0 < (t - s0).toNat ∧ (t - s0).toNat ≤ (w - s0).toNat
  mem_asked : ∀ t, t ∈ asked ↔ 0 < (t - s0).toNat ∧ (t - s0).toNat ≤ (w - s0).toNat ∧ t ∉ stored

theorem GapLedger.start (s0 : UInt16) : GapLedger s0 s0 [] [] := by
  refine ⟨List.nodup_nil, by simp, ?_⟩
  intro t
  simp only [List.not_mem_nil, false_iff, UInt16.sub_self, UInt16.toNat_zero]
  omega

theorem GapLedger.extend {s0 w s : UInt16} {asked stored : List UInt16}
    (hl : GapLedger s0 w asked stored) (hd : 0 < Seq.diff w s)
    (hfit : (w - s0).toNat + (Seq.diff w s).toNat < 65536) :
    GapLedger s0 s (asked ++ (List.range (Seq.diff w s - 1).toNat).map (w + 1 + UInt16.ofNat ·))
      (stored ++ [s]) := by
  have hs := offset_of_diff (o := s0) hd.le hfit
  have hgap (t : UInt16) := mem_skipped (o := s0) (w := w) (t := t) (n := (Seq.diff w s - 1).toNat) (by omega)
  refine ⟨?_, ?_, ?_⟩
  · -- the new numbers lie past `w`, everything asked before at or below it
    refine List.nodup_append.2 ⟨hl.nodup, nodup_skipped (o := s0) w (by omega), ?_⟩
    intro a ha c hc hac
    have hold := ((hl.mem_asked a).1 ha).2.1
    have hnew := ((hgap c).1 hc).1
    rw [hac] at hold
    omega
  · intro t ht
    rcases List.mem_append.1 ht with ht | ht
    · have := hl.stored_between t ht
      omega
    · rw [List.mem_singleton.1 ht, hs]
      omega
  · intro t
    have hts : t = s ↔ (t - s0).toNat = (w - s0).toNat + (Seq.diff w s).toNat := by
      constructor
      · rintro rfl
        exact hs
      · intro h
        exact eq_of_offset_eq (h.trans hs.symm)
    rw [List.mem_append, hl.mem_asked t, hgap t, List.mem_append, List.mem_singleton, hts, hs]
    -- a number delivered before lies at or below the old write cursor
    by_cases hin : t ∈ stored
    · have := hl.stored_between t hin
      simp only [hin, not_true_eq_false, and_false, true_or, false_or, iff_false]
      omega
    · simp only [hin, not_false_eq_true, and_true, false_or]
      omega

theorem ledger_run (s0 : UInt16) (b : JitterBuffer) (ops : List BufferOp) {asked stored : List UInt16}
    (hl : GapLedger s0 b.write asked stored) (hkeep : ∀ op ∈ ops, op.keepsStream = true)
    (hcont : ∀ r ∈ (b.run ops).1, r.restarts = false)
    (hfit : (b.write - s0).toNat + b.writeTravel ops < 65536) :
    GapLedger s0 (b.run ops).2.write (asked ++ (collect gapChunks b ops).flatMap SeqRange.members)
      (stored ++ collect aheadSeq b ops) := by
  induction ops generalizing b asked stored with
  | nil => simpa [collect] using hl
  | cons op ops ih =>
    have hstep := exec_write_cases b op (hkeep op (by simp)) (hcont _ (by simp))
    have hkeep' : ∀ op ∈ ops, op.keepsStream = true := fun op h => hkeep op (by simp [h])
    have hcont' : ∀ r ∈ ((b.exec op).2.run ops).1, r.restarts = false :=
      fun r h => hcont r (by simp [h])
    simp only [writeTravel] at hfit
    simp only [collect, run_cons_snd, List.flatMap_append, ← List.append_assoc]
    rcases hstep with ⟨hw, hs, hg⟩ | ⟨hd, hs, hg⟩
    · rw [hs, hg]
      rw [hw, Seq.diff_self] at hfit
      have hl' : GapLedger s0 (b.exec op).2.write asked stored := by
        rw [hw]
        exact hl
      have hnext := ih (b.exec op).2 hl' hkeep' hcont' (by rw [hw]; omega)
      simpa using hnext
    · rw [hs, hg]
      have hnext := hl.extend hd (by omega)
      have hoff := offset_of_diff (o := s0) hd.le (by omega)
      exact ih _ hnext hkeep' hcont' (by omega)

theorem write_of_synced {b : JitterBuffer} {s : UInt16} {ts : UInt32} {pcm : List Sample}
    (hsync : (b.put s ts pcm).1 = .synced) : (b.put s ts pcm).2.write = s := by
  have hcase := put_case b s ts pcm
  generalize (b.put s ts pcm).1 = o at hcase hsync
  generalize (b.put s ts pcm).2 = b' at hcase ⊢
  cases hcase with
  | synced => rfl
  | flushed | overrun | expected | gap | duplicate | late | tooLate => cases hsync

/-- After a put that syncs the buffer at `s0`, along a run on one stream whose write cursor
travels less than a full turn, the pieces gap detection queues ask for no number twice, and they
ask for exactly the numbers past `s0` up to the final write cursor that no put ahead of the write
cursor delivered. -/
theorem gap_requests_partition (b : JitterBuffer) (s0 : UInt16) (ts : UInt32) (pcm : List Sample)
    (ops : List BufferOp) (hsync : (b.put s0 ts pcm).1 = .synced)
    (hkeep : ∀ op ∈ ops, op.keepsStream = true)
    (hcont : ∀ r ∈ ((b.put s0 ts pcm).2.run ops).1, r.restarts = false)
    (htravel : (b.put s0 ts pcm).2.writeTravel ops < 65536) :
    let b₁ := (b.put s0 ts pcm).2
    let asked := (collect gapChunks b₁ ops).flatMap SeqRange.members
    asked.Nodup ∧
      ∀ t, t ∈ asked ↔ 0 < (t - s0).toNat ∧ (t - s0).toNat ≤ ((b₁.run ops).2.write - s0).toNat ∧
        t ∉ collect aheadSeq b₁ ops := by
  intro b₁ asked
  have hw : b₁.write = s0 := write_of_synced hsync
  have hstart : GapLedger s0 b₁.write [] [] := by
    rw [hw]
    exact GapLedger.start s0
  have hl := ledger_run s0 b₁ ops hstart hkeep hcont (by simp [hw]; omega)
  simp only [List.nil_append] at hl
  exact ⟨hl.nodup, hl.mem_asked⟩

/-- The packets `1000` to `1010` with `1005` withheld, on a buffer of sixteen slots. -/
theorem gap_requests_partition_withheld :
    let ops := ([1001, 1002, 1003, 1004, 1006, 1007, 1008, 1009, 1010] : List UInt16).map
      fun s => BufferOp.put s 0 []
    let b₁ := ((create 16 352 4 2 8).put 1000 0 []).2
    ((create 16 352 4 2 8).put 1000 0 []).1 = .synced ∧ (∀ op ∈ ops, op.keepsStream = true) ∧
      (∀ r ∈ (b₁.run ops).1, r.restarts = false) ∧ b₁.writeTravel ops < 65536 ∧
      let asked := (collect gapChunks b₁ ops).flatMap SeqRange.members
      asked.Nodup ∧
        ∀ t, t ∈ asked ↔ 0 < (t - 1000).toNat ∧ (t - 1000).toNat ≤ ((b₁.run ops).2.write - 1000).toNat ∧
          t ∉ collect aheadSeq b₁ ops :=
  ⟨by decide, by decide, by decide, by decide,
    gap_requests_partition (create 16 352 4 2 8) 1000 0 [] _ (by decide) (by decide) (by decide) (by decide)⟩

end JitterBuffer

end Playout
