import Playout.Proofs.Buffer.GapRequests
import Playout.Proofs.Buffer.Rejected
import Playout.Proofs.Buffer.Window
import Mathlib.Data.List.Chain

/-!
# Retransmission requests

Two operations queue retransmission requests. A put that lands two or more numbers past the
write cursor asks for the numbers it skipped. It asks in consecutive pieces of at most the
resend span, each but the last exactly that long, which together list the skipped numbers in
order (`Tiling`). A get that hands out a frame while playing asks once more for the frames
still missing at distances 16, 32, 64, ... past the read cursor.

* `gap_requests_tile_range`: on every buffer reached from a fresh one, a put two or more past
  the write cursor that does not overrun reports the skipped run as a gap, queues it in pieces
  that tile it, and counts its numbers; every other put queues nothing, and a put that starts
  the window over empties the queue.
-/

namespace Playout

namespace JitterBuffer

/-! ## Pieces of a run -/

/-- `cs` asks for the run `r` in consecutive pieces of at most `span` numbers, all but the last
of exactly `span`, which list the run's numbers in order. -/
structure Tiling (span : Nat) (r : SeqRange) (cs : List SeqRange) : Prop where
  head : ∀ c ∈ cs.head?, c.first = r.first
  consecutive : cs.IsChain fun c d => d.first = c.first + c.count
  count_pos : ∀ c ∈ cs, 0 < c.count.toNat
  count_le : ∀ c ∈ cs, c.count.toNat ≤ span
  full : ∀ c ∈ cs.dropLast, c.count.toNat = span
  members : cs.flatMap SeqRange.members = r.members

section Chunks

variable (span : Nat)

theorem toNat_ofNat_of_lt {n : Nat} (hn : n < 65536) : (UInt16.ofNat n).toNat = n := by
  rw [UInt16.toNat_ofNat']
  exact Nat.mod_eq_of_lt (by simp only [Nat.reducePow]; omega)

@[simp] theorem chunks_zero (first : UInt16) : chunks span first 0 = [] := by
  rw [chunks.eq_1, if_pos rfl]

theorem chunks_of_ne_zero {first : UInt16} {n : Nat} (hn0 : n ≠ 0) :
    chunks span first n = ⟨first, UInt16.ofNat (min n (max span 1))⟩ ::
      chunks span (first + UInt16.ofNat (min n (max span 1))) (n - min n (max span 1)) := by
  rw [chunks.eq_1, if_neg hn0]

theorem first_of_mem_head_chunks {first : UInt16} {n : Nat} {d : SeqRange}
    (hd : d ∈ (chunks span first n).head?) : d.first = first := by
  by_cases hn0 : n = 0
  · rw [hn0, chunks_zero] at hd
    cases hd
  · rw [chunks_of_ne_zero span hn0] at hd
    cases hd
    rfl

theorem chunks_isChain (first : UInt16) (n : Nat) :
    (chunks span first n).IsChain fun c d => d.first = c.first + c.count := by
  induction first, n using chunks.induct span with
  | case1 first => rw [chunks_zero]; exact List.IsChain.nil
  | case2 first n hn0 c ih =>
    rw [chunks_of_ne_zero span hn0]
    -- the next piece, if any, starts right after this one
    exact ih.cons fun d hd => first_of_mem_head_chunks span hd

theorem count_of_mem_chunks {first : UInt16} {n : Nat} (hn : n < 65536) {c : SeqRange}
    (hc : c ∈ chunks span first n) : 0 < c.count.toNat ∧ c.count.toNat ≤ max span 1 := by
  induction first, n using chunks.induct span with
  | case1 first => rw [chunks_zero] at hc; cases hc
  | case2 first n hn0 k ih =>
    rw [chunks_of_ne_zero span hn0] at hc
    rcases List.mem_cons.1 hc with rfl | hrest
    · have hk : k ≤ n := Nat.min_le_left _ _
      rw [toNat_ofNat_of_lt (by omega)]
      exact ⟨by omega, Nat.min_le_right _ _⟩
    · exact ih (by omega) hrest

theorem count_of_mem_dropLast_chunks {first : UInt16} {n : Nat} (hn : n < 65536) {c : SeqRange}
    (hc : c ∈ (chunks span first n).dropLast) : c.count.toNat = max span 1 := by
  induction first, n using chunks.induct span with
  | case1 first => rw [chunks_zero] at hc; cases hc
  | case2 first n hn0 k ih =>
    rw [chunks_of_ne_zero span hn0] at hc
    by_cases hrest : n - k = 0
    · rw [hrest, chunks_zero] at hc
      cases hc
    · -- a piece followed by another one took a whole span, not the rest of the run
      rw [chunks_of_ne_zero span hrest, List.dropLast_cons_cons, ← chunks_of_ne_zero span hrest] at hc
      rcases List.mem_cons.1 hc with rfl | hlater
      · have hk : k = max span 1 := by omega
        exact (toNat_ofNat_of_lt (by omega)).trans hk
      · exact ih (by omega) hlater

theorem tiling_chunks (r : SeqRange) : Tiling (max span 1) r (chunks span r.first r.count.toNat) where
  head _ hd := first_of_mem_head_chunks span hd
  consecutive := chunks_isChain span r.first r.count.toNat
  count_pos _ hc := (count_of_mem_chunks span r.count.toNat_lt hc).1
  count_le _ hc := (count_of_mem_chunks span r.count.toNat_lt hc).2
  full _ hc := count_of_mem_dropLast_chunks span r.count.toNat_lt hc
  members := flatMap_members_chunks span r.first r.count.toNat r.count.toNat_lt

end Chunks

variable {b : JitterBuffer} {s : UInt16} {ts : UInt32} {pcm : List Sample}

/-- The run strictly between `w` and `s` holds the numbers at distances `1` to
`diff w s - 1` past `w`. -/
theorem mem_members_between {w s t : UInt16} (h : 1 < Seq.diff w s) :
    t ∈ (⟨w + 1, UInt16.ofNat (Seq.diff w s - 1).toNat⟩ : SeqRange).members ↔
      0 < Seq.diff w t ∧ Seq.diff w t < Seq.diff w s := by
  have hd := (Seq.diff_spec w s).2.1
  have hcount : (UInt16.ofNat (Seq.diff w s - 1).toNat).toNat = (Seq.diff w s - 1).toNat :=
    toNat_ofNat_of_lt (by omega)
  -- member `i` is `w + (i + 1)`, at distance `i + 1` from `w`
  have hmember (i : Nat) : w + 1 + UInt16.ofNat i = w + UInt16.ofNat (i + 1) := by
    rw [Nat.add_comm, ← ofNat_add_ofNat]; rfl
  simp only [SeqRange.members, hcount, List.mem_map, List.mem_range]
  constructor
  · rintro ⟨i, hi, rfl⟩
    rw [hmember, Seq.diff_add_ofNat w (by omega)]
    omega
  · rintro ⟨hlo, hhi⟩
    refine ⟨(Seq.diff w t).toNat - 1, by omega, ?_⟩
    apply Seq.eq_of_diff_eq (a := w)
    rw [hmember, Seq.diff_add_ofNat w (by omega)]
    omega

/-! ## The queue after a put -/

/-- The resend queue a put leaves behind, read off its outcome: a gap appends its pieces, a
put that starts the window over empties the queue, and every other put leaves it alone. -/
def queueAfter (q : List SeqRange) (span : Nat) : PutOutcome → List SeqRange
  | .gap r => q ++ chunks span r.first r.count.toNat
  | .synced | .overrun => []
  | _ => q

theorem pending_put_eq (b : JitterBuffer) (s : UInt16) (ts : UInt32) (pcm : List Sample) :
    (b.put s ts pcm).2.pending = queueAfter b.pending b.shape.maxResendSpan (b.put s ts pcm).1 := by
  have hcase := put_case b s ts pcm
  generalize (b.put s ts pcm).1 = o at hcase ⊢
  generalize (b.put s ts pcm).2 = b' at hcase ⊢
  cases hcase <;> rfl

/-- On a synced buffer with no flush target, a put two or more past the write cursor that does
not overrun is a gap over the numbers in between. -/
theorem PutCase.gap_of_ahead {o : PutOutcome} {b' : JitterBuffer} (h : PutCase b s ts pcm o b')
    (hs : b.synced = true) (hd : b.discardBefore = none) (ha : 2 ≤ Seq.diff b.write s)
    (hno : o ≠ .overrun) : o = .gap ⟨b.write + 1, UInt16.ofNat (Seq.diff b.write s - 1).toNat⟩ := by
  cases h with
  | gap => rfl
  | flushed hdrop => simp [dropsStamp, hd] at hdrop
  | synced _ hs' => simp [hs] at hs'
  | overrun => exact absurd rfl hno
  | expected _ _ ha' => omega
  | duplicate _ _ ha' | late _ _ ha' | tooLate _ _ ha' => omega

/-- On every buffer reached from a fresh one, a synced buffer meeting a put two or more past
its write cursor that does not overrun reports the numbers strictly between the write cursor
and the packet as a gap. The put queues that run in pieces that tile it, and counts its
numbers as requested. Every other put queues nothing, and a put that starts the window over
empties the queue. -/
theorem gap_requests_tile_range (cap : Nat) (fpp : UInt32) (frameSamples startFill : Nat)
    (span : UInt16) (ops : List BufferOp) (s : UInt16) (ts : UInt32) (pcm : List Sample) :
    let b := ((create cap fpp frameSamples startFill span).run ops).2
    let o := (b.put s ts pcm).1
    let b' := (b.put s ts pcm).2
    (b.synced = true → 2 ≤ Seq.diff b.write s → o ≠ .overrun →
      ∃ r cs, o = .gap r ∧ r.first = b.write + 1 ∧ (r.count.toNat : Int) = Seq.diff b.write s - 1 ∧
        (∀ t, t ∈ r.members ↔ 0 < Seq.diff b.write t ∧ Seq.diff b.write t < Seq.diff b.write s) ∧
        b'.pending = b.pending ++ cs ∧ Tiling (max span.toNat 1) r cs ∧
        b'.stats.resendRequests = b.stats.resendRequests + r.count.toNat) ∧
    (o = .expected ∨ o = .late ∨ o = .duplicate ∨ o = .tooLate ∨ o = .flushed →
      b'.pending = b.pending) ∧
    (o = .synced ∨ o = .overrun → b'.pending = []) := by
  intro b o b'
  have hqueue : b'.pending = queueAfter b.pending (max span.toNat 1) o := by
    rw [pending_put_eq, shape_run]
    rfl
  refine ⟨fun hs ha hno => ?_, ?_, ?_⟩
  · have hgap : o = .gap ⟨b.write + 1, UInt16.ofNat (Seq.diff b.write s - 1).toNat⟩ :=
      (put_case b s ts pcm).gap_of_ahead hs
        (targetCleared_run (targetCleared_create cap fpp frameSamples startFill span) ops hs) ha hno
    have hd := (Seq.diff_spec b.write s).2.1
    -- the queue's pieces are cut by the buffer's span, which is the given one raised to one
    have htile := tiling_chunks (max span.toNat 1) ⟨b.write + 1, UInt16.ofNat (Seq.diff b.write s - 1).toNat⟩
    rw [show max (max span.toNat 1) 1 = max span.toNat 1 by omega] at htile
    have hstats : b'.stats = b.stats.afterPut o := stats_put b s ts pcm
    refine ⟨_, _, hgap, rfl, ?_, fun t => mem_members_between (by omega), ?_, htile, ?_⟩
    · show ((UInt16.ofNat (Seq.diff b.write s - 1).toNat).toNat : Int) = _
      rw [toNat_ofNat_of_lt (by omega)]
      omega
    · rw [hqueue, hgap]
      rfl
    · rw [hstats, hgap]
      rfl
  · rintro (ho | ho | ho | ho | ho) <;> rw [hqueue, ho] <;> rfl
  · rintro (ho | ho) <;> rw [hqueue, ho] <;> rfl

/-- Two packets lost between 1000 and 1006 on a buffer with a resend span of two. -/
theorem gap_requests_tile_range_span_two :
    let b := ((create 16 352 4 2 2).run [.put 1000 0 []]).2
    b.synced = true ∧ 2 ≤ Seq.diff b.write 1006 ∧ (b.put 1006 0 []).1 ≠ .overrun ∧
      ∃ r cs, (b.put 1006 0 []).1 = .gap r ∧ r.first = b.write + 1 ∧
        (r.count.toNat : Int) = Seq.diff b.write 1006 - 1 ∧
        (∀ t, t ∈ r.members ↔ 0 < Seq.diff b.write t ∧ Seq.diff b.write t < Seq.diff b.write 1006) ∧
        (b.put 1006 0 []).2.pending = b.pending ++ cs ∧ Tiling (max (2 : UInt16).toNat 1) r cs ∧
        (b.put 1006 0 []).2.stats.resendRequests = b.stats.resendRequests + r.count.toNat :=
  ⟨by decide, by decide, by decide,
    (gap_requests_tile_range 16 352 4 2 2 [.put 1000 0 []] 1006 0 []).1 (by decide) (by decide) (by decide)⟩

/-! ## Gap requests ask for frames the window still waits for -/

/-- A gap on a windowed buffer asks for numbers that lie after the read cursor and before the
packet just stored, none of them in a slot. -/
theorem Window.gap_sound (hw : b.Window) (hcap : 0 < b.shape.capacity) (hal : ¬b.Aliased s)
    {r : SeqRange} (hgap : (b.put s ts pcm).1 = .gap r) {t : UInt16} (ht : t ∈ r.members) :
    Seq.atOrAfter (b.put s ts pcm).2.read t = true ∧ Seq.atOrAfter t (b.put s ts pcm).2.write = true ∧
      t ≠ s ∧ (b.put s ts pcm).2.isReady t = false := by
  have hcase := put_case b s ts pcm
  generalize (b.put s ts pcm).1 = o at hcase hgap
  generalize (b.put s ts pcm).2 = b' at hcase ⊢
  cases hcase with
  | gap hd hs ha hc =>
    cases hgap
    obtain ⟨hlo, hhi⟩ := (mem_members_between ha).1 ht
    have hspan := hw.span hs
    have hsum := diff_through_write hal hs
    have hs' := (Seq.diff_spec b.write s).2.1
    have hr := (Seq.diff_spec b.read s).2.1
    -- `t` lies past the write cursor, before `s`, and no further from the read cursor than `s`
    have hread : Seq.diff b.read t = Seq.diff b.read b.write + Seq.diff b.write t :=
      Seq.diff_add (by omega) (by omega)
    have hback : Seq.diff t b.write = -Seq.diff b.write t := Seq.diff_swap (by omega)
    have hahead : Seq.diff t s = Seq.diff t b.write + Seq.diff b.write s :=
      Seq.diff_add (by omega) (by omega)
    have hin : b.admitted.index s < b.admitted.slots.size := by
      rw [admitted_index, admitted_slots, hw.size]
      exact Nat.mod_lt _ hcap
    refine ⟨Seq.atOrAfter_iff.2 (by show 0 ≤ Seq.diff b.read t; omega),
      Seq.atOrAfter_iff.2 (by show 0 ≤ Seq.diff t s; omega), ?_, ?_⟩
    · rintro rfl
      omega
    · -- the slot of `t` holds `s` or what it held before, which is no frame past the write cursor
      show ((b.admitted.store s ts pcm).lookup t).isSome = false
      rw [lookup_store _ s ts pcm t hin]
      split
      · split
        · rename_i hst
          subst hst
          omega
        · rfl
      · cases hl : b.admitted.lookup t with
        | none => rfl
        | some sl =>
          have := (hw.lookup_some hl).2.2.2
          omega
  | flushed | synced | overrun | expected | duplicate | late | tooLate => cases hgap

/-! ## Last-chance requests -/

/-- The requests of a last-chance pass over `offsets`: it walks the offsets while the number at
the offset is not past the write cursor, and asks for each such number that is missing. -/
def lastChanceRequests (b : JitterBuffer) (offsets : List Nat) : List SeqRange :=
  ((offsets.takeWhile fun o => Seq.atOrAfter (b.read + UInt16.ofNat o) b.write).filter
    fun o => !b.isReady (b.read + UInt16.ofNat o)).map fun o => ⟨b.read + UInt16.ofNat o, 1⟩

theorem chunks_one (span : Nat) (first : UInt16) : chunks span first 1 = [⟨first, 1⟩] := by
  rw [chunks_of_ne_zero span (by omega), show min 1 (max span 1) = 1 by omega, Nat.sub_self,
    chunks_zero]
  rfl

theorem lastChanceRequests_requestResend (b : JitterBuffer) (r : SeqRange) (offsets : List Nat) :
    (b.requestResend r).lastChanceRequests offsets = b.lastChanceRequests offsets := rfl

theorem pending_lastChance (b : JitterBuffer) (offsets : List Nat) :
    (b.lastChance offsets).pending = b.pending ++ b.lastChanceRequests offsets := by
  induction offsets generalizing b with
  | nil => simp [lastChance, lastChanceRequests]
  | cons o rest ih =>
    rw [lastChance]
    by_cases hstop : Seq.atOrAfter (b.read + UInt16.ofNat o) b.write = true
    · have hcons : b.lastChanceRequests (o :: rest) =
          (if b.isReady (b.read + UInt16.ofNat o) then [] else [⟨b.read + UInt16.ofNat o, 1⟩]) ++
            b.lastChanceRequests rest := by
        unfold lastChanceRequests
        rw [List.takeWhile_cons, if_pos hstop, List.filter_cons]
        cases b.isReady (b.read + UInt16.ofNat o) <;> rfl
      by_cases hready : b.isReady (b.read + UInt16.ofNat o) = true
      · simp only [hstop, hready, Bool.not_true, Bool.false_eq_true, if_true, if_false]
        rw [ih, hcons, if_pos hready, List.nil_append]
      · simp only [hstop, hready, Bool.not_true, Bool.false_eq_true, if_false]
        rw [ih, hcons, if_neg hready, lastChanceRequests_requestResend, requestResend_pending]
        simp only [UInt16.toNat_one, chunks_one, List.append_assoc, List.singleton_append]
    · have hnil : b.lastChanceRequests (o :: rest) = [] := by
        unfold lastChanceRequests
        rw [List.takeWhile_cons, if_neg hstop]
        rfl
      simp only [hstop, Bool.not_false, if_true]
      rw [hnil, List.append_nil]

theorem lastChanceRequests_lastChance (b : JitterBuffer) (offsets offsets' : List Nat) :
    (b.lastChance offsets).lastChanceRequests offsets' = b.lastChanceRequests offsets' := by
  rw [lastChance_eq]
  rfl

/-! ### The offsets a pass asks at

Offsets are sixteen times powers of two, and the pass stops at the first one past the write
cursor. On a window shorter than a quarter of the sequence space the number at an offset below
half the space is past the write cursor exactly when the offset exceeds the window's length, so
the pass asks at every offset up to that length and at no other. -/

theorem takeWhile_eq_filter_of_pairwise {l : List Nat} {q : Nat → Bool} (hl : l.Pairwise (· < ·))
    (hq : ∀ x y, x ≤ y → q y = true → q x = true) : l.takeWhile q = l.filter q := by
  induction l with
  | nil => rfl
  | cons a l ih =>
    rw [List.pairwise_cons] at hl
    by_cases ha : q a = true
    · rw [List.takeWhile_cons_of_pos ha, List.filter_cons_of_pos ha, ih hl.2]
    · -- every later offset is larger and fails as well
      rw [List.takeWhile_cons_of_neg ha, List.filter_cons_of_neg ha, eq_comm, List.filter_eq_nil_iff]
      intro x hx hqx
      exact ha (hq a x (Nat.le_of_lt (hl.1 x hx)) hqx)

theorem pairwise_offsets : ((List.range 64).map fun k => 16 * Nat.pow 2 k).Pairwise (· < ·) := by
  refine List.pairwise_map.2 (List.pairwise_lt_range.imp fun hij => ?_)
  exact Nat.mul_lt_mul_of_pos_left (Nat.pow_lt_pow_right (by omega) hij) (by omega)

theorem lastChanceOffsets_eq_filter (startFill : Nat) :
    lastChanceOffsets startFill =
      ((List.range 64).map fun k => 16 * Nat.pow 2 k).filter (· < startFill / 2) := by
  unfold lastChanceOffsets
  exact takeWhile_eq_filter_of_pairwise pairwise_offsets fun x y hxy hy => by
    simp only [decide_eq_true_eq] at hy ⊢
    omega

theorem pairwise_lastChanceOffsets (startFill : Nat) :
    (lastChanceOffsets startFill).Pairwise (· < ·) := by
  rw [lastChanceOffsets_eq_filter]
  exact pairwise_offsets.filter _

theorem lastChanceOffsets_large (startFill : Nat) {x : Nat} (hx : x ∈ lastChanceOffsets startFill) :
    x < 32768 ∨ (16384 ∈ lastChanceOffsets startFill ∧ 16384 < x) := by
  rw [lastChanceOffsets_eq_filter, List.mem_filter] at hx ⊢
  by_cases hsmall : x < 32768
  · exact .inl hsmall
  · have hlt := of_decide_eq_true hx.2
    refine .inr ⟨⟨List.mem_map.2 ⟨10, List.mem_range.2 (by omega), rfl⟩, decide_eq_true (by omega)⟩,
      by omega⟩

/-- A number `o` past `r` is at or before `w` exactly when `o` is at most the distance from `r`
to `w`, as long as `o` is below half the sequence space and `w` is not before `r - 1`. -/
theorem atOrAfter_offset_iff {r w : UInt16} {o : Nat} (ho : o < 32768) (hd : -1 ≤ Seq.diff r w) :
    Seq.atOrAfter (r + UInt16.ofNat o) w = true ↔ (o : Int) ≤ Seq.diff r w := by
  have hfwd : Seq.diff r (r + UInt16.ofNat o) = o := Seq.diff_add_ofNat r ho
  have hback : Seq.diff (r + UInt16.ofNat o) r = -o := by
    rw [Seq.diff_swap (by omega), hfwd]
  have hd' := (Seq.diff_spec r w).2.1
  rw [Seq.atOrAfter_iff, Seq.diff_add (b := r) (by omega) (by omega), hback]
  omega

/-- Walking increasing offsets while a test holds takes those up to `d`, when the test agrees
with `· ≤ d` below half the sequence space and the offsets from there on come after `16384`. -/
theorem takeWhile_eq_filter_le {l : List Nat} {p : Nat → Bool} {d : Int} (hl : l.Pairwise (· < ·))
    (hagree : ∀ o, o < 32768 → (p o = true ↔ (o : Int) ≤ d)) (hd : d < 16384)
    (hbig : ∀ x ∈ l, x < 32768 ∨ (16384 ∈ l ∧ 16384 < x)) :
    l.takeWhile p = l.filter fun o : Nat => decide ((o : Int) ≤ d) := by
  induction l with
  | nil => rfl
  | cons a l ih =>
    rw [List.pairwise_cons] at hl
    -- the head is below half the space: `16384` cannot come before it
    have ha : a < 32768 := by
      rcases hbig a List.mem_cons_self with h | ⟨h16, hlt⟩
      · exact h
      · rcases List.mem_cons.1 h16 with h | h
        · omega
        · have := hl.1 _ h
          omega
    by_cases hq : (a : Int) ≤ d
    · rw [List.takeWhile_cons_of_pos ((hagree a ha).2 hq)]
      simp only [List.filter_cons, hq, decide_true, if_true]
      refine congrArg _ (ih hl.2 fun x hx => ?_)
      rcases hbig x (List.mem_cons_of_mem a hx) with h | ⟨h16, hlt⟩
      · exact .inl h
      · rcases List.mem_cons.1 h16 with h | h
        · omega
        · exact .inr ⟨h, hlt⟩
    · have hp : ¬p a = true := fun h => hq ((hagree a ha).1 h)
      rw [List.takeWhile_cons_of_neg hp, List.filter_cons_of_neg (by simpa using hq), eq_comm,
        List.filter_eq_nil_iff]
      intro x hx hle
      have := hl.1 x hx
      simp only [decide_eq_true_eq] at hle
      omega

/-- On a window shorter than a quarter of the sequence space, a last-chance pass asks for the
missing numbers at the offsets up to the window's length, in increasing order. -/
theorem lastChanceRequests_window (b : JitterBuffer) (hlo : -1 ≤ Seq.diff b.read b.write)
    (hhi : Seq.diff b.read b.write < 16384) (startFill : Nat) :
    b.lastChanceRequests (lastChanceOffsets startFill) =
      ((lastChanceOffsets startFill).filter fun o : Nat =>
          !b.isReady (b.read + UInt16.ofNat o) && decide ((o : Int) ≤ Seq.diff b.read b.write)).map
        fun o => ⟨b.read + UInt16.ofNat o, 1⟩ := by
  unfold lastChanceRequests
  rw [takeWhile_eq_filter_le (pairwise_lastChanceOffsets startFill)
    (fun o ho => atOrAfter_offset_iff ho hlo) hhi (fun x hx => lastChanceOffsets_large startFill hx),
    List.filter_filter]

/-- Each number a last-chance pass asks for on such a window lies between the cursors and is
missing. -/
theorem lastChanceRequests_sound (b : JitterBuffer) (hlo : -1 ≤ Seq.diff b.read b.write)
    (hhi : Seq.diff b.read b.write < 16384) (startFill : Nat) {c : SeqRange}
    (hc : c ∈ b.lastChanceRequests (lastChanceOffsets startFill)) :
    c.count = 1 ∧ Seq.atOrAfter b.read c.first = true ∧ Seq.atOrAfter c.first b.write = true ∧
      b.isReady c.first = false := by
  rw [lastChanceRequests_window b hlo hhi] at hc
  obtain ⟨o, ho, rfl⟩ := List.mem_map.1 hc
  simp only [List.mem_filter, Bool.and_eq_true, Bool.not_eq_true', decide_eq_true_eq] at ho
  obtain ⟨-, hready, hle⟩ := ho
  have hsmall : o < 32768 := by omega
  refine ⟨rfl, ?_, (atOrAfter_offset_iff hsmall hlo).2 hle, hready⟩
  rw [Seq.atOrAfter_iff, Seq.diff_add_ofNat b.read hsmall]
  omega

/-! ## Requests along a run -/

theorem synced_of_fill_ne_zero (h : b.fill ≠ 0) : b.synced = true := by
  cases hs : b.synced
  · exact absurd (fill_of_not_synced hs) h
  · rfl

theorem pending_get_playing (hsome : b.get.1.isSome = true) (hbuf : b.buffering = false) :
    b.get.2.pending = b.pending ++ b.get.2.lastChanceRequests (lastChanceOffsets b.shape.startFill) := by
  have hfill : b.fill ≠ 0 := fun h => by simp [get_of_fill_eq_zero h] at hsome
  obtain ⟨st, ⟨hbuf', -⟩ | ⟨-, hget⟩⟩ := get_snd_eq hfill
  · simp [hbuf] at hbuf'
  · rw [hget, pending_lastChance, lastChanceRequests_lastChance]
    rfl

theorem pending_get_quiet (h : b.get.1 = none ∨ b.buffering = true) : b.get.2.pending = b.pending := by
  by_cases hfill : b.fill = 0
  · rw [get_of_fill_eq_zero hfill]
  · obtain ⟨st, ⟨-, hget⟩ | ⟨hbuf, -⟩⟩ := get_snd_eq hfill
    · rw [hget]
      rfl
    · rcases h with h | h
      · simp [get_fst hfill] at h
      · simp [hbuf] at h

theorem pending_skip (b : JitterBuffer) (n : Nat) : (b.skip n).2.pending = b.pending := by
  rw [skip_snd]
  exact skipLoop_induction (fun b' => b'.pending = b.pending) (fun _ _ h => h) b n 0 rfl

/-- On every buffer reached from a fresh one of at most 16384 slots along a run that puts no
aliased number, the retransmission requests are sound and the last-chance requests are exact.
A gap, put with a number that is not aliased, asks only for numbers at or after the read cursor
and before the packet just stored, none of them in a slot. A get that hands out a frame while
playing asks, in increasing order, for the missing numbers at the offsets 16, 32, 64, ... below
half the start fill and up to the distance from the new read cursor to the write cursor, each
between the cursors; every other get and every skip asks for nothing. -/
theorem resend_requests_sound {cap : Nat} (hlo : 0 < cap) (hhi : cap ≤ 16384) (fpp : UInt32)
    (frameSamples startFill : Nat) (span : UInt16) (ops : List BufferOp)
    (hops : (create cap fpp frameSamples startFill span).aliasFree ops = true) :
    let b := ((create cap fpp frameSamples startFill span).run ops).2
    (∀ s ts pcm r, ¬b.Aliased s → (b.put s ts pcm).1 = .gap r → ∀ t ∈ r.members,
      Seq.atOrAfter (b.put s ts pcm).2.read t = true ∧ Seq.atOrAfter t (b.put s ts pcm).2.write = true ∧
        t ≠ s ∧ (b.put s ts pcm).2.isReady t = false) ∧
    (b.get.1.isSome = true → b.buffering = false →
      let b' := b.get.2
      let asked := ((lastChanceOffsets startFill).filter fun o : Nat =>
          !b'.isReady (b'.read + UInt16.ofNat o) && decide ((o : Int) ≤ Seq.diff b'.read b'.write)).map
        fun o => (⟨b'.read + UInt16.ofNat o, 1⟩ : SeqRange)
      b'.pending = b.pending ++ asked ∧
        ∀ c ∈ asked, c.count = 1 ∧ Seq.atOrAfter b'.read c.first = true ∧
          Seq.atOrAfter c.first b'.write = true ∧ b'.isReady c.first = false) ∧
    (b.get.1 = none ∨ b.buffering = true → b.get.2.pending = b.pending) ∧
    ∀ n, (b.skip n).2.pending = b.pending := by
  intro b
  have hshape : b.shape = (create cap fpp frameSamples startFill span).shape := shape_run _ _
  have hw : b.Window := window_run (window_create cap fpp frameSamples startFill span)
    (by simp [create]; omega) (by simp [create]; omega) ops hops
  refine ⟨fun s ts pcm r hal hgap t ht => hw.gap_sound (by rw [hshape]; exact hlo) hal hgap ht,
    fun hsome hbuf => ?_, pending_get_quiet, pending_skip b⟩
  intro b' asked
  have hfill : b.fill ≠ 0 := fun h => by simp [get_of_fill_eq_zero h] at hsome
  -- the window after the get is shorter than the ring, hence than a quarter of the sequence space
  have hspan : -1 ≤ Seq.diff b'.read b'.write ∧ Seq.diff b'.read b'.write < b'.shape.capacity :=
    (window_get hw).span (by rw [get_synced hfill]; exact synced_of_fill_ne_zero hfill)
  have hcap : b'.shape.capacity = cap := by
    show b.get.2.shape.capacity = cap
    rw [get_shape hfill, hshape]
    rfl
  have hreq := lastChanceRequests_window b' hspan.1 (by omega) startFill
  have hpend : b'.pending = b.pending ++ b'.lastChanceRequests (lastChanceOffsets startFill) := by
    have := pending_get_playing hsome hbuf
    rwa [hshape] at this
  refine ⟨hpend.trans (by rw [hreq]), fun c hc => ?_⟩
  exact lastChanceRequests_sound b' hspan.1 (by omega) startFill (by rw [hreq]; exact hc)

/-- A run of four slots with a gap, a get, a late packet and a skip puts no aliased number. -/
theorem resend_requests_sound_four :
    0 < 4 ∧ 4 ≤ 16384 ∧
    (create 4 1 1 2 1).aliasFree [.put 0 0 [7], .put 1 1 [8], .get, .put 3 3 [9], .skip 2] = true ∧
    let b := ((create 4 1 1 2 1).run [.put 0 0 [7], .put 1 1 [8], .get, .put 3 3 [9], .skip 2]).2
    (∀ s ts pcm r, ¬b.Aliased s → (b.put s ts pcm).1 = .gap r → ∀ t ∈ r.members,
      Seq.atOrAfter (b.put s ts pcm).2.read t = true ∧ Seq.atOrAfter t (b.put s ts pcm).2.write = true ∧
        t ≠ s ∧ (b.put s ts pcm).2.isReady t = false) ∧
    (b.get.1.isSome = true → b.buffering = false →
      let b' := b.get.2
      let asked := ((lastChanceOffsets 2).filter fun o : Nat =>
          !b'.isReady (b'.read + UInt16.ofNat o) && decide ((o : Int) ≤ Seq.diff b'.read b'.write)).map
        fun o => (⟨b'.read + UInt16.ofNat o, 1⟩ : SeqRange)
      b'.pending = b.pending ++ asked ∧
        ∀ c ∈ asked, c.count = 1 ∧ Seq.atOrAfter b'.read c.first = true ∧
          Seq.atOrAfter c.first b'.write = true ∧ b'.isReady c.first = false) ∧
    (b.get.1 = none ∨ b.buffering = true → b.get.2.pending = b.pending) ∧
    ∀ n, (b.skip n).2.pending = b.pending :=
  ⟨by decide, by decide, by decide, resend_requests_sound (by decide) (by decide) 1 1 2 1 _ (by decide)⟩

/-- Two packets three apart on four slots, then one 32767 past the write cursor. It lies more
than half the sequence space past the read cursor, where the clamped distance lets it through as
a gap instead of an overrun, and the gap asks for 32768, which lies before the read cursor. -/
theorem gap_request_behind_read :
    let b := ((create 4 1 1 2 65535).run [.put 0 0 [7], .put 3 3 [8]]).2
    (b.put 32770 20 [9]).1 = .gap ⟨4, 32766⟩ ∧
      (32768 : UInt16) ∈ (⟨4, 32766⟩ : SeqRange).members ∧
      Seq.atOrAfter (b.put 32770 20 [9]).2.read 32768 = false :=
  ⟨by decide, List.mem_map.2 ⟨32764, List.mem_range.2 (by decide), rfl⟩, by decide⟩

end JitterBuffer

end Playout
