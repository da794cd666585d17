import Playout.Seq

/-!
# Jitter buffer

A ring of `capacity` slots indexed by sequence number modulo the capacity. Packets are put
in by sequence number as they arrive; frames are taken out in sequence order from the read
cursor. Everything between the read cursor and the write cursor (the newest packet) is the
fill. A packet past the write cursor moves it and reports the skipped numbers as a gap,
which is queued for retransmission; a packet behind it either fills a hole (late), is
already there (duplicate), or has been played (too late). A slot is filled exactly when it
holds a frame, so the stored contents are a partial map from sequence numbers to frames.
-/

namespace Playout

/-- A sample of 16-bit PCM. -/
abbrev Sample := Int

/-- A stored frame: its sequence number, its RTP timestamp and its interleaved samples. -/
structure Slot where
  seq : UInt16
  ts : UInt32
  pcm : List Sample
deriving Repr, DecidableEq, Inhabited

/-- A frame handed to playout; `missing` frames are silence standing in for a lost packet. -/
structure Frame where
  seq : UInt16
  ts : UInt32
  pcm : List Sample
  missing : Bool
deriving Repr, DecidableEq, Inhabited

/-- What happened to a packet that was put. -/
inductive PutOutcome where
  | synced
  | expected
  | gap (r : SeqRange)
  | late
  | duplicate
  | tooLate
  | overrun
  | flushed
deriving Repr, DecidableEq, Inhabited

/-- Counters kept by the buffer. -/
structure BufferStats where
  received : Nat := 0
  late : Nat := 0
  tooLate : Nat := 0
  duplicate : Nat := 0
  flushed : Nat := 0
  missing : Nat := 0
  skipped : Nat := 0
  resendRequests : Nat := 0
  overruns : Nat := 0
deriving Repr, DecidableEq, Inhabited

/-- The fixed shape of a buffer. -/
structure BufferShape where
  /-- The number of slots, a power of two. -/
  capacity : Nat
  framesPerPacket : UInt32
  /-- Samples per frame; stored frames are cut or padded with zeros to this length. -/
  frameSamples : Nat
  /-- The fill playback waits for; last-chance requests look up to half of it ahead. -/
  startFill : Nat
  /-- The longest run one retransmission request may cover, at least one. -/
  maxResendSpan : Nat
deriving Repr, DecidableEq, Inhabited

/-- A jitter buffer. -/
structure JitterBuffer where
  shape : BufferShape
  slots : Array (Option Slot)
  read : UInt16
  write : UInt16
  readTs : UInt32
  synced : Bool
  buffering : Bool
  /-- After a flush, packets with timestamps before this are dropped. -/
  discardBefore : Option UInt32
  /-- Retransmission requests not yet taken, oldest first. -/
  pending : List SeqRange
  stats : BufferStats
deriving Inhabited

namespace JitterBuffer

/-- An empty buffer; a resend span of zero acts as one. -/
def create (capacity : Nat) (framesPerPacket : UInt32) (frameSamples startFill : Nat)
    (maxResendSpan : UInt16) : JitterBuffer :=
  { shape := ⟨capacity, framesPerPacket, frameSamples, startFill, max maxResendSpan.toNat 1⟩
    slots := Array.replicate capacity none
    read := 0, write := 0, readTs := 0
    synced := false, buffering := true
    discardBefore := none, pending := [], stats := {} }

def index (b : JitterBuffer) (s : UInt16) : Nat := s.toNat % b.shape.capacity

/-- The frame stored for sequence number `s`, if its slot holds it. -/
def lookup (b : JitterBuffer) (s : UInt16) : Option Slot :=
  match b.slots.getD (b.index s) none with
  | some slot => if slot.seq = s then some slot else none
  | none => none

def isReady (b : JitterBuffer) (s : UInt16) : Bool := (b.lookup s).isSome

/-- Frames between the read and write cursors, both included. -/
def fill (b : JitterBuffer) : Nat :=
  if b.synced then (Seq.diff b.read b.write + 1).toNat else 0

theorem fill_of_not_synced {b : JitterBuffer} (h : b.synced = false) : b.fill = 0 := by
  simp [fill, h]

/-- Samples cut or zero-padded to `n`. -/
def fitTo (n : Nat) (pcm : List Sample) : List Sample :=
  pcm.take n ++ List.replicate (n - pcm.length) 0

@[simp] theorem fitTo_length (n : Nat) (pcm : List Sample) : (fitTo n pcm).length = n := by
  simp [fitTo]
  omega

def store (b : JitterBuffer) (s : UInt16) (ts : UInt32) (pcm : List Sample) : JitterBuffer :=
  { b with slots := b.slots.setIfInBounds (b.index s) (some ⟨s, ts, fitTo b.shape.frameSamples pcm⟩) }

def clearSlot (b : JitterBuffer) (s : UInt16) : JitterBuffer :=
  { b with slots := b.slots.setIfInBounds (b.index s) none }

def clearSlots (b : JitterBuffer) : JitterBuffer :=
  { b with slots := Array.replicate b.shape.capacity none }

/-- Starts over at `s`: empty slots, no pending requests, both cursors at `s`. -/
def resync (b : JitterBuffer) (s : UInt16) (ts : UInt32) : JitterBuffer :=
  { b.clearSlots with pending := [], read := s, write := s, readTs := ts, synced := true }

/-- A run split into consecutive pieces of at most `span` numbers. -/
def chunks (span : Nat) (first : UInt16) (remaining : Nat) : List SeqRange :=
  if remaining = 0 then []
  else
    let c := min remaining (max span 1)
    ⟨first, UInt16.ofNat c⟩ :: chunks span (first + UInt16.ofNat c) (remaining - c)
termination_by remaining
decreasing_by omega

/-- Queues a retransmission of `r`, in pieces no longer than the span. -/
def requestResend (b : JitterBuffer) (r : SeqRange) : JitterBuffer :=
  { b with
    pending := b.pending ++ chunks b.shape.maxResendSpan r.first r.count.toNat
    stats := { b.stats with resendRequests := b.stats.resendRequests + r.count.toNat } }

/-- Puts a packet's frame in. -/
def put (b : JitterBuffer) (s : UInt16) (ts : UInt32) (pcm : List Sample) :
    PutOutcome × JitterBuffer :=
  let b := { b with stats := { b.stats with received := b.stats.received + 1 } }
  let beforeTarget := match b.discardBefore with
    | some target => decide (signed32 (ts - target) < 0)
    | none => false
  if beforeTarget then
    (.flushed, { b with stats := { b.stats with flushed := b.stats.flushed + 1 } })
  else
    let b := { b with discardBefore := none }
    if !b.synced then (.synced, (b.resync s ts).store s ts pcm)
    else
      let aheadOfWrite := Seq.diff b.write s
      if 0 < aheadOfWrite then
        if b.shape.capacity ≤ (Seq.diff b.read s).toNat then
          let b := { b with stats := { b.stats with overruns := b.stats.overruns + 1 } }
          (.overrun, (b.resync s ts).store s ts pcm)
        else
          let previous := b.write
          let b := { b.store s ts pcm with write := s }
          if aheadOfWrite = 1 then (.expected, b)
          else match SeqRange.inclusive (previous + 1) (s - 1) with
            | some r => (.gap r, b.requestResend r)
            | none => (.expected, b)
      else if Seq.atOrAfter b.read s then
        if b.isReady s then
          (.duplicate, { b with stats := { b.stats with duplicate := b.stats.duplicate + 1 } })
        else
          let b := { b with stats := { b.stats with late := b.stats.late + 1 } }
          (.late, b.store s ts pcm)
      else (.tooLate, { b with stats := { b.stats with tooLate := b.stats.tooLate + 1 } })

/-- Last-chance requests: at offsets 16, 32, 64, ... below half the start fill, ask again
for every frame still missing, stopping at the first offset past the write cursor. -/
def lastChance (b : JitterBuffer) : List Nat → JitterBuffer
  | [] => b
  | offset :: rest =>
    let s := b.read + UInt16.ofNat offset
    if !Seq.atOrAfter s b.write then b
    else
      let b := if b.isReady s then b else b.requestResend ⟨s, 1⟩
      lastChance b rest

/-- The offsets of the last-chance requests. -/
def lastChanceOffsets (startFill : Nat) : List Nat :=
  ((List.range 64).map fun k => 16 * Nat.pow 2 k).takeWhile (· < startFill / 2)

/-- Takes the frame at the read cursor, or silence if it never arrived. -/
def get (b : JitterBuffer) : Option Frame × JitterBuffer :=
  if b.fill = 0 then (none, b)
  else
    let s := b.read
    let (frame, b) := match b.lookup s with
      | some slot => (Frame.mk s slot.ts slot.pcm false, b)
      | none =>
        (Frame.mk s b.readTs (List.replicate b.shape.frameSamples 0) true,
          { b with stats := { b.stats with missing := b.stats.missing + 1 } })
    let b := { b.clearSlot s with read := s + 1, readTs := frame.ts + b.shape.framesPerPacket }
    let b := if b.buffering then b else b.lastChance (lastChanceOffsets b.shape.startFill)
    (some frame, b)

/-- Drops up to `n` frames from the read cursor while there are any, counting them onto `k`. -/
def skipLoop (b : JitterBuffer) : Nat → Nat → Nat × JitterBuffer
  | 0, k => (k, b)
  | n + 1, k =>
    if b.fill = 0 then (k, b)
    else
      let s := b.read
      let ts := match b.lookup s with
        | some slot => slot.ts
        | none => b.readTs
      skipLoop { b.clearSlot s with read := s + 1, readTs := ts + b.shape.framesPerPacket } n (k + 1)

/-- A skipping run drops at most the frames it was asked to. -/
theorem skipLoop_le (b : JitterBuffer) (n k : Nat) : (skipLoop b n k).1 ≤ k + n := by
  induction n generalizing b k with
  | zero => simp [skipLoop]
  | succ n ih =>
    unfold skipLoop
    split
    · omega
    · exact Nat.le_trans (ih _ _) (by omega)

/-- Drops up to `n` frames from the read cursor; returns how many there were. -/
def skip (b : JitterBuffer) (n : Nat) : Nat × JitterBuffer :=
  let (k, b) := skipLoop b n 0
  (k, { b with stats := { b.stats with skipped := b.stats.skipped + k } })

def takeResends (b : JitterBuffer) : List SeqRange × JitterBuffer :=
  (b.pending, { b with pending := [] })

@[simp] theorem takeResends_fst (b : JitterBuffer) : b.takeResends.1 = b.pending := rfl

@[simp] theorem takeResends_pending (b : JitterBuffer) : b.takeResends.2.pending = [] := rfl

/-- Forgets every frame and waits for a new first packet. -/
def reset (b : JitterBuffer) : JitterBuffer :=
  { b.clearSlots with pending := [], synced := false, buffering := true }

@[simp] theorem reset_fill (b : JitterBuffer) : b.reset.fill = 0 :=
  fill_of_not_synced rfl

/-- Resets, then drops packets stamped before `target` until one at or after it arrives. -/
def flush (b : JitterBuffer) (target : Option UInt32) : JitterBuffer :=
  { b.reset with discardBefore := target }

@[simp] theorem flush_discardBefore (b : JitterBuffer) (target : Option UInt32) :
    (b.flush target).discardBefore = target := rfl

def setBuffering (b : JitterBuffer) (v : Bool) : JitterBuffer := { b with buffering := v }

end JitterBuffer

end Playout
