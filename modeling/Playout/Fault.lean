/-!
# Faults

Conditions under which a computation of the player has no result and stops the program:
arithmetic that leaves the range of its word, an index or a slice past the end of a
buffer, and a bit field wider than a word.
-/

namespace Playout

/-- A computation that stops the program. -/
inductive Fault where
  | divideByZero
  | addOverflow
  | subOverflow
  | mulOverflow
  | negOverflow
  | shiftRightOverflow
  | indexOutOfBounds (len index : Nat)
  | sliceEndOutOfRange (stop len : Nat)
  | wideField
  | framesOverCapacity
  | outputTooSmall
deriving Repr, DecidableEq, Inhabited

def Fault.message : Fault → String
  | .divideByZero => "attempt to divide by zero"
  | .addOverflow => "attempt to add with overflow"
  | .subOverflow => "attempt to subtract with overflow"
  | .mulOverflow => "attempt to multiply with overflow"
  | .negOverflow => "attempt to negate with overflow"
  | .shiftRightOverflow => "attempt to shift right with overflow"
  | .indexOutOfBounds len index => s!"index out of bounds: the len is {len} but the index is {index}"
  | .sliceEndOutOfRange stop len => s!"range end index {stop} out of range for slice of length {len}"
  | .wideField => "assertion failed: bit_width <= u32::BITS"
  | .framesOverCapacity => "assertion failed: num_frames <= self.frame_size"
  | .outputTooSmall => "assertion failed: output_data.len() >= minimum_buffer_size"

end Playout
