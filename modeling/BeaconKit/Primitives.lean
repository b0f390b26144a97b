import Mathlib.Data.BitVec

/-!
# Primitive types of the beacon-kit core

The consensus client passes slots, epochs, hashes and roots between its components.  Slots
and epochs are `math.U64`, an unsigned 64-bit integer whose subtraction wraps, so they are
`UInt64` here.  Hashes, roots and RANDAO mixes are 32-byte strings that the core only
compares, so they are `BitVec 256`.

Errors are one inductive type.  The constructors that the core itself creates record the
arguments of their format strings in the order the source prints them, so that a theorem
about an error is also a theorem about what the error reports.  Errors that collaborators
outside the core return are `external`, distinguished by an opaque code: every theorem
quantifies over them.
-/

namespace BeaconKit

/-- `math.Slot`. -/
abbrev Slot := UInt64

/-- `math.Epoch`. -/
abbrev Epoch := UInt64

/-- `common.ExecutionHash`: the 32-byte hash of an execution block. -/
abbrev ExecutionHash := BitVec 256

/-- `primitives.Bytes32`: a RANDAO mix. -/
abbrev Bytes32 := BitVec 256

/-- `primitives.Root`: a beacon block root. -/
abbrev Root := BitVec 256

/-- The errors of the modelled code. -/
inductive Error where
  /-- `beacontypes.ErrNilBlkBody`. -/
  | nilBlkBody
  /-- `beacontypes.ErrNilPayload`. -/
  | nilPayload
  /-- `errors.New("invalid payload")`: the engine judged the payload invalid. -/
  | invalidPayload
  /-- "parent block with hash %x is not finalized, expected finalized hash %x". -/
  | parentNotFinalized (parentHash safeHash : ExecutionHash)
  /-- "prev randao does not match, expected: %x, got: %x". -/
  | prevRandaoMismatch (expected got : Bytes32)
  /-- "too many withdrawals, expected: %d, got: %d". -/
  | tooManyWithdrawals (expected : UInt64) (got : Nat)
  /-- `ssz.ErrSize`: a buffer of the wrong length. -/
  | errSize
  /-- An error returned by a collaborator outside the core. -/
  | external (code : Nat)
  deriving DecidableEq, Repr

end BeaconKit
