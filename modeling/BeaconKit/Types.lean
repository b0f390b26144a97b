import BeaconKit.EnginePrimitives.Withdrawal

/-!
# Blocks, payloads and the beacon state as the core sees them

The core reaches blocks, bodies, payloads and the beacon state only through Go interfaces,
so each is modelled by what its methods return.  `isNil` is the interface's `IsNil()`: the
value wraps a nil pointer, the sentinel the pipeline must treat as absent.

A nil-pointer value still has a record of getter results here, which stands for an
implementation whose getters answer on a nil receiver.  For the concrete pointer types a
getter read on such a value is a nil dereference: Go panics, and the call neither returns
nor calls anything further.  So a theorem over every value also covers runs that the
program never completes, where it asserts nothing false of the program; a theorem that
singles out an outcome reached only through such a read says so.  `postBlockProcess_spec`
asserts nothing about the forkchoice update once its deferred call would read a nil
payload, and `postBlockProcess_nil_payload_head` exhibits that read.

A getter that can fail returns an `Except`; `BeaconState.randaoMixAtIndex` is the getter
`GetRandaoMixAtIndex(index)` as a function of its index.
-/

namespace BeaconKit

/-- `eip4844.KZGCommitment`: a 48-byte commitment. -/
abbrev KzgCommitment := BitVec 384

/-- A versioned hash of a blob commitment, as `kzg.ConvertCommitmentsToVersionedHashes`
makes it. -/
abbrev VersionedHash := BitVec 256

/-- An `ExecutionPayload` interface value: what its getters return.  With `isNil` set the
getters stand for an implementation that answers on a nil receiver; the concrete type's
`GetBlockHash()` dereferences nil there. -/
structure ExecutionPayload where
  isNil : Bool
  blockHash : ExecutionHash
  parentHash : ExecutionHash
  prevRandao : Bytes32
  withdrawals : List Withdrawal
  deriving DecidableEq, Repr

/-- An `ExecutionPayloadHeader`: the core reads only its block hash. -/
structure ExecutionPayloadHeader where
  blockHash : ExecutionHash
  deriving DecidableEq, Repr

/-- A `BeaconBlockBody` interface value. -/
structure BeaconBlockBody where
  isNil : Bool
  executionPayload : ExecutionPayload
  blobKzgCommitments : List KzgCommitment
  deriving DecidableEq, Repr

/-- A `ReadOnlyBeaconBlock` interface value; the nil sentinel has `isNil`, and its other
getters, `GetBody()` included, dereference nil for the concrete type. -/
structure ReadOnlyBeaconBlock where
  isNil : Bool
  slot : Slot
  parentBlockRoot : Root
  body : BeaconBlockBody
  deriving DecidableEq, Repr

/-- A `state.BeaconState`: the getters the core calls. -/
structure BeaconState where
  slot : Except Error Slot
  latestExecutionPayload : Except Error ExecutionPayload
  latestExecutionPayloadHeader : Except Error ExecutionPayloadHeader
  randaoMixAtIndex : UInt64 → Except Error Bytes32

end BeaconKit
