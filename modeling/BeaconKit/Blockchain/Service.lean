import BeaconKit.Types

/-!
# The blockchain service and its collaborators

`blockchain.Service` drives block processing through collaborators outside the core: the
payload validator, the block validator, the state processor, the execution engine, the
forkchoice store and the KZG conversion.  Each is modelled by what it returns for the
arguments the core passes, so a theorem that holds for every `Service` holds for every
outcome of every collaborator.  Handles the service derives from its context (the
availability store, the forkchoice store) are part of the collaborator that uses them.

What a call of the core does to the world is the list of collaborator calls it makes, a
`Call` each; logging an error is a call too.
-/

namespace BeaconKit

/-- `engineprimitives.ForkchoiceState`: the head, safe and finalized execution blocks. -/
structure ForkchoiceState where
  headBlockHash : ExecutionHash
  safeBlockHash : ExecutionHash
  finalizedBlockHash : ExecutionHash
  deriving DecidableEq, Repr

/-- `execution.ForkchoiceUpdateRequest`.  Its `ForkVersion` is always the constant
`version.Deneb`, and no modelled code reads it back. -/
structure ForkchoiceUpdateRequest where
  state : ForkchoiceState
  deriving DecidableEq, Repr

/-- A call the service makes to a collaborator, with the arguments the collaborator sees. -/
inductive Call where
  /-- `s.pv.ValidatePayload(st, fcs, blk)`. -/
  | validatePayload
  /-- `s.es.NotifyNewPayload(ctx, slot, payload, versionedHashes, parentRoot)`. -/
  | notifyNewPayload (slot : Slot) (payload : ExecutionPayload)
      (versionedHashes : List VersionedHash) (parentBlockRoot : Root)
  /-- `s.bv.ValidateBlock(st, blk)`. -/
  | validateBlock
  /-- `s.sp.ProcessBlobs(avs, blk, blobs)`. -/
  | processBlobs
  /-- `s.sp.ProcessBlock(st, blk)`. -/
  | processBlock
  /-- `s.ForkchoiceStore(ctx).InsertNode(blockHash)`. -/
  | insertNode (blockHash : ExecutionHash)
  /-- `s.es.ProcessLogsInETH1Block(ctx, blockHash)`. -/
  | processLogsInETH1Block (blockHash : ExecutionHash)
  /-- `s.ee.NotifyForkchoiceUpdate(ctx, req)`. -/
  | notifyForkchoiceUpdate (req : ForkchoiceUpdateRequest)
  /-- `s.Logger().Error(msg, "error", err)`. -/
  | logError (msg : String) (err : Error)
  deriving DecidableEq, Repr

/-- The collaborators of `blockchain.Service`, by what they return; `Sidecars` is the blob
sidecar type, which the core only passes through. -/
structure Service (Sidecars : Type) where
  validatePayload : BeaconState → ReadOnlyBeaconBlock → Option Error
  /-- The engine's verdict on a new payload, and the transport error. -/
  notifyNewPayload :
    Slot → ExecutionPayload → List VersionedHash → Root → Bool × Option Error
  validateBlock : BeaconState → ReadOnlyBeaconBlock → Option Error
  processBlobs : ReadOnlyBeaconBlock → Sidecars → Option Error
  processBlock : BeaconState → ReadOnlyBeaconBlock → Option Error
  insertNode : ExecutionHash → Option Error
  processLogsInETH1Block : ExecutionHash → Option Error
  notifyForkchoiceUpdate : ForkchoiceUpdateRequest → Option Error
  /-- `kzg.ConvertCommitmentsToVersionedHashes`. -/
  convertCommitmentsToVersionedHashes : List KzgCommitment → List VersionedHash

end BeaconKit
