import BeaconKit.Primitives
import BeaconKit.Ssz
import BeaconKit.EnginePrimitives.Withdrawal
import BeaconKit.Types
import BeaconKit.Logs.Cache
import BeaconKit.Verification.PayloadVerifier
import BeaconKit.ErrGroup
import BeaconKit.Blockchain.Service
import BeaconKit.Blockchain.Process
import BeaconKit.Blockchain.Forkchoice
import BeaconKit.Deposit.Service
