import BeaconKit.Types

/-!
# The payload verifier

`PayloadVerifier.VerifyPayload` checks an incoming execution payload against the beacon
state, rule by rule, and returns the first failure:

1. the payload's parent is the block of the state's latest execution payload header;
2. its previous RANDAO value is the state's mix at the current epoch modulo
   `EpochsPerHistoricalVector`;
3. it carries at most `MaxWithdrawalsPerPayload` withdrawals.

Each error carries both the expected and the actual value.  `verifyPayload_spec` is the
whole decision table: acceptance exactly when every read succeeds and every rule holds, and
the error of the first rule that fails otherwise.
-/

namespace BeaconKit

/-- The part of `primitives.ChainSpec` the verifier reads.  `SlotToEpoch` is the chain's own
conversion.  `EpochsPerHistoricalVector` is positive: the verifier reduces the epoch modulo
it, which panics in Go at zero. -/
structure ChainSpec where
  slotToEpoch : Slot → Epoch
  epochsPerHistoricalVector : UInt64
  maxWithdrawalsPerPayload : UInt64
  epochsPerHistoricalVector_pos : 0 < epochsPerHistoricalVector

/-- `VerifyPayload`.  `uint64(len(withdrawals))` is the list length: a slice length is a
non-negative `int`, so the conversion is exact. -/
def verifyPayload (cs : ChainSpec) (st : BeaconState) (payload : ExecutionPayload) :
    Option Error :=
  match st.latestExecutionPayloadHeader with
  | .error err => some err
  | .ok latestExecutionPayloadHeader =>
    let safeHash := latestExecutionPayloadHeader.blockHash
    if safeHash ≠ payload.parentHash then
      some (.parentNotFinalized payload.parentHash safeHash)
    else
      match st.slot with
      | .error err => some err
      | .ok slot =>
        match st.randaoMixAtIndex (cs.slotToEpoch slot % cs.epochsPerHistoricalVector) with
        | .error err => some err
        | .ok expectedMix =>
          if payload.prevRandao ≠ expectedMix then
            some (.prevRandaoMismatch expectedMix payload.prevRandao)
          else if payload.withdrawals.length > cs.maxWithdrawalsPerPayload.toNat then
            some (.tooManyWithdrawals cs.maxWithdrawalsPerPayload payload.withdrawals.length)
          else none

/-- The verifier accepts exactly when the three reads succeed and the three rules hold. -/
theorem verifyPayload_eq_none_iff (cs : ChainSpec) (st : BeaconState)
    (payload : ExecutionPayload) :
    verifyPayload cs st payload = none ↔
      ∃ header slot mix, st.latestExecutionPayloadHeader = .ok header ∧ st.slot = .ok slot ∧
        st.randaoMixAtIndex (cs.slotToEpoch slot % cs.epochsPerHistoricalVector) = .ok mix ∧
        payload.parentHash = header.blockHash ∧ payload.prevRandao = mix ∧
        payload.withdrawals.length ≤ cs.maxWithdrawalsPerPayload.toNat := by
  constructor
  · intro h
    cases hh : st.latestExecutionPayloadHeader with
    | error err => simp [verifyPayload, hh] at h
    | ok header =>
      cases hs : st.slot with
      | error err => simp only [verifyPayload, hh, hs] at h; split_ifs at h
      | ok slot =>
        cases hm : st.randaoMixAtIndex (cs.slotToEpoch slot % cs.epochsPerHistoricalVector) with
        | error err => simp only [verifyPayload, hh, hs, hm] at h; split_ifs at h
        | ok mix =>
          simp only [verifyPayload, hh, hs, hm] at h
          split_ifs at h with hp hr hw
          exact ⟨header, slot, mix, rfl, rfl, hm, (not_not.mp hp).symm, not_not.mp hr,
            Nat.not_lt.mp hw⟩
  · rintro ⟨header, slot, mix, hh, hs, hm, hp, hr, hw⟩
    simp [verifyPayload, hh, hs, hm, hp, hr, Nat.not_lt.mpr hw]

/-- **The verifier's decision table.**  A payload is accepted exactly when the state reads
succeed, its parent hash is the block hash of the state's latest execution payload header,
its previous RANDAO is the mix at `SlotToEpoch(slot) mod EpochsPerHistoricalVector`, and it
has at most `MaxWithdrawalsPerPayload` withdrawals (the maximum itself is accepted).  Of
several failing rules the parent rule wins, then the RANDAO rule, then the count, and each
error carries the values it compared. -/
theorem verifyPayload_spec (cs : ChainSpec) (st : BeaconState) (payload : ExecutionPayload) :
    (verifyPayload cs st payload = none ↔
      ∃ header slot mix, st.latestExecutionPayloadHeader = .ok header ∧ st.slot = .ok slot ∧
        st.randaoMixAtIndex (cs.slotToEpoch slot % cs.epochsPerHistoricalVector) = .ok mix ∧
        payload.parentHash = header.blockHash ∧ payload.prevRandao = mix ∧
        payload.withdrawals.length ≤ cs.maxWithdrawalsPerPayload.toNat) ∧
    (∀ header, st.latestExecutionPayloadHeader = .ok header →
      payload.parentHash ≠ header.blockHash →
      verifyPayload cs st payload =
        some (.parentNotFinalized payload.parentHash header.blockHash)) ∧
    (∀ header slot mix, st.latestExecutionPayloadHeader = .ok header → st.slot = .ok slot →
      st.randaoMixAtIndex (cs.slotToEpoch slot % cs.epochsPerHistoricalVector) = .ok mix →
      payload.parentHash = header.blockHash → payload.prevRandao ≠ mix →
      verifyPayload cs st payload = some (.prevRandaoMismatch mix payload.prevRandao)) ∧
    (∀ header slot mix, st.latestExecutionPayloadHeader = .ok header → st.slot = .ok slot →
      st.randaoMixAtIndex (cs.slotToEpoch slot % cs.epochsPerHistoricalVector) = .ok mix →
      payload.parentHash = header.blockHash → payload.prevRandao = mix →
      cs.maxWithdrawalsPerPayload.toNat < payload.withdrawals.length →
      verifyPayload cs st payload =
        some (.tooManyWithdrawals cs.maxWithdrawalsPerPayload payload.withdrawals.length)) := by
  refine ⟨verifyPayload_eq_none_iff cs st payload, fun header hh hp => ?_,
    fun header slot mix hh hs hm hp hr => ?_, fun header slot mix hh hs hm hp hr hw => ?_⟩
  · simp [verifyPayload, hh, Ne.symm hp]
  · simp [verifyPayload, hh, hs, hm, hp, hr]
  · simp [verifyPayload, hh, hs, hm, hp, hr, hw]

/-- A chain spec with 32 slots per epoch and at most 16 withdrawals per payload. -/
def exampleChainSpec : ChainSpec :=
  ⟨fun slot => slot / 32, 65536, 16, by decide⟩

/-- The spec's scenario: 17 withdrawals against a maximum of 16 report `(16, 17)`. -/
example :
    verifyPayload exampleChainSpec ⟨.ok 64, .error (.external 0), .ok ⟨1⟩, fun _ => .ok 7⟩
      ⟨false, 2, 1, 7, List.replicate 17 ⟨0, 0, ⟨List.replicate 20 0, rfl⟩, 0⟩⟩ =
      some (.tooManyWithdrawals 16 17) := by
  decide

end BeaconKit
