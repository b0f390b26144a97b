import BeaconKit.Blockchain.Service
import BeaconKit.ErrGroup
import BeaconKit.Verification.PayloadVerifier
import Mathlib.Data.Fin.VecNotation

/-!
# The block-processing pipeline

`ProcessBeaconBlock` runs two waves on one `errgroup` made with `errgroup.WithContext`.  The
first validates the execution payload (`ValidateExecutionPayloadOnBlk`) and the block in
parallel; if its `Wait` returns an error, the pipeline returns it.  Otherwise the same group,
whose context the first `Wait` has cancelled, runs the second wave: blob processing and
block application in parallel, and the pipeline returns that `Wait`'s error.

`ValidateExecutionPayloadOnBlk` refuses a nil body or payload, runs the payload validator,
and then asks the engine; an engine verdict of invalid with no transport error is the
`invalidPayload` error, distinct from the transport error itself.

`processBeaconBlock_spec` holds for every collaborator outcome and every order in which the
goroutines of each wave return: blobs and block are processed once each exactly when both
validations passed, and never otherwise; the pipeline succeeds exactly when all four tasks
did; an error it returns comes from the first wave that failed.  `processBeaconBlock_verified`
plugs the payload verifier in as the validator: a block is then applied only if its payload
passed every rule of `VerifyPayload` and the engine called it valid.
`processBeaconBlock_possible_errors` says which errors the pipeline can return over all
schedules, and `processBeaconBlock_calls` what it calls: validations, the engine for the
block's own payload, blob processing and block application, each as often as the outcomes
allow, and never the forkchoice store or the log processing.
-/

namespace BeaconKit

variable {Sidecars : Type}

/-- `ValidateExecutionPayloadOnBlk`: the calls it makes and the error it returns. -/
def validateExecutionPayloadOnBlk (s : Service Sidecars) (st : BeaconState)
    (blk : ReadOnlyBeaconBlock) : Goroutine Call :=
  let body := blk.body
  if body.isNil then ([], some .nilBlkBody)
  else
    let payload := blk.body.executionPayload
    if payload.isNil then ([], some .nilPayload)
    else
      match s.validatePayload st blk with
      | some err => ([.validatePayload], some err)
      | none =>
        let versionedHashes := s.convertCommitmentsToVersionedHashes body.blobKzgCommitments
        let calls := [.validatePayload,
          .notifyNewPayload blk.slot payload versionedHashes blk.parentBlockRoot]
        match s.notifyNewPayload blk.slot payload versionedHashes blk.parentBlockRoot with
        | (_, some err) => (calls, some err)
        | (false, none) => (calls, some .invalidPayload)
        | (true, none) => (calls, none)

/-- The first wave of `ProcessBeaconBlock`: validate the payload and the block. -/
def validationWave (s : Service Sidecars) (st : BeaconState) (blk : ReadOnlyBeaconBlock) :
    Fin 2 → Goroutine Call :=
  ![validateExecutionPayloadOnBlk s st blk, ([.validateBlock], s.validateBlock st blk)]

/-- The second wave of `ProcessBeaconBlock`: process the blobs and apply the block. -/
def processingWave (s : Service Sidecars) (st : BeaconState) (blk : ReadOnlyBeaconBlock)
    (blobs : Sidecars) : Fin 2 → Goroutine Call :=
  ![([.processBlobs], s.processBlobs blk blobs), ([.processBlock], s.processBlock st blk)]

/-- `ProcessBeaconBlock`, the goroutines of the two waves returning in the orders `σ₁` and
`σ₂`: the calls it makes and the error it returns. -/
def processBeaconBlock (s : Service Sidecars) (st : BeaconState) (blk : ReadOnlyBeaconBlock)
    (blobs : Sidecars) (σ₁ σ₂ : Equiv.Perm (Fin 2)) : List Call × Option Error :=
  let (calls₁, g, err) := Group.withContext.runWave (validationWave s st blk) σ₁
  match err with
  | some err => (calls₁, some err)
  | none =>
    let (calls₂, _, err) := g.runWave (processingWave s st blk blobs) σ₂
    (calls₁ ++ calls₂, err)

/-- The payload validation passes exactly when body and payload are present, the validator
accepts, and the engine answers valid with no transport error. -/
theorem validateExecutionPayloadOnBlk_eq_none_iff (s : Service Sidecars) (st : BeaconState)
    (blk : ReadOnlyBeaconBlock) :
    (validateExecutionPayloadOnBlk s st blk).2 = none ↔
      blk.body.isNil = false ∧ blk.body.executionPayload.isNil = false ∧
      s.validatePayload st blk = none ∧
      s.notifyNewPayload blk.slot blk.body.executionPayload
        (s.convertCommitmentsToVersionedHashes blk.body.blobKzgCommitments)
        blk.parentBlockRoot = (true, none) := by
  simp only [validateExecutionPayloadOnBlk]
  split_ifs with hb hp
  · simp [hb]
  · simp [hp]
  · simp only [Bool.not_eq_true] at hb hp
    cases hv : s.validatePayload st blk with
    | some err => simp [hb, hp]
    | none =>
      simp only [hb, hp, true_and]
      split <;> simp_all

/-- Payload validation calls only the payload validator and the engine. -/
theorem validateExecutionPayloadOnBlk_calls (s : Service Sidecars) (st : BeaconState)
    (blk : ReadOnlyBeaconBlock) :
    (validateExecutionPayloadOnBlk s st blk).1 ⊆
      [.validatePayload, .notifyNewPayload blk.slot blk.body.executionPayload
        (s.convertCommitmentsToVersionedHashes blk.body.blobKzgCommitments)
        blk.parentBlockRoot] := by
  simp only [validateExecutionPayloadOnBlk]
  split_ifs
  · simp
  · simp
  · split
    · simp
    · split <;> exact List.Subset.refl _

/-- The calls of the payload validation, in order: none on a nil body or payload; else the
payload validator, and the engine only once the validator accepted. -/
theorem validateExecutionPayloadOnBlk_calls_eq (s : Service Sidecars) (st : BeaconState)
    (blk : ReadOnlyBeaconBlock) :
    (validateExecutionPayloadOnBlk s st blk).1 =
      if blk.body.isNil || blk.body.executionPayload.isNil then []
      else .validatePayload :: if (s.validatePayload st blk).isSome then [] else
        [.notifyNewPayload blk.slot blk.body.executionPayload
          (s.convertCommitmentsToVersionedHashes blk.body.blobKzgCommitments)
          blk.parentBlockRoot] := by
  simp only [validateExecutionPayloadOnBlk]
  split_ifs <;> (repeat' split) <;> simp_all

section Waves

variable (s : Service Sidecars) (st : BeaconState) (blk : ReadOnlyBeaconBlock) (blobs : Sidecars)
  (g : Group) (σ σ₁ σ₂ : Equiv.Perm (Fin 2))

/-- The validation wave makes the calls of the payload validation and the block validation,
in any order. -/
theorem mem_validationWave_calls (c : Call) :
    c ∈ (g.runWave (validationWave s st blk) σ).1 ↔
      c ∈ (validateExecutionPayloadOnBlk s st blk).1 ∨ c = .validateBlock := by
  simp [(Group.runWave_calls_perm g _ σ).mem_iff, List.ofFn_succ, validationWave]

/-- The validation wave neither processes blobs nor applies the block, in any order. -/
theorem validationWave_calls :
    Call.processBlobs ∉ (g.runWave (validationWave s st blk) σ).1 ∧
      Call.processBlock ∉ (g.runWave (validationWave s st blk) σ).1 := by
  have hsub := validateExecutionPayloadOnBlk_calls s st blk
  simp only [mem_validationWave_calls, reduceCtorEq, or_false]
  exact ⟨fun h => by simpa using hsub h, fun h => by simpa using hsub h⟩

/-- The processing wave processes the blobs once and applies the block once, in any order. -/
theorem processingWave_calls :
    (g.runWave (processingWave s st blk blobs) σ).1.Perm [.processBlobs, .processBlock] := by
  simpa [List.ofFn_succ, processingWave] using Group.runWave_calls_perm g _ σ

/-- Both validations passed. -/
def Validated : Prop :=
  (validateExecutionPayloadOnBlk s st blk).2 = none ∧ s.validateBlock st blk = none

/-- The validation wave's `Wait` returns nil exactly when both validations passed. -/
theorem validationWave_err_eq_none_iff :
    (Group.withContext.runWave (validationWave s st blk) σ).2.2 = none ↔ Validated s st blk := by
  simp [Group.runWave_err_eq_none_iff, Group.withContext, Fin.forall_fin_two, validationWave,
    Validated]

/-- A failed validation ends the pipeline with the calls and the error of the first wave. -/
theorem processBeaconBlock_of_not_validated (hv : ¬ Validated s st blk) :
    processBeaconBlock s st blk blobs σ₁ σ₂ =
      ((Group.withContext.runWave (validationWave s st blk) σ₁).1,
        (Group.withContext.runWave (validationWave s st blk) σ₁).2.2) := by
  obtain ⟨e, he⟩ := Option.ne_none_iff_exists'.mp
    (mt (validationWave_err_eq_none_iff s st blk σ₁).mp hv)
  unfold processBeaconBlock
  rcases hw : Group.withContext.runWave (validationWave s st blk) σ₁ with
    ⟨calls₁, g₁, err⟩
  simp only [hw] at he ⊢
  simp [he]

/-- A passed validation hands the group, nothing recorded and its context cancelled, to the
processing wave. -/
theorem processBeaconBlock_of_validated (hv : Validated s st blk) :
    processBeaconBlock s st blk blobs σ₁ σ₂ =
      ((Group.withContext.runWave (validationWave s st blk) σ₁).1 ++
          ((Group.mk none true).runWave (processingWave s st blk blobs) σ₂).1,
        ((Group.mk none true).runWave (processingWave s st blk blobs) σ₂).2.2) := by
  have he := (validationWave_err_eq_none_iff s st blk σ₁).mpr hv
  have hg := Group.runWave_group Group.withContext (validationWave s st blk) σ₁
  unfold processBeaconBlock
  rcases hw : Group.withContext.runWave (validationWave s st blk) σ₁ with
    ⟨calls₁, g₁, err⟩
  simp only [hw] at he hg ⊢
  subst he hg
  rfl

/-- An error the pipeline returns was returned by a task of the first wave that failed. -/
theorem processBeaconBlock_err_mem {e : Error}
    (he : (processBeaconBlock s st blk blobs σ₁ σ₂).2 = some e) :
    (¬ Validated s st blk ∧ ((validateExecutionPayloadOnBlk s st blk).2 = some e ∨
        s.validateBlock st blk = some e)) ∨
      (Validated s st blk ∧
        (s.processBlobs blk blobs = some e ∨ s.processBlock st blk = some e)) := by
  by_cases hv : Validated s st blk
  · rw [processBeaconBlock_of_validated s st blk blobs σ₁ σ₂ hv] at he
    rcases Group.runWave_err_mem _ _ _ he with h | h
    · cases h
    · exact .inr ⟨hv, by simpa [Fin.exists_fin_two, processingWave] using h⟩
  · rw [processBeaconBlock_of_not_validated s st blk blobs σ₁ σ₂ hv] at he
    rcases Group.runWave_err_mem _ _ _ he with h | h
    · cases h
    · exact .inl ⟨hv, by simpa [Fin.exists_fin_two, validationWave] using h⟩

/-- **The block-processing pipeline.**  For every collaborator outcome and every order in
which the goroutines of each wave return: blobs are processed and the block applied once
each when both validations passed, and never otherwise; payload validation passes exactly
when body and payload are present, the validator accepts and the engine answers valid with
no transport error; the pipeline returns nil exactly when all four tasks did; and an error it
returns was returned by a task of the first wave that failed. -/
theorem processBeaconBlock_spec :
    ((Validated s st blk →
        (processBeaconBlock s st blk blobs σ₁ σ₂).1.count .processBlobs = 1 ∧
        (processBeaconBlock s st blk blobs σ₁ σ₂).1.count .processBlock = 1) ∧
      (¬ Validated s st blk →
        (processBeaconBlock s st blk blobs σ₁ σ₂).1.count .processBlobs = 0 ∧
        (processBeaconBlock s st blk blobs σ₁ σ₂).1.count .processBlock = 0)) ∧
    ((validateExecutionPayloadOnBlk s st blk).2 = none ↔
      blk.body.isNil = false ∧ blk.body.executionPayload.isNil = false ∧
      s.validatePayload st blk = none ∧
      s.notifyNewPayload blk.slot blk.body.executionPayload
        (s.convertCommitmentsToVersionedHashes blk.body.blobKzgCommitments)
        blk.parentBlockRoot = (true, none)) ∧
    ((processBeaconBlock s st blk blobs σ₁ σ₂).2 = none ↔
      Validated s st blk ∧ s.processBlobs blk blobs = none ∧ s.processBlock st blk = none) ∧
    (∀ e, (processBeaconBlock s st blk blobs σ₁ σ₂).2 = some e →
      (¬ Validated s st blk ∧ ((validateExecutionPayloadOnBlk s st blk).2 = some e ∨
        s.validateBlock st blk = some e)) ∨
      (Validated s st blk ∧
        (s.processBlobs blk blobs = some e ∨ s.processBlock st blk = some e))) := by
  have hcalls₁ := validationWave_calls s st blk Group.withContext σ₁
  have hcount₁ := And.intro (List.count_eq_zero_of_not_mem hcalls₁.1)
    (List.count_eq_zero_of_not_mem hcalls₁.2)
  refine ⟨⟨fun hv => ?_, fun hv => ?_⟩, validateExecutionPayloadOnBlk_eq_none_iff s st blk,
    ?_, fun e => processBeaconBlock_err_mem s st blk blobs σ₁ σ₂⟩
  · have hperm := processingWave_calls s st blk blobs ⟨none, true⟩ σ₂
    simp [processBeaconBlock_of_validated s st blk blobs σ₁ σ₂ hv, hcount₁, hperm.count_eq]
  · simpa [processBeaconBlock_of_not_validated s st blk blobs σ₁ σ₂ hv] using hcount₁
  · by_cases hv : Validated s st blk
    · simp [processBeaconBlock_of_validated s st blk blobs σ₁ σ₂ hv,
        Group.runWave_err_eq_none_iff, Fin.forall_fin_two, processingWave, hv]
    · simp [processBeaconBlock_of_not_validated s st blk blobs σ₁ σ₂ hv,
        validationWave_err_eq_none_iff, hv]

/-- A block is applied only after both validations passed. -/
theorem validated_of_processBlock_mem
    (h : Call.processBlock ∈ (processBeaconBlock s st blk blobs σ₁ σ₂).1) :
    Validated s st blk := by
  by_contra hv
  rw [processBeaconBlock_of_not_validated s st blk blobs σ₁ σ₂ hv] at h
  exact (validationWave_calls s st blk Group.withContext σ₁).2 h

/-- The validation wave makes the calls of the payload validation and one block validation,
in any order. -/
theorem validationWave_calls_perm :
    (g.runWave (validationWave s st blk) σ).1.Perm
      ((validateExecutionPayloadOnBlk s st blk).1 ++ [.validateBlock]) := by
  simpa [List.ofFn_succ, validationWave] using Group.runWave_calls_perm g _ σ

/-- The pipeline makes the calls of the validation wave, then at most the blob processing and
the block application. -/
theorem processBeaconBlock_calls_append :
    ∃ rest, (processBeaconBlock s st blk blobs σ₁ σ₂).1 =
      (Group.withContext.runWave (validationWave s st blk) σ₁).1 ++ rest ∧
      rest ⊆ [.processBlobs, .processBlock] := by
  by_cases hv : Validated s st blk
  · rw [processBeaconBlock_of_validated s st blk blobs σ₁ σ₂ hv]
    exact ⟨_, rfl, (processingWave_calls s st blk blobs _ σ₂).subset⟩
  · rw [processBeaconBlock_of_not_validated s st blk blobs σ₁ σ₂ hv]
    exact ⟨[], (List.append_nil _).symm, List.nil_subset _⟩

/-- **The calls the pipeline makes.**  For every collaborator outcome and every order in which
the goroutines of each wave return, `ProcessBeaconBlock` only validates, notifies the engine
of the block's own payload, processes blobs and applies the block: it never inserts a
forkchoice node, processes logs or sends a forkchoice update.  It validates the block exactly
once; it runs the payload validator once unless the body or the payload is nil; and it
notifies the engine once, with the block's slot, payload, versioned hashes and parent root,
exactly when body and payload are present and the validator accepted, and never otherwise. -/
theorem processBeaconBlock_calls :
    (processBeaconBlock s st blk blobs σ₁ σ₂).1 ⊆
      [.validatePayload, .notifyNewPayload blk.slot blk.body.executionPayload
        (s.convertCommitmentsToVersionedHashes blk.body.blobKzgCommitments) blk.parentBlockRoot,
        .validateBlock, .processBlobs, .processBlock] ∧
    (processBeaconBlock s st blk blobs σ₁ σ₂).1.count .validateBlock = 1 ∧
    (processBeaconBlock s st blk blobs σ₁ σ₂).1.count .validatePayload =
      (if blk.body.isNil || blk.body.executionPayload.isNil then 0 else 1) ∧
    (processBeaconBlock s st blk blobs σ₁ σ₂).1.count (.notifyNewPayload blk.slot
        blk.body.executionPayload
        (s.convertCommitmentsToVersionedHashes blk.body.blobKzgCommitments) blk.parentBlockRoot) =
      if blk.body.isNil || blk.body.executionPayload.isNil || (s.validatePayload st blk).isSome
      then 0 else 1 := by
  obtain ⟨rest, hcalls, hrest⟩ := processBeaconBlock_calls_append s st blk blobs σ₁ σ₂
  have hperm := validationWave_calls_perm s st blk Group.withContext σ₁
  -- a call that is neither blob processing nor block application comes from the first wave
  have hcount : ∀ c, c ≠ .processBlobs → c ≠ .processBlock →
      (processBeaconBlock s st blk blobs σ₁ σ₂).1.count c =
        ((validateExecutionPayloadOnBlk s st blk).1 ++ [Call.validateBlock]).count c := by
    intro c h₁ h₂
    have hzero : rest.count c = 0 :=
      List.count_eq_zero_of_not_mem fun h => by simpa [h₁, h₂] using hrest h
    rw [hcalls, List.count_append, hperm.count_eq, hzero, Nat.add_zero]
  refine ⟨?_, ?_, ?_, ?_⟩
  · rw [hcalls]
    exact List.append_subset.mpr ⟨hperm.subset.trans (List.append_subset.mpr
      ⟨(validateExecutionPayloadOnBlk_calls s st blk).trans (by simp), by simp⟩),
      hrest.trans (by simp)⟩
  all_goals
    rw [hcount _ (by simp) (by simp), validateExecutionPayloadOnBlk_calls_eq]
    clear hcount
    split_ifs <;> simp_all

end Waves

/-- **The pipeline with the payload verifier as validator.**  When the service validates a
block's payload with `VerifyPayload`, a block is applied, under every schedule, only if the
state reads succeed, its payload's parent is the block of the state's latest header, its
previous RANDAO is the state's mix for the current epoch, it has at most
`MaxWithdrawalsPerPayload` withdrawals, and the engine called it valid. -/
theorem processBeaconBlock_verified (cs : ChainSpec) (s : Service Sidecars)
    (hpv : ∀ st blk, s.validatePayload st blk = verifyPayload cs st blk.body.executionPayload)
    (st : BeaconState) (blk : ReadOnlyBeaconBlock) (blobs : Sidecars)
    (σ₁ σ₂ : Equiv.Perm (Fin 2))
    (happ : Call.processBlock ∈ (processBeaconBlock s st blk blobs σ₁ σ₂).1) :
    (∃ header slot mix, st.latestExecutionPayloadHeader = .ok header ∧ st.slot = .ok slot ∧
      st.randaoMixAtIndex (cs.slotToEpoch slot % cs.epochsPerHistoricalVector) = .ok mix ∧
      blk.body.executionPayload.parentHash = header.blockHash ∧
      blk.body.executionPayload.prevRandao = mix ∧
      blk.body.executionPayload.withdrawals.length ≤ cs.maxWithdrawalsPerPayload.toNat) ∧
    s.notifyNewPayload blk.slot blk.body.executionPayload
      (s.convertCommitmentsToVersionedHashes blk.body.blobKzgCommitments)
      blk.parentBlockRoot = (true, none) := by
  obtain ⟨-, -, hval, hnotify⟩ := (validateExecutionPayloadOnBlk_eq_none_iff s st blk).mp
    (validated_of_processBlock_mem s st blk blobs σ₁ σ₂ happ).1
  exact ⟨(verifyPayload_eq_none_iff cs st _).mp (hpv st blk ▸ hval), hnotify⟩

/-- A service that validates payloads with `VerifyPayload` and whose other collaborators all
succeed, the engine calling every payload valid. -/
def verifyingService : Service Unit where
  validatePayload st blk := verifyPayload exampleChainSpec st blk.body.executionPayload
  notifyNewPayload _ _ _ _ := (true, none)
  validateBlock _ _ := none
  processBlobs _ _ := none
  processBlock _ _ := none
  insertNode _ := none
  processLogsInETH1Block _ := none
  notifyForkchoiceUpdate _ := none
  convertCommitmentsToVersionedHashes _ := []

/-- A state at slot 64 whose latest header has block hash 1 and whose mixes are all 7. -/
def slotSixtyFourState : BeaconState :=
  ⟨.ok 64, .ok ⟨false, 1, 0, 0, []⟩, .ok ⟨1⟩, fun _ => .ok 7⟩

/-- A block whose payload builds on block 1 with RANDAO 7 and no withdrawals. -/
def childOfOneBlock : ReadOnlyBeaconBlock :=
  ⟨false, 65, 0, ⟨false, ⟨false, 2, 1, 7, []⟩, []⟩⟩

/-- The child of block 1 is applied by the verifying service, so its payload passed the
verifier's rules against the state at slot 64. -/
theorem processBeaconBlock_verified_childOfOne :
    (∃ header slot mix, slotSixtyFourState.latestExecutionPayloadHeader = .ok header ∧
      slotSixtyFourState.slot = .ok slot ∧
      slotSixtyFourState.randaoMixAtIndex
        (exampleChainSpec.slotToEpoch slot % exampleChainSpec.epochsPerHistoricalVector) =
          .ok mix ∧
      childOfOneBlock.body.executionPayload.parentHash = header.blockHash ∧
      childOfOneBlock.body.executionPayload.prevRandao = mix ∧
      childOfOneBlock.body.executionPayload.withdrawals.length ≤
        exampleChainSpec.maxWithdrawalsPerPayload.toNat) ∧
    verifyingService.notifyNewPayload childOfOneBlock.slot childOfOneBlock.body.executionPayload
      (verifyingService.convertCommitmentsToVersionedHashes
        childOfOneBlock.body.blobKzgCommitments) childOfOneBlock.parentBlockRoot = (true, none) :=
  processBeaconBlock_verified exampleChainSpec verifyingService (fun _ _ => rfl)
    slotSixtyFourState childOfOneBlock () (Equiv.refl _) (Equiv.refl _) (by decide)

end BeaconKit
