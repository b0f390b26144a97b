import BeaconKit.Blockchain.Service

/-!
# Post-block processing and the forkchoice update

`PostBlockProcess` defers `sendPostBlockFCU` before anything else, passing it a pointer to its
local `payload` variable, so the deferred call runs on every return path with the value the
variable holds at that return.  The variable starts as the nil interface; it is assigned the
block's execution payload only after the block and its body were found non-nil.  The function
then returns early on a nil payload, or inserts the payload's block hash into the forkchoice
store and processes the logs of that execution block.

`sendPostBlockFCU` tests its argument with `payload != nil`, a test of the interface value and
not of `IsNil()`: a non-nil interface that wraps a nil payload pointer passes it, and its
block hash becomes the head.  Only the nil interface falls back to the state's latest
execution payload.  `sendFCU` reads that payload again for the safe and finalized hashes.

`Option ExecutionPayload` is the interface variable: `none` is the nil interface, and
`some payload` a non-nil interface whose `IsNil()` is `payload.isNil`.

`postBlockProcess_spec` describes the forkchoice update and the returned error on every
return path that reads no getter of a nil payload (for the concrete payload type such a read
is a nil dereference, so nothing is asserted there; `postBlockProcess_nil_payload_head` shows
the read happens); `postBlockProcess_calls` bounds everything else the call does: it inserts the
payload's hash and processes that block's logs at most once each, in the cases the body
reaches them, and never validates or applies a block.
-/

namespace BeaconKit

variable {Sidecars : Type}

/-- `sendFCU`: the calls it makes and the error it returns. -/
def sendFCU (s : Service Sidecars) (st : BeaconState) (headEth1Hash : ExecutionHash) :
    List Call × Option Error :=
  match st.latestExecutionPayload with
  | .error err => ([], some err)
  | .ok latestExecutionPayload =>
    let eth1BlockHash := latestExecutionPayload.blockHash
    let req : ForkchoiceUpdateRequest := ⟨⟨headEth1Hash, eth1BlockHash, eth1BlockHash⟩⟩
    ([.notifyForkchoiceUpdate req], s.notifyForkchoiceUpdate req)

/-- `sendPostBlockFCU`: the calls it makes; its failures are only logged. -/
def sendPostBlockFCU (s : Service Sidecars) (st : BeaconState)
    (payload : Option ExecutionPayload) : List Call :=
  let headHash : Except Error ExecutionHash :=
    match payload with
    | some payload => .ok payload.blockHash
    | none => st.latestExecutionPayload.map (·.blockHash)
  match headHash with
  | .error err => [.logError "failed to get latest execution payload in postBlockProcess" err]
  | .ok headHash =>
    let (calls, err) := sendFCU s st headHash
    calls ++ err.toList.map (.logError "failed to send forkchoice update in postBlockProcess")

/-- `PostBlockProcess` up to its return: the value of `payload` at the return, the calls made,
and the error returned. -/
def postBlockProcessBody (s : Service Sidecars) (blk : ReadOnlyBeaconBlock) :
    Option ExecutionPayload × List Call × Option Error :=
  if blk.isNil then (none, [], none)
  else
    let body := blk.body
    if body.isNil then (none, [], none)
    else
      let payload := blk.body.executionPayload
      if payload.isNil then (some payload, [], none)
      else
        let payloadBlockHash := payload.blockHash
        match s.insertNode payloadBlockHash with
        | some err => (some payload, [.insertNode payloadBlockHash], some err)
        | none =>
          let calls := [.insertNode payloadBlockHash, .processLogsInETH1Block payloadBlockHash]
          match s.processLogsInETH1Block payloadBlockHash with
          | some err => (some payload, calls ++ [.logError "failed to process logs" err], some err)
          | none => (some payload, calls, none)

/-- `PostBlockProcess`: its body, then the deferred `sendPostBlockFCU` on the value `payload`
holds when the body returns. -/
def postBlockProcess (s : Service Sidecars) (st : BeaconState) (blk : ReadOnlyBeaconBlock) :
    List Call × Option Error :=
  let (payload, calls, err) := postBlockProcessBody s blk
  (calls ++ sendPostBlockFCU s st payload, err)

/-- The forkchoice update a call requests, if it is one. -/
def Call.forkchoiceRequest : Call → Option ForkchoiceUpdateRequest
  | .notifyForkchoiceUpdate req => some req
  | _ => none

/-- The forkchoice updates a list of calls requests, in order. -/
def forkchoiceRequests (calls : List Call) : List ForkchoiceUpdateRequest :=
  calls.filterMap Call.forkchoiceRequest

@[simp] theorem forkchoiceRequests_nil : forkchoiceRequests [] = [] := rfl

@[simp] theorem forkchoiceRequests_cons (c : Call) (calls : List Call) :
    forkchoiceRequests (c :: calls) = c.forkchoiceRequest.toList ++ forkchoiceRequests calls := by
  cases h : c.forkchoiceRequest <;> simp [forkchoiceRequests, List.filterMap_cons, h]

@[simp] theorem forkchoiceRequests_append (calls calls' : List Call) :
    forkchoiceRequests (calls ++ calls') = forkchoiceRequests calls ++ forkchoiceRequests calls' :=
  List.filterMap_append _ _ _

section

variable (s : Service Sidecars) (st : BeaconState) (blk : ReadOnlyBeaconBlock)

/-- A logged error requests no forkchoice update. -/
@[simp] theorem forkchoiceRequests_map_logError (msg : String) (errs : List Error) :
    forkchoiceRequests (errs.map (.logError msg)) = [] := by
  simp [forkchoiceRequests, List.filterMap_map, Function.comp_def, Call.forkchoiceRequest]

/-- `sendFCU` requests one forkchoice update, with the given head and the state's latest
payload as safe and finalized, when that payload can be read, and none otherwise. -/
theorem forkchoiceRequests_sendFCU (headEth1Hash : ExecutionHash) :
    forkchoiceRequests (sendFCU s st headEth1Hash).1 =
      match st.latestExecutionPayload with
      | .error _ => []
      | .ok latest => [⟨⟨headEth1Hash, latest.blockHash, latest.blockHash⟩⟩] := by
  cases hl : st.latestExecutionPayload <;> simp [sendFCU, hl, Call.forkchoiceRequest]

/-- The deferred call requests one forkchoice update when the state's latest payload can be
read and none otherwise; the head is the block hash of a non-nil interface argument, else the
state's, and safe and finalized are the state's. -/
theorem forkchoiceRequests_sendPostBlockFCU (payload : Option ExecutionPayload) :
    forkchoiceRequests (sendPostBlockFCU s st payload) =
      match st.latestExecutionPayload with
      | .error _ => []
      | .ok latest => [⟨⟨(payload.map (·.blockHash)).getD latest.blockHash,
          latest.blockHash, latest.blockHash⟩⟩] := by
  cases hl : st.latestExecutionPayload <;> cases payload <;>
    simp [sendPostBlockFCU, forkchoiceRequests_sendFCU, hl, Except.map, Call.forkchoiceRequest]

/-- The body of `PostBlockProcess` requests no forkchoice update. -/
theorem forkchoiceRequests_postBlockProcessBody :
    forkchoiceRequests (postBlockProcessBody s blk).2.1 = [] := by
  simp only [postBlockProcessBody]
  split_ifs <;> (repeat' split) <;> rfl

/-- The `payload` variable at the return: the nil interface when the block or its body is
nil, the block's payload otherwise, nil or not. -/
theorem postBlockProcessBody_payload :
    (postBlockProcessBody s blk).1 =
      if blk.isNil || blk.body.isNil then none else some blk.body.executionPayload := by
  simp only [postBlockProcessBody]
  split_ifs <;> (repeat' split) <;> simp_all

/-- The error `PostBlockProcess` returns: with block, body and payload non-nil, that of
`InsertNode`, else that of `ProcessLogsInETH1Block`; nil otherwise. -/
theorem postBlockProcessBody_err :
    (postBlockProcessBody s blk).2.2 =
      if blk.isNil || blk.body.isNil || blk.body.executionPayload.isNil then none
      else (s.insertNode blk.body.executionPayload.blockHash).or
        (s.processLogsInETH1Block blk.body.executionPayload.blockHash) := by
  simp only [postBlockProcessBody]
  split_ifs <;> (repeat' split) <;> simp_all

/-- **Post-block processing always ends in the deferred forkchoice update.**  The calls of
`PostBlockProcess` are those of its body followed by those of one `sendPostBlockFCU`, and
the body requests no update.  The deferred call receives the nil interface when the block or
its body is nil, and the block's payload otherwise, nil or not.  Unless that payload is a nil
pointer, whose block hash the deferred call would read: one update is requested when the
state's latest payload can be read, none otherwise, with safe and finalized the state's
latest hash; the head is that hash when the block or its body is nil, and the payload's
block hash otherwise; and the returned error is nil when the block or its body is nil, and
that of `InsertNode` or `ProcessLogsInETH1Block` otherwise, whatever the update did. -/
theorem postBlockProcess_spec :
    (postBlockProcess s st blk).1 =
        (postBlockProcessBody s blk).2.1 ++ sendPostBlockFCU s st (postBlockProcessBody s blk).1 ∧
    forkchoiceRequests (postBlockProcessBody s blk).2.1 = [] ∧
    (postBlockProcessBody s blk).1 =
      (if blk.isNil || blk.body.isNil then none else some blk.body.executionPayload) ∧
    (blk.isNil = true ∨ blk.body.isNil = true ∨ blk.body.executionPayload.isNil = false →
      forkchoiceRequests (postBlockProcess s st blk).1 =
        (match st.latestExecutionPayload with
          | .error _ => []
          | .ok latest =>
            [⟨⟨if blk.isNil || blk.body.isNil then latest.blockHash
                else blk.body.executionPayload.blockHash,
              latest.blockHash, latest.blockHash⟩⟩]) ∧
      (postBlockProcess s st blk).2 =
        if blk.isNil || blk.body.isNil then none
        else (s.insertNode blk.body.executionPayload.blockHash).or
          (s.processLogsInETH1Block blk.body.executionPayload.blockHash)) := by
  refine ⟨rfl, forkchoiceRequests_postBlockProcessBody s blk, postBlockProcessBody_payload s blk,
    fun hread => ⟨?_, ?_⟩⟩
  · rw [postBlockProcess, forkchoiceRequests_append, forkchoiceRequests_postBlockProcessBody,
      forkchoiceRequests_sendPostBlockFCU, postBlockProcessBody_payload]
    cases st.latestExecutionPayload <;> split_ifs <;> simp_all
  · -- the error is the body's, and with a non-nil payload the nil check adds nothing
    rw [show (postBlockProcess s st blk).2 = (postBlockProcessBody s blk).2.2 from rfl,
      postBlockProcessBody_err]
    rcases hread with h | h | h <;> simp [h]

/-- The calls of `PostBlockProcess`: those of its body, then those of the deferred update. -/
theorem postBlockProcess_fst :
    (postBlockProcess s st blk).1 =
      (postBlockProcessBody s blk).2.1 ++ sendPostBlockFCU s st (postBlockProcessBody s blk).1 :=
  rfl

/-- The deferred update only requests forkchoice updates and logs errors. -/
theorem mem_sendPostBlockFCU {payload : Option ExecutionPayload} {c : Call}
    (hc : c ∈ sendPostBlockFCU s st payload) :
    (∃ req, c = .notifyForkchoiceUpdate req) ∨ ∃ msg err, c = .logError msg err := by
  cases hl : st.latestExecutionPayload <;> cases payload <;>
    simp [sendPostBlockFCU, sendFCU, hl, Except.map] at hc <;> aesop

/-- The calls of the body of `PostBlockProcess`: none unless block, body and payload are
non-nil; then `InsertNode` with the payload's block hash and, once it succeeded,
`ProcessLogsInETH1Block` with the same hash, a failure of which is logged. -/
theorem postBlockProcessBody_calls :
    (postBlockProcessBody s blk).2.1 =
      if blk.isNil || blk.body.isNil || blk.body.executionPayload.isNil then []
      else .insertNode blk.body.executionPayload.blockHash ::
        if (s.insertNode blk.body.executionPayload.blockHash).isSome then []
        else .processLogsInETH1Block blk.body.executionPayload.blockHash ::
          (s.processLogsInETH1Block blk.body.executionPayload.blockHash).toList.map
            (.logError "failed to process logs") := by
  simp only [postBlockProcessBody]
  split_ifs <;> (repeat' split) <;> simp_all

/-- **The calls of post-block processing.**  For every block, state and collaborator
outcome, `PostBlockProcess` only inserts the block's payload hash into the forkchoice store,
processes the logs of that execution block, requests forkchoice updates and logs errors: it
never validates, notifies a new payload, processes blobs or applies a block.  It inserts the
payload's hash once when block, body and payload are non-nil, and never otherwise; it
processes that block's logs once when moreover the insertion succeeded, and never
otherwise. -/
theorem postBlockProcess_calls :
    (∀ c ∈ (postBlockProcess s st blk).1,
      c = .insertNode blk.body.executionPayload.blockHash ∨
      c = .processLogsInETH1Block blk.body.executionPayload.blockHash ∨
      (∃ req, c = .notifyForkchoiceUpdate req) ∨ ∃ msg err, c = .logError msg err) ∧
    (postBlockProcess s st blk).1.count (.insertNode blk.body.executionPayload.blockHash) =
      (if blk.isNil || blk.body.isNil || blk.body.executionPayload.isNil then 0 else 1) ∧
    (postBlockProcess s st blk).1.count
        (.processLogsInETH1Block blk.body.executionPayload.blockHash) =
      if blk.isNil || blk.body.isNil || blk.body.executionPayload.isNil ||
        (s.insertNode blk.body.executionPayload.blockHash).isSome then 0 else 1 := by
  -- the deferred update neither inserts nodes nor processes logs
  have hcount : ∀ c, (∀ req, c ≠ .notifyForkchoiceUpdate req) →
      (∀ msg err, c ≠ .logError msg err) →
      (postBlockProcess s st blk).1.count c = (postBlockProcessBody s blk).2.1.count c := by
    intro c h₁ h₂
    have hzero : (sendPostBlockFCU s st (postBlockProcessBody s blk).1).count c = 0 := by
      refine List.count_eq_zero_of_not_mem fun hc => ?_
      rcases mem_sendPostBlockFCU s st hc with ⟨req, hreq⟩ | ⟨msg, err, herr⟩
      exacts [h₁ req hreq, h₂ msg err herr]
    rw [postBlockProcess_fst, List.count_append, hzero, Nat.add_zero]
  refine ⟨fun c hc => ?_, ?_, ?_⟩
  · rw [postBlockProcess_fst, List.mem_append] at hc
    rcases hc with hc | hc
    · rw [postBlockProcessBody_calls] at hc
      split_ifs at hc
      · cases hc
      · exact .inl (List.mem_singleton.mp hc)
      · simp only [List.mem_cons, List.mem_map, Option.mem_toList] at hc
        rcases hc with rfl | rfl | ⟨err, -, rfl⟩
        exacts [.inl rfl, .inr (.inl rfl), .inr (.inr (.inr ⟨_, _, rfl⟩))]
    · exact .inr (.inr (mem_sendPostBlockFCU s st hc))
  all_goals
    rw [hcount _ (by simp) (by simp), postBlockProcessBody_calls]
    clear hcount
    split_ifs <;> simp_all [List.count_eq_zero]

end

/-- A full block whose body holds a nil execution payload, with block hash 2. -/
def nilPayloadBlock : ReadOnlyBeaconBlock :=
  ⟨false, 0, 0, ⟨false, ⟨true, 2, 0, 0, []⟩, []⟩⟩

/-- A state whose latest execution payload has block hash 1. -/
def latestPayloadOneState : BeaconState :=
  ⟨.ok 0, .ok ⟨false, 1, 0, 0, []⟩, .ok ⟨1⟩, fun _ => .ok 0⟩

/-- On a block whose execution payload is nil, `PostBlockProcess` returns early, but the
deferred update sees a non-nil interface and requests the nil payload's block hash 2 as head,
not the state's latest payload hash 1. -/
theorem postBlockProcess_nil_payload_head (s : Service Sidecars) :
    forkchoiceRequests (postBlockProcess s latestPayloadOneState nilPayloadBlock).1 =
      [⟨⟨2, 1, 1⟩⟩] := by
  rw [postBlockProcess, forkchoiceRequests_append, forkchoiceRequests_postBlockProcessBody,
    forkchoiceRequests_sendPostBlockFCU, postBlockProcessBody_payload]
  rfl

end BeaconKit
