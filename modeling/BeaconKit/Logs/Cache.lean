import BeaconKit.Primitives
import Mathlib.Data.List.Range

/-!
# The execution-log cache

`logs.Cache` stages the log-derived values of the execution block being processed in
`processingStore` and moves them to `finalStore` when the block is marked finalized; a
rollback drops the staged values.  Its calls are a state machine: `step` applies one call,
`run` a whole history.

What the cache is for is said without its state, as a function of the call history:

* `pending` — the containers pushed since the most recent finalize or rollback;
* `committed` — for every `SetLastFinalizedBlock`, in order, what was pending just before it;
* `lastFinalized` — the argument of the most recent `SetLastFinalizedBlock`, 0 if none.

`run_eq_abstract` proves that every run from the zero cache is this abstract state, by one
snoc lemma per component and induction on the history.  `SetLastFinalizedBlock` assigns its
argument without comparing it to the current bound, so the bound is monotone only along runs
whose later finalize calls never go below it (`lastFinalizedBlock_can_decrease`,
`shouldProcess_false_after_finalize`).
-/

namespace BeaconKit

/-- `ethtypes.Log`: the cache reads only the block number. -/
structure Log where
  blockNumber : UInt64
  deriving DecidableEq, Repr

/-- `logs.Cache`, over log value containers of type `C`.  The getter `LastFinalizedBlock()`
is the field projection. -/
structure Cache (C : Type) where
  finalStore : List C
  lastFinalizedBlock : UInt64
  processingStore : List C
  deriving DecidableEq, Repr

namespace Cache

variable {C : Type}

/-- The zero `Cache`: what a process starts with, and what a restart resets to. -/
def zero : Cache C := ⟨[], 0, []⟩

/-- `ShouldProcess`: only logs of blocks after the last finalized one are processed. -/
def shouldProcess (c : Cache C) (log : Log) : Bool :=
  log.blockNumber > c.lastFinalizedBlock

/-- `Push`: stage a container; the error is always nil. -/
def push (c : Cache C) (container : C) : Cache C × Option Error :=
  ({ c with processingStore := c.processingStore ++ [container] }, none)

/-- `SetLastFinalizedBlock`: record the block number and commit everything staged. -/
def setLastFinalizedBlock (c : Cache C) (blockNumber : UInt64) : Cache C :=
  { c with
    lastFinalizedBlock := blockNumber
    finalStore := c.finalStore ++ c.processingStore
    processingStore := [] }

/-- `Rollback`: drop everything staged. -/
def rollback (c : Cache C) : Cache C :=
  { c with processingStore := [] }

/-- A call on the cache. -/
inductive Op (C : Type) where
  | push (container : C)
  | setLastFinalizedBlock (blockNumber : UInt64)
  | rollback
  | shouldProcess (log : Log)
  | lastFinalizedBlock
  deriving DecidableEq, Repr

/-- The cache after one call; the two getters leave it as it is. -/
def step (c : Cache C) : Op C → Cache C
  | .push container => (c.push container).1
  | .setLastFinalizedBlock blockNumber => c.setLastFinalizedBlock blockNumber
  | .rollback => c.rollback
  | .shouldProcess _ => c
  | .lastFinalizedBlock => c

/-- The cache after a history of calls, oldest first. -/
def run (c : Cache C) (ops : List (Op C)) : Cache C :=
  ops.foldl step c

theorem run_append_singleton (c : Cache C) (ops : List (Op C)) (o : Op C) :
    run c (ops ++ [o]) = step (run c ops) o := by
  simp [run, List.foldl_append]

/-! ### The abstract model of a history -/

/-- The container a call stages, if it is a `Push`. -/
@[simp] def Op.pushed : Op C → Option C
  | .push container => some container
  | _ => none

/-- The block number a call finalizes, if it is a `SetLastFinalizedBlock`. -/
@[simp] def Op.finalizes : Op C → Option UInt64
  | .setLastFinalizedBlock blockNumber => some blockNumber
  | _ => none

/-- Whether a call empties the processing store. -/
@[simp] def Op.resets : Op C → Bool
  | .setLastFinalizedBlock _ | .rollback => true
  | _ => false

/-- The containers pushed since the most recent finalize or rollback (all pushes if none). -/
def pending (ops : List (Op C)) : List C :=
  ((ops.reverse.takeWhile (fun o => !o.resets)).reverse).filterMap Op.pushed

/-- For every `SetLastFinalizedBlock` of the history, in order, the containers pending just
before it. -/
def committed (ops : List (Op C)) : List C :=
  (List.range ops.length).flatMap fun i =>
    if (ops[i]?.bind Op.finalizes).isSome then pending (ops.take i) else []

/-- The argument of the most recent `SetLastFinalizedBlock`, 0 if there is none. -/
def lastFinalized (ops : List (Op C)) : UInt64 :=
  (ops.filterMap Op.finalizes).getLast?.getD 0

theorem pending_append_singleton (ops : List (Op C)) (o : Op C) :
    pending (ops ++ [o]) = if o.resets then [] else pending ops ++ o.pushed.toList := by
  cases o <;> simp [pending, List.filterMap_append]

theorem committed_append_singleton (ops : List (Op C)) (o : Op C) :
    committed (ops ++ [o]) =
      committed ops ++ if o.finalizes.isSome then pending ops else [] := by
  rw [committed, List.length_append, List.length_singleton, List.range_succ,
    List.flatMap_append, committed]
  congr 1
  · refine List.flatMap_congr fun i hi => ?_
    have hi : i < ops.length := List.mem_range.mp hi
    rw [List.getElem?_append_left hi, List.take_append_of_le_length hi.le]
  · simp

theorem lastFinalized_append_singleton (ops : List (Op C)) (o : Op C) :
    lastFinalized (ops ++ [o]) = o.finalizes.getD (lastFinalized ops) := by
  cases o <;> simp [lastFinalized, List.filterMap_append]

/-- The abstract state of a history. -/
def abstract (ops : List (Op C)) : Cache C :=
  ⟨committed ops, lastFinalized ops, pending ops⟩

/-- One call moves the abstract state of a history as `step` moves the cache. -/
theorem abstract_append_singleton (ops : List (Op C)) (o : Op C) :
    abstract (ops ++ [o]) = step (abstract ops) o := by
  cases o <;> simp [abstract, step, push, setLastFinalizedBlock, rollback,
    pending_append_singleton, committed_append_singleton, lastFinalized_append_singleton]

/-- **Every run from the zero cache is the abstract state of its history.** -/
theorem run_eq_abstract (ops : List (Op C)) : run zero ops = abstract ops := by
  induction ops using List.reverseRecOn with
  | nil => rfl
  | append_singleton ops o ih => rw [run_append_singleton, ih, abstract_append_singleton]

/-- After a finalize or a rollback, what is pending depends only on the later calls. -/
theorem pending_append_of_resets {o : Op C} (h : o.resets) (ops rest : List (Op C)) :
    pending (ops ++ o :: rest) = pending rest := by
  induction rest using List.reverseRecOn with
  | nil => rw [pending_append_singleton, if_pos h]; rfl
  | append_singleton rest x ih =>
    rw [show ops ++ o :: (rest ++ [x]) = ops ++ o :: rest ++ [x] by simp,
      pending_append_singleton, ih, pending_append_singleton]

/-- After a finalize or a rollback, the later calls commit only what they push themselves. -/
theorem committed_append_of_resets {o : Op C} (h : o.resets) (ops rest : List (Op C)) :
    committed (ops ++ o :: rest) = committed (ops ++ [o]) ++ committed rest := by
  induction rest using List.reverseRecOn with
  | nil => simp [committed]
  | append_singleton rest x ih =>
    rw [show ops ++ o :: (rest ++ [x]) = ops ++ o :: rest ++ [x] by simp,
      committed_append_singleton (ops ++ o :: rest), ih, committed_append_singleton rest,
      pending_append_of_resets h, List.append_assoc]

/-- What is committed and still pending is a subsequence of everything pushed: nothing is
duplicated, reordered or invented. -/
theorem committed_append_pending_sublist (ops : List (Op C)) :
    (committed ops ++ pending ops).Sublist (ops.filterMap Op.pushed) := by
  induction ops using List.reverseRecOn with
  | nil => simp [committed, pending]
  | append_singleton ops o ih =>
    rw [committed_append_singleton, pending_append_singleton, List.filterMap_append]
    cases o with
    | push container => simpa using ih.append (.refl _)
    | rollback => simpa using (List.sublist_append_left _ _).trans ih
    | _ => simpa using ih

/-- Without a rollback nothing pushed is lost: it is committed or still pending, in order. -/
theorem committed_append_pending_of_no_rollback {ops : List (Op C)} (h : Op.rollback ∉ ops) :
    committed ops ++ pending ops = ops.filterMap Op.pushed := by
  induction ops using List.reverseRecOn with
  | nil => simp [committed, pending]
  | append_singleton ops o ih =>
    have hrest : Op.rollback ∉ ops := fun hr => h (List.mem_append_left _ hr)
    have ho : o ≠ .rollback := fun ho => h (by simp [ho])
    rw [committed_append_singleton, pending_append_singleton, List.filterMap_append, ← ih hrest]
    cases o <;> simp at ho ⊢

/-- **The log cache refines its history.**  From the zero cache, any history of calls ends
in the abstract state: the processing store holds, in push order, the containers pushed since
the most recent finalize or rollback; the final store is the concatenation, over every
`SetLastFinalizedBlock`, of what was pending at that call; the bound is the argument of the
most recent `SetLastFinalizedBlock`, 0 if none.  Hence nothing is duplicated or reordered,
nothing is lost without a rollback, what is pending at a rollback is never committed, and
`Rollback` and the two getters leave the final store and the bound alone. -/
theorem cache_run_refines_history (ops : List (Op C)) :
    run zero ops = ⟨committed ops, lastFinalized ops, pending ops⟩ ∧
    (committed ops ++ pending ops).Sublist (ops.filterMap Op.pushed) ∧
    (Op.rollback ∉ ops → committed ops ++ pending ops = ops.filterMap Op.pushed) ∧
    (∀ pre rest : List (Op C), ops = pre ++ .rollback :: rest →
      committed ops = committed pre ++ committed rest ∧ pending ops = pending rest) ∧
    ∀ (c : Cache C) (log : Log),
      (c.rollback.finalStore = c.finalStore ∧
        c.rollback.lastFinalizedBlock = c.lastFinalizedBlock) ∧
      step c (.shouldProcess log) = c ∧ step c .lastFinalizedBlock = c := by
  refine ⟨run_eq_abstract ops, committed_append_pending_sublist ops,
    committed_append_pending_of_no_rollback, fun pre rest h => ?_,
    fun c log => ⟨⟨rfl, rfl⟩, rfl, rfl⟩⟩
  subst h
  rw [committed_append_of_resets (o := .rollback) rfl,
    pending_append_of_resets (o := .rollback) rfl, committed_append_singleton]
  simp

/-- The spec's scenario: with block 100 finalized, a log of block 100 is refused and one of
block 101 admitted, and its container is committed only by finalizing block 101. -/
example :
    (run (zero : Cache Nat) [.setLastFinalizedBlock 100, .push 101]).shouldProcess ⟨100⟩ =
      false ∧
    (run (zero : Cache Nat) [.setLastFinalizedBlock 100, .push 101]).shouldProcess ⟨101⟩ =
      true ∧
    (run (zero : Cache Nat) [.setLastFinalizedBlock 100, .push 101]).finalStore = [] ∧
    (run (zero : Cache Nat) [.setLastFinalizedBlock 100, .push 101,
      .setLastFinalizedBlock 101]).finalStore = [101] := by
  decide

/-- A finalize sets the bound to its argument; every other call keeps it. -/
theorem step_lastFinalizedBlock (c : Cache C) (o : Op C) :
    (step c o).lastFinalizedBlock = o.finalizes.getD c.lastFinalizedBlock := by
  cases o <;> rfl

/-- Along any run the bound is the argument of the most recent finalize, or where it started. -/
theorem run_lastFinalizedBlock (c : Cache C) (ops : List (Op C)) :
    (run c ops).lastFinalizedBlock =
      (ops.filterMap Op.finalizes).getLast?.getD c.lastFinalizedBlock := by
  induction ops using List.reverseRecOn with
  | nil => rfl
  | append_singleton ops o ih =>
    rw [run_append_singleton, step_lastFinalizedBlock, ih]
    cases o <;> simp [List.filterMap_append]

/-- `SetLastFinalizedBlock` does not compare its argument with the bound: finalizing block 5
and then block 3 moves the bound back, and a log of block 4, refused after the first call, is
admitted again after the second. -/
theorem lastFinalizedBlock_can_decrease :
    (run (zero : Cache Unit) [.setLastFinalizedBlock 5]).shouldProcess ⟨4⟩ = false ∧
    (run (zero : Cache Unit) [.setLastFinalizedBlock 5, .setLastFinalizedBlock 3]).lastFinalizedBlock
      < (run (zero : Cache Unit) [.setLastFinalizedBlock 5]).lastFinalizedBlock ∧
    (run (zero : Cache Unit) [.setLastFinalizedBlock 5, .setLastFinalizedBlock 3]).shouldProcess ⟨4⟩
      = true := by
  decide

/-- Once `SetLastFinalizedBlock(N)` has been called, the bound in every later state is the
argument of the most recent finalize since, or `N`, whatever those arguments are.  When the
most recent one passed a number `m` below `N`, the bound has moved back to `m` and the logs of
the blocks above `m` are admitted again.  As long as no later finalize passes a number below
`N`, the bound stays at least `N` and every log of a block up to `N` is refused. -/
theorem shouldProcess_false_after_finalize (c : Cache C) (N : UInt64) (post : List (Op C)) :
    (run (c.setLastFinalizedBlock N) post).lastFinalizedBlock
        = (post.filterMap Op.finalizes).getLast?.getD N ∧
    (∀ m, (post.filterMap Op.finalizes).getLast? = some m → m < N →
      (run (c.setLastFinalizedBlock N) post).lastFinalizedBlock < N ∧
      ∀ log : Log, m < log.blockNumber →
        (run (c.setLastFinalizedBlock N) post).shouldProcess log = true) ∧
    ((∀ n, Op.setLastFinalizedBlock n ∈ post → N ≤ n) →
      N ≤ (run (c.setLastFinalizedBlock N) post).lastFinalizedBlock ∧
      ∀ log : Log, log.blockNumber ≤ N →
        (run (c.setLastFinalizedBlock N) post).shouldProcess log = false) := by
  have hlast := run_lastFinalizedBlock (c.setLastFinalizedBlock N) post
  refine ⟨hlast, fun m hm hmN => ?_, fun hpost => ?_⟩
  · -- the bound is the smaller argument itself
    have hbound : (run (c.setLastFinalizedBlock N) post).lastFinalizedBlock = m := by
      rw [hlast, hm, Option.getD_some]
    exact ⟨hbound ▸ hmN, fun log hlog => by simpa [shouldProcess, hbound] using hlog⟩
  · have hbound : N ≤ (run (c.setLastFinalizedBlock N) post).lastFinalizedBlock := by
      rw [hlast]
      cases h : (post.filterMap Op.finalizes).getLast? with
      | none => exact UInt64.le_refl N
      | some n =>
        obtain ⟨o, ho, hn⟩ := List.mem_filterMap.mp (List.mem_of_getLast?_eq_some h)
        cases o <;> simp at hn
        exact hn ▸ hpost _ ho
    exact ⟨hbound, fun log hlog => by simpa [shouldProcess] using UInt64.le_trans hlog hbound⟩

/-- After finalizing block 5, a push and a finalize of block 7 still refuse a log of block 5. -/
theorem shouldProcess_false_after_finalize_seven :
    (run ((zero : Cache Unit).setLastFinalizedBlock 5)
      [.push (), .setLastFinalizedBlock 7]).shouldProcess ⟨5⟩ = false :=
  ((shouldProcess_false_after_finalize zero 5 [.push (), .setLastFinalizedBlock 7]).2.2
    (fun n hn => by simp at hn; exact hn ▸ by decide)).2 ⟨5⟩ (UInt64.le_refl 5)

end Cache

end BeaconKit
