import BeaconKit.Primitives

/-!
# The deposit service

`deposit.Service` subscribes to a feed of block events.  `Start` launches one goroutine that
loops on a `select`: when the context is done it unsubscribes and returns; when an event
arrives on the channel it handles it with `handleDepositEvent` and logs the error, if any.
Handling an event asks the deposit contract for the deposits at the event's block slot minus
the follow distance, and enqueues them into the deposit store of the event's context.  The
slot is a `math.U64`, so the subtraction wraps below the follow distance.

The contract reader and the stores are external services with a state of their own, `σ`, so
that their answers can depend on everything that happened before: every pattern of
successes and failures is some choice of `σ` and of the two functions.  A call and its answer
are recorded together in the trace.

The loop is a state machine over the choices of its `select` (`Select`), which are
arbitrary: Go picks among ready cases at random.  `loopStep_inv` proves what one choice
preserves and `depositLoop_spec` what every run does: the handled events are a prefix of
the delivered ones, in order and each once, and every handled event has a complete handling
of its own in the trace, whatever happened to the events before it.  `depositLoop_progress`
says how far a run gets: as many events as the `select` received before it first chose
`done`, whatever the collaborators answered.  `depositLoop_eq_handleEvents` says what the
loop is: `handleEvents`, the received events handled one after another, so the collaborators
see every received event once, in order, and nothing else.
-/

namespace BeaconKit

namespace Deposit

/-- A `context.Context`, by identity. -/
abbrev Context := Nat

/-- A block event: `e.Context()` and the slot of `e.Block()`. -/
structure BlockEvent where
  context : Context
  slot : Slot
  deriving DecidableEq, Repr

/-- `deposit.Service` over deposits of type `DepositT`, its collaborators in state `σ`:
`dc.GetDeposits(ctx, slot)` and `sb.DepositStore(ctx).EnqueueDeposits(deposits)`. -/
structure Service (σ DepositT : Type) where
  getDeposits : σ → Context → UInt64 → σ × Except Error (List DepositT)
  enqueueDeposits : σ → Context → List DepositT → σ × Option Error
  eth1FollowDistance : UInt64

/-- `NewService`: the follow distance is 1 by default. -/
def Service.new {σ DepositT : Type}
    (getDeposits : σ → Context → UInt64 → σ × Except Error (List DepositT))
    (enqueueDeposits : σ → Context → List DepositT → σ × Option Error) :
    Service σ DepositT :=
  ⟨getDeposits, enqueueDeposits, 1⟩

/-- What the deposit service does to the world: a collaborator call with its answer, a log
line, or the unsubscription. -/
inductive Call (DepositT : Type) where
  /-- `dc.GetDeposits(ctx, slot)` and what it returned. -/
  | getDeposits (ctx : Context) (slot : UInt64) (result : Except Error (List DepositT))
  /-- `DepositStore(ctx).EnqueueDeposits(deposits)` and what it returned. -/
  | enqueueDeposits (ctx : Context) (deposits : List DepositT) (result : Option Error)
  /-- `logger.Info("💵 processing deposit logs 💵", "slot", slot)`. -/
  | logInfo (slot : UInt64)
  /-- `logger.Error("failed to handle deposit event", "err", err)`. -/
  | logError (err : Error)
  /-- `sub.Unsubscribe()`. -/
  | unsubscribe

variable {σ DepositT : Type}

/-- `handleDepositEvent`: the collaborators' state after it, its calls, and its error. -/
def handleDepositEvent (svc : Service σ DepositT) (w : σ) (e : BlockEvent) :
    σ × List (Call DepositT) × Option Error :=
  let slot := e.slot - svc.eth1FollowDistance
  match svc.getDeposits w e.context slot with
  | (w, .error err) => (w, [.logInfo slot, .getDeposits e.context slot (.error err)], some err)
  | (w, .ok deposits) =>
    match svc.enqueueDeposits w e.context deposits with
    | (w, err) => (w, [.logInfo slot, .getDeposits e.context slot (.ok deposits),
        .enqueueDeposits e.context deposits err], err)

/-- The `(context, slot)` a call asks the deposit contract for, if it is `GetDeposits`. -/
def Call.depositQuery : Call DepositT → Option (Context × UInt64)
  | .getDeposits ctx slot _ => some (ctx, slot)
  | _ => none

/-- The deposits a call obtained from the contract, with the event's context. -/
def Call.gotDeposits : Call DepositT → Option (Context × List DepositT)
  | .getDeposits ctx _ (.ok deposits) => some (ctx, deposits)
  | _ => none

/-- The deposits a call enqueued and the context whose store received them. -/
def Call.enqueued : Call DepositT → Option (Context × List DepositT)
  | .enqueueDeposits ctx deposits _ => some (ctx, deposits)
  | _ => none

/-- What handling an event does, by what the collaborators answer.  If the contract fails,
its error is returned and the collaborators are left where the contract left them; otherwise
exactly the deposits it returned are enqueued into the store of the event's context, and the
store's answer is returned. -/
theorem handleDepositEvent_cases (svc : Service σ DepositT) (w : σ) (e : BlockEvent) :
    (∃ w₁ err,
      svc.getDeposits w e.context (e.slot - svc.eth1FollowDistance) = (w₁, .error err) ∧
      handleDepositEvent svc w e = (w₁, [.logInfo (e.slot - svc.eth1FollowDistance),
        .getDeposits e.context (e.slot - svc.eth1FollowDistance) (.error err)], some err)) ∨
    (∃ w₁ deposits w₂ result,
      svc.getDeposits w e.context (e.slot - svc.eth1FollowDistance) = (w₁, .ok deposits) ∧
      svc.enqueueDeposits w₁ e.context deposits = (w₂, result) ∧
      handleDepositEvent svc w e = (w₂, [.logInfo (e.slot - svc.eth1FollowDistance),
        .getDeposits e.context (e.slot - svc.eth1FollowDistance) (.ok deposits),
        .enqueueDeposits e.context deposits result], result)) := by
  rcases hget : svc.getDeposits w e.context (e.slot - svc.eth1FollowDistance) with
    ⟨w₁, err | deposits⟩
  · exact .inl ⟨w₁, err, rfl, by simp [handleDepositEvent, hget]⟩
  · rcases henq : svc.enqueueDeposits w₁ e.context deposits with ⟨w₂, result⟩
    exact .inr ⟨w₁, deposits, w₂, result, rfl, henq, by simp [handleDepositEvent, hget, henq]⟩

/-- Handling an event asks the contract exactly once, for the event's context, at the block
slot minus the follow distance in wrapping 64-bit arithmetic. -/
theorem handleDepositEvent_queries (svc : Service σ DepositT) (w : σ) (e : BlockEvent) :
    (handleDepositEvent svc w e).2.1.filterMap Call.depositQuery =
      [(e.context, e.slot - svc.eth1FollowDistance)] := by
  rcases handleDepositEvent_cases svc w e with ⟨_, _, -, heq⟩ | ⟨_, _, _, _, -, -, heq⟩ <;>
    simp [heq, Call.depositQuery]

/-- A `math.U64` difference that does not wrap is the difference of the numbers. -/
theorem u64_sub_toNat_of_le {a b : UInt64} (h : b ≤ a) : (a - b).toNat = a.toNat - b.toNat :=
  UInt64.toNat_sub_of_le a b h

/-- A `math.U64` difference below zero wraps around `2^64`. -/
theorem u64_sub_toNat_of_lt {a b : UInt64} (h : a < b) :
    (a - b).toNat = a.toNat + 2 ^ 64 - b.toNat := by
  have hab : a.toBitVec.toNat < b.toBitVec.toNat := h
  have hb : b.toBitVec.toNat < 2 ^ 64 := b.toBitVec.isLt
  show (a.toBitVec - b.toBitVec).toNat = a.toBitVec.toNat + 2 ^ 64 - b.toBitVec.toNat
  rw [BitVec.toNat_sub, Nat.mod_eq_of_lt (by omega)]
  omega

/-- `handleDepositEvent` asks for deposits at exactly one slot, the block slot minus the follow
distance in `math.U64` arithmetic, and reports no underflow: whatever the slot, the only error
it returns is the contract's or, once the contract answered, the store's, and the deposits
the contract returned are enqueued, exactly those, into the store of the event's context.
When the distance is at most the block slot that slot is the plain difference, never later
than the block slot; below it the subtraction wraps to a slot `2^64` further on, later than
the block slot. -/
theorem handleDepositEvent_slot (svc : Service σ DepositT) (w : σ) (e : BlockEvent) :
    (handleDepositEvent svc w e).2.1.filterMap Call.depositQuery =
        [(e.context, e.slot - svc.eth1FollowDistance)] ∧
    (∀ w₁ err,
      svc.getDeposits w e.context (e.slot - svc.eth1FollowDistance) = (w₁, .error err) →
      (handleDepositEvent svc w e).2.2 = some err ∧
      (handleDepositEvent svc w e).2.1.filterMap Call.enqueued = [] ∧
      (handleDepositEvent svc w e).1 = w₁) ∧
    (∀ w₁ deposits,
      svc.getDeposits w e.context (e.slot - svc.eth1FollowDistance) = (w₁, .ok deposits) →
      (handleDepositEvent svc w e).2.2 = (svc.enqueueDeposits w₁ e.context deposits).2 ∧
      (handleDepositEvent svc w e).2.1.filterMap Call.enqueued = [(e.context, deposits)] ∧
      (handleDepositEvent svc w e).1 = (svc.enqueueDeposits w₁ e.context deposits).1) ∧
    (svc.eth1FollowDistance ≤ e.slot →
      (e.slot - svc.eth1FollowDistance).toNat = e.slot.toNat - svc.eth1FollowDistance.toNat ∧
      e.slot - svc.eth1FollowDistance ≤ e.slot) ∧
    (e.slot < svc.eth1FollowDistance →
      (e.slot - svc.eth1FollowDistance).toNat =
        e.slot.toNat + 2 ^ 64 - svc.eth1FollowDistance.toNat ∧
      e.slot < e.slot - svc.eth1FollowDistance) := by
  refine ⟨handleDepositEvent_queries svc w e, fun w₁ err hget => ?_,
    fun w₁ deposits hget => ?_, fun h => ?_, fun h => ?_⟩
  · simp [handleDepositEvent, hget, Call.enqueued]
  · rcases henq : svc.enqueueDeposits w₁ e.context deposits with ⟨w₂, result⟩
    simp [handleDepositEvent, hget, henq, Call.enqueued]
  · have hsub := u64_sub_toNat_of_le h
    exact ⟨hsub, show (e.slot - svc.eth1FollowDistance).toNat ≤ e.slot.toNat by omega⟩
  · have hsub := u64_sub_toNat_of_lt h
    have hd : svc.eth1FollowDistance.toNat < 2 ^ 64 := svc.eth1FollowDistance.toNat_lt_size
    exact ⟨hsub, show e.slot.toNat < (e.slot - svc.eth1FollowDistance).toNat by omega⟩

/-- With the default follow distance 1, an event of the genesis slot 0 makes the service ask
the contract for slot `2^64 - 1` and enqueue what it returns; nothing reports an underflow. -/
theorem handleDepositEvent_genesis_wraps :
    (handleDepositEvent (Service.new (fun _ _ _ => ((), .ok [])) (fun _ _ _ => ((), none)) :
        Service Unit Unit) () ⟨0, 0⟩).2 =
      ([.logInfo 18446744073709551615, .getDeposits 0 18446744073709551615 (.ok []),
        .enqueueDeposits 0 [] none], none) := rfl

/-! ### The loop `Start` launches -/

/-- `calls` is one complete handling of the event `e` by `svc`, which finds the collaborators
in state `w` and leaves them in state `w'`: the contract is asked for `e`'s context at `e`'s
slot minus the follow distance and answers as `svc.getDeposits` does; the deposits it
returns are enqueued, exactly those, into the store of `e`'s context, which answers as
`svc.enqueueDeposits` does; an error of either call is logged. -/
inductive Handled (svc : Service σ DepositT) (e : BlockEvent) :
    σ → List (Call DepositT) → σ → Prop
  | getFailed {w w' : σ} {err : Error}
      (hget : svc.getDeposits w e.context (e.slot - svc.eth1FollowDistance) = (w', .error err)) :
    Handled svc e w [.logInfo (e.slot - svc.eth1FollowDistance),
      .getDeposits e.context (e.slot - svc.eth1FollowDistance) (.error err), .logError err] w'
  | enqueued {w w₁ w' : σ} {deposits : List DepositT} {result : Option Error}
      (hget : svc.getDeposits w e.context (e.slot - svc.eth1FollowDistance) =
        (w₁, .ok deposits))
      (henq : svc.enqueueDeposits w₁ e.context deposits = (w', result)) :
    Handled svc e w ([.logInfo (e.slot - svc.eth1FollowDistance),
      .getDeposits e.context (e.slot - svc.eth1FollowDistance) (.ok deposits),
      .enqueueDeposits e.context deposits result] ++ result.toList.map .logError) w'

/-- The events `es` were handled one after another by `svc`, from the collaborators' state `w`
to `w'`, with the calls `segs`, one list per event. -/
inductive HandledRun (svc : Service σ DepositT) (w : σ) :
    List BlockEvent → List (List (Call DepositT)) → σ → Prop
  | nil : HandledRun svc w [] [] w
  | snoc {es : List BlockEvent} {segs : List (List (Call DepositT))} {w₁ w₂ : σ}
      {e : BlockEvent} {calls : List (Call DepositT)} :
    HandledRun svc w es segs w₁ → Handled svc e w₁ calls w₂ →
      HandledRun svc w (es ++ [e]) (segs ++ [calls]) w₂

/-- Handling an event and logging its error is a complete handling of it. -/
theorem handleDepositEvent_handled (svc : Service σ DepositT) (w : σ) (e : BlockEvent) :
    Handled svc e w
      ((handleDepositEvent svc w e).2.1 ++
        (handleDepositEvent svc w e).2.2.toList.map .logError)
      (handleDepositEvent svc w e).1 := by
  rcases handleDepositEvent_cases svc w e with
    ⟨w₁, err, hget, heq⟩ | ⟨w₁, deposits, w₂, result, hget, henq, heq⟩
  · rw [heq]; exact .getFailed hget
  · rw [heq]; exact .enqueued hget henq

/-- A complete handling asks the contract once, for the event's context and slot. -/
theorem Handled.depositQuery {svc : Service σ DepositT} {e : BlockEvent} {w w' : σ}
    {calls : List (Call DepositT)} (h : Handled svc e w calls w') :
    calls.filterMap Call.depositQuery = [(e.context, e.slot - svc.eth1FollowDistance)] := by
  cases h with
  | getFailed => simp [Call.depositQuery]
  | enqueued => simp [Call.depositQuery, List.filterMap_map, Function.comp_def]

/-- A complete handling enqueues exactly what the contract returned, into the same context. -/
theorem Handled.enqueued_eq {svc : Service σ DepositT} {e : BlockEvent} {w w' : σ}
    {calls : List (Call DepositT)} (h : Handled svc e w calls w') :
    calls.filterMap Call.enqueued = calls.filterMap Call.gotDeposits := by
  cases h with
  | getFailed => simp [Call.enqueued, Call.gotDeposits]
  | enqueued =>
    simp [Call.enqueued, Call.gotDeposits, List.filterMap_map, Function.comp_def]

/-- The case the loop's `select` takes. -/
inductive Select where
  /-- `<-ctx.Done()`. -/
  | done
  /-- `event := <-ch`. -/
  | recv
  deriving DecidableEq, Repr

/-- The goroutine `Start` launches, with the world it acts on: the collaborators' state, the
events delivered on the channel and not yet received, the events handled, the trace, and
whether the loop still runs. -/
structure Loop (σ DepositT : Type) where
  world : σ
  pending : List BlockEvent
  handled : List BlockEvent
  trace : List (Call DepositT)
  running : Bool

/-- `Start`: the loop before its first `select`, the feed delivering `events` in order. -/
def start (w : σ) (events : List BlockEvent) : Loop σ DepositT :=
  ⟨w, events, [], [], true⟩

/-- One `select` of the loop.  A receive with nothing delivered is the `select` blocking. -/
def loopStep (svc : Service σ DepositT) (l : Loop σ DepositT) : Select → Loop σ DepositT
  | .done => if l.running then { l with running := false, trace := l.trace ++ [.unsubscribe] }
    else l
  | .recv =>
    match l.running, l.pending with
    | true, e :: rest =>
      let (w, calls, err) := handleDepositEvent svc l.world e
      { l with world := w, pending := rest, handled := l.handled ++ [e],
               trace := l.trace ++ (calls ++ err.toList.map .logError) }
    | _, _ => l

/-- The loop after the `select` choices `sched`. -/
def runLoop (svc : Service σ DepositT) (l : Loop σ DepositT) (sched : List Select) :
    Loop σ DepositT :=
  sched.foldl (loopStep svc) l

/-- What every state of the loop satisfies for the delivered events `events`, the
collaborators starting in state `w`: the handled events and the pending ones make up the
delivery, and the trace is one complete handling per handled event, in order, carrying the
collaborators' state from `w` to the current one, then the unsubscription once the loop has
stopped. -/
def LoopInv (svc : Service σ DepositT) (w : σ) (events : List BlockEvent)
    (l : Loop σ DepositT) : Prop :=
  l.handled ++ l.pending = events ∧
  ∃ segs, HandledRun svc w l.handled segs l.world ∧
    l.trace = segs.flatten ++ if l.running then [] else [.unsubscribe]

/-- Every `select` choice keeps the invariant. -/
theorem loopStep_inv {svc : Service σ DepositT} {w₀ : σ} {events : List BlockEvent}
    {l : Loop σ DepositT} (hl : LoopInv svc w₀ events l) (c : Select) :
    LoopInv svc w₀ events (loopStep svc l c) := by
  obtain ⟨hsplit, segs, hsegs, htrace⟩ := hl
  cases c with
  | done =>
    by_cases hr : l.running
    · simp only [LoopInv, loopStep, hr, if_true, Bool.false_eq_true, if_false]
      exact ⟨hsplit, segs, hsegs, by simp [htrace, hr]⟩
    · simpa [loopStep, hr] using ⟨hsplit, segs, hsegs, htrace⟩
  | recv =>
    rcases l with ⟨w, _ | ⟨e, rest⟩, handled, trace, _ | _⟩
    -- a stopped loop, or a receive from an empty channel, changes nothing
    iterate 3 exact ⟨hsplit, segs, hsegs, htrace⟩
    · simp only at hsplit hsegs htrace
      refine ⟨by simpa [loopStep] using hsplit, segs ++ [_],
        hsegs.snoc (handleDepositEvent_handled svc w e), ?_⟩
      simp [loopStep, htrace]

/-- Every run of the loop keeps the invariant. -/
theorem runLoop_inv {svc : Service σ DepositT} {w₀ : σ} {events : List BlockEvent}
    (sched : List Select) :
    ∀ {l : Loop σ DepositT}, LoopInv svc w₀ events l →
      LoopInv svc w₀ events (runLoop svc l sched) := by
  induction sched with
  | nil => exact id
  | cons c sched ih => exact fun hl => ih (loopStep_inv hl c)

/-- The number of `select` choices before the first `done`: all of them are receives. -/
def receivesBeforeDone : List Select → Nat
  | [] => 0
  | .done :: _ => 0
  | .recv :: sched => receivesBeforeDone sched + 1

example : receivesBeforeDone [.recv, .recv, .done, .recv] = 2 := rfl

@[simp] theorem receivesBeforeDone_replicate_recv (n : Nat) :
    receivesBeforeDone (List.replicate n .recv) = n := by
  induction n with
  | zero => rfl
  | succ n ih => rw [List.replicate_succ, receivesBeforeDone, ih]

theorem runLoop_cons (svc : Service σ DepositT) (l : Loop σ DepositT) (c : Select)
    (sched : List Select) : runLoop svc l (c :: sched) = runLoop svc (loopStep svc l c) sched :=
  rfl

/-- A stopped loop stays as it is, whatever the `select` picks. -/
theorem runLoop_of_stopped (svc : Service σ DepositT) {l : Loop σ DepositT}
    (hr : l.running = false) (sched : List Select) : runLoop svc l sched = l := by
  induction sched with
  | nil => rfl
  | cons c sched ih =>
    have hstep : loopStep svc l c = l := by cases c <;> simp [loopStep, hr]
    rw [runLoop_cons, hstep, ih]

/-- Handle the events `es` one after another from the collaborators' state `w`, logging the
error of each: the collaborators' state after them, and the calls made.  This is what the
loop is for; `runLoop_of_running_eq` connects it to the loop. -/
def handleEvents (svc : Service σ DepositT) : σ → List BlockEvent → σ × List (Call DepositT)
  | w, [] => (w, [])
  | w, e :: es =>
    let r := handleDepositEvent svc w e
    let rest := handleEvents svc r.1 es
    (rest.1, r.2.1 ++ r.2.2.toList.map .logError ++ rest.2)

/-- A running loop after the choices `sched`: it has handled, one after another from its
collaborators' state, as many of its pending events as it received before `done`; it runs
on exactly when `done` was not chosen, and has unsubscribed otherwise. -/
theorem runLoop_of_running_eq (svc : Service σ DepositT) (sched : List Select) :
    ∀ {l : Loop σ DepositT}, l.running = true →
      runLoop svc l sched =
        ⟨(handleEvents svc l.world (l.pending.take (receivesBeforeDone sched))).1,
          l.pending.drop (receivesBeforeDone sched),
          l.handled ++ l.pending.take (receivesBeforeDone sched),
          l.trace ++ (handleEvents svc l.world (l.pending.take (receivesBeforeDone sched))).2 ++
            (if Select.done ∈ sched then [.unsubscribe] else []),
          decide (Select.done ∉ sched)⟩ := by
  induction sched with
  | nil => intro l hr; simp [runLoop, receivesBeforeDone, handleEvents, ← hr]
  | cons c sched ih =>
    rintro ⟨w, pending, handled, trace, running⟩ (rfl : running = true)
    rw [runLoop_cons]
    cases c with
    | done =>
      rw [runLoop_of_stopped svc rfl]
      simp [loopStep, receivesBeforeDone, handleEvents]
    | recv => cases pending <;> simp [loopStep, receivesBeforeDone, handleEvents, ih]

/-- A running loop after the choices `sched` has handled as many more of its pending events
as it received before `done`, and it still runs exactly when `done` was not chosen. -/
theorem runLoop_of_running (svc : Service σ DepositT) (sched : List Select) :
    ∀ {l : Loop σ DepositT}, l.running = true →
      (runLoop svc l sched).handled = l.handled ++ l.pending.take (receivesBeforeDone sched) ∧
      (runLoop svc l sched).pending = l.pending.drop (receivesBeforeDone sched) ∧
      ((runLoop svc l sched).running = true ↔ Select.done ∉ sched) := fun hr => by
  simp [runLoop_of_running_eq svc sched hr]

/-- A running loop that only receives handles every delivered event. -/
theorem runLoop_recv_handled (svc : Service σ DepositT) :
    ∀ (l : Loop σ DepositT), l.running = true →
      (runLoop svc l (List.replicate l.pending.length .recv)).handled = l.handled ++ l.pending :=
  fun l hr => by simpa using (runLoop_of_running svc (List.replicate l.pending.length .recv) hr).1

/-- Complete handlings ask the contract once per event, in order. -/
theorem HandledRun.flatten_depositQuery {svc : Service σ DepositT} {w w' : σ}
    {es : List BlockEvent} {segs : List (List (Call DepositT))} (h : HandledRun svc w es segs w') :
    segs.flatten.filterMap Call.depositQuery =
      es.map fun e => (e.context, e.slot - svc.eth1FollowDistance) := by
  induction h with
  | nil => rfl
  | snoc _ hx ih => simp [List.filterMap_append, hx.depositQuery, ih]

/-- Complete handlings enqueue, in order, exactly what the contract returned. -/
theorem HandledRun.flatten_enqueued {svc : Service σ DepositT} {w w' : σ}
    {es : List BlockEvent} {segs : List (List (Call DepositT))} (h : HandledRun svc w es segs w') :
    segs.flatten.filterMap Call.enqueued = segs.flatten.filterMap Call.gotDeposits := by
  induction h with
  | nil => rfl
  | snoc _ hx ih => simp [List.filterMap_append, hx.enqueued_eq, ih]

/-- **The deposit loop.**  Whatever the feed delivers, whatever the collaborators answer and
whichever cases the `select` takes: the handled events are a prefix of the delivered ones,
each handled once and in delivery order; the trace is one complete handling per handled
event, each asking `svc`'s contract and store in the state the previous handling left them
in, then the unsubscription once the loop stopped; the contract is asked once per handled
event, for its context and slot; the enqueued deposits are, in order, exactly what the
successful requests returned, into the same contexts' stores; and as long as the context is
not done every delivered event is handled, errors on earlier events notwithstanding. -/
theorem depositLoop_spec (svc : Service σ DepositT) (w : σ) (events : List BlockEvent)
    (sched : List Select) :
    let l := runLoop svc (start w events) sched
    l.handled ++ l.pending = events ∧
    (∃ segs, HandledRun svc w l.handled segs l.world ∧
      l.trace = segs.flatten ++ if l.running then [] else [.unsubscribe]) ∧
    l.trace.filterMap Call.depositQuery =
      l.handled.map (fun e => (e.context, e.slot - svc.eth1FollowDistance)) ∧
    l.trace.filterMap Call.enqueued = l.trace.filterMap Call.gotDeposits ∧
    (runLoop svc (start w events) (List.replicate events.length .recv)).handled = events := by
  intro l
  obtain ⟨hsplit, segs, hsegs, htrace⟩ : LoopInv svc w events l :=
    runLoop_inv sched ⟨rfl, [], .nil, rfl⟩
  -- the unsubscription is neither a request nor an enqueue
  have hflat : ∀ {β : Type} (f : Call DepositT → Option β), f .unsubscribe = none →
      l.trace.filterMap f = segs.flatten.filterMap f := fun f hf => by
    rw [htrace]
    split <;> simp [List.filterMap_append, hf]
  refine ⟨hsplit, ⟨segs, hsegs, htrace⟩, ?_, ?_,
    runLoop_recv_handled svc (start w events) rfl⟩
  · rw [hflat _ rfl, hsegs.flatten_depositQuery]
  · rw [hflat _ rfl, hflat _ rfl, hsegs.flatten_enqueued]

/-- **The deposit loop's progress depends on its `select` choices alone.**  Whatever the feed
delivers and whatever the collaborators answer, after the choices `sched` the handled events
are exactly the first ones delivered, as many as the receives taken before the first `done`,
and the others are still pending; the loop runs exactly when `done` was never chosen, and a
stopped loop does nothing more. -/
theorem depositLoop_progress (svc : Service σ DepositT) (w : σ) (events : List BlockEvent)
    (sched : List Select) :
    let l := runLoop svc (start w events) sched
    l.handled = events.take (receivesBeforeDone sched) ∧
    l.pending = events.drop (receivesBeforeDone sched) ∧
    (l.running = true ↔ Select.done ∉ sched) ∧
    (l.running = false → ∀ more, runLoop svc l more = l) := by
  intro l
  obtain ⟨hhandled, hpending, hrunning⟩ :=
    runLoop_of_running svc sched (l := start w events) rfl
  exact ⟨by simpa [start] using hhandled, hpending, hrunning,
    fun hr more => runLoop_of_stopped svc hr more⟩

/-- **The deposit loop is sequential event handling.**  Whatever the feed delivers, whatever
the collaborators answer and whichever cases the `select` takes, the collaborators' state
and the trace after the run are exactly those of handling, one after another from the
initial state, the first events delivered, as many as the receives before the first `done`,
followed by the unsubscription when `done` was chosen. -/
theorem depositLoop_eq_handleEvents (svc : Service σ DepositT) (w : σ)
    (events : List BlockEvent) (sched : List Select) :
    let l := runLoop svc (start w events) sched
    l.world = (handleEvents svc w (events.take (receivesBeforeDone sched))).1 ∧
    l.trace = (handleEvents svc w (events.take (receivesBeforeDone sched))).2 ++
      if Select.done ∈ sched then [.unsubscribe] else [] := by
  intro l
  have hl : l = _ := runLoop_of_running_eq svc sched (l := start w events) rfl
  simp [hl, start]

end Deposit

end BeaconKit
