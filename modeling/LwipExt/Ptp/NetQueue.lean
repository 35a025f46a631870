import LwipExt.Lib.Ring

/-!
The packet queues (`_netQInit`, `_netQPut`, `_netQGet`, `_netQEmpty` and `_netQCheck` in
`dep/ptpNet.c`).

A queue is a ring whose indices are moved before they are used, so one cell stays free. It answers
any operations as a bounded queue of `PBUF_QUEUE_SIZE - 1` packets does (`netQueue_refines`).
-/

namespace LwipExt.Ptp

open LwipExt.Lib

universe u

variable {α : Type u}

/-- `PBUF_QUEUE_SIZE`. -/
def pbufQueueSize : Nat := 4

/-- `PBUF_QUEUE_MASK`. -/
def pbufQueueMask : Nat := pbufQueueSize - 1

/-- `BufQueue`, without the mutex. -/
structure BufQueue (α : Type u) where
  pbuf : Vector α pbufQueueSize
  head : Fin pbufQueueSize
  tail : Fin pbufQueueSize

instance : NeZero pbufQueueSize :=
  ⟨by decide⟩

/-- The index after `i`, masked. -/
def nextIndex (i : Fin pbufQueueSize) : Fin pbufQueueSize :=
  ⟨(i.val + 1) &&& pbufQueueMask, Nat.and_lt_two_pow (n := 2) _ (by decide)⟩

theorem nextIndex_eq : ∀ i : Fin pbufQueueSize, nextIndex i = i + 1 := by
  decide

/-- A step of the tail comes closer to the head. -/
theorem nextIndex_closer : ∀ head tail : Fin pbufQueueSize, tail ≠ head →
    (head - nextIndex tail).val < (head - tail).val := by
  decide

/-! ### The functions -/

/-- `_netQInit`. -/
def netQInit (queue : BufQueue α) : BufQueue α :=
  { queue with head := 0, tail := 0 }

/-- `_netQPut`. -/
def netQPut (queue : BufQueue α) (pbuf : α) : Bool × BufQueue α :=
  if nextIndex queue.head ≠ queue.tail then
    let head := nextIndex queue.head
    (true, { queue with head := head, pbuf := queue.pbuf.set head.val pbuf head.isLt })
  else (false, queue)

/-- `_netQGet`. -/
def netQGet (queue : BufQueue α) : Option α × BufQueue α :=
  if queue.tail ≠ queue.head then
    let tail := nextIndex queue.tail
    (some queue.pbuf[tail], { queue with tail := tail })
  else (none, queue)

/-- `_netQEmpty`: the packets that it frees, and the queue. -/
def netQEmpty (queue : BufQueue α) : List α × BufQueue α :=
  if queue.tail ≠ queue.head then
    let tail := nextIndex queue.tail
    let (freed, emptied) := netQEmpty { queue with tail := tail }
    (queue.pbuf[tail] :: freed, emptied)
  else ([], queue)
termination_by (queue.head - queue.tail).val
decreasing_by exact nextIndex_closer queue.head queue.tail ‹queue.tail ≠ queue.head›

/-- `_netQCheck`. -/
def netQCheck (queue : BufQueue α) : Bool :=
  queue.tail ≠ queue.head

/-- An operation on a queue, and its answer. -/
def netQStep (queue : BufQueue α) : QueueOp α → BufQueue α × QueueAnswer α
  | .put pbuf => ((netQPut queue pbuf).2,
      if (netQPut queue pbuf).1 then .accepted pbuf else .refused)
  | .get => ((netQGet queue).2, .got (netQGet queue).1)
  | .empty => ((netQEmpty queue).2, .released (netQEmpty queue).1)

/-! ### What a queue holds -/

/-- The packets of a queue, oldest first. -/
def BufQueue.Holds (queue : BufQueue α) (items : List α) : Prop :=
  InRing queue.pbuf queue.tail queue.head items

theorem netQInit_holds (queue : BufQueue α) : (netQInit queue).Holds [] :=
  inRing_nil queue.pbuf 0

theorem netQCheck_iff {queue : BufQueue α} {items : List α} (holds : queue.Holds items) :
    netQCheck queue = true ↔ items ≠ [] := by
  rw [netQCheck, decide_eq_true_iff]
  exact not_congr holds.eq_nil_iff

/-- A packet is refused only by a queue that holds `PBUF_QUEUE_SIZE - 1`. -/
theorem netQPut_spec {queue : BufQueue α} {items : List α} (holds : queue.Holds items)
    (pbuf : α) :
    (items.length < pbufQueueSize - 1 →
        (netQPut queue pbuf).1 = true ∧ (netQPut queue pbuf).2.Holds (items ++ [pbuf])) ∧
      (¬ items.length < pbufQueueSize - 1 → netQPut queue pbuf = (false, queue)) := by
  have full := holds.full_iff
  rw [← nextIndex_eq] at full
  have short := holds.short
  constructor
  · intro room
    have apart : nextIndex queue.head ≠ queue.tail := by
      intro meet
      have := full.mp meet
      omega
    rw [netQPut, if_pos apart]
    refine ⟨rfl, ?_⟩
    rw [nextIndex_eq] at apart
    have put := holds.put apart pbuf
    simp only [← nextIndex_eq] at put
    exact put
  · intro noRoom
    have meet : nextIndex queue.head = queue.tail := full.mpr (by omega)
    rw [netQPut, if_neg (not_not_intro meet)]

theorem netQGet_nil {queue : BufQueue α} (holds : queue.Holds []) :
    netQGet queue = (none, queue) := by
  rw [netQGet, if_neg (not_not_intro (holds.eq_nil_iff.mpr rfl))]

theorem netQGet_cons {queue : BufQueue α} {first : α} {rest : List α}
    (holds : queue.Holds (first :: rest)) :
    (netQGet queue).1 = some first ∧ (netQGet queue).2.Holds rest := by
  obtain ⟨stored, rest⟩ := holds.get
  have apart : queue.tail ≠ queue.head := by
    intro meet
    cases holds.eq_nil_iff.mp meet
  rw [← nextIndex_eq] at stored rest
  rw [netQGet, if_pos apart]
  exact ⟨congrArg some stored, rest⟩

/-- Every packet that is still queued is freed once, in order. -/
theorem netQEmpty_spec {queue : BufQueue α} {items : List α} (holds : queue.Holds items) :
    (netQEmpty queue).1 = items ∧ (netQEmpty queue).2.Holds [] := by
  induction items generalizing queue with
  | nil =>
      rw [netQEmpty, if_neg (not_not_intro (holds.eq_nil_iff.mpr rfl))]
      exact ⟨rfl, holds⟩
  | cons first rest ih =>
      obtain ⟨stored, later⟩ := holds.get
      have apart : queue.tail ≠ queue.head := by
        intro meet
        cases holds.eq_nil_iff.mp meet
      rw [← nextIndex_eq] at stored later
      obtain ⟨freed, emptied⟩ := @ih { queue with tail := nextIndex queue.tail } later
      rw [netQEmpty, if_pos apart]
      dsimp only
      rw [freed]
      exact ⟨congrArg (· :: rest) stored, emptied⟩

/-- An operation on a ring is that on the queue it holds. -/
theorem netQStep_refines {queue : BufQueue α} {items : List α} (op : QueueOp α)
    (holds : queue.Holds items) :
    (netQStep queue op).1.Holds (Fifo.step (pbufQueueSize - 1) items op).1 ∧
      (netQStep queue op).2 = (Fifo.step (pbufQueueSize - 1) items op).2 := by
  cases op with
  | put pbuf =>
      obtain ⟨accepts, refuses⟩ := netQPut_spec holds pbuf
      rw [netQStep, Fifo.step]
      by_cases room : items.length < pbufQueueSize - 1
      · obtain ⟨accepted, after⟩ := accepts room
        rw [if_pos room, if_pos accepted]
        exact ⟨after, rfl⟩
      · rw [if_neg room, refuses room]
        exact ⟨holds, rfl⟩
  | get =>
      rw [netQStep, Fifo.step]
      cases items with
      | nil =>
          rw [netQGet_nil holds]
          exact ⟨holds, rfl⟩
      | cons first rest =>
          obtain ⟨got, after⟩ := netQGet_cons holds
          rw [got]
          exact ⟨after, rfl⟩
  | empty =>
      obtain ⟨freed, after⟩ := netQEmpty_spec holds
      rw [netQStep, Fifo.step, freed]
      exact ⟨after, rfl⟩

/-- From `_netQInit` on, a queue answers every sequence of operations as a bounded queue of
`PBUF_QUEUE_SIZE - 1` packets: what was accepted is what has left, in the same order, followed by
what is still queued. -/
theorem netQueue_refines (memory : BufQueue α) (ops : List (QueueOp α)) :
    answers netQStep (netQInit memory) ops = answers (Fifo.step (pbufQueueSize - 1)) [] ops ∧
      ∃ queued, (final netQStep (netQInit memory) ops).Holds queued ∧
        queued = final (Fifo.step (pbufQueueSize - 1)) [] ops ∧
        acceptedItems (answers netQStep (netQInit memory) ops) =
          leavingItems (answers netQStep (netQInit memory) ops) ++ queued := by
  have kept (queue : BufQueue α) (items : List α) (op : QueueOp α) (holds : queue.Holds items) :
      (netQStep queue op).1.Holds (Fifo.step (pbufQueueSize - 1) items op).1 ∧
        (netQStep queue op).2 = (Fifo.step (pbufQueueSize - 1) items op).2 :=
    netQStep_refines op holds
  obtain ⟨same, holds⟩ := answers_eq BufQueue.Holds kept (netQInit_holds memory) ops
  refine ⟨same, _, holds, rfl, ?_⟩
  rw [same, ← Fifo.conserved]
  rfl

end LwipExt.Ptp
