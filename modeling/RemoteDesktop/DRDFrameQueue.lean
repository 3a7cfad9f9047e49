import RemoteDesktop.LockedQueue
import RemoteDesktop.RingBuffer

/-! `drd_frame_queue.c`: the ring of frames between the capture thread and the render
thread. Every function is one critical section under `mutex`, a wait one for each time
that it holds the lock. -/
namespace RemoteDesktop.DRD

/-- `DRD_FRAME_QUEUE_MAX_FRAMES`. -/
def frameQueueMaxFrames : ℕ := 3

/-- The initial values are those of `drd_frame_queue_init`. -/
structure FrameQueue (α : Type*) where
  frames : ℕ → Option α := fun _ => none
  head : ℕ := 0
  tail : ℕ := 0
  size : ℕ := 0
  running : Bool := true
  droppedFrames : UInt64 := 0

namespace FrameQueue

variable {α : Type*} (q : FrameQueue α)

/-- Every field is written. -/
def reset (_ : FrameQueue α) : FrameQueue α :=
  { running := true
    frames := fun _ => none
    head := 0
    tail := 0
    size := 0
    droppedFrames := 0 }

/-- The branch of a full queue. -/
def dropOldest : FrameQueue α :=
  { q with
    frames := Function.update q.frames q.head none
    head := (q.head + 1) % frameQueueMaxFrames
    size := q.size - 1
    droppedFrames := q.droppedFrames + 1 }

def push (frame : α) : FrameQueue α :=
  if !q.running then q
  else
    let q := if q.size = frameQueueMaxFrames then q.dropOldest else q
    { q with
      frames := Function.update q.frames q.tail (some frame)
      tail := (q.tail + 1) % frameQueueMaxFrames
      size := q.size + 1 }

/-- What `drd_frame_queue_wait` does after its loop. A slot that is NULL is handed out. -/
def takeFrame : FrameQueue α × Taken α :=
  if q.running && decide (0 < q.size) then
    ({ q with
        frames := Function.update q.frames q.head none
        head := (q.head + 1) % frameQueueMaxFrames
        size := q.size - 1 },
      { result := true, item := q.frames q.head })
  else (q, { result := false })

/-- The loop of `drd_frame_queue_wait` up to its sleep, which is `none`. -/
def waitLoop (timeoutUs : ℤ) : Option (FrameQueue α × Taken α) :=
  if q.running && decide (q.size = 0) then
    if timeoutUs = 0 then some (q, { result := false }) else none
  else some q.takeFrame

/-- `drd_frame_queue_wait`. -/
def wait (timeoutUs : ℤ) : Option (FrameQueue α × Taken α) :=
  if !q.running then some (q, { result := false }) else q.waitLoop timeoutUs

/-- The rest of a wait that has slept. A sleep that times out leaves the loop. -/
def wake (timeoutUs : ℤ) (timedOut : Bool) : Option (FrameQueue α × Taken α) :=
  if timedOut then some q.takeFrame else q.waitLoop timeoutUs

def stop : FrameQueue α := { q with running := false }

def ops : QueueOps (FrameQueue α) α where
  reset := reset
  push frame q := q.push frame
  stop := stop
  wait timeoutUs q := q.wait timeoutUs
  wake timeoutUs timedOut q := q.wake timeoutUs timedOut

/-- The slots in use, read from the head. -/
def window : List (Option α) :=
  (List.range q.size).map fun i => q.frames ((q.head + i) % frameQueueMaxFrames)

/-- The indices of the ring are in step with its size, and exactly the slots of the window
are in use. -/
structure RingShape (q : FrameQueue α) : Prop where
  size_le : q.size ≤ frameQueueMaxFrames
  head_lt : q.head < frameQueueMaxFrames
  tail_eq : q.tail = (q.head + q.size) % frameQueueMaxFrames
  slot : ∀ j < frameQueueMaxFrames, (q.frames j).isSome ↔
    ∃ i < q.size, (q.head + i) % frameQueueMaxFrames = j

/-- The ring holds the elements of the abstract queue, and counts what it dropped. -/
structure Refines (q : FrameQueue α) (a : DropOldest α) : Prop where
  ring : Holds frameQueueMaxFrames q.frames q.head q.tail q.size a.queue
  running : q.running = a.running
  droppedFrames : q.droppedFrames = UInt64.ofNat (a.withFate .dropped).length

variable {q} {a : DropOldest α}

theorem Refines.shape (h : q.Refines a) : q.RingShape where
  size_le := h.ring.size_le
  head_lt := h.ring.head_lt
  tail_eq := h.ring.tail_eq
  slot := fun _ hj => h.ring.slot_isSome_iff hj

theorem Refines.window_eq (h : q.Refines a) : q.window = a.queue.map some :=
  h.ring.window_eq

theorem Refines.empty : Refines ({} : FrameQueue α) {} where
  ring := .empty (by decide)
  running := rfl
  droppedFrames := rfl

theorem withFate_append (a : DropOldest α) (queue : List α) (x : α) (fate fate' : Fate) :
    ({ a with queue := queue, removed := a.removed ++ [(x, fate')] } : DropOldest α).withFate
        fate = if fate' = fate then a.withFate fate ++ [x] else a.withFate fate := by
  unfold DropOldest.withFate
  by_cases hfate : fate' = fate <;> simp [hfate]

/-- The head leaves the ring, whatever becomes of it. -/
theorem Refines.remove (h : q.Refines a) {x : α} {rest : List α} (ha : a.queue = x :: rest)
    (fate : Fate) :
    Refines
      { q with
        frames := Function.update q.frames q.head none
        head := (q.head + 1) % frameQueueMaxFrames
        size := q.size - 1
        droppedFrames := if fate = .dropped then q.droppedFrames + 1 else q.droppedFrames }
      (a.remove fate) where
  ring := by
    have hring := h.ring
    rw [ha] at hring
    rw [DropOldest.remove_cons ha]
    exact hring.take
  running := by
    rw [DropOldest.remove_cons ha]
    exact h.running
  droppedFrames := by
    rw [DropOldest.remove_cons ha, withFate_append]
    by_cases hfate : fate = .dropped
    · simp [hfate, h.droppedFrames]
    · simp [hfate, h.droppedFrames]

theorem Refines.size_eq (h : q.Refines a) : q.size = a.queue.length :=
  h.ring.size_eq

theorem Refines.dropOldest (h : q.Refines a) (hfull : q.size = frameQueueMaxFrames) :
    q.dropOldest.Refines (a.remove .dropped) := by
  have hlength : a.queue.length = 3 := h.size_eq.symm.trans hfull
  obtain ⟨x, rest, ha⟩ : ∃ x rest, a.queue = x :: rest := by
    cases hq : a.queue with
    | nil =>
      rw [hq] at hlength
      cases hlength
    | cons x rest => exact ⟨x, rest, rfl⟩
  exact h.remove ha .dropped

/-- A frame at the tail of a ring with room. -/
theorem Refines.putFrame (h : q.Refines a) (hroom : q.size < frameQueueMaxFrames) (frame : α) :
    Refines
      { q with
        frames := Function.update q.frames q.tail (some frame)
        tail := (q.tail + 1) % frameQueueMaxFrames
        size := q.size + 1 }
      { a with queue := a.queue ++ [frame], accepted := a.accepted ++ [frame] } where
  ring := h.ring.put hroom frame
  running := h.running
  droppedFrames := h.droppedFrames

theorem Refines.push (h : q.Refines a) (frame : α) :
    (q.push frame).Refines (a.push frameQueueMaxFrames frame) := by
  unfold FrameQueue.push DropOldest.push
  rw [← h.running, ← h.size_eq]
  by_cases hrun : q.running = true
  · have hnot : (!q.running) = false := by simp [hrun]
    rw [hnot, if_neg Bool.false_ne_true, if_neg Bool.false_ne_true]
    by_cases hfull : q.size = frameQueueMaxFrames
    -- the oldest frame makes room
    · have hdropped := h.dropOldest hfull
      have hroom : q.dropOldest.size < frameQueueMaxFrames := by
        have hsize : q.dropOldest.size = q.size - 1 := rfl
        rw [hsize, hfull]
        decide
      rw [if_pos hfull, if_pos hfull]
      exact hdropped.putFrame hroom frame
    · have hroom : q.size < frameQueueMaxFrames := lt_of_le_of_ne h.ring.size_le hfull
      rw [if_neg hfull, if_neg hfull]
      exact h.putFrame hroom frame
  · have hnot : (!q.running) = true := by simpa using hrun
    rw [if_pos hnot, if_pos hnot]
    exact h

theorem Refines.isEmpty (h : q.Refines a) : a.queue.isEmpty = decide (q.size = 0) := by
  have hsize := h.size_eq
  cases hq : a.queue with
  | nil => simp [hsize, hq]
  | cons x rest => simp [hsize, hq]

theorem Refines.takeFrame (h : q.Refines a) :
    q.takeFrame.1.Refines a.take.1 ∧ q.takeFrame.2 = a.take.2 := by
  unfold FrameQueue.takeFrame DropOldest.take
  rw [← h.running]
  have hsize := h.size_eq
  cases hq : a.queue with
  | nil =>
    have hzero : q.size = 0 := by rw [hsize, hq, List.length_nil]
    simp only [hzero, lt_irrefl, decide_false, Bool.and_false, List.isEmpty_nil, Bool.not_true]
    exact ⟨h, rfl⟩
  | cons x rest =>
    have hpos : 0 < q.size := by
      rw [hsize, hq, List.length_cons]
      omega
    have hring := h.ring
    rw [hq] at hring
    simp only [hpos, decide_true, Bool.and_true, List.isEmpty_cons, Bool.not_false,
      hring.slot_head, List.head?_cons]
    split
    · exact ⟨h.remove hq .delivered, rfl⟩
    · exact ⟨h, rfl⟩

theorem Refines.waitLoop (h : q.Refines a) (timeoutUs : ℤ) :
    Option.Rel (fun p r => p.1.Refines r.1 ∧ p.2 = r.2) (q.waitLoop timeoutUs)
      (a.test timeoutUs) := by
  unfold FrameQueue.waitLoop DropOldest.test
  rw [← h.running, h.isEmpty]
  split
  · split
    · exact .some ⟨h, rfl⟩
    · exact .none
  · exact .some h.takeFrame

theorem Refines.wait (h : q.Refines a) (timeoutUs : ℤ) :
    Option.Rel (fun p r => p.1.Refines r.1 ∧ p.2 = r.2) (q.wait timeoutUs)
      (a.test timeoutUs) := by
  unfold FrameQueue.wait
  by_cases hrun : q.running = true
  · have hnot : (!q.running) = false := by simp [hrun]
    rw [hnot, if_neg Bool.false_ne_true]
    exact h.waitLoop timeoutUs
  -- a queue that is stopped answers FALSE, as its loop would
  · have hstopped : a.running = false := by
      rw [← h.running]
      simpa using hrun
    have hnot : (!q.running) = true := by simpa using hrun
    rw [if_pos hnot, DropOldest.test, DropOldest.take, hstopped]
    exact .some ⟨h, rfl⟩

/-- The ring is the queue of three frames that drops the oldest one. -/
theorem simulates_dropOldest :
    QueueOps.Simulates (ops : QueueOps (FrameQueue α) α) (DropOldest.ops frameQueueMaxFrames)
      Refines where
  reset := fun _ => .empty
  push := fun frame h => h.push frame
  stop := fun h => ⟨h.ring, rfl, h.droppedFrames⟩
  wait := fun timeoutUs h => h.wait timeoutUs
  wake := by
    intro q a timeoutUs timedOut h
    cases timedOut with
    | false => exact h.waitLoop timeoutUs
    | true => exact .some h.takeFrame

end FrameQueue

/-- The runs of a new queue: any number of producers and consumers. -/
def frameQueueMachine (α ι : Type*) [DecidableEq ι] :
    EventMachine (QueueRun (FrameQueue α) α ι) (QueueEvent α ι) :=
  FrameQueue.ops.machine ι {}

/-- The queue of three elements that drops the oldest one, with its history. -/
def dropOldestMachine (α ι : Type*) [DecidableEq ι] :
    EventMachine (QueueRun (DropOldest α) α ι) (QueueEvent α ι) :=
  (DropOldest.ops frameQueueMaxFrames).machine ι {}

/-- Every run of the ring is a run of the queue that drops its oldest frame, with the same
results for all threads. The indices stay in step, and the window holds the queue. What was
accepted since the last reset was delivered in the order of the pushes, is queued, or is
counted as dropped, and that is never the newest frame. A wait that returns TRUE delivers
the oldest frame. -/
theorem frame_queue_refines_drop_oldest {α ι : Type*} [DecidableEq ι]
    (es : List (QueueEvent α ι)) {s : QueueRun (FrameQueue α) α ι}
    (hrun : (frameQueueMachine α ι).run { queue := {} } es = some s) :
    ∃ a, (dropOldestMachine α ι).run { queue := {} } es = some a ∧
      s.waiting = a.waiting ∧ s.returned = a.returned ∧
      s.queue.RingShape ∧ s.queue.window = a.queue.queue.map some ∧
      a.queue.Accounts ∧ (a.queue.withFate .delivered).Sublist a.queue.accepted ∧
      s.queue.droppedFrames = UInt64.ofNat (a.queue.withFate .dropped).length ∧
      ∀ e s', (frameQueueMachine α ι).step s e = some s' → ∀ taken,
        s'.returned = some taken → taken.result = true →
          ∃ x rest, a.queue.queue = x :: rest ∧ taken.item = some x ∧
            s'.queue.window = rest.map some := by
  have hstart : QueueOps.SameRun FrameQueue.Refines
      ({ queue := {} } : QueueRun (FrameQueue α) α ι) { queue := {} } :=
    ⟨.empty, rfl, rfl⟩
  obtain ⟨a, ha, hsame⟩ : ∃ a, (dropOldestMachine α ι).run { queue := {} } es = some a ∧
      QueueOps.SameRun FrameQueue.Refines s a :=
    FrameQueue.simulates_dropOldest.run es hstart hrun
  have haccounts : a.queue.Accounts := DropOldest.accounts_of_run .empty es ha
  refine ⟨a, ha, hsame.waiting, hsame.returned, hsame.queue.shape, hsame.queue.window_eq,
    haccounts, haccounts.withFate_sublist .delivered, hsame.queue.droppedFrames, ?_⟩
  intro e s' he taken hreturned hresult
  -- the same step of the abstract queue hands out its head
  obtain ⟨a', ha', hsame'⟩ := FrameQueue.simulates_dropOldest.step hsame he
  rw [hsame'.returned] at hreturned
  obtain ⟨x, rest, hqueue, hitem, hrest⟩ := DropOldest.step_of_result ha' hreturned hresult
  exact ⟨x, rest, hqueue, hitem, by rw [hsame'.queue.window_eq, hrest]⟩

/-- Four pushes, of which the first is dropped, and a wait of the second thread. -/
def overflowThenWait : List (QueueEvent ℕ ℕ) :=
  [.push 10, .push 11, .push 12, .push 13, .wait 1 (-1)]

theorem overflowThenWait_runs :
    ((frameQueueMachine ℕ ℕ).run { queue := {} } overflowThenWait).isSome := by
  decide

theorem frame_queue_refines_overflow :
    ∃ a, (dropOldestMachine ℕ ℕ).run { queue := {} } overflowThenWait = some a ∧
      a.queue.removed = [(10, .dropped), (11, .delivered)] ∧ a.queue.queue = [12, 13] := by
  obtain ⟨a, ha, -⟩ := frame_queue_refines_drop_oldest overflowThenWait
    (Option.some_get overflowThenWait_runs).symm
  refine ⟨a, ha, ?_⟩
  have hqueue : ((dropOldestMachine ℕ ℕ).run { queue := {} } overflowThenWait).map
      (fun a => (a.queue.removed, a.queue.queue)) =
        some ([(10, .dropped), (11, .delivered)], [12, 13]) := by decide
  rw [ha, Option.map_some, Option.some.injEq, Prod.mk.injEq] at hqueue
  exact hqueue

end RemoteDesktop.DRD
