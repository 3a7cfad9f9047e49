import RemoteDesktop.EventMachine

/-! Queues under a lock, on which threads wait for an element: the machine of all their
runs, simulation of one queue by another, and the bounded queue that drops its oldest
element when it is full. -/
namespace RemoteDesktop

/-- What a wait returns, with the element that it hands out. -/
structure Taken (α : Type*) where
  result : Bool
  item : Option α := none
  deriving DecidableEq, Repr

/-- The operations that a queue offers under its lock. A wait that has to sleep is `none`.
It is woken with its timeout and whether its time is up. -/
structure QueueOps (σ α : Type*) where
  reset : σ → σ
  push : α → σ → σ
  stop : σ → σ
  wait : ℤ → σ → Option (σ × Taken α)
  wake : ℤ → Bool → σ → Option (σ × Taken α)

/-- A queue with the timeouts of the threads that sleep on it, and what the wait returned
that the last step ended. -/
structure QueueRun (σ α ι : Type*) where
  queue : σ
  waiting : ι → Option ℤ := fun _ => none
  returned : Option (Taken α) := none

inductive QueueEvent (α ι : Type*)
  | push (x : α)
  | wait (thread : ι) (timeout : ℤ)
  | wake (thread : ι) (timedOut : Bool)
  | stop
  | reset

namespace QueueOps

variable {σ τ α ι : Type*} [DecidableEq ι] (ops : QueueOps σ α)

/-- The thread sleeps, or it returns. -/
def settle (s : QueueRun σ α ι) (thread : ι) (timeout : ℤ) :
    Option (σ × Taken α) → QueueRun σ α ι
  | none =>
    { s with waiting := Function.update s.waiting thread (some timeout), returned := none }
  | some (queue, taken) =>
    { queue := queue
      waiting := Function.update s.waiting thread none
      returned := some taken }

/-- Any thread may push, stop or reset at any time. One that sleeps does not call, and its
time is up only if it has a timeout. -/
def step (s : QueueRun σ α ι) : QueueEvent α ι → Option (QueueRun σ α ι)
  | .push x => some { s with queue := ops.push x s.queue, returned := none }
  | .wait thread timeout =>
    match s.waiting thread with
    | none => some (settle s thread timeout (ops.wait timeout s.queue))
    | some _ => none
  | .wake thread timedOut =>
    match s.waiting thread with
    | none => none
    | some timeout =>
      if timedOut = true ∧ timeout ≤ 0 then none
      else some (settle s thread timeout (ops.wake timeout timedOut s.queue))
  | .stop => some { s with queue := ops.stop s.queue, returned := none }
  | .reset => some { s with queue := ops.reset s.queue, returned := none }

/-- The runs of a queue that nobody waits on at first. -/
def machine (ι : Type*) [DecidableEq ι] (start : σ) :
    EventMachine (QueueRun σ α ι) (QueueEvent α ι) where
  init s := s = { queue := start }
  step := ops.step

/-- The steps of `C` are steps of `A` with the same results, under the relation `R`. -/
structure Simulates (C : QueueOps σ α) (A : QueueOps τ α) (R : σ → τ → Prop) : Prop where
  reset : ∀ {s a}, R s a → R (C.reset s) (A.reset a)
  push : ∀ {s a} x, R s a → R (C.push x s) (A.push x a)
  stop : ∀ {s a}, R s a → R (C.stop s) (A.stop a)
  wait : ∀ {s a} timeout, R s a →
    Option.Rel (fun p q => R p.1 q.1 ∧ p.2 = q.2) (C.wait timeout s) (A.wait timeout a)
  wake : ∀ {s a} timeout timedOut, R s a →
    Option.Rel (fun p q => R p.1 q.1 ∧ p.2 = q.2) (C.wake timeout timedOut s)
      (A.wake timeout timedOut a)

/-- The queues are related, and the threads see the same. -/
structure SameRun (R : σ → τ → Prop) (s : QueueRun σ α ι) (a : QueueRun τ α ι) : Prop where
  queue : R s.queue a.queue
  waiting : s.waiting = a.waiting
  returned : s.returned = a.returned

variable {C : QueueOps σ α} {A : QueueOps τ α} {R : σ → τ → Prop} {s s' : QueueRun σ α ι}
  {a : QueueRun τ α ι} {e : QueueEvent α ι}

theorem SameRun.settle (h : SameRun R s a) (thread : ι) (timeout : ℤ)
    {p : Option (σ × Taken α)} {q : Option (τ × Taken α)}
    (hpq : Option.Rel (fun p q => R p.1 q.1 ∧ p.2 = q.2) p q) :
    SameRun R (QueueOps.settle s thread timeout p) (QueueOps.settle a thread timeout q) := by
  cases hpq with
  | none =>
    refine ⟨h.queue, ?_, rfl⟩
    simp only [QueueOps.settle, h.waiting]
  | some hsome =>
    refine ⟨hsome.1, ?_, ?_⟩
    · simp only [QueueOps.settle, h.waiting]
    · simp only [QueueOps.settle, hsome.2]

theorem Simulates.step (hsim : Simulates C A R) (h : SameRun R s a) (he : C.step s e = some s') :
    ∃ a', A.step a e = some a' ∧ SameRun R s' a' := by
  cases e with
  | push x =>
    rw [← Option.some.inj he]
    exact ⟨_, rfl, hsim.push x h.queue, h.waiting, rfl⟩
  | wait thread timeout =>
    simp only [QueueOps.step] at he ⊢
    rw [← h.waiting]
    cases hthread : s.waiting thread with
    | none =>
      rw [hthread] at he
      rw [← Option.some.inj he]
      exact ⟨_, rfl, h.settle thread timeout (hsim.wait timeout h.queue)⟩
    | some t =>
      rw [hthread] at he
      cases he
  | wake thread timedOut =>
    simp only [QueueOps.step] at he ⊢
    rw [← h.waiting]
    cases hthread : s.waiting thread with
    | none =>
      rw [hthread] at he
      cases he
    | some timeout =>
      rw [hthread] at he
      dsimp only at he ⊢
      split at he
      · cases he
      · rename_i hallowed
        rw [← Option.some.inj he, if_neg hallowed]
        exact ⟨_, rfl, h.settle thread timeout (hsim.wake timeout timedOut h.queue)⟩
  | stop =>
    rw [← Option.some.inj he]
    exact ⟨_, rfl, hsim.stop h.queue, h.waiting, rfl⟩
  | reset =>
    rw [← Option.some.inj he]
    exact ⟨_, rfl, hsim.reset h.queue, h.waiting, rfl⟩

/-- A run of the one queue is a run of the other, with the same results. -/
theorem Simulates.run (hsim : Simulates C A R) {start : σ} {start' : τ} {t : QueueRun σ α ι}
    (es : List (QueueEvent α ι)) (h : SameRun R s a)
    (ht : (C.machine ι start).run s es = some t) :
    ∃ b, (A.machine ι start').run a es = some b ∧ SameRun R t b := by
  induction es generalizing s a with
  | nil =>
    rw [← Option.some.inj ht]
    exact ⟨a, rfl, h⟩
  | cons e es ih =>
    obtain ⟨s', he, hrun⟩ := EventMachine.run_cons_some ht
    obtain ⟨a', ha', hsame⟩ := hsim.step h he
    obtain ⟨b, hb, hsame'⟩ := ih hsame hrun
    refine ⟨b, ?_, hsame'⟩
    have hstep : (A.machine ι start').step a e = some a' := ha'
    rw [EventMachine.run, hstep]
    exact hb

end QueueOps

/-- How an element left the queue. -/
inductive Fate
  | delivered
  | dropped
  deriving DecidableEq, Repr

/-- A queue with its history since the last reset: what it accepted, in the order of the
pushes, and what left it, in the order of leaving. -/
structure DropOldest (α : Type*) where
  queue : List α := []
  running : Bool := true
  accepted : List α := []
  removed : List (α × Fate) := []
  deriving DecidableEq, Repr

namespace DropOldest

variable {α : Type*} (capacity : ℕ) (q : DropOldest α)

/-- The oldest element leaves. -/
def remove (fate : Fate) : DropOldest α :=
  match q.queue with
  | [] => q
  | x :: rest => { q with queue := rest, removed := q.removed ++ [(x, fate)] }

def push (x : α) : DropOldest α :=
  if !q.running then q
  else
    let q := if q.queue.length = capacity then q.remove .dropped else q
    { q with queue := q.queue ++ [x], accepted := q.accepted ++ [x] }

def take : DropOldest α × Taken α :=
  if q.running && !q.queue.isEmpty then
    (q.remove .delivered, { result := true, item := q.queue.head? })
  else (q, { result := false })

/-- Only an empty queue that runs makes a thread sleep, and only one with time. -/
def test (timeout : ℤ) : Option (DropOldest α × Taken α) :=
  if q.running && q.queue.isEmpty then
    if timeout = 0 then some (q, { result := false }) else none
  else some q.take

def ops : QueueOps (DropOldest α) α where
  reset _ := {}
  push x q := q.push capacity x
  stop q := { q with running := false }
  wait timeout q := q.test timeout
  wake timeout timedOut q := if timedOut then some q.take else q.test timeout

/-- The elements of one fate, in the order of leaving. -/
def withFate (fate : Fate) : List α :=
  (q.removed.filter fun p => p.2 = fate).map Prod.fst

/-- What was accepted is what left, each element once and in the order of the pushes, and
then what is queued. What leaves an empty queue behind was delivered. -/
structure Accounts (q : DropOldest α) : Prop where
  accepted_eq : q.accepted = q.removed.map Prod.fst ++ q.queue
  newest : q.queue = [] → ∀ p ∈ q.removed.getLast?, p.2 = .delivered

variable {capacity q}

theorem Accounts.empty : Accounts ({} : DropOldest α) where
  accepted_eq := rfl
  newest := by simp

theorem remove_cons {x : α} {rest : List α} (hq : q.queue = x :: rest) (fate : Fate) :
    q.remove fate = { q with queue := rest, removed := q.removed ++ [(x, fate)] } := by
  simp only [remove, hq]

theorem remove_accepted (h : q.Accounts) (fate : Fate) :
    (q.remove fate).accepted = (q.remove fate).removed.map Prod.fst ++ (q.remove fate).queue := by
  cases hq : q.queue with
  | nil =>
    have hsame : q.remove fate = q := by simp only [remove, hq]
    rw [hsame]
    exact h.accepted_eq
  | cons x rest =>
    rw [remove_cons hq, h.accepted_eq, hq]
    simp

theorem Accounts.push (h : q.Accounts) (x : α) : (q.push capacity x).Accounts := by
  unfold DropOldest.push
  by_cases hrun : q.running = true
  · have hnot : (!q.running) = false := by simp [hrun]
    rw [hnot, if_neg Bool.false_ne_true]
    constructor
    · split
      · simp only [remove_accepted h, List.append_assoc]
      · simp only [h.accepted_eq, List.append_assoc]
    -- the element that was pushed is in the queue
    · intro hempty
      exact absurd hempty (List.append_ne_nil_of_right_ne_nil _ (List.cons_ne_nil x []))
  · rw [if_pos (by simpa using hrun)]
    exact h

theorem Accounts.deliver (h : q.Accounts) : (q.remove .delivered).Accounts where
  accepted_eq := remove_accepted h .delivered
  newest := by
    cases hq : q.queue with
    | nil =>
      have hsame : q.remove .delivered = q := by simp only [remove, hq]
      rw [hsame]
      exact h.newest
    | cons x rest =>
      intro _ p hp
      rw [remove_cons hq] at hp
      rw [List.getLast?_concat, Option.mem_some_iff] at hp
      rw [← hp]

theorem Accounts.take (h : q.Accounts) : q.take.1.Accounts := by
  unfold DropOldest.take
  split
  · exact h.deliver
  · exact h

theorem Accounts.test (h : q.Accounts) {timeout : ℤ} {p : DropOldest α × Taken α}
    (hp : q.test timeout = some p) : p.1.Accounts := by
  unfold DropOldest.test at hp
  split at hp
  · split at hp
    · rw [← Option.some.inj hp]
      exact h
    · cases hp
  · rw [← Option.some.inj hp]
    exact h.take

theorem Accounts.withFate_sublist (h : q.Accounts) (fate : Fate) :
    (q.withFate fate).Sublist q.accepted := by
  have hsub : (q.withFate fate).Sublist (q.removed.map Prod.fst) :=
    List.Sublist.map _ List.filter_sublist
  rw [h.accepted_eq]
  exact hsub.trans (List.sublist_append_left _ _)

theorem take_of_result (h : q.take.2.result = true) :
    ∃ x rest, q.queue = x :: rest ∧ q.take.2.item = some x ∧ q.take.1.queue = rest := by
  unfold DropOldest.take at h ⊢
  cases hq : q.queue with
  | nil => simp [hq] at h
  | cons x rest =>
    cases hrun : q.running with
    | false => simp [hrun] at h
    | true => exact ⟨x, rest, rfl, rfl, by simp [remove_cons hq]⟩

theorem test_of_result {timeout : ℤ} {p : DropOldest α × Taken α} (hp : q.test timeout = some p)
    (h : p.2.result = true) :
    ∃ x rest, q.queue = x :: rest ∧ p.2.item = some x ∧ p.1.queue = rest := by
  unfold DropOldest.test at hp
  split at hp
  · split at hp
    · rw [← Option.some.inj hp] at h
      cases h
    · cases hp
  · rw [← Option.some.inj hp] at h ⊢
    exact take_of_result h

variable {ι : Type*} [DecidableEq ι]

theorem Accounts.settle {s : QueueRun (DropOldest α) α ι} (h : s.queue.Accounts) (thread : ι)
    (timeout : ℤ) {p : Option (DropOldest α × Taken α)} (hp : ∀ r ∈ p, r.1.Accounts) :
    (QueueOps.settle s thread timeout p).queue.Accounts := by
  cases p with
  | none => exact h
  | some r => exact hp r rfl

theorem Accounts.step {s s' : QueueRun (DropOldest α) α ι} {e : QueueEvent α ι}
    (h : s.queue.Accounts) (he : (ops capacity).step s e = some s') : s'.queue.Accounts := by
  cases e with
  | push x =>
    rw [← Option.some.inj he]
    exact h.push x
  | wait thread timeout =>
    simp only [QueueOps.step] at he
    split at he
    · rw [← Option.some.inj he]
      exact h.settle thread timeout fun r hr => h.test hr
    · cases he
  | wake thread timedOut =>
    simp only [QueueOps.step] at he
    split at he
    · cases he
    · rename_i timeout _
      split at he
      · cases he
      · rw [← Option.some.inj he]
        apply h.settle
        intro r hr
        simp only [ops] at hr
        split at hr
        · rw [← Option.some.inj hr]
          exact h.take
        · exact h.test hr
  | stop =>
    rw [← Option.some.inj he]
    exact ⟨h.accepted_eq, h.newest⟩
  | reset =>
    rw [← Option.some.inj he]
    exact .empty

theorem settle_of_result {s : QueueRun (DropOldest α) α ι} {thread : ι} {timeout : ℤ}
    {p : Option (DropOldest α × Taken α)} {taken : Taken α}
    (hp : ∀ r ∈ p, r.2.result = true →
      ∃ x rest, s.queue.queue = x :: rest ∧ r.2.item = some x ∧ r.1.queue = rest)
    (hreturned : (QueueOps.settle s thread timeout p).returned = some taken)
    (hresult : taken.result = true) :
    ∃ x rest, s.queue.queue = x :: rest ∧ taken.item = some x ∧
      (QueueOps.settle s thread timeout p).queue.queue = rest := by
  cases p with
  | none => cases hreturned
  | some r =>
    have htaken : r.2 = taken := Option.some.inj hreturned
    rw [← htaken] at hresult ⊢
    exact hp r rfl hresult

/-- A wait that succeeds hands out the oldest element and takes it from the queue. -/
theorem step_of_result {s s' : QueueRun (DropOldest α) α ι} {e : QueueEvent α ι} {taken : Taken α}
    (he : (ops capacity).step s e = some s') (hreturned : s'.returned = some taken)
    (hresult : taken.result = true) :
    ∃ x rest, s.queue.queue = x :: rest ∧ taken.item = some x ∧ s'.queue.queue = rest := by
  cases e with
  | push x =>
    rw [← Option.some.inj he] at hreturned
    cases hreturned
  | wait thread timeout =>
    simp only [QueueOps.step] at he
    split at he
    · rw [← Option.some.inj he] at hreturned ⊢
      exact settle_of_result (fun r hr => test_of_result hr) hreturned hresult
    · cases he
  | wake thread timedOut =>
    simp only [QueueOps.step] at he
    split at he
    · cases he
    · split at he
      · cases he
      · rw [← Option.some.inj he] at hreturned ⊢
        apply settle_of_result _ hreturned hresult
        intro r hr
        simp only [ops] at hr
        split at hr
        · rw [← Option.some.inj hr]
          exact take_of_result
        · exact test_of_result hr
  | stop =>
    rw [← Option.some.inj he] at hreturned
    cases hreturned
  | reset =>
    rw [← Option.some.inj he] at hreturned
    cases hreturned

/-- Every run accounts for what was accepted since the last reset. -/
theorem accounts_of_run {s t : QueueRun (DropOldest α) α ι} (h : s.queue.Accounts)
    (es : List (QueueEvent α ι)) (ht : ((ops capacity).machine ι {}).run s es = some t) :
    t.queue.Accounts :=
  EventMachine.StepsMeet.preserves (C := fun _ _ => True)
    (K := fun s : QueueRun (DropOldest α) α ι => s.queue.Accounts)
    (fun _ _ _ hs _ he => Accounts.step hs he) h es (EventMachine.stepsMeet_true s es) ht

end DropOldest
end RemoteDesktop
