import Mathlib.Tactic

/-! Objects under a lock with a condition variable, on which threads wait until the object
lets them through or their time is up. Time is a logical clock, and code takes none of it. -/
namespace RemoteDesktop

/-- A wait that sleeps. It ends at `sleepsUntil` unless the thread is woken before. -/
structure Wait where
  calledAt : ℕ
  timeout : ℤ
  sleepsUntil : Option ℕ
  woken : Bool
  deriving DecidableEq, Repr

/-- A call that has returned. One that never waits has no timeout. -/
structure Answer (ι : Type) where
  thread : ι
  calledAt : ℕ
  timeout : Option ℤ
  verdict : Bool
  answeredAt : ℕ
  deriving DecidableEq, Repr

/-- A wait returns true at once where the object `passes`. Else it sleeps while the object says
`mustWait`, each time until the `sleepEnd` of its call, its timeout and the present time, and
returns the `verdict`. -/
structure Monitor (σ : Type) where
  passes : σ → Bool
  mustWait : σ → Bool
  verdict : σ → Bool
  sleepEnd : ℕ → ℤ → ℕ → Option ℕ

/-- An object with the waits of the threads on it and all answers, the last one first. -/
structure Room (σ ι : Type) where
  object : σ
  waiting : ι → Option Wait := fun _ => none
  answers : List (Answer ι) := []

def Wait.timedOut (w : Wait) (now : ℕ) : Bool :=
  match w.sleepsUntil with
  | none => false
  | some e => e ≤ now

namespace Room

variable {σ ι : Type} [DecidableEq ι] (M : Monitor σ) (now : ℕ) (r : Room σ ι)

def answer (i : ι) (calledAt : ℕ) (timeout : Option ℤ) (verdict : Bool) : Room σ ι :=
  { r with
    waiting := Function.update r.waiting i none
    answers := ⟨i, calledAt, timeout, verdict, now⟩ :: r.answers }

def sleep (i : ι) (calledAt : ℕ) (timeout : ℤ) (sleepsUntil : Option ℕ) : Room σ ι :=
  { r with waiting := Function.update r.waiting i (some ⟨calledAt, timeout, sleepsUntil, false⟩) }

/-- The test of the loop. A sleep that would end at once leaves the loop. -/
def test (i : ι) (calledAt : ℕ) (timeout : ℤ) : Room σ ι :=
  if M.mustWait r.object then
    match M.sleepEnd calledAt timeout now with
    | none => r.sleep i calledAt timeout none
    | some e =>
      if e ≤ now then r.answer now i calledAt (some timeout) (M.verdict r.object)
      else r.sleep i calledAt timeout (some e)
  else r.answer now i calledAt (some timeout) (M.verdict r.object)

def call (i : ι) (timeout : ℤ) : Room σ ι :=
  if M.passes r.object then r.answer now i now (some timeout) true
  else r.test M now i now timeout

/-- A thread that runs: a woken one tests again, one whose sleep is over leaves the loop. -/
def resume (i : ι) : Room σ ι :=
  match r.waiting i with
  | none => r
  | some w =>
    if w.woken then r.test M now i w.calledAt w.timeout
    -- nobody woke it, and there is no further test
    else if w.timedOut now then
      r.answer now i w.calledAt (some w.timeout) (M.verdict r.object)
    else r

/-- A wake-up of one thread, as the system may give it without a cause. -/
def wake (i : ι) : Room σ ι :=
  { r with
    waiting := Function.update r.waiting i ((r.waiting i).map fun w => { w with woken := true }) }

/-- A change of the object, and a broadcast after it. -/
def act (object : σ) (broadcast : Bool) : Room σ ι :=
  { r with
    object := object
    waiting := if broadcast then fun i => (r.waiting i).map fun w => { w with woken := true }
      else r.waiting }

/-- No thread can run. -/
def Quiet : Prop :=
  ∀ i, ∀ w ∈ r.waiting i, w.woken = false ∧ w.timedOut now = false

instance [Fintype ι] : Decidable (r.Quiet now) :=
  inferInstanceAs (Decidable (∀ i, ∀ w ∈ r.waiting i, _))

/-- No wait with a positive timeout lasts, or has lasted, beyond it. -/
structure Timely : Prop where
  waiting : ∀ i, ∀ w ∈ r.waiting i, 0 < w.timeout → (now : ℤ) ≤ w.calledAt + w.timeout
  answers : ∀ a ∈ r.answers, ∀ t ∈ a.timeout, 0 < t → (a.answeredAt : ℤ) ≤ a.calledAt + t

/-- Thread `i`'s time is up, and the object still makes it wait. -/
def Overdue (i : ι) : Prop :=
  ∃ w ∈ r.waiting i, 0 < w.timeout ∧ (w.calledAt : ℤ) + w.timeout ≤ now ∧ M.mustWait r.object

instance (i : ι) : Decidable (r.Overdue M now i) :=
  inferInstanceAs (Decidable (∃ w ∈ r.waiting i, _))

end Room

namespace Monitor

variable {σ τ : Type}

/-- Sleeps end by the timeout's measure from the call: never, at once, or when it is over. -/
structure Punctual (M : Monitor σ) : Prop where
  forever : ∀ c t n, t < 0 → M.sleepEnd c t n = none
  atOnce : ∀ c n, ∃ e ≤ n, M.sleepEnd c 0 n = some e
  inTime : ∀ c t n, 0 < t → M.sleepEnd c t n = some (c + t.toNat)

/-- Sleeps with a positive timeout end only after it is over. -/
structure Late (N : Monitor τ) : Prop where
  forever : ∀ c t n, t < 0 → N.sleepEnd c t n = none
  atOnce : ∀ c n, ∃ e ≤ n, N.sleepEnd c 0 n = some e
  late : ∀ c t n, 0 < t → c ≤ n → ∃ e, N.sleepEnd c t n = some e ∧ c + t.toNat < e

/-- Corresponding objects make threads wait and answer them alike. -/
structure Alike (M : Monitor σ) (N : Monitor τ) (R : σ → τ → Prop) : Prop where
  passes : ∀ a b, R a b → N.passes b = M.passes a
  mustWait : ∀ a b, R a b → N.mustWait b = M.mustWait a
  verdict : ∀ a b, R a b → N.verdict b = M.verdict a

end Monitor

/-- Two sleeps of one call, the first of which ends on time and the second too late. -/
structure SameWait (now : ℕ) (w v : Wait) : Prop where
  calledAt : v.calledAt = w.calledAt
  timeout : v.timeout = w.timeout
  woken : v.woken = w.woken
  called : w.calledAt ≤ now
  timed : w.timeout ≠ 0
  forever : w.timeout < 0 → w.sleepsUntil = none ∧ v.sleepsUntil = none
  sleeps : 0 < w.timeout → w.sleepsUntil = some (w.calledAt + w.timeout.toNat) ∧
    ∃ e, v.sleepsUntil = some e ∧ w.calledAt + w.timeout.toNat < e
  inTime : 0 < w.timeout → (now : ℤ) ≤ w.calledAt + w.timeout

theorem SameWait.wake {now : ℕ} {w v : Wait} (h : SameWait now w v) :
    SameWait now { w with woken := true } { v with woken := true } where
  calledAt := h.calledAt
  timeout := h.timeout
  woken := rfl
  called := h.called
  timed := h.timed
  forever := h.forever
  sleeps := h.sleeps
  inTime := h.inTime

/-- Two rooms with corresponding objects, the same calls in progress and the same answers. -/
structure InStep {σ τ ι : Type} (M : Monitor σ) (R : σ → τ → Prop) (now : ℕ) (r : Room σ ι)
    (q : Room τ ι) : Prop where
  object : R r.object q.object
  waiting : ∀ i, Option.Rel (SameWait now) (r.waiting i) (q.waiting i)
  asleep : ∀ i, ∀ w ∈ r.waiting i, w.woken = false → M.mustWait r.object
  answers : q.answers = r.answers
  inTime : ∀ a ∈ r.answers, ∀ t ∈ a.timeout, 0 < t → (a.answeredAt : ℤ) ≤ a.calledAt + t

namespace InStep

variable {σ τ ι : Type} {M : Monitor σ} {R : σ → τ → Prop} {now : ℕ} {r : Room σ ι}
  {q : Room τ ι}

/-- A thread waits in both rooms or in neither. -/
theorem wait_cases (h : InStep M R now r q) (i : ι) :
    (r.waiting i = none ∧ q.waiting i = none) ∨
      ∃ w v, r.waiting i = some w ∧ q.waiting i = some v ∧ SameWait now w v := by
  have hrel := h.waiting i
  generalize r.waiting i = a at hrel
  generalize q.waiting i = b at hrel
  cases hrel with
  | none => exact .inl ⟨rfl, rfl⟩
  | some hsame => exact .inr ⟨_, _, rfl, rfl, hsame⟩

theorem timely (h : InStep M R now r q) : r.Timely now ∧ q.Timely now := by
  constructor
  · refine ⟨?_, h.inTime⟩
    intro i w hw
    rcases h.wait_cases i with ⟨hnone, -⟩ | ⟨w', v, hw', -, hsame⟩
    · exact absurd (hnone.symm.trans hw) (by simp)
    · obtain rfl : w' = w := Option.some.inj (hw'.symm.trans hw)
      exact hsame.inTime
  · refine ⟨?_, by rw [h.answers]; exact h.inTime⟩
    intro i v hv
    rcases h.wait_cases i with ⟨-, hnone⟩ | ⟨w, v', -, hv', hsame⟩
    · exact absurd (hnone.symm.trans hv) (by simp)
    · obtain rfl : v' = v := Option.some.inj (hv'.symm.trans hv)
      rw [hsame.calledAt, hsame.timeout]
      exact hsame.inTime

theorem wakes (h : InStep M R now r q) (i : ι) :
    Option.Rel (SameWait now) ((r.waiting i).map fun w => { w with woken := true })
      ((q.waiting i).map fun w => { w with woken := true }) := by
  rcases h.wait_cases i with ⟨hw, hv⟩ | ⟨w, v, hw, hv, hsame⟩
  · rw [hw, hv]
    exact .none
  · rw [hw, hv]
    exact .some hsame.wake

/-- A change that may let a thread through has to broadcast. -/
theorem act (h : InStep M R now r q) {a : σ} {b : τ} (broadcast : Bool) (hobject : R a b)
    (hwait : broadcast = false → M.mustWait r.object → M.mustWait a) :
    InStep M R now (r.act a broadcast) (q.act b broadcast) where
  object := hobject
  waiting := by
    intro i
    cases broadcast with
    | false => exact h.waiting i
    | true => exact h.wakes i
  asleep := by
    intro i w hw hwoken
    cases broadcast with
    | false => exact hwait rfl (h.asleep i w hw hwoken)
    | true =>
      simp only [Room.act, if_true, Option.mem_def, Option.map_eq_some_iff] at hw
      obtain ⟨w', -, rfl⟩ := hw
      cases hwoken
  answers := h.answers
  inTime := h.inTime

/-- Time passes while no thread can run. -/
theorem tick (h : InStep M R now r q) (hquiet : r.Quiet now) : InStep M R (now + 1) r q where
  object := h.object
  waiting := by
    intro i
    rcases h.wait_cases i with ⟨hw, hv⟩ | ⟨w, v, hw, hv, hsame⟩
    · rw [hw, hv]
      exact .none
    · rw [hw, hv]
      refine .some { hsame with called := Nat.le_succ_of_le hsame.called, inTime := ?_ }
      intro hpos
      -- a quiet thread sleeps on, so its time is not up yet
      have hsleeping := (hquiet i w hw).2
      rw [Wait.timedOut, (hsame.sleeps hpos).1] at hsleeping
      have hbefore : ¬ w.calledAt + w.timeout.toNat ≤ now := by simpa using hsleeping
      omega
  asleep := h.asleep
  answers := h.answers
  inTime := h.inTime

variable [DecidableEq ι] {N : Monitor τ}

/-- Both rooms change the wait of one thread alike. -/
theorem update (h : InStep M R now r q) (i : ι) {a b : Option Wait}
    (hsame : Option.Rel (SameWait now) a b)
    (hasleep : ∀ w ∈ a, w.woken = false → M.mustWait r.object) :
    InStep M R now { r with waiting := Function.update r.waiting i a }
      { q with waiting := Function.update q.waiting i b } where
  object := h.object
  waiting := by
    intro j
    -- the thread itself, and the others, whose waits stay
    by_cases hj : j = i
    · subst hj
      simp only [Function.update_self]
      exact hsame
    · simp only [Function.update_of_ne hj]
      exact h.waiting j
  asleep := by
    intro j w hw hwoken
    by_cases hj : j = i
    · subst hj
      simp only [Function.update_self] at hw
      exact hasleep w hw hwoken
    · simp only [Function.update_of_ne hj] at hw
      exact h.asleep j w hw hwoken
  answers := h.answers
  inTime := h.inTime

theorem answer (h : InStep M R now r q) (i : ι) (calledAt : ℕ) (timeout : Option ℤ) (verdict : Bool)
    (htime : ∀ t ∈ timeout, 0 < t → (now : ℤ) ≤ calledAt + t) :
    InStep M R now (r.answer now i calledAt timeout verdict)
      (q.answer now i calledAt timeout verdict) := by
  have hwaits := h.update i (a := none) (b := none) .none (by intro w hw; cases hw)
  exact {
    hwaits with
    answers := by simp only [Room.answer, h.answers]
    inTime := by
      intro a ha
      rcases List.mem_cons.mp ha with rfl | ha
      · exact htime
      · exact h.inTime a ha }

/-- Both rooms send a thread to sleep, the second one for longer if there is a timeout. -/
theorem sleep (h : InStep M R now r q) (i : ι) {calledAt : ℕ} {timeout : ℤ} {d e : Option ℕ}
    (hcalled : calledAt ≤ now) (htime : 0 < timeout → (now : ℤ) ≤ calledAt + timeout)
    (htimed : timeout ≠ 0) (hforever : timeout < 0 → d = none ∧ e = none)
    (hsleeps : 0 < timeout → d = some (calledAt + timeout.toNat) ∧
      ∃ e', e = some e' ∧ calledAt + timeout.toNat < e')
    (hwait : M.mustWait r.object) :
    InStep M R now (r.sleep i calledAt timeout d) (q.sleep i calledAt timeout e) := by
  apply h.update i
  · exact .some {
      calledAt := rfl
      timeout := rfl
      woken := rfl
      called := hcalled
      timed := htimed
      forever := hforever
      sleeps := hsleeps
      inTime := htime }
  · intro _ _ _
    exact hwait

theorem wake (h : InStep M R now r q) (i : ι) : InStep M R now (r.wake i) (q.wake i) := by
  apply h.update i (h.wakes i)
  intro w hw hwoken
  -- a woken thread is not asleep
  obtain ⟨w', -, rfl⟩ := Option.map_eq_some_iff.mp hw
  cases hwoken

variable (hR : Monitor.Alike M N R) (hM : M.Punctual) (hN : N.Late)

include hR hM hN

/-- A test gives both rooms the same answer or a sleep, but for a wait whose time is up. -/
theorem test (h : InStep M R now r q) (i : ι) (calledAt : ℕ) (timeout : ℤ) (hcalled : calledAt ≤ now)
    (htime : 0 < timeout → (now : ℤ) ≤ calledAt + timeout)
    (hdue : 0 < timeout → M.mustWait r.object → (now : ℤ) < calledAt + timeout) :
    InStep M R now (r.test M now i calledAt timeout) (q.test N now i calledAt timeout) := by
  have htime' : ∀ t ∈ some timeout, 0 < t → (now : ℤ) ≤ calledAt + t := by
    intro t ht
    cases ht
    exact htime
  have hanswer := h.answer i calledAt (some timeout) (M.verdict r.object) htime'
  rw [Room.test, Room.test, hR.mustWait _ _ h.object, hR.verdict _ _ h.object]
  by_cases hwait : M.mustWait r.object
  · rw [if_pos hwait, if_pos hwait]
    rcases lt_trichotomy timeout 0 with hneg | rfl | hpos
    · -- both sleep without an end
      rw [hM.forever _ _ _ hneg, hN.forever _ _ _ hneg]
      exact h.sleep i hcalled htime hneg.ne (fun _ => ⟨rfl, rfl⟩)
        (fun hpos => absurd hpos hneg.not_gt) hwait
    · -- neither sleeps
      obtain ⟨d, hd, hsleep⟩ := hM.atOnce calledAt now
      obtain ⟨e, he, hsleep'⟩ := hN.atOnce calledAt now
      rw [hsleep, hsleep']
      dsimp only
      rw [if_pos hd, if_pos he]
      exact hanswer
    · -- both sleep, the second too long
      obtain ⟨e, hsleep, he⟩ := hN.late calledAt timeout now hpos hcalled
      have hnow := hdue hpos hwait
      rw [hM.inTime _ _ _ hpos, hsleep]
      dsimp only
      rw [if_neg (by omega), if_neg (by omega)]
      exact h.sleep i hcalled htime hpos.ne' (fun hneg => absurd hneg hpos.not_gt)
        (fun _ => ⟨rfl, e, rfl, he⟩) hwait
  · rw [if_neg hwait, if_neg hwait]
    exact hanswer

theorem call (h : InStep M R now r q) (i : ι) (timeout : ℤ) :
    InStep M R now (r.call M now i timeout) (q.call N now i timeout) := by
  rw [Room.call, Room.call, hR.passes _ _ h.object]
  by_cases hpasses : M.passes r.object
  · rw [if_pos hpasses, if_pos hpasses]
    -- the answer comes at once
    apply h.answer
    intro t _ hpos
    omega
  · rw [if_neg hpasses, if_neg hpasses]
    exact h.test hR hM hN i now timeout le_rfl (fun hpos => by omega) (fun hpos _ => by omega)

/-- A thread that runs keeps the rooms in step unless its time is up for nothing. -/
theorem resume (h : InStep M R now r q) (i : ι) (hdue : ¬ r.Overdue M now i) :
    InStep M R now (r.resume M now i) (q.resume N now i) := by
  rcases h.wait_cases i with ⟨hw, hv⟩ | ⟨w, v, hw, hv, hsame⟩
  · rw [Room.resume, Room.resume, hw, hv]
    exact h
  · -- a wait that is not overdue has time left, or may pass
    have hnot : 0 < w.timeout → M.mustWait r.object → (now : ℤ) < w.calledAt + w.timeout := by
      intro hpos hwait
      by_contra hle
      exact hdue ⟨w, hw, hpos, by omega, hwait⟩
    rw [Room.resume, Room.resume, hw, hv]
    dsimp only
    rw [hsame.woken, hsame.calledAt, hsame.timeout]
    by_cases hwoken : w.woken
    · rw [if_pos hwoken, if_pos hwoken]
      exact h.test hR hM hN i w.calledAt w.timeout hsame.called hsame.inTime hnot
    · -- a sleep that nothing has ended is for want of a change, so no time is up
      rw [if_neg hwoken, if_neg hwoken]
      have hwait := h.asleep i w hw (by simpa using hwoken)
      rcases lt_trichotomy w.timeout 0 with hneg | hzero | hpos
      · obtain ⟨hwsleep, hvsleep⟩ := hsame.forever hneg
        rw [Wait.timedOut, Wait.timedOut, hwsleep, hvsleep]
        exact h
      · exact absurd hzero hsame.timed
      · obtain ⟨hwsleep, e, hvsleep, he⟩ := hsame.sleeps hpos
        have hnow := hnot hpos hwait
        rw [Wait.timedOut, Wait.timedOut, hwsleep, hvsleep]
        dsimp only
        rw [if_neg (by simp; omega), if_neg (by simp; omega)]
        exact h

/-- Where it is up, the first room answers and the second does not. -/
theorem resume_apart (h : InStep M R now r q) (i : ι) (hdue : r.Overdue M now i) :
    (q.resume N now i).answers ≠ (r.resume M now i).answers := by
  obtain ⟨w, hw, hpos, hover, hwait⟩ := hdue
  rcases h.wait_cases i with ⟨hnone, -⟩ | ⟨w', v, hw', hv, hsame⟩
  · exact absurd (hnone.symm.trans hw) (by simp)
  · obtain rfl : w' = w := Option.some.inj (hw'.symm.trans hw)
    have hd : w'.calledAt + w'.timeout.toNat ≤ now := by omega
    have htime := hsame.inTime hpos
    obtain ⟨hwsleep, e, hvsleep, he⟩ := hsame.sleeps hpos
    -- woken or not, the first wait ends by its own measure
    have hfirst : (r.resume M now i).answers =
        ⟨i, w'.calledAt, some w'.timeout, M.verdict r.object, now⟩ :: r.answers := by
      rw [Room.resume, hw']
      dsimp only
      by_cases hwoken : w'.woken
      · rw [if_pos hwoken, Room.test, if_pos hwait, hM.inTime _ _ _ hpos]
        dsimp only
        rw [if_pos hd]
        rfl
      · rw [if_neg hwoken, Wait.timedOut, hwsleep]
        dsimp only
        rw [if_pos (by simpa using hd)]
        rfl
    -- the second one sleeps on in both cases
    have hsecond : (q.resume N now i).answers = q.answers := by
      rw [Room.resume, hv]
      dsimp only
      rw [hsame.woken, hsame.calledAt, hsame.timeout]
      by_cases hwoken : w'.woken
      · obtain ⟨e', hsleep, he'⟩ := hN.late w'.calledAt w'.timeout now hpos hsame.called
        rw [if_pos hwoken, Room.test, if_pos (by rw [hR.mustWait _ _ h.object]; exact hwait), hsleep]
        dsimp only
        rw [if_neg (by omega)]
        rfl
      · rw [if_neg hwoken, Wait.timedOut, hvsleep]
        dsimp only
        rw [if_neg (by simp; omega)]
    rw [hfirst, hsecond, h.answers]
    intro heq
    have hlength := congrArg List.length heq
    simp at hlength

end InStep

end RemoteDesktop
