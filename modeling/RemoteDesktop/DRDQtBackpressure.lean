import RemoteDesktop.TimedMonitor
import RemoteDesktop.EventMachine
import RemoteDesktop.DRDGraphicsPipeline

/-! The backpressure of `drd_rdp_graphics_pipeline.cpp` beside the one of
`drd_rdp_graphics_pipeline.c`: both objects get the same calls on one logical clock, which
counts microseconds and passes only while no thread can run. -/
namespace RemoteDesktop.DRD

/-- What the backpressure uses of the port's members. A true `capacityCond` is a `wakeAll`. -/
structure DrdQtRdpGraphicsPipeline where
  surfaceReady : Bool := false
  outstandingFrames : ℕ := 0
  maxOutstandingFrames : ℕ := 3
  frameAcksSuspended : Bool := false
  lastFrameH264 : Bool := false
  capacityCond : Bool := false
  deriving DecidableEq, Repr

namespace DrdQtRdpGraphicsPipeline

variable (self : DrdQtRdpGraphicsPipeline)

/-- The `FrameAcknowledge` callback. -/
def frameAcknowledge (queueDepth : UInt32) : DrdQtRdpGraphicsPipeline :=
  if queueDepth = suspendFrameAcknowledgement then
    { self with frameAcksSuspended := true, outstandingFrames := 0, capacityCond := true }
  else
    { self with
      frameAcksSuspended := false
      outstandingFrames :=
        if self.outstandingFrames > 0 then
          if self.lastFrameH264 then 0 else self.outstandingFrames - 1
        else self.outstandingFrames
      capacityCond := true }

def canSubmit : Bool :=
  self.surfaceReady && (self.frameAcksSuspended ||
    decide (self.outstandingFrames < self.maxOutstandingFrames) || self.lastFrameH264)

/-- The condition of the loop in `waitForCapacity`. -/
def mustWait : Bool :=
  self.surfaceReady && !self.frameAcksSuspended &&
    decide (self.outstandingFrames ≥ self.maxOutstandingFrames)

/-- The value after the loop. -/
def ready : Bool :=
  self.surfaceReady && (self.frameAcksSuspended ||
    decide (self.outstandingFrames < self.maxOutstandingFrames))

def outFrameChange (add : Bool) : DrdQtRdpGraphicsPipeline :=
  if add then
    if !self.frameAcksSuspended then
      { self with outstandingFrames := self.outstandingFrames + 1 }
    else self
  else
    { self with
      outstandingFrames :=
        if !self.frameAcksSuspended && decide (self.outstandingFrames > 0) then
          self.outstandingFrames - 1
        else self.outstandingFrames
      capacityCond := true }

def setLastFrameMode (h264 : Bool) : DrdQtRdpGraphicsPipeline :=
  { self with lastFrameH264 := h264 }

end DrdQtRdpGraphicsPipeline

/-- `g_cond_wait_until` sleeps until the deadline of the call, by the monotonic clock. -/
def gCondWaitUntil (calledAt : ℕ) (timeoutUs : ℤ) (_now : ℕ) : Option ℕ :=
  let deadline : ℕ := if timeoutUs > 0 then calledAt + timeoutUs.toNat else 0
  if timeoutUs < 0 then none else some deadline

/-- `capacityCond_.wait` sleeps for `deadline / 1000` milliseconds. The deadline is a time of
the wall clock, which shows `epochMs` when the logical clock starts. -/
def qWaitConditionWait (epochMs calledAt : ℕ) (timeoutUs : ℤ) (now : ℕ) : Option ℕ :=
  let deadline : ℤ :=
    if timeoutUs > 0 then (epochMs + calledAt / 1000 : ℕ) * 1000 + timeoutUs else 0
  if timeoutUs < 0 then none else some (now + 1000 * (deadline / 1000).toNat)

/-- `drd_rdp_graphics_pipeline_wait_for_capacity`. -/
def cCapacity : Monitor GraphicsPipeline where
  passes p := p.lastFrameH264
  mustWait p := p.mustWait
  verdict p := p.hasCapacity
  sleepEnd := gCondWaitUntil

/-- `DrdQtRdpGraphicsPipeline::waitForCapacity`. -/
def qtCapacity (epochMs : ℕ) : Monitor DrdQtRdpGraphicsPipeline where
  passes self := self.lastFrameH264
  mustWait self := self.mustWait
  verdict self := self.ready
  sleepEnd := qWaitConditionWait epochMs

/-- What happens to both objects. A thread is woken without a cause, or runs. -/
inductive PacingEvent (ι : Type)
  | outFrameChange (add : Bool)
  | setLastFrameMode (h264 : Bool)
  | frameAck (queueDepth : UInt32)
  | canSubmit (thread : ι)
  | waitForCapacity (thread : ι) (timeoutUs : ℤ)
  | wakeUp (thread : ι)
  | resume (thread : ι)
  | tick
  deriving DecidableEq, Repr

/-- Both objects, with the threads `ι` on each. -/
structure PacedPair (ι : Type) where
  now : ℕ := 0
  epochMs : ℕ
  c : Room GraphicsPipeline ι
  qt : Room DrdQtRdpGraphicsPipeline ι

namespace PacedPair

variable {ι : Type} [DecidableEq ι] [Fintype ι] (s : PacedPair ι)

/-- A critical section of each object. The broadcast is taken from the object that makes it. -/
def act (f : GraphicsPipeline → GraphicsPipeline)
    (g : DrdQtRdpGraphicsPipeline → DrdQtRdpGraphicsPipeline) : PacedPair ι :=
  let p := f { s.c.object with capacityCond := false }
  let self := g { s.qt.object with capacityCond := false }
  { s with c := s.c.act p p.capacityCond, qt := s.qt.act self self.capacityCond }

def idle (i : ι) : Bool :=
  (s.c.waiting i).isNone && (s.qt.waiting i).isNone

def step : PacingEvent ι → Option (PacedPair ι)
  | .outFrameChange add => some (s.act (·.outFrameChange add) (·.outFrameChange add))
  | .setLastFrameMode h264 => some (s.act (·.setLastFrameMode h264) (·.setLastFrameMode h264))
  | .frameAck queueDepth => some (s.act (·.frameAck queueDepth) (·.frameAcknowledge queueDepth))
  | .canSubmit i =>
    if s.idle i then
      some { s with
        c := s.c.answer s.now i s.now none s.c.object.canSubmit
        qt := s.qt.answer s.now i s.now none s.qt.object.canSubmit }
    else none
  | .waitForCapacity i timeoutUs =>
    if s.idle i then
      some { s with
        c := s.c.call cCapacity s.now i timeoutUs
        qt := s.qt.call (qtCapacity s.epochMs) s.now i timeoutUs }
    else none
  | .wakeUp i => some { s with c := s.c.wake i, qt := s.qt.wake i }
  | .resume i =>
    some { s with
      c := s.c.resume cCapacity s.now i
      qt := s.qt.resume (qtCapacity s.epochMs) s.now i }
  | .tick => if s.c.Quiet s.now ∧ s.qt.Quiet s.now then some { s with now := s.now + 1 } else none

end PacedPair

/-- Every member that both have, but for the condition variable. -/
structure SameMembers (p : GraphicsPipeline) (q : DrdQtRdpGraphicsPipeline) : Prop where
  surfaceReady : q.surfaceReady = p.surfaceReady
  outstandingFrames : q.outstandingFrames = p.outstandingFrames
  maxOutstandingFrames : q.maxOutstandingFrames = p.maxOutstandingFrames
  frameAcksSuspended : q.frameAcksSuspended = p.frameAcksSuspended
  lastFrameH264 : q.lastFrameH264 = p.lastFrameH264

/-- The start: the same members, no wait and no answer, and a wall clock past its epoch. -/
structure PacedPair.Started {ι : Type} (s : PacedPair ι) : Prop where
  members : SameMembers s.c.object s.qt.object
  waiting : ∀ i, s.c.waiting i = none ∧ s.qt.waiting i = none
  answers : s.c.answers = [] ∧ s.qt.answers = []
  epoch : 0 < s.epochMs

def pacingMachine (ι : Type) [DecidableEq ι] [Fintype ι] :
    EventMachine (PacedPair ι) (PacingEvent ι) where
  init := PacedPair.Started
  step := PacedPair.step

/-- The state of the two objects is equal, they have given the same verdicts at the same times,
and in both a wait with a positive timeout ends by then. -/
structure PacedPair.Agree {ι : Type} (s : PacedPair ι) : Prop where
  outstanding : s.qt.object.outstandingFrames = s.c.object.outstandingFrames
  suspended : s.qt.object.frameAcksSuspended = s.c.object.frameAcksSuspended
  lastMode : s.qt.object.lastFrameH264 = s.c.object.lastFrameH264
  verdicts : s.qt.answers = s.c.answers
  cTimely : s.c.Timely s.now
  qtTimely : s.qt.Timely s.now

/-- No thread runs whose timeout is over while there is still no capacity. -/
def NoTimeout {ι : Type} (s : PacedPair ι) : PacingEvent ι → Prop
  | .resume i => ¬ s.c.Overdue cCapacity s.now i
  | _ => True

instance {ι : Type} (s : PacedPair ι) : DecidablePred (NoTimeout s)
  | .resume i => inferInstanceAs (Decidable (¬ s.c.Overdue cCapacity s.now i))
  | .outFrameChange _ | .setLastFrameMode _ | .frameAck _ | .canSubmit _ | .waitForCapacity _ _
  | .wakeUp _ | .tick => instDecidableTrue

/-! The two ways to wait. -/

theorem cCapacity_punctual : cCapacity.Punctual where
  forever := by
    intro c t n hneg
    exact if_pos hneg
  atOnce := by
    intro c n
    exact ⟨0, Nat.zero_le n, rfl⟩
  inTime := by
    intro c t n hpos
    simp only [cCapacity, gCondWaitUntil]
    rw [if_neg (by omega), if_pos hpos]

/-- The wall clock's time is taken for a duration. Past the epoch that is too long, even after
the microseconds below a millisecond are cut off. -/
theorem qtCapacity_late {epochMs : ℕ} (hepoch : 0 < epochMs) : (qtCapacity epochMs).Late where
  forever := by
    intro c t n hneg
    exact if_pos hneg
  atOnce := by
    intro c n
    refine ⟨n, le_rfl, ?_⟩
    simp [qtCapacity, qWaitConditionWait]
  late := by
    intro c t n hpos hcalled
    refine ⟨_, if_neg (by omega), ?_⟩
    rw [if_pos hpos]
    -- what is lost below a millisecond is less than the epoch adds
    have hduration : t < 1000 * (((epochMs + c / 1000 : ℕ) * 1000 + t) / 1000) := by
      push_cast
      omega
    omega

theorem capacity_alike (epochMs : ℕ) :
    Monitor.Alike cCapacity (qtCapacity epochMs) SameMembers where
  passes _ _ h := h.lastFrameH264
  mustWait p q h := by
    simp only [cCapacity, qtCapacity, GraphicsPipeline.mustWait, DrdQtRdpGraphicsPipeline.mustWait,
      h.surfaceReady, h.frameAcksSuspended, h.outstandingFrames, h.maxOutstandingFrames, ge_iff_le]
  verdict p q h := by
    simp only [cCapacity, qtCapacity, GraphicsPipeline.hasCapacity, DrdQtRdpGraphicsPipeline.ready,
      h.surfaceReady, h.frameAcksSuspended, h.outstandingFrames, h.maxOutstandingFrames]

/-! The critical sections. -/

namespace SameMembers

variable {p : GraphicsPipeline} {q : DrdQtRdpGraphicsPipeline} (h : SameMembers p q)

include h

theorem canSubmit : q.canSubmit = p.canSubmit := by
  simp only [GraphicsPipeline.canSubmit, DrdQtRdpGraphicsPipeline.canSubmit, h.surfaceReady,
    h.frameAcksSuspended, h.outstandingFrames, h.maxOutstandingFrames, h.lastFrameH264]

theorem unsignalled :
    SameMembers { p with capacityCond := false } { q with capacityCond := false } where
  surfaceReady := h.surfaceReady
  outstandingFrames := h.outstandingFrames
  maxOutstandingFrames := h.maxOutstandingFrames
  frameAcksSuspended := h.frameAcksSuspended
  lastFrameH264 := h.lastFrameH264

theorem outFrameChange (add : Bool) :
    SameMembers (p.outFrameChange add) (q.outFrameChange add) := by
  obtain ⟨hready, hout, hmax, hsuspended, hmode⟩ := h
  cases add with
  | true =>
    -- an add counts only while acknowledgements are not suspended
    cases hs : p.frameAcksSuspended with
    | true =>
      simp only [GraphicsPipeline.outFrameChange, DrdQtRdpGraphicsPipeline.outFrameChange,
        hsuspended, hs, if_true, Bool.not_true, Bool.false_eq_true, if_false]
      exact ⟨hready, hout, hmax, hsuspended, hmode⟩
    | false =>
      simp only [GraphicsPipeline.outFrameChange, DrdQtRdpGraphicsPipeline.outFrameChange,
        hsuspended, hs, if_true, Bool.not_false, Bool.false_eq_true, if_false]
      exact ⟨hready, congrArg (· + 1) hout, hmax, rfl, hmode⟩
  | false =>
    refine ⟨hready, ?_, hmax, hsuspended, hmode⟩
    simp only [GraphicsPipeline.outFrameChange, DrdQtRdpGraphicsPipeline.outFrameChange,
      Bool.false_eq_true, if_false, hsuspended, hout, gt_iff_lt]

theorem setLastFrameMode (h264 : Bool) :
    SameMembers (p.setLastFrameMode h264) (q.setLastFrameMode h264) :=
  ⟨h.surfaceReady, h.outstandingFrames, h.maxOutstandingFrames, h.frameAcksSuspended, rfl⟩

theorem frameAck (queueDepth : UInt32) :
    SameMembers (p.frameAck queueDepth) (q.frameAcknowledge queueDepth) := by
  obtain ⟨hready, hout, hmax, hsuspended, hmode⟩ := h
  by_cases hsuspend : queueDepth = suspendFrameAcknowledgement
  · rw [GraphicsPipeline.frameAck, DrdQtRdpGraphicsPipeline.frameAcknowledge, if_pos hsuspend,
      if_pos hsuspend]
    exact ⟨hready, rfl, hmax, rfl, hmode⟩
  · rw [GraphicsPipeline.frameAck, DrdQtRdpGraphicsPipeline.frameAcknowledge, if_neg hsuspend,
      if_neg hsuspend]
    refine ⟨hready, ?_, hmax, rfl, hmode⟩
    simp only [hout, hmode, gt_iff_lt]

end SameMembers

namespace GraphicsPipeline

variable (p : GraphicsPipeline)

/-- A frame that goes out does not make room. -/
theorem mustWait_outFrameChange (add : Bool) (hquiet : (p.outFrameChange add).capacityCond = false)
    (hwait : p.mustWait = true) : (p.outFrameChange add).mustWait = true := by
  cases add with
  | false => cases hquiet
  -- one more frame is out, so there is no more room than before
  | true =>
    simp only [mustWait, Bool.and_eq_true, decide_eq_true_eq, Bool.not_eq_true'] at hwait
    simp only [outFrameChange, if_true, hwait.1.2, Bool.false_eq_true, if_false, mustWait,
      hwait.1.1, Bool.not_false, Bool.true_and, decide_eq_true_eq]
    have hmax := hwait.2
    omega

theorem capacityCond_frameAck (queueDepth : UInt32) :
    (p.frameAck queueDepth).capacityCond = true := by
  rw [frameAck]
  split_ifs <;> rfl

theorem capacityCond_outFrameChange (add : Bool) :
    (p.outFrameChange add).capacityCond = (p.capacityCond || !add) := by
  cases add with
  | false => simp [outFrameChange]
  | true =>
    rw [outFrameChange, if_pos rfl]
    split_ifs <;> simp

end GraphicsPipeline

namespace DrdQtRdpGraphicsPipeline

variable (q : DrdQtRdpGraphicsPipeline)

theorem capacityCond_frameAcknowledge (queueDepth : UInt32) :
    (q.frameAcknowledge queueDepth).capacityCond = true := by
  rw [frameAcknowledge]
  split_ifs <;> rfl

theorem capacityCond_outFrameChange (add : Bool) :
    (q.outFrameChange add).capacityCond = (q.capacityCond || !add) := by
  cases add with
  | false => simp [outFrameChange]
  | true =>
    rw [outFrameChange, if_pos rfl]
    split_ifs <;> simp

end DrdQtRdpGraphicsPipeline

/-- What the steps keep as long as no thread's time is up for nothing. -/
structure PacedPair.Synchronized {ι : Type} (s : PacedPair ι) : Prop where
  inStep : InStep cCapacity SameMembers s.now s.c s.qt
  epoch : 0 < s.epochMs

namespace PacedPair

variable {ι : Type} [DecidableEq ι] [Fintype ι] {s s' : PacedPair ι}

omit [DecidableEq ι] [Fintype ι] in
theorem Started.synchronized (h : s.Started) : s.Synchronized where
  inStep := {
    object := h.members
    waiting := by
      intro i
      rw [(h.waiting i).1, (h.waiting i).2]
      exact .none
    asleep := by
      intro i w hw
      rw [(h.waiting i).1] at hw
      cases hw
    answers := by rw [h.answers.1, h.answers.2]
    inTime := by
      intro a ha
      rw [h.answers.1] at ha
      cases ha }
  epoch := h.epoch

omit [DecidableEq ι] [Fintype ι] in
theorem Synchronized.agree (h : s.Synchronized) : s.Agree where
  outstanding := h.inStep.object.outstandingFrames
  suspended := h.inStep.object.frameAcksSuspended
  lastMode := h.inStep.object.lastFrameH264
  verdicts := h.inStep.answers
  cTimely := h.inStep.timely.1
  qtTimely := h.inStep.timely.2

omit [DecidableEq ι] [Fintype ι] in
/-- Critical sections that do the same to both objects, broadcast together and let no thread
through without it. -/
theorem Synchronized.act (h : s.Synchronized) {f : GraphicsPipeline → GraphicsPipeline}
    {g : DrdQtRdpGraphicsPipeline → DrdQtRdpGraphicsPipeline}
    (hsame : ∀ p q, SameMembers p q → SameMembers (f p) (g q))
    (hbroadcast : ∀ p q, q.capacityCond = p.capacityCond →
      (g q).capacityCond = (f p).capacityCond)
    (hwait : ∀ p, (f p).capacityCond = false → p.mustWait = true → (f p).mustWait = true) :
    (s.act f g).Synchronized where
  inStep := by
    have hobject := hsame _ _ h.inStep.object.unsignalled
    have hsignal := hbroadcast { s.c.object with capacityCond := false }
      { s.qt.object with capacityCond := false } rfl
    have hact := h.inStep.act (f { s.c.object with capacityCond := false }).capacityCond hobject
      (hwait { s.c.object with capacityCond := false })
    rw [PacedPair.act]
    dsimp only
    -- both broadcast or neither does
    rw [hsignal]
    exact hact
  epoch := h.epoch

/-- Every step without a timeout keeps the two synchronized. -/
theorem Synchronized.step (h : s.Synchronized) {e : PacingEvent ι} (hC : NoTimeout s e)
    (he : s.step e = some s') : s'.Synchronized := by
  have halike := capacity_alike s.epochMs
  have hlate := qtCapacity_late h.epoch
  cases e with
  | outFrameChange add =>
    cases he
    apply h.act
    · intro p q hpq
      exact hpq.outFrameChange add
    · intro p q hcond
      rw [p.capacityCond_outFrameChange, q.capacityCond_outFrameChange, hcond]
    · -- only an add is quiet, and it makes no room
      intro p
      exact p.mustWait_outFrameChange add
  | setLastFrameMode h264 =>
    cases he
    apply h.act
    · intro p q hpq
      exact hpq.setLastFrameMode h264
    · intro p q hcond
      exact hcond
    · intro p _ hwait
      exact hwait
  | frameAck queueDepth =>
    cases he
    apply h.act
    · intro p q hpq
      exact hpq.frameAck queueDepth
    · intro p q _
      rw [p.capacityCond_frameAck, q.capacityCond_frameAcknowledge]
    · intro p hquiet
      rw [p.capacityCond_frameAck] at hquiet
      cases hquiet
  | canSubmit i =>
    rw [PacedPair.step] at he
    split_ifs at he
    cases he
    refine ⟨?_, h.epoch⟩
    dsimp only
    rw [h.inStep.object.canSubmit]
    apply h.inStep.answer
    intro t ht
    cases ht
  | waitForCapacity i timeoutUs =>
    rw [PacedPair.step] at he
    split_ifs at he
    cases he
    exact ⟨h.inStep.call halike cCapacity_punctual hlate i timeoutUs, h.epoch⟩
  | wakeUp i =>
    cases he
    exact ⟨h.inStep.wake i, h.epoch⟩
  | resume i =>
    cases he
    exact ⟨h.inStep.resume halike cCapacity_punctual hlate i hC, h.epoch⟩
  | tick =>
    rw [PacedPair.step] at he
    split_ifs at he with hquiet
    cases he
    exact ⟨h.inStep.tick hquiet.1, h.epoch⟩

/-- A step with a timeout gives an answer in C alone. -/
theorem Synchronized.step_apart (h : s.Synchronized) {e : PacingEvent ι} (hC : ¬ NoTimeout s e)
    (he : s.step e = some s') : ¬ s'.Agree := by
  cases e with
  | resume i =>
    -- only a thread that runs can be late
    have hdue : s.c.Overdue cCapacity s.now i := not_not.mp hC
    cases he
    intro hagree
    exact h.inStep.resume_apart (capacity_alike s.epochMs) cCapacity_punctual
      (qtCapacity_late h.epoch) i hdue hagree.verdicts
  | _ => exact absurd trivial hC

end PacedPair

/-- Started in the same state, the two agree in every state of a run exactly when no thread of
it runs with its timeout over and still no capacity. -/
theorem backpressure_agrees_iff {ι : Type} [DecidableEq ι] [Fintype ι] {s t : PacedPair ι}
    (hinit : (pacingMachine ι).init s) (es : List (PacingEvent ι))
    (hrun : (pacingMachine ι).run s es = some t) :
    (pacingMachine ι).StatesMeet PacedPair.Agree s es ↔
      (pacingMachine ι).StepsMeet NoTimeout s es := by
  have hstart : s.Synchronized := PacedPair.Started.synchronized hinit
  refine EventMachine.statesMeet_iff_stepsMeet ?_ ?_ ?_ hstart es hrun
  · intro s hs
    exact hs.agree
  · intro s e s' hs hC he
    exact hs.step hC he
  · intro s e s' hs hC he
    exact hs.step_apart hC he

/-- One thread, and a surface with three frames out. -/
def fullPair : PacedPair Unit where
  epochMs := 1700000000000
  c := { object := { width := 64, height := 64, surfaceReady := true, outstandingFrames := 3 } }
  qt := { object := { surfaceReady := true, outstandingFrames := 3 } }

theorem fullPair_started : (pacingMachine Unit).init fullPair where
  members := ⟨rfl, rfl, rfl, rfl, rfl⟩
  waiting _ := ⟨rfl, rfl⟩
  answers := ⟨rfl, rfl⟩
  epoch := by decide

/-- A wait of two microseconds, and one more after its time is up. -/
def shortWait : List (PacingEvent Unit) :=
  [.waitForCapacity () 2, .tick, .tick, .resume (), .tick]

/-- C has answered in time, Qt still waits. -/
theorem short_wait_apart :
    ∃ s, (pacingMachine Unit).run fullPair shortWait = some s ∧ s.now = 3 ∧
      s.c.answers = [⟨(), 0, some 2, false, 2⟩] ∧ s.qt.answers = [] ∧
      ¬ (pacingMachine Unit).StatesMeet PacedPair.Agree fullPair shortWait := by
  have hsome : ((pacingMachine Unit).run fullPair shortWait).isSome := by decide +kernel
  obtain ⟨s, hrun⟩ := Option.isSome_iff_exists.mp hsome
  have hanswers : ((pacingMachine Unit).run fullPair shortWait).map
      (fun s => (s.now, s.c.answers, s.qt.answers)) =
        some (3, [⟨(), 0, some 2, false, 2⟩], []) := by
    decide +kernel
  rw [hrun] at hanswers
  have hparts := Option.some.inj hanswers
  have hc : s.c.answers = [⟨(), 0, some 2, false, 2⟩] := congrArg (fun x => x.2.1) hparts
  have hqt : s.qt.answers = [] := congrArg (fun x => x.2.2) hparts
  refine ⟨s, hrun, congrArg Prod.fst hparts, hc, hqt, ?_⟩
  intro hmeet
  have hverdicts := (hmeet.last hrun).verdicts
  rw [hc, hqt] at hverdicts
  cases hverdicts

/-- A wait that an acknowledgement ends. -/
def acknowledgedWait : List (PacingEvent Unit) :=
  [.waitForCapacity () 2, .tick, .frameAck 0, .resume (), .tick]

theorem acknowledgedWait_runs :
    ((pacingMachine Unit).run fullPair acknowledgedWait).isSome := by
  decide +kernel

theorem acknowledged_wait_agrees :
    (pacingMachine Unit).StatesMeet PacedPair.Agree fullPair acknowledgedWait := by
  refine (backpressure_agrees_iff fullPair_started acknowledgedWait
    (Option.some_get acknowledgedWait_runs).symm).mpr ?_
  decide +kernel

end RemoteDesktop.DRD
