import Mathlib.Tactic

/-! The surface of `drd_rdp_graphics_pipeline.c`, its frame counter, and the
condition variable on which the render thread waits for capacity. Each function
is one critical section under `lock`. -/
namespace RemoteDesktop.DRD

/-- The surface PDUs, with the fields that are not constant. -/
inductive GfxPdu
  | resetGraphics (width height : UInt16)
  | createSurface (surfaceId width height : UInt16)
  | mapSurfaceToOutput (surfaceId : UInt16)
  | deleteSurface (surfaceId : UInt16)
  deriving DecidableEq, Repr

/-- The initial values are those of `drd_rdp_graphics_pipeline_init`. A true
`capacityCond` is a broadcast that the waiting thread has not yet noticed. -/
structure GraphicsPipeline where
  width : UInt16
  height : UInt16
  channelOpened : Bool := false
  capsConfirmed : Bool := false
  surfaceReady : Bool := false
  surfaceId : UInt16 := 1
  nextFrameId : UInt32 := 1
  outstandingFrames : ℕ := 0
  maxOutstandingFrames : ℕ := 3
  frameAcksSuspended : Bool := false
  lastFrameH264 : Bool := false
  capacityCond : Bool := false
  deriving DecidableEq, Repr

/-- The `queueDepth` that suspends frame acknowledgements. -/
def suspendFrameAcknowledgement : UInt32 := 0xFFFFFFFF

/-- One test of the loop in `wait_for_capacity`. -/
inductive CapacityWait
  | blocks
  | returns (ready : Bool)
  deriving DecidableEq, Repr

namespace GraphicsPipeline

variable (p : GraphicsPipeline)

def resetPdus : List GfxPdu :=
  [.resetGraphics p.width p.height, .createSurface p.surfaceId p.width p.height,
    .mapSurfaceToOutput p.surfaceId]

/-- `answer` says which PDUs the channel accepts. The first refusal ends it. -/
def resetLocked (answer : GfxPdu → Bool) : Bool × GraphicsPipeline :=
  if p.surfaceReady then (true, p)
  else if p.resetPdus.all answer then
    (true, { p with
      nextFrameId := 1
      outstandingFrames := 0
      surfaceReady := true
      lastFrameH264 := false
      frameAcksSuspended := false
      capacityCond := true })
  else (false, p)

/-- `opened` is what `RdpgfxServerContext->Open` returns. -/
def maybeInit (opened : Bool) (answer : GfxPdu → Bool) : Bool × GraphicsPipeline :=
  if p.channelOpened || opened then
    if p.capsConfirmed then { p with channelOpened := true }.resetLocked answer
    else (false, { p with channelOpened := true })
  else (false, p)

def dispose : GraphicsPipeline :=
  { p with
    surfaceReady := false
    capacityCond := p.capacityCond || p.surfaceReady
    channelOpened := false }

def canSubmit : Bool :=
  p.surfaceReady && (p.frameAcksSuspended || decide (p.outstandingFrames < p.maxOutstandingFrames)
    || p.lastFrameH264)

def outFrameChange (add : Bool) : GraphicsPipeline :=
  if add then
    if p.frameAcksSuspended then p
    else { p with outstandingFrames := p.outstandingFrames + 1 }
  else
    { p with
      outstandingFrames :=
        if !p.frameAcksSuspended && decide (0 < p.outstandingFrames) then p.outstandingFrames - 1
        else p.outstandingFrames
      capacityCond := true }

/-- The condition of the loop in `wait_for_capacity`. -/
def mustWait : Bool :=
  p.surfaceReady && !p.frameAcksSuspended &&
    decide (p.maxOutstandingFrames ≤ p.outstandingFrames)

/-- The value that `wait_for_capacity` returns after its loop. -/
def hasCapacity : Bool :=
  p.surfaceReady &&
    (p.frameAcksSuspended || decide (p.outstandingFrames < p.maxOutstandingFrames))

def capacityLoop : CapacityWait :=
  if p.mustWait then .blocks else .returns p.hasCapacity

/-- The entry of `wait_for_capacity` with `timeout_us = -1`, its only use. -/
def waitForCapacity : CapacityWait :=
  if p.lastFrameH264 then .returns true else p.capacityLoop

def frameAck (queueDepth : UInt32) : GraphicsPipeline :=
  if queueDepth = suspendFrameAcknowledgement then
    { p with frameAcksSuspended := true, outstandingFrames := 0, capacityCond := true }
  else
    { p with
      frameAcksSuspended := false
      outstandingFrames :=
        if 0 < p.outstandingFrames then
          if p.lastFrameH264 then 0 else p.outstandingFrames - 1
        else p.outstandingFrames
      capacityCond := true }

def setLastFrameMode (h264 : Bool) : GraphicsPipeline :=
  { p with lastFrameH264 := h264 }

/-- A surface that exists is not touched by another initialisation. -/
theorem maybeInit_of_ready (opened : Bool) (answer : GfxPdu → Bool) (hr : p.surfaceReady = true) :
    (p.maybeInit opened answer).2 = p ∨
      (p.maybeInit opened answer).2 = { p with channelOpened := true } := by
  by_cases ho : (p.channelOpened || opened) = true
  · by_cases hc : p.capsConfirmed = true
    · exact Or.inr (by simp only [maybeInit, resetLocked, ho, hc, hr, if_true])
    · exact Or.inr (by simp only [maybeInit, ho, hc, if_true, if_false, Bool.false_eq_true])
  · exact Or.inl (by simp only [maybeInit, ho, if_false, Bool.false_eq_true])

theorem maybeInit_maxOutstandingFrames (opened : Bool) (answer : GfxPdu → Bool) :
    (p.maybeInit opened answer).2.maxOutstandingFrames = p.maxOutstandingFrames := by
  unfold maybeInit resetLocked
  repeat' split
  all_goals rfl

theorem mustWait_of_not_ready (hr : p.surfaceReady = false) : p.mustWait = false := by
  simp only [mustWait, hr, Bool.false_and]

/-- A reset empties the counter. -/
theorem resetLocked_mustWait (answer : GfxPdu → Bool) (hr : p.surfaceReady = false)
    (hm : 0 < p.maxOutstandingFrames) : (p.resetLocked answer).2.mustWait = false := by
  have hle : decide (p.maxOutstandingFrames ≤ 0) = false := decide_eq_false (Nat.not_le.mpr hm)
  unfold resetLocked
  rw [hr, if_neg Bool.false_ne_true]
  split
  · simp only [mustWait, hle, Bool.and_false]
  · exact p.mustWait_of_not_ready hr

/-- An initialisation never gives a thread a reason to wait. -/
theorem mustWait_of_maybeInit (opened : Bool) (answer : GfxPdu → Bool)
    (hm : 0 < p.maxOutstandingFrames) (h : (p.maybeInit opened answer).2.mustWait = true) :
    p.mustWait = true ∧ (p.maybeInit opened answer).2.lastFrameH264 = p.lastFrameH264 := by
  -- a surface that is ready is kept, and a new one starts with an empty counter
  cases hr : p.surfaceReady with
  | true =>
    rcases p.maybeInit_of_ready opened answer hr with he | he <;> rw [he] at h ⊢ <;>
      exact ⟨h, rfl⟩
  | false =>
    have hnot : (p.maybeInit opened answer).2.mustWait = false := by
      unfold maybeInit
      split
      · split
        · exact resetLocked_mustWait { p with channelOpened := true } answer hr hm
        · exact mustWait_of_not_ready { p with channelOpened := true } hr
      · exact p.mustWait_of_not_ready hr
    rw [hnot] at h
    cases h

theorem capacityLoop_blocks_iff : p.capacityLoop = .blocks ↔ p.mustWait = true := by
  unfold capacityLoop
  split <;> simp_all

theorem max_le_of_mustWait (h : p.mustWait = true) :
    p.maxOutstandingFrames ≤ p.outstandingFrames := by
  simp only [mustWait, Bool.and_eq_true, decide_eq_true_eq] at h
  exact h.2

/-- With acknowledgements running and the last frame not H.264, a frame is
admitted only below the bound. -/
theorem lt_max_of_canSubmit (h : p.canSubmit = true) (hs : p.frameAcksSuspended = false)
    (hm : p.lastFrameH264 = false) : p.outstandingFrames < p.maxOutstandingFrames := by
  simp only [canSubmit, hs, hm, Bool.false_or, Bool.or_false, Bool.and_eq_true,
    decide_eq_true_eq] at h
  exact h.2

end GraphicsPipeline

/-- `drd_rdp_graphics_pipeline_new`. -/
def drdRdpGraphicsPipelineNew (width height : UInt16) : GraphicsPipeline :=
  { width := width, height := height }

end RemoteDesktop.DRD
