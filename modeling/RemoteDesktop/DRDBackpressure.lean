import RemoteDesktop.DRDGraphicsPipeline
import RemoteDesktop.EventMachine

/-! The render thread's frame loop in graphics pipeline mode, interleaved with a
client that acknowledges each frame it received once and never suspends. -/
namespace RemoteDesktop.DRD

/-- How a call of the pull or cached encode ends. `unsent` is a call that
returns TRUE without `SurfaceFrameCommand`: `progressive_compress` gave nothing,
or no codec is enabled. Only the AVC branches set the H.264 flag, and these
report an error when they produce nothing. -/
inductive EncodeOutcome
  | sent (h264 : Bool)
  | unsent
  | failed
  deriving DecidableEq, Repr

/-- The next call of the render thread. -/
inductive GfxPc
  | wait
  | parked
  | submit
  | sendCached
  | pull
  | count (h264 : Bool)
  | mode (h264 : Bool)
  | disabled
  deriving DecidableEq, Repr

/-- The fields after `pc` are not the program's: the frames sent whose
acknowledgement was not processed, the kind of the last frame sent, and the
slots given back early that are still unacknowledged. -/
structure GfxFlow where
  pipeline : GraphicsPipeline
  pc : GfxPc := .wait
  unacked : ℕ := 0
  lastSentH264 : Bool := false
  releasedEarly : ℕ := 0
  deriving DecidableEq, Repr

inductive GfxEvent
  | waitForCapacity
  | wake
  | canSubmit (refreshDue : Bool)
  | sendCachedFrame (outcome : EncodeOutcome)
  | pullEncodedFrame (outcome : EncodeOutcome)
  | outFrameChange
  | setLastFrameMode
  | frameAck (queueDepth : UInt32)
  | maybeInit (opened : Bool) (answer : GfxPdu → Bool)

namespace GfxFlow

variable (s : GfxFlow)

/-- A thread that starts to wait has noticed every earlier broadcast. -/
def enterWait : CapacityWait → GfxFlow
  | .blocks => { s with pc := .parked, pipeline := { s.pipeline with capacityCond := false } }
  | .returns true => { s with pc := .submit }
  | .returns false => { s with pc := .disabled }

def encoded (onFailure : GfxPc) : EncodeOutcome → GfxFlow
  | .sent h264 =>
    { s with pc := .count h264, unacked := s.unacked + 1, lastSentH264 := h264 }
  | .unsent => { s with pc := .count false }
  | .failed => { s with pc := onFailure }

/-- An acknowledgement in H.264 mode empties the counter, so it gives back the
slots of frames that it does not acknowledge. One that finds the counter empty
is for such a frame. -/
def releasedAfterAck : ℕ :=
  if s.pipeline.outstandingFrames = 0 then s.releasedEarly - 1
  else if s.pipeline.lastFrameH264 then
    s.releasedEarly + (s.pipeline.outstandingFrames - 1)
  else s.releasedEarly

end GfxFlow

def gfxFlowStep (s : GfxFlow) : GfxEvent → Option GfxFlow
  | .waitForCapacity =>
    if s.pc = .wait then some (s.enterWait s.pipeline.waitForCapacity) else none
  | .wake =>
    -- a spurious wake-up is allowed: the loop tests its condition again
    if s.pc = .parked then some (s.enterWait s.pipeline.capacityLoop) else none
  | .canSubmit refreshDue =>
    if s.pc = .submit then
      some { s with
        pc :=
          if s.pipeline.canSubmit then if refreshDue then .sendCached else .pull
          else .disabled }
    else none
  | .sendCachedFrame outcome =>
    if s.pc = .sendCached then some (s.encoded .pull outcome) else none
  | .pullEncodedFrame outcome =>
    if s.pc = .pull then some (s.encoded .wait outcome) else none
  | .outFrameChange =>
    match s.pc with
    | .count h264 =>
      some { s with pc := .mode h264, pipeline := s.pipeline.outFrameChange true }
    | _ => none
  | .setLastFrameMode =>
    match s.pc with
    | .mode h264 => some { s with pc := .wait, pipeline := s.pipeline.setLastFrameMode h264 }
    | _ => none
  | .frameAck queueDepth =>
    if queueDepth ≠ suspendFrameAcknowledgement ∧ 0 < s.unacked then
      some { s with
        pipeline := s.pipeline.frameAck queueDepth
        unacked := s.unacked - 1
        releasedEarly := s.releasedAfterAck }
    else none
  | .maybeInit opened answer =>
    some { s with pipeline := (s.pipeline.maybeInit opened answer).2 }

/-- A session whose surface has just been reset. -/
def GfxFlow.start (width height : UInt16) : GfxFlow where
  pipeline :=
    ({ drdRdpGraphicsPipelineNew width height with
        channelOpened := true, capsConfirmed := true }.resetLocked fun _ => true).2

def gfxFlow : EventMachine GfxFlow GfxEvent where
  init s := ∃ width height, s = .start width height
  step := gfxFlowStep

theorem gfxFlow_start (width height : UInt16) : gfxFlow.init (.start width height) :=
  ⟨width, height, rfl⟩

namespace GfxFlow

/-- What holds in every run: the surface stays, acknowledgements are never
suspended, and a thread that no broadcast has reached has a reason to wait. -/
structure Running (s : GfxFlow) : Prop where
  ready : s.pipeline.surfaceReady = true
  acking : s.pipeline.frameAcksSuspended = false
  bound : s.pipeline.maxOutstandingFrames = 3
  parked : s.pc = .parked → s.pipeline.capacityCond = false → s.pipeline.mustWait = true

/-- The slot of a frame between `SurfaceFrameCommand` and `out_frame_change`. -/
def uncounted (s : GfxFlow) : ℕ :=
  match s.pc with
  | .count _ => 1
  | _ => 0

/-- The mode that `set_last_frame_mode` has left or is about to leave. -/
def nextMode (s : GfxFlow) : Bool :=
  match s.pc with
  | .count h264 | .mode h264 => h264
  | _ => s.pipeline.lastFrameH264

/-- The counters of the two bounds: the slots promised are at most the frames that are
unacknowledged, and these at most the slots promised or released early. `promised` counts
the frame that was sent and not yet counted. -/
structure Ledger where
  promised : ℕ
  unacked : ℕ
  releasedEarly : ℕ
  lastSentH264 : Bool
  nextMode : Bool

def ledger (s : GfxFlow) : Ledger where
  promised := s.pipeline.outstandingFrames + s.uncounted
  unacked := s.unacked
  releasedEarly := s.releasedEarly
  lastSentH264 := s.lastSentH264
  nextMode := s.nextMode

/-- What a step does to the ledger: only encode calls and acknowledgements touch it. -/
inductive LedgerStep (s : GfxFlow) : GfxEvent → Ledger → Prop
  | quiet (e : GfxEvent) : LedgerStep s e s.ledger
  | sent (e : GfxEvent) (h264 : Bool) :
      LedgerStep s e { s.ledger with
        promised := s.ledger.promised + 1
        unacked := s.unacked + 1
        lastSentH264 := h264
        nextMode := h264 }
  | unsent (e : GfxEvent) (he : e = .sendCachedFrame .unsent ∨ e = .pullEncodedFrame .unsent)
      (hu : s.uncounted = 0) :
      LedgerStep s e { s.ledger with promised := s.ledger.promised + 1, nextMode := false }
  | acked (queueDepth : UInt32) (hu : 0 < s.unacked) :
      LedgerStep s (.frameAck queueDepth) { s.ledger with
        promised :=
          (if 0 < s.pipeline.outstandingFrames then
            if s.pipeline.lastFrameH264 then 0 else s.pipeline.outstandingFrames - 1
          else s.pipeline.outstandingFrames) + s.uncounted
        unacked := s.unacked - 1
        releasedEarly := s.releasedAfterAck }

theorem start_running (width height : UInt16) : (start width height).Running :=
  ⟨rfl, rfl, rfl, fun h => nomatch h⟩

/-- Steps that leave the pipeline alone and do not end in the wait. -/
theorem Running.of_pipeline {s s' : GfxFlow} (h : s.Running) (hp : s'.pipeline = s.pipeline)
    (hpc : s'.pc ≠ .parked) : s'.Running :=
  ⟨hp ▸ h.ready, hp ▸ h.acking, hp ▸ h.bound, fun hpark => absurd hpark hpc⟩

theorem Running.enterWait {s : GfxFlow} (h : s.Running) (w : CapacityWait)
    (hw : w = .blocks → s.pipeline.mustWait = true) : (s.enterWait w).Running := by
  cases w with
  | blocks => exact ⟨h.ready, h.acking, h.bound, fun _ _ => hw rfl⟩
  | returns ready => cases ready <;> exact h.of_pipeline rfl nofun

theorem Running.encoded {s : GfxFlow} (h : s.Running) (onFailure : GfxPc)
    (hf : onFailure ≠ .parked) (outcome : EncodeOutcome) :
    (s.encoded onFailure outcome).Running := by
  cases outcome with
  | failed => exact h.of_pipeline rfl hf
  | sent _ | unsent => exact h.of_pipeline rfl nofun

theorem mustWait_of_waitForCapacity {p : GraphicsPipeline} (h : p.waitForCapacity = .blocks) :
    p.mustWait = true := by
  unfold GraphicsPipeline.waitForCapacity at h
  split at h
  · cases h
  · exact p.capacityLoop_blocks_iff.mp h

theorem Running.step {s s' : GfxFlow} {e : GfxEvent} (h : s.Running)
    (he : gfxFlowStep s e = some s') : s'.Running := by
  cases e with
  | waitForCapacity =>
    simp only [gfxFlowStep, Option.ite_none_right_eq_some, Option.some.injEq] at he
    exact he.2 ▸ h.enterWait _ mustWait_of_waitForCapacity
  | wake =>
    simp only [gfxFlowStep, Option.ite_none_right_eq_some, Option.some.injEq] at he
    exact he.2 ▸ h.enterWait _ s.pipeline.capacityLoop_blocks_iff.mp
  | canSubmit refreshDue =>
    simp only [gfxFlowStep, Option.ite_none_right_eq_some, Option.some.injEq] at he
    obtain ⟨_, rfl⟩ := he
    refine h.of_pipeline rfl ?_
    dsimp only
    split
    · split <;> nofun
    · nofun
  | sendCachedFrame outcome =>
    simp only [gfxFlowStep, Option.ite_none_right_eq_some, Option.some.injEq] at he
    exact he.2 ▸ h.encoded .pull nofun outcome
  | pullEncodedFrame outcome =>
    simp only [gfxFlowStep, Option.ite_none_right_eq_some, Option.some.injEq] at he
    exact he.2 ▸ h.encoded .wait nofun outcome
  | outFrameChange =>
    simp only [gfxFlowStep] at he
    split at he
    · obtain rfl := Option.some.inj he
      -- acknowledgements are not suspended, so the frame is counted
      have hadd : s.pipeline.outFrameChange true =
          { s.pipeline with outstandingFrames := s.pipeline.outstandingFrames + 1 } := by
        simp only [GraphicsPipeline.outFrameChange, h.acking, if_true, Bool.false_eq_true, if_false]
      rw [hadd]
      exact ⟨h.ready, h.acking, h.bound, nofun⟩
    · cases he
  | setLastFrameMode =>
    simp only [gfxFlowStep] at he
    split at he
    · obtain rfl := Option.some.inj he
      exact ⟨h.ready, h.acking, h.bound, nofun⟩
    · cases he
  | frameAck queueDepth =>
    simp only [gfxFlowStep, Option.ite_none_right_eq_some, Option.some.injEq] at he
    obtain ⟨⟨hd, _⟩, rfl⟩ := he
    simp only [GraphicsPipeline.frameAck, hd, if_false]
    exact ⟨h.ready, rfl, h.bound, nofun⟩
  | maybeInit opened answer =>
    obtain rfl := Option.some.inj he
    rcases s.pipeline.maybeInit_of_ready opened answer h.ready with hp | hp
    · simp only [hp]
      exact h
    · simp only [hp]
      exact ⟨h.ready, h.acking, h.bound, h.parked⟩

theorem ledger_enterWait {s : GfxFlow} (hpc : s.pc = .wait ∨ s.pc = .parked) (w : CapacityWait) :
    (s.enterWait w).ledger = s.ledger := by
  rcases hpc with hpc | hpc <;> rcases w with _ | _ | _ <;>
    simp only [ledger, uncounted, nextMode, hpc, enterWait]

theorem ledgerStep_encoded {s : GfxFlow} {e : GfxEvent} (onFailure : GfxPc) (outcome : EncodeOutcome)
    (hpc : s.pc = .sendCached ∨ s.pc = .pull) (hf : onFailure = .pull ∨ onFailure = .wait)
    (he : outcome = .unsent → e = .sendCachedFrame .unsent ∨ e = .pullEncodedFrame .unsent) :
    s.LedgerStep e (s.encoded onFailure outcome).ledger := by
  have hu : s.uncounted = 0 := by rcases hpc with hpc | hpc <;> simp only [uncounted, hpc]
  have hm : s.nextMode = s.pipeline.lastFrameH264 := by
    rcases hpc with hpc | hpc <;> simp only [nextMode, hpc]
  have hl : s.ledger = { s.ledger with
      promised := s.pipeline.outstandingFrames, nextMode := s.pipeline.lastFrameH264 } := by
    simp only [ledger, hu, hm, Nat.add_zero]
  cases outcome with
  | sent h264 =>
    have hstep := LedgerStep.sent (s := s) e h264
    rwa [hl] at hstep
  | unsent =>
    have hstep := LedgerStep.unsent (s := s) e (he rfl) hu
    rwa [hl] at hstep
  | failed =>
    have hstep := LedgerStep.quiet (s := s) e
    rw [hl] at hstep
    rcases hf with rfl | rfl <;> exact hstep

theorem Running.ledger_outFrameChange {s s' : GfxFlow} (h : s.Running)
    (he : gfxFlowStep s .outFrameChange = some s') :
    s'.ledger = s.ledger ∧ s'.uncounted = 0 := by
  simp only [gfxFlowStep] at he
  split at he
  · next hpc =>
    obtain rfl := Option.some.inj he
    refine ⟨?_, rfl⟩
    simp only [ledger, uncounted, nextMode, hpc, GraphicsPipeline.outFrameChange, h.acking,
      if_true, Bool.false_eq_true, if_false]
  · cases he

theorem Running.ledgerStep {s s' : GfxFlow} {e : GfxEvent} (h : s.Running)
    (he : gfxFlowStep s e = some s') : s.LedgerStep e s'.ledger := by
  have quiet (heq : s'.ledger = s.ledger) : s.LedgerStep e s'.ledger := heq ▸ .quiet e
  cases e with
  | waitForCapacity =>
    simp only [gfxFlowStep, Option.ite_none_right_eq_some, Option.some.injEq] at he
    exact quiet (he.2 ▸ ledger_enterWait (Or.inl he.1) _)
  | wake =>
    simp only [gfxFlowStep, Option.ite_none_right_eq_some, Option.some.injEq] at he
    exact quiet (he.2 ▸ ledger_enterWait (Or.inr he.1) _)
  | canSubmit refreshDue =>
    simp only [gfxFlowStep, Option.ite_none_right_eq_some, Option.some.injEq] at he
    obtain ⟨hpc, rfl⟩ := he
    refine quiet ?_
    cases hs : s.pipeline.canSubmit <;> cases refreshDue <;>
      simp only [ledger, uncounted, nextMode, hpc, if_true, Bool.false_eq_true, if_false]
  | sendCachedFrame outcome =>
    simp only [gfxFlowStep, Option.ite_none_right_eq_some, Option.some.injEq] at he
    exact he.2 ▸ ledgerStep_encoded _ outcome (Or.inl he.1) (Or.inl rfl) fun ho => Or.inl (ho ▸ rfl)
  | pullEncodedFrame outcome =>
    simp only [gfxFlowStep, Option.ite_none_right_eq_some, Option.some.injEq] at he
    exact he.2 ▸ ledgerStep_encoded _ outcome (Or.inr he.1) (Or.inr rfl) fun ho => Or.inr (ho ▸ rfl)
  | outFrameChange => exact quiet (h.ledger_outFrameChange he).1
  | setLastFrameMode =>
    simp only [gfxFlowStep] at he
    split at he
    · next hpc =>
      obtain rfl := Option.some.inj he
      refine quiet ?_
      simp only [ledger, uncounted, nextMode, hpc, GraphicsPipeline.setLastFrameMode]
    · cases he
  | frameAck queueDepth =>
    simp only [gfxFlowStep, Option.ite_none_right_eq_some, Option.some.injEq] at he
    obtain ⟨⟨hd, hu⟩, rfl⟩ := he
    have hl := LedgerStep.acked (s := s) queueDepth hu
    cases hpc : s.pc <;>
      simpa only [ledger, uncounted, nextMode, hpc, GraphicsPipeline.frameAck, hd, if_false] using hl
  | maybeInit opened answer =>
    obtain rfl := Option.some.inj he
    refine quiet ?_
    rcases s.pipeline.maybeInit_of_ready opened answer h.ready with hp | hp <;>
      simp only [ledger, uncounted, nextMode, hp]

end GfxFlow

/-- Nothing lowers the counter below what it counts, so a credit is lost only
where the counter is raised for a frame that needs none: one whose
acknowledgement was processed first, or one that was never sent. -/
def GfxFlow.KeepsCredit (s : GfxFlow) : GfxEvent → Prop
  | .sendCachedFrame .unsent | .pullEncodedFrame .unsent =>
    s.pipeline.outstandingFrames < s.unacked
  | .frameAck _ => ¬ (s.uncounted = 1 ∧ s.pipeline.outstandingFrames = 0 ∧ s.unacked = 1)
  | _ => True

instance (s : GfxFlow) : DecidablePred s.KeepsCredit
  | .sendCachedFrame .unsent | .pullEncodedFrame .unsent =>
    inferInstanceAs (Decidable (s.pipeline.outstandingFrames < s.unacked))
  | .frameAck _ =>
    inferInstanceAs (Decidable (¬ (s.uncounted = 1 ∧ s.pipeline.outstandingFrames = 0 ∧ s.unacked = 1)))
  | .sendCachedFrame (.sent _) | .sendCachedFrame .failed | .pullEncodedFrame (.sent _)
  | .pullEncodedFrame .failed | .waitForCapacity | .wake | .canSubmit _ | .outFrameChange
  | .setLastFrameMode | .maybeInit .. => instDecidableTrue

/-- The counter stays below the frames still to be acknowledged, and the thread
does not wait for an acknowledgement that cannot come. -/
structure GfxFlow.CreditSafe (s : GfxFlow) : Prop where
  counted : s.pipeline.outstandingFrames ≤ s.unacked
  waits : s.pc = .parked → s.pipeline.capacityCond = false → 0 < s.unacked

namespace GfxFlow

/-- The invariant of the runs that keep the credit. -/
structure CreditKept (s : GfxFlow) : Prop where
  running : s.Running
  promised : s.ledger.promised ≤ s.ledger.unacked

theorem CreditKept.creditSafe {s : GfxFlow} (h : s.CreditKept) : s.CreditSafe := by
  have hp : s.pipeline.outstandingFrames + s.uncounted ≤ s.unacked := h.promised
  refine ⟨by omega, ?_⟩
  intro hpc hcond
  have hmax := s.pipeline.max_le_of_mustWait (h.running.parked hpc hcond)
  rw [h.running.bound] at hmax
  omega

theorem creditKept_inductive : gfxFlow.Inductive KeepsCredit CreditKept where
  init := by
    rintro s ⟨width, height, rfl⟩
    exact ⟨start_running width height, Nat.le_refl 0⟩
  step := by
    intro s e s' h hc he
    refine ⟨h.running.step he, ?_⟩
    have hp : s.pipeline.outstandingFrames + s.uncounted ≤ s.unacked := h.promised
    have hl := h.running.ledgerStep he
    generalize s'.ledger = ledger' at hl
    cases hl with
    | quiet => exact h.promised
    | sent _ _ => exact Nat.succ_le_succ h.promised
    -- a frame counted that was not sent needs an unused acknowledgement
    | unsent _ hun hu =>
      have hlt : s.pipeline.outstandingFrames < s.unacked := by
        rcases hun with rfl | rfl <;> exact hc
      change s.pipeline.outstandingFrames + s.uncounted + 1 ≤ s.unacked
      omega
    | acked _ hu =>
      have hone : s.uncounted ≤ 1 := by
        unfold uncounted
        split <;> omega
      -- the race: the only frame is acknowledged before it is counted
      have hrace : ¬ (s.uncounted = 1 ∧ s.pipeline.outstandingFrames = 0 ∧ s.unacked = 1) := hc
      dsimp only
      split
      · split <;> omega
      · omega

end GfxFlow

/-- In every run that keeps the credit, no state has lost one. -/
theorem credit_safe_of_keepsCredit (s : GfxFlow) (hs : gfxFlow.ReachableIf GfxFlow.KeepsCredit s) :
    s.CreditSafe :=
  (GfxFlow.creditKept_inductive.holds hs).creditSafe

/-- Each step that the condition excludes loses a credit as soon as the render
thread counts. -/
theorem credit_lost_of_not_keepsCredit (s s' s'' : GfxFlow) (e : GfxEvent) (h : s.CreditKept)
    (hc : ¬ s.KeepsCredit e) (he : gfxFlowStep s e = some s')
    (he' : gfxFlowStep s' .outFrameChange = some s'') : ¬ s''.CreditSafe := by
  have hover : s'.unacked < s'.pipeline.outstandingFrames + s'.uncounted := by
    cases e with
    -- the acknowledgement is gone, and the count is still to come
    | frameAck queueDepth =>
      simp only [GfxFlow.KeepsCredit, not_not] at hc
      obtain ⟨hu, ho, hone⟩ := hc
      simp only [gfxFlowStep, Option.ite_none_right_eq_some, Option.some.injEq] at he
      obtain ⟨_, rfl⟩ := he
      change s.unacked - 1 < _ + s.uncounted
      omega
    | sendCachedFrame outcome | pullEncodedFrame outcome =>
      cases outcome with
      | unsent =>
        simp only [GfxFlow.KeepsCredit, not_lt] at hc
        simp only [gfxFlowStep, Option.ite_none_right_eq_some, Option.some.injEq] at he
        obtain ⟨_, rfl⟩ := he
        exact Nat.lt_succ_of_le hc
      | _ => exact absurd trivial hc
    | _ => exact absurd trivial hc
  -- the count moves a frame, and promises no less
  obtain ⟨hl, hu⟩ := (h.running.step he).ledger_outFrameChange he'
  have hpromised : s''.pipeline.outstandingFrames + s''.uncounted =
      s'.pipeline.outstandingFrames + s'.uncounted := congrArg GfxFlow.Ledger.promised hl
  have hunacked : s''.unacked = s'.unacked := congrArg GfxFlow.Ledger.unacked hl
  intro hsafe
  have hcounted := hsafe.counted
  omega

/-- One frame sent, in the order of the render thread. -/
def gfxSends (h264 : Bool) : List GfxEvent :=
  [.waitForCapacity, .canSubmit false, .pullEncodedFrame (.sent h264), .outFrameChange,
    .setLastFrameMode]

theorem credit_safe_of_keepsCredit_sent :
    ((gfxFlow.run (.start 1920 1080) (gfxSends false ++ [.frameAck 1])).get rfl).CreditSafe :=
  credit_safe_of_keepsCredit _ (.run_get (gfxFlow_start 1920 1080) _ (by decide) rfl)

/-- The acknowledgement overtakes `out_frame_change`: nothing is unacknowledged
and the counter says one. -/
theorem gfx_flow_loses_credit : ∃ s, gfxFlow.Reachable s ∧ ¬ s.CreditSafe := by
  refine ⟨_, EventMachine.reachable_of_run (gfxFlow_start 1920 1080)
    [.waitForCapacity, .canSubmit false, .pullEncodedFrame (.sent false), .frameAck 0,
      .outFrameChange] rfl, ?_⟩
  exact fun h => absurd h.counted (by decide)

/-! The bound on unacknowledged frames when codecs are mixed. -/

namespace GfxFlow

/-- Every unacknowledged frame holds a slot, or an acknowledgement in H.264 mode
gave its slot back. -/
structure SlotsHeld (s : GfxFlow) : Prop where
  running : s.Running
  held : s.ledger.unacked ≤ s.ledger.promised + s.ledger.releasedEarly
  mode : s.ledger.lastSentH264 = false → s.ledger.nextMode = false

/-- What an acknowledgement takes from the counter it gives to the early releases,
except for the frame it acknowledges. -/
theorem released_covers_ack (s : GfxFlow) :
    s.pipeline.outstandingFrames + s.releasedEarly - 1 ≤
      (if 0 < s.pipeline.outstandingFrames then
        if s.pipeline.lastFrameH264 then 0 else s.pipeline.outstandingFrames - 1
      else s.pipeline.outstandingFrames) + s.releasedAfterAck := by
  unfold releasedAfterAck
  by_cases ho : s.pipeline.outstandingFrames = 0
  · simp only [ho, if_true, Nat.lt_irrefl, if_false]
    omega
  · simp only [ho, if_false, Nat.pos_of_ne_zero ho, if_true]
    split <;> omega

theorem slotsHeld_inductive : gfxFlow.Inductive (fun _ _ => True) SlotsHeld where
  init := by
    rintro s ⟨width, height, rfl⟩
    exact ⟨start_running width height, Nat.le_refl 0, fun _ => rfl⟩
  step := by
    intro s e s' h _ he
    have hheld : s.unacked ≤ s.pipeline.outstandingFrames + s.uncounted + s.releasedEarly := h.held
    have hl := h.running.ledgerStep he
    have hrunning := h.running.step he
    suffices hs : s'.ledger.unacked ≤ s'.ledger.promised + s'.ledger.releasedEarly ∧
        (s'.ledger.lastSentH264 = false → s'.ledger.nextMode = false) from
      ⟨hrunning, hs.1, hs.2⟩
    generalize s'.ledger = ledger' at hl ⊢
    cases hl with
    | quiet => exact ⟨h.held, h.mode⟩
    | sent _ h264 => exact ⟨by dsimp only [ledger]; omega, id⟩
    | unsent => exact ⟨by dsimp only [ledger]; omega, fun _ => rfl⟩
    | acked =>
      refine ⟨?_, h.mode⟩
      have hreleased := s.released_covers_ack
      dsimp only
      omega

end GfxFlow

/-- Between two checks that both return TRUE after a frame that was not H.264,
fewer than `max_outstanding_frames` frames are unacknowledged, besides those
whose slot an acknowledgement in H.264 mode gave back. -/
theorem unacked_lt_of_admitted (s : GfxFlow) (hs : gfxFlow.Reachable s) (hpc : s.pc = .submit)
    (hsubmit : s.pipeline.canSubmit = true) (hlast : s.lastSentH264 = false) :
    s.unacked < s.pipeline.maxOutstandingFrames + s.releasedEarly := by
  have h := GfxFlow.slotsHeld_inductive.holds hs
  have hheld : s.unacked ≤ s.pipeline.outstandingFrames + s.uncounted + s.releasedEarly := h.held
  have hmode : s.pipeline.lastFrameH264 = false := by
    simpa only [GfxFlow.ledger, GfxFlow.nextMode, hpc] using h.mode hlast
  have hlt := s.pipeline.lt_max_of_canSubmit hsubmit h.running.acking hmode
  have hcounted : s.uncounted = 0 := by simp only [GfxFlow.uncounted, hpc]
  omega

theorem unacked_lt_of_admitted_progressive :
    ((gfxFlow.run (.start 1920 1080) (gfxSends false ++ [.waitForCapacity])).get rfl).unacked < 3 :=
  unacked_lt_of_admitted _ (EventMachine.reachable_run_get (gfxFlow_start 1920 1080) _ rfl) rfl rfl rfl

/-- Three H.264 frames, one acknowledgement, and a Progressive frame leave three
frames unacknowledged while both checks admit another. -/
theorem gfx_flow_exceeds_max : ∃ s, gfxFlow.Reachable s ∧ s.pc = .submit ∧
    s.pipeline.canSubmit = true ∧ s.lastSentH264 = false ∧
    s.pipeline.maxOutstandingFrames ≤ s.unacked := by
  refine ⟨_, EventMachine.reachable_of_run (gfxFlow_start 1920 1080)
    (gfxSends true ++ gfxSends true ++ gfxSends true ++ [.frameAck 0] ++ gfxSends false ++
      [.waitForCapacity]) rfl, ?_⟩
  decide

end RemoteDesktop.DRD
