import RemoteDesktop.EventMachine
import RemoteDesktop.DRDEncodingManager

/-! `drd_encoding_manager_force_keyframe` against the steps of an encode. The call
comes from the thread of the connection, so it falls between any two steps of the
render thread. -/
namespace RemoteDesktop.DRD

/-- The history that a keyframe request is about. -/
inductive KeyframeEntry
  | requested
  | began
  | full
  | incremental
  deriving DecidableEq, Repr

def SurfaceUpdate.entry : SurfaceUpdate → KeyframeEntry
  | .whole => .full
  | .rects _ => .incremental

def GfxCodec.context : GfxCodec → EncoderContext
  | .avc444 => .avc
  | .avc420 => .avc
  | .progressive => .progressive
  | .remotefx => .remotefx

def GfxCodec.codecClass : GfxCodec → EncodingCodecClass
  | .avc444 => .avc
  | .avc420 => .avc
  | .progressive => .nonAvc
  | .remotefx => .nonAvc

/-- What an encode keeps from the read of the flag to its end. -/
structure EncodeJob where
  plan : EncodePlan
  codecClass : EncodingCodecClass
  update : SurfaceUpdate
  keyframe : Bool

/-- Where the render thread is inside `encode_surface_gfx`. -/
inductive EncodePhase
  | idle
  | chosen (plan : EncodePlan)
  | compressing (job : EncodeJob)
  | sending (job : EncodeJob)
  | storing (job : EncodeJob)
  | failing
  | clearing

/-- What the encode in progress gives to its compressor and then sends. -/
def EncodePhase.job : EncodePhase → Option EncodeJob
  | .compressing job => some job
  | .sending job => some job
  | _ => none

/-- `log` is the history, the newest entry first. -/
structure KeyframeRun where
  manager : EncodingManager
  phase : EncodePhase := .idle
  log : List KeyframeEntry := []

inductive KeyframeEvent
  | forceKeyframe
  | prepare (options : EncodingOptions)
  | reset
  | encodeSurfaceGfx (settings : GfxSettings) (input : Frame) (autoSwitch vaapiPrepare : Bool)
  | encodeCachedFrameGfx (settings : GfxSettings) (autoSwitch vaapiPrepare : Bool)
  | start (initialised : Bool) (now : ℤ)
  | compress (rc : ℤ)
  | surfaceFrameCommand (rc : UInt32)
  | store (now : ℤ)
  | finish

namespace KeyframeRun

variable (s : KeyframeRun)

def beginEncode (m : EncodingManager) (settings : GfxSettings) (input : Frame)
    (autoSwitch vaapiPrepare : Bool) : KeyframeRun :=
  if !m.ready then { s with manager := m, log := .began :: s.log }
  else
    let (m, plan) := m.beginEncode settings input autoSwitch vaapiPrepare
    { manager := m, phase := .chosen plan, log := .began :: s.log }

/-- The codec context, and for the two non-AVC codecs the read of the flag. -/
def start (plan : EncodePlan) (initialised : Bool) (now : ℤ) : Option KeyframeRun :=
  match plan.codec with
  | none => some { s with phase := .idle }
  | some codec =>
    match s.manager.encoderPrepare codec.context initialised with
    | none => some { s with phase := .idle }
    | some m =>
      if codec.codecClass = .avc then
        some { s with manager := m, phase := .compressing ⟨plan, .avc, .whole, true⟩ }
      else
        match m.startNonAvc plan now with
        | (m, none) => some { s with manager := m, phase := .idle }
        | (m, some (update, keyframe)) =>
          -- the assertion on the number of rectangles
          if codec = .remotefx ∧ 65535 < update.rectCount then none
          else some { s with manager := m, phase := .compressing ⟨plan, .nonAvc, update, keyframe⟩ }

/-- The return of SurfaceFrameCommand. Only the two non-AVC codecs set the flag
after a failure. -/
def surfaceFrameCommand (job : EncodeJob) (rc : UInt32) : KeyframeRun :=
  if rc = 0 then { s with phase := .storing job, log := job.update.entry :: s.log }
  else { s with phase := if job.codecClass = .avc then .idle else .failing }

def store (job : EncodeJob) (now : ℤ) : KeyframeRun :=
  { s with
    manager := s.manager.storeFrame job.plan.frame job.codecClass job.keyframe now
    phase := if job.codecClass = .avc then .idle else .clearing }

def step : KeyframeEvent → Option KeyframeRun
  | .forceKeyframe => some { s with manager := s.manager.forceKeyframe, log := .requested :: s.log }
  | .prepare options =>
    match s.phase with
    | .idle => some { s with manager := (s.manager.prepare options).1 }
    | _ => none
  | .reset =>
    match s.phase with
    | .idle => some { s with manager := s.manager.reset }
    | _ => none
  | .encodeSurfaceGfx settings input autoSwitch vaapiPrepare =>
    match s.phase with
    | .idle => some (s.beginEncode s.manager settings input autoSwitch vaapiPrepare)
    | _ => none
  | .encodeCachedFrameGfx settings autoSwitch vaapiPrepare =>
    match s.phase with
    | .idle =>
      if !s.manager.ready then some s
      -- there is no cached frame yet
      else if s.manager.gfxPreviousFrame.length = 0 ∨ s.manager.gfxDiffWidth = 0 ∨
          s.manager.gfxDiffHeight = 0 ∨ s.manager.gfxDiffStride = 0 then some s
      else some (s.beginEncode s.manager.forceKeyframe settings s.manager.cachedFrame autoSwitch
        vaapiPrepare)
    | _ => none
  | .start initialised now =>
    match s.phase with
    | .chosen plan => s.start plan initialised now
    | _ => none
  | .compress rc =>
    match s.phase with
    | .compressing job => some { s with phase := if 0 < rc then .sending job else .idle }
    | _ => none
  | .surfaceFrameCommand rc =>
    match s.phase with
    | .sending job => some (s.surfaceFrameCommand job rc)
    | _ => none
  | .store now =>
    match s.phase with
    | .storing job => some (s.store job now)
    | _ => none
  | .finish =>
    match s.phase with
    | .failing => some { s with manager := s.manager.forceKeyframe, phase := .idle }
    | .clearing => some { s with manager := s.manager.clearForceKeyframe, phase := .idle }
    | _ => none

/-- `encode_cached_frame_gfx` has nothing to send: no encoder, or no cached frame yet. -/
def LacksCachedFrame : Prop :=
  s.manager.ready = false ∨ s.manager.gfxPreviousFrame.length = 0 ∨ s.manager.gfxDiffWidth = 0 ∨
    s.manager.gfxDiffHeight = 0 ∨ s.manager.gfxDiffStride = 0

/-- A step, by the phase that it is for. -/
inductive Move : KeyframeEvent → KeyframeRun → Prop
  | forceKeyframe : Move .forceKeyframe
      { s with manager := s.manager.forceKeyframe, log := .requested :: s.log }
  | prepare (hphase : s.phase = .idle) (options : EncodingOptions) : Move (.prepare options)
      { s with manager := (s.manager.prepare options).1 }
  | reset (hphase : s.phase = .idle) : Move .reset { s with manager := s.manager.reset }
  | encodeSurfaceGfx (hphase : s.phase = .idle) (settings : GfxSettings) (input : Frame)
      (autoSwitch vaapiPrepare : Bool) :
      Move (.encodeSurfaceGfx settings input autoSwitch vaapiPrepare)
        (s.beginEncode s.manager settings input autoSwitch vaapiPrepare)
  | noCachedFrame (hphase : s.phase = .idle) (hnone : s.LacksCachedFrame) (settings : GfxSettings)
      (autoSwitch vaapiPrepare : Bool) :
      Move (.encodeCachedFrameGfx settings autoSwitch vaapiPrepare) s
  | cachedFrame (hphase : s.phase = .idle) (hcached : ¬ s.LacksCachedFrame) (settings : GfxSettings)
      (autoSwitch vaapiPrepare : Bool) :
      Move (.encodeCachedFrameGfx settings autoSwitch vaapiPrepare)
        (s.beginEncode s.manager.forceKeyframe settings s.manager.cachedFrame autoSwitch
          vaapiPrepare)
  | start {plan : EncodePlan} {initialised : Bool} {now : ℤ} {s' : KeyframeRun}
      (hphase : s.phase = .chosen plan) (hstart : s.start plan initialised now = some s') :
      Move (.start initialised now) s'
  | compress {job : EncodeJob} (hphase : s.phase = .compressing job) (rc : ℤ) :
      Move (.compress rc) { s with phase := if 0 < rc then .sending job else .idle }
  | surfaceFrameCommand {job : EncodeJob} (hphase : s.phase = .sending job) (rc : UInt32) :
      Move (.surfaceFrameCommand rc) (s.surfaceFrameCommand job rc)
  | store {job : EncodeJob} (hphase : s.phase = .storing job) (now : ℤ) :
      Move (.store now) (s.store job now)
  | failing (hphase : s.phase = .failing) : Move .finish
      { s with manager := s.manager.forceKeyframe, phase := .idle }
  | clearing (hphase : s.phase = .clearing) : Move .finish
      { s with manager := s.manager.clearForceKeyframe, phase := .idle }

variable {s}

theorem step_move {e : KeyframeEvent} {s' : KeyframeRun} (h : s.step e = some s') :
    s.Move e s' := by
  cases e with
  | forceKeyframe => exact Option.some.inj h ▸ .forceKeyframe
  | prepare options =>
    simp only [step] at h
    split at h
    · next hphase => exact Option.some.inj h ▸ .prepare hphase options
    · cases h
  | reset =>
    simp only [step] at h
    split at h
    · next hphase => exact Option.some.inj h ▸ .reset hphase
    · cases h
  | encodeSurfaceGfx settings input autoSwitch vaapiPrepare =>
    simp only [step] at h
    split at h
    · next hphase =>
      exact Option.some.inj h ▸ .encodeSurfaceGfx hphase settings input autoSwitch vaapiPrepare
    · cases h
  | encodeCachedFrameGfx settings autoSwitch vaapiPrepare =>
    simp only [step] at h
    split at h
    · next hphase =>
      split at h
      · next hready =>
        have hnone : s.LacksCachedFrame := .inl (by simpa using hready)
        exact Option.some.inj h ▸ .noCachedFrame hphase hnone settings autoSwitch vaapiPrepare
      · next hready =>
        split at h
        · next hguard =>
          exact Option.some.inj h ▸
            .noCachedFrame hphase (.inr hguard) settings autoSwitch vaapiPrepare
        · next hguard =>
          have hcached : ¬ s.LacksCachedFrame :=
            not_or.mpr ⟨fun hnot => hready (by simpa using hnot), hguard⟩
          exact Option.some.inj h ▸ .cachedFrame hphase hcached settings autoSwitch vaapiPrepare
    · cases h
  | start initialised now =>
    simp only [step] at h
    split at h
    · next plan hphase => exact .start hphase h
    · cases h
  | compress rc =>
    simp only [step] at h
    split at h
    · next job hphase => exact Option.some.inj h ▸ .compress hphase rc
    · cases h
  | surfaceFrameCommand rc =>
    simp only [step] at h
    split at h
    · next job hphase => exact Option.some.inj h ▸ .surfaceFrameCommand hphase rc
    · cases h
  | store now =>
    simp only [step] at h
    split at h
    · next job hphase => exact Option.some.inj h ▸ .store hphase now
    · cases h
  | finish =>
    simp only [step] at h
    split at h
    · next hphase => exact Option.some.inj h ▸ .failing hphase
    · next hphase => exact Option.some.inj h ▸ .clearing hphase
    · cases h

end KeyframeRun

/-- The runs from any manager between two encodes, with any interleaving. -/
def keyframeMachine : EventMachine KeyframeRun KeyframeEvent where
  init s := s.phase = .idle ∧ s.log = []
  step := KeyframeRun.step

/-! An encode that no call disturbs goes through these steps to the outcome of
`encode_surface_gfx`. -/

/-- What an outcome adds to the history. -/
def GfxEncodeOutcome.entries (outcome : GfxEncodeOutcome) : List KeyframeEntry :=
  match outcome.command with
  | some (update, rc) => if rc = 0 then [update.entry] else []
  | none => []

namespace KeyframeRun

/-- Steps of the render thread alone end the encode with the outcome. -/
def Completes (s : KeyframeRun) (outcome : GfxEncodeOutcome) : Prop :=
  ∃ es : List KeyframeEvent, KeyframeEvent.forceKeyframe ∉ es ∧
    keyframeMachine.run s es =
      some { manager := outcome.manager, phase := .idle, log := outcome.entries ++ s.log }

variable {m : EncodingManager} {plan : EncodePlan} {log : List KeyframeEntry}
  {outcome : GfxEncodeOutcome}

theorem Completes.step {s s' : KeyframeRun} {e : KeyframeEvent} (h : s'.Completes outcome)
    (hne : e ≠ .forceKeyframe) (he : s.step e = some s') (hlog : s'.log = s.log) :
    s.Completes outcome := by
  obtain ⟨es, hes, hrun⟩ := h
  refine ⟨e :: es, List.not_mem_cons_of_ne_of_not_mem hne.symm hes, ?_⟩
  have hstep : keyframeMachine.step s e = some s' := he
  rw [EventMachine.run, hstep, ← hlog]
  exact hrun

theorem completes_unsent (hcommand : outcome.command = none) :
    Completes { manager := outcome.manager, phase := .idle, log := log } outcome := by
  refine ⟨[], List.not_mem_nil, ?_⟩
  rw [GfxEncodeOutcome.entries, hcommand]
  rfl

theorem completes_sendAvc (env : EncodeEnv) :
    Completes { manager := m, phase := .sending ⟨plan, .avc, .whole, true⟩, log := log }
      (m.sendAvc plan env) := by
  by_cases hrc : env.surfaceFrameCommand = 0
  · refine ⟨[.surfaceFrameCommand 0, .store env.registerNow], by simp, ?_⟩
    simp [EventMachine.run, keyframeMachine, KeyframeRun.step, KeyframeRun.surfaceFrameCommand,
      KeyframeRun.store, EncodingManager.sendAvc, GfxEncodeOutcome.entries, hrc]
  · refine ⟨[.surfaceFrameCommand env.surfaceFrameCommand], by simp, ?_⟩
    simp [EventMachine.run, keyframeMachine, KeyframeRun.step, KeyframeRun.surfaceFrameCommand,
      EncodingManager.sendAvc, GfxEncodeOutcome.entries, hrc]

theorem completes_sendNonAvc (env : EncodeEnv) (update : SurfaceUpdate) (keyframe : Bool) :
    Completes { manager := m, phase := .sending ⟨plan, .nonAvc, update, keyframe⟩, log := log }
      (m.sendNonAvc plan env update keyframe) := by
  by_cases hrc : env.surfaceFrameCommand = 0
  · refine ⟨[.surfaceFrameCommand 0, .store env.registerNow, .finish], by simp, ?_⟩
    simp [EventMachine.run, keyframeMachine, KeyframeRun.step, KeyframeRun.surfaceFrameCommand,
      KeyframeRun.store, EncodingManager.sendNonAvc, EncodingManager.finishNonAvc,
      GfxEncodeOutcome.entries, hrc]
  · refine ⟨[.surfaceFrameCommand env.surfaceFrameCommand, .finish], by simp, ?_⟩
    simp [EventMachine.run, keyframeMachine, KeyframeRun.step, KeyframeRun.surfaceFrameCommand,
      EncodingManager.sendNonAvc, GfxEncodeOutcome.entries, hrc]

/-- A compressor that made data is followed by SurfaceFrameCommand. -/
theorem completes_compressed {job : EncodeJob}
    (h : Completes { manager := m, phase := .sending job, log := log } outcome) :
    Completes { manager := m, phase := .compressing job, log := log } outcome :=
  h.step (e := .compress 1) (by simp) rfl rfl

/-- A compressor that made none ends the encode. -/
theorem completes_uncompressed {job : EncodeJob} (hmanager : outcome.manager = m)
    (hcommand : outcome.command = none) :
    Completes { manager := m, phase := .compressing job, log := log } outcome := by
  rw [← hmanager]
  exact (completes_unsent hcommand).step (e := .compress 0) (by simp) rfl rfl

theorem completes_avc420Software (env : EncodeEnv) :
    Completes { manager := m, phase := .compressing ⟨plan, .avc, .whole, true⟩, log := log }
      (m.encodeAvc420Software plan env) := by
  rw [EncodingManager.encodeAvc420Software]
  split
  · exact completes_uncompressed rfl rfl
  · split
    · exact completes_uncompressed rfl rfl
    · exact completes_compressed (completes_sendAvc env)

section Start

variable {codec : GfxCodec} {initialised : Bool} {now : ℤ} {m₁ m₂ : EncodingManager}
  (hcodec : plan.codec = some codec)

include hcodec

theorem completes_unprepared (hprepare : m.encoderPrepare codec.context initialised = none)
    (hmanager : outcome.manager = m) (hcommand : outcome.command = none) :
    Completes { manager := m, phase := .chosen plan, log := log } outcome := by
  refine (completes_unsent hcommand).step (e := .start initialised 0) (by simp) ?_ rfl
  simp [KeyframeRun.step, KeyframeRun.start, hcodec, hprepare, hmanager]

theorem completes_prepared (hprepare : m.encoderPrepare codec.context initialised = some m₁)
    (hclass : codec.codecClass = .avc)
    (h : Completes { manager := m₁, phase := .compressing ⟨plan, .avc, .whole, true⟩, log := log }
      outcome) :
    Completes { manager := m, phase := .chosen plan, log := log } outcome := by
  refine h.step (e := .start initialised 0) (by simp) ?_ rfl
  simp [KeyframeRun.step, KeyframeRun.start, hcodec, hprepare, hclass]

theorem completes_clean (hprepare : m.encoderPrepare codec.context initialised = some m₁)
    (hclass : codec.codecClass = .nonAvc) (hstart : m₁.startNonAvc plan now = (m₂, none))
    (hmanager : outcome.manager = m₂) (hcommand : outcome.command = none) :
    Completes { manager := m, phase := .chosen plan, log := log } outcome := by
  refine (completes_unsent hcommand).step (e := .start initialised now) (by simp) ?_ rfl
  simp [KeyframeRun.step, KeyframeRun.start, hcodec, hprepare, hclass, hstart, hmanager]

theorem completes_started {update : SurfaceUpdate} {keyframe : Bool}
    (hprepare : m.encoderPrepare codec.context initialised = some m₁)
    (hclass : codec.codecClass = .nonAvc)
    (hstart : m₁.startNonAvc plan now = (m₂, some (update, keyframe)))
    (hcount : ¬ (codec = .remotefx ∧ 65535 < update.rectCount))
    (h : Completes
      { manager := m₂, phase := .compressing ⟨plan, .nonAvc, update, keyframe⟩, log := log }
      outcome) :
    Completes { manager := m, phase := .chosen plan, log := log } outcome := by
  refine h.step (e := .start initialised now) (by simp) ?_ rfl
  simp [KeyframeRun.step, KeyframeRun.start, hcodec, hprepare, hclass, hstart, hcount]

end Start

theorem completes_avc444 (hcodec : plan.codec = some .avc444) (env : EncodeEnv) :
    Completes { manager := m, phase := .chosen plan, log := log } (m.encodeAvc444 plan env) := by
  rw [EncodingManager.encodeAvc444]
  split
  · rename_i hprepare
    exact completes_unprepared hcodec hprepare rfl rfl
  · rename_i m₁ hprepare
    apply completes_prepared hcodec hprepare rfl
    split
    · exact completes_uncompressed rfl rfl
    · split
      · exact completes_uncompressed rfl rfl
      · exact completes_compressed (completes_sendAvc env)

theorem completes_avc420 (hcodec : plan.codec = some .avc420) (env : EncodeEnv) :
    Completes { manager := m, phase := .chosen plan, log := log } (m.encodeAvc420 plan env) := by
  rw [EncodingManager.encodeAvc420]
  split
  · rename_i hprepare
    exact completes_unprepared hcodec hprepare rfl rfl
  · rename_i m₁ hprepare
    apply completes_prepared hcodec hprepare rfl
    split
    · cases env.vaapiEncode with
      | encoded => exact completes_compressed (completes_sendAvc env)
      | pending => exact completes_uncompressed rfl rfl
      | failed => exact completes_avc420Software env
    · exact completes_avc420Software env

theorem completes_progressive (hcodec : plan.codec = some .progressive) (env : EncodeEnv) :
    Completes { manager := m, phase := .chosen plan, log := log }
      (m.encodeProgressive plan env) := by
  rw [EncodingManager.encodeProgressive]
  split
  · rename_i hprepare
    exact completes_unprepared hcodec hprepare rfl rfl
  · rename_i m₁ hprepare
    split
    · rename_i m₂ hstart
      exact completes_clean hcodec hprepare rfl hstart rfl rfl
    · rename_i m₂ update keyframe hstart
      apply completes_started hcodec hprepare rfl hstart (by simp)
      split
      · exact completes_uncompressed rfl rfl
      · split
        · exact completes_uncompressed rfl rfl
        · exact completes_compressed (completes_sendNonAvc env update keyframe)

theorem completes_remotefx (hcodec : plan.codec = some .remotefx) {env : EncodeEnv}
    (ho : m.encodeRemotefx plan env = some outcome) :
    Completes { manager := m, phase := .chosen plan, log := log } outcome := by
  rw [EncodingManager.encodeRemotefx] at ho
  split at ho
  · rename_i hprepare
    rw [← Option.some.inj ho]
    exact completes_unprepared hcodec hprepare rfl rfl
  · rename_i m₁ hprepare
    split at ho
    · rename_i m₂ hstart
      rw [← Option.some.inj ho]
      -- no tile is dirty, so there is no frame to send
      exact completes_clean hcodec hprepare rfl hstart rfl rfl
    · rename_i m₂ update keyframe hstart
      split at ho
      · simp at ho
      · rename_i hcount
        apply completes_started hcodec hprepare rfl hstart (fun h => hcount h.2)
        split at ho
        · rw [← Option.some.inj ho]
          exact completes_uncompressed rfl rfl
        · split at ho
          · rw [← Option.some.inj ho]
            exact completes_uncompressed rfl rfl
          · rw [← Option.some.inj ho]
            exact completes_compressed (completes_sendNonAvc env update keyframe)

theorem completes_encodeWith {env : EncodeEnv} (ho : m.encodeWith plan env = some outcome) :
    Completes { manager := m, phase := .chosen plan, log := log } outcome := by
  rw [EncodingManager.encodeWith] at ho
  split at ho
  · rename_i hcodec
    exact Option.some.inj ho ▸ completes_avc444 hcodec env
  · rename_i hcodec
    exact Option.some.inj ho ▸ completes_avc420 hcodec env
  · rename_i hcodec
    exact Option.some.inj ho ▸ completes_progressive hcodec env
  · rename_i hcodec
    exact completes_remotefx hcodec ho
  · rename_i hcodec
    rw [← Option.some.inj ho]
    refine (completes_unsent rfl).step (e := .start true 0) (by simp) ?_ rfl
    simp [KeyframeRun.step, KeyframeRun.start, hcodec]

/-- Every outcome of `encode_surface_gfx` is the end of a run of its steps. -/
theorem encodeSurfaceGfx_run {settings : GfxSettings} {input : Frame} {autoSwitch : Bool}
    {env : EncodeEnv} (ho : m.encodeSurfaceGfx settings input autoSwitch env = some outcome) :
    ∃ es : List KeyframeEvent, KeyframeEvent.forceKeyframe ∉ es ∧
      keyframeMachine.run { manager := m, phase := .idle, log := log }
          (.encodeSurfaceGfx settings input autoSwitch env.vaapiPrepare :: es) =
        some { manager := outcome.manager, phase := .idle
               log := outcome.entries ++ .began :: log } := by
  cases hready : m.ready with
  | false =>
    -- the error return, before anything is read
    simp only [EncodingManager.encodeSurfaceGfx, hready, Bool.not_false, if_true] at ho
    rw [← Option.some.inj ho]
    refine ⟨[], List.not_mem_nil, ?_⟩
    simp [EventMachine.run, keyframeMachine, KeyframeRun.step, KeyframeRun.beginEncode, hready,
      GfxEncodeOutcome.entries]
  | true =>
    have hencode : (m.beginEncode settings input autoSwitch env.vaapiPrepare).1.encodeWith
        (m.beginEncode settings input autoSwitch env.vaapiPrepare).2 env = some outcome := by
      rw [EncodingManager.encodeSurfaceGfx, hready] at ho
      exact ho
    have hcompletes : Completes { manager := _, phase := .chosen _, log := .began :: log } outcome :=
      completes_encodeWith hencode
    obtain ⟨es, hes, hrun⟩ := hcompletes
    refine ⟨es, hes, ?_⟩
    rw [EventMachine.run, ← hrun]
    simp only [keyframeMachine, KeyframeRun.step, KeyframeRun.beginEncode, hready]
    rfl

/-- Every outcome of `encode_cached_frame_gfx` is one, too. -/
theorem encodeCachedFrameGfx_run {settings : GfxSettings} {autoSwitch : Bool} {env : EncodeEnv}
    (ho : m.encodeCachedFrameGfx settings autoSwitch env = some outcome) :
    ∃ es began : List _, KeyframeEvent.forceKeyframe ∉ es ∧
      keyframeMachine.run { manager := m, phase := .idle, log := log }
          (.encodeCachedFrameGfx settings autoSwitch env.vaapiPrepare :: es) =
        some { manager := outcome.manager, phase := .idle
               log := outcome.entries ++ (began ++ log) } := by
  rw [EncodingManager.encodeCachedFrameGfx] at ho
  split at ho
  · rename_i hready
    rw [← Option.some.inj ho]
    refine ⟨[], [], List.not_mem_nil, ?_⟩
    simp [EventMachine.run, keyframeMachine, KeyframeRun.step, hready, GfxEncodeOutcome.entries]
  · rename_i hready
    split at ho
    · rename_i hguard
      rw [← Option.some.inj ho]
      refine ⟨[], [], List.not_mem_nil, ?_⟩
      simp only [EventMachine.run, keyframeMachine, KeyframeRun.step, if_neg hready, if_pos hguard]
      rfl
    · rename_i hguard
      have hencode : ∃ es : List KeyframeEvent, KeyframeEvent.forceKeyframe ∉ es ∧
          keyframeMachine.run { manager := m.forceKeyframe, phase := .idle, log := log }
              (.encodeSurfaceGfx settings m.cachedFrame autoSwitch env.vaapiPrepare :: es) =
            some { manager := outcome.manager, phase := .idle
                   log := outcome.entries ++ .began :: log } := encodeSurfaceGfx_run ho
      obtain ⟨es, hes, hrun⟩ := hencode
      refine ⟨es, [.began], hes, ?_⟩
      -- past the guards it is an encode of the cached frame with the flag set
      have hforced : ¬ (!m.forceKeyframe.ready) = true := hready
      rw [EventMachine.run] at hrun ⊢
      simp only [keyframeMachine, KeyframeRun.step, KeyframeRun.beginEncode, if_neg hready,
        if_neg hguard, if_neg hforced] at hrun ⊢
      exact hrun

end KeyframeRun

/-! The history. -/

/-- A force_keyframe call came after the last full frame. -/
def outstanding : List KeyframeEntry → Bool
  | [] => false
  | .requested :: _ => true
  | .full :: _ => false
  | _ :: log => outstanding log

/-- A force_keyframe call that came before the last begin of an encode still waits
for a full frame. -/
def owed : List KeyframeEntry → Bool
  | [] => false
  | .began :: log => outstanding log
  | .full :: _ => false
  | _ :: log => owed log

/-- Between a request and an incremental frame of an encode that began after it
there is a full frame. -/
def NoneLost (log : List KeyframeEntry) : Prop :=
  ∀ later during between earlier : List KeyframeEntry,
    log = later ++ .incremental :: (during ++ .began :: (between ++ .requested :: earlier)) →
    KeyframeEntry.began ∉ during → KeyframeEntry.full ∈ during ∨ KeyframeEntry.full ∈ between

section History

variable {log during between earlier : List KeyframeEntry}

theorem outstanding_append (hfull : KeyframeEntry.full ∉ between) :
    outstanding (between ++ .requested :: earlier) = true := by
  induction between with
  | nil => rfl
  | cons e between ih =>
    have htail := ih (List.not_mem_of_not_mem_cons hfull)
    cases e with
    | requested => rfl
    | began => exact htail
    | full => exact absurd List.mem_cons_self hfull
    | incremental => exact htail

theorem owed_append (hbegan : KeyframeEntry.began ∉ during) (hfull : KeyframeEntry.full ∉ during) :
    owed (during ++ .began :: log) = outstanding log := by
  induction during with
  | nil => rfl
  | cons e during ih =>
    have htail := ih (List.not_mem_of_not_mem_cons hbegan) (List.not_mem_of_not_mem_cons hfull)
    cases e with
    | requested => exact htail
    | began => exact absurd List.mem_cons_self hbegan
    | full => exact absurd List.mem_cons_self hfull
    | incremental => exact htail

theorem outstanding_of_owed (h : owed log = true) : outstanding log = true := by
  induction log with
  | nil => exact h
  | cons e log ih =>
    cases e with
    | requested => rfl
    | began => exact h
    | full => exact h
    | incremental => exact ih h

theorem owed_eq_false (h : outstanding log = false) : owed log = false := by
  by_contra howed
  have := outstanding_of_owed (Bool.not_eq_false _ ▸ howed)
  simp [h] at this

theorem noneLost_nil : NoneLost [] := by
  intro later during between earlier hlog
  simp at hlog

/-- One more entry loses no request unless it is an incremental frame while a full
frame is owed. -/
theorem NoneLost.cons {e : KeyframeEntry} (h : NoneLost log)
    (he : e = .incremental → owed log = false) : NoneLost (e :: log) := by
  intro later during between earlier hlog hbegan
  cases later with
  | nil =>
    obtain ⟨rfl, rfl⟩ := List.cons.inj hlog
    by_contra hnone
    obtain ⟨hduring, hbetween⟩ := not_or.mp hnone
    have howed := he rfl
    rw [owed_append hbegan hduring, outstanding_append hbetween] at howed
    exact Bool.noConfusion howed
  | cons e' later => exact h later during between earlier (List.cons.inj hlog).2 hbegan

end History

/-! The flag through the steps of an encode. -/

namespace EncodingManager

variable {m m' : EncodingManager}

theorem storeFrame_forceKeyframe (m : EncodingManager) (frame : Frame)
    (codecClass : EncodingCodecClass) (keyframe : Bool) (now : ℤ) :
    (m.storeFrame frame codecClass keyframe now).gfxForceKeyframe = m.gfxForceKeyframe := by
  have hupdate (m : EncodingManager) :
      (m.updateTileHashes frame.data frame.stride).gfxForceKeyframe = m.gfxForceKeyframe := by
    rw [updateTileHashes]
    split
    · rfl
    · rfl
  rw [storeFrame]
  cases codecClass with
  | nonAvc =>
    show (registerNonAvc _ keyframe now).gfxForceKeyframe = _
    rw [registerNonAvc_forceKeyframe, hupdate]
    rfl
  | unknown => exact hupdate _
  | avc => exact hupdate _

theorem beginEncode_forceKeyframe (settings : GfxSettings) (input : Frame)
    (autoSwitch vaapiPrepare : Bool) (h : m.gfxForceKeyframe = true) :
    (m.beginEncode settings input autoSwitch vaapiPrepare).1.gfxForceKeyframe = true := by
  simp only [beginEncode, prepareGfxDiffState]
  split
  · exact h
  · rfl

theorem reset_forceKeyframe (h : m.gfxForceKeyframe = true) : m.reset.gfxForceKeyframe = true := by
  rw [reset]
  split
  · exact h
  · rfl

theorem prepare_forceKeyframe (options : EncodingOptions) (h : m.gfxForceKeyframe = true) :
    (m.prepare options).1.gfxForceKeyframe = true := by
  rw [prepare]
  split
  · exact h
  · split
    · exact reset_forceKeyframe h
    · rfl

/-- The read of the flag: it stays as it is, and while it is set the compressor gets
the whole surface. -/
theorem startNonAvc_spec {plan : EncodePlan} {now : ℤ} {started : Option (SurfaceUpdate × Bool)}
    (h : m.startNonAvc plan now = (m', started)) :
    m'.gfxForceKeyframe = m.gfxForceKeyframe ∧ ∀ update keyframe,
      started = some (update, keyframe) → m.gfxForceKeyframe = true → update = .whole := by
  rw [startNonAvc] at h
  split at h
  · rw [Prod.mk.injEq] at h
    obtain ⟨rfl, rfl⟩ := h
    refine ⟨rfl, ?_⟩
    intro update keyframe hupdate _
    rw [Option.some.injEq, Prod.mk.injEq] at hupdate
    exact hupdate.1.symm
  · rename_i hkeyframe
    have hforce : m.gfxForceKeyframe = false := by
      simp only [keyframeEncode, Bool.or_eq_true, not_or, Bool.not_eq_true] at hkeyframe
      exact hkeyframe.1.1
    refine ⟨?_, fun update keyframe _ hset => ?_⟩
    · split at h <;> rw [← (Prod.mk.inj h).1]
    · rw [hforce] at hset
      exact Bool.noConfusion hset

end EncodingManager

namespace KeyframeRun

variable {s s' : KeyframeRun} {e : KeyframeEvent}

/-- An outstanding request is in the flag, and an encode that compresses dirty tiles
owes nothing to a request from before its begin. -/
structure RequestsKept (s : KeyframeRun) : Prop where
  noneLost : NoneLost s.log
  flag : outstanding s.log = true → s.manager.gfxForceKeyframe = true
  update : ∀ job, s.phase.job = some job → job.update.entry = .incremental → owed s.log = false

/-- The encode in progress is about to clear the flag. -/
def aboutToClear (s : KeyframeRun) : Bool :=
  match s.phase with
  | .clearing => true
  | _ => false

/-- The condition on a run: an encode that ends by clearing the flag finds no
request after the last full frame. -/
def ClearsNoRequest (s : KeyframeRun) (e : KeyframeEvent) : Prop :=
  e = .finish → s.aboutToClear = true → outstanding s.log = false

instance decidableClearsNoRequest (s : KeyframeRun) : DecidablePred s.ClearsNoRequest
  | .finish =>
    decidable_of_iff (s.aboutToClear = true → outstanding s.log = false)
      ⟨fun h _ => h, fun h => h rfl⟩
  | .forceKeyframe | .prepare _ | .reset | .encodeSurfaceGfx .. | .encodeCachedFrameGfx .. |
    .start .. | .compress _ | .surfaceFrameCommand _ | .store _ =>
    isTrue (fun h => KeyframeEvent.noConfusion h)

/-- A step that logs nothing and keeps the flag. -/
theorem RequestsKept.of_log_eq (h : s.RequestsKept) (hlog : s'.log = s.log)
    (hflag : s.manager.gfxForceKeyframe = true → s'.manager.gfxForceKeyframe = true)
    (hjob : ∀ job, s'.phase.job = some job → s.phase.job = some job) : s'.RequestsKept where
  noneLost := by
    rw [hlog]
    exact h.noneLost
  flag := by
    rw [hlog]
    intro hout
    exact hflag (h.flag hout)
  update := by
    rw [hlog]
    intro job hs'
    exact h.update job (hjob job hs')

theorem RequestsKept.forceKeyframe (h : s.RequestsKept) :
    RequestsKept { s with manager := s.manager.forceKeyframe, log := .requested :: s.log } where
  noneLost := h.noneLost.cons (by simp)
  flag := fun _ => rfl
  update := h.update

theorem RequestsKept.beginEncode (h : s.RequestsKept) (hidle : s.phase = .idle)
    {m : EncodingManager} (hm : s.manager.gfxForceKeyframe = true → m.gfxForceKeyframe = true)
    (settings : GfxSettings) (input : Frame) (autoSwitch vaapiPrepare : Bool) :
    (s.beginEncode m settings input autoSwitch vaapiPrepare).RequestsKept := by
  have hbegan : NoneLost (.began :: s.log) := h.noneLost.cons (by simp)
  rw [KeyframeRun.beginEncode]
  split
  · refine ⟨hbegan, fun hout => hm (h.flag hout), ?_⟩
    intro job hjob
    simp [EncodePhase.job, hidle] at hjob
  · refine ⟨hbegan, fun hout => ?_, ?_⟩
    · exact EncodingManager.beginEncode_forceKeyframe settings input autoSwitch vaapiPrepare
        (hm (h.flag hout))
    · intro job hjob
      simp [EncodePhase.job] at hjob

/-- The read of the flag. An update of dirty tiles means that the flag was not set,
so no request was outstanding then. -/
theorem RequestsKept.start (h : s.RequestsKept) {plan : EncodePlan} {initialised : Bool} {now : ℤ}
    (hs : s.start plan initialised now = some s') : s'.RequestsKept := by
  rw [KeyframeRun.start] at hs
  split at hs
  · rw [Option.some.injEq] at hs
    rw [← hs]
    exact h.of_log_eq rfl id (by simp [EncodePhase.job])
  · rename_i codec hcodec
    split at hs
    · rw [Option.some.injEq] at hs
      rw [← hs]
      exact h.of_log_eq rfl id (by simp [EncodePhase.job])
    · rename_i m hprepare
      obtain ⟨_, hforce⟩ := EncodingManager.encoderPrepare_spec hprepare
      split at hs
      · rw [Option.some.injEq] at hs
        rw [← hs]
        -- AVC does not read the flag, and all it sends are full frames
        refine ⟨h.noneLost, fun hout => hforce.trans (h.flag hout), ?_⟩
        intro job hjob hentry
        rw [← Option.some.inj hjob] at hentry
        simp [SurfaceUpdate.entry] at hentry
      · split at hs
        · rename_i m' hstart
          obtain ⟨hkept, _⟩ := EncodingManager.startNonAvc_spec hstart
          rw [Option.some.injEq] at hs
          rw [← hs]
          exact h.of_log_eq rfl (fun hset => hkept.trans (hforce.trans hset))
            (by simp [EncodePhase.job])
        · rename_i m' update keyframe hstart
          obtain ⟨hkept, hwhole⟩ := EncodingManager.startNonAvc_spec hstart
          split at hs
          · simp at hs
          · rw [Option.some.injEq] at hs
            rw [← hs]
            refine ⟨h.noneLost, fun hout => hkept.trans (hforce.trans (h.flag hout)), ?_⟩
            intro job hjob hentry
            rw [← Option.some.inj hjob] at hentry
            -- an outstanding request would have made this a keyframe
            apply owed_eq_false
            by_contra hout
            have hset := hforce.trans (h.flag (Bool.not_eq_false _ ▸ hout))
            have := hwhole update keyframe rfl hset
            simp [this, SurfaceUpdate.entry] at hentry

theorem RequestsKept.surfaceFrameCommand (h : s.RequestsKept) {job : EncodeJob}
    (hjob : s.phase.job = some job) (rc : UInt32) : (s.surfaceFrameCommand job rc).RequestsKept := by
  rw [KeyframeRun.surfaceFrameCommand]
  split
  · refine ⟨h.noneLost.cons (h.update job hjob), fun hout => ?_, by simp [EncodePhase.job]⟩
    cases hupdate : job.update with
    | whole => simp [hupdate, SurfaceUpdate.entry, outstanding] at hout
    | rects rs => exact h.flag (by simpa [hupdate, SurfaceUpdate.entry, outstanding] using hout)
  · refine h.of_log_eq rfl id ?_
    intro job' hjob'
    dsimp only at hjob'
    split at hjob' <;> simp [EncodePhase.job] at hjob'

theorem RequestsKept.store (h : s.RequestsKept) (job : EncodeJob) (now : ℤ) :
    (s.store job now).RequestsKept := by
  refine h.of_log_eq rfl ?_ ?_
  · intro hset
    exact (EncodingManager.storeFrame_forceKeyframe ..).trans hset
  · intro job' hjob'
    simp only [KeyframeRun.store] at hjob'
    split at hjob' <;> simp [EncodePhase.job] at hjob'

theorem RequestsKept.step (h : s.RequestsKept) (hclear : s.ClearsNoRequest e)
    (he : s.step e = some s') : s'.RequestsKept := by
  cases KeyframeRun.step_move he with
  | forceKeyframe => exact h.forceKeyframe
  | prepare _ options =>
    refine h.of_log_eq rfl ?_ fun _ hjob => hjob
    exact EncodingManager.prepare_forceKeyframe options
  | reset =>
    refine h.of_log_eq rfl ?_ fun _ hjob => hjob
    exact EncodingManager.reset_forceKeyframe
  | encodeSurfaceGfx hidle settings input autoSwitch vaapiPrepare =>
    exact h.beginEncode hidle id settings input autoSwitch vaapiPrepare
  | noCachedFrame => exact h
  | cachedFrame hidle _ settings autoSwitch vaapiPrepare =>
    exact h.beginEncode hidle (fun _ => rfl) settings _ autoSwitch _
  | start _ hstart => exact h.start hstart
  | compress hphase rc =>
    refine h.of_log_eq rfl id ?_
    intro job' hjob'
    dsimp only at hjob'
    rw [hphase]
    split at hjob'
    · exact hjob'
    · simp [EncodePhase.job] at hjob'
  | surfaceFrameCommand hphase rc =>
    exact h.surfaceFrameCommand (by rw [hphase, EncodePhase.job]) rc
  | store _ now => exact h.store _ now
  | failing => exact h.of_log_eq rfl (fun _ => rfl) (by simp [EncodePhase.job])
  | clearing hphase =>
    -- the clear is the one step that a request could be lost in
    have hnone : outstanding s.log = false := hclear rfl (by rw [aboutToClear, hphase])
    refine ⟨h.noneLost, fun hout => ?_, by simp [EncodePhase.job]⟩
    rw [hnone] at hout
    exact Bool.noConfusion hout

theorem requestsKept_inductive : keyframeMachine.Inductive ClearsNoRequest RequestsKept where
  init := by
    intro s hs
    constructor
    case noneLost =>
      rw [hs.2]
      exact noneLost_nil
    case flag =>
      simp [hs.2, outstanding]
    case update =>
      simp [EncodePhase.job, hs.1]
  step := fun _ _ _ h hclear he => h.step hclear he

end KeyframeRun

/-- In every run in which no encode clears the flag over a request that came after
the last full frame, no request is lost. -/
theorem keyframe_request_kept {s : KeyframeRun}
    (hs : keyframeMachine.ReachableIf KeyframeRun.ClearsNoRequest s) : NoneLost s.log :=
  (KeyframeRun.requestsKept_inductive.holds hs).noneLost

namespace KeyframeRun

def fresh : KeyframeRun := { manager := {} }

theorem fresh_init : keyframeMachine.init fresh := ⟨rfl, rfl⟩

/-- A progressive encode of one pixel up to its SurfaceFrameCommand. -/
def encodeOnePixel (byte : UInt8) : List KeyframeEvent :=
  [.encodeSurfaceGfx { gfxProgressive := true } (onePixel byte).1 false false, .start true 0,
    .compress 1, .surfaceFrameCommand 0]

def firstFrame : List KeyframeEvent :=
  .prepare { width := 1, height := 1 } :: (encodeOnePixel 1 ++ [.store 0, .finish])

/-- A request that falls into an incremental encode is cleared with its end, and the
next frame is incremental as well. -/
def requestDuringIncremental : List KeyframeEvent :=
  firstFrame ++ encodeOnePixel 2 ++ [.forceKeyframe, .store 0, .finish] ++ encodeOnePixel 3

/-- The same request between two encodes. -/
def requestBetweenEncodes : List KeyframeEvent :=
  firstFrame ++ encodeOnePixel 2 ++ [.store 0, .finish, .forceKeyframe] ++ encodeOnePixel 3

end KeyframeRun

theorem keyframe_request_kept_between :
    NoneLost ((keyframeMachine.run .fresh KeyframeRun.requestBetweenEncodes).get
      (by decide +kernel)).log :=
  keyframe_request_kept (.run_get KeyframeRun.fresh_init _ (by decide +kernel) (by decide +kernel))

theorem keyframe_request_lost :
    ¬ ∀ s : KeyframeRun, keyframeMachine.Reachable s → NoneLost s.log := by
  intro hkept
  have hlost := hkept _ (EventMachine.reachable_run_get KeyframeRun.fresh_init
    KeyframeRun.requestDuringIncremental (by decide +kernel))
  have hlog : ((keyframeMachine.run .fresh KeyframeRun.requestDuringIncremental).get
      (by decide +kernel)).log =
      [.incremental, .began, .requested, .incremental, .began, .full, .began] := by
    decide +kernel
  rw [hlog] at hlost
  have := hlost [] [] [] [.incremental, .began, .full, .began] rfl (by simp)
  simp at this

end RemoteDesktop.DRD
