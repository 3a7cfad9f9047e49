import RemoteDesktop.DRDHardwareEncode

/-! A manager that is to use VAAPI where it is not available, beside one that is not to use it. -/
namespace RemoteDesktop.DRD

/-- The manager with `h264_hw_accel` switched off. -/
def EncodingManager.software (m : EncodingManager) : EncodingManager :=
  { m with h264HwAccel := false }

def GfxEncodeOutcome.software (o : GfxEncodeOutcome) : GfxEncodeOutcome :=
  { o with manager := o.manager.software }

namespace EncodingManager

variable {m : EncodingManager} {plan : EncodePlan} {env : EncodeEnv}

theorem software_reset (m : EncodingManager) : m.software.reset = m.reset.software := by
  rw [reset, reset, apply_ite software]
  rfl

theorem software_prepareGfxDiffState (m : EncodingManager) (width height stride : ℕ) :
    m.software.prepareGfxDiffState width height stride =
      (m.prepareGfxDiffState width height stride).software := by
  rw [prepareGfxDiffState, prepareGfxDiffState, apply_ite software]
  rfl

theorem software_encoderPrepare (m : EncodingManager) (context : EncoderContext)
    (initialised : Bool) :
    m.software.encoderPrepare context initialised =
      (m.encoderPrepare context initialised).map software := by
  rw [encoderPrepare, encoderPrepare, apply_ite (Option.map software),
    apply_ite (Option.map software)]
  rfl

theorem software_registerNonAvc (m : EncodingManager) (keyframe : Bool) (now : ℤ) :
    m.software.registerNonAvc keyframe now = (m.registerNonAvc keyframe now).software := by
  by_cases hinterval : m.gfxProgressiveRefreshInterval = 0
  all_goals
    by_cases hcodec : m.gfxLastCodec = .avc
    · cases keyframe <;> simp [registerNonAvc, software, hcodec, hinterval]
    · by_cases htransition : m.gfxAvcToNonAvcTransition = true <;> cases keyframe <;>
        simp [registerNonAvc, software, hcodec, htransition, hinterval]

theorem software_storeFrame (m : EncodingManager) (frame : Frame) (codecClass : EncodingCodecClass)
    (keyframe : Bool) (now : ℤ) :
    m.software.storeFrame frame codecClass keyframe now =
      (m.storeFrame frame codecClass keyframe now).software := by
  have hhashes : (m.software.storePreviousFrame frame.data frame.stride frame.height).updateTileHashes
      frame.data frame.stride = ((m.storePreviousFrame frame.data frame.stride
        frame.height).updateTileHashes frame.data frame.stride).software := by
    rw [updateTileHashes, updateTileHashes, apply_ite software]
    rfl
  rw [storeFrame, hhashes, storeFrame]
  cases codecClass with
  | nonAvc => exact software_registerNonAvc _ keyframe now
  | unknown | avc => rfl

theorem software_sendAvc (m : EncodingManager) (plan : EncodePlan) (env : EncodeEnv) :
    m.software.sendAvc plan env = (m.sendAvc plan env).software := by
  rw [sendAvc, software_storeFrame]
  simp only [sendAvc, GfxEncodeOutcome.software, apply_ite software]

theorem software_sendNonAvc (m : EncodingManager) (plan : EncodePlan) (env : EncodeEnv)
    (update : SurfaceUpdate) (keyframe : Bool) :
    m.software.sendNonAvc plan env update keyframe =
      (m.sendNonAvc plan env update keyframe).software := by
  rw [sendNonAvc, finishNonAvc, software_storeFrame]
  simp only [sendNonAvc, finishNonAvc, GfxEncodeOutcome.software, apply_ite software]
  rfl

theorem software_startNonAvc (m : EncodingManager) (plan : EncodePlan) (now : ℤ) :
    m.software.startNonAvc plan now =
      ((m.startNonAvc plan now).1.software, (m.startNonAvc plan now).2) := by
  have hkeyframe : m.software.keyframeEncode now = m.keyframeEncode now := rfl
  have hdirty : m.software.collectDirtyTiles plan.dirty = m.collectDirtyTiles plan.dirty := rfl
  rw [startNonAvc, startNonAvc, hkeyframe, hdirty]
  split
  · rfl
  · split
    · rfl
    · rfl

theorem software_encodeAvc444 (m : EncodingManager) (plan : EncodePlan) (env : EncodeEnv) :
    m.software.encodeAvc444 plan env = (m.encodeAvc444 plan env).software := by
  rw [encodeAvc444, encodeAvc444, software_encoderPrepare]
  rcases m.encoderPrepare .avc env.encoderInit with _ | m₁
  · rfl
  · simp only [Option.map_some, software_sendAvc, apply_ite GfxEncodeOutcome.software]
    rfl

theorem software_encodeAvc420Software (m : EncodingManager) (plan : EncodePlan) (env : EncodeEnv) :
    m.software.encodeAvc420Software plan env = (m.encodeAvc420Software plan env).software := by
  rw [encodeAvc420Software, encodeAvc420Software, software_sendAvc]
  simp only [apply_ite GfxEncodeOutcome.software]
  rfl

/-- Where VAAPI fails, the software encoder has the frame. -/
theorem software_encodeAvc420 (m : EncodingManager) (plan : EncodePlan)
    (hfailed : env.vaapiEncode = .failed) :
    m.software.encodeAvc420 plan env = (m.encodeAvc420 plan env).software := by
  rw [encodeAvc420, encodeAvc420, software_encoderPrepare, hfailed]
  rcases m.encoderPrepare .avc env.encoderInit with _ | m₁
  · rfl
  · simp only [Option.map_some, software_encodeAvc420Software, ite_self]

theorem software_encodeProgressive (m : EncodingManager) (plan : EncodePlan) (env : EncodeEnv) :
    m.software.encodeProgressive plan env = (m.encodeProgressive plan env).software := by
  rw [encodeProgressive, encodeProgressive, software_encoderPrepare]
  rcases m.encoderPrepare .progressive env.encoderInit with _ | m₁
  · rfl
  · simp only [Option.map_some, software_startNonAvc]
    rcases m₁.startNonAvc plan env.refreshNow with ⟨m₂, _ | ⟨update, keyframe⟩⟩
    · rfl
    · simp only [software_sendNonAvc, apply_ite GfxEncodeOutcome.software]
      rfl

theorem software_encodeRemotefx (m : EncodingManager) (plan : EncodePlan) (env : EncodeEnv) :
    m.software.encodeRemotefx plan env =
      (m.encodeRemotefx plan env).map GfxEncodeOutcome.software := by
  rw [encodeRemotefx, encodeRemotefx, software_encoderPrepare]
  rcases m.encoderPrepare .remotefx env.encoderInit with _ | m₁
  · rfl
  · simp only [Option.map_some, software_startNonAvc]
    rcases m₁.startNonAvc plan env.refreshNow with ⟨m₂, _ | ⟨update, keyframe⟩⟩
    · rfl
    · simp only [software_sendNonAvc, apply_ite (Option.map GfxEncodeOutcome.software)]
      rfl

theorem software_encodeWith (m : EncodingManager) (plan : EncodePlan)
    (hfailed : env.vaapiEncode = .failed) :
    m.software.encodeWith plan env = (m.encodeWith plan env).map GfxEncodeOutcome.software := by
  rw [encodeWith, encodeWith]
  split
  · rw [software_encodeAvc444, Option.map_some]
  · rw [software_encodeAvc420 m plan hfailed, Option.map_some]
  · rw [software_encodeProgressive, Option.map_some]
  · exact software_encodeRemotefx m plan env
  · rfl

theorem software_beginEncode (m : EncodingManager) (settings : GfxSettings) (f : Frame)
    (autoSwitch : Bool) :
    m.software.beginEncode settings f autoSwitch false =
      ((m.beginEncode settings f autoSwitch false).1.software,
        (m.beginEncode settings f autoSwitch false).2) := by
  have hprepare : EncodingManager.prepareGfxDiffState
      { m.software with frameWidth := f.width, frameHeight := f.height } f.width f.height f.stride =
        (EncodingManager.prepareGfxDiffState
          { m with frameWidth := f.width, frameHeight := f.height } f.width f.height
          f.stride).software :=
    software_prepareGfxDiffState { m with frameWidth := f.width, frameHeight := f.height } ..
  simp only [beginEncode, Bool.and_false, hprepare]
  rfl

/-- Without VAAPI an encode does the same, whether it is switched on or off. -/
theorem software_encodeSurfaceGfx (m : EncodingManager) (settings : GfxSettings) (f : Frame)
    (autoSwitch : Bool) (hprepare : env.vaapiPrepare = false) (hfailed : env.vaapiEncode = .failed) :
    m.software.encodeSurfaceGfx settings f autoSwitch env =
      (m.encodeSurfaceGfx settings f autoSwitch env).map GfxEncodeOutcome.software := by
  have hready : m.software.ready = m.ready := rfl
  rw [encodeSurfaceGfx, encodeSurfaceGfx, hready, hprepare, software_beginEncode]
  split
  · rfl
  · exact software_encodeWith _ _ hfailed

/-- The guards of a cached refresh do not look at the switch. -/
theorem software_encodeCachedFrameGfx (m : EncodingManager) (settings : GfxSettings)
    (autoSwitch : Bool) (env : EncodeEnv)
    (hguard : !m.ready ∨ m.gfxPreviousFrame.length = 0 ∨ m.gfxDiffWidth = 0 ∨
      m.gfxDiffHeight = 0 ∨ m.gfxDiffStride = 0) :
    m.software.encodeCachedFrameGfx settings autoSwitch env =
      (m.encodeCachedFrameGfx settings autoSwitch env).map GfxEncodeOutcome.software := by
  have hready : m.software.ready = m.ready := rfl
  rw [encodeCachedFrameGfx, encodeCachedFrameGfx, hready]
  by_cases hnotReady : (!m.ready) = true
  · rw [if_pos hnotReady, if_pos hnotReady]
    rfl
  · have hempty := hguard.resolve_left hnotReady
    have hempty' : m.software.gfxPreviousFrame.length = 0 ∨ m.software.gfxDiffWidth = 0 ∨
      m.software.gfxDiffHeight = 0 ∨ m.software.gfxDiffStride = 0 := hempty
    rw [if_neg hnotReady, if_neg hnotReady, if_pos hempty, if_pos hempty']
    rfl

theorem software_prepare (m : EncodingManager) (options : EncodingOptions) :
    m.software.prepare { options with h264HwAccel := false } =
      ((m.prepare options).1.software, (m.prepare options).2) := by
  rw [prepare, prepare, software_reset]
  simp only
  split
  · rfl
  · split
    · rfl
    · have hkept : (if m.software.ready = true ∧ (m.software.frameWidth ≠ options.width ∨
          m.software.frameHeight ≠ options.height) then m.reset.software else m.software) =
          (if m.ready = true ∧ (m.frameWidth ≠ options.width ∨
            m.frameHeight ≠ options.height) then m.reset else m).software :=
        (apply_ite software ..).symm
      rw [hkept]
      rfl

end EncodingManager

/-! Hardware that is not available. -/

/-- The calls that prepare an encoder. -/
def VaapiCall.prepares : List VaapiCall :=
  [.findEncoderByName, .hwdeviceCtxCreate, .hwframeCtxAlloc, .hwframeCtxInit, .allocContext3,
    .bufferRef, .open2, .swsGetContext, .swFrameAlloc, .frameGetBuffer]

/-- One of the calls that prepare an encoder fails. -/
def Unavailable (fails : VaapiCall → Bool) : Prop := ∃ call ∈ VaapiCall.prepares, fails call = true

instance : DecidablePred Unavailable := fun fails =>
  inferInstanceAs (Decidable (∃ call ∈ VaapiCall.prepares, fails call = true))

namespace Vaapi

variable {v : Vaapi} {size : FrameSize} {params : H264Params} {fails : VaapiCall → Bool}

theorem create_none (h : (v.create size params fails).2 = none) :
    ∀ call ∈ VaapiCall.prepares, call ≠ .findEncoderByName → fails call = false := by
  unfold create at h
  split_ifs at h
  simp_all [VaapiCall.prepares]

/-- A prepare that fails leaves nothing behind. -/
theorem prepare_unavailable (h : v.Empty) (hfails : Unavailable fails) (size : FrameSize)
    (params : H264Params) :
    (v.prepare size params fails).1.Empty ∧
      ∃ call : VaapiCall, (v.prepare size params fails).2 = .error call.error := by
  have hserves : v.Serves none := h
  rw [prepare_miss hserves (by simp)]
  have hempty := release_empty h.ledgered
  cases hfind : fails .findEncoderByName with
  | true => exact ⟨hempty, .findEncoderByName, rfl⟩
  | false =>
    rcases hcreate : v.release.create size params fails with ⟨v', _ | call⟩
    · obtain ⟨call, hmem, hcall⟩ := hfails
      have hne : call ≠ .findEncoderByName := by
        rintro rfl
        exact Bool.noConfusion (hfind.symm.trans hcall)
      have hworks := create_none (congrArg Prod.snd hcreate) call hmem hne
      exact Bool.noConfusion (hworks.symm.trans hcall)
    · have hledgered := (create_spec hempty size params fails).1
      rw [hcreate] at hledgered
      exact ⟨release_empty hledgered, call, rfl⟩

end Vaapi

/-- The attempts of an encode at VAAPI fail. -/
def HardwareEvent.Unavailable : HardwareEvent → Prop
  | .encodeSurfaceGfx _ _ _ _ forced answers | .encodeCachedFrameGfx _ _ _ forced answers =>
    DRD.Unavailable forced ∧ DRD.Unavailable answers.fails
  | .prepare .. | .reset | .forceKeyframe | .encoderPrepare .. | .dispose => True

instance : DecidablePred HardwareEvent.Unavailable
  | .encodeSurfaceGfx .. | .encodeCachedFrameGfx .. => inferInstanceAs (Decidable (_ ∧ _))
  | .prepare .. | .reset | .forceKeyframe | .encoderPrepare .. | .dispose => isTrue trivial

/-- The same call where VAAPI is not to be used. -/
def HardwareEvent.software : HardwareEvent → HardwareEvent
  | .prepare options params => .prepare { options with h264HwAccel := false } params
  | e => e

namespace HardwareManager

variable {s s' : HardwareManager} {f : Frame} {settings : GfxSettings} {autoSwitch : Bool}
  {env : EncodeEnv} {forced : VaapiCall → Bool} {answers : VaapiAnswers}

/-- The manager with VAAPI switched off, which has never called it. -/
def software (s : HardwareManager) : HardwareManager :=
  { manager := s.manager.software, params := s.params, answers := s.answers, disposed := s.disposed }

/-- No encoder is there. -/
structure Idle (s : HardwareManager) : Prop where
  vaapi : s.vaapi.Empty
  handed : s.handed = none

theorem vaapiPrepare_unavailable (h : s.Idle) {fails : VaapiCall → Bool}
    (hfails : DRD.Unavailable fails) (size : FrameSize) :
    (s.vaapiPrepare size fails).1.Idle ∧ (s.vaapiPrepare size fails).2.isOk = false := by
  obtain ⟨hempty, call, herror⟩ := Vaapi.prepare_unavailable h.vaapi hfails size s.params
  refine ⟨⟨hempty, h.handed⟩, ?_⟩
  show (s.vaapi.prepare size s.params fails).2.isOk = false
  rw [herror]
  rfl

theorem vaapiForced_unavailable (h : s.Idle) (hforced : DRD.Unavailable forced)
    (settings : GfxSettings) (f : Frame) (autoSwitch : Bool) :
    (s.vaapiForced settings f autoSwitch forced).1.Idle ∧
      (s.vaapiForced settings f autoSwitch forced).2 = false ∧
      (s.vaapiForced settings f autoSwitch forced).1.software = s.software := by
  rw [vaapiForced]
  split
  · obtain ⟨hidle, hfailed⟩ := vaapiPrepare_unavailable h hforced f.size
    exact ⟨hidle, hfailed, rfl⟩
  · exact ⟨h, rfl, rfl⟩

theorem vaapiEncode_unavailable (h : s.Idle) (hanswers : DRD.Unavailable answers.fails)
    (f : Frame) :
    (s.vaapiEncode f answers).1.Idle ∧ (s.vaapiEncode f answers).2 = .failed ∧
      (s.vaapiEncode f answers).1.software = s.software := by
  obtain ⟨hempty, call, herror⟩ := Vaapi.prepare_unavailable h.vaapi hanswers f.size s.params
  have hencode : s.vaapi.encodeAvc420 f.size s.params answers =
      { vaapi := (s.vaapi.prepare f.size s.params answers.fails).1, result := .error call.error } := by
    rw [Vaapi.encodeAvc420]
    generalize s.vaapi.prepare f.size s.params answers.fails = prepared at herror ⊢
    obtain ⟨v, result⟩ := prepared
    obtain rfl : result = .error call.error := herror
    rfl
  simp only [vaapiEncode, hencode]
  exact ⟨⟨hempty, rfl⟩, rfl, rfl⟩

/-- What an encode is told where it gets nothing from VAAPI. -/
def withoutVaapi (env : EncodeEnv) : EncodeEnv :=
  { env with vaapiPrepare := false, vaapiEncode := .failed }

theorem accelerate_unavailable (h : s.Idle) (hforced : DRD.Unavailable forced)
    (hanswers : DRD.Unavailable answers.fails) (settings : GfxSettings) (f : Frame)
    (autoSwitch : Bool) (env : EncodeEnv) :
    (s.accelerate settings f autoSwitch env forced answers).1.Idle ∧
      (s.accelerate settings f autoSwitch env forced answers).2 = withoutVaapi env ∧
      (s.accelerate settings f autoSwitch env forced answers).1.software = s.software := by
  obtain ⟨hidle, hprepared, hsame⟩ := vaapiForced_unavailable h hforced settings f autoSwitch
  rw [accelerate]
  generalize s.vaapiForced settings f autoSwitch forced = started at hidle hprepared hsame ⊢
  obtain ⟨s₁, prepared⟩ := started
  simp only at hidle hprepared hsame ⊢
  subst hprepared
  split
  · obtain ⟨hencoded, hfailed, hsame'⟩ := vaapiEncode_unavailable hidle hanswers f
    exact ⟨hencoded, by rw [hfailed, withoutVaapi], hsame'.trans hsame⟩
  · exact ⟨hidle, rfl, hsame⟩

/-- A manager that is not to use VAAPI does not ask it. -/
theorem software_accelerate (s : HardwareManager) (settings : GfxSettings) (f : Frame)
    (autoSwitch : Bool) (env : EncodeEnv) (forced : VaapiCall → Bool) (answers : VaapiAnswers) :
    s.software.accelerate settings f autoSwitch env forced answers =
      (s.software, withoutVaapi env) := by
  have hforced : s.software.vaapiForced settings f autoSwitch forced = (s.software, false) := by
    simp [vaapiForced, software, EncodingManager.software]
  have hreach (plan : EncodePlan) (m : EncodingManager) : m.software.ReachesVaapi plan env = false := by
    simp [EncodingManager.ReachesVaapi, EncodingManager.software]
  have hmanager : s.software.manager = s.manager.software := rfl
  rw [accelerate, hforced]
  simp only [hmanager, EncodingManager.software_beginEncode, hreach, Bool.false_eq_true, if_false]
  rfl

theorem software_record (s : HardwareManager) (o : GfxEncodeOutcome) :
    s.software.record o.software = (s.record o).software := by
  simp [record, software, GfxEncodeOutcome.software]

theorem Idle.record (h : s.Idle) (o : GfxEncodeOutcome) : (s.record o).Idle := ⟨h.vaapi, rfl⟩

/-- An encode of a manager that has no hardware, and of one that is not to use it. -/
theorem encodeSurfaceGfx_unavailable (h : s.Idle) (hforced : DRD.Unavailable forced)
    (hanswers : DRD.Unavailable answers.fails) (settings : GfxSettings) (f : Frame)
    (autoSwitch : Bool) (env : EncodeEnv) :
    s.software.encodeSurfaceGfx settings f autoSwitch env forced answers =
        (s.encodeSurfaceGfx settings f autoSwitch env forced answers).map software ∧
      ∀ s', s.encodeSurfaceGfx settings f autoSwitch env forced answers = some s' → s'.Idle := by
  obtain ⟨hidle, henv, hsame⟩ :=
    accelerate_unavailable h hforced hanswers settings f autoSwitch env
  have hmanager := (accelerate_spec h.handed settings f autoSwitch env forced answers).1
  rw [encodeSurfaceGfx, encodeSurfaceGfx, software_accelerate]
  generalize s.accelerate settings f autoSwitch env forced answers = accelerated at *
  obtain ⟨s₁, env₁⟩ := accelerated
  obtain rfl : env₁ = withoutVaapi env := henv
  have hready : s.software.manager.ready = s.manager.ready := rfl
  rw [hready]
  by_cases hnotReady : (!s.manager.ready) = true
  · rw [if_pos hnotReady, if_pos hnotReady]
    let refused : GfxEncodeOutcome :=
      { manager := s.manager, result := .error ⟨.failed, "Encoding manager not prepared"⟩ }
    have hrefused : s.manager.encodeSurfaceGfx settings f autoSwitch env = some refused :=
      if_pos hnotReady
    have hrefused' : s.software.manager.encodeSurfaceGfx settings f autoSwitch env =
        some refused.software := if_pos hnotReady
    simp only [hrefused, hrefused', Option.map_some, Option.some.injEq]
    refine ⟨software_record s refused, ?_⟩
    rintro s' rfl
    exact h.record refused
  · rw [if_neg hnotReady, if_neg hnotReady]
    have hencode : s.software.manager.encodeSurfaceGfx settings f autoSwitch (withoutVaapi env) =
        (s.manager.encodeSurfaceGfx settings f autoSwitch (withoutVaapi env)).map
          GfxEncodeOutcome.software :=
      EncodingManager.software_encodeSurfaceGfx s.manager settings f autoSwitch rfl rfl
    have hmanager' : s₁.manager = s.manager := hmanager
    simp only [hencode, hmanager', Option.map_map]
    constructor
    · congr 1
      funext o
      exact (congrArg (fun t => record t o.software) hsame.symm).trans (software_record s₁ o)
    · intro s' hs'
      obtain ⟨o, -, rfl⟩ := Option.map_eq_some_iff.mp hs'
      exact hidle.record o

theorem encodeCachedFrameGfx_unavailable (h : s.Idle) (hforced : DRD.Unavailable forced)
    (hanswers : DRD.Unavailable answers.fails) (settings : GfxSettings) (autoSwitch : Bool)
    (env : EncodeEnv) :
    s.software.encodeCachedFrameGfx settings autoSwitch env forced answers =
        (s.encodeCachedFrameGfx settings autoSwitch env forced answers).map software ∧
      ∀ s', s.encodeCachedFrameGfx settings autoSwitch env forced answers = some s' → s'.Idle := by
  have hforcedKeyframe : Idle { s with manager := s.manager.forceKeyframe } := ⟨h.vaapi, h.handed⟩
  by_cases hguard : !s.manager.ready ∨ s.manager.gfxPreviousFrame.length = 0 ∨
      s.manager.gfxDiffWidth = 0 ∨ s.manager.gfxDiffHeight = 0 ∨ s.manager.gfxDiffStride = 0
  · have hencode := s.manager.software_encodeCachedFrameGfx settings autoSwitch env hguard
    have hs : s.encodeCachedFrameGfx settings autoSwitch env forced answers =
      (s.manager.encodeCachedFrameGfx settings autoSwitch env).map s.record := if_pos hguard
    have hsoftware : s.software.encodeCachedFrameGfx settings autoSwitch env forced answers =
      (s.manager.software.encodeCachedFrameGfx settings autoSwitch env).map s.software.record :=
        if_pos hguard
    rw [hs, hsoftware, hencode, Option.map_map, Option.map_map]
    constructor
    · congr 1
      funext o
      exact software_record s o
    · intro s' hs'
      obtain ⟨o, -, rfl⟩ := Option.map_eq_some_iff.mp hs'
      exact h.record o
  · have hs : s.encodeCachedFrameGfx settings autoSwitch env forced answers =
      { s with manager := s.manager.forceKeyframe }.encodeSurfaceGfx settings s.manager.cachedFrame
        autoSwitch env forced answers := if_neg hguard
    have hsoftware : s.software.encodeCachedFrameGfx settings autoSwitch env forced answers =
      (software { s with manager := s.manager.forceKeyframe }).encodeSurfaceGfx settings
        s.manager.cachedFrame autoSwitch env forced answers := if_neg hguard
    rw [hs, hsoftware]
    exact encodeSurfaceGfx_unavailable hforcedKeyframe hforced hanswers settings _ autoSwitch env

theorem software_prepare (s : HardwareManager) (options : EncodingOptions) (params : H264Params) :
    s.software.prepare { options with h264HwAccel := false } params =
      (s.prepare options params).software := by
  have hprepare := s.manager.software_prepare options
  rw [prepare, prepare]
  have hmanager : s.software.manager = s.manager.software := rfl
  rw [hmanager, hprepare]
  rcases s.manager.prepare options with ⟨m, error | ⟨⟩⟩
  · rfl
  · rfl

theorem Idle.withManager (h : s.Idle) (m : EncodingManager) (params : H264Params)
    (disposed : Bool) : Idle { s with manager := m, params := params, disposed := disposed } :=
  ⟨h.vaapi, h.handed⟩

theorem Idle.prepare (h : s.Idle) (options : EncodingOptions) (params : H264Params) :
    (s.prepare options params).Idle := by
  rw [HardwareManager.prepare]
  split
  · exact h.withManager _ _ _
  · exact h.withManager _ _ _

theorem software_encoderPrepare (m : EncodingManager) (context : EncoderContext)
    (initialised : Bool) :
    (m.software.encoderPrepare context initialised).getD m.software =
      ((m.encoderPrepare context initialised).getD m).software := by
  rw [EncodingManager.software_encoderPrepare]
  rcases m.encoderPrepare context initialised with _ | m'
  · rfl
  · rfl

/-- One call, of a manager that has no hardware, and of one that is not to use it. -/
theorem step_unavailable (h : s.Idle) {e : HardwareEvent} (he : e.Unavailable) :
    s.software.step e.software = (s.step e).map software ∧ ∀ s', s.step e = some s' → s'.Idle := by
  have hdisposed : s.software.disposed = s.disposed := rfl
  have hmanager : s.software.manager = s.manager.software := rfl
  rw [step, step, hdisposed]
  by_cases hgone : s.disposed = true
  · rw [if_pos hgone, if_pos hgone]
    exact ⟨rfl, by simp⟩
  · rw [if_neg hgone, if_neg hgone]
    cases e with
    | prepare options params =>
      refine ⟨congrArg some (software_prepare s options params), ?_⟩
      exact fun s' hs' => Option.some.inj hs' ▸ h.prepare options params
    | reset =>
      refine ⟨?_, fun s' hs' => Option.some.inj hs' ▸ h.withManager _ _ _⟩
      simp only [HardwareEvent.software, act, hmanager, EncodingManager.software_reset]
      rfl
    | forceKeyframe => exact ⟨rfl, fun s' hs' => Option.some.inj hs' ▸ h.withManager _ _ _⟩
    | encoderPrepare context initialised =>
      refine ⟨?_, fun s' hs' => Option.some.inj hs' ▸ h.withManager _ _ _⟩
      simp only [HardwareEvent.software, act, hmanager, software_encoderPrepare]
      rfl
    | encodeSurfaceGfx settings input autoSwitch env forced answers =>
      exact encodeSurfaceGfx_unavailable h he.1 he.2 settings input.1 autoSwitch env
    | encodeCachedFrameGfx settings autoSwitch env forced answers =>
      exact encodeCachedFrameGfx_unavailable h he.1 he.2 settings autoSwitch env
    | dispose =>
      refine ⟨?_, fun s' hs' => Option.some.inj hs' ▸ h.withManager _ _ _⟩
      simp only [HardwareEvent.software, act, hmanager, EncodingManager.software_reset]
      rfl

theorem idle_fresh : fresh.Idle := ⟨Vaapi.empty_fresh, rfl⟩

end HardwareManager

/-- Where no encoder can be prepared, a manager that is to use VAAPI makes the same of every run as
one that is not to use it: the same state, the same answers, the same commands. -/
theorem software_fallback (es : List HardwareEvent) (hes : ∀ e ∈ es, e.Unavailable) :
    hardwareMachine.run .fresh (es.map HardwareEvent.software) =
      (hardwareMachine.run .fresh es).map HardwareManager.software :=
  EventMachine.run_map HardwareManager.software HardwareEvent.software
    (fun _ _ s' h he hs' => (HardwareManager.step_unavailable h he).2 s' hs')
    (fun _ _ h he => (HardwareManager.step_unavailable h he).1) HardwareManager.idle_fresh es hes

/-- A frame in each mode, on a machine with no VAAPI device. -/
def noDeviceRun : List HardwareEvent :=
  [.prepare { width := 1, height := 1, h264HwAccel := true } {},
    .encodeSurfaceGfx { gfxH264 := true } (onePixel 1) false {} (· = .hwdeviceCtxCreate)
      { fails := (· = .hwdeviceCtxCreate) },
    .encodeSurfaceGfx { gfxH264 := true, gfxProgressive := true } (onePixel 2) true {}
      (· = .hwdeviceCtxCreate) { fails := (· = .hwdeviceCtxCreate) }]

theorem software_fallback_noDevice :
    hardwareMachine.run .fresh (noDeviceRun.map HardwareEvent.software) =
      (hardwareMachine.run .fresh noDeviceRun).map HardwareManager.software :=
  software_fallback noDeviceRun (by decide)

end RemoteDesktop.DRD
