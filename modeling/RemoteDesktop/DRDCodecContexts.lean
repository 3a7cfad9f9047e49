import RemoteDesktop.DRDCachedRefresh

/-! The codec contexts of FreeRDP. `drd_encoder_prepare` resets a context once, with the size and the
H.264 parameters that the manager has then, and every encode sets the size of the manager anew. -/
namespace RemoteDesktop.DRD

/-- The H.264 fields of the manager, with the defaults of `drd_encoding_options.h`. -/
structure H264Params where
  bitrate : UInt32 := 5000000
  framerate : UInt32 := 60
  qp : UInt32 := 15
  deriving DecidableEq

structure FrameSize where
  width : ℕ
  height : ℕ
  deriving DecidableEq

/-- What `h264_context_reset` and `h264_context_set_option` were last called with. -/
structure H264Context where
  size : FrameSize
  params : H264Params
  deriving DecidableEq

/-- A frame given to a compressor, with the context that it was given to, and with the parameters
that were configured then. -/
inductive HandedFrame
  | h264 (context : Option H264Context) (size : FrameSize) (params : H264Params)
  | rfx (context : Option FrameSize) (size : FrameSize)
  deriving DecidableEq

def HandedFrame.Matches : HandedFrame → Prop
  | .h264 context size params => context = some ⟨size, params⟩
  | .rfx context size => context = some size

/-- The manager with its contexts. An RFX context is the size of its last reset, and `handed` is the
history of frames, the newest first. -/
structure CodecManager where
  manager : EncodingManager := {}
  params : H264Params := {}
  h264 : Option H264Context := none
  rfx : Option FrameSize := none
  handed : List HandedFrame := []

namespace EncodingManager

variable (m : EncodingManager)

def frameSize : FrameSize := ⟨m.frameWidth, m.frameHeight⟩

def setCodec (context : EncoderContext) : EncodingManager :=
  { m with codecs := context :: m.codecs }

/-- The context whose compressor gets the frame, once that context is there. -/
def handedTo (plan : EncodePlan) (env : EncodeEnv) : Option EncoderContext :=
  match plan.codec with
  | some .avc444 => some .avc
  -- VAAPI takes the frame unless it fails
  | some .avc420 => if m.h264HwAccel = true ∧ env.vaapiEncode ≠ .failed then none else some .avc
  | some .progressive => (m.startNonAvc plan env.refreshNow).2.map fun _ => .progressive
  | some .remotefx => (m.startNonAvc plan env.refreshNow).2.map fun _ => .remotefx
  | none => none

end EncodingManager

inductive CodecEvent
  | prepare (options : EncodingOptions) (params : H264Params)
  | reset
  | encoderPrepare (codecs initialised : EncoderContext → Bool)
  | encodeSurfaceGfx (settings : GfxSettings) (input : { f : Frame // f.WellFormed })
      (autoSwitch : Bool) (env : EncodeEnv)

namespace CodecManager

variable (s : CodecManager)

def reset : CodecManager :=
  if !s.manager.ready then s
  else { s with manager := s.manager.reset, h264 := none, rfx := none }

def prepare (options : EncodingOptions) (params : H264Params) : CodecManager :=
  if options.width = 0 ∨ options.height = 0 then s
  else if options.mode = .other then s.reset
  else
    let s :=
      if s.manager.ready ∧ (s.manager.frameWidth ≠ options.width ∨
          s.manager.frameHeight ≠ options.height) then s.reset
      else s
    { s with manager := (s.manager.prepare options).1, params := params }

/-- A context that fails to initialise is freed. -/
def initH264 (initialised : Bool) : CodecManager × Bool :=
  if initialised then
    ({ s with
        manager := s.manager.setCodec .avc
        h264 := some ⟨s.manager.frameSize, s.params⟩ }, true)
  else ({ s with h264 := none }, false)

def initRfx (initialised : Bool) : CodecManager × Bool :=
  if initialised then
    ({ s with manager := s.manager.setCodec .remotefx, rfx := some s.manager.frameSize }, true)
  else ({ s with rfx := none }, false)

/-- A progressive context has no size. -/
def initProgressive (initialised : Bool) : CodecManager × Bool :=
  if initialised then ({ s with manager := s.manager.setCodec .progressive }, true) else (s, false)

/-- One of the three parts of `drd_encoder_prepare`. -/
def prepareContext (context : EncoderContext) (initialised : Bool) : CodecManager × Bool :=
  if context ∈ s.manager.codecs then (s, true)
  else
    match context with
    | .remotefx => s.initRfx initialised
    | .avc => s.initH264 initialised
    | .progressive => s.initProgressive initialised

def prepareContexts (s : CodecManager) (initialised : EncoderContext → Bool) :
    List EncoderContext → CodecManager × Bool
  | [] => (s, true)
  | context :: contexts =>
    match s.prepareContext context (initialised context) with
    | (s, false) => (s, false)
    | (s, true) => s.prepareContexts initialised contexts

/-- `codecs` are the bits of the argument. -/
def encoderPrepare (codecs initialised : EncoderContext → Bool) : CodecManager × Bool :=
  s.prepareContexts initialised ([.remotefx, .avc, .progressive].filter codecs)

/-- The call of `avc444_compress`, `avc420_compress` or `rfx_compose_message`. -/
def hand : EncoderContext → CodecManager
  | .avc => { s with handed := .h264 s.h264 s.manager.frameSize s.params :: s.handed }
  | .remotefx => { s with handed := .rfx s.rfx s.manager.frameSize :: s.handed }
  | .progressive => s

/-- The context of the codec, and the frame for its compressor. -/
def compress (plan : EncodePlan) (env : EncodeEnv) : CodecManager :=
  match plan.codec with
  | none => s
  | some codec =>
    match s.prepareContext codec.context env.encoderInit with
    | (s, false) => s
    | (s, true) =>
      match s.manager.handedTo plan env with
      | none => s
      | some context => s.hand context

def encodeSurfaceGfx (settings : GfxSettings) (input : Frame) (autoSwitch : Bool) (env : EncodeEnv) :
    Option CodecManager :=
  if !s.manager.ready then some s
  else
    let (m, plan) := s.manager.beginEncode settings input autoSwitch env.vaapiPrepare
    let s := { s with manager := m }.compress plan env
    (m.encodeWith plan env).map fun outcome => { s with manager := outcome.manager }

def step : CodecEvent → Option CodecManager
  | .prepare options params => some (s.prepare options params)
  | .reset => some s.reset
  | .encoderPrepare codecs initialised => some (s.encoderPrepare codecs initialised).1
  | .encodeSurfaceGfx settings input autoSwitch env =>
    s.encodeSurfaceGfx settings input.1 autoSwitch env

end CodecManager

/-- The runs from a fresh manager. -/
def codecMachine : EventMachine CodecManager CodecEvent where
  init s := s = {}
  step := CodecManager.step

namespace CodecManager

variable (s : CodecManager)

/-- Each context that there is was reset with the size and the parameters that the manager has. -/
structure ContextsMatch (s : CodecManager) : Prop where
  h264 : ∀ context, s.h264 = some context → context = ⟨s.manager.frameSize, s.params⟩
  rfx : ∀ size, s.rfx = some size → size = s.manager.frameSize

/-- The size of the manager can become another one without harm: no context has it. -/
def FreeToResize (size : FrameSize) : Prop :=
  size = s.manager.frameSize ∨ (s.h264 = none ∧ s.rfx = none)

instance (size : FrameSize) : Decidable (s.FreeToResize size) :=
  inferInstanceAs (Decidable (_ ∨ (_ ∧ _)))

/-- A call of `prepare` that goes through, on a manager whose contexts it keeps. -/
def PrepareReuses (options : EncodingOptions) : Prop :=
  ¬ (options.width = 0 ∨ options.height = 0) ∧ options.mode ≠ .other ∧
    ¬ (s.manager.ready = true ∧ (s.manager.frameWidth ≠ options.width ∨
      s.manager.frameHeight ≠ options.height))

instance (options : EncodingOptions) : Decidable (s.PrepareReuses options) :=
  inferInstanceAs (Decidable (¬ (_ ∨ _) ∧ _ ∧ ¬ (_ ∧ (_ ∨ _))))

end CodecManager

/-- A step changes the size of the manager, or its H.264 parameters, only where it resets the manager
on the way or no context depends on them. -/
def CodecEvent.KeepsContexts (s : CodecManager) : CodecEvent → Prop
  | .prepare options params =>
    s.PrepareReuses options →
      s.FreeToResize ⟨options.width, options.height⟩ ∧ (params = s.params ∨ s.h264 = none)
  | .encodeSurfaceGfx _ input _ _ =>
    s.manager.ready = true → s.FreeToResize ⟨input.1.width, input.1.height⟩
  | .reset | .encoderPrepare .. => True

instance (s : CodecManager) : DecidablePred (CodecEvent.KeepsContexts s)
  | .prepare options _ => inferInstanceAs (Decidable (s.PrepareReuses options → _ ∧ (_ ∨ _)))
  | .encodeSurfaceGfx .. => inferInstanceAs (Decidable (_ → _))
  | .reset | .encoderPrepare .. => isTrue trivial

/-! The manager takes the steps of `DRDEncodingManager`. -/

namespace CodecManager

variable (s : CodecManager)

theorem reset_manager : s.reset.manager = s.manager.reset := by
  rw [reset, EncodingManager.reset]
  split
  · rfl
  · rfl

theorem prepare_manager (options : EncodingOptions) (params : H264Params) :
    (s.prepare options params).manager = (s.manager.prepare options).1 := by
  rw [prepare, EncodingManager.prepare]
  by_cases hzero : options.width = 0 ∨ options.height = 0
  · rw [if_pos hzero, if_pos hzero]
  · rw [if_neg hzero, if_neg hzero]
    by_cases hmode : options.mode = .other
    · rw [if_pos hmode, if_pos hmode]
      exact s.reset_manager
    · rw [if_neg hmode, if_neg hmode]
      by_cases hsize : s.manager.ready = true ∧ (s.manager.frameWidth ≠ options.width ∨
          s.manager.frameHeight ≠ options.height)
      · -- a manager that was reset is not reset again
        have hreset : ¬ (s.manager.reset.ready = true ∧
            (s.manager.reset.frameWidth ≠ options.width ∨
              s.manager.reset.frameHeight ≠ options.height)) := by
          rw [EncodingManager.reset, hsize.1]
          simp
        simp only [if_pos hsize, EncodingManager.prepare, if_neg hzero, if_neg hmode, reset_manager,
          if_neg hreset]
      · simp only [if_neg hsize, EncodingManager.prepare, if_neg hzero, if_neg hmode]

theorem encodeSurfaceGfx_manager (settings : GfxSettings) (input : Frame) (autoSwitch : Bool)
    (env : EncodeEnv) :
    (s.encodeSurfaceGfx settings input autoSwitch env).map (·.manager) =
      (s.manager.encodeSurfaceGfx settings input autoSwitch env).map (·.manager) := by
  rw [encodeSurfaceGfx, EncodingManager.encodeSurfaceGfx]
  split
  · rfl
  · exact Option.map_map ..

end CodecManager

/-! What an encode does to the size and to the bits of the contexts. -/

namespace EncodingManager

variable {m m' m'' : EncodingManager} {plan : EncodePlan} {env : EncodeEnv}

/-- Two managers with the same size and the same contexts. -/
structure SameSetup (m m' : EncodingManager) : Prop where
  frameWidth : m'.frameWidth = m.frameWidth
  frameHeight : m'.frameHeight = m.frameHeight
  codecs : m'.codecs = m.codecs

theorem SameSetup.refl (m : EncodingManager) : m.SameSetup m := by
  constructor <;> rfl

theorem SameSetup.trans (h : m.SameSetup m') (h' : m'.SameSetup m'') : m.SameSetup m'' where
  frameWidth := h'.frameWidth.trans h.frameWidth
  frameHeight := h'.frameHeight.trans h.frameHeight
  codecs := h'.codecs.trans h.codecs

theorem SameSetup.frameSize (h : m.SameSetup m') : m'.frameSize = m.frameSize := by
  rw [EncodingManager.frameSize, EncodingManager.frameSize, h.frameWidth, h.frameHeight]

theorem registerNonAvc_sameSetup (m : EncodingManager) (keyframe : Bool) (now : ℤ) :
    m.SameSetup (m.registerNonAvc keyframe now) := by
  simp only [registerNonAvc]
  repeat' split
  all_goals constructor <;> rfl

theorem updateTileHashes_sameSetup (m : EncodingManager) (data : List UInt8) (stride : ℕ) :
    m.SameSetup (m.updateTileHashes data stride) := by
  rw [updateTileHashes]
  split
  · exact .refl m
  · constructor <;> rfl

theorem storeFrame_sameSetup (m : EncodingManager) (frame : Frame) (codecClass : EncodingCodecClass)
    (keyframe : Bool) (now : ℤ) : m.SameSetup (m.storeFrame frame codecClass keyframe now) := by
  have hstored : m.SameSetup (m.storePreviousFrame frame.data frame.stride frame.height) := by
    constructor <;> rfl
  have hhashes := hstored.trans (updateTileHashes_sameSetup _ frame.data frame.stride)
  rw [storeFrame]
  cases codecClass with
  | nonAvc => exact hhashes.trans (registerNonAvc_sameSetup _ keyframe now)
  | unknown => exact hhashes.trans (by constructor <;> rfl)
  | avc => exact hhashes.trans (by constructor <;> rfl)

theorem sendAvc_sameSetup (m : EncodingManager) (plan : EncodePlan) (env : EncodeEnv) :
    m.SameSetup (m.sendAvc plan env).manager := by
  rw [sendAvc]
  by_cases hrc : env.surfaceFrameCommand ≠ 0
  · simp only [if_pos hrc]
    exact .refl m
  · simp only [if_neg hrc]
    exact m.storeFrame_sameSetup plan.frame .avc true env.registerNow

theorem sendNonAvc_sameSetup (m : EncodingManager) (plan : EncodePlan) (env : EncodeEnv)
    (update : SurfaceUpdate) (keyframe : Bool) :
    m.SameSetup (m.sendNonAvc plan env update keyframe).manager := by
  rw [sendNonAvc]
  by_cases hrc : env.surfaceFrameCommand ≠ 0
  · simp only [if_pos hrc]
    constructor <;> rfl
  · simp only [if_neg hrc]
    have hstored := m.storeFrame_sameSetup plan.frame .nonAvc keyframe env.registerNow
    exact ⟨hstored.frameWidth, hstored.frameHeight, hstored.codecs⟩

theorem startNonAvc_sameSetup (m : EncodingManager) (plan : EncodePlan) (now : ℤ) :
    m.SameSetup (m.startNonAvc plan now).1 := by
  rw [startNonAvc]
  split
  · constructor <;> rfl
  · split
    · exact .refl m
    · exact .refl m

theorem encodeAvc420Software_sameSetup (m : EncodingManager) (plan : EncodePlan) (env : EncodeEnv) :
    m.SameSetup (m.encodeAvc420Software plan env).manager := by
  rw [encodeAvc420Software]
  split
  · exact .refl m
  · split
    · exact .refl m
    · exact m.sendAvc_sameSetup plan env

/-- The manager with the context of the codec, where that can be had. -/
def withContext (m : EncodingManager) (codec : GfxCodec) (env : EncodeEnv) : EncodingManager :=
  (m.encoderPrepare codec.context env.encoderInit).getD m

theorem encodeAvc444_sameSetup (m : EncodingManager) (plan : EncodePlan) (env : EncodeEnv) :
    (m.withContext .avc444 env).SameSetup (m.encodeAvc444 plan env).manager := by
  rw [withContext, encodeAvc444, GfxCodec.context]
  rcases m.encoderPrepare .avc env.encoderInit with _ | m₁
  · exact .refl m
  · show m₁.SameSetup (ite _ _ _ : GfxEncodeOutcome).manager
    split
    · exact .refl m₁
    · split
      · exact .refl m₁
      · exact m₁.sendAvc_sameSetup plan env

theorem encodeAvc420_sameSetup (m : EncodingManager) (plan : EncodePlan) (env : EncodeEnv) :
    (m.withContext .avc420 env).SameSetup (m.encodeAvc420 plan env).manager := by
  rw [withContext, encodeAvc420, GfxCodec.context]
  rcases m.encoderPrepare .avc env.encoderInit with _ | m₁
  · exact .refl m
  · show m₁.SameSetup (ite _ _ _ : GfxEncodeOutcome).manager
    split
    · cases env.vaapiEncode with
      | encoded => exact m₁.sendAvc_sameSetup plan env
      | pending => exact .refl m₁
      | failed => exact m₁.encodeAvc420Software_sameSetup plan env
    · exact m₁.encodeAvc420Software_sameSetup plan env

theorem encodeProgressive_sameSetup (m : EncodingManager) (plan : EncodePlan) (env : EncodeEnv) :
    (m.withContext .progressive env).SameSetup (m.encodeProgressive plan env).manager := by
  rw [withContext, encodeProgressive, GfxCodec.context]
  rcases m.encoderPrepare .progressive env.encoderInit with _ | m₁
  · exact .refl m
  · have hstart := m₁.startNonAvc_sameSetup plan env.refreshNow
    simp only [Option.getD_some]
    rcases hstarted : m₁.startNonAvc plan env.refreshNow with ⟨m₂, _ | ⟨update, keyframe⟩⟩
    · rw [hstarted] at hstart
      exact hstart
    · rw [hstarted] at hstart
      apply hstart.trans
      show m₂.SameSetup (ite _ _ _ : GfxEncodeOutcome).manager
      split
      · exact .refl m₂
      · split
        · exact .refl m₂
        · exact m₂.sendNonAvc_sameSetup plan env update keyframe

theorem encodeRemotefx_sameSetup {o : GfxEncodeOutcome} (ho : m.encodeRemotefx plan env = some o) :
    (m.withContext .remotefx env).SameSetup o.manager := by
  rw [encodeRemotefx] at ho
  rw [withContext, GfxCodec.context]
  rcases hprepare : m.encoderPrepare .remotefx env.encoderInit with _ | m₁
  · rw [hprepare] at ho
    rw [← Option.some.inj ho]
    exact .refl m
  · have hstart := m₁.startNonAvc_sameSetup plan env.refreshNow
    simp only [hprepare] at ho
    rcases hstarted : m₁.startNonAvc plan env.refreshNow with ⟨m₂, _ | ⟨update, keyframe⟩⟩
    · rw [hstarted] at ho hstart
      rw [← Option.some.inj ho]
      exact hstart
    · rw [hstarted] at ho hstart
      apply hstart.trans
      simp only at ho
      split at ho
      · cases ho
      · split at ho
        · rw [← Option.some.inj ho]
          exact .refl m₂
        · split at ho
          · rw [← Option.some.inj ho]
            exact .refl m₂
          · rw [← Option.some.inj ho]
            exact m₂.sendNonAvc_sameSetup plan env update keyframe

/-- After the choice of the codec, an encode changes nothing in the setup but the bit of the codec's
context. -/
theorem encodeWith_sameSetup {o : GfxEncodeOutcome} (ho : m.encodeWith plan env = some o) :
    (plan.codec.elim m fun codec => m.withContext codec env).SameSetup o.manager := by
  rw [encodeWith] at ho
  rcases hcodec : plan.codec with _ | _ | _ | _ | _
  · rw [hcodec] at ho
    rw [← Option.some.inj ho]
    exact .refl m
  · rw [hcodec] at ho
    rw [← Option.some.inj ho]
    exact m.encodeAvc444_sameSetup plan env
  · rw [hcodec] at ho
    rw [← Option.some.inj ho]
    exact m.encodeAvc420_sameSetup plan env
  · rw [hcodec] at ho
    rw [← Option.some.inj ho]
    exact m.encodeProgressive_sameSetup plan env
  · rw [hcodec] at ho
    exact encodeRemotefx_sameSetup ho

end EncodingManager

namespace CodecManager

variable {s s' s'' : CodecManager} {e : CodecEvent} {m : EncodingManager} {plan : EncodePlan}
  {env : EncodeEnv}

/-- The bits of `codecs` tell which contexts there are. -/
structure BitsTell (s : CodecManager) : Prop where
  h264 : .avc ∈ s.manager.codecs ↔ s.h264.isSome = true
  rfx : .remotefx ∈ s.manager.codecs ↔ s.rfx.isSome = true

/-- What the preparation of contexts can do: reset those that there are not. -/
structure Prepared (s s' : CodecManager) : Prop where
  size : s'.manager.frameSize = s.manager.frameSize
  params : s'.params = s.params
  bits : s'.BitsTell
  h264 : s'.h264 = s.h264 ∨ (s.h264 = none ∧ s'.h264 = some ⟨s.manager.frameSize, s.params⟩)
  rfx : s'.rfx = s.rfx ∨ (s.rfx = none ∧ s'.rfx = some s.manager.frameSize)

theorem Prepared.refl (h : s.BitsTell) : s.Prepared s :=
  ⟨rfl, rfl, h, .inl rfl, .inl rfl⟩

theorem Prepared.trans (h : s.Prepared s') (h' : s'.Prepared s'') : s.Prepared s'' := by
  refine ⟨h'.size.trans h.size, h'.params.trans h.params, h'.bits, ?_, ?_⟩
  -- a context that the first preparation made is not there to be made by the second
  · rcases h'.h264 with hkept | ⟨hnone, hnew⟩
    · rw [hkept]
      exact h.h264
    · rcases h.h264 with hkept | ⟨-, hsome⟩
      · rw [hnew, h.size, h.params, ← hkept]
        exact .inr ⟨hnone, rfl⟩
      · rw [hsome] at hnone
        cases hnone
  · rcases h'.rfx with hkept | ⟨hnone, hnew⟩
    · rw [hkept]
      exact h.rfx
    · rcases h.rfx with hkept | ⟨-, hsome⟩
      · rw [hnew, h.size, ← hkept]
        exact .inr ⟨hnone, rfl⟩
      · rw [hsome] at hnone
        cases hnone

/-- New contexts match, and old ones stay as good or as bad as they were. -/
theorem Prepared.contextsMatch_iff (h : s.Prepared s') : s'.ContextsMatch ↔ s.ContextsMatch := by
  constructor
  · intro hmatch
    constructor
    case h264 =>
      intro context hcontext
      rcases h.h264 with hkept | ⟨hnone, -⟩
      · rw [← h.size, ← h.params]
        exact hmatch.h264 context (hkept.trans hcontext)
      · rw [hnone] at hcontext
        cases hcontext
    case rfx =>
      intro size hsize
      rcases h.rfx with hkept | ⟨hnone, -⟩
      · rw [← h.size]
        exact hmatch.rfx size (hkept.trans hsize)
      · rw [hnone] at hsize
        cases hsize
  · intro hmatch
    constructor
    case h264 =>
      intro context hcontext
      rw [h.size, h.params]
      rcases h.h264 with hkept | ⟨-, hnew⟩
      · exact hmatch.h264 context (hkept.symm.trans hcontext)
      · exact (Option.some.inj (hnew.symm.trans hcontext)).symm
    case rfx =>
      intro size hsize
      rw [h.size]
      rcases h.rfx with hkept | ⟨-, hnew⟩
      · exact hmatch.rfx size (hkept.symm.trans hsize)
      · exact (Option.some.inj (hnew.symm.trans hsize)).symm

theorem initH264_prepared (h : s.BitsTell) (habsent : .avc ∉ s.manager.codecs) (initialised : Bool) :
    s.Prepared (s.initH264 initialised).1 := by
  have hnone : s.h264 = none := by
    rw [← Option.not_isSome_iff_eq_none, ← h.h264]
    exact habsent
  rw [initH264]
  cases initialised with
  | true =>
    refine ⟨rfl, rfl, ⟨?_, ?_⟩, .inr ⟨hnone, rfl⟩, .inl rfl⟩
    · simp [EncodingManager.setCodec]
    · simp [EncodingManager.setCodec, h.rfx]
  | false =>
    refine ⟨rfl, rfl, ⟨?_, h.rfx⟩, .inl hnone.symm, .inl rfl⟩
    exact iff_of_false habsent Bool.false_ne_true

theorem initRfx_prepared (h : s.BitsTell) (habsent : .remotefx ∉ s.manager.codecs)
    (initialised : Bool) : s.Prepared (s.initRfx initialised).1 := by
  have hnone : s.rfx = none := by
    rw [← Option.not_isSome_iff_eq_none, ← h.rfx]
    exact habsent
  rw [initRfx]
  cases initialised with
  | true =>
    refine ⟨rfl, rfl, ⟨?_, ?_⟩, .inl rfl, .inr ⟨hnone, rfl⟩⟩
    · simp [EncodingManager.setCodec, h.h264]
    · simp [EncodingManager.setCodec]
  | false =>
    refine ⟨rfl, rfl, ⟨h.h264, ?_⟩, .inl rfl, .inl hnone.symm⟩
    exact iff_of_false habsent Bool.false_ne_true

theorem initProgressive_prepared (h : s.BitsTell) (initialised : Bool) :
    s.Prepared (s.initProgressive initialised).1 := by
  rw [initProgressive]
  cases initialised with
  | true =>
    refine ⟨rfl, rfl, ⟨?_, ?_⟩, .inl rfl, .inl rfl⟩
    · simp [EncodingManager.setCodec, h.h264]
    · simp [EncodingManager.setCodec, h.rfx]
  | false => exact .refl h

theorem prepareContext_prepared (h : s.BitsTell) (context : EncoderContext) (initialised : Bool) :
    s.Prepared (s.prepareContext context initialised).1 := by
  unfold prepareContext
  by_cases hpresent : context ∈ s.manager.codecs
  · rw [if_pos hpresent]
    exact .refl h
  · rw [if_neg hpresent]
    cases context with
    | remotefx => exact initRfx_prepared h hpresent initialised
    | avc => exact initH264_prepared h hpresent initialised
    | progressive => exact initProgressive_prepared h initialised

theorem prepareContexts_prepared (h : s.BitsTell) (initialised : EncoderContext → Bool)
    (contexts : List EncoderContext) : s.Prepared (s.prepareContexts initialised contexts).1 := by
  induction contexts generalizing s with
  | nil => exact .refl h
  | cons context contexts ih =>
    have hfirst := prepareContext_prepared h context (initialised context)
    rw [prepareContexts]
    rcases hprepared : s.prepareContext context (initialised context) with ⟨s₁, _ | _⟩
    -- a failure ends the preparation, and the contexts before it stay
    · rw [hprepared] at hfirst
      exact hfirst
    · rw [hprepared] at hfirst
      exact hfirst.trans (ih hfirst.bits)

/-- The bit is set by every preparation that succeeds. -/
theorem prepareContext_mem {context : EncoderContext} {initialised : Bool}
    (h : s.prepareContext context initialised = (s', true)) : context ∈ s'.manager.codecs := by
  unfold prepareContext at h
  by_cases hpresent : context ∈ s.manager.codecs
  · rw [if_pos hpresent] at h
    rw [← (Prod.mk.inj h).1]
    exact hpresent
  · rw [if_neg hpresent] at h
    cases context <;> cases initialised <;> cases h <;> exact List.mem_cons_self

/-- On the manager, it is the preparation that the encode makes. -/
theorem prepareContext_manager (context : EncoderContext) (initialised : Bool) :
    (s.prepareContext context initialised).1.manager =
      (s.manager.encoderPrepare context initialised).getD s.manager := by
  unfold prepareContext EncodingManager.encoderPrepare
  by_cases hpresent : context ∈ s.manager.codecs
  · rw [if_pos hpresent, if_pos hpresent]
    rfl
  · rw [if_neg hpresent, if_neg hpresent]
    cases context <;> cases initialised <;> rfl

theorem handedTo_eq {context : EncoderContext} (h : m.handedTo plan env = some context) :
    ∃ codec, plan.codec = some codec ∧ codec.context = context := by
  unfold EncodingManager.handedTo at h
  split at h
  · rename_i hcodec
    exact ⟨.avc444, hcodec, Option.some.inj h⟩
  · rename_i hcodec
    split at h
    · cases h
    · exact ⟨.avc420, hcodec, Option.some.inj h⟩
  · rename_i hcodec
    obtain ⟨-, -, hcontext⟩ := Option.map_eq_some_iff.mp h
    exact ⟨.progressive, hcodec, hcontext⟩
  · rename_i hcodec
    obtain ⟨-, -, hcontext⟩ := Option.map_eq_some_iff.mp h
    exact ⟨.remotefx, hcodec, hcontext⟩
  · cases h

theorem hand_prepared (h : s.BitsTell) (context : EncoderContext) : s.Prepared (s.hand context) := by
  cases context with
  | remotefx => exact ⟨rfl, rfl, ⟨h.h264, h.rfx⟩, .inl rfl, .inl rfl⟩
  | avc => exact ⟨rfl, rfl, ⟨h.h264, h.rfx⟩, .inl rfl, .inl rfl⟩
  | progressive => exact .refl h

/-- A frame goes to a context that was reset for it, where all contexts were. -/
theorem hand_matches {context : EncoderContext} (h : s.BitsTell) (hmatch : s.ContextsMatch)
    (hpresent : context ∈ s.manager.codecs) (hhanded : ∀ x ∈ s.handed, x.Matches) :
    ∀ x ∈ (s.hand context).handed, x.Matches := by
  cases context with
  | remotefx =>
    intro x hx
    rcases List.mem_cons.mp hx with rfl | hx
    · obtain ⟨size, hsize⟩ := Option.isSome_iff_exists.mp (h.rfx.mp hpresent)
      rw [HandedFrame.Matches, hsize, hmatch.rfx size hsize]
    · exact hhanded x hx
  | avc =>
    intro x hx
    rcases List.mem_cons.mp hx with rfl | hx
    · obtain ⟨context, hcontext⟩ := Option.isSome_iff_exists.mp (h.h264.mp hpresent)
      rw [HandedFrame.Matches, hcontext, hmatch.h264 context hcontext]
    · exact hhanded x hx
  | progressive => exact hhanded

theorem prepareContext_handed (context : EncoderContext) (initialised : Bool) :
    (s.prepareContext context initialised).1.handed = s.handed := by
  unfold prepareContext
  split
  · rfl
  · cases context <;> cases initialised <;> rfl

theorem prepareContexts_handed (initialised : EncoderContext → Bool)
    (contexts : List EncoderContext) : (s.prepareContexts initialised contexts).1.handed = s.handed := by
  induction contexts generalizing s with
  | nil => rfl
  | cons context contexts ih =>
    have hfirst := prepareContext_handed (s := s) context (initialised context)
    rw [prepareContexts]
    rcases hprepared : s.prepareContext context (initialised context) with ⟨s₁, _ | _⟩
    · rw [hprepared] at hfirst
      exact hfirst
    · rw [hprepared] at hfirst
      exact ih.trans hfirst

theorem compress_prepared (h : s.BitsTell) (plan : EncodePlan) (env : EncodeEnv) :
    s.Prepared (s.compress plan env) := by
  unfold compress
  split
  · exact .refl h
  · rename_i codec _
    have hcontext := prepareContext_prepared h codec.context env.encoderInit
    split
    · rename_i s₁ hprepared
      rw [hprepared] at hcontext
      exact hcontext
    · rename_i s₁ hprepared
      rw [hprepared] at hcontext
      split
      · exact hcontext
      · exact hcontext.trans (hand_prepared hcontext.bits _)

theorem compress_handed (h : s.BitsTell) (hmatch : s.ContextsMatch)
    (hhanded : ∀ x ∈ s.handed, x.Matches) : ∀ x ∈ (s.compress plan env).handed, x.Matches := by
  unfold compress
  split
  · exact hhanded
  · rename_i codec hcodec
    have hcontext := prepareContext_prepared h codec.context env.encoderInit
    have hkept := prepareContext_handed (s := s) codec.context env.encoderInit
    split
    · rename_i s₁ hprepared
      rw [hprepared] at hkept
      rw [hkept]
      exact hhanded
    · rename_i s₁ hprepared
      rw [hprepared] at hkept hcontext
      rw [← hkept] at hhanded
      split
      · exact hhanded
      · rename_i context hto
        obtain ⟨codec', hcodec', hcontext'⟩ := handedTo_eq hto
        rw [hcodec, Option.some.injEq] at hcodec'
        -- the frame goes to the context of the codec, whose bit the preparation has set
        apply hand_matches hcontext.bits (hcontext.contextsMatch_iff.mpr hmatch) _ hhanded
        rw [← hcontext', ← hcodec']
        exact prepareContext_mem hprepared

theorem compress_manager (plan : EncodePlan) (env : EncodeEnv) :
    (s.compress plan env).manager =
      plan.codec.elim s.manager fun codec => s.manager.withContext codec env := by
  unfold compress
  split
  · rename_i hcodec
    rw [hcodec]
    rfl
  · rename_i codec hcodec
    have hmanager := prepareContext_manager (s := s) codec.context env.encoderInit
    rw [hcodec]
    split
    · rename_i s₁ hprepared
      rw [hprepared] at hmanager
      exact hmanager
    · rename_i s₁ hprepared
      rw [hprepared] at hmanager
      split
      · exact hmanager
      · rename_i context _
        rw [← show (s₁.hand context).manager = s₁.manager by cases context <;> rfl] at hmanager
        exact hmanager

/-! The steps of a run. -/

/-- The bits and the contexts stay as they are with the size and the parameters. -/
theorem BitsTell.of_sameSetup (h : s.BitsTell) (hsetup : s.manager.SameSetup m) :
    BitsTell { s with manager := m } := by
  constructor
  case h264 =>
    rw [hsetup.codecs]
    exact h.h264
  case rfx =>
    rw [hsetup.codecs]
    exact h.rfx

/-- A new size and new parameters leave contexts that match exactly where no context has the old
ones. -/
theorem ContextsMatch.reconfigure_iff (h : s.ContextsMatch) (m : EncodingManager)
    (params : H264Params) :
    ContextsMatch { s with manager := m, params := params } ↔
      s.FreeToResize m.frameSize ∧ (params = s.params ∨ s.h264 = none) := by
  constructor
  · intro hmatch
    rcases hh264 : s.h264 with _ | context
    · refine ⟨?_, .inr rfl⟩
      rcases hrfx : s.rfx with _ | size
      · exact .inr ⟨hh264, hrfx⟩
      · left
        rw [← hmatch.rfx size hrfx]
        exact h.rfx size hrfx
    · -- both sizes are the size of the context, and so are both parameters
      have hnew : context = ⟨m.frameSize, params⟩ := hmatch.h264 context hh264
      have hold : context = ⟨s.manager.frameSize, s.params⟩ := h.h264 context hh264
      obtain ⟨hsize, hparams⟩ := H264Context.mk.inj (hnew.symm.trans hold)
      exact ⟨.inl hsize, .inl hparams⟩
  · rintro ⟨hsize, hparams⟩
    constructor
    case h264 =>
      intro context hcontext
      have hold := h.h264 context hcontext
      rcases hsize with hsize | ⟨hnone, -⟩
      · rcases hparams with hparams | hnone
        · rw [hold, hsize, hparams]
        · rw [hnone] at hcontext
          cases hcontext
      · rw [hnone] at hcontext
        cases hcontext
    case rfx =>
      intro size hrfx
      have hold := h.rfx size hrfx
      rcases hsize with hsize | ⟨-, hnone⟩
      · rw [hold, ← hsize]
      · rw [hnone] at hrfx
        cases hrfx

/-- The invariant of the runs that keep to the condition. -/
structure Matched (s : CodecManager) : Prop where
  bits : s.BitsTell
  contexts : s.ContextsMatch
  handed : ∀ x ∈ s.handed, x.Matches

theorem beginEncode_setup (m : EncodingManager) (settings : GfxSettings) (input : Frame)
    (autoSwitch vaapiPrepare : Bool) :
    (m.beginEncode settings input autoSwitch vaapiPrepare).1.codecs = m.codecs ∧
      (m.beginEncode settings input autoSwitch vaapiPrepare).1.frameSize =
        ⟨input.width, input.height⟩ := by
  simp only [EncodingManager.beginEncode, EncodingManager.prepareGfxDiffState]
  split
  · exact ⟨rfl, rfl⟩
  · exact ⟨rfl, rfl⟩

theorem encodeSurfaceGfx_ready {settings : GfxSettings} {input : Frame} {autoSwitch : Bool}
    (hready : s.manager.ready = true) :
    s.encodeSurfaceGfx settings input autoSwitch env =
      ((s.manager.beginEncode settings input autoSwitch env.vaapiPrepare).1.encodeWith
        (s.manager.beginEncode settings input autoSwitch env.vaapiPrepare).2 env).map fun outcome =>
          { compress { s with
              manager := (s.manager.beginEncode settings input autoSwitch env.vaapiPrepare).1 }
              (s.manager.beginEncode settings input autoSwitch env.vaapiPrepare).2 env with
            manager := outcome.manager } := by
  rw [encodeSurfaceGfx, hready]
  rfl

/-- An encode leaves contexts that match exactly when the size of its frame was free to take. -/
theorem Matched.encode {settings : GfxSettings} {input : Frame} {autoSwitch : Bool}
    (h : s.Matched) (hready : s.manager.ready = true)
    (hs' : s.encodeSurfaceGfx settings input autoSwitch env = some s') :
    s'.BitsTell ∧ (s'.ContextsMatch ↔ s.FreeToResize ⟨input.width, input.height⟩) ∧
      (s.FreeToResize ⟨input.width, input.height⟩ → ∀ x ∈ s'.handed, x.Matches) := by
  obtain ⟨hcodecs, hsize⟩ :=
    beginEncode_setup s.manager settings input autoSwitch env.vaapiPrepare
  rw [encodeSurfaceGfx_ready hready] at hs'
  generalize (s.manager.beginEncode settings input autoSwitch env.vaapiPrepare).1 = begun at *
  generalize (s.manager.beginEncode settings input autoSwitch env.vaapiPrepare).2 = plan at *
  obtain ⟨o, ho, rfl⟩ := Option.map_eq_some_iff.mp hs'
  have hsetup := EncodingManager.encodeWith_sameSetup ho
  let s₀ : CodecManager := { s with manager := begun }
  -- the size of the frame comes first, then the context, then the compressor
  have hbits : s₀.BitsTell := by
    constructor
    case h264 =>
      rw [hcodecs]
      exact h.bits.h264
    case rfx =>
      rw [hcodecs]
      exact h.bits.rfx
  have hfree : s₀.ContextsMatch ↔ s.FreeToResize ⟨input.width, input.height⟩ := by
    rw [← hsize]
    exact (h.contexts.reconfigure_iff begun s.params).trans (and_iff_left (.inl rfl))
  have hcompressed : s₀.Prepared (s₀.compress plan env) := compress_prepared hbits plan env
  have hsame : (s₀.compress plan env).manager.SameSetup o.manager := by
    rw [compress_manager]
    exact hsetup
  have hmatch : ContextsMatch { s₀.compress plan env with manager := o.manager } ↔
      (s₀.compress plan env).ContextsMatch := by
    constructor
    · rintro ⟨hh264, hrfx⟩
      rw [hsame.frameSize] at hh264 hrfx
      exact ⟨hh264, hrfx⟩
    · rintro ⟨hh264, hrfx⟩
      rw [← hsame.frameSize] at hh264 hrfx
      exact ⟨hh264, hrfx⟩
  refine ⟨hcompressed.bits.of_sameSetup hsame, ?_, ?_⟩
  · exact hmatch.trans (hcompressed.contextsMatch_iff.trans hfree)
  · intro hresize
    exact compress_handed hbits (hfree.mpr hresize) h.handed

theorem reset_matched (h : s.Matched) : s.reset.Matched := by
  rw [reset]
  rcases hready : s.manager.ready with _ | _
  · exact h
  · have hcodecs : s.manager.reset.codecs = [] := by
      rw [EncodingManager.reset, hready]
      rfl
    refine ⟨⟨?_, ?_⟩, ⟨?_, ?_⟩, h.handed⟩
    · simp [hcodecs]
    · simp [hcodecs]
    · simp
    · simp

/-- A `prepare` that goes through and does not reset sets the size and keeps the contexts. -/
theorem prepare_setup {options : EncodingOptions} (h : s.PrepareReuses options) :
    (s.manager.prepare options).1.codecs = s.manager.codecs ∧
      (s.manager.prepare options).1.frameSize = ⟨options.width, options.height⟩ := by
  obtain ⟨hzero, hmode, hsize⟩ := h
  rw [EncodingManager.prepare, if_neg hzero, if_neg hmode, if_neg hsize]
  exact ⟨rfl, rfl⟩

theorem prepare_reuses {options : EncodingOptions} (h : s.PrepareReuses options)
    (params : H264Params) :
    s.prepare options params =
      { s with manager := (s.manager.prepare options).1, params := params } := by
  obtain ⟨hzero, hmode, hsize⟩ := h
  rw [prepare, if_neg hzero, if_neg hmode, if_neg hsize]

/-- Every other `prepare` leaves things as they are, or no context at all. -/
theorem Matched.prepare_of_not (h : s.Matched) {options : EncodingOptions}
    (hnot : ¬ s.PrepareReuses options) (params : H264Params) : (s.prepare options params).Matched := by
  rw [prepare]
  by_cases hzero : options.width = 0 ∨ options.height = 0
  · rw [if_pos hzero]
    exact h
  · rw [if_neg hzero]
    by_cases hmode : options.mode = .other
    · rw [if_pos hmode]
      exact reset_matched h
    · rw [if_neg hmode]
      have hsize : s.manager.ready = true ∧ (s.manager.frameWidth ≠ options.width ∨
          s.manager.frameHeight ≠ options.height) := by
        by_contra hkept
        exact hnot ⟨hzero, hmode, hkept⟩
      have hreset : s.reset = { s with manager := s.manager.reset, h264 := none, rfx := none } := by
        rw [reset, hsize.1]
        rfl
      -- after the reset it is a prepare of a manager that is not ready
      have hreuses : s.reset.PrepareReuses options := by
        refine ⟨hzero, hmode, ?_⟩
        rw [hreset, EncodingManager.reset, hsize.1]
        simp
      obtain ⟨hcodecs, -⟩ := prepare_setup hreuses
      have hbits := (reset_matched h).bits
      rw [if_pos hsize]
      refine ⟨⟨?_, ?_⟩, ⟨?_, ?_⟩, (reset_matched h).handed⟩
      · rw [hcodecs]
        exact hbits.h264
      · rw [hcodecs]
        exact hbits.rfx
      · simp [hreset]
      · simp [hreset]

/-- A `prepare` that reuses contexts leaves them matching exactly when the condition holds. -/
theorem Matched.prepare_reuses (h : s.Matched) {options : EncodingOptions}
    (hreuses : s.PrepareReuses options) (params : H264Params) :
    (s.prepare options params).BitsTell ∧ ((s.prepare options params).ContextsMatch ↔
      s.FreeToResize ⟨options.width, options.height⟩ ∧ (params = s.params ∨ s.h264 = none)) := by
  obtain ⟨hcodecs, hsize⟩ := prepare_setup hreuses
  rw [CodecManager.prepare_reuses hreuses]
  refine ⟨⟨?_, ?_⟩, ?_⟩
  · rw [hcodecs]
    exact h.bits.h264
  · rw [hcodecs]
    exact h.bits.rfx
  · rw [← hsize]
    exact h.contexts.reconfigure_iff _ params

theorem Matched.step (h : s.Matched) (hC : e.KeepsContexts s) (hs' : s.step e = some s') :
    s'.Matched := by
  cases e with
  | prepare options params =>
    rw [← Option.some.inj hs']
    by_cases hreuses : s.PrepareReuses options
    · obtain ⟨hbits, hiff⟩ := h.prepare_reuses hreuses params
      refine ⟨hbits, hiff.mpr (hC hreuses), ?_⟩
      rw [CodecManager.prepare_reuses hreuses]
      exact h.handed
    · exact h.prepare_of_not hreuses params
  | reset =>
    rw [← Option.some.inj hs']
    exact reset_matched h
  -- new contexts have the size of the manager, old ones are not touched
  | encoderPrepare codecs initialised =>
    rw [← Option.some.inj hs']
    have hprepared := prepareContexts_prepared h.bits initialised
      ([.remotefx, .avc, .progressive].filter codecs)
    refine ⟨hprepared.bits, hprepared.contextsMatch_iff.mpr h.contexts, ?_⟩
    rw [encoderPrepare, prepareContexts_handed]
    exact h.handed
  | encodeSurfaceGfx settings input autoSwitch env =>
    rcases hready : s.manager.ready with _ | _
    · rw [CodecManager.step, encodeSurfaceGfx, hready] at hs'
      rw [← Option.some.inj hs']
      exact h
    · obtain ⟨hbits, hiff, hhanded⟩ := h.encode hready hs'
      have hfree := hC hready
      exact ⟨hbits, hiff.mpr hfree, hhanded hfree⟩

/-- A step against the condition leaves a context of another size or with other parameters. -/
theorem Matched.step_stale (h : s.Matched) (hC : ¬ e.KeepsContexts s) (hs' : s.step e = some s') :
    ¬ s'.ContextsMatch := by
  cases e with
  | prepare options params =>
    rw [CodecEvent.KeepsContexts, Classical.not_imp] at hC
    obtain ⟨hreuses, hnot⟩ := hC
    rw [← Option.some.inj hs', (h.prepare_reuses hreuses params).2]
    exact hnot
  | reset => exact absurd trivial hC
  | encoderPrepare codecs initialised => exact absurd trivial hC
  | encodeSurfaceGfx settings input autoSwitch env =>
    rw [CodecEvent.KeepsContexts, Classical.not_imp] at hC
    obtain ⟨hready, hnot⟩ := hC
    rw [(h.encode hready hs').2.1]
    exact hnot

theorem matched_init : Matched {} := by
  refine ⟨⟨?_, ?_⟩, ⟨?_, ?_⟩, ?_⟩
  · simp
  · simp
  · simp
  · simp
  · simp

end CodecManager

/-- In a run whose steps keep to the condition, every frame goes to a context that was reset with its
size and the H.264 parameters configured then. The steps that the condition excludes are those that
leave a context behind. -/
theorem handed_frames_match (es : List CodecEvent) {t : CodecManager}
    (hrun : codecMachine.run {} es = some t) :
    (codecMachine.StepsMeet CodecEvent.KeepsContexts {} es → ∀ x ∈ t.handed, x.Matches) ∧
      (codecMachine.StatesMeet CodecManager.ContextsMatch {} es ↔
        codecMachine.StepsMeet CodecEvent.KeepsContexts {} es) := by
  constructor
  · intro hmeets
    exact (hmeets.preserves (K := CodecManager.Matched) (fun _ _ _ h => h.step)
      CodecManager.matched_init es hrun).handed
  · exact EventMachine.statesMeet_iff_stepsMeet (fun _ h => h.contexts) (fun _ _ _ h => h.step)
      (fun _ _ _ h => h.step_stale) CodecManager.matched_init es hrun

namespace CodecManager

/-- Two pixels side by side. -/
def twoPixels : { f : Frame // f.WellFormed } :=
  ⟨{ width := 2, height := 1, stride := 8, data := List.replicate 8 0 }, by constructor <;> simp⟩

def encodeAvc (input : { f : Frame // f.WellFormed }) : CodecEvent :=
  .encodeSurfaceGfx { gfxAVC444 := true } input false {}

/-- The manager is prepared for the size of the second frame before it comes. -/
def preparedTwice : List CodecEvent :=
  [.prepare { width := 1, height := 1 } {}, encodeAvc (onePixel 1),
    .prepare { width := 2, height := 1 } { bitrate := 1000000 }, encodeAvc twoPixels]

def preparedTwiceEnd : CodecManager := (codecMachine.run {} preparedTwice).get (by decide +kernel)

/-- The larger frame, given to the context that was made for it. -/
def secondFrame : HandedFrame :=
  .h264 (some ⟨⟨2, 1⟩, { bitrate := 1000000 }⟩) ⟨2, 1⟩ { bitrate := 1000000 }

/-- The second frame is larger than the size that the manager was prepared for. -/
def preparedOnce : List CodecEvent :=
  [.prepare { width := 1, height := 1 } {}, encodeAvc (onePixel 1), encodeAvc twoPixels]

def preparedOnceEnd : CodecManager := (codecMachine.run {} preparedOnce).get (by decide +kernel)

end CodecManager

theorem handed_frames_match_prepared :
    CodecManager.secondFrame ∈ CodecManager.preparedTwiceEnd.handed ∧
      CodecManager.secondFrame.Matches := by
  have hrun : codecMachine.run {} CodecManager.preparedTwice = some CodecManager.preparedTwiceEnd :=
    (Option.some_get _).symm
  have hmem : CodecManager.secondFrame ∈ CodecManager.preparedTwiceEnd.handed := by decide +kernel
  exact ⟨hmem, (handed_frames_match CodecManager.preparedTwice hrun).1 (by decide +kernel) _ hmem⟩

/-- The larger frame goes to a context of the smaller size. -/
theorem frame_handed_to_other_size :
    ¬ ∀ es : List CodecEvent, ∀ t, codecMachine.run {} es = some t → ∀ x ∈ t.handed, x.Matches := by
  intro hall
  have hrun : codecMachine.run {} CodecManager.preparedOnce = some CodecManager.preparedOnceEnd :=
    (Option.some_get _).symm
  have hlast : HandedFrame.h264 (some ⟨⟨1, 1⟩, {}⟩) ⟨2, 1⟩ {} ∈ CodecManager.preparedOnceEnd.handed := by
    decide +kernel
  have hmatches := hall _ _ hrun _ hlast
  rw [HandedFrame.Matches] at hmatches
  cases hmatches

end RemoteDesktop.DRD
