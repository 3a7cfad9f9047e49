import RemoteDesktop.DRDEncodingManager

/-! What `drd_encoding_manager_encode_surface_gfx` reports. Its caller counts every TRUE as a frame
that the client has to acknowledge. -/
namespace RemoteDesktop.DRD

open TileGrid

namespace EncodingManager

variable {m m' m'' : EncodingManager} {plan : EncodePlan} {env : EncodeEnv}

/-- What an encode that sends nothing leaves as it was. -/
structure Unsent (m m' : EncodingManager) : Prop where
  ready : m'.ready = m.ready
  previousFrame : m'.gfxPreviousFrame = m.gfxPreviousFrame
  tilesX : m'.gfxTilesX = m.gfxTilesX
  tilesY : m'.gfxTilesY = m.gfxTilesY
  diffWidth : m'.gfxDiffWidth = m.gfxDiffWidth
  diffHeight : m'.gfxDiffHeight = m.gfxDiffHeight
  diffStride : m'.gfxDiffStride = m.gfxDiffStride
  lastCodec : m'.gfxLastCodec = m.gfxLastCodec
  transition : m'.gfxAvcToNonAvcTransition = m.gfxAvcToNonAvcTransition
  rfxFrames : m'.gfxProgressiveRfxFrames = m.gfxProgressiveRfxFrames
  timestamp : m'.gfxNonAvcSwitchTimestampUs = m.gfxNonAvcSwitchTimestampUs

theorem Unsent.refl (m : EncodingManager) : m.Unsent m := by
  constructor <;> rfl

theorem Unsent.trans (h : m.Unsent m') (h' : m'.Unsent m'') : m.Unsent m'' where
  ready := h'.ready.trans h.ready
  previousFrame := h'.previousFrame.trans h.previousFrame
  tilesX := h'.tilesX.trans h.tilesX
  tilesY := h'.tilesY.trans h.tilesY
  diffWidth := h'.diffWidth.trans h.diffWidth
  diffHeight := h'.diffHeight.trans h.diffHeight
  diffStride := h'.diffStride.trans h.diffStride
  lastCodec := h'.lastCodec.trans h.lastCodec
  transition := h'.transition.trans h.transition
  rfxFrames := h'.rfxFrames.trans h.rfxFrames
  timestamp := h'.timestamp.trans h.timestamp

theorem forceKeyframe_unsent (m : EncodingManager) : m.Unsent m.forceKeyframe := by
  constructor <;> rfl

theorem wipeTileHashes_unsent (m : EncodingManager) : m.Unsent m.wipeTileHashes := by
  constructor <;> rfl

/-- The frame that was sent is the previous one, in the geometry that was prepared for it. -/
structure Stored (m m' : EncodingManager) (frame : Frame) : Prop where
  ready : m'.ready = m.ready
  previousFrame : m'.gfxPreviousFrame = frame.data.take (frame.stride * frame.height)
  tilesX : m'.gfxTilesX = m.gfxTilesX
  tilesY : m'.gfxTilesY = m.gfxTilesY
  diffWidth : m'.gfxDiffWidth = m.gfxDiffWidth
  diffHeight : m'.gfxDiffHeight = m.gfxDiffHeight
  diffStride : m'.gfxDiffStride = m.gfxDiffStride

theorem Unsent.stored {frame : Frame} (h : m.Unsent m') (h' : m'.Stored m'' frame) :
    m.Stored m'' frame where
  ready := h'.ready.trans h.ready
  previousFrame := h'.previousFrame
  tilesX := h'.tilesX.trans h.tilesX
  tilesY := h'.tilesY.trans h.tilesY
  diffWidth := h'.diffWidth.trans h.diffWidth
  diffHeight := h'.diffHeight.trans h.diffHeight
  diffStride := h'.diffStride.trans h.diffStride

theorem registerNonAvc_ready (m : EncodingManager) (keyframe : Bool) (now : ℤ) :
    (m.registerNonAvc keyframe now).ready = m.ready := by
  simp only [registerNonAvc]
  repeat' split
  all_goals rfl

theorem registerCodecResult_ready (m : EncodingManager) (codecClass : EncodingCodecClass)
    (keyframe : Bool) (now : ℤ) :
    (m.registerCodecResult codecClass keyframe now).ready = m.ready := by
  cases codecClass with
  | nonAvc => exact m.registerNonAvc_ready keyframe now
  | unknown => rfl
  | avc => rfl

theorem updateTileHashes_unsent (m : EncodingManager) (data : List UInt8) (stride : ℕ) :
    m.Unsent (m.updateTileHashes data stride) := by
  rw [updateTileHashes]
  split
  · exact .refl m
  · constructor <;> rfl

theorem storeFrame_stored (m : EncodingManager) (frame : Frame) (codecClass : EncodingCodecClass)
    (keyframe : Bool) (now : ℤ) : m.Stored (m.storeFrame frame codecClass keyframe now) frame := by
  have hhashes := updateTileHashes_unsent
    (m.storePreviousFrame frame.data frame.stride frame.height) frame.data frame.stride
  have hsame := registerCodecResult_sameDiff ((m.storePreviousFrame frame.data frame.stride
    frame.height).updateTileHashes frame.data frame.stride) codecClass keyframe now
  refine ⟨?_, ?_, ?_, ?_, ?_, ?_, ?_⟩
  · rw [storeFrame, registerCodecResult_ready, hhashes.ready]
    rfl
  · rw [storeFrame, hsame.previousFrame, hhashes.previousFrame]
    rfl
  · rw [storeFrame, hsame.tilesX, hhashes.tilesX]
    rfl
  · rw [storeFrame, hsame.tilesY, hhashes.tilesY]
    rfl
  · rw [storeFrame, hsame.diffWidth, hhashes.diffWidth]
    rfl
  · rw [storeFrame, hsame.diffHeight, hhashes.diffHeight]
    rfl
  · rw [storeFrame, hsame.diffStride, hhashes.diffStride]
    rfl

/-! The preparations of an encode. -/

theorem encoderPrepare_eq {context : EncoderContext} {initialised : Bool}
    (h : m.encoderPrepare context initialised = some m') :
    ∃ codecs, m' = { m with codecs := codecs } := by
  rw [encoderPrepare] at h
  split at h
  · exact ⟨m.codecs, (Option.some.inj h).symm⟩
  · split at h
    · exact ⟨context :: m.codecs, (Option.some.inj h).symm⟩
    · cases h

/-- There is something to give to a non-AVC compressor: the whole frame or a dirty tile. -/
def HasWork (m : EncodingManager) (plan : EncodePlan) (now : ℤ) : Prop :=
  m.keyframeEncode now = true ∨ m.collectDirtyTiles plan.dirty ≠ []

/-- The rectangles fit in 16 bits, as the RemoteFX branch asserts. -/
def RectsFit (m : EncodingManager) (plan : EncodePlan) (now : ℤ) : Prop :=
  m.keyframeEncode now = true ∨ (m.collectDirtyTiles plan.dirty).length ≤ 65535

/-- The encode ends well and nothing is sent: no codec applies, or the compressor of a non-AVC codec
neither fails nor makes data. -/
def Quiet (m : EncodingManager) (plan : EncodePlan) (env : EncodeEnv) : Prop :=
  plan.codec = none ∨
    (plan.codec = some .progressive ∧ (m.encoderPrepare .progressive env.encoderInit).isSome = true ∧
      m.HasWork plan env.refreshNow ∧ env.compress = 0) ∨
    (plan.codec = some .remotefx ∧ (m.encoderPrepare .remotefx env.encoderInit).isSome = true ∧
      m.HasWork plan env.refreshNow ∧ m.RectsFit plan env.refreshNow ∧ env.compress < 0)

/-- How an encode can end after the choice of its codec. -/
inductive EncodeReport (m : EncodingManager) (plan : EncodePlan) (env : EncodeEnv)
    (o : GfxEncodeOutcome) : Prop
  | failed (error : EncodeError) (command : o.command = none) (result : o.result = .error error)
      (unsent : m.Unsent o.manager) (quiet : ¬ m.Quiet plan env)
  | quiet (command : o.command = none) (result : o.result = .ok ()) (unsent : m.Unsent o.manager)
      (quiet : m.Quiet plan env)
  | rejected (update : SurfaceUpdate) (error : EncodeError)
      (command : o.command = some (update, env.surfaceFrameCommand))
      (rc : env.surfaceFrameCommand ≠ 0) (result : o.result = .error error)
      (unsent : m.Unsent o.manager) (quiet : ¬ m.Quiet plan env)
  | sent (update : SurfaceUpdate) (command : o.command = some (update, env.surfaceFrameCommand))
      (rc : env.surfaceFrameCommand = 0) (result : o.result = .ok ())
      (stored : m.Stored o.manager plan.frame) (quiet : ¬ m.Quiet plan env)

theorem encoderPrepare_unsent {context : EncoderContext} {initialised : Bool}
    (h : m.encoderPrepare context initialised = some m') : m.Unsent m' := by
  obtain ⟨codecs, rfl⟩ := encoderPrepare_eq h
  constructor <;> rfl

theorem startNonAvc_none {now : ℤ} (h : m.startNonAvc plan now = (m', none)) :
    m.Unsent m' ∧ ¬ m.HasWork plan now := by
  rw [startNonAvc] at h
  split at h
  · cases h
  · rename_i hkeyframe
    split at h
    · rename_i hclean
      obtain ⟨rfl, -⟩ := Prod.mk.inj h
      refine ⟨.refl m, ?_⟩
      rintro (hforced | hdirty)
      · exact hkeyframe hforced
      · exact hdirty hclean
    · cases h

theorem startNonAvc_some {now : ℤ} {update : SurfaceUpdate} {keyframe : Bool}
    (h : m.startNonAvc plan now = (m', some (update, keyframe))) :
    m.Unsent m' ∧ m.HasWork plan now ∧
      (m.RectsFit plan now ↔ update.rectCount ≤ 65535) := by
  rw [startNonAvc] at h
  split at h
  · rename_i hkeyframe
    obtain ⟨rfl, hupdate⟩ := Prod.mk.inj h
    obtain ⟨rfl, -⟩ := Prod.mk.inj (Option.some.inj hupdate)
    refine ⟨m.wipeTileHashes_unsent, .inl hkeyframe, ?_⟩
    exact iff_of_true (.inl hkeyframe) (by decide)
  · rename_i hkeyframe
    split at h
    · cases h
    · rename_i r rs hdirty
      obtain ⟨rfl, hupdate⟩ := Prod.mk.inj h
      obtain ⟨rfl, -⟩ := Prod.mk.inj (Option.some.inj hupdate)
      refine ⟨.refl m, .inr (by rw [hdirty]; exact List.cons_ne_nil r rs), ?_⟩
      rw [RectsFit, or_iff_right hkeyframe, hdirty]
      rfl

/-! The report of each branch. -/

theorem not_quiet_avc (h : plan.codec = some .avc444 ∨ plan.codec = some .avc420) :
    ¬ m.Quiet plan env := by
  rintro (hcodec | ⟨hcodec, -⟩ | ⟨hcodec, -⟩) <;> rcases h with h | h <;> rw [hcodec] at h <;> cases h

theorem failAvc_report (h : m.Unsent m') (hquiet : ¬ m.Quiet plan env) (code : IOErrorCode)
    (message : String) : EncodeReport m plan env (m'.failAvc code message) :=
  .failed ⟨code, message⟩ rfl rfl h hquiet

theorem failNonAvc_report (h : m.Unsent m') (hquiet : ¬ m.Quiet plan env) (code : IOErrorCode)
    (message : String) : EncodeReport m plan env (m'.failNonAvc code message) :=
  .failed ⟨code, message⟩ rfl rfl h hquiet

theorem sendAvc_report (h : m.Unsent m') (hquiet : ¬ m.Quiet plan env) :
    EncodeReport m plan env (m'.sendAvc plan env) := by
  by_cases hrc : env.surfaceFrameCommand = 0
  · refine .sent .whole rfl hrc ?_ ?_ hquiet
    · rw [sendAvc, hrc]
      rfl
    · rw [sendAvc, hrc]
      exact h.stored (m'.storeFrame_stored plan.frame .avc true env.registerNow)
  · refine .rejected .whole (surfaceFrameError env.surfaceFrameCommand) rfl hrc ?_ ?_ hquiet
    · simp only [sendAvc, ne_eq, hrc, not_false_eq_true, if_true]
    · simp only [sendAvc, ne_eq, hrc, not_false_eq_true, if_true]
      exact h

theorem sendNonAvc_report (h : m.Unsent m') (hquiet : ¬ m.Quiet plan env) (update : SurfaceUpdate)
    (keyframe : Bool) : EncodeReport m plan env (m'.sendNonAvc plan env update keyframe) := by
  by_cases hrc : env.surfaceFrameCommand = 0
  · refine .sent update rfl hrc ?_ ?_ hquiet
    · rw [sendNonAvc, hrc]
      rfl
    · rw [sendNonAvc, hrc]
      -- clearing the flag comes after the frame is stored
      obtain ⟨h₁, h₂, h₃, h₄, h₅, h₆, h₇⟩ :=
        m'.storeFrame_stored plan.frame .nonAvc keyframe env.registerNow
      exact h.stored ⟨h₁, h₂, h₃, h₄, h₅, h₆, h₇⟩
  · refine .rejected update (surfaceFrameError env.surfaceFrameCommand) rfl hrc ?_ ?_ hquiet
    · simp only [sendNonAvc, ne_eq, hrc, not_false_eq_true, if_true]
    · simp only [sendNonAvc, ne_eq, hrc, not_false_eq_true, if_true]
      exact h.trans m'.forceKeyframe_unsent

theorem encodeAvc444_report (hcodec : plan.codec = some .avc444) :
    EncodeReport m plan env (m.encodeAvc444 plan env) := by
  have hquiet : ¬ m.Quiet plan env := not_quiet_avc (.inl hcodec)
  rw [encodeAvc444]
  split
  · exact failAvc_report (.refl m) hquiet _ _
  · rename_i m₁ hprepare
    have hunsent := encoderPrepare_unsent hprepare
    split
    · exact failAvc_report hunsent hquiet _ _
    · split
      · exact failAvc_report hunsent hquiet _ _
      · exact sendAvc_report hunsent hquiet

theorem encodeAvc420Software_report (h : m.Unsent m') (hquiet : ¬ m.Quiet plan env) :
    EncodeReport m plan env (m'.encodeAvc420Software plan env) := by
  rw [encodeAvc420Software]
  split
  · exact failAvc_report h hquiet _ _
  · split
    · exact failAvc_report h hquiet _ _
    · exact sendAvc_report h hquiet

theorem encodeAvc420_report (hcodec : plan.codec = some .avc420) :
    EncodeReport m plan env (m.encodeAvc420 plan env) := by
  have hquiet : ¬ m.Quiet plan env := not_quiet_avc (.inr hcodec)
  rw [encodeAvc420]
  split
  · exact failAvc_report (.refl m) hquiet _ _
  · rename_i m₁ hprepare
    have hunsent := encoderPrepare_unsent hprepare
    split
    · cases env.vaapiEncode with
      | encoded => exact sendAvc_report hunsent hquiet
      | pending => exact failAvc_report hunsent hquiet _ _
      | failed => exact encodeAvc420Software_report hunsent hquiet
    · exact encodeAvc420Software_report hunsent hquiet

theorem quiet_progressive_iff (m : EncodingManager) (env : EncodeEnv)
    (hcodec : plan.codec = some .progressive) :
    m.Quiet plan env ↔ (m.encoderPrepare .progressive env.encoderInit).isSome = true ∧
      m.HasWork plan env.refreshNow ∧ env.compress = 0 := by
  rw [Quiet, hcodec]
  simp

theorem quiet_remotefx_iff (m : EncodingManager) (env : EncodeEnv)
    (hcodec : plan.codec = some .remotefx) :
    m.Quiet plan env ↔ (m.encoderPrepare .remotefx env.encoderInit).isSome = true ∧
      m.HasWork plan env.refreshNow ∧ m.RectsFit plan env.refreshNow ∧ env.compress < 0 := by
  rw [Quiet, hcodec]
  simp

theorem encodeProgressive_report (hcodec : plan.codec = some .progressive) :
    EncodeReport m plan env (m.encodeProgressive plan env) := by
  have hiff := quiet_progressive_iff m env hcodec
  rw [encodeProgressive]
  split
  · rename_i hprepare
    refine failNonAvc_report (.refl m) (fun hquiet => ?_) _ _
    rw [hiff, hprepare] at hquiet
    cases hquiet.1
  · rename_i m₁ hprepare
    have hunsent := encoderPrepare_unsent hprepare
    obtain ⟨codecs, rfl⟩ := encoderPrepare_eq hprepare
    rw [hprepare] at hiff
    split
    · rename_i m₂ hstart
      obtain ⟨hstarted, hclean⟩ := startNonAvc_none hstart
      exact failNonAvc_report (hunsent.trans hstarted) (fun hquiet => hclean (hiff.mp hquiet).2.1) _ _
    · rename_i m₂ update keyframe hstart
      obtain ⟨hstarted, hwork, -⟩ := startNonAvc_some hstart
      have hunsent' := hunsent.trans hstarted
      split
      · rename_i hneg
        refine failNonAvc_report hunsent' (fun hquiet => ?_) _ _
        have hzero := (hiff.mp hquiet).2.2
        omega
      · split
        · rename_i hzero
          exact .quiet rfl rfl hunsent' (hiff.mpr ⟨rfl, hwork, hzero⟩)
        · rename_i hpos
          exact sendNonAvc_report hunsent' (fun hquiet => hpos (hiff.mp hquiet).2.2) _ _

theorem encodeRemotefx_report (hcodec : plan.codec = some .remotefx) {o : GfxEncodeOutcome}
    (ho : m.encodeRemotefx plan env = some o) : EncodeReport m plan env o := by
  have hiff := quiet_remotefx_iff m env hcodec
  rw [encodeRemotefx] at ho
  split at ho
  · rename_i hprepare
    rw [← Option.some.inj ho]
    refine failNonAvc_report (.refl m) (fun hquiet => ?_) _ _
    rw [hiff, hprepare] at hquiet
    cases hquiet.1
  · rename_i m₁ hprepare
    have hunsent := encoderPrepare_unsent hprepare
    obtain ⟨codecs, rfl⟩ := encoderPrepare_eq hprepare
    rw [hprepare] at hiff
    split at ho
    · rename_i m₂ hstart
      obtain ⟨hstarted, hclean⟩ := startNonAvc_none hstart
      rw [← Option.some.inj ho]
      exact failNonAvc_report (hunsent.trans hstarted) (fun hquiet => hclean (hiff.mp hquiet).2.1) _ _
    · rename_i m₂ update keyframe hstart
      obtain ⟨hstarted, hwork, hfit⟩ := startNonAvc_some hstart
      have hunsent' := hunsent.trans hstarted
      split at ho
      · cases ho
      · rename_i hcount
        split at ho
        · rename_i hzero
          rw [← Option.some.inj ho]
          refine failNonAvc_report hunsent' (fun hquiet => ?_) _ _
          have hneg := (hiff.mp hquiet).2.2.2
          omega
        · split at ho
          · rename_i hneg
            rw [← Option.some.inj ho]
            exact .quiet rfl rfl hunsent' (hiff.mpr ⟨rfl, hwork, hfit.mpr (not_lt.mp hcount), hneg⟩)
          · rename_i hpos
            rw [← Option.some.inj ho]
            exact sendNonAvc_report hunsent' (fun hquiet => hpos (hiff.mp hquiet).2.2.2) _ _

/-- Every encode ends in one of the four ways. -/
theorem encodeWith_report {o : GfxEncodeOutcome} (ho : m.encodeWith plan env = some o) :
    EncodeReport m plan env o := by
  rw [encodeWith] at ho
  split at ho
  · rename_i hcodec
    exact Option.some.inj ho ▸ encodeAvc444_report hcodec
  · rename_i hcodec
    exact Option.some.inj ho ▸ encodeAvc420_report hcodec
  · rename_i hcodec
    exact Option.some.inj ho ▸ encodeProgressive_report hcodec
  · rename_i hcodec
    exact encodeRemotefx_report hcodec ho
  · rename_i hcodec
    rw [← Option.some.inj ho]
    exact .quiet rfl rfl (.refl m) (.inl hcodec)

/-! The whole encode. -/

/-- The geometry of the frame is the cached one, as `prepare_gfx_diff_state` tells. -/
structure Caches (m : EncodingManager) (input : Frame) : Prop where
  width : m.gfxDiffWidth = input.width
  height : m.gfxDiffHeight = input.height
  stride : m.gfxDiffStride = input.stride
  tilesX : m.gfxTilesX = (input.width + 63) / 64
  tilesY : m.gfxTilesY = (input.height + 63) / 64
  length : m.gfxPreviousFrame.length = input.stride * input.height

instance (m : EncodingManager) (input : Frame) : Decidable (m.Caches input) :=
  decidable_of_iff (m.gfxDiffWidth = input.width ∧ m.gfxDiffHeight = input.height ∧
    m.gfxDiffStride = input.stride ∧ m.gfxTilesX = (input.width + 63) / 64 ∧
    m.gfxTilesY = (input.height + 63) / 64 ∧
    m.gfxPreviousFrame.length = input.stride * input.height)
    ⟨fun ⟨h₁, h₂, h₃, h₄, h₅, h₆⟩ => ⟨h₁, h₂, h₃, h₄, h₅, h₆⟩,
      fun h => ⟨h.1, h.2, h.3, h.4, h.5, h.6⟩⟩

theorem Caches.prepareGfxDiffState_eq {input : Frame} (h : m.Caches input) :
    m.prepareGfxDiffState input.width input.height input.stride = m := by
  have hsame : ¬ (m.gfxDiffWidth ≠ input.width ∨ m.gfxDiffHeight ≠ input.height ∨
      m.gfxDiffStride ≠ input.stride) := by
    simp [h.width, h.height, h.stride]
  have htiles : ¬ (m.gfxTilesX ≠ (input.width + 63) / 64 ∨
      m.gfxTilesY ≠ (input.height + 63) / 64) := by
    simp [h.tilesX, h.tilesY]
  rw [prepareGfxDiffState]
  exact if_pos ⟨hsame, htiles, h.length⟩

theorem Caches.of_unsent {input : Frame} (h : m.Caches input) (hunsent : m.Unsent m') :
    m'.Caches input where
  width := hunsent.diffWidth.trans h.width
  height := hunsent.diffHeight.trans h.height
  stride := hunsent.diffStride.trans h.stride
  tilesX := hunsent.tilesX.trans h.tilesX
  tilesY := hunsent.tilesY.trans h.tilesY
  length := by rw [hunsent.previousFrame, h.length]

theorem Caches.beginEncode_unsent {settings : GfxSettings} {input : Frame}
    {autoSwitch vaapiPrepare : Bool} (h : m.Caches input) :
    m.Unsent (m.beginEncode settings input autoSwitch vaapiPrepare).1 := by
  have h' : Caches { m with frameWidth := input.width, frameHeight := input.height } input :=
    ⟨h.width, h.height, h.stride, h.tilesX, h.tilesY, h.length⟩
  simp only [beginEncode, h'.prepareGfxDiffState_eq]
  constructor <;> rfl

variable (m)

/-- An encode that begins and then is quiet. -/
def QuietEncode (settings : GfxSettings) (input : Frame) (autoSwitch : Bool) (env : EncodeEnv) :
    Prop :=
  m.ready = true ∧ (m.beginEncode settings input autoSwitch env.vaapiPrepare).1.Quiet
    (m.beginEncode settings input autoSwitch env.vaapiPrepare).2 env

/-- TRUE is returned exactly for a SurfaceFrameCommand that was issued and returned
CHANNEL_RC_OK. -/
def ReportsSent (settings : GfxSettings) (input : Frame) (autoSwitch : Bool) (env : EncodeEnv) :
    Prop :=
  ∀ o, m.encodeSurfaceGfx settings input autoSwitch env = some o →
    (o.result = .ok () ↔ ∃ update, o.command = some (update, 0))

/-- A FALSE for a frame of the cached geometry leaves the cached frame and the refresh tracking. -/
def FailureKeeps (settings : GfxSettings) (input : Frame) (autoSwitch : Bool) (env : EncodeEnv) :
    Prop :=
  ∀ o, m.encodeSurfaceGfx settings input autoSwitch env = some o → o.result ≠ .ok () →
    m.Caches input →
    o.manager.gfxPreviousFrame = m.gfxPreviousFrame ∧ o.manager.gfxLastCodec = m.gfxLastCodec ∧
      o.manager.gfxAvcToNonAvcTransition = m.gfxAvcToNonAvcTransition ∧
      o.manager.gfxProgressiveRfxFrames = m.gfxProgressiveRfxFrames ∧
      o.manager.gfxNonAvcSwitchTimestampUs = m.gfxNonAvcSwitchTimestampUs

variable {settings : GfxSettings} {input : Frame} {autoSwitch : Bool} {o : GfxEncodeOutcome}

theorem encodeSurfaceGfx_unready (h : m.ready = false) :
    m.encodeSurfaceGfx settings input autoSwitch env =
      some { manager := m, result := .error ⟨.failed, "Encoding manager not prepared"⟩ } := by
  rw [encodeSurfaceGfx, h]
  rfl

theorem encodeSurfaceGfx_ready (h : m.ready = true) :
    m.encodeSurfaceGfx settings input autoSwitch env =
      (m.beginEncode settings input autoSwitch env.vaapiPrepare).1.encodeWith
        (m.beginEncode settings input autoSwitch env.vaapiPrepare).2 env := by
  rw [encodeSurfaceGfx, h]
  rfl

/-- An encode is quiet, or what it reports is what it did. -/
theorem encodeSurfaceGfx_report (ho : m.encodeSurfaceGfx settings input autoSwitch env = some o) :
    (m.QuietEncode settings input autoSwitch env ∧ o.result = .ok () ∧ o.command = none) ∨
      (¬ m.QuietEncode settings input autoSwitch env ∧
        (o.result = .ok () ↔ ∃ update, o.command = some (update, 0))) := by
  rcases hready : m.ready with _ | _
  · rw [m.encodeSurfaceGfx_unready hready] at ho
    obtain rfl := Option.some.inj ho
    refine .inr ⟨fun hquiet => ?_, by simp⟩
    rw [QuietEncode, hready] at hquiet
    cases hquiet.1
  · rw [m.encodeSurfaceGfx_ready hready] at ho
    have hquiet : m.QuietEncode settings input autoSwitch env ↔
        (m.beginEncode settings input autoSwitch env.vaapiPrepare).1.Quiet
          (m.beginEncode settings input autoSwitch env.vaapiPrepare).2 env := and_iff_right hready
    rw [hquiet]
    rcases encodeWith_report ho with ⟨_, hcommand, hresult, -, hnot⟩ | ⟨hcommand, hresult, -, hyes⟩ |
      ⟨_, _, hcommand, hrc, hresult, -, hnot⟩ | ⟨_, hcommand, hrc, hresult, -, hnot⟩
    · refine .inr ⟨hnot, ?_⟩
      rw [hresult, hcommand]
      simp
    · exact .inl ⟨hyes, hresult, hcommand⟩
    · refine .inr ⟨hnot, ?_⟩
      rw [hresult, hcommand]
      simp [hrc]
    · refine .inr ⟨hnot, ?_⟩
      rw [hresult, hcommand, hrc]
      simp

theorem encodeSurfaceGfx_failureKeeps : m.FailureKeeps settings input autoSwitch env := by
  intro o ho hresult hcaches
  rcases hready : m.ready with _ | _
  · rw [m.encodeSurfaceGfx_unready hready] at ho
    obtain rfl := Option.some.inj ho
    exact ⟨rfl, rfl, rfl, rfl, rfl⟩
  · rw [m.encodeSurfaceGfx_ready hready] at ho
    have hunsent : m.Unsent o.manager := by
      have hbegun : m.Unsent (m.beginEncode settings input autoSwitch env.vaapiPrepare).1 :=
        hcaches.beginEncode_unsent
      rcases encodeWith_report ho with ⟨_, -, -, hunsent, -⟩ | ⟨-, hok, -, -⟩ |
        ⟨_, _, -, -, -, hunsent, -⟩ | ⟨_, -, -, hok, -, -⟩
      · exact hbegun.trans hunsent
      · exact absurd hok hresult
      · exact hbegun.trans hunsent
      · exact absurd hok hresult
    exact ⟨hunsent.previousFrame, hunsent.lastCodec, hunsent.transition, hunsent.rfxFrames,
      hunsent.timestamp⟩

/-- A quiet encode returns: it is not one that asserts on its rectangles. -/
theorem QuietEncode.returns (h : m.QuietEncode settings input autoSwitch env) :
    ∃ o, m.encodeSurfaceGfx settings input autoSwitch env = some o := by
  obtain ⟨hready, hquiet⟩ := h
  rw [m.encodeSurfaceGfx_ready hready]
  generalize (m.beginEncode settings input autoSwitch env.vaapiPrepare).1 = m₁ at hquiet ⊢
  generalize (m.beginEncode settings input autoSwitch env.vaapiPrepare).2 = plan at hquiet ⊢
  rcases hquiet with hcodec | ⟨hcodec, -⟩ | ⟨hcodec, hprepared, hwork, hfit, hneg⟩
  · rw [encodeWith, hcodec]
    exact ⟨_, rfl⟩
  · rw [encodeWith, hcodec]
    exact ⟨_, rfl⟩
  · rw [encodeWith, hcodec]
    obtain ⟨m₂, hprepare⟩ := Option.isSome_iff_exists.mp hprepared
    obtain ⟨codecs, rfl⟩ := encoderPrepare_eq hprepare
    simp only [encodeRemotefx, hprepare]
    rcases hstart : startNonAvc { m₁ with codecs := codecs } plan env.refreshNow with
      ⟨m₃, _ | ⟨update, keyframe⟩⟩
    · exact ⟨_, rfl⟩
    · have hcount := (startNonAvc_some hstart).2.2.mp hfit
      simp only [if_neg (not_lt.mpr hcount), if_neg hneg.ne, if_pos hneg]
      exact ⟨_, rfl⟩

/-- A failure keeps the cached frame and the refresh tracking, always. And the report is right exactly
when the encode is not quiet: some codec applies, and no non-AVC compressor that gets something to
compress ends without data and without an error. -/
theorem encode_reports_sent_iff (settings : GfxSettings) (input : Frame) (autoSwitch : Bool)
    (env : EncodeEnv) :
    m.FailureKeeps settings input autoSwitch env ∧
      (m.ReportsSent settings input autoSwitch env ∧ m.FailureKeeps settings input autoSwitch env ↔
        ¬ m.QuietEncode settings input autoSwitch env) := by
  have hkeeps : m.FailureKeeps settings input autoSwitch env := m.encodeSurfaceGfx_failureKeeps
  refine ⟨hkeeps, ?_⟩
  rw [and_iff_left hkeeps]
  constructor
  · intro hreports hquiet
    obtain ⟨o, ho⟩ := hquiet.returns
    have hiff := hreports o ho
    rcases m.encodeSurfaceGfx_report ho with ⟨-, hok, hcommand⟩ | ⟨hnot, -⟩
    · obtain ⟨update, hsent⟩ := hiff.mp hok
      rw [hcommand] at hsent
      cases hsent
    · exact hnot hquiet
  · intro hquiet o ho
    rcases m.encodeSurfaceGfx_report ho with ⟨hyes, -⟩ | ⟨-, hiff⟩
    · exact absurd hyes hquiet
    · exact hiff

end EncodingManager

/-- No codec is negotiated that the encode could choose. -/
structure GfxSettings.NoCodec (s : GfxSettings) : Prop where
  h264 : s.gfxH264 = false
  avc444 : s.gfxAVC444 = false
  avc444v2 : s.gfxAVC444v2 = false
  progressive : s.gfxProgressive = false
  remotefx : s.remoteFxCodec = false ∨ s.remoteFxCodecId = 0

namespace EncodingManager

variable {m : EncodingManager} {settings : GfxSettings} {input : Frame} {env : EncodeEnv}

/-- Whatever has changed in the frame, there is no codec only where none is negotiated. -/
theorem beginEncode_codec_eq_none (autoSwitch vaapiPrepare : Bool) :
    (m.beginEncode settings input autoSwitch vaapiPrepare).2.codec = none ↔ settings.NoCodec := by
  have hselect : ∀ forceAvc420 largeChange : Bool, (forceAvc420 = true → settings.gfxH264 = true) →
      (selectCodec settings forceAvc420 autoSwitch largeChange = none ↔ settings.NoCodec) := by
    intro forceAvc420 largeChange hforce
    have hiff : settings.NoCodec ↔ (settings.gfxH264 = false ∧ settings.gfxAVC444 = false ∧
        settings.gfxAVC444v2 = false ∧ settings.gfxProgressive = false ∧
        (settings.remoteFxCodec && settings.remoteFxCodecId ≠ 0) = false) := by
      constructor
      · rintro ⟨h₁, h₂, h₃, h₄, h₅⟩
        refine ⟨h₁, h₂, h₃, h₄, ?_⟩
        rcases h₅ with h₅ | h₅
        · rw [h₅, Bool.false_and]
        · simp [h₅]
      · rintro ⟨h₁, h₂, h₃, h₄, h₅⟩
        refine ⟨h₁, h₂, h₃, h₄, ?_⟩
        rcases Bool.and_eq_false_iff.mp h₅ with h₅ | h₅
        · exact .inl h₅
        · exact .inr (by simpa using h₅)
    rw [hiff, selectCodec]
    generalize (settings.remoteFxCodec && settings.remoteFxCodecId ≠ 0) = remotefx
    -- eight bits decide
    revert hforce
    cases forceAvc420 <;> cases autoSwitch <;> cases largeChange <;> cases settings.gfxH264 <;>
      cases settings.gfxAVC444 <;> cases settings.gfxAVC444v2 <;> cases settings.gfxProgressive <;>
      cases remotefx <;> simp
  apply hselect
  intro hforce
  simp only [Bool.and_eq_true] at hforce
  exact hforce.1.2

/-- Without a codec, and with a progressive compressor that makes no data, TRUE is returned and no
SurfaceFrameCommand was issued. -/
theorem quiet_encode_reported_sent :
    let m : EncodingManager := (prepare {} { width := 1, height := 1 }).1
    ¬ m.ReportsSent {} (onePixel 0).1 false {} ∧
      ¬ m.ReportsSent { gfxProgressive := true } (onePixel 0).1 false { compress := 0 } := by
  intro m
  have hready : m.ready = true := rfl
  have hquiet₁ : m.QuietEncode {} (onePixel 0).1 false {} :=
    ⟨hready, .inl ((beginEncode_codec_eq_none false false).mpr ⟨rfl, rfl, rfl, rfl, .inl rfl⟩)⟩
  have hquiet₂ : m.QuietEncode { gfxProgressive := true } (onePixel 0).1 false { compress := 0 } :=
    ⟨hready, .inr (.inl ⟨rfl, rfl, .inl rfl, rfl⟩)⟩
  have hunreported : ∀ {settings : GfxSettings} {env : EncodeEnv},
      m.QuietEncode settings (onePixel 0).1 false env →
        ¬ m.ReportsSent settings (onePixel 0).1 false env := by
    intro settings env hquiet hreports
    obtain ⟨o, ho⟩ := hquiet.returns
    rcases m.encodeSurfaceGfx_report ho with ⟨-, hok, hcommand⟩ | ⟨hnot, -⟩
    · obtain ⟨update, hsent⟩ := (hreports o ho).mp hok
      rw [hcommand] at hsent
      cases hsent
    · exact hnot hquiet
  exact ⟨hunreported hquiet₁, hunreported hquiet₂⟩

end EncodingManager
end RemoteDesktop.DRD
