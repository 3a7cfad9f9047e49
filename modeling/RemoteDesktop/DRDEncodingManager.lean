import RemoteDesktop.DRDTileDiff

/-! `drd_encoding_manager.c`: the state of the manager and the phases of
`drd_encoding_manager_encode_surface_gfx`. FreeRDP, FFmpeg and the clock answer
through an `EncodeEnv`. -/
namespace RemoteDesktop.DRD

open TileGrid

inductive EncodingCodecClass
  | unknown
  | avc
  | nonAvc
  deriving DecidableEq, Repr

/-- The bits of `codecs`, one for each context of FreeRDP. -/
inductive EncoderContext
  | remotefx
  | avc
  | progressive
  deriving DecidableEq, Repr

/-- The modes of `drd_encoding_manager_prepare`, with one for all others. -/
inductive EncodingMode
  | h264
  | rfx
  | auto
  | other
  deriving DecidableEq, Repr

/-- How the ratio of changed tiles to all tiles compares with a threshold, which
is a comparison of doubles. -/
abbrev LargeChangeThreshold := ℕ → ℕ → Bool

/-- `DRD_GFX_DEFAULT_LARGE_CHANGE_THRESHOLD`, 0.05. -/
def defaultLargeChangeThreshold : LargeChangeThreshold := fun changed total =>
  decide (total ≤ 20 * changed)

structure EncodingOptions where
  width : ℕ
  height : ℕ
  mode : EncodingMode := .auto
  enableFrameDiff : Bool := true
  h264HwAccel : Bool := false
  gfxLargeChangeThreshold : LargeChangeThreshold := defaultLargeChangeThreshold
  gfxProgressiveRefreshInterval : UInt32 := 6
  gfxProgressiveRefreshTimeoutMs : UInt32 := 100

structure EncodingManager where
  frameWidth : ℕ := 0
  frameHeight : ℕ := 0
  ready : Bool := false
  enableDiff : Bool := true
  h264HwAccel : Bool := false
  codecs : List EncoderContext := []
  gfxPreviousFrame : List UInt8 := []
  gfxTileHashes : ℕ → UInt64 := fun _ => 0
  gfxTilesX : ℕ := 0
  gfxTilesY : ℕ := 0
  gfxDiffWidth : ℕ := 0
  gfxDiffHeight : ℕ := 0
  gfxDiffStride : ℕ := 0
  gfxForceKeyframe : Bool := true
  gfxProgressiveRfxFrames : UInt32 := 0
  gfxLargeChangeThreshold : LargeChangeThreshold := defaultLargeChangeThreshold
  gfxProgressiveRefreshInterval : UInt32 := 6
  gfxProgressiveRefreshTimeoutMs : UInt32 := 100
  gfxLastCodec : EncodingCodecClass := .unknown
  gfxAvcToNonAvcTransition : Bool := false
  gfxNonAvcSwitchTimestampUs : ℤ := 0

inductive IOErrorCode
  | failed
  | pending
  | invalidArgument
  deriving DecidableEq, Repr

structure EncodeError where
  code : IOErrorCode
  message : String
  deriving DecidableEq, Repr

structure GfxSettings where
  gfxH264 : Bool := false
  gfxAVC444 : Bool := false
  gfxAVC444v2 : Bool := false
  remoteFxCodec : Bool := false
  gfxProgressive : Bool := false
  remoteFxCodecId : UInt32 := 0
  deriving DecidableEq

inductive GfxCodec
  | avc444
  | avc420
  | progressive
  | remotefx
  deriving DecidableEq, Repr

/-- What a SurfaceFrameCommand replaces on the client. -/
inductive SurfaceUpdate
  | whole
  | rects (rs : List Rect)
  deriving DecidableEq

/-- The result of `drd_vaapi_encode_avc420`. `pending` is the error that the caller
returns at once, which needs an `error` argument. -/
inductive VaapiResult
  | encoded
  | pending
  | failed
  deriving DecidableEq

structure EncodeEnv where
  vaapiPrepare : Bool := false
  encoderInit : Bool := true
  vaapiEncode : VaapiResult := .failed
  compress : ℤ := 1
  surfaceFrameCommand : UInt32 := 0
  refreshNow : ℤ := 0
  registerNow : ℤ := 0

/-- What the phases hand on: the frame, the dirty flags and the codec. -/
structure EncodePlan where
  frame : Frame
  dirty : ℕ → Bool
  codec : Option GfxCodec

/-- `command` is the call of SurfaceFrameCommand, if there was one. -/
structure GfxEncodeOutcome where
  manager : EncodingManager
  h264 : Bool := false
  command : Option (SurfaceUpdate × UInt32) := none
  result : Except EncodeError Unit := .ok ()

namespace EncodingManager

variable (m : EncodingManager)

def reset : EncodingManager :=
  if !m.ready then m else { h264HwAccel := m.h264HwAccel }

def prepare (options : EncodingOptions) : EncodingManager × Except EncodeError Unit :=
  if options.width = 0 ∨ options.height = 0 then
    (m, .error ⟨.invalidArgument, "Encoder resolution must be non-zero (width=" ++
      toString options.width ++ " height=" ++ toString options.height ++ ")"⟩)
  else if options.mode = .other then
    (m.reset, .error ⟨.invalidArgument, "Unknown encoder mode"⟩)
  else
    let m :=
      if m.ready ∧ (m.frameWidth ≠ options.width ∨ m.frameHeight ≠ options.height) then m.reset
      else m
    ({ m with
        enableDiff := options.enableFrameDiff
        h264HwAccel := options.h264HwAccel
        gfxForceKeyframe := true
        gfxProgressiveRfxFrames := 0
        gfxLargeChangeThreshold := options.gfxLargeChangeThreshold
        gfxProgressiveRefreshInterval := options.gfxProgressiveRefreshInterval
        gfxProgressiveRefreshTimeoutMs := options.gfxProgressiveRefreshTimeoutMs
        gfxLastCodec := .unknown
        gfxAvcToNonAvcTransition := false
        frameWidth := options.width
        frameHeight := options.height
        ready := true }, .ok ())

def forceKeyframe : EncodingManager := { m with gfxForceKeyframe := true }

def refreshIntervalReached (now : ℤ) : Bool :=
  if !m.gfxAvcToNonAvcTransition then false
  else if m.gfxNonAvcSwitchTimestampUs ≤ 0 then false
  else
    let frameBudgetReached := decide (0 < m.gfxProgressiveRefreshInterval) &&
      decide (m.gfxProgressiveRefreshInterval ≤ m.gfxProgressiveRfxFrames + 1)
    let timeoutReached := decide (0 < m.gfxProgressiveRefreshTimeoutMs) &&
      decide ((m.gfxProgressiveRefreshTimeoutMs.toNat : ℤ) * 1000 ≤
        now - m.gfxNonAvcSwitchTimestampUs)
    frameBudgetReached || timeoutReached

/-- The refresh fields after a non-AVC frame. -/
def registerNonAvc (keyframeEncode : Bool) (now : ℤ) : EncodingManager :=
  let m :=
    if m.gfxLastCodec = .avc then
      { m with
        gfxAvcToNonAvcTransition := true
        gfxNonAvcSwitchTimestampUs := now
        gfxProgressiveRfxFrames := 0 }
    else m
  -- read after the transition was entered, so the first frame after AVC counts
  let refreshTracking := m.gfxAvcToNonAvcTransition
  let m :=
    if !refreshTracking then { m with gfxProgressiveRfxFrames := 0 }
    else if keyframeEncode || m.gfxProgressiveRefreshInterval = 0 then
      { m with gfxProgressiveRfxFrames := 0 }
    else { m with gfxProgressiveRfxFrames := m.gfxProgressiveRfxFrames + 1 }
  let m :=
    if keyframeEncode then
      { m with
        gfxNonAvcSwitchTimestampUs := if refreshTracking then now else 0
        gfxAvcToNonAvcTransition := if refreshTracking then false else m.gfxAvcToNonAvcTransition }
    else m
  { m with gfxLastCodec := .nonAvc }

def registerCodecResult (codecClass : EncodingCodecClass) (keyframeEncode : Bool) (now : ℤ) :
    EncodingManager :=
  match codecClass with
  | .nonAvc => m.registerNonAvc keyframeEncode now
  | _ =>
    { m with
      gfxLastCodec := codecClass
      gfxAvcToNonAvcTransition := false
      gfxProgressiveRfxFrames := 0
      gfxNonAvcSwitchTimestampUs := 0 }

/-- `drd_encoder_prepare` for one context: NULL when its initialisation fails. -/
def encoderPrepare (context : EncoderContext) (initialised : Bool) : Option EncodingManager :=
  if context ∈ m.codecs then some m
  else if initialised then some { m with codecs := context :: m.codecs }
  else none

def tileIndex (r : Rect) : ℕ := r.y / 64 * m.gfxTilesX + r.x / 64

/-- The tiles of the double loops over the diff geometry. -/
def diffTiles : List Rect := tiles 64 m.gfxDiffWidth m.gfxDiffHeight

def prepareGfxDiffState (width height stride : ℕ) : EncodingManager :=
  let sizeChanged := m.gfxDiffWidth ≠ width ∨ m.gfxDiffHeight ≠ height ∨ m.gfxDiffStride ≠ stride
  let tilesX := (width + 63) / 64
  let tilesY := (height + 63) / 64
  let tilesChanged := m.gfxTilesX ≠ tilesX ∨ m.gfxTilesY ≠ tilesY
  if ¬ sizeChanged ∧ ¬ tilesChanged ∧ m.gfxPreviousFrame.length = stride * height then m
  else
    { m with
      gfxDiffWidth := width
      gfxDiffHeight := height
      gfxDiffStride := stride
      gfxTilesX := tilesX
      gfxTilesY := tilesY
      gfxPreviousFrame := List.replicate (stride * height) 0
      gfxTileHashes := fun _ => 0
      gfxForceKeyframe := true
      gfxProgressiveRfxFrames := 0 }

def storePreviousFrame (data : List UInt8) (stride height : ℕ) : EncodingManager :=
  { m with gfxPreviousFrame := data.take (stride * height) }

def updateTileHashes (data : List UInt8) (stride : ℕ) : EncodingManager :=
  if m.gfxTilesX = 0 ∨ m.gfxTilesY = 0 then m
  else
    { m with
      gfxTileHashes := fill m.tileIndex (gfxHashTile data stride) m.gfxTileHashes m.diffTiles }

/-- The `memset` of a keyframe. -/
def wipeTileHashes : EncodingManager := { m with gfxTileHashes := fun _ => 0 }

def tileDiffers (data : List UInt8) (previous : Option (List UInt8)) (stride : ℕ) (r : Rect) : Bool :=
  match previous with
  | none => true
  | some previous =>
    m.gfxTileHashes (m.tileIndex r) != gfxHashTile data stride r && rowsDiffer previous data stride r

/-- The dirty flags, and whether the change is large. -/
def analyzeTiles (data : List UInt8) (previous : Option (List UInt8)) (stride : ℕ) :
    (ℕ → Bool) × Bool :=
  let differs := m.tileDiffers data previous stride
  if m.gfxTilesX = 0 ∨ m.gfxTilesY = 0 ∨ m.gfxDiffWidth = 0 ∨ m.gfxDiffHeight = 0 then
    (fun _ => false, true)
  else
    (fill m.tileIndex differs (fun _ => false) m.diffTiles,
      m.gfxLargeChangeThreshold (m.diffTiles.countP differs) (m.gfxTilesX * m.gfxTilesY))

/-- The rectangles of `collect_dirty_rects`, whose union is the region of
`collect_dirty_region`. Frames of at most 65535 pixels keep them in 16 bits. -/
def collectDirtyTiles (dirty : ℕ → Bool) : List Rect :=
  if m.gfxTilesX = 0 ∨ m.gfxTilesY = 0 then []
  else m.diffTiles.filter fun r => dirty (m.tileIndex r)

end EncodingManager

/-- The codec that is dispatched on. It is NULL where no flag is set. -/
def selectCodec (s : GfxSettings) (forceAvc420 autoSwitch largeChange : Bool) : Option GfxCodec :=
  let avc444 := s.gfxAVC444v2 || s.gfxAVC444
  let remotefx := s.remoteFxCodec && s.remoteFxCodecId ≠ 0
  if forceAvc420 then some .avc420
  else if autoSwitch then
    if largeChange then
      if avc444 then some .avc444
      else if s.gfxH264 then some .avc420
      else if s.gfxProgressive then some .progressive
      else if remotefx then some .remotefx
      else none
    else if s.gfxProgressive then some .progressive
    else if remotefx then some .remotefx
    else if avc444 then some .avc444
    else if s.gfxH264 then some .avc420
    else none
  else if avc444 then some .avc444
  else if s.gfxH264 then some .avc420
  else if s.gfxProgressive then some .progressive
  else if remotefx then some .remotefx
  else none

namespace EncodingManager

variable (m : EncodingManager)

/-- The encode up to the choice of the codec. -/
def beginEncode (settings : GfxSettings) (input : Frame) (autoSwitch vaapiPrepare : Bool) :
    EncodingManager × EncodePlan :=
  let m := { m with frameWidth := input.width, frameHeight := input.height }
  let m := m.prepareGfxDiffState input.width input.height input.stride
  let previous :=
    if m.gfxPreviousFrame.length = input.stride * input.height then some m.gfxPreviousFrame else none
  let (dirty, largeChange) := m.analyzeTiles input.data previous input.stride
  -- VAAPI is prepared only where the first three hold
  let forceAvc420 := autoSwitch && m.h264HwAccel && settings.gfxH264 && vaapiPrepare
  (m, { frame := input, dirty := dirty
        codec := selectCodec settings forceAvc420 autoSwitch largeChange })

/-- What every codec does with a frame that was sent. -/
def storeFrame (frame : Frame) (codecClass : EncodingCodecClass) (keyframeEncode : Bool) (now : ℤ) :
    EncodingManager :=
  ((m.storePreviousFrame frame.data frame.stride frame.height).updateTileHashes frame.data
    frame.stride).registerCodecResult codecClass keyframeEncode now

def surfaceFrameError (rc : UInt32) : EncodeError :=
  ⟨.failed, "SurfaceFrameCommand failed with error " ++ toString rc.toNat⟩

def sendAvc (plan : EncodePlan) (env : EncodeEnv) : GfxEncodeOutcome :=
  { manager := if env.surfaceFrameCommand ≠ 0 then m
      else m.storeFrame plan.frame .avc true env.registerNow
    h264 := true
    command := some (.whole, env.surfaceFrameCommand)
    result := if env.surfaceFrameCommand ≠ 0 then .error (surfaceFrameError env.surfaceFrameCommand)
      else .ok () }

/-- The outcome of an AVC encode that sends nothing. -/
def failAvc (code : IOErrorCode) (message : String) : GfxEncodeOutcome :=
  { manager := m, h264 := true, result := .error ⟨code, message⟩ }

def encodeAvc444 (plan : EncodePlan) (env : EncodeEnv) : GfxEncodeOutcome :=
  match m.encoderPrepare .avc env.encoderInit with
  | none => m.failAvc .failed "failed to prepare encoder FREERDP_CODEC_AVC444"
  | some m =>
    if env.compress < 0 then m.failAvc .failed "avc444_compress failed"
    else if env.compress = 0 then m.failAvc .pending "no avc444 frame produced"
    else m.sendAvc plan env

def encodeAvc420Software (plan : EncodePlan) (env : EncodeEnv) : GfxEncodeOutcome :=
  if env.compress < 0 then m.failAvc .failed "avc420_compress failed"
  else if env.compress = 0 then m.failAvc .pending "no avc420 frame produced"
  else m.sendAvc plan env

def encodeAvc420 (plan : EncodePlan) (env : EncodeEnv) : GfxEncodeOutcome :=
  match m.encoderPrepare .avc env.encoderInit with
  | none => m.failAvc .failed "Failed to prepare encoder FREERDP_CODEC_AVC420"
  | some m =>
    if m.h264HwAccel then
      match env.vaapiEncode with
      | .encoded => m.sendAvc plan env
      | .pending => m.failAvc .pending "no avc420 frame produced by VAAPI"
      -- the fallback to the software encoder
      | .failed => m.encodeAvc420Software plan env
    else m.encodeAvc420Software plan env

/-- The read of the flag in the progressive and the RemoteFX branch. -/
def keyframeEncode (now : ℤ) : Bool :=
  m.gfxForceKeyframe || !m.enableDiff || m.refreshIntervalReached now

/-- What both branches give to their compressor, or NULL where nothing is dirty. -/
def startNonAvc (plan : EncodePlan) (now : ℤ) :
    EncodingManager × Option (SurfaceUpdate × Bool) :=
  if m.keyframeEncode now then (m.wipeTileHashes, some (.whole, true))
  else
    match m.collectDirtyTiles plan.dirty with
    | [] => (m, none)
    | r :: rs => (m, some (.rects (r :: rs), false))

def finishNonAvc (plan : EncodePlan) (keyframe : Bool) (now : ℤ) : EncodingManager :=
  m.storeFrame plan.frame .nonAvc keyframe now

def clearForceKeyframe : EncodingManager := { m with gfxForceKeyframe := false }

def sendNonAvc (plan : EncodePlan) (env : EncodeEnv) (update : SurfaceUpdate) (keyframe : Bool) :
    GfxEncodeOutcome :=
  { manager := if env.surfaceFrameCommand ≠ 0 then m.forceKeyframe
      else (m.finishNonAvc plan keyframe env.registerNow).clearForceKeyframe
    command := some (update, env.surfaceFrameCommand)
    result := if env.surfaceFrameCommand ≠ 0 then .error (surfaceFrameError env.surfaceFrameCommand)
      else .ok () }

/-- The outcome of a non-AVC encode that sends nothing. -/
def failNonAvc (code : IOErrorCode) (message : String) : GfxEncodeOutcome :=
  { manager := m, result := .error ⟨code, message⟩ }

def encodeProgressive (plan : EncodePlan) (env : EncodeEnv) : GfxEncodeOutcome :=
  match m.encoderPrepare .progressive env.encoderInit with
  | none => m.failNonAvc .failed "failed to prepare encoder FREERDP_CODEC_PROGRESSIVE"
  | some m =>
    match m.startNonAvc plan env.refreshNow with
    | (m, none) => m.failNonAvc .pending "not exist dirty region"
    | (m, some (update, keyframe)) =>
      if env.compress < 0 then m.failNonAvc .failed "progressive_compress failed"
      -- no new data is a success that sends nothing
      else if env.compress = 0 then { manager := m }
      else m.sendNonAvc plan env update keyframe

end EncodingManager

def SurfaceUpdate.rectCount : SurfaceUpdate → ℕ
  | .whole => 1
  | .rects rs => rs.length

namespace EncodingManager

variable (m : EncodingManager)

/-- `WINPR_ASSERT (rects->len <= UINT16_MAX)` ends the process, which is `none`. -/
def encodeRemotefx (plan : EncodePlan) (env : EncodeEnv) : Option GfxEncodeOutcome :=
  match m.encoderPrepare .remotefx env.encoderInit with
  | none => some (m.failNonAvc .failed "failed to prepare encoder FREERDP_CODEC_REMOTEFX")
  | some m =>
    match m.startNonAvc plan env.refreshNow with
    | (m, none) => some (m.failNonAvc .pending "not exist dirty region")
    | (m, some (update, keyframe)) =>
      if 65535 < update.rectCount then none
      else if env.compress = 0 then some (m.failNonAvc .failed "rfx_compose_message failed")
      else if env.compress < 0 then some { manager := m }
      else some (m.sendNonAvc plan env update keyframe)

/-- The encode after the choice of the codec. -/
def encodeWith (plan : EncodePlan) (env : EncodeEnv) : Option GfxEncodeOutcome :=
  match plan.codec with
  | some .avc444 => some (m.encodeAvc444 plan env)
  | some .avc420 => some (m.encodeAvc420 plan env)
  | some .progressive => some (m.encodeProgressive plan env)
  | some .remotefx => m.encodeRemotefx plan env
  | none => some { manager := m }

def encodeSurfaceGfx (settings : GfxSettings) (input : Frame) (autoSwitch : Bool) (env : EncodeEnv) :
    Option GfxEncodeOutcome :=
  if !m.ready then
    some { manager := m, result := .error ⟨.failed, "Encoding manager not prepared"⟩ }
  else
    let (m, plan) := m.beginEncode settings input autoSwitch env.vaapiPrepare
    m.encodeWith plan env

/-- The frame that `encode_cached_frame_gfx` builds. -/
def cachedFrame : Frame where
  width := m.gfxDiffWidth
  height := m.gfxDiffHeight
  stride := m.gfxDiffStride
  data := m.gfxPreviousFrame

def encodeCachedFrameGfx (settings : GfxSettings) (autoSwitch : Bool) (env : EncodeEnv) :
    Option GfxEncodeOutcome :=
  if !m.ready then
    some { manager := m, result := .error ⟨.failed, "Encoding manager not prepared"⟩ }
  else if m.gfxPreviousFrame.length = 0 ∨ m.gfxDiffWidth = 0 ∨ m.gfxDiffHeight = 0 ∨
      m.gfxDiffStride = 0 then
    some { manager := m, result := .error ⟨.failed, "No cached frame available for refresh"⟩ }
  else m.forceKeyframe.encodeSurfaceGfx settings m.cachedFrame autoSwitch env

variable {m} {m' : EncodingManager}

/-- Two managers with the same diff state. -/
structure SameDiff (m m' : EncodingManager) : Prop where
  previousFrame : m'.gfxPreviousFrame = m.gfxPreviousFrame
  tileHashes : m'.gfxTileHashes = m.gfxTileHashes
  tilesX : m'.gfxTilesX = m.gfxTilesX
  tilesY : m'.gfxTilesY = m.gfxTilesY
  diffWidth : m'.gfxDiffWidth = m.gfxDiffWidth
  diffHeight : m'.gfxDiffHeight = m.gfxDiffHeight
  diffStride : m'.gfxDiffStride = m.gfxDiffStride

theorem SameDiff.refl (m : EncodingManager) : m.SameDiff m := by
  constructor <;> rfl

theorem forceKeyframe_sameDiff (m : EncodingManager) : m.SameDiff m.forceKeyframe := by
  constructor <;> rfl

theorem clearForceKeyframe_sameDiff (m : EncodingManager) : m.SameDiff m.clearForceKeyframe := by
  constructor <;> rfl

theorem SameDiff.cachedFrame (h : m.SameDiff m') : m'.cachedFrame = m.cachedFrame := by
  simp only [EncodingManager.cachedFrame, h.diffWidth, h.diffHeight, h.diffStride, h.previousFrame]

theorem SameDiff.tileIndex (h : m.SameDiff m') : m'.tileIndex = m.tileIndex := by
  funext r
  rw [EncodingManager.tileIndex, EncodingManager.tileIndex, h.tilesX]

theorem SameDiff.diffTiles (h : m.SameDiff m') : m'.diffTiles = m.diffTiles := by
  rw [EncodingManager.diffTiles, EncodingManager.diffTiles, h.diffWidth, h.diffHeight]

theorem registerNonAvc_sameDiff (m : EncodingManager) (keyframe : Bool) (now : ℤ) :
    m.SameDiff (m.registerNonAvc keyframe now) := by
  simp only [registerNonAvc]
  repeat' split
  all_goals constructor <;> rfl

theorem registerNonAvc_forceKeyframe (m : EncodingManager) (keyframe : Bool) (now : ℤ) :
    (m.registerNonAvc keyframe now).gfxForceKeyframe = m.gfxForceKeyframe := by
  simp only [registerNonAvc]
  repeat' split
  all_goals rfl

theorem registerCodecResult_sameDiff (m : EncodingManager) (codecClass : EncodingCodecClass)
    (keyframe : Bool) (now : ℤ) : m.SameDiff (m.registerCodecResult codecClass keyframe now) := by
  cases codecClass with
  | nonAvc => exact m.registerNonAvc_sameDiff keyframe now
  | unknown => constructor <;> rfl
  | avc => constructor <;> rfl

theorem encoderPrepare_spec {context : EncoderContext} {initialised : Bool}
    (h : m.encoderPrepare context initialised = some m') :
    m.SameDiff m' ∧ m'.gfxForceKeyframe = m.gfxForceKeyframe := by
  rw [encoderPrepare] at h
  split at h
  · rw [Option.some.injEq] at h
    rw [← h]
    exact ⟨.refl m, rfl⟩
  · split at h
    · rw [Option.some.injEq] at h
      rw [← h]
      refine ⟨?_, rfl⟩
      constructor <;> rfl
    · simp at h

end EncodingManager
end RemoteDesktop.DRD
