import RemoteDesktop.DRDKeyframe
import RemoteDesktop.DRDEncodeReport

/-! `drd_encoding_manager_encode_cached_frame_gfx` and the frame that the client was last sent. The
cached frame is the previous frame of the diff, which is rebuilt as soon as an encode of another
geometry begins. -/
namespace RemoteDesktop.DRD

/-- `lastSent` is the last frame whose SurfaceFrameCommand succeeded since the last reset. -/
structure CachedRun where
  manager : EncodingManager := {}
  lastSent : Option Frame := none

inductive CachedEvent
  | prepare (options : EncodingOptions)
  | reset
  | forceKeyframe
  | encodeSurfaceGfx (settings : GfxSettings) (input : { f : Frame // f.WellFormed })
      (autoSwitch : Bool) (env : EncodeEnv)
  | encodeCachedFrameGfx (settings : GfxSettings) (autoSwitch : Bool) (env : EncodeEnv)

namespace EncodingManager

/-- A call of `prepare` that resets the manager on its way. -/
def PrepareResets (m : EncodingManager) (options : EncodingOptions) : Prop :=
  options.width ≠ 0 ∧ options.height ≠ 0 ∧
    (options.mode = .other ∨
      (m.ready = true ∧ (m.frameWidth ≠ options.width ∨ m.frameHeight ≠ options.height)))

instance (m : EncodingManager) (options : EncodingOptions) : Decidable (m.PrepareResets options) :=
  inferInstanceAs (Decidable (_ ∧ _ ∧ (_ ∨ (_ ∧ (_ ∨ _)))))

end EncodingManager

namespace CachedRun

variable (s : CachedRun)

/-- An encode of `input` has ended. -/
def record (input : Frame) (outcome : GfxEncodeOutcome) : CachedRun where
  manager := outcome.manager
  lastSent :=
    match outcome.command with
    | none => s.lastSent
    | some (_, rc) => if rc = 0 then some input else s.lastSent

def step : CachedEvent → Option CachedRun
  | .prepare options =>
    some {
      manager := (s.manager.prepare options).1
      lastSent := if s.manager.PrepareResets options then none else s.lastSent }
  | .reset => some { manager := s.manager.reset, lastSent := none }
  | .forceKeyframe => some { s with manager := s.manager.forceKeyframe }
  | .encodeSurfaceGfx settings input autoSwitch env =>
    (s.manager.encodeSurfaceGfx settings input.1 autoSwitch env).map (s.record input.1)
  | .encodeCachedFrameGfx settings autoSwitch env =>
    (s.manager.encodeCachedFrameGfx settings autoSwitch env).map (s.record s.manager.cachedFrame)

/-- A cached refresh encodes the frame that was last sent, and fails where there is none. -/
def RefreshExact (s : CachedRun) : Prop :=
  ∀ settings autoSwitch env o, s.manager.encodeCachedFrameGfx settings autoSwitch env = some o →
    (o.command ≠ none → s.lastSent = some s.manager.cachedFrame) ∧
      (s.lastSent = none → o.command = none ∧ ∃ error, o.result = .error error)

end CachedRun

/-- The runs from a fresh manager. -/
def cachedMachine : EventMachine CachedRun CachedEvent where
  init s := s = {}
  step := CachedRun.step

/-- A frame was sent, and SurfaceFrameCommand succeeded. -/
def GfxEncodeOutcome.Sent (o : GfxEncodeOutcome) : Prop :=
  ∃ update, o.command = some (update, 0)

namespace EncodingManager

/-- The compressor of the codec makes data. -/
def Compresses (m : EncodingManager) (env : EncodeEnv) : GfxCodec → Prop
  | .avc420 =>
    (m.h264HwAccel = true ∧ env.vaapiEncode = .encoded) ∨
      ((m.h264HwAccel = false ∨ env.vaapiEncode = .failed) ∧ 0 < env.compress)
  | _ => 0 < env.compress

instance (m : EncodingManager) (env : EncodeEnv) : (c : GfxCodec) → Decidable (m.Compresses env c)
  | .avc420 => inferInstanceAs (Decidable ((_ ∧ _) ∨ ((_ ∨ _) ∧ _)))
  | .avc444 | .progressive | .remotefx => inferInstanceAs (Decidable (0 < env.compress))

/-- A codec is chosen, its context is there, its compressor makes data of the frame, and
SurfaceFrameCommand succeeds. -/
def Delivers (m : EncodingManager) (codec : Option GfxCodec) (env : EncodeEnv) : Prop :=
  ∃ c, codec = some c ∧ (m.encoderPrepare c.context env.encoderInit).isSome = true ∧
    m.Compresses env c ∧ env.surfaceFrameCommand = 0

instance (m : EncodingManager) (env : EncodeEnv) :
    (codec : Option GfxCodec) → Decidable (m.Delivers codec env)
  | none => isFalse fun ⟨_, hnone, _⟩ => by cases hnone
  | some c =>
    decidable_of_iff ((m.encoderPrepare c.context env.encoderInit).isSome = true ∧
      m.Compresses env c ∧ env.surfaceFrameCommand = 0)
      ⟨fun h => ⟨c, rfl, h⟩, fun ⟨_, hc, h⟩ => Option.some.inj hc ▸ h⟩

/-- An encode of another geometry sends its frame. -/
def RebuildDelivers (m : EncodingManager) (settings : GfxSettings) (input : Frame)
    (autoSwitch : Bool) (env : EncodeEnv) : Prop :=
  m.ready = true → ¬ m.Caches input →
    (m.beginEncode settings input autoSwitch env.vaapiPrepare).1.Delivers
      (m.beginEncode settings input autoSwitch env.vaapiPrepare).2.codec env

instance (m : EncodingManager) (settings : GfxSettings) (input : Frame) (autoSwitch : Bool)
    (env : EncodeEnv) : Decidable (m.RebuildDelivers settings input autoSwitch env) :=
  inferInstanceAs (Decidable (m.ready = true → ¬ m.Caches input →
    (m.beginEncode settings input autoSwitch env.vaapiPrepare).1.Delivers
      (m.beginEncode settings input autoSwitch env.vaapiPrepare).2.codec env))

end EncodingManager

/-- Of the steps of a run, only an encode that rebuilds the diff state has a condition to meet. -/
def CachedEvent.RebuildDelivers (s : CachedRun) : CachedEvent → Prop
  | .encodeSurfaceGfx settings input autoSwitch env =>
    s.manager.RebuildDelivers settings input.1 autoSwitch env
  | _ => True

instance (s : CachedRun) : DecidablePred (CachedEvent.RebuildDelivers s)
  | .encodeSurfaceGfx settings input autoSwitch env =>
    inferInstanceAs (Decidable (s.manager.RebuildDelivers settings input.1 autoSwitch env))
  | .prepare _ | .reset | .forceKeyframe | .encodeCachedFrameGfx .. => isTrue trivial

/-! An encode that is forced to send a keyframe. -/

namespace EncodingManager

variable {m m' : EncodingManager} {plan : EncodePlan} {env : EncodeEnv} {o : GfxEncodeOutcome}

theorem delivers_iff {c : GfxCodec} (hcodec : plan.codec = some c) :
    m.Delivers plan.codec env ↔ (m.encoderPrepare c.context env.encoderInit).isSome = true ∧
      m.Compresses env c ∧ env.surfaceFrameCommand = 0 := by
  rw [Delivers, hcodec]
  simp

theorem sendAvc_sent_iff : (m.sendAvc plan env).Sent ↔ env.surfaceFrameCommand = 0 := by
  constructor
  · rintro ⟨update, hcommand⟩
    exact (Prod.mk.inj (Option.some.inj hcommand)).2
  · intro hrc
    exact ⟨.whole, by rw [sendAvc, hrc]⟩

theorem sendNonAvc_sent_iff {update : SurfaceUpdate} {keyframe : Bool} :
    (m.sendNonAvc plan env update keyframe).Sent ↔ env.surfaceFrameCommand = 0 := by
  constructor
  · rintro ⟨update', hcommand⟩
    exact (Prod.mk.inj (Option.some.inj hcommand)).2
  · intro hrc
    exact ⟨update, by rw [sendNonAvc, hrc]⟩

theorem not_sent_of_command (h : o.command = none) : ¬ o.Sent := by
  rintro ⟨update, hcommand⟩
  rw [h] at hcommand
  cases hcommand

/-- The two early returns of a compressor send nothing. -/
theorem compressed_sent_iff {failed quiet sent : GfxEncodeOutcome} (hfailed : failed.command = none)
    (hquiet : quiet.command = none) (rc : ℤ) :
    (if rc < 0 then failed else if rc = 0 then quiet else sent).Sent ↔ 0 < rc ∧ sent.Sent := by
  by_cases hneg : rc < 0
  · rw [if_pos hneg]
    have hnot : ¬ failed.Sent := not_sent_of_command hfailed
    exact iff_of_false hnot fun h => by omega
  · rw [if_neg hneg]
    by_cases hzero : rc = 0
    · rw [if_pos hzero]
      have hnot : ¬ quiet.Sent := not_sent_of_command hquiet
      exact iff_of_false hnot fun h => by omega
    · rw [if_neg hzero]
      have hpos : 0 < rc := by omega
      exact (and_iff_right hpos).symm

theorem encodeAvc444_sent_iff (hcodec : plan.codec = some .avc444) :
    (m.encodeAvc444 plan env).Sent ↔ m.Delivers plan.codec env := by
  have hcompress : m.Compresses env .avc444 ↔ 0 < env.compress := Iff.rfl
  rw [delivers_iff hcodec, encodeAvc444, GfxCodec.context, hcompress]
  rcases m.encoderPrepare .avc env.encoderInit with _ | m₁
  · exact iff_of_false (not_sent_of_command rfl) fun h => Bool.false_ne_true h.1
  · simp only [Option.isSome_some, true_and]
    rw [compressed_sent_iff rfl rfl, sendAvc_sent_iff]

theorem encodeAvc420Software_sent_iff :
    (m.encodeAvc420Software plan env).Sent ↔ 0 < env.compress ∧ env.surfaceFrameCommand = 0 := by
  rw [encodeAvc420Software, compressed_sent_iff rfl rfl, sendAvc_sent_iff]

theorem encodeAvc420_sent_iff (hcodec : plan.codec = some .avc420) :
    (m.encodeAvc420 plan env).Sent ↔ m.Delivers plan.codec env := by
  rw [delivers_iff hcodec, encodeAvc420, GfxCodec.context, Compresses]
  rcases hprepare : m.encoderPrepare .avc env.encoderInit with _ | m₁
  · exact iff_of_false (not_sent_of_command rfl) fun h => Bool.false_ne_true h.1
  · obtain ⟨codecs, rfl⟩ := encoderPrepare_eq hprepare
    simp only [Option.isSome_some, true_and]
    rcases m.h264HwAccel with _ | _
    · rw [if_neg Bool.false_ne_true, encodeAvc420Software_sent_iff]
      simp
    · rw [if_pos rfl]
      rcases env.vaapiEncode with _ | _ | _
      · rw [sendAvc_sent_iff]
        simp
      · exact iff_of_false (not_sent_of_command rfl) (by simp)
      · rw [encodeAvc420Software_sent_iff]
        simp

/-- With a keyframe forced there is the whole frame to compress. -/
theorem startNonAvc_forced (hforce : m.gfxForceKeyframe = true) (now : ℤ) :
    m.startNonAvc plan now = (m.wipeTileHashes, some (.whole, true)) := by
  have hkeyframe : m.keyframeEncode now = true := by
    rw [keyframeEncode, hforce]
    rfl
  rw [startNonAvc, if_pos hkeyframe]

theorem encodeProgressive_sent_iff (hforce : m.gfxForceKeyframe = true)
    (hcodec : plan.codec = some .progressive) :
    (m.encodeProgressive plan env).Sent ↔ m.Delivers plan.codec env := by
  have hcompress : m.Compresses env .progressive ↔ 0 < env.compress := Iff.rfl
  rw [delivers_iff hcodec, encodeProgressive, GfxCodec.context, hcompress]
  rcases hprepare : m.encoderPrepare .progressive env.encoderInit with _ | m₁
  · exact iff_of_false (not_sent_of_command rfl) fun h => Bool.false_ne_true h.1
  · obtain ⟨codecs, rfl⟩ := encoderPrepare_eq hprepare
    have hforce' : ({ m with codecs := codecs } : EncodingManager).gfxForceKeyframe = true := hforce
    simp only [Option.isSome_some, true_and, startNonAvc_forced hforce']
    rw [compressed_sent_iff rfl rfl, sendNonAvc_sent_iff]

theorem encodeRemotefx_sent_iff (hforce : m.gfxForceKeyframe = true)
    (hcodec : plan.codec = some .remotefx) (ho : m.encodeRemotefx plan env = some o) :
    o.Sent ↔ m.Delivers plan.codec env := by
  have hcompress : m.Compresses env .remotefx ↔ 0 < env.compress := Iff.rfl
  rw [delivers_iff hcodec, GfxCodec.context, hcompress]
  rw [encodeRemotefx] at ho
  rcases hprepare : m.encoderPrepare .remotefx env.encoderInit with _ | m₁
  · rw [hprepare] at ho
    rw [← Option.some.inj ho]
    exact iff_of_false (not_sent_of_command rfl) fun h => Bool.false_ne_true h.1
  · obtain ⟨codecs, rfl⟩ := encoderPrepare_eq hprepare
    have hforce' : ({ m with codecs := codecs } : EncodingManager).gfxForceKeyframe = true := hforce
    have hone : ¬ 65535 < SurfaceUpdate.whole.rectCount := by decide
    simp only [hprepare, startNonAvc_forced hforce', if_neg hone] at ho
    simp only [Option.isSome_some, true_and]
    -- rfx_compose_message fails with 0, where the other compressors fail below 0
    by_cases hzero : env.compress = 0
    · rw [if_pos hzero] at ho
      rw [← Option.some.inj ho]
      exact iff_of_false (not_sent_of_command rfl) fun h => by omega
    · rw [if_neg hzero] at ho
      by_cases hneg : env.compress < 0
      · rw [if_pos hneg] at ho
        rw [← Option.some.inj ho]
        exact iff_of_false (not_sent_of_command rfl) fun h => by omega
      · rw [if_neg hneg] at ho
        rw [← Option.some.inj ho, sendNonAvc_sent_iff]
        exact (and_iff_right (by omega)).symm

/-- A forced encode sends its frame exactly when it delivers. -/
theorem encodeWith_sent_iff (hforce : m.gfxForceKeyframe = true)
    (ho : m.encodeWith plan env = some o) : o.Sent ↔ m.Delivers plan.codec env := by
  rw [encodeWith] at ho
  split at ho
  · rename_i hcodec
    exact Option.some.inj ho ▸ encodeAvc444_sent_iff hcodec
  · rename_i hcodec
    exact Option.some.inj ho ▸ encodeAvc420_sent_iff hcodec
  · rename_i hcodec
    exact Option.some.inj ho ▸ encodeProgressive_sent_iff hforce hcodec
  · rename_i hcodec
    exact encodeRemotefx_sent_iff hforce hcodec ho
  · rename_i hcodec
    rw [← Option.some.inj ho, Delivers, hcodec]
    exact iff_of_false (not_sent_of_command rfl) (by simp)

/-- The guards of a cached refresh pass. -/
structure HasCachedFrame (m : EncodingManager) : Prop where
  ready : m.ready = true
  length : m.gfxPreviousFrame.length ≠ 0
  width : m.gfxDiffWidth ≠ 0
  height : m.gfxDiffHeight ≠ 0
  stride : m.gfxDiffStride ≠ 0

theorem encodeCachedFrameGfx_eq (h : m.HasCachedFrame) (settings : GfxSettings) (autoSwitch : Bool)
    (env : EncodeEnv) :
    m.encodeCachedFrameGfx settings autoSwitch env =
      m.forceKeyframe.encodeSurfaceGfx settings m.cachedFrame autoSwitch env := by
  have hready : ¬ (!m.ready) = true := by simp [h.ready]
  have hguard : ¬ (m.gfxPreviousFrame.length = 0 ∨ m.gfxDiffWidth = 0 ∨ m.gfxDiffHeight = 0 ∨
      m.gfxDiffStride = 0) := by
    simp only [h.length, h.width, h.height, h.stride, or_self, not_false_eq_true]
  rw [encodeCachedFrameGfx, if_neg hready, if_neg hguard]

theorem encodeCachedFrameGfx_refused (h : ¬ m.HasCachedFrame) {settings : GfxSettings}
    {autoSwitch : Bool} (ho : m.encodeCachedFrameGfx settings autoSwitch env = some o) :
    o.manager = m ∧ o.command = none ∧ ∃ error, o.result = .error error := by
  rw [encodeCachedFrameGfx] at ho
  by_cases hready : (!m.ready) = true
  · rw [if_pos hready] at ho
    rw [← Option.some.inj ho]
    exact ⟨rfl, rfl, _, rfl⟩
  · rw [if_neg hready] at ho
    by_cases hguard : m.gfxPreviousFrame.length = 0 ∨ m.gfxDiffWidth = 0 ∨ m.gfxDiffHeight = 0 ∨
        m.gfxDiffStride = 0
    · rw [if_pos hguard] at ho
      rw [← Option.some.inj ho]
      exact ⟨rfl, rfl, _, rfl⟩
    · simp only [not_or] at hguard
      obtain ⟨hlength, hwidth, hheight, hstride⟩ := hguard
      exact absurd ⟨by simpa using hready, hlength, hwidth, hheight, hstride⟩ h

/-- There are settings and answers of FreeRDP with which a cached frame is sent. -/
theorem HasCachedFrame.refresh_sends (h : m.HasCachedFrame) :
    ∃ settings autoSwitch env o, m.encodeCachedFrameGfx settings autoSwitch env = some o ∧
      o.command ≠ none := by
  let settings : GfxSettings := { gfxH264 := true }
  let env : EncodeEnv := { vaapiEncode := .encoded }
  let begun := m.forceKeyframe.beginEncode settings m.cachedFrame false env.vaapiPrepare
  have hcodec : begun.2.codec = some .avc420 := rfl
  -- the refresh forces a keyframe, so only the answers of FreeRDP decide
  have hforce : begun.1.gfxForceKeyframe = true :=
    beginEncode_forceKeyframe settings m.cachedFrame false env.vaapiPrepare rfl
  have heq : m.encodeCachedFrameGfx settings false env = some (begun.1.encodeAvc420 begun.2 env) := by
    rw [encodeCachedFrameGfx_eq h, encodeSurfaceGfx_ready m.forceKeyframe h.ready]
    rfl
  refine ⟨settings, false, env, _, heq, ?_⟩
  have hdelivers : begun.1.Delivers begun.2.codec env := by
    refine (delivers_iff hcodec).mpr ⟨?_, ?_, rfl⟩
    · rw [encoderPrepare]
      split
      · rfl
      · rfl
    · rcases hhw : begun.1.h264HwAccel with _ | _
      · exact .inr ⟨.inl hhw, by decide⟩
      · exact .inl ⟨hhw, rfl⟩
  obtain ⟨update, hcommand⟩ := (encodeAvc420_sent_iff hcodec).mpr hdelivers
  rw [hcommand]
  exact Option.some_ne_none _

end EncodingManager

namespace CachedRun

variable {s s' : CachedRun}

/-- Only the frame that passes the guards matters. -/
theorem refreshExact_iff :
    s.RefreshExact ↔ (s.manager.HasCachedFrame → s.lastSent = some s.manager.cachedFrame) := by
  constructor
  · intro hexact hcached
    obtain ⟨settings, autoSwitch, env, o, ho, hcommand⟩ := hcached.refresh_sends
    exact (hexact settings autoSwitch env o ho).1 hcommand
  · intro hlast settings autoSwitch env o ho
    by_cases hcached : s.manager.HasCachedFrame
    · refine ⟨fun _ => hlast hcached, fun hnone => ?_⟩
      rw [hlast hcached] at hnone
      cases hnone
    · obtain ⟨-, hcommand, herror⟩ := EncodingManager.encodeCachedFrameGfx_refused hcached ho
      exact ⟨fun hsome => absurd hcommand hsome, fun _ => ⟨hcommand, herror⟩⟩

/-- The previous frame, where there is one, is the frame that was last sent. -/
structure Faithful (s : CachedRun) : Prop where
  unready : s.manager.ready = false → s.manager.gfxPreviousFrame = []
  empty : s.manager.gfxPreviousFrame = [] → s.lastSent = none
  cached : s.manager.gfxPreviousFrame ≠ [] → s.lastSent = some s.manager.cachedFrame
  wellFormed : s.manager.gfxPreviousFrame ≠ [] → s.manager.cachedFrame.WellFormed
  tilesX : s.manager.gfxPreviousFrame ≠ [] →
    s.manager.gfxTilesX = (s.manager.gfxDiffWidth + 63) / 64
  tilesY : s.manager.gfxPreviousFrame ≠ [] →
    s.manager.gfxTilesY = (s.manager.gfxDiffHeight + 63) / 64

theorem Faithful.refreshExact (h : s.Faithful) : s.RefreshExact := by
  rw [refreshExact_iff]
  intro hcached
  refine h.cached fun hnil => hcached.length ?_
  rw [hnil, List.length_nil]

/-- A manager with no previous frame, and nothing sent. -/
theorem faithful_of_nil (hprevious : s.manager.gfxPreviousFrame = []) (hlast : s.lastSent = none) :
    s.Faithful where
  unready _ := hprevious
  empty _ := hlast
  cached hne := absurd hprevious hne
  wellFormed hne := absurd hprevious hne
  tilesX hne := absurd hprevious hne
  tilesY hne := absurd hprevious hne

/-- A step that keeps the diff geometry, the previous frame and what was sent. -/
theorem Faithful.of_unsent (h : s.Faithful) (hunsent : s.manager.Unsent s'.manager)
    (hlast : s'.lastSent = s.lastSent) : s'.Faithful := by
  have hframe : s'.manager.cachedFrame = s.manager.cachedFrame := by
    simp only [EncodingManager.cachedFrame, hunsent.diffWidth, hunsent.diffHeight,
      hunsent.diffStride, hunsent.previousFrame]
  constructor
  case unready =>
    rw [hunsent.ready, hunsent.previousFrame]
    exact h.unready
  case empty =>
    rw [hunsent.previousFrame, hlast]
    exact h.empty
  case cached =>
    rw [hunsent.previousFrame, hlast, hframe]
    exact h.cached
  case wellFormed =>
    rw [hunsent.previousFrame, hframe]
    exact h.wellFormed
  case tilesX =>
    rw [hunsent.previousFrame, hunsent.tilesX, hunsent.diffWidth]
    exact h.tilesX
  case tilesY =>
    rw [hunsent.previousFrame, hunsent.tilesY, hunsent.diffHeight]
    exact h.tilesY

end CachedRun

namespace EncodingManager

variable {m m' : EncodingManager} {plan : EncodePlan} {env : EncodeEnv} {o : GfxEncodeOutcome}
  {f : Frame} {settings : GfxSettings} {autoSwitch : Bool}

/-- A wellformed frame that was stored comes back as the cached frame. -/
theorem Stored.cachedFrame (h : m.Stored m' f) (hcaches : m.Caches f) (hw : f.WellFormed) :
    m'.cachedFrame = f := by
  have hdata : m'.gfxPreviousFrame = f.data := by
    rw [h.previousFrame, ← hw.length, List.take_length]
  rw [EncodingManager.cachedFrame, hdata, h.diffWidth, hcaches.width, h.diffHeight, hcaches.height,
    h.diffStride, hcaches.stride]

theorem sent_or_unsent (ho : m.encodeWith plan env = some o) :
    (o.Sent ∧ m.Stored o.manager plan.frame) ∨ (¬ o.Sent ∧ m.Unsent o.manager) := by
  rcases encodeWith_report ho with ⟨_, hcommand, -, hunsent, -⟩ | ⟨hcommand, -, hunsent, -⟩ |
    ⟨_, _, hcommand, hrc, -, hunsent, -⟩ | ⟨update, hcommand, hrc, -, hstored, -⟩
  · exact .inr ⟨not_sent_of_command hcommand, hunsent⟩
  · exact .inr ⟨not_sent_of_command hcommand, hunsent⟩
  · refine .inr ⟨?_, hunsent⟩
    rintro ⟨update, hsent⟩
    rw [hcommand] at hsent
    exact hrc (Prod.mk.inj (Option.some.inj hsent)).2
  · rw [hrc] at hcommand
    exact .inl ⟨⟨update, hcommand⟩, hstored⟩

theorem beginEncode_ready (m : EncodingManager) (settings : GfxSettings) (f : Frame)
    (autoSwitch vaapiPrepare : Bool) :
    (m.beginEncode settings f autoSwitch vaapiPrepare).1.ready = m.ready := by
  simp only [beginEncode, prepareGfxDiffState]
  split
  · rfl
  · rfl

/-- Whatever was cached before, the diff state fits the frame afterwards. -/
theorem beginEncode_caches (m : EncodingManager) (settings : GfxSettings) (f : Frame)
    (autoSwitch vaapiPrepare : Bool) :
    (m.beginEncode settings f autoSwitch vaapiPrepare).1.Caches f := by
  simp only [beginEncode, prepareGfxDiffState]
  split
  · rename_i hsame
    obtain ⟨hgeometry, htiles, hlength⟩ := hsame
    simp only [not_or, not_not] at hgeometry htiles
    exact ⟨hgeometry.1, hgeometry.2.1, hgeometry.2.2, htiles.1, htiles.2, hlength⟩
  · exact ⟨rfl, rfl, rfl, rfl, rfl, List.length_replicate ..⟩

/-- A frame of another geometry leaves zeros, and a keyframe to send. -/
theorem beginEncode_rebuilt (h : ¬ m.Caches f) (settings : GfxSettings)
    (autoSwitch vaapiPrepare : Bool) :
    (m.beginEncode settings f autoSwitch vaapiPrepare).1.gfxForceKeyframe = true := by
  simp only [beginEncode, prepareGfxDiffState]
  split
  · rename_i hsame
    obtain ⟨hgeometry, htiles, hlength⟩ := hsame
    simp only [not_or, not_not] at hgeometry htiles
    exact absurd ⟨hgeometry.1, hgeometry.2.1, hgeometry.2.2, htiles.1, htiles.2, hlength⟩ h
  · rfl

end EncodingManager

namespace CachedRun

variable {s s' : CachedRun} {e : CachedEvent} {m : EncodingManager} {f : Frame}
  {o : GfxEncodeOutcome} {settings : GfxSettings} {autoSwitch : Bool} {env : EncodeEnv}

theorem record_of_sent (h : o.Sent) : (s.record f o).lastSent = some f := by
  obtain ⟨update, hcommand⟩ := h
  rw [record, hcommand]
  rfl

theorem record_of_not_sent (h : ¬ o.Sent) : (s.record f o).lastSent = s.lastSent := by
  rw [record]
  rcases hcommand : o.command with _ | ⟨update, rc⟩
  · rfl
  · have hrc : rc ≠ 0 := by
      intro hzero
      rw [hzero] at hcommand
      exact h ⟨update, hcommand⟩
    exact if_neg hrc

/-- A frame that was sent is the cached one afterwards. -/
theorem faithful_of_stored (hready : m.ready = true) (hcaches : m.Caches f) (hw : f.WellFormed)
    (hsent : o.Sent) (hstored : m.Stored o.manager f) : (s.record f o).Faithful := by
  have hframe : (s.record f o).manager.cachedFrame = f := hstored.cachedFrame hcaches hw
  have hlast : (s.record f o).lastSent = some f := record_of_sent hsent
  constructor
  case unready =>
    intro hunready
    have := hstored.ready.trans hready
    rw [record] at hunready
    rw [this] at hunready
    cases hunready
  case empty =>
    intro hempty
    have hlength : f.data.length = 0 := by
      have hdata : (s.record f o).manager.cachedFrame.data = f.data := congrArg Frame.data hframe
      rw [← hdata]
      exact congrArg List.length hempty
    have hpixels : 0 < f.stride * f.height := by
      have hstride := hw.stride
      have hwidth := hw.width_pos
      exact Nat.mul_pos (by omega) hw.height_pos
    rw [hw.length] at hlength
    omega
  case cached =>
    intro _
    rw [hframe]
    exact hlast
  case wellFormed =>
    intro _
    rw [hframe]
    exact hw
  case tilesX =>
    intro _
    rw [record, hstored.tilesX, hstored.diffWidth, hcaches.tilesX, hcaches.width]
  case tilesY =>
    intro _
    rw [record, hstored.tilesY, hstored.diffHeight, hcaches.tilesY, hcaches.height]

/-- An encode that delivers what it rebuilds keeps the cached frame faithful. -/
theorem Faithful.encode (h : s.Faithful) (hw : f.WellFormed)
    (hdelivers : s.manager.RebuildDelivers settings f autoSwitch env)
    (ho : s.manager.encodeSurfaceGfx settings f autoSwitch env = some o) :
    (s.record f o).Faithful := by
  rcases hready : s.manager.ready with _ | _
  · rw [s.manager.encodeSurfaceGfx_unready hready] at ho
    rw [← Option.some.inj ho]
    exact h.of_unsent (.refl s.manager) rfl
  · rw [s.manager.encodeSurfaceGfx_ready hready] at ho
    have hbegun := s.manager.beginEncode_ready settings f autoSwitch env.vaapiPrepare
    rcases EncodingManager.sent_or_unsent ho with ⟨hsent, hstored⟩ | ⟨hnot, hunsent⟩
    · exact faithful_of_stored (hbegun.trans hready) (s.manager.beginEncode_caches ..) hw hsent
        hstored
    -- an encode that sent nothing has rebuilt nothing
    · have hcaches : s.manager.Caches f := by
        by_contra hrebuilt
        have hforce := EncodingManager.beginEncode_rebuilt hrebuilt settings autoSwitch
          env.vaapiPrepare
        exact hnot ((EncodingManager.encodeWith_sent_iff hforce ho).mpr (hdelivers hready hrebuilt))
      exact h.of_unsent (hcaches.beginEncode_unsent.trans hunsent) (record_of_not_sent hnot)

/-- The geometry that a wellformed frame leaves behind passes the guards of a refresh. -/
theorem hasCachedFrame_of_caches (hready : m.ready = true) (hcaches : m.Caches f)
    (hw : f.WellFormed) : m.HasCachedFrame := by
  have hwidth := hw.width_pos
  have hheight := hw.height_pos
  have hrow := hw.stride
  have hpixels : 0 < f.stride * f.height := Nat.mul_pos (by omega) hheight
  constructor
  case ready => exact hready
  case length =>
    rw [hcaches.length]
    omega
  case width =>
    rw [hcaches.width]
    omega
  case height =>
    rw [hcaches.height]
    omega
  case stride =>
    rw [hcaches.stride]
    omega

/-- What was last sent has the geometry that is cached, so a frame that looks like it is cached. -/
theorem Faithful.caches_of_lastSent (h : s.Faithful) (hlast : s.lastSent = some m.cachedFrame)
    (hcaches : m.Caches f) : s.manager.Caches f := by
  have hempty : s.manager.gfxPreviousFrame ≠ [] := by
    intro hnil
    rw [h.empty hnil] at hlast
    cases hlast
  rw [h.cached hempty] at hlast
  have hsame : s.manager.cachedFrame = m.cachedFrame := Option.some.inj hlast
  have hwidth : s.manager.gfxDiffWidth = f.width :=
    (congrArg Frame.width hsame).trans hcaches.width
  have hheight : s.manager.gfxDiffHeight = f.height :=
    (congrArg Frame.height hsame).trans hcaches.height
  have hstride : s.manager.gfxDiffStride = f.stride :=
    (congrArg Frame.stride hsame).trans hcaches.stride
  have hlength : s.manager.gfxPreviousFrame.length = f.stride * f.height :=
    (congrArg (fun g => g.data.length) hsame).trans hcaches.length
  constructor
  case width => exact hwidth
  case height => exact hheight
  case stride => exact hstride
  case tilesX =>
    rw [h.tilesX hempty, hwidth]
  case tilesY =>
    rw [h.tilesY hempty, hheight]
  case length => exact hlength

/-- An encode that rebuilds the diff state and sends nothing leaves a black frame that was never
sent. -/
theorem Faithful.encode_stale (h : s.Faithful) (hw : f.WellFormed)
    (hdelivers : ¬ s.manager.RebuildDelivers settings f autoSwitch env)
    (ho : s.manager.encodeSurfaceGfx settings f autoSwitch env = some o) :
    ¬ (s.record f o).RefreshExact := by
  rw [EncodingManager.RebuildDelivers] at hdelivers
  push Not at hdelivers
  obtain ⟨hready, hrebuilt, hfails⟩ := hdelivers
  rw [s.manager.encodeSurfaceGfx_ready hready] at ho
  have hforce := EncodingManager.beginEncode_rebuilt hrebuilt settings autoSwitch env.vaapiPrepare
  have hbegun := s.manager.beginEncode_ready settings f autoSwitch env.vaapiPrepare
  have hcaches := s.manager.beginEncode_caches settings f autoSwitch env.vaapiPrepare
  -- the keyframe is forced by the rebuild, so a frame that is not delivered is not sent
  have hnot : ¬ o.Sent := fun hsent =>
    hfails ((EncodingManager.encodeWith_sent_iff hforce ho).mp hsent)
  obtain ⟨hsent, -⟩ | ⟨-, hunsent⟩ := EncodingManager.sent_or_unsent ho
  · exact absurd hsent hnot
  · have hcaches' : o.manager.Caches f := hcaches.of_unsent hunsent
    have hready' : o.manager.ready = true := hunsent.ready.trans (hbegun.trans hready)
    rw [refreshExact_iff]
    intro hexact
    have hlast := hexact (hasCachedFrame_of_caches hready' hcaches' hw)
    rw [record_of_not_sent hnot] at hlast
    -- then the frame would have had the cached geometry, and nothing had been rebuilt
    exact hrebuilt (h.caches_of_lastSent hlast hcaches')

/-- A refresh sends what is cached, or nothing. -/
theorem Faithful.encodeCached (h : s.Faithful)
    (ho : s.manager.encodeCachedFrameGfx settings autoSwitch env = some o) :
    (s.record s.manager.cachedFrame o).Faithful := by
  by_cases hcached : s.manager.HasCachedFrame
  · rw [EncodingManager.encodeCachedFrameGfx_eq hcached] at ho
    have hne : s.manager.gfxPreviousFrame ≠ [] := by
      intro hnil
      exact hcached.length (by rw [hnil, List.length_nil])
    have hw := h.wellFormed hne
    have hforced : Faithful { s with manager := s.manager.forceKeyframe } :=
      h.of_unsent s.manager.forceKeyframe_unsent rfl
    have hcaches : s.manager.forceKeyframe.Caches s.manager.cachedFrame :=
      ⟨rfl, rfl, rfl, h.tilesX hne, h.tilesY hne, hw.length⟩
    exact hforced.encode hw (fun _ hrebuilt => absurd hcaches hrebuilt) ho
  · obtain ⟨hmanager, hcommand, -⟩ := EncodingManager.encodeCachedFrameGfx_refused hcached ho
    refine h.of_unsent ?_ (record_of_not_sent (EncodingManager.not_sent_of_command hcommand))
    rw [record, hmanager]
    exact .refl s.manager

theorem Faithful.reset (h : s.Faithful) :
    Faithful { manager := s.manager.reset, lastSent := none } := by
  apply faithful_of_nil _ rfl
  rcases hready : s.manager.ready with _ | _
  · rw [EncodingManager.reset, hready]
    exact h.unready hready
  · rw [EncodingManager.reset, hready]
    rfl

theorem Faithful.prepare (h : s.Faithful) (options : EncodingOptions)
    (hs' : s.step (.prepare options) = some s') : s'.Faithful := by
  have heq := Option.some.inj hs'
  rw [← heq]
  by_cases hzero : options.width = 0 ∨ options.height = 0
  · have hkept : ¬ s.manager.PrepareResets options := by
      rintro ⟨hwidth, hheight, -⟩
      exact hzero.elim hwidth hheight
    rw [EncodingManager.prepare, if_pos hzero, if_neg hkept]
    exact h
  · obtain ⟨hwidth, hheight⟩ := not_or.mp hzero
    by_cases hmode : options.mode = .other
    · have hresets : s.manager.PrepareResets options := ⟨hwidth, hheight, .inl hmode⟩
      rw [EncodingManager.prepare, if_neg hzero, if_pos hmode, if_pos hresets]
      exact h.reset
    · by_cases hsize : s.manager.ready = true ∧
          (s.manager.frameWidth ≠ options.width ∨ s.manager.frameHeight ≠ options.height)
      · have hresets : s.manager.PrepareResets options := ⟨hwidth, hheight, .inr hsize⟩
        rw [EncodingManager.prepare, if_neg hzero, if_neg hmode, if_pos hsize, if_pos hresets]
        apply faithful_of_nil _ rfl
        rw [EncodingManager.reset, hsize.1]
        rfl
      · have hkept : ¬ s.manager.PrepareResets options := by
          rintro ⟨-, -, hother | hother⟩
          · exact hmode hother
          · exact hsize hother
        rw [EncodingManager.prepare, if_neg hzero, if_neg hmode, if_neg hsize, if_neg hkept]
        -- a manager that is not ready has no previous frame to keep
        rcases hready : s.manager.ready with _ | _
        · have hnil := h.unready hready
          exact faithful_of_nil hnil (h.empty hnil)
        · exact ⟨fun hunready => Bool.noConfusion hunready, h.empty, h.cached, h.wellFormed, h.tilesX,
            h.tilesY⟩

theorem Faithful.step (h : s.Faithful) (hC : e.RebuildDelivers s) (hs' : s.step e = some s') :
    s'.Faithful := by
  cases e with
  | prepare options => exact h.prepare options hs'
  | reset =>
    rw [← Option.some.inj hs']
    exact h.reset
  | forceKeyframe =>
    rw [← Option.some.inj hs']
    exact h.of_unsent s.manager.forceKeyframe_unsent rfl
  | encodeSurfaceGfx settings input autoSwitch env =>
    obtain ⟨o, ho, rfl⟩ := Option.map_eq_some_iff.mp hs'
    exact h.encode input.2 hC ho
  | encodeCachedFrameGfx settings autoSwitch env =>
    obtain ⟨o, ho, rfl⟩ := Option.map_eq_some_iff.mp hs'
    exact h.encodeCached ho

/-- The one step that breaks a refresh. -/
theorem Faithful.step_stale (h : s.Faithful) (hC : ¬ e.RebuildDelivers s)
    (hs' : s.step e = some s') : ¬ s'.RefreshExact := by
  cases e with
  | prepare options => exact absurd trivial hC
  | reset => exact absurd trivial hC
  | forceKeyframe => exact absurd trivial hC
  | encodeSurfaceGfx settings input autoSwitch env =>
    obtain ⟨o, ho, rfl⟩ := Option.map_eq_some_iff.mp hs'
    exact h.encode_stale input.2 hC ho
  | encodeCachedFrameGfx settings autoSwitch env => exact absurd trivial hC

theorem faithful_init : Faithful {} := faithful_of_nil rfl rfl

end CachedRun

/-- A run refreshes the client with what it was last sent, in every state of it, exactly when each of
its encodes that rebuilds the diff state delivers its frame. -/
theorem cached_refresh_exact_iff (es : List CachedEvent) {t : CachedRun}
    (hrun : cachedMachine.run {} es = some t) :
    cachedMachine.StatesMeet CachedRun.RefreshExact {} es ↔
      cachedMachine.StepsMeet CachedEvent.RebuildDelivers {} es :=
  EventMachine.statesMeet_iff_stepsMeet (fun _ h => h.refreshExact) (fun _ _ _ h => h.step)
    (fun _ _ _ h => h.step_stale) CachedRun.faithful_init es hrun

namespace CachedRun

/-- A first frame whose compressor fails or not, as `rc` says, and then a refresh. -/
def firstFrame (rc : ℤ) : List CachedEvent :=
  [.prepare { width := 1, height := 1 },
    .encodeSurfaceGfx { gfxH264 := true } (onePixel 1) false { compress := rc },
    .encodeCachedFrameGfx { gfxH264 := true } false {}]

end CachedRun

theorem cached_refresh_exact_delivered :
    cachedMachine.StatesMeet CachedRun.RefreshExact {} (CachedRun.firstFrame 1) :=
  (cached_refresh_exact_iff (CachedRun.firstFrame 1)
    (Option.some_get (by decide +kernel)).symm).mpr (by decide +kernel)

namespace CachedRun

/-- The state before the refresh, where the compressor has failed. -/
def failedFirst : CachedRun :=
  (cachedMachine.run {} ((firstFrame (-1)).take 2)).get (by decide +kernel)

def failedFirstRefresh : GfxEncodeOutcome :=
  (failedFirst.manager.encodeCachedFrameGfx { gfxH264 := true } false {}).get (by decide +kernel)

end CachedRun

/-- The compressor fails on the first frame, and the refresh sends a black one. -/
theorem cached_refresh_sends_unsent :
    ¬ ∀ es : List CachedEvent, ∀ t, cachedMachine.run {} es = some t →
      cachedMachine.StatesMeet CachedRun.RefreshExact {} es := by
  intro hall
  have hrun : cachedMachine.run {} ((CachedRun.firstFrame (-1)).take 2) =
      some CachedRun.failedFirst := (Option.some_get _).symm
  have hrefresh : CachedRun.failedFirst.manager.encodeCachedFrameGfx { gfxH264 := true } false {} =
      some CachedRun.failedFirstRefresh := (Option.some_get _).symm
  have hnone : CachedRun.failedFirst.lastSent = none := by decide +kernel
  have hcommand : CachedRun.failedFirstRefresh.command = some (.whole, 0) := by decide +kernel
  have hexact : CachedRun.failedFirst.RefreshExact := (hall _ _ hrun).last hrun
  have hunsent := ((hexact _ _ _ _ hrefresh).2 hnone).1
  rw [hcommand] at hunsent
  cases hunsent

end RemoteDesktop.DRD
