import RemoteDesktop.HistoryStreak
import RemoteDesktop.DRDKeyframe
import RemoteDesktop.DRDEncodeReport

/-! The drift of incremental frames after an AVC frame. A client that comes from AVC decodes dirty
rectangles on top of a lossy picture, so `drd_encoding_manager_register_codec_result` counts them and
`drd_encoding_manager_refresh_interval_reached` ends them with a keyframe. -/
namespace RemoteDesktop.DRD

/-- What a SurfaceFrameCommand was for the refresh. -/
inductive SentFrame
  | avc
  | full
  | incremental
  deriving DecidableEq, Repr

def EncodeJob.sentFrame (job : EncodeJob) : SentFrame :=
  if job.codecClass = .avc then .avc
  else
    match job.update with
    | .whole => .full
    | .rects _ => .incremental

/-- The steps of the encodes, with the frames that were sent, the newest first. -/
structure DriftRun where
  run : KeyframeRun
  sent : List SentFrame := []

namespace DriftRun

/-- Only a SurfaceFrameCommand that succeeds sends a frame. -/
def sends (phase : EncodePhase) : KeyframeEvent → List SentFrame
  | .surfaceFrameCommand rc =>
    match phase with
    | .sending job => if rc = 0 then [job.sentFrame] else []
    | _ => []
  | _ => []

def step (s : DriftRun) (e : KeyframeEvent) : Option DriftRun :=
  (s.run.step e).map fun run => { run := run, sent := sends s.run.phase e ++ s.sent }

end DriftRun

/-- The runs from any manager between two encodes, with any interleaving. -/
def driftMachine : EventMachine DriftRun KeyframeEvent where
  init s := keyframeMachine.init s.run ∧ s.sent = []
  step := DriftRun.step

/-- The events between two calls of `prepare` or `reset`, with a clock that is greater than 0 where it
is registered. -/
def KeyframeEvent.BetweenPrepares : KeyframeEvent → Prop
  | .prepare _ => False
  | .reset => False
  | .store now => 0 < now
  | _ => True

instance : DecidablePred KeyframeEvent.BetweenPrepares
  | .prepare _ | .reset => instDecidableFalse
  | .store now => inferInstanceAs (Decidable (0 < now))
  | .forceKeyframe | .encodeSurfaceGfx .. | .encodeCachedFrameGfx .. | .start .. | .compress _ |
    .surfaceFrameCommand _ | .finish => instDecidableTrue

/-- The frame that was sent last is registered. -/
def EncodePhase.registered : EncodePhase → Bool
  | .storing _ => false
  | _ => true

/-- The frames that follow an AVC frame, up to a full non-AVC frame or another AVC frame. -/
abbrev DriftAtMost (bound : ℕ) (sent : List SentFrame) : Prop :=
  StreaksAtMost (· = .avc) (· = .incremental) bound sent

/-- How many incremental frames there are since the last AVC frame. -/
abbrev drift (sent : List SentFrame) : Option ℕ :=
  streak (· = .avc) (· = .incremental) sent

section History

variable {sent : List SentFrame}

theorem drift_avc : drift (.avc :: sent) = some 0 := streak_start rfl

theorem drift_full : drift (.full :: sent) = none :=
  streak_end SentFrame.noConfusion SentFrame.noConfusion

theorem drift_incremental : drift (.incremental :: sent) = (drift sent).map (· + 1) :=
  streak_count SentFrame.noConfusion rfl

end History

/-! The refresh fields against the history. -/

namespace EncodingManager

variable {m m' : EncodingManager} {n : UInt32} {sent : List SentFrame}

/-- Two managers with the same refresh fields, but for the counter and the flag. -/
structure SameRefresh (m m' : EncodingManager) : Prop where
  lastCodec : m'.gfxLastCodec = m.gfxLastCodec
  transition : m'.gfxAvcToNonAvcTransition = m.gfxAvcToNonAvcTransition
  timestamp : m'.gfxNonAvcSwitchTimestampUs = m.gfxNonAvcSwitchTimestampUs
  interval : m'.gfxProgressiveRefreshInterval = m.gfxProgressiveRefreshInterval

/-- What the refresh fields tell about the frames that were sent. -/
structure Tracks (n : UInt32) (m : EncodingManager) (sent : List SentFrame) : Prop where
  interval : m.gfxProgressiveRefreshInterval = n
  entered : drift sent = some 0 → m.gfxLastCodec = .avc
  left : ∀ k, drift sent = some (k + 1) → m.gfxAvcToNonAvcTransition = true ∧
    m.gfxLastCodec = .nonAvc ∧ 0 < m.gfxNonAvcSwitchTimestampUs
  cleared : sent.head? = some .full → m.gfxAvcToNonAvcTransition = false

/-- The counter is the drift. -/
def Counts (m : EncodingManager) (sent : List SentFrame) : Prop :=
  ∀ k, drift sent = some (k + 1) → m.gfxProgressiveRfxFrames.toNat = k + 1

/-- One more incremental frame stays below the interval. -/
def HasRoom (n : UInt32) (m : EncodingManager) (sent : List SentFrame) : Prop :=
  m.Counts sent ∧ ∀ k, drift sent = some (k + 1) → k + 2 < n.toNat

/-- Between two encodes. A counter that was set back comes with a keyframe. -/
structure Upkeep (n : UInt32) (m : EncodingManager) (sent : List SentFrame) : Prop where
  tracks : Tracks n m sent
  counts : m.Counts sent ∨ m.gfxForceKeyframe = true

theorem Tracks.of_sameRefresh (h : Tracks n m sent) (hsame : m.SameRefresh m') :
    Tracks n m' sent where
  interval := hsame.interval.trans h.interval
  entered := by
    rw [hsame.lastCodec]
    exact h.entered
  left := by
    rw [hsame.transition, hsame.lastCodec, hsame.timestamp]
    exact h.left
  cleared := by
    rw [hsame.transition]
    exact h.cleared

theorem forceKeyframe_sameRefresh (m : EncodingManager) : m.SameRefresh m.forceKeyframe := by
  constructor <;> rfl

theorem Upkeep.forceKeyframe (h : Upkeep n m sent) : Upkeep n m.forceKeyframe sent :=
  ⟨h.tracks.of_sameRefresh m.forceKeyframe_sameRefresh, .inr rfl⟩

/-- An encode sets the counter back only with the flag. -/
theorem beginEncode_refresh (m : EncodingManager) (settings : GfxSettings) (input : Frame)
    (autoSwitch vaapiPrepare : Bool) :
    m.SameRefresh (m.beginEncode settings input autoSwitch vaapiPrepare).1 ∧
      (((m.beginEncode settings input autoSwitch vaapiPrepare).1.gfxProgressiveRfxFrames =
          m.gfxProgressiveRfxFrames ∧
        (m.beginEncode settings input autoSwitch vaapiPrepare).1.gfxForceKeyframe =
          m.gfxForceKeyframe) ∨
        (m.beginEncode settings input autoSwitch vaapiPrepare).1.gfxForceKeyframe = true) := by
  simp only [beginEncode, prepareGfxDiffState]
  split
  · refine ⟨?_, .inl ⟨rfl, rfl⟩⟩
    constructor <;> rfl
  · refine ⟨?_, .inr rfl⟩
    constructor <;> rfl

theorem Upkeep.beginEncode (h : Upkeep n m sent) (settings : GfxSettings) (input : Frame)
    (autoSwitch vaapiPrepare : Bool) :
    Upkeep n (m.beginEncode settings input autoSwitch vaapiPrepare).1 sent := by
  obtain ⟨hsame, hcounter⟩ := m.beginEncode_refresh settings input autoSwitch vaapiPrepare
  refine ⟨h.tracks.of_sameRefresh hsame, ?_⟩
  rcases hcounter with ⟨hframes, hforce⟩ | hforce
  · rw [Counts, hframes, hforce]
    exact h.counts
  · exact .inr hforce

/-- The bound of the drift. -/
def driftBound (n : UInt32) : ℕ := max 1 (n.toNat - 1)

/-- Where the read of the flag lets an incremental frame pass, there is room for one. -/
theorem Upkeep.hasRoom (hn : 0 < n) (h : Upkeep n m sent) (hbound : DriftAtMost (driftBound n) sent) {now : ℤ}
    (hkeyframe : m.keyframeEncode now = false) : HasRoom n m sent := by
  simp only [keyframeEncode, Bool.or_eq_false_iff] at hkeyframe
  obtain ⟨⟨hforce, -⟩, hreached⟩ := hkeyframe
  -- a counter that was set back would have forced a keyframe
  have hcounts : m.Counts sent := by
    rcases h.counts with hcounts | hset
    · exact hcounts
    · rw [hforce] at hset
      cases hset
  refine ⟨hcounts, ?_⟩
  intro k hk
  obtain ⟨htransition, -, hts⟩ := h.tracks.left k hk
  have hframes := hcounts k hk
  have hle : k + 1 ≤ driftBound n := hbound.streak_le hk
  have hsize := n.toNat_lt
  -- the counter is far from its overflow
  have hnext : (m.gfxProgressiveRfxFrames + 1).toNat = k + 2 := by
    rw [UInt32.toNat_add, hframes]
    apply Nat.mod_eq_of_lt
    rw [driftBound] at hle
    show k + 1 + 1 < 2 ^ 32
    omega
  have hnottransition : ¬ (!m.gfxAvcToNonAvcTransition) = true := by simp [htransition]
  simp only [refreshIntervalReached, if_neg hnottransition, if_neg (not_le.mpr hts),
    Bool.or_eq_false_iff, Bool.and_eq_false_iff, decide_eq_false_iff_not, h.tracks.interval] at hreached
  rw [driftBound] at hle
  rcases hreached.1 with hzero | hbudget
  · exact absurd hn hzero
  · rw [UInt32.le_iff_toNat_le, hnext] at hbudget
    omega

theorem startNonAvc_cases (m : EncodingManager) (plan : EncodePlan) (now : ℤ) :
    (m.keyframeEncode now = true ∧
        m.startNonAvc plan now = (m.wipeTileHashes, some (.whole, true))) ∨
      (m.keyframeEncode now = false ∧ (m.startNonAvc plan now = (m, none) ∨
        ∃ rs, m.startNonAvc plan now = (m, some (.rects rs, false)))) := by
  rw [startNonAvc]
  rcases m.keyframeEncode now with _ | _
  · right
    rw [if_neg Bool.false_ne_true]
    refine ⟨rfl, ?_⟩
    rcases m.collectDirtyTiles plan.dirty with _ | ⟨r, rs⟩
    · exact .inl rfl
    · exact .inr ⟨r :: rs, rfl⟩
  · exact .inl ⟨rfl, if_pos rfl⟩

/-! The registration of a frame that was sent. -/

theorem storeFrame_refresh (m : EncodingManager) (frame : Frame) (codecClass : EncodingCodecClass)
    (keyframe : Bool) (now : ℤ) :
    ∃ m₁ : EncodingManager, m.SameRefresh m₁ ∧
      m₁.gfxProgressiveRfxFrames = m.gfxProgressiveRfxFrames ∧
      m.storeFrame frame codecClass keyframe now = m₁.registerCodecResult codecClass keyframe now := by
  refine ⟨(m.storePreviousFrame frame.data frame.stride frame.height).updateTileHashes frame.data
    frame.stride, ?_, ?_, rfl⟩
  · rw [updateTileHashes]
    split
    · constructor <;> rfl
    · constructor <;> rfl
  · rw [updateTileHashes]
    split
    · rfl
    · rfl

theorem registerNonAvc_interval (m : EncodingManager) (keyframe : Bool) (now : ℤ) :
    (m.registerNonAvc keyframe now).gfxProgressiveRefreshInterval =
      m.gfxProgressiveRefreshInterval := by
  simp only [registerNonAvc]
  repeat' split
  all_goals rfl

theorem registerNonAvc_lastCodec (m : EncodingManager) (keyframe : Bool) (now : ℤ) :
    (m.registerNonAvc keyframe now).gfxLastCodec = .nonAvc := rfl

/-- A full frame ends the transition. -/
theorem registerNonAvc_full (m : EncodingManager) (now : ℤ) :
    (m.registerNonAvc true now).gfxAvcToNonAvcTransition = false := by
  simp only [registerNonAvc]
  by_cases havc : m.gfxLastCodec = .avc
  · simp [havc]
  · rcases htransition : m.gfxAvcToNonAvcTransition with _ | _
    · simp [havc, htransition]
    · simp [havc, htransition]

/-- The first incremental frame after AVC starts the transition, and counts. -/
theorem registerNonAvc_entering (hlast : m.gfxLastCodec = .avc)
    (hinterval : m.gfxProgressiveRefreshInterval ≠ 0) (now : ℤ) :
    (m.registerNonAvc false now).gfxAvcToNonAvcTransition = true ∧
      (m.registerNonAvc false now).gfxNonAvcSwitchTimestampUs = now ∧
      (m.registerNonAvc false now).gfxProgressiveRfxFrames = 1 := by
  simp [registerNonAvc, hlast, hinterval]

theorem registerNonAvc_tracking (hlast : m.gfxLastCodec = .nonAvc)
    (htransition : m.gfxAvcToNonAvcTransition = true)
    (hinterval : m.gfxProgressiveRefreshInterval ≠ 0) (now : ℤ) :
    (m.registerNonAvc false now).gfxAvcToNonAvcTransition = true ∧
      (m.registerNonAvc false now).gfxNonAvcSwitchTimestampUs = m.gfxNonAvcSwitchTimestampUs ∧
      (m.registerNonAvc false now).gfxProgressiveRfxFrames = m.gfxProgressiveRfxFrames + 1 := by
  simp [registerNonAvc, hlast, htransition, hinterval]

/-- After a registration the counter is the drift. -/
def Exact (n : UInt32) (m : EncodingManager) (sent : List SentFrame) : Prop :=
  Tracks n m sent ∧ m.Counts sent

theorem register_avc (h : Tracks n m sent) (keyframe : Bool) (now : ℤ) :
    Exact n (m.registerCodecResult .avc keyframe now) (.avc :: sent) := by
  have hzero : drift (.avc :: sent) = some 0 := drift_avc
  refine ⟨⟨h.interval, fun _ => rfl, ?_, ?_⟩, ?_⟩
  · intro k hk
    rw [hzero] at hk
    cases hk
  · intro hhead
    cases hhead
  · intro k hk
    rw [hzero] at hk
    cases hk

theorem register_full (h : Tracks n m sent) (now : ℤ) :
    Exact n (m.registerCodecResult .nonAvc true now) (.full :: sent) := by
  have hnone : drift (.full :: sent) = none := drift_full
  refine ⟨⟨?_, ?_, ?_, ?_⟩, ?_⟩
  · exact (m.registerNonAvc_interval true now).trans h.interval
  · intro hzero
    rw [hnone] at hzero
    cases hzero
  · intro k hk
    rw [hnone] at hk
    cases hk
  · intro _
    exact m.registerNonAvc_full now
  · intro k hk
    rw [hnone] at hk
    cases hk

/-- The step of the counter, from nothing or from where it was. -/
theorem register_incremental (hn : 0 < n) (h : Tracks n m sent) (hroom : HasRoom n m sent) {now : ℤ}
    (hnow : 0 < now) :
    Exact n (m.registerCodecResult .nonAvc false now) (.incremental :: sent) := by
  have hdrift : drift (.incremental :: sent) = (drift sent).map (· + 1) := drift_incremental
  have hinterval : m.gfxProgressiveRefreshInterval ≠ 0 := by
    rw [h.interval]
    rintro rfl
    exact absurd hn (by decide)
  -- either this is the first frame after AVC, or the counter goes on
  have hstep : ∀ k, drift (.incremental :: sent) = some (k + 1) →
      ((m.registerNonAvc false now).gfxAvcToNonAvcTransition = true ∧
        0 < (m.registerNonAvc false now).gfxNonAvcSwitchTimestampUs) ∧
      (m.registerNonAvc false now).gfxProgressiveRfxFrames.toNat = k + 1 := by
    intro k hk
    rw [hdrift] at hk
    obtain ⟨j, hj, hjk⟩ := Option.map_eq_some_iff.mp hk
    obtain rfl : j = k := by omega
    cases j with
    | zero =>
      obtain ⟨htransition, hts, hframes⟩ :=
        registerNonAvc_entering (h.entered hj) hinterval now
      rw [htransition, hts, hframes]
      exact ⟨⟨rfl, hnow⟩, rfl⟩
    | succ j =>
      obtain ⟨hold, hlast, hold'⟩ := h.left j hj
      obtain ⟨htransition, hts, hframes⟩ := registerNonAvc_tracking hlast hold hinterval now
      have hlt := hroom.2 j hj
      have hsize := n.toNat_lt
      rw [htransition, hts, hframes, UInt32.toNat_add, hroom.1 j hj]
      refine ⟨⟨rfl, hold'⟩, Nat.mod_eq_of_lt ?_⟩
      show j + 1 + 1 < 2 ^ 32
      omega
  refine ⟨⟨?_, ?_, ?_, ?_⟩, ?_⟩
  · exact (m.registerNonAvc_interval false now).trans h.interval
  · intro hzero
    rw [hdrift] at hzero
    obtain ⟨j, -, hj⟩ := Option.map_eq_some_iff.mp hzero
    omega
  · intro k hk
    obtain ⟨htracks, -⟩ := hstep k hk
    exact ⟨htracks.1, m.registerNonAvc_lastCodec false now, htracks.2⟩
  · intro hhead
    cases hhead
  · intro k hk
    exact (hstep k hk).2

end EncodingManager

/-! The phases of an encode. -/

/-- A job whose keyframe bit belongs to its update, with the frame that it sends. -/
inductive EncodeJob.Sends : EncodeJob → SentFrame → Prop
  | avc (plan : EncodePlan) (update : SurfaceUpdate) (keyframe : Bool) :
    Sends ⟨plan, .avc, update, keyframe⟩ .avc
  | full (plan : EncodePlan) : Sends ⟨plan, .nonAvc, .whole, true⟩ .full
  | incremental (plan : EncodePlan) (rs : List TileGrid.Rect) :
    Sends ⟨plan, .nonAvc, .rects rs, false⟩ .incremental

open EncodingManager in
/-- The manager while a job goes from the read of the flag to the registration. -/
structure JobKept (n : UInt32) (m : EncodingManager) (sent : List SentFrame) (job : EncodeJob) :
    Prop where
  upkeep : Upkeep n m sent
  sends : job.Sends job.sentFrame
  room : job.sentFrame = .incremental → HasRoom n m sent

open EncodingManager in
/-- While a frame is stored, the manager knows the history without it. -/
def PhaseKept (n : UInt32) (m : EncodingManager) (sent : List SentFrame) : EncodePhase → Prop
  | .compressing job | .sending job => JobKept n m sent job
  | .storing job => ∃ earlier, sent = job.sentFrame :: earlier ∧ JobKept n m earlier job
  | .clearing => Exact n m sent
  | .idle | .chosen _ | .failing => Upkeep n m sent

section Phases

open EncodingManager

variable {n : UInt32} {m m' : EncodingManager} {sent : List SentFrame} {job : EncodeJob}
  {phase : EncodePhase}

theorem EncodingManager.Exact.upkeep (h : Exact n m sent) : Upkeep n m sent := ⟨h.1, .inl h.2⟩

theorem JobKept.forceKeyframe (h : JobKept n m sent job) : JobKept n m.forceKeyframe sent job :=
  ⟨h.upkeep.forceKeyframe, h.sends, h.room⟩

/-- A request falls into any phase. -/
theorem PhaseKept.forceKeyframe (h : PhaseKept n m sent phase) :
    PhaseKept n m.forceKeyframe sent phase := by
  cases phase with
  | idle => exact Upkeep.forceKeyframe h
  | chosen plan => exact Upkeep.forceKeyframe h
  | compressing job => exact JobKept.forceKeyframe h
  | sending job => exact JobKept.forceKeyframe h
  | storing job =>
    obtain ⟨earlier, hsent, hjob⟩ := h
    exact ⟨earlier, hsent, hjob.forceKeyframe⟩
  | failing => exact Upkeep.forceKeyframe h
  | clearing => exact ⟨h.1.of_sameRefresh m.forceKeyframe_sameRefresh, h.2⟩

theorem encoderPrepare_upkeep {context : EncoderContext} {initialised : Bool}
    (h : Upkeep n m sent) (hm' : m.encoderPrepare context initialised = some m') :
    Upkeep n m' sent := by
  obtain ⟨codecs, rfl⟩ := encoderPrepare_eq hm'
  exact ⟨⟨h.tracks.interval, h.tracks.entered, h.tracks.left, h.tracks.cleared⟩, h.counts⟩

/-- The bound of the drift, after one more frame. -/
theorem JobKept.bounded (h : JobKept n m sent job)
    (hbound : DriftAtMost (driftBound n) sent) :
    DriftAtMost (driftBound n) (job.sentFrame :: sent) := by
  have hsends := h.sends
  have hroom := h.room
  generalize job.sentFrame = frame at hsends hroom
  apply hbound.cons
  intro k hk
  change drift (frame :: sent) = some k at hk
  rw [driftBound]
  cases hsends with
  | avc =>
    rw [drift_avc] at hk
    obtain rfl := Option.some.inj hk
    omega
  | full =>
    rw [drift_full] at hk
    cases hk
  | incremental =>
    rw [drift_incremental] at hk
    obtain ⟨j, hj, rfl⟩ := Option.map_eq_some_iff.mp hk
    -- the first incremental frame is free, each other one needs the room
    cases j with
    | zero => omega
    | succ j =>
      have hlt := (hroom rfl).2 j hj
      omega

/-- The registration makes the counter the drift of the whole history. -/
theorem JobKept.store (hn : 0 < n) (h : JobKept n m sent job) {now : ℤ} (hnow : 0 < now) :
    Exact n (m.storeFrame job.plan.frame job.codecClass job.keyframe now)
      (job.sentFrame :: sent) := by
  obtain ⟨m₁, hsame, hframes, heq⟩ :=
    m.storeFrame_refresh job.plan.frame job.codecClass job.keyframe now
  have htracks := h.upkeep.tracks.of_sameRefresh hsame
  have hsends := h.sends
  have hroom := h.room
  rw [heq]
  generalize job.sentFrame = frame at hsends hroom
  cases hsends with
  | avc plan update keyframe => exact register_avc htracks keyframe now
  | full plan => exact register_full htracks now
  | incremental plan rs =>
    have hroom' : HasRoom n m₁ sent := by
      rw [HasRoom, Counts, hframes]
      exact hroom rfl
    exact register_incremental hn htracks hroom' hnow

end Phases

namespace DriftRun

open EncodingManager

variable {n : UInt32} {s s' : DriftRun} {e : KeyframeEvent}

/-- The invariant of a run between two calls of `prepare`. -/
structure Kept (n : UInt32) (s : DriftRun) : Prop where
  bounded : DriftAtMost (driftBound n) s.sent
  phase : PhaseKept n s.run.manager s.sent s.run.phase

theorem beginEncode_kept {r : KeyframeRun} {m : EncodingManager} {sent : List SentFrame}
    (h : Upkeep n m sent) (hidle : r.phase = .idle) (settings : GfxSettings) (input : Frame)
    (autoSwitch vaapiPrepare : Bool) :
    PhaseKept n (r.beginEncode m settings input autoSwitch vaapiPrepare).manager sent
      (r.beginEncode m settings input autoSwitch vaapiPrepare).phase := by
  rw [KeyframeRun.beginEncode]
  split
  · show PhaseKept n m sent r.phase
    rw [hidle]
    exact h
  · exact h.beginEncode settings input autoSwitch vaapiPrepare

/-- The read of the flag gives a job. -/
theorem start_kept (hn : 0 < n) {r r' : KeyframeRun} {sent : List SentFrame} {plan : EncodePlan}
    {initialised : Bool} {now : ℤ} (h : Upkeep n r.manager sent)
    (hbound : DriftAtMost (driftBound n) sent) (hr' : r.start plan initialised now = some r') :
    PhaseKept n r'.manager sent r'.phase := by
  rw [KeyframeRun.start] at hr'
  split at hr'
  · rw [← Option.some.inj hr']
    exact h
  · rename_i codec _
    split at hr'
    · rw [← Option.some.inj hr']
      exact h
    · rename_i m hprepare
      have hm := encoderPrepare_upkeep h hprepare
      split at hr'
      · rw [← Option.some.inj hr']
        exact ⟨hm, .avc plan .whole true, fun havc => SentFrame.noConfusion havc⟩
      · rcases m.startNonAvc_cases plan now with ⟨-, hstart⟩ | ⟨hkeyframe, hstart | ⟨rs, hstart⟩⟩
        · rw [hstart] at hr'
          simp only at hr'
          split at hr'
          · cases hr'
          · rw [← Option.some.inj hr']
            refine ⟨?_, .full plan, fun hfull => SentFrame.noConfusion hfull⟩
            exact ⟨⟨hm.tracks.interval, hm.tracks.entered, hm.tracks.left, hm.tracks.cleared⟩,
              hm.counts⟩
        · rw [hstart] at hr'
          rw [← Option.some.inj hr']
          exact hm
        · rw [hstart] at hr'
          simp only at hr'
          split at hr'
          · cases hr'
          · rw [← Option.some.inj hr']
            -- the flag was not set, so the counter is the drift and below the interval
            exact ⟨hm, .incremental plan rs, fun _ => hm.hasRoom hn hbound hkeyframe⟩

theorem compress_kept {r : KeyframeRun} {sent : List SentFrame} {job : EncodeJob} (rc : ℤ)
    (h : JobKept n r.manager sent job) :
    PhaseKept n r.manager sent (if 0 < rc then .sending job else .idle) := by
  split
  · exact h
  · exact h.upkeep

/-- A frame that was sent is in the history before it is registered, and a rejected one is not. -/
theorem surfaceFrameCommand_kept {r : KeyframeRun} {sent : List SentFrame} {job : EncodeJob}
    (rc : UInt32) (hbound : DriftAtMost (driftBound n) sent) (h : JobKept n r.manager sent job)
    (hsending : r.phase = .sending job) :
    Kept n { run := r.surfaceFrameCommand job rc
             sent := sends r.phase (.surfaceFrameCommand rc) ++ sent } := by
  rw [KeyframeRun.surfaceFrameCommand, hsending]
  by_cases hrc : rc = 0
  · simp only [sends, if_pos hrc]
    exact ⟨h.bounded hbound, sent, rfl, h⟩
  · simp only [sends, if_neg hrc]
    refine ⟨hbound, ?_⟩
    show PhaseKept n r.manager sent (if job.codecClass = .avc then .idle else .failing)
    split
    · exact h.upkeep
    · exact h.upkeep

theorem store_kept (hn : 0 < n) {r : KeyframeRun} {sent earlier : List SentFrame} {job : EncodeJob}
    {now : ℤ} (hnow : 0 < now) (hsent : sent = job.sentFrame :: earlier)
    (h : JobKept n r.manager earlier job) :
    PhaseKept n (r.store job now).manager sent (r.store job now).phase := by
  have hstored : Exact n (r.manager.storeFrame job.plan.frame job.codecClass job.keyframe now)
      sent := by
    rw [hsent]
    exact h.store hn hnow
  show PhaseKept n (r.manager.storeFrame job.plan.frame job.codecClass job.keyframe now) sent
    (if job.codecClass = .avc then .idle else .clearing)
  split
  · exact hstored.upkeep
  · exact hstored

/-- The flag goes, and from there on the counter alone stands for the drift. -/
theorem clearing_kept {m : EncodingManager} {sent : List SentFrame} (h : Exact n m sent) :
    Upkeep n m.clearForceKeyframe sent := by
  obtain ⟨htracks, hcounts⟩ := h
  exact ⟨⟨htracks.interval, htracks.entered, htracks.left, htracks.cleared⟩, .inl hcounts⟩

theorem step_kept (hn : 0 < n) (h : s.Kept n) (he : e.BetweenPrepares) (hs' : s.step e = some s') :
    s'.Kept n := by
  obtain ⟨r, hr, rfl⟩ := Option.map_eq_some_iff.mp hs'
  obtain ⟨hbound, hphase⟩ := h
  cases KeyframeRun.step_move hr with
  | prepare => cases he
  | reset => cases he
  | forceKeyframe => exact ⟨hbound, hphase.forceKeyframe⟩
  | encodeSurfaceGfx hidle settings input autoSwitch vaapiPrepare =>
    rw [hidle] at hphase
    exact ⟨hbound, beginEncode_kept hphase hidle settings input autoSwitch vaapiPrepare⟩
  | noCachedFrame => exact ⟨hbound, hphase⟩
  | cachedFrame hidle _ settings autoSwitch vaapiPrepare =>
    have hupkeep : Upkeep n s.run.manager s.sent := by
      rw [hidle] at hphase
      exact hphase
    exact ⟨hbound, beginEncode_kept hupkeep.forceKeyframe hidle settings _ autoSwitch vaapiPrepare⟩
  | start hchosen hstart =>
    rw [hchosen] at hphase
    exact ⟨hbound, start_kept hn hphase hbound hstart⟩
  | compress hcompressing rc =>
    rw [hcompressing] at hphase
    exact ⟨hbound, compress_kept rc hphase⟩
  | surfaceFrameCommand hsending rc =>
    rw [hsending] at hphase
    exact surfaceFrameCommand_kept rc hbound hphase hsending
  | store hstoring now =>
    rw [hstoring] at hphase
    obtain ⟨earlier, hsent, hjob⟩ := hphase
    exact ⟨hbound, store_kept hn he hsent hjob⟩
  | failing hfailing =>
    rw [hfailing] at hphase
    exact ⟨hbound, Upkeep.forceKeyframe hphase⟩
  | clearing hclearing =>
    rw [hclearing] at hphase
    exact ⟨hbound, clearing_kept hphase⟩

theorem init_kept (hs : driftMachine.init s) :
    s.Kept s.run.manager.gfxProgressiveRefreshInterval := by
  obtain ⟨⟨hidle, -⟩, hsent⟩ := hs
  have hnone : drift s.sent = none := by
    rw [hsent]
    rfl
  constructor
  case bounded =>
    rw [hsent]
    exact streaksAtMost_nil _ _ _
  case phase =>
    rw [hidle]
    refine ⟨⟨rfl, ?_, ?_, ?_⟩, .inl ?_⟩
    · intro hzero
      rw [hnone] at hzero
      cases hzero
    · intro k hk
      rw [hnone] at hk
      cases hk
    · intro hhead
      rw [hsent] at hhead
      cases hhead
    · intro k hk
      rw [hnone] at hk
      cases hk

/-- Once the last frame is registered, a full one has ended the transition. -/
theorem Kept.cleared (h : s.Kept n) (hregistered : s.run.phase.registered = true)
    (hhead : s.sent.head? = some .full) : s.run.manager.gfxAvcToNonAvcTransition = false := by
  have hphase := h.phase
  generalize s.run.phase = phase at hphase hregistered
  cases phase with
  | idle => exact (Upkeep.tracks hphase).cleared hhead
  | chosen plan => exact (Upkeep.tracks hphase).cleared hhead
  | compressing job => exact (JobKept.upkeep hphase).tracks.cleared hhead
  | sending job => exact (JobKept.upkeep hphase).tracks.cleared hhead
  | storing job => cases hregistered
  | failing => exact (Upkeep.tracks hphase).cleared hhead
  | clearing => exact hphase.1.cleared hhead

end DriftRun

/-- Between two calls of `prepare`, and with an interval that is not 0, at most `max 1 (n - 1)`
incremental frames follow an AVC frame before a full frame or another AVC frame. After a full frame
the transition is over. -/
theorem refresh_drift_bounded {s t : DriftRun} (hs : driftMachine.init s)
    (hn : 0 < s.run.manager.gfxProgressiveRefreshInterval) (es : List KeyframeEvent)
    (hes : ∀ e ∈ es, e.BetweenPrepares) (hrun : driftMachine.run s es = some t) :
    DriftAtMost (max 1 (s.run.manager.gfxProgressiveRefreshInterval.toNat - 1)) t.sent ∧
      (t.run.phase.registered = true → t.sent.head? = some .full →
        t.run.manager.gfxAvcToNonAvcTransition = false) := by
  have hmeets := EventMachine.stepsMeet_of_forall (M := driftMachine) s es hes
  have hkept : t.Kept s.run.manager.gfxProgressiveRefreshInterval :=
    hmeets.preserves (K := DriftRun.Kept s.run.manager.gfxProgressiveRefreshInterval)
      (fun _ _ _ h he hs' => DriftRun.step_kept hn h he hs') (DriftRun.init_kept hs) es hrun
  exact ⟨hkept.bounded, hkept.cleared⟩

namespace DriftRun

/-- A manager that is prepared for one pixel, with the interval 3. -/
def prepared : DriftRun where
  run := { manager := (EncodingManager.prepare {}
    { width := 1, height := 1, gfxProgressiveRefreshInterval := 3 }).1 }

def sendProgressive (byte : UInt8) : List KeyframeEvent :=
  KeyframeRun.encodeOnePixel byte ++ [.store 1, .finish]

def sendAvc (byte : UInt8) : List KeyframeEvent :=
  [.encodeSurfaceGfx { gfxAVC444 := true } (onePixel byte).1 false false, .start true 1, .compress 1,
    .surfaceFrameCommand 0, .store 1]

/-- Two incremental frames follow the AVC frame, and then the budget is used up. -/
def leaveAvc : List KeyframeEvent :=
  sendProgressive 1 ++ sendAvc 2 ++ sendProgressive 3 ++ sendProgressive 4 ++ sendProgressive 5

def leftAvc : DriftRun := (driftMachine.run prepared leaveAvc).get (by decide +kernel)

end DriftRun

theorem refresh_drift_bounded_three :
    DriftRun.leftAvc.sent = [.full, .incremental, .incremental, .avc, .full] ∧
      DriftAtMost 2 DriftRun.leftAvc.sent ∧
      DriftRun.leftAvc.run.manager.gfxAvcToNonAvcTransition = false := by
  have hsent : DriftRun.leftAvc.sent = [.full, .incremental, .incremental, .avc, .full] := by
    decide +kernel
  have hrun : driftMachine.run DriftRun.prepared DriftRun.leaveAvc = some DriftRun.leftAvc :=
    (Option.some_get _).symm
  have hinit : driftMachine.init DriftRun.prepared := ⟨⟨rfl, rfl⟩, rfl⟩
  have hinterval : DriftRun.prepared.run.manager.gfxProgressiveRefreshInterval = 3 := by
    decide +kernel
  have hregistered : DriftRun.leftAvc.run.phase.registered = true := by decide +kernel
  obtain ⟨hbound, hcleared⟩ := refresh_drift_bounded hinit (by decide +kernel) DriftRun.leaveAvc
    (by decide +kernel) hrun
  have hmax : max 1 ((3 : UInt32).toNat - 1) = 2 := by decide
  rw [hinterval, hmax] at hbound
  refine ⟨hsent, hbound, hcleared hregistered ?_⟩
  rw [hsent]
  rfl

end RemoteDesktop.DRD
