import RemoteDesktop.EventMachine
import RemoteDesktop.DRDEncodingManager

/-! The picture on the client. Every SurfaceFrameCommand that succeeds replaces the
whole surface or the rectangles that the compressor got, without loss. -/
namespace RemoteDesktop.DRD

open TileGrid

structure Surface where
  width : ℕ
  height : ℕ
  pixel : ℕ → ℕ → List UInt8

def Surface.apply (client : Surface) (frame : Frame) : SurfaceUpdate → Surface
  | .whole => { width := frame.width, height := frame.height, pixel := frame.pixel }
  | .rects rs => { client with pixel := patch client.pixel frame.pixel rs }

/-- The surface equals the frame, pixel for pixel. -/
structure Surface.Shows (client : Surface) (frame : Frame) : Prop where
  width : client.width = frame.width
  height : client.height = frame.height
  pixel : ∀ x y, x < frame.width → y < frame.height → client.pixel x y = frame.pixel x y

theorem Surface.shows_whole (client : Surface) (frame : Frame) :
    (client.apply frame .whole).Shows frame :=
  ⟨rfl, rfl, fun _ _ _ _ => rfl⟩

/-- `sent` is the input of the last SurfaceFrameCommand that succeeded. -/
structure Picture where
  manager : EncodingManager := {}
  client : Surface
  sent : Option Frame := none

inductive PictureEvent
  | prepare (options : EncodingOptions)
  | reset
  | forceKeyframe
  | encodeSurfaceGfx (settings : GfxSettings) (input : { f : Frame // f.WellFormed })
      (autoSwitch : Bool) (env : EncodeEnv)
  | encodeCachedFrameGfx (settings : GfxSettings) (autoSwitch : Bool) (env : EncodeEnv)

namespace Picture

variable (p : Picture)

/-- The client gets what an encode of `input` sent. -/
def receive (input : Frame) (outcome : GfxEncodeOutcome) : Picture :=
  match outcome.command with
  | none => { p with manager := outcome.manager }
  | some (update, rc) =>
    if rc = 0 then
      { manager := outcome.manager, client := p.client.apply input update, sent := some input }
    else { p with manager := outcome.manager }

def step : PictureEvent → Option Picture
  | .prepare options => some { p with manager := (p.manager.prepare options).1 }
  | .reset => some { p with manager := p.manager.reset }
  | .forceKeyframe => some { p with manager := p.manager.forceKeyframe }
  | .encodeSurfaceGfx settings input autoSwitch env =>
    (p.manager.encodeSurfaceGfx settings input.1 autoSwitch env).map (p.receive input.1)
  | .encodeCachedFrameGfx settings autoSwitch env =>
    (p.manager.encodeCachedFrameGfx settings autoSwitch env).map (p.receive p.manager.cachedFrame)

end Picture

/-- The runs from a fresh manager, whatever the client shows before. -/
def pictureMachine : EventMachine Picture PictureEvent where
  init p := p.manager = {} ∧ p.sent = none
  step := Picture.step

namespace EncodingManager

variable {m m' : EncodingManager} {f : Frame} {r : Rect}

/-- The tile counts, the previous frame and the hashes belong to one geometry. A
hash is 0 or the hash of the tile of the previous frame. -/
structure DiffCoherent (m : EncodingManager) : Prop where
  tilesX : m.gfxTilesX = count 64 m.gfxDiffWidth
  tilesY : m.gfxTilesY = count 64 m.gfxDiffHeight
  cached : m.gfxDiffWidth ≠ 0 → m.cachedFrame.WellFormed
  hashes : ∀ r ∈ m.diffTiles, m.gfxTileHashes (m.tileIndex r) = 0 ∨
    m.gfxTileHashes (m.tileIndex r) = gfxHashTile m.gfxPreviousFrame m.gfxDiffStride r

theorem DiffCoherent.of_sameDiff (hd : m.DiffCoherent) (h : m.SameDiff m') : m'.DiffCoherent where
  tilesX := by rw [h.tilesX, h.diffWidth, hd.tilesX]
  tilesY := by rw [h.tilesY, h.diffHeight, hd.tilesY]
  cached := by
    rw [h.diffWidth, h.cachedFrame]
    exact hd.cached
  hashes := by
    rw [h.diffTiles, h.tileHashes, h.tileIndex, h.previousFrame, h.diffStride]
    exact hd.hashes

/-- The diff state has the geometry of the frame. -/
structure FitsFrame (m : EncodingManager) (f : Frame) : Prop where
  width : m.gfxDiffWidth = f.width
  height : m.gfxDiffHeight = f.height
  stride : m.gfxDiffStride = f.stride
  length : m.gfxPreviousFrame.length = f.stride * f.height

theorem FitsFrame.of_sameDiff (hf : m.FitsFrame f) (h : m.SameDiff m') : m'.FitsFrame f where
  width := by rw [h.diffWidth, hf.width]
  height := by rw [h.diffHeight, hf.height]
  stride := by rw [h.diffStride, hf.stride]
  length := by rw [h.previousFrame, hf.length]

theorem FitsFrame.diffTiles (hf : m.FitsFrame f) : m.diffTiles = tiles 64 f.width f.height := by
  rw [EncodingManager.diffTiles, hf.width, hf.height]

theorem DiffCoherent.tileIndex (hd : m.DiffCoherent) (r : Rect) :
    m.tileIndex r = index 64 m.gfxDiffWidth r.x r.y := by
  rw [EncodingManager.tileIndex, index, hd.tilesX]

/-- Every place that the loops over the tiles read or write is inside the arrays, so
functions can stand for them. -/
theorem DiffCoherent.tileIndex_lt (hd : m.DiffCoherent) (hr : r ∈ m.diffTiles) :
    m.tileIndex r < m.gfxTilesX * m.gfxTilesY := by
  obtain ⟨x, y, ⟨hx, _⟩, ⟨hy, _⟩, rfl⟩ := (mem_tiles (by decide)).mp hr
  rw [hd.tileIndex, hd.tilesX, hd.tilesY]
  exact index_lt (by decide) hx hy

/-- A frame of at least one pixel has tiles. -/
theorem DiffCoherent.hasTiles (hd : m.DiffCoherent) (hf : m.FitsFrame f) (hw : f.WellFormed) :
    ¬ (m.gfxTilesX = 0 ∨ m.gfxTilesY = 0) := by
  have hx : 0 < count 64 m.gfxDiffWidth := by
    rw [lt_count_iff (by decide), hf.width]
    have := hw.width_pos
    omega
  have hy : 0 < count 64 m.gfxDiffHeight := by
    rw [lt_count_iff (by decide), hf.height]
    have := hw.height_pos
    omega
  rw [hd.tilesX, hd.tilesY]
  omega

/-- The array of a loop over all tiles, read at a tile. -/
theorem DiffCoherent.fill_tiles (hd : m.DiffCoherent) {α : Type*} (g : Rect → α) (a : ℕ → α)
    (hr : r ∈ m.diffTiles) : fill m.tileIndex g a m.diffTiles (m.tileIndex r) = g r :=
  TileGrid.fill_tiles m.tileIndex g (by decide) hd.tileIndex a hr

theorem prepareGfxDiffState_spec (hd : m.DiffCoherent) (hw : f.WellFormed) :
    (m.prepareGfxDiffState f.width f.height f.stride).DiffCoherent ∧
      (m.prepareGfxDiffState f.width f.height f.stride).FitsFrame f ∧
      ((m.prepareGfxDiffState f.width f.height f.stride = m ∧ m.FitsFrame f) ∨
        (m.prepareGfxDiffState f.width f.height f.stride).gfxForceKeyframe = true) := by
  simp only [prepareGfxDiffState]
  split
  · rename_i hsame
    obtain ⟨hgeometry, _, hlength⟩ := hsame
    simp only [not_or, not_not] at hgeometry
    have hfits : m.FitsFrame f := ⟨hgeometry.1, hgeometry.2.1, hgeometry.2.2, hlength⟩
    exact ⟨hd, hfits, .inl ⟨rfl, hfits⟩⟩
  · refine ⟨⟨rfl, rfl, fun _ => ?_, fun r _ => .inl rfl⟩, ⟨rfl, rfl, rfl, ?_⟩, .inr rfl⟩
    · exact ⟨hw.width_pos, hw.width_le, hw.height_pos, hw.height_le, hw.stride,
        List.length_replicate .., hw.size⟩
    · exact List.length_replicate ..

/-- Storing a frame that was sent makes it the previous one, with its hashes. -/
theorem storeFrame_spec (hd : m.DiffCoherent) (hf : m.FitsFrame f) (hw : f.WellFormed)
    (codecClass : EncodingCodecClass) (keyframe : Bool) (now : ℤ) :
    (m.storeFrame f codecClass keyframe now).DiffCoherent ∧
      (m.storeFrame f codecClass keyframe now).cachedFrame = f := by
  have hdata : f.data.take (f.stride * f.height) = f.data := by
    rw [← hw.length, List.take_length]
  -- the stored frame and the hashes of all its tiles
  have hupdate : (m.storePreviousFrame f.data f.stride f.height).updateTileHashes f.data f.stride =
      { m with
        gfxPreviousFrame := f.data
        gfxTileHashes := fill m.tileIndex (gfxHashTile f.data f.stride) m.gfxTileHashes
          m.diffTiles } := by
    rw [storePreviousFrame, hdata, updateTileHashes, if_neg (hd.hasTiles hf hw)]
    rfl
  have hcached : EncodingManager.cachedFrame { m with
      gfxPreviousFrame := f.data
      gfxTileHashes := fill m.tileIndex (gfxHashTile f.data f.stride) m.gfxTileHashes
        m.diffTiles } = f := by
    rw [EncodingManager.cachedFrame]
    simp only [hf.width, hf.height, hf.stride]
  have hsame := registerCodecResult_sameDiff ((m.storePreviousFrame f.data f.stride
    f.height).updateTileHashes f.data f.stride) codecClass keyframe now
  rw [storeFrame]
  refine ⟨DiffCoherent.of_sameDiff ?_ hsame, by rw [hsame.cachedFrame, hupdate, hcached]⟩
  rw [hupdate]
  refine ⟨hd.tilesX, hd.tilesY, fun _ => by rwa [hcached], fun r hr => .inr ?_⟩
  rw [← hf.stride]
  exact hd.fill_tiles _ _ hr

/-- A tile's contents that meet: those of the previous frame and those of the new
one are told apart by their hashes, and the new ones do not hash to 0. -/
def MeetApart (previous data : List UInt8) (stride : ℕ) (r : Rect) : Prop :=
  gfxHashTile data stride r ≠ 0 ∧
    (gfxHashTile previous stride r = gfxHashTile data stride r →
      tileRows previous stride r = tileRows data stride r)

instance (previous data : List UInt8) (stride : ℕ) (r : Rect) :
    Decidable (MeetApart previous data stride r) :=
  inferInstanceAs (Decidable (_ ∧ (_ → _)))

/-- A tile that the analysis finds unchanged is unchanged. -/
theorem tileRows_eq_of_not_tileDiffers (hd : m.DiffCoherent) (hf : m.FitsFrame f)
    (hw : f.WellFormed) (hr : r ∈ m.diffTiles)
    (hmeet : MeetApart m.gfxPreviousFrame f.data f.stride r)
    (hclean : m.tileDiffers f.data (some m.gfxPreviousFrame) f.stride r = false) :
    tileRows m.gfxPreviousFrame f.stride r = tileRows f.data f.stride r := by
  rw [tileDiffers, Bool.and_eq_false_iff] at hclean
  rcases hclean with hhash | hsame
  -- equal hashes: the stored one is of the previous frame, as it is not a wiped one
  · have hstored : m.gfxTileHashes (m.tileIndex r) = gfxHashTile f.data f.stride r := by
      simpa using hhash
    rcases hd.hashes r hr with hzero | hprevious
    · exact absurd (hstored.symm.trans hzero) hmeet.1
    · rw [hf.stride] at hprevious
      exact hmeet.2 (hprevious.symm.trans hstored)
  · rw [hf.diffTiles] at hr
    obtain ⟨hx, hy⟩ := tile_bounds (by decide) hr
    exact tileRows_eq_of_not_differ hw hx hy hsame

end EncodingManager

namespace Picture

open EncodingManager

variable {p p' : Picture} {m m' : EncodingManager} {client : Surface} {f : Frame}

/-- The diff state is coherent, and unless a keyframe is forced the client shows the
previous frame. -/
structure Kept (client : Surface) (m : EncodingManager) : Prop where
  diff : m.DiffCoherent
  previous : m.gfxForceKeyframe = false → client.Shows m.cachedFrame

theorem Kept.of_sameDiff (h : Kept client m) (hsame : m.SameDiff m')
    (hforce : m'.gfxForceKeyframe = m.gfxForceKeyframe) : Kept client m' where
  diff := h.diff.of_sameDiff hsame
  previous := by
    rw [hforce, hsame.cachedFrame]
    exact h.previous

theorem Kept.forceKeyframe (h : Kept client m) : Kept client m.forceKeyframe where
  diff := h.diff.of_sameDiff m.forceKeyframe_sameDiff
  previous := by simp [EncodingManager.forceKeyframe]

/-- A keyframe that is not sent loses the hashes, which costs no more than comparisons. -/
theorem Kept.wipeTileHashes (h : Kept client m) : Kept client m.wipeTileHashes where
  diff := ⟨h.diff.tilesX, h.diff.tilesY, h.diff.cached, fun _ _ => .inl rfl⟩
  previous := h.previous

/-- The invariant of every run. -/
structure Exact (p : Picture) : Prop where
  kept : Kept p.client p.manager
  sent : ∀ f, p.sent = some f → p.client.Shows f

/-- A frame that was sent: the surface shows it, and it is the previous frame. -/
theorem Exact.of_sent {m₁ : EncodingManager} (hd : m₁.DiffCoherent) (hcached : m₁.cachedFrame = f)
    (hshows : client.Shows f) : Exact { manager := m₁, client := client, sent := some f } where
  kept := ⟨hd, fun _ => by rwa [hcached]⟩
  sent := by
    intro g hg
    rw [Option.some.injEq] at hg
    rwa [← hg]

/-- The previous frame of `m` and the input of an encode are compared tile by tile. -/
structure Compares (m : EncodingManager) (input : Frame) : Prop where
  notForced : m.gfxForceKeyframe = false
  width : m.gfxDiffWidth = input.width
  height : m.gfxDiffHeight = input.height
  stride : m.gfxDiffStride = input.stride

instance (m : EncodingManager) (input : Frame) : Decidable (Compares m input) :=
  decidable_of_iff (m.gfxForceKeyframe = false ∧ m.gfxDiffWidth = input.width ∧
    m.gfxDiffHeight = input.height ∧ m.gfxDiffStride = input.stride)
    ⟨fun ⟨h₁, h₂, h₃, h₄⟩ => ⟨h₁, h₂, h₃, h₄⟩, fun h => ⟨h.1, h.2, h.3, h.4⟩⟩

/-- No two contents of one tile that an encode of `input` compares share a hash
without being equal, and no tile of `input` hashes to 0. -/
def TilesApart (m : EncodingManager) (input : Frame) : Prop :=
  Compares m input → ∀ r ∈ tiles 64 input.width input.height,
    MeetApart m.gfxPreviousFrame input.data input.stride r

instance (m : EncodingManager) (input : Frame) : Decidable (TilesApart m input) :=
  inferInstanceAs (Decidable (_ → _))

/-- What an encode has settled before its codec runs. -/
structure Begun (client : Surface) (m : EncodingManager) (plan : EncodePlan) : Prop where
  kept : Kept client m
  fits : m.FitsFrame plan.frame
  wellFormed : plan.frame.WellFormed
  clean : m.gfxForceKeyframe = false → ∀ r ∈ m.diffTiles, plan.dirty (m.tileIndex r) = false →
    tileRows m.gfxPreviousFrame plan.frame.stride r = tileRows plan.frame.data plan.frame.stride r

theorem Begun.of_sameDiff {plan : EncodePlan} (h : Begun client m plan) (hsame : m.SameDiff m')
    (hforce : m'.gfxForceKeyframe = m.gfxForceKeyframe) : Begun client m' plan where
  kept := h.kept.of_sameDiff hsame hforce
  fits := h.fits.of_sameDiff hsame
  wellFormed := h.wellFormed
  clean := by
    rw [hforce, hsame.diffTiles, hsame.tileIndex, hsame.previousFrame]
    exact h.clean

theorem Begun.wipeTileHashes {plan : EncodePlan} (h : Begun client m plan) :
    Begun client m.wipeTileHashes plan where
  kept := h.kept.wipeTileHashes
  fits := ⟨h.fits.width, h.fits.height, h.fits.stride, h.fits.length⟩
  wellFormed := h.wellFormed
  clean := h.clean

/-- The new dimensions of the frame, which the diff state does not use. -/
theorem withFrameSize_sameDiff (m : EncodingManager) (width height : ℕ) :
    m.SameDiff { m with frameWidth := width, frameHeight := height } := by
  constructor <;> rfl

theorem beginEncode_begun (hk : Kept client m) (hw : f.WellFormed) (hapart : TilesApart m f)
    (settings : GfxSettings) (autoSwitch vaapiPrepare : Bool) :
    Begun client (m.beginEncode settings f autoSwitch vaapiPrepare).1
      (m.beginEncode settings f autoSwitch vaapiPrepare).2 := by
  have hk' := hk.of_sameDiff (withFrameSize_sameDiff m f.width f.height) rfl
  obtain ⟨hd, hfits, hsame⟩ := prepareGfxDiffState_spec hk'.diff hw
  simp only [beginEncode]
  generalize hm₁ : EncodingManager.prepareGfxDiffState _ f.width f.height f.stride = m₁ at *
  refine ⟨⟨hd, fun hforce => ?_⟩, hfits, hw, fun hforce r hr hdirty => ?_⟩
  · rcases hsame with ⟨rfl, _⟩ | hforced
    · exact hk'.previous hforce
    · rw [hforced] at hforce
      simp at hforce
  · rw [if_pos hfits.length] at hdirty
    -- the frame has tiles, so the analysis did run
    have htiles : ¬ (m₁.gfxTilesX = 0 ∨ m₁.gfxTilesY = 0 ∨ m₁.gfxDiffWidth = 0 ∨
        m₁.gfxDiffHeight = 0) := by
      have hnone := hd.hasTiles hfits hw
      have hwidth := hw.width_pos
      have hheight := hw.height_pos
      rw [hfits.width, hfits.height]
      omega
    rw [analyzeTiles, if_neg htiles] at hdirty
    dsimp only at hdirty
    rw [hd.fill_tiles _ _ hr] at hdirty
    refine tileRows_eq_of_not_tileDiffers hd hfits hw hr ?_ hdirty
    -- with no keyframe forced the geometry did not change, so the tiles were compared
    rcases hsame with ⟨rfl, hfits'⟩ | hforced
    · have hcompares : Compares m f := ⟨hforce, hfits'.width, hfits'.height, hfits'.stride⟩
      exact hapart hcompares r (hfits.diffTiles ▸ hr)
    · rw [hforced] at hforce
      simp at hforce

/-- An incremental frame replaces every tile that changed. -/
theorem Begun.shows_rects {plan : EncodePlan} (h : Begun client m plan)
    (hforce : m.gfxForceKeyframe = false) {rs : List Rect}
    (hrs : m.collectDirtyTiles plan.dirty = rs) :
    (client.apply plan.frame (.rects rs)).Shows plan.frame := by
  have hshows := h.kept.previous hforce
  refine ⟨hshows.width.trans h.fits.width, hshows.height.trans h.fits.height, ?_⟩
  intro x y hx hy
  -- a pixel outside the rectangles is one of a clean tile
  refine patch_eq_new (k := 64) (by decide) (fun r hr hclean x y hin => ?_) hx hy
  have htile : r ∈ m.diffTiles := by rwa [h.fits.diffTiles]
  have hdirty : plan.dirty (m.tileIndex r) = false := by
    rw [← hrs, collectDirtyTiles, if_neg (h.kept.diff.hasTiles h.fits h.wellFormed)] at hclean
    by_contra hdirty
    exact hclean (List.mem_filter.mpr ⟨htile, by simpa using hdirty⟩)
  have hrows := h.clean hforce r htile hdirty
  obtain ⟨hbx, hby⟩ := tile_bounds (by decide) hr
  have hx' : x < m.cachedFrame.width := by
    show x < m.gfxDiffWidth
    have := hin.2.1
    rw [h.fits.width]
    omega
  have hy' : y < m.cachedFrame.height := by
    show y < m.gfxDiffHeight
    have := hin.2.2.2
    rw [h.fits.height]
    omega
  -- a clean tile has the same bytes in both frames
  have hcached : tileRows m.cachedFrame.data m.cachedFrame.stride r =
      tileRows plan.frame.data plan.frame.stride r := by
    show tileRows m.gfxPreviousFrame m.gfxDiffStride r = _
    rw [h.fits.stride]
    exact hrows
  calc client.pixel x y = m.cachedFrame.pixel x y := hshows.pixel x y hx' hy'
    _ = plan.frame.pixel x y := pixel_eq_of_tileRows h.fits.stride hcached hin

/-- The outcome of an encode keeps the invariant. -/
def Sound (p : Picture) (input : Frame) (outcome : GfxEncodeOutcome) : Prop :=
  Exact (p.receive input outcome)

theorem sound_of_unsent {outcome : GfxEncodeOutcome}
    (hsent : ∀ f, p.sent = some f → p.client.Shows f) (hcommand : outcome.command = none)
    (hkept : Kept p.client outcome.manager) : Sound p f outcome := by
  rw [Sound, receive, hcommand]
  exact ⟨hkept, hsent⟩

theorem Begun.sound_sendAvc {plan : EncodePlan} (h : Begun p.client m plan)
    (hsent : ∀ f, p.sent = some f → p.client.Shows f) (env : EncodeEnv) :
    Sound p plan.frame (m.sendAvc plan env) := by
  rw [Sound, receive, sendAvc]
  by_cases hrc : env.surfaceFrameCommand = 0
  · obtain ⟨hd, hcached⟩ := storeFrame_spec h.kept.diff h.fits h.wellFormed .avc true env.registerNow
    simp only [hrc, if_true, ne_eq, not_true_eq_false, if_false]
    exact .of_sent hd hcached (Surface.shows_whole ..)
  · simp only [hrc, if_false, ne_eq, not_false_eq_true, if_true]
    exact ⟨h.kept, hsent⟩

theorem Begun.sound_sendNonAvc {plan : EncodePlan} (h : Begun p.client m plan)
    (hsent : ∀ f, p.sent = some f → p.client.Shows f) (env : EncodeEnv) {update : SurfaceUpdate}
    (hupdate : (p.client.apply plan.frame update).Shows plan.frame) (keyframe : Bool) :
    Sound p plan.frame (m.sendNonAvc plan env update keyframe) := by
  rw [Sound, receive, sendNonAvc]
  by_cases hrc : env.surfaceFrameCommand = 0
  · obtain ⟨hd, hcached⟩ :=
      storeFrame_spec h.kept.diff h.fits h.wellFormed .nonAvc keyframe env.registerNow
    simp only [hrc, if_true, ne_eq, not_true_eq_false, if_false]
    have hclear := (m.finishNonAvc plan keyframe env.registerNow).clearForceKeyframe_sameDiff
    exact .of_sent (hd.of_sameDiff hclear) (hclear.cachedFrame.trans hcached) hupdate
  · simp only [hrc, if_false, ne_eq, not_false_eq_true, if_true]
    exact ⟨h.kept.forceKeyframe, hsent⟩

theorem sound_failAvc (hsent : ∀ f, p.sent = some f → p.client.Shows f)
    (hk : Kept p.client m) (code : IOErrorCode) (message : String) :
    Sound p f (m.failAvc code message) :=
  sound_of_unsent hsent rfl hk

theorem sound_failNonAvc (hsent : ∀ f, p.sent = some f → p.client.Shows f)
    (hk : Kept p.client m) (code : IOErrorCode) (message : String) :
    Sound p f (m.failNonAvc code message) :=
  sound_of_unsent hsent rfl hk

theorem Begun.sound_avc444 {plan : EncodePlan} (h : Begun p.client m plan)
    (hsent : ∀ f, p.sent = some f → p.client.Shows f) (env : EncodeEnv) :
    Sound p plan.frame (m.encodeAvc444 plan env) := by
  rw [encodeAvc444]
  split
  · exact sound_failAvc hsent h.kept _ _
  · rename_i m₁ hprepare
    obtain ⟨hsame, hforce⟩ := encoderPrepare_spec hprepare
    have h₁ := h.of_sameDiff hsame hforce
    split
    · exact sound_failAvc hsent h₁.kept _ _
    · split
      · exact sound_failAvc hsent h₁.kept _ _
      · exact h₁.sound_sendAvc hsent env

theorem Begun.sound_avc420Software {plan : EncodePlan} (h : Begun p.client m plan)
    (hsent : ∀ f, p.sent = some f → p.client.Shows f) (env : EncodeEnv) :
    Sound p plan.frame (m.encodeAvc420Software plan env) := by
  rw [encodeAvc420Software]
  split
  · exact sound_failAvc hsent h.kept _ _
  · split
    · exact sound_failAvc hsent h.kept _ _
    · exact h.sound_sendAvc hsent env

theorem Begun.sound_avc420 {plan : EncodePlan} (h : Begun p.client m plan)
    (hsent : ∀ f, p.sent = some f → p.client.Shows f) (env : EncodeEnv) :
    Sound p plan.frame (m.encodeAvc420 plan env) := by
  rw [encodeAvc420]
  split
  · exact sound_failAvc hsent h.kept _ _
  · rename_i m₁ hprepare
    obtain ⟨hsame, hforce⟩ := encoderPrepare_spec hprepare
    have h₁ := h.of_sameDiff hsame hforce
    split
    · cases env.vaapiEncode with
      | encoded => exact h₁.sound_sendAvc hsent env
      | pending => exact sound_failAvc hsent h₁.kept _ _
      | failed => exact h₁.sound_avc420Software hsent env
    · exact h₁.sound_avc420Software hsent env

/-- The start of a non-AVC frame: nothing is dirty, or the compressor gets what
makes the surface show the frame. -/
theorem Begun.startNonAvc {plan : EncodePlan} (h : Begun client m plan) (now : ℤ)
    {start : Option (SurfaceUpdate × Bool)} (hstart : m.startNonAvc plan now = (m', start)) :
    Begun client m' plan ∧ ∀ update keyframe, start = some (update, keyframe) →
      (client.apply plan.frame update).Shows plan.frame := by
  rw [EncodingManager.startNonAvc] at hstart
  split at hstart
  · rw [Prod.mk.injEq] at hstart
    obtain ⟨rfl, rfl⟩ := hstart
    refine ⟨h.wipeTileHashes, ?_⟩
    intro update keyframe heq
    rw [Option.some.injEq, Prod.mk.injEq] at heq
    rw [← heq.1]
    exact Surface.shows_whole ..
  -- no keyframe: the flag was not set, so the client shows the previous frame
  · rename_i hkeyframe
    have hforce : m.gfxForceKeyframe = false := by
      simp only [keyframeEncode, Bool.or_eq_true, not_or, Bool.not_eq_true] at hkeyframe
      exact hkeyframe.1.1
    split at hstart
    · rw [Prod.mk.injEq] at hstart
      obtain ⟨rfl, rfl⟩ := hstart
      exact ⟨h, by simp⟩
    · rename_i r rs hrs
      rw [Prod.mk.injEq] at hstart
      obtain ⟨rfl, rfl⟩ := hstart
      refine ⟨h, ?_⟩
      intro update keyframe heq
      rw [Option.some.injEq, Prod.mk.injEq] at heq
      rw [← heq.1]
      exact h.shows_rects hforce hrs

theorem Begun.sound_progressive {plan : EncodePlan} (h : Begun p.client m plan)
    (hsent : ∀ f, p.sent = some f → p.client.Shows f) (env : EncodeEnv) :
    Sound p plan.frame (m.encodeProgressive plan env) := by
  rw [encodeProgressive]
  split
  · exact sound_failNonAvc hsent h.kept _ _
  · rename_i m₁ hprepare
    obtain ⟨hsame, hforce⟩ := encoderPrepare_spec hprepare
    have h₁ := h.of_sameDiff hsame hforce
    split
    · rename_i m₂ hstart
      exact sound_failNonAvc hsent (h₁.startNonAvc _ hstart).1.kept _ _
    · rename_i m₂ update keyframe hstart
      obtain ⟨h₂, hupdate⟩ := h₁.startNonAvc _ hstart
      split
      · exact sound_failNonAvc hsent h₂.kept _ _
      · split
        · exact sound_of_unsent hsent rfl h₂.kept
        · exact h₂.sound_sendNonAvc hsent env (hupdate update keyframe rfl) keyframe

theorem Begun.sound_remotefx {plan : EncodePlan} {outcome : GfxEncodeOutcome}
    (h : Begun p.client m plan) (hsent : ∀ f, p.sent = some f → p.client.Shows f)
    {env : EncodeEnv} (ho : m.encodeRemotefx plan env = some outcome) :
    Sound p plan.frame outcome := by
  rw [encodeRemotefx] at ho
  split at ho
  · rw [Option.some.injEq] at ho
    exact ho ▸ sound_failNonAvc hsent h.kept _ _
  · rename_i m₁ hprepare
    obtain ⟨hsame, hforce⟩ := encoderPrepare_spec hprepare
    -- the preparation leaves the diff as it is
    have h₁ := h.of_sameDiff hsame hforce
    split at ho
    · rename_i m₂ hstart
      rw [Option.some.injEq] at ho
      exact ho ▸ sound_failNonAvc hsent (h₁.startNonAvc _ hstart).1.kept _ _
    · rename_i m₂ update keyframe hstart
      obtain ⟨h₂, hupdate⟩ := h₁.startNonAvc _ hstart
      split at ho
      · simp at ho
      · split at ho
        · rw [Option.some.injEq] at ho
          exact ho ▸ sound_failNonAvc hsent h₂.kept _ _
        · split at ho
          · rw [Option.some.injEq] at ho
            -- compressed to nothing: the client keeps its picture
            exact ho ▸ sound_of_unsent hsent rfl h₂.kept
          · rw [Option.some.injEq] at ho
            exact ho ▸ h₂.sound_sendNonAvc hsent env (hupdate update keyframe rfl) keyframe

theorem Begun.sound {plan : EncodePlan} {outcome : GfxEncodeOutcome} (h : Begun p.client m plan)
    (hsent : ∀ f, p.sent = some f → p.client.Shows f) {env : EncodeEnv}
    (ho : m.encodeWith plan env = some outcome) : Sound p plan.frame outcome := by
  rw [encodeWith] at ho
  split at ho
  · exact Option.some.inj ho ▸ h.sound_avc444 hsent env
  · exact Option.some.inj ho ▸ h.sound_avc420 hsent env
  · exact Option.some.inj ho ▸ h.sound_progressive hsent env
  · exact h.sound_remotefx hsent ho
  · exact Option.some.inj ho ▸ sound_of_unsent hsent rfl h.kept

theorem sound_encodeSurfaceGfx {settings : GfxSettings} {autoSwitch : Bool} {env : EncodeEnv}
    {outcome : GfxEncodeOutcome} (hsent : ∀ f, p.sent = some f → p.client.Shows f)
    (hk : Kept p.client m) (hw : f.WellFormed) (hapart : TilesApart m f)
    (ho : m.encodeSurfaceGfx settings f autoSwitch env = some outcome) : Sound p f outcome := by
  rw [encodeSurfaceGfx] at ho
  split at ho
  · rw [Option.some.injEq] at ho
    exact ho ▸ sound_of_unsent hsent rfl hk
  · exact (beginEncode_begun hk hw hapart settings autoSwitch env.vaapiPrepare).sound hsent ho

/-- The cached frame is sent as a keyframe, so no tiles are compared. -/
theorem sound_encodeCachedFrameGfx {settings : GfxSettings} {autoSwitch : Bool} {env : EncodeEnv}
    {outcome : GfxEncodeOutcome} (h : p.Exact)
    (ho : p.manager.encodeCachedFrameGfx settings autoSwitch env = some outcome) :
    Sound p p.manager.cachedFrame outcome := by
  rw [encodeCachedFrameGfx] at ho
  split at ho
  · rw [Option.some.injEq] at ho
    exact ho ▸ sound_of_unsent h.sent rfl h.kept
  · split at ho
    · rw [Option.some.injEq] at ho
      exact ho ▸ sound_of_unsent h.sent rfl h.kept
    · rename_i hcached
      have hw := h.kept.diff.cached fun hzero => hcached (.inr (.inl hzero))
      refine sound_encodeSurfaceGfx h.sent h.kept.forceKeyframe hw (fun hcompares => ?_) ho
      have := hcompares.notForced
      simp [EncodingManager.forceKeyframe] at this

theorem diffCoherent_fresh (hwAccel : Bool) : DiffCoherent { h264HwAccel := hwAccel } where
  tilesX := by
    show 0 = count 64 0
    decide
  tilesY := by
    show 0 = count 64 0
    decide
  cached := fun h => absurd rfl h
  hashes := fun _ _ => .inl rfl

theorem Kept.reset (h : Kept client m) : Kept client m.reset := by
  rw [EncodingManager.reset]
  split
  · exact h
  · exact ⟨diffCoherent_fresh m.h264HwAccel, by simp⟩

theorem Kept.prepare (h : Kept client m) (options : EncodingOptions) :
    Kept client (m.prepare options).1 := by
  rw [EncodingManager.prepare]
  split
  · exact h
  · split
    · exact h.reset
    · have hkept : Kept client (if m.ready = true ∧ (m.frameWidth ≠ options.width ∨
          m.frameHeight ≠ options.height) then m.reset else m) := by
        split
        · exact h.reset
        · exact h
      refine ⟨hkept.diff.of_sameDiff ?_, by simp⟩
      constructor <;> rfl

/-- The tile contents that meet in a step have hashes that tell them apart. -/
def HashesApart (p : Picture) : PictureEvent → Prop
  | .encodeSurfaceGfx _ input _ _ => TilesApart p.manager input.1
  | _ => True

instance decidableHashesApart (p : Picture) : DecidablePred p.HashesApart
  | .encodeSurfaceGfx _ input _ _ => inferInstanceAs (Decidable (TilesApart p.manager input.1))
  | .prepare .. | .reset | .forceKeyframe | .encodeCachedFrameGfx .. => instDecidableTrue

theorem Exact.step {e : PictureEvent} (h : p.Exact) (hapart : p.HashesApart e)
    (he : p.step e = some p') : p'.Exact := by
  cases e with
  | prepare options => exact Option.some.inj he ▸ ⟨h.kept.prepare options, h.sent⟩
  | reset => exact Option.some.inj he ▸ ⟨h.kept.reset, h.sent⟩
  | forceKeyframe => exact Option.some.inj he ▸ ⟨h.kept.forceKeyframe, h.sent⟩
  | encodeSurfaceGfx settings input autoSwitch env =>
    obtain ⟨outcome, ho, rfl⟩ := Option.map_eq_some_iff.mp he
    exact sound_encodeSurfaceGfx h.sent h.kept input.2 hapart ho
  | encodeCachedFrameGfx settings autoSwitch env =>
    obtain ⟨outcome, ho, rfl⟩ := Option.map_eq_some_iff.mp he
    exact sound_encodeCachedFrameGfx h ho

theorem exact_inductive : pictureMachine.Inductive HashesApart Exact where
  init := by
    rintro p ⟨hmanager, hsent⟩
    refine ⟨?_, by simp [hsent]⟩
    rw [hmanager]
    exact ⟨diffCoherent_fresh false, by simp⟩
  step := fun _ _ _ h hapart he => h.step hapart he

end Picture

/-- In every run whose compared tile contents have hashes that tell them apart, the
client shows the input of the last SurfaceFrameCommand that succeeded. -/
theorem client_picture_exact {p : Picture} (hp : pictureMachine.ReachableIf Picture.HashesApart p)
    {f : Frame} (hsent : p.sent = some f) : p.client.Shows f :=
  (Picture.exact_inductive.holds hp).sent f hsent

namespace Picture

/-- A client that has shown nothing. -/
def blank : Picture := { client := { width := 0, height := 0, pixel := fun _ _ => [] } }

theorem blank_init : pictureMachine.init blank := ⟨rfl, rfl⟩

/-- A keyframe and then an incremental frame. -/
def keyframeThenIncremental : List PictureEvent :=
  [.prepare { width := 1, height := 1 },
    .encodeSurfaceGfx { gfxProgressive := true } (onePixel 1) false {},
    .encodeSurfaceGfx { gfxProgressive := true } (onePixel 2) false {}]

end Picture

theorem client_picture_exact_incremental :
    ((pictureMachine.run Picture.blank Picture.keyframeThenIncremental).get
      (by decide)).client.Shows (onePixel 2).1 :=
  client_picture_exact
    (.run_get Picture.blank_init Picture.keyframeThenIncremental (by decide) (by decide)) (by decide)

end RemoteDesktop.DRD
