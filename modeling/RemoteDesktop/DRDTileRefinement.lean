import RemoteDesktop.DRDTilePasses

/-! The tile diff on the integers of the C code does what the diff of the encoding manager does on
numbers, frame after frame. -/
namespace RemoteDesktop.DRD

open TileGrid CounterLoop

/-- The state on machine integers and the manager that it stands for. -/
structure GfxDiff.Refines (d : GfxDiff) (m : EncodingManager) : Prop where
  width : d.gfxDiffWidth.toNat = m.gfxDiffWidth
  height : d.gfxDiffHeight.toNat = m.gfxDiffHeight
  stride : d.gfxDiffStride.toNat = m.gfxDiffStride
  tilesX : d.gfxTilesX.toNat = m.gfxTilesX
  tilesY : d.gfxTilesY.toNat = m.gfxTilesY
  previousFrame : d.gfxPreviousFrame = m.gfxPreviousFrame
  hashes : ∀ i < (d.gfxTilesX * d.gfxTilesY).toNat,
    d.gfxTileHashes[i]? = some (m.gfxTileHashes i)
  forceKeyframe : d.gfxForceKeyframe = m.gfxForceKeyframe
  progressiveRfxFrames : d.gfxProgressiveRfxFrames = m.gfxProgressiveRfxFrames

/-- What a frame that was sent leaves behind. -/
def GfxDiff.remember (d : GfxDiff) (f : Frame) : Option GfxDiff :=
  let stride := UInt32.ofNat f.stride
  let height := UInt32.ofNat f.height
  let d := d.prepareGfxDiffState (UInt32.ofNat f.width) height stride
  (d.storePreviousFrame f.data stride height).bind fun d =>
    (d.updateTileHashes f.data stride).map Prod.snd

section Arrays

variable {α : Type} {n : ℕ} {place : Rect → ℕ} {value value' : Rect → α}

/-- Writing an array tile by tile, entry by entry. -/
theorem getElem?_foldl_set (rs : List Rect) (hvalue : ∀ r ∈ rs, value r = value' r)
    {a : Vector α n} {b : ℕ → α} (h : ∀ i < n, a[i]? = some (b i)) :
    ∀ i < n, (rs.foldl (fun a r => a.setIfInBounds (place r) (value r)) a)[i]? =
      some (fill place value' b rs i) := by
  induction rs generalizing a b with
  | nil => exact h
  | cons r rs ih =>
    rw [List.foldl_cons, fill, List.foldl_cons, ← fill, hvalue r List.mem_cons_self]
    apply ih fun r' hr' => hvalue r' (List.mem_cons_of_mem _ hr')
    intro i hi
    rw [Vector.getElem?_setIfInBounds]
    by_cases hplace : place r = i
    · subst hplace
      rw [if_pos rfl, if_pos hi, Function.update_self]
    · rw [if_neg hplace, h i hi, Function.update_of_ne (Ne.symm hplace)]

theorem getElem?_replicate_const (v : α) : ∀ i < n, (Vector.replicate n v)[i]? = some v := by
  intro i hi
  rw [Vector.getElem?_eq_getElem hi, Vector.getElem_replicate]

end Arrays

section Refinement

variable {d : GfxDiff} {m : EncodingManager} {f : Frame} {r : Rect}

theorem empty_refines : GfxDiff.empty.Refines {} where
  width := rfl
  height := rfl
  stride := rfl
  tilesX := rfl
  tilesY := rfl
  previousFrame := rfl
  hashes := getElem?_replicate_const 0
  forceKeyframe := rfl
  progressiveRfxFrames := rfl

/-- The size of a frame in bytes, as a `gsize`. -/
theorem toNat_size (hf : f.WellFormed) :
    ((UInt32.ofNat f.stride).toUInt64 * (UInt32.ofNat f.height).toUInt64).toNat =
      f.stride * f.height := by
  have hsize := hf.size
  rw [UInt64.toNat_mul, UInt32.toNat_toUInt64, UInt32.toNat_toUInt64, toNat_stride hf,
    toNat_small hf.height_le, Nat.mod_eq_of_lt (by omega)]

theorem toNat_ne {a : UInt32} {n k : ℕ} (ha : a.toNat = n) (hk : k < 2 ^ 32) :
    a ≠ UInt32.ofNat k ↔ n ≠ k := by
  rw [ne_eq, ne_eq, ← UInt32.toNat_inj, ha, UInt32.toNat_ofNat', Nat.mod_eq_of_lt hk]

/-- Both take the state for that of the frame, or both build it anew. -/
theorem GfxDiff.Refines.prepareGfxDiffState (h : d.Refines m) (hf : f.WellFormed) :
    (d.prepareGfxDiffState (UInt32.ofNat f.width) (UInt32.ofNat f.height)
      (UInt32.ofNat f.stride)).Refines (m.prepareGfxDiffState f.width f.height f.stride) := by
  have hwidth := hf.width_le
  have hheight := hf.height_le
  have hx := count_le hf.width_le
  have hy := count_le hf.height_le
  -- the comparisons of the two come out the same
  have hsame : (¬ (d.gfxDiffWidth ≠ UInt32.ofNat f.width ∨ d.gfxDiffHeight ≠ UInt32.ofNat f.height ∨
      d.gfxDiffStride ≠ UInt32.ofNat f.stride) ∧
      ¬ (d.gfxTilesX ≠ UInt32.ofNat (count 64 f.width) ∨
        d.gfxTilesY ≠ UInt32.ofNat (count 64 f.height)) ∧
      d.gfxPreviousFrame.length = f.stride * f.height) ↔
      ¬ (m.gfxDiffWidth ≠ f.width ∨ m.gfxDiffHeight ≠ f.height ∨ m.gfxDiffStride ≠ f.stride) ∧
      ¬ (m.gfxTilesX ≠ count 64 f.width ∨ m.gfxTilesY ≠ count 64 f.height) ∧
      m.gfxPreviousFrame.length = f.stride * f.height := by
    rw [toNat_ne h.width (by omega), toNat_ne h.height (by omega), toNat_ne h.stride hf.stride_lt,
      toNat_ne h.tilesX (by omega), toNat_ne h.tilesY (by omega), h.previousFrame]
  have hcountX : (f.width + 63) / 64 = count 64 f.width := rfl
  have hcountY : (f.height + 63) / 64 = count 64 f.height := rfl
  rw [GfxDiff.prepareGfxDiffState, EncodingManager.prepareGfxDiffState, guint_count hwidth,
    guint_count hheight, toNat_size hf, hcountX, hcountY]
  by_cases hkept : ¬ (m.gfxDiffWidth ≠ f.width ∨ m.gfxDiffHeight ≠ f.height ∨
      m.gfxDiffStride ≠ f.stride) ∧
      ¬ (m.gfxTilesX ≠ count 64 f.width ∨ m.gfxTilesY ≠ count 64 f.height) ∧
      m.gfxPreviousFrame.length = f.stride * f.height
  · rw [if_pos hkept, if_pos (hsame.mpr hkept)]
    exact h
  · rw [if_neg hkept, if_neg (mt hsame.mp hkept)]
    exact ⟨toNat_small hwidth, toNat_small hheight, toNat_stride hf, toNat_small (by omega),
      toNat_small (by omega), rfl, getElem?_replicate_const 0, rfl, rfl⟩

theorem GfxDiff.Refines.storePreviousFrame (h : d.Refines m) (hd : d.FitsFrame f)
    (hf : f.WellFormed) :
    ∃ d', d.storePreviousFrame f.data (UInt32.ofNat f.stride) (UInt32.ofNat f.height) = some d' ∧
      d'.Refines (m.storePreviousFrame f.data f.stride f.height) ∧ d'.FitsFrame f := by
  have hread : readBytes f.data 0 (f.stride * f.height) =
      some (f.data.take (f.stride * f.height)) := by
    rw [readBytes_eq (by rw [Nat.zero_add, hf.length])]
    rfl
  rw [GfxDiff.storePreviousFrame, toNat_size hf, hread]
  exact ⟨_, rfl, { h with previousFrame := rfl }, { hd with }⟩

/-- Both have the tiles of the frame, at the same places. -/
theorem GfxDiff.Refines.sameTiles (h : d.Refines m) (hd : d.FitsFrame f) (hf : f.WellFormed) :
    m.diffTiles = tiles 64 f.width f.height ∧ m.tileIndex = placeOf f ∧
      ¬ (m.gfxTilesX = 0 ∨ m.gfxTilesY = 0 ∨ m.gfxDiffWidth = 0 ∨ m.gfxDiffHeight = 0) ∧
      (d.gfxTilesX * d.gfxTilesY).toNat = m.gfxTilesX * m.gfxTilesY := by
  have hwidth : m.gfxDiffWidth = f.width := by
    rw [← h.width, hd.width, toNat_small hf.width_le]
  have hheight : m.gfxDiffHeight = f.height := by
    rw [← h.height, hd.height, toNat_small hf.height_le]
  have htilesX : m.gfxTilesX = count 64 f.width := by
    rw [← h.tilesX, hd.tilesX, toNat_small ((count_le hf.width_le).trans (by omega))]
  have htilesY : m.gfxTilesY = count 64 f.height := by
    rw [← h.tilesY, hd.tilesY, toNat_small ((count_le hf.height_le).trans (by omega))]
  refine ⟨?_, ?_, ?_, ?_⟩
  · rw [EncodingManager.diffTiles, hwidth, hheight]
  · funext r
    rw [EncodingManager.tileIndex, htilesX]
    rfl
  · have hx := count_pos hf.width_pos
    have hy := count_pos hf.height_pos
    have hw := hf.width_pos
    have hh := hf.height_pos
    omega
  · rw [hd.total hf, htilesX, htilesY]

theorem GfxDiff.Refines.updateTileHashes (h : d.Refines m) (hd : d.FitsFrame f)
    (hf : f.WellFormed) :
    ∃ d', d.updateTileHashes f.data (UInt32.ofNat f.stride) = some (rounds f, d') ∧
      d'.Refines (m.updateTileHashes f.data f.stride) := by
  obtain ⟨htiles, hplace, hnotEmpty, -⟩ := h.sameTiles hd hf
  have hsome : ¬ (m.gfxTilesX = 0 ∨ m.gfxTilesY = 0) := by omega
  refine ⟨_, hd.updateTileHashes_eq hf hf.length.ge, ?_⟩
  rw [EncodingManager.updateTileHashes, if_neg hsome, htiles, hplace]
  exact { h with hashes := getElem?_foldl_set _ (fun _ _ => rfl) h.hashes }

/-- One frame after another: no pass fails, and the state goes on standing for the manager. -/
theorem GfxDiff.Refines.remember (h : d.Refines m) (hf : f.WellFormed) :
    ∃ d', d.remember f = some d' ∧ d'.Refines (m.remember f) := by
  have hprepared := h.prepareGfxDiffState hf
  -- prepared, then the bytes, then their hashes
  obtain ⟨d₁, hstored, hd₁, hfits⟩ :=
    hprepared.storePreviousFrame (prepareGfxDiffState_fits d hf) hf
  obtain ⟨d₂, hupdated, hd₂⟩ := hd₁.updateTileHashes hfits hf
  refine ⟨d₂, ?_, hd₂⟩
  rw [GfxDiff.remember, hstored, Option.bind_some, hupdated]
  rfl

/-- A tile gets the flag that the manager gives it. -/
theorem GfxDiff.Refines.flagOf (h : d.Refines m) (hd : d.FitsFrame f) (hf : f.WellFormed)
    (previous : Option (List UInt8)) (hr : r ∈ tiles 64 f.width f.height) :
    d.flagOf f f.data previous r = m.tileDiffers f.data previous f.stride r := by
  obtain ⟨-, hplace, -, -⟩ := h.sameTiles hd hf
  have hstored : d.gfxTileHashes[placeOf f r]? = some (m.gfxTileHashes (m.tileIndex r)) := by
    rw [hplace]
    exact h.hashes _ (hd.placeOf_lt hf hr)
  cases previous with
  | none => rfl
  | some previous =>
    rw [GfxDiff.flagOf, EncodingManager.tileDiffers, hstored, Option.getD_some]

/-- The flags, how many are set and whether that is much. -/
theorem GfxDiff.Refines.analyzeTiles (h : d.Refines m) (hd : d.FitsFrame f) (hf : f.WellFormed)
    {previous : Option (List UInt8)} (hprevious : ∀ p ∈ previous, f.stride * f.height ≤ p.length)
    (dirtyFlags : Array Bool) :
    ∃ analysis, d.analyzeTiles f.data previous (UInt32.ofNat f.stride) m.gfxLargeChangeThreshold
        dirtyFlags = some (rounds f, analysis) ∧
      analysis.dirtyFlags.size = (d.gfxTilesX * d.gfxTilesY).toNat ∧
      (∀ i < (d.gfxTilesX * d.gfxTilesY).toNat,
        analysis.dirtyFlags[i]? = some ((m.analyzeTiles f.data previous f.stride).1 i)) ∧
      analysis.changedTiles.toNat = (m.analyzeTilesLoop f.data previous f.stride).2 ∧
      analysis.largeChange = (m.analyzeTiles f.data previous f.stride).2 := by
  obtain ⟨htiles, hplace, hnotEmpty, htotal⟩ := h.sameTiles hd hf
  have hcount : (tiles 64 f.width f.height).countP (d.flagOf f f.data previous) =
      m.diffTiles.countP (m.tileDiffers f.data previous f.stride) := by
    rw [htiles]
    apply List.countP_congr
    intro r hr
    rw [h.flagOf hd hf previous hr]
  have hchanged := countP_toNat hf (d.flagOf f f.data previous)
  refine ⟨_, hd.analyzeTiles_eq hf hf.length.ge hprevious _ _, Vector.size_toArray _, ?_, ?_, ?_⟩
  · rw [EncodingManager.analyzeTiles, if_neg hnotEmpty, htiles, hplace]
    intro i hi
    rw [Vector.getElem?_toArray]
    exact getElem?_foldl_set _ (fun r hr => h.flagOf hd hf previous hr)
      (getElem?_replicate_const false) i hi
  · rw [analyzeTilesLoop_count hnotEmpty, ← hcount]
    exact hchanged
  · rw [EncodingManager.analyzeTiles, if_neg hnotEmpty, ← hcount, ← htotal, hd.total hf]

/-- The rectangles are those of the tiles that the manager takes for dirty. -/
theorem GfxDiff.Refines.collectDirtyTiles (h : d.Refines m) (hd : d.FitsFrame f)
    (hf : f.WellFormed) {flags : Array Bool} {dirty : ℕ → Bool}
    (hsize : flags.size = (d.gfxTilesX * d.gfxTilesY).toNat)
    (hflags : ∀ i < (d.gfxTilesX * d.gfxTilesY).toNat, flags[i]? = some (dirty i))
    (region : Option (List Rectangle16)) (rects : Option (List RfxRect)) :
    let dirtyRounds := (m.collectDirtyTiles dirty).map (roundOf f.width)
    d.collectDirtyTiles flags region rects = some (rounds f,
      { rects := rects.map (· ++ dirtyRounds.map TileRound.rfxRect)
        region := region.map (· ++ dirtyRounds.map TileRound.rectangle16)
        hasDirty := !dirtyRounds.isEmpty }) := by
  intro dirtyRounds
  obtain ⟨htiles, hplace, hnotEmpty, -⟩ := h.sameTiles hd hf
  have hsome : ¬ (m.gfxTilesX = 0 ∨ m.gfxTilesY = 0) := by omega
  -- the array and the function say the same of each tile
  have hrounds : ((rounds f).filter fun t => flags[t.index.toNat]?.getD false) = dirtyRounds := by
    show _ = (m.collectDirtyTiles dirty).map (roundOf f.width)
    rw [rounds, List.filter_map, EncodingManager.collectDirtyTiles, if_neg hsome, htiles, hplace]
    congr 1
    apply List.filter_congr
    intro r hr
    rw [Function.comp_apply, (roundOf_toNat hf hr).2, ← placeOf, hflags _ (hd.placeOf_lt hf hr),
      Option.getD_some]
  rw [← hrounds]
  exact hd.collectDirtyTiles_eq hf hsize region rects

/-- Whatever frames were sent, no pass over them failed, and the state stands for the manager. -/
theorem GfxDiff.Refines.rememberAll {fs : List Frame} (hfs : ∀ f ∈ fs, f.WellFormed)
    (h : d.Refines m) :
    ∃ d', fs.foldlM GfxDiff.remember d = some d' ∧
      d'.Refines (fs.foldl EncodingManager.remember m) := by
  apply foldlM_follows (R := GfxDiff.Refines) ?_ h
  intro f hf d m h
  exact h.remember (hfs f hf)

theorem length_prepared (hf : f.WellFormed) :
    (d.prepareGfxDiffState (UInt32.ofNat f.width) (UInt32.ofNat f.height)
      (UInt32.ofNat f.stride)).gfxPreviousFrame.length = f.stride * f.height := by
  rw [GfxDiff.prepareGfxDiffState, toNat_size hf]
  split
  · rename_i hsame
    exact hsame.2.2
  · exact List.length_replicate

/-- After any frames, the diff of the next one on machine integers is the diff of the manager: it
says as much of the change, and sends the same tiles. -/
theorem diff_refines {fs : List Frame} (hfs : ∀ f ∈ fs, f.WellFormed) (hf : f.WellFormed)
    (dirtyFlags : Array Bool) (region : Option (List Rectangle16)) (rects : Option (List RfxRect)) :
    let m := (fs.foldl EncodingManager.remember {}).prepareGfxDiffState f.width f.height f.stride
    let diff := m.analyzeTiles f.data (some m.gfxPreviousFrame) f.stride
    let dirty := (m.collectDirtyTiles diff.1).map (roundOf f.width)
    ∃ d₀, fs.foldlM GfxDiff.remember GfxDiff.empty = some d₀ ∧
      let d := d₀.prepareGfxDiffState (UInt32.ofNat f.width) (UInt32.ofNat f.height)
        (UInt32.ofNat f.stride)
      ∃ analysis, d.analyzeTiles f.data (some d.gfxPreviousFrame) (UInt32.ofNat f.stride)
          m.gfxLargeChangeThreshold dirtyFlags = some (rounds f, analysis) ∧
        analysis.largeChange = diff.2 ∧
        d.collectDirtyTiles analysis.dirtyFlags region rects = some (rounds f,
          { rects := rects.map (· ++ dirty.map TileRound.rfxRect)
            region := region.map (· ++ dirty.map TileRound.rectangle16)
            hasDirty := !dirty.isEmpty }) := by
  intro m diff dirty
  obtain ⟨d₀, hrun, hd₀⟩ := empty_refines.rememberAll hfs
  refine ⟨d₀, hrun, ?_⟩
  intro d
  have hd : d.FitsFrame f := prepareGfxDiffState_fits d₀ hf
  have hm : d.Refines m := hd₀.prepareGfxDiffState hf
  have hprevious : ∀ p ∈ some d.gfxPreviousFrame, f.stride * f.height ≤ p.length := by
    intro p hp
    rw [← Option.some.inj hp]
    exact (length_prepared hf).ge
  obtain ⟨analysis, hanalyzed, hsize, hflags, -, hlarge⟩ :=
    hm.analyzeTiles hd hf hprevious dirtyFlags
  rw [hm.previousFrame] at hflags hlarge
  exact ⟨analysis, hanalyzed, hlarge, hm.collectDirtyTiles hd hf hsize hflags region rects⟩

end Refinement
end RemoteDesktop.DRD
