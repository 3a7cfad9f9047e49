import RemoteDesktop.DRDTileRefinement

/-! The tiles of the three passes of `drd_encoding_manager.c` over a frame: one partition of it,
exact in the widths of the C code, and what `collect_dirty_tiles` makes of it. -/
namespace RemoteDesktop.DRD

open TileGrid

/-- The rounds of a pass are the tiles of the frame, and no number of theirs is cut off. -/
structure ExactPartition (f : Frame) (tilesX tilesY : ℕ) (ts : List TileRound) : Prop where
  disjoint : ts.Pairwise fun t t' => ∀ x y, ¬ (t.rect.Contains x y ∧ t'.rect.Contains x y)
  covers : ∀ x y, (∃ t ∈ ts, t.rect.Contains x y) ↔ x < f.width ∧ y < f.height
  /-- each of the numbers below `tilesX * tilesY` once -/
  places : ts.map (fun t => t.index.toNat) = List.range (tilesX * tilesY)
  offsets : ∀ t ∈ ts, ∀ row < t.tileH,
    let hashed := hashOffset (UInt32.ofNat f.stride) t.x t.y row
    let compared := memcmpOffset (UInt32.ofNat f.stride) t.x t.y row
    hashed.toNat = (t.rect.y + row.toNat) * f.stride + t.rect.x * 4 ∧
      compared.toNat = hashed.toNat ∧
      hashed.toNat + (t.tileW * 4).toNat ≤ f.stride * f.height
  rfxRects : ∀ t ∈ ts, t.rfxRect.x.toNat = t.rect.x ∧ t.rfxRect.y.toNat = t.rect.y ∧
    t.rfxRect.width.toNat = t.rect.width ∧ t.rfxRect.height.toNat = t.rect.height
  rectangles16 : ∀ t ∈ ts, t.rectangle16.left.toNat = t.rect.x ∧
    t.rectangle16.top.toNat = t.rect.y ∧
    t.rectangle16.right.toNat = t.rect.x + t.rect.width ∧
    t.rectangle16.bottom.toNat = t.rect.y + t.rect.height

/-- What `update_tile_hashes` has made of the state: each tile has the hash of its bytes at its
place. -/
structure HashesTiles (f : Frame) (ts : List TileRound) (d d' : GfxDiff) : Prop where
  hashes : ∃ hashes, d' = { d with gfxTileHashes := hashes } ∧
    ∀ t ∈ ts, hashes[t.index.toNat]? = some (gfxHashTile f.data f.stride t.rect)

/-- What `analyze_tiles` has found out: each tile has its flag at its place. Without a previous
frame all are set, and else those of the tiles whose hash and bytes are not the old ones. -/
structure FlagsTiles (d : GfxDiff) (f : Frame) (previous : Option (List UInt8))
    (threshold : LargeChangeThreshold) (ts : List TileRound) (analysis : TileAnalysis) : Prop where
  size : analysis.dirtyFlags.size = (d.gfxTilesX * d.gfxTilesY).toNat
  flags : ∀ t ∈ ts, ∃ flag, analysis.dirtyFlags[t.index.toNat]? = some flag ∧
    (flag = true ↔ ∀ p ∈ previous,
      d.gfxTileHashes[t.index.toNat]? ≠ some (gfxHashTile f.data f.stride t.rect) ∧
        tileRows p f.stride t.rect ≠ tileRows f.data f.stride t.rect)
  changed : analysis.changedTiles.toNat =
    ts.countP fun t => analysis.dirtyFlags[t.index.toNat]? = some true
  large : analysis.largeChange = threshold analysis.changedTiles.toNat ts.length

/-- What `collect_dirty_tiles` gives is what was there and the rectangles of the dirty tiles. -/
structure EmitsDirty (ts : List TileRound) (flags : Array Bool) (region : Option (List Rectangle16))
    (rects : Option (List RfxRect)) (result : DirtyTiles) : Prop where
  rects : ∃ dirty, (∀ rect, rect ∈ dirty ↔
      ∃ t ∈ ts, flags[t.index.toNat]? = some true ∧ t.rfxRect = rect) ∧ dirty.Nodup ∧
    result.rects = rects.map (· ++ dirty)
  region : ∃ dirty, (∀ rect, rect ∈ dirty ↔
      ∃ t ∈ ts, flags[t.index.toNat]? = some true ∧ t.rectangle16 = rect) ∧ dirty.Nodup ∧
    result.region = region.map (· ++ dirty)
  hasDirty : result.hasDirty = true ↔ ∃ t ∈ ts, flags[t.index.toNat]? = some true

/-- The three passes go through one exact partition of the frame, without a read, a write or an
assertion that fails. The first hashes the tiles of it, the second compares them, and the last
emits those that are dirty. -/
def GfxDiff.TilesExactly (d : GfxDiff) (f : Frame) (previous : Option (List UInt8))
    (threshold : LargeChangeThreshold) (dirtyFlags : Array Bool) : Prop :=
  let stride := UInt32.ofNat f.stride
  ∃ ts, ExactPartition f d.gfxTilesX.toNat d.gfxTilesY.toNat ts ∧
    (∃ d', d.updateTileHashes f.data stride = some (ts, d') ∧ HashesTiles f ts d d') ∧
    (∃ analysis, d.analyzeTiles f.data previous stride threshold dirtyFlags = some (ts, analysis) ∧
      FlagsTiles d f previous threshold ts analysis) ∧
    ∀ flags : Array Bool, flags.size = (d.gfxTilesX * d.gfxTilesY).toNat → ∀ region rects,
      ∃ result, d.collectDirtyTiles flags region rects = some (ts, result) ∧
        EmitsDirty ts flags region rects result

section Partition

variable {f : Frame}

theorem mem_rounds {t : TileRound} :
    t ∈ rounds f ↔ ∃ r ∈ tiles 64 f.width f.height, roundOf f.width r = t :=
  List.mem_map

theorem rounds_nodup (hf : f.WellFormed) : (rounds f).Nodup := by
  refine (tiles_nodup (by omega)).map_on ?_
  intro r hr r' hr' heq
  have hrect := congrArg TileRound.rect heq
  rwa [(roundOf_toNat hf hr).1, (roundOf_toNat hf hr').1] at hrect

theorem rounds_disjoint (hf : f.WellFormed) : (rounds f).Pairwise fun t t' =>
    ∀ x y, ¬ (t.rect.Contains x y ∧ t'.rect.Contains x y) := by
  apply (rounds_nodup hf).pairwise_of_forall_ne
  intro t ht t' ht' hne x y hboth
  obtain ⟨r, hr, rfl⟩ := mem_rounds.mp ht
  obtain ⟨r', hr', rfl⟩ := mem_rounds.mp ht'
  rw [(roundOf_toNat hf hr).1, (roundOf_toNat hf hr').1] at hboth
  -- one point in both makes them the same tile
  apply hne
  rw [tile_unique (by omega) hr hr' hboth.1 hboth.2]

theorem rounds_cover (hf : f.WellFormed) (x y : ℕ) :
    (∃ t ∈ rounds f, t.rect.Contains x y) ↔ x < f.width ∧ y < f.height := by
  constructor
  · rintro ⟨t, ht, hin⟩
    obtain ⟨r, hr, rfl⟩ := mem_rounds.mp ht
    rw [(roundOf_toNat hf hr).1] at hin
    obtain ⟨hx, hy⟩ := tile_bounds (by omega) hr
    obtain ⟨-, hx', -, hy'⟩ := hin
    exact ⟨by omega, by omega⟩
  · rintro ⟨hx, hy⟩
    obtain ⟨r, hr, hin⟩ := exists_tile (k := 64) (by omega) hx hy
    refine ⟨roundOf f.width r, mem_rounds.mpr ⟨r, hr, rfl⟩, ?_⟩
    rwa [(roundOf_toNat hf hr).1]

theorem rounds_places (hf : f.WellFormed) : (rounds f).map (fun t => t.index.toNat) =
    List.range (count 64 f.width * count 64 f.height) := by
  rw [rounds, List.map_map, ← tiles_map_index (by omega)]
  apply List.map_congr_left
  intro r hr
  exact (roundOf_toNat hf hr).2

theorem toUInt16_toNat {n : ℕ} (h : n ≤ 65535) : (UInt32.ofNat n).toUInt16.toNat = n := by
  rw [UInt32.toNat_toUInt16, toNat_small h, Nat.mod_eq_of_lt (by omega)]

/-- Both offsets of a row are where the row starts, and it ends inside the frame. -/
theorem rounds_offsets (hf : f.WellFormed) : ∀ t ∈ rounds f, ∀ row < t.tileH,
    let hashed := hashOffset (UInt32.ofNat f.stride) t.x t.y row
    let compared := memcmpOffset (UInt32.ofNat f.stride) t.x t.y row
    hashed.toNat = (t.rect.y + row.toNat) * f.stride + t.rect.x * 4 ∧
      compared.toNat = hashed.toNat ∧
      hashed.toNat + (t.tileW * 4).toNat ≤ f.stride * f.height := by
  intro t ht row hrow
  obtain ⟨r, hr, rfl⟩ := mem_rounds.mp ht
  -- the row as a number below the height of the tile
  obtain ⟨n, hn, rfl⟩ : ∃ n < 2 ^ 32, UInt32.ofNat n = row :=
    ⟨row.toNat, row.toNat_lt, UInt32.ofNat_toNat⟩
  have htoNat : (UInt32.ofNat n).toNat = n := UInt32.toNat_ofNat_of_lt' hn
  obtain ⟨-, -, -, hh, -⟩ := tile_small hr
  have hrow : n < r.height := by
    have hlt := UInt32.lt_iff_toNat_lt.mp hrow
    rwa [htoNat, show (roundOf f.width r).tileH = UInt32.ofNat r.height from rfl,
      toNat_small (by omega)] at hlt
  have hinside := rowOffset_add_le hf hr hrow
  have hlength := toNat_rowLength hr
  rw [(roundOf_toNat hf hr).1, htoNat]
  simp only [roundOf]
  rw [hashOffset_toNat hf hr hrow, memcmpOffset_toNat hf hr hrow, hlength]
  exact ⟨rfl, rfl, hinside⟩

theorem rounds_rfxRects (hf : f.WellFormed) : ∀ t ∈ rounds f,
    t.rfxRect.x.toNat = t.rect.x ∧ t.rfxRect.y.toNat = t.rect.y ∧
      t.rfxRect.width.toNat = t.rect.width ∧ t.rfxRect.height.toNat = t.rect.height := by
  intro t ht
  obtain ⟨r, hr, rfl⟩ := mem_rounds.mp ht
  obtain ⟨hx, hy, hw, hh, -, -⟩ := tile_small hr
  have hwidth := hf.width_le
  have hheight := hf.height_le
  rw [(roundOf_toNat hf hr).1]
  exact ⟨toUInt16_toNat (by omega), toUInt16_toNat (by omega), toUInt16_toNat (by omega),
    toUInt16_toNat (by omega)⟩

theorem rounds_rectangles16 (hf : f.WellFormed) : ∀ t ∈ rounds f,
    t.rectangle16.left.toNat = t.rect.x ∧ t.rectangle16.top.toNat = t.rect.y ∧
      t.rectangle16.right.toNat = t.rect.x + t.rect.width ∧
      t.rectangle16.bottom.toNat = t.rect.y + t.rect.height := by
  intro t ht
  obtain ⟨r, hr, rfl⟩ := mem_rounds.mp ht
  obtain ⟨hx, hy⟩ := tile_bounds (by omega) hr
  obtain ⟨hright, hbottom⟩ := toNat_end hf hr
  have hwidth := hf.width_le
  have hheight := hf.height_le
  rw [(roundOf_toNat hf hr).1]
  refine ⟨toUInt16_toNat (by omega), toUInt16_toNat (by omega), ?_, ?_⟩
  -- the right and the lower end are added up before they are cut to 16 bits
  · show (UInt32.ofNat r.x + UInt32.ofNat r.width).toUInt16.toNat = r.x + r.width
    rw [UInt32.toNat_toUInt16, hright, Nat.mod_eq_of_lt (by omega)]
  · show (UInt32.ofNat r.y + UInt32.ofNat r.height).toUInt16.toNat = r.y + r.height
    rw [UInt32.toNat_toUInt16, hbottom, Nat.mod_eq_of_lt (by omega)]

theorem rounds_exact (hf : f.WellFormed) :
    ExactPartition f (count 64 f.width) (count 64 f.height) (rounds f) where
  disjoint := rounds_disjoint hf
  covers := rounds_cover hf
  places := rounds_places hf
  offsets := rounds_offsets hf
  rfxRects := rounds_rfxRects hf
  rectangles16 := rounds_rectangles16 hf

/-- Rectangles that tell their tiles apart come once each. -/
theorem nodup_emitted {α : Type} {rect : TileRound → α} (hf : f.WellFormed) (flag : TileRound → Bool)
    (hrect : ∀ t ∈ rounds f, ∀ t' ∈ rounds f, rect t = rect t' → t.rect = t'.rect) :
    (((rounds f).filter flag).map rect).Nodup := by
  have hfiltered : ((rounds f).filter flag).Nodup := (rounds_nodup hf).filter flag
  refine hfiltered.map_on ?_
  intro t ht t' ht' heq
  have hmem := List.mem_of_mem_filter ht
  have hmem' := List.mem_of_mem_filter ht'
  have hsame := hrect t hmem t' hmem' heq
  obtain ⟨r, hr, rfl⟩ := mem_rounds.mp hmem
  obtain ⟨r', hr', rfl⟩ := mem_rounds.mp hmem'
  rw [(roundOf_toNat hf hr).1, (roundOf_toNat hf hr').1] at hsame
  rw [hsame]

theorem rect_eq_of_rfxRect (hf : f.WellFormed) {t t' : TileRound} (ht : t ∈ rounds f)
    (ht' : t' ∈ rounds f) (heq : t.rfxRect = t'.rfxRect) : t.rect = t'.rect := by
  obtain ⟨hx, hy, hw, hh⟩ := rounds_rfxRects hf t ht
  obtain ⟨hx', hy', hw', hh'⟩ := rounds_rfxRects hf t' ht'
  rw [heq] at hx hy hw hh
  have hrect : t.rect = ⟨t.rect.x, t.rect.y, t.rect.width, t.rect.height⟩ := rfl
  have hrect' : t'.rect = ⟨t'.rect.x, t'.rect.y, t'.rect.width, t'.rect.height⟩ := rfl
  rw [hrect, hrect', ← hx, ← hy, ← hw, ← hh, ← hx', ← hy', ← hw', ← hh']

theorem rect_eq_of_rectangle16 (hf : f.WellFormed) {t t' : TileRound} (ht : t ∈ rounds f)
    (ht' : t' ∈ rounds f) (heq : t.rectangle16 = t'.rectangle16) : t.rect = t'.rect := by
  obtain ⟨hx, hy, hright, hbottom⟩ := rounds_rectangles16 hf t ht
  obtain ⟨hx', hy', hright', hbottom'⟩ := rounds_rectangles16 hf t' ht'
  rw [heq] at hx hy hright hbottom
  have hxs : t.rect.x = t'.rect.x := hx.symm.trans hx'
  have hys : t.rect.y = t'.rect.y := hy.symm.trans hy'
  have hws : t.rect.width = t'.rect.width := by omega
  have hhs : t.rect.height = t'.rect.height := by omega
  have hrect : t.rect = ⟨t.rect.x, t.rect.y, t.rect.width, t.rect.height⟩ := rfl
  rw [hrect, hxs, hys, hws, hhs]

theorem mem_dirty {flags : Array Bool} {ts : List TileRound} {t : TileRound} :
    t ∈ ts.filter (fun t => flags[t.index.toNat]?.getD false) ↔
      t ∈ ts ∧ flags[t.index.toNat]? = some true := by
  rw [List.mem_filter]
  cases flags[t.index.toNat]? <;> simp

theorem mem_emitted {α : Type} {rect : TileRound → α} {flags : Array Bool} {ts : List TileRound}
    {a : α} : a ∈ (ts.filter fun t => flags[t.index.toNat]?.getD false).map rect ↔
      ∃ t ∈ ts, flags[t.index.toNat]? = some true ∧ rect t = a := by
  simp only [List.mem_map, mem_dirty, and_assoc]

/-! What the first two passes write. -/

variable {d : GfxDiff}

/-- An array that is written for each tile has at the place of a tile what is written for it. -/
theorem getElem?_written {α : Type} {n : ℕ} (value : Rect → α) (a : Vector α n) {r : Rect}
    (hr : r ∈ tiles 64 f.width f.height) (hplace : placeOf f r < n) :
    ((tiles 64 f.width f.height).foldl (fun a r => a.setIfInBounds (placeOf f r) (value r))
      a)[placeOf f r]? = some (value r) := by
  have hbefore : ∀ i < n, a[i]? = some (a[i]?.getD (value r)) := by
    intro i hi
    rw [Vector.getElem?_eq_getElem hi, Option.getD_some]
  rw [getElem?_foldl_set _ (fun _ _ => rfl) hbefore _ hplace,
    fill_tiles (placeOf f) value (show 0 < 64 by omega) (fun _ => rfl) _ hr]

theorem hashes_written (hd : d.FitsFrame f) (hf : f.WellFormed) :
    HashesTiles f (rounds f) d { d with
      gfxTileHashes := (tiles 64 f.width f.height).foldl (fun hashes r =>
        hashes.setIfInBounds (placeOf f r) (gfxHashTile f.data f.stride r)) d.gfxTileHashes } where
  hashes := by
    refine ⟨_, rfl, ?_⟩
    intro t ht
    obtain ⟨r, hr, rfl⟩ := mem_rounds.mp ht
    obtain ⟨hrect, hindex⟩ := roundOf_toNat hf hr
    rw [hrect, hindex]
    exact getElem?_written _ _ hr (hd.placeOf_lt hf hr)

/-- A tile is flagged for its hash and its bytes. -/
theorem flagOf_iff (hd : d.FitsFrame f) (hf : f.WellFormed) {r : Rect}
    (hr : r ∈ tiles 64 f.width f.height) (previous : Option (List UInt8)) :
    d.flagOf f f.data previous r = true ↔ ∀ p ∈ previous,
      d.gfxTileHashes[placeOf f r]? ≠ some (gfxHashTile f.data f.stride r) ∧
        tileRows p f.stride r ≠ tileRows f.data f.stride r := by
  cases previous with
  | none => simp [GfxDiff.flagOf]
  | some p =>
    obtain ⟨hx, hy⟩ := tile_bounds (by omega) hr
    have hplace := hd.placeOf_lt hf hr
    have hstored : d.gfxTileHashes[placeOf f r]? = some d.gfxTileHashes[placeOf f r] :=
      Vector.getElem?_eq_getElem hplace
    simp only [GfxDiff.flagOf, hstored, Option.getD_some, Bool.and_eq_true, bne_iff_ne,
      rowsDiffer_iff hf hx hy, Option.mem_some_iff, forall_eq', ne_eq, Option.some.injEq]

theorem flags_written (hd : d.FitsFrame f) (hf : f.WellFormed) (previous : Option (List UInt8))
    (threshold : LargeChangeThreshold) :
    FlagsTiles d f previous threshold (rounds f)
      { dirtyFlags := ((tiles 64 f.width f.height).foldl (fun flags r =>
          flags.setIfInBounds (placeOf f r) (d.flagOf f f.data previous r))
          (Vector.replicate (d.gfxTilesX * d.gfxTilesY).toNat false)).toArray
        changedTiles :=
          UInt32.ofNat ((tiles 64 f.width f.height).countP (d.flagOf f f.data previous))
        largeChange := threshold ((tiles 64 f.width f.height).countP (d.flagOf f f.data previous))
          (count 64 f.width * count 64 f.height) } := by
  have hflag (r : Rect) (hr : r ∈ tiles 64 f.width f.height) :
      ((tiles 64 f.width f.height).foldl (fun flags r =>
        flags.setIfInBounds (placeOf f r) (d.flagOf f f.data previous r))
        (Vector.replicate (d.gfxTilesX * d.gfxTilesY).toNat
          false)).toArray[(roundOf f.width r).index.toNat]? =
        some (d.flagOf f f.data previous r) := by
    rw [(roundOf_toNat hf hr).2, Vector.getElem?_toArray]
    exact getElem?_written _ _ hr (hd.placeOf_lt hf hr)
  constructor
  case size => exact Vector.size_toArray _
  case flags =>
    intro t ht
    obtain ⟨r, hr, rfl⟩ := mem_rounds.mp ht
    obtain ⟨hrect, hindex⟩ := roundOf_toNat hf hr
    refine ⟨_, hflag r hr, ?_⟩
    rw [hrect, hindex]
    exact flagOf_iff hd hf hr previous
  case changed =>
    rw [countP_toNat hf, rounds, List.countP_map]
    apply List.countP_congr
    intro r hr
    rw [Function.comp_apply, hflag r hr]
    simp
  case large => rw [countP_toNat hf, rounds, List.length_map, length_tiles]

/-- The tiling is exact for every frame, whatever the state of the diff was before it. -/
theorem tiling_exact_partition (d₀ : GfxDiff) (hf : f.WellFormed) (previous : Option (List UInt8))
    (hprevious : ∀ p ∈ previous, f.stride * f.height ≤ p.length) (threshold : LargeChangeThreshold)
    (dirtyFlags : Array Bool) :
    (d₀.prepareGfxDiffState (UInt32.ofNat f.width) (UInt32.ofNat f.height)
      (UInt32.ofNat f.stride)).TilesExactly f previous threshold dirtyFlags := by
  generalize hprepared : d₀.prepareGfxDiffState (UInt32.ofNat f.width) (UInt32.ofNat f.height)
    (UInt32.ofNat f.stride) = d
  have hd : d.FitsFrame f := hprepared ▸ prepareGfxDiffState_fits d₀ hf
  have hdata : f.stride * f.height ≤ f.data.length := hf.length.ge
  have htilesX : d.gfxTilesX.toNat = count 64 f.width := by
    rw [hd.tilesX, toNat_small ((count_le hf.width_le).trans (by omega))]
  have htilesY : d.gfxTilesY.toNat = count 64 f.height := by
    rw [hd.tilesY, toNat_small ((count_le hf.height_le).trans (by omega))]
  refine ⟨rounds f, ?_, ⟨_, hd.updateTileHashes_eq hf hdata, hashes_written hd hf⟩,
    ⟨_, hd.analyzeTiles_eq hf hdata hprevious threshold dirtyFlags,
      flags_written hd hf previous threshold⟩, ?_⟩
  · rw [htilesX, htilesY]
    exact rounds_exact hf
  · intro flags hflags region rects
    refine ⟨_, hd.collectDirtyTiles_eq hf hflags region rects, ?_, ?_, ?_⟩
    · exact ⟨_, fun _ => mem_emitted,
        nodup_emitted hf _ fun t ht t' ht' => rect_eq_of_rfxRect hf ht ht', rfl⟩
    · exact ⟨_, fun _ => mem_emitted,
        nodup_emitted hf _ fun t ht t' ht' => rect_eq_of_rectangle16 hf ht ht', rfl⟩
    · show (!(List.filter _ (rounds f)).isEmpty) = true ↔ _
      rw [Bool.not_eq_true', List.isEmpty_eq_false_iff_exists_mem]
      simp only [mem_dirty]

/-- A frame of four tiles, of which the right and the lower ones are cut off, after another one. -/
theorem tiling_exact_partition_clipped :
    tiles 64 65 65 = [⟨0, 0, 64, 64⟩, ⟨64, 0, 1, 64⟩, ⟨0, 64, 64, 1⟩, ⟨64, 64, 1, 1⟩] ∧
      (GfxDiff.empty.prepareGfxDiffState 65 65 260).TilesExactly (cornerPixel 1).1
        (some (cornerPixel 0).1.data) defaultLargeChangeThreshold #[] :=
  ⟨by decide, tiling_exact_partition GfxDiff.empty (cornerPixel 1).2 (some (cornerPixel 0).1.data)
    (by
      rintro p ⟨⟩
      exact (cornerPixel 0).2.length.ge) defaultLargeChangeThreshold #[]⟩

end Partition
end RemoteDesktop.DRD
