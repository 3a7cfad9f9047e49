import RemoteDesktop.CounterLoop
import RemoteDesktop.DRDTileHash

/-! The tile passes of `drd_encoding_manager.c` on the integers that they have there: 32 bits for
the geometry, 64 for the offsets of the hash and 16 for the rectangles. What C leaves open, a read or
a write outside a buffer, is `none`, and so is a failed assertion. -/
namespace RemoteDesktop.DRD

open TileGrid CounterLoop

/-- The fields of the diff, with a hash for each tile. -/
structure GfxDiff where
  gfxDiffWidth : UInt32
  gfxDiffHeight : UInt32
  gfxDiffStride : UInt32
  gfxTilesX : UInt32
  gfxTilesY : UInt32
  gfxPreviousFrame : List UInt8
  gfxTileHashes : Vector UInt64 (gfxTilesX * gfxTilesY).toNat
  gfxForceKeyframe : Bool
  gfxProgressiveRfxFrames : UInt32

/-- What a round of the loops works on: `x`, `y`, `tile_w`, `tile_h` and `index`. -/
structure TileRound where
  x : UInt32
  y : UInt32
  tileW : UInt32
  tileH : UInt32
  index : UInt32
  deriving DecidableEq

def readBytes (data : List UInt8) (offset length : ℕ) : Option (List UInt8) :=
  if offset + length ≤ data.length then some (slice data offset length) else none

def writeEntry {α : Type} {n : ℕ} (a : Vector α n) (i : ℕ) (v : α) : Option (Vector α n) :=
  if i < n then some (a.setIfInBounds i v) else none

/-- `(gsize) (y + row) * stride + (gsize) x * 4` -/
def hashOffset (stride x y row : UInt32) : UInt64 :=
  (y + row).toUInt64 * stride.toUInt64 + x.toUInt64 * 4

/-- `((y + row) * stride) + x * 4`, a `guint` -/
def memcmpOffset (stride x y row : UInt32) : UInt32 :=
  (y + row) * stride + x * 4

/-- `drd_gfx_hash_tile`, row by row. -/
def hashTile (data : List UInt8) (stride x y width height : UInt32) : Option UInt64 :=
  guintFor height 1 (fun row hash =>
    (readBytes data (hashOffset stride x y row).toNat (width * 4).toNat).map fun bytes =>
      gfxHashRow bytes.length hash bytes) 0xcbf29ce484222325

/-- The loop of `memcmp`. -/
def memcmpTile (previous data : List UInt8) (stride x y width height : UInt32) : Option Bool :=
  guintFor height 1 (fun row different =>
    -- nothing is read after the `break`
    if different then some true
    else
      let offset := (memcmpOffset stride x y row).toNat
      (readBytes previous offset (width * 4).toNat).bind fun old =>
        (readBytes data offset (width * 4).toNat).map fun new => old != new) false

structure RfxRect where
  x : UInt16
  y : UInt16
  width : UInt16
  height : UInt16
  deriving DecidableEq

structure Rectangle16 where
  left : UInt16
  top : UInt16
  right : UInt16
  bottom : UInt16
  deriving DecidableEq

/-- What `collect_dirty_tiles` fills. The region is the union of its rectangles. -/
structure DirtyTiles where
  rects : Option (List RfxRect)
  region : Option (List Rectangle16)
  hasDirty : Bool

structure TileAnalysis where
  dirtyFlags : Array Bool
  changedTiles : UInt32
  largeChange : Bool

namespace TileRound

variable (t : TileRound)

def rfxRect : RfxRect :=
  ⟨t.x.toUInt16, t.y.toUInt16, t.tileW.toUInt16, t.tileH.toUInt16⟩

def rectangle16 : Rectangle16 :=
  ⟨t.x.toUInt16, t.y.toUInt16, (t.x + t.tileW).toUInt16, (t.y + t.tileH).toUInt16⟩

/-- The two assertions before a rectangle is united with a region. -/
def FitsRegion : Prop :=
  t.x + t.tileW ≤ 65535 ∧ t.y + t.tileH ≤ 65535

instance : Decidable t.FitsRegion :=
  inferInstanceAs (Decidable (_ ∧ _))

end TileRound

/-- What `collect_dirty_tiles` does for a tile that is different. -/
def DirtyTiles.emit (s : DirtyTiles) (t : TileRound) : Option DirtyTiles :=
  let rects := s.rects.map (· ++ [t.rfxRect])
  match s.region with
  | none => some ⟨rects, none, true⟩
  | some region =>
    if t.FitsRegion then some ⟨rects, some (region ++ [t.rectangle16]), true⟩ else none

namespace GfxDiff

/-- After `drd_encoding_manager_reset`. -/
def empty : GfxDiff where
  gfxDiffWidth := 0
  gfxDiffHeight := 0
  gfxDiffStride := 0
  gfxTilesX := 0
  gfxTilesY := 0
  gfxPreviousFrame := []
  gfxTileHashes := Vector.replicate _ 0
  gfxForceKeyframe := true
  gfxProgressiveRfxFrames := 0

variable (self : GfxDiff)

def prepareGfxDiffState (width height stride : UInt32) : GfxDiff :=
  let sizeChanged := self.gfxDiffWidth ≠ width ∨ self.gfxDiffHeight ≠ height ∨
    self.gfxDiffStride ≠ stride
  let tilesX := (width + 63) / 64
  let tilesY := (height + 63) / 64
  let tilesChanged := self.gfxTilesX ≠ tilesX ∨ self.gfxTilesY ≠ tilesY
  let size := (stride.toUInt64 * height.toUInt64).toNat
  if ¬ sizeChanged ∧ ¬ tilesChanged ∧ self.gfxPreviousFrame.length = size then self
  else
    { gfxDiffWidth := width
      gfxDiffHeight := height
      gfxDiffStride := stride
      gfxTilesX := tilesX
      gfxTilesY := tilesY
      gfxPreviousFrame := List.replicate size 0
      gfxTileHashes := Vector.replicate _ 0
      gfxForceKeyframe := true
      gfxProgressiveRfxFrames := 0 }

/-- `data` is read as far as the buffer is long. -/
def storePreviousFrame (data : List UInt8) (stride height : UInt32) : Option GfxDiff :=
  let size := (stride.toUInt64 * height.toUInt64).toNat
  (readBytes data 0 size).map fun bytes => { self with gfxPreviousFrame := bytes }

/-! Each pass comes with its rounds, which the source does not keep. -/

def updateTileHashes (data : List UInt8) (stride : UInt32) : Option (List TileRound × GfxDiff) :=
  if self.gfxTilesX = 0 ∨ self.gfxTilesY = 0 then some ([], self)
  else
    let loops := guintFor self.gfxDiffHeight 64 (fun y s =>
      let tileH := min 64 (self.gfxDiffHeight - y)
      guintFor self.gfxDiffWidth 64 (fun x s =>
        let tileW := min 64 (self.gfxDiffWidth - x)
        let index := y / 64 * self.gfxTilesX + x / 64
        (hashTile data stride x y tileW tileH).bind fun hash =>
          (writeEntry s.2 index.toNat hash).map fun hashes =>
            (s.1 ++ [⟨x, y, tileW, tileH, index⟩], hashes)) s)
    (loops ([], self.gfxTileHashes)).map fun s => (s.1, { self with gfxTileHashes := s.2 })

/-- One tile of `analyze_tiles`: the flag that it gets. -/
def tileDifferent (data : List UInt8) (previous : Option (List UInt8))
    (stride x y tileW tileH index : UInt32) : Option Bool :=
  (hashTile data stride x y tileW tileH).bind fun hash =>
    self.gfxTileHashes[index.toNat]?.bind fun stored =>
      match previous with
      -- `force_dirty`
      | none => some true
      | some previous =>
        if stored != hash then memcmpTile previous data stride x y tileW tileH else some false

def analyzeTiles (data : List UInt8) (previous : Option (List UInt8)) (stride : UInt32)
    (threshold : LargeChangeThreshold) (dirtyFlags : Array Bool) :
    Option (List TileRound × TileAnalysis) :=
  if self.gfxTilesX = 0 ∨ self.gfxTilesY = 0 ∨ self.gfxDiffWidth = 0 ∨ self.gfxDiffHeight = 0 then
    some ([], ⟨dirtyFlags, 0, true⟩)
  else
    let totalTiles := self.gfxTilesX * self.gfxTilesY
    if totalTiles = 0 then some ([], ⟨dirtyFlags, 0, true⟩)
    else
      let loops := guintFor self.gfxDiffHeight 64 (fun y s =>
        let tileH := min 64 (self.gfxDiffHeight - y)
        guintFor self.gfxDiffWidth 64 (fun x s =>
          let tileW := min 64 (self.gfxDiffWidth - x)
          let index := y / 64 * self.gfxTilesX + x / 64
          (self.tileDifferent data previous stride x y tileW tileH index).bind fun different =>
            (writeEntry s.2.1 index.toNat different).map fun flags =>
              (s.1 ++ [⟨x, y, tileW, tileH, index⟩], flags,
                if different then s.2.2 + 1 else s.2.2)) s)
      (loops ([], Vector.replicate totalTiles.toNat false, 0)).map fun s =>
        (s.1, ⟨s.2.1.toArray, s.2.2, threshold s.2.2.toNat totalTiles.toNat⟩)

/-- `region` and `rects` are NULL or what they hold so far. -/
def collectDirtyTiles (dirtyFlags : Array Bool) (region : Option (List Rectangle16))
    (rects : Option (List RfxRect)) : Option (List TileRound × DirtyTiles) :=
  if self.gfxTilesX = 0 ∨ self.gfxTilesY = 0 then some ([], ⟨rects, region, false⟩)
  else if dirtyFlags.size ≠ (self.gfxTilesX * self.gfxTilesY).toNat then none
  else
    guintFor self.gfxDiffHeight 64 (fun y s =>
      let tileH := min 64 (self.gfxDiffHeight - y)
      guintFor self.gfxDiffWidth 64 (fun x s =>
        let tileW := min 64 (self.gfxDiffWidth - x)
        let index := y / 64 * self.gfxTilesX + x / 64
        let round : TileRound := ⟨x, y, tileW, tileH, index⟩
        dirtyFlags[index.toNat]?.bind fun different =>
          if different then (s.2.emit round).map fun dirty => (s.1 ++ [round], dirty)
          else some (s.1 ++ [round], s.2)) s) ([], ⟨rects, region, false⟩)

end GfxDiff

/-! The loops and their rounds. -/

section Rounds

variable {σ : Type} {w h : UInt32}

/-- The double loop is a fold over the tiles. -/
theorem tileLoops_eq (hw : w.toNat ≤ 65535) (hh : h.toNat ≤ 65535)
    (body : UInt32 → UInt32 → σ → Option σ) (s : σ) :
    guintFor h 64 (fun y s => guintFor w 64 (fun x s => body y x s) s) s =
      (tiles 64 w.toNat h.toNat).foldlM
        (fun s r => body (UInt32.ofNat r.y) (UInt32.ofNat r.x) s) s := by
  have hstep : (64 : UInt32).toNat = 64 := rfl
  have hrow : ∀ y s, guintFor w 64 (fun x s => body y x s) s =
      (starts 64 w.toNat).foldlM (fun s x => body y (UInt32.ofNat x) s) s :=
    fun y s => guintFor_eq (by omega) (by omega) _ s
  rw [guintFor_eq (by omega) (by omega), tiles, hstep]
  simp only [hrow]
  -- a fold over the rows of folds over their tiles
  generalize starts 64 h.toNat = ys
  induction ys generalizing s with
  | nil => rfl
  | cons y ys ih =>
    rw [List.foldlM_cons, List.flatMap_cons, List.foldlM_append, List.foldlM_map]
    congr 1
    funext s
    exact ih s

/-- The round for a tile. -/
def roundOf (width : ℕ) (r : Rect) : TileRound where
  x := UInt32.ofNat r.x
  y := UInt32.ofNat r.y
  tileW := UInt32.ofNat r.width
  tileH := UInt32.ofNat r.height
  index := UInt32.ofNat (index 64 width r.x r.y)

def TileRound.rect (t : TileRound) : Rect :=
  ⟨t.x.toNat, t.y.toNat, t.tileW.toNat, t.tileH.toNat⟩

end Rounds

/-- The diff state is that of a frame. -/
structure GfxDiff.FitsFrame (d : GfxDiff) (f : Frame) : Prop where
  width : d.gfxDiffWidth = UInt32.ofNat f.width
  height : d.gfxDiffHeight = UInt32.ofNat f.height
  tilesX : d.gfxTilesX = UInt32.ofNat (count 64 f.width)
  tilesY : d.gfxTilesY = UInt32.ofNat (count 64 f.height)

theorem toNat_small {n : ℕ} (h : n ≤ 65535) : (UInt32.ofNat n).toNat = n := by
  rw [UInt32.toNat_ofNat', Nat.mod_eq_of_lt (by omega)]

/-- A length of 16 bits is at most 1024 tiles. -/
theorem count_le {n : ℕ} (h : n ≤ 65535) : count 64 n ≤ 1024 := by
  rw [count]
  omega

theorem count_pos {n : ℕ} (h : 1 ≤ n) : 1 ≤ count 64 n :=
  (lt_count_iff (by omega)).mpr h

/-- `(n + 63) / 64` does not wrap. -/
theorem guint_count {n : ℕ} (h : n ≤ 65535) :
    (UInt32.ofNat n + 63) / 64 = UInt32.ofNat (count 64 n) := by
  apply UInt32.toNat_inj.mp
  have hcount := count_le h
  rw [UInt32.toNat_div, UInt32.toNat_add, toNat_small h, toNat_small (by omega), count]
  have h63 : (63 : UInt32).toNat = 63 := rfl
  have h64 : (64 : UInt32).toNat = 64 := rfl
  rw [h63, h64, Nat.mod_eq_of_lt (by omega)]

section Fits

variable {d : GfxDiff} {f : Frame} {r : Rect}

theorem prepareGfxDiffState_fits (d : GfxDiff) (hf : f.WellFormed) :
    (d.prepareGfxDiffState (UInt32.ofNat f.width) (UInt32.ofNat f.height)
      (UInt32.ofNat f.stride)).FitsFrame f := by
  have hx := guint_count hf.width_le
  have hy := guint_count hf.height_le
  rw [GfxDiff.prepareGfxDiffState]
  split
  -- a state that is kept was compared with the frame, number by number
  · rename_i hsame
    obtain ⟨hsizes, htiles, -⟩ := hsame
    simp only [not_or, not_not] at hsizes htiles
    exact ⟨hsizes.1, hsizes.2.1, htiles.1.trans hx, htiles.2.trans hy⟩
  · exact ⟨rfl, rfl, hx, hy⟩

/-- A tile of a frame has an edge of at most 64, and a place for itself. -/
theorem tile_small (hr : r ∈ tiles 64 f.width f.height) :
    r.x + r.width ≤ f.width ∧ r.y + r.height ≤ f.height ∧ r.width ≤ 64 ∧ r.height ≤ 64 ∧
      1 ≤ r.width ∧ 1 ≤ r.height := by
  obtain ⟨hx, hy⟩ := tile_bounds (by omega) hr
  obtain ⟨x, y, ⟨hxw, -⟩, ⟨hyh, -⟩, rfl⟩ := (mem_tiles (by omega)).mp hr
  simp only [tile] at *
  omega

theorem index_small (hf : f.WellFormed) (hr : r ∈ tiles 64 f.width f.height) :
    index 64 f.width r.x r.y < count 64 f.width * count 64 f.height ∧
      count 64 f.width * count 64 f.height ≤ 1024 * 1024 := by
  obtain ⟨x, y, ⟨hxw, -⟩, ⟨hyh, -⟩, rfl⟩ := (mem_tiles (by omega)).mp hr
  exact ⟨index_lt (by omega) hxw hyh,
    Nat.mul_le_mul (count_le hf.width_le) (count_le hf.height_le)⟩

/-- None of the five numbers of a round is cut off. -/
theorem roundOf_toNat (hf : f.WellFormed) (hr : r ∈ tiles 64 f.width f.height) :
    (roundOf f.width r).rect = r ∧
      (roundOf f.width r).index.toNat = index 64 f.width r.x r.y := by
  obtain ⟨hx, hy, hw, hh, -, -⟩ := tile_small hr
  obtain ⟨hindex, htotal⟩ := index_small hf hr
  have hwidth := hf.width_le
  have hheight := hf.height_le
  constructor
  · simp only [TileRound.rect, roundOf, toNat_small (show r.x ≤ 65535 by omega),
      toNat_small (show r.y ≤ 65535 by omega), toNat_small (show r.width ≤ 65535 by omega),
      toNat_small (show r.height ≤ 65535 by omega)]
  · rw [roundOf, UInt32.toNat_ofNat', Nat.mod_eq_of_lt (by omega)]

theorem guint_min (a b : UInt32) : (min a b).toNat = min a.toNat b.toNat := by
  show (if a ≤ b then a else b).toNat = _
  split_ifs with hle
  · have := UInt32.le_iff_toNat_le.mp hle
    omega
  · have := UInt32.lt_iff_toNat_lt.mp (UInt32.not_le.mp hle)
    omega

/-- `MIN(64u, n - v)` is the edge of the tile. -/
theorem guint_edge {n v : ℕ} (hn : n ≤ 65535) (hv : v ≤ n) :
    min 64 (UInt32.ofNat n - UInt32.ofNat v) = UInt32.ofNat (min 64 (n - v)) := by
  have hle : UInt32.ofNat v ≤ UInt32.ofNat n := by
    rw [UInt32.le_iff_toNat_le, toNat_small hn, toNat_small (hv.trans hn)]
    exact hv
  apply UInt32.toNat_inj.mp
  rw [guint_min, UInt32.toNat_sub_of_le _ _ hle, toNat_small hn, toNat_small (hv.trans hn),
    toNat_small (by omega)]
  rfl

/-- What the loops work out for a tile is its round. -/
theorem GfxDiff.FitsFrame.round (hd : d.FitsFrame f) (hf : f.WellFormed)
    (hr : r ∈ tiles 64 f.width f.height) :
    min 64 (d.gfxDiffWidth - UInt32.ofNat r.x) = UInt32.ofNat r.width ∧
      min 64 (d.gfxDiffHeight - UInt32.ofNat r.y) = UInt32.ofNat r.height ∧
      UInt32.ofNat r.y / 64 * d.gfxTilesX + UInt32.ofNat r.x / 64 =
        UInt32.ofNat (index 64 f.width r.x r.y) := by
  obtain ⟨hindex, htotal⟩ := index_small hf hr
  obtain ⟨x, y, ⟨hxw, -⟩, ⟨hyh, -⟩, rfl⟩ := (mem_tiles (by omega)).mp hr
  have hwidth := hf.width_le
  have hheight := hf.height_le
  rw [hd.width, hd.height, hd.tilesX]
  refine ⟨guint_edge hwidth hxw.le, guint_edge hheight hyh.le, ?_⟩
  simp only [tile] at hindex ⊢
  have h64 : (64 : UInt32).toNat = 64 := rfl
  -- the product is at most the index, so neither it nor the sum wraps
  have hrow : y / 64 * count 64 f.width ≤ index 64 f.width x y := Nat.le_add_right _ _
  apply UInt32.toNat_inj.mp
  rw [UInt32.toNat_add, UInt32.toNat_mul, UInt32.toNat_div, UInt32.toNat_div,
    toNat_small (show x ≤ 65535 by omega), toNat_small (show y ≤ 65535 by omega),
    toNat_small ((count_le hwidth).trans (by omega)), h64, UInt32.toNat_ofNat',
    Nat.mod_eq_of_lt (show y / 64 * count 64 f.width < 2 ^ 32 by omega)]
  rfl

end Fits

/-! The bytes of a tile. -/

section Bytes

variable {f : Frame} {r : Rect} {row : ℕ}

theorem readBytes_eq {data : List UInt8} {offset length : ℕ} (h : offset + length ≤ data.length) :
    readBytes data offset length = some (slice data offset length) :=
  if_pos h

/-- Where a row of a tile starts. -/
def rowOffset (f : Frame) (r : Rect) (row : ℕ) : ℕ :=
  (r.y + row) * f.stride + r.x * 4

theorem Frame.WellFormed.stride_lt (hf : f.WellFormed) : f.stride < 2 ^ 32 := by
  have hsize := hf.size
  have hle : f.stride * 1 ≤ f.stride * f.height := Nat.mul_le_mul_left _ hf.height_pos
  omega

theorem toNat_stride (hf : f.WellFormed) : (UInt32.ofNat f.stride).toNat = f.stride := by
  exact UInt32.toNat_ofNat_of_lt' hf.stride_lt

/-- A row of a tile lies inside the frame. -/
theorem rowOffset_add_le (hf : f.WellFormed) (hr : r ∈ tiles 64 f.width f.height)
    (hrow : row < r.height) : rowOffset f r row + r.width * 4 ≤ f.stride * f.height := by
  obtain ⟨hx, hy⟩ := tile_bounds (by omega) hr
  have hstride := hf.stride
  -- it ends before the next row of the frame starts
  have hlast : (r.y + row + 1) * f.stride ≤ f.height * f.stride :=
    Nat.mul_le_mul_right _ (by omega)
  rw [Nat.add_mul, Nat.one_mul, Nat.mul_comm f.height] at hlast
  rw [rowOffset]
  omega

theorem toNat_row (hf : f.WellFormed) (hr : r ∈ tiles 64 f.width f.height) (hrow : row < r.height) :
    (UInt32.ofNat r.y + UInt32.ofNat row).toNat = r.y + row ∧
      (UInt32.ofNat f.stride).toNat = f.stride ∧ (UInt32.ofNat r.x).toNat = r.x := by
  obtain ⟨hx, hy⟩ := tile_bounds (by omega) hr
  have hwidth := hf.width_le
  have hheight := hf.height_le
  refine ⟨?_, toNat_stride hf, toNat_small (by omega)⟩
  rw [UInt32.toNat_add, toNat_small (by omega), toNat_small (by omega),
    Nat.mod_eq_of_lt (by omega)]

/-- The offset of the hash, in 64 bits. -/
theorem hashOffset_toNat (hf : f.WellFormed) (hr : r ∈ tiles 64 f.width f.height)
    (hrow : row < r.height) :
    (hashOffset (UInt32.ofNat f.stride) (UInt32.ofNat r.x) (UInt32.ofNat r.y)
      (UInt32.ofNat row)).toNat = rowOffset f r row := by
  obtain ⟨hy, hstride, hx⟩ := toNat_row hf hr hrow
  have hinside := rowOffset_add_le hf hr hrow
  have hsize := hf.size
  rw [rowOffset] at hinside ⊢
  have h4 : (4 : UInt64).toNat = 4 := rfl
  rw [hashOffset, UInt64.toNat_add, UInt64.toNat_mul, UInt64.toNat_mul, UInt32.toNat_toUInt64,
    UInt32.toNat_toUInt64, UInt32.toNat_toUInt64, hy, hstride, hx, h4]
  rw [Nat.mod_eq_of_lt (show (r.y + row) * f.stride < 2 ^ 64 by omega),
    Nat.mod_eq_of_lt (show r.x * 4 < 2 ^ 64 by omega), Nat.mod_eq_of_lt (by omega)]

/-- The offset of `memcmp`, in 32 bits, is the same. -/
theorem memcmpOffset_toNat (hf : f.WellFormed) (hr : r ∈ tiles 64 f.width f.height)
    (hrow : row < r.height) :
    (memcmpOffset (UInt32.ofNat f.stride) (UInt32.ofNat r.x) (UInt32.ofNat r.y)
      (UInt32.ofNat row)).toNat = rowOffset f r row := by
  obtain ⟨hy, hstride, hx⟩ := toNat_row hf hr hrow
  have hinside := rowOffset_add_le hf hr hrow
  have hsize := hf.size
  rw [rowOffset] at hinside ⊢
  have h4 : (4 : UInt32).toNat = 4 := rfl
  rw [memcmpOffset, UInt32.toNat_add, UInt32.toNat_mul, UInt32.toNat_mul, hy, hstride, hx, h4]
  rw [Nat.mod_eq_of_lt (show (r.y + row) * f.stride < 2 ^ 32 by omega),
    Nat.mod_eq_of_lt (show r.x * 4 < 2 ^ 32 by omega), Nat.mod_eq_of_lt (by omega)]

theorem toNat_rowLength (hr : r ∈ tiles 64 f.width f.height) :
    (UInt32.ofNat r.width * 4).toNat = r.width * 4 := by
  obtain ⟨-, -, hw, -⟩ := tile_small hr
  have h4 : (4 : UInt32).toNat = 4 := rfl
  rw [UInt32.toNat_mul, toNat_small (by omega), h4, Nat.mod_eq_of_lt (by omega)]

theorem starts_one (n : ℕ) : starts 1 n = List.range n := by
  have hcount : count 1 n = n := by rw [count, Nat.sub_self, Nat.add_zero, Nat.div_one]
  rw [starts, hcount]
  simp

/-- The row loop of a tile is a fold over its rows. -/
theorem rowLoop_eq {σ : Type} (hr : r ∈ tiles 64 f.width f.height)
    (body : UInt32 → σ → Option σ) (s : σ) :
    guintFor (UInt32.ofNat r.height) 1 body s =
      (List.range r.height).foldlM (fun s row => body (UInt32.ofNat row) s) s := by
  obtain ⟨-, -, -, hh, -⟩ := tile_small hr
  have hheight : (UInt32.ofNat r.height).toNat = r.height := toNat_small (by omega)
  have hone : (1 : UInt32).toNat = 1 := rfl
  rw [guintFor_eq (by omega) (by omega), hheight, hone, starts_one]

/-- The hash reads the rows of its tile, all of them inside the frame. -/
theorem hashTile_eq (hf : f.WellFormed) (hr : r ∈ tiles 64 f.width f.height) {data : List UInt8}
    (hdata : f.stride * f.height ≤ data.length) :
    hashTile data (UInt32.ofNat f.stride) (UInt32.ofNat r.x) (UInt32.ofNat r.y)
      (UInt32.ofNat r.width) (UInt32.ofNat r.height) = some (gfxHashTile data f.stride r) := by
  rw [hashTile, rowLoop_eq hr, gfxHashTile, gfxHashRows, tileRows, List.foldl_map]
  refine (foldlM_some (I := fun _ => True) ?_ trivial).1
  intro row hrow hash _
  have hrow : row < r.height := List.mem_range.mp hrow
  have hinside := rowOffset_add_le hf hr hrow
  rw [hashOffset_toNat hf hr hrow, toNat_rowLength hr, readBytes_eq (by omega)]
  exact ⟨rfl, trivial⟩

/-- `memcmp` compares the rows that the hash reads. -/
theorem memcmpTile_eq (hf : f.WellFormed) (hr : r ∈ tiles 64 f.width f.height)
    {previous data : List UInt8} (hprevious : f.stride * f.height ≤ previous.length)
    (hdata : f.stride * f.height ≤ data.length) :
    memcmpTile previous data (UInt32.ofNat f.stride) (UInt32.ofNat r.x) (UInt32.ofNat r.y)
      (UInt32.ofNat r.width) (UInt32.ofNat r.height) =
      some (rowsDiffer previous data f.stride r) := by
  rw [memcmpTile, rowLoop_eq hr, rowsDiffer]
  refine foldlM_until ?_ false
  intro row hrow
  have hrow : row < r.height := List.mem_range.mp hrow
  have hinside := rowOffset_add_le hf hr hrow
  obtain ⟨-, -, -, -, hw, -⟩ := tile_small hr
  have hsize := hf.size
  -- on numbers too, `memcmp` has its offset in 32 bits
  have hoffset : ((r.y + row) * f.stride + r.x * 4) % 2 ^ 32 = rowOffset f r row :=
    Nat.mod_eq_of_lt (by rw [rowOffset] at hinside; omega)
  dsimp only
  rw [memcmpOffset_toNat hf hr hrow, toNat_rowLength hr, readBytes_eq (by omega),
    readBytes_eq (by omega), hoffset]
  rfl

end Bytes

/-! The passes. -/

section Passes

variable {d : GfxDiff} {f : Frame} {r : Rect}

/-- The rounds of a frame. -/
def rounds (f : Frame) : List TileRound :=
  (tiles 64 f.width f.height).map (roundOf f.width)

/-- The place of a tile of the frame. -/
def placeOf (f : Frame) (r : Rect) : ℕ :=
  index 64 f.width r.x r.y

theorem writeEntry_eq {α : Type} {n i : ℕ} (a : Vector α n) (v : α) (h : i < n) :
    writeEntry a i v = some (a.setIfInBounds i v) :=
  if_pos h

theorem GfxDiff.FitsFrame.total (hd : d.FitsFrame f) (hf : f.WellFormed) :
    (d.gfxTilesX * d.gfxTilesY).toNat = count 64 f.width * count 64 f.height := by
  have hx := count_le hf.width_le
  have hy := count_le hf.height_le
  have htotal : count 64 f.width * count 64 f.height ≤ 1024 * 1024 := Nat.mul_le_mul hx hy
  rw [hd.tilesX, hd.tilesY, UInt32.toNat_mul, toNat_small (by omega), toNat_small (by omega),
    Nat.mod_eq_of_lt (by omega)]

theorem GfxDiff.FitsFrame.placeOf_lt (hd : d.FitsFrame f) (hf : f.WellFormed)
    (hr : r ∈ tiles 64 f.width f.height) : placeOf f r < (d.gfxTilesX * d.gfxTilesY).toNat := by
  rw [hd.total hf]
  exact (index_small hf hr).1

theorem toNat_place (hf : f.WellFormed) (hr : r ∈ tiles 64 f.width f.height) :
    (UInt32.ofNat (index 64 f.width r.x r.y)).toNat = placeOf f r :=
  (roundOf_toNat hf hr).2

theorem GfxDiff.FitsFrame.hasTiles (hd : d.FitsFrame f) (hf : f.WellFormed) :
    ¬ (d.gfxTilesX = 0 ∨ d.gfxTilesY = 0) := by
  have hx := count_le hf.width_le
  have hy := count_le hf.height_le
  have hx' := count_pos hf.width_pos
  have hy' := count_pos hf.height_pos
  rw [hd.tilesX, hd.tilesY, ← UInt32.toNat_inj, ← UInt32.toNat_inj, toNat_small (by omega),
    toNat_small (by omega)]
  have h0 : (0 : UInt32).toNat = 0 := rfl
  omega

theorem GfxDiff.FitsFrame.notEmpty (hd : d.FitsFrame f) (hf : f.WellFormed) :
    ¬ (d.gfxTilesX = 0 ∨ d.gfxTilesY = 0 ∨ d.gfxDiffWidth = 0 ∨ d.gfxDiffHeight = 0) ∧
      ¬ d.gfxTilesX * d.gfxTilesY = 0 := by
  have htiles := hd.hasTiles hf
  have hwidth : d.gfxDiffWidth.toNat = f.width := by rw [hd.width, toNat_small hf.width_le]
  have hheight : d.gfxDiffHeight.toNat = f.height := by rw [hd.height, toNat_small hf.height_le]
  have h0 : (0 : UInt32).toNat = 0 := rfl
  have hw := hf.width_pos
  have hh := hf.height_pos
  constructor
  · rw [← UInt32.toNat_inj (a := d.gfxDiffWidth), ← UInt32.toNat_inj (a := d.gfxDiffHeight)]
    push Not at htiles ⊢
    exact ⟨htiles.1, htiles.2, by omega, by omega⟩
  · have hpos : 0 < count 64 f.width * count 64 f.height :=
      Nat.mul_pos (count_pos hw) (count_pos hh)
    rw [← UInt32.toNat_inj, hd.total hf]
    omega

/-- The double loop of a pass, where a round adds itself to the record and never fails: `next` says
what it does besides. -/
theorem GfxDiff.FitsFrame.loops (hd : d.FitsFrame f) (hf : f.WellFormed) {σ : Type}
    (body : UInt32 → UInt32 → UInt32 → UInt32 → UInt32 → List TileRound × σ →
      Option (List TileRound × σ)) (next : σ → Rect → σ)
    (hround : ∀ r ∈ tiles 64 f.width f.height, ∀ s,
      body (UInt32.ofNat r.x) (UInt32.ofNat r.y) (UInt32.ofNat r.width) (UInt32.ofNat r.height)
        (roundOf f.width r).index s = some (s.1 ++ [roundOf f.width r], next s.2 r)) (s : σ) :
    guintFor d.gfxDiffHeight 64 (fun y s =>
      guintFor d.gfxDiffWidth 64 (fun x s =>
        body x y (min 64 (d.gfxDiffWidth - x)) (min 64 (d.gfxDiffHeight - y))
          (y / 64 * d.gfxTilesX + x / 64) s) s) ([], s) =
      some (rounds f, (tiles 64 f.width f.height).foldl next s) := by
  have hwidth : d.gfxDiffWidth.toNat = f.width := by rw [hd.width, toNat_small hf.width_le]
  have hheight : d.gfxDiffHeight.toNat = f.height := by rw [hd.height, toNat_small hf.height_le]
  have hw := hf.width_le
  have hh := hf.height_le
  rw [tileLoops_eq (by omega) (by omega) fun y x s => body x y (min 64 (d.gfxDiffWidth - x))
    (min 64 (d.gfxDiffHeight - y)) (y / 64 * d.gfxTilesX + x / 64) s, hwidth, hheight]
  have hrounds := foldlM_some (I := fun _ => True)
    (f := fun (s : List TileRound × σ) r => (s.1 ++ [roundOf f.width r], next s.2 r))
    (fun r hr s _ => ⟨hround r hr s, trivial⟩) (s := ([], s)) trivial
  rw [foldl_record] at hrounds
  refine Eq.trans ?_ hrounds.1
  apply foldlM_congr
  intro r hr s
  obtain ⟨htileW, htileH, hindex⟩ := hd.round hf hr
  rw [htileW, htileH, hindex]
  rfl

/-- `update_tile_hashes` goes through the rounds and gives each tile its hash. -/
theorem GfxDiff.FitsFrame.updateTileHashes_eq (hd : d.FitsFrame f) (hf : f.WellFormed)
    {data : List UInt8} (hdata : f.stride * f.height ≤ data.length) :
    d.updateTileHashes data (UInt32.ofNat f.stride) = some (rounds f,
      { d with
        gfxTileHashes := (tiles 64 f.width f.height).foldl (fun hashes r =>
          hashes.setIfInBounds (placeOf f r) (gfxHashTile data f.stride r)) d.gfxTileHashes }) := by
  rw [GfxDiff.updateTileHashes, if_neg (hd.hasTiles hf)]
  have hloops := hd.loops hf (fun x y tileW tileH index s =>
      (hashTile data (UInt32.ofNat f.stride) x y tileW tileH).bind fun hash =>
        (writeEntry s.2 index.toNat hash).map fun hashes =>
          (s.1 ++ [⟨x, y, tileW, tileH, index⟩], hashes))
    (fun hashes r => hashes.setIfInBounds (placeOf f r) (gfxHashTile data f.stride r))
    (by
      -- no round fails: its reads and its place are inside
      intro r hr s
      rw [hashTile_eq hf hr hdata, roundOf, toNat_place hf hr, Option.bind_some,
        writeEntry_eq _ _ (hd.placeOf_lt hf hr)]
      rfl) d.gfxTileHashes
  dsimp only at hloops ⊢
  rw [hloops]
  rfl

/-- The flag that `analyze_tiles` gives a tile. -/
def GfxDiff.flagOf (d : GfxDiff) (f : Frame) (data : List UInt8) (previous : Option (List UInt8))
    (r : Rect) : Bool :=
  match previous with
  | none => true
  | some previous =>
    d.gfxTileHashes[placeOf f r]?.getD 0 != gfxHashTile data f.stride r &&
      rowsDiffer previous data f.stride r

theorem GfxDiff.FitsFrame.tileDifferent_eq (hd : d.FitsFrame f) (hf : f.WellFormed)
    (hr : r ∈ tiles 64 f.width f.height) {data : List UInt8} {previous : Option (List UInt8)}
    (hdata : f.stride * f.height ≤ data.length)
    (hprevious : ∀ p ∈ previous, f.stride * f.height ≤ p.length) :
    d.tileDifferent data previous (UInt32.ofNat f.stride) (UInt32.ofNat r.x) (UInt32.ofNat r.y)
      (UInt32.ofNat r.width) (UInt32.ofNat r.height) (roundOf f.width r).index =
      some (d.flagOf f data previous r) := by
  have hplace := hd.placeOf_lt hf hr
  have hstored : d.gfxTileHashes[placeOf f r]? = some (d.gfxTileHashes[placeOf f r]) :=
    Vector.getElem?_eq_getElem hplace
  rw [GfxDiff.tileDifferent, hashTile_eq hf hr hdata, Option.bind_some, roundOf,
    toNat_place hf hr, hstored, Option.bind_some]
  cases previous with
  | none => rfl
  | some previous =>
    dsimp only
    rw [GfxDiff.flagOf, hstored, Option.getD_some, memcmpTile_eq hf hr (hprevious previous rfl) hdata]
    cases d.gfxTileHashes[placeOf f r] != gfxHashTile data f.stride r <;> rfl

theorem foldl_changed (p : Rect → Bool) (rs : List Rect) (changed : ℕ) :
    rs.foldl (fun changed r => if p r then changed + 1 else changed) (UInt32.ofNat changed) =
      UInt32.ofNat (changed + rs.countP p) := by
  induction rs generalizing changed with
  | nil => rfl
  | cons r rs ih =>
    rw [List.foldl_cons, List.countP_cons]
    by_cases hr : p r = true
    · rw [if_pos hr, if_pos hr, Nat.add_comm (rs.countP p), ← Nat.add_assoc, ← ih, UInt32.ofNat_add]
      rfl
    · rw [if_neg hr, if_neg hr, Nat.add_zero, ih]

theorem length_tiles (f : Frame) :
    (tiles 64 f.width f.height).length = count 64 f.width * count 64 f.height := by
  have hplaces := congrArg List.length
    (tiles_map_index (k := 64) (w := f.width) (h := f.height) (by omega))
  rwa [List.length_map, List.length_range] at hplaces

/-- The number of changed tiles does not wrap. -/
theorem countP_toNat (hf : f.WellFormed) (p : Rect → Bool) :
    (UInt32.ofNat ((tiles 64 f.width f.height).countP p)).toNat =
      (tiles 64 f.width f.height).countP p := by
  have hle : (tiles 64 f.width f.height).countP p ≤ (tiles 64 f.width f.height).length :=
    List.countP_le_length
  have hbound : count 64 f.width * count 64 f.height ≤ 1024 * 1024 :=
    Nat.mul_le_mul (count_le hf.width_le) (count_le hf.height_le)
  rw [length_tiles f] at hle
  rw [UInt32.toNat_ofNat', Nat.mod_eq_of_lt (by omega)]

/-- `analyze_tiles` goes through the rounds, sets a flag for each tile and counts those set. -/
theorem GfxDiff.FitsFrame.analyzeTiles_eq (hd : d.FitsFrame f) (hf : f.WellFormed)
    {data : List UInt8} {previous : Option (List UInt8)}
    (hdata : f.stride * f.height ≤ data.length)
    (hprevious : ∀ p ∈ previous, f.stride * f.height ≤ p.length) (threshold : LargeChangeThreshold)
    (dirtyFlags : Array Bool) :
    let flags := (tiles 64 f.width f.height).foldl (fun flags r =>
      flags.setIfInBounds (placeOf f r) (d.flagOf f data previous r))
      (Vector.replicate (d.gfxTilesX * d.gfxTilesY).toNat false)
    let changed := (tiles 64 f.width f.height).countP (d.flagOf f data previous)
    d.analyzeTiles data previous (UInt32.ofNat f.stride) threshold dirtyFlags = some (rounds f,
      { dirtyFlags := flags.toArray
        changedTiles := UInt32.ofNat changed
        largeChange := threshold changed (count 64 f.width * count 64 f.height) }) := by
  intro flags changed
  obtain ⟨hsizes, htotal⟩ := hd.notEmpty hf
  rw [GfxDiff.analyzeTiles, if_neg hsizes]
  dsimp only
  rw [if_neg htotal]
  have hloops := hd.loops hf (fun x y tileW tileH index s =>
      (d.tileDifferent data previous (UInt32.ofNat f.stride) x y tileW tileH index).bind
        fun different => (writeEntry s.2.1 index.toNat different).map fun flags =>
          (s.1 ++ [⟨x, y, tileW, tileH, index⟩], flags, if different then s.2.2 + 1 else s.2.2))
    (fun s r => (s.1.setIfInBounds (placeOf f r) (d.flagOf f data previous r),
      if d.flagOf f data previous r then s.2 + 1 else s.2))
    (by
      -- nor does a round fail here
      intro r hr s
      rw [hd.tileDifferent_eq hf hr hdata hprevious, roundOf, toNat_place hf hr, Option.bind_some,
        writeEntry_eq _ _ (hd.placeOf_lt hf hr)]
      rfl) (Vector.replicate (d.gfxTilesX * d.gfxTilesY).toNat false, UInt32.ofNat 0)
  -- the flags and their number are worked out side by side
  have hpair := foldl_pair (fun (flags : Vector Bool (d.gfxTilesX * d.gfxTilesY).toNat) r =>
      flags.setIfInBounds (placeOf f r) (d.flagOf f data previous r))
    (fun (changed : UInt32) r => if d.flagOf f data previous r then changed + 1 else changed)
    (tiles 64 f.width f.height) (Vector.replicate _ false) (UInt32.ofNat 0)
  rw [hpair, foldl_changed, Nat.zero_add] at hloops
  have hchanged : (UInt32.ofNat changed).toNat = changed := countP_toNat hf _
  have hlarge : threshold (UInt32.ofNat changed).toNat (d.gfxTilesX * d.gfxTilesY).toNat =
      threshold changed (count 64 f.width * count 64 f.height) := by rw [hchanged, hd.total hf]
  refine (congrArg (Option.map _) hloops).trans ?_
  rw [Option.map_some, ← hlarge]

/-- What a dirty tile adds. -/
def DirtyTiles.add (s : DirtyTiles) (t : TileRound) : DirtyTiles where
  rects := s.rects.map (· ++ [t.rfxRect])
  region := s.region.map (· ++ [t.rectangle16])
  hasDirty := true

/-- The tiles that were added are those flagged. -/
theorem foldl_add (flag : TileRound → Bool) (ts : List TileRound) (s : DirtyTiles) :
    ts.foldl (fun s t => if flag t then s.add t else s) s =
      { rects := s.rects.map (· ++ (ts.filter flag).map TileRound.rfxRect)
        region := s.region.map (· ++ (ts.filter flag).map TileRound.rectangle16)
        hasDirty := s.hasDirty || !(ts.filter flag).isEmpty } := by
  induction ts generalizing s with
  | nil => simp
  | cons t ts ih =>
    rw [List.foldl_cons, ih]
    by_cases ht : flag t = true
    · rw [if_pos ht, List.filter_cons_of_pos ht]
      simp [DirtyTiles.add, Function.comp_def]
    · rw [if_neg ht, List.filter_cons_of_neg ht]

theorem emit_eq {s : DirtyTiles} {t : TileRound} (ht : t.FitsRegion) : s.emit t = some (s.add t) := by
  obtain ⟨rects, region, hasDirty⟩ := s
  cases region with
  | none => rfl
  | some region => exact if_pos ht

/-- A tile ends within 16 bits. -/
theorem toNat_end (hf : f.WellFormed) (hr : r ∈ tiles 64 f.width f.height) :
    (UInt32.ofNat r.x + UInt32.ofNat r.width).toNat = r.x + r.width ∧
      (UInt32.ofNat r.y + UInt32.ofNat r.height).toNat = r.y + r.height := by
  obtain ⟨hx, hy, hw, hh, -, -⟩ := tile_small hr
  have hwidth := hf.width_le
  have hheight := hf.height_le
  constructor
  · rw [UInt32.toNat_add, toNat_small (by omega), toNat_small (by omega),
      Nat.mod_eq_of_lt (by omega)]
  · rw [UInt32.toNat_add, toNat_small (by omega), toNat_small (by omega),
      Nat.mod_eq_of_lt (by omega)]

theorem fitsRegion_roundOf (hf : f.WellFormed) (hr : r ∈ tiles 64 f.width f.height) :
    (roundOf f.width r).FitsRegion := by
  obtain ⟨hx, hy⟩ := tile_bounds (by omega) hr
  obtain ⟨hright, hbottom⟩ := toNat_end hf hr
  have hwidth := hf.width_le
  have hheight := hf.height_le
  have hmax : (65535 : UInt32).toNat = 65535 := rfl
  rw [TileRound.FitsRegion, roundOf, UInt32.le_iff_toNat_le, UInt32.le_iff_toNat_le, hright, hbottom,
    hmax]
  omega

/-- `collect_dirty_tiles` goes through the rounds and emits the tiles that are flagged. -/
theorem GfxDiff.FitsFrame.collectDirtyTiles_eq (hd : d.FitsFrame f) (hf : f.WellFormed)
    {dirtyFlags : Array Bool} (hflags : dirtyFlags.size = (d.gfxTilesX * d.gfxTilesY).toNat)
    (region : Option (List Rectangle16)) (rects : Option (List RfxRect)) :
    let dirty := (rounds f).filter fun t => dirtyFlags[t.index.toNat]?.getD false
    d.collectDirtyTiles dirtyFlags region rects = some (rounds f,
      { rects := rects.map (· ++ dirty.map TileRound.rfxRect)
        region := region.map (· ++ dirty.map TileRound.rectangle16)
        hasDirty := !dirty.isEmpty }) := by
  intro dirty
  let flag : TileRound → Bool := fun t => dirtyFlags[t.index.toNat]?.getD false
  rw [GfxDiff.collectDirtyTiles, if_neg (hd.hasTiles hf), if_neg (by simp [hflags])]
  have hloops := hd.loops hf (fun x y tileW tileH index (s : List TileRound × DirtyTiles) =>
      let round : TileRound := ⟨x, y, tileW, tileH, index⟩
      dirtyFlags[index.toNat]?.bind fun different =>
        if different then (s.2.emit round).map fun dirty => (s.1 ++ [round], dirty)
        else some (s.1 ++ [round], s.2))
    (fun s r => if flag (roundOf f.width r) then s.add (roundOf f.width r) else s)
    (by
      intro r hr s
      have hplace : (roundOf f.width r).index.toNat < dirtyFlags.size := by
        rw [(roundOf_toNat hf hr).2, hflags]
        exact hd.placeOf_lt hf hr
      have hflag : dirtyFlags[(roundOf f.width r).index.toNat]? =
          some (flag (roundOf f.width r)) := by
        simp [flag, Array.getElem?_eq_getElem hplace]
      show (dirtyFlags[(roundOf f.width r).index.toNat]?.bind fun different =>
        if different then (s.2.emit (roundOf f.width r)).map fun dirty =>
          (s.1 ++ [roundOf f.width r], dirty)
        else some (s.1 ++ [roundOf f.width r], s.2)) = _
      rw [hflag, Option.bind_some, emit_eq (fitsRegion_roundOf hf hr)]
      cases flag (roundOf f.width r) <;> rfl) ⟨rects, region, false⟩
  -- what was added, round by round
  have hadded := foldl_add flag (rounds f) ⟨rects, region, false⟩
  rw [rounds, List.foldl_map, ← rounds] at hadded
  rw [hadded] at hloops
  exact hloops

end Passes

end RemoteDesktop.DRD
