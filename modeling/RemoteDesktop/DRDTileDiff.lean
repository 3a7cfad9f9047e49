import RemoteDesktop.TileGrid

/-! The frames of `drd_frame.c` and the tile hashes of `drd_encoding_manager.c`. -/
namespace RemoteDesktop.DRD

open TileGrid

structure Frame where
  width : ℕ
  height : ℕ
  stride : ℕ
  data : List UInt8
  deriving DecidableEq

/-- What the capture delivers: BGRX rows of `stride` bytes. -/
structure Frame.WellFormed (f : Frame) : Prop where
  width_pos : 1 ≤ f.width
  width_le : f.width ≤ 65535
  height_pos : 1 ≤ f.height
  height_le : f.height ≤ 65535
  stride : 4 * f.width ≤ f.stride
  length : f.data.length = f.stride * f.height
  size : f.stride * f.height < 2 ^ 32

instance (f : Frame) : Decidable f.WellFormed :=
  decidable_of_iff (1 ≤ f.width ∧ f.width ≤ 65535 ∧ 1 ≤ f.height ∧ f.height ≤ 65535 ∧
    4 * f.width ≤ f.stride ∧ f.data.length = f.stride * f.height ∧ f.stride * f.height < 2 ^ 32)
    ⟨fun ⟨h₁, h₂, h₃, h₄, h₅, h₆, h₇⟩ => ⟨h₁, h₂, h₃, h₄, h₅, h₆, h₇⟩,
      fun h => ⟨h.1, h.2, h.3, h.4, h.5, h.6, h.7⟩⟩

/-- The smallest frame, of one grey pixel. -/
def onePixel (byte : UInt8) : { f : Frame // f.WellFormed } :=
  ⟨{ width := 1, height := 1, stride := 4, data := [byte, byte, byte, 0] },
    by constructor <;> simp⟩

/-- A frame of four tiles. It is black but for the pixel in the corner, a tile of its own. -/
def cornerPixel (byte : UInt8) : { f : Frame // f.WellFormed } :=
  ⟨{ width := 65, height := 65, stride := 260
     data := List.replicate 16896 0 ++ [byte, byte, byte, 0] },
    by constructor <;> simp only [List.length_append, List.length_replicate, List.length_cons,
      List.length_nil] <;> decide⟩

/-- The bytes that a pointer and a length cover. -/
def slice (data : List UInt8) (offset length : ℕ) : List UInt8 :=
  (data.drop offset).take length

def Frame.pixel (f : Frame) (x y : ℕ) : List UInt8 :=
  slice f.data (y * f.stride + x * 4) 4

/-- A slice of a slice is a slice. -/
theorem slice_slice (data : List UInt8) {offset length i n : ℕ} (h : i + n ≤ length) :
    slice (slice data offset length) i n = slice data (offset + i) n := by
  rw [slice, slice, slice, List.drop_take, List.drop_drop, List.take_take, Nat.min_eq_left (by omega)]

def gfxRotl64 (value shift : UInt64) : UInt64 :=
  value <<< shift ||| value >>> (64 - shift)

def gfxMixChunk (hash chunk : UInt64) : UInt64 :=
  let chunk := chunk ^^^ chunk >>> 30
  let chunk := chunk * 0xbf58476d1ce4e5b9
  let chunk := chunk ^^^ chunk >>> 27
  let chunk := chunk * 0x94d049bb133111eb
  let chunk := chunk ^^^ chunk >>> 31
  gfxRotl64 (hash ^^^ chunk) 29 * 0x9e3779b185ebca87

/-- `memcpy` into a `guint64` that is 0, on a little-endian machine. -/
def readChunk (bytes : List UInt8) : UInt64 :=
  bytes.foldr (fun byte chunk => chunk <<< 8 ||| byte.toUInt64) 0

/-- The two loops over a row and its tail. Each round takes bytes off, so the number
of bytes is fuel enough. -/
def gfxHashRow : ℕ → UInt64 → List UInt8 → UInt64
  | 0, hash, _ => hash
  | fuel + 1, hash, bytes =>
    if 16 ≤ bytes.length then
      let hash := gfxMixChunk hash (readChunk (slice bytes 0 8))
      gfxHashRow fuel (gfxMixChunk hash (readChunk (slice bytes 8 8))) (bytes.drop 16)
    else if 8 ≤ bytes.length then
      gfxHashRow fuel (gfxMixChunk hash (readChunk (slice bytes 0 8))) (bytes.drop 8)
    else if 0 < bytes.length then
      gfxMixChunk hash (readChunk bytes ^^^ UInt64.ofNat bytes.length <<< 56)
    else hash

/-- The rows of a tile. -/
def tileRows (data : List UInt8) (stride : ℕ) (r : Rect) : List (List UInt8) :=
  (List.range r.height).map fun row => slice data ((r.y + row) * stride + r.x * 4) (r.width * 4)

def gfxHashRows (rows : List (List UInt8)) : UInt64 :=
  rows.foldl (fun hash row => gfxHashRow row.length hash row) 0xcbf29ce484222325

def gfxHashTile (data : List UInt8) (stride : ℕ) (r : Rect) : UInt64 :=
  gfxHashRows (tileRows data stride r)

/-- The `memcmp` loop. Its offsets are `guint`. -/
def rowsDiffer (previous data : List UInt8) (stride : ℕ) (r : Rect) : Bool :=
  (List.range r.height).any fun row =>
    let offset := ((r.y + row) * stride + r.x * 4) % 2 ^ 32
    slice previous offset (r.width * 4) != slice data offset (r.width * 4)

/-- A row of a tile of the frame ends inside the frame. -/
theorem Frame.WellFormed.offset_lt {f : Frame} (h : f.WellFormed) {r : Rect}
    (hx : r.x + r.width ≤ f.width) (hy : r.y + r.height ≤ f.height) {row : ℕ} (hrow : row < r.height)
    (hwidth : 0 < r.width) : (r.y + row) * f.stride + r.x * 4 < 2 ^ 32 := by
  have hstride := h.stride
  have hsize := h.size
  have hlast : (r.y + row + 1) * f.stride ≤ f.height * f.stride :=
    Nat.mul_le_mul_right _ (by omega)
  rw [Nat.add_mul, Nat.one_mul, Nat.mul_comm f.height] at hlast
  omega

/-- Tiles that the comparison finds equal have equal rows. -/
theorem tileRows_eq_of_not_differ {f : Frame} (h : f.WellFormed) {r : Rect}
    (hx : r.x + r.width ≤ f.width) (hy : r.y + r.height ≤ f.height) {previous : List UInt8}
    (hsame : rowsDiffer previous f.data f.stride r = false) :
    tileRows previous f.stride r = tileRows f.data f.stride r := by
  apply List.map_congr_left
  intro row hrow
  have hrow' : row < r.height := List.mem_range.mp hrow
  rcases Nat.eq_zero_or_pos r.width with hzero | hpos
  · rw [hzero, slice, slice, Nat.zero_mul, List.take_zero, List.take_zero]
  · -- inside the frame the `guint` offset of the loop does not wrap
    have hoffset := h.offset_lt hx hy hrow' hpos
    have hcmp := List.any_eq_false.mp hsame row hrow
    simp only [bne_iff_ne, ne_eq, not_not, Nat.mod_eq_of_lt hoffset] at hcmp
    exact hcmp

/-- Inside a frame the `memcmp` loop compares the rows of the tile. -/
theorem rowsDiffer_iff {f : Frame} (h : f.WellFormed) {r : Rect} (hx : r.x + r.width ≤ f.width)
    (hy : r.y + r.height ≤ f.height) {previous : List UInt8} :
    rowsDiffer previous f.data f.stride r = true ↔
      tileRows previous f.stride r ≠ tileRows f.data f.stride r := by
  constructor
  · intro hdiffer hrows
    obtain ⟨row, hrow, hcmp⟩ := List.any_eq_true.mp hdiffer
    have hsame := List.map_inj_left.mp hrows row hrow
    rcases Nat.eq_zero_or_pos r.width with hzero | hpos
    · simp [hzero, slice] at hcmp
    · have hoffset := h.offset_lt hx hy (List.mem_range.mp hrow) hpos
      simp only [Nat.mod_eq_of_lt hoffset, bne_iff_ne, ne_eq] at hcmp
      exact hcmp hsame
  · intro hrows
    by_contra hsame
    exact hrows (tileRows_eq_of_not_differ h hx hy (Bool.eq_false_iff.mpr hsame))

/-- Tiles with equal rows have equal pixels. -/
theorem pixel_eq_of_tileRows {f g : Frame} (hstride : f.stride = g.stride) {r : Rect} {x y : ℕ}
    (hrows : tileRows f.data f.stride r = tileRows g.data g.stride r) (hin : r.Contains x y) :
    f.pixel x y = g.pixel x y := by
  obtain ⟨hx, hx', hy, hy'⟩ := hin
  have hrow := List.map_inj_left.mp (hstride ▸ hrows) (y - r.y) (List.mem_range.mpr (by omega))
  have hpixel (data : List UInt8) : slice (slice data ((r.y + (y - r.y)) * g.stride + r.x * 4)
      (r.width * 4)) ((x - r.x) * 4) 4 = slice data (y * g.stride + x * 4) 4 := by
    rw [slice_slice data (by omega), show r.y + (y - r.y) = y by omega]
    congr 1
    omega
  calc f.pixel x y = slice f.data (y * g.stride + x * 4) 4 := by rw [Frame.pixel, hstride]
    _ = slice g.data (y * g.stride + x * 4) 4 := by rw [← hpixel, hrow, hpixel]
    _ = g.pixel x y := rfl

end RemoteDesktop.DRD
