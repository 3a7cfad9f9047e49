import RemoteDesktop.LittleEndian
import RemoteDesktop.MixedHash
import RemoteDesktop.DRDEncodingManager

/-! What the hashed tile diff of `drd_encoding_manager.c` can miss. A step of the hash loses
nothing, so a change inside one chunk of a tile always changes the hash of the tile. -/
namespace RemoteDesktop.DRD

open TileGrid MixedHash

/-! One step of the hash. -/

theorem gfxRotl64_injective : Function.Injective fun x => gfxRotl64 x 29 := by
  intro x y h
  apply UInt64.toBitVec_inj.mp
  exact rotate_injective (show 29 < 64 by omega) (congrArg UInt64.toBitVec h)

theorem uint64_xorShift_injective {s : UInt64} (hs : 0 < s.toNat % 64) :
    Function.Injective fun x : UInt64 => x ^^^ x >>> s := by
  intro x y h
  apply UInt64.toBitVec_inj.mp
  exact xorShift_injective hs (congrArg UInt64.toBitVec h)

theorem uint64_mul_injective {c d : UInt64} (h : c * d = 1) :
    Function.Injective fun x : UInt64 => x * c := by
  intro x y hxy
  apply UInt64.toBitVec_inj.mp
  exact mul_injective (congrArg UInt64.toBitVec h) (congrArg UInt64.toBitVec hxy)

/-- On each hash, chunks are told apart: the three factors are odd, so each has an inverse. -/
theorem gfxMixChunk_chunk_injective (hash : UInt64) : Function.Injective (gfxMixChunk hash) := by
  intro x y h
  have hrotated := uint64_mul_injective (d := 0x0887493432badb37) (by decide) h
  have hxor := gfxRotl64_injective hrotated
  have hmixed := congrArg (hash ^^^ ·) hxor
  simp only [← UInt64.xor_assoc, UInt64.xor_self, UInt64.zero_xor] at hmixed
  -- backwards through the five steps on the chunk
  have h₄ := uint64_xorShift_injective (s := 31) (by decide) hmixed
  have h₃ := uint64_mul_injective (d := 0x319642b2d24d8ec3) (by decide) h₄
  have h₂ := uint64_xorShift_injective (s := 27) (by decide) h₃
  have h₁ := uint64_mul_injective (d := 0x96de1b173f119089) (by decide) h₂
  exact uint64_xorShift_injective (s := 30) (by decide) h₁

/-- On each chunk, hashes are told apart. -/
theorem gfxMixChunk_hash_injective (chunk : UInt64) :
    Function.Injective fun hash => gfxMixChunk hash chunk := by
  intro x y h
  have hrotated := uint64_mul_injective (d := 0x0887493432badb37) (by decide) h
  exact UInt64.xor_left_inj _ |>.mp (gfxRotl64_injective hrotated)

/-! The chunks of a row. -/

def chunkCount (n : ℕ) : ℕ :=
  (n + 7) / 8

/-- The chunk `k` of a row as it is mixed in: eight bytes, or what is left of the row and how much
that is. -/
def chunkWord (bytes : List UInt8) (k : ℕ) : UInt64 :=
  let chunk := slice bytes (8 * k) 8
  if chunk.length = 8 then readChunk chunk
  else readChunk chunk ^^^ UInt64.ofNat chunk.length <<< 56

theorem length_slice (data : List UInt8) (offset n : ℕ) :
    (slice data offset n).length = min n (data.length - offset) := by
  rw [slice, List.length_take, List.length_drop]

theorem chunkWord_full {bytes : List UInt8} {k : ℕ} (h : 8 * k + 8 ≤ bytes.length) :
    chunkWord bytes k = readChunk (slice bytes (8 * k) 8) := by
  have hlength : (slice bytes (8 * k) 8).length = 8 := by
    rw [length_slice]
    omega
  rw [chunkWord, if_pos hlength]

theorem chunkWord_drop (bytes : List UInt8) (i k : ℕ) :
    chunkWord (bytes.drop (8 * i)) k = chunkWord bytes (i + k) := by
  have hslice : slice (bytes.drop (8 * i)) (8 * k) 8 = slice bytes (8 * (i + k)) 8 := by
    rw [slice, slice, List.drop_drop, Nat.mul_add]
  rw [chunkWord, chunkWord, hslice]

/-- The loops over a row mix its chunks in, one after the other. -/
theorem gfxHashRow_eq {fuel : ℕ} {bytes : List UInt8} (h : bytes.length ≤ fuel) (hash : UInt64) :
    gfxHashRow fuel hash bytes =
      hashLoop (fun k hash => gfxMixChunk hash (chunkWord bytes k)) (chunkCount bytes.length)
        hash := by
  induction fuel generalizing bytes hash with
  | zero =>
    have hempty : chunkCount bytes.length = 0 := by
      rw [chunkCount]
      omega
    rw [hempty]
    rfl
  | succ fuel ih =>
    rw [gfxHashRow]
    by_cases h16 : 16 ≤ bytes.length
    · have hcount : chunkCount bytes.length = chunkCount (bytes.drop 16).length + 1 + 1 := by
        rw [List.length_drop, chunkCount, chunkCount]
        omega
      have hdrop : ∀ k, chunkWord bytes (k + 1 + 1) = chunkWord (bytes.drop 16) k := by
        intro k
        rw [show (16 : ℕ) = 8 * 2 from rfl, chunkWord_drop, Nat.add_comm 2 k]
      rw [if_pos h16, ih (by rw [List.length_drop]; omega), hcount, hashLoop_succ', hashLoop_succ']
      simp only [hdrop, chunkWord_full (show 8 * 0 + 8 ≤ bytes.length by omega),
        chunkWord_full (show 8 * (0 + 1) + 8 ≤ bytes.length by omega)]
    · rw [if_neg h16]
      by_cases h8 : 8 ≤ bytes.length
      · have hcount : chunkCount bytes.length = chunkCount (bytes.drop 8).length + 1 := by
          rw [List.length_drop, chunkCount, chunkCount]
          omega
        have hdrop : ∀ k, chunkWord bytes (k + 1) = chunkWord (bytes.drop 8) k := by
          intro k
          rw [show (8 : ℕ) = 8 * 1 from rfl, chunkWord_drop, Nat.add_comm 1 k]
        rw [if_pos h8, ih (by rw [List.length_drop]; omega), hcount, hashLoop_succ']
        simp only [hdrop, chunkWord_full (show 8 * 0 + 8 ≤ bytes.length by omega)]
      · rw [if_neg h8]
        by_cases h0 : 0 < bytes.length
        · -- the tail, which is the last chunk
          have hcount : chunkCount bytes.length = 0 + 1 := by
            rw [chunkCount]
            omega
          have hslice : slice bytes (8 * 0) 8 = bytes := by
            rw [slice, List.drop_zero, List.take_of_length_le (by omega)]
          rw [if_pos h0, hcount, hashLoop_succ', chunkWord, hslice, if_neg (by omega)]
          rfl
        · have hempty : chunkCount bytes.length = 0 := by
            rw [chunkCount]
            omega
          rw [if_neg h0, hempty]
          rfl

theorem gfxHashRow_injective (bytes : List UInt8) :
    Function.Injective fun hash => gfxHashRow bytes.length hash bytes := by
  intro x y h
  simp only [gfxHashRow_eq le_rfl] at h
  exact hashLoop_injective (fun k _ => gfxMixChunk_hash_injective (chunkWord bytes k)) h

/-- Up to eight bytes are read as the number that they are. -/
theorem readChunk_toNat {bytes : List UInt8} (h : bytes.length ≤ 8) :
    (readChunk bytes).toNat = littleEndian bytes := by
  induction bytes with
  | nil => rfl
  | cons b bytes ih =>
    have hb := b.toNat_lt
    have hlength : bytes.length ≤ 7 := by
      rw [List.length_cons] at h
      omega
    have hsmall : littleEndian bytes < 2 ^ 56 := by
      calc littleEndian bytes < 256 ^ bytes.length := littleEndian_lt bytes
        _ ≤ 256 ^ 7 := Nat.pow_le_pow_right (by omega) hlength
        _ = 2 ^ 56 := by norm_num
    have hstep : readChunk (b :: bytes) = readChunk bytes <<< 8 ||| b.toUInt64 := rfl
    have hshift : littleEndian bytes <<< 8 % 2 ^ 64 = littleEndian bytes <<< 8 := by
      apply Nat.mod_eq_of_lt
      rw [Nat.shiftLeft_eq]
      omega
    rw [hstep, UInt64.toNat_or, UInt64.toNat_shiftLeft, ih (by omega), UInt8.toNat_toUInt64,
      littleEndian, Nat.or_comm]
    simp only [UInt64.reduceToNat, Nat.reduceMod, hshift, or_shiftLeft_eq hb]
    omega

theorem readChunk_injective {bytes bytes' : List UInt8} (hlength : bytes.length = bytes'.length)
    (h8 : bytes.length ≤ 8) (h : readChunk bytes = readChunk bytes') : bytes = bytes' := by
  apply littleEndian_injective hlength
  rw [← readChunk_toNat h8, ← readChunk_toNat (hlength ▸ h8), h]

/-- In rows of one length the words tell the chunks apart. -/
theorem chunkWord_injective {bytes bytes' : List UInt8} (hlength : bytes.length = bytes'.length)
    {k : ℕ} (h : chunkWord bytes k = chunkWord bytes' k) :
    slice bytes (8 * k) 8 = slice bytes' (8 * k) 8 := by
  have hchunk : (slice bytes (8 * k) 8).length = (slice bytes' (8 * k) 8).length := by
    rw [length_slice, length_slice, hlength]
  have h8 : (slice bytes (8 * k) 8).length ≤ 8 := by
    rw [length_slice]
    exact min_le_left _ _
  apply readChunk_injective hchunk h8
  simp only [chunkWord, hchunk] at h
  split_ifs at h
  · exact h
  · exact (UInt64.xor_left_inj _).mp h

/-! The bytes of a tile. -/

/-- Byte `j` of a row of a tile. -/
def Frame.tileByte (f : Frame) (r : Rect) (row j : ℕ) : Option UInt8 :=
  f.data[(r.y + row) * f.stride + r.x * 4 + j]?

/-- Byte `j` of the row is a byte of the tile, and differs in the two frames. -/
structure Differs (f g : Frame) (r : Rect) (row j : ℕ) : Prop where
  row_lt : row < r.height
  byte_lt : j < r.width * 4
  differs : f.tileByte r row j ≠ g.tileByte r row j

/-- Two bytes of a tile are in one chunk: eight bytes of a row, or its last four. -/
def SameChunk (row j row' j' : ℕ) : Prop :=
  row = row' ∧ j / 8 = j' / 8

/-- The geometries are the same, down to the stride. -/
structure SameGeometry (f g : Frame) : Prop where
  width : g.width = f.width
  height : g.height = f.height
  stride : g.stride = f.stride

/-- A row of a tile. -/
def tileRow (data : List UInt8) (stride : ℕ) (r : Rect) (row : ℕ) : List UInt8 :=
  slice data ((r.y + row) * stride + r.x * 4) (r.width * 4)

theorem tileRows_eq (data : List UInt8) (stride : ℕ) (r : Rect) :
    tileRows data stride r = (List.range r.height).map (tileRow data stride r) := rfl

theorem gfxHashTile_eq (data : List UInt8) (stride : ℕ) (r : Rect) :
    gfxHashTile data stride r =
      hashLoop (fun row hash => gfxHashRow (tileRow data stride r row).length hash
        (tileRow data stride r row)) r.height 0xcbf29ce484222325 := by
  rw [gfxHashTile, gfxHashRows, tileRows_eq, List.foldl_map]
  rfl

theorem getElem?_slice (data : List UInt8) (offset n j : ℕ) :
    (slice data offset n)[j]? = if j < n then data[offset + j]? else none := by
  rw [slice, List.getElem?_take, List.getElem?_drop]

theorem getElem?_tileRow (f : Frame) (r : Rect) (row j : ℕ) :
    (tileRow f.data f.stride r row)[j]? = if j < r.width * 4 then f.tileByte r row j else none :=
  getElem?_slice ..

section Tile

variable {f g : Frame} {r : Rect}

/-- A row without a byte that differs is the same row. -/
theorem tileRow_eq (hstride : g.stride = f.stride) {row : ℕ} (hrow : row < r.height)
    (h : ∀ j, ¬ Differs f g r row j) :
    tileRow f.data f.stride r row = tileRow g.data f.stride r row := by
  apply List.ext_getElem?
  intro j
  rw [getElem?_tileRow, ← hstride, getElem?_tileRow]
  by_cases hj : j < r.width * 4
  · rw [if_pos hj, if_pos hj]
    by_contra hne
    exact h j ⟨hrow, hj, hne⟩
  · rw [if_neg hj, if_neg hj]

/-- So is a chunk. -/
theorem chunk_eq (hstride : g.stride = f.stride) {row k : ℕ} (hrow : row < r.height)
    (h : ∀ j, Differs f g r row j → j / 8 ≠ k) :
    slice (tileRow f.data f.stride r row) (8 * k) 8 =
      slice (tileRow g.data f.stride r row) (8 * k) 8 := by
  apply List.ext_getElem?
  intro i
  rw [getElem?_slice, getElem?_slice, getElem?_tileRow, ← hstride, getElem?_tileRow]
  by_cases hi : i < 8
  · rw [if_pos hi, if_pos hi]
    by_cases hj : 8 * k + i < r.width * 4
    · rw [if_pos hj, if_pos hj]
      by_contra hne
      have hk : (8 * k + i) / 8 = k := by omega
      exact h (8 * k + i) ⟨hrow, hj, hne⟩ hk
    · rw [if_neg hj, if_neg hj]
  · rw [if_neg hi, if_neg hi]

theorem chunk_ne (hstride : g.stride = f.stride) {row j : ℕ} (h : Differs f g r row j) :
    slice (tileRow f.data f.stride r row) (8 * (j / 8)) 8 ≠
      slice (tileRow g.data f.stride r row) (8 * (j / 8)) 8 := by
  intro heq
  have hbyte := congrArg (fun bytes : List UInt8 => bytes[j % 8]?) heq
  have hplace : 8 * (j / 8) + j % 8 = j := Nat.div_add_mod j 8
  have hlast : j % 8 < 8 := Nat.mod_lt _ (by omega)
  simp only [getElem?_slice, if_pos hlast, hplace] at hbyte
  rw [getElem?_tileRow, ← hstride, getElem?_tileRow, if_pos h.byte_lt, if_pos h.byte_lt] at hbyte
  exact h.differs hbyte

theorem gfxHashTile_eq_of_same (hstride : g.stride = f.stride)
    (h : ∀ row j, ¬ Differs f g r row j) :
    gfxHashTile f.data f.stride r = gfxHashTile g.data f.stride r := by
  rw [gfxHashTile_eq, gfxHashTile_eq]
  apply hashLoop_congr
  intro row hrow
  rw [tileRow_eq hstride hrow (h row)]

/-- A change inside one chunk changes the hash. The rounds after it cannot undo that, as each is
injective in the hash. -/
theorem gfxHashTile_ne (hstride : g.stride = f.stride) (hlength : f.data.length = g.data.length)
    {row j : ℕ} (h : Differs f g r row j)
    (hone : ∀ row' j', Differs f g r row' j' → SameChunk row j row' j') :
    gfxHashTile f.data f.stride r ≠ gfxHashTile g.data f.stride r := by
  rw [gfxHashTile_eq, gfxHashTile_eq]
  apply hashLoop_ne (fun row _ => gfxHashRow_injective _) h.row_lt
  · -- the other rows are the same
    intro row' hrow' hne
    have hsame := tileRow_eq hstride hrow' fun j' hdiffers => hne (hone row' j' hdiffers).1.symm
    rw [hsame]
  · intro hash
    have hrows : (tileRow f.data f.stride r row).length = (tileRow g.data f.stride r row).length := by
      rw [tileRow, tileRow, length_slice, length_slice, hlength]
    have hcount : j / 8 < chunkCount (tileRow f.data f.stride r row).length := by
      have hbyte : j < (tileRow f.data f.stride r row).length := by
        by_contra hnot
        have hnone := List.getElem?_eq_none (not_lt.mp hnot)
        have hnone' := List.getElem?_eq_none (hrows ▸ not_lt.mp hnot)
        rw [getElem?_tileRow, if_pos h.byte_lt] at hnone
        rw [← hstride, getElem?_tileRow, if_pos h.byte_lt] at hnone'
        exact h.differs (hnone.trans hnone'.symm)
      rw [chunkCount]
      omega
    rw [gfxHashRow_eq le_rfl, gfxHashRow_eq le_rfl, ← hrows]
    apply hashLoop_ne (fun k _ => gfxMixChunk_hash_injective _) hcount
    · -- and so are the other chunks of this row
      intro k _ hne
      have hsame := chunk_eq (k := k) hstride h.row_lt fun j' hdiffers hk =>
        hne ((hone row j' hdiffers).2.trans hk).symm
      funext hash
      simp only [chunkWord, hsame]
    · intro hash heq
      have hword := gfxMixChunk_chunk_injective hash heq
      exact chunk_ne hstride h (chunkWord_injective hrows hword)

end Tile

/-! The pass over all tiles. -/

namespace EncodingManager

/-- `analyze_tiles` as the loop it is: the dirty flags and `changed_tiles`. -/
def analyzeTilesLoop (m : EncodingManager) (data : List UInt8) (previous : Option (List UInt8))
    (stride : ℕ) : (ℕ → Bool) × ℕ :=
  if m.gfxTilesX = 0 ∨ m.gfxTilesY = 0 ∨ m.gfxDiffWidth = 0 ∨ m.gfxDiffHeight = 0 then
    (fun _ => false, 0)
  else
    m.diffTiles.foldl (fun (dirty, changed) r =>
      let different := m.tileDiffers data previous stride r
      (Function.update dirty (m.tileIndex r) different,
        if different then changed + 1 else changed)) (fun _ => false, 0)

/-- The manager that has a frame and its hashes as those of the previous frame. -/
def remember (m : EncodingManager) (f : Frame) : EncodingManager :=
  ((m.prepareGfxDiffState f.width f.height f.stride).storePreviousFrame f.data f.stride
    f.height).updateTileHashes f.data f.stride

end EncodingManager

theorem foldl_flags_count (place : Rect → ℕ) (differs : Rect → Bool) (rs : List Rect)
    (dirty : ℕ → Bool) (changed : ℕ) :
    rs.foldl (fun (s : (ℕ → Bool) × ℕ) r =>
        (Function.update s.1 (place r) (differs r), if differs r then s.2 + 1 else s.2))
        (dirty, changed) =
      (fill place differs dirty rs, changed + rs.countP differs) := by
  induction rs generalizing dirty changed with
  | nil => rfl
  | cons r rs ih =>
    rw [List.foldl_cons, ih, fill, fill, List.foldl_cons, List.countP_cons]
    by_cases hr : differs r = true
    · rw [if_pos hr, if_pos hr, Nat.add_comm (rs.countP differs), ← Nat.add_assoc]
    · rw [if_neg hr, if_neg hr, Nat.add_zero]

/-- `changed_tiles` is how many tiles differ. -/
theorem analyzeTilesLoop_count {m : EncodingManager} {data : List UInt8}
    {previous : Option (List UInt8)} {stride : ℕ}
    (hnotEmpty : ¬ (m.gfxTilesX = 0 ∨ m.gfxTilesY = 0 ∨ m.gfxDiffWidth = 0 ∨ m.gfxDiffHeight = 0)) :
    (m.analyzeTilesLoop data previous stride).2 =
      m.diffTiles.countP (m.tileDiffers data previous stride) := by
  have hloop := foldl_flags_count m.tileIndex (m.tileDiffers data previous stride) m.diffTiles
    (fun _ => false) 0
  have hcount := congrArg Prod.snd hloop
  rw [Nat.zero_add] at hcount
  rw [EncodingManager.analyzeTilesLoop, if_neg hnotEmpty]
  exact hcount

/-- The flags of the loop are those of `analyzeTiles`, and its count is what the threshold is
asked about. -/
theorem analyzeTilesLoop_eq (m : EncodingManager) (data : List UInt8)
    (previous : Option (List UInt8)) (stride : ℕ) :
    (m.analyzeTilesLoop data previous stride).1 = (m.analyzeTiles data previous stride).1 ∧
      (¬ (m.gfxTilesX = 0 ∨ m.gfxTilesY = 0 ∨ m.gfxDiffWidth = 0 ∨ m.gfxDiffHeight = 0) →
        (m.analyzeTiles data previous stride).2 =
          m.gfxLargeChangeThreshold (m.analyzeTilesLoop data previous stride).2
            (m.gfxTilesX * m.gfxTilesY)) := by
  constructor
  · rw [EncodingManager.analyzeTilesLoop, EncodingManager.analyzeTiles]
    by_cases hempty : m.gfxTilesX = 0 ∨ m.gfxTilesY = 0 ∨ m.gfxDiffWidth = 0 ∨ m.gfxDiffHeight = 0
    · rw [if_pos hempty, if_pos hempty]
    · have hloop := foldl_flags_count m.tileIndex (m.tileDiffers data previous stride) m.diffTiles
        (fun _ => false) 0
      rw [if_neg hempty, if_neg hempty]
      exact congrArg Prod.fst hloop
  · intro hnotEmpty
    rw [analyzeTilesLoop_count hnotEmpty, EncodingManager.analyzeTiles, if_neg hnotEmpty]

section Remember

variable {f : Frame}

/-- What is known of a manager that remembers a frame. -/
structure Remembers (m : EncodingManager) (f : Frame) : Prop where
  previousFrame : m.gfxPreviousFrame = f.data
  width : m.gfxDiffWidth = f.width
  height : m.gfxDiffHeight = f.height
  tilesX : m.gfxTilesX = count 64 f.width
  tilesY : m.gfxTilesY = count 64 f.height
  hashes : ∀ r ∈ m.diffTiles, m.gfxTileHashes (m.tileIndex r) = gfxHashTile f.data f.stride r

theorem remembers (m₀ : EncodingManager) (hw : f.WellFormed) : Remembers (m₀.remember f) f := by
  have hdata : f.data.take (f.stride * f.height) = f.data := by
    rw [← hw.length, List.take_length]
  -- the state was right already, or is built anew
  obtain ⟨hwidth, hheight, htilesX, htilesY⟩ :
      (m₀.prepareGfxDiffState f.width f.height f.stride).gfxDiffWidth = f.width ∧
      (m₀.prepareGfxDiffState f.width f.height f.stride).gfxDiffHeight = f.height ∧
      (m₀.prepareGfxDiffState f.width f.height f.stride).gfxTilesX = count 64 f.width ∧
      (m₀.prepareGfxDiffState f.width f.height f.stride).gfxTilesY = count 64 f.height := by
    rw [EncodingManager.prepareGfxDiffState]
    split
    · rename_i hsame
      obtain ⟨hgeometry, htiles, -⟩ := hsame
      simp only [not_or, not_not] at hgeometry htiles
      exact ⟨hgeometry.1, hgeometry.2.1, htiles.1, htiles.2⟩
    · exact ⟨rfl, rfl, rfl, rfl⟩
  rw [EncodingManager.remember]
  generalize m₀.prepareGfxDiffState f.width f.height f.stride = m at *
  have hx : 0 < count 64 f.width := (lt_count_iff (by decide)).mpr hw.width_pos
  have hy : 0 < count 64 f.height := (lt_count_iff (by decide)).mpr hw.height_pos
  have htiles : ¬ (m.gfxTilesX = 0 ∨ m.gfxTilesY = 0) := by omega
  rw [EncodingManager.storePreviousFrame, hdata, EncodingManager.updateTileHashes, if_neg htiles]
  refine ⟨rfl, hwidth, hheight, htilesX, htilesY, ?_⟩
  intro r hr
  apply fill_tiles _ _ (show 0 < 64 by omega) _ _ hr
  intro r'
  have hcolumns : m.gfxTilesX = count 64 m.gfxDiffWidth := by rw [htilesX, hwidth]
  show r'.y / 64 * m.gfxTilesX + r'.x / 64 = r'.y / 64 * count 64 m.gfxDiffWidth + r'.x / 64
  rw [hcolumns]

end Remember

/-! What the flags say. -/

section Flags

variable {m : EncodingManager} {f g : Frame} {r : Rect}

theorem Remembers.hasTiles (h : Remembers m f) (hw : f.WellFormed) :
    ¬ (m.gfxTilesX = 0 ∨ m.gfxTilesY = 0 ∨ m.gfxDiffWidth = 0 ∨ m.gfxDiffHeight = 0) := by
  have hx : 0 < count 64 f.width := (lt_count_iff (by decide)).mpr hw.width_pos
  have hy : 0 < count 64 f.height := (lt_count_iff (by decide)).mpr hw.height_pos
  have hwidth := hw.width_pos
  have hheight := hw.height_pos
  rw [h.tilesX, h.tilesY, h.width, h.height]
  omega

theorem Remembers.tileIndex (h : Remembers m f) :
    m.tileIndex = fun r => index 64 m.gfxDiffWidth r.x r.y := by
  funext r
  rw [EncodingManager.tileIndex, index, h.tilesX, h.width]

/-- The flag of a tile is the verdict on it. -/
theorem Remembers.flag (h : Remembers m f) (hw : f.WellFormed) (hr : r ∈ m.diffTiles) :
    (m.analyzeTilesLoop g.data (some m.gfxPreviousFrame) g.stride).1 (m.tileIndex r) =
      m.tileDiffers g.data (some m.gfxPreviousFrame) g.stride r := by
  rw [(analyzeTilesLoop_eq m g.data (some m.gfxPreviousFrame) g.stride).1,
    EncodingManager.analyzeTiles, if_neg (h.hasTiles hw)]
  exact fill_tiles _ _ (show 0 < 64 by omega) (fun r => congrFun h.tileIndex r) _ hr

/-- The verdict, by the hashes of the two frames and by their rows. -/
theorem Remembers.tileDiffers (h : Remembers m f) (hstride : g.stride = f.stride)
    (hr : r ∈ m.diffTiles) :
    m.tileDiffers g.data (some m.gfxPreviousFrame) g.stride r =
      (gfxHashTile f.data f.stride r != gfxHashTile g.data f.stride r &&
        rowsDiffer f.data g.data f.stride r) := by
  rw [EncodingManager.tileDiffers, h.hashes r hr, h.previousFrame, hstride]

/-- `changed_tiles` is how many flags are set. -/
theorem Remembers.changed (h : Remembers m f) (hw : f.WellFormed) :
    (m.analyzeTilesLoop g.data (some m.gfxPreviousFrame) g.stride).2 =
      (List.range (m.gfxTilesX * m.gfxTilesY)).countP
        (m.analyzeTilesLoop g.data (some m.gfxPreviousFrame) g.stride).1 := by
  have hplaces : m.diffTiles.map m.tileIndex = List.range (m.gfxTilesX * m.gfxTilesY) := by
    rw [h.tileIndex, EncodingManager.diffTiles, tiles_map_index (by omega), h.tilesX, h.tilesY,
      h.width, h.height]
  rw [analyzeTilesLoop_count (h.hasTiles hw), ← hplaces, List.countP_map]
  apply List.countP_congr
  intro r hr
  rw [Function.comp_apply, h.flag hw hr]

theorem SameGeometry.length_eq (hgeometry : SameGeometry f g) (hf : f.WellFormed)
    (hg : g.WellFormed) : f.data.length = g.data.length := by
  rw [hf.length, hg.length, hgeometry.stride, hgeometry.height]

/-- Rows without a difference are equal, and else a tile inside the frame is compared unequal. -/
theorem rowsDiffer_of_differs (hgeometry : SameGeometry f g) (hg : g.WellFormed)
    (hr : r ∈ tiles 64 g.width g.height) {row j : ℕ} (h : Differs f g r row j) :
    rowsDiffer f.data g.data f.stride r = true := by
  by_contra hsame
  rw [← hgeometry.stride] at hsame
  obtain ⟨hx, hy⟩ := tile_bounds (by omega) hr
  have hrows := tileRows_eq_of_not_differ hg hx hy (Bool.eq_false_iff.mpr hsame)
  rw [tileRows_eq, tileRows_eq] at hrows
  have hrow := List.map_inj_left.mp hrows row (List.mem_range.mpr h.row_lt)
  have hbyte := congrArg (fun bytes : List UInt8 => bytes[j]?) hrow
  rw [getElem?_tileRow g, hgeometry.stride, getElem?_tileRow f, if_pos h.byte_lt,
    if_pos h.byte_lt] at hbyte
  exact h.differs hbyte

end Flags

/-- What `analyze_tiles` says of a tile, with the frame `f` remembered and `g` analysed. -/
structure TileVerdict (f g : Frame) (r : Rect) (flag : Bool) : Prop where
  unchanged : (∀ row j, ¬ Differs f g r row j) → flag = false
  localized : ∀ row j, Differs f g r row j →
    (∀ row' j', Differs f g r row' j' → SameChunk row j row' j') → flag = true
  missed : ∀ row j, Differs f g r row j → flag = false →
    ∃ row' j', Differs f g r row' j' ∧ ¬ SameChunk row j row' j'

/-- The hashed diff never flags a tile that is the same, and flags each tile that is changed in one
chunk only; `changed_tiles` is the number of tiles flagged. -/
theorem tile_diff_verdicts (m₀ : EncodingManager) (f g : Frame) (hf : f.WellFormed)
    (hg : g.WellFormed) (hgeometry : SameGeometry f g) :
    let m := m₀.remember f
    let result := m.analyzeTilesLoop g.data (some m.gfxPreviousFrame) g.stride
    (∀ r ∈ tiles 64 g.width g.height, TileVerdict f g r (result.1 (m.tileIndex r))) ∧
      result.2 = ((List.range (m.gfxTilesX * m.gfxTilesY)).filter result.1).length := by
  have hm := remembers m₀ hf
  generalize m₀.remember f = m at hm
  have hlength := hgeometry.length_eq hf hg
  refine ⟨?_, ?_⟩
  · intro r hr
    have hmem : r ∈ m.diffTiles := by
      rw [EncodingManager.diffTiles, hm.width, hm.height, ← hgeometry.width, ← hgeometry.height]
      exact hr
    rw [hm.flag hf hmem, hm.tileDiffers hgeometry.stride hmem]
    -- a tile with one changed chunk has another hash, and its rows are found to differ
    have hlocalized : ∀ row j, Differs f g r row j →
        (∀ row' j', Differs f g r row' j' → SameChunk row j row' j') →
        (gfxHashTile f.data f.stride r != gfxHashTile g.data f.stride r &&
          rowsDiffer f.data g.data f.stride r) = true := by
      intro row j hdiffers hone
      rw [Bool.and_eq_true, bne_iff_ne]
      exact ⟨gfxHashTile_ne hgeometry.stride hlength hdiffers hone,
        rowsDiffer_of_differs hgeometry hg hr hdiffers⟩
    refine ⟨?_, hlocalized, ?_⟩
    · intro hsame
      rw [gfxHashTile_eq_of_same hgeometry.stride hsame, bne_self_eq_false, Bool.false_and]
    · intro row j hdiffers hflag
      by_contra hall
      push Not at hall
      have hset := hlocalized row j hdiffers hall
      rw [hflag] at hset
      cases hset
  · rw [hm.changed hf, List.countP_eq_length_filter]

theorem cornerPixel_geometry (byte byte' : UInt8) :
    SameGeometry (cornerPixel byte).1 (cornerPixel byte').1 where
  width := show 65 = 65 from rfl
  height := show 65 = 65 from rfl
  stride := show 260 = 260 from rfl

/-- Only the last four bytes of these frames differ. -/
theorem cornerPixel_differs {r : Rect} {row j : ℕ}
    (h : Differs (cornerPixel 0).1 (cornerPixel 1).1 r row j) :
    16896 ≤ (r.y + row) * 260 + r.x * 4 + j := by
  by_contra hblack
  have hbyte (byte : UInt8) : (cornerPixel byte).1.tileByte r row j = some 0 := by
    change (List.replicate 16896 0 ++ [byte, byte, byte, 0])[(r.y + row) * 260 + r.x * 4 + j]? = _
    rw [List.getElem?_append_left (by rw [List.length_replicate]; omega),
      List.getElem?_replicate, if_pos (by omega)]
  exact h.differs ((hbyte 0).trans (hbyte 1).symm)

theorem cornerPixel_corner : Differs (cornerPixel 0).1 (cornerPixel 1).1 ⟨64, 64, 1, 1⟩ 0 0 where
  row_lt := by decide
  byte_lt := by decide
  differs := by
    have hbyte (byte : UInt8) :
        (cornerPixel byte).1.tileByte ⟨64, 64, 1, 1⟩ 0 0 = some byte := by
      change (List.replicate 16896 0 ++ [byte, byte, byte, 0])[16896]? = _
      rw [List.getElem?_append_right (List.length_replicate ..).le, List.length_replicate]
      rfl
    rw [hbyte, hbyte]
    decide

/-- Of four tiles the one in the corner is flagged, and no other. -/
theorem tile_diff_verdicts_corner :
    let m := EncodingManager.remember {} (cornerPixel 0).1
    let result := m.analyzeTilesLoop (cornerPixel 1).1.data (some m.gfxPreviousFrame)
      (cornerPixel 1).1.stride
    (∀ r ∈ tiles 64 65 65, result.1 (m.tileIndex r) = decide (r = ⟨64, 64, 1, 1⟩)) ∧
      result.2 = ((List.range (m.gfxTilesX * m.gfxTilesY)).filter result.1).length := by
  obtain ⟨hverdicts, hcount⟩ := tile_diff_verdicts {} (cornerPixel 0).1 (cornerPixel 1).1
    (cornerPixel 0).2 (cornerPixel 1).2 (cornerPixel_geometry 0 1)
  refine ⟨?_, hcount⟩
  intro r hr
  have hverdict := hverdicts r hr
  have hfour : tiles 64 65 65 =
      [⟨0, 0, 64, 64⟩, ⟨64, 0, 1, 64⟩, ⟨0, 64, 64, 1⟩, ⟨64, 64, 1, 1⟩] := by decide
  rw [hfour] at hr
  by_cases hcorner : r = ⟨64, 64, 1, 1⟩
  · subst hcorner
    rw [decide_eq_true rfl]
    apply hverdict.localized 0 0 cornerPixel_corner
    rintro row j ⟨hrow, hj, _⟩
    dsimp only at hrow hj
    exact ⟨by omega, by omega⟩
  · rw [decide_eq_false hcorner]
    apply hverdict.unchanged
    intro row j hdiffers
    have hplace := cornerPixel_differs hdiffers
    obtain ⟨hrow, hj, _⟩ := hdiffers
    simp only [List.mem_cons, List.not_mem_nil, or_false, hcorner] at hr
    obtain rfl | rfl | rfl := hr <;> dsimp only at hrow hj hplace <;> omega

end RemoteDesktop.DRD
