import Mathlib.Tactic

/-! Grids of square tiles over a picture, and the patching of a picture tile by
tile. The last tile of a row or a column may be cut off by the border. -/
namespace RemoteDesktop.TileGrid

/-- A half-open rectangle. -/
structure Rect where
  x : ℕ
  y : ℕ
  width : ℕ
  height : ℕ
  deriving DecidableEq, Repr

def Rect.Contains (r : Rect) (x y : ℕ) : Prop :=
  r.x ≤ x ∧ x < r.x + r.width ∧ r.y ≤ y ∧ y < r.y + r.height

instance (r : Rect) (x y : ℕ) : Decidable (r.Contains x y) :=
  inferInstanceAs (Decidable (_ ∧ _ ∧ _ ∧ _))

/-- How many tiles of edge `k` a length `n` takes. -/
def count (k n : ℕ) : ℕ := (n + (k - 1)) / k

/-- The values of a loop `for (v = 0; v < n; v += k)`. -/
def starts (k n : ℕ) : List ℕ := (List.range (count k n)).map (k * ·)

/-- The tile that starts at `(x, y)`. -/
def tile (k w h x y : ℕ) : Rect := ⟨x, y, min k (w - x), min k (h - y)⟩

/-- The tiles of a `w × h` picture, row by row. -/
def tiles (k w h : ℕ) : List Rect :=
  (starts k h).flatMap fun y => (starts k w).map fun x => tile k w h x y

/-- The place of a tile in an array that holds the tiles row by row. -/
def index (k w x y : ℕ) : ℕ := y / k * count k w + x / k

variable {k n w h x y : ℕ}

theorem lt_count_iff (hk : 0 < k) {i : ℕ} : i < count k n ↔ k * i < n := by
  rw [count, Nat.lt_div_iff_mul_lt hk]
  have hcomm : i * k = k * i := Nat.mul_comm i k
  omega

theorem mem_starts (hk : 0 < k) {v : ℕ} : v ∈ starts k n ↔ v < n ∧ k ∣ v := by
  simp only [starts, List.mem_map, List.mem_range]
  constructor
  · rintro ⟨i, hi, rfl⟩
    exact ⟨(lt_count_iff hk).mp hi, Nat.dvd_mul_right k i⟩
  · rintro ⟨hv, i, rfl⟩
    exact ⟨i, (lt_count_iff hk).mpr hv, rfl⟩

theorem mem_tiles (hk : 0 < k) {r : Rect} : r ∈ tiles k w h ↔
    ∃ x y, (x < w ∧ k ∣ x) ∧ (y < h ∧ k ∣ y) ∧ r = tile k w h x y := by
  simp only [tiles, List.mem_flatMap, List.mem_map, mem_starts hk]
  constructor
  · rintro ⟨y, hy, x, hx, rfl⟩
    exact ⟨x, y, hx, hy, rfl⟩
  · rintro ⟨x, y, hx, hy, rfl⟩
    exact ⟨y, hy, x, hx, rfl⟩

/-- Every point of a length lies in the interval of one start. -/
theorem exists_start (hk : 0 < k) {v : ℕ} (hv : v < n) :
    ∃ s, (s < n ∧ k ∣ s) ∧ s ≤ v ∧ v < s + min k (n - s) := by
  have hle : k * (v / k) ≤ v := Nat.mul_div_le v k
  have hlt : v < k * (v / k) + k := Nat.lt_mul_div_succ v hk
  -- the start is the multiple of `k` at or below `v`; the border may cut its tile
  refine ⟨k * (v / k), ⟨by omega, Nat.dvd_mul_right k _⟩, hle, ?_⟩
  rcases le_total k (n - k * (v / k)) with hmin | hmin
  · rwa [min_eq_left hmin]
  · rw [min_eq_right hmin]
    omega

/-- The tiles cover the picture. -/
theorem exists_tile (hk : 0 < k) (hx : x < w) (hy : y < h) :
    ∃ r ∈ tiles k w h, r.Contains x y := by
  obtain ⟨sx, hsx, hlx, hux⟩ := exists_start hk hx
  obtain ⟨sy, hsy, hly, huy⟩ := exists_start hk hy
  exact ⟨tile k w h sx sy, (mem_tiles hk).mpr ⟨sx, sy, hsx, hsy, rfl⟩, hlx, hux, hly, huy⟩

/-- A tile lies inside the picture. -/
theorem tile_bounds (hk : 0 < k) {r : Rect} (hr : r ∈ tiles k w h) :
    r.x + r.width ≤ w ∧ r.y + r.height ≤ h := by
  obtain ⟨x, y, ⟨hx, _⟩, ⟨hy, _⟩, rfl⟩ := (mem_tiles hk).mp hr
  simp only [tile]
  have hw := min_le_right k (w - x)
  have hh := min_le_right k (h - y)
  omega

theorem index_lt (hk : 0 < k) (hx : x < w) (hy : y < h) :
    index k w x y < count k w * count k h := by
  have hcol : x / k < count k w := (lt_count_iff hk).mpr (lt_of_le_of_lt (Nat.mul_div_le x k) hx)
  have hrow : y / k < count k h := (lt_count_iff hk).mpr (lt_of_le_of_lt (Nat.mul_div_le y k) hy)
  calc index k w x y < y / k * count k w + count k w := Nat.add_lt_add_left hcol _
    _ = count k w * (y / k + 1) := by ring
    _ ≤ count k w * count k h := Nat.mul_le_mul_left _ hrow

/-- Two tiles never share a place. -/
theorem index_injective (hk : 0 < k) {x' y' : ℕ} (hx : x < w ∧ k ∣ x) (hy : k ∣ y)
    (hx' : x' < w ∧ k ∣ x') (hy' : k ∣ y') (h : index k w x y = index k w x' y') :
    x = x' ∧ y = y' := by
  obtain ⟨a, rfl⟩ := hx.2
  obtain ⟨b, rfl⟩ := hy
  obtain ⟨a', rfl⟩ := hx'.2
  obtain ⟨b', rfl⟩ := hy'
  have ha : a < count k w := (lt_count_iff hk).mpr hx.1
  have ha' : a' < count k w := (lt_count_iff hk).mpr hx'.1
  simp only [index, Nat.mul_div_cancel_left _ hk] at h
  have hpos : 0 < count k w := by omega
  -- the row is the quotient by the number of columns, and the column what is left
  have hrow : b = b' := by
    have hdiv := congrArg (· / count k w) h
    simpa [Nat.add_comm, Nat.add_mul_div_right _ _ hpos, Nat.div_eq_of_lt ha,
      Nat.div_eq_of_lt ha'] using hdiv
  subst hrow
  exact ⟨by rw [Nat.add_left_cancel h], rfl⟩

/-- Row by row, the places of the tiles are the numbers from 0 on. -/
theorem tiles_map_index (hk : 0 < k) :
    (tiles k w h).map (fun r => index k w r.x r.y) = List.range (count k w * count k h) := by
  have hrow : ∀ b, (((starts k w).map fun x => tile k w h x (k * b)).map
      fun r => index k w r.x r.y) = (List.range (count k w)).map (b * count k w + ·) := by
    intro b
    rw [starts, List.map_map, List.map_map]
    apply List.map_congr_left
    intro a _
    simp [tile, index, Nat.mul_div_cancel_left _ hk]
  have hrows : ∀ n, (List.range n).flatMap (fun b => (List.range (count k w)).map
      (b * count k w + ·)) = List.range (count k w * n) := by
    intro n
    induction n with
    | zero => rfl
    | succ n ih =>
      -- the last row comes after all tiles above it
      rw [List.range_succ, List.flatMap_append, ih, List.flatMap_singleton, Nat.mul_add_one,
        List.range_add, Nat.mul_comm n]
  have hstarts : starts k h = (List.range (count k h)).map (k * ·) := rfl
  rw [tiles, List.map_flatMap, hstarts, List.flatMap_map]
  simp only [hrow]
  exact hrows (count k h)

theorem tiles_nodup (hk : 0 < k) : (tiles k w h).Nodup := by
  have hplaces : ((tiles k w h).map fun r => index k w r.x r.y).Nodup := by
    rw [tiles_map_index hk]
    exact List.nodup_range
  exact hplaces.of_map _

/-- A point of a length lies in the interval of no other start. -/
theorem start_eq {s v : ℕ} (hs : k ∣ s) (hle : s ≤ v) (hlt : v < s + min k (n - s)) :
    s = k * (v / k) := by
  obtain ⟨i, rfl⟩ := hs
  have hmin : min k (n - k * i) ≤ k := min_le_left _ _
  have hquotient : v / k = i := Nat.div_eq_of_lt_le (by rw [Nat.mul_comm]; exact hle)
    (by rw [Nat.add_one_mul, Nat.mul_comm i]; omega)
  rw [hquotient]

/-- No two tiles share a point. -/
theorem tile_unique (hk : 0 < k) {r r' : Rect} (hr : r ∈ tiles k w h) (hr' : r' ∈ tiles k w h)
    (hin : r.Contains x y) (hin' : r'.Contains x y) : r = r' := by
  obtain ⟨a, b, ⟨-, ha⟩, ⟨-, hb⟩, rfl⟩ := (mem_tiles hk).mp hr
  obtain ⟨a', b', ⟨-, ha'⟩, ⟨-, hb'⟩, rfl⟩ := (mem_tiles hk).mp hr'
  obtain ⟨hax, hax', hby, hby'⟩ := hin
  obtain ⟨hx, hx', hy, hy'⟩ := hin'
  have hsame : a = a' := (start_eq ha hax hax').trans (start_eq ha' hx hx').symm
  have hsame' : b = b' := (start_eq hb hby hby').trans (start_eq hb' hy hy').symm
  rw [hsame, hsame']

section Fill

variable {α : Type*} (place : Rect → ℕ) (f : Rect → α)

/-- Writing one value for each tile of a list. -/
def fill (a : ℕ → α) (rs : List Rect) : ℕ → α :=
  rs.foldl (fun a r => Function.update a (place r) (f r)) a

theorem fill_of_ne {i : ℕ} (rs : List Rect) (a : ℕ → α) (hne : ∀ r ∈ rs, place r ≠ i) :
    fill place f a rs i = a i := by
  induction rs generalizing a with
  | nil => rfl
  | cons r rs ih =>
    rw [fill, List.foldl_cons, ← fill, ih _ fun r' hr' => hne r' (List.mem_cons_of_mem r hr')]
    exact Function.update_of_ne (hne r (List.mem_cons_self ..)).symm ..

theorem fill_of_mem {rs : List Rect} (a : ℕ → α) {r : Rect} (hr : r ∈ rs)
    (hinj : ∀ r' ∈ rs, place r' = place r → r' = r) : fill place f a rs (place r) = f r := by
  induction rs generalizing a with
  | nil => simp at hr
  | cons r₀ rs ih =>
    rw [fill, List.foldl_cons, ← fill]
    have hinj' : ∀ r' ∈ rs, place r' = place r → r' = r :=
      fun r' hr' => hinj r' (List.mem_cons_of_mem r₀ hr')
    -- where `r` comes again in the list, the later write of the same value counts
    by_cases hin : r ∈ rs
    · exact ih _ hin hinj'
    · have heq : r = r₀ := by
        rcases List.mem_cons.mp hr with heq | hin'
        · exact heq
        · exact absurd hin' hin
      subst heq
      have hne : ∀ r' ∈ rs, place r' ≠ place r := fun r' hr' h => hin (hinj' r' hr' h ▸ hr')
      rw [fill_of_ne place f rs _ hne]
      exact Function.update_self ..

/-- Writing one value for each tile of the picture: every tile finds its own. -/
theorem fill_tiles (hk : 0 < k) (hplace : ∀ r, place r = index k w r.x r.y) (a : ℕ → α) {r : Rect}
    (hr : r ∈ tiles k w h) : fill place f a (tiles k w h) (place r) = f r := by
  refine fill_of_mem place f a hr fun r' hr' heq => ?_
  obtain ⟨x, y, hx, hy, rfl⟩ := (mem_tiles hk).mp hr
  obtain ⟨x', y', hx', hy', rfl⟩ := (mem_tiles hk).mp hr'
  rw [hplace, hplace] at heq
  obtain ⟨rfl, rfl⟩ := index_injective hk hx' hy'.2 hx hy.2 heq
  rfl

end Fill

section Patch

variable {α : Type*}

/-- The old picture with some rectangles of the new one. -/
def patch (old new : ℕ → ℕ → α) (rs : List Rect) (x y : ℕ) : α :=
  if ∃ r ∈ rs, r.Contains x y then new x y else old x y

/-- Patching every tile on which the pictures differ gives the new picture. -/
theorem patch_eq_new (hk : 0 < k) {old new : ℕ → ℕ → α} {dirty : List Rect}
    (hclean : ∀ r ∈ tiles k w h, r ∉ dirty → ∀ x y, r.Contains x y → old x y = new x y)
    (hx : x < w) (hy : y < h) : patch old new dirty x y = new x y := by
  rw [patch]
  split
  · rfl
  · rename_i houtside
    obtain ⟨r, hr, hin⟩ := exists_tile hk hx hy
    have hnot : r ∉ dirty := fun hdirty => houtside ⟨r, hdirty, hin⟩
    exact hclean r hr hnot x y hin

end Patch
end RemoteDesktop.TileGrid
