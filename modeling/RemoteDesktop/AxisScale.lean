import Mathlib.Algebra.Order.Floor.Ring
import Mathlib.Algebra.Order.Field.Basic
import Mathlib.Tactic

/-! One axis of a picture drawn at another size: a coordinate is scaled, rounded half up and kept
inside. -/
namespace RemoteDesktop.AxisScale

variable (K : Type*) [Field K] [LinearOrder K] [IsStrictOrderedRing K] [FloorSemiring K]

/-- The place on an axis of length `d` that a place on an axis of length `s` is drawn at, as a
quotient before it is rounded. What lies beyond the end is drawn at the end. -/
def scaled (s d v : ℕ) : K :=
  (min v (s - 1) : ℕ) * ((d : K) / s) + 1 / 2

def rescale (s d v : ℕ) : ℕ :=
  min ⌊scaled K s d v⌋₊ (d - 1)

variable {K} {s d v v' : ℕ}

theorem scaled_nonneg : 0 ≤ scaled K s d v := by
  rw [scaled]
  positivity

/-- The last place is at most half a place away from the end. -/
theorem scaled_lt (hs : 0 < s) : scaled K s d v < d + 1 := by
  have hs' : (0 : K) < s := Nat.cast_pos.mpr hs
  have hv : ((min v (s - 1) : ℕ) : K) ≤ s := by
    have hle : min v (s - 1) ≤ s := (min_le_right _ _).trans (Nat.sub_le s 1)
    exact_mod_cast hle
  have hratio : (0 : K) ≤ (d : K) / s := by positivity
  have hhalf : (1 / 2 : K) < 1 := by norm_num
  calc scaled K s d v ≤ s * ((d : K) / s) + 1 / 2 := by
        rw [scaled]
        gcongr
    _ = d + 1 / 2 := by rw [mul_div_cancel₀ _ hs'.ne']
    _ < d + 1 := by gcongr

theorem floor_scaled_le (hs : 0 < s) : ⌊scaled K s d v⌋₊ ≤ d := by
  have hlt : scaled K s d v < ((d + 1 : ℕ) : K) := by
    push_cast
    exact scaled_lt hs
  have hfloor := (Nat.floor_lt scaled_nonneg).mpr hlt
  omega

omit [IsStrictOrderedRing K] in
theorem rescale_lt (hd : 0 < d) : rescale K s d v < d := by
  have hle : rescale K s d v ≤ d - 1 := min_le_right _ _
  omega

theorem rescale_mono (h : v ≤ v') : rescale K s d v ≤ rescale K s d v' := by
  have hmin : min v (s - 1) ≤ min v' (s - 1) := min_le_min_right _ h
  have hscaled : scaled K s d v ≤ scaled K s d v' := by
    rw [scaled, scaled]
    gcongr
  exact min_le_min_right _ (Nat.floor_mono hscaled)

/-- Between axes of one length nothing moves. -/
theorem rescale_same (hs : 0 < s) : rescale K s s v = min v (s - 1) := by
  have hs' : (s : K) ≠ 0 := Nat.cast_ne_zero.mpr hs.ne'
  have hscaled : scaled K s s v = (min v (s - 1) : ℕ) + 1 / 2 := by
    rw [scaled, div_self hs', mul_one]
  have hfloor : ⌊scaled K s s v⌋₊ = min v (s - 1) := by
    rw [hscaled, add_comm, Nat.floor_add_natCast (by norm_num)]
    norm_num
  rw [rescale, hfloor, min_assoc, min_self]

end RemoteDesktop.AxisScale
