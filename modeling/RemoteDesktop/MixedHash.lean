import Mathlib.Logic.Function.Basic
import Mathlib.Data.Nat.Bitwise

/-! The steps of a mixing hash, each of which loses nothing, and a hash that mixes in one piece
after the other. -/
namespace RemoteDesktop.MixedHash

section Words

variable {w : ℕ}

theorem xorShift_injective {s : ℕ} (hs : 0 < s) :
    Function.Injective fun x : BitVec w => x ^^^ x >>> s := by
  intro x y h
  -- the difference of the two is its own shift, so it is zero
  have hdiff : x ^^^ y = (x ^^^ y) >>> s := by
    have hcancel : (x ^^^ x >>> s) ^^^ (y ^^^ y >>> s) = 0 := BitVec.xor_eq_zero_iff.mpr h
    have hsplit : (x ^^^ y) ^^^ (x ^^^ y) >>> s = 0 := by
      rw [BitVec.ushiftRight_xor_distrib, ← hcancel]
      ac_rfl
    exact BitVec.xor_eq_zero_iff.mp hsplit
  have hnat := congrArg BitVec.toNat hdiff
  rw [BitVec.toNat_ushiftRight, Nat.shiftRight_eq_div_pow] at hnat
  have hzero : (x ^^^ y).toNat = 0 := by
    by_contra hne
    have hpow : 1 < 2 ^ s := Nat.one_lt_two_pow (by omega)
    have hlt := Nat.div_lt_self (Nat.pos_of_ne_zero hne) hpow
    omega
  exact BitVec.xor_eq_zero_iff.mp (BitVec.eq_of_toNat_eq hzero)

/-- A factor that has an inverse can be cancelled. -/
theorem mul_injective {c d : BitVec w} (h : c * d = 1) : Function.Injective (· * c) := by
  intro x y hxy
  have hmul : x * c * d = y * c * d := congrArg (· * d) hxy
  rw [BitVec.mul_assoc, BitVec.mul_assoc, h] at hmul
  simpa using hmul

theorem rotate_injective {s : ℕ} (hs : s < w) :
    Function.Injective fun x : BitVec w => x <<< s ||| x >>> (w - s) := by
  intro x y h
  apply BitVec.eq_of_getLsbD_eq
  intro i hi
  -- bit `i` stands `s` places further up, or wraps
  by_cases hup : i + s < w
  · have hbit := congrArg (fun z : BitVec w => z.getLsbD (i + s)) h
    have hshift : w ≤ w - s + (i + s) := by omega
    have hplace : ¬ i + s < s := by omega
    simpa [hup, BitVec.getLsbD_of_ge, hshift, hplace, BitVec.getLsbD_eq_getElem hi] using hbit
  · have hbit := congrArg (fun z : BitVec w => z.getLsbD (i + s - w)) h
    have hplace : w - s + (i + s - w) = i := by omega
    have hlow : i + s - w < s := by omega
    simpa [hlow, hplace] using hbit

end Words

section Fold

variable {H : Type*}

/-- A loop that runs the step `i` on the hash for `i` from 0 on. -/
def hashLoop (step : ℕ → H → H) (n : ℕ) (hash : H) : H :=
  (List.range n).foldl (fun hash i => step i hash) hash

variable {step step' : ℕ → H → H} {n : ℕ}

theorem hashLoop_succ (step : ℕ → H → H) (n : ℕ) (hash : H) :
    hashLoop step (n + 1) hash = step n (hashLoop step n hash) := by
  simp [hashLoop, List.range_succ]

/-- The first round taken off. -/
theorem hashLoop_succ' (step : ℕ → H → H) (n : ℕ) (hash : H) :
    hashLoop step (n + 1) hash = hashLoop (fun i => step (i + 1)) n (step 0 hash) := by
  simp [hashLoop, List.range_succ_eq_map, List.foldl_map]

theorem hashLoop_congr (h : ∀ i < n, step i = step' i) (hash : H) :
    hashLoop step n hash = hashLoop step' n hash := by
  induction n with
  | zero => rfl
  | succ n ih =>
    rw [hashLoop_succ, hashLoop_succ, ih fun i hi => h i (by omega), h n (by omega)]

theorem hashLoop_injective (hstep : ∀ i < n, Function.Injective (step i)) :
    Function.Injective (hashLoop step n) := by
  induction n with
  | zero => exact Function.injective_id
  | succ n ih =>
    intro hash hash' h
    rw [hashLoop_succ, hashLoop_succ] at h
    exact ih (fun i hi => hstep i (by omega)) (hstep n (by omega) h)

/-- Two loops that differ in one round only, and there on every hash, never meet again. -/
theorem hashLoop_ne (hstep : ∀ i < n, Function.Injective (step' i)) {k : ℕ} (hk : k < n)
    (hsame : ∀ i < n, i ≠ k → step i = step' i) (hdiff : ∀ hash, step k hash ≠ step' k hash)
    (hash : H) : hashLoop step n hash ≠ hashLoop step' n hash := by
  induction n with
  | zero => omega
  | succ n ih =>
    rw [hashLoop_succ, hashLoop_succ]
    rcases Nat.lt_succ_iff_lt_or_eq.mp hk with hlt | rfl
    · -- the hashes differ already, and this round keeps them apart
      rw [hsame n (by omega) (by omega)]
      apply (hstep n (by omega)).ne
      exact ih (fun i hi => hstep i (by omega)) hlt fun i hi hne => hsame i (by omega) hne
    · rw [hashLoop_congr fun i hi => hsame i (by omega) (by omega)]
      exact hdiff _

end Fold
end RemoteDesktop.MixedHash
