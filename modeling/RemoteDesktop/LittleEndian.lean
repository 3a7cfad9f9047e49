import Mathlib.Data.Nat.Bitwise

/-! Byte strings as numbers, the lowest byte first. -/
namespace RemoteDesktop

def littleEndian : List UInt8 → ℕ
  | [] => 0
  | b :: bytes => b.toNat + 256 * littleEndian bytes

theorem littleEndian_lt (bytes : List UInt8) : littleEndian bytes < 256 ^ bytes.length := by
  induction bytes with
  | nil => exact Nat.one_pos
  | cons b bytes ih =>
    have hb := b.toNat_lt
    rw [littleEndian, List.length_cons, Nat.pow_succ]
    omega

/-- Strings of one length are told apart by their numbers. -/
theorem littleEndian_injective {bytes bytes' : List UInt8} (hlength : bytes.length = bytes'.length)
    (h : littleEndian bytes = littleEndian bytes') : bytes = bytes' := by
  induction bytes generalizing bytes' with
  | nil => exact (List.length_eq_zero_iff.mp hlength.symm).symm
  | cons b bytes ih =>
    cases bytes' with
    | nil => simp at hlength
    | cons b' bytes' =>
      have hb := b.toNat_lt
      have hb' := b'.toNat_lt
      rw [littleEndian, littleEndian] at h
      have hhead : b = b' := UInt8.toNat_inj.mp (by omega)
      have htail : bytes = bytes' := ih (by simpa using hlength) (by omega)
      rw [hhead, htail]

/-- A number below `2 ^ k` and one shifted past it add up. -/
theorem or_shiftLeft_eq {a b k : ℕ} (h : a < 2 ^ k) : a ||| b <<< k = a + b * 2 ^ k := by
  rw [Nat.or_comm, ← Nat.shiftLeft_add_eq_or_of_lt h, Nat.shiftLeft_eq, Nat.add_comm]

end RemoteDesktop
