import Mathlib.Tactic

/-! Ring buffers that clear the slots they are done with. `Holds` says which list the
slots of a ring hold, read from its head. -/
namespace RemoteDesktop

variable {α : Type*} {n : ℕ}

/-- The slot `i` places after `head`. -/
def ringSlot (n head i : ℕ) : ℕ := (head + i) % n

theorem ringSlot_zero {head : ℕ} (hhead : head < n) : ringSlot n head 0 = head :=
  Nat.mod_eq_of_lt hhead

/-- One step of the head moves every place by one. -/
theorem ringSlot_succ (head i : ℕ) : ringSlot n ((head + 1) % n) i = ringSlot n head (i + 1) := by
  unfold ringSlot
  rw [Nat.mod_add_mod, Nat.add_assoc, Nat.add_comm 1 i]

theorem ringSlot_injective (head : ℕ) {i j : ℕ} (hi : i < n) (hj : j < n)
    (h : ringSlot n head i = ringSlot n head j) : i = j := by
  have hmod : i % n = j % n := Nat.ModEq.add_left_cancel' head h
  rwa [Nat.mod_eq_of_lt hi, Nat.mod_eq_of_lt hj] at hmod

/-- Every slot is the slot at one place after the head. -/
theorem exists_ringSlot {head j : ℕ} (hhead : head < n) (hj : j < n) :
    ∃ i < n, ringSlot n head i = j := by
  by_cases hle : head ≤ j
  · refine ⟨j - head, by omega, ?_⟩
    have hsum : head + (j - head) = j := by omega
    rw [ringSlot, hsum, Nat.mod_eq_of_lt hj]
  · refine ⟨j + n - head, by omega, ?_⟩
    have hsum : head + (j + n - head) = j + n := by omega
    rw [ringSlot, hsum, Nat.add_mod_right, Nat.mod_eq_of_lt hj]

/-- The ring of `n` slots holds the list `xs`: the slot `i` places after the head has
the `i`-th element, and is empty past the end. -/
structure Holds (n : ℕ) (slots : ℕ → Option α) (head tail size : ℕ) (xs : List α) : Prop where
  head_lt : head < n
  size_eq : size = xs.length
  size_le : size ≤ n
  tail_eq : tail = ringSlot n head size
  slot : ∀ i < n, slots (ringSlot n head i) = xs[i]?

namespace Holds

variable {slots : ℕ → Option α} {head tail size : ℕ} {xs : List α} {x : α}

theorem empty (hn : 0 < n) : Holds n (fun _ => (none : Option α)) 0 0 0 [] where
  head_lt := hn
  size_eq := rfl
  size_le := Nat.zero_le n
  tail_eq := (ringSlot_zero hn).symm
  slot := fun _ _ => rfl

/-- The head of a ring that is not empty has the first element. -/
theorem slot_head (h : Holds n slots head tail size (x :: xs)) : slots head = some x := by
  have hpos : 0 < n := lt_of_le_of_lt (Nat.zero_le head) h.head_lt
  have hfirst := h.slot 0 hpos
  rwa [ringSlot_zero h.head_lt] at hfirst

/-- A slot is in use exactly when it lies in the window of `size` slots from the head. -/
theorem slot_isSome_iff (h : Holds n slots head tail size xs) {j : ℕ} (hj : j < n) :
    (slots j).isSome ↔ ∃ i < size, ringSlot n head i = j := by
  obtain ⟨i, hi, rfl⟩ := exists_ringSlot h.head_lt hj
  have hsome : (slots (ringSlot n head i)).isSome ↔ i < size := by
    rw [h.slot i hi, h.size_eq]
    simp
  rw [hsome]
  constructor
  · intro hlt
    exact ⟨i, hlt, rfl⟩
  · rintro ⟨k, hk, hslot⟩
    have hkn : k < n := lt_of_lt_of_le hk h.size_le
    rwa [← ringSlot_injective head hkn hi hslot]

/-- The window, read from the head, is the list. -/
theorem window_eq (h : Holds n slots head tail size xs) :
    (List.range size).map (fun i => slots (ringSlot n head i)) = xs.map some := by
  apply List.ext_getElem
  · simp [h.size_eq]
  · intro i hi _
    have hi' : i < size := by simpa using hi
    have hlen : i < xs.length := h.size_eq ▸ hi'
    simp [h.slot i (lt_of_lt_of_le hi' h.size_le), hlen]

/-- A write at the tail puts an element behind the others. -/
theorem put (h : Holds n slots head tail size xs) (hroom : size < n) (x : α) :
    Holds n (Function.update slots tail (some x)) head ((tail + 1) % n) (size + 1)
      (xs ++ [x]) where
  head_lt := h.head_lt
  size_eq := by rw [h.size_eq, List.length_append, List.length_singleton]
  size_le := hroom
  tail_eq := by rw [h.tail_eq, ringSlot, ringSlot, Nat.mod_add_mod, Nat.add_assoc]
  slot := by
    intro i hi
    by_cases hlast : i = size
    · subst hlast
      rw [← h.tail_eq, Function.update_self, h.size_eq, List.getElem?_concat_length]
    -- every other place is another slot than the tail
    · have hne : ringSlot n head i ≠ tail := by
        rw [h.tail_eq]
        intro heq
        exact hlast (ringSlot_injective head hi hroom heq)
      rw [Function.update_of_ne hne, h.slot i hi]
      have hsize := h.size_eq
      rcases Nat.lt_or_gt_of_ne hlast with hlt | hgt
      · rw [List.getElem?_append_left (by omega)]
      · rw [List.getElem?_eq_none (by omega), List.getElem?_eq_none (by simp; omega)]

/-- Clearing the head and moving it on takes the first element away. -/
theorem take (h : Holds n slots head tail size (x :: xs)) :
    Holds n (Function.update slots head none) ((head + 1) % n) tail (size - 1) xs where
  head_lt := Nat.mod_lt _ (lt_of_le_of_lt (Nat.zero_le head) h.head_lt)
  size_eq := by
    have hsize := h.size_eq
    rw [List.length_cons] at hsize
    omega
  size_le := le_trans (Nat.sub_le size 1) h.size_le
  tail_eq := by
    have hsize : size - 1 + 1 = size := by
      have := h.size_eq
      rw [List.length_cons] at this
      omega
    rw [ringSlot_succ, hsize]
    exact h.tail_eq
  slot := by
    intro i hi
    rw [ringSlot_succ]
    by_cases hlast : i + 1 < n
    · have hne : ringSlot n head (i + 1) ≠ head := by
        intro heq
        have hfirst : ringSlot n head (i + 1) = ringSlot n head 0 := by
          rw [heq, ringSlot_zero h.head_lt]
        have hzero : i + 1 = 0 := ringSlot_injective head hlast (by omega) hfirst
        omega
      rw [Function.update_of_ne hne, h.slot (i + 1) hlast, List.getElem?_cons_succ]
    -- the last place wraps round to the old head, which is empty now
    · have hwrap : ringSlot n head (i + 1) = head := by
        have hn : i + 1 = n := by omega
        rw [ringSlot, hn, Nat.add_mod_right, Nat.mod_eq_of_lt h.head_lt]
      have hsize := h.size_eq
      have hle := h.size_le
      rw [List.length_cons] at hsize
      rw [hwrap, Function.update_self, List.getElem?_eq_none (by omega)]

end Holds
end RemoteDesktop
