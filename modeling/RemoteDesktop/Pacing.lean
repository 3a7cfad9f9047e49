import Mathlib.Tactic

/-! Work that a deadline paces. Nothing is done before the deadline, and each piece of work
moves it on by an interval or more, and not behind the work itself. A piece may be late, so two
of them can be close; but only one interval is ever won back. -/
namespace RemoteDesktop

open List

/-- In any selection from the times, an interval lies behind every time but the last two. -/
def Paced (interval : ℤ) (times : List ℤ) : Prop :=
  ∀ x l y, (x :: (l ++ [y])) <+ times → x + l.length * interval ≤ y

/-- What a run does to its deadline, with the times of its work. -/
inductive Paces (interval first : ℤ) : List ℤ → ℤ → Prop
  | start : Paces interval first [] first
  | delay {times : List ℤ} {deadline later : ℤ} (h : Paces interval first times deadline)
      (hlater : deadline ≤ later) : Paces interval first times later
  | work {times : List ℤ} {deadline time next : ℤ} (h : Paces interval first times deadline)
      (htime : deadline ≤ time) (hnext : deadline + interval ≤ next) (hwork : time ≤ next) :
      Paces interval first (times ++ [time]) next

variable {interval first deadline : ℤ} {times : List ℤ}

/-- Every selected piece of work but the last has pushed the deadline on by an interval. -/
theorem Paces.le_deadline (h : Paces interval first times deadline) (x : ℤ) (l : List ℤ)
    (hl : (x :: l) <+ times) : x + l.length * interval ≤ deadline := by
  induction h generalizing x l with
  | start => exact absurd hl (by simp)
  | delay _ hlater ih => exact (ih x l hl).trans hlater
  | @work times deadline time next _ htime hnext hwork ih =>
    obtain ⟨l₁, l₂, heq, hl₁, hl₂⟩ := sublist_append_iff.mp hl
    obtain rfl | rfl := sublist_singleton.mp hl₂
    · rw [append_nil] at heq
      exact (ih x l (heq ▸ hl₁)).trans (htime.trans hwork)
    · cases l₁ with
      | nil =>
        obtain ⟨rfl, rfl⟩ := List.cons.inj heq
        simpa using hwork
      | cons x' l' =>
        obtain ⟨rfl, rfl⟩ := List.cons.inj heq
        have hbefore := ih x l' hl₁
        calc x + ((l' ++ [time]).length : ℤ) * interval
            = x + l'.length * interval + interval := by
              push_cast [length_append, length_singleton]
              ring
          _ ≤ deadline + interval := by omega
          _ ≤ next := hnext

theorem Paces.paced (h : Paces interval first times deadline) : Paced interval times := by
  induction h with
  | start =>
    intro x l y hl
    exact absurd hl (by simp)
  | delay _ _ ih => exact ih
  | @work times deadline time next h htime _ _ ih =>
    intro x l y hl
    obtain ⟨l₁, l₂, heq, hl₁, hl₂⟩ := sublist_append_iff.mp hl
    obtain rfl | rfl := sublist_singleton.mp hl₂
    · rw [append_nil] at heq
      exact ih x l y (heq ▸ hl₁)
    · -- the last of the selection is the new work, which the deadline has held back
      rw [← cons_append] at heq
      obtain ⟨rfl, hy⟩ := append_inj' heq rfl
      obtain rfl : y = time := by simpa using hy
      exact (h.le_deadline x l hl₁).trans htime

/-- In a window no more is done than its length gives, and two pieces. -/
theorem Paced.length_window_le (h : Paced interval times) (hinterval : 0 < interval)
    (start length : ℤ) (hlength : 0 ≤ length) :
    ((times.filter fun time => start ≤ time ∧ time ≤ start + length).length : ℤ) ≤
      length / interval + 2 := by
  have hnonneg : 0 ≤ length / interval := Int.ediv_nonneg hlength hinterval.le
  have hmem (time : ℤ) (ht : time ∈ times.filter fun time => start ≤ time ∧ time ≤ start + length) :
      start ≤ time ∧ time ≤ start + length := by
    simpa using (mem_filter.mp ht).2
  have hsub : (times.filter fun time => start ≤ time ∧ time ≤ start + length) <+ times :=
    filter_sublist
  generalize (times.filter fun time => start ≤ time ∧ time ≤ start + length) = window at hmem hsub
  match window with
  | [] => simp; omega
  | [x] => simp; omega
  | x :: x' :: l =>
    obtain ⟨l', y, hl'⟩ : ∃ l' y, x' :: l = l' ++ [y] :=
      ⟨_, _, (dropLast_append_getLast (cons_ne_nil x' l)).symm⟩
    rw [hl'] at hsub hmem ⊢
    have hspan := h x l' y hsub
    have hx := (hmem x (by simp)).1
    have hy := (hmem y (by simp)).2
    have hcount : (l'.length : ℤ) ≤ length / interval := by
      apply (Int.le_ediv_iff_mul_le hinterval).mpr
      omega
    simp only [length_cons, length_append, length_nil]
    push_cast
    omega

end RemoteDesktop
