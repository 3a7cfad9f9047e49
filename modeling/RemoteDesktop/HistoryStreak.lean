import Mathlib.Tactic

/-! Streaks in a history. Some entries start a streak, some entries count, and every other entry ends
it. The newest entry of a history is its first. -/
namespace RemoteDesktop

variable {α : Type*} (starts counts : α → Prop)

/-- Whatever the later entries are, a start is followed by at most `bound` entries that count. -/
def StreaksAtMost (bound : ℕ) (history : List α) : Prop :=
  ∀ later during : List α, ∀ start : α, ∀ earlier : List α,
    history = later ++ (during ++ start :: earlier) → starts start →
    (∀ x ∈ during, counts x ∧ ¬ starts x) → during.length ≤ bound

theorem streaksAtMost_nil (bound : ℕ) : StreaksAtMost starts counts bound [] := by
  intro later during start earlier hnil
  simp at hnil

variable [DecidablePred starts] [DecidablePred counts]

/-- How many entries count since the last start, if nothing has ended the streak. -/
def streak : List α → Option ℕ
  | [] => none
  | x :: xs => if starts x then some 0 else if counts x then (streak xs).map (· + 1) else none

variable {starts counts} {bound : ℕ} {x : α} {xs during earlier : List α}

theorem streak_start (hx : starts x) : streak starts counts (x :: xs) = some 0 := if_pos hx

theorem streak_count (hx : ¬ starts x) (hcounts : counts x) :
    streak starts counts (x :: xs) = (streak starts counts xs).map (· + 1) := by
  rw [streak, if_neg hx, if_pos hcounts]

theorem streak_end (hx : ¬ starts x) (hcounts : ¬ counts x) :
    streak starts counts (x :: xs) = none := by
  rw [streak, if_neg hx, if_neg hcounts]

theorem streak_append (hx : starts x) (hduring : ∀ y ∈ during, counts y ∧ ¬ starts y) :
    streak starts counts (during ++ x :: earlier) = some during.length := by
  induction during with
  | nil => exact streak_start hx
  | cons y during ih =>
    obtain ⟨hcounts, hy⟩ := hduring y List.mem_cons_self
    have htail := ih fun z hz => hduring z (List.mem_cons_of_mem y hz)
    rw [List.cons_append, streak_count hy hcounts, htail]
    rfl

theorem exists_of_streak {k : ℕ} (h : streak starts counts xs = some k) :
    ∃ (during : List α) (start : α) (earlier : List α), xs = during ++ start :: earlier ∧
      starts start ∧ (∀ y ∈ during, counts y ∧ ¬ starts y) ∧ during.length = k := by
  induction xs generalizing k with
  | nil => cases h
  | cons x xs ih =>
    by_cases hx : starts x
    · rw [streak_start hx] at h
      exact ⟨[], x, xs, rfl, hx, fun y hy => absurd hy List.not_mem_nil, Option.some.inj h⟩
    · by_cases hcounts : counts x
      · rw [streak_count hx hcounts] at h
        obtain ⟨j, hj, hk⟩ := Option.map_eq_some_iff.mp h
        obtain ⟨during, start, earlier, rfl, hstart, hduring, hlength⟩ := ih hj
        refine ⟨x :: during, start, earlier, rfl, hstart, ?_, ?_⟩
        · intro y hy
          rcases List.mem_cons.mp hy with rfl | hy
          · exact ⟨hcounts, hx⟩
          · exact hduring y hy
        · rw [List.length_cons, hlength, hk]
      · rw [streak_end hx hcounts] at h
        cases h

theorem StreaksAtMost.streak_le (h : StreaksAtMost starts counts bound xs) {k : ℕ}
    (hk : streak starts counts xs = some k) : k ≤ bound := by
  obtain ⟨during, start, earlier, hsplit, hstart, hduring, hlength⟩ := exists_of_streak hk
  rw [← hlength]
  exact h [] during start earlier hsplit hstart hduring

/-- One more entry keeps the bound when the streak that it is in does. -/
theorem StreaksAtMost.cons (h : StreaksAtMost starts counts bound xs)
    (hx : ∀ k, streak starts counts (x :: xs) = some k → k ≤ bound) :
    StreaksAtMost starts counts bound (x :: xs) := by
  intro later during start earlier hsplit hstart hduring
  cases later with
  -- the split is at the new entry
  | nil =>
    apply hx
    rw [hsplit]
    exact streak_append hstart hduring
  | cons y later => exact h later during start earlier (List.cons.inj hsplit).2 hstart hduring

end RemoteDesktop
