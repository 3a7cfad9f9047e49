import RemoteDesktop.TileGrid

/-! Loops `for (v = start; test v; v = next v)` that may fail, and the values that they take. A
counter of a machine may wrap, so a loop has fuel, and a run of it is a list of values. -/
namespace RemoteDesktop.CounterLoop

section Loop

variable {γ σ : Type*}

/-- A round that fails ends the loop, and so does the end of the fuel. -/
def forLoop (test : γ → Bool) (next : γ → γ) (body : γ → σ → Option σ) : ℕ → γ → σ → Option σ
  | 0, _, _ => none
  | fuel + 1, v, s =>
    if test v then (body v s).bind fun s => forLoop test next body fuel (next v) s else some s

/-- From `v` on, the counter takes these values before the test fails. -/
inductive Takes (test : γ → Bool) (next : γ → γ) : γ → List γ → Prop
  | stop {v : γ} (h : test v = false) : Takes test next v []
  | round {v : γ} {vs : List γ} (h : test v = true) (hs : Takes test next (next v) vs) :
      Takes test next v (v :: vs)

variable {test : γ → Bool} {next : γ → γ} {body : γ → σ → Option σ} {v : γ} {vs : List γ}

/-- With fuel for all rounds and the last test, a loop is a fold over its values. -/
theorem forLoop_eq (h : Takes test next v vs) {fuel : ℕ} (hfuel : vs.length < fuel) (s : σ) :
    forLoop test next body fuel v s = vs.foldlM (fun s v => body v s) s := by
  induction h generalizing fuel s with
  | stop htest =>
    obtain ⟨fuel, rfl⟩ := Nat.exists_eq_succ_of_ne_zero (Nat.ne_zero_of_lt hfuel)
    rw [forLoop, htest]
    rfl
  | @round v vs htest _ ih =>
    obtain ⟨fuel, rfl⟩ := Nat.exists_eq_succ_of_ne_zero (Nat.ne_zero_of_lt hfuel)
    rw [forLoop, if_pos htest, List.foldlM_cons]
    have hlater : vs.length < fuel := by simpa using hfuel
    -- the first round may fail, and else the others follow
    cases hbody : body v s with
    | none => rfl
    | some s' => exact ih hlater s'

end Loop

section Fold

variable {α σ : Type*}

theorem foldlM_congr {f g : σ → α → Option σ} {as : List α} (h : ∀ a ∈ as, ∀ s, f s a = g s a)
    (s : σ) : as.foldlM f s = as.foldlM g s := by
  induction as generalizing s with
  | nil => rfl
  | cons a as ih =>
    rw [List.foldlM_cons, List.foldlM_cons, h a List.mem_cons_self s]
    congr 1
    funext s'
    exact ih (fun a ha => h a (List.mem_cons_of_mem _ ha)) s'

/-- Rounds that succeed wherever the invariant holds, and keep it, never fail together. -/
theorem foldlM_some {I : σ → Prop} {body : σ → α → Option σ} {f : σ → α → σ} {as : List α}
    (hbody : ∀ a ∈ as, ∀ s, I s → body s a = some (f s a) ∧ I (f s a)) {s : σ} (hs : I s) :
    as.foldlM body s = some (as.foldl f s) ∧ I (as.foldl f s) := by
  induction as generalizing s with
  | nil => exact ⟨rfl, hs⟩
  | cons a as ih =>
    obtain ⟨hround, hkept⟩ := hbody a List.mem_cons_self s hs
    rw [List.foldlM_cons, hround, List.foldl_cons]
    exact ih (fun a ha => hbody a (List.mem_cons_of_mem _ ha)) hkept

/-- Rounds that succeed and go along with those of another fold. -/
theorem foldlM_follows {τ : Type*} {R : σ → τ → Prop} {body : σ → α → Option σ} {g : τ → α → τ}
    {as : List α} (hbody : ∀ a ∈ as, ∀ s t, R s t → ∃ s', body s a = some s' ∧ R s' (g t a)) {s : σ}
    {t : τ} (h : R s t) : ∃ s', as.foldlM body s = some s' ∧ R s' (as.foldl g t) := by
  induction as generalizing s t with
  | nil => exact ⟨s, rfl, h⟩
  | cons a as ih =>
    obtain ⟨s', hround, hs'⟩ := hbody a List.mem_cons_self s t h
    rw [List.foldlM_cons, hround, List.foldl_cons]
    exact ih (fun a ha => hbody a (List.mem_cons_of_mem _ ha)) hs'

/-- A fold that keeps a record besides. -/
theorem foldl_record {β : Type*} (record : α → β) (f : σ → α → σ) (as : List α) (before : List β)
    (s : σ) : as.foldl (fun s a => (s.1 ++ [record a], f s.2 a)) (before, s) =
      (before ++ as.map record, as.foldl f s) := by
  induction as generalizing before s with
  | nil => simp
  | cons a as ih => rw [List.foldl_cons, ih, List.foldl_cons, List.map_cons, List.append_assoc,
      List.singleton_append]

/-- Two folds side by side. -/
theorem foldl_pair {τ : Type*} (f : σ → α → σ) (g : τ → α → τ) (as : List α) (s : σ) (t : τ) :
    as.foldl (fun s a => (f s.1 a, g s.2 a)) (s, t) = (as.foldl f s, as.foldl g t) := by
  induction as generalizing s t with
  | nil => rfl
  | cons a as ih => exact ih (f s a) (g t a)

/-- A loop that is left once it has found something. -/
theorem foldlM_until {find : α → Option Bool} {found : α → Bool} {as : List α}
    (h : ∀ a ∈ as, find a = some (found a)) (before : Bool) :
    as.foldlM (fun before a => if before then some true else find a) before =
      some (before || as.any found) := by
  induction as generalizing before with
  | nil => simp
  | cons a as ih =>
    have hlater := ih fun a ha => h a (List.mem_cons_of_mem _ ha)
    rw [List.foldlM_cons, List.any_cons]
    cases before with
    -- found before, so this round does nothing
    | true => exact hlater true
    | false =>
      rw [if_neg Bool.false_ne_true, h a List.mem_cons_self, Bool.false_or]
      exact hlater (found a)

end Fold

/-! `for (v = 0; v < n; v += k)` on 32 bits. -/

section Guint

variable {σ : Type*} {n k : UInt32}

def guintFor (n k : UInt32) (body : UInt32 → σ → Option σ) (s : σ) : Option σ :=
  forLoop (fun v => decide (v < n)) (· + k) body (n.toNat + 1) 0 s

/-- Where the last value plus a step still fits, the counter does not wrap. -/
theorem toNat_multiple (hk : 0 < k.toNat) (hn : n.toNat + k.toNat ≤ 2 ^ 32) {i : ℕ}
    (hi : i ≤ TileGrid.count k.toNat n.toNat) :
    (UInt32.ofNat (k.toNat * i)).toNat = k.toNat * i := by
  have hlt : k.toNat * i < 2 ^ 32 := by
    -- the value before it is below `n`
    cases i with
    | zero =>
      rw [Nat.mul_zero]
      norm_num
    | succ i =>
      have hbefore : k.toNat * i < n.toNat := (TileGrid.lt_count_iff hk).mp hi
      rw [Nat.mul_add_one]
      omega
  exact UInt32.toNat_ofNat_of_lt' hlt

/-- From the multiple `i` on, `m` rounds are left. -/
theorem takes_multiples (hk : 0 < k.toNat) (hn : n.toNat + k.toNat ≤ 2 ^ 32) (m : ℕ) :
    ∀ i, i + m = TileGrid.count k.toNat n.toNat →
      Takes (fun v => decide (v < n)) (· + k) (UInt32.ofNat (k.toNat * i))
        ((List.range' i m).map fun i => UInt32.ofNat (k.toNat * i)) := by
  induction m with
  | zero =>
    intro i hi
    refine .stop ?_
    have hend : ¬ k.toNat * i < n.toNat := by
      rw [← TileGrid.lt_count_iff hk]
      omega
    rw [decide_eq_false_iff_not, UInt32.lt_iff_toNat_lt, toNat_multiple hk hn (by omega)]
    exact hend
  | succ m ih =>
    intro i hi
    rw [List.range'_succ, List.map_cons]
    refine .round ?_ ?_
    · have hinside : k.toNat * i < n.toNat := (TileGrid.lt_count_iff hk).mp (by omega)
      rw [decide_eq_true_iff, UInt32.lt_iff_toNat_lt, toNat_multiple hk hn (by omega)]
      exact hinside
    · have hnext : UInt32.ofNat (k.toNat * i) + k = UInt32.ofNat (k.toNat * (i + 1)) := by
        rw [Nat.mul_add_one, UInt32.ofNat_add, UInt32.ofNat_toNat]
      rw [hnext]
      exact ih (i + 1) (by omega)

/-- The loop is a fold over the multiples of its step. -/
theorem guintFor_eq (hk : 0 < k.toNat) (hn : n.toNat + k.toNat ≤ 2 ^ 32)
    (body : UInt32 → σ → Option σ) (s : σ) :
    guintFor n k body s =
      (TileGrid.starts k.toNat n.toNat).foldlM (fun s v => body (UInt32.ofNat v) s) s := by
  have htakes := takes_multiples hk hn (TileGrid.count k.toNat n.toNat) 0 (Nat.zero_add _)
  rw [Nat.mul_zero, show UInt32.ofNat 0 = 0 from rfl] at htakes
  have hcount : TileGrid.count k.toNat n.toNat ≤ n.toNat := by
    by_contra hlt
    have hinside := (TileGrid.lt_count_iff hk).mp (not_le.mp hlt)
    have hle : 1 * n.toNat ≤ k.toNat * n.toNat := Nat.mul_le_mul_right _ hk
    omega
  have hfuel : ((List.range' 0 (TileGrid.count k.toNat n.toNat)).map fun i =>
      UInt32.ofNat (k.toNat * i)).length < n.toNat + 1 := by
    rw [List.length_map, List.length_range']
    omega
  rw [guintFor, forLoop_eq htakes hfuel, TileGrid.starts, ← List.range_eq_range', List.foldlM_map,
    List.foldlM_map]

end Guint
end RemoteDesktop.CounterLoop
