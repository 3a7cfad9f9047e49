import Mathlib.Logic.Function.Basic
import Mathlib.Data.List.Basic

/-! Fallible steps in order, and rules that copy the entries of one map to another, each
with its own key, target and check. -/
namespace RemoteDesktop

section Steps

variable {σ ε : Type}

/-- The steps in order. The first error ends the run. -/
def runSteps (steps : List (σ → Except ε σ)) (s : σ) : Except ε σ :=
  steps.foldlM (fun s step => step s) s

@[simp] theorem runSteps_nil (s : σ) : runSteps ([] : List (σ → Except ε σ)) s = .ok s :=
  rfl

theorem runSteps_cons_ok {step : σ → Except ε σ} {steps : List (σ → Except ε σ)} {s t : σ} :
    runSteps (step :: steps) s = .ok t ↔ ∃ s', step s = .ok s' ∧ runSteps steps s' = .ok t := by
  rw [runSteps, List.foldlM_cons]
  cases h : step s with
  | error e => exact iff_of_false (by intro h'; cases h') (by rintro ⟨_, h', _⟩; cases h')
  | ok s' =>
    constructor
    · intro hrun
      exact ⟨s', rfl, hrun⟩
    · rintro ⟨s'', heq, hrun⟩
      cases heq
      exact hrun

/-- What every step preserves, a run that ends without an error preserves. -/
theorem runSteps_preserves {P : σ → Prop} {steps : List (σ → Except ε σ)}
    (hsteps : ∀ step ∈ steps, ∀ s t, P s → step s = .ok t → P t) {s t : σ} (hs : P s)
    (h : runSteps steps s = .ok t) : P t := by
  -- on the steps left, from the state that they start in
  induction steps generalizing s with
  | nil =>
    cases h
    exact hs
  | cons step steps ih =>
    obtain ⟨s', hstep, hrun⟩ := runSteps_cons_ok.mp h
    have hs' : P s' := hsteps step List.mem_cons_self s s' hs hstep
    exact ih (fun later hlater => hsteps later (List.mem_cons_of_mem _ hlater)) hs' hrun

/-- What one step of a run brings about, and no step takes away, holds where the run ends. -/
theorem runSteps_establishes {P Q : σ → Prop} {steps : List (σ → Except ε σ)}
    {step : σ → Except ε σ} (hstep : step ∈ steps)
    (hP : ∀ step ∈ steps, ∀ s t, P s → step s = .ok t → P t)
    (hQ : ∀ step ∈ steps, ∀ s t, Q s → step s = .ok t → Q t)
    (hest : ∀ s t, P s → step s = .ok t → Q t) {s t : σ} (hs : P s)
    (h : runSteps steps s = .ok t) : Q t := by
  induction steps generalizing s with
  | nil => cases hstep
  | cons first steps ih =>
    obtain ⟨s', hfirst, hrun⟩ := runSteps_cons_ok.mp h
    have hQ' : ∀ step ∈ steps, ∀ s t, Q s → step s = .ok t → Q t :=
      fun later hlater => hQ later (List.mem_cons_of_mem _ hlater)
    rcases List.mem_cons.mp hstep with rfl | hlater
    · have hQs' : Q s' := hest s s' hs hfirst
      exact runSteps_preserves hQ' hQs' hrun
    · have hPs' : P s' := hP first List.mem_cons_self s s' hs hfirst
      exact ih hlater (fun later hlater => hP later (List.mem_cons_of_mem _ hlater)) hQ' hPs' hrun

/-- No step of a run that ends without an error had one. -/
theorem exists_step_ok {step : σ → Except ε σ} {steps : List (σ → Except ε σ)}
    (hstep : step ∈ steps) {s t : σ} (h : runSteps steps s = .ok t) :
    ∃ s' t', step s' = .ok t' := by
  induction steps generalizing s with
  | nil => cases hstep
  | cons first steps ih =>
    obtain ⟨s', hfirst, hrun⟩ := runSteps_cons_ok.mp h
    rcases List.mem_cons.mp hstep with rfl | hlater
    · exact ⟨s, s', hfirst⟩
    · exact ih hlater hrun

end Steps

/-- Where the input has `source`, its value is converted and stored under `target`. -/
structure CopyRule (κ ν ε : Type) where
  source : κ
  target : κ
  convert : ν → Except ε ν

namespace CopyRule

variable {κ ν ε : Type} [DecidableEq κ]

def apply (input : κ → Option ν) (rule : CopyRule κ ν ε) (values : κ → Option ν) :
    Except ε (κ → Option ν) :=
  match input rule.source with
  | none => .ok values
  | some v => (rule.convert v).map fun w => Function.update values rule.target (some w)

/-- All rules in order. -/
def applyAll (input : κ → Option ν) (rules : List (CopyRule κ ν ε)) (values : κ → Option ν) :
    Except ε (κ → Option ν) :=
  runSteps (rules.map fun rule => rule.apply input) values

variable {input values values' : κ → Option ν} {rule : CopyRule κ ν ε}
  {rules : List (CopyRule κ ν ε)} {k : κ}

theorem apply_none (hsource : input rule.source = none)
    (h : rule.apply input values = .ok values') : values' = values := by
  rw [apply, hsource] at h
  cases h
  rfl

theorem apply_some {v : ν} (hsource : input rule.source = some v)
    (h : rule.apply input values = .ok values') :
    ∃ w, rule.convert v = .ok w ∧ values' = Function.update values rule.target (some w) := by
  rw [apply, hsource] at h
  change (rule.convert v).map _ = _ at h
  cases hconvert : rule.convert v with
  | error e =>
    rw [hconvert] at h
    cases h
  | ok w =>
    rw [hconvert] at h
    cases h
    exact ⟨w, rfl, rfl⟩

/-- A rule leaves the other keys as they are. -/
theorem apply_of_ne (hk : k ≠ rule.target) (h : rule.apply input values = .ok values') :
    values' k = values k := by
  cases hsource : input rule.source with
  | none => rw [apply_none hsource h]
  | some v =>
    obtain ⟨w, -, rfl⟩ := apply_some hsource h
    exact Function.update_of_ne hk _ _

theorem applyAll_of_not_target (hk : ∀ rule ∈ rules, k ≠ rule.target)
    (h : applyAll input rules values = .ok values') : values' k = values k := by
  apply runSteps_preserves (P := fun m => m k = values k) _ rfl h
  intro step hstep s t hs ht
  obtain ⟨rule, hmem, rfl⟩ := List.mem_map.mp hstep
  exact (apply_of_ne (hk rule hmem) ht).trans hs

/-- Where one rule has the target, a run acts on it as that rule does. -/
theorem applyAll_of_filter (hfilter : rules.filter (fun r => r.target = k) = [rule])
    (h : applyAll input rules values = .ok values') :
    ∃ before after, rule.apply input before = .ok after ∧ before k = values k ∧
      values' k = after k := by
  induction rules generalizing values with
  | nil => cases hfilter
  | cons r rules ih =>
    obtain ⟨middle, hr, hrest⟩ := runSteps_cons_ok.mp h
    by_cases hk : r.target = k
    · rw [List.filter_cons_of_pos (by simpa using hk)] at hfilter
      -- no later rule has the target, so its value stays
      obtain ⟨rfl, hnone⟩ := List.cons.inj hfilter
      have hother : ∀ rule ∈ rules, k ≠ rule.target := by
        intro rule hmem heq
        exact absurd heq.symm (by simpa using List.filter_eq_nil_iff.mp hnone rule hmem)
      exact ⟨values, middle, hr, rfl, applyAll_of_not_target hother hrest⟩
    · rw [List.filter_cons_of_neg (by simpa using hk)] at hfilter
      -- another target: the value before the rule is the one at the start
      obtain ⟨before, after, hstep, hbefore, hafter⟩ := ih hfilter hrest
      exact ⟨before, after, hstep, hbefore.trans (apply_of_ne (Ne.symm hk) hr), hafter⟩

theorem target_eq_of_filter (hfilter : rules.filter (fun r => r.target = k) = [rule]) :
    rule.target = k := by
  have hmem : rule ∈ rules.filter (fun r => r.target = k) := by
    rw [hfilter]
    exact List.mem_singleton_self rule
  simpa using (List.mem_filter.mp hmem).2

/-- A key that the input does not have keeps its value. -/
theorem applyAll_none (hfilter : rules.filter (fun r => r.target = k) = [rule])
    (hsource : input rule.source = none) (h : applyAll input rules values = .ok values') :
    values' k = values k := by
  obtain ⟨before, after, hstep, hbefore, hafter⟩ := applyAll_of_filter hfilter h
  rw [hafter, apply_none hsource hstep, hbefore]

/-- A key that the input has gets its converted value. -/
theorem applyAll_some (hfilter : rules.filter (fun r => r.target = k) = [rule]) {v : ν}
    (hsource : input rule.source = some v) (h : applyAll input rules values = .ok values') :
    ∃ w, rule.convert v = .ok w ∧ values' k = some w := by
  obtain ⟨before, after, hstep, -, hafter⟩ := applyAll_of_filter hfilter h
  obtain ⟨w, hconvert, rfl⟩ := apply_some hsource hstep
  refine ⟨w, hconvert, ?_⟩
  rw [hafter, target_eq_of_filter hfilter, Function.update_self]

end CopyRule

end RemoteDesktop
