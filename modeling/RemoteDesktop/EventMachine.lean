import Mathlib.Tactic

/-! Machines driven by events. An event carries every choice the environment
makes, so a run is a list of events and can be evaluated. -/
namespace RemoteDesktop

/-- A step that the state does not allow is `none`. -/
structure EventMachine (σ ε : Type*) where
  init : σ → Prop
  step : σ → ε → Option σ

namespace EventMachine

variable {σ ε : Type*} (M : EventMachine σ ε)

/-- The states reached by the runs in which every step meets `C`, a condition
on the event and on the state before it. -/
inductive ReachableIf (C : σ → ε → Prop) : σ → Prop
  | init {s : σ} (h : M.init s) : ReachableIf C s
  | step {s s' : σ} {e : ε} (h : ReachableIf C s) (hc : C s e) (he : M.step s e = some s') :
      ReachableIf C s'

/-- The states reached by any run. -/
def Reachable : σ → Prop := M.ReachableIf fun _ _ => True

/-- What one step preserves: the premises of an induction over guarded runs. -/
structure Inductive (C : σ → ε → Prop) (I : σ → Prop) : Prop where
  init : ∀ s, M.init s → I s
  step : ∀ s e s', I s → C s e → M.step s e = some s' → I s'

variable {M} {C : σ → ε → Prop} {I : σ → Prop}

/-- An inductive property holds in every state of a guarded run. -/
theorem Inductive.holds (h : M.Inductive C I) {s : σ} (hs : M.ReachableIf C s) : I s := by
  induction hs with
  | init hi => exact h.init _ hi
  | step _ hc he ih => exact h.step _ _ _ ih hc he

variable (M)

/-- Evaluation of a run. -/
def run (s : σ) : List ε → Option σ
  | [] => some s
  | e :: es => (M.step s e).bind fun s' => run s' es

/-- `P` holds in every state of the run, the first and the last included. -/
def StatesMeet (P : σ → Prop) (s : σ) : List ε → Prop
  | [] => P s
  | e :: es => P s ∧ ∀ s', M.step s e = some s' → StatesMeet P s' es

/-- Every step of the run meets `C`. -/
def StepsMeet (C : σ → ε → Prop) (s : σ) : List ε → Prop
  | [] => True
  | e :: es => C s e ∧ ∀ s', M.step s e = some s' → StepsMeet C s' es

instance decidableStatesMeet (P : σ → Prop) [DecidablePred P] (s : σ) :
    (es : List ε) → Decidable (M.StatesMeet P s es)
  | [] => inferInstanceAs (Decidable (P s))
  | e :: es =>
    have (s' : σ) : Decidable (M.StatesMeet P s' es) := decidableStatesMeet P s' es
    inferInstanceAs (Decidable (P s ∧ ∀ s' ∈ M.step s e, M.StatesMeet P s' es))

instance decidableStepsMeet (C : σ → ε → Prop) [∀ s, DecidablePred (C s)] (s : σ) :
    (es : List ε) → Decidable (M.StepsMeet C s es)
  | [] => instDecidableTrue
  | e :: es =>
    have (s' : σ) : Decidable (M.StepsMeet C s' es) := decidableStepsMeet C s' es
    inferInstanceAs (Decidable (C s e ∧ ∀ s' ∈ M.step s e, M.StepsMeet C s' es))

variable {M}

theorem run_cons_some {s t : σ} {e : ε} {es : List ε} (h : M.run s (e :: es) = some t) :
    ∃ s', M.step s e = some s' ∧ M.run s' es = some t := by
  simpa only [run, Option.bind_eq_some_iff] using h

theorem run_append (s : σ) (es es' : List ε) :
    M.run s (es ++ es') = (M.run s es).bind fun s' => M.run s' es' := by
  induction es generalizing s with
  | nil => rfl
  | cons e es ih =>
    rw [List.cons_append, run, run, Option.bind_assoc]
    congr 1
    funext s'
    exact ih s'

/-- A view of the states that every step commutes with, for the events that meet `C` and as long as
`I` holds, commutes with the runs. -/
theorem run_map {τ δ : Type*} {N : EventMachine τ δ} {C : ε → Prop} {I : σ → Prop} (f : σ → τ)
    (g : ε → δ) (hkept : ∀ s e s', I s → C e → M.step s e = some s' → I s')
    (hstep : ∀ s e, I s → C e → N.step (f s) (g e) = (M.step s e).map f) {s : σ} (hs : I s)
    (es : List ε) (hes : ∀ e ∈ es, C e) : N.run (f s) (es.map g) = (M.run s es).map f := by
  induction es generalizing s with
  | nil => rfl
  | cons e es ih =>
    obtain ⟨he, hes⟩ := List.forall_mem_cons.mp hes
    rw [List.map_cons, run, run, hstep s e hs he, Option.map_bind, Option.bind_map]
    rcases hs' : M.step s e with _ | s'
    · rfl
    · exact ih (hkept s e s' hs he hs') hes

/-- A run that starts in a guarded reachable state and keeps to `C` ends in one. -/
theorem ReachableIf.run {s t : σ} (hs : M.ReachableIf C s) (es : List ε)
    (hes : M.StepsMeet C s es) (ht : M.run s es = some t) : M.ReachableIf C t := by
  induction es generalizing s with
  | nil => exact Option.some.inj ht ▸ hs
  | cons e es ih =>
    obtain ⟨s', he, hrun⟩ := run_cons_some ht
    exact ih (.step hs hes.1 he) (hes.2 s' he) hrun

theorem ReachableIf.run_get {s : σ} (hs : M.init s) (es : List ε) (hes : M.StepsMeet C s es)
    (hrun : (M.run s es).isSome) : M.ReachableIf C ((M.run s es).get hrun) :=
  (ReachableIf.init hs).run es hes (Option.some_get hrun).symm

theorem stepsMeet_true (s : σ) (es : List ε) : M.StepsMeet (fun _ _ => True) s es := by
  induction es generalizing s with
  | nil => trivial
  | cons e es ih => exact ⟨trivial, fun s' _ => ih s'⟩

/-- A condition on the events alone. -/
theorem stepsMeet_of_forall {C : ε → Prop} (s : σ) (es : List ε) (h : ∀ e ∈ es, C e) :
    M.StepsMeet (fun _ e => C e) s es := by
  induction es generalizing s with
  | nil => trivial
  | cons e es ih =>
    refine ⟨h e List.mem_cons_self, ?_⟩
    intro s' _
    exact ih s' fun e' he' => h e' (List.mem_cons_of_mem e he')

theorem reachable_of_run {s t : σ} (hs : M.init s) (es : List ε) (ht : M.run s es = some t) :
    M.Reachable t :=
  ReachableIf.run (.init hs) es (stepsMeet_true s es) ht

theorem reachable_run_get {s : σ} (hs : M.init s) (es : List ε) (hrun : (M.run s es).isSome) :
    M.Reachable ((M.run s es).get hrun) :=
  ReachableIf.run_get hs es (stepsMeet_true s es) hrun

/-- When a strong property `K` survives exactly the steps that meet `C`, and a
step that does not meet it breaks `P` at once, then `P` holds throughout a run
if and only if every step of the run meets `C`. Here the steps of the run meet a
guard `G` besides. -/
theorem statesMeet_iff_stepsMeet_of_guard {G : σ → ε → Prop} {K P : σ → Prop}
    (hKP : ∀ s, K s → P s)
    (hgood : ∀ s e s', K s → G s e → C s e → M.step s e = some s' → K s')
    (hbad : ∀ s e s', K s → G s e → ¬ C s e → M.step s e = some s' → ¬ P s')
    {s : σ} (hs : K s) (es : List ε) (hG : M.StepsMeet G s es) {t : σ}
    (hrun : M.run s es = some t) : M.StatesMeet P s es ↔ M.StepsMeet C s es := by
  induction es generalizing s with
  | nil => exact ⟨fun _ => trivial, fun _ => hKP s hs⟩
  | cons e es ih =>
    obtain ⟨s', he, hrun'⟩ := run_cons_some hrun
    -- the machine is a function, so the step of the run is the only one
    have huniq (u : σ) (hu : M.step s e = some u) : u = s' := Option.some.inj (hu.symm.trans he)
    constructor
    · intro hP
      have hP' : P s' := by
        have hrest := hP.2 s' he
        cases es with
        | nil => exact hrest
        | cons _ _ => exact hrest.1
      have hC : C s e := by
        by_contra hne
        exact hbad s e s' hs hG.1 hne he hP'
      refine ⟨hC, ?_⟩
      intro u hu
      rw [huniq u hu]
      exact (ih (hgood s e s' hs hG.1 hC he) (hG.2 s' he) hrun').mp (hP.2 s' he)
    · intro hC
      refine ⟨hKP s hs, ?_⟩
      intro u hu
      rw [huniq u hu]
      exact (ih (hgood s e s' hs hG.1 hC.1 he) (hG.2 s' he) hrun').mpr (hC.2 s' he)

theorem statesMeet_iff_stepsMeet {K P : σ → Prop} (hKP : ∀ s, K s → P s)
    (hgood : ∀ s e s', K s → C s e → M.step s e = some s' → K s')
    (hbad : ∀ s e s', K s → ¬ C s e → M.step s e = some s' → ¬ P s')
    {s : σ} (hs : K s) (es : List ε) {t : σ} (hrun : M.run s es = some t) :
    M.StatesMeet P s es ↔ M.StepsMeet C s es :=
  statesMeet_iff_stepsMeet_of_guard hKP (fun s e s' hK _ => hgood s e s' hK)
    (fun s e s' hK _ => hbad s e s' hK) hs es (stepsMeet_true s es) hrun

/-- What every guarded step preserves holds where a guarded run ends. -/
theorem StepsMeet.preserves {K : σ → Prop}
    (hstep : ∀ s e s', K s → C s e → M.step s e = some s' → K s') {s t : σ} (hs : K s)
    (es : List ε) (hC : M.StepsMeet C s es) (hrun : M.run s es = some t) : K t := by
  induction es generalizing s with
  | nil => exact Option.some.inj hrun ▸ hs
  | cons e es ih =>
    obtain ⟨s', he, hrun'⟩ := run_cons_some hrun
    exact ih (hstep s e s' hs hC.1 he) (hC.2 s' he) hrun'

/-- What every guarded step preserves holds throughout a guarded run. -/
theorem StepsMeet.statesMeet {K P : σ → Prop} (hKP : ∀ s, K s → P s)
    (hstep : ∀ s e s', K s → C s e → M.step s e = some s' → K s') {s : σ} (hs : K s)
    (es : List ε) (hC : M.StepsMeet C s es) : M.StatesMeet P s es := by
  induction es generalizing s with
  | nil => exact hKP s hs
  | cons e es ih => exact ⟨hKP s hs, fun s' he => ih (hstep s e s' hs hC.1 he) (hC.2 s' he)⟩

theorem StatesMeet.last {P : σ → Prop} {s t : σ} {es : List ε} (h : M.StatesMeet P s es)
    (hrun : M.run s es = some t) : P t := by
  induction es generalizing s with
  | nil => exact Option.some.inj hrun ▸ h
  | cons e es ih =>
    obtain ⟨s', he, hrun'⟩ := run_cons_some hrun
    exact ih (h.2 s' he) hrun'

theorem StepsMeet.and {C' : σ → ε → Prop} {s : σ} {es : List ε} (h : M.StepsMeet C s es)
    (h' : M.StepsMeet C' s es) : M.StepsMeet (fun s e => C s e ∧ C' s e) s es := by
  induction es generalizing s with
  | nil => trivial
  | cons e es ih => exact ⟨⟨h.1, h'.1⟩, fun s' he => ih (h.2 s' he) (h'.2 s' he)⟩

end EventMachine
end RemoteDesktop
