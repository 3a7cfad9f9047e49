import Mathlib.Tactic

/-! Presses and releases that are passed on under other names: what the client holds down, and
what is down at the server for it. -/
namespace RemoteDesktop

structure Held (ι κ : Type*) where
  client : ι → Bool := fun _ => false
  server : κ → Bool := fun _ => false

namespace Held

variable {ι κ : Type*} [DecidableEq ι] [DecidableEq κ]

/-- A press or a release, passed on to the target if there is one. -/
def forward (held : Held ι κ) (item : ι) (target : Option κ) (press : Bool) : Held ι κ where
  client := Function.update held.client item press
  server := target.elim held.server fun k => Function.update held.server k press

/-- A press and a release that nothing at the client stands for. -/
def click (held : Held ι κ) (target : κ) : Held ι κ :=
  { held with
    server := Function.update (Function.update held.server target true) target false }

/-- Whatever is down at the server, the client holds something that stands for it. -/
def Explained (f : ι → Option κ) (held : Held ι κ) : Prop :=
  ∀ k, held.server k = true → ∃ i, held.client i = true ∧ f i = some k

/-- Where one item alone stands for a target, it is down there exactly while the client holds
the item. -/
def Mirrored (f : ι → Option κ) (held : Held ι κ) : Prop :=
  ∀ i k, f i = some k → (∀ j, f j = some k → j = i) → held.server k = held.client i

structure Sound (f : ι → Option κ) (held : Held ι κ) : Prop where
  explained : held.Explained f
  mirrored : held.Mirrored f

variable {f : ι → Option κ} {held : Held ι κ}

omit [DecidableEq ι] [DecidableEq κ] in
theorem explained_of_released (h : ∀ k, held.server k = false) : held.Explained f := by
  intro k hk
  rw [h k] at hk
  cases hk

omit [DecidableEq ι] [DecidableEq κ] in
theorem sound_of_released (hs : ∀ k, held.server k = false) (hc : ∀ i, held.client i = false) :
    held.Sound f := by
  refine ⟨explained_of_released hs, ?_⟩
  intro i k _ _
  rw [hs k, hc i]

theorem Explained.forward (h : held.Explained f) (i : ι) (press : Bool) :
    (held.forward i (f i) press).Explained f := by
  intro k hk
  -- an item that keeps another target down is another item
  have hother (hold : held.server k = true) (hne : f i ≠ some k) :
      ∃ j, (held.forward i (f i) press).client j = true ∧ f j = some k := by
    obtain ⟨j, hj, hjk⟩ := h k hold
    refine ⟨j, ?_, hjk⟩
    have hji : j ≠ i := by
      rintro rfl
      exact hne hjk
    simpa [Held.forward, Function.update_of_ne hji] using hj
  cases htarget : f i with
  | none =>
    rw [htarget] at hk hother
    exact hother hk (by simp)
  | some t =>
    rw [htarget] at hk hother
    by_cases hkt : k = t
    · subst hkt
      have hpress : press = true := by simpa [Held.forward] using hk
      exact ⟨i, by simp [Held.forward, hpress], htarget⟩
    · apply hother
      · simpa [Held.forward, Function.update_of_ne hkt] using hk
      · simpa using fun heq : t = k => hkt heq.symm

theorem Mirrored.forward (h : held.Mirrored f) (i : ι) (press : Bool) :
    (held.forward i (f i) press).Mirrored f := by
  intro j k hj halone
  by_cases hji : j = i
  · subst hji
    simp [Held.forward, hj]
  · have hkept := h j k hj halone
    cases htarget : f i with
    | none => simpa [Held.forward, Function.update_of_ne hji] using hkept
    | some t =>
      have hkt : k ≠ t := by
        rintro rfl
        exact hji (halone i htarget).symm
      simpa [Held.forward, Function.update_of_ne hji, Function.update_of_ne hkt] using hkept

theorem Sound.forward (h : held.Sound f) (i : ι) (press : Bool) :
    (held.forward i (f i) press).Sound f :=
  ⟨h.explained.forward i press, h.mirrored.forward i press⟩

omit [DecidableEq ι] in
/-- A click where nothing of the client has its target. -/
theorem Sound.click (h : held.Sound f) (target : κ) (hnone : ∀ i, f i ≠ some target) :
    (held.click target).Sound f := by
  constructor
  · intro k hk
    by_cases hkt : k = target
    · simp [Held.click, hkt] at hk
    · exact h.explained k (by simpa [Held.click, Function.update_of_ne hkt] using hk)
  · intro i k hi halone
    have hkt : k ≠ target := by
      rintro rfl
      exact hnone i hi
    simpa [Held.click, Function.update_of_ne hkt] using h.mirrored i k hi halone

end Held
end RemoteDesktop
