import Mathlib.Tactic

/-! Resources that a program acquires and releases. Its calls, in their order, are a ledger:
it is kept when nothing is acquired that is held already and nothing released that is not. -/
namespace RemoteDesktop

inductive ResourceCall (ρ : Type*)
  | acquire (r : ρ)
  | release (r : ρ)
  deriving DecidableEq, Repr

namespace ResourceCall

variable {ρ : Type*} [DecidableEq ρ]

/-- What is held after one call. A call that the ledger does not allow is `none`. -/
def apply (held : ρ → Bool) : ResourceCall ρ → Option (ρ → Bool)
  | acquire r => if held r then none else some (Function.update held r true)
  | release r => if held r then some (Function.update held r false) else none

/-- What is held after the calls, when nothing was held before. -/
def heldAfter (calls : List (ResourceCall ρ)) : Option (ρ → Bool) :=
  calls.foldlM apply fun _ => false

variable {calls : List (ResourceCall ρ)} {held : ρ → Bool}

theorem heldAfter_nil : heldAfter ([] : List (ResourceCall ρ)) = some fun _ => false := rfl

theorem heldAfter_append (calls calls' : List (ResourceCall ρ)) :
    heldAfter (calls ++ calls') = (heldAfter calls).bind fun held => calls'.foldlM apply held := by
  simp only [heldAfter, List.foldlM_append, Option.bind_eq_bind]

theorem heldAfter_acquire (h : heldAfter calls = some held) {r : ρ} (hr : held r = false) :
    heldAfter (calls ++ [acquire r]) = some (Function.update held r true) := by
  rw [heldAfter_append, h]
  simp [apply, hr]

theorem heldAfter_release (h : heldAfter calls = some held) {r : ρ} (hr : held r = true) :
    heldAfter (calls ++ [release r]) = some (Function.update held r false) := by
  rw [heldAfter_append, h]
  simp [apply, hr]

/-- What was acquired last is released, and with it what has been held since. -/
theorem heldAfter_release_acquired {r : ρ}
    (h : heldAfter calls = some (Function.update held r true)) (hr : held r = false) :
    heldAfter (calls ++ [release r]) = some held := by
  rw [heldAfter_release h (Function.update_self ..), Function.update_idem, ← hr,
    Function.update_eq_self]

/-- What is acquired and released at once leaves no trace. -/
theorem heldAfter_bracket (h : heldAfter calls = some held) {r : ρ} (hr : held r = false) :
    heldAfter (calls ++ [acquire r] ++ [release r]) = some held :=
  heldAfter_release_acquired (heldAfter_acquire h hr) hr

/-- Every resource was released as often as it was acquired, but for the one that is held. -/
theorem count_acquire (h : heldAfter calls = some held) (r : ρ) :
    calls.count (acquire r) = calls.count (release r) + if held r then 1 else 0 := by
  induction calls using List.reverseRecOn generalizing held with
  | nil =>
    obtain rfl := Option.some.inj h
    rfl
  | append_singleton calls c ih =>
    rw [heldAfter_append] at h
    obtain ⟨before, hbefore, hc⟩ := Option.bind_eq_some_iff.mp h
    have hbalance := ih hbefore
    have hstep : c.apply before = some held := by simpa using hc
    cases c with
    | acquire r' =>
      simp only [apply, Option.ite_none_left_eq_some, Option.some.injEq] at hstep
      obtain ⟨hfree, rfl⟩ := hstep
      by_cases hr : r = r'
      · subst hr
        simp_all [List.count_append]
      · have hne : ¬ r' = r := fun h => hr h.symm
        simp_all [List.count_append, Function.update_of_ne]
    | release r' =>
      simp only [apply, Option.ite_none_right_eq_some, Option.some.injEq] at hstep
      obtain ⟨hheld, rfl⟩ := hstep
      by_cases hr : r = r'
      · subst hr
        simp_all [List.count_append]
      · have hne : ¬ r' = r := fun h => hr h.symm
        simp_all [List.count_append, Function.update_of_ne]

/-! Nested calls: only what was acquired last may be released. -/

def nest (stack : List ρ) : ResourceCall ρ → Option (List ρ)
  | acquire r => if r ∈ stack then none else some (r :: stack)
  | release r => if stack.head? = some r then some stack.tail else none

/-- What is held after nested calls, the last one first. -/
def nestedAfter (calls : List (ResourceCall ρ)) : Option (List ρ) :=
  calls.foldlM nest []

theorem nestedAfter_append (calls calls' : List (ResourceCall ρ)) :
    nestedAfter (calls ++ calls') =
      (nestedAfter calls).bind fun stack => calls'.foldlM nest stack := by
  simp only [nestedAfter, List.foldlM_append, Option.bind_eq_bind]

/-- Nested calls keep the ledger. -/
theorem heldAfter_of_nested {stack : List ρ} (h : nestedAfter calls = some stack) :
    stack.Nodup ∧ heldAfter calls = some fun r => decide (r ∈ stack) := by
  induction calls using List.reverseRecOn generalizing stack with
  | nil =>
    obtain rfl := Option.some.inj h
    refine ⟨List.nodup_nil, ?_⟩
    simp [heldAfter]
  | append_singleton calls c ih =>
    rw [nestedAfter_append] at h
    obtain ⟨before, hbefore, hc⟩ := Option.bind_eq_some_iff.mp h
    obtain ⟨hnodup, hheld⟩ := ih hbefore
    have hstep : c.nest before = some stack := by simpa using hc
    cases c with
    | acquire r =>
      simp only [nest, Option.ite_none_left_eq_some, Option.some.injEq] at hstep
      obtain ⟨hfree, rfl⟩ := hstep
      refine ⟨List.nodup_cons.mpr ⟨hfree, hnodup⟩, ?_⟩
      rw [heldAfter_acquire hheld (by simpa using hfree)]
      congr 1
      ext r'
      by_cases hr : r' = r
      · simp [hr]
      · simp [hr]
    | release r =>
      simp only [nest, Option.ite_none_right_eq_some, Option.some.injEq] at hstep
      obtain ⟨htop, rfl⟩ := hstep
      obtain ⟨rest, rfl⟩ : ∃ rest, before = r :: rest :=
        ⟨before.tail, List.eq_cons_of_mem_head? htop⟩
      have hrest := List.nodup_cons.mp hnodup
      refine ⟨hrest.2, ?_⟩
      rw [heldAfter_release hheld (by simp)]
      congr 1
      ext r'
      by_cases hr : r' = r
      · simp [hr, hrest.1]
      · rw [Function.update_of_ne hr, decide_eq_decide]
        simp [hr]

end ResourceCall
end RemoteDesktop
