import Mathlib.Tactic

/-! A cache with one place, for a value and the key it was made for. A request for this key is
served from the place. Any other request empties it and makes a value anew, which can fail. -/
namespace RemoteDesktop

/-- `made` is what the request finds when a value has to be made. -/
structure SlotRequest (κ α : Type*) where
  key : κ
  made : Option α

namespace SlotRequest

variable {κ α : Type*} [DecidableEq κ]

/-- Whether the request is served from the place. -/
def Hits (r : SlotRequest κ α) (slot : Option (κ × α)) : Prop := slot.map Prod.fst = some r.key

instance (r : SlotRequest κ α) (slot : Option (κ × α)) : Decidable (r.Hits slot) :=
  inferInstanceAs (Decidable (_ = _))

def serve (r : SlotRequest κ α) (slot : Option (κ × α)) : Option (κ × α) :=
  if r.Hits slot then slot else r.made.map fun a => (r.key, a)

/-- The place after the requests, which was empty before. -/
def slotAfter (rs : List (SlotRequest κ α)) : Option (κ × α) := rs.foldl (fun slot r => r.serve slot) none

variable {rs rs' : List (SlotRequest κ α)} {r : SlotRequest κ α} {k : κ} {a : α}

theorem slotAfter_concat (rs : List (SlotRequest κ α)) (r : SlotRequest κ α) :
    slotAfter (rs ++ [r]) = r.serve (slotAfter rs) := by
  rw [slotAfter, List.foldl_append]
  rfl

/-- What is in the place after a request is for its key. -/
theorem serve_key {slot : Option (κ × α)} (h : r.serve slot = some (k, a)) : k = r.key := by
  rw [serve] at h
  split at h
  · rename_i hhit
    rw [Hits, h, Option.map_some, Option.some.injEq] at hhit
    exact hhit
  · obtain ⟨_, _, hpair⟩ := Option.map_eq_some_iff.mp h
    exact (Prod.mk.inj hpair).1.symm

theorem serve_hit {slot : Option (κ × α)} (h : r.Hits slot) : r.serve slot = slot := if_pos h

theorem serve_miss {slot : Option (κ × α)} (h : ¬ r.Hits slot) :
    r.serve slot = r.made.map fun a => (r.key, a) := if_neg h

/-- A row of requests for the key in the place leaves it as it is. -/
theorem foldl_serve_hits (h : ∀ r ∈ rs, r.key = k) :
    rs.foldl (fun slot r => r.serve slot) (some (k, a)) = some (k, a) := by
  induction rs with
  | nil => rfl
  | cons r rs ih =>
    have hhit : r.Hits (some (k, a)) := by
      rw [Hits, h r List.mem_cons_self]
      rfl
    rw [List.foldl_cons, serve_hit hhit]
    exact ih fun r' hr' => h r' (List.mem_cons_of_mem r hr')

/-- The value in the place was made for the first request of the row of requests for its key that
comes last. -/
theorem slotAfter_eq_some_iff : slotAfter rs = some (k, a) ↔
    ∃ before after, rs = before ++ ⟨k, some a⟩ :: after ∧ (∀ r ∈ after, r.key = k) ∧
      (slotAfter before).map Prod.fst ≠ some k := by
  constructor
  · intro h
    induction rs using List.reverseRecOn with
    | nil => cases h
    | append_singleton rs r ih =>
      rw [slotAfter_concat] at h
      have hkey := serve_key h
      by_cases hhit : r.Hits (slotAfter rs)
      · rw [serve_hit hhit] at h
        obtain ⟨before, after, rfl, hafter, hmiss⟩ := ih h
        refine ⟨before, after ++ [r], by simp, ?_, hmiss⟩
        intro r' hr'
        rcases List.mem_append.mp hr' with hr' | hr'
        · exact hafter r' hr'
        · rw [List.mem_singleton.mp hr', hkey]
      · rw [serve_miss hhit] at h
        obtain ⟨_, hmade, hpair⟩ := Option.map_eq_some_iff.mp h
        obtain ⟨rfl, rfl⟩ := Prod.mk.inj hpair
        refine ⟨rs, [], ?_, by simp, hhit⟩
        rw [← hmade]
  · rintro ⟨before, after, rfl, hafter, hmiss⟩
    rw [slotAfter, List.foldl_append, List.foldl_cons]
    have hserve : serve ⟨k, some a⟩ (slotAfter before) = some (k, a) := serve_miss hmiss
    rw [slotAfter] at hserve
    rw [hserve]
    exact foldl_serve_hits hafter

end SlotRequest
end RemoteDesktop
