import RemoteDesktop.EventMachine

/-! A register that threads change in loops of compare and swap. A thread that finds nothing to
change returns; the one whose exchange succeeds announces the change and returns. Every call
takes effect at one step between its invocation and its response. -/
namespace RemoteDesktop

/-- Where a call is. In `loaded` it has read `seen`, in `changed` its exchange has succeeded. -/
inductive CasPc (α ω : Type*)
  | idle
  | loop (op : ω)
  | loaded (op : ω) (seen : α)
  | changed (op : ω)
  | returning (op : ω)
  deriving DecidableEq

inductive CasEntry (ι ω : Type*)
  | invoke (thread : ι) (op : ω)
  | effect (thread : ι) (op : ω)
  | response (thread : ι) (op : ω)
  deriving DecidableEq

def CasEntry.thread {ι ω : Type*} : CasEntry ι ω → ι
  | invoke thread _ | effect thread _ | response thread _ => thread

/-- `effects` are the operations in the order in which they take effect; those of `none` are
plain stores. `announced` counts the announcements of each thread. -/
structure CasState (α ω ι : Type*) where
  register : α
  pc : ι → CasPc α ω := fun _ => .idle
  announced : ι → ℕ := fun _ => 0
  effects : List (Option ι × ω) := []
  history : List (CasEntry ι ω) := []

inductive CasEvent (ω ι : Type*)
  | call (thread : ι) (op : ω)
  | load (thread : ι)
  | exchange (thread : ι)
  | announce (thread : ι)
  | ret (thread : ι)
  | store (op : ω)

namespace CasState

variable {α ω ι : Type*} [DecidableEq α] [DecidableEq ι] (f : ω → α → α)

/-- The operation of a thread takes effect. -/
def effect (s : CasState α ω ι) (thread : ι) (op : ω) (pc : CasPc α ω) : CasState α ω ι :=
  { s with
    register := f op s.register
    pc := Function.update s.pc thread pc
    effects := s.effects ++ [(some thread, op)]
    history := s.history ++ [.effect thread op] }

/-- `f op` is what the operation makes of the register. -/
def step (s : CasState α ω ι) : CasEvent ω ι → Option (CasState α ω ι)
  | .call thread op =>
    match s.pc thread with
    | .idle =>
      some { s with
        pc := Function.update s.pc thread (.loop op)
        history := s.history ++ [.invoke thread op] }
    | _ => none
  | .load thread =>
    match s.pc thread with
    | .loop op =>
      if f op s.register = s.register then some (s.effect f thread op (.returning op))
      else some { s with pc := Function.update s.pc thread (.loaded op s.register) }
    | _ => none
  | .exchange thread =>
    match s.pc thread with
    | .loaded op seen =>
      if s.register = seen then some (s.effect f thread op (.changed op))
      else some { s with pc := Function.update s.pc thread (.loop op) }
    | _ => none
  | .announce thread =>
    match s.pc thread with
    | .changed op =>
      some { s with
        pc := Function.update s.pc thread (.returning op)
        announced := Function.update s.announced thread (s.announced thread + 1) }
    | _ => none
  | .ret thread =>
    match s.pc thread with
    | .returning op =>
      some { s with
        pc := Function.update s.pc thread .idle
        history := s.history ++ [.response thread op] }
    | _ => none
  | .store op =>
    some { s with register := f op s.register, effects := s.effects ++ [(none, op)] }

def machine (first : α) : EventMachine (CasState α ω ι) (CasEvent ω ι) where
  init s := s = { register := first }
  step := step f

/-- The register after operations that take effect at once, one after the other. -/
def replay (first : α) (effects : List (Option ι × ω)) : α :=
  effects.foldl (fun value effect => f effect.2 value) first

/-- Whether an effect is one of the thread that really changes the register. -/
def changes (thread : ι) (value : α) (effect : Option ι × ω) : ℕ :=
  if effect.1 = some thread ∧ f effect.2 value ≠ value then 1 else 0

/-- How often one thread has really changed the register. -/
def changesBy (thread : ι) (first : α) : List (Option ι × ω) → ℕ
  | [] => 0
  | effect :: effects =>
    changes f thread first effect + changesBy thread (f effect.2 first) effects

/-- The calls of one thread that are over: each took effect once, before its response. -/
inductive Calls (thread : ι) : List (CasEntry ι ω) → Prop
  | nil : Calls thread []
  | call {entries : List (CasEntry ι ω)} (h : Calls thread entries) (op : ω) :
      Calls thread (entries ++ [.invoke thread op, .effect thread op, .response thread op])

/-- What the history has of the call under way. -/
def underWay (thread : ι) : CasPc α ω → List (CasEntry ι ω)
  | .idle => []
  | .loop op | .loaded op _ => [.invoke thread op]
  | .changed op | .returning op => [.invoke thread op, .effect thread op]

/-- The call has changed the register and not said so yet. -/
def pending : CasPc α ω → ℕ
  | .changed _ => 1
  | .idle | .loop _ | .loaded .. | .returning _ => 0

/-- The operations of threads, in the order of the history. -/
def ofHistory : CasEntry ι ω → Option (ι × ω)
  | .effect thread op => some (thread, op)
  | .invoke .. | .response .. => none

/-- The same operations in the order of the effects. -/
def ofEffects : Option ι × ω → Option (ι × ω)
  | (some thread, op) => some (thread, op)
  | (none, _) => none

structure Linearized (first : α) (s : CasState α ω ι) : Prop where
  register : s.register = replay f first s.effects
  loaded : ∀ thread op seen, s.pc thread = .loaded op seen → f op seen ≠ seen
  announced : ∀ thread,
    changesBy f thread first s.effects = s.announced thread + pending (s.pc thread)
  calls : ∀ thread, ∃ done, Calls thread done ∧
    (s.history.filter fun entry => entry.thread = thread) = done ++ underWay thread (s.pc thread)
  order : s.history.filterMap ofHistory = s.effects.filterMap ofEffects

variable {f} {first : α} {s s' : CasState α ω ι}

omit [DecidableEq α] [DecidableEq ι] in
theorem replay_append (effects : List (Option ι × ω)) (effect : Option ι × ω) :
    replay f first (effects ++ [effect]) = f effect.2 (replay f first effects) := by
  simp [replay]

theorem changesBy_append (thread : ι) (effects : List (Option ι × ω)) (effect : Option ι × ω) :
    changesBy f thread first (effects ++ [effect]) = changesBy f thread first effects +
      changes f thread (replay f first effects) effect := by
  induction effects generalizing first with
  | nil => simp [changesBy, replay]
  | cons e effects ih =>
    rw [List.cons_append, changesBy, changesBy, ih, Nat.add_assoc]
    rfl

theorem linearized_init (first : α) :
    ({ register := first } : CasState α ω ι).Linearized f first where
  register := rfl
  loaded := by simp
  announced := by simp [changesBy, pending]
  calls := fun _ => ⟨[], .nil, rfl⟩
  order := rfl

/-- Only the history of one thread goes on, and its call with it. -/
theorem Linearized.calls_update (h : s.Linearized f first) (i : ι) (pc : CasPc α ω)
    (entries : List (CasEntry ι ω)) (hentries : ∀ entry ∈ entries, entry.thread = i)
    (hi : ∀ done, Calls i done → ∃ done', Calls i done' ∧
      done ++ underWay i (s.pc i) ++ entries = done' ++ underWay i pc) (thread : ι) :
    ∃ done, Calls thread done ∧
      ((s.history ++ entries).filter fun entry => entry.thread = thread) =
        done ++ underWay thread (Function.update s.pc i pc thread) := by
  obtain ⟨done, hdone, hhistory⟩ := h.calls thread
  rw [List.filter_append, hhistory]
  by_cases hthread : thread = i
  · subst hthread
    obtain ⟨done', hdone', heq⟩ := hi done hdone
    have hall : (entries.filter fun entry => entry.thread = thread) = entries := by
      apply List.filter_eq_self.mpr
      simpa using hentries
    exact ⟨done', hdone', by rw [hall, heq, Function.update_self]⟩
  · have hnone : (entries.filter fun entry => entry.thread = thread) = [] := by
      apply List.filter_eq_nil_iff.mpr
      intro entry hmem
      simpa [hentries entry hmem] using fun heq : i = thread => hthread heq.symm
    exact ⟨done, hdone, by rw [hnone, List.append_nil, Function.update_of_ne hthread]⟩

/-- A move within a call that the history says nothing of. -/
theorem Linearized.calls_silent (h : s.Linearized f first) {i : ι} {pc : CasPc α ω}
    (hunderWay : underWay i pc = underWay i (s.pc i)) (thread : ι) :
    ∃ done, Calls thread done ∧ (s.history.filter fun entry => entry.thread = thread) =
      done ++ underWay thread (Function.update s.pc i pc thread) := by
  have hcalls := h.calls_update i pc [] (by simp) (by
    intro done hdone
    exact ⟨done, hdone, by rw [List.append_nil, hunderWay]⟩) thread
  simpa only [List.append_nil] using hcalls

theorem loaded_update {i : ι} {pc : CasPc α ω} (h : s.Linearized f first)
    (hpc : ∀ op seen, pc = .loaded op seen → f op seen ≠ seen) (thread : ι) (op : ω) (seen : α)
    (heq : Function.update s.pc i pc thread = .loaded op seen) : f op seen ≠ seen := by
  by_cases hthread : thread = i
  · subst hthread
    rw [Function.update_self] at heq
    exact hpc op seen heq
  · rw [Function.update_of_ne hthread] at heq
    exact h.loaded thread op seen heq

/-- A move after which no thread has more to announce than before. -/
theorem announced_update {i : ι} {pc : CasPc α ω} (h : s.Linearized f first)
    (hpc : pending pc = pending (s.pc i)) (thread : ι) :
    changesBy f thread first s.effects =
      s.announced thread + pending (Function.update s.pc i pc thread) := by
  rw [h.announced thread]
  by_cases hthread : thread = i
  · rw [hthread, Function.update_self, hpc]
  · rw [Function.update_of_ne hthread]

/-- The step at which a call takes effect: an exchange that succeeds leaves its change to be
announced. -/
theorem Linearized.effect (h : s.Linearized f first) {i : ι} {op : ω} {pc : CasPc α ω}
    (hbefore : underWay i (s.pc i) = [.invoke i op]) (hquiet : pending (s.pc i) = 0)
    (hafter : underWay i pc = [.invoke i op, .effect i op])
    (hpending : pending pc = if f op s.register ≠ s.register then 1 else 0) :
    (s.effect f i op pc).Linearized f first where
  register := by
    change f op s.register = replay f first (s.effects ++ [(some i, op)])
    rw [replay_append, ← h.register]
  loaded := by
    apply loaded_update h
    rintro op' seen rfl
    simp [underWay] at hafter
  announced := by
    intro thread
    change changesBy f thread first (s.effects ++ [(some i, op)]) =
      s.announced thread + pending (Function.update s.pc i pc thread)
    rw [changesBy_append, h.announced thread, changes, ← h.register]
    by_cases hthread : thread = i
    · rw [hthread, Function.update_self, hpending, hquiet]
      simp
    · have hne : ¬ i = thread := fun heq => hthread heq.symm
      simp [Function.update_of_ne hthread, hne]
  calls := by
    apply h.calls_update i pc [.effect i op]
    · simp [CasEntry.thread]
    · intro done hdone
      exact ⟨done, hdone, by simp [hbefore, hafter]⟩
  order := by
    change (s.history ++ [CasEntry.effect i op]).filterMap ofHistory =
      (s.effects ++ [(some i, op)]).filterMap ofEffects
    rw [List.filterMap_append, List.filterMap_append, h.order]
    rfl

theorem Linearized.silent (h : s.Linearized f first) {i : ι} {pc : CasPc α ω}
    (hunderWay : underWay i pc = underWay i (s.pc i)) (hpending : pending pc = pending (s.pc i))
    (hloaded : ∀ op seen, pc = .loaded op seen → f op seen ≠ seen) :
    ({ s with pc := Function.update s.pc i pc } : CasState α ω ι).Linearized f first where
  register := h.register
  loaded := loaded_update h hloaded
  announced := announced_update h hpending
  calls := h.calls_silent hunderWay
  order := h.order

theorem Linearized.call (h : s.Linearized f first) {i : ι} {op : ω}
    (he : s.step f (.call i op) = some s') : s'.Linearized f first := by
  cases hpc : s.pc i with
  | idle =>
    simp only [step, hpc, Option.some.injEq] at he
    rw [← he]
    exact
      { register := h.register
        loaded := loaded_update h (by simp)
        announced := announced_update h (by simp [pending, hpc])
        calls := by
          apply h.calls_update i (.loop op) [.invoke i op]
          · simp [CasEntry.thread]
          · intro done hdone
            exact ⟨done, hdone, by simp [hpc, underWay]⟩
        order := by
          rw [List.filterMap_append, h.order]
          exact List.append_nil _ }
  | loop | loaded | changed | returning => simp [step, hpc] at he

/-- A load that finds nothing to change is the effect of its call. -/
theorem Linearized.load (h : s.Linearized f first) {i : ι}
    (he : s.step f (.load i) = some s') : s'.Linearized f first := by
  cases hpc : s.pc i with
  | loop op =>
    simp only [step, hpc] at he
    split at he
    · rename_i hsame
      rw [← Option.some.inj he]
      exact h.effect (by simp [hpc, underWay]) (by simp [hpc, pending]) rfl
        (by simp [hsame, pending])
    · rename_i hdiffers
      rw [← Option.some.inj he]
      apply h.silent (by simp [hpc, underWay]) (by simp [hpc, pending])
      intro op' seen heq
      obtain ⟨rfl, rfl⟩ := CasPc.loaded.inj heq
      exact hdiffers
  | idle | loaded | changed | returning => simp [step, hpc] at he

theorem Linearized.exchange (h : s.Linearized f first) {i : ι}
    (he : s.step f (.exchange i) = some s') : s'.Linearized f first := by
  cases hpc : s.pc i with
  | loaded op seen =>
    simp only [step, hpc] at he
    have hchange := h.loaded i op seen hpc
    split at he
    · rename_i hseen
      rw [← Option.some.inj he]
      exact h.effect (by simp [hpc, underWay]) (by simp [hpc, pending]) rfl
        (by simp [hseen, hchange, pending])
    · rw [← Option.some.inj he]
      exact h.silent (by simp [hpc, underWay]) (by simp [hpc, pending]) (by simp)
  | idle | loop | changed | returning => simp [step, hpc] at he

theorem Linearized.announce (h : s.Linearized f first) {i : ι}
    (he : s.step f (.announce i) = some s') : s'.Linearized f first := by
  cases hpc : s.pc i with
  | changed op =>
    simp only [step, hpc, Option.some.injEq] at he
    rw [← he]
    exact
      { register := h.register
        loaded := loaded_update h (by simp)
        announced := by
          intro thread
          have hcount := h.announced thread
          by_cases hthread : thread = i
          · rw [hthread, hpc] at hcount
            simpa [hthread, pending] using hcount
          · simpa [Function.update_of_ne hthread] using hcount
        calls := h.calls_silent (by simp [hpc, underWay])
        order := h.order }
  | idle | loop | loaded | returning => simp [step, hpc] at he

theorem Linearized.ret (h : s.Linearized f first) {i : ι}
    (he : s.step f (.ret i) = some s') : s'.Linearized f first := by
  cases hpc : s.pc i with
  | returning op =>
    simp only [step, hpc, Option.some.injEq] at he
    rw [← he]
    exact
      { register := h.register
        loaded := loaded_update h (by simp)
        announced := announced_update h (by simp [pending, hpc])
        calls := by
          apply h.calls_update i .idle [.response i op]
          · simp [CasEntry.thread]
          · intro done hdone
            exact ⟨_, hdone.call op, by simp [hpc, underWay]⟩
        order := by
          rw [List.filterMap_append, h.order]
          exact List.append_nil _ }
  | idle | loop | loaded | changed => simp [step, hpc] at he

theorem Linearized.store (h : s.Linearized f first) {op : ω}
    (he : s.step f (.store op) = some s') : s'.Linearized f first := by
  rw [← Option.some.inj he]
  exact
    { register := by
        rw [replay_append, ← h.register]
      loaded := h.loaded
      announced := by
        intro thread
        rw [changesBy_append, h.announced thread]
        simp [changes]
      calls := h.calls
      order := by
        rw [List.filterMap_append, h.order]
        exact (List.append_nil _).symm }

theorem Linearized.step (h : s.Linearized f first) {e : CasEvent ω ι}
    (he : s.step f e = some s') : s'.Linearized f first := by
  cases e with
  | call i op => exact h.call he
  | load i => exact h.load he
  | exchange i => exact h.exchange he
  | announce i => exact h.announce he
  | ret i => exact h.ret he
  | store op => exact h.store he

theorem linearized_inductive (first : α) :
    (machine (ι := ι) f first).Inductive (fun _ _ => True) (Linearized f first) where
  init _ hs := hs ▸ linearized_init first
  step _ _ _ hs _ he := hs.step he

end CasState
end RemoteDesktop
