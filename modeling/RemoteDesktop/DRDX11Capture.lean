import RemoteDesktop.EventMachine

/-! The loop of `drd_x11_capture_thread` against an X server that reports damage
with `XDamageReportNonEmpty`. Pictures are numbered by the screen changes that
made them. -/
namespace RemoteDesktop.DRD

inductive XEvent
  | damageNotify
  | other
  deriving DecidableEq, Repr

/-- The next call of the loop body. -/
inductive X11CapturePc
  | head | poll | drain | deadline | getImage | push | stopped
  deriving DecidableEq, Repr

/-- `wire` holds what the server has sent and Xlib has not read, `queue` what
`XPending` counts. The fields from `damage` on are the thread's own. -/
structure X11Capture where
  pc : X11CapturePc
  screen : ℕ
  region : Bool
  wire : List XEvent
  queue : List XEvent
  damage : Bool
  nextCaptureDeadline : ℤ
  now : ℤ
  image : ℕ
  pushed : ℕ
  deriving DecidableEq, Repr

/-- The first three are the server's, the others the thread's calls with what
the system answered. `gPoll` below zero is an interrupted wait. -/
inductive X11Event
  | screenChange
  | otherEvent
  | deliver
  | iterate (running : Bool) (clock : ℤ)
  | gPoll (result : ℤ)
  | xNextEvent
  | xPendingNone
  | checkDeadline (clock : ℤ)
  | xShmGetImage (ok : Bool)
  | pushFrame (clock : ℤ) (hasBuffer : Bool)
  deriving DecidableEq, Repr

namespace X11Capture

/-- The server queues an event only when the damage region was empty. -/
def screenChange (s : X11Capture) : X11Capture :=
  { s with
    screen := s.screen + 1
    region := true
    wire := if s.region then s.wire else s.wire ++ [.damageNotify] }

/-- `XNextEvent`, and `XDamageSubtract` with no parts, which empties the region. -/
def takeEvent (s : X11Capture) (ev : XEvent) (queue : List XEvent) : X11Capture :=
  match ev with
  | .damageNotify => { s with queue := queue, region := false, damage := true }
  | .other => { s with queue := queue }

/-- The pacing at the end of an iteration that grabbed a picture. -/
def advanceDeadline (targetInterval clock deadline : ℤ) : ℤ :=
  if deadline + targetInterval < clock then clock + targetInterval
  else deadline + targetInterval

end X11Capture

def drdX11CaptureThreadStep (targetInterval : ℤ) (s : X11Capture) :
    X11Event → Option X11Capture
  | .screenChange => some s.screenChange
  | .otherEvent => some { s with wire := s.wire ++ [.other] }
  | .deliver =>
    match s.wire with
    | [] => none
    | ev :: wire => some { s with wire := wire, queue := s.queue ++ [ev] }
  | .iterate running clock =>
    if s.pc = .head then
      if running then
        -- `damage` is a local of the loop body, so each iteration clears it
        some { s with
          pc := .poll
          damage := false
          nextCaptureDeadline :=
            if s.nextCaptureDeadline = 0 then clock else s.nextCaptureDeadline }
      else some { s with pc := .stopped }
    else none
  | .gPoll result =>
    if s.pc = .poll then some { s with pc := if result < 0 then .head else .drain } else none
  | .xNextEvent =>
    if s.pc = .drain then
      match s.queue with
      | [] => none
      | ev :: queue => some (s.takeEvent ev queue)
    else none
  | .xPendingNone =>
    if s.pc = .drain ∧ s.queue = [] then
      some { s with pc := if s.damage then .deadline else .head }
    else none
  | .checkDeadline clock =>
    if s.pc = .deadline then
      some { s with now := clock, pc := if clock < s.nextCaptureDeadline then .head else .getImage }
    else none
  | .xShmGetImage ok =>
    if s.pc = .getImage then
      if ok then some { s with pc := .push, image := s.screen }
      else some { s with pc := .head, nextCaptureDeadline := s.now + targetInterval }
    else none
  | .pushFrame clock hasBuffer =>
    if s.pc = .push then
      some { s with
        pc := .head
        now := clock
        pushed := if hasBuffer then s.image else s.pushed
        nextCaptureDeadline :=
          X11Capture.advanceDeadline targetInterval clock s.nextCaptureDeadline }
    else none

/-- The thread starts with the picture it was created on. The damage object may
already have reported its window. -/
def X11Capture.Started (s : X11Capture) : Prop :=
  s.pc = .head ∧ s.pushed = s.screen ∧ s.queue = [] ∧
    s.wire = if s.region then [.damageNotify] else []

instance (s : X11Capture) : Decidable s.Started :=
  inferInstanceAs (Decidable (_ ∧ _ ∧ _ ∧ _))

def drdX11CaptureThread (targetInterval : ℤ) : EventMachine X11Capture X11Event where
  init := X11Capture.Started
  step := drdX11CaptureThreadStep targetInterval

namespace X11Capture

/-- At the head of the loop a change that was not pushed is still announced by
an event. The `damage` flag of the last iteration does not count: no later
iteration reads it. -/
def ChangeRecorded (s : X11Capture) : Prop :=
  s.pc = .head → s.pushed ≠ s.screen → .damageNotify ∈ s.queue ++ s.wire

instance : DecidablePred ChangeRecorded := fun s =>
  inferInstanceAs (Decidable (s.pc = .head → s.pushed ≠ s.screen → _))

/-- The screen is as pushed, or it was damaged again after `XDamageSubtract`. -/
def MaySkip (s : X11Capture) : Prop := s.pushed ≠ s.screen → s.region = true

instance : DecidablePred MaySkip := fun s =>
  inferInstanceAs (Decidable (s.pushed ≠ s.screen → s.region = true))

/-- An iteration that consumed damage leaves without a frame only when it may. -/
def SkipsOnlyPushed (s : X11Capture) : X11Event → Prop
  | .checkDeadline clock => clock < s.nextCaptureDeadline → s.MaySkip
  | .xShmGetImage ok => ok = false → s.MaySkip
  | .pushFrame _ hasBuffer => hasBuffer = false → s.MaySkip
  | _ => True

instance (s : X11Capture) : DecidablePred s.SkipsOnlyPushed
  | .checkDeadline clock =>
    inferInstanceAs (Decidable (clock < s.nextCaptureDeadline → s.MaySkip))
  | .xShmGetImage ok => inferInstanceAs (Decidable (ok = false → s.MaySkip))
  | .pushFrame _ hasBuffer => inferInstanceAs (Decidable (hasBuffer = false → s.MaySkip))
  | .screenChange | .otherEvent | .deliver | .iterate .. | .gPoll _ | .xNextEvent
  | .xPendingNone => instDecidableTrue

/-- What the thread still owes at each place of the loop body. -/
def Owed (s : X11Capture) : Prop :=
  match s.pc with
  | .head | .poll | .stopped => s.pushed ≠ s.screen → s.region = true
  | .drain => s.pushed ≠ s.screen → s.region = true ∨ s.damage = true
  | .deadline | .getImage => s.damage = true
  | .push => s.image ≠ s.screen → s.region = true

/-- The region is non-empty exactly while one damage event is under way. -/
structure Coherent (s : X11Capture) : Prop where
  once : (s.queue ++ s.wire).count .damageNotify = if s.region then 1 else 0
  owed : s.Owed

theorem started_coherent (s : X11Capture) (hs : s.Started) : s.Coherent := by
  obtain ⟨hpc, hpushed, hqueue, hwire⟩ := hs
  refine ⟨?_, ?_⟩
  · rw [hqueue, hwire]
    cases s.region <;> rfl
  · simp only [Owed, hpc]
    exact fun hne => absurd hpushed hne

theorem Coherent.damage_mem_iff {s : X11Capture} (h : s.Coherent) :
    .damageNotify ∈ s.queue ++ s.wire ↔ s.region = true := by
  rw [← List.count_pos_iff, h.once]
  cases s.region <;> simp

theorem Coherent.changeRecorded {s : X11Capture} (h : s.Coherent) : s.ChangeRecorded := by
  intro hpc hne
  have howed := h.owed
  simp only [Owed, hpc] at howed
  exact h.damage_mem_iff.mpr (howed hne)

theorem Coherent.screenChange {s : X11Capture} (h : s.Coherent) : s.screenChange.Coherent := by
  refine ⟨?_, ?_⟩
  · have honce := h.once
    cases hr : s.region <;>
      simp_all [X11Capture.screenChange, List.count_append]
  · have howed := h.owed
    cases hpc : s.pc <;> simp_all [Owed, X11Capture.screenChange]

theorem Coherent.deliver {s : X11Capture} (h : s.Coherent) (ev : XEvent) (wire : List XEvent)
    (hw : s.wire = ev :: wire) : { s with wire := wire, queue := s.queue ++ [ev] }.Coherent := by
  refine ⟨?_, h.owed⟩
  have honce := h.once
  rw [hw] at honce
  simpa only [List.append_assoc, List.singleton_append] using honce

theorem Coherent.takeEvent {s : X11Capture} (h : s.Coherent) (hpc : s.pc = .drain)
    (ev : XEvent) (queue : List XEvent) (hq : s.queue = ev :: queue) :
    (s.takeEvent ev queue).Coherent := by
  have honce := h.once
  have howed := h.owed
  rw [hq] at honce
  cases ev with
  | damageNotify =>
    refine ⟨?_, by simp [Owed, X11Capture.takeEvent, hpc]⟩
    -- the event that is consumed was the only one
    cases hr : s.region <;> simp_all [X11Capture.takeEvent]
  | other =>
    rw [List.cons_append, List.count_cons_of_ne (by decide)] at honce
    refine ⟨honce, ?_⟩
    simpa only [Owed, X11Capture.takeEvent, hpc] using howed

/-- A step of the thread that leaves the server alone keeps the count of events. -/
theorem Coherent.of_owed {s s' : X11Capture} (h : s.Coherent) (hr : s'.region = s.region)
    (hq : s'.queue = s.queue) (hw : s'.wire = s.wire) (howed : s'.Owed) : s'.Coherent :=
  ⟨by rw [hr, hq, hw]; exact h.once, howed⟩

theorem Coherent.step {targetInterval : ℤ} {s s' : X11Capture} {e : X11Event}
    (h : s.Coherent) (hc : s.SkipsOnlyPushed e)
    (he : drdX11CaptureThreadStep targetInterval s e = some s') : s'.Coherent := by
  have howed := h.owed
  cases e with
  | screenChange =>
    obtain rfl := Option.some.inj he
    exact h.screenChange
  | otherEvent =>
    obtain rfl := Option.some.inj he
    exact ⟨by simpa [List.count_append] using h.once, howed⟩
  | deliver =>
    cases hw : s.wire with
    | nil => simp [drdX11CaptureThreadStep, hw] at he
    | cons ev wire =>
      simp only [drdX11CaptureThreadStep, hw, Option.some.injEq] at he
      exact he ▸ h.deliver ev wire hw
  | iterate running clock =>
    simp only [drdX11CaptureThreadStep, Option.ite_none_right_eq_some] at he
    obtain ⟨hpc, he⟩ := he
    simp only [Owed, hpc] at howed
    cases running with
    | false =>
      obtain rfl := Option.some.inj he
      exact h.of_owed rfl rfl rfl howed
    | true =>
      obtain rfl := Option.some.inj he
      exact h.of_owed rfl rfl rfl howed
  | gPoll result =>
    simp only [drdX11CaptureThreadStep, Option.ite_none_right_eq_some, Option.some.injEq] at he
    obtain ⟨hpc, rfl⟩ := he
    simp only [Owed, hpc] at howed
    refine h.of_owed rfl rfl rfl ?_
    by_cases hr : result < 0
    · simpa only [Owed, hr, if_true] using howed
    · simp only [Owed, hr, if_false]
      exact fun hne => Or.inl (howed hne)
  | xNextEvent =>
    simp only [drdX11CaptureThreadStep, Option.ite_none_right_eq_some] at he
    obtain ⟨hpc, he⟩ := he
    cases hq : s.queue with
    | nil => simp [hq] at he
    | cons ev queue =>
      simp only [hq, Option.some.injEq] at he
      exact he ▸ h.takeEvent hpc ev queue hq
  | xPendingNone =>
    simp only [drdX11CaptureThreadStep, Option.ite_none_right_eq_some, Option.some.injEq] at he
    obtain ⟨⟨hpc, _⟩, rfl⟩ := he
    simp only [Owed, hpc] at howed
    refine h.of_owed rfl rfl rfl ?_
    cases hd : s.damage with
    | false => simpa [Owed, hd] using howed
    | true => simp [Owed]
  | checkDeadline clock =>
    simp only [drdX11CaptureThreadStep, Option.ite_none_right_eq_some, Option.some.injEq] at he
    obtain ⟨hpc, rfl⟩ := he
    simp only [Owed, hpc] at howed
    refine h.of_owed rfl rfl rfl ?_
    by_cases hlt : clock < s.nextCaptureDeadline
    · simpa only [Owed, hlt, if_true, MaySkip] using hc hlt
    · simpa only [Owed, hlt, if_false] using howed
  | xShmGetImage ok =>
    simp only [drdX11CaptureThreadStep, Option.ite_none_right_eq_some] at he
    obtain ⟨hpc, he⟩ := he
    cases ok with
    | false =>
      obtain rfl := Option.some.inj he
      exact h.of_owed rfl rfl rfl (hc rfl)
    | true =>
      obtain rfl := Option.some.inj he
      exact h.of_owed rfl rfl rfl (fun hne => absurd rfl hne)
  | pushFrame clock hasBuffer =>
    simp only [drdX11CaptureThreadStep, Option.ite_none_right_eq_some, Option.some.injEq] at he
    obtain ⟨hpc, rfl⟩ := he
    simp only [Owed, hpc] at howed
    cases hasBuffer with
    | false => exact h.of_owed rfl rfl rfl (hc rfl)
    | true => exact h.of_owed rfl rfl rfl howed

/-- A skip that the condition excludes leaves a change behind at once. -/
theorem Coherent.skip_forgets {targetInterval : ℤ} {s s' : X11Capture} {e : X11Event}
    (h : s.Coherent) (hc : ¬ s.SkipsOnlyPushed e)
    (he : drdX11CaptureThreadStep targetInterval s e = some s') : ¬ s'.ChangeRecorded := by
  have hlost (hskip : ¬ s.MaySkip) (hpc : s'.pc = .head) (hscreen : s'.screen = s.screen)
      (hpushed : s'.pushed = s.pushed) (hq : s'.queue = s.queue) (hw : s'.wire = s.wire) :
      ¬ s'.ChangeRecorded := by
    obtain ⟨hne, hregion⟩ := Classical.not_imp.mp hskip
    intro hrec
    have hmem := hrec hpc (by rw [hpushed, hscreen]; exact hne)
    rw [hq, hw] at hmem
    exact hregion (h.damage_mem_iff.mp hmem)
  cases e with
  | checkDeadline clock =>
    obtain ⟨hlt, hskip⟩ := Classical.not_imp.mp hc
    simp only [drdX11CaptureThreadStep, Option.ite_none_right_eq_some, Option.some.injEq] at he
    obtain ⟨hpc, rfl⟩ := he
    exact hlost hskip (if_pos hlt) rfl rfl rfl rfl
  | xShmGetImage ok =>
    obtain ⟨rfl, hskip⟩ := Classical.not_imp.mp hc
    simp only [drdX11CaptureThreadStep, Option.ite_none_right_eq_some] at he
    obtain ⟨hpc, he⟩ := he
    obtain rfl := Option.some.inj he
    exact hlost hskip rfl rfl rfl rfl rfl
  | pushFrame clock hasBuffer =>
    obtain ⟨rfl, hskip⟩ := Classical.not_imp.mp hc
    simp only [drdX11CaptureThreadStep, Option.ite_none_right_eq_some, Option.some.injEq] at he
    obtain ⟨hpc, rfl⟩ := he
    exact hlost hskip rfl rfl rfl rfl rfl
  | _ => exact absurd trivial hc

end X11Capture

/-- No change is lost in a run exactly when every iteration that consumed damage
and left without a frame found the screen as pushed or damaged again. -/
theorem x11_capture_records_changes_iff (targetInterval : ℤ) (s t : X11Capture)
    (es : List X11Event) (hs : (drdX11CaptureThread targetInterval).init s)
    (hrun : (drdX11CaptureThread targetInterval).run s es = some t) :
    (drdX11CaptureThread targetInterval).StatesMeet X11Capture.ChangeRecorded s es ↔
      (drdX11CaptureThread targetInterval).StepsMeet X11Capture.SkipsOnlyPushed s es :=
  EventMachine.statesMeet_iff_stepsMeet (fun _ h => h.changeRecorded)
    (fun _ _ _ h hc he => h.step hc he) (fun _ _ _ h hc he => h.skip_forgets hc he)
    (s.started_coherent hs) es hrun

/-- A thread on a clean screen. -/
def X11Capture.fresh : X11Capture where
  pc := .head
  screen := 0
  region := false
  wire := []
  queue := []
  damage := false
  nextCaptureDeadline := 0
  now := 0
  image := 0
  pushed := 0

theorem fresh_started (targetInterval : ℤ) : (drdX11CaptureThread targetInterval).init .fresh :=
  (by decide : X11Capture.fresh.Started)

/-- One iteration that grabs a picture and pushes it. -/
def x11CapturedChange (clock : ℤ) : List X11Event :=
  [.screenChange, .deliver, .iterate true clock, .gPoll 1, .xNextEvent, .xPendingNone,
    .checkDeadline clock, .xShmGetImage true, .pushFrame clock true]

theorem x11_captured_change_recorded :
    (drdX11CaptureThread 16666).StatesMeet X11Capture.ChangeRecorded .fresh
      (x11CapturedChange 1000) :=
  (x11_capture_records_changes_iff 16666 .fresh _ (x11CapturedChange 1000) (fresh_started _) rfl).mpr
    (by decide)

/-- A second change inside the pacing interval is consumed and then forgotten. -/
theorem x11_capture_loses_change :
    ∃ s, (drdX11CaptureThread 16666).Reachable s ∧ ¬ s.ChangeRecorded := by
  refine ⟨_, EventMachine.reachable_of_run (fresh_started _)
    (x11CapturedChange 1000 ++ [.screenChange, .deliver, .iterate true 2000, .gPoll 1,
      .xNextEvent, .xPendingNone, .checkDeadline 2000]) rfl, ?_⟩
  decide

end RemoteDesktop.DRD
