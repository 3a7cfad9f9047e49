import RemoteDesktop.DRDX11Capture
import RemoteDesktop.Pacing

/-! `drd_capture_metrics.c`, and how it paces the loop of `drd_x11_capture_thread`. -/
namespace RemoteDesktop.DRD

/-- The cache of `drd_capture_metrics.c`. -/
structure CaptureMetrics where
  targetFps : UInt32 := 60
  targetIntervalUs : ℤ := 1000000 / 60
  statsIntervalUs : ℤ := 5 * 1000000
  deriving DecidableEq, Repr

/-- A setting between its bounds. Zero asks for the default. -/
def boundedSetting (value default least most : UInt32) : UInt32 :=
  let value := if value = 0 then default else value
  if value < least then least else if value > most then most else value

/-- `drd_capture_metrics_apply_config`. -/
def captureMetricsApplyConfig (targetFps statsIntervalSec : UInt32) : CaptureMetrics :=
  let targetFps := boundedSetting targetFps 60 1 240
  let statsIntervalSec := boundedSetting statsIntervalSec 5 1 60
  { targetFps := targetFps
    targetIntervalUs := (1000000 / targetFps).toNat
    statsIntervalUs := statsIntervalSec.toNat * 1000000 }

theorem boundedSetting_bounds (value : UInt32) {default least most : UInt32}
    (hleast : least ≤ most) :
    least ≤ boundedSetting value default least most ∧
      boundedSetting value default least most ≤ most := by
  simp only [boundedSetting, UInt32.lt_iff_toNat_lt, UInt32.le_iff_toNat_le, gt_iff_lt] at *
  split_ifs <;> constructor <;> omega

/-- A second holds `targetFps` intervals, rounded or not. -/
theorem captureMetrics_interval (targetFps statsIntervalSec : UInt32) :
    0 < (captureMetricsApplyConfig targetFps statsIntervalSec).targetIntervalUs ∧
      1000000 / (captureMetricsApplyConfig targetFps statsIntervalSec).targetIntervalUs =
        (captureMetricsApplyConfig targetFps statsIntervalSec).targetFps.toNat := by
  have hbounds : 1 ≤ boundedSetting targetFps 60 1 240 ∧ boundedSetting targetFps 60 1 240 ≤ 240 :=
    boundedSetting_bounds targetFps (by decide)
  obtain ⟨hleast, hmost⟩ := hbounds
  simp only [captureMetricsApplyConfig]
  generalize boundedSetting targetFps 60 1 240 = fps at hleast hmost
  simp only [UInt32.le_iff_toNat_le, UInt32.toNat_div] at *
  change 1 ≤ fps.toNat at hleast
  change fps.toNat ≤ 240 at hmost
  change 0 < ((1000000 / fps.toNat : ℕ) : ℤ) ∧
    (1000000 : ℤ) / ((1000000 / fps.toNat : ℕ) : ℤ) = fps.toNat
  generalize fps.toNat = n at *
  have hroom : n ≤ 1000000 / n := by
    rw [Nat.le_div_iff_mul_le hleast]
    nlinarith only [hmost]
  have hbelow : n * (1000000 / n) ≤ 1000000 := Nat.mul_div_le _ _
  have habove : 1000000 < n * (1000000 / n + 1) := Nat.lt_mul_div_succ _ hleast
  refine ⟨by omega, ?_⟩
  norm_cast
  apply Nat.div_eq_of_lt_le hbelow
  calc 1000000 < n * (1000000 / n) + n := habove
    _ ≤ (n + 1) * (1000000 / n) := by rw [Nat.succ_mul]; omega

namespace X11Capture

/-- The clock is that of `g_get_monotonic_time`, which does not go back. -/
def ReadsClock (s : X11Capture) : X11Event → Prop
  | .iterate _ clock | .checkDeadline clock | .pushFrame clock _ => 0 < clock ∧ s.now ≤ clock
  | .screenChange | .otherEvent | .deliver | .gPoll _ | .xNextEvent | .xPendingNone
  | .xShmGetImage _ => True

instance (s : X11Capture) : DecidablePred s.ReadsClock
  | .iterate _ clock | .checkDeadline clock | .pushFrame clock _ =>
    inferInstanceAs (Decidable (0 < clock ∧ s.now ≤ clock))
  | .screenChange | .otherEvent | .deliver | .gPoll _ | .xNextEvent | .xPendingNone
  | .xShmGetImage _ => instDecidableTrue

/-- The timestamps of the frames that a run captures. -/
def frameTimestamps (es : List X11Event) : List ℤ :=
  es.filterMap fun
    | .pushFrame clock _ => some clock
    | _ => none

/-- The thread is past its check of the deadline only when the deadline is over. -/
structure OnTime (s : X11Capture) : Prop where
  due : s.pc = .getImage ∨ s.pc = .push → s.nextCaptureDeadline ≤ s.now
  nonneg : 0 ≤ s.nextCaptureDeadline
  positive : s.pc ≠ .head → s.pc ≠ .stopped → 0 < s.nextCaptureDeadline

variable {interval first : ℤ} {s s' : X11Capture} {times : List ℤ}

theorem advanceDeadline_spec (hinterval : 0 < interval) (clock deadline : ℤ) :
    deadline + interval ≤ advanceDeadline interval clock deadline ∧
      clock ≤ advanceDeadline interval clock deadline := by
  rw [advanceDeadline]
  split_ifs <;> constructor <;> omega

/-- What one step does to the deadline. -/
theorem deadline_cases {e : X11Event} (he : drdX11CaptureThreadStep interval s e = some s') :
    (s'.nextCaptureDeadline = s.nextCaptureDeadline ∧ frameTimestamps [e] = []) ∨
      (∃ clock, e = .iterate true clock ∧ s.nextCaptureDeadline = 0 ∧
        s'.nextCaptureDeadline = clock) ∨
      (e = .xShmGetImage false ∧ s.pc = .getImage ∧
        s'.nextCaptureDeadline = s.now + interval) ∨
      (∃ clock hasBuffer, e = .pushFrame clock hasBuffer ∧ s.pc = .push ∧
        s'.nextCaptureDeadline = advanceDeadline interval clock s.nextCaptureDeadline) := by
  cases e with
  | screenChange | otherEvent =>
    obtain rfl := Option.some.inj he
    exact .inl ⟨rfl, rfl⟩
  | deliver =>
    cases hw : s.wire with
    | nil => simp [drdX11CaptureThreadStep, hw] at he
    | cons ev wire =>
      simp only [drdX11CaptureThreadStep, hw, Option.some.injEq] at he
      exact .inl ⟨he ▸ rfl, rfl⟩
  | iterate running clock =>
    simp only [drdX11CaptureThreadStep, Option.ite_none_right_eq_some] at he
    obtain ⟨_, he⟩ := he
    cases running with
    | false => exact .inl ⟨by rw [← Option.some.inj he], rfl⟩
    | true =>
      obtain rfl := Option.some.inj he
      by_cases hzero : s.nextCaptureDeadline = 0
      · exact .inr (.inl ⟨clock, rfl, hzero, if_pos hzero⟩)
      · exact .inl ⟨if_neg hzero, rfl⟩
  | gPoll result =>
    simp only [drdX11CaptureThreadStep, Option.ite_none_right_eq_some, Option.some.injEq] at he
    exact .inl ⟨he.2 ▸ rfl, rfl⟩
  | xNextEvent =>
    simp only [drdX11CaptureThreadStep, Option.ite_none_right_eq_some] at he
    obtain ⟨_, he⟩ := he
    cases hq : s.queue with
    | nil => simp [hq] at he
    | cons ev queue =>
      simp only [hq, Option.some.injEq] at he
      refine .inl ⟨?_, rfl⟩
      rw [← he]
      cases ev <;> rfl
  | xPendingNone =>
    simp only [drdX11CaptureThreadStep, Option.ite_none_right_eq_some, Option.some.injEq] at he
    exact .inl ⟨he.2 ▸ rfl, rfl⟩
  | checkDeadline clock =>
    simp only [drdX11CaptureThreadStep, Option.ite_none_right_eq_some, Option.some.injEq] at he
    exact .inl ⟨he.2 ▸ rfl, rfl⟩
  | xShmGetImage ok =>
    simp only [drdX11CaptureThreadStep, Option.ite_none_right_eq_some] at he
    obtain ⟨hpc, he⟩ := he
    cases ok with
    | true => exact .inl ⟨by rw [← Option.some.inj he], rfl⟩
    | false => exact .inr (.inr (.inl ⟨rfl, hpc, by rw [← Option.some.inj he]⟩))
  | pushFrame clock hasBuffer =>
    simp only [drdX11CaptureThreadStep, Option.ite_none_right_eq_some, Option.some.injEq] at he
    obtain ⟨hpc, rfl⟩ := he
    exact .inr (.inr (.inr ⟨clock, hasBuffer, rfl, hpc, rfl⟩))

theorem OnTime.step (hinterval : 0 < interval) (h : s.OnTime) {e : X11Event}
    (hclock : s.ReadsClock e) (he : drdX11CaptureThreadStep interval s e = some s') :
    s'.OnTime := by
  cases e with
  | screenChange | otherEvent =>
    obtain rfl := Option.some.inj he
    exact ⟨h.due, h.nonneg, h.positive⟩
  | deliver =>
    cases hw : s.wire with
    | nil => simp [drdX11CaptureThreadStep, hw] at he
    | cons ev wire =>
      simp only [drdX11CaptureThreadStep, hw, Option.some.injEq] at he
      exact he ▸ ⟨h.due, h.nonneg, h.positive⟩
  | iterate running clock =>
    simp only [drdX11CaptureThreadStep, Option.ite_none_right_eq_some] at he
    obtain ⟨hpc, he⟩ := he
    have hnonneg := h.nonneg
    have hclock' : 0 < clock := hclock.1
    cases running with
    | false =>
      obtain rfl := Option.some.inj he
      exact ⟨by simp, hnonneg, by simp⟩
    | true =>
      obtain rfl := Option.some.inj he
      refine ⟨by simp, ?_, fun _ _ => ?_⟩ <;> dsimp only <;> split_ifs <;> omega
  | gPoll result =>
    simp only [drdX11CaptureThreadStep, Option.ite_none_right_eq_some, Option.some.injEq] at he
    obtain ⟨hpc, rfl⟩ := he
    refine ⟨?_, h.nonneg, fun _ _ => h.positive (by simp [hpc]) (by simp [hpc])⟩
    by_cases hr : result < 0 <;> simp [hr]
  | xNextEvent =>
    simp only [drdX11CaptureThreadStep, Option.ite_none_right_eq_some] at he
    obtain ⟨hpc, he⟩ := he
    have hpositive := h.positive (by simp [hpc]) (by simp [hpc])
    cases hq : s.queue with
    | nil => simp [hq] at he
    | cons ev queue =>
      simp only [hq, Option.some.injEq] at he
      rw [← he]
      cases ev <;> exact ⟨by simp [takeEvent, hpc], h.nonneg, fun _ _ => hpositive⟩
  | xPendingNone =>
    simp only [drdX11CaptureThreadStep, Option.ite_none_right_eq_some, Option.some.injEq] at he
    obtain ⟨⟨hpc, _⟩, rfl⟩ := he
    refine ⟨?_, h.nonneg, fun _ _ => h.positive (by simp [hpc]) (by simp [hpc])⟩
    cases hd : s.damage <;> simp
  | checkDeadline clock =>
    simp only [drdX11CaptureThreadStep, Option.ite_none_right_eq_some, Option.some.injEq] at he
    obtain ⟨hpc, rfl⟩ := he
    refine ⟨?_, h.nonneg, fun _ _ => h.positive (by simp [hpc]) (by simp [hpc])⟩
    by_cases hlt : clock < s.nextCaptureDeadline
    · simp [hlt]
    · exact fun _ => not_lt.mp hlt
  | xShmGetImage ok =>
    simp only [drdX11CaptureThreadStep, Option.ite_none_right_eq_some] at he
    obtain ⟨hpc, he⟩ := he
    have hdue := h.due (.inl hpc)
    have hpositive := h.positive (by simp [hpc]) (by simp [hpc])
    cases ok with
    | true =>
      obtain rfl := Option.some.inj he
      exact ⟨fun _ => hdue, h.nonneg, fun _ _ => hpositive⟩
    | false =>
      obtain rfl := Option.some.inj he
      exact ⟨by simp, by dsimp only; omega, by simp⟩
  | pushFrame clock hasBuffer =>
    simp only [drdX11CaptureThreadStep, Option.ite_none_right_eq_some, Option.some.injEq] at he
    obtain ⟨hpc, rfl⟩ := he
    have hnonneg := h.nonneg
    obtain ⟨hlater, _⟩ := advanceDeadline_spec hinterval clock s.nextCaptureDeadline
    exact ⟨by simp, by dsimp only; omega, by simp⟩

/-- A step keeps to the pace that the deadline sets. -/
theorem OnTime.paces (hinterval : 0 < interval) (h : s.OnTime) {e : X11Event}
    (hclock : s.ReadsClock e) (he : drdX11CaptureThreadStep interval s e = some s')
    (hpaces : Paces interval first times s.nextCaptureDeadline) :
    Paces interval first (times ++ frameTimestamps [e]) s'.nextCaptureDeadline := by
  obtain ⟨hsame, hnone⟩ | ⟨clock, rfl, hzero, hnext⟩ | ⟨rfl, hpc, hnext⟩ |
      ⟨clock, hasBuffer, rfl, hpc, hnext⟩ := deadline_cases he
  · rw [hsame, hnone, List.append_nil]
    exact hpaces
  · -- the first iteration starts the clock
    have hpos : 0 < clock := hclock.1
    rw [hnext]
    exact (List.append_nil times).symm ▸ hpaces.delay (by omega)
  · have hdue : s.nextCaptureDeadline ≤ s.now := h.due (.inl hpc)
    rw [hnext]
    exact (List.append_nil times).symm ▸ hpaces.delay (by omega)
  · obtain ⟨hinterval', hwork⟩ := advanceDeadline_spec hinterval clock s.nextCaptureDeadline
    rw [hnext]
    exact hpaces.work ((h.due (.inr hpc)).trans hclock.2) hinterval' hwork

theorem frameTimestamps_cons (e : X11Event) (es : List X11Event) :
    frameTimestamps (e :: es) = frameTimestamps [e] ++ frameTimestamps es :=
  List.filterMap_append (l := [e])

/-- The whole run keeps to the pace. -/
theorem OnTime.run (hinterval : 0 < interval) (h : s.OnTime) {t : X11Capture} (es : List X11Event)
    (hclock : (drdX11CaptureThread interval).StepsMeet ReadsClock s es)
    (hrun : (drdX11CaptureThread interval).run s es = some t)
    (hpaces : Paces interval first times s.nextCaptureDeadline) :
    Paces interval first (times ++ frameTimestamps es) t.nextCaptureDeadline := by
  induction es generalizing s times with
  | nil =>
    obtain rfl := Option.some.inj hrun
    rwa [frameTimestamps, List.filterMap_nil, List.append_nil]
  | cons e es ih =>
    obtain ⟨s', he, hrest⟩ := EventMachine.run_cons_some hrun
    have hnext := ih (h.step hinterval hclock.1 he) (hclock.2 s' he) hrest
      (h.paces hinterval hclock.1 he hpaces)
    rwa [List.append_assoc, ← frameTimestamps_cons] at hnext

end X11Capture

/-- The thread starts with a deadline of zero. Whatever the X server and the scheduler do, an
interval lies behind every captured frame but two, so that no second sees more than the target
rate and two frames. -/
theorem x11_capture_keeps_pace (targetFps statsIntervalSec : UInt32) (s t : X11Capture)
    (es : List X11Event) (hs : s.Started) (hzero : s.nextCaptureDeadline = 0)
    (hclock : (drdX11CaptureThread
      (captureMetricsApplyConfig targetFps statsIntervalSec).targetIntervalUs).StepsMeet
        X11Capture.ReadsClock s es)
    (hrun : (drdX11CaptureThread
      (captureMetricsApplyConfig targetFps statsIntervalSec).targetIntervalUs).run s es = some t) :
    Paced (captureMetricsApplyConfig targetFps statsIntervalSec).targetIntervalUs
        (X11Capture.frameTimestamps es) ∧
      ∀ start : ℤ, ((X11Capture.frameTimestamps es).filter fun timestamp =>
          start ≤ timestamp ∧ timestamp ≤ start + 1000000).length ≤
        (captureMetricsApplyConfig targetFps statsIntervalSec).targetFps.toNat + 2 := by
  obtain ⟨hinterval, hsecond⟩ := captureMetrics_interval targetFps statsIntervalSec
  have hontime : s.OnTime := ⟨by simp [hs.1], hzero.ge, fun hpc => absurd hs.1 hpc⟩
  have hpaces := hontime.run hinterval es hclock hrun .start
  have hpaced := hpaces.paced
  rw [List.nil_append] at hpaced
  refine ⟨hpaced, ?_⟩
  intro start
  have hwindow := hpaced.length_window_le hinterval start 1000000 (by decide)
  rw [hsecond] at hwindow
  exact_mod_cast hwindow

/-- A frame that is late by almost an interval is followed by the next at once. -/
theorem x11_capture_keeps_pace_catching_up :
    Paced 16666 [1000, 34000, 34332] := by
  have h := (x11_capture_keeps_pace 60 5 .fresh _
    (x11CapturedChange 1000 ++
      [.screenChange, .deliver, .iterate true 34000, .gPoll 1, .xNextEvent, .xPendingNone,
        .checkDeadline 34000, .xShmGetImage true, .pushFrame 34000 true,
        .screenChange, .deliver, .iterate true 34332, .gPoll 1, .xNextEvent, .xPendingNone,
        .checkDeadline 34332, .xShmGetImage true, .pushFrame 34332 true])
    (by decide) rfl (by decide) rfl).1
  exact h

end RemoteDesktop.DRD
