import RemoteDesktop.DRDEncodingManager
import RemoteDesktop.EventMachine

/-! The refresh timer of `drd_rdp_session.c`. The render thread arms and cancels it, the main loop
runs its callback, and `refresh_timeout_source` is shared between them without a lock. -/
namespace RemoteDesktop.DRD

/-- The next access of `drd_rdp_session_update_refresh_timer_state` and of
`drd_rdp_session_cancel_refresh_timer` in it. `render` is everything else of the render thread. -/
inductive RefreshPc
  | render
  | tracking
  | checkCancel
  | readSource
  | remove (id : ℕ)
  | clear
  | clearDue
  | checkArm
  | arm
  | store (id : ℕ)
  deriving DecidableEq, Repr

/-- The next access of `drd_rdp_session_on_refresh_timeout`, for the source that is dispatched. -/
inductive CallbackPc
  | idle
  | reset (id : ℕ)
  | check (id : ℕ)
  | due (id : ℕ)
  | finish (id : ℕ)
  deriving DecidableEq, Repr

/-- The callback has written `refresh_timeout_source`. -/
def CallbackPc.hasReset (id : ℕ) : CallbackPc → Bool
  | .check id' | .due id' | .finish id' => id' = id
  | .idle | .reset _ => false

/-- The session with the sources of the main context: their ids, which GLib hands out in
increasing order, and the times at which they are ready. `criticals` counts the ids that
`g_source_remove` did not find. -/
structure RefreshTimer where
  encoder : EncodingManager
  refreshTimeoutSource : ℕ := 0
  refreshTimeoutDue : Bool := false
  sources : List (ℕ × ℤ) := []
  lastId : ℕ := 0
  criticals : ℕ := 0
  pc : RefreshPc := .render
  callback : CallbackPc := .idle

inductive RefreshEvent
  /-- an encode, up to `drd_encoding_manager_register_codec_result` -/
  | encode (codecClass : EncodingCodecClass) (keyframeEncode : Bool) (now : ℤ)
  /-- the compare-and-exchange of `refresh_timeout_due` -/
  | consumeDue
  | endPass
  | update (now : ℤ)
  | dispatch (id : ℕ) (now : ℤ)
  | callback (now : ℤ)

namespace RefreshTimer

variable (s : RefreshTimer)

def isSource (id : ℕ) : Bool := s.sources.any fun source => source.1 = id

/-- The time of a source is still to come, or its callback has only just begun. -/
def armed (id : ℕ) : Bool := s.isSource id && !s.callback.hasReset id

/-- `g_timeout_add_full`. -/
def addTimeout (now : ℤ) : RefreshTimer :=
  { s with
    sources :=
      (s.lastId + 1, now + s.encoder.gfxProgressiveRefreshTimeoutMs.toNat * 1000) :: s.sources
    lastId := s.lastId + 1
    pc := .store (s.lastId + 1) }

def destroy (id : ℕ) : RefreshTimer :=
  { s with sources := s.sources.filter fun source => source.1 ≠ id }

/-- `g_source_remove`. A source that is being dispatched is found as well. -/
def sourceRemove (id : ℕ) : RefreshTimer :=
  if s.isSource id then s.destroy id else { s with criticals := s.criticals + 1 }

def updateStep (now : ℤ) : Option RefreshTimer :=
  match s.pc with
  | .render => none
  | .tracking =>
    some { s with pc := if s.encoder.gfxAvcToNonAvcTransition then .checkArm else .checkCancel }
  | .checkCancel =>
    some { s with pc := if s.refreshTimeoutSource ≠ 0 then .readSource else .clearDue }
  | .readSource => some { s with pc := .remove s.refreshTimeoutSource }
  | .remove id => some { s.sourceRemove id with pc := .clear }
  | .clear => some { s with refreshTimeoutSource := 0, pc := .clearDue }
  | .clearDue => some { s with refreshTimeoutDue := false, pc := .render }
  | .checkArm =>
    some { s with
      pc :=
        if s.refreshTimeoutSource = 0 ∧ 0 < s.encoder.gfxProgressiveRefreshTimeoutMs then .arm
        else .render }
  | .arm => some (s.addTimeout now)
  | .store id => some { s with refreshTimeoutSource := id, pc := .render }

def callbackStep (now : ℤ) : Option RefreshTimer :=
  match s.callback with
  | .idle => none
  | .reset id => some { s with refreshTimeoutSource := 0, callback := .check id }
  | .check id =>
    some { s with
      callback := if s.encoder.refreshIntervalReached now then .due id else .finish id }
  | .due id => some { s with refreshTimeoutDue := true, callback := .finish id }
  -- `G_SOURCE_REMOVE`
  | .finish id => some { s.destroy id with callback := .idle }

def step : RefreshEvent → Option RefreshTimer
  | .encode codecClass keyframeEncode now =>
    if s.pc = .render then
      some { s with encoder := s.encoder.registerCodecResult codecClass keyframeEncode now }
    else none
  | .consumeDue => if s.pc = .render then some { s with refreshTimeoutDue := false } else none
  | .endPass => if s.pc = .render then some { s with pc := .tracking } else none
  | .update now => s.updateStep now
  | .dispatch id now =>
    if s.callback = .idle ∧ s.sources.any (fun source => source.1 = id ∧ source.2 ≤ now) then
      some { s with callback := .reset id }
    else none
  | .callback now => s.callbackStep now

end RefreshTimer

/-- The render thread and the main loop, in any order. -/
def refreshTimerMachine : EventMachine RefreshTimer RefreshEvent where
  init s := ∃ encoder lastId, s = { encoder := encoder, lastId := lastId }
  step s e := s.step e

namespace RefreshTimer

variable {s s' : RefreshTimer}

/-- `refresh_timeout_source` names the timer that is armed, and is zero where none is. -/
def Names (s : RefreshTimer) : Prop :=
  ∀ id, s.armed id = true ↔ id ≠ 0 ∧ s.refreshTimeoutSource = id

/-- No source is missed, and `refresh_timeout_source` tells the truth. At the two stores that follow
a change of the sources less is asked: no timer is armed when zero is stored after a removal, and
at most the new one when its id is stored. -/
def Accurate (s : RefreshTimer) : Prop :=
  s.criticals = 0 ∧
    match s.pc with
    | .clear => ∀ id, s.armed id = false
    | .store stored => ∀ id, s.armed id = true → id = stored
    | _ => s.Names

/-- The three places where the other thread may come between two accesses: the callback ends
between the reading of an id and its removal, the timer fires before its id is stored, or a
callback of a timer that is cancelled already takes back the id of the next one. -/
def RaceFree (s : RefreshTimer) : RefreshEvent → Prop
  | .update _ =>
    match s.pc with
    | .remove id => s.isSource id = true
    | .store id => s.armed id = true
    | _ => True
  | .callback _ =>
    match s.callback with
    | .reset id => s.armed s.refreshTimeoutSource = true → s.refreshTimeoutSource = id
    | _ => True
  | _ => True

/-- What the steps keep besides. -/
structure Kept (s : RefreshTimer) : Prop where
  accurate : s.Accurate
  ids : ∀ id, s.isSource id = true → 0 < id ∧ id ≤ s.lastId
  reset : ∀ id, s.callback.hasReset id = true ∨ s.callback = .reset id → id ≤ s.lastId
  removing : ∀ id, s.pc = .remove id → s.refreshTimeoutSource = id ∨ s.refreshTimeoutSource = 0
  arming : s.pc = .arm ∨ (∃ id, s.pc = .store id) → s.refreshTimeoutSource = 0
  storing : ∀ id, s.pc = .store id → 0 < id

theorem isSource_destroy (id id' : ℕ) :
    (s.destroy id).isSource id' = (s.isSource id' && decide (id' ≠ id)) := by
  by_cases h : id' = id
  · subst h
    simp [isSource, destroy]
  · simp only [isSource, destroy, List.any_filter, h, ne_eq, not_false_eq_true, decide_true,
      Bool.and_true]
    congr 1
    funext source
    by_cases hsource : source.1 = id'
    · simp [hsource, h]
    · simp [hsource]

theorem armed_destroy (id id' : ℕ) :
    (s.destroy id).armed id' = (s.armed id' && decide (id' ≠ id)) := by
  have hcallback : (s.destroy id).callback = s.callback := rfl
  rw [armed, isSource_destroy, hcallback, armed, Bool.and_right_comm]

theorem Kept.armed_ids (h : s.Kept) {id : ℕ} (harmed : s.armed id = true) :
    0 < id ∧ id ≤ s.lastId := by
  rw [armed, Bool.and_eq_true] at harmed
  exact h.ids id harmed.1

/-- Where `refresh_timeout_source` is read it names the armed timer. -/
theorem Kept.names (h : s.Kept) (hclear : s.pc ≠ .clear) (hstore : ∀ id, s.pc ≠ .store id) :
    s.Names := by
  have hkept := h.accurate.2
  cases hpc : s.pc with
  | clear => exact absurd hpc hclear
  | store id => exact absurd hpc (hstore id)
  | render | tracking | checkCancel | readSource | remove | clearDue | checkArm | arm =>
    rw [hpc] at hkept
    exact hkept

theorem Names.accurate (h : s.Names) (hcriticals : s.criticals = 0) (hclear : s.pc ≠ .clear)
    (hstore : ∀ id, s.pc ≠ .store id) : s.Accurate := by
  refine ⟨hcriticals, ?_⟩
  cases hpc : s.pc with
  | clear => exact absurd hpc hclear
  | store id => exact absurd hpc (hstore id)
  | render | tracking | checkCancel | readSource | remove | clearDue | checkArm | arm => exact h

/-- A step to a place where `refresh_timeout_source` is as it was. -/
theorem Kept.goto (h : s.Kept) (hnames : s.Names) (encoder : EncodingManager) (due : Bool)
    (pc : RefreshPc) (hclear : pc ≠ .clear) (hstore : ∀ id, pc ≠ .store id)
    (hremove : ∀ id, pc = .remove id → s.refreshTimeoutSource = id)
    (harm : pc = .arm → s.refreshTimeoutSource = 0) :
    ({ s with encoder := encoder, refreshTimeoutDue := due, pc := pc } : RefreshTimer).Kept where
  accurate := Names.accurate hnames h.accurate.1 hclear hstore
  ids := h.ids
  reset := h.reset
  removing := fun id hpc => .inl (hremove id hpc)
  arming := by
    rintro (hpc | ⟨id, hpc⟩)
    · exact harm hpc
    · exact absurd hpc (hstore id)
  storing := fun id hpc => absurd hpc (hstore id)

/-- The new timer is the only one that is armed. -/
theorem Kept.addTimeout (h : s.Kept) (hpc : s.pc = .arm) (now : ℤ) : (s.addTimeout now).Kept := by
  have hzero : s.refreshTimeoutSource = 0 := h.arming (.inl hpc)
  have hnames : s.Names := h.names (by simp [hpc]) (by simp [hpc])
  have hsource (id : ℕ) :
      (s.addTimeout now).isSource id = (decide (s.lastId + 1 = id) || s.isSource id) := by
    simp [isSource, RefreshTimer.addTimeout]
  refine ⟨⟨h.accurate.1, ?_⟩, ?_, ?_, ?_, fun _ => hzero, ?_⟩
  · show ∀ id, (s.addTimeout now).armed id = true → id = s.lastId + 1
    intro id harmed
    by_contra hne
    have hold : s.armed id = true := by
      rw [armed, hsource, decide_eq_false (fun heq => hne heq.symm), Bool.false_or] at harmed
      exact harmed
    obtain ⟨hpos, hsame⟩ := (hnames id).mp hold
    omega
  · intro id hid
    rw [hsource, Bool.or_eq_true, decide_eq_true_iff] at hid
    show 0 < id ∧ id ≤ s.lastId + 1
    obtain rfl | hold := hid
    · omega
    · have hbound := h.ids id hold
      omega
  · intro id hid
    exact (h.reset id hid).trans (Nat.le_succ _)
  · intro id hno
    cases hno
  · intro id hid
    obtain rfl := RefreshPc.store.inj hid
    omega

/-- The timer is removed, wherever its callback is. -/
theorem Kept.remove (h : s.Kept) {id : ℕ} (hpc : s.pc = .remove id) (hsource : s.isSource id = true) :
    ({ s.sourceRemove id with pc := .clear } : RefreshTimer).Kept := by
  have hnames : s.Names := h.names (by simp [hpc]) (by simp [hpc])
  have hremoved : s.sourceRemove id = s.destroy id := by simp [sourceRemove, hsource]
  rw [hremoved]
  refine ⟨⟨h.accurate.1, ?_⟩, ?_, h.reset, ?_, ?_, ?_⟩
  · show ∀ id', (s.destroy id).armed id' = false
    intro id'
    rw [armed_destroy]
    cases harmed : s.armed id' with
    | false => rfl
    | true =>
      obtain ⟨hpos, hsame⟩ := (hnames id').mp harmed
      have heq : id' = id := by
        obtain hid | hzero := h.removing id hpc
        · exact hsame.symm.trans hid
        · exact absurd (hsame.symm.trans hzero) hpos
      simp [heq]
  · intro id' hid'
    have hold : (s.destroy id).isSource id' = true := hid'
    rw [isSource_destroy, Bool.and_eq_true] at hold
    exact h.ids id' hold.1
  · intro id' hno
    cases hno
  · rintro (hno | ⟨id', hno⟩)
    · cases hno
    · cases hno
  · intro id' hno
    cases hno

/-- After a removal nothing is armed, and the source is set to zero. -/
theorem Kept.clear (h : s.Kept) (hpc : s.pc = .clear) :
    ({ s with refreshTimeoutSource := 0, pc := .clearDue } : RefreshTimer).Kept := by
  have hnone : ∀ id, s.armed id = false := by
    have hkept := h.accurate.2
    rw [hpc] at hkept
    exact hkept
  refine ⟨⟨h.accurate.1, ?_⟩, h.ids, h.reset, ?_, fun _ => rfl, ?_⟩
  · show ∀ id, s.armed id = true ↔ id ≠ 0 ∧ 0 = id
    intro id
    rw [hnone id]
    constructor
    · intro hno
      cases hno
    · rintro ⟨hpos, rfl⟩
      exact absurd rfl hpos
  · intro id hno
    cases hno
  · intro id hno
    cases hno

theorem Kept.store (h : s.Kept) {id : ℕ} (hpc : s.pc = .store id) (harmed : s.armed id = true) :
    ({ s with refreshTimeoutSource := id, pc := .render } : RefreshTimer).Kept := by
  have honly : ∀ id', s.armed id' = true → id' = id := by
    have hkept := h.accurate.2
    rw [hpc] at hkept
    exact hkept
  refine ⟨⟨h.accurate.1, ?_⟩, h.ids, h.reset, ?_, ?_, ?_⟩
  · show ∀ id', s.armed id' = true ↔ id' ≠ 0 ∧ id = id'
    intro id'
    constructor
    · intro hid'
      refine ⟨?_, (honly id' hid').symm⟩
      rw [honly id' hid']
      exact (h.storing id hpc).ne'
    · rintro ⟨_, rfl⟩
      exact harmed
  · intro id' hno
    cases hno
  · rintro (hno | ⟨id', hno⟩)
    · cases hno
    · cases hno
  · intro id' hno
    cases hno

theorem kept_update (h : s.Kept) {now : ℤ} (hrace : s.RaceFree (.update now))
    (he : s.updateStep now = some s') : s'.Kept := by
  have hnames := h.names
  simp only [RaceFree] at hrace
  unfold updateStep at he
  cases hpc : s.pc with
  | render =>
    rw [hpc] at he
    cases he
  | tracking =>
    rw [hpc] at he hnames
    cases he
    apply h.goto (hnames (by simp) (by simp))
    · split_ifs <;> simp
    · intro id
      split_ifs <;> simp
    · intro id
      split_ifs <;> simp
    · split_ifs <;> simp
  | checkCancel =>
    rw [hpc] at he hnames
    cases he
    apply h.goto (hnames (by simp) (by simp))
    · split_ifs <;> simp
    · intro id
      split_ifs <;> simp
    · intro id
      split_ifs <;> simp
    · split_ifs <;> simp
  | readSource =>
    rw [hpc] at he hnames
    cases he
    apply h.goto (hnames (by simp) (by simp))
    · simp
    · simp
    · intro id hid
      exact RefreshPc.remove.inj hid
    · simp
  | remove id =>
    rw [hpc] at he hrace
    cases he
    exact h.remove hpc hrace
  | clear =>
    rw [hpc] at he
    cases he
    exact h.clear hpc
  | clearDue =>
    rw [hpc] at he hnames
    cases he
    exact h.goto (hnames (by simp) (by simp)) _ _ _ (by simp) (by simp) (by simp) (by simp)
  | checkArm =>
    rw [hpc] at he hnames
    cases he
    apply h.goto (hnames (by simp) (by simp))
    · split_ifs <;> simp
    · intro id
      split_ifs <;> simp
    · intro id
      split_ifs <;> simp
    · split_ifs with harm
      · intro _
        exact harm.1
      · simp
  | arm =>
    rw [hpc] at he
    cases he
    exact h.addTimeout hpc now
  | store id =>
    rw [hpc] at he hrace
    cases he
    exact h.store hpc hrace

/-- A step of the callback that leaves the same timers armed. -/
theorem Kept.of_armed (h : s.Kept) (hpc : s'.pc = s.pc)
    (hsource : s'.refreshTimeoutSource = s.refreshTimeoutSource)
    (hcriticals : s'.criticals = s.criticals) (hlast : s'.lastId = s.lastId)
    (harmed : ∀ id, s'.armed id = s.armed id)
    (hsub : ∀ id, s'.isSource id = true → s.isSource id = true)
    (hreset : ∀ id, s'.callback.hasReset id = true ∨ s'.callback = .reset id → id ≤ s.lastId) :
    s'.Kept := by
  refine ⟨⟨hcriticals.trans h.accurate.1, ?_⟩, ?_, ?_, ?_, ?_, ?_⟩
  · have hkept := h.accurate.2
    rw [hpc]
    unfold Names at *
    simpa only [harmed, hsource] using hkept
  · rw [hlast]
    intro id hid
    exact h.ids id (hsub id hid)
  · rw [hlast]
    exact hreset
  · rw [hpc, hsource]
    exact h.removing
  · rw [hpc, hsource]
    exact h.arming
  · rw [hpc]
    exact h.storing

/-- The callback sets the id to zero that is its own, or nothing is armed. -/
theorem Kept.reset_source (h : s.Kept) {id : ℕ} (hcallback : s.callback = .reset id)
    (hrace : s.armed s.refreshTimeoutSource = true → s.refreshTimeoutSource = id) :
    ({ s with refreshTimeoutSource := 0, callback := .check id } : RefreshTimer).Kept := by
  have harmed (id' : ℕ) :
      ({ s with refreshTimeoutSource := 0, callback := .check id } : RefreshTimer).armed id' =
        (s.armed id' && !decide (id = id')) := by
    simp [armed, isSource, hcallback, CallbackPc.hasReset]
  refine ⟨⟨h.accurate.1, ?_⟩, h.ids, ?_, fun id' _ => .inr rfl, fun _ => rfl, h.storing⟩
  · have hkept := h.accurate.2
    have hnone (hnames : s.Names) :
        ({ s with refreshTimeoutSource := 0, callback := .check id } : RefreshTimer).Names := by
      intro id'
      rw [harmed, Bool.and_eq_true]
      constructor
      · rintro ⟨hold, hother⟩
        obtain ⟨_, hsame⟩ := (hnames id').mp hold
        rw [← hsame] at hold hother
        simp [hrace hold] at hother
      · rintro ⟨hpos, hzero⟩
        exact absurd hzero.symm hpos
    cases hpc : s.pc with
    | clear =>
      rw [hpc] at hkept
      intro id'
      have hsame := harmed id'
      rw [hpc] at hsame
      rw [hsame, show s.armed id' = false from hkept id', Bool.false_and]
    | store stored =>
      rw [hpc] at hkept
      intro id' hid'
      have hsame := harmed id'
      rw [hpc] at hsame
      rw [hsame, Bool.and_eq_true] at hid'
      exact hkept id' hid'.1
    | render | tracking | checkCancel | readSource | remove | clearDue | checkArm | arm =>
      rw [hpc] at hkept
      exact hnone hkept
  · intro id' hid'
    have heq : id = id' := by simpa [CallbackPc.hasReset] using hid'
    exact heq ▸ h.reset id (.inr hcallback)

theorem kept_callback (h : s.Kept) {now : ℤ} (hrace : s.RaceFree (.callback now))
    (he : s.callbackStep now = some s') : s'.Kept := by
  simp only [RaceFree] at hrace
  unfold callbackStep at he
  cases hcallback : s.callback with
  | idle =>
    rw [hcallback] at he
    cases he
  | reset id =>
    rw [hcallback] at he hrace
    cases he
    exact h.reset_source hcallback hrace
  | check id =>
    have hold := h.reset id (.inl (by simp [hcallback, CallbackPc.hasReset]))
    rw [hcallback] at he
    cases he
    refine h.of_armed rfl rfl rfl rfl ?_ (fun _ hold' => hold') ?_
    · intro id'
      simp only [armed, isSource, hcallback]
      split_ifs <;> rfl
    · intro id' hid'
      have heq : id = id' := by
        dsimp only at hid'
        split_ifs at hid' <;> simpa [CallbackPc.hasReset] using hid'
      exact heq ▸ hold
  | due id =>
    have hold := h.reset id (.inl (by simp [hcallback, CallbackPc.hasReset]))
    rw [hcallback] at he
    cases he
    refine h.of_armed rfl rfl rfl rfl ?_ (fun _ hold' => hold') ?_
    · intro id'
      simp only [armed, isSource, hcallback]
      rfl
    · intro id' hid'
      have heq : id = id' := by simpa [CallbackPc.hasReset] using hid'
      exact heq ▸ hold
  | finish id =>
    rw [hcallback] at he
    cases he
    refine h.of_armed rfl rfl rfl rfl ?_ ?_ ?_
    · intro id'
      have hidle : ({ s.destroy id with callback := .idle } : RefreshTimer).armed id' =
          (s.destroy id).isSource id' := by
        simp [armed, isSource, CallbackPc.hasReset]
      rw [hidle, isSource_destroy, armed, hcallback]
      simp [CallbackPc.hasReset, eq_comm]
    · intro id' hid'
      have hkept : (s.destroy id).isSource id' = true := hid'
      rw [isSource_destroy, Bool.and_eq_true] at hkept
      exact hkept.1
    · rintro id' (hno | hno)
      · cases hno
      · cases hno

theorem kept_step (h : s.Kept) {e : RefreshEvent} (hrace : s.RaceFree e) (he : s.step e = some s') :
    s'.Kept := by
  cases e with
  | encode codecClass keyframeEncode now =>
    simp only [step, Option.ite_none_right_eq_some] at he
    obtain ⟨hpc, he⟩ := he
    cases he
    exact ⟨h.accurate, h.ids, h.reset, h.removing, h.arming, h.storing⟩
  | consumeDue =>
    simp only [step, Option.ite_none_right_eq_some] at he
    obtain ⟨hpc, he⟩ := he
    cases he
    exact ⟨h.accurate, h.ids, h.reset, h.removing, h.arming, h.storing⟩
  | endPass =>
    simp only [step, Option.ite_none_right_eq_some] at he
    obtain ⟨hpc, he⟩ := he
    cases he
    exact h.goto (h.names (by simp [hpc]) (by simp [hpc])) _ _ _ (by simp) (by simp) (by simp)
      (by simp)
  | update now => exact kept_update h hrace he
  | dispatch id now =>
    simp only [step, Option.ite_none_right_eq_some] at he
    obtain ⟨⟨hidle, hready⟩, he⟩ := he
    cases he
    have hsource : s.isSource id = true := by
      rw [List.any_eq_true] at hready
      obtain ⟨source, hmem, hid⟩ := hready
      simp only [decide_eq_true_eq] at hid
      rw [isSource, List.any_eq_true]
      exact ⟨source, hmem, by simp [hid.1]⟩
    refine h.of_armed rfl rfl rfl rfl ?_ (fun _ hold' => hold') ?_
    · intro id'
      simp only [armed, isSource, hidle]
      rfl
    · rintro id' (hno | hid')
      · cases hno
      · obtain rfl := CallbackPc.reset.inj hid'
        exact (h.ids _ hsource).2
  | callback now => exact kept_callback h hrace he

/-- A timer that is gone when its id is stored, or another thread's reset of a timer that is armed,
leaves an id that is not the timer's. -/
theorem not_accurate_of_race (h : s.Kept) {e : RefreshEvent} (hrace : ¬ s.RaceFree e)
    (he : s.step e = some s') : ¬ s'.Accurate := by
  intro haccurate
  cases e with
  | encode _ _ _ | consumeDue | endPass | dispatch _ _ => exact hrace trivial
  | update now =>
    simp only [RaceFree] at hrace
    have hstep : s.updateStep now = some s' := he
    unfold updateStep at hstep
    cases hpc : s.pc with
    | render | tracking | checkCancel | readSource | clear | clearDue | checkArm | arm =>
      rw [hpc] at hrace
      exact hrace trivial
    | remove id =>
      rw [hpc] at hrace hstep
      cases hstep
      have hcriticals : (s.sourceRemove id).criticals = 0 := haccurate.1
      rw [sourceRemove, if_neg hrace] at hcriticals
      have hcount : s.criticals + 1 = 0 := hcriticals
      omega
    | store id =>
      rw [hpc] at hrace hstep
      cases hstep
      have hnames := haccurate.2
      have hpos : 0 < id := h.storing id hpc
      exact hrace ((hnames id).mpr ⟨hpos.ne', rfl⟩)
  | callback now =>
    simp only [RaceFree] at hrace
    have hstep : s.callbackStep now = some s' := he
    unfold callbackStep at hstep
    cases hcallback : s.callback with
    | idle | check _ | due _ | finish _ =>
      rw [hcallback] at hrace
      exact hrace trivial
    | reset id =>
      rw [hcallback] at hrace hstep
      cases hstep
      simp only [Classical.not_imp] at hrace
      obtain ⟨harmed, hother⟩ := hrace
      have hpos : 0 < s.refreshTimeoutSource := (h.armed_ids harmed).1
      have hclear : s.pc ≠ .clear := by
        intro hpc
        have hnone := h.accurate.2
        rw [hpc] at hnone
        have hfalse := hnone s.refreshTimeoutSource
        rw [harmed] at hfalse
        cases hfalse
      have hstore (stored : ℕ) : s.pc ≠ .store stored := by
        intro hpc
        have hzero := h.arming (.inr ⟨stored, hpc⟩)
        omega
      have hstill : ({ s with refreshTimeoutSource := 0, callback := .check id } :
          RefreshTimer).armed s.refreshTimeoutSource = true := by
        rw [armed, Bool.and_eq_true] at harmed ⊢
        refine ⟨harmed.1, ?_⟩
        simp [CallbackPc.hasReset, Ne.symm hother]
      have hnames : ({ s with refreshTimeoutSource := 0, callback := .check id } :
          RefreshTimer).Names := by
        have hkept := haccurate.2
        cases hpc : s.pc with
        | clear => exact absurd hpc hclear
        | store stored => exact absurd hpc (hstore stored)
        | render | tracking | checkCancel | readSource | remove | clearDue | checkArm | arm =>
          simpa [hpc] using hkept
      have hzero : 0 = s.refreshTimeoutSource := ((hnames _).mp hstill).2
      omega

theorem kept_init (hs : refreshTimerMachine.init s) : s.Kept := by
  obtain ⟨encoder, lastId, rfl⟩ := hs
  refine ⟨⟨rfl, ?_⟩, ?_, ?_, ?_, fun _ => rfl, ?_⟩
  · show ∀ id, false = true ↔ id ≠ 0 ∧ 0 = id
    intro id
    constructor
    · intro hno
      cases hno
    · rintro ⟨hpos, hzero⟩
      exact absurd hzero.symm hpos
  · intro id hno
    cases hno
  · rintro id (hno | hno)
    · cases hno
    · cases hno
  · intro id hno
    cases hno
  · intro id hno
    cases hno

instance decidableRaceFree (s : RefreshTimer) : (e : RefreshEvent) → Decidable (s.RaceFree e)
  | .update now =>
    match h : s.pc with
    | .remove id => decidable_of_iff (s.isSource id = true) (by simp only [RaceFree, h])
    | .store id => decidable_of_iff (s.armed id = true) (by simp only [RaceFree, h])
    | .render | .tracking | .checkCancel | .readSource | .clear | .clearDue | .checkArm | .arm =>
      .isTrue (by simp only [RaceFree, h])
  | .callback now =>
    match h : s.callback with
    | .reset id =>
      decidable_of_iff (s.armed s.refreshTimeoutSource = true → s.refreshTimeoutSource = id)
        (by simp only [RaceFree, h])
    | .idle | .check _ | .due _ | .finish _ => .isTrue (by simp only [RaceFree, h])
  | .encode _ _ _ | .consumeDue | .endPass | .dispatch _ _ => .isTrue trivial

end RefreshTimer

open RefreshTimer

/-- Throughout a run the timer that is armed is the one that `refresh_timeout_source` names, but for
the two stores of `Accurate`, and GLib finds every source it is asked to remove, if and only if the
threads never meet at one of the three places. -/
theorem refresh_timer_accurate_iff {s t : RefreshTimer} (hs : refreshTimerMachine.init s)
    (es : List RefreshEvent) (hrun : refreshTimerMachine.run s es = some t) :
    refreshTimerMachine.StatesMeet RefreshTimer.Accurate s es ↔
      refreshTimerMachine.StepsMeet RefreshTimer.RaceFree s es := by
  apply EventMachine.statesMeet_iff_stepsMeet (fun _ h => h.accurate) _ _ (kept_init hs) es hrun
  · intro s e s' h hrace he
    exact kept_step h hrace he
  · intro s e s' h hrace he
    exact not_accurate_of_race h hrace he

/-- An AVC frame, a progressive one that arms the timer, and the timer when its time has come. -/
def firedTimerEvents : List RefreshEvent :=
  [.encode .avc true 1000, .encode .nonAvc false 2000, .endPass, .update 2000, .update 2000,
    .update 2000, .update 2000, .dispatch 1 102000, .callback 102000, .callback 102000,
    .callback 102000, .callback 102000]

theorem refresh_timer_accurate_when_fired :
    refreshTimerMachine.StatesMeet RefreshTimer.Accurate { encoder := {} } firedTimerEvents ∧
      ((refreshTimerMachine.run { encoder := {} } firedTimerEvents).map fun s =>
        s.refreshTimeoutDue) = some true := by
  have hrun : (refreshTimerMachine.run { encoder := {} } firedTimerEvents).isSome := by decide
  constructor
  · apply (refresh_timer_accurate_iff ⟨{}, 0, rfl⟩ firedTimerEvents
      (Option.some_get hrun).symm).mpr
    decide
  · decide

end RemoteDesktop.DRD
