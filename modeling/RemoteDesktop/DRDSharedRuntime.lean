import RemoteDesktop.DRDSessionTeardown

/-! One `DrdServerRuntime` under the sessions that a listener accepts one after
the other, and what a session that was removed still does to it. -/
namespace RemoteDesktop.DRD

/-- `accepting` is the session that `drd_rdp_listener_accept_peer` is building:
its threads run before it is in `sessions`. `started` and `removed` are history. -/
structure SharedRuntime where
  runtime : ServerRuntime := {}
  sessions : List ℕ := []
  accepting : Option ℕ := none
  session : ℕ → Session := fun _ => drdRdpSessionNew false none
  started : List ℕ := []
  removed : List ℕ := []

inductive SharedEvent
  | accept (i : ℕ) (passiveMode : Bool) (size : Option (UInt16 × UInt16))
  | session (i : ℕ) (e : SessionEvent)

/-- What a step does to the runtime. `stop` is a call that finds the stream
running, so that it resets the encoder. -/
inductive RuntimeAction
  | call (i : ℕ) (c : RuntimeCall)
  | stop
  deriving DecidableEq, Repr

namespace SharedRuntime

variable (s : SharedRuntime)

/-- The effect of a session's own step, before the listener is told of it. -/
def afterSession (i : ℕ) (e : SessionEvent) (res : SessionResult) : SharedRuntime :=
  { s with
    session := Function.update s.session i res.session
    runtime := res.calls.foldl ServerRuntime.apply s.runtime
    sessions := match e with | .closedCallbackSet => i :: s.sessions | _ => s.sessions
    accepting := match e with | .closedCallbackSet => none | _ => s.accepting }

/-- `drd_rdp_listener_session_closed`. -/
def sessionClosed (i : ℕ) : SharedRuntime × List RuntimeAction :=
  if i ∈ s.sessions then
    let sessions := s.sessions.erase i
    if sessions = [] ∧ s.runtime.streamRunning = true then
      ({ s with
          sessions := sessions
          removed := i :: s.removed
          runtime := { s.runtime with streamRunning := false } }, [.stop])
    else ({ s with sessions := sessions, removed := i :: s.removed }, [])
  else (s, [])

/-- The main thread leaves `accept_peer` with the session it is building. -/
def mayStep (i : ℕ) : SessionEvent → Bool
  | .closedCallbackSet => decide (i ∈ s.started) && decide (s.accepting = some i)
  | _ => decide (i ∈ s.started)

def step : SharedEvent → Option (SharedRuntime × List RuntimeAction)
  | .accept i passiveMode size =>
    if s.accepting = none ∧ s.sessions = [] ∧ i ∉ s.started then
      some ({ s with
        session := Function.update s.session i (drdRdpSessionNew passiveMode size)
        accepting := some i
        started := i :: s.started }, [])
    else none
  | .session i e =>
    if s.mayStep i e then
      ((s.session i).step s.runtime e).map fun res =>
        let after := s.afterSession i e res
        let listener := if res.closed then after.sessionClosed i else (after, [])
        (listener.1, res.calls.map (.call i) ++ listener.2)
    else none

end SharedRuntime

def sharedRuntime : EventMachine SharedRuntime SharedEvent where
  init s := s = {}
  step s e := (s.step e).map Prod.fst

/-- A removed session leaves the frames and the transport mode alone, and the
encoder is not reset inside a call of a render thread. -/
def SharedRuntime.Allows (s : SharedRuntime) : RuntimeAction → Prop
  | .call i (.pull _) => i ∉ s.removed
  | .call i (.setTransport transport) => i ∈ s.removed → transport = s.runtime.transport
  | .call i (.prepareStream _) => i ∉ s.removed
  | .call _ .requestKeyframe => True
  | .stop => ∀ i ∈ s.started, ∀ kind, (s.session i).render ≠ .inCall kind

namespace Session

variable (s : Session)

/-- The render thread makes no further call: it has ended, or the next test of
its loop ends it. -/
def RenderQuiet : Prop :=
  match s.render with
  | .notStarted | .exited => True
  | .top | .finish | .count _ | .mode _ => s.renderRunning = false ∨ s.connectionAlive = false
  | _ => False

/-- The next step of this thread tells the listener that the session is closed. -/
def NotifiesNext : SessionEvent → Prop
  | .vcm .step =>
    match s.vcm with
    | .notify | .callback (.at .notify _) | .callback (.at .finish .disconnect) => True
    | _ => False
  | .mainStep =>
    match s.main with
    | .at .notify _ | .at .finish .disconnect => True
    | _ => False
  | .closedCallbackSet => s.connectionAlive = false
  | _ => False

/-- The next step of this thread is `drd_rdp_session_disable_graphics_pipeline`
in a teardown. -/
def DisablesNext : SessionEvent → Prop
  | .vcm .step => ∃ kind, s.vcm = .callback (.at .disable kind)
  | .mainStep => ∃ kind, s.main = .at .disable kind
  | _ => False

end Session

/-- The next step takes the session out of the listener's list. -/
def SharedRuntime.RemovesNext (s : SharedRuntime) (i : ℕ) (e : SessionEvent) : Prop :=
  (s.session i).NotifiesNext e ∧
    match e with
    | .closedCallbackSet => True
    | _ => i ∈ s.sessions

/-- A session is removed when its render thread is done, and its later teardown
finds no pipeline or the transport mode that it would set. -/
def SharedRuntime.LeavesAlone (s : SharedRuntime) : SharedEvent → Prop
  | .accept .. => True
  | .session i e =>
    (s.RemovesNext i e → (s.session i).RenderQuiet) ∧
      (i ∈ s.removed → (s.session i).DisablesNext e →
        (s.session i).pipeline = none ∨ s.runtime.transport = .surfaceBits)

instance (s : Session) : Decidable s.RenderQuiet := by
  unfold Session.RenderQuiet
  exact match s.render with
    | .notStarted | .exited => inferInstanceAs (Decidable True)
    | .top | .finish | .count _ | .mode _ => inferInstanceAs (Decidable (_ ∨ _))
    | .transport | .recover _ | .adopt | .wait | .parked | .submit | .call _ | .inCall _ | .disable =>
      inferInstanceAs (Decidable False)

instance (s : Session) (e : SessionEvent) : Decidable (s.NotifiesNext e) := by
  unfold Session.NotifiesNext
  split
  · split <;> infer_instance
  · split <;> infer_instance
  · infer_instance
  · infer_instance

instance (s : Session) (e : SessionEvent) : Decidable (s.DisablesNext e) := by
  unfold Session.DisablesNext
  split <;> infer_instance

instance (s : SharedRuntime) (i : ℕ) (e : SessionEvent) : Decidable (s.RemovesNext i e) := by
  unfold SharedRuntime.RemovesNext
  cases e <;> infer_instance

instance (s : SharedRuntime) : DecidablePred s.LeavesAlone := by
  intro e
  unfold SharedRuntime.LeavesAlone
  split <;> infer_instance

namespace Session

/-- The vcm thread has left its loop. -/
def VcmLeaving (s : Session) : Prop :=
  match s.vcm with
  | .callback _ | .ending | .notify | .exited => True
  | .loop | .wait | .check | .channels => False

/-- The teardown has joined the vcm thread. -/
def PastJoin : TeardownPc → Prop
  | .at .notify _ | .at .disable _ | .at .finish _ => True
  | _ => False

/-- How far the threads of a session can be apart. -/
structure Threads (s : Session) : Prop where
  taken : s.main ≠ .idle → s.closedCb = true
  handle : s.closedCb = true → s.vcmThread = true ∨ s.vcm = .exited
  joined : PastJoin s.main → s.vcm = .exited
  dead : s.closedCb = false → s.connectionAlive = false → s.VcmLeaving

/-- A session that no longer calls the runtime of its own accord. -/
structure Gone (s : Session) : Prop where
  taken : s.closedCb = true
  leaving : s.VcmLeaving
  quiet : s.RenderQuiet

/-- What a teardown step reports. -/
structure TeardownReport (s : Session) (kind : TeardownKind) (point : TeardownPoint)
    (pc : TeardownPc) (r : SessionResult) : Prop where
  closedCb : r.session.closedCb = s.closedCb
  vcmThread : r.session.vcmThread = s.vcmThread ∨ s.vcm = .exited
  alive : s.connectionAlive = false → r.session.connectionAlive = false
  past : PastJoin pc → s.vcmThread = false ∨ s.vcm = .exited ∨ PastJoin (.at point kind)
  calls : ∀ c ∈ r.calls, point = .disable ∧ c = .setTransport .surfaceBits ∧ s.pipeline ≠ none
  closed : r.closed = true → s.closedCb = true ∧
    (point = .notify ∨ point = .finish ∧ kind = .disconnect)

/-- A step that calls nothing and does not close the session. -/
theorem TeardownReport.of_silent {s s' : Session} {kind : TeardownKind} {point : TeardownPoint}
    {pc : TeardownPc} (hcb : s'.closedCb = s.closedCb)
    (hv : s'.vcmThread = s.vcmThread ∨ s.vcm = .exited)
    (halive : s.connectionAlive = false → s'.connectionAlive = false)
    (hpast : PastJoin pc → s.vcmThread = false ∨ s.vcm = .exited ∨ PastJoin (.at point kind)) :
    s.TeardownReport kind point pc { session := s' } :=
  ⟨hcb, hv, halive, hpast, nofun, nofun⟩

theorem teardownStep_report {s : Session} {kind : TeardownKind} {point : TeardownPoint}
    {r : TeardownPc × SessionResult} (h : s.teardownStep kind point = some r) :
    s.TeardownReport kind point r.1 r.2 := by
  cases point with
  | start =>
    simp only [teardownStep] at h
    split at h <;> obtain rfl := Option.some.inj h <;>
      exact .of_silent rfl (Or.inl rfl) id False.elim
  | joinRender =>
    simp only [teardownStep, Option.ite_none_right_eq_some, Option.some.injEq] at h
    obtain ⟨_, rfl⟩ := h
    exact .of_silent rfl (Or.inl rfl) id False.elim
  | alive =>
    obtain rfl := Option.some.inj h
    refine .of_silent rfl (Or.inl rfl) (fun _ => rfl) fun hp => ?_
    cases hv : s.vcmThread with
    | false => exact Or.inl rfl
    | true => simp only [hv, if_true, PastJoin] at hp
  -- the join returns once the vcm thread has finished
  | joinVcm =>
    simp only [teardownStep, Option.ite_none_right_eq_some, Option.some.injEq] at h
    obtain ⟨hv, rfl⟩ := h
    exact .of_silent rfl (Or.inr hv) id fun _ => Or.inr (Or.inl hv)
  | notify =>
    obtain rfl := Option.some.inj h
    -- the callback runs only where it is set
    have hcb : s.notifyClosed.2 = true → s.closedCb = true := by
      unfold notifyClosed
      split
      · next hcb => exact fun _ => (Bool.and_eq_true _ _ ▸ hcb).1
      · intro hc
        cases hc
    rcases s.notifyClosed_frame with hs | hs <;> dsimp only <;>
      refine ⟨?_, Or.inl ?_, ?_, fun _ => Or.inr (Or.inr trivial),
        fun _ hc => absurd hc List.not_mem_nil, fun hc => ⟨hcb hc, Or.inl rfl⟩⟩ <;> rw [hs]
    all_goals exact id
  | disable =>
    obtain rfl := Option.some.inj h
    unfold disableGraphicsPipeline
    split
    · exact .of_silent rfl (Or.inl rfl) id fun _ => Or.inr (Or.inr trivial)
    · next hp =>
      refine ⟨rfl, Or.inl rfl, id, fun _ => Or.inr (Or.inr trivial), fun c hc => ?_,
        fun hc => absurd hc Bool.false_ne_true⟩
      rw [hp]
      exact ⟨rfl, List.mem_singleton.mp hc, Option.some_ne_none _⟩
  | finish =>
    cases kind <;> obtain rfl := Option.some.inj h
    · exact .of_silent rfl (Or.inl rfl) id False.elim
    · exact ⟨rfl, Or.inl rfl, fun _ => rfl, False.elim, fun _ hc => absurd hc List.not_mem_nil,
        fun hc => ⟨(Bool.and_eq_true _ _ ▸ hc).2, Or.inr ⟨rfl, rfl⟩⟩⟩
    · exact .of_silent rfl (Or.inl rfl) id False.elim

theorem renderMove_quiet {s : Session} (h : s.RenderQuiet) {transport : FrameTransport}
    {e : RenderEvent} {m : RenderMove} (hm : s.renderMove transport e = some m) :
    (s.afterMove m).session.RenderQuiet ∧ m.calls = [] := by
  cases hpc : s.render with
  | top =>
    -- the loop test sees the stop, and the thread goes to its end
    have hstop : (!s.renderRunning || !s.connectionAlive) = true := by
      simp only [RenderQuiet, hpc] at h
      rcases h with h | h <;> simp only [h, Bool.not_false, Bool.true_or, Bool.or_true]
    cases e with
    | step =>
      simp only [renderMove, hpc, renderCall, hstop, if_true] at hm
      exact Option.some.inj hm ▸ ⟨trivial, rfl⟩
    | recovered | canSubmit | returned | notSupported => simp only [renderMove, hpc, reduceCtorEq] at hm
  | finish | count | mode =>
    simp only [RenderQuiet, hpc] at h
    cases e with
    | step =>
      simp only [renderMove, hpc, renderCall] at hm
      exact Option.some.inj hm ▸ ⟨h, rfl⟩
    | recovered | canSubmit | returned | notSupported => simp only [renderMove, hpc, reduceCtorEq] at hm
  | notStarted | exited =>
    cases e <;> simp only [renderMove, hpc, reduceCtorEq] at hm
  | transport | recover _ | adopt | wait | parked | submit | call _ | inCall _ | disable =>
    simp only [RenderQuiet, hpc] at h

theorem RenderQuiet.of_stop {s s' : Session} (h : s.RenderQuiet) (hr : s'.render = s.render)
    (hrun : s.renderRunning = false → s'.renderRunning = false)
    (halive : s.connectionAlive = false → s'.connectionAlive = false) : s'.RenderQuiet := by
  unfold RenderQuiet at h ⊢
  rw [hr]
  split <;> simp_all only
  all_goals exact h.imp hrun halive

/-- What a step of a session means for those who share the runtime with it. -/
structure StepReport (s : Session) (e : SessionEvent) (res : SessionResult) : Prop where
  threads : res.session.Threads
  gone : s.Gone → res.session.Gone
  calls : s.Gone → ∀ c ∈ res.calls,
    s.DisablesNext e ∧ c = .setTransport .surfaceBits ∧ s.pipeline ≠ none
  closed : res.closed = true → s.NotifiesNext e ∧ (s.RenderQuiet → res.session.Gone)

theorem stepReport_of_silent {s : Session} {e : SessionEvent} {s' : Session} (ht : s'.Threads)
    (hg : s.Gone → s'.Gone) : s.StepReport e { session := s' } :=
  ⟨ht, hg, nofun, nofun⟩

/-- A step of the main thread's teardown. -/
theorem Threads.mainStep {s : Session} (h : s.Threads) {point : TeardownPoint}
    {kind : TeardownKind} (hpc : s.main = .at point kind) {r : TeardownPc × SessionResult}
    (hr : s.teardownStep kind point = some r) :
    s.StepReport .mainStep { r.2 with session := { r.2.session with main := r.1 } } := by
  have hx := teardownStep_effect hr
  have hy := teardownStep_report hr
  have htaken : s.closedCb = true := h.taken (by rw [hpc]; nofun)
  have hcb : r.2.session.closedCb = true := hy.closedCb.trans htaken
  have hexited (hp : PastJoin (.at point kind)) : s.vcm = .exited := h.joined (hpc ▸ hp)
  have hthreads : ({ r.2.session with main := r.1 } : Session).Threads := by
    constructor
    case taken => exact fun _ => hcb
    case handle =>
      intro _
      dsimp only
      rw [hx.vcm]
      exact hy.vcmThread.elim (fun hv => (h.handle htaken).imp_left fun ht => hv.trans ht) Or.inr
    -- past the join of the vcm thread, which then has finished
    case joined =>
      intro hp
      apply hx.vcm.trans
      rcases hy.past hp with hv | hv | hv
      · -- no handle to join, so the thread has finished by itself
        exact (h.handle htaken).resolve_left (by rw [hv]; nofun)
      · exact hv
      · exact hexited hv
    case dead =>
      intro hf
      exact absurd (hcb.symm.trans hf) nofun
  constructor
  case threads => exact hthreads
  case gone =>
    intro hg
    refine ⟨hcb, ?_, hg.quiet.of_stop hx.render hx.running hy.alive⟩
    have hleaving := hg.leaving
    unfold VcmLeaving at hleaving ⊢
    rwa [hx.vcm]
  case calls =>
    intro _ c hc
    obtain ⟨rfl, hset, hp⟩ := hy.calls c hc
    exact ⟨⟨kind, hpc⟩, hset, hp⟩
  case closed =>
    intro hc
    obtain ⟨_, hpoint⟩ := hy.closed hc
    have hpast : PastJoin (.at point kind) := by
      rcases hpoint with rfl | ⟨rfl, _⟩ <;> trivial
    refine ⟨?_, fun hq => ⟨hcb, ?_, hq.of_stop hx.render hx.running hy.alive⟩⟩
    · rcases hpoint with rfl | ⟨rfl, rfl⟩ <;> simp only [NotifiesNext, hpc]
    · unfold VcmLeaving
      simp only [hx.vcm, hexited hpast]

/-- A step of a teardown inside a callback of the vcm thread. -/
theorem Threads.callback {s : Session} (h : s.Threads) {point : TeardownPoint}
    {kind : TeardownKind} (hpc : s.vcm = .callback (.at point kind))
    {r : TeardownPc × SessionResult} (hr : s.teardownStep kind point = some r) :
    s.StepReport (.vcm .step) { r.2 with session := { r.2.session with vcm := .callback r.1 } } := by
  have hx := teardownStep_effect hr
  have hy := teardownStep_report hr
  have hrunning : ¬ s.vcm = .exited := by rw [hpc]; nofun
  have hthreads : ({ r.2.session with vcm := .callback r.1 } : Session).Threads := by
    constructor
    case taken =>
      intro hm
      exact hy.closedCb.trans (h.taken (hx.main ▸ hm))
    case handle =>
      intro hcb
      have hv := hy.vcmThread.resolve_right hrunning
      have hbefore := h.handle (hy.closedCb.symm.trans hcb)
      exact Or.inl (hv.trans (hbefore.resolve_right hrunning))
    -- the vcm thread is in the callback, so nobody has joined it
    case joined =>
      intro hp
      exact absurd (h.joined (hx.main ▸ hp)) hrunning
    case dead => exact fun _ _ => trivial
  constructor
  case threads => exact hthreads
  case gone =>
    intro hg
    exact ⟨hy.closedCb.trans hg.taken, trivial, hg.quiet.of_stop hx.render hx.running hy.alive⟩
  case calls =>
    intro _ c hc
    obtain ⟨rfl, hset, hp⟩ := hy.calls c hc
    exact ⟨⟨kind, hpc⟩, hset, hp⟩
  case closed =>
    intro hc
    obtain ⟨hcb, hpoint⟩ := hy.closed hc
    refine ⟨?_, fun hq => ⟨hy.closedCb.trans hcb, trivial, hq.of_stop hx.render hx.running hy.alive⟩⟩
    rcases hpoint with rfl | ⟨rfl, rfl⟩ <;> simp only [NotifiesNext, hpc]

/-- A step of the vcm thread, which has not exited, keeps the threads together
when its end leaves a dead connection only for its way out. -/
theorem Threads.of_vcm {s s' : Session} (h : s.Threads) (hne : s.vcm ≠ .exited)
    (hm : s'.main = s.main) (hcb : s'.closedCb = s.closedCb) (hv : s'.vcmThread = s.vcmThread)
    (hdead : s.closedCb = false → s'.connectionAlive = false → s'.VcmLeaving) : s'.Threads := by
  constructor
  case taken =>
    intro hmain
    rw [hcb]
    exact h.taken (hm ▸ hmain)
  case handle =>
    intro hclosed
    rw [hcb] at hclosed
    exact Or.inl (hv.trans ((h.handle hclosed).resolve_right hne))
  case joined =>
    intro hp
    exact absurd (h.joined (hm ▸ hp)) hne
  case dead =>
    intro hclosed
    exact hdead (hcb ▸ hclosed)

/-- A step from inside the vcm thread's loop is not a step of a session that is gone. -/
theorem stepReport_of_loop {s : Session} {e : SessionEvent} {s' : Session}
    (calls : List RuntimeCall) (ht : s'.Threads) (hloop : ¬ s.VcmLeaving) :
    s.StepReport e { session := s', calls := calls } :=
  ⟨ht, fun hg => absurd hg.leaving hloop, fun hg => absurd hg.leaving hloop, nofun⟩

theorem Threads.activate {s : Session} (h : s.Threads) (hpc : s.vcm = .check) (rt : ServerRuntime)
    (resizeOk optionsOk prepareOk : Bool) (e : SessionEvent) :
    s.StepReport e (s.activate rt resizeOk optionsOk prepareOk) := by
  have hloop : ¬ s.VcmLeaving := by simp only [VcmLeaving, hpc, not_false_eq_true]
  have hne : s.vcm ≠ .exited := by rw [hpc]; nofun
  have halive (hcb : s.closedCb = false) : s.connectionAlive = true :=
    Bool.not_eq_false _ ▸ fun hf => hloop (h.dead hcb hf)
  have hstay (s' : Session) (hm : s'.main = s.main) (hcb : s'.closedCb = s.closedCb)
      (hv : s'.vcmThread = s.vcmThread) (ha : s'.connectionAlive = s.connectionAlive) :
      s'.Threads :=
    h.of_vcm hne hm hcb hv fun hf hd => absurd (hd.symm.trans (ha.trans (halive hf))) nofun
  have hactivated : ({ s.activated with vcm := .channels } : Session).Threads := by
    unfold activated
    split <;> exact hstay _ rfl rfl rfl rfl
  unfold Session.activate
  split
  · exact stepReport_of_loop [] (hstay _ rfl rfl rfl rfl) hloop
  · split
    · exact stepReport_of_loop [] (hstay _ rfl rfl rfl rfl) hloop
    · split
      · exact stepReport_of_loop [] hactivated hloop
      · split
        · exact stepReport_of_loop _ hactivated hloop
        · exact stepReport_of_loop _ (hstay _ rfl rfl rfl rfl) hloop

theorem Threads.drdynvc {s : Session} (h : s.Threads) (hpc : s.vcm = .channels)
    (ready opened : Bool) (answer : GfxPdu → Bool) (vcmOk : Bool) (e : SessionEvent) :
    s.StepReport e (s.drdynvc ready opened answer vcmOk) := by
  have hloop : ¬ s.VcmLeaving := by simp only [VcmLeaving, hpc, not_false_eq_true]
  have hne : s.vcm ≠ .exited := by rw [hpc]; nofun
  -- only a live connection takes the thread back to its loop
  unfold Session.drdynvc
  dsimp only
  repeat' split
  all_goals refine stepReport_of_loop _ ?_ hloop
  all_goals first
    | exact h.of_vcm hne rfl rfl rfl fun _ _ => trivial
    | exact h.of_vcm hne rfl rfl rfl fun hcb hd => absurd (h.dead hcb hd) hloop

/-- The thread finishes, and is what the listener waits for. -/
theorem Threads.notify {s : Session} (h : s.Threads) (hpc : s.vcm = .notify) :
    s.StepReport (.vcm .step)
      { session := { s.notifyClosed.1 with vcm := .exited }, closed := s.notifyClosed.2 } := by
  have hne : s.vcm ≠ .exited := by simp [hpc]
  have hthreads : ({ s.notifyClosed.1 with vcm := .exited } : Session).Threads := by
    rcases s.notifyClosed_frame with hs | hs <;> rw [hs] <;>
      exact h.of_vcm hne rfl rfl rfl fun _ _ => trivial
  have hgone (hcb : s.closedCb = true) (hq : s.RenderQuiet) :
      ({ s.notifyClosed.1 with vcm := .exited } : Session).Gone := by
    rcases s.notifyClosed_frame with hs | hs <;> rw [hs] <;>
      exact ⟨hcb, trivial, hq.of_stop rfl id id⟩
  refine ⟨hthreads, fun hg => hgone hg.taken hg.quiet,
    fun _ _ hc => absurd hc List.not_mem_nil, fun hc => ⟨?_, hgone ?_⟩⟩
  · simp only [NotifiesNext, hpc]
  · change s.notifyClosed.2 = true at hc
    unfold notifyClosed at hc
    split at hc
    · next hcb => exact (Bool.and_eq_true _ _ ▸ hcb).1
    · cases hc

theorem Threads.vcmStep {s : Session} (h : s.Threads) {rt : ServerRuntime} {e : VcmEvent}
    {res : SessionResult} (he : s.vcmStep rt e = some res) : s.StepReport (.vcm e) res := by
  cases vcmStep_move he with
  | rejected hpc =>
    exact stepReport_of_silent (h.of_vcm (by simp [hpc]) rfl rfl rfl fun _ _ => trivial)
      fun hg => ⟨hg.taken, trivial, hg.quiet.of_stop rfl id fun _ => rfl⟩
  | teardown hpc hr => exact h.callback hpc hr
  | loop hpc =>
    refine stepReport_of_loop [] (h.of_vcm (by simp [hpc]) rfl rfl rfl fun _ hd => ?_)
      (by simp only [VcmLeaving, hpc, not_false_eq_true])
    have hd' : s.connectionAlive = false := hd
    simp only [VcmLeaving, hd', Bool.false_eq_true, if_false]
  | ending hpc =>
    exact stepReport_of_silent (h.of_vcm (by simp [hpc]) rfl rfl rfl fun _ _ => trivial)
      fun hg => ⟨hg.taken, trivial, hg.quiet.of_stop rfl (fun _ => rfl) id⟩
  | notify hpc => exact h.notify hpc
  -- on the way out of its loop, or to the callback that takes it out
  | noHandles hpc | waitFailed hpc | failed hpc | authRejected hpc =>
    exact stepReport_of_loop [] (h.of_vcm (by simp [hpc]) rfl rfl rfl fun _ _ => trivial)
      (by simp only [VcmLeaving, hpc, not_false_eq_true])
  -- inside the loop, which a dead connection keeps no thread in
  | signalled hpc | quiet hpc | notJoined hpc =>
    have hl : ¬ s.VcmLeaving := by simp only [VcmLeaving, hpc, not_false_eq_true]
    exact stepReport_of_loop [] (h.of_vcm (by simp [hpc]) rfl rfl rfl fun hcb hd =>
      absurd (h.dead hcb hd) hl) hl
  | activate hpc resizeOk optionsOk prepareOk =>
    exact h.activate hpc rt resizeOk optionsOk prepareOk _
  | drdynvc hpc ready opened answer vcmOk => exact h.drdynvc hpc ready opened answer vcmOk _

theorem Threads.step {s : Session} (h : s.Threads) {rt : ServerRuntime} {e : SessionEvent}
    {res : SessionResult} (he : s.step rt e = some res) : s.StepReport e res := by
  cases e with
  | render e =>
    simp only [Session.step, Option.map_eq_some_iff] at he
    obtain ⟨m, hm, rfl⟩ := he
    refine ⟨⟨h.taken, h.handle, h.joined, h.dead⟩, fun hg => ?_, fun hg c hc => ?_,
      fun hc => absurd hc Bool.false_ne_true⟩
    · exact ⟨hg.taken, hg.leaving, (renderMove_quiet hg.quiet hm).1⟩
    · change c ∈ m.calls at hc
      rw [(renderMove_quiet hg.quiet hm).2] at hc
      cases hc
  | vcm e => exact h.vcmStep he
  | vcmThreadStored =>
    simp only [Session.step, Option.ite_none_left_eq_some, Bool.or_eq_true, not_or] at he
    obtain ⟨⟨hcb, _⟩, he⟩ := he
    refine Option.some.inj he ▸ stepReport_of_silent
      ⟨h.taken, fun _ => Or.inl rfl, h.joined, h.dead⟩ fun hg => absurd hg.taken hcb
  | closedCallbackSet =>
    simp only [Session.step, Option.ite_none_left_eq_some, Bool.or_eq_true, not_or,
      Bool.not_eq_true, Bool.not_eq_eq_eq_not, Bool.not_true] at he
    obtain ⟨⟨hcb, hv⟩, he⟩ := he
    have htaken : ({ s with closedCb := true } : Session).Threads :=
      ⟨fun _ => rfl, fun _ => Or.inl (by simpa using hv), h.joined,
        fun hf => absurd hf.symm Bool.false_ne_true⟩
    have hgone (hg : s.Gone) : False := absurd (hcb.symm.trans hg.taken) Bool.false_ne_true
    split at he
    · exact Option.some.inj he ▸ stepReport_of_silent htaken fun hg => (hgone hg).elim
    · next hdead =>
      obtain rfl := Option.some.inj he
      have hdead' : s.connectionAlive = false := by simpa using hdead
      have hs := notifyClosed_frame { s with closedCb := true }
      refine ⟨?_, fun hg => (hgone hg).elim, fun hg => (hgone hg).elim,
        fun _ => ⟨hdead', fun hq => ?_⟩⟩
      · rcases hs with hs | hs <;> dsimp only <;> rw [hs]
        · exact htaken
        · exact ⟨htaken.taken, htaken.handle, htaken.joined, htaken.dead⟩
      · rcases hs with hs | hs <;> dsimp only <;> rw [hs] <;>
          exact ⟨rfl, h.dead hcb hdead', hq.of_stop rfl id id⟩
  | beginTeardown kind =>
    simp only [Session.step, Option.ite_none_right_eq_some, Option.some.injEq] at he
    obtain ⟨hmay, rfl⟩ := he
    have hcb : s.closedCb = true := by
      simp only [mayTearDown, Bool.and_eq_true] at hmay
      exact hmay.1.1
    exact stepReport_of_silent ⟨fun _ => hcb, h.handle, False.elim, h.dead⟩
      fun hg => ⟨hg.taken, hg.leaving, hg.quiet⟩
  | mainStep =>
    simp only [Session.step] at he
    split at he
    · cases he
    · next point kind hpc =>
      simp only [Option.map_eq_some_iff] at he
      obtain ⟨r, hr, rfl⟩ := he
      exact h.mainStep hpc hr
  | capsConfirm | frameAck =>
    exact Option.some.inj he ▸ stepReport_of_silent ⟨h.taken, h.handle, h.joined, h.dead⟩
      fun hg => ⟨hg.taken, hg.leaving, hg.quiet⟩

theorem RenderQuiet.not_inCall {s : Session} (h : s.RenderQuiet) (kind : PullKind) :
    s.render ≠ .inCall kind := by
  intro hpc
  simp only [RenderQuiet, hpc] at h

theorem Gone.not_closedCallbackSet {s : Session} (h : s.Gone) (rt : ServerRuntime) :
    s.step rt .closedCallbackSet = none := by
  simp only [Session.step, h.taken, Bool.true_or, if_true]

end Session

namespace SharedRuntime

/-- At most one session is in the list, and every session that was removed is
gone for the runtime. -/
structure Shared (s : SharedRuntime) : Prop where
  threads : ∀ i ∈ s.started, (s.session i).Threads
  gone : ∀ i ∈ s.removed, i ∈ s.started ∧ i ∉ s.sessions ∧ (s.session i).Gone
  known : ∀ i ∈ s.started, i ∈ s.removed ∨ i ∈ s.sessions ∨ s.accepting = some i
  single : s.sessions = [] ∨ s.accepting = none ∧ ∃ i, s.sessions = [i]

/-- The listener starts a session when its list is empty and it builds no other. -/
theorem Shared.accept {s : SharedRuntime} (h : s.Shared) (i : ℕ) (t : Session) (ht : t.Threads)
    (haccepting : s.accepting = none) (hsessions : s.sessions = []) (hi : i ∉ s.started) :
    ({ s with
        session := Function.update s.session i t
        accepting := some i
        started := i :: s.started } : SharedRuntime).Shared := by
  have hold {j : ℕ} (hj : j ∈ s.started) : Function.update s.session i t j = s.session j :=
    Function.update_of_ne (by rintro rfl; exact hi hj) t s.session
  constructor
  case threads =>
    intro j hj
    change (Function.update s.session i t j).Threads
    rcases List.mem_cons.mp hj with rfl | hj
    · rwa [Function.update_self]
    · rw [hold hj]
      exact h.threads j hj
  case gone =>
    intro j hj
    obtain ⟨hs, hl, hg⟩ := h.gone j hj
    refine ⟨List.mem_cons_of_mem i hs, hl, ?_⟩
    change (Function.update s.session i t j).Gone
    rwa [hold hs]
  case known =>
    intro j hj
    rcases List.mem_cons.mp hj with rfl | hj
    · exact Or.inr (Or.inr rfl)
    · -- the older sessions are neither in the list nor being built
      rcases h.known j hj with hr | hl | ha
      · exact Or.inl hr
      · exact Or.inr (Or.inl hl)
      · exact absurd (haccepting.symm.trans ha) nofun
  case single => exact Or.inl hsessions

/-- The step of one session, before the listener hears of it. -/
theorem Shared.afterSession {s : SharedRuntime} (h : s.Shared) {i : ℕ} {e : SessionEvent}
    (hmay : s.mayStep i e = true) {res : SessionResult}
    (he : (s.session i).step s.runtime e = some res) : (s.afterSession i e res).Shared := by
  have hi : i ∈ s.started := by
    cases e <;> simp_all [mayStep]
  have hreport := (h.threads i hi).step he
  constructor
  case threads =>
    intro j hj
    change (Function.update s.session i res.session j).Threads
    by_cases hji : j = i
    · subst hji
      rw [Function.update_self]
      exact hreport.threads
    · rw [Function.update_of_ne hji]
      exact h.threads j hj
  case gone =>
    intro j hj
    obtain ⟨hs, hl, hg⟩ := h.gone j hj
    refine ⟨hs, ?_, ?_⟩
    · cases e with
      | closedCallbackSet =>
        change j ∉ i :: s.sessions
        rw [List.mem_cons, not_or]
        refine ⟨fun hji => ?_, hl⟩
        subst hji
        rw [hg.not_closedCallbackSet] at he
        cases he
      | _ => exact hl
    · change (Function.update s.session i res.session j).Gone
      by_cases hji : j = i
      · subst hji
        rw [Function.update_self]
        exact hreport.gone hg
      · rwa [Function.update_of_ne hji]
  case known =>
    intro j hj
    rcases h.known j hj with hr | hl | ha
    · exact Or.inl hr
    · refine Or.inr (Or.inl ?_)
      cases e with
      | closedCallbackSet => exact List.mem_cons_of_mem i hl
      | _ => exact hl
    · cases e with
      | closedCallbackSet =>
        simp only [mayStep, Bool.and_eq_true, decide_eq_true_eq] at hmay
        obtain rfl := Option.some.inj (ha.symm.trans hmay.2)
        exact Or.inr (Or.inl (List.mem_cons_self ..))
      | _ => exact Or.inr (Or.inr ha)
  case single =>
    cases e with
    | closedCallbackSet =>
      simp only [mayStep, Bool.and_eq_true, decide_eq_true_eq] at hmay
      have hempty : s.sessions = [] :=
        h.single.resolve_right fun hs => absurd (hs.1.symm.trans hmay.2) nofun
      refine Or.inr ⟨rfl, i, ?_⟩
      change i :: s.sessions = [i]
      rw [hempty]
    | _ => exact h.single

/-- The listener takes a session that is gone out of its list. -/
theorem Shared.remove {s : SharedRuntime} (h : s.Shared) {i : ℕ} (hi : i ∈ s.sessions)
    (hstarted : i ∈ s.started) (hgone : (s.session i).Gone) (runtime : ServerRuntime) :
    ({ s with
        sessions := s.sessions.erase i
        removed := i :: s.removed
        runtime := runtime } : SharedRuntime).Shared := by
  -- the listener has one session at a time
  have hone : s.sessions = [i] := by
    rcases h.single with hnil | ⟨_, j, hj⟩
    · exact absurd (hnil ▸ hi) List.not_mem_nil
    · rw [hj] at hi ⊢
      rw [List.mem_singleton.mp hi]
  have herase : s.sessions.erase i = [] := by
    rw [hone, List.erase_cons_head]
  constructor
  case threads => exact h.threads
  case gone =>
    intro j hj
    refine ⟨?_, ?_, ?_⟩
    · rcases List.mem_cons.mp hj with rfl | hj
      · exact hstarted
      · exact (h.gone j hj).1
    · change j ∉ s.sessions.erase i
      rw [herase]
      exact List.not_mem_nil
    · rcases List.mem_cons.mp hj with rfl | hj
      · exact hgone
      · exact (h.gone j hj).2.2
  case known =>
    intro j hj
    rcases h.known j hj with hr | hl | ha
    · exact Or.inl (List.mem_cons_of_mem i hr)
    · rw [hone, List.mem_singleton] at hl
      exact Or.inl (hl ▸ List.mem_cons_self ..)
    · exact Or.inr (Or.inr ha)
  case single => exact Or.inl herase

theorem removesNext_of_mem {s : SharedRuntime} {i : ℕ} {e : SessionEvent} {res : SessionResult}
    (hn : (s.session i).NotifiesNext e) (hi : i ∈ (s.afterSession i e res).sessions) :
    s.RemovesNext i e := by
  refine ⟨hn, ?_⟩
  cases e with
  | closedCallbackSet => trivial
  | _ => exact hi

/-- The calls of a step of one session. -/
theorem Shared.allows_calls {s : SharedRuntime} (h : s.Shared) {i : ℕ} {e : SessionEvent}
    (hc : s.LeavesAlone (.session i e)) {res : SessionResult}
    (hreport : (s.session i).StepReport e res) :
    ∀ a ∈ res.calls.map (RuntimeAction.call i), s.Allows a := by
  intro a ha
  obtain ⟨c, hcall, rfl⟩ := List.mem_map.mp ha
  -- a removed session is gone, so its only call is the one that its teardown makes
  have hset (hr : i ∈ s.removed) : c = .setTransport .surfaceBits ∧
      s.runtime.transport = .surfaceBits := by
    obtain ⟨hnext, hset, hp⟩ := hreport.calls (h.gone i hr).2.2 c hcall
    exact ⟨hset, (hc.2 hr hnext).resolve_left hp⟩
  cases c with
  | pull kind => exact fun hr => absurd (hset hr).1 nofun
  | prepareStream ok => exact fun hr => absurd (hset hr).1 nofun
  | requestKeyframe => trivial
  | setTransport transport =>
    intro hr
    obtain ⟨ht, hmode⟩ := hset hr
    rw [RuntimeCall.setTransport.inj ht, hmode]

/-- The reset that follows the removal of session `i`: it is the only session that
is not gone, and its render thread is quiet. -/
theorem Shared.allows_stop {s : SharedRuntime} (h : s.Shared) {i : ℕ} {e : SessionEvent}
    {res : SessionResult} (hafter : (s.afterSession i e res).Shared)
    (hmem : i ∈ (s.afterSession i e res).sessions) (hquiet : (s.session i).RenderQuiet) :
    s.Allows .stop := by
  intro j hj kind
  rcases hafter.known j hj with hr | hl | ha
  · exact (h.gone j hr).2.2.quiet.not_inCall kind
  · rcases hafter.single with hnil | ⟨_, k, hk⟩
    · exact absurd (hnil ▸ hl) List.not_mem_nil
    · rw [hk, List.mem_singleton] at hl hmem
      rw [hl, ← hmem]
      exact hquiet.not_inCall kind
  · rcases hafter.single with hnil | ⟨hnone, _⟩
    · exact absurd (hnil ▸ hmem) List.not_mem_nil
    · exact absurd (hnone.symm.trans ha) nofun

/-- What the guarded steps do to the runtime is allowed. -/
theorem Shared.allows {s s' : SharedRuntime} (h : s.Shared) {e : SharedEvent}
    (hc : s.LeavesAlone e) {actions : List RuntimeAction}
    (he : s.step e = some (s', actions)) : s'.Shared ∧ ∀ a ∈ actions, s.Allows a := by
  cases e with
  | accept i passiveMode size =>
    simp only [SharedRuntime.step, Option.ite_none_right_eq_some, Option.some.injEq,
      Prod.mk.injEq] at he
    obtain ⟨⟨haccepting, hsessions, hi⟩, rfl, rfl⟩ := he
    refine ⟨h.accept i _ ⟨nofun, nofun, nofun, nofun⟩ haccepting hsessions hi, nofun⟩
  | session i e =>
    simp only [SharedRuntime.step, Option.ite_none_right_eq_some, Option.map_eq_some_iff] at he
    obtain ⟨hmay, res, hres, hout⟩ := he
    have hi : i ∈ s.started := by
      cases e <;> simp_all [mayStep]
    have hreport := (h.threads i hi).step hres
    have hafter := h.afterSession hmay hres
    have hcalls := h.allows_calls hc hreport
    -- the closed callback finds the session in the list, or changes nothing
    by_cases hclosed : res.closed = true ∧ i ∈ (s.afterSession i e res).sessions
    · obtain ⟨hclose, hmem⟩ := hclosed
      obtain ⟨hnext, hgone⟩ := hreport.closed hclose
      -- the guard: the render thread is on its way out
      have hquiet : (s.session i).RenderQuiet := hc.1 (removesNext_of_mem hnext hmem)
      have hgone' : ((s.afterSession i e res).session i).Gone := by
        change (Function.update s.session i res.session i).Gone
        rw [Function.update_self]
        exact hgone hquiet
      have hremoved := hafter.remove hmem hi hgone'
      have hstop := h.allows_stop hafter hmem hquiet
      simp only [hclose, if_true, sessionClosed, hmem] at hout
      split at hout
      · obtain ⟨rfl, rfl⟩ := Prod.mk.inj hout
        refine ⟨hremoved _, ?_⟩
        intro a ha
        rcases List.mem_append.mp ha with ha | ha
        · exact hcalls a ha
        · exact List.mem_singleton.mp ha ▸ hstop
      · obtain ⟨rfl, rfl⟩ := Prod.mk.inj hout
        exact ⟨hremoved _, fun a ha => hcalls a (by simpa using ha)⟩
    · have hsame : (if res.closed then (s.afterSession i e res).sessionClosed i
          else (s.afterSession i e res, [])) = (s.afterSession i e res, []) := by
        split
        · next hclose =>
          have hnot : i ∉ (s.afterSession i e res).sessions := fun hm => hclosed ⟨hclose, hm⟩
          simp only [sessionClosed, hnot, if_false]
        · rfl
      rw [hsame] at hout
      obtain ⟨rfl, rfl⟩ := Prod.mk.inj hout
      exact ⟨hafter, fun a ha => hcalls a (by simpa using ha)⟩

theorem shared_inductive : sharedRuntime.Inductive LeavesAlone Shared where
  init := by
    rintro _ rfl
    exact ⟨nofun, nofun, nofun, Or.inl rfl⟩
  step := by
    intro s e s' h hc he
    obtain ⟨⟨t, actions⟩, hstep, rfl⟩ := Option.map_eq_some_iff.mp he
    exact (h.allows hc hstep).1

end SharedRuntime

/-- In a run that removes only sessions that are done, no removed session
touches the runtime and no reset meets a call. -/
theorem runtime_left_alone (s s' : SharedRuntime) (e : SharedEvent) (actions : List RuntimeAction)
    (hs : sharedRuntime.ReachableIf SharedRuntime.LeavesAlone s) (hc : s.LeavesAlone e)
    (he : s.step e = some (s', actions)) : ∀ a ∈ actions, s.Allows a :=
  ((SharedRuntime.shared_inductive.holds hs).allows hc he).2

/-- Session 0 is accepted and activated. -/
def firstSessionActivated : List SharedEvent :=
  .accept 0 false (some (1920, 1080)) ::
    [.vcmThreadStored, .closedCallbackSet, .vcm .step, .vcm .signalled,
      .vcm (.checked (.activate true true true)), .capsConfirm,
      .vcm (.drdynvc true true (fun _ => true) true)].map (.session 0)

/-- Its vcm thread leaves the loop, up to the notification of the listener. -/
def firstSessionEnds : List SharedEvent :=
  [.vcm .step, .vcm .waitFailed, .vcm .step].map (.session 0)

/-- Its render thread comes to the beginning of a call. -/
def firstSessionCalls : List SharedEvent :=
  [.render .step, .render .step, .render .step, .render .step, .render (.canSubmit false)].map
    (.session 0)

/-- The render thread has ended before the session is removed, so the stop that
follows meets nobody. -/
theorem runtime_left_alone_after_exit :
    ((sharedRuntime.run {} (firstSessionActivated ++ firstSessionEnds ++
      [.session 0 (.render .step)])).get rfl).Allows .stop :=
  runtime_left_alone _ _ (.session 0 (.vcm .step)) [.stop] (.run_get rfl _ (by decide) rfl)
    (by decide) rfl .stop (List.mem_singleton_self _)

/-- The vcm thread removes the session while its render thread is in a call or
just before it: the reset meets the call, and the call comes after the removal. -/
theorem closed_session_touches_runtime :
    (∃ s e s' actions, sharedRuntime.Reachable s ∧ s.step e = some (s', actions) ∧
      .stop ∈ actions ∧ ¬ s.Allows .stop) ∧
    ∃ s e s' actions i kind, sharedRuntime.Reachable s ∧ s.step e = some (s', actions) ∧
      .call i (.pull kind) ∈ actions ∧ i ∈ s.removed := by
  constructor
  · refine ⟨_, .session 0 (.vcm .step), _, [.stop], EventMachine.reachable_run_get rfl
      (firstSessionActivated ++ firstSessionCalls ++ [.session 0 (.render .step)] ++
        firstSessionEnds) rfl, rfl, List.mem_singleton_self _, ?_⟩
    exact fun h => h 0 (List.mem_singleton_self 0) .gfx rfl
  · exact ⟨_, .session 0 (.render .step), _, [.call 0 (.pull .gfx)], 0, .gfx,
      EventMachine.reachable_run_get rfl (firstSessionActivated ++ firstSessionCalls ++
        firstSessionEnds ++ [.session 0 (.vcm .step)]) rfl, rfl, List.mem_singleton_self _,
      List.mem_singleton_self 0⟩

end RemoteDesktop.DRD
