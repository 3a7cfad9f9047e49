import RemoteDesktop.DRDSession

/-! Deadlocks of a session's teardown: a thread that joins itself, and a join of
a render thread that waits for acknowledgements of a client that sends none. -/
namespace RemoteDesktop.DRD

/-- One session with its client. Other sessions may change the runtime. -/
structure SessionRun where
  runtime : ServerRuntime := {}
  session : Session
  clientStopped : Bool := false
  deriving DecidableEq, Repr

inductive SessionRunEvent
  | session (e : SessionEvent)
  | runtimeChange (runtime : ServerRuntime)
  | clientStops

def SessionRun.after (r : SessionRun) (res : SessionResult) : SessionRun :=
  { r with session := res.session, runtime := res.calls.foldl ServerRuntime.apply r.runtime }

def sessionRunStep (r : SessionRun) : SessionRunEvent → Option SessionRun
  | .session (.frameAck queueDepth) =>
    if r.clientStopped then none
    else (r.session.step r.runtime (.frameAck queueDepth)).map r.after
  | .session e => (r.session.step r.runtime e).map r.after
  | .runtimeChange runtime => some { r with runtime := runtime }
  | .clientStops => some { r with clientStopped := true }

def sessionRun : EventMachine SessionRun SessionRunEvent where
  init r := ∃ passiveMode size runtime,
    r = { session := drdRdpSessionNew passiveMode size, runtime := runtime }
  step := sessionRunStep

namespace Session

variable (s : Session)

/-- Some thread waits in `g_thread_join` for the render thread. -/
def Joining : Prop :=
  (∃ kind, s.main = .at .joinRender kind) ∨ ∃ kind, s.vcm = .callback (.at .joinRender kind)

/-- The vcm thread waits in `g_thread_join` for itself. -/
def JoinsItself : Prop := ∃ kind, s.vcm = .callback (.at .joinVcm kind)

/-- The render thread is in `g_cond_wait` and its condition holds. -/
def Parked : Prop := s.render = .parked ∧ ∃ p, s.pipeline = some p ∧ p.mustWait = true

/-- The render thread is past the test of its loop and before `wait_for_capacity`. -/
def ReachesWait : Prop :=
  match s.render with
  | .transport | .recover false | .adopt | .wait => True
  | _ => False

/-- The render thread waits, or nothing lies between it and the wait, and the
condition of the wait holds. -/
def MayPark : Prop :=
  ∃ p, s.pipeline = some p ∧ p.mustWait = true ∧
    (s.render = .parked ∨ p.lastFrameH264 = false ∧ s.ReachesWait)

end Session

/-- A thread waits for ever: dispose and reset, the only steps besides an
acknowledgement that wake the render thread, come after the join. -/
def SessionRun.Deadlocked (r : SessionRun) : Prop :=
  r.session.JoinsItself ∨ r.session.Joining ∧ r.session.Parked ∧ r.clientStopped = true

/-- A join of the render thread may begin: the thread is not about to wait for
acknowledgements that no longer come. -/
def SessionRun.MayJoin (r : SessionRun) : Prop :=
  r.session.renderThread = true → r.session.MayPark → r.clientStopped = false

/-- The vcm thread tests `vcm_thread` only before the handle is stored, and a
render thread that is about to park is not both joined and without a client. -/
def SessionRun.TearsDownSafely (r : SessionRun) : SessionRunEvent → Prop
  | .session (.vcm .step) =>
    match r.session.vcm with
    | .callback (.at .alive _) => r.session.vcmThread = false
    | .callback (.at .start _) => r.MayJoin
    | _ => True
  | .session .mainStep =>
    match r.session.main with
    | .at .start _ => r.MayJoin
    | _ => True
  | .clientStops => r.session.Joining → ¬ r.session.MayPark
  | _ => True

instance (s : Session) : Decidable s.ReachesWait := by
  unfold Session.ReachesWait
  split <;> infer_instance

instance (s : Session) : Decidable s.MayPark :=
  inferInstanceAs (Decidable (∃ p, p ∈ s.pipeline ∧ p.mustWait = true ∧
    (s.render = .parked ∨ p.lastFrameH264 = false ∧ s.ReachesWait)))

instance (P : TeardownKind → Prop) [DecidablePred P] : Decidable (∃ kind, P kind) :=
  decidable_of_iff (P .stop ∨ P .disconnect ∨ P .dispose)
    ⟨fun h => h.elim (⟨_, ·⟩) (·.elim (⟨_, ·⟩) (⟨_, ·⟩)), fun ⟨kind, h⟩ => by
      cases kind
      · exact Or.inl h
      · exact Or.inr (Or.inl h)
      · exact Or.inr (Or.inr h)⟩

instance (s : Session) : Decidable s.Joining :=
  inferInstanceAs (Decidable (_ ∨ _))

instance (r : SessionRun) : Decidable r.MayJoin :=
  inferInstanceAs (Decidable (r.session.renderThread = true → r.session.MayPark → _))

instance (r : SessionRun) : DecidablePred r.TearsDownSafely := by
  intro e
  unfold SessionRun.TearsDownSafely
  split
  · split <;> infer_instance
  · split <;> infer_instance
  · infer_instance
  · infer_instance

namespace Session

/-- The vcm thread is past the point where it could start a render thread. -/
def VcmWinding (s : Session) : Prop :=
  match s.vcm with
  | .callback .idle | .callback (.at .alive _) | .callback (.at .joinVcm _)
  | .callback (.at .notify _) | .callback (.at .disable _) | .callback (.at .finish _)
  | .ending | .notify | .exited => True
  | .callback (.at .start _) | .callback (.at .joinRender _)
  | .loop | .wait | .check | .channels => False

/-- The bound is the one that `drd_rdp_graphics_pipeline_init` sets. -/
def Bounded (pipeline : Option GraphicsPipeline) : Prop :=
  ∀ p, pipeline = some p → p.maxOutstandingFrames = 3

/-- The pipeline that a step leaves gives no new reason to wait. -/
def PipelineKept (before after : Option GraphicsPipeline) : Prop :=
  ∀ p', after = some p' → p'.maxOutstandingFrames = 3 ∧
    (p'.mustWait = true →
      ∃ p, before = some p ∧ p.mustWait = true ∧ p'.lastFrameH264 = p.lastFrameH264)

theorem Bounded.refl {pipeline : Option GraphicsPipeline} (hb : Bounded pipeline) :
    PipelineKept pipeline pipeline :=
  fun p' hp => ⟨hb p' hp, fun hw => ⟨p', hp, hw, rfl⟩⟩

theorem pipelineKept_none (pipeline : Option GraphicsPipeline) : PipelineKept pipeline none :=
  fun _ hp => nomatch hp

theorem PipelineKept.bounded {before after : Option GraphicsPipeline}
    (hk : PipelineKept before after) : Bounded after :=
  fun p' hp' => (hk p' hp').1

theorem pipelineKept_maybeInit {p : GraphicsPipeline} (hb : p.maxOutstandingFrames = 3)
    (opened : Bool) (answer : GfxPdu → Bool) :
    PipelineKept (some p) (some (p.maybeInit opened answer).2) := by
  intro p' hp'
  obtain rfl := Option.some.inj hp'
  have hm : 0 < p.maxOutstandingFrames := by omega
  refine ⟨by rw [p.maybeInit_maxOutstandingFrames, hb], ?_⟩
  intro hw
  exact ⟨p, rfl, p.mustWait_of_maybeInit opened answer hm hw⟩

/-- A pipeline that was just created has no surface. -/
theorem pipelineKept_new (size : UInt16 × UInt16) (opened : Bool) (answer : GfxPdu → Bool) :
    PipelineKept none
      (some ((drdRdpGraphicsPipelineNew size.1 size.2).maybeInit opened answer).2) := by
  intro p' hp'
  have hk := pipelineKept_maybeInit (p := drdRdpGraphicsPipelineNew size.1 size.2) rfl opened answer
  obtain ⟨hmax, hwait⟩ := hk p' hp'
  refine ⟨hmax, ?_⟩
  intro hw
  obtain ⟨p, hp, hw', _⟩ := hwait hw
  obtain rfl := Option.some.inj hp
  cases hw'

theorem bounded_map {pipeline : Option GraphicsPipeline} (hb : Bounded pipeline)
    (f : GraphicsPipeline → GraphicsPipeline)
    (hf : ∀ p, (f p).maxOutstandingFrames = p.maxOutstandingFrames) :
    Bounded (pipeline.map f) := by
  intro p' hp'
  obtain ⟨p, hp, rfl⟩ := Option.map_eq_some_iff.mp hp'
  rw [hf, hb p hp]

theorem MayPark.of_kept {s s' : Session} (h : s'.MayPark) (hk : PipelineKept s.pipeline s'.pipeline)
    (hpark : s'.render = .parked → s.render = .parked)
    (hreach : s'.ReachesWait → s.ReachesWait) : s.MayPark := by
  obtain ⟨p', hp', hw, hpos⟩ := h
  obtain ⟨p, hp, hw', hmode⟩ := (hk p' hp').2 hw
  refine ⟨p, hp, hw', ?_⟩
  rw [hmode] at hpos
  exact hpos.imp hpark (And.imp_right hreach)

theorem not_mayPark_of_pos {s : Session} (hpark : s.render ≠ .parked) (hreach : ¬ s.ReachesWait) :
    ¬ s.MayPark := by
  rintro ⟨p, _, _, hpos | hpos⟩
  · exact hpark hpos
  · exact hreach hpos.2

/-- What a render step may do: the bound stays, and a thread that is told to
stop does not come nearer to the wait. -/
structure MoveSafe (s : Session) (m : RenderMove) : Prop where
  bounded : Bounded m.pipeline
  parks : s.renderRunning = false → (s.afterMove m).session.MayPark → s.MayPark

theorem moveSafe_of_pos {s : Session} {m : RenderMove} (hb : Bounded m.pipeline)
    (hpark : m.pc ≠ .parked) (hreach : ¬ (s.afterMove m).session.ReachesWait) : s.MoveSafe m :=
  ⟨hb, fun _ h => absurd h (not_mayPark_of_pos hpark hreach)⟩

theorem moveSafe_of_reaches {s : Session} {m : RenderMove} (hk : PipelineKept s.pipeline m.pipeline)
    (hpark : m.pc ≠ .parked) (hreach : s.ReachesWait) : s.MoveSafe m :=
  ⟨hk.bounded, fun _ h => h.of_kept hk (fun he => absurd he hpark) (fun _ => hreach)⟩

theorem moveSafe_waitMove {s : Session} {p : GraphicsPipeline} (hb : Bounded s.pipeline)
    (hp : s.pipeline = some p) (w : CapacityWait) (hw : w = .blocks → s.MayPark) :
    s.MoveSafe (s.waitMove p w) := by
  rcases w with _ | _ | _
  · refine ⟨fun p' hp' => ?_, fun _ _ => hw rfl⟩
    obtain rfl := Option.some.inj hp'
    exact hb p hp
  · exact moveSafe_of_pos hb nofun id
  · exact moveSafe_of_pos hb nofun id

theorem moveSafe_recoverMove {s : Session} (hb : Bounded s.pipeline) (surfaceBits : Bool)
    (hpc : s.render = .recover surfaceBits) (created : Option (UInt16 × UInt16)) (opened : Bool)
    (answer : GfxPdu → Bool) : s.MoveSafe (s.recoverMove surfaceBits created opened answer) := by
  have hk : PipelineKept s.pipeline (s.recoverMove surfaceBits created opened answer).pipeline := by
    unfold recoverMove
    cases hp : s.pipeline with
    | some p => exact pipelineKept_maybeInit (hb p hp) opened answer
    | none =>
      cases created with
      | none =>
        change PipelineKept none s.pipeline
        rw [hp]
        exact pipelineKept_none none
      | some size => exact pipelineKept_new size opened answer
  have hto : (s.recoverMove surfaceBits created opened answer).pc =
      if surfaceBits then .top else .adopt := by
    unfold recoverMove
    cases s.pipeline <;> cases created <;> rfl
  cases surfaceBits with
  -- back at the top of the loop no wait is reached
  | true =>
    refine moveSafe_of_pos hk.bounded (by rw [hto]; nofun) ?_
    simp only [ReachesWait, afterMove, hto, if_true, not_false_eq_true]
  -- the pipeline is adopted next, which the thread was on its way to
  | false =>
    refine moveSafe_of_reaches hk (by rw [hto]; nofun) ?_
    simp only [ReachesWait, hpc]

theorem moveSafe_renderCall {s : Session} (hb : Bounded s.pipeline) : s.MoveSafe s.renderCall := by
  unfold renderCall
  split
  · next hpc =>
    -- the loop test sends a thread that is told to stop to its end
    refine ⟨hb, ?_⟩
    intro hstop
    simp only [hstop, Bool.not_false, Bool.true_or, if_true]
    exact fun h => absurd h (not_mayPark_of_pos nofun id)
  · next hpc =>
    have hreach : s.ReachesWait := by simp only [ReachesWait, hpc]
    split
    · exact moveSafe_of_reaches hb.refl nofun hreach
    · split
      · exact moveSafe_of_reaches hb.refl nofun hreach
      · exact moveSafe_of_pos hb nofun id
  · next hpc =>
    have hreach : s.ReachesWait := by simp only [ReachesWait, hpc]
    split
    · next p hp =>
      split
      · -- a wait that blocks is one of a full pipeline outside the H.264 mode
        refine moveSafe_waitMove hb hp _ fun hw => ?_
        unfold GraphicsPipeline.waitForCapacity at hw
        split at hw
        · cases hw
        · next hmode =>
          exact ⟨p, hp, p.capacityLoop_blocks_iff.mp hw, Or.inr ⟨by simpa using hmode, hreach⟩⟩
      · exact moveSafe_of_pos hb nofun id
    · exact moveSafe_of_pos hb nofun id
  · next hpc =>
    split
    · next p hp =>
      refine moveSafe_waitMove hb hp _ fun hw => ?_
      exact ⟨p, hp, p.capacityLoop_blocks_iff.mp hw, Or.inl hpc⟩
    · exact moveSafe_of_pos hb nofun id
  · exact moveSafe_of_pos hb nofun id
  · refine moveSafe_of_pos (bounded_map hb _ fun p => ?_) nofun id
    unfold GraphicsPipeline.outFrameChange
    split
    · split <;> rfl
    · rfl
  · exact moveSafe_of_pos (bounded_map hb _ fun _ => rfl) nofun id
  · exact moveSafe_of_pos hb nofun id
  · refine moveSafe_of_pos ?_ nofun id
    unfold disableGraphicsPipeline
    split
    · exact hb
    · exact nofun
  · exact ⟨hb, fun _ h => h⟩

theorem renderMove_safe {s : Session} (hb : Bounded s.pipeline) {transport : FrameTransport}
    {e : RenderEvent} {m : RenderMove} (hm : s.renderMove transport e = some m) :
    s.MoveSafe m := by
  -- one move of the render thread, by what it was waiting for
  cases e with
  | step =>
    simp only [renderMove] at hm
    split at hm
    · next hpc =>
      have hreach : s.ReachesWait := by simp only [ReachesWait, hpc]
      split at hm
      · obtain rfl := Option.some.inj hm
        refine moveSafe_of_reaches hb.refl ?_ hreach
        simp only [goto]
        split <;> simp
      · obtain rfl := Option.some.inj hm
        exact moveSafe_of_pos hb (by simp [goto]) id
    · cases hm
    · cases hm
    · cases hm
    · cases hm
    · cases hm
    · exact Option.some.inj hm ▸ moveSafe_renderCall hb
  | recovered created opened answer =>
    simp only [renderMove] at hm
    split at hm
    · next surfaceBits hpc =>
      exact Option.some.inj hm ▸ moveSafe_recoverMove hb surfaceBits hpc created opened answer
    · cases hm
  | canSubmit refreshDue =>
    simp only [renderMove] at hm
    split at hm
    · obtain rfl := Option.some.inj hm
      split <;> exact moveSafe_of_pos hb (by simp [goto]) id
    · cases hm
  | returned outcome =>
    simp only [renderMove] at hm
    split at hm
    · split at hm <;> exact Option.some.inj hm ▸ moveSafe_of_pos hb (by simp [goto]) id
    · cases hm
  | notSupported =>
    simp only [renderMove] at hm
    split at hm
    · obtain rfl := Option.some.inj hm
      split <;> exact moveSafe_of_pos hb (by simp [goto]) id
    · cases hm

/-! What a step of the other threads does to the render thread and its joins. -/

theorem disableGraphicsPipeline_frame (s : Session) :
    s.disableGraphicsPipeline.1 = s ∨
      s.disableGraphicsPipeline.1 = { s with pipeline := none, pipelineReady := false } := by
  unfold disableGraphicsPipeline
  split
  · exact Or.inl rfl
  · exact Or.inr rfl

theorem notifyClosed_frame (s : Session) :
    s.notifyClosed.1 = s ∨ s.notifyClosed.1 = { s with closedCbInvoked := true } := by
  unfold notifyClosed
  split
  · exact Or.inr rfl
  · exact Or.inl rfl

/-- The effect of a teardown step on what the other threads depend on. -/
structure TeardownEffect (s : Session) (kind : TeardownKind) (point : TeardownPoint)
    (pc : TeardownPc) (s' : Session) : Prop where
  main : s'.main = s.main
  vcm : s'.vcm = s.vcm
  render : s'.render = s.render
  running : s.renderRunning = false → s'.renderRunning = false
  pipeline : s'.pipeline = s.pipeline ∨ s'.pipeline = none
  join : ∀ kind', pc = .at .joinRender kind' →
    kind' = kind ∧ point = .start ∧ s.renderThread = true ∧ s'.renderRunning = false
  joinVcm : ∀ kind', pc = .at .joinVcm kind' → point = .alive ∧ s.vcmThread = true
  started : point = .start → s'.renderThread = s.renderThread
  winding : point ≠ .start → ∀ kind', pc ≠ .at .start kind' ∧ pc ≠ .at .joinRender kind'

/-- A step past the join of the render thread, which no teardown comes back to. -/
theorem TeardownEffect.of_winding {s s' : Session} {kind : TeardownKind} {point : TeardownPoint}
    {pc : TeardownPc} (hpoint : point ≠ .start)
    (hpc : ∀ kind', pc ≠ .at .start kind' ∧ pc ≠ .at .joinRender kind')
    (hjoin : ∀ kind', pc = .at .joinVcm kind' → point = .alive ∧ s.vcmThread = true)
    (hmain : s'.main = s.main) (hvcm : s'.vcm = s.vcm) (hrender : s'.render = s.render)
    (hrunning : s.renderRunning = false → s'.renderRunning = false)
    (hpipeline : s'.pipeline = s.pipeline ∨ s'.pipeline = none) :
    s.TeardownEffect kind point pc s' where
  main := hmain
  vcm := hvcm
  render := hrender
  running := hrunning
  pipeline := hpipeline
  join := fun kind' he => absurd he (hpc kind').2
  joinVcm := hjoin
  started := fun he => absurd he hpoint
  winding := fun _ => hpc

theorem teardownStep_effect {s : Session} {kind : TeardownKind} {point : TeardownPoint}
    {r : TeardownPc × SessionResult} (h : s.teardownStep kind point = some r) :
    s.TeardownEffect kind point r.1 r.2.session := by
  cases point with
  | start =>
    simp only [teardownStep] at h
    split at h <;> obtain rfl := Option.some.inj h
    · next ht =>
      refine ⟨rfl, rfl, rfl, fun _ => rfl, Or.inl rfl, ?_, nofun, fun _ => rfl, nofun⟩
      rintro kind' ⟨⟩
      exact ⟨rfl, rfl, ht, rfl⟩
    · exact ⟨rfl, rfl, rfl, id, Or.inl rfl, nofun, nofun, fun _ => rfl, nofun⟩
  | joinRender =>
    simp only [teardownStep] at h
    split at h
    · obtain rfl := Option.some.inj h
      exact .of_winding nofun (fun _ => ⟨nofun, nofun⟩) nofun rfl rfl rfl id (Or.inl rfl)
    · cases h
  -- only here is the join of the vcm thread decided on
  | alive =>
    obtain rfl := Option.some.inj h
    cases hv : s.vcmThread with
    | true =>
      exact .of_winding nofun (fun _ => ⟨nofun, nofun⟩) (fun _ _ => ⟨rfl, hv⟩) rfl rfl rfl id
        (Or.inl rfl)
    | false =>
      exact .of_winding nofun (fun _ => ⟨nofun, nofun⟩) nofun rfl rfl rfl id (Or.inl rfl)
  | joinVcm =>
    simp only [teardownStep] at h
    split at h
    · obtain rfl := Option.some.inj h
      exact .of_winding nofun (fun _ => ⟨nofun, nofun⟩) nofun rfl rfl rfl id (Or.inl rfl)
    · cases h
  | notify =>
    obtain rfl := Option.some.inj h
    -- a stop ends here, the others go on to the pipeline
    have hpc (kind' : TeardownKind) (point : TeardownPoint) (hne : point ≠ .disable) :
        (if kind = .stop then TeardownPc.idle else .at .disable kind) ≠ .at point kind' := by
      split
      · nofun
      · rintro ⟨⟩
        exact hne rfl
    rcases s.notifyClosed_frame with hs | hs <;> dsimp only <;> rw [hs] <;>
      exact .of_winding nofun (fun _ => ⟨hpc _ _ nofun, hpc _ _ nofun⟩)
        (fun _ he => absurd he (hpc _ _ nofun)) rfl rfl rfl id (Or.inl rfl)
  | disable =>
    obtain rfl := Option.some.inj h
    rcases s.disableGraphicsPipeline_frame with hs | hs <;> dsimp only <;> rw [hs]
    · exact .of_winding nofun (fun _ => ⟨nofun, nofun⟩) nofun rfl rfl rfl id (Or.inl rfl)
    · exact .of_winding nofun (fun _ => ⟨nofun, nofun⟩) nofun rfl rfl rfl id (Or.inr rfl)
  | finish =>
    cases kind <;> obtain rfl := Option.some.inj h
    · exact .of_winding nofun (fun _ => ⟨nofun, nofun⟩) nofun rfl rfl rfl id (Or.inl rfl)
    · exact .of_winding nofun (fun _ => ⟨nofun, nofun⟩) nofun rfl rfl rfl (fun _ => rfl)
        (Or.inl rfl)
    · exact .of_winding nofun (fun _ => ⟨nofun, nofun⟩) nofun rfl rfl rfl id (Or.inl rfl)

theorem TeardownEffect.kept {s s' : Session} {kind : TeardownKind} {point : TeardownPoint}
    {pc : TeardownPc} (h : s.TeardownEffect kind point pc s') (hb : Bounded s.pipeline) :
    PipelineKept s.pipeline s'.pipeline := by
  rcases h.pipeline with hp | hp
  · rw [hp]
    exact hb.refl
  · rw [hp]
    exact pipelineKept_none _

/-- A teardown step brings the render thread no nearer to its wait. -/
theorem TeardownEffect.mayPark {s s' : Session} {kind : TeardownKind} {point : TeardownPoint}
    {pc : TeardownPc} (h : s.TeardownEffect kind point pc s') (hb : Bounded s.pipeline)
    (hp : s'.MayPark) : s.MayPark := by
  apply hp.of_kept (h.kept hb)
  · intro hr
    rwa [← h.render]
  · intro hr
    unfold ReachesWait at hr ⊢
    rwa [← h.render]

/-- A step of the vcm thread outside a teardown and outside Activate. -/
structure VcmQuiet (s s' : Session) : Prop where
  main : s'.main = s.main
  render : s'.render = s.render
  thread : s'.renderThread = s.renderThread
  running : s.renderRunning = false → s'.renderRunning = false
  kept : PipelineKept s.pipeline s'.pipeline
  point : ∀ point kind, s'.vcm = .callback (.at point kind) → point = .start
  winding : s.VcmWinding → s'.VcmWinding

end Session

namespace SessionRun

open Session

/-- The invariant of the runs that tear down safely. -/
structure Safe (r : SessionRun) : Prop where
  bounded : Bounded r.session.pipeline
  noSelf : ¬ r.session.JoinsItself
  stopped : r.session.Joining → r.session.renderRunning = false
  handle : (∃ kind, r.session.main = .at .joinRender kind) →
    r.session.renderThread = true ∨ r.session.VcmWinding
  wakes : r.session.Joining → r.clientStopped = true → ¬ r.session.MayPark

theorem Safe.not_deadlocked {r : SessionRun} (h : r.Safe) : ¬ r.Deadlocked := by
  rintro (hself | ⟨hjoin, ⟨hpc, p, hp, hw⟩, hstop⟩)
  · exact h.noSelf hself
  · exact h.wakes hjoin hstop ⟨p, hp, hw, Or.inl hpc⟩

theorem Safe.render {r r' : SessionRun} {e : RenderEvent} (h : r.Safe)
    (he : sessionRunStep r (.session (.render e)) = some r') : r'.Safe := by
  simp only [sessionRunStep, Session.step, Option.map_map, Option.map_eq_some_iff] at he
  obtain ⟨m, hm, rfl⟩ := he
  have hsafe := renderMove_safe h.bounded hm
  refine ⟨hsafe.bounded, h.noSelf, h.stopped, h.handle, ?_⟩
  intro hjoin hstop hpark
  exact h.wakes hjoin hstop (hsafe.parks (h.stopped hjoin) hpark)

theorem Safe.quiet {r r' : SessionRun} (h : r.Safe) (hq : r.session.VcmQuiet r'.session)
    (hc : r'.clientStopped = r.clientStopped) : r'.Safe := by
  -- the vcm thread begins no join, so a join under way is the main thread's
  have hmain : r'.session.Joining → ∃ kind, r.session.main = .at .joinRender kind := by
    rintro (⟨kind, hj⟩ | ⟨kind, hj⟩)
    · exact ⟨kind, hq.main ▸ hj⟩
    · cases hq.point _ _ hj
  constructor
  case bounded => exact hq.kept.bounded
  case noSelf =>
    rintro ⟨kind, hj⟩
    cases hq.point _ _ hj
  case stopped =>
    intro hjoin
    exact hq.running (h.stopped (Or.inl (hmain hjoin)))
  case handle =>
    rw [hq.main, hq.thread]
    exact fun hj => (h.handle hj).imp_right hq.winding
  case wakes =>
    intro hjoin hstop hpark
    rw [hc] at hstop
    have hpark' : r.session.MayPark := by
      refine hpark.of_kept hq.kept (fun hp => hq.render ▸ hp) fun hr => ?_
      unfold ReachesWait at hr ⊢
      rwa [hq.render] at hr
    exact h.wakes (Or.inl (hmain hjoin)) hstop hpark'

/-- A teardown step of the main thread. -/
theorem Safe.mainStep {r r' : SessionRun} (h : r.Safe)
    (hc : r.TearsDownSafely (.session .mainStep))
    (he : sessionRunStep r (.session .mainStep) = some r') : r'.Safe := by
  simp only [sessionRunStep, Session.step] at he
  split at he
  · cases he
  · next point kind hpc =>
    simp only [Option.map_map, Option.map_eq_some_iff] at he
    obtain ⟨t, ht, rfl⟩ := he
    have hx := teardownStep_effect ht
    have hk := hx.kept h.bounded
    have hpark : ({ t.2.session with main := t.1 } : Session).MayPark → r.session.MayPark :=
      hx.mayPark h.bounded
    have hvcm : (∃ kind', t.2.session.vcm = .callback (.at .joinRender kind')) →
        r.session.Joining := by
      rintro ⟨kind', hj⟩
      exact Or.inr ⟨kind', hx.vcm ▸ hj⟩
    constructor
    case bounded => exact hk.bounded
    case noSelf =>
      rintro ⟨kind', hj⟩
      exact h.noSelf ⟨kind', hx.vcm ▸ hj⟩
    case stopped =>
      rintro (⟨kind', hj⟩ | hj)
      · exact (hx.join kind' hj).2.2.2
      · exact hx.running (h.stopped (hvcm hj))
    case handle =>
      rintro ⟨kind', hj⟩
      obtain ⟨_, hstart, hthread, _⟩ := hx.join kind' hj
      exact Or.inl ((hx.started hstart).trans hthread)
    case wakes =>
      rintro (⟨kind', hj⟩ | hj) hstop hp
      · -- the join begins here, and the client had not stopped
        obtain ⟨_, rfl, hthread, _⟩ := hx.join kind' hj
        simp only [TearsDownSafely, hpc] at hc
        exact absurd (hstop.symm.trans (hc hthread (hpark hp))) nofun
      · exact h.wakes (hvcm hj) hstop (hpark hp)

/-- A teardown step inside a callback of the vcm thread. -/
theorem Safe.callback {r : SessionRun} {point : TeardownPoint} {kind : TeardownKind}
    {t : TeardownPc × SessionResult} (h : r.Safe) (hpc : r.session.vcm = .callback (.at point kind))
    (hc : r.TearsDownSafely (.session (.vcm .step)))
    (ht : r.session.teardownStep kind point = some t) :
    (r.after { t.2 with session := { t.2.session with vcm := .callback t.1 } }).Safe := by
  have hx := teardownStep_effect ht
  have hk := hx.kept h.bounded
  have hpark : ({ t.2.session with vcm := .callback t.1 } : Session).MayPark →
      r.session.MayPark :=
    hx.mayPark h.bounded
  have hmain : (∃ kind', t.2.session.main = .at .joinRender kind') → r.session.Joining := by
    rintro ⟨kind', hj⟩
    exact Or.inl ⟨kind', hx.main ▸ hj⟩
  constructor
  case bounded => exact hk.bounded
  -- the vcm thread reaches its own join only with its handle stored
  case noSelf =>
    rintro ⟨kind', hj⟩
    obtain ⟨rfl, hthread⟩ := hx.joinVcm kind' (VcmPc.callback.inj hj)
    simp only [TearsDownSafely, hpc] at hc
    exact absurd (hc.symm.trans hthread) Bool.false_ne_true
  case stopped =>
    rintro (hj | ⟨kind', hj⟩)
    · exact hx.running (h.stopped (hmain hj))
    · exact (hx.join kind' (VcmPc.callback.inj hj)).2.2.2
  case handle =>
    rintro ⟨kind', hj⟩
    by_cases hstart : point = .start
    · have hbefore := h.handle ⟨kind', hx.main ▸ hj⟩
      simp only [VcmWinding, hpc, hstart, or_false] at hbefore
      exact Or.inl ((hx.started hstart).trans hbefore)
    · -- past the start the callback only winds down
      refine Or.inr ?_
      have hfar := hx.winding hstart
      change ({ t.2.session with vcm := .callback t.1 } : Session).VcmWinding
      unfold VcmWinding
      rcases ht' : t.1 with _ | ⟨_ | _ | _ | _ | _ | _ | _, kind''⟩
      · trivial
      · exact absurd ht' (hfar kind'').1
      · exact absurd ht' (hfar kind'').2
      all_goals trivial
  case wakes =>
    rintro (hj | ⟨kind', hj⟩) hstop hp
    · exact h.wakes (hmain hj) hstop (hpark hp)
    · obtain ⟨_, rfl, hthread, _⟩ := hx.join kind' (VcmPc.callback.inj hj)
      simp only [TearsDownSafely, hpc] at hc
      exact absurd ((hc hthread (hpark hp)).symm.trans hstop) Bool.false_ne_true

end SessionRun

namespace Session

theorem vcmQuiet_of_vcm {s : Session} (hb : Bounded s.pipeline) (pc : VcmPc)
    (hpoint : ∀ point kind, pc = .callback (.at point kind) → point = .start)
    (hw : s.VcmWinding → ({ s with vcm := pc } : Session).VcmWinding) (alive : Bool) :
    s.VcmQuiet { s with vcm := pc, connectionAlive := alive } :=
  ⟨rfl, rfl, rfl, id, hb.refl, hpoint, hw⟩

theorem vcmQuiet_drdynvc {s : Session} (hb : Bounded s.pipeline) (hpc : s.vcm = .channels)
    (ready opened : Bool) (answer : GfxPdu → Bool) (vcmOk : Bool) :
    s.VcmQuiet (s.drdynvc ready opened answer vcmOk).session := by
  have hw : ¬ s.VcmWinding := by simp only [VcmWinding, hpc, not_false_eq_true]
  unfold drdynvc
  cases hp : s.pipeline with
  | none =>
    dsimp only
    repeat' split
    all_goals exact ⟨rfl, rfl, rfl, id, hb.refl, nofun, fun h => absurd h hw⟩
  | some p =>
    have hk := pipelineKept_maybeInit (hb p hp) opened answer
    rw [← hp] at hk
    dsimp only
    repeat' split
    all_goals first
      | exact ⟨rfl, rfl, rfl, id, hk, nofun, fun h => absurd h hw⟩
      | exact ⟨rfl, rfl, rfl, id, hb.refl, nofun, fun h => absurd h hw⟩

end Session

namespace SessionRun

open Session

/-- Activate starts a render thread only where none is joined. -/
theorem Safe.activated {r : SessionRun} (h : r.Safe) (hpc : r.session.vcm = .check)
    (calls : List RuntimeCall) :
    (r.after { session := { r.session.activated with vcm := .channels }, calls := calls }).Safe := by
  have hw : ¬ r.session.VcmWinding := by simp only [VcmWinding, hpc, not_false_eq_true]
  unfold Session.activated
  split
  · exact h.quiet ⟨rfl, rfl, rfl, id, h.bounded.refl, nofun, fun hw' => absurd hw' hw⟩ rfl
  · next hthread =>
    have hnone (hj : ∃ kind, r.session.main = .at .joinRender kind) : False :=
      (h.handle hj).elim hthread hw
    refine ⟨h.bounded, nofun, ?_, ?_, ?_⟩
    · rintro (hj | ⟨_, hj⟩)
      · exact (hnone hj).elim
      · cases hj
    · exact fun hj => (hnone hj).elim
    · rintro (hj | ⟨_, hj⟩)
      · exact (hnone hj).elim
      · cases hj

theorem Safe.activate {r : SessionRun} (h : r.Safe) (hpc : r.session.vcm = .check)
    (resizeOk optionsOk prepareOk : Bool) :
    (r.after (r.session.activate r.runtime resizeOk optionsOk prepareOk)).Safe := by
  have hw : ¬ r.session.VcmWinding := by simp only [VcmWinding, hpc, not_false_eq_true]
  have hreject (calls : List RuntimeCall) :
      (r.after { session := { r.session with vcm := .callback (.at .start .disconnect) },
                 calls := calls }).Safe := by
    refine h.quiet ⟨rfl, rfl, rfl, id, h.bounded.refl, ?_, fun hw' => absurd hw' hw⟩ rfl
    rintro _ _ ⟨⟩
    rfl
  unfold Session.activate
  split
  · exact h.quiet ⟨rfl, rfl, rfl, id, h.bounded.refl, nofun, fun hw' => absurd hw' hw⟩ rfl
  · split
    · exact hreject []
    · split
      · exact h.activated hpc []
      · split
        · exact h.activated hpc _
        · exact hreject _

theorem Safe.vcm {r r' : SessionRun} {e : VcmEvent} (h : r.Safe)
    (hc : r.TearsDownSafely (.session (.vcm e)))
    (he : sessionRunStep r (.session (.vcm e)) = some r') : r'.Safe := by
  have hb := h.bounded
  obtain ⟨res, hres, rfl⟩ := Option.map_eq_some_iff.mp he
  cases vcmStep_move hres with
  | teardown hpc ht => exact h.callback hpc hc ht
  | loop hpc =>
    have hw : ¬ r.session.VcmWinding := by simp only [VcmWinding, hpc, not_false_eq_true]
    refine h.quiet ⟨rfl, rfl, rfl, id, hb.refl, fun _ _ hj => ?_, fun hw' => absurd hw' hw⟩ rfl
    simp only [after] at hj
    split at hj <;> cases hj
  | ending =>
    exact h.quiet ⟨rfl, rfl, rfl, fun _ => rfl, hb.refl, nofun, fun _ => trivial⟩ rfl
  | notify =>
    refine h.quiet ?_ rfl
    rcases r.session.notifyClosed_frame with hs | hs <;> simp only [after, hs] <;>
      exact ⟨rfl, rfl, rfl, id, hb.refl, nofun, fun _ => trivial⟩
  -- all of these go to the end of the loop
  | rejected | noHandles | waitFailed | failed =>
    exact h.quiet (vcmQuiet_of_vcm hb .ending nofun (fun _ => trivial) _) rfl
  | signalled hpc =>
    refine h.quiet (vcmQuiet_of_vcm hb .check nofun (fun hw => ?_) _) rfl
    simp only [VcmWinding, hpc] at hw
  | quiet hpc =>
    refine h.quiet (vcmQuiet_of_vcm hb .channels nofun (fun hw => ?_) _) rfl
    simp only [VcmWinding, hpc] at hw
  | authRejected hpc =>
    refine h.quiet (vcmQuiet_of_vcm hb (.callback (.at .start .disconnect)) ?_ (fun hw => ?_) _) rfl
    · rintro _ _ ⟨⟩
      rfl
    · simp only [VcmWinding, hpc] at hw
  | activate hpc resizeOk optionsOk prepareOk => exact h.activate hpc resizeOk optionsOk prepareOk
  | notJoined hpc =>
    refine h.quiet (vcmQuiet_of_vcm hb .loop nofun (fun hw => ?_) _) rfl
    simp only [VcmWinding, hpc] at hw
  | drdynvc hpc ready opened answer vcmOk =>
    exact h.quiet (vcmQuiet_drdynvc hb hpc ready opened answer vcmOk) rfl

/-- The joins and the places of the threads are as they were. -/
theorem Safe.of_frame {r r' : SessionRun} (h : r.Safe) (hmain : r'.session.main = r.session.main)
    (hvcm : r'.session.vcm = r.session.vcm)
    (hrunning : r'.session.renderRunning = r.session.renderRunning)
    (hthread : r'.session.renderThread = r.session.renderThread)
    (hb : Bounded r'.session.pipeline)
    (hpark : r'.clientStopped = true → r.session.Joining → r'.session.MayPark →
      r.clientStopped = true ∧ r.session.MayPark) : r'.Safe := by
  have hjoin : r'.session.Joining → r.session.Joining := by
    unfold Joining
    rw [hmain, hvcm]
    exact id
  constructor
  case bounded => exact hb
  case noSelf =>
    unfold JoinsItself
    rw [hvcm]
    exact h.noSelf
  case stopped =>
    intro hj
    rw [hrunning]
    exact h.stopped (hjoin hj)
  case handle =>
    unfold VcmWinding
    rw [hmain, hvcm, hthread]
    exact h.handle
  case wakes =>
    intro hj hstop hp
    obtain ⟨hstop', hp'⟩ := hpark hstop (hjoin hj) hp
    exact h.wakes (hjoin hj) hstop' hp'

theorem safe_inductive : sessionRun.Inductive TearsDownSafely Safe where
  init := by
    rintro _ ⟨passiveMode, size, runtime, rfl⟩
    refine ⟨?_, nofun, ?_, nofun, ?_⟩
    · cases size with
      | none => exact nofun
      | some size => exact fun p hp => Option.some.inj hp ▸ rfl
    · rintro (⟨_, hj⟩ | ⟨_, hj⟩) <;> cases hj
    · rintro (⟨_, hj⟩ | ⟨_, hj⟩) <;> cases hj
  step := by
    intro r e r' h hc he
    change sessionRunStep r e = some r' at he
    cases e with
    | runtimeChange runtime =>
      obtain rfl := Option.some.inj he
      exact ⟨h.bounded, h.noSelf, h.stopped, h.handle, h.wakes⟩
    | clientStops =>
      obtain rfl := Option.some.inj he
      exact ⟨h.bounded, h.noSelf, h.stopped, h.handle, fun hj _ => hc hj⟩
    | session e =>
      cases e with
      | render e => exact h.render he
      | vcm e => exact h.vcm hc he
      | mainStep => exact h.mainStep hc he
      | vcmThreadStored =>
        simp only [sessionRunStep, Session.step] at he
        split at he
        · cases he
        · obtain rfl := Option.some.inj he
          exact h.of_frame rfl rfl rfl rfl h.bounded fun hs _ hp => ⟨hs, hp⟩
      | closedCallbackSet =>
        simp only [sessionRunStep, Session.step] at he
        split at he
        · cases he
        · split at he
          · obtain rfl := Option.some.inj he
            exact h.of_frame rfl rfl rfl rfl h.bounded fun hs _ hp => ⟨hs, hp⟩
          · obtain rfl := Option.some.inj he
            rcases notifyClosed_frame { r.session with closedCb := true } with hs | hs <;>
              simp only [after, hs] <;>
              exact h.of_frame rfl rfl rfl rfl h.bounded fun hs _ hp => ⟨hs, hp⟩
      | beginTeardown kind =>
        simp only [sessionRunStep, Session.step] at he
        split at he
        · obtain rfl := Option.some.inj he
          -- a teardown that begins has not reached its join
          have hmain : ¬ ∃ kind', TeardownPc.at .start kind = .at .joinRender kind' := nofun
          refine ⟨h.bounded, h.noSelf, ?_, fun hj => absurd hj hmain, ?_⟩
          · exact fun hj => h.stopped (hj.elim (fun hj' => absurd hj' hmain) Or.inr)
          · exact fun hj => h.wakes (hj.elim (fun hj' => absurd hj' hmain) Or.inr)
        · cases he
      | capsConfirm =>
        obtain rfl := Option.some.inj he
        refine h.of_frame rfl rfl rfl rfl (bounded_map h.bounded _ fun _ => rfl) ?_
        -- a confirmation moves no thread, and leaves the frames out as they are
        rintro hs _ ⟨p', hp', hw, hpos⟩
        obtain ⟨p, hp, rfl⟩ := Option.map_eq_some_iff.mp hp'
        exact ⟨hs, p, hp, hw, hpos⟩
      | frameAck queueDepth =>
        simp only [sessionRunStep] at he
        split at he
        · cases he
        · next hgoing =>
          obtain rfl := Option.some.inj he
          refine h.of_frame rfl rfl rfl rfl (bounded_map h.bounded _ fun p => ?_)
            fun hs => absurd hs hgoing
          unfold GraphicsPipeline.frameAck
          split <;> rfl

end SessionRun

/-- A run that tears down safely reaches no deadlock. -/
theorem not_deadlocked_of_tearsDownSafely (r : SessionRun)
    (hr : sessionRun.ReachableIf SessionRun.TearsDownSafely r) : ¬ r.Deadlocked :=
  (SessionRun.safe_inductive.holds hr).not_deadlocked

/-- A session that the listener is about to start. -/
def SessionRun.fresh : SessionRun where
  session := drdRdpSessionNew false (some (1920, 1080))

theorem SessionRun.fresh_init : sessionRun.init .fresh :=
  ⟨false, some (1920, 1080), {}, rfl⟩

/-- The listener stores the vcm thread and takes the session over. -/
def sessionAccepted : List SessionRunEvent :=
  [.session .vcmThreadStored, .session .closedCallbackSet]

/-- The vcm thread activates the session and opens the graphics channel. -/
def sessionActivated : List SessionRunEvent :=
  [.session (.vcm .step), .session (.vcm .signalled),
    .session (.vcm (.checked (.activate true true true))), .session .capsConfirm,
    .session (.vcm (.drdynvc true true (fun _ => true) true))]

/-- The render thread sends a frame, from the test of its loop on. -/
def sessionSendsFrame : List SessionRunEvent :=
  [.session (.render .step), .session (.render .step), .session (.render .step),
    .session (.render .step), .session (.render (.canSubmit false)), .session (.render .step),
    .session (.render (.returned (.sent false))), .session (.render .step),
    .session (.render .step), .session (.render .step)]

/-- The render thread goes from the test of its loop into the wait. -/
def sessionParks : List SessionRunEvent :=
  [.session (.render .step), .session (.render .step), .session (.render .step),
    .session (.render .step)]

def sessionCongested : List SessionRunEvent :=
  sessionAccepted ++ sessionActivated ++ sessionSendsFrame ++ sessionSendsFrame ++
    sessionSendsFrame ++ sessionParks

/-- A congested session is torn down while the client still acknowledges. -/
def sessionTornDown : List SessionRunEvent :=
  sessionCongested ++
    [.session (.beginTeardown .disconnect), .session .mainStep, .session (.frameAck 1),
      .session (.render .step)]

theorem not_deadlocked_torn_down :
    ¬ ((sessionRun.run .fresh sessionTornDown).get rfl).Deadlocked :=
  not_deadlocked_of_tearsDownSafely _ (.run_get SessionRun.fresh_init _ (by decide) rfl)

/-- A failed activation makes the vcm thread join itself, and a disconnect joins
a parked render thread whose client has gone. -/
theorem session_teardown_deadlocks :
    (∃ r, sessionRun.Reachable r ∧ r.session.JoinsItself) ∧
      ∃ r, sessionRun.Reachable r ∧ r.Deadlocked ∧ r.session.Parked := by
  refine ⟨⟨_, EventMachine.reachable_run_get SessionRun.fresh_init
    (sessionAccepted ++ [.session (.vcm .step), .session (.vcm .signalled),
      .session (.vcm (.checked (.activate false true true))), .session (.vcm .step),
      .session (.vcm .step)]) rfl, .disconnect, rfl⟩, ?_⟩
  refine ⟨_, EventMachine.reachable_run_get SessionRun.fresh_init
    (sessionCongested ++ [.clientStops, .session (.beginTeardown .disconnect),
      .session .mainStep]) rfl, ?_, rfl, _, rfl, rfl⟩
  exact Or.inr ⟨Or.inl ⟨.disconnect, rfl⟩, ⟨rfl, _, rfl, rfl⟩, rfl⟩

end RemoteDesktop.DRD
