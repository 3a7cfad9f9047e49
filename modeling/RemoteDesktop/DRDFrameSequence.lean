import RemoteDesktop.DRDSessionTeardown

/-! `frame_sequence` of `drd_rdp_session.c`: the id that the render thread gives to a frame, and the
ids that a client has seen, over all runs of a session. -/
namespace RemoteDesktop.DRD

/-- The next id. Zero is passed over when the counter wraps around. -/
def nextFrameSequence (frameSequence : UInt32) : UInt32 :=
  if frameSequence + 1 = 0 then 1 else frameSequence + 1

/-- How many ids there are. -/
def frameIds : ℕ := 2 ^ 32 - 1

/-- The passes of the loop that reach its end, and the frames that were sent with their pass and
their id, the newest first. -/
structure FrameRun where
  session : Session
  frameSequence : UInt32 := 1
  passes : ℕ := 0
  frames : List (ℕ × UInt32) := []

namespace FrameRun

variable (s : FrameRun)

/-- A call that sends a frame was given the id of its pass. -/
def sends : SessionEvent → List (ℕ × UInt32)
  | .render (.returned (.sent _)) => [(s.passes, s.frameSequence)]
  | _ => []

/-- The end of a pass. -/
def finishes : SessionEvent → Bool
  | .render .step => s.session.render = .finish
  | _ => false

def step (rt : ServerRuntime) (e : SessionEvent) : Option FrameRun :=
  (s.session.step rt e).map fun r =>
    { session := r.session
      frameSequence := if s.finishes e then nextFrameSequence s.frameSequence else s.frameSequence
      passes := if s.finishes e then s.passes + 1 else s.passes
      frames := s.sends e ++ s.frames }

end FrameRun

/-- The runs of a session. What the sessions share may be anything at each step. -/
def frameMachine : EventMachine FrameRun (ServerRuntime × SessionEvent) where
  init s := ∃ passiveMode size, s = { session := drdRdpSessionNew passiveMode size }
  step s e := s.step e.1 e.2

theorem nextFrameSequence_toNat {frameSequence : UInt32} {passes : ℕ}
    (h : frameSequence.toNat = passes % frameIds + 1) :
    (nextFrameSequence frameSequence).toNat = (passes + 1) % frameIds + 1 := by
  have hlt := frameSequence.toNat_lt
  have hadd : (frameSequence + 1).toNat = (frameSequence.toNat + 1) % 2 ^ 32 := UInt32.toNat_add _ _
  have hpasses : (passes + 1) % frameIds = frameSequence.toNat % frameIds := by
    rw [h]
    exact (Nat.mod_add_mod passes frameIds 1).symm
  rw [hpasses]
  unfold nextFrameSequence frameIds at *
  split_ifs with hwrap
  · have hzero : (frameSequence + 1).toNat = 0 := by rw [hwrap]; rfl
    rw [show (1 : UInt32).toNat = 1 from rfl]
    omega
  · have hne : (frameSequence + 1).toNat ≠ 0 := by
      intro hzero
      exact hwrap (UInt32.toNat_inj.mp hzero)
    omega

/-! The place of the render thread. -/

namespace Session

variable {s : Session} {rt : ServerRuntime} {res : SessionResult}

/-- The frame of the pass is sent, and the pass is not over. -/
def PastCall : RenderPc → Prop
  | .count _ | .mode _ | .finish => True
  | _ => False

/-- Without a handle there is no render thread that runs. -/
def HandleKept (s : Session) : Prop :=
  s.renderThread = false → s.render = .notStarted ∨ s.render = .exited

/-- From there a pass goes on to its end. -/
theorem renderMove_pastCall {transport : FrameTransport} {e : RenderEvent} {m : RenderMove}
    (hm : s.renderMove transport e = some m) (h : PastCall s.render) :
    PastCall m.pc ∨ s.render = .finish ∧ e = .step := by
  cases hpc : s.render with
  | count h264 =>
    cases e <;> simp only [renderMove, hpc, reduceCtorEq] at hm
    left
    cases hm
    simp [renderCall, hpc, goto, PastCall]
  | mode h264 =>
    cases e <;> simp only [renderMove, hpc, reduceCtorEq] at hm
    left
    cases hm
    simp [renderCall, hpc, goto, PastCall]
  | finish =>
    cases e <;> simp only [renderMove, hpc, reduceCtorEq] at hm
    exact .inr ⟨rfl, rfl⟩
  | notStarted | top | transport | recover | adopt | wait | parked | submit | call | inCall
  | disable | exited =>
    rw [hpc] at h
    exact absurd h id

/-- The frame of a pass is sent once. -/
theorem renderMove_sent {transport : FrameTransport} {h264 : Bool} {m : RenderMove}
    (hm : s.renderMove transport (.returned (.sent h264)) = some m) :
    ¬ PastCall s.render ∧ PastCall m.pc := by
  simp only [renderMove] at hm
  split at hm
  · next kind hpc =>
    refine ⟨by simp [hpc, PastCall], ?_⟩
    cases kind <;> cases hm <;> trivial
  · cases hm

/-- A thread that runs has a place other than these two. -/
theorem renderMove_started {transport : FrameTransport} {e : RenderEvent} {m : RenderMove}
    (hm : s.renderMove transport e = some m) : s.render ≠ .notStarted ∧ s.render ≠ .exited := by
  constructor
  · intro hpc
    cases e <;> simp [renderMove, hpc] at hm
  · intro hpc
    cases e <;> simp [renderMove, hpc] at hm

theorem teardownStep_handle {kind : TeardownKind} {point : TeardownPoint}
    {r : TeardownPc × SessionResult} (h : s.teardownStep kind point = some r)
    (hkept : s.HandleKept) : r.2.session.HandleKept := by
  have heffect := teardownStep_effect h
  intro hgone
  rw [heffect.render]
  cases point with
  | joinRender =>
    simp only [teardownStep, Option.ite_none_right_eq_some] at h
    exact .inr h.1
  | start =>
    apply hkept
    rw [← heffect.started rfl]
    exact hgone
  | alive =>
    cases h
    exact hkept hgone
  | joinVcm =>
    simp only [teardownStep, Option.ite_none_right_eq_some] at h
    obtain ⟨_, h⟩ := h
    cases h
    exact hkept hgone
  | notify =>
    cases h
    apply hkept
    rcases s.notifyClosed_frame with hs | hs
    · simpa [hs] using hgone
    · simpa [hs] using hgone
  | disable =>
    cases h
    apply hkept
    rcases s.disableGraphicsPipeline_frame with hs | hs
    · simpa [hs] using hgone
    · simpa [hs] using hgone
  | finish =>
    cases kind <;> cases h <;> exact hkept hgone

/-- A step that is not of the render thread leaves its place, or it starts the thread. -/
structure KeepsRender (s s' : Session) : Prop where
  place : s'.render = s.render ∨ s.render = .notStarted ∨ s.render = .exited
  handle : s'.HandleKept

theorem keepsRender_of_frame {s' : Session} (hkept : s.HandleKept) (hrender : s'.render = s.render)
    (hthread : s'.renderThread = s.renderThread) : s.KeepsRender s' := by
  refine ⟨.inl hrender, ?_⟩
  intro hgone
  rw [hrender]
  exact hkept (hthread.symm.trans hgone)

theorem keepsRender_activated (hkept : s.HandleKept) : s.KeepsRender s.activated := by
  unfold activated
  split_ifs with hthread
  · exact keepsRender_of_frame hkept rfl rfl
  · refine ⟨.inr (hkept (by simpa using hthread)), ?_⟩
    intro hgone
    cases hgone

theorem keepsRender_vcmStep {e : VcmEvent} (hkept : s.HandleKept)
    (h : s.vcmStep rt e = some res) : s.KeepsRender res.session := by
  cases vcmStep_move h with
  | loop | rejected | ending | noHandles | waitFailed | signalled | failed | quiet | authRejected
  | notJoined => exact keepsRender_of_frame hkept rfl rfl
  | teardown hpc hr =>
    exact ⟨.inl (teardownStep_effect hr).render, teardownStep_handle hr hkept⟩
  | notify hpc =>
    rcases s.notifyClosed_frame with hs | hs
    · exact keepsRender_of_frame hkept (by rw [hs]) (by rw [hs])
    · exact keepsRender_of_frame hkept (by rw [hs]) (by rw [hs])
  | activate hpc resizeOk optionsOk prepareOk =>
    have hactivated := keepsRender_activated hkept
    unfold Session.activate
    split_ifs
    · exact keepsRender_of_frame hkept rfl rfl
    · exact keepsRender_of_frame hkept rfl rfl
    · exact ⟨hactivated.place, hactivated.handle⟩
    · exact ⟨hactivated.place, hactivated.handle⟩
    · exact keepsRender_of_frame hkept rfl rfl
  | drdynvc hpc ready opened answer vcmOk =>
    unfold Session.drdynvc
    dsimp only
    split
    · split_ifs <;> exact keepsRender_of_frame hkept rfl rfl
    · split_ifs <;> exact keepsRender_of_frame hkept rfl rfl

theorem keepsRender_step {e : SessionEvent} (hkept : s.HandleKept) (h : s.step rt e = some res)
    (hother : ∀ e', e ≠ .render e') : s.KeepsRender res.session := by
  cases e with
  | render e => exact absurd rfl (hother e)
  | vcm e => exact keepsRender_vcmStep hkept h
  | vcmThreadStored =>
    simp only [step, Option.ite_none_left_eq_some] at h
    obtain ⟨_, h⟩ := h
    cases h
    exact keepsRender_of_frame hkept rfl rfl
  | closedCallbackSet =>
    simp only [step, Option.ite_none_left_eq_some] at h
    obtain ⟨_, h⟩ := h
    split_ifs at h
    · cases h
      exact keepsRender_of_frame hkept rfl rfl
    · cases h
      rcases notifyClosed_frame { s with closedCb := true } with hs | hs
      · exact keepsRender_of_frame hkept (by rw [hs]) (by rw [hs])
      · exact keepsRender_of_frame hkept (by rw [hs]) (by rw [hs])
  | beginTeardown kind =>
    simp only [step, Option.ite_none_right_eq_some] at h
    obtain ⟨_, h⟩ := h
    cases h
    exact keepsRender_of_frame hkept rfl rfl
  | mainStep =>
    simp only [step] at h
    split at h
    · cases h
    · obtain ⟨r, hr, rfl⟩ := Option.map_eq_some_iff.mp h
      exact ⟨.inl (teardownStep_effect hr).render, teardownStep_handle hr hkept⟩
  | capsConfirm | frameAck =>
    cases h
    exact keepsRender_of_frame hkept rfl rfl

end Session

namespace FrameRun

variable {s t : FrameRun}

/-- The frames are numbered by their passes. -/
structure Numbered (s : FrameRun) : Prop where
  handle : s.session.HandleKept
  sequence : s.frameSequence.toNat = s.passes % frameIds + 1
  ids : ∀ frame ∈ s.frames, frame.2.toNat = frame.1 % frameIds + 1
  passed : ∀ frame ∈ s.frames,
    frame.1 < s.passes ∨ frame.1 = s.passes ∧ Session.PastCall s.session.render
  ordered : s.frames.Pairwise fun newer older => older.1 < newer.1

/-- A step that neither sends a frame nor ends a pass. -/
theorem Numbered.of_quiet (h : s.Numbered) {session : Session} (hhandle : session.HandleKept)
    (hpast : Session.PastCall s.session.render → Session.PastCall session.render) :
    ({ s with session := session } : FrameRun).Numbered where
  handle := hhandle
  sequence := h.sequence
  ids := h.ids
  passed := by
    intro frame hframe
    exact (h.passed frame hframe).imp_right fun hlast => ⟨hlast.1, hpast hlast.2⟩
  ordered := h.ordered

/-- The end of a pass. -/
theorem Numbered.finished (h : s.Numbered) {session : Session} (hhandle : session.HandleKept) :
    ({ session := session, frameSequence := nextFrameSequence s.frameSequence,
       passes := s.passes + 1, frames := s.frames } : FrameRun).Numbered where
  handle := hhandle
  sequence := nextFrameSequence_toNat h.sequence
  ids := h.ids
  passed := by
    intro frame hframe
    left
    obtain hlt | ⟨heq, _⟩ := h.passed frame hframe
    · exact hlt.trans (Nat.lt_succ_self _)
    · exact heq ▸ Nat.lt_succ_self _
  ordered := h.ordered

/-- A frame is sent. Whatever was sent before belongs to an earlier pass. -/
theorem Numbered.sent (h : s.Numbered) {session : Session} (hhandle : session.HandleKept)
    (hbefore : ¬ Session.PastCall s.session.render) (hafter : Session.PastCall session.render) :
    ({ s with session := session, frames := (s.passes, s.frameSequence) :: s.frames } :
      FrameRun).Numbered where
  handle := hhandle
  sequence := h.sequence
  ids := by
    intro frame hframe
    obtain rfl | hold := List.mem_cons.mp hframe
    · exact h.sequence
    · exact h.ids frame hold
  passed := by
    intro frame hframe
    obtain rfl | hold := List.mem_cons.mp hframe
    · exact .inr ⟨rfl, hafter⟩
    · left
      obtain hlt | ⟨_, hpast⟩ := h.passed frame hold
      · exact hlt
      · exact absurd hpast hbefore
  ordered := by
    refine List.pairwise_cons.mpr ⟨?_, h.ordered⟩
    intro frame hold
    obtain hlt | ⟨_, hpast⟩ := h.passed frame hold
    · exact hlt
    · exact absurd hpast hbefore

theorem Numbered.render (h : s.Numbered) {rt : ServerRuntime} {e : RenderEvent}
    (he : s.step rt (.render e) = some t) : t.Numbered := by
  obtain ⟨r, hr, rfl⟩ := Option.map_eq_some_iff.mp he
  obtain ⟨m, hm, rfl⟩ := Option.map_eq_some_iff.mp hr
  obtain ⟨hstarted, hrunning⟩ := Session.renderMove_started hm
  have hhandle : (s.session.afterMove m).session.HandleKept := by
    intro hgone
    obtain hno | hno := h.handle hgone
    · exact absurd hno hstarted
    · exact absurd hno hrunning
  by_cases hfinish : s.session.render = .finish ∧ e = .step
  · obtain ⟨hpc, rfl⟩ := hfinish
    have hends : s.finishes (.render .step) = true := by simp [finishes, hpc]
    simp only [hends, if_true, sends, List.nil_append]
    exact h.finished hhandle
  · have hgoes : s.finishes (.render e) = false := by
      cases e with
      | step => simpa [finishes] using hfinish
      | recovered | canSubmit | returned | notSupported => rfl
    simp only [hgoes, Bool.false_eq_true, if_false]
    by_cases hsent : ∃ h264, e = .returned (.sent h264)
    · obtain ⟨h264, rfl⟩ := hsent
      obtain ⟨hbefore, hafter⟩ := Session.renderMove_sent hm
      exact h.sent hhandle hbefore hafter
    · have hnone : s.sends (.render e) = [] := by
        cases e with
        | returned outcome =>
          cases outcome with
          | sent h264 => exact absurd ⟨h264, rfl⟩ hsent
          | unsent | failed => rfl
        | step | recovered | canSubmit | notSupported => rfl
      simp only [hnone, List.nil_append]
      exact h.of_quiet hhandle fun hpast =>
        (Session.renderMove_pastCall hm hpast).resolve_right hfinish

theorem Numbered.step (h : s.Numbered) {rt : ServerRuntime} {e : SessionEvent}
    (he : s.step rt e = some t) : t.Numbered := by
  by_cases hrender : ∃ e', e = .render e'
  · obtain ⟨e', rfl⟩ := hrender
    exact h.render he
  · obtain ⟨r, hr, rfl⟩ := Option.map_eq_some_iff.mp he
    have hkeeps := Session.keepsRender_step h.handle hr fun e' heq => hrender ⟨e', heq⟩
    have hquiet : s.finishes e = false ∧ s.sends e = [] := by
      cases e with
      | render e => exact absurd ⟨e, rfl⟩ hrender
      | vcm | vcmThreadStored | closedCallbackSet | beginTeardown | mainStep | capsConfirm
      | frameAck => exact ⟨rfl, rfl⟩
    simp only [hquiet.1, hquiet.2, Bool.false_eq_true, if_false, List.nil_append]
    apply h.of_quiet hkeeps.handle
    intro hpast
    obtain hsame | hstopped | hstopped := hkeeps.place
    · rwa [hsame]
    · rw [hstopped] at hpast
      exact absurd hpast id
    · rw [hstopped] at hpast
      exact absurd hpast id

theorem numbered_inductive : frameMachine.Inductive (fun _ _ => True) Numbered where
  init s hs := by
    obtain ⟨passiveMode, size, rfl⟩ := hs
    exact ⟨fun _ => .inl rfl, rfl, by simp, by simp, .nil⟩
  step s e t h _ he := h.step he

end FrameRun

/-- No frame is sent under the id zero, and two frames share an id only when at least as many
passes of the render loop lie between them as there are ids, whatever the other threads do. -/
theorem frame_ids_distinct (s : FrameRun) (hs : frameMachine.Reachable s) :
    (∀ frame ∈ s.frames, frame.2 ≠ 0) ∧
      s.frames.Pairwise fun newer older => older.1 < newer.1 ∧
        (newer.2 = older.2 → frameIds ≤ newer.1 - older.1) := by
  have h : s.Numbered := FrameRun.numbered_inductive.holds hs
  constructor
  · intro frame hframe hzero
    have hid := h.ids frame hframe
    rw [hzero] at hid
    cases hid
  · refine h.ordered.imp_of_mem ?_
    intro newer older hnewer holder hlt
    refine ⟨hlt, ?_⟩
    intro hsame
    have hids : newer.1 % frameIds = older.1 % frameIds := by
      have hnew := h.ids newer hnewer
      have hold := h.ids older holder
      rw [hsame] at hnew
      omega
    exact Nat.le_of_dvd (by omega) ((Nat.modEq_iff_dvd' hlt.le).mp hids.symm)

/-- The render thread comes into a call. -/
def frameCall : List SessionEvent :=
  [.render .step, .render .step, .render .step, .render .step, .render (.canSubmit false),
    .render .step]

/-- A session is activated and sends two frames, with a pass between them that sends nothing. -/
def twoFrames : List SessionEvent :=
  [.vcmThreadStored, .closedCallbackSet, .vcm .step, .vcm .signalled,
    .vcm (.checked (.activate true true true)), .capsConfirm,
    .vcm (.drdynvc true true (fun _ => true) true)] ++
  frameCall ++ [.render (.returned (.sent false)), .render .step, .render .step, .render .step] ++
  frameCall ++ [.render (.returned .unsent), .render .step, .render .step, .render .step] ++
  frameCall ++ [.render (.returned (.sent true))]

def twoFramesRun : FrameRun :=
  (frameMachine.run { session := drdRdpSessionNew false (some (1920, 1080)) }
    (twoFrames.map fun e => ({}, e))).get rfl

theorem frame_ids_distinct_two :
    twoFramesRun.frames = [(2, 3), (0, 1)] ∧ ∀ frame ∈ twoFramesRun.frames, frame.2 ≠ 0 := by
  have hinit : frameMachine.init { session := drdRdpSessionNew false (some (1920, 1080)) } :=
    ⟨false, some (1920, 1080), rfl⟩
  exact ⟨by decide +kernel,
    (frame_ids_distinct _ (EventMachine.reachable_run_get hinit _ rfl)).1⟩

end RemoteDesktop.DRD
