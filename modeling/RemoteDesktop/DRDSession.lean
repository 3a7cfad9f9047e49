import RemoteDesktop.DRDBackpressure

/-! The threads of `drd_rdp_session.c`: the render thread, the vcm thread with
the FreeRDP callbacks that run on it, and the teardown that the main thread or a
callback may start. A step is one call, or one access to what threads share. -/
namespace RemoteDesktop.DRD

inductive FrameTransport
  | surfaceBits
  | graphicsPipeline
  deriving DecidableEq, Repr

/-- What sessions share of `drd_server_runtime.c`. -/
structure ServerRuntime where
  streamRunning : Bool := false
  transport : FrameTransport := .graphicsPipeline
  deriving DecidableEq, Repr

inductive PullKind
  | cached
  | gfx
  | bits
  deriving DecidableEq, Repr

/-- A `pull` stands for the beginning of the call. -/
inductive RuntimeCall
  | pull (kind : PullKind)
  | setTransport (transport : FrameTransport)
  | prepareStream (ok : Bool)
  | requestKeyframe
  deriving DecidableEq, Repr

def ServerRuntime.apply (rt : ServerRuntime) : RuntimeCall → ServerRuntime
  | .setTransport transport => { rt with transport := transport }
  | .prepareStream ok =>
    if rt.streamRunning then rt
    else { streamRunning := ok, transport := .graphicsPipeline }
  | .pull _ | .requestKeyframe => rt

/-- The next call of `drd_rdp_session_render_thread`. In `recover` the argument
says whether SurfaceBits turned out to be unsupported. -/
inductive RenderPc
  | notStarted
  | top
  | transport
  | recover (surfaceBits : Bool)
  | adopt
  | wait
  | parked
  | submit
  | call (kind : PullKind)
  | inCall (kind : PullKind)
  | count (h264 : Bool)
  | mode (h264 : Bool)
  | disable
  | finish
  | exited
  deriving DecidableEq, Repr

inductive TeardownKind
  | stop
  | disconnect
  | dispose
  deriving DecidableEq, Repr

/-- The places of `stop_event_thread`, and after `notify` those of its callers. -/
inductive TeardownPoint
  | start
  | joinRender
  | alive
  | joinVcm
  | notify
  | disable
  | finish
  deriving DecidableEq, Repr

inductive TeardownPc
  | idle
  | at (point : TeardownPoint) (kind : TeardownKind)
  deriving DecidableEq, Repr

inductive VcmPc
  | loop
  | wait
  | check
  | callback (teardown : TeardownPc)
  | channels
  | ending
  | notify
  | exited
  deriving DecidableEq, Repr

/-- The two handles are `render_thread` and `vcm_thread`, true when not NULL.
`closedCb` is set once the listener has taken the session over. -/
structure Session where
  passiveMode : Bool := false
  connectionAlive : Bool := true
  renderRunning : Bool := false
  isActivated : Bool := false
  pipeline : Option GraphicsPipeline := none
  pipelineReady : Bool := false
  renderThread : Bool := false
  vcmThread : Bool := false
  closedCb : Bool := false
  closedCbInvoked : Bool := false
  peer : Bool := true
  render : RenderPc := .notStarted
  vcm : VcmPc := .loop
  main : TeardownPc := .idle
  deriving DecidableEq, Repr

/-- What a step did: `closed` is a call of `drd_rdp_listener_session_closed`. -/
structure SessionResult where
  session : Session
  calls : List RuntimeCall := []
  closed : Bool := false

/-- The oracle answers of the render thread's calls. -/
inductive RenderEvent
  | step
  | recovered (created : Option (UInt16 × UInt16)) (opened : Bool) (answer : GfxPdu → Bool)
  | canSubmit (refreshDue : Bool)
  | returned (outcome : EncodeOutcome)
  | notSupported

/-- How `peer->CheckFileDescriptor` ends. It may run PostConnect or Activate. -/
inductive PeerCheck
  | failed
  | quiet
  | authRejected
  | activate (resizeOk optionsOk prepareOk : Bool)
  deriving DecidableEq, Repr

inductive VcmEvent
  | step
  | noHandles
  | waitFailed
  | signalled
  | checked (check : PeerCheck)
  | notJoined
  | drdynvc (ready opened : Bool) (answer : GfxPdu → Bool) (vcmOk : Bool)

inductive SessionEvent
  | render (e : RenderEvent)
  | vcm (e : VcmEvent)
  | vcmThreadStored
  | closedCallbackSet
  | beginTeardown (kind : TeardownKind)
  | mainStep
  | capsConfirm
  | frameAck (queueDepth : UInt32)

namespace Session

variable (s : Session)

/-- A render step writes its own place, `graphics_pipeline` and
`graphics_pipeline_ready`, and nothing else. -/
structure RenderMove where
  pc : RenderPc
  pipeline : Option GraphicsPipeline
  ready : Bool
  calls : List RuntimeCall := []

def goto (pc : RenderPc) : RenderMove :=
  { pc := pc, pipeline := s.pipeline, ready := s.pipelineReady }

def waitMove (p : GraphicsPipeline) : CapacityWait → RenderMove
  | .blocks => { s.goto .parked with pipeline := some { p with capacityCond := false } }
  | .returns true => s.goto .submit
  | .returns false => s.goto .disable

/-- `drd_rdp_session_maybe_init_graphics` and `maybe_init` of its result. -/
def recoverMove (surfaceBits : Bool) (created : Option (UInt16 × UInt16)) (opened : Bool)
    (answer : GfxPdu → Bool) : RenderMove :=
  let pc := if surfaceBits then RenderPc.top else .adopt
  let pipeline := s.pipeline <|> created.map fun size => drdRdpGraphicsPipelineNew size.1 size.2
  match pipeline with
  | none => s.goto pc
  | some p =>
    { s.goto pc with
      pipeline := some (p.maybeInit opened answer).2
      ready := if s.pipeline.isNone then false else s.pipelineReady
      calls :=
        if (p.channelOpened || opened) && p.capsConfirmed then [.setTransport .graphicsPipeline]
        else [] }

/-- `drd_rdp_session_disable_graphics_pipeline`. -/
def disableGraphicsPipeline : Session × List RuntimeCall :=
  match s.pipeline with
  | none => (s, [])
  | some _ => ({ s with pipeline := none, pipelineReady := false }, [.setTransport .surfaceBits])

def renderCall : RenderMove :=
  match s.render with
  | .top =>
    s.goto (if !s.renderRunning || !s.connectionAlive then .exited
      else if s.isActivated then .transport else .top)
  | .adopt =>
    if !s.pipelineReady && s.pipeline.any (·.surfaceReady) then
      { s.goto .wait with ready := true, calls := [.setTransport .graphicsPipeline] }
    else s.goto (if s.pipelineReady then .wait else .finish)
  | .wait =>
    match s.pipeline with
    | some p => if s.pipelineReady then s.waitMove p p.waitForCapacity else s.goto .disable
    | none => s.goto .disable
  | .parked =>
    match s.pipeline with
    | some p => s.waitMove p p.capacityLoop
    | none => s.goto .disable
  | .call kind => { s.goto (.inCall kind) with calls := [.pull kind] }
  | .count h264 =>
    { s.goto (.mode h264) with pipeline := s.pipeline.map (·.outFrameChange true) }
  | .mode h264 =>
    { s.goto .finish with pipeline := s.pipeline.map (·.setLastFrameMode h264) }
  | .finish => s.goto .top
  | .disable =>
    { pc := .top
      pipeline := s.disableGraphicsPipeline.1.pipeline
      ready := s.disableGraphicsPipeline.1.pipelineReady
      calls := s.disableGraphicsPipeline.2 }
  | pc => s.goto pc

def renderMove (transport : FrameTransport) : RenderEvent → Option RenderMove
  | .step =>
    match s.render with
    | .transport =>
      match transport with
      | .graphicsPipeline =>
        some (s.goto (if s.pipeline.isNone then .recover false else .adopt))
      | .surfaceBits => some (s.goto (.call .bits))
    | .notStarted | .exited | .recover _ | .submit | .inCall _ => none
    | _ => some s.renderCall
  | .recovered created opened answer =>
    match s.render with
    | .recover surfaceBits => some (s.recoverMove surfaceBits created opened answer)
    | _ => none
  | .canSubmit refreshDue =>
    match s.render with
    | .submit =>
      some (s.goto (if s.pipeline.any (·.canSubmit) then
        .call (if refreshDue then .cached else .gfx) else .disable))
    | _ => none
  | .returned outcome =>
    match s.render with
    | .inCall kind =>
      match kind, outcome with
      | .bits, .failed | .gfx, .failed => some (s.goto .top)
      | .cached, .failed => some (s.goto (.call .gfx))
      | .bits, _ => some (s.goto .finish)
      | _, .sent h264 => some (s.goto (.count h264))
      | _, .unsent => some (s.goto (.count false))
    | _ => none
  | .notSupported =>
    match s.render with
    | .inCall .bits => some (s.goto (if s.pipeline.isNone then .recover true else .top))
    | _ => none

def afterMove (m : RenderMove) : SessionResult :=
  { session := { s with render := m.pc, pipeline := m.pipeline, pipelineReady := m.ready }
    calls := m.calls }

/-- `drd_rdp_session_notify_closed`. -/
def notifyClosed : Session × Bool :=
  if s.closedCb && !s.closedCbInvoked then ({ s with closedCbInvoked := true }, true)
  else (s, false)

/-- One step of a teardown, on whichever thread runs it. A join is a step that
waits for the thread to have exited. -/
def teardownStep (kind : TeardownKind) : TeardownPoint → Option (TeardownPc × SessionResult)
  | .start =>
    if s.renderThread then
      some (.at .joinRender kind, { session := { s with renderRunning := false } })
    else some (.at .alive kind, { session := s })
  | .joinRender =>
    if s.render = .exited then
      some (.at .alive kind, { session := { s with renderThread := false } })
    else none
  | .alive =>
    some (.at (if s.vcmThread then .joinVcm else .notify) kind,
      { session := { s with connectionAlive := false } })
  | .joinVcm =>
    if s.vcm = .exited then
      some (.at .notify kind, { session := { s with vcmThread := false } })
    else none
  | .notify =>
    some (if kind = .stop then .idle else .at .disable kind,
      { session := s.notifyClosed.1, closed := s.notifyClosed.2 })
  | .disable =>
    some (.at .finish kind,
      { session := s.disableGraphicsPipeline.1, calls := s.disableGraphicsPipeline.2 })
  | .finish =>
    match kind with
    | .disconnect =>
      -- `peer->Disconnect` is `drd_peer_disconnected`, which tells the listener again
      some (.idle,
        { session := { s with
            renderRunning := false
            connectionAlive := false
            peer := false
            isActivated := false }
          closed := s.peer && s.closedCb })
    | .stop | .dispose => some (.idle, { session := s })

/-- The end of a successful `drd_rdp_session_activate`. A render thread that was
started before is kept. -/
def activated : Session :=
  if s.renderThread then { s with isActivated := true }
  else
    { s with
      isActivated := true
      renderRunning := true
      renderThread := true
      render := .top }

/-- `drd_rdp_session_activate`, run by the vcm thread. Its failures disconnect
the session from within the callback. -/
def activate (rt : ServerRuntime) (resizeOk optionsOk prepareOk : Bool) : SessionResult :=
  if s.passiveMode then { session := { s with isActivated := true, vcm := .channels } }
  else if !resizeOk || !optionsOk then
    { session := { s with vcm := .callback (.at .start .disconnect) } }
  else if rt.streamRunning then { session := { s.activated with vcm := .channels } }
  else if prepareOk then
    { session := { s.activated with vcm := .channels }
      calls := [.prepareStream true, .requestKeyframe] }
  else
    { session := { s with vcm := .callback (.at .start .disconnect) }
      calls := [.prepareStream false] }

/-- `drd_rdp_graphics_pipeline_maybe_init` on a READY drdynvc, and the check of
the channel descriptors. -/
def drdynvc (ready opened : Bool) (answer : GfxPdu → Bool) (vcmOk : Bool) : SessionResult :=
  let after (s' : Session) : Session :=
    if !s'.connectionAlive then { s' with vcm := .ending }
    else if vcmOk then { s' with vcm := .loop }
    else { s' with vcm := .ending, connectionAlive := false }
  match s.pipeline with
  | some p =>
    if ready && s.connectionAlive then
      { session := after { s with pipeline := some (p.maybeInit opened answer).2 }
        calls :=
          if (p.channelOpened || opened) && p.capsConfirmed then [.setTransport .graphicsPipeline]
          else [] }
    else { session := after s }
  | none => { session := after s }

def vcmStep (rt : ServerRuntime) : VcmEvent → Option SessionResult
  | .step =>
    match s.vcm with
    | .loop => some { session := { s with vcm := if s.connectionAlive then .wait else .ending } }
    | .callback .idle =>
      -- the callback returned FALSE, so `CheckFileDescriptor` fails
      some { session := { s with vcm := .ending, connectionAlive := false } }
    | .callback (.at point kind) =>
      (s.teardownStep kind point).map fun r =>
        { r.2 with session := { r.2.session with vcm := .callback r.1 } }
    | .ending => some { session := { s with vcm := .notify, renderRunning := false } }
    | .notify =>
      some { session := { s.notifyClosed.1 with vcm := .exited }, closed := s.notifyClosed.2 }
    | .wait | .check | .channels | .exited => none
  | .noHandles =>
    if s.vcm = .wait then some { session := { s with vcm := .ending, connectionAlive := false } }
    else none
  | .waitFailed => if s.vcm = .wait then some { session := { s with vcm := .ending } } else none
  | .signalled => if s.vcm = .wait then some { session := { s with vcm := .check } } else none
  | .checked check =>
    if s.vcm = .check then
      match check with
      | .failed => some { session := { s with vcm := .ending, connectionAlive := false } }
      | .quiet => some { session := { s with vcm := .channels } }
      | .authRejected => some { session := { s with vcm := .callback (.at .start .disconnect) } }
      | .activate resizeOk optionsOk prepareOk =>
        some (s.activate rt resizeOk optionsOk prepareOk)
    else none
  | .notJoined => if s.vcm = .channels then some { session := { s with vcm := .loop } } else none
  | .drdynvc ready opened answer vcmOk =>
    if s.vcm = .channels then some (s.drdynvc ready opened answer vcmOk) else none

/-- The last reference is dropped after both threads have dropped theirs. -/
def mayTearDown (kind : TeardownKind) : Bool :=
  s.closedCb && decide (s.main = .idle) &&
    (decide (kind ≠ .dispose) ||
      (decide (s.vcm = .exited) &&
        (decide (s.render = .exited) || decide (s.render = .notStarted))))

def step (rt : ServerRuntime) : SessionEvent → Option SessionResult
  | .render e => (s.renderMove rt.transport e).map s.afterMove
  | .vcm e => s.vcmStep rt e
  | .vcmThreadStored =>
    -- the end of `start_event_thread`, whose thread is already running
    if s.closedCb || s.vcmThread then none else some { session := { s with vcmThread := true } }
  | .closedCallbackSet =>
    if s.closedCb || !s.vcmThread then none
    else if s.connectionAlive then some { session := { s with closedCb := true } }
    else
      some { session := ({ s with closedCb := true } : Session).notifyClosed.1
             closed := ({ s with closedCb := true } : Session).notifyClosed.2 }
  | .beginTeardown kind =>
    if s.mayTearDown kind then some { session := { s with main := .at .start kind } } else none
  | .mainStep =>
    match s.main with
    | .idle => none
    | .at point kind =>
      (s.teardownStep kind point).map fun r =>
        { r.2 with session := { r.2.session with main := r.1 } }
  | .capsConfirm =>
    some { session := { s with pipeline := s.pipeline.map ({ · with capsConfirmed := true }) } }
  | .frameAck queueDepth =>
    some { session := { s with pipeline := s.pipeline.map (·.frameAck queueDepth) } }

end Session

/-- A session as `drd_rdp_listener_accept_peer` has built it when its vcm thread
starts. The pipeline exists when encoding options were known. -/
def drdRdpSessionNew (passiveMode : Bool) (size : Option (UInt16 × UInt16)) : Session where
  passiveMode := passiveMode
  pipeline := size.map fun size => drdRdpGraphicsPipelineNew size.1 size.2

/-- A step of the vcm thread, by the place that it is in. -/
inductive Session.VcmMove (s : Session) (rt : ServerRuntime) : VcmEvent → SessionResult → Prop
  | loop (hpc : s.vcm = .loop) : VcmMove s rt .step
      { session := { s with vcm := if s.connectionAlive then .wait else .ending } }
  | rejected (hpc : s.vcm = .callback .idle) : VcmMove s rt .step
      { session := { s with vcm := .ending, connectionAlive := false } }
  | teardown {point : TeardownPoint} {kind : TeardownKind} {r : TeardownPc × SessionResult}
      (hpc : s.vcm = .callback (.at point kind)) (hr : s.teardownStep kind point = some r) :
      VcmMove s rt .step { r.2 with session := { r.2.session with vcm := .callback r.1 } }
  | ending (hpc : s.vcm = .ending) : VcmMove s rt .step
      { session := { s with vcm := .notify, renderRunning := false } }
  | notify (hpc : s.vcm = .notify) : VcmMove s rt .step
      { session := { s.notifyClosed.1 with vcm := .exited }, closed := s.notifyClosed.2 }
  | noHandles (hpc : s.vcm = .wait) : VcmMove s rt .noHandles
      { session := { s with vcm := .ending, connectionAlive := false } }
  | waitFailed (hpc : s.vcm = .wait) : VcmMove s rt .waitFailed
      { session := { s with vcm := .ending } }
  | signalled (hpc : s.vcm = .wait) : VcmMove s rt .signalled { session := { s with vcm := .check } }
  | failed (hpc : s.vcm = .check) : VcmMove s rt (.checked .failed)
      { session := { s with vcm := .ending, connectionAlive := false } }
  | quiet (hpc : s.vcm = .check) : VcmMove s rt (.checked .quiet)
      { session := { s with vcm := .channels } }
  | authRejected (hpc : s.vcm = .check) : VcmMove s rt (.checked .authRejected)
      { session := { s with vcm := .callback (.at .start .disconnect) } }
  | activate (hpc : s.vcm = .check) (resizeOk optionsOk prepareOk : Bool) :
      VcmMove s rt (.checked (.activate resizeOk optionsOk prepareOk))
        (s.activate rt resizeOk optionsOk prepareOk)
  | notJoined (hpc : s.vcm = .channels) : VcmMove s rt .notJoined
      { session := { s with vcm := .loop } }
  | drdynvc (hpc : s.vcm = .channels) (ready opened : Bool) (answer : GfxPdu → Bool) (vcmOk : Bool) :
      VcmMove s rt (.drdynvc ready opened answer vcmOk) (s.drdynvc ready opened answer vcmOk)

theorem Session.vcmStep_move {s : Session} {rt : ServerRuntime} {e : VcmEvent} {res : SessionResult}
    (h : s.vcmStep rt e = some res) : s.VcmMove rt e res := by
  cases e with
  | step =>
    cases hpc : s.vcm with
    | loop =>
      simp only [vcmStep, hpc] at h
      exact Option.some.inj h ▸ .loop hpc
    | callback teardown =>
      cases teardown with
      | idle =>
        simp only [vcmStep, hpc] at h
        exact Option.some.inj h ▸ .rejected hpc
      | «at» point kind =>
        simp only [vcmStep, hpc, Option.map_eq_some_iff] at h
        obtain ⟨r, hr, rfl⟩ := h
        exact .teardown hpc hr
    | ending =>
      simp only [vcmStep, hpc] at h
      exact Option.some.inj h ▸ .ending hpc
    | notify =>
      simp only [vcmStep, hpc] at h
      exact Option.some.inj h ▸ .notify hpc
    | wait | check | channels | exited => simp only [vcmStep, hpc, reduceCtorEq] at h
  -- the other events are each for one place
  | noHandles =>
    simp only [vcmStep, Option.ite_none_right_eq_some, Option.some.injEq] at h
    exact h.2 ▸ .noHandles h.1
  | waitFailed =>
    simp only [vcmStep, Option.ite_none_right_eq_some, Option.some.injEq] at h
    exact h.2 ▸ .waitFailed h.1
  | signalled =>
    simp only [vcmStep, Option.ite_none_right_eq_some, Option.some.injEq] at h
    exact h.2 ▸ .signalled h.1
  | checked check =>
    simp only [vcmStep, Option.ite_none_right_eq_some] at h
    obtain ⟨hpc, h⟩ := h
    cases check with
    | failed => exact Option.some.inj h ▸ .failed hpc
    | quiet => exact Option.some.inj h ▸ .quiet hpc
    | authRejected => exact Option.some.inj h ▸ .authRejected hpc
    | activate resizeOk optionsOk prepareOk =>
      exact Option.some.inj h ▸ .activate hpc resizeOk optionsOk prepareOk
  | notJoined =>
    simp only [vcmStep, Option.ite_none_right_eq_some, Option.some.injEq] at h
    exact h.2 ▸ .notJoined h.1
  | drdynvc ready opened answer vcmOk =>
    simp only [vcmStep, Option.ite_none_right_eq_some, Option.some.injEq] at h
    exact h.2 ▸ .drdynvc h.1 ready opened answer vcmOk

/-! While the graphics pipeline lasts, the render thread follows the frame loop
of the backpressure model. -/

/-- The place of the frame loop. What lies between two frames is its beginning. -/
def RenderPc.gfx : RenderPc → GfxPc
  | .parked => .parked
  | .submit => .submit
  | .call .cached | .inCall .cached => .sendCached
  | .call .gfx | .inCall .gfx => .pull
  | .count h264 => .count h264
  | .mode h264 => .mode h264
  | .disable => .disabled
  | .notStarted | .top | .transport | .recover _ | .adopt | .wait | .finish | .exited
  | .call .bits | .inCall .bits => .wait

structure Session.Follows (s : Session) (f : GfxFlow) : Prop where
  pipeline : s.pipeline = some f.pipeline
  ready : s.pipelineReady = true
  pc : f.pc = s.render.gfx

namespace Session

/-- A move that the frame loop does not see. -/
theorem Follows.stutter {s : Session} {f : GfxFlow} (h : s.Follows f) {pc : RenderPc}
    (hpc : pc.gfx = s.render.gfx) : (s.afterMove (s.goto pc)).session.Follows f :=
  ⟨h.pipeline, h.ready, h.pc.trans hpc.symm⟩

theorem Follows.enterWait {s : Session} {f : GfxFlow} (h : s.Follows f) (w : CapacityWait) :
    (s.afterMove (s.waitMove f.pipeline w)).session.Follows (f.enterWait w) := by
  rcases w with _ | _ | _
  · exact ⟨rfl, h.ready, rfl⟩
  · exact ⟨h.pipeline, h.ready, rfl⟩
  · exact ⟨h.pipeline, h.ready, rfl⟩

/-- The pipeline comes up again while the frame loop is between two frames. -/
theorem Follows.recovered {s : Session} {f : GfxFlow} (h : s.Follows f)
    {created : Option (UInt16 × UInt16)} {opened : Bool} {answer : GfxPdu → Bool} {m : RenderMove}
    (hm : s.renderMove .graphicsPipeline (.recovered created opened answer) = some m) :
    ∃ f', (f' = f ∨ ∃ ge, gfxFlowStep f ge = some f') ∧ (s.afterMove m).session.Follows f' := by
  have hp := h.pipeline
  have hr := h.ready
  have hf := h.pc
  simp only [renderMove] at hm
  split at hm
  · next surfaceBits hpc =>
    have hmove : m = { s.goto (if surfaceBits then .top else .adopt) with
        pipeline := some (f.pipeline.maybeInit opened answer).2
        ready := s.pipelineReady
        calls := m.calls } := by
      rw [← Option.some.inj hm]
      simp only [recoverMove, hp]
      rfl
    refine ⟨{ f with pipeline := (f.pipeline.maybeInit opened answer).2 },
      Or.inr ⟨.maybeInit opened answer, rfl⟩, hmove ▸ ⟨rfl, hr, ?_⟩⟩
    rw [hf, hpc]
    cases surfaceBits <;> rfl
  · cases hm

/-- An encode returns, and the frame is counted or not. -/
theorem Follows.returned {s : Session} {f : GfxFlow} (h : s.Follows f) {outcome : EncodeOutcome}
    {m : RenderMove} (hm : s.renderMove .graphicsPipeline (.returned outcome) = some m)
    (hbits : s.render ≠ .inCall .bits) :
    ∃ f', (f' = f ∨ ∃ ge, gfxFlowStep f ge = some f') ∧ (s.afterMove m).session.Follows f' := by
  have hp := h.pipeline
  have hr := h.ready
  have hf := h.pc
  simp only [renderMove] at hm
  split at hm
  · next kind hpc =>
    cases kind with
    | cached =>
      refine ⟨f.encoded .pull outcome, Or.inr ⟨.sendCachedFrame outcome, ?_⟩, ?_⟩
      · simp only [gfxFlowStep, hf, hpc, RenderPc.gfx, if_true]
      · cases outcome <;> exact Option.some.inj hm ▸ ⟨hp, hr, rfl⟩
    | gfx =>
      refine ⟨f.encoded .wait outcome, Or.inr ⟨.pullEncodedFrame outcome, ?_⟩, ?_⟩
      · simp only [gfxFlowStep, hf, hpc, RenderPc.gfx, if_true]
      · cases outcome <;> exact Option.some.inj hm ▸ ⟨hp, hr, rfl⟩
    | bits => exact absurd hpc hbits
  · cases hm

/-- A render step in graphics pipeline mode is a step of the frame loop or none
at all. The loop ends where the pipeline is disabled. -/
theorem Follows.step {s : Session} {f : GfxFlow} (h : s.Follows f) {e : RenderEvent}
    {m : RenderMove} (hm : s.renderMove .graphicsPipeline e = some m)
    (hbits : s.render ≠ .call .bits ∧ s.render ≠ .inCall .bits) (hlast : s.render ≠ .disable) :
    ∃ f', (f' = f ∨ ∃ ge, gfxFlowStep f ge = some f') ∧ (s.afterMove m).session.Follows f' := by
  have hp := h.pipeline
  have hr := h.ready
  have hf := h.pc
  cases e with
  | step =>
    cases hpc : s.render with
    | top =>
      simp only [renderMove, hpc, renderCall, Option.some.injEq] at hm
      refine ⟨f, Or.inl rfl, hm ▸ h.stutter ?_⟩
      rw [hpc]
      repeat' split
      all_goals rfl
    | transport =>
      simp only [renderMove, hpc, hp, Option.isNone_some, Option.some.injEq] at hm
      exact ⟨f, Or.inl rfl, hm ▸ h.stutter (hpc ▸ rfl)⟩
    | adopt =>
      simp only [renderMove, hpc, renderCall, hr, Bool.not_true, Bool.false_and, if_true,
        Bool.false_eq_true, if_false, Option.some.injEq] at hm
      exact ⟨f, Or.inl rfl, hm ▸ h.stutter (hpc ▸ rfl)⟩
    | wait =>
      simp only [renderMove, hpc, renderCall, hp, hr, if_true, Option.some.injEq] at hm
      refine ⟨_, Or.inr ⟨.waitForCapacity, ?_⟩, hm ▸ h.enterWait _⟩
      simp only [gfxFlowStep, hf, hpc, RenderPc.gfx, if_true]
    | parked =>
      simp only [renderMove, hpc, renderCall, hp, Option.some.injEq] at hm
      refine ⟨_, Or.inr ⟨.wake, ?_⟩, hm ▸ h.enterWait _⟩
      simp only [gfxFlowStep, hf, hpc, RenderPc.gfx, if_true]
    | call kind =>
      simp only [renderMove, hpc, renderCall, Option.some.injEq] at hm
      refine ⟨f, Or.inl rfl, hm ▸ ⟨hp, hr, ?_⟩⟩
      rw [hf, hpc]
      cases kind with
      | cached | gfx => rfl
      | bits => exact absurd hpc hbits.1
    | count h264 =>
      simp only [renderMove, hpc, renderCall, hp, Option.map_some, Option.some.injEq] at hm
      subst hm
      refine ⟨{ f with pc := .mode h264, pipeline := f.pipeline.outFrameChange true },
        Or.inr ⟨.outFrameChange, ?_⟩, ⟨rfl, hr, rfl⟩⟩
      simp only [gfxFlowStep, hf, hpc, RenderPc.gfx]
    | mode h264 =>
      simp only [renderMove, hpc, renderCall, hp, Option.map_some, Option.some.injEq] at hm
      subst hm
      refine ⟨{ f with pc := .wait, pipeline := f.pipeline.setLastFrameMode h264 },
        Or.inr ⟨.setLastFrameMode, ?_⟩, ⟨rfl, hr, rfl⟩⟩
      simp only [gfxFlowStep, hf, hpc, RenderPc.gfx]
    | finish =>
      simp only [renderMove, hpc, renderCall, Option.some.injEq] at hm
      exact ⟨f, Or.inl rfl, hm ▸ h.stutter (hpc ▸ rfl)⟩
    | disable => exact absurd hpc hlast
    | notStarted | exited | recover _ | submit | inCall _ =>
      simp only [renderMove, hpc, reduceCtorEq] at hm
  | recovered created opened answer => exact h.recovered hm
  | canSubmit refreshDue =>
    simp only [renderMove] at hm
    split at hm
    · next hpc =>
      simp only [hp, Option.any_some, Option.some.injEq] at hm
      subst hm
      refine ⟨{ f with
          pc :=
            if f.pipeline.canSubmit then if refreshDue then .sendCached else .pull
            else .disabled },
        Or.inr ⟨.canSubmit refreshDue, ?_⟩, ⟨hp, hr, ?_⟩⟩
      · simp only [gfxFlowStep, hf, hpc, RenderPc.gfx, if_true]
      · dsimp only [afterMove, goto]
        cases f.pipeline.canSubmit <;> cases refreshDue <;> rfl
    · cases hm
  | returned outcome => exact h.returned hm hbits.2
  | notSupported =>
    simp only [renderMove] at hm
    split at hm
    · next hpc => exact absurd hpc hbits.2
    · cases hm

end Session

end RemoteDesktop.DRD
