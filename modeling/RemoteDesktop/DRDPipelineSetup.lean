import RemoteDesktop.EventMachine
import RemoteDesktop.DRDGraphicsPipeline

/-! How the vcm thread and the render thread set one graphics pipeline up. `maybe_init`
drops `lock` around Open, so it is more than one step here. -/
namespace RemoteDesktop.DRD

inductive InitThread
  | vcm
  | render
  deriving DecidableEq, Repr

def InitThread.other : InitThread → InitThread
  | .vcm => .render
  | .render => .vcm

/-- Where a thread is in `maybe_init`: before the call of Open, inside it, after it, or at
the PDUs of `reset_locked` that are left. Only the last holds `lock`. -/
inductive InitPc
  | idle
  | unlocked
  | opening
  | opened
  | sending (rest : List GfxPdu)
  deriving DecidableEq, Repr

def InitPc.locks : InitPc → Bool
  | .sending _ => true
  | _ => false

/-- The calls on the RdpgfxServerContext, with what they return. Open takes time. -/
inductive GfxCall
  | openStarted
  | openReturned (opened : Bool)
  | capsConfirm (rc : UInt32)
  | pdu (pdu : GfxPdu) (accepted : Bool)
  | close
  deriving DecidableEq, Repr

/-- `capsPending` counts the callbacks that have called CapsConfirm and not yet set
`caps_confirmed`. `calls` has the newest call first. -/
structure PipelineSetup where
  pipeline : GraphicsPipeline
  pc : InitThread → InitPc := fun _ => .idle
  capsPending : ℕ := 0
  disposed : Bool := false
  calls : List GfxCall := []

inductive SetupEvent
  | maybeInit (t : InitThread)
  | callOpen (t : InitThread)
  | openReturns (t : InitThread) (opened : Bool)
  | relock (t : InitThread)
  | send (t : InitThread) (accepted : Bool)
  | capsConfirm (rc : UInt32)
  | capsConfirmed
  | dispose (accepted : Bool)
  deriving DecidableEq, Repr

namespace PipelineSetup

variable (s : PipelineSetup)

def lockFree : Bool :=
  !(s.pc .vcm).locks && !(s.pc .render).locks

def goto (t : InitThread) (pc : InitPc) : PipelineSetup :=
  { s with pc := Function.update s.pc t pc }

def log (c : GfxCall) : PipelineSetup :=
  { s with calls := c :: s.calls }

def noteOpened : PipelineSetup :=
  { s with pipeline := { s.pipeline with channelOpened := true } }

/-- `maybe_init` from the test of `caps_confirmed` on, up to the first PDU. -/
def resetSurface (t : InitThread) : PipelineSetup :=
  if s.pipeline.capsConfirmed && !s.pipeline.surfaceReady then
    s.goto t (.sending s.pipeline.resetPdus)
  else s.goto t .idle

/-- `reset_locked` after the answer to a PDU. The last one makes the surface ready. -/
def pduSent (t : InitThread) (rest : List GfxPdu) (accepted : Bool) : PipelineSetup :=
  if accepted then
    match rest with
    | [] => { s.goto t .idle with pipeline := (s.pipeline.resetLocked fun _ => true).2 }
    | _ :: _ => s.goto t (.sending rest)
  else s.goto t .idle

/-- The calls of `drd_rdp_graphics_pipeline_dispose`. -/
def disposeCalls (accepted : Bool) : List GfxCall :=
  (if s.pipeline.channelOpened then [.close] else []) ++
    (if s.pipeline.surfaceReady then [.pdu (.deleteSurface s.pipeline.surfaceId) accepted] else [])

def advance : SetupEvent → Option PipelineSetup
  | .maybeInit t =>
    if s.lockFree ∧ s.pc t = .idle then
      -- `channel_opened` is read under `lock`, which is given up before Open
      some (if s.pipeline.channelOpened then s.resetSurface t else s.goto t .unlocked)
    else none
  | .callOpen t =>
    if s.pc t = .unlocked then some ((s.goto t .opening).log .openStarted) else none
  | .openReturns t opened =>
    if s.pc t = .opening then
      -- a failure returns at once, with nothing noted
      some ((s.goto t (if opened then .opened else .idle)).log (.openReturned opened))
    else none
  | .relock t =>
    if s.lockFree ∧ s.pc t = .opened then
      -- `lock` is taken again; the channel may have been opened meanwhile
      some (s.noteOpened.resetSurface t)
    else none
  -- the PDUs of `reset_locked`, all under `lock`
  | .send t accepted =>
    match s.pc t with
    | .sending (pdu :: rest) => some ((s.log (.pdu pdu accepted)).pduSent t rest accepted)
    | _ => none
  -- `on_caps_advertise` answers without `lock`, and takes it only to set the flag
  | .capsConfirm rc => some ({ s with capsPending := s.capsPending + 1 }.log (.capsConfirm rc))
  | .capsConfirmed =>
    if s.lockFree ∧ 0 < s.capsPending then
      some { s with
        pipeline := { s.pipeline with capsConfirmed := true }
        capsPending := s.capsPending - 1 }
    else none
  | .dispose accepted =>
    some { s with
      pipeline := s.pipeline.dispose
      disposed := true
      calls := s.disposeCalls accepted ++ s.calls }

/-- Nothing is called on a pipeline that was disposed of. -/
def step (e : SetupEvent) : Option PipelineSetup :=
  if s.disposed then none else s.advance e

end PipelineSetup

/-- The runs of one pipeline from `drd_rdp_graphics_pipeline_new` on. -/
def pipelineSetup : EventMachine PipelineSetup SetupEvent where
  init s := ∃ width height, s = { pipeline := { width := width, height := height } }
  step := PipelineSetup.step

def GfxCall.isOpenReturned : GfxCall → Bool
  | .openReturned _ => true
  | _ => false

def GfxCall.isOpen : GfxCall → Bool
  | .openStarted => true
  | .openReturned _ => true
  | _ => false

def GfxCall.isPdu : GfxCall → Bool
  | .pdu _ _ => true
  | _ => false

/-- A CreateSurface of the surface succeeded, and no DeleteSurface came after it. -/
def surfaceAlive (surfaceId : UInt16) : List GfxCall → Bool
  | [] => false
  | .pdu (.createSurface i _ _) true :: earlier =>
    decide (i = surfaceId) || surfaceAlive surfaceId earlier
  | .pdu (.deleteSurface i) _ :: earlier =>
    decide (i ≠ surfaceId) && surfaceAlive surfaceId earlier
  | _ :: earlier => surfaceAlive surfaceId earlier

/-- What may come after the earlier calls. -/
def GfxCall.Allowed (earlier : List GfxCall) : GfxCall → Prop
  | .openStarted =>
    earlier.count .openStarted = earlier.countP GfxCall.isOpenReturned ∧
      .openReturned true ∉ earlier
  | .pdu (.createSurface surfaceId _ _) accepted =>
    (∃ rc, .capsConfirm rc ∈ earlier) ∧
      (accepted = true → surfaceAlive surfaceId earlier = false)
  | .pdu (.resetGraphics _ _) _ => ∃ rc, .capsConfirm rc ∈ earlier
  | .pdu (.mapSurfaceToOutput _) _ => ∃ rc, .capsConfirm rc ∈ earlier
  | _ => True

def CallsInOrder : List GfxCall → Prop
  | [] => True
  | c :: earlier => c.Allowed earlier ∧ CallsInOrder earlier

/-- The surface is set up in order and once. -/
structure SetUpInOrder (s : PipelineSetup) : Prop where
  calls : CallsInOrder s.calls
  openOnce : s.calls.count (.openReturned true) ≤ 1
  ready : s.pipeline.surfaceReady = true →
    (s.calls.filter GfxCall.isPdu).take 3 =
      (s.pipeline.resetPdus.map fun pdu => GfxCall.pdu pdu true).reverse

/-- Open is not called once the channel is open, nor while the other thread is inside Open or
about to note its success. A surface whose MapSurfaceToOutput failed is not created again. -/
def SetupApart (s : PipelineSetup) : SetupEvent → Prop
  | .callOpen t =>
    s.pipeline.channelOpened = false ∧ s.pc t.other ≠ .opening ∧ s.pc t.other ≠ .opened
  | .send t true =>
    ∀ surfaceId width height rest,
      s.pc t = .sending (.createSurface surfaceId width height :: rest) →
        .pdu (.mapSurfaceToOutput surfaceId) false ∉ s.calls
  | _ => True

namespace PipelineSetup

variable {s s' : PipelineSetup} {t : InitThread} {pc : InitPc}

@[simp] theorem goto_pc_self : (s.goto t pc).pc t = pc :=
  Function.update_self ..

theorem goto_pc_of_ne {t' : InitThread} (h : t' ≠ t) : (s.goto t pc).pc t' = s.pc t' :=
  Function.update_of_ne h ..

theorem other_ne (t : InitThread) : t.other ≠ t := by
  cases t <;> decide

theorem eq_or_eq_other (t t' : InitThread) : t' = t ∨ t' = t.other := by
  cases t <;> cases t' <;> decide

@[simp] theorem goto_pc_other : (s.goto t pc).pc t.other = s.pc t.other :=
  goto_pc_of_ne (other_ne t)

@[simp] theorem other_other (t : InitThread) : t.other.other = t := by
  cases t <;> rfl

theorem lockFree_iff : s.lockFree = true ↔ ∀ t, (s.pc t).locks = false := by
  constructor
  · intro h t
    simp only [lockFree, Bool.and_eq_true, Bool.not_eq_true'] at h
    cases t with
    | vcm => exact h.1
    | render => exact h.2
  · intro h
    simp [lockFree, h]

/-- The threads that are at a place. -/
def threads (s : PipelineSetup) (pc : InitPc) : ℕ :=
  (if s.pc .vcm = pc then 1 else 0) + (if s.pc .render = pc then 1 else 0)

theorem threads_eq (t : InitThread) (pc : InitPc) :
    s.threads pc = (if s.pc t = pc then 1 else 0) + (if s.pc t.other = pc then 1 else 0) := by
  cases t with
  | vcm => rfl
  | render => exact Nat.add_comm _ _

theorem goto_threads (p : InitPc) :
    (s.goto t pc).threads p + (if s.pc t = p then 1 else 0) =
      s.threads p + (if pc = p then 1 else 0) := by
  rw [threads_eq t p, threads_eq t p, goto_pc_self, goto_pc_other]
  omega

/-- The calls of Open are as many as the threads say, and one thread at most is in it or
past it. -/
structure OpenInv (s : PipelineSetup) : Prop where
  started : s.calls.count .openStarted =
    s.calls.countP GfxCall.isOpenReturned + s.threads .opening
  succeeded : s.calls.count (.openReturned true) =
    s.threads .opened + s.pipeline.channelOpened.toNat
  alone : s.threads .opening + s.threads .opened + s.pipeline.channelOpened.toNat ≤ 1

/-- The PDUs before `rest` were the last that the channel has accepted. -/
structure Sending (s : PipelineSetup) (rest : List GfxPdu) : Prop where
  confirmed : s.pipeline.capsConfirmed = true
  notReady : s.pipeline.surfaceReady = false
  sent : ∃ sent, s.pipeline.resetPdus = sent ++ rest ∧ rest ≠ [] ∧
    (s.calls.filter GfxCall.isPdu).take sent.length =
      (sent.map fun pdu => GfxCall.pdu pdu true).reverse

structure SurfaceInv (s : PipelineSetup) : Prop where
  confirmed : s.pipeline.capsConfirmed = true ∨ 0 < s.capsPending →
    ∃ rc, .capsConfirm rc ∈ s.calls
  sending : ∀ t rest, s.pc t = .sending rest → s.Sending rest
  holder : ∀ t, (s.pc t).locks = true → (s.pc t.other).locks = false
  alive : surfaceAlive s.pipeline.surfaceId s.calls = true →
    s.pipeline.surfaceReady = true ∨
      (∃ t, s.pc t = .sending [.mapSurfaceToOutput s.pipeline.surfaceId]) ∨
        .pdu (.mapSurfaceToOutput s.pipeline.surfaceId) false ∈ s.calls
  failed : .pdu (.mapSurfaceToOutput s.pipeline.surfaceId) false ∈ s.calls →
    surfaceAlive s.pipeline.surfaceId s.calls = true
  ready : s.pipeline.surfaceReady = true →
    (s.calls.filter GfxCall.isPdu).take 3 =
      (s.pipeline.resetPdus.map fun pdu => GfxCall.pdu pdu true).reverse

/-- A step that leaves the threads in Open and its calls alone. -/
theorem OpenInv.of_same (h : s.OpenInv) (hopening : s'.threads .opening = s.threads .opening)
    (hopened : s'.threads .opened = s.threads .opened)
    (hchannel : s'.pipeline.channelOpened = s.pipeline.channelOpened)
    (hcalls : s'.calls.filter GfxCall.isOpen = s.calls.filter GfxCall.isOpen) : s'.OpenInv := by
  -- only the calls of Open are counted, and those are the same
  have hcount (c : GfxCall) (hc : c.isOpen = true) : s'.calls.count c = s.calls.count c := by
    have hfilter := congrArg (List.count c) hcalls
    rwa [List.count_filter hc, List.count_filter hc] at hfilter
  have hreturned : s'.calls.countP GfxCall.isOpenReturned =
      s.calls.countP GfxCall.isOpenReturned := by
    have hfilter := congrArg (List.countP GfxCall.isOpenReturned) hcalls
    have hp (c : GfxCall) : (c.isOpenReturned && c.isOpen) = c.isOpenReturned := by
      cases c <;> rfl
    simpa only [List.countP_filter, hp] using hfilter
  constructor
  · rw [hcount _ rfl, hreturned, hopening]
    exact h.started
  · rw [hcount _ rfl, hopened, hchannel]
    exact h.succeeded
  · rw [hopening, hopened, hchannel]
    exact h.alone

theorem goto_threads_same {pc' : InitPc} (hfrom : s.pc t ≠ pc') (hto : pc ≠ pc') :
    (s.goto t pc).threads pc' = s.threads pc' := by
  have h : (s.goto t pc).threads pc' + _ = s.threads pc' + _ := goto_threads pc'
  rw [if_neg hfrom, if_neg hto] at h
  exact h

/-- The threads at another place than `idle` and the PDUs after a thread resets the surface. -/
theorem resetSurface_threads {pc' : InitPc} (hidle : InitPc.idle ≠ pc') (hlocks : pc'.locks = false) :
    (s.resetSurface t).threads pc' + (if s.pc t = pc' then 1 else 0) = s.threads pc' := by
  have hsending (rest : List GfxPdu) : InitPc.sending rest ≠ pc' := by
    intro he
    rw [← he] at hlocks
    cases hlocks
  -- a thread that starts to send, or goes back, is in neither place
  unfold resetSurface
  split
  · rw [goto_threads, if_neg (hsending _)]
    rfl
  · rw [goto_threads, if_neg hidle]
    rfl

theorem resetSurface_pipeline : (s.resetSurface t).pipeline = s.pipeline := by
  unfold resetSurface
  split <;> rfl

theorem resetSurface_calls : (s.resetSurface t).calls = s.calls := by
  unfold resetSurface
  split <;> rfl

theorem pduSent_calls {rest : List GfxPdu} {accepted : Bool} :
    (s.pduSent t rest accepted).calls = s.calls := by
  unfold pduSent
  split
  · split <;> rfl
  · rfl

theorem resetLocked_channelOpened (p : GraphicsPipeline) (answer : GfxPdu → Bool) :
    (p.resetLocked answer).2.channelOpened = p.channelOpened := by
  unfold GraphicsPipeline.resetLocked
  split_ifs <;> rfl

theorem pduSent_channelOpened {rest : List GfxPdu} {accepted : Bool} :
    (s.pduSent t rest accepted).pipeline.channelOpened = s.pipeline.channelOpened := by
  unfold pduSent
  split
  · split
    · exact resetLocked_channelOpened _ _
    · rfl
  · rfl

theorem pduSent_threads {rest : List GfxPdu} {accepted : Bool} {pc' : InitPc}
    (hfrom : (s.pc t).locks = true) (hidle : InitPc.idle ≠ pc') (hlocks : pc'.locks = false) :
    (s.pduSent t rest accepted).threads pc' = s.threads pc' := by
  have hne (pc : InitPc) (hpc : pc.locks = true) : pc ≠ pc' := by
    intro he
    rw [he, hlocks] at hpc
    cases hpc
  unfold pduSent
  split
  · split
    · exact goto_threads_same (hne _ hfrom) hidle
    · exact goto_threads_same (hne _ hfrom) (hne _ rfl)
  · exact goto_threads_same (hne _ hfrom) hidle

theorem threads_eq_zero_iff : s.threads pc = 0 ↔ s.pc t ≠ pc ∧ s.pc t.other ≠ pc := by
  rw [threads_eq t]
  by_cases h : s.pc t = pc <;> by_cases h' : s.pc t.other = pc <;> simp [h, h']

/-- Under the guard no thread is in Open or past it. -/
theorem threads_eq_zero_of_apart (hC : SetupApart s (.callOpen t)) (hpc : s.pc t = .unlocked) :
    s.threads .opening = 0 ∧ s.threads .opened = 0 := by
  obtain ⟨-, hother, hother'⟩ := hC
  exact ⟨(threads_eq_zero_iff (t := t)).mpr ⟨by rw [hpc]; decide, hother⟩,
    (threads_eq_zero_iff (t := t)).mpr ⟨by rw [hpc]; decide, hother'⟩⟩

/-- A thread that enters `maybe_init` leaves Open alone. -/
theorem OpenInv.entered (h : s.OpenInv) (hpc : s.pc t = .idle) :
    (if s.pipeline.channelOpened then s.resetSurface t else s.goto t .unlocked).OpenInv := by
  split
  · have hopening : (s.resetSurface t).threads .opening + (if s.pc t = .opening then 1 else 0) =
        s.threads .opening := resetSurface_threads (by decide) rfl
    have hopened : (s.resetSurface t).threads .opened + (if s.pc t = .opened then 1 else 0) =
        s.threads .opened := resetSurface_threads (by decide) rfl
    simp only [hpc] at hopening hopened
    exact h.of_same hopening hopened (by rw [resetSurface_pipeline]) (by rw [resetSurface_calls])
  · have hne (pc' : InitPc) (hidle : InitPc.idle ≠ pc') : s.pc t ≠ pc' := by rwa [hpc]
    exact h.of_same (goto_threads_same (hne _ (by decide)) (by decide))
      (goto_threads_same (hne _ (by decide)) (by decide)) rfl rfl

/-- The guard keeps Open to one thread. -/
theorem OpenInv.called (h : s.OpenInv) (hC : SetupApart s (.callOpen t))
    (hpc : s.pc t = .unlocked) : ((s.goto t .opening).log .openStarted).OpenInv := by
  obtain ⟨hopening, hopened⟩ := threads_eq_zero_of_apart hC hpc
  have hchannel : s.pipeline.channelOpened = false := hC.1
  -- the caller moves from before Open to inside it, and so does the count
  have hgoto (pc' : InitPc) : (s.goto t .opening).threads pc' + _ = s.threads pc' + _ :=
    goto_threads pc'
  have h1 := hgoto .opening
  have h2 := hgoto .opened
  simp only [hpc, reduceCtorEq, if_false, if_true] at h1 h2
  have h3 := h.started
  have h4 := h.succeeded
  simp only [hchannel, Bool.toNat_false] at h4
  constructor
  · change (GfxCall.openStarted :: s.calls).count .openStarted =
      (GfxCall.openStarted :: s.calls).countP GfxCall.isOpenReturned +
        (s.goto t .opening).threads .opening
    rw [List.count_cons_self, List.countP_cons_of_neg (by simp [GfxCall.isOpenReturned])]
    omega
  · change (GfxCall.openStarted :: s.calls).count (.openReturned true) =
      (s.goto t .opening).threads .opened + s.pipeline.channelOpened.toNat
    rw [List.count_cons_of_ne (by decide), hchannel, Bool.toNat_false]
    omega
  · change (s.goto t .opening).threads .opening + (s.goto t .opening).threads .opened +
      s.pipeline.channelOpened.toNat ≤ 1
    rw [hchannel, Bool.toNat_false]
    omega

/-- Open returns to the thread that called it. -/
theorem OpenInv.openReturned (h : s.OpenInv) (hpc : s.pc t = .opening) (opened : Bool) :
    ((s.goto t (if opened then .opened else .idle)).log (.openReturned opened)).OpenInv := by
  have hgoto (pc' : InitPc) :
      (s.goto t (if opened then .opened else .idle)).threads pc' + _ = s.threads pc' + _ :=
    goto_threads pc'
  have h1 := hgoto .opening
  have h2 := hgoto .opened
  have h3 := h.started
  have h4 := h.succeeded
  have h5 := h.alone
  constructor
  · change (GfxCall.openReturned opened :: s.calls).count .openStarted =
      (GfxCall.openReturned opened :: s.calls).countP GfxCall.isOpenReturned +
        (s.goto t (if opened then .opened else .idle)).threads .opening
    rw [List.count_cons_of_ne (by simp), List.countP_cons_of_pos rfl]
    -- a failure lowers the count of threads inside and raises that of the returns
    cases opened <;> simp [hpc] at h1 ⊢ <;> omega
  · change (GfxCall.openReturned opened :: s.calls).count (.openReturned true) =
      (s.goto t (if opened then .opened else .idle)).threads .opened +
        s.pipeline.channelOpened.toNat
    cases opened <;> simp [hpc] at h2 ⊢ <;> omega
  · change (s.goto t (if opened then .opened else .idle)).threads .opening +
      (s.goto t (if opened then .opened else .idle)).threads .opened +
        s.pipeline.channelOpened.toNat ≤ 1
    cases opened <;> simp [hpc] at h1 h2 ⊢ <;> omega

/-- The thread past Open notes it, and is past it no more. -/
theorem OpenInv.relocked (h : s.OpenInv) (hpc : s.pc t = .opened) :
    (s.noteOpened.resetSurface t).OpenInv := by
  have h1 : (s.noteOpened.resetSurface t).threads .opening + (if s.pc t = .opening then 1 else 0) =
      s.threads .opening := resetSurface_threads (by decide) rfl
  have h2 : (s.noteOpened.resetSurface t).threads .opened + (if s.pc t = .opened then 1 else 0) =
      s.threads .opened := resetSurface_threads (by decide) rfl
  simp only [hpc, reduceCtorEq, if_false, if_true] at h1 h2
  have hcalls : (s.noteOpened.resetSurface t).calls = s.calls := resetSurface_calls
  have hchannel : (s.noteOpened.resetSurface t).pipeline.channelOpened = true := by
    rw [resetSurface_pipeline]
    rfl
  -- the thread past Open is traded for the flag
  have h3 := h.started
  have h4 := h.succeeded
  have h5 := h.alone
  constructor
  · rw [hcalls]
    omega
  · rw [hcalls, hchannel, Bool.toNat_true]
    omega
  · rw [hchannel, Bool.toNat_true]
    omega

/-- A send answers the first PDU that the thread has left. -/
theorem send_cases {accepted : Bool} (he : s.advance (.send t accepted) = some s') :
    ∃ pdu rest, s.pc t = .sending (pdu :: rest) ∧
      s' = (s.log (.pdu pdu accepted)).pduSent t rest accepted := by
  cases hpc : s.pc t with
  | sending rest =>
    cases rest with
    | nil => simp [advance, hpc] at he
    | cons pdu rest =>
      simp only [advance, hpc, Option.some.injEq] at he
      exact ⟨pdu, rest, rfl, he.symm⟩
  | _ => simp [advance, hpc] at he

theorem openInv_advance {e : SetupEvent} (h : s.OpenInv) (hC : SetupApart s e)
    (he : s.advance e = some s') (hdispose : ∀ accepted, e ≠ .dispose accepted) : s'.OpenInv := by
  cases e with
  | maybeInit t =>
    simp only [advance, Option.ite_none_right_eq_some, Option.some.injEq] at he
    obtain ⟨⟨-, hpc⟩, rfl⟩ := he
    exact h.entered hpc
  | callOpen t =>
    simp only [advance, Option.ite_none_right_eq_some, Option.some.injEq] at he
    obtain ⟨hpc, rfl⟩ := he
    exact h.called hC hpc
  | openReturns t opened =>
    simp only [advance, Option.ite_none_right_eq_some, Option.some.injEq] at he
    obtain ⟨hpc, rfl⟩ := he
    exact h.openReturned hpc opened
  | relock t =>
    simp only [advance, Option.ite_none_right_eq_some, Option.some.injEq] at he
    obtain ⟨⟨-, hpc⟩, rfl⟩ := he
    exact h.relocked hpc
  | send t accepted =>
    obtain ⟨pdu, rest, hpc, rfl⟩ := send_cases he
    have hlocks : ((s.log (.pdu pdu accepted)).pc t).locks = true := by
      change (s.pc t).locks = true
      rw [hpc]
      rfl
    refine h.of_same (pduSent_threads hlocks (by decide) rfl)
      (pduSent_threads hlocks (by decide) rfl) pduSent_channelOpened ?_
    rw [pduSent_calls]
    rfl
  | capsConfirm rc =>
    cases he
    exact h.of_same rfl rfl rfl rfl
  | capsConfirmed =>
    simp only [advance, Option.ite_none_right_eq_some, Option.some.injEq] at he
    obtain ⟨-, rfl⟩ := he
    exact h.of_same rfl rfl rfl rfl
  | dispose accepted => exact absurd rfl (hdispose accepted)

/-! What the calls say of the surface -/

theorem surfaceAlive_cons_of_not_pdu {surfaceId : UInt16} {c : GfxCall} {calls : List GfxCall}
    (hc : c.isPdu = false) : surfaceAlive surfaceId (c :: calls) = surfaceAlive surfaceId calls := by
  cases c with
  | pdu pdu accepted => cases hc
  | _ => rfl

/-- Only the PDUs count. -/
theorem surfaceAlive_filter (surfaceId : UInt16) (calls : List GfxCall) :
    surfaceAlive surfaceId (calls.filter GfxCall.isPdu) = surfaceAlive surfaceId calls := by
  induction calls with
  | nil => rfl
  | cons c calls ih =>
    cases c with
    | pdu pdu accepted =>
      rw [List.filter_cons_of_pos rfl]
      cases pdu with
      | createSurface i width height => cases accepted <;> simp [surfaceAlive, ih]
      | deleteSurface i => simp [surfaceAlive, ih]
      | resetGraphics width height => simpa [surfaceAlive] using ih
      | mapSurfaceToOutput i => simpa [surfaceAlive] using ih
    | _ =>
      rw [List.filter_cons_of_neg (by simp [GfxCall.isPdu])]
      exact ih

/-- A refused PDU leaves the surface as it is. -/
theorem surfaceAlive_refused {surfaceId : UInt16} {pdu : GfxPdu} {calls : List GfxCall}
    (hpdu : ∀ i, pdu ≠ .deleteSurface i) :
    surfaceAlive surfaceId (.pdu pdu false :: calls) = surfaceAlive surfaceId calls := by
  cases pdu with
  | deleteSurface i => exact absurd rfl (hpdu i)
  | _ => rfl

/-- The PDU that is sent next is one of three. -/
theorem Sending.cases {pdu : GfxPdu} {rest : List GfxPdu} (h : s.Sending (pdu :: rest)) :
    (pdu = .resetGraphics s.pipeline.width s.pipeline.height ∧
        rest = [.createSurface s.pipeline.surfaceId s.pipeline.width s.pipeline.height,
          .mapSurfaceToOutput s.pipeline.surfaceId]) ∨
      (pdu = .createSurface s.pipeline.surfaceId s.pipeline.width s.pipeline.height ∧
        rest = [.mapSurfaceToOutput s.pipeline.surfaceId]) ∨
      (pdu = .mapSurfaceToOutput s.pipeline.surfaceId ∧ rest = [] ∧
        surfaceAlive s.pipeline.surfaceId s.calls = true) := by
  obtain ⟨sent, hpdus, -, htake⟩ := h.sent
  unfold GraphicsPipeline.resetPdus at hpdus
  -- how many of the three were sent before
  match sent, hpdus with
  | [], hpdus =>
    simp only [List.nil_append, List.cons.injEq] at hpdus
    exact .inl ⟨hpdus.1.symm, hpdus.2.symm⟩
  | [_], hpdus =>
    simp only [List.cons_append, List.nil_append, List.cons.injEq] at hpdus
    exact .inr (.inl ⟨hpdus.2.1.symm, hpdus.2.2.symm⟩)
  | [_, created], hpdus =>
    simp only [List.cons_append, List.nil_append, List.cons.injEq] at hpdus
    obtain ⟨-, hcreated, hpdu, hrest⟩ := hpdus
    refine .inr (.inr ⟨hpdu.symm, hrest.symm, ?_⟩)
    -- the newest PDU among the calls is then the accepted CreateSurface
    rw [← surfaceAlive_filter]
    cases hfilter : s.calls.filter GfxCall.isPdu with
    | nil => simp [hfilter] at htake
    | cons c calls =>
      rw [hfilter] at htake
      simp only [List.length_cons, List.length_nil, List.take_succ_cons, List.map_cons,
        List.map_nil, List.reverse_cons, List.reverse_nil, List.nil_append, List.cons_append,
        List.cons.injEq] at htake
      rw [htake.1, ← hcreated]
      simp [surfaceAlive]
  | _ :: _ :: _ :: _, hpdus => simp at hpdus

theorem Sending.not_delete {pdu : GfxPdu} {rest : List GfxPdu} (h : s.Sending (pdu :: rest))
    (i : UInt16) : pdu ≠ .deleteSurface i := by
  rcases h.cases with ⟨rfl, -⟩ | ⟨rfl, -⟩ | ⟨rfl, -⟩ <;> simp

theorem Sending.next {pdu : GfxPdu} {rest : List GfxPdu} (h : s.Sending (pdu :: rest))
    (hrest : rest ≠ []) : (s.log (.pdu pdu true)).Sending rest := by
  obtain ⟨sent, hpdus, -, htake⟩ := h.sent
  refine ⟨h.confirmed, h.notReady, sent ++ [pdu], ?_, hrest, ?_⟩
  · rw [List.append_assoc]
    exact hpdus
  · change ((GfxCall.pdu pdu true :: s.calls).filter GfxCall.isPdu).take (sent ++ [pdu]).length = _
    rw [List.filter_cons_of_pos rfl, List.length_append, List.length_singleton,
      List.take_succ_cons, htake]
    simp

theorem resetLocked_accepted {p : GraphicsPipeline} (h : p.surfaceReady = false) :
    (p.resetLocked fun _ => true).2 = { p with
      nextFrameId := 1
      outstandingFrames := 0
      surfaceReady := true
      lastFrameH264 := false
      frameAcksSuspended := false
      capacityCond := true } := by
  simp [GraphicsPipeline.resetLocked, h]

theorem SurfaceInv.goto (h : s.SurfaceInv) (hfrom : (s.pc t).locks = false)
    (hto : pc.locks = false) : (s.goto t pc).SurfaceInv where
  confirmed := h.confirmed
  sending t' rest hpc := by
    by_cases ht : t' = t
    · rw [ht, goto_pc_self] at hpc
      rw [hpc] at hto
      cases hto
    · rw [goto_pc_of_ne ht] at hpc
      have hs := h.sending t' rest hpc
      exact ⟨hs.confirmed, hs.notReady, hs.sent⟩
  holder t' hlocks := by
    rcases eq_or_eq_other t t' with rfl | rfl
    · rw [goto_pc_self, hto] at hlocks
      cases hlocks
    · rw [other_other, goto_pc_self]
      exact hto
  alive halive := by
    rcases h.alive halive with hready | ⟨t', hpc⟩ | hfailed
    · exact .inl hready
    · refine .inr (.inl ⟨t', ?_⟩)
      rw [goto_pc_of_ne]
      · exact hpc
      · rintro rfl
        rw [hpc] at hfrom
        cases hfrom
    · exact .inr (.inr hfailed)
  failed := h.failed
  ready := h.ready

theorem SurfaceInv.log (h : s.SurfaceInv) {c : GfxCall} (hc : c.isPdu = false) :
    (s.log c).SurfaceInv where
  confirmed hcaps := by
    obtain ⟨rc, hrc⟩ := h.confirmed hcaps
    exact ⟨rc, List.mem_cons_of_mem c hrc⟩
  sending t rest hpc := by
    have hs := h.sending t rest hpc
    obtain ⟨sent, hpdus, hrest, htake⟩ := hs.sent
    refine ⟨hs.confirmed, hs.notReady, sent, hpdus, hrest, ?_⟩
    change ((c :: s.calls).filter GfxCall.isPdu).take _ = _
    rw [List.filter_cons_of_neg (by simp [hc])]
    exact htake
  holder := h.holder
  alive halive := by
    change surfaceAlive s.pipeline.surfaceId (c :: s.calls) = true at halive
    rw [surfaceAlive_cons_of_not_pdu hc] at halive
    rcases h.alive halive with hready | hpc | hfailed
    · exact .inl hready
    · exact .inr (.inl hpc)
    · exact .inr (.inr (List.mem_cons_of_mem c hfailed))
  failed hfailed := by
    change surfaceAlive s.pipeline.surfaceId (c :: s.calls) = true
    rw [surfaceAlive_cons_of_not_pdu hc]
    rcases List.mem_cons.mp hfailed with hhead | htail
    · rw [← hhead] at hc
      cases hc
    · exact h.failed htail
  ready hready := by
    change ((c :: s.calls).filter GfxCall.isPdu).take 3 = _
    rw [List.filter_cons_of_neg (by simp [hc])]
    exact h.ready hready

/-- A thread that holds no lock, while the other holds none, starts to send. -/
theorem SurfaceInv.resetSurface (h : s.SurfaceInv) (hfree : s.lockFree = true) :
    (s.resetSurface t).SurfaceInv := by
  have hnone := lockFree_iff.mp hfree
  unfold PipelineSetup.resetSurface
  split
  · rename_i hcond
    simp only [Bool.and_eq_true, Bool.not_eq_true'] at hcond
    exact {
      confirmed := h.confirmed
      -- nothing has been sent yet, so the calls say nothing of it
      sending := by
        intro t' rest hpc
        rcases eq_or_eq_other t t' with rfl | rfl
        · rw [goto_pc_self, InitPc.sending.injEq] at hpc
          rw [← hpc]
          exact ⟨hcond.1, hcond.2, [], rfl, by simp [GraphicsPipeline.resetPdus], rfl⟩
        · rw [goto_pc_other] at hpc
          have hlocks := hnone t.other
          rw [hpc] at hlocks
          cases hlocks
      holder := by
        intro t' hlocks
        rcases eq_or_eq_other t t' with rfl | rfl
        · rw [goto_pc_other]
          exact hnone _
        · rw [goto_pc_other, hnone] at hlocks
          cases hlocks
      alive := by
        intro halive
        rcases h.alive halive with hready | ⟨t', hpc⟩ | hfailed
        · exact .inl hready
        · -- no thread can be at MapSurfaceToOutput while `lock` is free
          have hlocks := hnone t'
          rw [hpc] at hlocks
          cases hlocks
        · exact .inr (.inr hfailed)
      failed := h.failed
      ready := h.ready }
  · exact h.goto (hnone t) rfl

/-- While the other thread holds no lock, one thread at most does. -/
theorem holder_goto (hother : (s.pc t.other).locks = false) (t' : InitThread)
    (hlocks : ((s.goto t pc).pc t').locks = true) : ((s.goto t pc).pc t'.other).locks = false := by
  rcases eq_or_eq_other t t' with rfl | rfl
  · rw [goto_pc_other]
    exact hother
  · rw [goto_pc_other, hother] at hlocks
    cases hlocks

theorem sending_goto (hother : (s.pc t.other).locks = false) {t' : InitThread}
    {rest : List GfxPdu} (hpc : (s.goto t pc).pc t' = .sending rest) : pc = .sending rest := by
  rcases eq_or_eq_other t t' with rfl | rfl
  · rwa [goto_pc_self] at hpc
  · rw [goto_pc_other] at hpc
    rw [hpc] at hother
    cases hother

theorem SurfaceInv.other_not_locks (h : s.SurfaceInv) {rest : List GfxPdu}
    (hpc : s.pc t = .sending rest) : (s.pc t.other).locks = false := by
  apply h.holder
  rw [hpc]
  rfl

/-- The thread that is to send MapSurfaceToOutput is the one that sends. -/
theorem SurfaceInv.sending_unique (h : s.SurfaceInv) {t' : InitThread} {rest rest' : List GfxPdu}
    (hpc : s.pc t = .sending rest) (hpc' : s.pc t' = .sending rest') : rest' = rest := by
  rcases eq_or_eq_other t t' with rfl | rfl
  · rw [hpc, InitPc.sending.injEq] at hpc'
    exact hpc'.symm
  · have hother := h.other_not_locks hpc
    rw [hpc'] at hother
    cases hother

/-- A PDU that is refused sends the thread back. -/
theorem SurfaceInv.refused (h : s.SurfaceInv) {pdu : GfxPdu} {rest : List GfxPdu}
    (hpc : s.pc t = .sending (pdu :: rest)) :
    ((s.log (.pdu pdu false)).goto t .idle).SurfaceInv := by
  have hs := h.sending t _ hpc
  have hother := h.other_not_locks hpc
  have hsame : surfaceAlive s.pipeline.surfaceId (.pdu pdu false :: s.calls) =
      surfaceAlive s.pipeline.surfaceId s.calls := surfaceAlive_refused hs.not_delete
  exact {
    confirmed := by
      intro hcaps
      obtain ⟨rc, hrc⟩ := h.confirmed hcaps
      exact ⟨rc, List.mem_cons_of_mem _ hrc⟩
    sending := by
      intro t' rest' hpc'
      cases sending_goto (s := s.log _) hother hpc'
    holder := holder_goto (s := s.log _) hother
    alive := by
      intro halive
      change surfaceAlive s.pipeline.surfaceId (.pdu pdu false :: s.calls) = true at halive
      rw [hsame] at halive
      rcases h.alive halive with hready | ⟨t', hmap⟩ | hfailed
      · exact .inl hready
      · have hrest := h.sending_unique hpc hmap
        rw [List.cons.injEq] at hrest
        rw [← hrest.1]
        exact .inr (.inr List.mem_cons_self)
      · exact .inr (.inr (List.mem_cons_of_mem _ hfailed))
    failed := by
      intro hfailed
      change surfaceAlive s.pipeline.surfaceId (.pdu pdu false :: s.calls) = true
      rw [hsame]
      rcases List.mem_cons.mp hfailed with hhead | htail
      · -- only MapSurfaceToOutput itself can have failed now
        simp only [GfxCall.pdu.injEq, and_true] at hhead
        rcases hs.cases with ⟨hp, -⟩ | ⟨hp, -⟩ | ⟨-, -, halive⟩
        · rw [hp] at hhead
          cases hhead
        · rw [hp] at hhead
          cases hhead
        · exact halive
      · exact h.failed htail
    ready := by
      intro hready
      have hnot : s.pipeline.surfaceReady = false := hs.notReady
      exact absurd (hnot.symm.trans hready) (by decide) }

/-- A PDU that is accepted and not the last. -/
theorem SurfaceInv.accepted (h : s.SurfaceInv) {pdu : GfxPdu} {rest : List GfxPdu}
    (hpc : s.pc t = .sending (pdu :: rest)) (hrest : rest ≠ []) :
    ((s.log (.pdu pdu true)).goto t (.sending rest)).SurfaceInv := by
  have hs := h.sending t _ hpc
  have hother := h.other_not_locks hpc
  exact {
    confirmed := by
      intro hcaps
      obtain ⟨rc, hrc⟩ := h.confirmed hcaps
      exact ⟨rc, List.mem_cons_of_mem _ hrc⟩
    sending := by
      intro t' rest' hpc'
      have hnext := hs.next hrest
      cases sending_goto (s := s.log _) hother hpc'
      exact ⟨hnext.confirmed, hnext.notReady, hnext.sent⟩
    holder := holder_goto (s := s.log _) hother
    alive := by
      intro halive
      rcases hs.cases with ⟨hp, hr⟩ | ⟨hp, hr⟩ | ⟨-, hr, -⟩
      · rw [hp] at halive
        rcases h.alive halive with hready | ⟨t', hmap⟩ | hfailed
        · exact .inl hready
        · have hlast := h.sending_unique hpc hmap
          rw [hr] at hlast
          cases hlast
        · exact .inr (.inr (List.mem_cons_of_mem _ hfailed))
      · -- CreateSurface: the surface is alive, and MapSurfaceToOutput is next
        refine .inr (.inl ⟨t, ?_⟩)
        rw [goto_pc_self, hr]
        rfl
      · exact absurd hr hrest
    failed := by
      intro hfailed
      have htail : .pdu (.mapSurfaceToOutput s.pipeline.surfaceId) false ∈ s.calls :=
        (List.mem_cons.mp hfailed).resolve_left (by simp)
      have halive := h.failed htail
      change surfaceAlive s.pipeline.surfaceId (.pdu pdu true :: s.calls) = true
      rcases hs.cases with ⟨hp, -⟩ | ⟨hp, -⟩ | ⟨-, hr, -⟩
      · rw [hp]
        exact halive
      · rw [hp]
        simp [surfaceAlive]
      · exact absurd hr hrest
    ready := by
      intro hready
      have hnot : s.pipeline.surfaceReady = false := hs.notReady
      exact absurd (hnot.symm.trans hready) (by decide) }

/-- The last PDU is accepted: the surface is ready. -/
theorem SurfaceInv.done (h : s.SurfaceInv) {pdu : GfxPdu} (hpc : s.pc t = .sending [pdu]) :
    ((s.log (.pdu pdu true)).pduSent t [] true).SurfaceInv := by
  have hs := h.sending t _ hpc
  have hother := h.other_not_locks hpc
  have hpipeline : ((s.log (.pdu pdu true)).pduSent t [] true).pipeline =
      (s.pipeline.resetLocked fun _ => true).2 := rfl
  rw [resetLocked_accepted hs.notReady] at hpipeline
  have hpdu : pdu = .mapSurfaceToOutput s.pipeline.surfaceId := by
    rcases hs.cases with ⟨-, hr⟩ | ⟨-, hr⟩ | ⟨hp, -⟩
    · cases hr
    · cases hr
    · exact hp
  exact {
    confirmed := by
      intro hcaps
      rw [hpipeline] at hcaps
      obtain ⟨rc, hrc⟩ := h.confirmed hcaps
      exact ⟨rc, List.mem_cons_of_mem _ hrc⟩
    sending := by
      intro t' rest' hpc'
      have hidle : InitPc.idle = .sending rest' := sending_goto (s := s.log _) hother hpc'
      cases hidle
    holder := by
      intro t' hlocks
      exact holder_goto (s := s.log _) hother t' hlocks
    alive := by
      intro _
      rw [hpipeline]
      exact .inl rfl
    failed := by
      intro hfailed
      rw [hpipeline] at hfailed ⊢
      change surfaceAlive s.pipeline.surfaceId (.pdu pdu true :: s.calls) = true
      rw [hpdu]
      have htail : .pdu (.mapSurfaceToOutput s.pipeline.surfaceId) false ∈ s.calls :=
        (List.mem_cons.mp hfailed).resolve_left (by simp)
      exact h.failed htail
    ready := by
      intro _
      -- the two before it and this one are the newest three
      obtain ⟨sent, hpdus, -, htake⟩ := hs.sent
      rw [hpipeline]
      change ((GfxCall.pdu pdu true :: s.calls).filter GfxCall.isPdu).take 3 =
        (s.pipeline.resetPdus.map fun pdu => GfxCall.pdu pdu true).reverse
      have hlen : sent.length = 2 := by
        have hlen := congrArg List.length hpdus
        simp only [GraphicsPipeline.resetPdus, List.length_append, List.length_cons,
          List.length_nil] at hlen
        omega
      rw [List.filter_cons_of_pos rfl, List.take_succ_cons, ← hlen, htake, hpdus]
      simp }

theorem surfaceInv_advance {e : SetupEvent} (h : s.SurfaceInv) (he : s.advance e = some s')
    (hdispose : ∀ accepted, e ≠ .dispose accepted) : s'.SurfaceInv := by
  cases e with
  | maybeInit t =>
    simp only [advance, Option.ite_none_right_eq_some, Option.some.injEq] at he
    obtain ⟨⟨hfree, -⟩, rfl⟩ := he
    split
    · exact h.resetSurface hfree
    · exact h.goto (lockFree_iff.mp hfree t) rfl
  | callOpen t =>
    simp only [advance, Option.ite_none_right_eq_some, Option.some.injEq] at he
    obtain ⟨hpc, rfl⟩ := he
    have hfrom : (s.pc t).locks = false := by rw [hpc]; rfl
    exact (h.goto hfrom rfl).log rfl
  | openReturns t opened =>
    simp only [advance, Option.ite_none_right_eq_some, Option.some.injEq] at he
    obtain ⟨hpc, rfl⟩ := he
    have hfrom : (s.pc t).locks = false := by rw [hpc]; rfl
    exact (h.goto hfrom (by cases opened <;> rfl)).log rfl
  | relock t =>
    simp only [advance, Option.ite_none_right_eq_some, Option.some.injEq] at he
    obtain ⟨⟨hfree, -⟩, rfl⟩ := he
    have hopened : s.noteOpened.SurfaceInv :=
      { confirmed := h.confirmed
        sending := fun t rest hpc =>
          have hs := h.sending t rest hpc
          ⟨hs.confirmed, hs.notReady, hs.sent⟩
        holder := h.holder
        alive := h.alive
        failed := h.failed
        ready := h.ready }
    exact hopened.resetSurface hfree
  | send t accepted =>
    obtain ⟨pdu, rest, hpc, rfl⟩ := send_cases he
    cases accepted with
    | false => exact h.refused hpc
    | true =>
      cases rest with
      | nil => exact h.done hpc
      | cons pdu' rest => exact h.accepted hpc (List.cons_ne_nil _ _)
  | capsConfirm rc =>
    cases he
    have hlog := h.log (c := .capsConfirm rc) rfl
    exact {
      confirmed := fun _ => ⟨rc, List.mem_cons_self⟩
      sending := fun t rest hpc =>
        have hs := hlog.sending t rest hpc
        ⟨hs.confirmed, hs.notReady, hs.sent⟩
      holder := hlog.holder
      alive := hlog.alive
      failed := hlog.failed
      ready := hlog.ready }
  | capsConfirmed =>
    simp only [advance, Option.ite_none_right_eq_some, Option.some.injEq] at he
    obtain ⟨⟨hfree, hpending⟩, rfl⟩ := he
    exact {
      confirmed := fun _ => h.confirmed (.inr hpending)
      sending := fun t rest hpc =>
        have hs := h.sending t rest hpc
        ⟨rfl, hs.notReady, hs.sent⟩
      holder := h.holder
      alive := h.alive
      failed := h.failed
      ready := h.ready }
  | dispose accepted => exact absurd rfl (hdispose accepted)

theorem openStarted_allowed (h : s.OpenInv) (hpc : s.pc t = .unlocked)
    (hC : SetupApart s (.callOpen t)) : GfxCall.openStarted.Allowed s.calls := by
  obtain ⟨hopening, hopened⟩ := threads_eq_zero_of_apart hC hpc
  have hchannel : s.pipeline.channelOpened = false := hC.1
  constructor
  · have hstarted := h.started
    omega
  · have hsucceeded := h.succeeded
    rw [hopened, hchannel] at hsucceeded
    exact List.count_eq_zero.mp hsucceeded

theorem not_openStarted_allowed (h : s.OpenInv) (hC : ¬ SetupApart s (.callOpen t)) :
    ¬ GfxCall.openStarted.Allowed s.calls := by
  rintro ⟨hreturned, hnone⟩
  have hstarted := h.started
  have hsucceeded := h.succeeded
  rw [List.count_eq_zero.mpr hnone] at hsucceeded
  apply hC
  refine ⟨?_, ?_, ?_⟩
  · cases hchannel : s.pipeline.channelOpened with
    | false => rfl
    | true =>
      rw [hchannel, Bool.toNat_true] at hsucceeded
      omega
  · exact ((threads_eq_zero_iff (t := t)).mp (by omega)).2
  · exact ((threads_eq_zero_iff (t := t)).mp (by omega)).2

theorem pdu_allowed (h : s.SurfaceInv) {pdu : GfxPdu} {rest : List GfxPdu} {accepted : Bool}
    (hpc : s.pc t = .sending (pdu :: rest)) (hC : SetupApart s (.send t accepted)) :
    (GfxCall.pdu pdu accepted).Allowed s.calls := by
  have hs := h.sending t _ hpc
  have hconfirmed := h.confirmed (.inl hs.confirmed)
  rcases hs.cases with ⟨rfl, -⟩ | ⟨rfl, rfl⟩ | ⟨rfl, -⟩
  · exact hconfirmed
  · refine ⟨hconfirmed, ?_⟩
    intro haccepted
    subst haccepted
    -- the surface can only be alive after a MapSurfaceToOutput that failed
    by_contra halive
    rw [Bool.not_eq_false] at halive
    rcases h.alive halive with hready | ⟨t', hmap⟩ | hfailed
    · rw [hs.notReady] at hready
      cases hready
    · have hlast := h.sending_unique hpc hmap
      cases hlast
    · exact hC _ _ _ _ hpc hfailed
  · exact hconfirmed

theorem not_pdu_allowed (h : s.SurfaceInv) (hC : ¬ SetupApart s (.send t true))
    {pdu : GfxPdu} {rest : List GfxPdu} (hpc : s.pc t = .sending (pdu :: rest)) :
    ¬ (GfxCall.pdu pdu true).Allowed s.calls := by
  intro hallowed
  apply hC
  intro surfaceId width height rest' hpc' hfailed
  rw [hpc, InitPc.sending.injEq, List.cons.injEq] at hpc'
  rcases (h.sending t _ hpc).cases with ⟨hp, -⟩ | ⟨hp, -⟩ | ⟨hp, -⟩
  · rw [hp] at hpc'
    cases hpc'.1
  · -- the guard only speaks of CreateSurface, whose surface is still alive
    rw [hp, GfxPdu.createSurface.injEq] at hpc'
    rw [hp] at hallowed
    have halive := h.failed (hpc'.1.1 ▸ hfailed)
    rw [hallowed.2 rfl] at halive
    cases halive
  · rw [hp] at hpc'
    cases hpc'.1

/-- The calls of a step stay in order. -/
theorem callsInOrder_advance {e : SetupEvent} (hcalls : CallsInOrder s.calls) (ho : s.OpenInv)
    (h : s.SurfaceInv) (hC : SetupApart s e) (he : s.advance e = some s') :
    CallsInOrder s'.calls := by
  cases e with
  | maybeInit t =>
    simp only [advance, Option.ite_none_right_eq_some, Option.some.injEq] at he
    obtain ⟨-, rfl⟩ := he
    split
    · rw [resetSurface_calls]
      exact hcalls
    · exact hcalls
  | callOpen t =>
    simp only [advance, Option.ite_none_right_eq_some, Option.some.injEq] at he
    obtain ⟨hpc, rfl⟩ := he
    have hallowed : GfxCall.openStarted.Allowed s.calls := openStarted_allowed ho hpc hC
    exact ⟨hallowed, hcalls⟩
  | openReturns t opened =>
    simp only [advance, Option.ite_none_right_eq_some, Option.some.injEq] at he
    obtain ⟨-, rfl⟩ := he
    exact ⟨trivial, hcalls⟩
  | relock t =>
    simp only [advance, Option.ite_none_right_eq_some, Option.some.injEq] at he
    obtain ⟨-, rfl⟩ := he
    rw [resetSurface_calls]
    exact hcalls
  | send t accepted =>
    obtain ⟨pdu, rest, hpc, rfl⟩ := send_cases he
    rw [pduSent_calls]
    exact ⟨pdu_allowed h hpc hC, hcalls⟩
  | capsConfirm rc =>
    cases he
    exact ⟨trivial, hcalls⟩
  | capsConfirmed =>
    simp only [advance, Option.ite_none_right_eq_some, Option.some.injEq] at he
    obtain ⟨-, rfl⟩ := he
    exact hcalls
  | dispose accepted =>
    cases he
    change CallsInOrder (s.disposeCalls accepted ++ s.calls)
    unfold disposeCalls
    split <;> split <;> simp [CallsInOrder, GfxCall.Allowed, hcalls]

theorem setUpInOrder_of_inv (hcalls : CallsInOrder s.calls) (ho : s.OpenInv) (h : s.SurfaceInv) :
    SetUpInOrder s where
  calls := hcalls
  openOnce := by
    have hsucceeded := ho.succeeded
    have halone := ho.alone
    omega
  ready := h.ready

/-- What holds of a pipeline in use, and what is left once it is disposed of. -/
structure Kept (s : PipelineSetup) : Prop where
  order : SetUpInOrder s
  inv : s.disposed = false → s.OpenInv ∧ s.SurfaceInv

theorem kept_init (hs : pipelineSetup.init s) : s.Kept := by
  obtain ⟨width, height, rfl⟩ := hs
  have ho : OpenInv { pipeline := { width := width, height := height } } :=
    ⟨rfl, rfl, Nat.zero_le 1⟩
  have h : SurfaceInv { pipeline := { width := width, height := height } } :=
    { confirmed := by simp
      sending := fun t rest hpc => by cases hpc
      holder := fun t hlocks => by cases hlocks
      alive := fun halive => by cases halive
      failed := fun hfailed => by cases hfailed
      ready := fun hready => by cases hready }
  exact ⟨setUpInOrder_of_inv trivial ho h, fun _ => ⟨ho, h⟩⟩

/-- A step is one of a pipeline in use. -/
theorem Kept.in_use {e : SetupEvent} (hk : s.Kept) (he : pipelineSetup.step s e = some s') :
    s.OpenInv ∧ s.SurfaceInv ∧ s.advance e = some s' := by
  change s.step e = some s' at he
  unfold step at he
  split at he
  · cases he
  · rename_i hdisposed
    obtain ⟨ho, h⟩ := hk.inv (by simpa using hdisposed)
    exact ⟨ho, h, he⟩

theorem kept_step {e : SetupEvent} (hk : s.Kept) (hC : SetupApart s e)
    (he : pipelineSetup.step s e = some s') : s'.Kept := by
  obtain ⟨ho, h, he⟩ := hk.in_use he
  have hcalls := callsInOrder_advance hk.order.calls ho h hC he
  cases e with
  | dispose accepted =>
    cases he
    refine ⟨⟨hcalls, ?_, fun hready => by cases hready⟩, fun hdisposed => by cases hdisposed⟩
    -- dispose opens nothing, and leaves no surface ready
    change (s.disposeCalls accepted ++ s.calls).count (.openReturned true) ≤ 1
    have hnone : (s.disposeCalls accepted).count (.openReturned true) = 0 := by
      unfold disposeCalls
      split <;> split <;> rfl
    rw [List.count_append, hnone, Nat.zero_add]
    exact hk.order.openOnce
  -- every other step keeps both invariants, and with them the order
  | _ =>
    have ho' := openInv_advance ho hC he (by simp)
    have h' := surfaceInv_advance h he (by simp)
    exact ⟨setUpInOrder_of_inv hcalls ho' h', fun _ => ⟨ho', h'⟩⟩

/-- A step that is not apart makes a call that is out of order. -/
theorem not_setUpInOrder_step {e : SetupEvent} (hk : s.Kept) (hC : ¬ SetupApart s e)
    (he : pipelineSetup.step s e = some s') : ¬ SetUpInOrder s' := by
  obtain ⟨ho, h, he⟩ := hk.in_use he
  intro horder
  cases e with
  | callOpen t =>
    simp only [advance, Option.ite_none_right_eq_some, Option.some.injEq] at he
    obtain ⟨-, rfl⟩ := he
    exact not_openStarted_allowed ho hC horder.calls.1
  | send t accepted =>
    cases accepted with
    | false => exact hC trivial
    | true =>
      obtain ⟨pdu, rest, hpc, rfl⟩ := send_cases he
      have hcalls := horder.calls
      rw [pduSent_calls] at hcalls
      exact not_pdu_allowed h hC hpc hcalls.1
  | _ => exact hC trivial

end PipelineSetup

section Alone

variable {s : PipelineSetup} {t : InitThread}

open PipelineSetup

/-- The PDUs that are left, sent by a thread that nothing interrupts. -/
theorem send_alone (answer : GfxPdu → Bool) {pdu : GfxPdu} {rest : List GfxPdu}
    (hdisposed : s.disposed = false) (hpc : s.pc t = .sending (pdu :: rest)) :
    ∃ es s', pipelineSetup.run s es = some s' ∧ s'.pc = Function.update s.pc t .idle ∧
      s'.pipeline =
        if (pdu :: rest).all answer then (s.pipeline.resetLocked fun _ => true).2
        else s.pipeline := by
  -- on the PDUs left; the first refusal ends it
  induction rest generalizing s pdu with
  | nil =>
    refine ⟨[.send t (answer pdu)], (s.log (.pdu pdu (answer pdu))).pduSent t [] (answer pdu),
      ?_, ?_, ?_⟩
    · simp [EventMachine.run, pipelineSetup, step, hdisposed, advance, hpc]
    · cases answer pdu <;> rfl
    · cases hanswer : answer pdu with
      | false => simp [hanswer, pduSent, goto, log]
      | true => simp [hanswer, pduSent, goto, log]
  | cons next rest ih =>
    have hstep : pipelineSetup.step s (.send t (answer pdu)) =
        some ((s.log (.pdu pdu (answer pdu))).pduSent t (next :: rest) (answer pdu)) := by
      simp [pipelineSetup, step, hdisposed, advance, hpc]
    cases hanswer : answer pdu with
    | false =>
      rw [hanswer] at hstep
      refine ⟨[.send t false], (s.log (.pdu pdu false)).pduSent t (next :: rest) false,
        by simp [EventMachine.run, hstep], rfl, ?_⟩
      simp [hanswer, pduSent, goto, log]
    | true =>
      rw [hanswer] at hstep
      have hmid : ((s.log (.pdu pdu true)).goto t (.sending (next :: rest))).pc t =
          .sending (next :: rest) := goto_pc_self
      obtain ⟨es, s', hrun, hpc', hpipeline⟩ :=
        ih (s := (s.log (.pdu pdu true)).goto t (.sending (next :: rest))) hdisposed hmid
      refine ⟨.send t true :: es, s', ?_, ?_, ?_⟩
      · rw [EventMachine.run, hstep]
        exact hrun
      · rw [hpc']
        exact Function.update_idem ..
      · rw [hpipeline, List.all_cons, List.all_cons, hanswer]
        rfl

theorem resetSurface_alone (answer : GfxPdu → Bool) (hdisposed : s.disposed = false) :
    ∃ es s', pipelineSetup.run (s.resetSurface t) es = some s' ∧
      s'.pc = Function.update s.pc t .idle ∧
      s'.pipeline =
        if s.pipeline.capsConfirmed then (s.pipeline.resetLocked answer).2 else s.pipeline := by
  unfold PipelineSetup.resetSurface
  cases hcaps : s.pipeline.capsConfirmed with
  | false => exact ⟨[], s.goto t .idle, rfl, rfl, rfl⟩
  | true =>
    cases hready : s.pipeline.surfaceReady with
    | true =>
      refine ⟨[], s.goto t .idle, rfl, rfl, ?_⟩
      simp [GraphicsPipeline.resetLocked, hready, goto]
    | false =>
      have hmid : (s.goto t (.sending s.pipeline.resetPdus)).pc t =
          .sending s.pipeline.resetPdus := goto_pc_self
      obtain ⟨es, s', hrun, hpc, hpipeline⟩ :=
        send_alone (s := s.goto t (.sending s.pipeline.resetPdus)) answer hdisposed hmid
      refine ⟨es, s', hrun, ?_, ?_⟩
      · rw [hpc]
        exact Function.update_idem ..
      · rw [hpipeline]
        change (if s.pipeline.resetPdus.all answer then (s.pipeline.resetLocked fun _ => true).2
          else s.pipeline) = _
        cases hall : s.pipeline.resetPdus.all answer <;>
          simp [GraphicsPipeline.resetLocked, hready, hall]

/-- Open without an interruption: the thread is back at its place, or past Open. -/
theorem open_alone (opened : Bool) (hdisposed : s.disposed = false) (hfree : s.lockFree = true)
    (hpc : s.pc t = .idle) (hchannel : s.pipeline.channelOpened = false) :
    ∃ s', pipelineSetup.run s [.maybeInit t, .callOpen t, .openReturns t opened] = some s' ∧
      s'.pc = Function.update s.pc t (if opened then .opened else .idle) ∧
      s'.pipeline = s.pipeline ∧ s'.disposed = false := by
  refine ⟨((((s.goto t .unlocked).goto t .opening).log .openStarted).goto t
    (if opened then .opened else .idle)).log (.openReturned opened), ?_, ?_, rfl, hdisposed⟩
  · simp [EventMachine.run, pipelineSetup, step, hdisposed, advance, hfree, hpc, hchannel, goto,
      PipelineSetup.log]
  · simp [goto, PipelineSetup.log]

/-- A call of `maybe_init` that nothing interrupts is the one step of the pipeline's model. -/
theorem maybeInit_alone (opened : Bool) (answer : GfxPdu → Bool) (hdisposed : s.disposed = false)
    (hfree : s.lockFree = true) (hpc : s.pc t = .idle) :
    ∃ es s', pipelineSetup.run s es = some s' ∧ s'.pc = s.pc ∧
      s'.pipeline = (s.pipeline.maybeInit opened answer).2 := by
  have hback : Function.update s.pc t .idle = s.pc := by
    rw [← hpc]
    exact Function.update_eq_self t s.pc
  have hstep (s : PipelineSetup) (e : SetupEvent) (hs : s.disposed = false) :
      pipelineSetup.step s e = s.advance e := by
    simp [pipelineSetup, step, hs]
  -- with the channel open `lock` is not given up in between
  cases hchannel : s.pipeline.channelOpened with
  | true =>
    obtain ⟨es, s', hrun, hpc', hpipeline⟩ := resetSurface_alone (t := t) answer hdisposed
    refine ⟨.maybeInit t :: es, s', ?_, hpc'.trans hback, ?_⟩
    · rw [EventMachine.run, hstep _ _ hdisposed]
      simpa [advance, hfree, hpc, hchannel] using hrun
    · have hsame : { s.pipeline with channelOpened := true } = s.pipeline := by
        rw [← hchannel]
      rw [hpipeline]
      simp only [GraphicsPipeline.maybeInit, hchannel, Bool.true_or, if_true, hsame]
      cases s.pipeline.capsConfirmed <;> rfl
  | false =>
    obtain ⟨u, hopen, hpcu, hpipelineu, hdisposedu⟩ :=
      open_alone opened hdisposed hfree hpc hchannel
    cases opened with
    | false =>
      refine ⟨_, u, hopen, hpcu.trans hback, ?_⟩
      simp [hpipelineu, GraphicsPipeline.maybeInit, hchannel]
    | true =>
      -- Open has left `lock` as it was
      have hfreeu : u.lockFree = true := by
        rw [lockFree_iff] at hfree ⊢
        intro t'
        rw [hpcu]
        rcases eq_or_eq_other t t' with rfl | rfl
        · rw [Function.update_self]
          rfl
        · rw [Function.update_of_ne (other_ne t)]
          exact hfree _
      have hopenedu : u.pc t = .opened := by
        rw [hpcu]
        exact Function.update_self ..
      obtain ⟨es, s', hrun, hpc', hpipeline⟩ :=
        resetSurface_alone (s := u.noteOpened) (t := t) answer hdisposedu
      have hrelock : pipelineSetup.run u (.relock t :: es) = some s' := by
        rw [EventMachine.run, hstep _ _ hdisposedu]
        simpa [advance, hfreeu, hopenedu] using hrun
      refine ⟨[.maybeInit t, .callOpen t, .openReturns t true] ++ .relock t :: es, s', ?_, ?_, ?_⟩
      · rw [EventMachine.run_append, hopen]
        exact hrelock
      · rw [hpc', ← hback]
        change Function.update u.pc t .idle = _
        rw [hpcu]
        exact Function.update_idem ..
      · rw [hpipeline]
        simp only [noteOpened, hpipelineu, GraphicsPipeline.maybeInit, hchannel, Bool.or_true,
          if_true]
        cases s.pipeline.capsConfirmed <;> rfl

end Alone

/-- The surface is set up in order and once throughout a run if and only if all its steps keep
the threads apart. -/
theorem pipeline_set_up_in_order_iff {s t : PipelineSetup} (hs : pipelineSetup.init s)
    (es : List SetupEvent) (hrun : pipelineSetup.run s es = some t) :
    pipelineSetup.StatesMeet SetUpInOrder s es ↔ pipelineSetup.StepsMeet SetupApart s es :=
  EventMachine.statesMeet_iff_stepsMeet (fun _ hk => hk.order)
    (fun _ _ _ hk hC he => PipelineSetup.kept_step hk hC he)
    (fun _ _ _ hk hC he => PipelineSetup.not_setUpInOrder_step hk hC he)
    (PipelineSetup.kept_init hs) es hrun

/-- The vcm thread opens the channel, and the render thread sets the surface up. -/
def orderlySetup : List SetupEvent :=
  [.maybeInit .vcm, .callOpen .vcm, .capsConfirm 0, .openReturns .vcm true, .relock .vcm,
    .capsConfirmed, .maybeInit .render, .send .render true, .send .render true,
    .send .render true, .maybeInit .vcm, .dispose true]

def newPipeline : PipelineSetup :=
  { pipeline := { width := 1024, height := 768 } }

theorem orderlySetup_runs : (pipelineSetup.run newPipeline orderlySetup).isSome := by decide

theorem orderlySetup_in_order :
    pipelineSetup.StatesMeet SetUpInOrder newPipeline orderlySetup ↔
      pipelineSetup.StepsMeet SetupApart newPipeline orderlySetup :=
  pipeline_set_up_in_order_iff ⟨1024, 768, rfl⟩ orderlySetup
    (Option.some_get orderlySetup_runs).symm

/-- Both threads find the channel closed, and the vcm thread calls Open while the render
thread is inside it. -/
def openTwice : List SetupEvent :=
  [.maybeInit .render, .callOpen .render, .maybeInit .vcm, .callOpen .vcm]

/-- The surface is created again after it could not be mapped. -/
def createTwice : List SetupEvent :=
  [.maybeInit .vcm, .callOpen .vcm, .openReturns .vcm true, .capsConfirm 0, .capsConfirmed,
    .relock .vcm, .send .vcm true, .send .vcm true, .send .vcm false,
    .maybeInit .vcm, .send .vcm true, .send .vcm true]

theorem openTwice_runs : (pipelineSetup.run newPipeline openTwice).isSome := by decide

theorem createTwice_runs : (pipelineSetup.run newPipeline createTwice).isSome := by decide

theorem pipeline_set_up_twice :
    pipelineSetup.init newPipeline ∧
      ¬ pipelineSetup.StatesMeet SetUpInOrder newPipeline openTwice ∧
      ¬ pipelineSetup.StatesMeet SetUpInOrder newPipeline createTwice := by
  refine ⟨⟨1024, 768, rfl⟩, ?_, ?_⟩
  · intro h
    have hcalls : ((pipelineSetup.run newPipeline openTwice).get openTwice_runs).calls =
        [.openStarted, .openStarted] := by decide
    have hlast := (h.last (Option.some_get openTwice_runs).symm).calls
    rw [hcalls] at hlast
    exact absurd hlast.1.1 (by decide)
  · intro h
    have hcalls : ((pipelineSetup.run newPipeline createTwice).get createTwice_runs).calls =
        [.pdu (.createSurface 1 1024 768) true, .pdu (.resetGraphics 1024 768) true,
          .pdu (.mapSurfaceToOutput 1) false, .pdu (.createSurface 1 1024 768) true,
          .pdu (.resetGraphics 1024 768) true, .capsConfirm 0, .openReturned true,
          .openStarted] := by decide
    have hlast := (h.last (Option.some_get createTwice_runs).symm).calls
    rw [hcalls] at hlast
    exact absurd (hlast.1.2 rfl) (by decide)

end RemoteDesktop.DRD
