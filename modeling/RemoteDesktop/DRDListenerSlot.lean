import RemoteDesktop.DRDSession

/-! The session slot of a listener: `drd_rdp_listener_accept_peer` on the main thread, with
the vcm thread that it starts before it has put the session into `sessions` and installed
the closed callback. -/
namespace RemoteDesktop.DRD

/-- Where `accept_peer` is: the vcm thread runs, `vcm_thread` and `ctx->listener` are
stored, the session is in `sessions`. -/
inductive AcceptPc
  | threadStarted
  | threadStored
  | sessionAdded
  deriving DecidableEq, Repr

/-- `callbacks` and `registrations` are history: the calls of the closed callback, and those
of `drd_rdp_session_set_closed_callback`. -/
structure ListenerSlot where
  runtime : ServerRuntime := {}
  sessions : List ℕ := []
  accepting : Option (ℕ × AcceptPc) := none
  session : ℕ → Session := fun _ => drdRdpSessionNew false none
  started : List ℕ := []
  callbacks : ℕ → ℕ := fun _ => 0
  registrations : ℕ → ℕ := fun _ => 0

inductive SlotEvent
  | acceptPeer (i : ℕ) (passiveMode : Bool) (size : Option (UInt16 × UInt16))
  | storeThread
  | addSession
  | setClosedCallback
  | session (i : ℕ) (e : SessionEvent)

/-- The closed callback ran: `notify_closed` has set its flag. -/
def Session.notified (before after : Session) : Bool :=
  !before.closedCbInvoked && after.closedCbInvoked

/-- `peer->Disconnect` ran, which is `drd_peer_disconnected`. -/
def Session.disconnected (before after : Session) : Bool :=
  before.peer && !after.peer

namespace ListenerSlot

variable (s : ListenerSlot)

/-- `drd_rdp_listener_session_closed`. -/
def sessionClosed (i : ℕ) : ListenerSlot :=
  if i ∈ s.sessions then
    { s with
      sessions := s.sessions.erase i
      runtime :=
        if s.sessions.erase i = [] then { s.runtime with streamRunning := false } else s.runtime }
  else s

/-- A step of a session, before the listener hears of it. -/
def withSession (i : ℕ) (res : SessionResult) : ListenerSlot :=
  { s with
    session := Function.update s.session i res.session
    runtime := res.calls.foldl ServerRuntime.apply s.runtime
    callbacks := Function.update s.callbacks i
      (s.callbacks i + ((s.session i).notified res.session).toNat) }

/-- The closed callback tells the listener, and `drd_peer_disconnected` does where it finds
`ctx->listener`. -/
def afterSession (i : ℕ) (res : SessionResult) : ListenerSlot :=
  -- before `ctx->listener` is stored the disconnect finds no listener
  if (s.session i).notified res.session ∨
      ((s.session i).disconnected res.session ∧ s.accepting ≠ some (i, .threadStarted)) then
    (s.withSession i res).sessionClosed i
  else s.withSession i res

/-- The steps that `accept_peer` takes for a session are events of their own. -/
def ownStep : SessionEvent → Bool
  | .vcmThreadStored => false
  | .closedCallbackSet => false
  | _ => true

def step : SlotEvent → Option ListenerSlot
  | .acceptPeer i passiveMode size =>
    if s.accepting = none ∧ i ∉ s.started then
      -- `drd_rdp_listener_has_active_session` rejects the peer
      if s.sessions ≠ [] then some s
      else
        some { s with
          session := Function.update s.session i (drdRdpSessionNew passiveMode size)
          accepting := some (i, .threadStarted)
          started := i :: s.started }
    else none
  | .storeThread =>
    match s.accepting with
    | some (i, .threadStarted) =>
      -- `vcm_thread`, and after it `ctx->listener`
      ((s.session i).step s.runtime .vcmThreadStored).map fun res =>
        { s.afterSession i res with accepting := some (i, .threadStored) }
    | _ => none
  | .addSession =>
    match s.accepting with
    | some (i, .threadStored) =>
      -- a thread that has finished by now is added all the same
      some { s with sessions := i :: s.sessions, accepting := some (i, .sessionAdded) }
    | _ => none
  | .setClosedCallback =>
    match s.accepting with
    | some (i, .sessionAdded) =>
      -- the callback runs here if `connection_alive` is already cleared
      ((s.session i).step s.runtime .closedCallbackSet).map fun res =>
        { s.afterSession i res with
          accepting := none
          registrations := Function.update s.registrations i (s.registrations i + 1) }
    | _ => none
  | .session i e =>
    if i ∈ s.started ∧ ownStep e then
      ((s.session i).step s.runtime e).map (s.afterSession i)
    else none

end ListenerSlot

def listenerSlot : EventMachine ListenerSlot SlotEvent where
  init s := s = {}
  step := ListenerSlot.step

/-- A session whose vcm thread has finished, and which `accept_peer` has left, is not in
`sessions`. Where this is all of them the next peer is not rejected. -/
structure SlotFree (s : ListenerSlot) : Prop where
  removed : ∀ i, (s.session i).vcm = .exited → (∀ pc, s.accepting ≠ some (i, pc)) →
    i ∉ s.sessions
  callbackOnce : ∀ i, s.callbacks i ≤ s.registrations i
  free : s.accepting = none → (∀ i ∈ s.started, (s.session i).vcm = .exited) → s.sessions = []

/-- `set_closed_callback` does not find `connection_alive` set on a session whose vcm thread
has finished. Only the exit through WAIT_FAILED leaves it so. -/
def CallbackInTime (s : ListenerSlot) : SlotEvent → Prop
  | .setClosedCallback =>
    ∀ i, s.accepting = some (i, .sessionAdded) →
      ¬ ((s.session i).vcm = .exited ∧ (s.session i).connectionAlive = true)
  | _ => True

/-- The vcm thread has left its loop, or has finished. -/
def Session.Leaving (s : Session) : Prop :=
  match s.vcm with
  | .ending | .notify | .exited => True
  | .loop | .wait | .check | .callback _ | .channels => False

/-- It did so with `connection_alive` set. -/
structure Session.LeftAlive (s : Session) : Prop where
  alive : s.connectionAlive = true
  leaving : s.Leaving

/-! What a session does to the fields that the listener sees. -/

/-- A session's own step. -/
structure SlotEffect (s s' : Session) : Prop where
  closedCb : s'.closedCb = s.closedCb
  invoked : s.closedCbInvoked = true → s'.closedCbInvoked = true
  notified : s'.closedCbInvoked = true → s.closedCbInvoked = true ∨ s.closedCb = true
  alive : s'.connectionAlive = true → s.connectionAlive = true
  disconnected : s.disconnected s' = true → s'.connectionAlive = false
  exited : s'.vcm = .exited → s.vcm = .exited ∨ (s.closedCb = true → s'.closedCbInvoked = true)

section Effect

variable {s s' : Session}

theorem disconnected_of_peer (h : s'.peer = s.peer) : s.disconnected s' = false := by
  unfold Session.disconnected
  rw [h]
  cases s.peer <;> rfl

/-- A step that leaves the fields that `notify_closed` reads. -/
theorem SlotEffect.of_frame (hcb : s'.closedCb = s.closedCb)
    (hinvoked : s'.closedCbInvoked = s.closedCbInvoked) (hpeer : s'.peer = s.peer)
    (halive : s'.connectionAlive = true → s.connectionAlive = true)
    (hvcm : s'.vcm = .exited → s.vcm = .exited) : SlotEffect s s' where
  closedCb := hcb
  invoked h := hinvoked.trans h
  notified h := .inl (hinvoked.symm.trans h)
  alive := halive
  disconnected h := by
    rw [disconnected_of_peer hpeer] at h
    cases h
  exited h := .inl (hvcm h)

theorem notifyClosed_invoked (s : Session) :
    s.notifyClosed.1.closedCbInvoked = (s.closedCbInvoked || s.closedCb) := by
  unfold Session.notifyClosed
  cases s.closedCb <;> cases h : s.closedCbInvoked <;> simp [h]

/-- The rest of the session stays. -/
theorem notifyClosed_rest (s : Session) :
    s.notifyClosed.1 = { s with closedCbInvoked := s.notifyClosed.1.closedCbInvoked } := by
  unfold Session.notifyClosed
  split <;> rfl

theorem notifyClosed_effect (s : Session) : SlotEffect s s.notifyClosed.1 := by
  have hrest := notifyClosed_rest s
  have hinvoked := notifyClosed_invoked s
  generalize s.notifyClosed.1 = s' at hrest hinvoked
  constructor
  · rw [hrest]
  · intro h
    rw [hinvoked, h, Bool.true_or]
  · intro h
    rw [hinvoked, Bool.or_eq_true] at h
    exact h
  · intro h
    rw [hrest] at h
    exact h
  · intro h
    rw [disconnected_of_peer (by rw [hrest])] at h
    cases h
  · intro h
    rw [hrest] at h
    exact .inl h

theorem disableGraphicsPipeline_effect (s : Session) :
    SlotEffect s s.disableGraphicsPipeline.1 := by
  unfold Session.disableGraphicsPipeline
  split <;> exact .of_frame rfl rfl rfl id id

/-- A step of a teardown, with the thread that runs it at any place but the end of the vcm
thread. -/
theorem teardownStep_effect_slot {kind : TeardownKind} {point : TeardownPoint}
    {r : TeardownPc × SessionResult} (h : s.teardownStep kind point = some r) :
    SlotEffect s r.2.session := by
  cases point with
  | start =>
    simp only [Session.teardownStep] at h
    split at h <;> cases h <;> exact .of_frame rfl rfl rfl id id
  | joinRender =>
    simp only [Session.teardownStep, Option.ite_none_right_eq_some] at h
    obtain ⟨-, h⟩ := h
    cases h
    exact .of_frame rfl rfl rfl id id
  | alive =>
    cases h
    exact .of_frame rfl rfl rfl (fun h => by cases h) id
  | joinVcm =>
    simp only [Session.teardownStep, Option.ite_none_right_eq_some] at h
    obtain ⟨-, h⟩ := h
    cases h
    exact .of_frame rfl rfl rfl id id
  | notify =>
    cases h
    exact notifyClosed_effect s
  | disable =>
    cases h
    exact disableGraphicsPipeline_effect s
  | finish =>
    -- only a disconnect drops the peer, and it clears `connection_alive`
    cases kind with
    | disconnect =>
      cases h
      exact
        { closedCb := rfl
          invoked := id
          notified := .inl
          alive := fun h => by cases h
          disconnected := fun _ => rfl
          exited := .inl }
    | stop | dispose =>
      cases h
      exact .of_frame rfl rfl rfl id id

/-- The place of a thread beside the end of the vcm thread does not matter. -/
theorem SlotEffect.vcmAt (h : SlotEffect s s') {vcm : VcmPc} (hvcm : vcm ≠ .exited) :
    SlotEffect s { s' with vcm := vcm } where
  closedCb := h.closedCb
  invoked := h.invoked
  notified := h.notified
  alive := h.alive
  disconnected := h.disconnected
  exited he := absurd he hvcm

theorem SlotEffect.mainAt (h : SlotEffect s s') (main : TeardownPc) :
    SlotEffect s { s' with main := main } :=
  ⟨h.closedCb, h.invoked, h.notified, h.alive, h.disconnected, h.exited⟩

theorem activated_effect (s : Session) : SlotEffect s s.activated := by
  unfold Session.activated
  split <;> exact .of_frame rfl rfl rfl id id

theorem activate_effect (s : Session) (rt : ServerRuntime) (resizeOk optionsOk prepareOk : Bool) :
    SlotEffect s (s.activate rt resizeOk optionsOk prepareOk).session := by
  have hcallback : SlotEffect s { s with vcm := .callback (.at .start .disconnect) } :=
    (SlotEffect.of_frame rfl rfl rfl id id : SlotEffect s s).vcmAt (by simp)
  unfold Session.activate
  split
  · exact .of_frame rfl rfl rfl id (fun h => by cases h)
  · split
    · exact hcallback
    · split
      · exact (activated_effect s).vcmAt (by simp)
      · split
        · exact (activated_effect s).vcmAt (by simp)
        · exact hcallback

theorem drdynvc_effect (s : Session) (ready opened : Bool) (answer : GfxPdu → Bool)
    (vcmOk : Bool) : SlotEffect s (s.drdynvc ready opened answer vcmOk).session := by
  -- whatever the pipeline did, the thread then looks at `connection_alive`
  have hafter (s' : Session) (h : SlotEffect s s') :
      SlotEffect s (if !s'.connectionAlive then { s' with vcm := .ending }
        else if vcmOk then { s' with vcm := .loop }
        else { s' with vcm := .ending, connectionAlive := false }) := by
    split
    · exact h.vcmAt (by simp)
    · split
      · exact h.vcmAt (by simp)
      · exact {
          closedCb := h.closedCb
          invoked := h.invoked
          notified := h.notified
          alive := fun ha => by cases ha
          disconnected := fun _ => rfl
          exited := fun he => by cases he }
  unfold Session.drdynvc
  dsimp only
  cases s.pipeline with
  | none => exact hafter { s with pipeline := none } (.of_frame rfl rfl rfl id id)
  | some p =>
    cases ready && s.connectionAlive with
    | true =>
      exact hafter { s with pipeline := some (p.maybeInit opened answer).2 }
        (.of_frame rfl rfl rfl id id)
    | false => exact hafter { s with pipeline := some p } (.of_frame rfl rfl rfl id id)

/-- The vcm thread goes on, and may clear `connection_alive`. -/
theorem SlotEffect.vcm_goto (s : Session) {vcm : VcmPc} (hvcm : vcm ≠ .exited) (alive : Bool)
    (halive : alive = true → s.connectionAlive = true) :
    SlotEffect s { s with vcm := vcm, connectionAlive := alive } :=
  .of_frame rfl rfl rfl halive (fun he => absurd he hvcm)

theorem vcmStep_effect {rt : ServerRuntime} {e : VcmEvent} {res : SessionResult}
    (h : s.vcmStep rt e = some res) : SlotEffect s res.session := by
  cases Session.vcmStep_move h with
  | loop =>
    refine .vcm_goto s ?_ _ id
    split <;> simp
  | teardown _ hr => exact (teardownStep_effect_slot hr).vcmAt (by simp)
  | ending => exact .of_frame rfl rfl rfl id (fun he => by cases he)
  -- the thread finishes here, and has run the callback if there was one
  | notify =>
    have heffect := notifyClosed_effect s
    exact {
      closedCb := heffect.closedCb
      invoked := heffect.invoked
      notified := heffect.notified
      alive := heffect.alive
      disconnected := heffect.disconnected
      exited := by
        intro _
        refine .inr ?_
        intro hcb
        change s.notifyClosed.1.closedCbInvoked = true
        rw [notifyClosed_invoked, hcb, Bool.or_true] }
  | rejected | noHandles | failed => exact .vcm_goto s (by simp) _ (fun ha => by cases ha)
  -- the first is the only way to `ending` that leaves `connection_alive` set
  | waitFailed | signalled | quiet | authRejected | notJoined =>
    exact .vcm_goto s (by simp) _ id
  | activate _ resizeOk optionsOk prepareOk =>
    exact activate_effect s rt resizeOk optionsOk prepareOk
  | drdynvc _ ready opened answer vcmOk => exact drdynvc_effect s ready opened answer vcmOk

theorem drdynvc_not_leftAlive (ready opened : Bool) (answer : GfxPdu → Bool) (vcmOk : Bool) :
    ¬ (s.drdynvc ready opened answer vcmOk).session.LeftAlive := by
  have hafter (s' : Session) :
      ¬ (if !s'.connectionAlive then { s' with vcm := .ending }
        else if vcmOk then { s' with vcm := .loop }
        else { s' with vcm := .ending, connectionAlive := false }).LeftAlive := by
    split
    · rename_i hdead
      rintro ⟨halive, -⟩
      have halive' : s'.connectionAlive = true := halive
      simp [halive'] at hdead
    · split
      · exact fun hleft => hleft.leaving
      · intro hleft
        cases hleft.alive
  unfold Session.drdynvc
  dsimp only
  cases s.pipeline with
  | none => exact hafter { s with pipeline := none }
  | some p =>
    cases ready && s.connectionAlive with
    | true => exact hafter { s with pipeline := some (p.maybeInit opened answer).2 }
    | false => exact hafter { s with pipeline := some p }

theorem activate_not_leftAlive (rt : ServerRuntime) (resizeOk optionsOk prepareOk : Bool) :
    ¬ (s.activate rt resizeOk optionsOk prepareOk).session.LeftAlive := by
  unfold Session.activate
  split_ifs <;> exact fun hleft => hleft.leaving

/-- WAIT_FAILED is the one exit of the loop that leaves `connection_alive` set. -/
theorem vcmStep_leftAlive {rt : ServerRuntime} {e : VcmEvent} {res : SessionResult}
    (h : s.vcmStep rt e = some res) (hleft : res.session.LeftAlive) :
    s.LeftAlive ∨ e = .waitFailed := by
  cases Session.vcmStep_move h with
  | waitFailed => exact .inr rfl
  | loop =>
    -- the loop test ends the loop only where the flag is cleared
    have halive : s.connectionAlive = true := hleft.alive
    have hleaving := hleft.leaving
    simp only [Session.Leaving, halive, if_true] at hleaving
  | ending hpc => exact .inl ⟨hleft.alive, by rw [Session.Leaving, hpc]; trivial⟩
  | notify hpc =>
    have halive : s.notifyClosed.1.connectionAlive = true := hleft.alive
    rw [notifyClosed_rest] at halive
    exact .inl ⟨halive, by rw [Session.Leaving, hpc]; trivial⟩
  | rejected | noHandles | failed => cases hleft.alive
  | teardown | signalled | quiet | authRejected | notJoined => exact absurd hleft.leaving id
  | activate _ resizeOk optionsOk prepareOk =>
    exact absurd hleft (activate_not_leftAlive rt resizeOk optionsOk prepareOk)
  | drdynvc _ ready opened answer vcmOk =>
    exact absurd hleft (drdynvc_not_leftAlive ready opened answer vcmOk)

/-- A teardown leaves the place of the vcm thread to its caller. -/
theorem teardownStep_vcm {kind : TeardownKind} {point : TeardownPoint}
    {r : TeardownPc × SessionResult} (h : s.teardownStep kind point = some r) :
    r.2.session.vcm = s.vcm := by
  cases point with
  | start =>
    simp only [Session.teardownStep] at h
    split at h <;> cases h <;> rfl
  | joinRender | joinVcm =>
    simp only [Session.teardownStep, Option.ite_none_right_eq_some] at h
    obtain ⟨-, h⟩ := h
    cases h
    rfl
  | alive =>
    cases h
    rfl
  | notify =>
    cases h
    dsimp only
    rw [notifyClosed_rest]
  | disable =>
    cases h
    dsimp only [Session.disableGraphicsPipeline]
    split <;> rfl
  | finish =>
    cases kind <;> cases h <;> rfl

theorem Session.LeftAlive.of_frame (h : s'.LeftAlive) (hvcm : s'.vcm = s.vcm)
    (halive : s'.connectionAlive = true → s.connectionAlive = true) : s.LeftAlive := by
  refine ⟨halive h.alive, ?_⟩
  have hleaving := h.leaving
  rwa [Session.Leaving, hvcm] at hleaving

/-- No other step of a session comes to leave the flag set. -/
theorem step_leftAlive {rt : ServerRuntime} {e : SessionEvent} {res : SessionResult}
    (h : s.step rt e = some res) (hleft : res.session.LeftAlive) :
    s.LeftAlive ∨ e = .vcm .waitFailed := by
  cases e with
  | render e =>
    simp only [Session.step, Option.map_eq_some_iff] at h
    obtain ⟨m, -, rfl⟩ := h
    exact .inl (hleft.of_frame rfl id)
  | vcm e =>
    rcases vcmStep_leftAlive h hleft with hbefore | rfl
    · exact .inl hbefore
    · exact .inr rfl
  | vcmThreadStored =>
    simp only [Session.step, Option.ite_none_left_eq_some, Option.some.injEq] at h
    obtain ⟨-, rfl⟩ := h
    exact .inl (hleft.of_frame rfl id)
  | closedCallbackSet =>
    simp only [Session.step, Option.ite_none_left_eq_some] at h
    obtain ⟨-, h⟩ := h
    left
    split at h
    · cases h
      exact hleft.of_frame rfl id
    · cases h
      dsimp only at hleft
      rw [notifyClosed_rest] at hleft
      exact hleft.of_frame rfl id
  | beginTeardown kind =>
    simp only [Session.step, Option.ite_none_right_eq_some, Option.some.injEq] at h
    obtain ⟨-, rfl⟩ := h
    exact .inl (hleft.of_frame rfl id)
  | mainStep =>
    cases hmain : s.main with
    | idle => simp [Session.step, hmain] at h
    | «at» point kind =>
      simp only [Session.step, hmain, Option.map_eq_some_iff] at h
      obtain ⟨r, hr, rfl⟩ := h
      exact .inl (hleft.of_frame (teardownStep_vcm hr) (teardownStep_effect_slot hr).alive)
  | capsConfirm =>
    cases h
    exact .inl (hleft.of_frame rfl id)
  | frameAck queueDepth =>
    cases h
    exact .inl (hleft.of_frame rfl id)

theorem step_effect {rt : ServerRuntime} {e : SessionEvent} {res : SessionResult}
    (hown : ListenerSlot.ownStep e = true) (h : s.step rt e = some res) :
    SlotEffect s res.session := by
  cases e with
  | render e =>
    simp only [Session.step, Option.map_eq_some_iff] at h
    obtain ⟨m, -, rfl⟩ := h
    exact .of_frame rfl rfl rfl id id
  | vcm e => exact vcmStep_effect h
  -- these two are steps of `accept_peer`
  | vcmThreadStored => cases hown
  | closedCallbackSet => cases hown
  | beginTeardown kind =>
    simp only [Session.step, Option.ite_none_right_eq_some, Option.some.injEq] at h
    obtain ⟨-, rfl⟩ := h
    exact .of_frame rfl rfl rfl id id
  | mainStep =>
    cases hmain : s.main with
    | idle => simp [Session.step, hmain] at h
    | «at» point kind =>
      simp only [Session.step, hmain, Option.map_eq_some_iff] at h
      obtain ⟨r, hr, rfl⟩ := h
      exact (teardownStep_effect_slot hr).mainAt r.1
  | capsConfirm =>
    cases h
    exact .of_frame rfl rfl rfl id id
  | frameAck queueDepth =>
    cases h
    exact .of_frame rfl rfl rfl id id

end Effect

/-- What `set_closed_callback` does. -/
structure CallbackSet (s s' : Session) : Prop where
  closedCb : s'.closedCb = true
  invoked : s'.closedCbInvoked = (s.closedCbInvoked || !s.connectionAlive)
  vcm : s'.vcm = s.vcm
  peer : s'.peer = s.peer

theorem closedCallbackSet_spec {s : Session} {rt : ServerRuntime} {res : SessionResult}
    (h : s.step rt .closedCallbackSet = some res) : CallbackSet s res.session := by
  simp only [Session.step, Option.ite_none_left_eq_some] at h
  obtain ⟨-, h⟩ := h
  by_cases halive : s.connectionAlive = true
  · rw [if_pos halive] at h
    cases h
    exact ⟨rfl, by simp [halive], rfl, rfl⟩
  · rw [if_neg halive] at h
    cases h
    have hinvoked := notifyClosed_invoked { s with closedCb := true }
    have hrest := notifyClosed_rest { s with closedCb := true }
    dsimp only
    generalize ({ s with closedCb := true } : Session).notifyClosed.1 = s' at hinvoked hrest
    refine ⟨by rw [hrest], ?_, by rw [hrest], by rw [hrest]⟩
    rw [hinvoked]
    simp [halive]

theorem threadStored_effect {s : Session} {rt : ServerRuntime} {res : SessionResult}
    (h : s.step rt .vcmThreadStored = some res) : SlotEffect s res.session := by
  simp only [Session.step, Option.ite_none_left_eq_some, Option.some.injEq] at h
  obtain ⟨-, rfl⟩ := h
  exact .of_frame rfl rfl rfl id id

/-- One session as the listener sees it. -/
structure Slot where
  session : Session
  listed : Bool
  pc : Option AcceptPc
  started : Bool
  callbacks : ℕ
  registrations : ℕ

def ListenerSlot.slot (s : ListenerSlot) (i : ℕ) : Slot where
  session := s.session i
  listed := decide (i ∈ s.sessions)
  pc := s.accepting.bind fun a => if a.1 = i then some a.2 else none
  started := decide (i ∈ s.started)
  callbacks := s.callbacks i
  registrations := s.registrations i

structure SlotInv (x : Slot) : Prop where
  unstarted : x.started = false → x.listed = false ∧ x.pc = none ∧ x.session.closedCb = false
  building : x.pc.isSome = true → x.session.closedCb = false
  notListed : x.pc = some .threadStarted ∨ x.pc = some .threadStored → x.listed = false
  added : x.pc = some .sessionAdded → x.session.connectionAlive = true → x.listed = true
  returned : x.started = true → x.pc = none → x.session.closedCb = true
  registered : x.session.closedCbInvoked = true → x.session.closedCb = true
  gone : x.session.closedCbInvoked = true → x.listed = false
  exited : x.session.vcm = .exited → x.session.closedCb = true → x.session.closedCbInvoked = true
  callbacks : x.callbacks = x.session.closedCbInvoked.toNat
  registrations : x.registrations = x.session.closedCb.toNat

namespace Slot

variable {x : Slot}

/-- A session's own step, as the listener sees it. -/
def after (x : Slot) (s' : Session) : Slot :=
  { x with
    session := s'
    listed := x.listed && !(x.session.notified s' ||
      (x.session.disconnected s' && decide (x.pc ≠ some .threadStarted)))
    callbacks := x.callbacks + (x.session.notified s').toNat }

theorem after_inv (h : SlotInv x) {s' : Session} (he : SlotEffect x.session s') :
    SlotInv (x.after s') where
  unstarted hstarted := by
    obtain ⟨hlisted, hpc, hcb⟩ := h.unstarted hstarted
    refine ⟨?_, hpc, he.closedCb.trans hcb⟩
    change (x.listed && _) = false
    rw [hlisted, Bool.false_and]
  building hpc := he.closedCb.trans (h.building hpc)
  notListed hpc := by
    change (x.listed && _) = false
    rw [h.notListed hpc, Bool.false_and]
  added hpc halive := by
    have hpc' : x.pc = some .sessionAdded := hpc
    have hlisted := h.added hpc' (he.alive halive)
    have hcb : x.session.closedCb = false := h.building (by rw [hpc']; rfl)
    -- no callback yet, so the session cannot have told the listener
    have hnotified : x.session.notified s' = false := by
      cases hinvoked : s'.closedCbInvoked with
      | false => simp [Session.notified, hinvoked]
      | true =>
        rcases he.notified hinvoked with hbefore | hbefore
        · simp [Session.notified, hbefore]
        · rw [hcb] at hbefore
          cases hbefore
    -- a disconnect clears `connection_alive`
    have hdisconnected : x.session.disconnected s' = false := by
      by_contra hne
      have hdead := he.disconnected (by simpa using hne)
      rw [show s'.connectionAlive = true from halive] at hdead
      cases hdead
    change (x.listed && !(_ || _)) = true
    rw [hlisted, hnotified, hdisconnected]
    rfl
  returned hstarted hpc := he.closedCb.trans (h.returned hstarted hpc)
  registered hinvoked := by
    rcases he.notified hinvoked with hbefore | hbefore
    · exact he.closedCb.trans (h.registered hbefore)
    · exact he.closedCb.trans hbefore
  gone hinvoked := by
    change (x.listed && !(x.session.notified s' || _)) = false
    cases hbefore : x.session.closedCbInvoked with
    | true => rw [h.gone hbefore, Bool.false_and]
    | false =>
      -- the callback ran in this step, and took the session off the list
      have hnotified : x.session.notified s' = true := by
        rw [Session.notified, hbefore]
        exact hinvoked
      rw [hnotified, Bool.true_or, Bool.not_true, Bool.and_false]
  exited hvcm hcb := by
    have hcb' : x.session.closedCb = true := he.closedCb.symm.trans hcb
    rcases he.exited hvcm with hbefore | hbefore
    · exact he.invoked (h.exited hbefore hcb')
    · exact hbefore hcb'
  callbacks := by
    change x.callbacks + (x.session.notified s').toNat = s'.closedCbInvoked.toNat
    rw [h.callbacks, Session.notified]
    cases hbefore : x.session.closedCbInvoked with
    | true =>
      rw [he.invoked hbefore]
      rfl
    | false => simp
  registrations := by
    change x.registrations = s'.closedCb.toNat
    rw [h.registrations, he.closedCb]

theorem started_of_pc (h : SlotInv x) {pc : AcceptPc} (hpc : x.pc = some pc) :
    x.started = true := by
  by_contra hnot
  have hnone := (h.unstarted (by simpa using hnot)).2.1
  rw [hpc] at hnone
  cases hnone

/-- `accept_peer` goes on after it has stored the thread. -/
theorem stored_inv (h : SlotInv x) (hpc : x.pc = some .threadStarted) :
    SlotInv { x with pc := some .threadStored } where
  unstarted hstarted := by cases (started_of_pc h hpc).symm.trans hstarted
  building _ := h.building (by rw [hpc]; rfl)
  notListed _ := h.notListed (.inl hpc)
  added hadded := by cases hadded
  returned _ hnone := by cases hnone
  registered := h.registered
  gone := h.gone
  exited := h.exited
  callbacks := h.callbacks
  registrations := h.registrations

theorem added_inv (h : SlotInv x) (hpc : x.pc = some .threadStored) :
    SlotInv { x with listed := true, pc := some .sessionAdded } where
  unstarted hstarted := by cases (started_of_pc h hpc).symm.trans hstarted
  building _ := h.building (by rw [hpc]; rfl)
  notListed hor := by rcases hor with hor | hor <;> cases hor
  added _ _ := rfl
  returned _ hnone := by cases hnone
  registered := h.registered
  gone hinvoked := by
    have hcb := h.registered hinvoked
    rw [h.building (by rw [hpc]; rfl)] at hcb
    cases hcb
  exited := h.exited
  callbacks := h.callbacks
  registrations := h.registrations

/-- `set_closed_callback` in time: the callback runs at once where the connection is over. -/
theorem callbackSet_inv (h : SlotInv x) (hpc : x.pc = some .sessionAdded) {s' : Session}
    (hset : CallbackSet x.session s') (hstarted : x.started = true)
    (hC : ¬ (x.session.vcm = .exited ∧ x.session.connectionAlive = true)) :
    SlotInv { x.after s' with pc := none, registrations := x.registrations + 1 } := by
  have hcb : x.session.closedCb = false := h.building (by rw [hpc]; rfl)
  -- the callback cannot have run before it is set
  have hinvoked : x.session.closedCbInvoked = false := by
    cases hinvoked : x.session.closedCbInvoked with
    | false => rfl
    | true =>
      rw [h.registered hinvoked] at hcb
      cases hcb
  have hinvoked' : s'.closedCbInvoked = !x.session.connectionAlive := by
    rw [hset.invoked, hinvoked, Bool.false_or]
  have hnotified : x.session.notified s' = s'.closedCbInvoked := by
    rw [Session.notified, hinvoked, Bool.not_false, Bool.true_and]
  exact {
    unstarted := fun hno => absurd (hstarted.symm.trans hno) (by decide)
    building := fun hpc => by cases hpc
    notListed := fun hpc => by rcases hpc with hpc | hpc <;> cases hpc
    added := fun hpc => by cases hpc
    returned := fun _ _ => hset.closedCb
    registered := fun _ => hset.closedCb
    gone := by
      intro hrun
      change (x.listed && !(x.session.notified s' || _)) = false
      rw [hnotified, show s'.closedCbInvoked = true from hrun, Bool.true_or, Bool.not_true,
        Bool.and_false]
    exited := by
      intro hvcm _
      have hexited : x.session.vcm = .exited := hset.vcm.symm.trans hvcm
      change s'.closedCbInvoked = true
      rw [hinvoked']
      -- alive with the thread gone is what the guard rules out
      cases halive : x.session.connectionAlive with
      | true => exact absurd ⟨hexited, halive⟩ hC
      | false => rfl
    callbacks := by
      change x.callbacks + (x.session.notified s').toNat = s'.closedCbInvoked.toNat
      rw [h.callbacks, hinvoked, hnotified, Bool.toNat_false, Nat.zero_add]
    registrations := by
      change x.registrations + 1 = s'.closedCb.toNat
      rw [h.registrations, hcb, hset.closedCb]
      rfl }

end Slot

namespace ListenerSlot

variable {s s' : ListenerSlot} {i j : ℕ}

theorem mem_sessionClosed (hnodup : s.sessions.Nodup) :
    j ∈ (s.sessionClosed i).sessions ↔ j ∈ s.sessions ∧ j ≠ i := by
  unfold sessionClosed
  by_cases hi : i ∈ s.sessions
  · rw [if_pos hi]
    change j ∈ s.sessions.erase i ↔ _
    rw [hnodup.mem_erase_iff]
    exact and_comm
  · rw [if_neg hi]
    constructor
    · intro hj
      refine ⟨hj, ?_⟩
      rintro rfl
      exact hi hj
    · exact fun hj => hj.1

theorem sessionClosed_nodup (hnodup : s.sessions.Nodup) :
    (s.sessionClosed i).sessions.Nodup := by
  unfold sessionClosed
  split
  · exact hnodup.erase i
  · exact hnodup

/-- Closing a session changes the list and the runtime alone. -/
theorem sessionClosed_rest :
    s.sessionClosed i =
      { s with sessions := (s.sessionClosed i).sessions, runtime := (s.sessionClosed i).runtime } := by
  unfold sessionClosed
  split <;> rfl

theorem afterSession_rest (res : SessionResult) :
    (s.afterSession i res).session = Function.update s.session i res.session ∧
      (s.afterSession i res).accepting = s.accepting ∧
      (s.afterSession i res).started = s.started ∧
      (s.afterSession i res).registrations = s.registrations ∧
      (s.afterSession i res).callbacks = Function.update s.callbacks i
        (s.callbacks i + ((s.session i).notified res.session).toNat) := by
  unfold afterSession
  split
  · rw [sessionClosed_rest]
    exact ⟨rfl, rfl, rfl, rfl, rfl⟩
  · exact ⟨rfl, rfl, rfl, rfl, rfl⟩

theorem afterSession_nodup (hnodup : s.sessions.Nodup) (res : SessionResult) :
    (s.afterSession i res).sessions.Nodup := by
  unfold afterSession
  split
  · exact sessionClosed_nodup (s := s.withSession i res) hnodup
  · exact hnodup

theorem mem_afterSession (hnodup : s.sessions.Nodup) (res : SessionResult) :
    j ∈ (s.afterSession i res).sessions ↔
      j ∈ s.sessions ∧ (j = i → ¬ ((s.session i).notified res.session = true ∨
        ((s.session i).disconnected res.session = true ∧
          s.accepting ≠ some (i, .threadStarted)))) := by
  unfold afterSession
  split
  · rename_i hcond
    rw [mem_sessionClosed (s := s.withSession i res) hnodup]
    constructor
    · rintro ⟨hj, hne⟩
      exact ⟨hj, fun he => absurd he hne⟩
    · rintro ⟨hj, hnot⟩
      exact ⟨hj, fun he => hnot he hcond⟩
  · rename_i hcond
    constructor
    · intro hj
      exact ⟨hj, fun _ => hcond⟩
    · exact fun hj => hj.1

theorem slot_pc_of_accepting {pc : AcceptPc} (h : s.accepting = some (i, pc)) :
    (s.slot i).pc = some pc := by
  simp [slot, h]

theorem slot_pc_eq_some {pc : AcceptPc} : (s.slot i).pc = some pc ↔ s.accepting = some (i, pc) := by
  cases h : s.accepting with
  | none => simp [slot, h]
  | some a =>
    obtain ⟨k, pc'⟩ := a
    by_cases hk : k = i
    · simp [slot, h, hk]
    · simp [slot, h, hk]

theorem afterSession_slot_self (hnodup : s.sessions.Nodup) (res : SessionResult) :
    (s.afterSession i res).slot i = (s.slot i).after res.session := by
  obtain ⟨hsession, haccepting, hstarted, hregistrations, hcallbacks⟩ :=
    afterSession_rest (s := s) (i := i) res
  have hmem := mem_afterSession (j := i) (i := i) hnodup res
  have hpc : (s.slot i).pc ≠ some .threadStarted ↔ s.accepting ≠ some (i, .threadStarted) :=
    not_congr slot_pc_eq_some
  have hlisted : decide (i ∈ (s.afterSession i res).sessions) =
      (decide (i ∈ s.sessions) && !((s.session i).notified res.session ||
        ((s.session i).disconnected res.session &&
          decide ((s.slot i).pc ≠ some .threadStarted)))) := by
    rw [Bool.eq_iff_iff]
    simp only [decide_eq_true_eq, Bool.and_eq_true, Bool.not_eq_true', ← Bool.not_eq_true,
      Bool.or_eq_true, hmem, hpc, forall_const]
  unfold slot Slot.after
  rw [hsession, haccepting, hstarted, hregistrations, hcallbacks, hlisted]
  simp only [Function.update_self]
  rfl

theorem afterSession_slot_of_ne (hnodup : s.sessions.Nodup) (res : SessionResult) (hne : j ≠ i) :
    (s.afterSession i res).slot j = s.slot j := by
  obtain ⟨hsession, haccepting, hstarted, hregistrations, hcallbacks⟩ :=
    afterSession_rest (s := s) (i := i) res
  have hmem := mem_afterSession (j := j) (i := i) hnodup res
  unfold slot
  rw [hsession, haccepting, hstarted, hregistrations, hcallbacks]
  simp only [Function.update_of_ne hne, Slot.mk.injEq, true_and, and_true]
  rw [decide_eq_decide, hmem]
  exact ⟨fun h => h.1, fun h => ⟨h, fun he => absurd he hne⟩⟩

structure Inv (s : ListenerSlot) : Prop where
  nodup : s.sessions.Nodup
  slots : ∀ i, SlotInv (s.slot i)

theorem Inv.afterSession (h : s.Inv) {res : SessionResult}
    (he : SlotEffect (s.session i) res.session) : (s.afterSession i res).Inv where
  nodup := afterSession_nodup h.nodup res
  slots j := by
    by_cases hj : j = i
    · rw [hj, afterSession_slot_self h.nodup]
      exact Slot.after_inv (h.slots i) he
    · rw [afterSession_slot_of_ne h.nodup res hj]
      exact h.slots j

theorem slot_started (hi : i ∈ s.started) : (s.slot i).started = true :=
  decide_eq_true hi

theorem Inv.accepting_started (h : s.Inv) {pc : AcceptPc} (hpc : s.accepting = some (i, pc)) :
    i ∈ s.started := by
  by_contra hi
  have hnone := ((h.slots i).unstarted (decide_eq_false hi)).2.1
  rw [slot_pc_of_accepting hpc] at hnone
  cases hnone

theorem slot_congr (hsession : s'.session j = s.session j)
    (hmem : j ∈ s'.sessions ↔ j ∈ s.sessions) (hpc : (s'.slot j).pc = (s.slot j).pc)
    (hstarted : j ∈ s'.started ↔ j ∈ s.started) (hcallbacks : s'.callbacks j = s.callbacks j)
    (hregistrations : s'.registrations j = s.registrations j) : s'.slot j = s.slot j := by
  unfold slot at hpc ⊢
  simp only [Slot.mk.injEq]
  exact ⟨hsession, decide_eq_decide.mpr hmem, hpc, decide_eq_decide.mpr hstarted, hcallbacks,
    hregistrations⟩

theorem slot_pc_other {pc : AcceptPc} (h : s.accepting = some (i, pc)) (hne : j ≠ i) :
    (s.slot j).pc = none := by
  simp [slot, h, Ne.symm hne]

theorem slot_pc_none (h : s.accepting = none) : (s.slot j).pc = none := by
  simp [slot, h]

/-- A step of `accept_peer` is about one session. -/
theorem Inv.of_slot (h : s.Inv) (hnodup : s'.sessions.Nodup) (hi : SlotInv (s'.slot i))
    (hother : ∀ j, j ≠ i → s'.slot j = s.slot j) : s'.Inv where
  nodup := hnodup
  slots j := by
    by_cases hj : j = i
    · rw [hj]
      exact hi
    · rw [hother j hj]
      exact h.slots j

theorem Inv.acceptPeer (h : s.Inv) (hnone : s.accepting = none) (hi : i ∉ s.started)
    (hempty : s.sessions = []) (passiveMode : Bool) (size : Option (UInt16 × UInt16)) :
    ({ s with
      session := Function.update s.session i (drdRdpSessionNew passiveMode size)
      accepting := some (i, .threadStarted)
      started := i :: s.started } : ListenerSlot).Inv := by
  -- a session that was never started has left no trace
  have hunstarted := h.slots i
  have hcb : (s.session i).closedCb = false := (hunstarted.unstarted (decide_eq_false hi)).2.2
  have hinvoked : (s.session i).closedCbInvoked = false := by
    cases hinvoked : (s.session i).closedCbInvoked with
    | false => rfl
    | true => exact absurd (hcb.symm.trans (hunstarted.registered hinvoked)) (by decide)
  have hcallbacks : s.callbacks i = 0 := by
    have hcount : s.callbacks i = (s.session i).closedCbInvoked.toNat := hunstarted.callbacks
    rw [hcount, hinvoked]
    rfl
  have hregistrations : s.registrations i = 0 := by
    have hcount : s.registrations i = (s.session i).closedCb.toNat := hunstarted.registrations
    rw [hcount, hcb]
    rfl
  refine h.of_slot (i := i) h.nodup ?_ ?_
  · have hslot : ({ s with
        session := Function.update s.session i (drdRdpSessionNew passiveMode size)
        accepting := some (i, .threadStarted)
        started := i :: s.started } : ListenerSlot).slot i =
        { session := drdRdpSessionNew passiveMode size, listed := false
          pc := some .threadStarted, started := true, callbacks := 0, registrations := 0 } := by
      simp [slot, hempty, hcallbacks, hregistrations]
    rw [hslot]
    exact {
      unstarted := fun hno => by cases hno
      building := fun _ => rfl
      notListed := fun _ => rfl
      added := fun hpc => by cases hpc
      returned := fun _ hpc => by cases hpc
      registered := fun hno => by cases hno
      gone := fun _ => rfl
      exited := fun hno => by cases hno
      callbacks := rfl
      registrations := rfl }
  · intro j hne
    refine slot_congr (Function.update_of_ne hne ..) Iff.rfl ?_ (by simp [hne]) rfl rfl
    rw [slot_pc_none hnone]
    exact slot_pc_other rfl hne

theorem Inv.storeThread (h : s.Inv) (hpc : s.accepting = some (i, .threadStarted)) :
    ({ s with accepting := some (i, .threadStored) } : ListenerSlot).Inv := by
  have hslot : ({ s with accepting := some (i, .threadStored) } : ListenerSlot).slot i =
      { s.slot i with pc := some .threadStored } := by
    simp [slot]
  refine h.of_slot (i := i) h.nodup ?_ ?_
  · rw [hslot]
    exact Slot.stored_inv (h.slots i) (slot_pc_of_accepting hpc)
  · intro j hne
    refine slot_congr rfl Iff.rfl ?_ Iff.rfl rfl rfl
    rw [slot_pc_other hpc hne]
    exact slot_pc_other rfl hne

theorem Inv.addSession (h : s.Inv) (hpc : s.accepting = some (i, .threadStored)) :
    ({ s with sessions := i :: s.sessions, accepting := some (i, .sessionAdded) } :
      ListenerSlot).Inv := by
  have hpc' := slot_pc_of_accepting hpc
  have hnot : i ∉ s.sessions := of_decide_eq_false ((h.slots i).notListed (.inr hpc'))
  have hslot : ({ s with sessions := i :: s.sessions, accepting := some (i, .sessionAdded) } :
      ListenerSlot).slot i = { s.slot i with listed := true, pc := some .sessionAdded } := by
    simp [slot]
  refine h.of_slot (i := i) (List.nodup_cons.mpr ⟨hnot, h.nodup⟩) ?_ ?_
  · rw [hslot]
    exact Slot.added_inv (h.slots i) hpc'
  · intro j hne
    refine slot_congr rfl (by simp [hne]) ?_ Iff.rfl rfl rfl
    rw [slot_pc_other hpc hne]
    exact slot_pc_other rfl hne

/-- The listener after `set_closed_callback`. -/
theorem callbackSet_slot (hnodup : s.sessions.Nodup) (res : SessionResult) :
    ({ s.afterSession i res with
      accepting := none
      registrations := Function.update s.registrations i (s.registrations i + 1) } :
        ListenerSlot).slot i =
      { (s.slot i).after res.session with
        pc := none
        registrations := (s.slot i).registrations + 1 } := by
  rw [← afterSession_slot_self hnodup]
  simp [slot]

theorem Inv.setClosedCallback (h : s.Inv) (hpc : s.accepting = some (i, .sessionAdded))
    {res : SessionResult} (hres : (s.session i).step s.runtime .closedCallbackSet = some res)
    (hC : ¬ ((s.session i).vcm = .exited ∧ (s.session i).connectionAlive = true)) :
    ({ s.afterSession i res with
      accepting := none
      registrations := Function.update s.registrations i (s.registrations i + 1) } :
        ListenerSlot).Inv := by
  refine h.of_slot (i := i) (afterSession_nodup h.nodup res) ?_ ?_
  · rw [callbackSet_slot h.nodup]
    exact Slot.callbackSet_inv (h.slots i) (slot_pc_of_accepting hpc) (closedCallbackSet_spec hres)
      (slot_started (h.accepting_started hpc)) hC
  · intro j hne
    have hafter := afterSession_slot_of_ne h.nodup res hne
    rw [← hafter]
    refine slot_congr rfl Iff.rfl ?_ Iff.rfl rfl ?_
    · rw [slot_pc_none rfl, hafter, slot_pc_other hpc hne]
    · rw [(afterSession_rest res).2.2.2.1]
      exact Function.update_of_ne hne ..

theorem setClosedCallback_cases (he : s.step .setClosedCallback = some s') :
    ∃ i res, s.accepting = some (i, .sessionAdded) ∧
      (s.session i).step s.runtime .closedCallbackSet = some res ∧
      s' = { s.afterSession i res with
        accepting := none
        registrations := Function.update s.registrations i (s.registrations i + 1) } := by
  simp only [ListenerSlot.step] at he
  split at he
  · rename_i i hpc
    obtain ⟨res, hres, rfl⟩ := Option.map_eq_some_iff.mp he
    exact ⟨i, res, hpc, hres, rfl⟩
  · cases he

theorem Inv.step {e : SlotEvent} (h : s.Inv) (hC : CallbackInTime s e)
    (he : s.step e = some s') : s'.Inv := by
  cases e with
  | acceptPeer i passiveMode size =>
    simp only [ListenerSlot.step, Option.ite_none_right_eq_some] at he
    obtain ⟨⟨hnone, hi⟩, he⟩ := he
    split at he
    · cases he
      exact h
    · rename_i hempty
      cases he
      exact h.acceptPeer hnone hi (by simpa using hempty) passiveMode size
  | storeThread =>
    simp only [ListenerSlot.step] at he
    split at he
    · rename_i i hpc
      simp only [Option.map_eq_some_iff] at he
      obtain ⟨res, hres, rfl⟩ := he
      have hafter : (s.afterSession i res).accepting = some (i, .threadStarted) := by
        rw [(afterSession_rest res).2.1, hpc]
      exact (h.afterSession (threadStored_effect hres)).storeThread hafter
    · cases he
  | addSession =>
    simp only [ListenerSlot.step] at he
    split at he
    · rename_i i hpc
      cases he
      exact h.addSession hpc
    · cases he
  | setClosedCallback =>
    obtain ⟨i, res, hpc, hres, rfl⟩ := setClosedCallback_cases he
    exact h.setClosedCallback hpc hres (hC i hpc)
  | session i e =>
    simp only [ListenerSlot.step, Option.ite_none_right_eq_some, Option.map_eq_some_iff] at he
    obtain ⟨⟨-, hown⟩, res, hres, rfl⟩ := he
    exact h.afterSession (step_effect hown hres)

theorem Inv.slotFree (h : s.Inv) : SlotFree s := by
  have hremoved (i : ℕ) (hvcm : (s.session i).vcm = .exited)
      (hreturned : ∀ pc, s.accepting ≠ some (i, pc)) : i ∉ s.sessions := by
    have hpc : (s.slot i).pc = none := by
      cases hpc : (s.slot i).pc with
      | none => rfl
      | some pc => exact absurd (slot_pc_eq_some.mp hpc) (hreturned pc)
    -- a session that `accept_peer` has left has its callback, which the exit runs
    by_cases hi : i ∈ s.started
    · have hcb := (h.slots i).returned (slot_started hi) hpc
      exact of_decide_eq_false ((h.slots i).gone ((h.slots i).exited hvcm hcb))
    · exact of_decide_eq_false ((h.slots i).unstarted (decide_eq_false hi)).1
  refine ⟨hremoved, ?_, ?_⟩
  · intro i
    have hcalls : s.callbacks i = (s.session i).closedCbInvoked.toNat := (h.slots i).callbacks
    have hregistered : s.registrations i = (s.session i).closedCb.toNat :=
      (h.slots i).registrations
    rw [hcalls, hregistered]
    cases hinvoked : (s.session i).closedCbInvoked with
    | false => exact Nat.zero_le _
    | true =>
      have hcb : (s.session i).closedCb = true := (h.slots i).registered hinvoked
      rw [hcb]
  · intro hnone hexited
    refine List.eq_nil_iff_forall_not_mem.mpr ?_
    intro i hmem
    have hi : i ∈ s.started := by
      by_contra hi
      exact of_decide_eq_false ((h.slots i).unstarted (decide_eq_false hi)).1 hmem
    exact hremoved i (hexited i hi) (by simp [hnone]) hmem

theorem inv_init (hs : listenerSlot.init s) : s.Inv := by
  obtain rfl : s = {} := hs
  refine ⟨List.nodup_nil, ?_⟩
  intro i
  exact {
    unstarted := fun _ => ⟨rfl, rfl, rfl⟩
    building := fun _ => rfl
    notListed := fun _ => rfl
    added := fun hpc => by cases hpc
    returned := fun hstarted => by cases hstarted
    registered := fun hno => by cases hno
    gone := fun _ => rfl
    exited := fun hno => by cases hno
    callbacks := rfl
    registrations := rfl }

/-- A callback that is set too late leaves the session in the list. -/
theorem not_slotFree_step {e : SlotEvent} (h : s.Inv) (hC : ¬ CallbackInTime s e)
    (he : s.step e = some s') : ¬ SlotFree s' := by
  cases e with
  | setClosedCallback =>
    obtain ⟨i, res, hpc, hres, rfl⟩ := setClosedCallback_cases he
    have hlate : (s.session i).vcm = .exited ∧ (s.session i).connectionAlive = true := by
      by_contra hintime
      apply hC
      intro k hk
      rw [hpc, Option.some.injEq, Prod.mk.injEq] at hk
      rw [← hk.1]
      exact hintime
    obtain ⟨hvcm, halive⟩ := hlate
    have hset := closedCallbackSet_spec hres
    have hpc' := slot_pc_of_accepting hpc
    -- `set_closed_callback` sees the connection alive and does not call it
    have hinvoked : res.session.closedCbInvoked = (s.session i).closedCbInvoked := by
      rw [hset.invoked, halive, Bool.not_true, Bool.or_false]
    have hnotified : (s.session i).notified res.session = false := by
      rw [Session.notified, hinvoked]
      cases (s.session i).closedCbInvoked <;> rfl
    -- so nothing takes the session off the list
    have hmem : i ∈ (s.afterSession i res).sessions := by
      rw [mem_afterSession h.nodup]
      refine ⟨of_decide_eq_true ((h.slots i).added hpc' halive), ?_⟩
      rw [hnotified, disconnected_of_peer hset.peer]
      simp
    intro hfree
    refine hfree.removed i ?_ (by simp) hmem
    change ((s.afterSession i res).session i).vcm = .exited
    rw [(afterSession_rest res).1, Function.update_self, hset.vcm, hvcm]
  | _ => exact absurd trivial hC

/-- No vcm thread has left its loop with `connection_alive` set. -/
def NoneLeftAlive (s : ListenerSlot) : Prop :=
  ∀ i, ¬ (s.session i).LeftAlive

theorem noneLeftAlive_init (hs : listenerSlot.init s) : s.NoneLeftAlive := by
  obtain rfl : s = {} := hs
  exact fun _ hleft => hleft.leaving

theorem NoneLeftAlive.callbackInTime (h : s.NoneLeftAlive) (e : SlotEvent) :
    CallbackInTime s e := by
  cases e with
  | setClosedCallback =>
    rintro i - ⟨hvcm, halive⟩
    exact h i ⟨halive, by rw [Session.Leaving, hvcm]; trivial⟩
  | _ => trivial

theorem NoneLeftAlive.afterSession (h : s.NoneLeftAlive) {e : SessionEvent} {res : SessionResult}
    (hres : (s.session i).step s.runtime e = some res) (he : e ≠ .vcm .waitFailed) :
    (s.afterSession i res).NoneLeftAlive := by
  intro j
  rw [(afterSession_rest res).1]
  by_cases hj : j = i
  · rw [hj, Function.update_self]
    intro hleft
    rcases step_leftAlive hres hleft with hbefore | hfailed
    · exact h i hbefore
    · exact he hfailed
  · rw [Function.update_of_ne hj]
    exact h j

theorem NoneLeftAlive.step {e : SlotEvent} (h : s.NoneLeftAlive)
    (hwaits : ∀ i, e ≠ .session i (.vcm .waitFailed)) (he : s.step e = some s') :
    s'.NoneLeftAlive := by
  cases e with
  | acceptPeer i passiveMode size =>
    simp only [ListenerSlot.step, Option.ite_none_right_eq_some] at he
    obtain ⟨-, he⟩ := he
    split at he
    · cases he
      exact h
    · cases he
      intro j
      change ¬ (Function.update s.session i (drdRdpSessionNew passiveMode size) j).LeftAlive
      by_cases hj : j = i
      · rw [hj, Function.update_self]
        exact fun hleft => hleft.leaving
      · rw [Function.update_of_ne hj]
        exact h j
  | storeThread =>
    simp only [ListenerSlot.step] at he
    split at he
    · obtain ⟨res, hres, rfl⟩ := Option.map_eq_some_iff.mp he
      exact h.afterSession hres (by simp)
    · cases he
  | addSession =>
    simp only [ListenerSlot.step] at he
    split at he
    · cases he
      exact h
    · cases he
  | setClosedCallback =>
    obtain ⟨i, res, -, hres, rfl⟩ := setClosedCallback_cases he
    exact h.afterSession hres (by simp)
  | session i e =>
    simp only [ListenerSlot.step, Option.ite_none_right_eq_some, Option.map_eq_some_iff] at he
    obtain ⟨-, res, hres, rfl⟩ := he
    refine h.afterSession hres ?_
    rintro rfl
    exact hwaits i rfl

/-- Whatever exits the vcm threads take beside WAIT_FAILED, and wherever they fall between the
steps of `accept_peer`, the slot is free in every state of the run. -/
theorem slotFree_of_no_waitFailed (hs : listenerSlot.init s) (es : List SlotEvent)
    (hwaits : listenerSlot.StepsMeet (fun _ e => ∀ i, e ≠ .session i (.vcm .waitFailed)) s es) :
    listenerSlot.StatesMeet SlotFree s es := by
  refine EventMachine.StepsMeet.statesMeet (K := fun s => s.Inv ∧ s.NoneLeftAlive) ?_ ?_
    ⟨inv_init hs, noneLeftAlive_init hs⟩ es hwaits
  · intro s h
    exact h.1.slotFree
  · intro s e s' h hwait he
    exact ⟨h.1.step (h.2.callbackInTime e) he, h.2.step hwait he⟩

end ListenerSlot

/-- The slot is free throughout a run, and each callback runs at most once, if and only if
every callback is set in time. -/
theorem listener_slot_free_iff {s t : ListenerSlot} (hs : listenerSlot.init s)
    (es : List SlotEvent) (hrun : listenerSlot.run s es = some t) :
    listenerSlot.StatesMeet SlotFree s es ↔ listenerSlot.StepsMeet CallbackInTime s es := by
  refine EventMachine.statesMeet_iff_stepsMeet (K := ListenerSlot.Inv) ?_ ?_ ?_
    (ListenerSlot.inv_init hs) es hrun
  · intro s h
    exact h.slotFree
  · intro s e s' h hC he
    exact h.step hC he
  · intro s e s' h hC he
    exact ListenerSlot.not_slotFree_step h hC he

/-- The vcm thread of the session fails to wait, and finishes. -/
def waitFails : List SlotEvent :=
  [.session 0 (.vcm .step), .session 0 (.vcm .waitFailed), .session 0 (.vcm .step),
    .session 0 (.vcm .step)]

def acceptFirst : List SlotEvent :=
  .acceptPeer 0 false none ::
    [.storeThread, .addSession, .setClosedCallback] ++ waitFails ++ [.acceptPeer 1 false none]

theorem acceptFirst_runs : (listenerSlot.run {} acceptFirst).isSome := by decide +kernel

theorem acceptFirst_slot_free :
    listenerSlot.StatesMeet SlotFree {} acceptFirst ↔
      listenerSlot.StepsMeet CallbackInTime {} acceptFirst :=
  listener_slot_free_iff rfl acceptFirst (Option.some_get acceptFirst_runs).symm

/-- The thread finishes before `accept_peer` sets the callback. -/
def waitFailsFirst : List SlotEvent :=
  .acceptPeer 0 false none :: waitFails ++ [.storeThread, .addSession, .setClosedCallback]

theorem waitFailsFirst_runs : (listenerSlot.run {} waitFailsFirst).isSome := by decide +kernel

/-- The session stays in the list, and the next peer is rejected. -/
theorem wait_failed_wedges_slot :
    listenerSlot.init {} ∧ ¬ listenerSlot.StatesMeet SlotFree {} waitFailsFirst ∧
      (((listenerSlot.run {} waitFailsFirst).get waitFailsFirst_runs).session 0).vcm = .exited ∧
      ((listenerSlot.run {} waitFailsFirst).get waitFailsFirst_runs).accepting = none ∧
      ((listenerSlot.run {} waitFailsFirst).get waitFailsFirst_runs).sessions = [0] := by
  have hvcm : (((listenerSlot.run {} waitFailsFirst).get waitFailsFirst_runs).session 0).vcm =
      .exited := by decide +kernel
  have haccepting : ((listenerSlot.run {} waitFailsFirst).get waitFailsFirst_runs).accepting =
      none := by decide +kernel
  have hsessions : ((listenerSlot.run {} waitFailsFirst).get waitFailsFirst_runs).sessions =
      [0] := by decide +kernel
  refine ⟨rfl, ?_, hvcm, haccepting, hsessions⟩
  intro h
  have hfree := h.last (Option.some_get waitFailsFirst_runs).symm
  refine hfree.removed 0 hvcm ?_ ?_
  · rw [haccepting]
    simp
  · rw [hsessions]
    exact List.mem_cons_self

end RemoteDesktop.DRD
