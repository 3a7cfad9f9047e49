import RemoteDesktop.DRDSessionTeardown
import RemoteDesktop.DRDLocalSession

/-! The login of a client, from `accept_peer` and `drd_peer_post_connect` in `drd_rdp_listener.c` to
the end of its session: who gets past the login, and what becomes of the PAM session. -/
namespace RemoteDesktop.DRD

/-- What `drd_rdp_listener_new` is given, with the texts of PAM. -/
structure LoginConfig where
  nlaEnabled : Bool
  pamService : Option String
  strerror : PamStatus → String

/-- The credentials in the settings of a peer. NLA has checked them, TLS has not. -/
structure ClientInfo where
  username : Option String
  password : Option String

/-- A peer with its session. `listener` is `ctx->listener`, not NULL; `connected` is that of
FreeRDP, which calls PostConnect once. -/
structure LoginPeer where
  session : Session
  listener : Bool := false
  connected : Bool := false
  localSession : Bool := false
  pam : List PamCall := []

/-- PostConnect may be followed by Activate within the same `CheckFileDescriptor`. -/
inductive LoginEvent
  | listenerStored
  | postConnect (info : ClientInfo) (answers : PamAnswers) (rt : ServerRuntime)
      (activate : Option (Bool × Bool × Bool))
  | session (rt : ServerRuntime) (e : SessionEvent)

namespace LoginPeer

variable (s : LoginPeer)

/-- `g_clear_pointer(&self->local_session, drd_local_session_close)`. -/
def closeLocalSession : LoginPeer :=
  if s.localSession then { s with localSession := false, pam := s.pam ++ localSessionClose } else s

/-- `drd_rdp_session_attach_local_session`. -/
def attachLocalSession : LoginPeer :=
  { s.closeLocalSession with localSession := true }

/-- `drd_rdp_listener_authenticate_tls_login`. -/
def authenticateTlsLogin (cfg : LoginConfig) (info : ClientInfo) (answers : PamAnswers) :
    LoginPeer × Bool :=
  if isMissing info.username || isMissing info.password then (s, false)
  else
    let result := localSessionNew cfg.strerror cfg.pamService info.username info.password answers
    let s := { s with pam := s.pam ++ result.calls }
    if !result.opened then (s, false) else (s.attachLocalSession, true)

/-- `drd_peer_post_connect`, up to the disconnection of a client that is rejected. -/
def postConnect (cfg : LoginConfig) (info : ClientInfo) (answers : PamAnswers) : LoginPeer × Bool :=
  if s.listener && !cfg.nlaEnabled then s.authenticateTlsLogin cfg info answers else (s, true)

/-- The session steps, and the login does not. -/
def sessionStep (rt : ServerRuntime) (e : SessionEvent) : Option LoginPeer :=
  (s.session.step rt e).map fun r => { s with session := r.session }

/-- What waits for the login: Activate for PostConnect, the closed callback for `ctx->listener`.
The rejection of a client is a part of PostConnect. -/
def allows : SessionEvent → Bool
  | .vcm (.checked .authRejected) => false
  | .vcm (.checked (.activate _ _ _)) => s.connected
  | .closedCallbackSet => s.listener
  | _ => true

/-- The end of `drd_rdp_session_disconnect` and of `drd_rdp_session_dispose`. -/
def closesLocalSession : SessionEvent → Bool
  | .mainStep => s.session.main = .at .finish .disconnect ∨ s.session.main = .at .finish .dispose
  | .vcm .step =>
    s.session.vcm = .callback (.at .finish .disconnect) ∨
      s.session.vcm = .callback (.at .finish .dispose)
  | _ => false

def step (cfg : LoginConfig) : LoginEvent → Option LoginPeer
  | .listenerStored =>
    -- `start_event_thread` has returned, and the callback is set afterwards
    if s.session.vcmThread && !s.session.closedCb then some { s with listener := true } else none
  | .postConnect info answers rt activate =>
    if s.session.vcm = .check ∧ s.connected = false then
      match s.postConnect cfg info answers with
      | (s, false) => s.sessionStep rt (.vcm (.checked .authRejected))
      | (s, true) =>
        { s with connected := true }.sessionStep rt
          (.vcm (.checked (activate.elim .quiet fun ok => .activate ok.1 ok.2.1 ok.2.2)))
    else none
  | .session rt e =>
    if s.allows e then
      (s.sessionStep rt e).map fun s' => if s.closesLocalSession e then s'.closeLocalSession else s'
    else none

end LoginPeer

/-- One peer, from the start of its vcm thread on. -/
def loginMachine (cfg : LoginConfig) : EventMachine LoginPeer LoginEvent where
  init s := ∃ passiveMode size, s = { session := drdRdpSessionNew passiveMode size }
  step s e := s.step cfg e

/-! What a step of the session does to a login. -/

namespace Session

variable {s : Session} {rt : ServerRuntime} {res : SessionResult}

theorem teardownStep_isActivated {kind : TeardownKind} {point : TeardownPoint}
    {r : TeardownPc × SessionResult} (h : s.teardownStep kind point = some r)
    (hactivated : r.2.session.isActivated = true) : s.isActivated = true := by
  cases point with
  | start =>
    simp only [teardownStep] at h
    split at h <;> cases h <;> exact hactivated
  | joinRender | joinVcm =>
    simp only [teardownStep, Option.ite_none_right_eq_some] at h
    obtain ⟨_, h⟩ := h
    cases h
    exact hactivated
  | alive =>
    cases h
    exact hactivated
  | notify =>
    cases h
    rcases s.notifyClosed_frame with hs | hs
    · simpa [hs] using hactivated
    · simpa [hs] using hactivated
  | disable =>
    cases h
    rcases s.disableGraphicsPipeline_frame with hs | hs
    · simpa [hs] using hactivated
    · simpa [hs] using hactivated
  | finish =>
    -- a disconnect takes the activation back
    cases kind with
    | disconnect =>
      cases h
      cases hactivated
    | stop | dispose =>
      cases h
      exact hactivated

theorem drdynvc_isActivated (ready opened : Bool) (answer : GfxPdu → Bool) (vcmOk : Bool)
    (hactivated : (s.drdynvc ready opened answer vcmOk).session.isActivated = true) :
    s.isActivated = true := by
  unfold drdynvc at hactivated
  dsimp only at hactivated
  split at hactivated
  · split_ifs at hactivated <;> exact hactivated
  · split_ifs at hactivated <;> exact hactivated

theorem vcmStep_isActivated {e : VcmEvent} (h : s.vcmStep rt e = some res)
    (hactivated : res.session.isActivated = true) :
    s.isActivated = true ∨ ∃ resizeOk optionsOk prepareOk,
      e = .checked (.activate resizeOk optionsOk prepareOk) := by
  cases vcmStep_move h with
  | loop | rejected | ending | noHandles | waitFailed | signalled | failed | quiet | authRejected
  | notJoined => exact .inl hactivated
  | teardown hpc hr => exact .inl (teardownStep_isActivated hr hactivated)
  | notify hpc =>
    left
    rcases s.notifyClosed_frame with hs | hs
    · simpa [hs] using hactivated
    · simpa [hs] using hactivated
  | activate hpc resizeOk optionsOk prepareOk => exact .inr ⟨resizeOk, optionsOk, prepareOk, rfl⟩
  | drdynvc hpc ready opened answer vcmOk =>
    exact .inl (drdynvc_isActivated ready opened answer vcmOk hactivated)

/-- Only Activate activates a session. -/
theorem step_isActivated {e : SessionEvent} (h : s.step rt e = some res)
    (hactivated : res.session.isActivated = true) :
    s.isActivated = true ∨ ∃ resizeOk optionsOk prepareOk,
      e = .vcm (.checked (.activate resizeOk optionsOk prepareOk)) := by
  cases e with
  | render e =>
    simp only [step, Option.map_eq_some_iff] at h
    obtain ⟨m, _, rfl⟩ := h
    exact .inl hactivated
  | vcm e =>
    obtain hold | ⟨resizeOk, optionsOk, prepareOk, rfl⟩ := vcmStep_isActivated h hactivated
    · exact .inl hold
    · exact .inr ⟨resizeOk, optionsOk, prepareOk, rfl⟩
  | vcmThreadStored =>
    simp only [step, Option.ite_none_left_eq_some] at h
    obtain ⟨_, h⟩ := h
    cases h
    exact .inl hactivated
  | closedCallbackSet =>
    simp only [step, Option.ite_none_left_eq_some] at h
    obtain ⟨_, h⟩ := h
    left
    split_ifs at h
    · cases h
      exact hactivated
    · cases h
      rcases notifyClosed_frame { s with closedCb := true } with hs | hs
      · simpa [hs] using hactivated
      · simpa [hs] using hactivated
  | beginTeardown kind =>
    simp only [step, Option.ite_none_right_eq_some] at h
    obtain ⟨_, h⟩ := h
    cases h
    exact .inl hactivated
  | mainStep =>
    left
    simp only [step] at h
    split at h
    · cases h
    · obtain ⟨r, hr, rfl⟩ := Option.map_eq_some_iff.mp h
      exact teardownStep_isActivated hr hactivated
  | capsConfirm | frameAck =>
    cases h
    exact .inl hactivated

/-- The places of a teardown that come before a join of the vcm thread has succeeded. -/
def Early : TeardownPoint → Prop
  | .start | .joinRender | .alive | .joinVcm => True
  | .notify | .disable | .finish => False

/-- The main thread tears nothing down, and no teardown by the vcm thread gets past the join of
that thread with itself. -/
structure Untorn (s : Session) : Prop where
  main : s.main = .idle
  callback : ∀ teardown, s.vcm = .callback teardown →
    s.vcmThread = true ∧ ∃ point kind, teardown = .at point kind ∧ Early point

/-- A teardown by the vcm thread stays before the join. -/
theorem teardownStep_early {kind : TeardownKind} {point : TeardownPoint}
    {r : TeardownPc × SessionResult} (h : s.teardownStep kind point = some r)
    (hearly : Early point) (hthread : s.vcmThread = true) (halive : s.vcm ≠ .exited) :
    r.2.session.vcmThread = true ∧ ∃ point', r.1 = .at point' kind ∧ Early point' := by
  cases point with
  | start =>
    simp only [teardownStep] at h
    split at h <;> cases h
    · exact ⟨hthread, .joinRender, rfl, trivial⟩
    · exact ⟨hthread, .alive, rfl, trivial⟩
  | joinRender =>
    simp only [teardownStep, Option.ite_none_right_eq_some] at h
    obtain ⟨_, h⟩ := h
    cases h
    exact ⟨hthread, .alive, rfl, trivial⟩
  | alive =>
    cases h
    exact ⟨hthread, .joinVcm, by rw [hthread]; rfl, trivial⟩
  | joinVcm =>
    simp only [teardownStep, Option.ite_none_right_eq_some] at h
    exact absurd h.1 halive
  | notify | disable | finish => exact absurd hearly id

/-- A step that leaves the vcm thread where it is. -/
theorem Untorn.of_frame {s' : Session} (h : s.Untorn) (hmain : s'.main = s.main)
    (hvcm : s'.vcm = s.vcm) (hthread : s.vcmThread = true → s'.vcmThread = true) : s'.Untorn := by
  refine ⟨hmain.trans h.main, ?_⟩
  intro teardown ht
  obtain ⟨hstored, hpoint⟩ := h.callback teardown (hvcm.symm.trans ht)
  exact ⟨hthread hstored, hpoint⟩

/-- A step to a place outside of the callbacks. -/
theorem Untorn.of_outside {s' : Session} (h : s.Untorn) (hmain : s'.main = s.main)
    (hvcm : ∀ teardown, s'.vcm ≠ .callback teardown) : s'.Untorn :=
  ⟨hmain.trans h.main, fun teardown ht => absurd ht (hvcm teardown)⟩

theorem Untorn.activate (h : s.Untorn) (rt : ServerRuntime) (hthread : s.vcmThread = true)
    (resizeOk optionsOk prepareOk : Bool) :
    (s.activate rt resizeOk optionsOk prepareOk).session.Untorn := by
  have hmain : s.activated.main = s.main := by
    unfold activated
    split_ifs <;> rfl
  unfold Session.activate
  split_ifs
  · exact h.of_outside rfl (by simp)
  -- the two failures begin a teardown within the callback
  · refine ⟨h.main, ?_⟩
    intro teardown ht
    exact ⟨hthread, .start, .disconnect, (VcmPc.callback.inj ht).symm, trivial⟩
  · exact h.of_outside hmain (by simp)
  · exact h.of_outside hmain (by simp)
  · refine ⟨h.main, ?_⟩
    intro teardown ht
    exact ⟨hthread, .start, .disconnect, (VcmPc.callback.inj ht).symm, trivial⟩

theorem Untorn.drdynvc (h : s.Untorn) (ready opened : Bool) (answer : GfxPdu → Bool)
    (vcmOk : Bool) : (s.drdynvc ready opened answer vcmOk).session.Untorn := by
  unfold Session.drdynvc
  dsimp only
  split
  · split_ifs <;> exact h.of_outside rfl (by simp)
  · split_ifs <;> exact h.of_outside rfl (by simp)

theorem Untorn.vcmStep (h : s.Untorn) {e : VcmEvent} (hres : s.vcmStep rt e = some res)
    (hcheck : ∀ check, e = .checked check → s.vcmThread = true) : res.session.Untorn := by
  cases vcmStep_move hres with
  | loop hpc =>
    refine h.of_outside rfl ?_
    intro teardown
    dsimp only
    split_ifs <;> simp
  | rejected hpc =>
    obtain ⟨_, point, kind, hno, _⟩ := h.callback _ hpc
    cases hno
  | @teardown point kind r hpc hr =>
    obtain ⟨hthread, point, kind, hat, hearly⟩ := h.callback _ hpc
    obtain ⟨rfl, rfl⟩ := TeardownPc.at.inj hat
    have heffect := teardownStep_effect hr
    obtain ⟨hthread', point', hnext, hearly'⟩ :=
      teardownStep_early hr hearly hthread (by simp [hpc])
    refine ⟨heffect.main.trans h.main, ?_⟩
    intro teardown ht
    obtain rfl : r.1 = teardown := VcmPc.callback.inj ht
    exact ⟨hthread', point', _, hnext, hearly'⟩
  | ending | waitFailed | signalled | noHandles | failed | quiet | notJoined =>
    exact h.of_outside rfl (by simp)
  | notify hpc =>
    have hmain : s.notifyClosed.1.main = s.main := by
      rcases s.notifyClosed_frame with hs | hs <;> rw [hs]
    exact h.of_outside hmain (by simp)
  | authRejected hpc =>
    refine ⟨h.main, ?_⟩
    intro teardown ht
    exact ⟨hcheck _ rfl, .start, .disconnect, (VcmPc.callback.inj ht).symm, trivial⟩
  | activate hpc resizeOk optionsOk prepareOk => exact h.activate rt (hcheck _ rfl) _ _ _
  | drdynvc hpc ready opened answer vcmOk => exact h.drdynvc ready opened answer vcmOk

theorem step_untorn {e : SessionEvent} (h : s.Untorn) (hres : s.step rt e = some res)
    (hteardown : ∀ kind, e ≠ .beginTeardown kind)
    (hcheck : ∀ check, e = .vcm (.checked check) → s.vcmThread = true) : res.session.Untorn := by
  cases e with
  | render e =>
    simp only [step, Option.map_eq_some_iff] at hres
    obtain ⟨m, _, rfl⟩ := hres
    exact h.of_frame rfl rfl id
  | vcm e => exact h.vcmStep hres fun check he => hcheck check (by rw [he])
  | vcmThreadStored =>
    simp only [step, Option.ite_none_left_eq_some] at hres
    obtain ⟨_, hres⟩ := hres
    cases hres
    exact h.of_frame rfl rfl fun _ => rfl
  | closedCallbackSet =>
    simp only [step, Option.ite_none_left_eq_some] at hres
    obtain ⟨_, hres⟩ := hres
    split_ifs at hres
    · cases hres
      exact h.of_frame rfl rfl id
    · cases hres
      rcases notifyClosed_frame { s with closedCb := true } with hs | hs
      · exact h.of_frame (by rw [hs]) (by rw [hs]) (by rw [hs]; exact id)
      · exact h.of_frame (by rw [hs]) (by rw [hs]) (by rw [hs]; exact id)
  | beginTeardown kind => exact absurd rfl (hteardown kind)
  | mainStep =>
    simp only [step, h.main] at hres
    cases hres
  | capsConfirm | frameAck =>
    cases hres
    exact h.of_frame rfl rfl id

end Session

namespace LoginPeer

variable {cfg : LoginConfig} {s s' : LoginPeer}

/-- Nobody gets past PostConnect, let alone Activate, without a login. -/
structure Gated (s : LoginPeer) : Prop where
  connected : s.connected = true → LoggedIn s.pam
  activated : s.session.isActivated = true → s.connected = true

/-- What PAM holds is the session that the peer has open. -/
def PamLedger (s : LoginPeer) : Prop :=
  pamHolds s.pam = some (if s.localSession then [.session, .credentials, .handle] else [])

/-- Before PostConnect lets a peer pass no session is opened for it. -/
def Unopened (s : LoginPeer) : Prop :=
  s.connected = false → s.localSession = false ∧ .openSession .success ∉ s.pam

theorem closeLocalSession_frame (s : LoginPeer) :
    s.closeLocalSession.session = s.session ∧ s.closeLocalSession.connected = s.connected ∧
      s.closeLocalSession.listener = s.listener ∧ s.closeLocalSession.localSession = false ∧
      ∃ calls, s.closeLocalSession.pam = s.pam ++ calls ∧
        PamCall.openSession .success ∉ calls := by
  unfold closeLocalSession
  cases hopen : s.localSession with
  | true => exact ⟨rfl, rfl, rfl, rfl, localSessionClose, rfl, by decide⟩
  | false => exact ⟨rfl, rfl, rfl, hopen, [], by simp, by simp⟩

theorem PamLedger.close (h : s.PamLedger) : s.closeLocalSession.PamLedger := by
  unfold PamLedger closeLocalSession at *
  cases hopen : s.localSession with
  | true =>
    rw [hopen] at h
    exact pamHolds_close h
  | false => simpa [hopen] using h

theorem attachLocalSession_of_none (h : s.localSession = false) :
    s.attachLocalSession = { s with localSession := true } := by
  simp [attachLocalSession, closeLocalSession, h]

/-- A login of a peer that has no session yet. -/
theorem authenticateTlsLogin_spec (cfg : LoginConfig) (hledger : s.PamLedger)
    (hnone : s.localSession = false) (hunopened : .openSession .success ∉ s.pam)
    (info : ClientInfo) (answers : PamAnswers) :
    let r := s.authenticateTlsLogin cfg info answers
    r.1.session = s.session ∧ r.1.connected = s.connected ∧ r.1.PamLedger ∧
      (r.2 = false → r.1.localSession = false ∧ .openSession .success ∉ r.1.pam) ∧
      (r.2 = true → LoggedIn r.1.pam) := by
  have hover : pamHolds s.pam = some [] := by simpa [PamLedger, hnone] using hledger
  intro r
  unfold r authenticateTlsLogin
  split_ifs with hmissing
  · exact ⟨rfl, rfl, hledger, fun _ => ⟨hnone, hunopened⟩, fun hno => nomatch hno⟩
  · dsimp only
    generalize hresult : localSessionNew cfg.strerror cfg.pamService info.username info.password
      answers = result
    cases hopened : result.opened with
    | true =>
      obtain ⟨hlogin, hholds⟩ := localSessionNew_opened hresult hopened
      have hattach := attachLocalSession_of_none (s := { s with pam := s.pam ++ result.calls }) hnone
      rw [if_neg (by simp), hattach]
      refine ⟨rfl, rfl, ?_, by simp, fun _ => ?_⟩
      · simp only [PamLedger, if_true]
        rw [pamHolds_append_of_over hover, hholds]
      · exact hlogin.mono (List.subset_append_right _ _)
    | false =>
      have hholds := localSessionNew_failed hresult hopened
      have hnew := localSessionNew_unopened hresult hopened
      rw [if_pos (by simp)]
      refine ⟨rfl, rfl, ?_, fun _ => ⟨hnone, ?_⟩, by simp⟩
      · simp only [PamLedger, hnone, Bool.false_eq_true, if_false]
        rw [pamHolds_append_of_over hover, hholds]
      · simp only [List.mem_append, not_or]
        exact ⟨hunopened, hnew⟩

/-- What PostConnect does to a peer that has not been let pass yet. -/
theorem postConnect_spec (cfg : LoginConfig) (hledger : s.PamLedger) (hunopened : s.Unopened)
    (hconnected : s.connected = false) (info : ClientInfo) (answers : PamAnswers) :
    let r := s.postConnect cfg info answers
    r.1.session = s.session ∧ r.1.connected = false ∧ r.1.PamLedger ∧
      (r.2 = false → r.1.Unopened) ∧
      (r.2 = true → s.listener = true → cfg.nlaEnabled = false → LoggedIn r.1.pam) := by
  obtain ⟨hnone, hpam⟩ := hunopened hconnected
  intro r
  unfold r postConnect
  split_ifs with hgate
  · obtain ⟨hsession, hsame, hkept, hrejected, hlogin⟩ :=
      authenticateTlsLogin_spec cfg hledger hnone hpam info answers
    refine ⟨hsession, hsame.trans hconnected, hkept, ?_, fun hpassed _ _ => hlogin hpassed⟩
    intro hfailed _
    exact hrejected hfailed
  · refine ⟨rfl, hconnected, hledger, by simp, ?_⟩
    intro _ hlistener hnla
    exact absurd (by simp [hlistener, hnla]) hgate

/-- A step, by what it does. -/
inductive Move (cfg : LoginConfig) (s : LoginPeer) : LoginEvent → LoginPeer → Prop
  | listenerStored : Move cfg s .listenerStored { s with listener := true }
  | rejected {info : ClientInfo} {answers : PamAnswers} {rt : ServerRuntime}
      {activate : Option (Bool × Bool × Bool)} {p : LoginPeer} {res : SessionResult}
      (hconnected : s.connected = false) (hp : s.postConnect cfg info answers = (p, false))
      (hres : p.session.step rt (.vcm (.checked .authRejected)) = some res) :
      Move cfg s (.postConnect info answers rt activate) { p with session := res.session }
  | passed {info : ClientInfo} {answers : PamAnswers} {rt : ServerRuntime}
      {activate : Option (Bool × Bool × Bool)} {p : LoginPeer} {check : PeerCheck}
      {res : SessionResult} (hconnected : s.connected = false)
      (hp : s.postConnect cfg info answers = (p, true)) (hcheck : check ≠ .authRejected)
      (hres : p.session.step rt (.vcm (.checked check)) = some res) :
      Move cfg s (.postConnect info answers rt activate)
        { p with connected := true, session := res.session }
  | session {rt : ServerRuntime} {e : SessionEvent} {res : SessionResult} (hallows : s.allows e)
      (hres : s.session.step rt e = some res) (hopen : s.closesLocalSession e = false) :
      Move cfg s (.session rt e) { s with session := res.session }
  | closes {rt : ServerRuntime} {e : SessionEvent} {res : SessionResult} (hallows : s.allows e)
      (hres : s.session.step rt e = some res) (hclose : s.closesLocalSession e = true) :
      Move cfg s (.session rt e) { s with session := res.session }.closeLocalSession

theorem step_move {e : LoginEvent} (h : s.step cfg e = some s') : s.Move cfg e s' := by
  cases e with
  | listenerStored =>
    simp only [step, Option.ite_none_right_eq_some] at h
    obtain ⟨_, h⟩ := h
    cases h
    exact .listenerStored
  | postConnect info answers rt activate =>
    simp only [step, Option.ite_none_right_eq_some] at h
    obtain ⟨⟨_, hconnected⟩, h⟩ := h
    split at h
    · next p hp =>
      obtain ⟨res, hres, rfl⟩ := Option.map_eq_some_iff.mp h
      exact .rejected hconnected hp hres
    · next p hp =>
      obtain ⟨res, hres, rfl⟩ := Option.map_eq_some_iff.mp h
      refine .passed (p := p) hconnected hp ?_ hres
      cases activate <;> simp
  | session rt e =>
    simp only [step, Option.ite_none_right_eq_some] at h
    obtain ⟨hallows, h⟩ := h
    obtain ⟨stepped, hstep, rfl⟩ := Option.map_eq_some_iff.mp h
    obtain ⟨res, hres, rfl⟩ := Option.map_eq_some_iff.mp hstep
    cases hclose : s.closesLocalSession e with
    | true => exact .closes hallows hres hclose
    | false => exact .session hallows hres hclose

/-- The transactions of a peer, in every step. -/
theorem ledger_step {e : LoginEvent} (hmove : s.Move cfg e s') (hledger : s.PamLedger)
    (hunopened : s.Unopened) : s'.PamLedger ∧ s'.Unopened := by
  cases hmove with
  | listenerStored => exact ⟨hledger, hunopened⟩
  | @rejected info answers _ _ p res hconnected hp hres =>
    obtain ⟨_, _, hkept, hrejected, _⟩ :=
      postConnect_spec cfg hledger hunopened hconnected info answers
    rw [hp] at hkept hrejected
    exact ⟨hkept, hrejected rfl⟩
  | @passed info answers _ _ p _ res hconnected hp hcheck hres =>
    obtain ⟨_, _, hkept, _, _⟩ :=
      postConnect_spec cfg hledger hunopened hconnected info answers
    rw [hp] at hkept
    exact ⟨hkept, fun hno => nomatch hno⟩
  | session hallows hres hopen => exact ⟨hledger, hunopened⟩
  | @closes rt e res hallows hres hclose =>
    obtain ⟨_, hconnected, _, hclosed, calls, hpam, hcalls⟩ :=
      closeLocalSession_frame { s with session := res.session }
    refine ⟨PamLedger.close hledger, ?_⟩
    intro hno
    rw [hconnected] at hno
    obtain ⟨_, hunused⟩ := hunopened hno
    refine ⟨hclosed, ?_⟩
    rw [hpam, List.mem_append, not_or]
    exact ⟨hunused, hcalls⟩

/-- Activate comes after PostConnect. -/
theorem activated_step {e : LoginEvent} (hmove : s.Move cfg e s') (hledger : s.PamLedger)
    (hunopened : s.Unopened) (h : s.session.isActivated = true → s.connected = true) :
    s'.session.isActivated = true → s'.connected = true := by
  cases hmove with
  | listenerStored => exact h
  | @rejected info answers _ _ p res hconnected hp hres =>
    obtain ⟨hsession, _, _, _, _⟩ :=
      postConnect_spec cfg hledger hunopened hconnected info answers
    rw [hp] at hsession
    intro hactivated
    obtain hold | ⟨_, _, _, he⟩ := Session.step_isActivated hres hactivated
    · rw [show p.session = s.session from hsession] at hold
      simp [h hold] at hconnected
    · cases he
  | passed hconnected hp hcheck hres => exact fun _ => rfl
  | @session rt e res hallows hres hopen =>
    intro hactivated
    obtain hold | ⟨_, _, _, rfl⟩ := Session.step_isActivated hres hactivated
    · exact h hold
    · exact hallows
  | @closes rt e res hallows hres hclose =>
    obtain ⟨hsession, hconnected, _⟩ := closeLocalSession_frame { s with session := res.session }
    rw [hsession, hconnected]
    intro hactivated
    obtain hold | ⟨_, _, _, rfl⟩ := Session.step_isActivated hres hactivated
    · exact h hold
    · exact hallows

/-- PostConnect runs after `accept_peer` has stored the listener in the context. -/
def ListenerStored (s : LoginPeer) : LoginEvent → Prop
  | .postConnect _ _ _ _ => s.listener = true
  | _ => True

instance (s : LoginPeer) : DecidablePred (ListenerStored s)
  | .listenerStored => isTrue trivial
  | .postConnect _ _ _ _ => inferInstanceAs (Decidable (_ = true))
  | .session _ _ => isTrue trivial

theorem connected_step {e : LoginEvent} (hmove : s.Move cfg e s') (hnla : cfg.nlaEnabled = false)
    (hledger : s.PamLedger) (hunopened : s.Unopened) (hstored : ListenerStored s e)
    (h : s.connected = true → LoggedIn s.pam) : s'.connected = true → LoggedIn s'.pam := by
  cases hmove with
  | listenerStored => exact h
  | @rejected info answers _ _ p res hconnected hp hres =>
    obtain ⟨_, hsame, _, _, _⟩ :=
      postConnect_spec cfg hledger hunopened hconnected info answers
    rw [hp] at hsame
    intro hno
    exact absurd (hsame.symm.trans hno) (by decide)
  | @passed info answers _ _ p _ res hconnected hp hcheck hres =>
    obtain ⟨_, _, _, _, hlogin⟩ :=
      postConnect_spec cfg hledger hunopened hconnected info answers
    rw [hp] at hlogin
    exact fun _ => hlogin rfl hstored hnla
  | session hallows hres hopen => exact h
  | @closes rt e res hallows hres hclose =>
    obtain ⟨_, hconnected, _, _, calls, hpam, _⟩ :=
      closeLocalSession_frame { s with session := res.session }
    rw [hconnected, hpam]
    intro hpassed
    exact (h hpassed).mono (List.subset_append_left _ _)

theorem init_kept (hinit : (loginMachine cfg).init s) :
    s.PamLedger ∧ s.Unopened ∧ s.Gated := by
  obtain ⟨passiveMode, size, rfl⟩ := hinit
  refine ⟨rfl, fun _ => ⟨rfl, by simp⟩, ?_, ?_⟩
  · intro hno
    cases hno
  · intro hno
    cases hno

/-- Without NLA, in every run, nobody gets past PostConnect without a login if and only if no
PostConnect runs before the listener is in the context. The vcm thread is started before. -/
theorem tls_login_gate_iff (cfg : LoginConfig) (hnla : cfg.nlaEnabled = false) {s t : LoginPeer}
    (hinit : (loginMachine cfg).init s) (es : List LoginEvent)
    (hrun : (loginMachine cfg).run s es = some t) :
    (loginMachine cfg).StatesMeet Gated s es ↔
      (loginMachine cfg).StepsMeet ListenerStored s es := by
  refine EventMachine.statesMeet_iff_stepsMeet
    (K := fun s => s.PamLedger ∧ s.Unopened ∧ s.Gated) ?_ ?_ ?_ (init_kept hinit) es hrun
  · rintro s ⟨_, _, hgated⟩
    exact hgated
  · rintro s e s' ⟨hledger, hunopened, hgated⟩ hstored he
    have hmove := step_move he
    obtain ⟨hledger', hunopened'⟩ := ledger_step hmove hledger hunopened
    refine ⟨hledger', hunopened', ?_, ?_⟩
    · exact connected_step hmove hnla hledger hunopened hstored hgated.connected
    · exact activated_step hmove hledger hunopened hgated.activated
  · rintro s e s' ⟨_, hunopened, _⟩ hearly he hgated
    cases e with
    | listenerStored => exact hearly trivial
    | session rt e => exact hearly trivial
    | postConnect info answers rt activate =>
      have hlistener : s.listener = false := Bool.eq_false_of_not_eq_true hearly
      have hskipped : s.postConnect cfg info answers = (s, true) := by
        simp [LoginPeer.postConnect, hlistener]
      have hmove : s.Move cfg (.postConnect info answers rt activate) s' := step_move he
      cases hmove with
      | rejected hconnected hp hres =>
        rw [hskipped] at hp
        cases hp
      | passed hconnected hp hcheck hres =>
        rw [hskipped] at hp
        cases hp
        -- it is let pass, though no session was ever opened
        exact (hunopened hconnected).2 (hgated.connected rfl).opened

def tlsConfig : LoginConfig where
  nlaEnabled := false
  pamService := some "deepin-remote-sso"
  strerror _ := ""

def newPeer : LoginPeer where
  session := drdRdpSessionNew false none

/-- A client logs in and is served. -/
def servedLogin : List LoginEvent :=
  [.session {} .vcmThreadStored, .listenerStored, .session {} .closedCallbackSet,
    .session {} (.vcm .step), .session {} (.vcm .signalled),
    .postConnect { username := some "user", password := some "password" } {}
      { streamRunning := true } (some (true, true, true))]

theorem tls_login_gate_iff_served :
    (loginMachine tlsConfig).StatesMeet Gated newPeer servedLogin :=
  have hrun : ((loginMachine tlsConfig).run newPeer servedLogin).isSome := rfl
  (tls_login_gate_iff tlsConfig rfl ⟨false, none, rfl⟩ servedLogin (Option.some_get hrun).symm).mpr
    (by decide)

/-! What becomes of the PAM session. -/

/-- The main thread begins no teardown, and `start_event_thread` has stored the vcm thread before
FreeRDP calls back. -/
def Undisturbed (s : LoginPeer) : LoginEvent → Prop
  | .postConnect _ _ _ _ => s.session.vcmThread = true
  | .session _ (.beginTeardown _) => False
  | .session _ (.vcm (.checked _)) => s.session.vcmThread = true
  | _ => True

instance (s : LoginPeer) : DecidablePred (Undisturbed s)
  | .postConnect _ _ _ _ => inferInstanceAs (Decidable (_ = true))
  | .session _ (.beginTeardown _) => isFalse id
  | .session _ (.vcm (.checked _)) => inferInstanceAs (Decidable (_ = true))
  | .listenerStored => isTrue trivial
  | .session _ (.render _) | .session _ .vcmThreadStored | .session _ .closedCallbackSet
  | .session _ .mainStep | .session _ .capsConfirm | .session _ (.frameAck _)
  | .session _ (.vcm .step) | .session _ (.vcm .noHandles) | .session _ (.vcm .waitFailed)
  | .session _ (.vcm .signalled) | .session _ (.vcm .notJoined)
  | .session _ (.vcm (.drdynvc _ _ _ _)) => isTrue trivial

/-- A session that was opened is open. -/
structure StaysOpen (s : LoginPeer) : Prop where
  unclosed : .closeSession ∉ s.pam
  opened : .openSession .success ∈ s.pam → s.localSession = true

theorem StaysOpen.postConnect (h : s.StaysOpen) (cfg : LoginConfig) (hunopened : s.Unopened)
    (hconnected : s.connected = false) (info : ClientInfo) (answers : PamAnswers) :
    (s.postConnect cfg info answers).1.StaysOpen := by
  obtain ⟨hnone, hpam⟩ := hunopened hconnected
  unfold LoginPeer.postConnect authenticateTlsLogin
  split_ifs with hgate hmissing
  · exact h
  · dsimp only
    generalize hresult : localSessionNew cfg.strerror cfg.pamService info.username info.password
      answers = result
    have hunclosed : .closeSession ∉ s.pam ++ result.calls := by
      rw [List.mem_append, not_or]
      exact ⟨h.unclosed, localSessionNew_unclosed hresult⟩
    cases hopened : result.opened with
    | true =>
      have hattach := attachLocalSession_of_none (s := { s with pam := s.pam ++ result.calls }) hnone
      rw [if_neg (by simp), hattach]
      exact ⟨hunclosed, fun _ => rfl⟩
    | false =>
      rw [if_pos (by simp)]
      refine ⟨hunclosed, ?_⟩
      intro hmem
      have hnew := localSessionNew_unopened hresult hopened
      exact absurd (List.mem_append.mp hmem) (not_or.mpr ⟨hpam, hnew⟩)
  · exact h

theorem closesLocalSession_of_untorn (h : s.session.Untorn) (e : SessionEvent) :
    s.closesLocalSession e = false := by
  cases e with
  | mainStep => simp [closesLocalSession, h.main]
  | vcm e =>
    cases e with
    | step =>
      have hplace (kind : TeardownKind) : s.session.vcm ≠ .callback (.at .finish kind) := by
        intro hvcm
        obtain ⟨_, point, kind', hat, hearly⟩ := h.callback _ hvcm
        obtain ⟨rfl, rfl⟩ := TeardownPc.at.inj hat
        exact hearly
      simp [closesLocalSession, hplace]
    | noHandles | waitFailed | signalled | checked | notJoined | drdynvc => rfl
  | render | vcmThreadStored | closedCallbackSet | beginTeardown | capsConfirm | frameAck => rfl

theorem staysOpen_step {e : LoginEvent} (hmove : s.Move cfg e s') (hundisturbed : Undisturbed s e)
    (hledger : s.PamLedger) (hunopened : s.Unopened) (huntorn : s.session.Untorn)
    (h : s.StaysOpen) : s'.session.Untorn ∧ s'.StaysOpen := by
  cases hmove with
  | listenerStored => exact ⟨huntorn, h.unclosed, h.opened⟩
  | @rejected info answers rt _ p res hconnected hp hres =>
    obtain ⟨hsession, _⟩ := postConnect_spec cfg hledger hunopened hconnected info answers
    have hkept := h.postConnect cfg hunopened hconnected info answers
    rw [hp] at hsession hkept
    rw [show p.session = s.session from hsession] at hres
    have hstep := Session.step_untorn huntorn hres (by simp) fun _ _ => hundisturbed
    exact ⟨hstep, hkept.unclosed, hkept.opened⟩
  | @passed info answers rt _ p check res hconnected hp hcheck hres =>
    obtain ⟨hsession, _⟩ := postConnect_spec cfg hledger hunopened hconnected info answers
    have hkept := h.postConnect cfg hunopened hconnected info answers
    rw [hp] at hsession hkept
    rw [show p.session = s.session from hsession] at hres
    have hstep := Session.step_untorn huntorn hres (by simp) fun _ _ => hundisturbed
    exact ⟨hstep, hkept.unclosed, hkept.opened⟩
  | @session rt e res hallows hres hopen =>
    have hteardown : ∀ kind, e ≠ .beginTeardown kind := by
      rintro kind rfl
      exact hundisturbed
    have hchecked : ∀ check, e = .vcm (.checked check) → s.session.vcmThread = true := by
      rintro check rfl
      exact hundisturbed
    exact ⟨Session.step_untorn huntorn hres hteardown hchecked, h.unclosed, h.opened⟩
  | @closes rt e res hallows hres hclose =>
    rw [closesLocalSession_of_untorn huntorn e] at hclose
    cases hclose

/-- The PAM session of a client ends only with a teardown that the main thread begins: neither the
end of the connection nor a failure of Activate closes it. -/
theorem pam_session_outlives_client (cfg : LoginConfig) {s t : LoginPeer}
    (hinit : (loginMachine cfg).init s) (es : List LoginEvent)
    (hes : (loginMachine cfg).StepsMeet Undisturbed s es)
    (hrun : (loginMachine cfg).run s es = some t) :
    .closeSession ∉ t.pam ∧
      (.openSession .success ∈ t.pam →
        pamHolds t.pam = some [.session, .credentials, .handle]) := by
  obtain ⟨hledger, hunopened, _⟩ := init_kept hinit
  have hstart : s.session.Untorn ∧ s.StaysOpen := by
    obtain ⟨passiveMode, size, rfl⟩ := hinit
    refine ⟨⟨rfl, fun _ hno => nomatch hno⟩, by simp, by simp⟩
  have hkept : t.PamLedger ∧ t.Unopened ∧ t.session.Untorn ∧ t.StaysOpen := by
    refine EventMachine.StepsMeet.preserves
      (K := fun s => s.PamLedger ∧ s.Unopened ∧ s.session.Untorn ∧ s.StaysOpen) ?_
      ⟨hledger, hunopened, hstart.1, hstart.2⟩ es hes hrun
    rintro s e s' ⟨hledger, hunopened, huntorn, hopen⟩ hundisturbed he
    have hmove := step_move he
    obtain ⟨hledger', hunopened'⟩ := ledger_step hmove hledger hunopened
    exact ⟨hledger', hunopened',
      staysOpen_step hmove hundisturbed hledger hunopened huntorn hopen⟩
  obtain ⟨hledger', _, _, hopen⟩ := hkept
  refine ⟨hopen.unclosed, ?_⟩
  intro hopened
  rw [hledger', hopen.opened hopened]
  rfl

/-- The client leaves, and the vcm thread with it. -/
def leftLogin : List LoginEvent :=
  servedLogin ++
    [.session {} (.vcm .notJoined), .session {} (.vcm .step), .session {} (.vcm .signalled),
      .session {} (.vcm (.checked .failed)), .session {} (.vcm .step), .session {} (.vcm .step)]

theorem pam_session_outlives_client_left :
    let t := ((loginMachine tlsConfig).run newPeer leftLogin).get rfl
    t.session.vcm = .exited ∧ pamHolds t.pam = some [.session, .credentials, .handle] :=
  ⟨by decide,
    (pam_session_outlives_client tlsConfig ⟨false, none, rfl⟩ leftLogin (by decide)
      (Option.some_get rfl).symm).2 (by decide)⟩

/-- In every run the calls of PAM are nested and each transaction is ended once; what is not ended
is the session that the peer has open. -/
theorem pam_transactions_kept (cfg : LoginConfig) {s t : LoginPeer}
    (hinit : (loginMachine cfg).init s) (es : List LoginEvent)
    (hrun : (loginMachine cfg).run s es = some t) :
    pamHolds t.pam = some (if t.localSession then [.session, .credentials, .handle] else []) ∧
      ∀ r, (t.pam.filterMap PamCall.resource).count (.acquire r) =
        (t.pam.filterMap PamCall.resource).count (.release r) + if t.localSession then 1 else 0 := by
  obtain ⟨hledger, hunopened, _⟩ := init_kept hinit
  have hkept : t.PamLedger ∧ t.Unopened := by
    refine EventMachine.StepsMeet.preserves (C := fun _ _ => True)
      (K := fun s => s.PamLedger ∧ s.Unopened) ?_ ⟨hledger, hunopened⟩ es
      (EventMachine.stepsMeet_true s es) hrun
    rintro s e s' ⟨hledger, hunopened⟩ _ he
    exact ledger_step (step_move he) hledger hunopened
  refine ⟨hkept.1, ?_⟩
  intro r
  rw [ResourceCall.count_acquire (ResourceCall.heldAfter_of_nested hkept.1).2 r]
  cases t.localSession with
  | true => cases r <;> rfl
  | false => rfl

theorem pam_transactions_kept_left :
    let t := ((loginMachine tlsConfig).run newPeer leftLogin).get rfl
    pamHolds t.pam = some (if t.localSession then [.session, .credentials, .handle] else []) :=
  (pam_transactions_kept tlsConfig ⟨false, none, rfl⟩ leftLogin (Option.some_get rfl).symm).1

end LoginPeer

end RemoteDesktop.DRD
