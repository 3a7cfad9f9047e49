import RemoteDesktop.DRDConnectionObjects
import RemoteDesktop.DRDHandoverProtocol

/-! Where the one-time credentials of the handover daemons go. StartHandover gives them to the
system daemon, which sends them to the client in a Server Redirection PDU or asks the handover
daemons of the same object to do so. -/
namespace RemoteDesktop.DRD

/-- What `drd_rdp_session_send_server_redirection` is called with, and the connection of its
session. -/
structure Redirection where
  connection : Option Connection
  routingToken : Option CString
  username : CString
  password : CString
  certificate : Option CString
  deriving DecidableEq

/-- A StartHandover of a daemon on an object. -/
structure GivenCredentials where
  daemon : DaemonId
  path : CString
  username : CString
  password : CString
  deriving DecidableEq

/-- `tlsCredentials` is that of the handover daemons. The rest records the run, and nothing reads
it: the object to which a connection was delegated, the connections of the clients' sessions in the
system daemon and of the active sessions in the handover daemons. -/
structure RedirectRun where
  state : HandoverState := {}
  tlsCredentials : DaemonId → Option (CString × CString) := fun _ => none
  object : Connection → Option CString := fun _ => none
  systemSession : ClientRef → Option Connection := fun _ => none
  activeSession : DaemonId → Option Connection := fun _ => none
  given : List GivenCredentials := []
  sent : List Redirection := []

namespace RedirectRun

variable (s : RedirectRun)

def delegate (env : IncomingEnv) : Option DelegateResult :=
  s.state.system.delegate (s.state.incomingEnv env)

def delegatedObject (env : IncomingEnv) : Option CString :=
  (s.delegate env).bind fun delegated =>
    (delegated.daemon.clients (delegated.client s.state.system.daemon.nextClient)).map
      RemoteClient.id

/-- `on_session_ready` stores the session in the client that the connection's data names. -/
def noteSession (daemon : SystemDaemon) (connection : Connection) : ClientRef → Option Connection :=
  match daemon.connectionClient connection with
  | none => s.systemSession
  | some ref => Function.update s.systemSession ref (some connection)

def noteConnect (env : IncomingEnv) : RedirectRun :=
  { s with
    object := Function.update s.object s.state.nextConnection (s.delegatedObject env)
    systemSession :=
      match s.delegate env with
      | none => s.systemSession
      | some delegated =>
        if !(delegated.handled || delegated.error) &&
            (s.state.system.listener.handleConnection env.accept).2.isSome then
          s.noteSession delegated.daemon s.state.nextConnection
        else s.systemSession }

/-- The redirection that `on_start_handover` sends on the session of its client. -/
def localRedirection (ref : ClientRef) (client : RemoteClient) (env : StartHandoverEnv) :
    List Redirection :=
  if SystemDaemon.redirectsLocally client env then
    [{ connection := s.systemSession ref
       routingToken := client.routing.routingToken
       username := env.username
       password := env.password
       certificate := (loadTlsMaterial env.tlsCredentials).toOption.map Prod.fst }]
  else []

/-- `start_session` loads the material that the reply holds. -/
def noteTls (i : DaemonId) (ok : Bool) : HandoverReply → DaemonId → Option (CString × CString)
  | .startHandover certificate key _ =>
    if ok then Function.update s.tlsCredentials i (some (certificate, key)) else s.tlsCredentials
  | _ => s.tlsCredentials

def noteStart (i : DaemonId) (env : StartHandoverEnv) (now : ℤ) (ok : Bool) : RedirectRun :=
  match (s.state.daemons i).handoverProxy with
  | none => s
  | some path =>
    match s.state.system.handoverObject path with
    | none => s
    | some ref =>
      match s.state.system.daemon.clients ref with
      | none => s
      | some client =>
        { s with
          given := s.given ++ [⟨i, path, env.username, env.password⟩]
          sent := s.sent ++ s.localRedirection ref client env
          tlsCredentials := s.noteTls i ok (SystemDaemon.startHandoverClient client env now).2 }

/-- The redirection of `drd_handover_daemon_redirect_active_client`. -/
def noteDispatch (i : DaemonId) (redirected : Bool) : RedirectRun :=
  match (s.state.daemons i).signals with
  | .redirectClient token username password :: _ =>
    if (s.state.daemons i).activeSession.isSome && redirected then
      { s with
        sent := s.sent ++
          [{ connection := s.activeSession i
             routingToken := some token
             username := username
             password := password
             certificate := (s.tlsCredentials i).map Prod.fst }] }
    else s
  | _ => s

/-- The connection that TakeClient hands to the daemon. -/
def takenConnection (i : DaemonId) (fdAppend : Except String Unit) : Option Connection :=
  (s.state.calledObject i).bind fun ref =>
    (s.state.system.daemon.clients ref).bind fun client =>
      if SystemDaemon.takesClient client fdAppend then client.connection else none

def noteTake (i : DaemonId) (fdAppend : Except String Unit) (accept : AcceptEnv) : RedirectRun :=
  match s.takenConnection i fdAppend with
  | none => s
  | some connection =>
    -- a listener that turns the connection down leaves the active session as it was
    if (s.state.daemons i).listener.any fun listener =>
        (listener.handleConnection accept).2.isSome then
      { s with activeSession := Function.update s.activeSession i (some connection) }
    else s

def note : HandoverEvent → RedirectRun
  | .connect env => s.noteConnect env
  | .sessionReady connection _ _ _ =>
    { s with systemSession := s.noteSession s.state.system.daemon connection }
  | .startHandover i env now ok => s.noteStart i env now ok
  | .dispatch i redirected => s.noteDispatch i redirected
  | .takeClient i fdAppend _ _ accept => s.noteTake i fdAppend accept
  | _ => s

def step (e : HandoverEvent) : Option RedirectRun :=
  (s.state.step e).map fun state => { s.note e with state := state }

end RedirectRun

def redirectMachine : EventMachine RedirectRun HandoverEvent where
  init s := s = {}
  step s e := s.step e

/-- A daemon gave the credentials on the object. -/
def Offered (given : List GivenCredentials) (path username password : CString) : Prop :=
  ∃ i, ⟨i, path, username, password⟩ ∈ given

namespace RedirectRun

/-- Each redirection was sent on a connection that was delegated to some object, with the token of
that object and the credentials that a daemon gave on it. -/
def Confined (s : RedirectRun) : Prop :=
  ∀ r ∈ s.sent, ∃ connection path, r.connection = some connection ∧
    s.object connection = some path ∧ TokenOf path r.routingToken ∧
    Offered s.given path r.username r.password

/-- No daemon gives credentials twice, so those of one daemon go to one object. -/
def GivenOnce (s : RedirectRun) : Prop := (s.given.map GivenCredentials.daemon).Nodup

/-- What the system daemon reads of its TLS credentials has the property. -/
def Loads (P : CString × CString → Prop) (_ : RedirectRun) : HandoverEvent → Prop
  | .startHandover _ env _ _ => ∀ material, env.tlsCredentials = some (.ok material) → P material
  | _ => True

end RedirectRun

namespace RedirectRun

variable {P : CString × CString → Prop} {s s' : RedirectRun} {i : DaemonId} {daemon : HandoverDaemon}

/-- What the run has recorded of a handover daemon. -/
structure DaemonKept (P : CString × CString → Prop) (s : RedirectRun) (i : DaemonId)
    (daemon : HandoverDaemon) : Prop where
  early : daemon.phase = .launched ∨ daemon.phase = .requested →
    daemon.handoverProxy = none ∧ daemon.activeSession = none
  session : daemon.activeSession ≠ none → ∃ connection path,
    s.activeSession i = some connection ∧ s.object connection = some path ∧
      daemon.handoverProxy = some path
  signals : ∀ token username password,
    HandoverSignal.redirectClient token username password ∈ daemon.signals → ∃ path,
      daemon.handoverProxy = some path ∧ TokenOf path (some token) ∧
        Offered s.given path username password
  tls : daemon.phase = .running → ∃ material, s.tlsCredentials i = some material ∧ P material

/-- The daemon is past its StartHandover. -/
def Started (daemon : HandoverDaemon) : Prop := daemon.phase = .running ∨ daemon.phase = .exited

structure Kept (P : CString × CString → Prop) (s : RedirectRun) : Prop where
  sockets : s.state.SocketsKept
  objects : ObjectsKept s.object s.systemSession s.state.system.daemon
  fresh : ∀ connection, s.state.nextConnection ≤ connection → s.object connection = none
  daemons : ∀ i, s.DaemonKept P i (s.state.daemons i)
  started : ∀ g ∈ s.given, Started (s.state.daemons g.daemon)
  confined : s.Confined
  pinned : ∀ r ∈ s.sent, ∃ material, r.certificate = some material.1 ∧ P material
  once : s.GivenOnce

theorem DaemonKept.mono (h : s.DaemonKept P i daemon)
    (hobject : ∀ c path, s.object c = some path → s'.object c = some path)
    (hgiven : ∀ g ∈ s.given, g ∈ s'.given) (hactive : s'.activeSession i = s.activeSession i)
    (htls : s'.tlsCredentials i = s.tlsCredentials i) : s'.DaemonKept P i daemon where
  early := h.early
  session := by
    intro hsome
    obtain ⟨c, path, hc, hpath, hproxy⟩ := h.session hsome
    exact ⟨c, path, hactive.trans hc, hobject c path hpath, hproxy⟩
  signals := by
    intro token username password hin
    obtain ⟨path, hproxy, htoken, ⟨j, hj⟩⟩ := h.signals token username password hin
    exact ⟨path, hproxy, htoken, j, hgiven _ hj⟩
  tls := by
    rw [htls]
    exact h.tls

theorem DaemonKept.exit : s.DaemonKept P i daemon.exit where
  early := fun _ => ⟨rfl, rfl⟩
  session := fun h => absurd rfl h
  signals := fun _ _ _ h => by cases h
  tls := fun h => by cases h

/-- A signal reaches the daemons that are bound to its object. -/
theorem DaemonKept.receive (h : s.DaemonKept P i daemon) {path : CString} {signal : HandoverSignal}
    (hsignal : ∀ token username password, signal = .redirectClient token username password →
      TokenOf path (some token) ∧ Offered s.given path username password) :
    s.DaemonKept P i (daemon.receive path signal) := by
  rw [HandoverDaemon.receive]
  split_ifs with hproxy
  · refine ⟨h.early, h.session, ?_, h.tls⟩
    intro token username password hin
    obtain hold | hnew := List.mem_append.mp hin
    · exact h.signals token username password hold
    · have heq := (List.mem_singleton.mp hnew).symm
      obtain ⟨htoken, hoffered⟩ := hsignal token username password heq
      exact ⟨path, hproxy, htoken, hoffered⟩
  · exact h

theorem receive_phase (daemon : HandoverDaemon) (path : CString) (signal : HandoverSignal) :
    (daemon.receive path signal).phase = daemon.phase := by
  rw [HandoverDaemon.receive]
  split_ifs <;> rfl

theorem DaemonKept.dispatch (h : s.DaemonKept P i daemon) {redirected : Bool}
    {daemon' : HandoverDaemon} (hd : daemon.dispatch redirected = some daemon') :
    s.DaemonKept P i daemon' := by
  rw [HandoverDaemon.dispatch] at hd
  have hrest {signal : HandoverSignal} {rest : List HandoverSignal}
      (hsignals : daemon.signals = signal :: rest) :
      ∀ token username password, HandoverSignal.redirectClient token username password ∈ rest →
        ∃ path, daemon.handoverProxy = some path ∧ TokenOf path (some token) ∧
          Offered s.given path username password := by
    intro token username password hin
    apply h.signals token username password
    rw [hsignals]
    exact List.mem_cons_of_mem _ hin
  split at hd
  · cases hd
  · rename_i token username password rest hsignals
    cases hd
    rw [HandoverDaemon.onRedirectClient]
    split_ifs
    · exact .exit
    · exact ⟨h.early, h.session, hrest hsignals, h.tls⟩
  · rename_i credentials rest hsignals
    cases hd
    exact ⟨h.early, h.session, hrest hsignals, h.tls⟩

theorem dispatch_started {redirected : Bool} {daemon' : HandoverDaemon} (h : Started daemon)
    (hd : daemon.dispatch redirected = some daemon') : Started daemon' := by
  rw [HandoverDaemon.dispatch] at hd
  split at hd
  · cases hd
  · cases hd
    rw [HandoverDaemon.onRedirectClient]
    split_ifs
    · exact .inr rfl
    · exact h
  · cases hd
    exact h

/-- One daemon changes. -/
theorem daemons_setDaemon {state : HandoverState} (hdaemon : s'.DaemonKept P i daemon)
    (hothers : ∀ j, j ≠ i → s'.DaemonKept P j (state.daemons j)) (j : DaemonId) :
    s'.DaemonKept P j ((state.setDaemon i daemon).daemons j) := by
  by_cases hne : j = i
  · subst hne
    rw [HandoverState.setDaemon_self]
    exact hdaemon
  · rw [HandoverState.setDaemon_of_ne daemon hne]
    exact hothers j hne

theorem started_setDaemon {state : HandoverState} (hdaemon : Started (state.daemons i) → Started daemon)
    {j : DaemonId} (h : Started (state.daemons j)) :
    Started ((state.setDaemon i daemon).daemons j) := by
  by_cases hne : j = i
  · subst hne
    rw [HandoverState.setDaemon_self]
    exact hdaemon h
  · rw [HandoverState.setDaemon_of_ne daemon hne]
    exact h

/-- A step that the record takes no note of. -/
theorem Kept.unnoted (h : s.Kept P) {state : HandoverState} (hsockets : state.SocketsKept)
    (hfades : s.state.system.daemon.Fades state.system.daemon)
    (hnext : state.nextConnection = s.state.nextConnection)
    (hdaemons : ∀ i, s.DaemonKept P i (state.daemons i))
    (hstarted : ∀ j, Started (s.state.daemons j) → Started (state.daemons j)) :
    ({ s with state := state } : RedirectRun).Kept P where
  sockets := hsockets
  objects := h.objects.fades hfades
  fresh := by
    intro c hc
    apply h.fresh c
    rw [← hnext]
    exact hc
  daemons := fun i => (hdaemons i).mono (fun _ _ hpath => hpath) (fun _ hg => hg) rfl rfl
  started := fun g hg => hstarted g.daemon (h.started g hg)
  confined := h.confined
  pinned := h.pinned
  once := h.once

theorem Kept.system (h : s.Kept P) {e : SystemEvent} {state : HandoverState}
    (hsockets : state.SocketsKept) (he : s.state.systemStep e = some state)
    (hfades : ∀ system, s.state.system.step e = some system →
      s.state.system.daemon.Fades system.daemon) :
    ({ s with state := state } : RedirectRun).Kept P := by
  obtain ⟨system, hsystem, rfl⟩ := Option.map_eq_some_iff.mp he
  exact h.unnoted hsockets (hfades system hsystem) rfl h.daemons fun _ hstarted => hstarted

theorem Kept.requestHandover (h : s.Kept P) {pruneNow now : ℤ} {state : HandoverState}
    (hsockets : state.SocketsKept) (he : s.state.requestHandover i pruneNow now = some state) :
    ({ s with state := state } : RedirectRun).Kept P := by
  rw [HandoverState.requestHandover] at he
  split at he
  · rename_i hready
    obtain ⟨⟨daemon, reply⟩, hrequest, rfl⟩ := Option.map_eq_some_iff.mp he
    have hfades := SystemDaemon.handleRequestHandover_fades hrequest
    have hphase : (s.state.daemons i).phase = .launched := hready.2.1
    have hkept := h.daemons i
    cases reply with
    | error message =>
      apply h.unnoted hsockets hfades rfl
      · exact daemons_setDaemon .exit fun j _ => h.daemons j
      · exact fun j => started_setDaemon fun _ => .inr rfl
    | ok found =>
      obtain ⟨ref, path⟩ := found
      have hnot : ¬ Started (s.state.daemons i) := by simp [Started, hphase]
      have hdaemon : s.DaemonKept P i
          { s.state.daemons i with phase := .requested, handoverObjectPath := some path } :=
        ⟨fun _ => hkept.early (.inl hphase), hkept.session, hkept.signals, fun hno => by cases hno⟩
      -- who asked for the second stage is recorded, and nothing else
      dsimp only at hsockets ⊢
      rw [HandoverState.recordRequest] at hsockets ⊢
      split_ifs at hsockets ⊢
      · apply h.unnoted hsockets hfades rfl
        · exact daemons_setDaemon hdaemon fun j _ => h.daemons j
        · exact fun j => started_setDaemon fun hstarted => absurd hstarted hnot
      · apply h.unnoted hsockets hfades rfl
        · exact daemons_setDaemon hdaemon fun j _ => h.daemons j
        · exact fun j => started_setDaemon fun hstarted => absurd hstarted hnot
  · cases he

theorem Kept.bindHandover (h : s.Kept P) {bound : Bool} {state : HandoverState}
    (hsockets : state.SocketsKept) (he : s.state.bindHandover i bound = some state) :
    ({ s with state := state } : RedirectRun).Kept P := by
  rw [HandoverState.bindHandover] at he
  split at he
  · rename_i hphase
    cases he
    have hnone : (s.state.daemons i).activeSession = none :=
      ((h.daemons i).early (.inr hphase)).2
    have hnot : ¬ Started (s.state.daemons i) := by simp [Started, hphase]
    apply h.unnoted hsockets (.refl _) rfl
    · apply daemons_setDaemon _ fun j _ => h.daemons j
      split_ifs
      · refine ⟨?_, fun hsome => absurd hnone hsome, ?_, fun hno => by cases hno⟩
        · rintro (hno | hno) <;> cases hno
        · intro _ _ _ hin
          cases hin
      · exact .exit
    · exact fun j => started_setDaemon fun hstarted => absurd hstarted hnot
  · cases he

/-- A signal of RedirectClient is dispatched: the active session belongs to the same object. -/
theorem Kept.dispatch (h : s.Kept P) {redirected : Bool} {state : HandoverState}
    (hsockets : state.SocketsKept) (he : s.state.dispatch i redirected = some state) :
    ({ s.noteDispatch i redirected with state := state } : RedirectRun).Kept P := by
  rw [HandoverState.dispatch] at he
  split at he
  · rename_i hready
    obtain ⟨daemon, hdispatch, rfl⟩ := Option.map_eq_some_iff.mp he
    have hkept : ({ s with state := s.state.setDaemon i daemon } : RedirectRun).Kept P := by
      apply h.unnoted hsockets (.refl _) rfl
      · exact daemons_setDaemon ((h.daemons i).dispatch hdispatch) fun j _ => h.daemons j
      · exact fun j => started_setDaemon fun hstarted => dispatch_started hstarted hdispatch
    rw [noteDispatch]
    split
    · rename_i token username password rest hsignals
      split_ifs with hsends
      · rw [Bool.and_eq_true, Option.isSome_iff_ne_none] at hsends
        obtain ⟨c, path, hactive, hobject, hproxy⟩ := (h.daemons i).session hsends.1
        obtain ⟨path', hproxy', htoken, hoffered⟩ :=
          (h.daemons i).signals token username password (by simp [hsignals])
        obtain rfl : path = path' := Option.some.inj (hproxy.symm.trans hproxy')
        obtain ⟨material, hmaterial, hP⟩ := (h.daemons i).tls hready.1
        refine ⟨hkept.sockets, hkept.objects, hkept.fresh, ?_, hkept.started, ?_, ?_, hkept.once⟩
        · exact fun j => (hkept.daemons j).mono (fun _ _ hpath => hpath) (fun _ hg => hg) rfl rfl
        · intro r hr
          obtain hold | hnew := List.mem_append.mp hr
          · exact h.confined r hold
          · obtain rfl := List.mem_singleton.mp hnew
            exact ⟨c, path, hactive, hobject, htoken, hoffered⟩
        · intro r hr
          obtain hold | hnew := List.mem_append.mp hr
          · exact h.pinned r hold
          · obtain rfl := List.mem_singleton.mp hnew
            exact ⟨material, by simp [hmaterial], hP⟩
      · exact hkept
    · exact hkept
  · cases he

theorem adoptConnection_kept (daemon : HandoverDaemon) (accept : AcceptEnv) :
    (daemon.adoptConnection accept).phase = daemon.phase ∧
      ((daemon.listener.any fun listener => (listener.handleConnection accept).2.isSome) = false →
        (daemon.adoptConnection accept).activeSession = daemon.activeSession) := by
  rw [HandoverDaemon.adoptConnection]
  cases hlistener : daemon.listener with
  | none => exact ⟨rfl, fun _ => rfl⟩
  | some listener =>
    refine ⟨rfl, ?_⟩
    intro hnone
    rw [Option.any_some, Option.isSome_eq_false_iff, Option.isNone_iff_eq_none] at hnone
    show ((listener.handleConnection accept).2 <|> daemon.activeSession) = daemon.activeSession
    rw [hnone]
    rfl

/-- The client that an object stands for has its path. -/
theorem handoverObject_id {system : SystemState} {path : CString} {ref : ClientRef}
    {client : RemoteClient} (hT : system.daemon.TableConsistent)
    (hobject : system.handoverObject path = some ref)
    (hclient : system.daemon.clients ref = some client) : client.id = path := by
  obtain ⟨objects, hobjects, hpath⟩ := Option.bind_eq_some_iff.mp hobject
  obtain ⟨found, hfound, hid⟩ := hT.entry (hT.exported hobjects hpath)
  rw [hclient, Option.some.injEq] at hfound
  rw [hfound, hid]

theorem DaemonKept.answered (h : s.DaemonKept P i daemon) :
    s.DaemonKept P i { daemon with takeClientCall := false } :=
  ⟨h.early, h.session, h.signals, h.tls⟩

theorem answered_started (h : Started daemon) : Started { daemon with takeClientCall := false } := h

/-- TakeClient hands over a connection of the object that it was called on. -/
theorem Kept.takeClient (h : s.Kept P) {fdAppend : Except String Unit} {now queueNow : ℤ}
    {accept : AcceptEnv} {state : HandoverState} (hsockets : state.SocketsKept)
    (he : s.state.takeClient i fdAppend now queueNow accept = some state) :
    ({ s.noteTake i fdAppend accept with state := state } : RedirectRun).Kept P := by
  rw [HandoverState.takeClient] at he
  split at he
  · split at he
    · -- the object is gone
      rename_i hobject
      cases he
      have htaken : s.takenConnection i fdAppend = none := by rw [takenConnection, hobject]; rfl
      rw [noteTake, htaken]
      apply h.unnoted hsockets (.refl _) rfl
      · exact daemons_setDaemon (h.daemons i).answered fun j _ => h.daemons j
      · exact fun j => started_setDaemon answered_started
    · rename_i ref hobject
      obtain ⟨⟨daemon', reply⟩, htake, rfl⟩ := Option.map_eq_some_iff.mp he
      obtain ⟨client, hclient, _⟩ := SystemDaemon.onTakeClient_spec h.sockets.table htake
      have hfades := SystemDaemon.onTakeClient_fades htake
      have hreply := SystemDaemon.onTakeClient_reply hclient htake
      have htaken : s.takenConnection i fdAppend =
          if SystemDaemon.takesClient client fdAppend then client.connection else none := by
        rw [takenConnection, hobject, Option.bind_some, hclient, Option.bind_some]
      cases htakes : SystemDaemon.takesClient client fdAppend with
      | false =>
        rw [htakes] at hreply
        obtain ⟨message, rfl⟩ := hreply
        rw [htakes] at htaken
        rw [noteTake, htaken]
        apply h.unnoted hsockets hfades rfl
        · exact daemons_setDaemon (h.daemons i).answered fun j _ => h.daemons j
        · exact fun j => started_setDaemon answered_started
      | true =>
        rw [htakes, if_pos rfl] at hreply
        subst hreply
        obtain ⟨c, hc⟩ : ∃ c, client.connection = some c := by
          rw [SystemDaemon.takesClient, Bool.and_eq_true] at htakes
          exact Option.isSome_iff_exists.mp htakes.1
        obtain ⟨path, hproxy, hpath⟩ := Option.bind_eq_some_iff.mp hobject
        have hid := handoverObject_id h.sockets.table hpath hclient
        obtain ⟨hadoptProxy, hadoptSignals⟩ :=
          HandoverDaemon.adoptConnection_proxy accept
        obtain ⟨hadoptPhase, hadoptSession⟩ := adoptConnection_kept (s.state.daemons i) accept
        have hearly (hphase : (s.state.daemons i).phase = .launched ∨
            (s.state.daemons i).phase = .requested) : False := by
          have hnone := ((h.daemons i).early hphase).1
          rw [hproxy] at hnone
          cases hnone
        have hadopted (hstarted : Started (s.state.daemons i)) :
            Started { (s.state.daemons i).adoptConnection accept with takeClientCall := false } := by
          rw [Started] at hstarted ⊢
          rw [← hadoptPhase] at hstarted
          exact hstarted
        rw [htakes, if_pos rfl, hc] at htaken
        rw [noteTake, htaken]
        dsimp only
        split_ifs with haccepts
        · -- the connection becomes that of the active session
          refine ⟨hsockets, h.objects.fades hfades, h.fresh, ?_, ?_, h.confined, h.pinned, h.once⟩
          · apply daemons_setDaemon
            · refine ⟨?_, ?_, ?_, ?_⟩
              · intro hphase
                rw [hadoptPhase] at hphase
                exact (hearly hphase).elim
              · intro _
                refine ⟨c, path, Function.update_self .., ?_, hadoptProxy.trans hproxy⟩
                rw [← hid]
                exact h.objects.connection ref client c hclient hc
              · rw [hadoptSignals, hadoptProxy]
                exact (h.daemons i).signals
              · rw [hadoptPhase]
                exact (h.daemons i).tls
            · intro j hne
              exact (h.daemons j).mono (fun _ _ hpath => hpath) (fun _ hg => hg)
                (Function.update_of_ne hne ..) rfl
          · intro g hg
            exact started_setDaemon hadopted (h.started g hg)
        · apply h.unnoted hsockets hfades rfl
          · apply daemons_setDaemon _ fun j _ => h.daemons j
            refine ⟨?_, ?_, ?_, ?_⟩
            · intro hphase
              rw [hadoptPhase] at hphase
              exact (hearly hphase).elim
            · rw [hadoptSession (Bool.eq_false_iff.mpr haccepts), hadoptProxy]
              exact (h.daemons i).session
            · rw [hadoptSignals, hadoptProxy]
              exact (h.daemons i).signals
            · rw [hadoptPhase]
              exact (h.daemons i).tls
          · exact fun j => started_setDaemon hadopted
  · cases he

theorem objects_noteSession {object : Connection → Option CString} {d d' : SystemDaemon}
    {connection : Connection} {session : SessionRef} {env : SessionReadyEnv} {now : ℤ}
    {request : Option DisplayRequest} (h : ObjectsKept object s.systemSession d)
    (hready : d.onSessionReady connection session env now = some (d', request)) :
    ObjectsKept object (s.noteSession d connection) d' := by
  rw [noteSession]
  cases hdata : d.connectionClient connection with
  | none =>
    rw [SystemDaemon.onSessionReady, hdata] at hready
    cases hready
    exact h
  | some ref => exact h.sessionReady hready hdata

theorem Kept.sessionReady (h : s.Kept P) {connection : Connection} {session : SessionRef}
    {env : SessionReadyEnv} {now : ℤ} {state : HandoverState} (hsockets : state.SocketsKept)
    (he : s.state.systemStep (.sessionReady connection session env now) = some state) :
    ({ s with
      systemSession := s.noteSession s.state.system.daemon connection
      state := state } : RedirectRun).Kept P := by
  obtain ⟨system, hsystem, rfl⟩ := Option.map_eq_some_iff.mp he
  obtain ⟨⟨daemon, request⟩, hready, rfl⟩ := Option.map_eq_some_iff.mp hsystem
  refine ⟨hsockets, objects_noteSession h.objects hready, h.fresh, ?_, h.started, h.confined,
    h.pinned, h.once⟩
  exact fun i => (h.daemons i).mono (fun _ _ hpath => hpath) (fun _ hg => hg) rfl rfl

/-- The record after a connection fits the table after it. -/
theorem objects_connect {env : IncomingEnv} {system : SystemState} (h : s.Kept P)
    (he : s.state.system.step (.incoming (s.state.incomingEnv env)) = some system) :
    ObjectsKept (s.noteConnect env).object (s.noteConnect env).systemSession system.daemon := by
  obtain ⟨result, hdelegate, hrest⟩ := Option.bind_eq_some_iff.mp (SystemState.step_incoming he)
  have hrun : s.delegate env = some result := hdelegate
  have hobjects := h.objects.delegated h.sockets.table (h.fresh _ le_rfl) hdelegate
  have hobject : (s.noteConnect env).object = Function.update s.object s.state.nextConnection
      ((result.daemon.clients (result.client s.state.system.daemon.nextClient)).map
        RemoteClient.id) := by
    rw [noteConnect, delegatedObject, hrun]
    rfl
  have hsession : (s.noteConnect env).systemSession =
      if !(result.handled || result.error) &&
          (s.state.system.listener.handleConnection env.accept).2.isSome then
        s.noteSession result.daemon s.state.nextConnection
      else s.systemSession := by
    rw [noteConnect, hrun]
  rw [hobject, hsession]
  cases hhandled : result.handled || result.error with
  | true =>
    rw [hhandled, if_pos rfl] at hrest
    cases hrest
    exact hobjects
  | false =>
    rw [hhandled] at hrest
    have haccept : s.state.system.accept result (s.state.incomingEnv env) = some system := hrest
    rw [SystemState.accept] at haccept
    split at haccept
    · rename_i listener hnone
      cases haccept
      have hno : (s.state.system.listener.handleConnection env.accept).2 = none := by
        show (s.state.system.listener.handleConnection (s.state.incomingEnv env).accept).2 = none
        rw [hnone]
      rw [hno]
      exact hobjects
    · rename_i listener session hsome
      have hyes : (s.state.system.listener.handleConnection env.accept).2 = some session := by
        show (s.state.system.listener.handleConnection (s.state.incomingEnv env).accept).2 = _
        rw [hsome]
      obtain ⟨⟨daemon, request⟩, hready, rfl⟩ := Option.map_eq_some_iff.mp haccept
      rw [hyes]
      exact objects_noteSession hobjects hready

theorem Kept.connect (h : s.Kept P) {env : IncomingEnv} {state : HandoverState}
    (hsockets : state.SocketsKept) (he : s.state.connect env = some state) :
    ({ s.noteConnect env with state := state } : RedirectRun).Kept P := by
  obtain ⟨system, hsystem, hstate⟩ := Option.map_eq_some_iff.mp he
  have hfresh : s.object s.state.nextConnection = none := h.fresh _ le_rfl
  have hobject (c : Connection) (path : CString) (hc : s.object c = some path) :
      (s.noteConnect env).object c = some path := object_update hfresh hc
  have hdaemon : state.system = system := by
    rw [← hstate]
    split <;> rfl
  have hnext : state.nextConnection = s.state.nextConnection + 1 := by
    rw [← hstate]
    split <;> rfl
  have hdaemons (i : DaemonId) : state.daemons i = s.state.daemons i ∨
      ∃ path credentials,
        state.daemons i = (s.state.daemons i).receive path (.takeClientReady credentials) := by
    rw [← hstate]
    split
    · exact .inl rfl
    · exact .inr ⟨_, _, rfl⟩
  refine ⟨hsockets, ?_, ?_, ?_, ?_, ?_, h.pinned, h.once⟩
  · show ObjectsKept _ _ state.system.daemon
    rw [hdaemon]
    exact objects_connect h hsystem
  · intro c hc
    have hlater : s.state.nextConnection + 1 ≤ c := hnext ▸ hc
    have hne : c ≠ s.state.nextConnection := by
      rintro rfl
      exact absurd hlater (Nat.not_succ_le_self _)
    show Function.update s.object s.state.nextConnection (s.delegatedObject env) c = none
    rw [Function.update_of_ne hne]
    exact h.fresh c ((Nat.le_succ _).trans hlater)
  · intro i
    have hkept : ({ s.noteConnect env with state := state } : RedirectRun).DaemonKept P i
        (s.state.daemons i) :=
      (h.daemons i).mono hobject (fun _ hg => hg) rfl rfl
    show DaemonKept P _ i (state.daemons i)
    obtain hsame | ⟨path, credentials, hreceived⟩ := hdaemons i
    · rw [hsame]
      exact hkept
    · rw [hreceived]
      apply hkept.receive
      intro token username password hno
      cases hno
  · intro g hg
    show Started (state.daemons g.daemon)
    obtain hsame | ⟨path, credentials, hreceived⟩ := hdaemons g.daemon
    · rw [hsame]
      exact h.started g hg
    · rw [Started, hreceived, receive_phase]
      exact h.started g hg
  · intro r hr
    obtain ⟨c, path, hconnection, hpath, htoken, hoffered⟩ := h.confined r hr
    exact ⟨c, path, hconnection, hobject c path hpath, htoken, hoffered⟩

theorem DaemonKept.running (h : s.DaemonKept P i daemon) {ok : Bool}
    (htls : ok = true → ∃ material, s.tlsCredentials i = some material ∧ P material) :
    s.DaemonKept P i (if ok then { daemon with phase := .running } else daemon.exit) := by
  split_ifs with hok
  · refine ⟨?_, h.session, h.signals, fun _ => htls hok⟩
    rintro (hno | hno) <;> cases hno
  · exact .exit

theorem running_started (daemon : HandoverDaemon) (ok : Bool) :
    Started (if ok then { daemon with phase := .running } else daemon.exit) := by
  split_ifs
  · exact .inl rfl
  · exact .inr rfl

/-- The reply of StartHandover, with the signals that came before it. -/
theorem started_kept {state : HandoverState} {path : CString} {ok : Bool} {reply : HandoverReply}
    (hbase : ∀ j, s.DaemonKept P j (state.daemons j))
    (htls : ∀ certificate key redirect, reply = .startHandover certificate key redirect →
      ok = true → ∃ material, s.tlsCredentials i = some material ∧ P material)
    (hoffer : ∀ certificate key token username password,
      reply = .startHandover certificate key (some (token, username, password)) →
        TokenOf path (some token) ∧ Offered s.given path username password) (j : DaemonId) :
    s.DaemonKept P j ((state.started i path ok reply).daemons j) := by
  cases reply with
  | error message => exact daemons_setDaemon .exit (fun k _ => hbase k) j
  | takeClient => exact daemons_setDaemon .exit (fun k _ => hbase k) j
  | startHandover certificate key redirect =>
    cases redirect with
    | none =>
      exact daemons_setDaemon ((hbase i).running (htls certificate key _ rfl)) (fun k _ => hbase k) j
    | some redirect =>
      obtain ⟨token, username, password⟩ := redirect
      have hemitted (k : DaemonId) : s.DaemonKept P k
          ((state.emit path (.redirectClient token username password)).daemons k) := by
        apply (hbase k).receive
        intro token' username' password' heq
        cases heq
        exact hoffer certificate key token username password rfl
      exact daemons_setDaemon ((hemitted i).running (htls certificate key _ rfl))
        (fun k _ => hemitted k) j

theorem started_started {state : HandoverState} {path : CString} {ok : Bool} {reply : HandoverReply}
    {j : DaemonId} (h : j = i ∨ Started (state.daemons j)) :
    Started ((state.started i path ok reply).daemons j) := by
  have hself {state : HandoverState} {daemon : HandoverDaemon} (hdaemon : Started daemon)
      (h : j = i ∨ Started (state.daemons j)) : Started ((state.setDaemon i daemon).daemons j) := by
    obtain rfl | hstarted := h
    · rw [HandoverState.setDaemon_self]
      exact hdaemon
    · exact started_setDaemon (fun _ => hdaemon) hstarted
  cases reply with
  | error message => exact hself (.inr rfl) h
  | takeClient => exact hself (.inr rfl) h
  | startHandover certificate key redirect =>
    cases redirect with
    | none => exact hself (running_started _ ok) h
    | some redirect =>
      obtain ⟨token, username, password⟩ := redirect
      apply hself (running_started _ ok)
      obtain heq | hstarted := h
      · exact .inl heq
      · right
        show Started ((state.daemons j).receive path (.redirectClient token username password))
        rw [Started, receive_phase]
        exact hstarted

theorem started_system (state : HandoverState) (path : CString) (ok : Bool) (reply : HandoverReply) :
    (state.started i path ok reply).system = state.system ∧
      (state.started i path ok reply).nextConnection = state.nextConnection := by
  cases reply with
  | error message => exact ⟨rfl, rfl⟩
  | takeClient => exact ⟨rfl, rfl⟩
  | startHandover certificate key redirect =>
    cases redirect with
    | none => exact ⟨rfl, rfl⟩
    | some redirect => exact ⟨rfl, rfl⟩

/-- What the reply of StartHandover holds comes from the TLS credentials and from the client. -/
theorem startHandover_reply {client : RemoteClient} {env : StartHandoverEnv} {now : ℤ}
    {certificate key : CString} {redirect : Option (CString × CString × CString)}
    (h : (SystemDaemon.startHandoverClient client env now).2 =
      .startHandover certificate key redirect) :
    env.tlsCredentials = some (.ok (certificate, key)) ∧
      ∀ token username password, redirect = some (token, username, password) →
        client.routing.routingToken = some token ∧ username = env.username ∧
          password = env.password := by
  simp only [SystemDaemon.startHandoverClient] at h
  cases htls : env.tlsCredentials with
  | none => simp [htls, loadTlsMaterial] at h
  | some material =>
    cases material with
    | error message => simp [htls, loadTlsMaterial] at h
    | ok material =>
      simp only [htls, loadTlsMaterial] at h
      split_ifs at h
      · cases h
        refine ⟨rfl, ?_⟩
        intro _ _ _ hno
        cases hno
      · cases h
        refine ⟨rfl, ?_⟩
        intro token username password hredirect
        obtain ⟨found, hfound, heq⟩ := Option.map_eq_some_iff.mp hredirect
        cases heq
        exact ⟨hfound, rfl, rfl⟩

/-- The redirection on a session of the system daemon goes to the object of the call. -/
theorem localRedirection_confined (h : s.Kept P) {ref : ClientRef} {client : RemoteClient}
    {path : CString} {env : StartHandoverEnv} {now : ℤ} {ok : Bool} (hid : client.id = path)
    (hclient : s.state.system.daemon.clients ref = some client)
    (hloads : s.Loads P (.startHandover i env now ok)) {r : Redirection}
    (hr : r ∈ s.localRedirection ref client env) :
    (∃ connection, r.connection = some connection ∧ s.object connection = some path) ∧
      TokenOf path r.routingToken ∧ r.username = env.username ∧ r.password = env.password ∧
      ∃ material, r.certificate = some material.1 ∧ P material := by
  rw [localRedirection] at hr
  split_ifs at hr with hlocal
  · obtain rfl := List.mem_singleton.mp hr
    simp only [SystemDaemon.redirectsLocally, Bool.and_eq_true] at hlocal
    obtain ⟨⟨hok, hsession⟩, _⟩ := hlocal
    rw [Option.isSome_iff_ne_none] at hsession
    obtain ⟨c, hc, hobject⟩ := h.objects.session ref client hclient hsession
    refine ⟨⟨c, hc, hid ▸ hobject⟩, hid ▸ h.objects.token ref client hclient, rfl, rfl, ?_⟩
    cases htls : env.tlsCredentials with
    | none =>
      rw [htls] at hok
      cases hok
    | some material =>
      cases material with
      | error message =>
        rw [htls] at hok
        cases hok
      | ok material => exact ⟨material, rfl, hloads material htls⟩
  · cases hr

theorem noteTls_of_ne {ok : Bool} {reply : HandoverReply} {j : DaemonId} (hne : j ≠ i) :
    s.noteTls i ok reply j = s.tlsCredentials j := by
  unfold noteTls
  split
  · split_ifs
    · exact Function.update_of_ne hne ..
    · rfl
  · rfl

/-- StartHandover reaches the client of the object. -/
theorem Kept.started_call (h : s.Kept P) {env : StartHandoverEnv} {now : ℤ} {ok : Bool}
    {path : CString} {ref : ClientRef} {client : RemoteClient} {daemon : SystemDaemon}
    {reply : HandoverReply} {state : HandoverState}
    (hloads : s.Loads P (.startHandover i env now ok)) (hbound : (s.state.daemons i).phase = .bound)
    (hid : client.id = path) (hclient : s.state.system.daemon.clients ref = some client)
    (hfades : s.state.system.daemon.Fades daemon)
    (hreply : (SystemDaemon.startHandoverClient client env now).2 = reply)
    (hstate : state =
      { s.state with system := { s.state.system with daemon := daemon } }.started i path ok reply)
    (hsockets : state.SocketsKept) :
    ({ s with
      given := s.given ++ [⟨i, path, env.username, env.password⟩]
      sent := s.sent ++ s.localRedirection ref client env
      tlsCredentials := s.noteTls i ok reply
      state := state } : RedirectRun).Kept P := by
  have hnot : ¬ Started (s.state.daemons i) := by simp [Started, hbound]
  have hgiven (g : GivenCredentials) (hg : g ∈ s.given) :
      g ∈ s.given ++ [⟨i, path, env.username, env.password⟩] := List.mem_append_left _ hg
  have hoffered : Offered (s.given ++ [⟨i, path, env.username, env.password⟩]) path env.username
      env.password :=
    ⟨i, List.mem_append_right _ (List.mem_singleton.mpr rfl)⟩
  obtain ⟨hsystem, hnext⟩ := started_system
    { s.state with system := { s.state.system with daemon := daemon } } path ok reply (i := i)
  rw [← hstate] at hsystem hnext
  refine ⟨hsockets, ?_, ?_, ?_, ?_, ?_, ?_, ?_⟩
  · show ObjectsKept s.object s.systemSession state.system.daemon
    rw [hsystem]
    exact h.objects.fades hfades
  · intro c hc
    exact h.fresh c (hnext ▸ hc)
  · show ∀ j, DaemonKept P _ j (state.daemons j)
    rw [hstate]
    apply started_kept
    · intro j
      by_cases hne : j = i
      · subst hne
        refine ⟨(h.daemons j).early, (h.daemons j).session, ?_, ?_⟩
        · intro token username password hin
          obtain ⟨path', hproxy', htoken, ⟨k, hk⟩⟩ :=
            (h.daemons j).signals token username password hin
          exact ⟨path', hproxy', htoken, k, hgiven _ hk⟩
        · intro hrunning
          exact absurd (.inl hrunning) hnot
      · exact (h.daemons j).mono (fun _ _ hpath => hpath) hgiven rfl (noteTls_of_ne hne)
    · intro certificate key redirect heq hok
      refine ⟨(certificate, key), ?_, hloads _ (startHandover_reply (hreply.trans heq)).1⟩
      show s.noteTls i ok reply i = _
      rw [heq, noteTls, if_pos hok, Function.update_self]
    · intro certificate key token username password heq
      obtain ⟨htoken, rfl, rfl⟩ :=
        (startHandover_reply (hreply.trans heq)).2 token username password rfl
      refine ⟨?_, hoffered⟩
      rw [← hid, ← htoken]
      exact h.objects.token ref client hclient
  · intro g hg
    show Started (state.daemons g.daemon)
    rw [hstate]
    apply started_started
    obtain hold | hnew := List.mem_append.mp hg
    · exact .inr (h.started g hold)
    · obtain rfl := List.mem_singleton.mp hnew
      exact .inl rfl
  · intro r hr
    obtain hold | hnew := List.mem_append.mp hr
    · obtain ⟨c, path', hc, hpath, htoken, ⟨k, hk⟩⟩ := h.confined r hold
      exact ⟨c, path', hc, hpath, htoken, k, hgiven _ hk⟩
    · obtain ⟨⟨c, hc, hpath⟩, htoken, husername, hpassword, _⟩ :=
        localRedirection_confined h hid hclient hloads hnew
      refine ⟨c, path, hc, hpath, htoken, ?_⟩
      rw [husername, hpassword]
      exact hoffered
  · intro r hr
    obtain hold | hnew := List.mem_append.mp hr
    · exact h.pinned r hold
    · exact (localRedirection_confined h hid hclient hloads hnew).2.2.2.2
  · show (List.map GivenCredentials.daemon
      (s.given ++ [⟨i, path, env.username, env.password⟩])).Nodup
    rw [List.map_append, List.nodup_append]
    refine ⟨h.once, List.nodup_singleton _, ?_⟩
    intro j hj k hk heq
    obtain ⟨g, hg, rfl⟩ := List.mem_map.mp hj
    have hstarted := h.started g hg
    rw [heq, List.mem_singleton.mp hk] at hstarted
    exact hnot hstarted

theorem Kept.startHandover (h : s.Kept P) {env : StartHandoverEnv} {now : ℤ} {ok : Bool}
    {state : HandoverState} (hloads : s.Loads P (.startHandover i env now ok))
    (hsockets : state.SocketsKept) (he : s.state.startHandover i env now ok = some state) :
    ({ s.noteStart i env now ok with state := state } : RedirectRun).Kept P := by
  rw [HandoverState.startHandover] at he
  split at he
  · rename_i hbound
    obtain ⟨path, hproxy, hrest⟩ := Option.bind_eq_some_iff.mp he
    split at hrest
    · -- the call fails, and the credentials go nowhere
      rename_i hobject
      cases hrest
      have hnote : s.noteStart i env now ok = s := by simp [noteStart, hproxy, hobject]
      rw [hnote]
      apply h.unnoted hsockets (.refl _) rfl
      · exact daemons_setDaemon .exit fun j _ => h.daemons j
      · exact fun j => started_setDaemon fun _ => .inr rfl
    · rename_i ref hobject
      obtain ⟨⟨daemon, reply⟩, hstart, hstate⟩ := Option.map_eq_some_iff.mp hrest
      obtain ⟨client, hclient, heq⟩ := Option.map_eq_some_iff.mp hstart
      have hreply : (SystemDaemon.startHandoverClient client env now).2 = reply :=
        congrArg Prod.snd heq
      have hid := handoverObject_id h.sockets.table hobject hclient
      have hkept := h.started_call hloads hbound hid hclient
        (SystemDaemon.onStartHandover_fades hstart) hreply hstate.symm hsockets
      have hnote : s.noteStart i env now ok =
          { s with
            given := s.given ++ [⟨i, path, env.username, env.password⟩]
            sent := s.sent ++ s.localRedirection ref client env
            tlsCredentials := s.noteTls i ok reply } := by
        simp only [noteStart, hproxy, hobject, hclient, hreply]
      rw [hnote]
      exact hkept
  · cases he

theorem kept_step {e : HandoverEvent} (h : s.Kept P) (hloads : s.Loads P e)
    (he : s.step e = some s') : s'.Kept P := by
  obtain ⟨state, hstate, rfl⟩ := Option.map_eq_some_iff.mp he
  have hsockets := h.sockets.step hstate
  cases e with
  | start listenerOk busOk =>
    apply h.system hsockets hstate
    intro system hsystem
    cases hsystem
    exact SystemDaemon.start_fades listenerOk busOk
  | stop =>
    apply h.system hsockets hstate
    intro system hsystem
    cases hsystem
    exact SystemDaemon.stop_fades
  | sessionClosed session =>
    apply h.system hsockets hstate
    intro system hsystem
    cases hsystem
    exact .refl _
  | sessionReady connection session env now => exact h.sessionReady hsockets hstate
  | connect env => exact h.connect hsockets hstate
  | launch =>
    cases hstate
    exact h.unnoted hsockets (.refl _) rfl h.daemons fun _ hstarted => hstarted
  | requestHandover i pruneNow now => exact h.requestHandover hsockets hstate
  | bindHandover i bound => exact h.bindHandover hsockets hstate
  | startHandover i env now ok => exact h.startHandover hloads hsockets hstate
  | dispatch i redirected => exact h.dispatch hsockets hstate
  | takeClient i fdAppend now queueNow accept => exact h.takeClient hsockets hstate

theorem kept_init (P : CString × CString → Prop) : ({} : RedirectRun).Kept P where
  sockets := HandoverState.socketsKept_init
  objects := by constructor <;> simp
  fresh := fun _ _ => rfl
  daemons := by
    intro i
    refine ⟨fun _ => ⟨rfl, rfl⟩, fun hno => absurd rfl hno, ?_, ?_⟩
    · intro _ _ _ hno
      cases hno
    · intro hno
      cases hno
  started := by simp
  confined := by simp [Confined]
  pinned := by simp
  once := List.nodup_nil

instance decidableLoads [DecidablePred P] (s : RedirectRun) : DecidablePred (s.Loads P)
  | .startHandover _ env _ _ =>
    match h : env.tlsCredentials with
    | some (.ok material) => decidable_of_iff (P material) (by simp [Loads, h])
    | some (.error _) => .isTrue (by simp [Loads, h])
    | none => .isTrue (by simp [Loads, h])
  | .start _ _ | .stop | .sessionReady _ _ _ _ | .sessionClosed _ | .connect _ | .launch
  | .requestHandover _ _ _ | .bindHandover _ _ | .dispatch _ _ | .takeClient _ _ _ _ _ =>
    .isTrue trivial

theorem kept_inductive (P : CString × CString → Prop) :
    redirectMachine.Inductive (Loads P) (Kept P) where
  init := by
    intro s hs
    rw [show s = {} from hs]
    exact kept_init P
  step := fun _ _ _ h hloads he => kept_step h hloads he

end RedirectRun

open RedirectRun

/-- The greeter's daemon and then the one of the user session give their credentials. -/
def twoStageEvents : List HandoverEvent :=
  [.start true true, .launch, connectSeven, .requestHandover 0 0 0, .bindHandover 0 true,
    .startHandover 0
      { username := ['g'], password := ['p'], tlsCredentials := some (.ok (['c'], ['k']))
        redirected := true } 0 true,
    connectSeven, .dispatch 0 false, .takeClient 0 (.ok ()) 0 0 {},
    .launch, .requestHandover 1 0 0, .bindHandover 1 true,
    .startHandover 1
      { username := ['u'], password := ['q'], tlsCredentials := some (.ok (['c'], ['k'])) } 0 true,
    .dispatch 0 true, connectSeven, .dispatch 1 false, .dispatch 1 false,
    .takeClient 1 (.ok ()) 0 0 {}]

theorem twoStageEvents_isSome : (redirectMachine.run {} twoStageEvents).isSome := by
  decide +kernel

/-- As long as the system daemon reads one certificate with its key, every redirection announces
this certificate, and each handover daemon that runs has loaded it with the key. -/
theorem redirections_pin_certificate {material : CString × CString} {s : RedirectRun}
    (hs : redirectMachine.ReachableIf (Loads (· = material)) s) :
    (∀ r ∈ s.sent, r.certificate = some material.1) ∧
      ∀ i, (s.state.daemons i).phase = .running → s.tlsCredentials i = some material := by
  have hkept := (kept_inductive (· = material)).holds hs
  constructor
  · intro r hr
    obtain ⟨found, hcertificate, rfl⟩ := hkept.pinned r hr
    exact hcertificate
  · intro i hrunning
    obtain ⟨found, htls, rfl⟩ := (hkept.daemons i).tls hrunning
    exact htls

theorem redirections_pin_certificate_two_stages :
    let s := (redirectMachine.run {} twoStageEvents).get twoStageEvents_isSome
    (∀ r ∈ s.sent, r.certificate = some ['c']) ∧
      ∀ i, (s.state.daemons i).phase = .running → s.tlsCredentials i = some (['c'], ['k']) := by
  have hloads : redirectMachine.StepsMeet (Loads (· = (['c'], ['k']))) {} twoStageEvents := by
    decide +kernel
  exact redirections_pin_certificate
    (EventMachine.ReachableIf.run_get rfl twoStageEvents hloads twoStageEvents_isSome)

end RemoteDesktop.DRD
