import RemoteDesktop.DRDHandoverStages

/-! The hand-over protocol: the system daemon, the handover daemons of the greeter
and of the user sessions (`drd_handover_daemon.c`), and clients that may drop their
connection and come back at any moment. A D-Bus signal goes to every daemon whose
proxy is bound to its object, and waits there for that daemon's main loop. -/
namespace RemoteDesktop.DRD

/-- A handover daemon, in the order in which the processes were launched. -/
abbrev DaemonId := ℕ

inductive HandoverSignal
  | redirectClient (routingToken username password : CString)
  | takeClientReady (useSystemCredentials : Bool)
  deriving DecidableEq

def HandoverSignal.isReady : HandoverSignal → Bool
  | .redirectClient .. => false
  | .takeClientReady _ => true

/-- Where `drd_handover_daemon_start` stands. A daemon dispatches signals while it is
`running`. -/
inductive HandoverPhase
  | launched | requested | bound | running | exited
  deriving DecidableEq

/-- `handoverProxy` is the object that the proxy is bound to, `signals` what reached
the proxy and is not dispatched yet, and `takeClientCall` a TakeClient under way. -/
structure HandoverDaemon where
  phase : HandoverPhase := .launched
  handoverObjectPath : Option CString := none
  handoverProxy : Option CString := none
  listener : Option RdpListener := some {}
  activeSession : Option SessionRef := none
  signals : List HandoverSignal := []
  takeClientCall : Bool := false
  deriving DecidableEq

namespace HandoverDaemon

variable (daemon : HandoverDaemon)

def receive (path : CString) (signal : HandoverSignal) : HandoverDaemon :=
  if daemon.handoverProxy = some path then { daemon with signals := daemon.signals ++ [signal] }
  else daemon

/-- `drd_handover_daemon_stop`. -/
def stop : HandoverDaemon :=
  { daemon with
    handoverObjectPath := none, handoverProxy := none, listener := none, signals := [] }

/-- The process ends, after `start` failed or after the redirection. -/
def exit : HandoverDaemon :=
  { daemon.stop with phase := .exited, activeSession := none, takeClientCall := false }

/-- `redirected` is the result of `drd_handover_daemon_redirect_active_client` on an
active session. -/
def onRedirectClient (redirected : Bool) : HandoverDaemon :=
  if daemon.activeSession.isSome && redirected then daemon.exit else daemon

/-- The main loop takes the next signal. TakeClient blocks it until the reply. -/
def dispatch (redirected : Bool) : Option HandoverDaemon :=
  match daemon.signals with
  | [] => none
  | .redirectClient .. :: rest => some ({ daemon with signals := rest }.onRedirectClient redirected)
  -- `on_take_client_ready` calls TakeClient and waits for the reply
  | .takeClientReady _ :: rest => some { daemon with signals := rest, takeClientCall := true }

/-- The end of `take_client`: the listener handles the connection and reports its session. -/
def adoptConnection (accept : AcceptEnv) : HandoverDaemon :=
  match daemon.listener with
  | none => daemon
  | some listener =>
    let (listener, session) := listener.handleConnection accept
    { daemon with listener := some listener, activeSession := session <|> daemon.activeSession }

/-- A TakeClient of the daemon on this object is under way, or will be. -/
def awaits (path : CString) : Bool :=
  decide (daemon.handoverProxy = some path) &&
    (daemon.takeClientCall || daemon.signals.any HandoverSignal.isReady)

end HandoverDaemon

/-- A TakeClient that was answered with the FD of a connection. `requester` is the
daemon to which the client's second RequestHandover returned it, if that is so. -/
structure TakeAnswer where
  daemon : DaemonId
  connection : Connection
  requester : Option DaemonId
  deriving DecidableEq

/-- `secondRequester` and `answers` record the run, nothing reads them. Each connection
is a new `GSocketConnection`. -/
structure HandoverState where
  system : SystemState := {}
  daemons : DaemonId → HandoverDaemon := fun _ => {}
  daemonCount : ℕ := 0
  nextConnection : Connection := 0
  secondRequester : ClientRef → Option DaemonId := fun _ => none
  answers : List TakeAnswer := []

/-- A client connects, with whatever token, in `connect`. The D-Bus calls are made by
the daemons only. -/
inductive HandoverEvent
  | start (listenerOk busOk : Bool)
  | stop
  | sessionReady (connection : Connection) (session : SessionRef) (env : SessionReadyEnv) (now : ℤ)
  | sessionClosed (session : SessionRef)
  | connect (env : IncomingEnv)
  | launch
  | requestHandover (i : DaemonId) (pruneNow now : ℤ)
  | bindHandover (i : DaemonId) (bound : Bool)
  | startHandover (i : DaemonId) (env : StartHandoverEnv) (now : ℤ) (started : Bool)
  | dispatch (i : DaemonId) (redirected : Bool)
  | takeClient (i : DaemonId) (fdAppend : Except String Unit) (now queueNow : ℤ)
      (accept : AcceptEnv)

namespace HandoverState

variable (s : HandoverState)

def setDaemon (i : DaemonId) (daemon : HandoverDaemon) : HandoverState :=
  { s with daemons := Function.update s.daemons i daemon }

def emit (path : CString) (signal : HandoverSignal) : HandoverState :=
  { s with daemons := fun i => (s.daemons i).receive path signal }

/-- A step of the system daemon that no other party sees. -/
def systemStep (e : SystemEvent) : Option HandoverState :=
  (s.system.step e).map fun system => { s with system := system }

/-- The environment of a connection that the listener accepts now. -/
def incomingEnv (env : IncomingEnv) : IncomingEnv :=
  { env with connection := s.nextConnection }

/-- The client whose TakeClientReady a connection brings about. -/
def readyClient (env : IncomingEnv) : Option (CString × Bool × ClientRef) :=
  (s.system.delegate (s.incomingEnv env)).bind fun delegated =>
    delegated.takeClientReady.bind fun (ref, credentials) =>
      (delegated.daemon.clients ref).map fun client => (client.id, credentials, ref)

def connect (env : IncomingEnv) : Option HandoverState :=
  (s.system.step (.incoming (s.incomingEnv env))).map fun system =>
    let connected := { s with system := system, nextConnection := s.nextConnection + 1 }
    -- TakeClientReady is emitted on the object of a client that came back
    match s.readyClient env with
    | none => connected
    | some (path, credentials, _) => connected.emit path (.takeClientReady credentials)

/-- The client has its second stage to go. -/
def inSecondStage (ref : ClientRef) : Bool :=
  (s.system.daemon.clients ref).any fun client => client.handoverCount == 1

def recordRequest (ref : ClientRef) (i : DaemonId) : HandoverState :=
  if s.inSecondStage ref then
    { s with secondRequester := Function.update s.secondRequester ref (some i) }
  else s

def requestHandover (i : DaemonId) (pruneNow now : ℤ) : Option HandoverState :=
  if i < s.daemonCount ∧ (s.daemons i).phase = .launched ∧ s.system.daemon.busConnection then
    (s.system.daemon.handleRequestHandover pruneNow now).map fun (daemon, reply) =>
      let s := { s with system := { s.system with daemon := daemon } }
      match reply with
      -- `drd_handover_daemon_start` fails, and the process ends
      | .error _ => s.setDaemon i (s.daemons i).exit
      | .ok (ref, path) =>
        (s.setDaemon i
          { s.daemons i with phase := .requested, handoverObjectPath := some path }).recordRequest ref i
  else none

/-- The signals that were emitted before the proxy was bound are lost. -/
def bindHandover (i : DaemonId) (bound : Bool) : Option HandoverState :=
  if (s.daemons i).phase = .requested then
    some (s.setDaemon i
      (if bound then
        { s.daemons i with
          phase := .bound, handoverProxy := (s.daemons i).handoverObjectPath
          signals := [], takeClientCall := false }
      else (s.daemons i).exit))
  else none

/-- The handover object that a call of the daemon reaches. -/
def calledObject (i : DaemonId) : Option ClientRef :=
  (s.daemons i).handoverProxy.bind s.system.handoverObject

/-- What is left to do once the reply is there. -/
def started (i : DaemonId) (path : CString) (started : Bool) : HandoverReply → HandoverState
  | .startHandover _ _ redirect =>
    let s :=
      match redirect with
      | none => s
      | some (token, username, password) => s.emit path (.redirectClient token username password)
    s.setDaemon i (if started then { s.daemons i with phase := .running } else (s.daemons i).exit)
  | _ => s.setDaemon i (s.daemons i).exit

def startHandover (i : DaemonId) (env : StartHandoverEnv) (now : ℤ) (ok : Bool) :
    Option HandoverState :=
  if (s.daemons i).phase = .bound then
    (s.daemons i).handoverProxy.bind fun path =>
      match s.system.handoverObject path with
      -- the object is unexported by now, so the call fails
      | none => some (s.setDaemon i (s.daemons i).exit)
      | some ref =>
        (s.system.daemon.onStartHandover ref env now).map fun (daemon, reply) =>
          { s with system := { s.system with daemon := daemon } }.started i path ok reply
  else none

def dispatch (i : DaemonId) (redirected : Bool) : Option HandoverState :=
  if (s.daemons i).phase = .running ∧ (s.daemons i).takeClientCall = false then
    ((s.daemons i).dispatch redirected).map (s.setDaemon i)
  else none

/-- The reply of TakeClient reaches the daemon. -/
def answer (i : DaemonId) (ref : ClientRef) (connection : Option Connection) (accept : AcceptEnv) :
    HandoverReply → HandoverState
  | .takeClient =>
    { s.setDaemon i { (s.daemons i).adoptConnection accept with takeClientCall := false } with
      secondRequester := Function.update s.secondRequester ref none
      answers := s.answers ++ connection.toList.map fun c => ⟨i, c, s.secondRequester ref⟩ }
  | _ => s.setDaemon i { s.daemons i with takeClientCall := false }

def takeClient (i : DaemonId) (fdAppend : Except String Unit) (now queueNow : ℤ)
    (accept : AcceptEnv) : Option HandoverState :=
  if (s.daemons i).takeClientCall then
    match s.calledObject i with
    -- the object is unexported by now, and the error is only logged
    | none => some (s.setDaemon i { s.daemons i with takeClientCall := false })
    | some ref =>
      (s.system.daemon.onTakeClient ref fdAppend now queueNow).map fun (daemon, reply) =>
        { s with system := { s.system with daemon := daemon } }.answer i ref
          ((s.system.daemon.clients ref).bind RemoteClient.connection) accept reply
  else none

def step : HandoverEvent → Option HandoverState
  | .start listenerOk busOk => s.systemStep (.start listenerOk busOk)
  | .stop => s.systemStep .stop
  | .sessionReady connection session env now =>
    s.systemStep (.sessionReady connection session env now)
  | .sessionClosed session => s.systemStep (.sessionClosed session)
  | .connect env => s.connect env
  | .launch => some { s with daemonCount := s.daemonCount + 1 }
  | .requestHandover i pruneNow now => s.requestHandover i pruneNow now
  | .bindHandover i bound => s.bindHandover i bound
  | .startHandover i env now ok => s.startHandover i env now ok
  | .dispatch i redirected => s.dispatch i redirected
  | .takeClient i fdAppend now queueNow accept => s.takeClient i fdAppend now queueNow accept

end HandoverState

def handoverMachine : EventMachine HandoverState HandoverEvent where
  init s := s = {}
  step := HandoverState.step

namespace HandoverDaemon

variable {daemon : HandoverDaemon} {path other : CString}

theorem awaits_proxy (h : daemon.awaits path = true) : daemon.handoverProxy = some path := by
  rw [awaits, Bool.and_eq_true, decide_eq_true_eq] at h
  exact h.1

theorem awaits_of_call (hproxy : daemon.handoverProxy = some path)
    (hcall : daemon.takeClientCall = true) : daemon.awaits path = true := by
  simp [awaits, hproxy, hcall]

theorem exit_awaits : daemon.exit.awaits path = false := by
  simp [awaits, exit, stop]

theorem receive_redirectClient_awaits (token username password : CString) :
    (daemon.receive other (.redirectClient token username password)).awaits path =
      daemon.awaits path := by
  rw [receive]
  split
  · simp [awaits, HandoverSignal.isReady]
  · rfl

/-- A TakeClientReady is waited for by the daemons that are bound to its object. -/
theorem receive_takeClientReady_awaits {credentials : Bool}
    (h : (daemon.receive other (.takeClientReady credentials)).awaits path = true) :
    daemon.awaits path = true ∨ path = other ∧ daemon.handoverProxy = some other := by
  rw [receive] at h
  split at h
  · rename_i hproxy
    have hpath := awaits_proxy h
    rw [hproxy, Option.some.injEq] at hpath
    exact .inr ⟨hpath.symm, hproxy⟩
  · exact .inl h

theorem receive_of_unbound (signal : HandoverSignal) (h : daemon.handoverProxy = none) :
    daemon.receive path signal = daemon := by
  simp [receive, h]

theorem dispatch_awaits {redirected : Bool} {daemon' : HandoverDaemon}
    (hd : daemon.dispatch redirected = some daemon') (h : daemon'.awaits path = true) :
    daemon.awaits path = true := by
  rw [dispatch] at hd
  split at hd
  · simp at hd
  · rename_i token username password rest hsignals
    rw [Option.some.injEq] at hd
    subst hd
    rw [onRedirectClient] at h
    split at h
    · rw [exit_awaits] at h
      simp at h
    · simpa [awaits, hsignals, HandoverSignal.isReady] using h
  · rename_i credentials rest hsignals
    rw [Option.some.injEq] at hd
    subst hd
    -- the signal becomes the call, which was awaited as a signal
    have hproxy := awaits_proxy h
    simp only [awaits, hsignals, List.any_cons, HandoverSignal.isReady, Bool.true_or, Bool.or_true,
      Bool.and_true, decide_eq_true_eq]
    exact hproxy

theorem adoptConnection_proxy (accept : AcceptEnv) :
    (daemon.adoptConnection accept).handoverProxy = daemon.handoverProxy ∧
      (daemon.adoptConnection accept).signals = daemon.signals := by
  rw [adoptConnection]
  split <;> exact ⟨rfl, rfl⟩

end HandoverDaemon

namespace SystemDaemon

variable {d d' : SystemDaemon} {ref : ClientRef} {client : RemoteClient} {now queueNow : ℤ}
  {fdAppend : Except String Unit} {reply : HandoverReply}

/-- TakeClient answers with the socket exactly when it goes on. -/
theorem onTakeClient_reply (hclient : d.clients ref = some client)
    (h : d.onTakeClient ref fdAppend now queueNow = some (d', reply)) :
    if takesClient client fdAppend then reply = .takeClient else ∃ message, reply = .error message := by
  obtain ⟨c, hc, hrest⟩ := Option.bind_eq_some_iff.mp h
  rw [hclient, Option.some.injEq] at hc
  subst hc
  split at hrest
  · rename_i hnone
    rw [Option.some.injEq, Prod.mk.injEq] at hrest
    rw [if_neg (by simp [takesClient, hnone])]
    exact ⟨_, hrest.2.symm⟩
  · rename_i hsome
    have hconnection : client.connection.isSome = true := by
      rwa [Option.isSome_iff_ne_none]
    split at hrest
    · rw [Option.some.injEq, Prod.mk.injEq] at hrest
      rw [if_neg (by simp [takesClient, Except.isOk, Except.toBool])]
      exact ⟨_, hrest.2.symm⟩
    · rw [if_pos (by simp [takesClient, hconnection, Except.isOk, Except.toBool])]
      dsimp only at hrest
      split at hrest
      · rw [Option.some.injEq, Prod.mk.injEq] at hrest
        exact hrest.2.symm
      · obtain ⟨⟨d₁, queued⟩, _, heq⟩ := Option.map_eq_some_iff.mp hrest
        rw [Prod.mk.injEq] at heq
        exact heq.2.symm

/-- The client that was taken has no connection any more, and the others stay at their
stages. -/
theorem onTakeClient_taken (hT : d.TableConsistent) (hclient : d.clients ref = some client)
    (htakes : takesClient client fdAppend = true)
    (h : d.onTakeClient ref fdAppend now queueNow = some (d', reply)) {r : ClientRef}
    {client' : RemoteClient} (hlive : d'.clients r = some client') :
    if r = ref then client'.connection = none
    else ∃ c, d.clients r = some c ∧ client'.handoverCount = c.handoverCount ∧
      (client'.connection = c.connection ∨ client'.connection = none) := by
  -- taken or queued again, this client has given its connection away
  have hset (taken : RemoteClient) (hnone : taken.connection = none) {c : RemoteClient}
      (hc : (d.setClient ref taken).clients r = some c) :
      if r = ref then c.connection = none
      else ∃ c₀, d.clients r = some c₀ ∧ c.handoverCount = c₀.handoverCount ∧
        (c.connection = c₀.connection ∨ c.connection = none) := by
    by_cases hne : r = ref
    · subst hne
      rw [setClient_self, Option.some.injEq] at hc
      rw [if_pos rfl, ← hc]
      exact hnone
    · rw [setClient_of_ne hne] at hc
      rw [if_neg hne]
      exact ⟨c, hc, rfl, .inl rfl⟩
  obtain ⟨c, hc, hends⟩ := onTakeClient_spec hT h
  rw [hclient, Option.some.injEq] at hc
  subst hc
  rcases hends with ⟨hfails, _⟩ | ⟨_, _, rfl⟩ | ⟨_, _, queued, hq⟩
  · rw [htakes] at hfails
    simp at hfails
  · exact hset (takenClient client now) rfl hlive
  · -- queuing it again may prune others, which moves none to another stage
    obtain ⟨c₁, hc₁, hcount, hconnection⟩ := hq.keepsStages r client' hlive
    have hbefore := hset (requeuedClient client now) rfl hc₁
    by_cases hne : r = ref
    · rw [if_pos hne] at hbefore ⊢
      rcases hconnection with heq | hnone
      · rw [heq, hbefore]
      · exact hnone
    · rw [if_neg hne] at hbefore ⊢
      obtain ⟨c₀, hc₀, hcount₀, hconnection₀⟩ := hbefore
      refine ⟨c₀, hc₀, hcount.trans hcount₀, ?_⟩
      rcases hconnection with heq | hnone
      · rw [heq]
        exact hconnection₀
      · exact .inr hnone

/-- A connection is accepted: the clients stay at their stages, the only one that may
have got the connection is `owner`, and a new client has no other. -/
def Accepts (d d' : SystemDaemon) (connection : Connection) : Prop :=
  ∃ owner, ∀ r client', d'.clients r = some client' →
    (∃ client, d.clients r = some client ∧ client'.id = client.id ∧
      client'.handoverCount = client.handoverCount ∧
      (client'.connection = client.connection ∨ client'.connection = none ∨
        r = owner ∧ client'.connection = some connection)) ∨
    r = d.nextClient ∧ r = owner ∧
      (client'.connection = none ∨ client'.connection = some connection)

theorem Accepts.keeps {d'' : SystemDaemon} {connection : Connection}
    (h : d.Accepts d' connection) (hidentities : d'.KeepsIdentities d'')
    (hstages : d'.KeepsStages d'') : d.Accepts d'' connection := by
  obtain ⟨owner, howner⟩ := h
  refine ⟨owner, ?_⟩
  intro r client'' hclient''
  obtain ⟨client', hclient', hid', _⟩ := hidentities r client'' hclient''
  obtain ⟨c, hc, hcount', hconnection'⟩ := hstages r client'' hclient''
  rw [hclient', Option.some.injEq] at hc
  subst hc
  rcases howner r client' hclient' with
    ⟨client, hclient, hid, hcount, hconnection⟩ | ⟨hnew, hr, hconnection⟩
  · left
    refine ⟨client, hclient, hid'.trans hid, hcount'.trans hcount, ?_⟩
    rcases hconnection' with heq | hnone
    · rw [heq]
      exact hconnection
    · exact .inr (.inl hnone)
  · right
    refine ⟨hnew, hr, ?_⟩
    rcases hconnection' with heq | hnone
    · rw [heq]
      exact hconnection
    · exact .inl hnone

theorem Delegated.accepts {env : IncomingEnv} {result : DelegateResult}
    (h : Delegated d env result) : d.Accepts result.daemon env.connection := by
  cases h with
  | unpeeked => exact ⟨0, fun r client' h => .inl ⟨client', h, rfl, rfl, .inl rfl⟩⟩
  | @rebound info ref client hpeek htoken hlive hsession =>
    refine ⟨ref, ?_⟩
    intro r client' hclient'
    left
    by_cases hne : r = ref
    · subst hne
      -- the client that came back is the one that got the connection
      have hself : some { client.touch env.now with connection := some env.connection } =
          some client' := setClient_self.symm.trans hclient'
      rw [← Option.some.inj hself]
      exact ⟨client, hlive, rfl, rfl, .inr (.inr ⟨rfl, rfl⟩)⟩
    · have hsame : (d.rebindClient ref client env.connection env.now).clients r = d.clients r :=
        setClient_of_ne hne
      exact ⟨client', hsame.symm.trans hclient', rfl, rfl, .inl rfl⟩
  | @registered info id token value client d' registered hpeek hbusy hregistered =>
    refine ⟨d.nextClient, ?_⟩
    intro r client' hclient'
    rcases hregistered.live hclient' with ⟨_, hnew, rfl⟩ | hold
    · right
      refine ⟨hnew, hnew, .inr ?_⟩
      rw [hregistered.client_eq]
      rfl
    · exact .inl ⟨client', hold, rfl, rfl, .inl rfl⟩

end SystemDaemon

namespace SystemState

variable {s s' : SystemState}

theorem incoming_accepts {env : IncomingEnv} (hT : s.daemon.TableConsistent)
    (he : s.step (.incoming env) = some s') : s.daemon.Accepts s'.daemon env.connection := by
  obtain ⟨result, _, hdelegated, hdaemon | ⟨session, request, hready⟩⟩ :=
    incoming_spec hT (step_incoming he)
  · rw [hdaemon]
    exact hdelegated.accepts
  · have hT' := hdelegated.tableConsistent hT
    exact hdelegated.accepts.keeps (SystemDaemon.onSessionReady_evolves hT' hready).identities
      (SystemDaemon.onSessionReady_keepsStages hready)

end SystemState

namespace HandoverState

variable {s s' : HandoverState} {i : DaemonId} {ref : ClientRef}

/-- No process is there before it is launched. -/
def Unlaunched (s : HandoverState) : Prop := ∀ i, s.daemonCount ≤ i → s.daemons i = {}

/-- A step of the system daemon that moves no client to another stage. -/
structure Continues (d d' : SystemDaemon) : Prop where
  evolves : d.Evolves d'
  stages : d.KeepsStages d'
  nextClient : d.nextClient ≤ d'.nextClient

theorem Continues.refl {d : SystemDaemon} (hT : d.TableConsistent) : Continues d d :=
  ⟨⟨hT, .refl d⟩, .refl d, le_refl _⟩

/-- A step that changes nothing the agreement of the parties depends on: the clients
stay at their stages, and no TakeClient is under way that was not before. -/
structure Quiet (s s' : HandoverState) : Prop where
  daemon : Continues s.system.daemon s'.system.daemon
  secondRequester : s'.secondRequester = s.secondRequester
  answers : s'.answers = s.answers
  nextConnection : s'.nextConnection = s.nextConnection
  awaits : ∀ i path, (s'.daemons i).awaits path = true → (s.daemons i).awaits path = true
  unlaunched : s.Unlaunched → s'.Unlaunched

@[simp] theorem setDaemon_self (daemon : HandoverDaemon) : (s.setDaemon i daemon).daemons i = daemon :=
  Function.update_self ..

theorem setDaemon_of_ne {j : DaemonId} (daemon : HandoverDaemon) (h : j ≠ i) :
    (s.setDaemon i daemon).daemons j = s.daemons j :=
  Function.update_of_ne h ..

theorem setDaemon_awaits {daemon : HandoverDaemon}
    (h : ∀ path, daemon.awaits path = true → (s.daemons i).awaits path = true) (j : DaemonId)
    (path : CString) (hj : ((s.setDaemon i daemon).daemons j).awaits path = true) :
    (s.daemons j).awaits path = true := by
  by_cases hne : j = i
  · subst hne
    rw [setDaemon_self] at hj
    exact h path hj
  · rw [setDaemon_of_ne daemon hne] at hj
    exact hj

theorem setDaemon_unlaunched {daemon : HandoverDaemon} (h : s.Unlaunched)
    (hphase : (s.daemons i).phase ≠ .launched ∨ i < s.daemonCount) :
    (s.setDaemon i daemon).Unlaunched := by
  intro j hj
  by_cases hne : j = i
  · subst hne
    exfalso
    rcases hphase with hphase | hlt
    · rw [h j hj] at hphase
      exact hphase rfl
    · exact absurd hlt (Nat.not_lt.mpr hj)
  · rw [setDaemon_of_ne daemon hne]
    exact h j hj

/-- One daemon changes, and nothing else. -/
theorem quiet_setDaemon {daemon : HandoverDaemon} (hT : s.system.daemon.TableConsistent)
    (h : ∀ path, daemon.awaits path = true → (s.daemons i).awaits path = true)
    (hphase : (s.daemons i).phase ≠ .launched ∨ i < s.daemonCount) :
    s.Quiet (s.setDaemon i daemon) :=
  ⟨.refl hT, rfl, rfl, rfl, setDaemon_awaits h, fun hs => setDaemon_unlaunched hs hphase⟩

theorem quiet_systemStep {e : SystemEvent} (hT : s.system.daemon.TableConsistent)
    (hincoming : ∀ env, e ≠ .incoming env)
    (htake : ∀ path fdAppend now queueNow, e ≠ .takeClient path fdAppend now queueNow)
    (he : s.systemStep e = some s') : s.Quiet s' := by
  obtain ⟨system, hstep, rfl⟩ := Option.map_eq_some_iff.mp he
  exact ⟨⟨SystemState.step_evolves hT hincoming hstep,
    SystemState.step_keepsStages hT hincoming htake hstep, SystemState.step_nextClient_le hT hstep⟩,
    rfl, rfl, rfl, fun _ _ h => h, fun h => h⟩

theorem quiet_bindHandover {bound : Bool} (hT : s.system.daemon.TableConsistent)
    (he : s.bindHandover i bound = some s') : s.Quiet s' := by
  rw [bindHandover] at he
  split at he
  · rename_i hphase
    rw [Option.some.injEq] at he
    subst he
    refine quiet_setDaemon hT ?_ (.inl (by simp [hphase]))
    intro path h
    split at h
    · simp [HandoverDaemon.awaits] at h
    · rw [HandoverDaemon.exit_awaits] at h
      simp at h
  · simp at he

theorem quiet_dispatch {redirected : Bool} (hT : s.system.daemon.TableConsistent)
    (he : s.dispatch i redirected = some s') : s.Quiet s' := by
  rw [dispatch] at he
  split at he
  · rename_i hphase
    obtain ⟨daemon, hdispatch, rfl⟩ := Option.map_eq_some_iff.mp he
    refine quiet_setDaemon hT ?_ (.inl (by simp [hphase.1]))
    intro path h
    exact HandoverDaemon.dispatch_awaits hdispatch h
  · simp at he

theorem emit_redirectClient_awaits (other path : CString) (token username password : CString)
    (j : DaemonId) :
    ((s.emit other (.redirectClient token username password)).daemons j).awaits path =
      (s.daemons j).awaits path :=
  HandoverDaemon.receive_redirectClient_awaits token username password

theorem emit_unlaunched (h : s.Unlaunched) (path : CString) (signal : HandoverSignal) :
    (s.emit path signal).Unlaunched := by
  intro j hj
  show (s.daemons j).receive path signal = {}
  rw [h j hj]
  exact HandoverDaemon.receive_of_unbound signal rfl

theorem quiet_emit_redirectClient (hT : s.system.daemon.TableConsistent) (path : CString)
    (token username password : CString) :
    s.Quiet (s.emit path (.redirectClient token username password)) where
  daemon := .refl hT
  secondRequester := rfl
  answers := rfl
  nextConnection := rfl
  awaits := by
    intro j q h
    rwa [emit_redirectClient_awaits] at h
  unlaunched := fun h => emit_unlaunched h path _

theorem Quiet.trans {t : HandoverState} (h₁ : s.Quiet s') (h₂ : s'.Quiet t) : s.Quiet t where
  daemon :=
    { evolves :=
        { table := h₂.daemon.evolves.table
          identities := h₁.daemon.evolves.identities.trans h₂.daemon.evolves.identities }
      stages := h₁.daemon.stages.trans h₂.daemon.stages
      nextClient := le_trans h₁.daemon.nextClient h₂.daemon.nextClient }
  secondRequester := h₂.secondRequester.trans h₁.secondRequester
  answers := h₂.answers.trans h₁.answers
  nextConnection := h₂.nextConnection.trans h₁.nextConnection
  awaits := fun j path h => h₁.awaits j path (h₂.awaits j path h)
  unlaunched := fun h => h₂.unlaunched (h₁.unlaunched h)

/-- Only the system daemon moves. -/
theorem quiet_daemon {daemon : SystemDaemon} (h : Continues s.system.daemon daemon) :
    s.Quiet { s with system := { s.system with daemon := daemon } } :=
  ⟨h, rfl, rfl, rfl, fun _ _ h => h, fun h => h⟩

theorem quiet_exit (hT : s.system.daemon.TableConsistent)
    (hphase : (s.daemons i).phase ≠ .launched ∨ i < s.daemonCount) :
    s.Quiet (s.setDaemon i (s.daemons i).exit) := by
  refine quiet_setDaemon hT ?_ hphase
  intro path h
  rw [HandoverDaemon.exit_awaits] at h
  simp at h

theorem quiet_running (hT : s.system.daemon.TableConsistent)
    (hphase : (s.daemons i).phase ≠ .launched ∨ i < s.daemonCount) (started : Bool) :
    s.Quiet (s.setDaemon i
      (if started then { s.daemons i with phase := .running } else (s.daemons i).exit)) := by
  cases started with
  | true => exact quiet_setDaemon hT (fun _ h => h) hphase
  | false => exact quiet_exit hT hphase

theorem quiet_started {path : CString} {ok : Bool} {reply : HandoverReply}
    (hT : s.system.daemon.TableConsistent) (hphase : (s.daemons i).phase ≠ .launched) :
    s.Quiet (s.started i path ok reply) := by
  cases reply with
  | error message => exact quiet_exit hT (.inl hphase)
  | takeClient => exact quiet_exit hT (.inl hphase)
  | startHandover certificate key redirect =>
    cases redirect with
    | none => exact quiet_running hT (.inl hphase) ok
    | some redirect =>
      obtain ⟨token, username, password⟩ := redirect
      have hemit := quiet_emit_redirectClient hT path token username password
      have hphase' : ((s.emit path (.redirectClient token username password)).daemons i).phase ≠
          .launched := by
        show ((s.daemons i).receive path (.redirectClient token username password)).phase ≠ _
        rw [HandoverDaemon.receive]
        split <;> exact hphase
      exact hemit.trans (quiet_running hemit.daemon.evolves.table (.inl hphase') ok)

theorem quiet_startHandover {env : StartHandoverEnv} {now : ℤ} {ok : Bool}
    (hT : s.system.daemon.TableConsistent) (he : s.startHandover i env now ok = some s') :
    s.Quiet s' := by
  rw [startHandover] at he
  split at he
  · rename_i hphase
    have hlaunched : (s.daemons i).phase ≠ .launched := by simp [hphase]
    obtain ⟨path, _, hrest⟩ := Option.bind_eq_some_iff.mp he
    split at hrest
    · rw [Option.some.injEq] at hrest
      exact hrest ▸ quiet_exit hT (.inl hlaunched)
    · obtain ⟨⟨daemon, reply⟩, hstart, rfl⟩ := Option.map_eq_some_iff.mp hrest
      have hevolves := SystemDaemon.onStartHandover_evolves hT hstart
      have hcontinues : Continues s.system.daemon daemon := by
        refine ⟨hevolves, SystemDaemon.onStartHandover_keepsStages hstart, ?_⟩
        obtain ⟨_, _, rfl⟩ := SystemDaemon.onStartHandover_spec hstart
        exact le_refl _
      exact (quiet_daemon hcontinues).trans (quiet_started hevolves.table hlaunched)
  · simp at he

theorem requestHandover_continues {d d' : SystemDaemon} {pruneNow now : ℤ}
    {reply : Except String (ClientRef × CString)} (hT : d.TableConsistent)
    (h : d.handleRequestHandover pruneNow now = some (d', reply)) : Continues d d' := by
  have hleaves : SystemDaemon.LeavesOut d d' 0 := SystemDaemon.handleRequestHandover_leavesOut hT h
  exact ⟨SystemDaemon.handleRequestHandover_evolves hT h,
    SystemDaemon.handleRequestHandover_keepsStages hT h, hleaves.allocated⟩

/-- RequestHandover, up to the record of who asked for the second stage. -/
theorem requestHandover_quiet {pruneNow now : ℤ} (hT : s.system.daemon.TableConsistent)
    (he : s.requestHandover i pruneNow now = some s') :
    s.Quiet s' ∨ ∃ daemon ref path t,
      s.system.daemon.handleRequestHandover pruneNow now = some (daemon, .ok (ref, path)) ∧
      s.Quiet t ∧ t.system.daemon = daemon ∧ s' = t.recordRequest ref i := by
  rw [requestHandover] at he
  split at he
  · rename_i hready
    obtain ⟨⟨daemon, reply⟩, hrequest, rfl⟩ := Option.map_eq_some_iff.mp he
    have hcontinues := requestHandover_continues hT hrequest
    have hdaemon := quiet_daemon hcontinues
    cases reply with
    -- nobody is there to be handed over
    | error message =>
      left
      exact hdaemon.trans (quiet_exit hcontinues.evolves.table (.inr hready.1))
    | ok found =>
      obtain ⟨ref, path⟩ := found
      right
      refine ⟨daemon, ref, path, _, hrequest, ?_, rfl, rfl⟩
      exact hdaemon.trans (quiet_setDaemon hcontinues.evolves.table (fun _ h => h) (.inr hready.1))
  · simp at he

/-- A TakeClient of the daemon `i` is answered with the connection `c` of the client. -/
structure Answers (s s' : HandoverState) (i : DaemonId) (path : CString) (ref : ClientRef)
    (client : RemoteClient) (c : Connection) : Prop where
  awaits : (s.daemons i).awaits path = true
  object : s.system.handoverObject path = some ref
  live : s.system.daemon.clients ref = some client
  connection : client.connection = some c
  evolves : s.system.daemon.Evolves s'.system.daemon
  nextClient : s.system.daemon.nextClient ≤ s'.system.daemon.nextClient
  taken : ∀ r client', s'.system.daemon.clients r = some client' →
    if r = ref then client'.connection = none
    else ∃ c, s.system.daemon.clients r = some c ∧ client'.handoverCount = c.handoverCount ∧
      (client'.connection = c.connection ∨ client'.connection = none)
  secondRequester : s'.secondRequester = Function.update s.secondRequester ref none
  answers : s'.answers = s.answers ++ [⟨i, c, s.secondRequester ref⟩]
  nextConnection : s'.nextConnection = s.nextConnection
  quietAwaits : ∀ j q, (s'.daemons j).awaits q = true → (s.daemons j).awaits q = true
  unlaunched : s.Unlaunched → s'.Unlaunched

theorem not_launched_of_call (h : (s.daemons i).takeClientCall = true) (hs : s.Unlaunched) :
    i < s.daemonCount := by
  by_contra hle
  rw [hs i (Nat.not_lt.mp hle)] at h
  simp at h

theorem setDaemon_unlaunched_of_call {daemon : HandoverDaemon}
    (h : (s.daemons i).takeClientCall = true) (hs : s.Unlaunched) :
    (s.setDaemon i daemon).Unlaunched :=
  setDaemon_unlaunched hs (.inr (not_launched_of_call h hs))

/-- The reply reached the daemon, which waits for it no longer. -/
theorem answered_awaits {daemon : HandoverDaemon} {q : CString}
    (hproxy : daemon.handoverProxy = (s.daemons i).handoverProxy)
    (hsignals : daemon.signals = (s.daemons i).signals)
    (h : ({ daemon with takeClientCall := false } : HandoverDaemon).awaits q = true) :
    (s.daemons i).awaits q = true := by
  simp only [HandoverDaemon.awaits, Bool.false_or, Bool.and_eq_true, decide_eq_true_eq, hproxy,
    hsignals] at h ⊢
  simp [h.1, h.2]

theorem quiet_unanswered (hT : s.system.daemon.TableConsistent)
    (hcall : (s.daemons i).takeClientCall = true) :
    s.Quiet (s.setDaemon i { s.daemons i with takeClientCall := false }) :=
  ⟨.refl hT, rfl, rfl, rfl, setDaemon_awaits fun _ h => answered_awaits rfl rfl h,
    setDaemon_unlaunched_of_call hcall⟩

/-- TakeClient fails, or hands the connection of a client over. -/
theorem takeClient_cases {fdAppend : Except String Unit} {now queueNow : ℤ} {accept : AcceptEnv}
    (hT : s.system.daemon.TableConsistent)
    (he : s.takeClient i fdAppend now queueNow accept = some s') :
    s.Quiet s' ∨ ∃ path ref client c, s.Answers s' i path ref client c := by
  rw [takeClient] at he
  split at he
  · rename_i hcall
    split at he
    · rw [Option.some.injEq] at he
      exact .inl (he ▸ quiet_unanswered hT hcall)
    · rename_i ref hobject
      obtain ⟨path, hproxy, hpath⟩ := Option.bind_eq_some_iff.mp hobject
      obtain ⟨⟨daemon, reply⟩, htake, rfl⟩ := Option.map_eq_some_iff.mp he
      obtain ⟨client, hclient, hends⟩ := SystemDaemon.onTakeClient_spec hT htake
      have hreply := SystemDaemon.onTakeClient_reply hclient htake
      have hevolves := SystemDaemon.onTakeClient_evolves hT htake
      cases htakes : SystemDaemon.takesClient client fdAppend with
      -- no socket goes out: only the activity of the client is noted
      | false =>
        left
        rw [htakes] at hreply
        obtain ⟨message, rfl⟩ := hreply
        rcases hends with ⟨_, rfl⟩ | ⟨hgoes, _, _⟩ | ⟨hgoes, _⟩
        · have hcontinues : Continues s.system.daemon
              (s.system.daemon.setClient ref (client.touch now)) :=
            ⟨hevolves, .setClient hclient rfl (.inl rfl), le_refl _⟩
          have hdaemon := quiet_daemon hcontinues
          exact hdaemon.trans (quiet_unanswered hdaemon.daemon.evolves.table hcall)
        · simp [htakes] at hgoes
        · simp [htakes] at hgoes
      -- the socket is out, whether or not another stage follows
      | true =>
        right
        rw [htakes, if_pos rfl] at hreply
        subst hreply
        obtain ⟨c, hc⟩ : ∃ c, client.connection = some c := by
          rw [SystemDaemon.takesClient, Bool.and_eq_true] at htakes
          exact Option.isSome_iff_exists.mp htakes.1
        have hadopt : ((s.daemons i).adoptConnection accept).handoverProxy =
            (s.daemons i).handoverProxy ∧
            ((s.daemons i).adoptConnection accept).signals = (s.daemons i).signals :=
          HandoverDaemon.adoptConnection_proxy accept
        refine ⟨path, ref, client, c, ?_⟩
        constructor
        case awaits => exact HandoverDaemon.awaits_of_call hproxy hcall
        case object => exact hpath
        case live => exact hclient
        case connection => exact hc
        case evolves => exact hevolves
        case nextClient =>
          exact (SystemDaemon.onTakeClient_leavesOut hT htake (Nat.succ_ne_self ref)).allocated
        case taken =>
          intro r client' hlive
          exact SystemDaemon.onTakeClient_taken hT hclient htakes htake hlive
        case secondRequester => rfl
        case answers => simp [answer, hclient, hc]
        case nextConnection => rfl
        case quietAwaits => exact setDaemon_awaits fun _ h => answered_awaits hadopt.1 hadopt.2 h
        case unlaunched => exact setDaemon_unlaunched_of_call hcall
  · simp at he

/-- What a connection does to the parties. -/
structure Connects (s s' : HandoverState) (env : IncomingEnv) : Prop where
  table : s'.system.daemon.TableConsistent
  accepts : s.system.daemon.Accepts s'.system.daemon s.nextConnection
  nextClient : s.system.daemon.nextClient ≤ s'.system.daemon.nextClient
  secondRequester : s'.secondRequester = s.secondRequester
  answers : s'.answers = s.answers
  nextConnection : s'.nextConnection = s.nextConnection + 1
  awaits : ∀ j q, (s'.daemons j).awaits q = true → (s.daemons j).awaits q = true ∨
    (s.daemons j).handoverProxy = some q ∧
      ∃ credentials ref, s.readyClient env = some (q, credentials, ref)
  unlaunched : s.Unlaunched → s'.Unlaunched

theorem connect_connects {env : IncomingEnv} (hT : s.system.daemon.TableConsistent)
    (he : s.connect env = some s') : s.Connects s' env := by
  obtain ⟨system, hstep, rfl⟩ := Option.map_eq_some_iff.mp he
  have hT' := SystemState.step_tableConsistent hT hstep
  have haccepts : s.system.daemon.Accepts system.daemon s.nextConnection :=
    SystemState.incoming_accepts hT hstep
  have hnext := SystemState.step_nextClient_le hT hstep
  cases hready : s.readyClient env with
  | none => exact ⟨hT', haccepts, hnext, rfl, rfl, rfl, fun j q h => .inl h, fun h => h⟩
  | some found =>
    obtain ⟨path, credentials, ref⟩ := found
    refine ⟨hT', haccepts, hnext, rfl, rfl, rfl, ?_, fun h => emit_unlaunched h path _⟩
    -- whoever awaits a TakeClient now did before, or is bound to that object
    intro j q h
    rcases HandoverDaemon.receive_takeClientReady_awaits h with hbefore | ⟨rfl, hproxy⟩
    · exact .inl hbefore
    · exact .inr ⟨hproxy, credentials, ref, hready⟩

/-- The client that a connection makes ready is one of the table, under its path. -/
theorem readyClient_live {env : IncomingEnv} {path : CString} {credentials : Bool}
    (hT : s.system.daemon.TableConsistent)
    (h : s.readyClient env = some (path, credentials, ref)) :
    ∃ client, s.system.daemon.clients ref = some client ∧ client.id = path := by
  obtain ⟨result, hdelegate, hrest⟩ := Option.bind_eq_some_iff.mp h
  obtain ⟨⟨r, use⟩, hready, hfound⟩ := Option.bind_eq_some_iff.mp hrest
  obtain ⟨client', hclient', heq⟩ := Option.map_eq_some_iff.mp hfound
  rw [Prod.mk.injEq, Prod.mk.injEq] at heq
  obtain ⟨rfl, _, rfl⟩ := heq
  cases SystemDaemon.delegate_spec hT hdelegate with
  | unpeeked => simp at hready
  | @rebound info r₀ client hpeek htoken hlive hsession =>
    rw [Option.some.injEq, Prod.mk.injEq] at hready
    obtain ⟨rfl, _⟩ := hready
    have hself : some { client.touch (s.incomingEnv env).now with
        connection := some (s.incomingEnv env).connection } = some client' :=
      SystemDaemon.setClient_self.symm.trans hclient'
    rw [← Option.some.inj hself]
    exact ⟨client, hlive, rfl⟩
  | registered => simp at hready

/-- The client that RequestHandover returns. -/
def returned (s : HandoverState) (pruneNow now : ℤ) : Option (ClientRef × CString) :=
  (s.system.daemon.handleRequestHandover pruneNow now).bind fun (_, reply) => reply.toOption

/-- A daemon other than the one that asked for the client's second stage is still bound
to its object. -/
def strangerBound (s : HandoverState) (path : CString) (ref : ClientRef) : Bool :=
  (s.secondRequester ref).any fun u => (List.range s.daemonCount).any fun i =>
    i != u && decide ((s.daemons i).handoverProxy = some path)

/-- Some daemon has a TakeClient on this object under way. -/
def takeUnderWay (s : HandoverState) (path : CString) : Bool :=
  (List.range s.daemonCount).any fun i => (s.daemons i).awaits path

/-- A second stage begins when no TakeClient of the first is under way any more, and the
client comes back when the first stage's daemon has left the object. -/
def Ordered (s : HandoverState) : HandoverEvent → Prop
  | .connect env => ∀ found ∈ s.readyClient env, s.strangerBound found.1 found.2.2 = false
  | .requestHandover _ pruneNow now => ∀ found ∈ s.returned pruneNow now,
      s.inSecondStage found.1 = true → s.takeUnderWay found.2 = false
  | _ => True

instance decidableOrdered (s : HandoverState) : DecidablePred s.Ordered
  | .connect env =>
    inferInstanceAs (Decidable (∀ found ∈ s.readyClient env, s.strangerBound found.1 found.2.2 = false))
  | .requestHandover _ pruneNow now =>
    inferInstanceAs (Decidable (∀ found ∈ s.returned pruneNow now,
      s.inSecondStage found.1 = true → s.takeUnderWay found.2 = false))
  | .start .. | .stop | .sessionReady .. | .sessionClosed .. | .launch | .bindHandover ..
  | .startHandover .. | .dispatch .. | .takeClient .. => instDecidableTrue

/-- The TakeClient that completes a second stage is answered to the daemon whose
RequestHandover began it. -/
def StagesAgree (s : HandoverState) : Prop :=
  ∀ a ∈ s.answers, ∀ u, a.requester = some u → a.daemon = u

/-- No connection is handed over twice. -/
def SocketsOnce (s : HandoverState) : Prop := (s.answers.map TakeAnswer.connection).Nodup

/-- The invariant behind `StagesAgree`: on the object of a client in its second stage
only the daemon that asked for the stage has a TakeClient under way. -/
structure StageKept (s : HandoverState) : Prop where
  table : s.system.daemon.TableConsistent
  unlaunched : s.Unlaunched
  requested : ∀ ref u, s.secondRequester ref = some u → ref < s.system.daemon.nextClient ∧
    ∀ client, s.system.daemon.clients ref = some client → client.handoverCount = 1
  underWay : ∀ ref u client i, s.secondRequester ref = some u →
    s.system.daemon.clients ref = some client → (s.daemons i).awaits client.id = true → i = u
  agree : s.StagesAgree

theorem lt_of_awaits {path : CString} (h : s.Unlaunched) (ha : (s.daemons i).awaits path = true) :
    i < s.daemonCount := by
  by_contra hle
  rw [h i (Nat.not_lt.mp hle)] at ha
  simp [HandoverDaemon.awaits] at ha

theorem StageKept.quiet (h : s.StageKept) (hq : s.Quiet s') : s'.StageKept where
  table := hq.daemon.evolves.table
  unlaunched := hq.unlaunched h.unlaunched
  requested := by
    intro ref u hu
    rw [hq.secondRequester] at hu
    obtain ⟨hlt, hcount⟩ := h.requested ref u hu
    refine ⟨lt_of_lt_of_le hlt hq.daemon.nextClient, ?_⟩
    intro client' hclient'
    obtain ⟨client, hclient, hsame, _⟩ := hq.daemon.stages ref client' hclient'
    rw [hsame]
    exact hcount client hclient
  underWay := by
    intro ref u client' j hu hclient' ha
    rw [hq.secondRequester] at hu
    -- the paths of the clients stay, so what is awaited is the same
    obtain ⟨client, hclient, hid, _⟩ := hq.daemon.evolves.identities ref client' hclient'
    rw [hid] at ha
    exact h.underWay ref u client j hu hclient (hq.awaits j client.id ha)
  agree := by
    rw [StagesAgree, hq.answers]
    exact h.agree

theorem StageKept.connects {env : IncomingEnv} (h : s.StageKept) (hc : s.Connects s' env)
    (hordered : s.Ordered (.connect env)) : s'.StageKept where
  table := hc.table
  unlaunched := hc.unlaunched h.unlaunched
  requested := by
    intro ref u hu
    rw [hc.secondRequester] at hu
    obtain ⟨hlt, hcount⟩ := h.requested ref u hu
    refine ⟨lt_of_lt_of_le hlt hc.nextClient, ?_⟩
    intro client' hclient'
    obtain ⟨owner, howner⟩ := hc.accepts
    rcases howner ref client' hclient' with ⟨client, hclient, _, hsame, _⟩ | ⟨hnew, _⟩
    · rw [hsame]
      exact hcount client hclient
    · exact absurd hnew hlt.ne
  underWay := by
    intro ref u client' j hu hclient' ha
    rw [hc.secondRequester] at hu
    obtain ⟨owner, howner⟩ := hc.accepts
    rcases howner ref client' hclient' with ⟨client, hclient, hid, _⟩ | ⟨hnew, _⟩
    · rw [hid] at ha
      rcases hc.awaits j client.id ha with hbefore | ⟨hproxy, credentials, r, hready⟩
      · exact h.underWay ref u client j hu hclient hbefore
      · -- the signal is of this very client, since paths are not shared
        obtain ⟨c, hc₀, hpath⟩ := readyClient_live h.table hready
        have hsame : r = ref := by
          have htable := h.table.client hc₀
          rw [hpath, h.table.client hclient, Option.some.injEq] at htable
          exact htable.symm
        subst hsame
        -- and nobody but its requester is bound to its object
        have hstranger := hordered _ hready
        by_contra hne
        have hlt : j < s.daemonCount := by
          by_contra hle
          rw [h.unlaunched j (Nat.not_lt.mp hle)] at hproxy
          simp at hproxy
        rw [strangerBound, hu, Option.any_some, List.any_eq_false] at hstranger
        exact hstranger j (List.mem_range.mpr hlt) (by simp [hne, hproxy])
    · exact absurd hnew (h.requested ref u hu).1.ne
  agree := by
    rw [StagesAgree, hc.answers]
    exact h.agree

theorem StageKept.answered {path : CString} {ref : ClientRef} {client : RemoteClient}
    {c : Connection} (h : s.StageKept) (ha : s.Answers s' i path ref client c) : s'.StageKept where
  table := ha.evolves.table
  unlaunched := ha.unlaunched h.unlaunched
  requested := by
    intro r u hu
    rw [ha.secondRequester] at hu
    by_cases hne : r = ref
    · -- the stage of this client is over
      rw [hne, Function.update_self] at hu
      simp at hu
    · rw [Function.update_of_ne hne] at hu
      obtain ⟨hlt, hcount⟩ := h.requested r u hu
      refine ⟨lt_of_lt_of_le hlt ha.nextClient, ?_⟩
      intro client' hclient'
      have htaken := ha.taken r client' hclient'
      rw [if_neg hne] at htaken
      obtain ⟨c₀, hc₀, hsame, _⟩ := htaken
      rw [hsame]
      exact hcount c₀ hc₀
  underWay := by
    intro r u client' j hu hclient' hawaits
    rw [ha.secondRequester] at hu
    by_cases hne : r = ref
    · rw [hne, Function.update_self] at hu
      simp at hu
    · rw [Function.update_of_ne hne] at hu
      obtain ⟨c₀, hc₀, hid, _⟩ := ha.evolves.identities r client' hclient'
      rw [hid] at hawaits
      exact h.underWay r u c₀ j hu hc₀ (ha.quietAwaits j c₀.id hawaits)
  agree := by
    intro a hin u hu
    rw [ha.answers] at hin
    rcases List.mem_append.mp hin with hin | hin
    · exact h.agree a hin u hu
    · rw [List.mem_singleton.mp hin] at hu ⊢
      -- the object that the call reached is the client's own
      obtain ⟨objects, hobjects, hpath⟩ := Option.bind_eq_some_iff.mp ha.object
      obtain ⟨c₀, hc₀, hid⟩ := h.table.entry (h.table.exported hobjects hpath)
      rw [ha.live, Option.some.injEq] at hc₀
      subst hc₀
      exact h.underWay ref u client i hu ha.live (hid ▸ ha.awaits)

theorem StageKept.recordRequest {ref : ClientRef} (h : s.StageKept)
    (hidle : ∀ client, s.system.daemon.clients ref = some client → client.handoverCount = 1 →
      ∀ j, (s.daemons j).awaits client.id = false) : (s.recordRequest ref i).StageKept := by
  rw [HandoverState.recordRequest]
  split
  · rename_i hsecond
    obtain ⟨client₀, hclient₀, hcount₀⟩ : ∃ client, s.system.daemon.clients ref = some client ∧
        client.handoverCount = 1 := by
      rw [inSecondStage, Option.any_eq_true] at hsecond
      obtain ⟨client, hclient, hcount⟩ := hsecond
      exact ⟨client, hclient, by simpa using hcount⟩
    -- nobody has a TakeClient under way there, so the requester is the first
    refine ⟨h.table, h.unlaunched, ?_, ?_, h.agree⟩
    · intro r u hu
      by_cases hne : r = ref
      · subst hne
        refine ⟨h.table.allocated hclient₀, ?_⟩
        intro client hclient
        rw [show _ = _ from hclient₀, Option.some.injEq] at hclient
        rw [← hclient]
        exact hcount₀
      · have hsame : Function.update s.secondRequester ref (some i) r = s.secondRequester r :=
          Function.update_of_ne hne ..
        exact h.requested r u (hsame.symm.trans hu)
    · intro r u client j hu hclient ha
      by_cases hne : r = ref
      · subst hne
        rw [show _ = _ from hclient₀, Option.some.injEq] at hclient
        subst hclient
        rw [hidle client₀ hclient₀ hcount₀ j] at ha
        simp at ha
      · have hsame : Function.update s.secondRequester ref (some i) r = s.secondRequester r :=
          Function.update_of_ne hne ..
        exact h.underWay r u client j (hsame.symm.trans hu) hclient ha
  · exact h

/-- The ends of a step of the protocol. -/
inductive Stepped (s : HandoverState) (e : HandoverEvent) (s' : HandoverState) : Prop
  | quiet (h : s.Quiet s')
  | connected {env : IncomingEnv} (he : e = .connect env) (h : s.Connects s' env)
  | requested {i : DaemonId} {pruneNow now : ℤ} {ref : ClientRef} {path : CString}
      {daemon : SystemDaemon} {t : HandoverState} (he : e = .requestHandover i pruneNow now)
      (hrequest : s.system.daemon.handleRequestHandover pruneNow now =
        some (daemon, .ok (ref, path)))
      (h : s.Quiet t) (hdaemon : t.system.daemon = daemon) (heq : s' = t.recordRequest ref i)
  | answered {i : DaemonId} {path : CString} {ref : ClientRef} {client : RemoteClient}
      {c : Connection} (h : s.Answers s' i path ref client c)

theorem step_stepped {e : HandoverEvent} (hT : s.system.daemon.TableConsistent)
    (he : s.step e = some s') : s.Stepped e s' := by
  cases e with
  | start listenerOk busOk =>
    exact .quiet (quiet_systemStep hT (fun _ h => by simp at h) (fun _ _ _ _ h => by simp at h) he)
  | stop =>
    exact .quiet (quiet_systemStep hT (fun _ h => by simp at h) (fun _ _ _ _ h => by simp at h) he)
  | sessionReady connection session env now =>
    exact .quiet (quiet_systemStep hT (fun _ h => by simp at h) (fun _ _ _ _ h => by simp at h) he)
  | sessionClosed session =>
    exact .quiet (quiet_systemStep hT (fun _ h => by simp at h) (fun _ _ _ _ h => by simp at h) he)
  | connect env => exact .connected rfl (connect_connects hT he)
  | launch =>
    rw [step, Option.some.injEq] at he
    subst he
    refine .quiet ⟨.refl hT, rfl, rfl, rfl, fun _ _ h => h, ?_⟩
    intro h j hj
    exact h j (Nat.le_of_succ_le hj)
  | requestHandover i pruneNow now =>
    rcases requestHandover_quiet hT he with hq | ⟨daemon, ref, path, t, hrequest, hq, hdaemon, heq⟩
    · exact .quiet hq
    · exact .requested rfl hrequest hq hdaemon heq
  | bindHandover i bound => exact .quiet (quiet_bindHandover hT he)
  | startHandover i env now ok => exact .quiet (quiet_startHandover hT he)
  | dispatch i redirected => exact .quiet (quiet_dispatch hT he)
  | takeClient i fdAppend now queueNow accept =>
    rcases takeClient_cases hT he with hq | ⟨path, ref, client, c, ha⟩
    · exact .quiet hq
    · exact .answered ha

/-- A RequestHandover answers with the path of the client. -/
theorem requestHandover_path {d d' : SystemDaemon} {pruneNow now : ℤ} {ref : ClientRef}
    {path : CString} (hT : d.TableConsistent)
    (h : d.handleRequestHandover pruneNow now = some (d', .ok (ref, path))) :
    ∃ client, d.clients ref = some client ∧ client.id = path := by
  obtain ⟨d₁, hpruned, _, ⟨_, _, hreply⟩ | ⟨r, refs, client, _, hclient, _, hreply⟩⟩ :=
    SystemDaemon.handleRequestHandover_spec hT h
  · simp at hreply
  · rw [Except.ok.injEq, Prod.mk.injEq] at hreply
    obtain ⟨rfl, rfl⟩ := hreply
    exact ⟨client, hpruned.clients_eq hclient, rfl⟩

theorem StageKept.step {e : HandoverEvent} (h : s.StageKept) (hordered : s.Ordered e)
    (he : s.step e = some s') : s'.StageKept := by
  cases step_stepped h.table he with
  | quiet hq => exact h.quiet hq
  | connected hevent hc => exact h.connects hc (hevent ▸ hordered)
  | answered ha => exact h.answered ha
  | @requested i pruneNow now ref path daemon t hevent hrequest hq hdaemon heq =>
    subst hevent
    rw [heq]
    refine (h.quiet hq).recordRequest ?_
    intro client' hclient' hcount j
    obtain ⟨client, hclient, hid, _⟩ := hq.daemon.evolves.identities ref client' hclient'
    obtain ⟨c, hc, hsame, _⟩ := hq.daemon.stages ref client' hclient'
    rw [hclient, Option.some.injEq] at hc
    subst hc
    obtain ⟨c, hc, hpath⟩ := requestHandover_path h.table hrequest
    rw [hclient, Option.some.injEq] at hc
    subst hc
    -- the client is in its second stage, and the order asks for a quiet object
    have hsecond : s.inSecondStage ref = true := by
      rw [inSecondStage, hclient, Option.any_some, beq_iff_eq, ← hsame]
      exact hcount
    have hfound : (ref, path) ∈ s.returned pruneNow now := by
      simp [returned, hrequest, Except.toOption]
    have hidle := hordered (ref, path) hfound hsecond
    by_contra ha
    have hbefore := hq.awaits j client'.id (by simpa using ha)
    rw [hid, hpath] at hbefore
    rw [takeUnderWay, List.any_eq_false] at hidle
    exact hidle j (List.mem_range.mpr (lt_of_awaits h.unlaunched hbefore)) hbefore

/-- The invariant behind `SocketsOnce`: a connection that a client holds was not handed
over, and no other client holds it. -/
structure SocketsKept (s : HandoverState) : Prop where
  table : s.system.daemon.TableConsistent
  held : ∀ ref client c, s.system.daemon.clients ref = some client → client.connection = some c →
    c < s.nextConnection ∧ ∀ a ∈ s.answers, a.connection ≠ c
  apart : ∀ r₁ r₂ client₁ client₂ c, s.system.daemon.clients r₁ = some client₁ →
    s.system.daemon.clients r₂ = some client₂ → client₁.connection = some c →
    client₂.connection = some c → r₁ = r₂
  past : ∀ a ∈ s.answers, a.connection < s.nextConnection
  once : s.SocketsOnce

/-- No client got a connection, and nothing was handed over. -/
theorem SocketsKept.of_held (h : s.SocketsKept) (hT' : s'.system.daemon.TableConsistent)
    (hheld : ∀ r client' c, s'.system.daemon.clients r = some client' →
      client'.connection = some c → ∃ client, s.system.daemon.clients r = some client ∧
        client.connection = some c)
    (hanswers : s'.answers = s.answers) (hnext : s'.nextConnection = s.nextConnection) :
    s'.SocketsKept where
  table := hT'
  held := by
    intro r client' c hclient' hc
    obtain ⟨client, hclient, hbefore⟩ := hheld r client' c hclient' hc
    rw [hnext, hanswers]
    exact h.held r client c hclient hbefore
  apart := by
    intro r₁ r₂ client₁ client₂ c hclient₁ hclient₂ hc₁ hc₂
    obtain ⟨before₁, hbefore₁, hheld₁⟩ := hheld r₁ client₁ c hclient₁ hc₁
    obtain ⟨before₂, hbefore₂, hheld₂⟩ := hheld r₂ client₂ c hclient₂ hc₂
    exact h.apart r₁ r₂ before₁ before₂ c hbefore₁ hbefore₂ hheld₁ hheld₂
  past := by
    rw [hnext, hanswers]
    exact h.past
  once := by
    rw [SocketsOnce, hanswers]
    exact h.once

theorem SocketsKept.quiet (h : s.SocketsKept) (hq : s.Quiet s') : s'.SocketsKept := by
  refine h.of_held hq.daemon.evolves.table ?_ hq.answers hq.nextConnection
  intro r client' c hclient' hc
  obtain ⟨client, hclient, _, hsame | hnone⟩ := hq.daemon.stages r client' hclient'
  · exact ⟨client, hclient, hsame ▸ hc⟩
  · rw [hnone] at hc
    simp at hc

/-- A connection is new, so only the client that got it can share it. -/
theorem SocketsKept.connects {env : IncomingEnv} (h : s.SocketsKept) (hc : s.Connects s' env) :
    s'.SocketsKept := by
  obtain ⟨owner, howner⟩ := hc.accepts
  -- a connection that is held was held before, or is the new one
  have hheld (r : ClientRef) (client' : RemoteClient) (c : Connection)
      (hclient' : s'.system.daemon.clients r = some client') (hconn : client'.connection = some c) :
      (∃ client, s.system.daemon.clients r = some client ∧ client.connection = some c) ∨
        r = owner ∧ c = s.nextConnection := by
    rcases howner r client' hclient' with
      ⟨client, hclient, _, _, hsame | hnone | ⟨hr, hnew⟩⟩ | ⟨_, hr, hnone | hnew⟩
    · exact .inl ⟨client, hclient, hsame ▸ hconn⟩
    · rw [hnone] at hconn
      simp at hconn
    · rw [hnew, Option.some.injEq] at hconn
      exact .inr ⟨hr, hconn.symm⟩
    · rw [hnone] at hconn
      simp at hconn
    · rw [hnew, Option.some.injEq] at hconn
      exact .inr ⟨hr, hconn.symm⟩
  constructor
  case table => exact hc.table
  case held =>
    intro r client' c hclient' hconn
    rw [hc.nextConnection, hc.answers]
    rcases hheld r client' c hclient' hconn with ⟨client, hclient, hbefore⟩ | ⟨_, rfl⟩
    · obtain ⟨hlt, hnot⟩ := h.held r client c hclient hbefore
      exact ⟨Nat.lt_succ_of_lt hlt, hnot⟩
    · exact ⟨Nat.lt_succ_self _, fun a ha => (h.past a ha).ne⟩
  case apart =>
    intro r₁ r₂ client₁ client₂ c hclient₁ hclient₂ hc₁ hc₂
    rcases hheld r₁ client₁ c hclient₁ hc₁ with ⟨before₁, hbefore₁, hheld₁⟩ | ⟨rfl, hnew₁⟩ <;>
      rcases hheld r₂ client₂ c hclient₂ hc₂ with ⟨before₂, hbefore₂, hheld₂⟩ | ⟨rfl, hnew₂⟩
    · exact h.apart r₁ r₂ before₁ before₂ c hbefore₁ hbefore₂ hheld₁ hheld₂
    · exact absurd hnew₂ (h.held r₁ before₁ c hbefore₁ hheld₁).1.ne
    · exact absurd hnew₁ (h.held r₂ before₂ c hbefore₂ hheld₂).1.ne
    · rfl
  case past =>
    rw [hc.nextConnection, hc.answers]
    exact fun a ha => Nat.lt_succ_of_lt (h.past a ha)
  case once =>
    rw [SocketsOnce, hc.answers]
    exact h.once

theorem SocketsKept.answered {path : CString} {ref : ClientRef} {client : RemoteClient}
    {c : Connection} (h : s.SocketsKept) (ha : s.Answers s' i path ref client c) :
    s'.SocketsKept := by
  -- only the client that was taken has lost a connection
  have hheld (r : ClientRef) (client' : RemoteClient) (c' : Connection)
      (hclient' : s'.system.daemon.clients r = some client') (hconn : client'.connection = some c') :
      r ≠ ref ∧ ∃ before, s.system.daemon.clients r = some before ∧ before.connection = some c' := by
    have htaken := ha.taken r client' hclient'
    by_cases hne : r = ref
    · rw [if_pos hne, hconn] at htaken
      simp at htaken
    · rw [if_neg hne] at htaken
      obtain ⟨before, hbefore, _, hsame | hnone⟩ := htaken
      · exact ⟨hne, before, hbefore, hsame ▸ hconn⟩
      · rw [hnone] at hconn
        simp at hconn
  obtain ⟨hlt, hnot⟩ := h.held ref client c ha.live ha.connection
  constructor
  case table => exact ha.evolves.table
  case held =>
    intro r client' c' hclient' hconn
    obtain ⟨hne, before, hbefore, hheld'⟩ := hheld r client' c' hclient' hconn
    obtain ⟨hlt', hnot'⟩ := h.held r before c' hbefore hheld'
    rw [ha.nextConnection, ha.answers]
    refine ⟨hlt', ?_⟩
    intro a hin
    rcases List.mem_append.mp hin with hin | hin
    · exact hnot' a hin
    · rw [List.mem_singleton.mp hin]
      intro heq
      -- the other client would share the connection that is handed over
      exact hne (h.apart r ref before client c' hbefore ha.live hheld' (heq ▸ ha.connection))
  case apart =>
    intro r₁ r₂ client₁ client₂ c' hclient₁ hclient₂ hc₁ hc₂
    obtain ⟨_, before₁, hbefore₁, hheld₁⟩ := hheld r₁ client₁ c' hclient₁ hc₁
    obtain ⟨_, before₂, hbefore₂, hheld₂⟩ := hheld r₂ client₂ c' hclient₂ hc₂
    exact h.apart r₁ r₂ before₁ before₂ c' hbefore₁ hbefore₂ hheld₁ hheld₂
  case past =>
    intro a hin
    rw [ha.answers] at hin
    rw [ha.nextConnection]
    rcases List.mem_append.mp hin with hin | hin
    · exact h.past a hin
    · rw [List.mem_singleton.mp hin]
      exact hlt
  case once =>
    rw [SocketsOnce, ha.answers, List.map_append, List.map_singleton]
    refine h.once.append (List.nodup_singleton _) ?_
    intro x hx hc
    obtain ⟨a, hin, rfl⟩ := List.mem_map.mp hx
    exact hnot a hin (List.mem_singleton.mp hc)

theorem SocketsKept.step {e : HandoverEvent} (h : s.SocketsKept) (he : s.step e = some s') :
    s'.SocketsKept := by
  cases step_stepped h.table he with
  | quiet hq => exact h.quiet hq
  | connected _ hc => exact h.connects hc
  | answered ha => exact h.answered ha
  | @requested i pruneNow now ref path daemon t _ _ hq _ heq =>
    have ht := h.quiet hq
    rw [heq, recordRequest]
    split
    · exact ⟨ht.table, ht.held, ht.apart, ht.past, ht.once⟩
    · exact ht

theorem stageKept_init : ({} : HandoverState).StageKept :=
  ⟨systemMachine_tableConsistent.init {} systemMachine_init, fun _ _ => rfl, by simp, by simp,
    by simp [StagesAgree]⟩

theorem socketsKept_init : ({} : HandoverState).SocketsKept :=
  ⟨systemMachine_tableConsistent.init {} systemMachine_init, by simp, by simp, by simp,
    by simp [SocketsOnce]⟩

end HandoverState

/-- In every run no connection is handed over twice. In a run in which each second stage
begins with no TakeClient of the first under way, and each client comes back after the
first stage's daemon has left its object, the second stage goes to its requester. -/
theorem handover_stages_agree (es : List HandoverEvent) :
    handoverMachine.StatesMeet HandoverState.SocketsOnce {} es ∧
    (handoverMachine.StepsMeet HandoverState.Ordered {} es →
      handoverMachine.StatesMeet HandoverState.StagesAgree {} es) := by
  constructor
  · exact EventMachine.StepsMeet.statesMeet (fun _ h => h.once) (fun _ _ _ h _ he => h.step he)
      HandoverState.socketsKept_init es (EventMachine.stepsMeet_true _ es)
  · intro hordered
    exact hordered.statesMeet (fun _ h => h.agree) (fun _ _ _ h hstep he => h.step hstep he)
      HandoverState.stageKept_init es

/-- The client with the token 7 connects. -/
def connectSeven : HandoverEvent :=
  .connect { connection := 0, peek := some { routingToken := some ['7'] } }

/-- The greeter's daemon takes the client over, and the user session's daemon asks for
the second stage. -/
def toSecondStage : List HandoverEvent :=
  [.start true true, .launch, connectSeven, .requestHandover 0 0 0, .bindHandover 0 true,
    .startHandover 0 { tlsCredentials := some (.ok ([], [])), redirected := true } 0 true,
    connectSeven, .dispatch 0 false, .takeClient 0 (.ok ()) 0 0 {},
    .launch, .requestHandover 1 0 0, .bindHandover 1 true]

/-- The greeter's daemon redirects its client and leaves before the client comes back. -/
def redirectedRun : List HandoverEvent :=
  toSecondStage ++
    [.startHandover 1 { tlsCredentials := some (.ok ([], [])) } 0 true, .dispatch 0 true,
      connectSeven, .dispatch 1 false, .dispatch 1 false, .takeClient 1 (.ok ()) 0 0 {}]

theorem redirectedRun_stages_agree :
    handoverMachine.StatesMeet HandoverState.StagesAgree {} redirectedRun :=
  (handover_stages_agree redirectedRun).2 (by decide +kernel)

/-- The client drops its connection and comes back before the redirection. -/
def overtakenRun : List HandoverEvent :=
  toSecondStage ++ [connectSeven, .dispatch 0 false, .takeClient 0 (.ok ()) 0 0 {}]

theorem overtakenRun_isSome : (handoverMachine.run {} overtakenRun).isSome := by decide +kernel

/-- The greeter's daemon takes the second stage away from the user session. -/
theorem greeter_takes_second_stage :
    ∃ s, handoverMachine.Reachable s ∧ ⟨0, 2, some 1⟩ ∈ s.answers ∧ ¬ s.StagesAgree := by
  have hanswer : ⟨0, 2, some 1⟩ ∈ ((handoverMachine.run {} overtakenRun).get
      overtakenRun_isSome).answers := by
    decide +kernel
  refine ⟨_, EventMachine.reachable_run_get rfl _ overtakenRun_isSome, hanswer, ?_⟩
  intro hagree
  exact absurd (hagree _ hanswer 1 rfl) (by decide)

end RemoteDesktop.DRD
