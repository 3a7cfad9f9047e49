import RemoteDesktop.EventMachine
import RemoteDesktop.DRDHandoverTable

/-! The incoming connections of `drd_rdp_listener.c` in system mode, and the
machine that the listener and the system daemon make together. All of it runs on
the main loop, so each callback is one step. -/
namespace RemoteDesktop.DRD

/-- What the calls of `drd_rdp_listener_handle_connection` answer, in their order. -/
structure AcceptEnv where
  peerFromConnection : Bool := true
  contextNew : Bool := true
  configureSettings : Bool := true
  peerInitialize : Bool := true
  contextSession : Bool := true
  openServer : Bool := true
  startEventThread : Bool := true
  session : SessionRef := 0

structure RdpListener where
  sessions : List SessionRef := []
  deriving DecidableEq

namespace RdpListener

variable (l : RdpListener)

def hasActiveSession : Bool := decide (0 < l.sessions.length)

def sessionClosed (session : SessionRef) : RdpListener :=
  { l with sessions := l.sessions.erase session }

def acceptPeer (env : AcceptEnv) : RdpListener × Bool :=
  if !env.contextNew then (l, false)
  -- the listener serves one session, and the delegate has run before this test
  else if l.hasActiveSession then (l, false)
  else if !env.configureSettings then (l, false)
  else if !env.peerInitialize then (l, false)
  else if !env.contextSession then (l, false)
  else if !env.openServer then (l, false)
  else if !env.startEventThread then (l, false)
  else ({ l with sessions := l.sessions ++ [env.session] }, true)

/-- The session is the one that the session callback gets. It is NULL where the
source returns FALSE. -/
def handleConnection (env : AcceptEnv) : RdpListener × Option SessionRef :=
  if !env.peerFromConnection then (l, none)
  else
    let (l, accepted) := l.acceptPeer env
    (l, if accepted then some env.session else none)

end RdpListener

structure IncomingEnv where
  connection : Connection
  peek : Option RoutingTokenInfo := none
  draws : List UInt32 := []
  now : ℤ := 0
  accept : AcceptEnv := {}
  ready : SessionReadyEnv := {}
  readyNow : ℤ := 0

structure SystemState where
  daemon : SystemDaemon := {}
  listener : RdpListener := {}

inductive SystemEvent
  | start (listenerOk busOk : Bool)
  | stop
  | incoming (env : IncomingEnv)
  | sessionReady (connection : Connection) (session : SessionRef) (env : SessionReadyEnv) (now : ℤ)
  | sessionClosed (session : SessionRef)
  | requestHandover (pruneNow now : ℤ)
  | startHandover (path : CString) (env : StartHandoverEnv) (now : ℤ)
  | takeClient (path : CString) (fdAppend : Except String Unit) (now queueNow : ℤ)

namespace SystemState

variable (s : SystemState)

def delegate (env : IncomingEnv) : Option DelegateResult :=
  s.daemon.delegate env.connection env.peek env.draws env.now

/-- The delegate did not handle the connection: the listener goes on with it. -/
def accept (delegated : DelegateResult) (env : IncomingEnv) : Option SystemState :=
  match s.listener.handleConnection env.accept with
  | (listener, none) => some { daemon := delegated.daemon, listener := listener }
  | (listener, some session) =>
    (delegated.daemon.onSessionReady env.connection session env.ready env.readyNow).map
      fun (daemon, _) => { daemon := daemon, listener := listener }

def incoming (env : IncomingEnv) : Option SystemState :=
  (s.delegate env).bind fun delegated =>
    if delegated.handled || delegated.error then some { s with daemon := delegated.daemon }
    else s.accept delegated env

/-- The handover object that a D-Bus call on a path reaches. -/
def handoverObject (path : CString) : Option ClientRef :=
  s.daemon.handoverManager.bind fun objects => objects path

/-- A new `RdpListener` comes with each `start_listener`. -/
def step : SystemEvent → Option SystemState
  | .start listenerOk busOk =>
    let daemon := s.daemon.start listenerOk busOk
    some
      { daemon := daemon
        listener := if s.daemon.listener && daemon.listener then s.listener else {} }
  | .stop => some { daemon := s.daemon.stop, listener := {} }
  | .incoming env => if s.daemon.listener then s.incoming env else none
  | .sessionReady connection session env now =>
    (s.daemon.onSessionReady connection session env now).map
      fun (daemon, _) => { s with daemon := daemon }
  | .sessionClosed session => some { s with listener := s.listener.sessionClosed session }
  | .requestHandover pruneNow now =>
    if s.daemon.busConnection then
      (s.daemon.handleRequestHandover pruneNow now).map fun (daemon, _) => { s with daemon := daemon }
    else none
  | .startHandover path env now =>
    (s.handoverObject path).bind fun ref =>
      (s.daemon.onStartHandover ref env now).map fun (daemon, _) => { s with daemon := daemon }
  | .takeClient path fdAppend now queueNow =>
    (s.handoverObject path).bind fun ref =>
      (s.daemon.onTakeClient ref fdAppend now queueNow).map
        fun (daemon, _) => { s with daemon := daemon }

end SystemState

def systemMachine : EventMachine SystemState SystemEvent where
  init s := s = {}
  step := SystemState.step

namespace SystemDaemon

variable {d d' : SystemDaemon} {ref : ClientRef} {client : RemoteClient} {now : ℤ}

/-- The client that the peeked token leads to has a session. -/
def tokenBusy (d : SystemDaemon) (info : RoutingTokenInfo) : Bool :=
  ((info.routingToken.bind d.findClientByToken).bind d.clients).any fun client =>
    client.session.isSome

/-- The exits of the delegate. -/
inductive Delegated (d : SystemDaemon) (env : IncomingEnv) : DelegateResult → Prop
  | unpeeked (hpeek : env.peek = none) : Delegated d env { daemon := d, handled := true, error := true }
  | rebound {info : RoutingTokenInfo} {ref : ClientRef} {client : RemoteClient}
      (hpeek : env.peek = some info)
      (htoken : info.routingToken.bind d.findClientByToken = some ref)
      (hlive : d.clients ref = some client) (hsession : client.session = none) :
      Delegated d env
        { daemon := d.rebindClient ref client env.connection env.now
          handled := true
          takeClientReady := some (ref, client.useSystemCredentials) }
  | registered {info : RoutingTokenInfo} {id token : CString} {value : UInt32}
      {client : RemoteClient} {d' : SystemDaemon} {registered : Bool}
      (hpeek : env.peek = some info)
      (hbusy : d.tokenTracked info = true → d.tokenBusy info = true)
      (hregistered : Registered d env.connection info env.now id token value client d'
        registered) : Delegated d env { daemon := d', handled := !registered }

theorem delegateRegister_spec {env : IncomingEnv} {info : RoutingTokenInfo} {result : DelegateResult}
    (hT : d.TableConsistent) (hpeek : env.peek = some info)
    (hbusy : d.tokenTracked info = true → d.tokenBusy info = true)
    (h : d.delegateRegister env.connection info env.draws env.now = some result) :
    Delegated d env result := by
  obtain ⟨⟨d', registered⟩, hregister, rfl⟩ := Option.map_eq_some_iff.mp h
  obtain ⟨id, token, value, client, hregistered⟩ := registerClient_spec hT hregister
  exact .registered hpeek hbusy hregistered

theorem delegate_spec {env : IncomingEnv} {result : DelegateResult} (hT : d.TableConsistent)
    (h : d.delegate env.connection env.peek env.draws env.now = some result) :
    Delegated d env result := by
  cases hpeek : env.peek with
  -- nothing could be peeked: the connection is dropped
  | none =>
    simp only [delegate, hpeek, Option.some.injEq] at h
    exact h ▸ .unpeeked hpeek
  | some info =>
    simp only [delegate, hpeek] at h
    obtain ⟨existing, hexisting, hrest⟩ := Option.bind_eq_some_iff.mp h
    cases htoken : info.routingToken.bind d.findClientByToken with
    | none =>
      simp only [existingClient, htoken, Option.some.injEq] at hexisting
      subst hexisting
      exact delegateRegister_spec hT hpeek (by simp [tokenTracked, htoken]) hrest
    | some ref =>
      simp only [existingClient, htoken] at hexisting
      -- the client is known; a session decides whether it is rebound
      obtain ⟨client, hclient, rfl⟩ := Option.map_eq_some_iff.mp hexisting
      dsimp only at hrest
      split at hrest
      · rename_i hsession
        rw [Option.some.injEq] at hrest
        exact hrest ▸ .rebound hpeek htoken hclient hsession
      · rename_i hsession
        refine delegateRegister_spec hT hpeek (fun _ => ?_) hrest
        simpa [tokenBusy, htoken, hclient, Option.isSome_iff_ne_none] using hsession

/-- A step of the daemon that registers no client. -/
structure Evolves (d d' : SystemDaemon) : Prop where
  table : d'.TableConsistent
  identities : d.KeepsIdentities d'

theorem Evolves.setClient (hT : d.TableConsistent) (hclient : d.clients ref = some client)
    (client' : RemoteClient) (hid : client'.id = client.id)
    (hremote : client'.remoteId = client.remoteId) (hrouting : client'.routing = client.routing) :
    d.Evolves (d.setClient ref client') :=
  ⟨hT.setClient hclient client' hid, .setClient hclient hid hremote hrouting⟩

theorem rebindClient_evolves (hT : d.TableConsistent) (hclient : d.clients ref = some client)
    (connection : Connection) : d.Evolves (d.rebindClient ref client connection now) := by
  have hset := Evolves.setClient hT hclient
    { client.touch now with connection := some connection } rfl rfl rfl
  exact ⟨⟨hset.table.entry, hset.table.client, hset.table.allocated, hset.table.pending,
    hset.table.exported⟩, hset.identities⟩

theorem sessionReadyClient_identity (client : RemoteClient) (session : SessionRef)
    (env : SessionReadyEnv) (now : ℤ) :
    (sessionReadyClient client session env now).1.id = client.id ∧
      (sessionReadyClient client session env now).1.remoteId = client.remoteId ∧
      (sessionReadyClient client session env now).1.routing = client.routing ∧
      (sessionReadyClient client session env now).1.assigned = client.assigned := by
  simp only [sessionReadyClient]
  repeat' split
  all_goals simp [RemoteClient.touch]

/-- The callback writes to the client that the connection's data names, if any. -/
theorem onSessionReady_spec {connection : Connection} {session : SessionRef} {env : SessionReadyEnv}
    {request : Option DisplayRequest}
    (h : d.onSessionReady connection session env now = some (d', request)) :
    d' = d ∨ ∃ ref client, d.clients ref = some client ∧
      d' = d.setClient ref (sessionReadyClient client session env now).1 := by
  rw [onSessionReady] at h
  split at h
  · rw [Option.some.injEq, Prod.mk.injEq] at h
    exact .inl h.1.symm
  · obtain ⟨client, hclient, heq⟩ := Option.map_eq_some_iff.mp h
    rw [Prod.mk.injEq] at heq
    exact .inr ⟨_, client, hclient, heq.1.symm⟩

theorem onSessionReady_evolves {connection : Connection} {session : SessionRef}
    {env : SessionReadyEnv} {request : Option DisplayRequest} (hT : d.TableConsistent)
    (h : d.onSessionReady connection session env now = some (d', request)) : d.Evolves d' := by
  rcases onSessionReady_spec h with rfl | ⟨ref, client, hclient, rfl⟩
  · exact ⟨hT, .refl d'⟩
  · obtain ⟨hid, hremote, hrouting, _⟩ := sessionReadyClient_identity client session env now
    exact .setClient hT hclient _ hid hremote hrouting

/-- The reply of RequestHandover and what it leaves, after the pruning. -/
theorem handleRequestHandover_spec {pruneNow : ℤ} {reply : Except String (ClientRef × CString)}
    (hT : d.TableConsistent) (h : d.handleRequestHandover pruneNow now = some (d', reply)) :
    ∃ d₁, Pruned d pruneNow d.pendingClients d₁ ∧ d₁.pendingClients = d.freshPending pruneNow ∧
      ((d₁.pendingClients = [] ∧ d' = d₁ ∧ reply = .error "No pending RDP handover requests") ∨
        ∃ ref refs client, d₁.pendingClients = ref :: refs ∧ d₁.clients ref = some client ∧
          d' = { d₁.setClient ref { client.touch now with assigned := true } with
            pendingClients := refs } ∧ reply = .ok (ref, client.id)) := by
  obtain ⟨d₁, hprune, hrest⟩ := Option.bind_eq_some_iff.mp h
  refine ⟨d₁, pruneStalePendingClients_spec hT hprune,
    pruneStalePendingClients_pendingClients hT hprune, ?_⟩
  split at hrest
  · rename_i hnil
    rw [Option.some.injEq, Prod.mk.injEq] at hrest
    exact .inl ⟨hnil, hrest.1.symm, hrest.2.symm⟩
  · rename_i ref refs hcons
    obtain ⟨client, hclient, heq⟩ := Option.map_eq_some_iff.mp hrest
    rw [Prod.mk.injEq] at heq
    exact .inr ⟨ref, refs, client, hcons, hclient, heq.1.symm, heq.2.symm⟩

theorem handleRequestHandover_evolves {pruneNow : ℤ}
    {reply : Except String (ClientRef × CString)} (hT : d.TableConsistent)
    (h : d.handleRequestHandover pruneNow now = some (d', reply)) : d.Evolves d' := by
  obtain ⟨d₁, hpruned, hqueue, ⟨_, rfl, _⟩ | ⟨ref, refs, client, hcons, hclient, rfl, _⟩⟩ :=
    handleRequestHandover_spec hT h
  · exact ⟨hpruned.table, hpruned.keepsIdentities⟩
  · have hset := Evolves.setClient hpruned.table hclient
      { client.touch now with assigned := true } rfl rfl rfl
    refine ⟨⟨hset.table.entry, hset.table.client, hset.table.allocated, fun {r} hr => ?_,
      hset.table.exported⟩, hpruned.keepsIdentities.trans hset.identities⟩
    have hin : r ∈ d₁.pendingClients := by
      rw [hcons]
      exact List.mem_cons_of_mem _ hr
    exact hset.table.pending hin

theorem startHandoverClient_identity (client : RemoteClient) (env : StartHandoverEnv) (now : ℤ) :
    (startHandoverClient client env now).1.id = client.id ∧
      (startHandoverClient client env now).1.remoteId = client.remoteId ∧
      (startHandoverClient client env now).1.routing = client.routing := by
  simp only [startHandoverClient]
  repeat' split
  all_goals simp [RemoteClient.touch]

theorem onStartHandover_spec {env : StartHandoverEnv} {reply : HandoverReply}
    (h : d.onStartHandover ref env now = some (d', reply)) :
    ∃ client, d.clients ref = some client ∧
      d' = d.setClient ref (startHandoverClient client env now).1 := by
  obtain ⟨client, hclient, heq⟩ := Option.map_eq_some_iff.mp h
  rw [Prod.mk.injEq] at heq
  exact ⟨client, hclient, heq.1.symm⟩

theorem onStartHandover_evolves {env : StartHandoverEnv} {reply : HandoverReply}
    (hT : d.TableConsistent) (h : d.onStartHandover ref env now = some (d', reply)) :
    d.Evolves d' := by
  obtain ⟨client, hclient, rfl⟩ := onStartHandover_spec h
  obtain ⟨hid, hremote, hrouting⟩ := startHandoverClient_identity client env now
  exact .setClient hT hclient _ hid hremote hrouting

/-- The client that TakeClient puts back into the queue. -/
def requeuedClient (client : RemoteClient) (now : ℤ) : RemoteClient :=
  { takenClient client now with assigned := false }

/-- TakeClient goes on with a socket it can hand over. -/
def takesClient (client : RemoteClient) (fdAppend : Except String Unit) : Bool :=
  client.connection.isSome && fdAppend.isOk

/-- The ends of TakeClient: an error, the last stage, or a client for the queue. -/
theorem onTakeClient_spec {fdAppend : Except String Unit} {queueNow : ℤ} {reply : HandoverReply}
    (hT : d.TableConsistent) (h : d.onTakeClient ref fdAppend now queueNow = some (d', reply)) :
    ∃ client, d.clients ref = some client ∧
      ((takesClient client fdAppend = false ∧ d' = d.setClient ref (client.touch now)) ∨
        (takesClient client fdAppend = true ∧ 2 ≤ client.handoverCount + 1 ∧
          d' = d.setClient ref (takenClient client now)) ∨
        (takesClient client fdAppend = true ∧ ¬ 2 ≤ client.handoverCount + 1 ∧ ∃ queued,
          QueuedOrRemoved (d.setClient ref (requeuedClient client now)) ref
            (requeuedClient client now) queueNow d' queued)) := by
  obtain ⟨client, hclient, hrest⟩ := Option.bind_eq_some_iff.mp h
  refine ⟨client, hclient, ?_⟩
  split at hrest
  · -- no connection to hand over
    rename_i hnone
    rw [Option.some.injEq, Prod.mk.injEq] at hrest
    exact .inl ⟨by simp [takesClient, hnone], hrest.1.symm⟩
  · rename_i hsome
    have hconnection : client.connection.isSome = true := by
      rwa [Option.isSome_iff_ne_none]
    split at hrest
    · rw [Option.some.injEq, Prod.mk.injEq] at hrest
      exact .inl ⟨by simp [takesClient, Except.isOk, Except.toBool], hrest.1.symm⟩
    · -- the socket is in the reply, and the count says which stage it was
      have htakes : takesClient client (.ok ()) = true := by
        simp [takesClient, hconnection, Except.isOk, Except.toBool]
      dsimp only at hrest
      split at hrest
      · rename_i hcount
        rw [Option.some.injEq, Prod.mk.injEq] at hrest
        exact .inr (.inl ⟨htakes, hcount, hrest.1.symm⟩)
      · rename_i hcount
        obtain ⟨⟨d₁, queued⟩, hqueue, heq⟩ := Option.map_eq_some_iff.mp hrest
        rw [Prod.mk.injEq] at heq
        obtain ⟨rfl, _⟩ := heq
        refine .inr (.inr ⟨htakes, hcount, queued, ?_⟩)
        exact queueOrRemoveClient_spec (hT.setClient hclient _ rfl) setClient_self hqueue

theorem onTakeClient_evolves {fdAppend : Except String Unit} {queueNow : ℤ} {reply : HandoverReply}
    (hT : d.TableConsistent) (h : d.onTakeClient ref fdAppend now queueNow = some (d', reply)) :
    d.Evolves d' := by
  obtain ⟨client, hclient, ⟨_, rfl⟩ | ⟨_, _, rfl⟩ | ⟨_, _, queued, hqueue⟩⟩ := onTakeClient_spec hT h
  · exact .setClient hT hclient _ rfl rfl rfl
  · exact .setClient hT hclient _ rfl rfl rfl
  · have hset := Evolves.setClient hT hclient (requeuedClient client now) rfl rfl rfl
    exact ⟨hqueue.tableConsistent hset.table, hset.identities.trans hqueue.keepsIdentities⟩

theorem stop_evolves : d.Evolves d.stop where
  table :=
    { entry := by simp [stop, hashTableRemoveAll]
      client := by simp [stop, hashTableRemoveAll]
      allocated := by simp [stop, hashTableRemoveAll]
      pending := by simp [stop]
      exported := by simp [stop, hashTableRemoveAll, stopListener, resetBusContext] }
  identities := by
    intro ref client' h
    simp [stop, hashTableRemoveAll] at h

/-- Starting touches the flags and the exported objects only. -/
theorem start_eq (listenerOk busOk : Bool) : ∃ listener busConnection manager,
    d.start listenerOk busOk = { d with
      listener := listener, busConnection := busConnection, handoverManager := manager } ∧
    (manager = d.handoverManager ∨ manager = none ∨ manager = some fun _ => none) := by
  simp only [start, stopListener, resetBusContext]
  repeat' split
  · exact ⟨true, d.busConnection, d.handoverManager, rfl, .inl rfl⟩
  · exact ⟨true, true, some fun _ => none, rfl, .inr (.inr rfl)⟩
  · exact ⟨false, false, none, rfl, .inr (.inl rfl)⟩
  · exact ⟨d.listener, d.busConnection, d.handoverManager, rfl, .inl rfl⟩

theorem start_evolves (hT : d.TableConsistent) (listenerOk busOk : Bool) :
    d.Evolves (d.start listenerOk busOk) := by
  obtain ⟨listener, busConnection, manager, heq, hmanager⟩ := d.start_eq listenerOk busOk
  rw [heq]
  refine ⟨⟨hT.entry, hT.client, hT.allocated, hT.pending, ?_⟩, fun _ client' h =>
    ⟨client', h, rfl, rfl, rfl⟩⟩
  intro objects path ref hobjects hpath
  rcases hmanager with hsame | hnone | hempty
  · exact hT.exported (hsame ▸ hobjects) hpath
  · simp [hnone] at hobjects
  · rw [hempty, Option.some.injEq] at hobjects
    simp [← hobjects] at hpath

theorem Delegated.tableConsistent {env : IncomingEnv} {result : DelegateResult}
    (hT : d.TableConsistent) (h : Delegated d env result) : result.daemon.TableConsistent := by
  cases h with
  | unpeeked => exact hT
  | rebound hpeek htoken hlive hsession => exact (rebindClient_evolves hT hlive _).table
  | registered hpeek hbusy hregistered => exact hregistered.tableConsistent hT

end SystemDaemon

namespace SystemState

variable {s s' : SystemState}

/-- An accepted connection is delegated, and then maybe its session gets ready. -/
theorem incoming_spec {env : IncomingEnv} (hT : s.daemon.TableConsistent)
    (h : s.incoming env = some s') :
    ∃ result, s.delegate env = some result ∧ s.daemon.Delegated env result ∧
      (s'.daemon = result.daemon ∨ ∃ session request,
        result.daemon.onSessionReady env.connection session env.ready env.readyNow =
          some (s'.daemon, request)) := by
  obtain ⟨result, hdelegate, hrest⟩ := Option.bind_eq_some_iff.mp h
  refine ⟨result, hdelegate, SystemDaemon.delegate_spec hT hdelegate, ?_⟩
  split at hrest
  · rw [Option.some.injEq] at hrest
    exact .inl (by rw [← hrest])
  · rw [accept] at hrest
    split at hrest
    · rw [Option.some.injEq] at hrest
      exact .inl (by rw [← hrest])
    · rename_i session _
      obtain ⟨⟨daemon, request⟩, hready, heq⟩ := Option.map_eq_some_iff.mp hrest
      exact .inr ⟨session, request, by rw [← heq]; exact hready⟩

theorem step_incoming {env : IncomingEnv} (h : s.step (.incoming env) = some s') :
    s.incoming env = some s' := by
  rw [step] at h
  split at h
  · exact h
  · simp at h

theorem step_requestHandover {pruneNow now : ℤ}
    (h : s.step (.requestHandover pruneNow now) = some s') :
    ∃ daemon reply, s.daemon.handleRequestHandover pruneNow now = some (daemon, reply) ∧
      s' = { s with daemon := daemon } := by
  rw [step] at h
  split at h
  · obtain ⟨⟨daemon, reply⟩, hrequest, rfl⟩ := Option.map_eq_some_iff.mp h
    exact ⟨daemon, reply, hrequest, rfl⟩
  · simp at h

theorem step_startHandover {path : CString} {env : StartHandoverEnv} {now : ℤ}
    (h : s.step (.startHandover path env now) = some s') :
    ∃ ref daemon reply, s.handoverObject path = some ref ∧
      s.daemon.onStartHandover ref env now = some (daemon, reply) ∧
      s' = { s with daemon := daemon } := by
  obtain ⟨ref, hobject, hrest⟩ := Option.bind_eq_some_iff.mp h
  obtain ⟨⟨daemon, reply⟩, hstart, rfl⟩ := Option.map_eq_some_iff.mp hrest
  exact ⟨ref, daemon, reply, hobject, hstart, rfl⟩

theorem step_takeClient {path : CString} {fdAppend : Except String Unit} {now queueNow : ℤ}
    (h : s.step (.takeClient path fdAppend now queueNow) = some s') :
    ∃ ref daemon reply, s.handoverObject path = some ref ∧
      s.daemon.onTakeClient ref fdAppend now queueNow = some (daemon, reply) ∧
      s' = { s with daemon := daemon } := by
  obtain ⟨ref, hobject, hrest⟩ := Option.bind_eq_some_iff.mp h
  obtain ⟨⟨daemon, reply⟩, htake, rfl⟩ := Option.map_eq_some_iff.mp hrest
  exact ⟨ref, daemon, reply, hobject, htake, rfl⟩

/-- What any step but an incoming connection does to the daemon. -/
theorem step_evolves {e : SystemEvent} (hT : s.daemon.TableConsistent)
    (hne : ∀ env, e ≠ .incoming env) (h : s.step e = some s') : s.daemon.Evolves s'.daemon := by
  cases e with
  | start listenerOk busOk =>
    rw [step, Option.some.injEq] at h
    rw [← h]
    exact SystemDaemon.start_evolves hT listenerOk busOk
  | stop =>
    rw [step, Option.some.injEq] at h
    rw [← h]
    exact SystemDaemon.stop_evolves
  | incoming env => exact absurd rfl (hne env)
  | sessionReady connection session env now =>
    obtain ⟨⟨daemon, request⟩, hready, rfl⟩ := Option.map_eq_some_iff.mp h
    exact SystemDaemon.onSessionReady_evolves hT hready
  | sessionClosed session =>
    rw [step, Option.some.injEq] at h
    rw [← h]
    exact ⟨hT, .refl _⟩
  | requestHandover pruneNow now =>
    obtain ⟨daemon, reply, hrequest, rfl⟩ := step_requestHandover h
    exact SystemDaemon.handleRequestHandover_evolves hT hrequest
  | startHandover path env now =>
    obtain ⟨ref, daemon, reply, _, hstart, rfl⟩ := step_startHandover h
    exact SystemDaemon.onStartHandover_evolves hT hstart
  | takeClient path fdAppend now queueNow =>
    obtain ⟨ref, daemon, reply, _, htake, rfl⟩ := step_takeClient h
    exact SystemDaemon.onTakeClient_evolves hT htake

/-- The table stays consistent, whatever is called in whatever order. -/
theorem step_tableConsistent {e : SystemEvent} (hT : s.daemon.TableConsistent)
    (h : s.step e = some s') : s'.daemon.TableConsistent := by
  by_cases hincoming : ∃ env, e = .incoming env
  · obtain ⟨env, rfl⟩ := hincoming
    obtain ⟨result, _, hdelegated, hdaemon | ⟨session, request, hready⟩⟩ :=
      incoming_spec hT (step_incoming h)
    · exact hdaemon ▸ hdelegated.tableConsistent hT
    · exact (SystemDaemon.onSessionReady_evolves (hdelegated.tableConsistent hT) hready).table
  · exact (step_evolves hT (fun env heq => hincoming ⟨env, heq⟩) h).table

end SystemState

theorem systemMachine_init : systemMachine.init {} := rfl

theorem systemMachine_tableConsistent :
    systemMachine.Inductive (fun _ _ => True) fun s => s.daemon.TableConsistent where
  init := by
    intro s hs
    rw [show s = {} from hs]
    exact ⟨by simp, by simp, by simp, by simp, by simp⟩
  step := fun _ _ _ hT _ he => SystemState.step_tableConsistent hT he

/-- A connection with the routing token 7. -/
def tokenSeven (connection : Connection) (draws : List UInt32) : SystemEvent :=
  .incoming { connection := connection, peek := some { routingToken := some ['7'] }, draws := draws }

/-- Where its client is exported when the token is free. -/
def tokenSevenPath : CString := handoversObjectPath ++ ['/', '7']

end RemoteDesktop.DRD
