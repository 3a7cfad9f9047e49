import Mathlib.Logic.Function.Basic
import RemoteDesktop.DRDHandoverIdentity

/-! The handover registry of `drd_system_daemon.c`. Clients live on a heap. An
operation that reads a freed client has no result, since the source would read
freed memory there. -/
namespace RemoteDesktop.DRD

/-- A `DrdRemoteClient *`. Every registration allocates a new one. -/
abbrev ClientRef := ℕ

abbrev Connection := ℕ

abbrev SessionRef := ℕ

structure RoutingTokenInfo where
  requestedRdstls : Bool := false
  routingToken : Option CString := none
  deriving DecidableEq, Repr

structure RemoteClient where
  id : CString
  remoteId : UInt32
  routing : RoutingTokenInfo
  connection : Option Connection
  session : Option SessionRef := none
  assigned : Bool := false
  useSystemCredentials : Bool := false
  handoverCount : UInt32 := 0
  lastActivityUs : ℤ := 0
  clientWidth : UInt32 := 0
  clientHeight : UInt32 := 0
  deriving DecidableEq

/-- `handoverManager` holds the exported objects. `connectionClient` is the data
"drd-system-client" of the connections. `listener` and `busConnection` are true
when not NULL. -/
structure SystemDaemon where
  clients : ClientRef → Option RemoteClient := fun _ => none
  nextClient : ClientRef := 0
  remoteClients : CString → Option ClientRef := fun _ => none
  pendingClients : List ClientRef := []
  handoverManager : Option (CString → Option ClientRef) := none
  connectionClient : Connection → Option ClientRef := fun _ => none
  listener : Bool := false
  busConnection : Bool := false

def maxPendingClients : ℕ := 32

def clientStaleTimeoutUs : ℤ := 30 * 1000000

/-- `drd_system_daemon_touch_client`, with the clock it reads. -/
def RemoteClient.touch (client : RemoteClient) (now : ℤ) : RemoteClient :=
  { client with lastActivityUs := now }

def RemoteClient.stale (client : RemoteClient) (now : ℤ) : Bool :=
  !client.assigned && decide (0 < client.lastActivityUs) &&
    decide (clientStaleTimeoutUs ≤ now - client.lastActivityUs)

namespace SystemDaemon

variable (d : SystemDaemon)

def setClient (ref : ClientRef) (client : RemoteClient) : SystemDaemon :=
  { d with clients := Function.update d.clients ref (some client) }

def findClientByToken (token : CString) : Option ClientRef :=
  (parseRoutingToken token).bind fun value =>
    (getIdFromRoutingToken value).bind fun id => d.remoteClients id

def clearConnectionData : Option Connection → SystemDaemon
  | none => d
  | some connection =>
    { d with connectionClient := Function.update d.connectionClient connection none }

/-- `drd_remote_client_free`, the value destructor of the hash table. -/
def remoteClientFree (ref : ClientRef) : SystemDaemon :=
  match d.clients ref with
  | none => d
  | some client =>
    { d.clearConnectionData client.connection with clients := Function.update d.clients ref none }

/-- `g_hash_table_remove` on `remote_clients`. -/
def hashTableRemove (id : CString) : SystemDaemon :=
  match d.remoteClients id with
  | none => d
  | some ref =>
    { d with remoteClients := Function.update d.remoteClients id none }.remoteClientFree ref

/-- Only the first link that holds the client goes. -/
def unqueueClient (ref : ClientRef) : SystemDaemon :=
  { d with pendingClients := d.pendingClients.erase ref }

def unexport (id : CString) : SystemDaemon :=
  { d with handoverManager := d.handoverManager.map fun objects => Function.update objects id none }

def removeClient (ref : ClientRef) : Option SystemDaemon :=
  (d.clients ref).map fun client =>
    ((((d.unqueueClient ref).unexport client.id).clearConnectionData client.connection).setClient ref
      { client with session := none }).hashTableRemove client.id

/-- The visit of one link by the pruning loop. -/
def pruneLink (now : ℤ) (ref : ClientRef) : Option SystemDaemon :=
  (d.clients ref).bind fun client => if client.stale now then d.removeClient ref else some d

/-- The loop over the links. It reads the next link before it removes a client,
and a removal takes away no later link. -/
def pruneLinks (now : ℤ) : List ClientRef → SystemDaemon → Option SystemDaemon
  | [], d => some d
  | ref :: refs, d => (d.pruneLink now ref).bind (pruneLinks now refs)

def pruneStalePendingClients (now : ℤ) : Option SystemDaemon :=
  pruneLinks now d.pendingClients d

/-- The end of `queue_client`, after the pruning. -/
def pushPendingClient (ref : ClientRef) (now : ℤ) : Option (SystemDaemon × Bool) :=
  (d.clients ref).map fun client =>
    if maxPendingClients ≤ d.pendingClients.length then (d, false)
    else
      ({ d.setClient ref (client.touch now) with pendingClients := d.pendingClients ++ [ref] }, true)

def queueClient (ref : ClientRef) (now : ℤ) : Option (SystemDaemon × Bool) :=
  (d.clients ref).bind fun client =>
    if client.assigned then some (d, true)
    else (d.pruneStalePendingClients now).bind fun d => d.pushPendingClient ref now

/-- The pair of `register_client` and of `on_take_client`: a client that finds no
room in the queue is removed. -/
def queueOrRemoveClient (ref : ClientRef) (now : ℤ) : Option (SystemDaemon × Bool) :=
  (d.queueClient ref now).bind fun (d, queued) =>
    if queued then some (d, true) else (d.removeClient ref).map fun d => (d, false)

/-- The loop of `generate_remote_identity` over what `g_random_int` draws. It is
`none` while the loop has not ended. -/
def drawRemoteId : List UInt32 → Option CString
  | [] => none
  | value :: draws =>
    match getIdFromRoutingToken value with
    | none => drawRemoteId draws
    | some id => if (d.remoteClients id).isSome then drawRemoteId draws else some id

/-- The inner option is the boolean result with the two out parameters. -/
def generateRemoteIdentity (draws : List UInt32) : Option (Option (CString × CString)) :=
  (d.drawRemoteId draws).map fun id => (getRoutingTokenFromId id).map fun token => (id, token)

/-- `parsed_token_value`, 0 when nothing was parsed, with the path and the token
that the peeked token leads to. -/
def peekedIdentity : Option CString → UInt32 × Option (CString × CString)
  | none => (0, none)
  | some token =>
    match parseRoutingToken token with
    | none => (0, none)
    | some value =>
      -- the number stays parsed when its path is tracked and another one is drawn
      (value, (getIdFromRoutingToken value).bind fun id =>
        if (d.remoteClients id).isSome then none else some (id, token))

def registrationIdentity (info : RoutingTokenInfo) (draws : List UInt32) :
    Option (Option (CString × CString)) :=
  match (d.peekedIdentity info.routingToken).2 with
  | some identity => some (some identity)
  | none => d.generateRemoteIdentity draws

/-- The path is not tracked, so `g_hash_table_replace` replaces nothing. -/
def insertClient (client : RemoteClient) (connection : Connection) : SystemDaemon :=
  { d with
    clients := Function.update d.clients d.nextClient (some client)
    nextClient := d.nextClient + 1
    handoverManager := d.handoverManager.map fun objects =>
      Function.update objects client.id (some d.nextClient)
    connectionClient := Function.update d.connectionClient connection (some d.nextClient)
    remoteClients := Function.update d.remoteClients client.id (some d.nextClient) }

/-- The record that `register_client` fills in. A `parsed` other than 0 wins over
the token that the client got. -/
def newClient (connection : Connection) (info : RoutingTokenInfo) (parsed : UInt32)
    (id token : CString) : RemoteClient where
  id := id
  remoteId := if parsed ≠ 0 then parsed else (parseRoutingToken token).getD 0
  routing := { requestedRdstls := info.requestedRdstls, routingToken := some token }
  connection := some connection

def registerClient (connection : Connection) (info : RoutingTokenInfo) (draws : List UInt32)
    (now : ℤ) : Option (SystemDaemon × Bool) :=
  (d.registrationIdentity info draws).bind fun identity =>
    match identity with
    | none => some (d, false)
    | some (id, token) =>
      let parsed := (d.peekedIdentity info.routingToken).1
      (d.insertClient (newClient connection info parsed id token) connection).queueOrRemoveClient
        d.nextClient now

end SystemDaemon

/-- `handled` is the boolean result. -/
structure DelegateResult where
  daemon : SystemDaemon
  handled : Bool
  error : Bool := false
  takeClientReady : Option (ClientRef × Bool) := none

/-- What `drd_rdp_session` and the configuration answer in `on_session_ready`. -/
structure SessionReadyEnv where
  clientIsMstsc : Bool := false
  encodingOptions : Option (UInt32 × UInt32) := none
  peerResolution : Option (UInt32 × UInt32) := none

/-- The arguments of `CreateRemoteGreeterDisplay`, the first two of which also go
to `drd_server_runtime_set_encoding_options`. -/
structure DisplayRequest where
  width : UInt32
  height : UInt32
  clientId : UInt32
  deriving DecidableEq

/-- `tlsCredentials` is what `drd_tls_credentials_read_material` answers, NULL
without credentials, and `redirected` the result of
`drd_rdp_session_send_server_redirection`. -/
structure StartHandoverEnv where
  username : CString := []
  password : CString := []
  tlsCredentials : Option (Except String (CString × CString)) := none
  redirected : Bool := false

def loadTlsMaterial : Option (Except String (CString × CString)) →
    Except String (CString × CString)
  | none => .error "TLS credentials unavailable"
  | some material => material

inductive HandoverReply
  | error (message : String)
  | startHandover (certificate key : CString) (redirectClient : Option (CString × CString × CString))
  | takeClient
  deriving DecidableEq

namespace SystemDaemon

variable (d : SystemDaemon)

/-- The branch of `delegate` for a token that is tracked already. -/
def rebindClient (ref : ClientRef) (client : RemoteClient) (connection : Connection) (now : ℤ) :
    SystemDaemon :=
  { d.setClient ref { client.touch now with connection := some connection } with
    connectionClient := Function.update d.connectionClient connection (some ref) }

/-- The client that a peeked token leads to. The inner option is NULL. -/
def existingClient (info : RoutingTokenInfo) : Option (Option (ClientRef × RemoteClient)) :=
  match info.routingToken.bind d.findClientByToken with
  | none => some none
  | some ref => (d.clients ref).map fun client => some (ref, client)

def delegateRegister (connection : Connection) (info : RoutingTokenInfo) (draws : List UInt32)
    (now : ℤ) : Option DelegateResult :=
  (d.registerClient connection info draws now).map fun (d, registered) =>
    { daemon := d, handled := !registered }

/-- `peek` is NULL when `drd_routing_token_peek` fails. -/
def delegate (connection : Connection) (peek : Option RoutingTokenInfo) (draws : List UInt32)
    (now : ℤ) : Option DelegateResult :=
  match peek with
  -- an error ends the connection whatever the boolean result says
  | none => some { daemon := d, handled := true, error := true }
  | some info =>
    (d.existingClient info).bind fun existing =>
      match existing with
      | none => d.delegateRegister connection info draws now
      | some (ref, client) =>
        -- only a client that was redirected away is waited for
        if client.session = none then
          some
            { daemon := d.rebindClient ref client connection now
              handled := true
              takeClientReady := some (ref, client.useSystemCredentials) }
        else d.delegateRegister connection info draws now

/-- The client's fields after `on_session_ready`, with the call it makes. -/
def sessionReadyClient (client : RemoteClient) (session : SessionRef) (env : SessionReadyEnv)
    (now : ℤ) : RemoteClient × Option DisplayRequest :=
  let client :=
    { client with
      session := some session
      useSystemCredentials := env.clientIsMstsc && !client.routing.requestedRdstls }
  if client.remoteId = 0 then (client.touch now, none)
  else
    match env.encodingOptions with
    -- this return is before the touch
    | none => (client, none)
    | some (width, height) =>
      match env.peerResolution with
      | none => (client.touch now, some ⟨width, height, client.remoteId⟩)
      | some (clientWidth, clientHeight) =>
        if 0 < clientWidth ∧ 0 < clientHeight then
          ({ client.touch now with clientWidth := clientWidth, clientHeight := clientHeight },
            some ⟨clientWidth, clientHeight, client.remoteId⟩)
        else (client.touch now, some ⟨width, height, client.remoteId⟩)

def onSessionReady (connection : Connection) (session : SessionRef) (env : SessionReadyEnv)
    (now : ℤ) : Option (SystemDaemon × Option DisplayRequest) :=
  match d.connectionClient connection with
  | none => some (d, none)
  | some ref =>
    (d.clients ref).map fun client =>
      let (client, request) := sessionReadyClient client session env now
      (d.setClient ref client, request)

/-- The client that is handed out, with the path that the caller gets. -/
def handleRequestHandover (pruneNow now : ℤ) :
    Option (SystemDaemon × Except String (ClientRef × CString)) :=
  (d.pruneStalePendingClients pruneNow).bind fun d =>
    match d.pendingClients with
    | [] => some (d, .error "No pending RDP handover requests")
    | ref :: refs =>
      (d.clients ref).map fun client =>
        ({ d.setClient ref { client.touch now with assigned := true } with
            pendingClients := refs }, .ok (ref, client.id))

/-- The client's fields after `on_start_handover`, with the reply. -/
def startHandoverClient (client : RemoteClient) (env : StartHandoverEnv) (now : ℤ) :
    RemoteClient × HandoverReply :=
  let client := client.touch now
  match loadTlsMaterial env.tlsCredentials with
  | .error message => (client, .error message)
  | .ok (certificate, key) =>
    if client.session ≠ none then
      -- a session in this process redirects its client, the other one is left to the caller
      if env.redirected then
        ({ client with session := none, connection := none, assigned := true },
          .startHandover certificate key none)
      else (client, .error "Failed to redirect client session")
    else
      (client, .startHandover certificate key
        (client.routing.routingToken.map fun token => (token, env.username, env.password)))

def onStartHandover (ref : ClientRef) (env : StartHandoverEnv) (now : ℤ) :
    Option (SystemDaemon × HandoverReply) :=
  (d.clients ref).map fun client =>
    let (client, reply) := startHandoverClient client env now
    (d.setClient ref client, reply)

/-- The client's fields once its socket was handed over. -/
def takenClient (client : RemoteClient) (now : ℤ) : RemoteClient :=
  { client.touch now with
    connection := none, session := none, handoverCount := client.handoverCount + 1 }

/-- `fdAppend` is the result of `g_unix_fd_list_append`. -/
def onTakeClient (ref : ClientRef) (fdAppend : Except String Unit) (now queueNow : ℤ) :
    Option (SystemDaemon × HandoverReply) :=
  (d.clients ref).bind fun client =>
    if client.connection = none then
      some (d.setClient ref (client.touch now), .error "Socket unavailable for client")
    else
      match fdAppend with
      | .error message => some (d.setClient ref (client.touch now), .error message)
      | .ok () =>
        let client := takenClient client now
        -- the second hand-over leaves the client tracked and out of the queue
        if 2 ≤ client.handoverCount then some (d.setClient ref client, .takeClient)
        else
          ((d.setClient ref { client with assigned := false }).queueOrRemoveClient ref queueNow).map
            fun (d, _) => (d, .takeClient)

def resetBusContext : SystemDaemon :=
  { d with handoverManager := none, busConnection := false }

def stopListener : SystemDaemon :=
  { d with listener := false }

/-- `g_hash_table_remove_all`: each client takes its connection's data along. -/
def hashTableRemoveAll : SystemDaemon :=
  { d with
    clients := fun _ => none
    remoteClients := fun _ => none
    connectionClient := fun connection =>
      (d.connectionClient connection).filter fun ref =>
        ((d.clients ref).bind RemoteClient.connection) ≠ some connection }

def stop : SystemDaemon :=
  { d.resetBusContext.stopListener.hashTableRemoveAll with pendingClients := [] }

/-- The arguments are the results of `start_listener` and of `start_bus`, which
matter where these are called. -/
def start (listenerOk busOk : Bool) : SystemDaemon :=
  if d.listener || listenerOk then
    let d := { d with listener := true }
    if d.busConnection then d
    else if busOk then { d with handoverManager := some fun _ => none, busConnection := true }
    else d.stopListener.resetBusContext
  else d

end SystemDaemon
end RemoteDesktop.DRD
