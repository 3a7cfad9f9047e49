import RemoteDesktop.DRDListenerIncoming

/-! A connection that the delegate registers and the listener then turns away. -/
namespace RemoteDesktop.DRD

/-- What a rejected connection should leave as it was. -/
structure SystemDaemon.RegistryUnchanged (d d' : SystemDaemon) : Prop where
  remoteClients : d'.remoteClients = d.remoteClients
  pendingClients : d'.pendingClients = d.pendingClients
  handoverManager : d'.handoverManager = d.handoverManager

/-- A client of `d'` without a session that `d` did not have: tracked, the last of
the queue, and exported. -/
structure SystemDaemon.LeftBehind (d d' : SystemDaemon) (now : ℤ) (ref : ClientRef)
    (client : RemoteClient) : Prop where
  live : d'.clients ref = some client
  noSession : client.session = none
  unassigned : client.assigned = false
  untracked : d.remoteClients client.id = none
  tracked : d'.remoteClients client.id = some ref
  notQueued : ref ∉ d.pendingClients
  queued : d'.pendingClients = d.freshPending now ++ [ref]
  exported : ∀ objects, d.handoverManager = some objects → objects client.id = none ∧
    ∃ objects', d'.handoverManager = some objects' ∧ objects' client.id = some ref

theorem SystemDaemon.LeftBehind.not_unchanged {d d' : SystemDaemon} {now : ℤ} {ref : ClientRef}
    {client : RemoteClient} (h : d.LeftBehind d' now ref client) : ¬ d.RegistryUnchanged d' := by
  intro hunchanged
  have htracked := h.tracked
  rw [hunchanged.remoteClients, h.untracked] at htracked
  simp at htracked

theorem SystemDaemon.LeftBehind.of_registered {d d' : SystemDaemon} {connection : Connection}
    {info : RoutingTokenInfo} {now : ℤ} {id token : CString} {value : UInt32}
    {client : RemoteClient} (hT : d.TableConsistent)
    (h : Registered d connection info now id token value client d' true) :
    d.LeftBehind d' now d.nextClient (client.touch now) := by
  have hT' := h.tableConsistent hT
  obtain ⟨hlive, hqueue, hexported⟩ := h.queued hT
  have huntracked : d.remoteClients client.id = none := by
    rw [h.client_eq]
    exact h.identified.untracked
  refine ⟨hlive, ?_, h.assigned, huntracked, hT'.client hlive, ?_, hqueue, ?_⟩
  · rw [h.client_eq]
    rfl
  · exact fun hin => lt_irrefl _ (hT.pending hin)
  · intro objects hobjects
    refine ⟨?_, hexported objects hobjects⟩
    -- an object at that path would be of a client that is tracked under the same id
    by_contra hobject
    obtain ⟨other, hother⟩ := Option.ne_none_iff_exists'.mp hobject
    have := hT.exported hobjects hother
    rw [show (client.touch now).id = client.id from rfl, huntracked] at this
    simp at this

namespace SystemState

/-- The delegate registered a client and returned FALSE, and the listener could not
build a session. -/
structure Rejects (s : SystemState) (env : IncomingEnv) : Prop where
  delegated : ∃ result, s.delegate env = some result ∧ result.handled = false
  rejected : (s.listener.handleConnection env.accept).2 = none

theorem Rejects.leftBehind {s s' : SystemState} {env : IncomingEnv} (h : s.Rejects env)
    (hT : s.daemon.TableConsistent) (he : s.incoming env = some s') :
    ∃ ref client, s.daemon.LeftBehind s'.daemon env.now ref client := by
  obtain ⟨result, hdelegate, hhandled⟩ := h.delegated
  rw [incoming, hdelegate, Option.bind_some] at he
  -- a delegate that answers FALSE has registered: a rebound connection is handled
  cases SystemDaemon.delegate_spec hT hdelegate with
  | unpeeked => simp at hhandled
  | rebound => simp at hhandled
  | @registered info id token value client d' registered hpeek hbusy hregistered =>
    have htrue : registered = true := by simpa using hhandled
    subst htrue
    have hdaemon : s'.daemon = d' := by
      rw [if_neg (by simp), accept] at he
      have hrejected := h.rejected
      split at he
      · rw [Option.some.injEq] at he
        rw [← he]
      · rename_i heq
        rw [heq] at hrejected
        simp at hrejected
    rw [hdaemon]
    exact ⟨_, _, SystemDaemon.LeftBehind.of_registered hT hregistered⟩

end SystemState

/-- No rejected connection leaves the registry as it was: the client that was
registered for it stays. -/
theorem rejected_connection_leaves_client {s s' : SystemState} (hs : systemMachine.Reachable s)
    (env : IncomingEnv) (hrejects : s.Rejects env)
    (he : systemMachine.step s (.incoming env) = some s') :
    ¬ s.daemon.RegistryUnchanged s'.daemon ∧
      ∃ ref client, s.daemon.LeftBehind s'.daemon env.now ref client := by
  have hT := systemMachine_tableConsistent.holds hs
  obtain ⟨ref, client, hleft⟩ := hrejects.leftBehind hT (SystemState.step_incoming he)
  exact ⟨hleft.not_unchanged, ref, client, hleft⟩

/-- A connection without a routing token, for which 9 is drawn. -/
def tokenlessConnection : IncomingEnv where
  connection := 2
  peek := some {}
  draws := [9]

/-- The daemon after its first connection, whose session is active. -/
def busySystem : Option SystemState := systemMachine.run {} [.start true true, tokenSeven 1 []]

theorem busySystem_rejects : (busySystem.get rfl).Rejects tokenlessConnection :=
  ⟨⟨_, rfl, rfl⟩, rfl⟩

theorem second_connection_leaves_client :
    ¬ (busySystem.get rfl).daemon.RegistryUnchanged
        (((busySystem.get rfl).incoming tokenlessConnection).get rfl).daemon ∧
      ∃ ref client, (busySystem.get rfl).daemon.LeftBehind
        (((busySystem.get rfl).incoming tokenlessConnection).get rfl).daemon 0 ref client :=
  rejected_connection_leaves_client
    (EventMachine.reachable_of_run systemMachine_init [.start true true, tokenSeven 1 []] rfl)
    tokenlessConnection busySystem_rejects rfl

/-- The second connection finds the first one's session active, and the client that
was registered for it is handed out without a session. -/
theorem rejected_client_handed_out :
    ∃ s s' env, systemMachine.Reachable s ∧ s.Rejects env ∧
      systemMachine.step s (.incoming env) = some s' ∧
      ¬ s.daemon.RegistryUnchanged s'.daemon ∧
      ∃ t daemon ref path client, systemMachine.run s' [.requestHandover 0 0] = some t ∧
        t.daemon.handleRequestHandover 0 0 = some (daemon, .ok (ref, path)) ∧
        daemon.clients ref = some client ∧ client.session = none := by
  refine ⟨busySystem.get rfl, _, tokenlessConnection,
    EventMachine.reachable_of_run systemMachine_init [.start true true, tokenSeven 1 []] rfl,
    busySystem_rejects, rfl, ?_, _, _, 1, handoversObjectPath ++ ['/', '9'], _, rfl, rfl, rfl, rfl⟩
  intro h
  exact absurd h.pendingClients (by decide)

end RemoteDesktop.DRD
