import RemoteDesktop.DRDPendingQueue

/-! The two hand-over stages of a client: what keeps it in the registry between
them, and what is left of it after the second. -/
namespace RemoteDesktop.DRD
namespace SystemDaemon

variable {d d' : SystemDaemon} {ref other : ClientRef} {client : RemoteClient} {now : ℤ}

/-- The pruning drops this client. -/
def expired (d : SystemDaemon) (now : ℤ) (ref : ClientRef) : Bool :=
  decide (ref ∈ d.pendingClients) && d.staleAt now ref

theorem Pruned.clients_of_expired (h : Pruned d now d.pendingClients d')
    (hexpired : d.expired now ref = true) : d'.clients ref = none := by
  rw [expired, Bool.and_eq_true, decide_eq_true_eq] at hexpired
  rw [h.clients, if_pos hexpired]

theorem Pruned.clients_of_fresh (h : Pruned d now d.pendingClients d')
    (hfresh : d.expired now ref = false) : d'.clients ref = d.clients ref := by
  rw [h.clients, if_neg]
  rintro ⟨hin, hstale⟩
  simp [expired, hin, hstale] at hfresh

theorem mem_freshPending_of_fresh (hin : ref ∈ d.pendingClients)
    (hfresh : d.expired now ref = false) : ref ∈ d.freshPending now := by
  rw [freshPending, List.mem_filter]
  refine ⟨hin, ?_⟩
  simpa [expired, hin] using hfresh

/-- A client that another one's way into the queue expires. -/
theorem QueuedOrRemoved.clients_of_expired {queued : Bool}
    (h : QueuedOrRemoved d ref client now d' queued) (hassigned : client.assigned = false)
    (hne : other ≠ ref) (hexpired : d.expired now other = true) : d'.clients other = none := by
  cases h with
  | assigned hbusy => simp [hassigned] at hbusy
  | queued _ hpruned hqueue hlive hroom =>
    rw [show _ = _ from setClient_of_ne hne]
    exact hpruned.clients_of_expired hexpired
  | removed _ hpruned hqueue hlive hfull hremoved =>
    rw [hremoved.clients_of_ne hne]
    exact hpruned.clients_of_expired hexpired

/-- The others keep their fields and their place in the queue. -/
theorem QueuedOrRemoved.clients_of_fresh {queued : Bool}
    (h : QueuedOrRemoved d ref client now d' queued) (hne : other ≠ ref)
    (hfresh : d.expired now other = false) : d'.clients other = d.clients other := by
  cases h with
  | assigned => rfl
  | queued _ hpruned hqueue hlive hroom =>
    rw [show _ = _ from setClient_of_ne hne]
    exact hpruned.clients_of_fresh hfresh
  | removed _ hpruned hqueue hlive hfull hremoved =>
    rw [hremoved.clients_of_ne hne]
    exact hpruned.clients_of_fresh hfresh

theorem QueuedOrRemoved.mem_pendingClients {queued : Bool}
    (h : QueuedOrRemoved d ref client now d' queued) (hne : other ≠ ref)
    (hin : other ∈ d.pendingClients) (hfresh : d.expired now other = false) :
    other ∈ d'.pendingClients := by
  have hleft := mem_freshPending_of_fresh hin hfresh
  cases h with
  | assigned => exact hin
  | queued _ hpruned hqueue hlive hroom => exact List.mem_append_left _ hleft
  | removed _ hpruned hqueue hlive hfull hremoved =>
    rw [hremoved.pendingClients, hqueue]
    exact (List.mem_erase_of_ne hne).mpr hleft

end SystemDaemon

/-- `drd_system_daemon_stop` is the event. -/
def SystemEvent.isStop : SystemEvent → Bool
  | .stop => true
  | _ => false

namespace SystemState

variable {s s' : SystemState} {ref : ClientRef} {client : RemoteClient}

/-- The clock value at which a step prunes the queue, if it does. -/
def pruneTime (s : SystemState) : SystemEvent → Option ℤ
  | .incoming env => env.peek.bind fun info =>
    -- a client that is waited for is rebound, and nothing is pruned then
    if s.daemon.tokenTracked info && !s.daemon.tokenBusy info then none else some env.now
  | .requestHandover pruneNow _ => some pruneNow
  | .takeClient path fdAppend _ queueNow =>
    -- only a TakeClient that puts its client back prunes
    ((s.handoverObject path).bind s.daemon.clients).bind fun client =>
      if SystemDaemon.takesClient client fdAppend && !decide (2 ≤ client.handoverCount + 1) then
        some queueNow
      else none
  | _ => none

/-- The step drops the client without a TakeClient of its own. -/
def drops (s : SystemState) (ref : ClientRef) (e : SystemEvent) : Bool :=
  e.isStop || (s.pruneTime e).any fun now => s.daemon.expired now ref

/-- A RequestHandover answers with the client. -/
def returns (s : SystemState) (ref : ClientRef) : SystemEvent → Bool
  | .requestHandover pruneNow _ => (s.daemon.freshPending pruneNow).head? == some ref
  | _ => false

/-- The call is a TakeClient on this client that goes on: neither has the client lost its
connection nor the socket failed to be appended. -/
def TakesOver (s : SystemState) (ref : ClientRef) : SystemEvent → Prop
  | .takeClient path fdAppend _ _ =>
    s.handoverObject path = some ref ∧
      (s.daemon.clients ref).any (SystemDaemon.takesClient · fdAppend) = true
  | _ => False

instance decidableTakesOver (s : SystemState) (ref : ClientRef) : DecidablePred (s.TakesOver ref)
  | .takeClient _ _ _ _ => inferInstanceAs (Decidable (_ ∧ _))
  | .start .. | .stop | .incoming .. | .sessionReady .. | .sessionClosed .. | .requestHandover ..
  | .startHandover .. => instDecidableFalse

theorem TakesOver.of_client {r : ClientRef} {path : CString} {fdAppend : Except String Unit}
    {now queueNow : ℤ} (hr : s.handoverObject path = some r) (hclient : s.daemon.clients r = some client)
    (hgoes : SystemDaemon.takesClient client fdAppend = true) :
    s.TakesOver r (.takeClient path fdAppend now queueNow) :=
  ⟨hr, by rw [hclient, Option.any_some, hgoes]⟩

/-- What a step leaves of a client that it neither takes over nor drops: its record under
its path, and its place in the queue until it is handed out. -/
structure Carries (s s' : SystemState) (ref : ClientRef) (client : RemoteClient)
    (returned : Bool) : Prop where
  live : ∃ client', s'.daemon.clients ref = some client' ∧ client'.id = client.id
  waiting : ref ∈ s.daemon.pendingClients → returned = false → ref ∈ s'.daemon.pendingClients

theorem pruneTime_of_unregistered {env : IncomingEnv} {info : RoutingTokenInfo}
    (hpeek : env.peek = some info) (htracked : s.daemon.tokenTracked info = true)
    (hbusy : s.daemon.tokenBusy info = false) : s.pruneTime (.incoming env) = none := by
  simp [pruneTime, hpeek, htracked, hbusy]

theorem pruneTime_of_registered {env : IncomingEnv} {info : RoutingTokenInfo}
    (hpeek : env.peek = some info)
    (hbusy : s.daemon.tokenTracked info = true → s.daemon.tokenBusy info = true) :
    s.pruneTime (.incoming env) = some env.now := by
  cases htracked : s.daemon.tokenTracked info with
  | false => simp [pruneTime, hpeek, htracked]
  | true => simp [pruneTime, hpeek, htracked, hbusy htracked]

/-- The delegate and the client table seen from a client that it does not drop. -/
theorem delegated_carries {env : IncomingEnv} {result : DelegateResult}
    (hT : s.daemon.TableConsistent) (hclient : s.daemon.clients ref = some client)
    (hd : s.daemon.Delegated env result) (hkeeps : s.drops ref (.incoming env) = false) :
    (∃ client', result.daemon.clients ref = some client' ∧ client'.id = client.id) ∧
      (ref ∈ s.daemon.pendingClients → ref ∈ result.daemon.pendingClients) := by
  cases hd with
  | unpeeked => exact ⟨⟨client, hclient, rfl⟩, id⟩
  | @rebound info r c hpeek htoken hlive hsession =>
    refine ⟨?_, id⟩
    by_cases hne : ref = r
    · subst hne
      rw [hclient, Option.some.injEq] at hlive
      subst hlive
      exact ⟨_, SystemDaemon.setClient_self, rfl⟩
    · exact ⟨client, (SystemDaemon.setClient_of_ne hne).trans hclient, rfl⟩
  -- a new client is queued, which prunes the queue at the time of the connection
  | @registered info id token value c d' registered hpeek hbusy hregistered =>
    have hne : ref ≠ s.daemon.nextClient := (hT.allocated hclient).ne
    have hfresh : s.daemon.expired env.now ref = false := by
      rw [drops, pruneTime_of_registered hpeek hbusy, Option.any_some] at hkeeps
      exact (Bool.or_eq_false_iff.mp hkeeps).2
    have hsame : (s.daemon.insertClient c env.connection).clients ref = s.daemon.clients ref :=
      SystemDaemon.insertClient_of_ne env.connection hne
    -- the new client does not change what is stale about this one
    have hfresh' : (s.daemon.insertClient c env.connection).expired env.now ref = false := by
      rw [SystemDaemon.expired, SystemDaemon.staleAt, hsame]
      exact hfresh
    refine ⟨⟨client, ?_, rfl⟩, ?_⟩
    · rw [hregistered.queue.clients_of_fresh hne hfresh', hsame, hclient]
    · intro hin
      exact hregistered.queue.mem_pendingClients hne hin hfresh'

theorem sessionReady_carries {d d' : SystemDaemon} {connection : Connection} {session : SessionRef}
    {env : SessionReadyEnv} {now : ℤ} {request : Option DisplayRequest} {id : CString}
    (hlive : ∃ client, d.clients ref = some client ∧ client.id = id)
    (h : d.onSessionReady connection session env now = some (d', request)) :
    (∃ client, d'.clients ref = some client ∧ client.id = id) ∧
      d'.pendingClients = d.pendingClients := by
  obtain ⟨client, hclient, hid⟩ := hlive
  rcases SystemDaemon.onSessionReady_spec h with rfl | ⟨r, c, hc, rfl⟩
  · exact ⟨⟨client, hclient, hid⟩, rfl⟩
  · refine ⟨?_, rfl⟩
    by_cases hne : ref = r
    · subst hne
      rw [hclient, Option.some.injEq] at hc
      subst hc
      exact ⟨_, SystemDaemon.setClient_self,
        (SystemDaemon.sessionReadyClient_identity client session env now).1.trans hid⟩
    · exact ⟨client, (SystemDaemon.setClient_of_ne hne).trans hclient, hid⟩

theorem incoming_carries {env : IncomingEnv} (hT : s.daemon.TableConsistent)
    (hclient : s.daemon.clients ref = some client) (he : s.incoming env = some s')
    (hkeeps : s.drops ref (.incoming env) = false) : s.Carries s' ref client false := by
  obtain ⟨result, _, hdelegated, hdaemon | ⟨session, request, hready⟩⟩ := incoming_spec hT he
  · obtain ⟨hlive, hwaiting⟩ := delegated_carries hT hclient hdelegated hkeeps
    rw [← hdaemon] at hlive hwaiting
    exact ⟨hlive, fun hin _ => hwaiting hin⟩
  · obtain ⟨hlive, hwaiting⟩ := delegated_carries hT hclient hdelegated hkeeps
    obtain ⟨hlive', hqueue⟩ := sessionReady_carries hlive hready
    refine ⟨hlive', ?_⟩
    intro hin _
    rw [hqueue]
    exact hwaiting hin

/-- RequestHandover prunes the queue, and takes its head out. -/
theorem requestHandover_carries {pruneNow now : ℤ} {daemon : SystemDaemon}
    {reply : Except String (ClientRef × CString)} (hT : s.daemon.TableConsistent)
    (hclient : s.daemon.clients ref = some client)
    (h : s.daemon.handleRequestHandover pruneNow now = some (daemon, reply))
    (hfresh : s.daemon.expired pruneNow ref = false) :
    s.Carries { s with daemon := daemon } ref client (s.returns ref (.requestHandover pruneNow now)) := by
  obtain ⟨d₁, hpruned, hqueue, hcases⟩ := SystemDaemon.handleRequestHandover_spec hT h
  have hlive₁ : d₁.clients ref = some client := (hpruned.clients_of_fresh hfresh).trans hclient
  have hwaiting₁ (hin : ref ∈ s.daemon.pendingClients) : ref ∈ d₁.pendingClients := by
    rw [hqueue]
    exact SystemDaemon.mem_freshPending_of_fresh hin hfresh
  rcases hcases with ⟨_, rfl, _⟩ | ⟨r, refs, c, hcons, hc, rfl, _⟩
  · exact ⟨⟨client, hlive₁, rfl⟩, fun hin _ => hwaiting₁ hin⟩
  · constructor
    case live =>
      by_cases hne : ref = r
      · subst hne
        rw [hlive₁, Option.some.injEq] at hc
        subst hc
        exact ⟨_, SystemDaemon.setClient_self, rfl⟩
      · exact ⟨client, (SystemDaemon.setClient_of_ne hne).trans hlive₁, rfl⟩
    -- only the head leaves the queue, and that is who is returned
    case waiting =>
      intro hin hreturned
      have hmem := hwaiting₁ hin
      rw [hcons] at hmem
      rcases List.mem_cons.mp hmem with rfl | hrest
      · rw [returns, ← hqueue, hcons] at hreturned
        simp at hreturned
      · exact hrest

theorem setClient_carries {r : ClientRef} {c c' : RemoteClient}
    (hclient : s.daemon.clients ref = some client) (hc : s.daemon.clients r = some c)
    (hid : c'.id = c.id) :
    s.Carries { s with daemon := s.daemon.setClient r c' } ref client false := by
  refine ⟨?_, fun hin _ => hin⟩
  by_cases hne : ref = r
  · subst hne
    rw [hclient, Option.some.injEq] at hc
    subst hc
    exact ⟨c', SystemDaemon.setClient_self, hid⟩
  · exact ⟨client, (SystemDaemon.setClient_of_ne hne).trans hclient, rfl⟩

theorem takeClient_carries {r : ClientRef} {fdAppend : Except String Unit} {now queueNow : ℤ}
    {daemon : SystemDaemon} {reply : HandoverReply} (hT : s.daemon.TableConsistent)
    (hclient : s.daemon.clients ref = some client)
    (h : s.daemon.onTakeClient r fdAppend now queueNow = some (daemon, reply))
    (hother : ∀ c ∈ s.daemon.clients r, SystemDaemon.takesClient c fdAppend = true → ref ≠ r)
    (hfresh : ∀ c ∈ s.daemon.clients r, SystemDaemon.takesClient c fdAppend = true →
      ¬ 2 ≤ c.handoverCount + 1 → s.daemon.expired queueNow ref = false) :
    s.Carries { s with daemon := daemon } ref client false := by
  obtain ⟨c, hc, ⟨_, rfl⟩ | ⟨htakes, _, rfl⟩ | ⟨htakes, hcount, queued, hq⟩⟩ :=
    SystemDaemon.onTakeClient_spec hT h
  -- a call that fails leaves even its own client where it is
  · exact setClient_carries hclient hc rfl
  · have hne := hother c hc htakes
    exact ⟨⟨client, (SystemDaemon.setClient_of_ne hne).trans hclient, rfl⟩, fun hin _ => hin⟩
  · have hne := hother c hc htakes
    -- the client that goes back into the queue prunes it for the others
    have hsame : (s.daemon.setClient r (SystemDaemon.requeuedClient c now)).clients ref =
        s.daemon.clients ref := SystemDaemon.setClient_of_ne hne
    have hfresh' : (s.daemon.setClient r (SystemDaemon.requeuedClient c now)).expired queueNow ref =
        false := by
      rw [SystemDaemon.expired, SystemDaemon.staleAt, hsame]
      exact hfresh c hc htakes hcount
    constructor
    case live => exact ⟨client, (hq.clients_of_fresh hne hfresh').trans (hsame.trans hclient), rfl⟩
    case waiting =>
      intro hin _
      exact hq.mem_pendingClients hne hin hfresh'

/-- A step that does not drop a client leaves it tracked, and in the queue until a
RequestHandover returns it. -/
theorem step_carries {e : SystemEvent} (hT : s.daemon.TableConsistent)
    (hclient : s.daemon.clients ref = some client) (htakes : ¬ s.TakesOver ref e)
    (hkeeps : s.drops ref e = false) (he : s.step e = some s') :
    s.Carries s' ref client (s.returns ref e) := by
  obtain ⟨hstop, hprune⟩ := Bool.or_eq_false_iff.mp hkeeps
  cases e with
  | start listenerOk busOk =>
    obtain ⟨listener, busConnection, manager, heq, _⟩ := s.daemon.start_eq listenerOk busOk
    rw [step, Option.some.injEq] at he
    rw [← he, heq]
    exact ⟨⟨client, hclient, rfl⟩, fun hin _ => hin⟩
  | stop => simp [SystemEvent.isStop] at hstop
  | incoming env => exact incoming_carries hT hclient (step_incoming he) hkeeps
  | sessionReady connection session env now =>
    obtain ⟨⟨daemon, request⟩, hready, rfl⟩ := Option.map_eq_some_iff.mp he
    obtain ⟨hlive, hqueue⟩ := sessionReady_carries ⟨client, hclient, rfl⟩ hready
    exact ⟨hlive, fun hin _ => hqueue ▸ hin⟩
  | sessionClosed session =>
    rw [step, Option.some.injEq] at he
    rw [← he]
    exact ⟨⟨client, hclient, rfl⟩, fun hin _ => hin⟩
  | requestHandover pruneNow now =>
    obtain ⟨daemon, reply, hrequest, rfl⟩ := step_requestHandover he
    exact requestHandover_carries hT hclient hrequest (by simpa [pruneTime] using hprune)
  | startHandover path env now =>
    obtain ⟨r, daemon, reply, _, hstart, rfl⟩ := step_startHandover he
    obtain ⟨c, hc, rfl⟩ := SystemDaemon.onStartHandover_spec hstart
    exact setClient_carries hclient hc (SystemDaemon.startHandoverClient_identity c env now).1
  | takeClient path fdAppend now queueNow =>
    obtain ⟨r, daemon, reply, hr, htake, rfl⟩ := step_takeClient he
    refine takeClient_carries hT hclient htake ?_ ?_
    · rintro c hc hgoes rfl
      exact htakes (.of_client hr hc hgoes)
    intro c hc hgoes hcount
    -- with another stage to go the other client is queued at `queueNow`
    have hlast := UInt32.not_le.mp hcount
    simpa [pruneTime, hr, show s.daemon.clients r = some c from hc, hgoes, hlast] using hprune

theorem delegated_drops {env : IncomingEnv} {result : DelegateResult}
    (hT : s.daemon.TableConsistent) (hclient : s.daemon.clients ref = some client)
    (hd : s.daemon.Delegated env result) (hdrops : s.drops ref (.incoming env) = true) :
    result.daemon.clients ref = none := by
  have hprune : (s.pruneTime (.incoming env)).any fun now => s.daemon.expired now ref := by
    simpa [drops, SystemEvent.isStop] using hdrops
  cases hd with
  | unpeeked hpeek => simp [pruneTime, hpeek] at hprune
  | @rebound info r c hpeek htoken hlive hsession =>
    have htracked : s.daemon.tokenTracked info = true := by
      simp [SystemDaemon.tokenTracked, htoken]
    -- the client that came back is waited for, so nothing was pruned
    have hbusy : s.daemon.tokenBusy info = false := by
      simp [SystemDaemon.tokenBusy, htoken, hlive, hsession]
    rw [pruneTime_of_unregistered hpeek htracked hbusy] at hprune
    simp at hprune
  | @registered info id token value c d' registered hpeek hbusy hregistered =>
    have hne : ref ≠ s.daemon.nextClient := (hT.allocated hclient).ne
    rw [pruneTime_of_registered hpeek hbusy, Option.any_some] at hprune
    have hsame : (s.daemon.insertClient c env.connection).clients ref = s.daemon.clients ref :=
      SystemDaemon.insertClient_of_ne env.connection hne
    have hexpired : (s.daemon.insertClient c env.connection).expired env.now ref = true := by
      rw [SystemDaemon.expired, SystemDaemon.staleAt, hsame]
      exact hprune
    exact hregistered.queue.clients_of_expired hregistered.assigned hne hexpired

/-- A pruning that finds the client stale takes it out of the registry. -/
theorem step_drops {e : SystemEvent} (hT : s.daemon.TableConsistent)
    (hclient : s.daemon.clients ref = some client) (htakes : ¬ s.TakesOver ref e)
    (hdrops : s.drops ref e = true) (he : s.step e = some s') : s'.daemon.clients ref = none := by
  cases e with
  | stop =>
    rw [step, Option.some.injEq] at he
    rw [← he]
    rfl
  | incoming env =>
    obtain ⟨result, _, hdelegated, hdaemon | ⟨session, request, hready⟩⟩ :=
      incoming_spec hT (step_incoming he)
    · rw [hdaemon]
      exact delegated_drops hT hclient hdelegated hdrops
    · have hgone := delegated_drops hT hclient hdelegated hdrops
      rcases SystemDaemon.onSessionReady_spec hready with heq | ⟨r, c, hc, heq⟩
      · rw [heq]
        exact hgone
      · have hne : ref ≠ r := by
          intro hsame
          rw [← hsame, hgone] at hc
          simp at hc
        rw [heq, SystemDaemon.setClient_of_ne hne]
        exact hgone
  | requestHandover pruneNow now =>
    have hexpired : s.daemon.expired pruneNow ref = true := by
      simpa [drops, pruneTime, SystemEvent.isStop] using hdrops
    obtain ⟨daemon, reply, hrequest, rfl⟩ := step_requestHandover he
    obtain ⟨d₁, hpruned, _, ⟨_, rfl, _⟩ | ⟨r, refs, c, _, hc, rfl, _⟩⟩ :=
      SystemDaemon.handleRequestHandover_spec hT hrequest
    · exact hpruned.clients_of_expired hexpired
    · have hgone := hpruned.clients_of_expired hexpired
      -- the session is put down for a client that is still there
      have hne : ref ≠ r := by
        intro hsame
        rw [← hsame, hgone] at hc
        simp at hc
      exact (SystemDaemon.setClient_of_ne hne).trans hgone
  | takeClient path fdAppend now queueNow =>
    obtain ⟨r, daemon, reply, hr, htake, rfl⟩ := step_takeClient he
    obtain ⟨c, hc, hends⟩ := SystemDaemon.onTakeClient_spec hT htake
    have hprune : (s.pruneTime (.takeClient path fdAppend now queueNow)).any
        fun now => s.daemon.expired now ref := by
      simpa [drops, SystemEvent.isStop] using hdrops
    simp only [pruneTime, hr, Option.bind_some, hc] at hprune
    rcases hends with ⟨hfails, _⟩ | ⟨_, hcount, _⟩ | ⟨hgoes, hcount, queued, hq⟩
    · simp [hfails] at hprune
    · simp [hcount] at hprune
    · have hne : ref ≠ r := by
        rintro rfl
        exact htakes (.of_client hr hc hgoes)
      simp only [hgoes, hcount, decide_false, Bool.not_false, Bool.and_self, if_true,
        Option.any_some] at hprune
      have hexpired : (s.daemon.setClient r (SystemDaemon.requeuedClient c now)).expired
          queueNow ref = true := by
        rw [SystemDaemon.expired, SystemDaemon.staleAt, SystemDaemon.setClient_of_ne hne]
        exact hprune
      exact hq.clients_of_expired rfl hne hexpired
  | _ => simp [drops, pruneTime, SystemEvent.isStop] at hdrops

/-- The client is tracked under this path. -/
structure Tracks (ref : ClientRef) (id : CString) (s : SystemState) : Prop where
  table : s.daemon.TableConsistent
  live : ∃ client, s.daemon.clients ref = some client ∧ client.id = id

theorem Tracks.entry {id : CString} (h : Tracks ref id s) :
    s.daemon.remoteClients id = some ref := by
  obtain ⟨client, hclient, rfl⟩ := h.live
  exact h.table.client hclient

theorem Tracks.step {id : CString} {e : SystemEvent} (h : Tracks ref id s)
    (htakes : ¬ s.TakesOver ref e) (hkeeps : s.drops ref e = false) (he : s.step e = some s') :
    Tracks ref id s' := by
  obtain ⟨client, hclient, rfl⟩ := h.live
  exact ⟨step_tableConsistent h.table he, (step_carries h.table hclient htakes hkeeps he).live⟩

theorem Tracks.not_entry_of_drops {id : CString} {e : SystemEvent} (h : Tracks ref id s)
    (htakes : ¬ s.TakesOver ref e) (hdrops : ¬ s.drops ref e = false) (he : s.step e = some s') :
    ¬ s'.daemon.remoteClients id = some ref := by
  obtain ⟨client, hclient, rfl⟩ := h.live
  have hgone := step_drops h.table hclient htakes (by simpa using hdrops) he
  -- a path that leads to the client would keep it in the table
  intro hentry
  obtain ⟨client', hclient', _⟩ := (step_tableConsistent h.table he).entry hentry
  rw [hgone] at hclient'
  simp at hclient'

/-- The client is tracked, and waits to be handed out. -/
structure Waits (ref : ClientRef) (id : CString) (s : SystemState) : Prop where
  tracks : Tracks ref id s
  waiting : ref ∈ s.daemon.pendingClients

theorem Waits.step {id : CString} {e : SystemEvent} (h : Waits ref id s)
    (htakes : ¬ s.TakesOver ref e) (hkeeps : s.drops ref e = false) (hreturns : s.returns ref e = false)
    (he : s.step e = some s') : Waits ref id s' := by
  obtain ⟨client, hclient, rfl⟩ := h.tracks.live
  have hcarries := step_carries h.tracks.table hclient htakes hkeeps he
  exact ⟨h.tracks.step htakes hkeeps he, hcarries.waiting h.waiting hreturns⟩

/-- RequestHandover returns a waiting client once the ones ahead of it are stale, and
it is not. -/
theorem Waits.returned {id : CString} {pruneNow now : ℤ} {daemon : SystemDaemon}
    {reply : Except String (ClientRef × CString)} {ahead behind : List ClientRef}
    (h : Waits ref id s) (hqueue : s.daemon.pendingClients = ahead ++ ref :: behind)
    (hahead : ∀ r ∈ ahead, s.daemon.staleAt pruneNow r = true)
    (hfresh : s.daemon.staleAt pruneNow ref = false)
    (hrequest : s.daemon.handleRequestHandover pruneNow now = some (daemon, reply)) :
    reply = .ok (ref, id) := by
  obtain ⟨client, hclient, rfl⟩ := h.tracks.live
  obtain ⟨d₁, hpruned, hleft, hcases⟩ :=
    SystemDaemon.handleRequestHandover_spec h.tracks.table hrequest
  -- the pruning takes all of `ahead` out, and leaves the client at the head
  have hhead : d₁.pendingClients = ref :: behind.filter fun r => !s.daemon.staleAt pruneNow r := by
    rw [hleft, SystemDaemon.freshPending, hqueue, List.filter_append,
      List.filter_eq_nil_iff.mpr (by simpa using hahead), List.filter_cons_of_pos (by simp [hfresh]),
      List.nil_append]
  rcases hcases with ⟨hnil, _, _⟩ | ⟨r, refs, c, hcons, hc, _, rfl⟩
  · rw [hhead] at hnil
    simp at hnil
  · rw [hhead, List.cons.injEq] at hcons
    obtain ⟨rfl, _⟩ := hcons
    have hsame := hpruned.clients_eq hc
    rw [hclient, Option.some.injEq] at hsame
    rw [hsame]

/-- The first TakeClient of the client put it back into the queue, and no
RequestHandover has returned it since. -/
structure Requeued (s : SystemState) (ref : ClientRef) (client : RemoteClient) : Prop where
  live : s.daemon.clients ref = some client
  count : client.handoverCount = 1
  waiting : ref ∈ s.daemon.pendingClients

/-- The first TakeClient that goes on puts the client back into the queue, or removes
it where the queue is full. -/
theorem Requeued.of_takeClient {path : CString} {fdAppend : Except String Unit}
    {now queueNow : ℤ} (hT : s.daemon.TableConsistent) (hobject : s.handoverObject path = some ref)
    (hclient : s.daemon.clients ref = some client) (hcount : client.handoverCount = 0)
    (htakes : SystemDaemon.takesClient client fdAppend = true)
    (he : s.step (.takeClient path fdAppend now queueNow) = some s') :
    (∃ client', s'.Requeued ref client') ∨ s'.daemon.clients ref = none := by
  obtain ⟨r, daemon, reply, hr, htake, rfl⟩ := step_takeClient he
  rw [hobject, Option.some.injEq] at hr
  subst hr
  obtain ⟨c, hc, hends⟩ := SystemDaemon.onTakeClient_spec hT htake
  rw [hclient, Option.some.injEq] at hc
  subst hc
  rcases hends with ⟨hfails, _⟩ | ⟨_, hlast, _⟩ | ⟨_, _, queued, hq⟩
  · rw [htakes] at hfails
    simp at hfails
  · rw [hcount] at hlast
    exact absurd hlast (by decide)
  · cases hq with
    | assigned hassigned => simp [SystemDaemon.requeuedClient] at hassigned
    | queued _ hpruned hqueue hlive hroom =>
      left
      -- the client is at the end of the queue, with one hand-over behind it
      refine ⟨_, SystemDaemon.setClient_self, ?_, List.mem_append_right _ (List.mem_singleton_self ref)⟩
      simp [SystemDaemon.requeuedClient, SystemDaemon.takenClient, RemoteClient.touch, hcount]
    | removed _ hpruned hqueue hlive hfull hremoved =>
      right
      exact hremoved.clients_self

end SystemState

/-- Until its second TakeClient goes on a requeued client stays tracked exactly as long as
the daemon is not stopped and no pruning finds it stale. Where such a run ends without a
RequestHandover that returned it, the next one does, unless a client ahead of it is
still fresh. -/
theorem requeued_client_tracked_iff {s : SystemState} (hs : systemMachine.Reachable s)
    {ref : ClientRef} {client : RemoteClient} (hrequeued : s.Requeued ref client)
    (es : List SystemEvent) (t : SystemState) (hrun : systemMachine.run s es = some t)
    (htakes : systemMachine.StepsMeet (fun s e => ¬ s.TakesOver ref e) s es) :
    (systemMachine.StatesMeet (fun s => s.daemon.remoteClients client.id = some ref) s es ↔
      systemMachine.StepsMeet (fun s e => s.drops ref e = false) s es) ∧
    (systemMachine.StepsMeet (fun s e => s.drops ref e = false ∧ s.returns ref e = false) s es →
      ∃ ahead behind, t.daemon.pendingClients = ahead ++ ref :: behind ∧
        ∀ pruneNow now daemon reply,
          t.daemon.handleRequestHandover pruneNow now = some (daemon, reply) →
          (∀ r ∈ ahead, t.daemon.staleAt pruneNow r = true) →
          t.daemon.staleAt pruneNow ref = false → reply = .ok (ref, client.id)) := by
  have hT := systemMachine_tableConsistent.holds hs
  have htracks : s.Tracks ref client.id := ⟨hT, client, hrequeued.live, rfl⟩
  constructor
  · exact EventMachine.statesMeet_iff_stepsMeet_of_guard (fun _ h => h.entry)
      (fun _ _ _ h hsecond hkeeps he => h.step hsecond hkeeps he)
      (fun _ _ _ h hsecond hdrops he => h.not_entry_of_drops hsecond hdrops he)
      htracks es htakes hrun
  · intro hkeeps
    have hwaits : t.Waits ref client.id :=
      (htakes.and hkeeps).preserves
        (fun _ _ _ h hstep he => h.step hstep.1 hstep.2.1 hstep.2.2 he)
        ⟨htracks, hrequeued.waiting⟩ es hrun
    obtain ⟨ahead, behind, hqueue⟩ := List.append_of_mem hwaits.waiting
    refine ⟨ahead, behind, hqueue, ?_⟩
    intro pruneNow now daemon reply hrequest hahead hfresh
    exact hwaits.returned hqueue hahead hfresh hrequest

/-- A client with the token 7 that was taken once and put back into the queue. -/
def requeuedSeven : Option SystemState :=
  systemMachine.run {} [.start true true, tokenSeven 1 [], .requestHandover 0 1,
    .takeClient tokenSevenPath (.ok ()) 2 3]

theorem requeuedSeven_reachable : systemMachine.Reachable (requeuedSeven.get rfl) :=
  EventMachine.reachable_run_get systemMachine_init [.start true true, tokenSeven 1 [],
    .requestHandover 0 1, .takeClient tokenSevenPath (.ok ()) 2 3] rfl

theorem requeuedSeven_requeued :
    (requeuedSeven.get rfl).Requeued 0 (((requeuedSeven.get rfl).daemon.clients 0).get rfl) :=
  ⟨rfl, by decide, by decide⟩

/-- A TakeClient fails, and its user logs in within the time. -/
theorem requeued_client_tracked_in_time :
    systemMachine.StatesMeet (fun s => s.daemon.remoteClients tokenSevenPath = some 0)
      (requeuedSeven.get rfl) [.takeClient tokenSevenPath (.error "Too many open files") 4 4,
        .requestHandover 30000002 30000002] :=
  (requeued_client_tracked_iff requeuedSeven_reachable requeuedSeven_requeued
    [.takeClient tokenSevenPath (.error "Too many open files") 4 4,
      .requestHandover 30000002 30000002] _ rfl (by decide)).1.mpr (by decide)

/-- Half a minute at the greeter, and the user session finds no client. -/
theorem requeued_client_expires :
    ∃ s s' ref client, systemMachine.Reachable s ∧ s.Requeued ref client ∧
      systemMachine.step s (.requestHandover 30000003 30000003) = some s' ∧
      s'.daemon.remoteClients client.id = none ∧
      ∃ daemon, s.daemon.handleRequestHandover 30000003 30000003 =
        some (daemon, .error "No pending RDP handover requests") :=
  ⟨requeuedSeven.get rfl, _, 0, _, requeuedSeven_reachable, requeuedSeven_requeued, rfl,
    by decide, _, rfl⟩

namespace SystemDaemon

variable {d d' : SystemDaemon} {ref : ClientRef} {client : RemoteClient} {now : ℤ}

/-- No client of `d'` is new or at another stage than in `d`, and none has a connection
that it did not have. -/
def KeepsStages (d d' : SystemDaemon) : Prop :=
  ∀ ref client', d'.clients ref = some client' → ∃ client, d.clients ref = some client ∧
    client'.handoverCount = client.handoverCount ∧
    (client'.connection = client.connection ∨ client'.connection = none)

theorem KeepsStages.refl (d : SystemDaemon) : d.KeepsStages d :=
  fun _ client' h => ⟨client', h, rfl, .inl rfl⟩

theorem KeepsStages.trans {d₁ d₂ : SystemDaemon} (h₁ : d.KeepsStages d₁) (h₂ : d₁.KeepsStages d₂) :
    d.KeepsStages d₂ := by
  intro ref client₂ hclient₂
  obtain ⟨client₁, hclient₁, hcount₂, hconnection₂⟩ := h₂ ref client₂ hclient₂
  obtain ⟨client, hclient, hcount₁, hconnection₁⟩ := h₁ ref client₁ hclient₁
  refine ⟨client, hclient, hcount₂.trans hcount₁, ?_⟩
  rcases hconnection₂ with heq | hnone
  · rw [heq]
    exact hconnection₁
  · exact .inr hnone

theorem KeepsStages.setClient {client' : RemoteClient} (hclient : d.clients ref = some client)
    (hcount : client'.handoverCount = client.handoverCount)
    (hconnection : client'.connection = client.connection ∨ client'.connection = none) :
    d.KeepsStages (d.setClient ref client') := by
  intro r c hc
  by_cases hne : r = ref
  · subst hne
    rw [setClient_self, Option.some.injEq] at hc
    subst hc
    exact ⟨client, hclient, hcount, hconnection⟩
  · rw [setClient_of_ne hne] at hc
    exact ⟨c, hc, rfl, .inl rfl⟩

theorem Pruned.keepsStages {refs : List ClientRef} (h : Pruned d now refs d') : d.KeepsStages d' :=
  fun _ c hc => ⟨c, h.clients_eq hc, rfl, .inl rfl⟩

theorem QueuedOrRemoved.keepsStages {queued : Bool}
    (h : QueuedOrRemoved d ref client now d' queued) : d.KeepsStages d' := by
  cases h with
  | assigned => exact .refl d
  | queued _ hpruned hqueue hlive hroom =>
    exact hpruned.keepsStages.trans (.setClient hlive rfl (.inl rfl))
  | removed _ hpruned hqueue hlive hfull hremoved =>
    refine hpruned.keepsStages.trans ?_
    intro r c hc
    rw [hremoved.clients_of_ne (hremoved.ne_of_live hc)] at hc
    exact ⟨c, hc, rfl, .inl rfl⟩

theorem onSessionReady_keepsStages {connection : Connection} {session : SessionRef}
    {env : SessionReadyEnv} {request : Option DisplayRequest}
    (h : d.onSessionReady connection session env now = some (d', request)) : d.KeepsStages d' := by
  rcases onSessionReady_spec h with rfl | ⟨r, c, hc, rfl⟩
  · exact .refl d'
  · apply KeepsStages.setClient hc
    · simp only [sessionReadyClient]
      repeat' split
      all_goals rfl
    · left
      simp only [sessionReadyClient]
      repeat' split
      all_goals rfl

theorem handleRequestHandover_keepsStages {pruneNow : ℤ}
    {reply : Except String (ClientRef × CString)} (hT : d.TableConsistent)
    (h : d.handleRequestHandover pruneNow now = some (d', reply)) : d.KeepsStages d' := by
  obtain ⟨d₁, hpruned, _, ⟨_, rfl, _⟩ | ⟨r, refs, c, _, hc, rfl, _⟩⟩ :=
    handleRequestHandover_spec hT h
  · exact hpruned.keepsStages
  · exact hpruned.keepsStages.trans (.setClient hc rfl (.inl rfl))

theorem onStartHandover_keepsStages {env : StartHandoverEnv} {reply : HandoverReply}
    (h : d.onStartHandover ref env now = some (d', reply)) : d.KeepsStages d' := by
  obtain ⟨c, hc, rfl⟩ := onStartHandover_spec h
  apply KeepsStages.setClient hc
  · simp only [startHandoverClient]
    repeat' split
    all_goals rfl
  · simp only [startHandoverClient]
    repeat' split
    all_goals simp [RemoteClient.touch]

/-- The client's path is one that a routing token spells. -/
def Spelled (client : RemoteClient) : Prop :=
  ∃ token value, parseRoutingToken token = some value ∧
    getIdFromRoutingToken value = some client.id

theorem Spelled.of_id {client' : RemoteClient} (h : Spelled client)
    (hid : client'.id = client.id) : Spelled client' := by
  rw [Spelled, hid]
  exact h

theorem findClientByToken_of_spelled (hT : d.TableConsistent) (hclient : d.clients ref = some client)
    (hspelled : Spelled client) : ∃ token, d.findClientByToken token = some ref := by
  obtain ⟨token, value, hparse, hpath⟩ := hspelled
  refine ⟨token, ?_⟩
  rw [findClientByToken, hparse, Option.bind_some, hpath, Option.bind_some]
  exact hT.client hclient

/-- Every client has a stage left, and can be found by a routing token. -/
structure StagesLeft (d : SystemDaemon) : Prop where
  table : d.TableConsistent
  count : ∀ ref client, d.clients ref = some client → client.handoverCount < 2
  spelled : ∀ ref client, d.clients ref = some client → Spelled client

theorem StagesLeft.of_keepsStages (h : d.StagesLeft) (hevolves : d.Evolves d')
    (hstages : d.KeepsStages d') : d'.StagesLeft where
  table := hevolves.table
  count := by
    intro ref client' hclient'
    obtain ⟨client, hclient, hcount, _⟩ := hstages ref client' hclient'
    rw [hcount]
    exact h.count ref client hclient
  spelled := by
    intro ref client' hclient'
    obtain ⟨client, hclient, hid, _⟩ := hevolves.identities ref client' hclient'
    exact (h.spelled ref client hclient).of_id hid

theorem StagesLeft.delegated {env : IncomingEnv} {result : DelegateResult} (h : d.StagesLeft)
    (hd : Delegated d env result) : result.daemon.StagesLeft := by
  have hT := hd.tableConsistent h.table
  cases hd with
  | unpeeked => exact h
  | @rebound info ref client hpeek htoken hlive hsession =>
    refine ⟨hT, ?_, ?_⟩
    · intro r c hc
      by_cases hne : r = ref
      · subst hne
        have hself : some { client.touch env.now with connection := some env.connection } = some c :=
          setClient_self.symm.trans hc
        rw [← Option.some.inj hself]
        exact h.count r client hlive
      · have hsame : (d.rebindClient ref client env.connection env.now).clients r = d.clients r :=
          setClient_of_ne hne
        exact h.count r c (hsame.symm.trans hc)
    · intro r c hc
      obtain ⟨c₀, hc₀, hid, _⟩ := (rebindClient_evolves h.table hlive env.connection).identities r c hc
      exact (h.spelled r c₀ hc₀).of_id hid
  | @registered info id token value client d' registered hpeek hbusy hregistered =>
    refine ⟨hT, ?_, ?_⟩
    · intro r c hc
      rcases hregistered.live hc with ⟨_, _, rfl⟩ | hold
      · -- a new client has both stages to go
        have hnew : client.handoverCount = 0 := by
          rw [hregistered.client_eq]
          rfl
        show client.handoverCount < 2
        rw [hnew]
        decide
      · exact h.count r c hold
    · intro r c hc
      rcases hregistered.live hc with ⟨_, _, rfl⟩ | hold
      · have hid : client.id = id := by
          rw [hregistered.client_eq]
          rfl
        -- its path was made from the token it came with
        refine ⟨token, value, hregistered.identified.parse, ?_⟩
        show getIdFromRoutingToken value = some client.id
        rw [hid]
        exact hregistered.identified.path
      · exact h.spelled r c hold

/-- A TakeClient that goes on with the last stage still to come. -/
theorem StagesLeft.takeClient {fdAppend : Except String Unit} {queueNow : ℤ} {reply : HandoverReply}
    (h : d.StagesLeft) (htake : d.onTakeClient ref fdAppend now queueNow = some (d', reply))
    (hlast : ∀ client ∈ d.clients ref,
      (takesClient client fdAppend && decide (2 ≤ client.handoverCount + 1)) = false) :
    d'.StagesLeft := by
  have hevolves := onTakeClient_evolves h.table htake
  obtain ⟨client, hclient, ⟨_, rfl⟩ | ⟨htakes, hcount, _⟩ | ⟨_, hcount, queued, hq⟩⟩ :=
    onTakeClient_spec h.table htake
  · exact h.of_keepsStages hevolves (.setClient hclient rfl (.inl rfl))
  · -- the last stage is what `hlast` rules out
    have hnot := hlast client hclient
    simp [htakes, hcount] at hnot
  · have hset : (d.setClient ref (requeuedClient client now)).StagesLeft := by
      have hid := Evolves.setClient h.table hclient (requeuedClient client now) rfl rfl rfl
      refine ⟨hid.table, ?_, ?_⟩
      · intro r c hc
        by_cases hne : r = ref
        · subst hne
          rw [setClient_self, Option.some.injEq] at hc
          rw [← hc]
          exact UInt32.not_le.mp hcount
        · rw [setClient_of_ne hne] at hc
          exact h.count r c hc
      · intro r c hc
        obtain ⟨c₀, hc₀, hsame, _⟩ := hid.identities r c hc
        exact (h.spelled r c₀ hc₀).of_id hsame
    exact hset.of_keepsStages ⟨hq.tableConsistent hset.table, hq.keepsIdentities⟩ hq.keepsStages

end SystemDaemon

namespace SystemState

variable {s s' : SystemState} {ref : ClientRef} {client : RemoteClient}

/-- The last stage of a client completes: TakeClient goes on with the second socket. -/
def finishes (s : SystemState) : SystemEvent → Bool
  | .takeClient path fdAppend _ _ =>
    ((s.handoverObject path).bind s.daemon.clients).any fun client =>
      SystemDaemon.takesClient client fdAppend && decide (2 ≤ client.handoverCount + 1)
  | _ => false

/-- A connection that is routed to a client finds it with a stage to come, and so does
any routing token. -/
structure NoneSwallowed (s : SystemState) : Prop where
  routed : ∀ env result ref credentials client, s.delegate env = some result →
    result.takeClientReady = some (ref, credentials) → s.daemon.clients ref = some client →
    client.handoverCount < 2
  found : ∀ token ref client, s.daemon.findClientByToken token = some ref →
    s.daemon.clients ref = some client → client.handoverCount < 2

theorem noneSwallowed_of_stagesLeft (h : s.daemon.StagesLeft) : s.NoneSwallowed :=
  ⟨fun _ _ ref _ client _ _ hclient => h.count ref client hclient,
    fun _ ref client _ hclient => h.count ref client hclient⟩

/-- Only a connection and a TakeClient bring a client to another stage, or give it a
connection. -/
theorem step_keepsStages {e : SystemEvent} (hT : s.daemon.TableConsistent)
    (hincoming : ∀ env, e ≠ .incoming env)
    (htake : ∀ path fdAppend now queueNow, e ≠ .takeClient path fdAppend now queueNow)
    (he : s.step e = some s') : s.daemon.KeepsStages s'.daemon := by
  cases e with
  | start listenerOk busOk =>
    obtain ⟨listener, busConnection, manager, heq, _⟩ := s.daemon.start_eq listenerOk busOk
    rw [step, Option.some.injEq] at he
    rw [← he, heq]
    exact SystemDaemon.KeepsStages.refl s.daemon
  | stop =>
    rw [step, Option.some.injEq] at he
    rw [← he]
    intro r c hc
    simp [SystemDaemon.stop, SystemDaemon.hashTableRemoveAll] at hc
  | incoming env => exact absurd rfl (hincoming env)
  | sessionReady connection session env now =>
    obtain ⟨⟨daemon, request⟩, hready, rfl⟩ := Option.map_eq_some_iff.mp he
    exact SystemDaemon.onSessionReady_keepsStages hready
  | sessionClosed session =>
    rw [step, Option.some.injEq] at he
    rw [← he]
    exact .refl _
  | requestHandover pruneNow now =>
    obtain ⟨daemon, reply, hrequest, rfl⟩ := step_requestHandover he
    exact SystemDaemon.handleRequestHandover_keepsStages hT hrequest
  | startHandover path env now =>
    obtain ⟨r, daemon, reply, _, hstart, rfl⟩ := step_startHandover he
    exact SystemDaemon.onStartHandover_keepsStages hstart
  | takeClient path fdAppend now queueNow => exact absurd rfl (htake path fdAppend now queueNow)

/-- References are given out in their order, and never again. -/
theorem step_nextClient_le {e : SystemEvent} (hT : s.daemon.TableConsistent)
    (he : s.step e = some s') : s.daemon.nextClient ≤ s'.daemon.nextClient := by
  cases e with
  | start listenerOk busOk =>
    obtain ⟨listener, busConnection, manager, heq, _⟩ := s.daemon.start_eq listenerOk busOk
    rw [step, Option.some.injEq] at he
    rw [← he, heq]
  | stop =>
    rw [step, Option.some.injEq] at he
    rw [← he]
    exact le_refl _
  | incoming env =>
    obtain ⟨result, _, hdelegated, hend⟩ := incoming_spec hT (step_incoming he)
    have hle : s.daemon.nextClient ≤ result.daemon.nextClient := by
      cases hdelegated with
      | unpeeked => exact le_refl _
      | rebound => exact le_refl _
      | registered hpeek hbusy hregistered =>
        have hq := hregistered.queue.leavesOut (Nat.succ_ne_self s.daemon.nextClient)
        exact le_trans (Nat.le_succ _) hq.allocated
    rcases hend with hdaemon | ⟨session, request, hready⟩
    · rw [hdaemon]
      exact hle
    · have hready' : SystemDaemon.LeavesOut result.daemon s'.daemon 0 :=
        SystemDaemon.onSessionReady_leavesOut hready
      exact le_trans hle hready'.allocated
  | sessionReady connection session env now =>
    obtain ⟨⟨daemon, request⟩, hready, rfl⟩ := Option.map_eq_some_iff.mp he
    have hready' : SystemDaemon.LeavesOut s.daemon daemon 0 :=
      SystemDaemon.onSessionReady_leavesOut hready
    exact hready'.allocated
  | sessionClosed session =>
    rw [step, Option.some.injEq] at he
    rw [← he]
  | requestHandover pruneNow now =>
    obtain ⟨daemon, reply, hrequest, rfl⟩ := step_requestHandover he
    have hrequest' : SystemDaemon.LeavesOut s.daemon daemon 0 :=
      SystemDaemon.handleRequestHandover_leavesOut hT hrequest
    exact hrequest'.allocated
  | startHandover path env now =>
    obtain ⟨r, daemon, reply, _, hstart, rfl⟩ := step_startHandover he
    obtain ⟨_, _, rfl⟩ := SystemDaemon.onStartHandover_spec hstart
    exact le_refl _
  | takeClient path fdAppend now queueNow =>
    obtain ⟨r, daemon, reply, _, htake, rfl⟩ := step_takeClient he
    exact (SystemDaemon.onTakeClient_leavesOut hT htake (Nat.succ_ne_self r)).allocated

theorem stagesLeft_step {e : SystemEvent} (h : s.daemon.StagesLeft) (hlast : s.finishes e = false)
    (he : s.step e = some s') : s'.daemon.StagesLeft := by
  by_cases hincoming : ∃ env, e = .incoming env
  · -- a connection may bring a new client
    obtain ⟨env, rfl⟩ := hincoming
    obtain ⟨result, _, hdelegated, hdaemon | ⟨session, request, hready⟩⟩ :=
      incoming_spec h.table (step_incoming he)
    · rw [hdaemon]
      exact h.delegated hdelegated
    · have hd := h.delegated hdelegated
      exact hd.of_keepsStages (SystemDaemon.onSessionReady_evolves hd.table hready)
        (SystemDaemon.onSessionReady_keepsStages hready)
  · have hevolves := step_evolves h.table (fun env heq => hincoming ⟨env, heq⟩) he
    by_cases htake : ∃ path fdAppend now queueNow, e = .takeClient path fdAppend now queueNow
    · obtain ⟨path, fdAppend, now, queueNow, rfl⟩ := htake
      obtain ⟨r, daemon, reply, hr, htake, rfl⟩ := step_takeClient he
      refine h.takeClient htake ?_
      intro c hc
      simpa [finishes, hr, show s.daemon.clients r = some c from hc] using hlast
    · refine h.of_keepsStages hevolves (step_keepsStages h.table ?_ ?_ he)
      · exact fun env heq => hincoming ⟨env, heq⟩
      · exact fun path fdAppend now queueNow heq => htake ⟨path, fdAppend, now, queueNow, heq⟩

/-- A connection with this token is routed to the client that it leads to, unless a
session of this process serves the client. -/
theorem delegate_routes {token : CString} (hfound : s.daemon.findClientByToken token = some ref)
    (hclient : s.daemon.clients ref = some client) (hsession : client.session = none) :
    ∃ env result, s.delegate env = some result ∧ result.handled = true ∧
      result.takeClientReady = some (ref, client.useSystemCredentials) := by
  refine ⟨{ connection := 0, peek := some { routingToken := some token } },
    { daemon := s.daemon.rebindClient ref client 0 0
      handled := true
      takeClientReady := some (ref, client.useSystemCredentials) }, ?_, rfl, rfl⟩
  simp only [delegate, SystemDaemon.delegate, SystemDaemon.existingClient, Option.bind_some, hfound,
    hclient, Option.map_some, hsession, if_true]

/-- The client of a finished hand-over stays tracked, and swallows its next connection. -/
theorem finishes_swallows {e : SystemEvent} (h : s.daemon.StagesLeft) (hlast : ¬ s.finishes e = false)
    (he : s.step e = some s') : ¬ s'.NoneSwallowed := by
  have hT' := step_tableConsistent h.table he
  cases e with
  | takeClient path fdAppend now queueNow =>
    obtain ⟨r, daemon, reply, hr, htake, rfl⟩ := step_takeClient he
    obtain ⟨c, hc, hends⟩ := SystemDaemon.onTakeClient_spec h.table htake
    simp only [finishes, hr, Option.bind_some, hc, Option.any_some, Bool.not_eq_false,
      Bool.and_eq_true, decide_eq_true_eq] at hlast
    obtain ⟨htakes, hcount⟩ := hlast
    rcases hends with ⟨hfails, _⟩ | ⟨_, _, rfl⟩ | ⟨_, hfirst, _⟩
    · rw [htakes] at hfails
      simp at hfails
    · -- taken, and not removed: its token still leads to it
      have hlive : (s.daemon.setClient r (SystemDaemon.takenClient c now)).clients r =
          some (SystemDaemon.takenClient c now) := SystemDaemon.setClient_self
      obtain ⟨token, hfound⟩ :=
        SystemDaemon.findClientByToken_of_spelled hT' hlive ((h.spelled r c hc).of_id rfl)
      obtain ⟨env, result, hdelegate, _, hready⟩ :=
        delegate_routes (s := { s with daemon := _ }) hfound hlive rfl
      intro hnone
      exact UInt32.not_lt.mpr hcount (hnone.routed env result r _ _ hdelegate hready hlive)
    · exact absurd hcount hfirst
  | _ => simp [finishes] at hlast

theorem stagesLeft_init : ({} : SystemState).daemon.StagesLeft :=
  ⟨systemMachine_tableConsistent.init {} systemMachine_init, by simp, by simp⟩

end SystemState

/-- No finished hand-over swallows a connection, in any state of a run, exactly when no
second TakeClient of the run completes. -/
theorem none_swallowed_iff (es : List SystemEvent) (t : SystemState)
    (hrun : systemMachine.run {} es = some t) :
    systemMachine.StatesMeet SystemState.NoneSwallowed {} es ↔
      systemMachine.StepsMeet (fun s e => s.finishes e = false) {} es :=
  EventMachine.statesMeet_iff_stepsMeet (K := fun s => s.daemon.StagesLeft)
    (fun _ h => SystemState.noneSwallowed_of_stagesLeft h)
    (fun _ _ _ h hlast he => SystemState.stagesLeft_step h hlast he)
    (fun _ _ _ h hlast he => SystemState.finishes_swallows h hlast he)
    SystemState.stagesLeft_init es hrun

/-- The first stage of a client swallows nothing. -/
theorem none_swallowed_first_stage :
    systemMachine.StatesMeet SystemState.NoneSwallowed {} [.start true true, tokenSeven 1 [],
      .requestHandover 0 1, .takeClient tokenSevenPath (.ok ()) 2 3] :=
  (none_swallowed_iff [.start true true, tokenSeven 1 [], .requestHandover 0 1,
    .takeClient tokenSevenPath (.ok ()) 2 3] _ rfl).mpr (by decide)

/-- Both stages are done, and the client is still found by the token 7: the next
connection with it is held for a TakeClient that nobody makes. -/
theorem finished_client_swallows :
    ∃ s env result ref credentials client, systemMachine.Reachable s ∧
      s.delegate env = some result ∧ result.handled = true ∧
      result.takeClientReady = some (ref, credentials) ∧ s.daemon.clients ref = some client ∧
      ¬ client.handoverCount < 2 := by
  refine ⟨_, { connection := 3, peek := some { routingToken := some ['7'] } }, _, 0, _, _,
    EventMachine.reachable_of_run systemMachine_init [.start true true, tokenSeven 1 [],
      .requestHandover 0 1, .takeClient tokenSevenPath (.ok ()) 2 3, .requestHandover 4 5,
      tokenSeven 2 [], .takeClient tokenSevenPath (.ok ()) 6 7] rfl, rfl, rfl, rfl, rfl, ?_⟩
  decide

end RemoteDesktop.DRD
