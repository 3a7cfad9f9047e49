import RemoteDesktop.DRDListenerIncoming

/-! The queue of clients that wait to be handed out. -/
namespace RemoteDesktop.DRD
namespace SystemDaemon

/-- Every waiting client is registered under its path, waits once and is not
assigned, and the queue keeps to its bound. -/
structure PendingCoherent (d : SystemDaemon) : Prop where
  waiting : ∀ ref ∈ d.pendingClients, ∃ client, d.clients ref = some client ∧
    d.remoteClients client.id = some ref ∧ client.assigned = false
  nodup : d.pendingClients.Nodup
  bounded : d.pendingClients.length ≤ maxPendingClients

variable {d d' : SystemDaemon} {ref : ClientRef} {client : RemoteClient} {now : ℤ}

/-- In a consistent table it is enough that the waiting clients live. -/
theorem PendingCoherent.of_live (hT : d.TableConsistent)
    (hwaiting : ∀ ref ∈ d.pendingClients, ∃ client, d.clients ref = some client ∧
      client.assigned = false) (hnodup : d.pendingClients.Nodup)
    (hbounded : d.pendingClients.length ≤ maxPendingClients) : d.PendingCoherent where
  waiting := by
    intro ref href
    obtain ⟨client, hclient, hassigned⟩ := hwaiting ref href
    exact ⟨client, hclient, hT.client hclient, hassigned⟩
  nodup := hnodup
  bounded := hbounded

theorem PendingCoherent.live (h : d.PendingCoherent) (href : ref ∈ d.pendingClients) :
    ∃ client, d.clients ref = some client ∧ client.assigned = false := by
  obtain ⟨client, hclient, _, hassigned⟩ := h.waiting ref href
  exact ⟨client, hclient, hassigned⟩

/-- A write to a client that waits must leave it unassigned. -/
theorem PendingCoherent.setClient (h : d.PendingCoherent) (hT : d.TableConsistent)
    (hclient : d.clients ref = some client) (client' : RemoteClient) (hid : client'.id = client.id)
    (hassigned : ref ∈ d.pendingClients → client'.assigned = false) :
    (d.setClient ref client').PendingCoherent := by
  refine .of_live (hT.setClient hclient client' hid) (fun r hr => ?_) h.nodup h.bounded
  by_cases hne : r = ref
  · subst hne
    exact ⟨client', setClient_self, hassigned hr⟩
  · rw [setClient_of_ne hne]
    exact h.live hr

/-- A write that keeps `assigned`. -/
theorem PendingCoherent.setClient_of_assigned_eq (h : d.PendingCoherent) (hT : d.TableConsistent)
    (hclient : d.clients ref = some client) (client' : RemoteClient) (hid : client'.id = client.id)
    (hassigned : client'.assigned = client.assigned) : (d.setClient ref client').PendingCoherent := by
  refine h.setClient hT hclient client' hid fun href => ?_
  obtain ⟨c, hc, hfree⟩ := h.live href
  rw [hclient, Option.some.injEq] at hc
  rw [hassigned, hc]
  exact hfree

/-- A removal leaves no reference to the client in the queue. -/
theorem PendingCoherent.not_mem_of_removed (h : d.PendingCoherent)
    (hremoved : Removed d ref client d') : ref ∉ d'.pendingClients := by
  rw [hremoved.pendingClients]
  exact h.nodup.not_mem_erase

theorem PendingCoherent.removed (h : d.PendingCoherent) (hT : d.TableConsistent)
    (hclient : d.clients ref = some client) (hremoved : Removed d ref client d') :
    d'.PendingCoherent := by
  have hgone := h.not_mem_of_removed hremoved
  have hqueue := hremoved.pendingClients
  refine .of_live (hremoved.tableConsistent hT hclient) (fun r hr => ?_) ?_ ?_
  · have hne : r ≠ ref := fun heq => hgone (heq ▸ hr)
    rw [hqueue] at hr
    rw [hremoved.clients_of_ne hne]
    exact h.live (List.mem_of_mem_erase hr)
  · rw [hqueue]
    exact h.nodup.erase ref
  · rw [hqueue]
    exact le_trans List.length_erase_le h.bounded

theorem PendingCoherent.pruned (h : d.PendingCoherent)
    (hpruned : Pruned d now d.pendingClients d') (hqueue : d'.pendingClients = d.freshPending now) :
    d'.PendingCoherent := by
  have hsub : (d.freshPending now).Sublist d.pendingClients := List.filter_sublist
  refine .of_live hpruned.table (fun r hr => ?_) ?_ ?_
  · rw [hqueue, freshPending, List.mem_filter] at hr
    have hfresh : d.staleAt now r = false := by simpa using hr.2
    rw [hpruned.clients, if_neg (by simp [hfresh])]
    exact h.live hr.1
  · rw [hqueue]
    exact h.nodup.sublist hsub
  · rw [hqueue]
    exact le_trans hsub.length_le h.bounded

/-- A client that does not wait yet joins the queue, or is removed. -/
theorem PendingCoherent.queuedOrRemoved {queued : Bool} (h : d.PendingCoherent)
    (hT : d.TableConsistent) (hq : QueuedOrRemoved d ref client now d' queued)
    (href : ref ∉ d.pendingClients) : d'.PendingCoherent := by
  have hT' := hq.tableConsistent hT
  cases hq with
  | assigned => exact h
  | queued hassigned hpruned hqueue hlive hroom =>
    have hP := h.pruned hpruned hqueue
    have hnotin : ref ∉ d.freshPending now := fun hin => href (List.mem_of_mem_filter hin)
    -- the client is touched where it is, then put at the end
    have hset := hP.setClient hpruned.table hlive (client.touch now) rfl fun _ => hassigned
    refine .of_live hT' (fun r hr => ?_) ?_ ?_
    · rcases List.mem_append.mp hr with hr | hr
      · rw [← hqueue] at hr
        exact hset.live hr
      · rw [List.mem_singleton.mp hr]
        exact ⟨client.touch now, setClient_self, hassigned⟩
    · rw [← hqueue] at hnotin ⊢
      exact hP.nodup.append (List.nodup_singleton ref) (by simpa using hnotin)
    · rw [List.length_append, List.length_singleton]
      exact hroom
  | removed hassigned hpruned hqueue hlive hfull hremoved =>
    exact (h.pruned hpruned hqueue).removed hpruned.table hlive hremoved

theorem PendingCoherent.registered {connection : Connection} {info : RoutingTokenInfo}
    {id token : CString} {value : UInt32} {registered : Bool} (h : d.PendingCoherent)
    (hT : d.TableConsistent)
    (hr : Registered d connection info now id token value client d' registered) :
    d'.PendingCoherent := by
  have hT' := hr.insertClient_table hT
  have hnew : d.nextClient ∉ d.pendingClients := fun hin => lt_irrefl _ (hT.pending hin)
  have hinserted : (d.insertClient client connection).PendingCoherent := by
    refine .of_live hT' (fun r hin => ?_) h.nodup h.bounded
    rw [insertClient_of_ne connection (hT.pending hin).ne]
    exact h.live hin
  exact hinserted.queuedOrRemoved hT' hr.queue hnew

theorem PendingCoherent.delegated {env : IncomingEnv} {result : DelegateResult}
    (h : d.PendingCoherent) (hT : d.TableConsistent) (hd : Delegated d env result) :
    result.daemon.PendingCoherent := by
  cases hd with
  | unpeeked => exact h
  | rebound hpeek htoken hlive hsession =>
    have hset := h.setClient_of_assigned_eq hT hlive
      { (RemoteClient.touch _ env.now) with connection := some env.connection } rfl rfl
    exact ⟨hset.waiting, hset.nodup, hset.bounded⟩
  | registered hpeek hbusy hregistered => exact h.registered hT hregistered

theorem PendingCoherent.sessionReady {connection : Connection} {session : SessionRef}
    {env : SessionReadyEnv} {request : Option DisplayRequest} (h : d.PendingCoherent)
    (hT : d.TableConsistent)
    (hready : d.onSessionReady connection session env now = some (d', request)) :
    d'.PendingCoherent := by
  rcases onSessionReady_spec hready with rfl | ⟨ref, client, hclient, rfl⟩
  · exact h
  · obtain ⟨hid, _, _, hassigned⟩ := sessionReadyClient_identity client session env now
    exact h.setClient_of_assigned_eq hT hclient _ hid hassigned

/-- RequestHandover takes the head out of the queue before it assigns it. -/
theorem PendingCoherent.requestHandover {pruneNow : ℤ} {reply : Except String (ClientRef × CString)}
    (h : d.PendingCoherent) (hT : d.TableConsistent)
    (hrequest : d.handleRequestHandover pruneNow now = some (d', reply)) : d'.PendingCoherent := by
  have hT' := (handleRequestHandover_evolves hT hrequest).table
  obtain ⟨d₁, hpruned, hqueue, hcases⟩ := handleRequestHandover_spec hT hrequest
  have hP := h.pruned hpruned hqueue
  rcases hcases with ⟨_, rfl, _⟩ | ⟨ref, refs, client, hcons, hclient, rfl, _⟩
  · exact hP
  · have hnodup := hP.nodup
    have hbounded := hP.bounded
    rw [hcons] at hnodup hbounded
    obtain ⟨hhead, hrest⟩ := List.nodup_cons.mp hnodup
    refine .of_live hT' (fun r hr => ?_) hrest ?_
    · have hne : r ≠ ref := fun heq => hhead (heq ▸ hr)
      rw [show _ = _ from setClient_of_ne hne]
      exact hP.live (hcons ▸ List.mem_cons_of_mem _ hr)
    · exact Nat.le_of_succ_le hbounded

/-- StartHandover redirects a local session, which makes the client assigned. -/
def redirectsLocally (client : RemoteClient) (env : StartHandoverEnv) : Bool :=
  (loadTlsMaterial env.tlsCredentials).isOk && client.session.isSome && env.redirected

theorem startHandoverClient_assigned (client : RemoteClient) (env : StartHandoverEnv) (now : ℤ) :
    (startHandoverClient client env now).1.assigned =
      (redirectsLocally client env || client.assigned) := by
  simp only [startHandoverClient, redirectsLocally]
  cases htls : loadTlsMaterial env.tlsCredentials with
  | error message => simp [RemoteClient.touch, Except.isOk, Except.toBool]
  | ok material =>
    cases hsession : client.session with
    | none => simp [RemoteClient.touch, hsession]
    | some session =>
      cases hredirected : env.redirected <;>
        simp [RemoteClient.touch, hsession, Except.isOk, Except.toBool]

/-- TakeClient puts the client into the queue: it goes on, the client has another
stage to come, and the queue has room. -/
def requeues (d : SystemDaemon) (ref : ClientRef) (client : RemoteClient)
    (fdAppend : Except String Unit) (now queueNow : ℤ) : Bool :=
  takesClient client fdAppend && !decide (2 ≤ client.handoverCount + 1) &&
    decide (((d.setClient ref (requeuedClient client now)).freshPending queueNow).length <
      maxPendingClients)

theorem PendingCoherent.takeClient {fdAppend : Except String Unit} {queueNow : ℤ}
    {reply : HandoverReply} (h : d.PendingCoherent) (hT : d.TableConsistent)
    (htake : d.onTakeClient ref fdAppend now queueNow = some (d', reply))
    (hsafe : ∀ client ∈ d.clients ref, ref ∈ d.pendingClients →
      d.requeues ref client fdAppend now queueNow = false) : d'.PendingCoherent := by
  obtain ⟨client, hclient, ⟨_, rfl⟩ | ⟨_, _, rfl⟩ | ⟨htakes, hcount, queued, hq⟩⟩ :=
    onTakeClient_spec hT htake
  · exact h.setClient_of_assigned_eq hT hclient _ rfl rfl
  · exact h.setClient_of_assigned_eq hT hclient _ rfl rfl
  · have hT₁ := hT.setClient hclient (requeuedClient client now) rfl
    have h₁ := h.setClient hT hclient (requeuedClient client now) rfl fun _ => rfl
    by_cases href : ref ∈ d.pendingClients
    · have hfull := hsafe client hclient href
      simp only [requeues, htakes, hcount, decide_false, Bool.not_false, Bool.and_self,
        Bool.true_and, decide_eq_false_iff_not] at hfull
      cases hq with
      | assigned hassigned => simp [requeuedClient] at hassigned
      | queued _ _ _ _ hroom => exact absurd hroom hfull
      | removed _ hpruned hqueue hlive _ hremoved =>
        exact (h₁.pruned hpruned hqueue).removed hpruned.table hlive hremoved
    · exact h₁.queuedOrRemoved hT₁ hq href

/-- A waiting client that TakeClient puts into the queue is there twice. -/
theorem requeues_breaks {fdAppend : Except String Unit} {queueNow : ℤ} {reply : HandoverReply}
    (hT : d.TableConsistent) (hclient : d.clients ref = some client)
    (href : ref ∈ d.pendingClients)
    (hrequeues : d.requeues ref client fdAppend now queueNow = true)
    (htake : d.onTakeClient ref fdAppend now queueNow = some (d', reply)) :
    ¬ d'.pendingClients.Nodup := by
  simp only [requeues, Bool.and_eq_true, Bool.not_eq_true', decide_eq_false_iff_not,
    decide_eq_true_eq] at hrequeues
  obtain ⟨⟨htakes, hcount⟩, hroom⟩ := hrequeues
  obtain ⟨client', hclient', ⟨hfails, _⟩ | ⟨_, hlast, _⟩ | ⟨_, _, queued, hq⟩⟩ :=
    onTakeClient_spec hT htake <;>
    rw [hclient, Option.some.injEq] at hclient' <;> subst hclient'
  · rw [htakes] at hfails
    simp at hfails
  · exact absurd hlast hcount
  · cases hq with
    | assigned hassigned => simp [requeuedClient] at hassigned
    | queued _ hpruned hqueue hlive _ =>
      -- the client outlived the pruning, so it is not stale and still in its place
      have hfresh : (d.setClient ref (requeuedClient client now)).staleAt queueNow ref = false := by
        by_contra hstale
        rw [hpruned.clients, if_pos ⟨href, by simpa using hstale⟩] at hlive
        simp at hlive
      have hin : ref ∈ (d.setClient ref (requeuedClient client now)).freshPending queueNow := by
        rw [freshPending, List.mem_filter]
        exact ⟨href, by simp [hfresh]⟩
      intro hnodup
      exact (List.nodup_append.mp hnodup).2.2 ref hin ref (List.mem_singleton_self ref) rfl
    | removed _ _ _ _ hfull _ => omega

end SystemDaemon

namespace SystemState

variable {s s' : SystemState} {ref : ClientRef}

/-- No waiting client is redirected locally, and none is put into the queue again. -/
def QueuesOnce (s : SystemState) : SystemEvent → Prop
  | .startHandover path env _ => ∀ ref ∈ s.handoverObject path, ∀ client ∈ s.daemon.clients ref,
      ref ∈ s.daemon.pendingClients → SystemDaemon.redirectsLocally client env = false
  | .takeClient path fdAppend now queueNow =>
    ∀ ref ∈ s.handoverObject path, ∀ client ∈ s.daemon.clients ref,
      ref ∈ s.daemon.pendingClients → s.daemon.requeues ref client fdAppend now queueNow = false
  | _ => True

instance decidableQueuesOnce (s : SystemState) : DecidablePred s.QueuesOnce
  | .startHandover path env _ =>
    inferInstanceAs (Decidable (∀ ref ∈ s.handoverObject path, ∀ client ∈ s.daemon.clients ref,
      ref ∈ s.daemon.pendingClients → SystemDaemon.redirectsLocally client env = false))
  | .takeClient path fdAppend now queueNow =>
    inferInstanceAs (Decidable (∀ ref ∈ s.handoverObject path, ∀ client ∈ s.daemon.clients ref,
      ref ∈ s.daemon.pendingClients → s.daemon.requeues ref client fdAppend now queueNow = false))
  | .start .. | .stop | .incoming .. | .sessionReady .. | .sessionClosed ..
  | .requestHandover .. => instDecidableTrue

/-- The invariant behind `PendingCoherent`. -/
structure QueueKept (s : SystemState) : Prop where
  table : s.daemon.TableConsistent
  pending : s.daemon.PendingCoherent

theorem QueueKept.step {e : SystemEvent} (h : s.QueueKept) (hsafe : s.QueuesOnce e)
    (he : s.step e = some s') : s'.QueueKept := by
  refine ⟨step_tableConsistent h.table he, ?_⟩
  cases e with
  | start listenerOk busOk =>
    obtain ⟨listener, busConnection, manager, heq, _⟩ := s.daemon.start_eq listenerOk busOk
    rw [SystemState.step, Option.some.injEq] at he
    rw [← he, heq]
    exact ⟨h.pending.waiting, h.pending.nodup, h.pending.bounded⟩
  | stop =>
    rw [SystemState.step, Option.some.injEq] at he
    rw [← he]
    exact ⟨by simp [SystemDaemon.stop], by simp [SystemDaemon.stop], by simp [SystemDaemon.stop]⟩
  | incoming env =>
    obtain ⟨result, _, hdelegated, hdaemon | ⟨session, request, hready⟩⟩ :=
      incoming_spec h.table (step_incoming he)
    · exact hdaemon ▸ h.pending.delegated h.table hdelegated
    · exact (h.pending.delegated h.table hdelegated).sessionReady
        (hdelegated.tableConsistent h.table) hready
  | sessionReady connection session env now =>
    obtain ⟨⟨daemon, request⟩, hready, rfl⟩ := Option.map_eq_some_iff.mp he
    exact h.pending.sessionReady h.table hready
  | sessionClosed session =>
    rw [SystemState.step, Option.some.injEq] at he
    rw [← he]
    exact h.pending
  | requestHandover pruneNow now =>
    obtain ⟨daemon, reply, hrequest, rfl⟩ := SystemState.step_requestHandover he
    exact h.pending.requestHandover h.table hrequest
  | startHandover path env now =>
    obtain ⟨ref, daemon, reply, href, hstart, rfl⟩ := SystemState.step_startHandover he
    obtain ⟨client, hclient, rfl⟩ := SystemDaemon.onStartHandover_spec hstart
    refine h.pending.setClient h.table hclient _
      (SystemDaemon.startHandoverClient_identity client env now).1 fun hin => ?_
    -- a client that waits is not assigned, and the guard keeps it so
    obtain ⟨c, hc, hfree⟩ := h.pending.live hin
    rw [hclient, Option.some.injEq] at hc
    rw [SystemDaemon.startHandoverClient_assigned, hsafe ref href client hclient hin, hc, hfree]
    rfl
  | takeClient path fdAppend now queueNow =>
    obtain ⟨ref, daemon, reply, href, htake, rfl⟩ := SystemState.step_takeClient he
    exact h.pending.takeClient h.table htake (hsafe ref href)

/-- Redirecting a waiting client, or queueing it again, shows at once. -/
theorem QueueKept.violation_breaks {e : SystemEvent} (h : s.QueueKept) (hviolates : ¬ s.QueuesOnce e)
    (he : s.step e = some s') : ¬ s'.daemon.PendingCoherent := by
  intro hpending
  cases e with
  | startHandover path env now =>
    simp only [QueuesOnce, not_forall, Bool.not_eq_false] at hviolates
    obtain ⟨ref, href, client, hclient, hin, hredirects⟩ := hviolates
    obtain ⟨ref', daemon, reply, href', hstart, rfl⟩ := SystemState.step_startHandover he
    obtain rfl : ref = ref' := Option.some.inj (href.symm.trans href')
    obtain ⟨client', hclient', rfl⟩ := SystemDaemon.onStartHandover_spec hstart
    obtain rfl : client = client' := Option.some.inj (hclient.symm.trans hclient')
    obtain ⟨c, hc, hfree⟩ := hpending.live hin
    rw [SystemDaemon.setClient_self, Option.some.injEq] at hc
    -- the redirect assigns a client that is still in the queue
    rw [← hc, SystemDaemon.startHandoverClient_assigned, hredirects] at hfree
    simp at hfree
  | takeClient path fdAppend now queueNow =>
    simp only [QueuesOnce, not_forall, Bool.not_eq_false] at hviolates
    obtain ⟨ref, href, client, hclient, hin, hrequeues⟩ := hviolates
    obtain ⟨ref', daemon, reply, href', htake, rfl⟩ := SystemState.step_takeClient he
    obtain rfl : ref = ref' := Option.some.inj (href.symm.trans href')
    exact SystemDaemon.requeues_breaks h.table hclient hin hrequeues htake hpending.nodup
  | _ => exact hviolates trivial

theorem queueKept_init : ({} : SystemState).QueueKept :=
  ⟨systemMachine_tableConsistent.init {} systemMachine_init, by simp, by simp, by simp⟩

theorem queueKept_inductive : systemMachine.Inductive QueuesOnce QueueKept where
  init := by
    intro s hs
    rw [show s = {} from hs]
    exact queueKept_init
  step := fun _ _ _ h hsafe he => h.step hsafe he

/-- The call is a TakeClient on this client. -/
def Takes (ref : ClientRef) (s : SystemState) : SystemEvent → Prop
  | .takeClient path _ _ _ => s.handoverObject path = some ref
  | _ => False

/-- The client was allocated, and it does not wait. -/
structure HandedOut (ref : ClientRef) (s : SystemState) : Prop where
  allocated : ref < s.daemon.nextClient
  notWaiting : ref ∉ s.daemon.pendingClients

end SystemState

namespace SystemDaemon

variable {d d' : SystemDaemon} {ref : ClientRef} {client : RemoteClient} {now : ℤ}

/-- What a call does to the queue, seen from a client that does not wait. -/
structure LeavesOut (d d' : SystemDaemon) (ref : ClientRef) : Prop where
  allocated : d.nextClient ≤ d'.nextClient
  notWaiting : ref ∉ d.pendingClients → ref ∉ d'.pendingClients

theorem LeavesOut.trans {d₁ d₂ : SystemDaemon} (h₁ : LeavesOut d d₁ ref)
    (h₂ : LeavesOut d₁ d₂ ref) : LeavesOut d d₂ ref :=
  ⟨le_trans h₁.allocated h₂.allocated, fun h => h₂.notWaiting (h₁.notWaiting h)⟩

theorem QueuedOrRemoved.leavesOut {queued : Bool} {other : ClientRef}
    (h : QueuedOrRemoved d ref client now d' queued) (hne : other ≠ ref) : LeavesOut d d' other := by
  have hfresh : other ∉ d.pendingClients → other ∉ d.freshPending now :=
    fun hout hin => hout (List.mem_of_mem_filter hin)
  cases h with
  | assigned => exact ⟨le_refl _, id⟩
  | queued hassigned hpruned hqueue hlive hroom =>
    refine ⟨hpruned.nextClient.ge, ?_⟩
    intro hout hin
    rcases List.mem_append.mp hin with hin | hin
    · exact hfresh hout hin
    · exact hne (List.mem_singleton.mp hin)
  | removed hassigned hpruned hqueue hlive hfull hremoved =>
    refine ⟨by rw [hremoved.nextClient, hpruned.nextClient], ?_⟩
    intro hout hin
    rw [hremoved.pendingClients, hqueue] at hin
    exact hfresh hout (List.mem_of_mem_erase hin)

theorem Delegated.leavesOut {env : IncomingEnv} {result : DelegateResult}
    (h : Delegated d env result) (hallocated : ref < d.nextClient) :
    LeavesOut d result.daemon ref := by
  cases h with
  | unpeeked => exact ⟨le_refl _, id⟩
  | rebound => exact ⟨le_refl _, id⟩
  | registered hpeek hbusy hregistered =>
    have hq := hregistered.queue.leavesOut hallocated.ne
    exact ⟨le_trans (Nat.le_succ _) hq.allocated, hq.notWaiting⟩

theorem onSessionReady_leavesOut {connection : Connection} {session : SessionRef}
    {env : SessionReadyEnv} {request : Option DisplayRequest}
    (h : d.onSessionReady connection session env now = some (d', request)) :
    LeavesOut d d' ref := by
  rcases onSessionReady_spec h with rfl | ⟨_, _, _, rfl⟩ <;> exact ⟨le_refl _, id⟩

theorem handleRequestHandover_leavesOut {pruneNow : ℤ}
    {reply : Except String (ClientRef × CString)} (hT : d.TableConsistent)
    (h : d.handleRequestHandover pruneNow now = some (d', reply)) : LeavesOut d d' ref := by
  obtain ⟨d₁, hpruned, hqueue, hcases⟩ := handleRequestHandover_spec hT h
  have hfresh : ref ∉ d.pendingClients → ref ∉ d₁.pendingClients := by
    intro hout hin
    rw [hqueue] at hin
    exact hout (List.mem_of_mem_filter hin)
  rcases hcases with ⟨_, rfl, _⟩ | ⟨_, refs, _, hcons, _, rfl, _⟩
  · exact ⟨hpruned.nextClient.ge, hfresh⟩
  · refine ⟨hpruned.nextClient.ge, fun hout hin => hfresh hout ?_⟩
    rw [hcons]
    exact List.mem_cons_of_mem _ hin

theorem onTakeClient_leavesOut {other : ClientRef} {fdAppend : Except String Unit} {queueNow : ℤ}
    {reply : HandoverReply} (hT : d.TableConsistent)
    (h : d.onTakeClient ref fdAppend now queueNow = some (d', reply)) (hne : other ≠ ref) :
    LeavesOut d d' other := by
  obtain ⟨client, _, ⟨_, rfl⟩ | ⟨_, _, rfl⟩ | ⟨_, _, queued, hq⟩⟩ := onTakeClient_spec hT h
  · exact ⟨le_refl _, id⟩
  · exact ⟨le_refl _, id⟩
  · exact ⟨(hq.leavesOut hne).allocated, (hq.leavesOut hne).notWaiting⟩

end SystemDaemon

namespace SystemState

variable {s s' : SystemState} {ref : ClientRef}

/-- Only a TakeClient call brings a client that was handed out back into the queue. -/
theorem HandedOut.step {e : SystemEvent} (hT : s.daemon.TableConsistent) (h : HandedOut ref s)
    (htakes : ¬ s.Takes ref e) (he : s.step e = some s') : HandedOut ref s' := by
  -- no step puts the client back, since only its own TakeClient does
  have hleaves : SystemDaemon.LeavesOut s.daemon s'.daemon ref := by
    cases e with
    | start listenerOk busOk =>
      obtain ⟨listener, busConnection, manager, heq, _⟩ := s.daemon.start_eq listenerOk busOk
      rw [SystemState.step, Option.some.injEq] at he
      rw [← he, heq]
      exact ⟨le_refl _, id⟩
    | stop =>
      rw [SystemState.step, Option.some.injEq] at he
      rw [← he]
      exact ⟨le_refl _, fun _ => by simp [SystemDaemon.stop]⟩
    | incoming env =>
      obtain ⟨result, _, hdelegated, hdaemon | ⟨session, request, hready⟩⟩ :=
        incoming_spec hT (step_incoming he)
      · rw [hdaemon]
        exact hdelegated.leavesOut h.allocated
      · exact (hdelegated.leavesOut h.allocated).trans
          (SystemDaemon.onSessionReady_leavesOut hready)
    | sessionReady connection session env now =>
      obtain ⟨⟨daemon, request⟩, hready, rfl⟩ := Option.map_eq_some_iff.mp he
      exact SystemDaemon.onSessionReady_leavesOut hready
    | sessionClosed session =>
      rw [SystemState.step, Option.some.injEq] at he
      rw [← he]
      exact ⟨le_refl _, id⟩
    | requestHandover pruneNow now =>
      obtain ⟨daemon, reply, hrequest, rfl⟩ := SystemState.step_requestHandover he
      exact SystemDaemon.handleRequestHandover_leavesOut hT hrequest
    | startHandover path env now =>
      obtain ⟨r, daemon, reply, _, hstart, rfl⟩ := SystemState.step_startHandover he
      obtain ⟨_, _, rfl⟩ := SystemDaemon.onStartHandover_spec hstart
      exact ⟨le_refl _, id⟩
    | takeClient path fdAppend now queueNow =>
      obtain ⟨r, daemon, reply, hr, htake, rfl⟩ := SystemState.step_takeClient he
      have hne : ref ≠ r := fun heq => htakes (heq ▸ hr)
      exact SystemDaemon.onTakeClient_leavesOut hT htake hne
  exact ⟨lt_of_lt_of_le h.allocated hleaves.allocated, hleaves.notWaiting h.notWaiting⟩

theorem HandedOut.run {t : SystemState} (es : List SystemEvent) (hT : s.daemon.TableConsistent)
    (h : HandedOut ref s) (htakes : systemMachine.StepsMeet (fun s e => ¬ s.Takes ref e) s es)
    (hrun : systemMachine.run s es = some t) : t.daemon.TableConsistent ∧ HandedOut ref t := by
  induction es generalizing s with
  | nil =>
    obtain rfl : s = t := Option.some.inj hrun
    exact ⟨hT, h⟩
  | cons e es ih =>
    obtain ⟨s', he, hrun'⟩ := EventMachine.run_cons_some hrun
    exact ih (step_tableConsistent hT he) (h.step hT htakes.1 he) (htakes.2 s' he) hrun'

theorem QueueKept.handedOut {pruneNow now : ℤ} {daemon : SystemDaemon} {path : CString}
    (h : s.QueueKept)
    (hrequest : s.daemon.handleRequestHandover pruneNow now = some (daemon, .ok (ref, path))) :
    HandedOut ref { s with daemon := daemon } := by
  obtain ⟨d₁, hpruned, hqueue, ⟨_, _, hreply⟩ | ⟨r, refs, client, hcons, hclient, rfl, hreply⟩⟩ :=
    SystemDaemon.handleRequestHandover_spec h.table hrequest
  · simp at hreply
  · rw [Except.ok.injEq, Prod.mk.injEq] at hreply
    obtain ⟨rfl, _⟩ := hreply
    have hnodup := (h.pending.pruned hpruned hqueue).nodup
    rw [hcons] at hnodup
    exact ⟨hpruned.table.allocated hclient, (List.nodup_cons.mp hnodup).1⟩

/-- A client that does not wait is not handed out. -/
theorem HandedOut.not_returned {pruneNow now : ℤ} {daemon : SystemDaemon} {path : CString}
    (hT : s.daemon.TableConsistent) (h : HandedOut ref s) :
    s.daemon.handleRequestHandover pruneNow now ≠ some (daemon, .ok (ref, path)) := by
  intro hrequest
  obtain ⟨d₁, _, hqueue, ⟨_, _, hreply⟩ | ⟨r, refs, client, hcons, _, _, hreply⟩⟩ :=
    SystemDaemon.handleRequestHandover_spec hT hrequest
  · simp at hreply
  · rw [Except.ok.injEq, Prod.mk.injEq] at hreply
    obtain ⟨rfl, _⟩ := hreply
    have hin : ref ∈ d₁.pendingClients := hcons ▸ List.mem_cons_self ..
    rw [hqueue] at hin
    exact h.notWaiting (List.mem_of_mem_filter hin)

/-- A removal leaves no reference to the client in the queue. -/
def RemovesAll (s : SystemState) : Prop :=
  ∀ ref daemon, s.daemon.removeClient ref = some daemon → ref ∉ daemon.pendingClients

/-- A client that RequestHandover returns is returned again only after a TakeClient. -/
def ReturnsOnce (s : SystemState) : Prop :=
  ∀ pruneNow now daemon ref path,
    s.daemon.handleRequestHandover pruneNow now = some (daemon, .ok (ref, path)) →
    ∀ es t, systemMachine.run { s with daemon := daemon } es = some t →
      systemMachine.StepsMeet (fun s e => ¬ s.Takes ref e) { s with daemon := daemon } es →
      ∀ pruneNow' now' daemon' path',
        t.daemon.handleRequestHandover pruneNow' now' ≠ some (daemon', .ok (ref, path'))

theorem QueueKept.removesAll (h : s.QueueKept) : s.RemovesAll := by
  intro ref daemon hremove
  obtain ⟨client, hclient, _⟩ := Option.map_eq_some_iff.mp hremove
  obtain ⟨d', hremove', hremoved⟩ := SystemDaemon.removeClient_spec h.table hclient
  obtain rfl : daemon = d' := Option.some.inj (hremove.symm.trans hremove')
  exact h.pending.not_mem_of_removed hremoved

theorem QueueKept.returnsOnce (h : s.QueueKept) : s.ReturnsOnce := by
  intro pruneNow now daemon ref path hrequest es t hrun htakes pruneNow' now' daemon' path'
  have hT := (SystemDaemon.handleRequestHandover_evolves h.table hrequest).table
  obtain ⟨hT', hout⟩ := HandedOut.run es hT (h.handedOut hrequest) htakes hrun
  exact hout.not_returned hT'

end SystemState

/-- Every state of a run has a coherent queue exactly when the run redirects no
waiting client locally and puts none into the queue again. Where such a run ends a
removal leaves no reference, and no client is returned twice without a TakeClient. -/
theorem pending_queue_coherent_iff (es : List SystemEvent) (t : SystemState)
    (hrun : systemMachine.run {} es = some t) :
    (systemMachine.StatesMeet (fun s => s.daemon.PendingCoherent) {} es ↔
      systemMachine.StepsMeet SystemState.QueuesOnce {} es) ∧
    (systemMachine.StepsMeet SystemState.QueuesOnce {} es → t.RemovesAll ∧ t.ReturnsOnce) := by
  constructor
  · exact EventMachine.statesMeet_iff_stepsMeet (fun _ h => h.pending)
      (fun _ _ _ h hsafe he => h.step hsafe he)
      (fun _ _ _ h hviolates he => h.violation_breaks hviolates he)
      SystemState.queueKept_init es hrun
  · intro hsafe
    have hreach := (EventMachine.ReachableIf.init systemMachine_init).run es hsafe hrun
    have hkept := SystemState.queueKept_inductive.holds hreach
    exact ⟨hkept.removesAll, hkept.returnsOnce⟩

/-- A client is handed out first and taken then, which puts it back into the queue. -/
theorem handed_out_client_queued_once :
    systemMachine.StatesMeet (fun s => s.daemon.PendingCoherent) {}
      [.start true true, tokenSeven 1 [], .requestHandover 0 0,
        .takeClient tokenSevenPath (.ok ()) 0 0] :=
  (pending_queue_coherent_iff [.start true true, tokenSeven 1 [], .requestHandover 0 0,
    .takeClient tokenSevenPath (.ok ()) 0 0] _ rfl).1.mpr (by decide)

/-- TakeClient on a client that still waits puts it into the queue twice, so it is
handed out twice. StartHandover on one with a session assigns it in its place. -/
theorem waiting_client_taken_or_redirected :
    (∃ s, systemMachine.Reachable s ∧ ¬ s.daemon.PendingCoherent ∧ ¬ s.ReturnsOnce) ∧
      ∃ s, systemMachine.Reachable s ∧ ¬ s.daemon.PendingCoherent := by
  constructor
  · refine ⟨_, EventMachine.reachable_of_run systemMachine_init
      [.start true true, tokenSeven 1 [], .takeClient tokenSevenPath (.ok ()) 0 0] rfl, ?_, ?_⟩
    · intro h
      exact absurd h.nodup (by decide)
    · intro h
      exact h 0 0 _ 0 _ rfl [] _ rfl trivial 0 0 _ _ rfl
  · refine ⟨_, EventMachine.reachable_of_run systemMachine_init
      [.start true true, tokenSeven 1 [],
        .startHandover tokenSevenPath { tlsCredentials := some (.ok ([], [])), redirected := true } 0]
      rfl, ?_⟩
    intro h
    obtain ⟨client, hclient, hfree⟩ := h.live (List.mem_singleton_self 0)
    rw [← Option.some.inj hclient] at hfree
    exact absurd hfree (by decide)

end RemoteDesktop.DRD
