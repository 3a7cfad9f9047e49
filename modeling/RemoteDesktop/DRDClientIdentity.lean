import RemoteDesktop.DRDListenerIncoming

/-! Each registered client has one identity in three spellings, as long as no
connection is registered under a number that is taken. -/
namespace RemoteDesktop.DRD

/-- The three spellings in one record. -/
structure RemoteClient.Coherent (client : RemoteClient) : Prop where
  path : getIdFromRoutingToken client.remoteId = some client.id
  token : client.routing.routingToken.bind parseRoutingToken = some client.remoteId

namespace SystemDaemon

variable {d d' : SystemDaemon} {ref : ClientRef} {client : RemoteClient} {now : ℤ}

/-- Path, number and token of every tracked client agree, the token leads back to
the client, and no two clients have one number. -/
structure IdentityCoherent (d : SystemDaemon) : Prop where
  client : ∀ id ref, d.remoteClients id = some ref → ∃ client, d.clients ref = some client ∧
    client.id = handoversObjectPath ++ '/' :: Nat.toDigits 10 client.remoteId.toNat ∧
    ∃ token, client.routing.routingToken = some token ∧
      parseRoutingToken token = some client.remoteId ∧ d.findClientByToken token = some ref
  distinct : ∀ id₁ id₂ ref₁ ref₂ client₁ client₂, d.remoteClients id₁ = some ref₁ →
    d.remoteClients id₂ = some ref₂ → d.clients ref₁ = some client₁ → d.clients ref₂ = some client₂ →
    ref₁ ≠ ref₂ → client₁.remoteId ≠ client₂.remoteId

theorem IdentityCoherent.coherent (h : d.IdentityCoherent) (hT : d.TableConsistent)
    (hclient : d.clients ref = some client) : client.Coherent := by
  obtain ⟨client', hclient', hid, token, htoken, hparse, _⟩ := h.client _ ref (hT.client hclient)
  rw [hclient, Option.some.injEq] at hclient'
  subst hclient'
  have hne := parseRoutingToken_ne_zero hparse
  exact ⟨by rw [getIdFromRoutingToken_isSome hne, hid], by rw [htoken, Option.bind_some, hparse]⟩

theorem identityCoherent_of_coherent (hT : d.TableConsistent)
    (h : ∀ ref client, d.clients ref = some client → client.Coherent) : d.IdentityCoherent where
  client := by
    intro id ref href
    obtain ⟨client, hclient, _⟩ := hT.entry href
    have hcoherent := h ref client hclient
    obtain ⟨token, htoken, hparse⟩ := Option.bind_eq_some_iff.mp hcoherent.token
    refine ⟨client, hclient, (getIdFromRoutingToken_eq_some hcoherent.path).2, token, htoken,
      hparse, ?_⟩
    rw [findClientByToken, hparse, Option.bind_some, hcoherent.path, Option.bind_some]
    exact hT.client hclient
  distinct := by
    intro id₁ id₂ ref₁ ref₂ client₁ client₂ _ _ hclient₁ hclient₂ hne heq
    have hpath₁ := (h ref₁ client₁ hclient₁).path
    have hpath₂ := (h ref₂ client₂ hclient₂).path
    rw [heq, hpath₂, Option.some.injEq] at hpath₁
    -- one number spells one path, and the table has one client for it
    have htable := hT.client hclient₁
    rw [← hpath₁, hT.client hclient₂, Option.some.injEq] at htable
    exact hne htable.symm

/-- The fields that a step other than a registration keeps are the ones that count. -/
theorem KeepsIdentities.coherent (h : d.KeepsIdentities d')
    (hcoherent : ∀ ref client, d.clients ref = some client → client.Coherent) :
    ∀ ref client, d'.clients ref = some client → client.Coherent := by
  intro ref client' hclient'
  obtain ⟨client, hclient, hid, hremote, hrouting⟩ := h ref client' hclient'
  have hc := hcoherent ref client hclient
  exact ⟨by rw [hid, hremote]; exact hc.path, by rw [hrouting, hremote]; exact hc.token⟩

/-- The peeked token is taken by a client with a session, and the queue has room
for one more client: the connection is registered under a number that is taken. -/
def registersTracked (d : SystemDaemon) (info : RoutingTokenInfo) (now : ℤ) : Bool :=
  d.tokenBusy info && decide ((d.freshPending now).length < maxPendingClients)

theorem tokenBusy_tracked {info : RoutingTokenInfo} (h : d.tokenBusy info = true) :
    d.tokenTracked info = true := by
  rw [tokenBusy, Option.any_eq_true] at h
  obtain ⟨client, hclient, _⟩ := h
  obtain ⟨ref, href, _⟩ := Option.bind_eq_some_iff.mp hclient
  rw [tokenTracked, href, Option.isSome_some]

section Registered

variable {connection : Connection} {info : RoutingTokenInfo} {id token : CString} {value : UInt32}
  {registered : Bool}

/-- The record that is filled in agrees with itself unless the peeked token is taken. -/
theorem Identified.coherent_iff (h : Identified d info id token value) :
    (newClient connection info (d.peekedIdentity info.routingToken).1 id token).Coherent ↔
      d.tokenTracked info = false := by
  rw [← h.remoteId]
  constructor
  · intro hcoherent connection'
    exact getIdFromRoutingToken_injective hcoherent.path h.path
  · intro hremote
    refine ⟨?_, ?_⟩
    · rw [hremote connection]
      exact h.path
    · rw [hremote connection]
      exact h.parse

theorem Registered.coherent_of_fresh (hT : d.TableConsistent)
    (h : Registered d connection info now id token value client d' registered)
    (hbusy : d.tokenTracked info = true → d.tokenBusy info = true)
    (hfresh : d.registersTracked info now = false)
    (hcoherent : ∀ ref client, d.clients ref = some client → client.Coherent) :
    ∀ ref client, d'.clients ref = some client → client.Coherent := by
  intro ref client' hlive
  rcases h.live hlive with ⟨hregistered, _, rfl⟩ | hold
  · have hroom := (h.eq_true_iff hT).mp hregistered
    have huntracked : d.tokenTracked info = false := by
      by_contra htracked
      have := hbusy (by simpa using htracked)
      simp [registersTracked, this, hroom] at hfresh
    have hnew : client.Coherent := by
      rw [h.client_eq]
      exact h.identified.coherent_iff.mpr huntracked
    exact ⟨hnew.path, hnew.token⟩
  · exact hcoherent ref client' hold

theorem Registered.not_coherent_of_tracked (hT : d.TableConsistent)
    (h : Registered d connection info now id token value client d' registered)
    (htracked : d.registersTracked info now = true) :
    ∃ ref client, d'.clients ref = some client ∧ ¬ client.Coherent := by
  rw [registersTracked, Bool.and_eq_true, decide_eq_true_eq] at htracked
  have hregistered := (h.eq_true_iff hT).mpr htracked.2
  subst hregistered
  refine ⟨d.nextClient, client.touch now, h.queued hT |>.1, ?_⟩
  intro hcoherent
  have hnew : client.Coherent := ⟨hcoherent.path, hcoherent.token⟩
  rw [h.client_eq, h.identified.coherent_iff, tokenBusy_tracked htracked.1] at hnew
  simp at hnew

end Registered

/-- The session-ready callback keeps a client whose record disagrees. -/
theorem onSessionReady_not_coherent {connection : Connection} {session : SessionRef}
    {env : SessionReadyEnv} {request : Option DisplayRequest}
    (h : d.onSessionReady connection session env now = some (d', request))
    (hbad : ∃ ref client, d.clients ref = some client ∧ ¬ client.Coherent) :
    ∃ ref client, d'.clients ref = some client ∧ ¬ client.Coherent := by
  rcases onSessionReady_spec h with rfl | ⟨ref, client, hclient, rfl⟩
  · exact hbad
  · obtain ⟨bad, badClient, hlive, hnot⟩ := hbad
    by_cases hne : bad = ref
    · subst hne
      rw [hclient, Option.some.injEq] at hlive
      subst hlive
      obtain ⟨hid, hremote, hrouting, _⟩ := sessionReadyClient_identity client session env now
      refine ⟨bad, _, setClient_self, fun hcoherent => hnot ⟨?_, ?_⟩⟩
      · rw [← hid, ← hremote]
        exact hcoherent.path
      · rw [← hrouting, ← hremote]
        exact hcoherent.token
    · exact ⟨bad, badClient, by rwa [setClient_of_ne hne], hnot⟩

end SystemDaemon

namespace SystemState

variable {s s' : SystemState}

/-- No connection is registered under a number that is taken. -/
def RegistersFresh (s : SystemState) : SystemEvent → Prop
  | .incoming env => ∀ info ∈ env.peek, s.daemon.registersTracked info env.now = false
  | _ => True

instance decidableRegistersFresh (s : SystemState) : DecidablePred s.RegistersFresh
  | .incoming env =>
    inferInstanceAs (Decidable (∀ info ∈ env.peek, s.daemon.registersTracked info env.now = false))
  | .start .. | .stop | .sessionReady .. | .sessionClosed .. | .requestHandover ..
  | .startHandover .. | .takeClient .. => instDecidableTrue

/-- The invariant behind `IdentityCoherent`. -/
structure Identified (s : SystemState) : Prop where
  table : s.daemon.TableConsistent
  coherent : ∀ ref client, s.daemon.clients ref = some client → client.Coherent

theorem Identified.identityCoherent (h : s.Identified) : s.daemon.IdentityCoherent :=
  SystemDaemon.identityCoherent_of_coherent h.table h.coherent

theorem Identified.step {e : SystemEvent} (h : s.Identified) (hfresh : s.RegistersFresh e)
    (he : s.step e = some s') : s'.Identified := by
  refine ⟨step_tableConsistent h.table he, ?_⟩
  -- only an incoming connection registers clients
  by_cases hincoming : ∃ env, e = .incoming env
  · obtain ⟨env, rfl⟩ := hincoming
    obtain ⟨result, _, hdelegated, hend⟩ := incoming_spec h.table (step_incoming he)
    have hdelegate : ∀ ref client, result.daemon.clients ref = some client → client.Coherent := by
      cases hdelegated with
      | unpeeked => exact h.coherent
      | rebound hpeek htoken hlive hsession =>
        exact (SystemDaemon.rebindClient_evolves h.table hlive _).identities.coherent h.coherent
      | registered hpeek hbusy hregistered =>
        exact hregistered.coherent_of_fresh h.table hbusy (hfresh _ hpeek) h.coherent
    rcases hend with hdaemon | ⟨session, request, hready⟩
    · rw [hdaemon]
      exact hdelegate
    · have hT := hdelegated.tableConsistent h.table
      exact (SystemDaemon.onSessionReady_evolves hT hready).identities.coherent hdelegate
  · have hevolves := step_evolves h.table (fun env heq => hincoming ⟨env, heq⟩) he
    exact hevolves.identities.coherent h.coherent

/-- A registration under a taken number shows at once. -/
theorem Identified.tracked_breaks {e : SystemEvent} (h : s.Identified)
    (htracked : ¬ s.RegistersFresh e) (he : s.step e = some s') :
    ¬ s'.daemon.IdentityCoherent := by
  intro hcoherent
  have hT' := step_tableConsistent h.table he
  cases e with
  | incoming env =>
    simp only [RegistersFresh, not_forall, Bool.not_eq_false] at htracked
    obtain ⟨info, hinfo, htracked⟩ := htracked
    obtain ⟨result, _, hdelegated, hend⟩ := incoming_spec h.table (step_incoming he)
    have hbad : ∃ ref client, result.daemon.clients ref = some client ∧ ¬ client.Coherent := by
      cases hdelegated with
      | unpeeked hpeek => simp [hpeek] at hinfo
      | rebound hpeek htoken hlive hsession =>
        rw [hpeek, Option.mem_some_iff] at hinfo
        subst hinfo
        simp [SystemDaemon.registersTracked, SystemDaemon.tokenBusy, htoken, hlive, hsession]
          at htracked
      | registered hpeek hbusy hregistered =>
        rw [hpeek, Option.mem_some_iff] at hinfo
        subst hinfo
        exact hregistered.not_coherent_of_tracked h.table htracked
    have hbad' : ∃ ref client, s'.daemon.clients ref = some client ∧ ¬ client.Coherent := by
      rcases hend with hdaemon | ⟨session, request, hready⟩
      · rwa [hdaemon]
      · exact SystemDaemon.onSessionReady_not_coherent hready hbad
    obtain ⟨ref, client, hclient, hnot⟩ := hbad'
    exact hnot (hcoherent.coherent hT' hclient)
  | _ => exact htracked trivial

theorem identified_init : ({} : SystemState).Identified :=
  ⟨systemMachine_tableConsistent.init {} systemMachine_init, by simp⟩

end SystemState

/-- Every state of a run has coherent identities exactly when no connection of it
is registered under a number that is taken. -/
theorem identities_coherent_iff (es : List SystemEvent) (t : SystemState)
    (hrun : systemMachine.run {} es = some t) :
    systemMachine.StatesMeet (fun s => s.daemon.IdentityCoherent) {} es ↔
      systemMachine.StepsMeet SystemState.RegistersFresh {} es :=
  EventMachine.statesMeet_iff_stepsMeet (fun _ h => h.identityCoherent)
    (fun _ _ _ h hfresh he => h.step hfresh he)
    (fun _ _ _ h htracked he => h.tracked_breaks htracked he)
    SystemState.identified_init es hrun

/-- The second client has no token. It draws 7, which the first one has, and then 9. -/
theorem two_clients_identities_coherent :
    systemMachine.StatesMeet (fun s => s.daemon.IdentityCoherent) {}
      [.start true true, tokenSeven 1 [],
        .incoming { connection := 2, peek := some { routingToken := none }, draws := [7, 9] }] :=
  (identities_coherent_iff [.start true true, tokenSeven 1 [],
    .incoming { connection := 2, peek := some { routingToken := none }, draws := [7, 9] }]
    _ rfl).mpr (by decide)

/-- The client of the first connection has a session, so a second one with the
same token gets the path of the draw 9 and keeps the number 7. -/
theorem taken_token_breaks_identities :
    ∃ s, systemMachine.Reachable s ∧ ¬ s.daemon.IdentityCoherent := by
  refine ⟨_, EventMachine.reachable_of_run systemMachine_init
    [.start true true, tokenSeven 1 [], tokenSeven 2 [9]] rfl, ?_⟩
  intro h
  obtain ⟨client, hclient, hid, _⟩ := h.client (handoversObjectPath ++ ['/', '9']) 1 (by decide)
  have hrecord : (client.id, client.remoteId) = (handoversObjectPath ++ ['/', '9'], 7) := by
    have := Option.some.inj hclient
    rw [← this]
    decide
  rw [Prod.mk.injEq] at hrecord
  rw [hrecord.1, hrecord.2] at hid
  exact absurd hid (by decide)

end RemoteDesktop.DRD
