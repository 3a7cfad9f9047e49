import RemoteDesktop.DRDListenerIncoming

/-! The connections of the system daemon's clients. A connection is delegated to one object, and
neither the client that it belongs to nor the session on it ever gets to another one. -/
namespace RemoteDesktop.DRD

/-- The client that the delegate found again, or the one that it registered. -/
def DelegateResult.client (result : DelegateResult) (nextClient : ClientRef) : ClientRef :=
  result.takeClientReady.elim nextClient Prod.fst

/-- The token leads to the object. -/
def TokenOf (path : CString) (token : Option CString) : Prop :=
  (token.bind parseRoutingToken).bind getIdFromRoutingToken = some path

namespace SystemDaemon

variable {d d' : SystemDaemon} {ref : ClientRef} {client : RemoteClient} {now : ℤ}

/-- No client is new, none has another identity, and none a connection or a session that it had
not before. No connection belongs to another client than before. -/
structure Fades (d d' : SystemDaemon) : Prop where
  clients : ∀ ref client', d'.clients ref = some client' → ∃ client, d.clients ref = some client ∧
    client'.id = client.id ∧ client'.routing = client.routing ∧
    (client'.connection = client.connection ∨ client'.connection = none) ∧
    (client'.session = client.session ∨ client'.session = none)
  data : ∀ connection ref, d'.connectionClient connection = some ref →
    d.connectionClient connection = some ref
  nextClient : d'.nextClient = d.nextClient

theorem Fades.refl (d : SystemDaemon) : d.Fades d where
  clients := fun _ client' h => ⟨client', h, rfl, rfl, .inl rfl, .inl rfl⟩
  data := fun _ _ h => h
  nextClient := rfl

theorem Fades.trans {d₁ d₂ : SystemDaemon} (h₁ : d.Fades d₁) (h₂ : d₁.Fades d₂) : d.Fades d₂ where
  clients := by
    intro ref client₂ hclient₂
    obtain ⟨client₁, hclient₁, hid₂, hrouting₂, hconnection₂, hsession₂⟩ :=
      h₂.clients ref client₂ hclient₂
    obtain ⟨client, hclient, hid₁, hrouting₁, hconnection₁, hsession₁⟩ :=
      h₁.clients ref client₁ hclient₁
    refine ⟨client, hclient, hid₂.trans hid₁, hrouting₂.trans hrouting₁, ?_, ?_⟩
    · rcases hconnection₂ with heq | hnone
      · rw [heq]
        exact hconnection₁
      · exact .inr hnone
    · rcases hsession₂ with heq | hnone
      · rw [heq]
        exact hsession₁
      · exact .inr hnone
  data := fun connection ref h => h₁.data connection ref (h₂.data connection ref h)
  nextClient := h₂.nextClient.trans h₁.nextClient

/-- The clients and the connections' data are what they were. -/
theorem Fades.of_eq (hclients : d'.clients = d.clients)
    (hdata : d'.connectionClient = d.connectionClient) (hnext : d'.nextClient = d.nextClient) :
    d.Fades d' where
  clients := by
    rw [hclients]
    exact (Fades.refl d).clients
  data := by
    rw [hdata]
    exact (Fades.refl d).data
  nextClient := hnext

theorem Fades.setClient {client' : RemoteClient} (hclient : d.clients ref = some client)
    (hid : client'.id = client.id) (hrouting : client'.routing = client.routing)
    (hconnection : client'.connection = client.connection ∨ client'.connection = none)
    (hsession : client'.session = client.session ∨ client'.session = none) :
    d.Fades (d.setClient ref client') where
  clients := by
    intro r c hc
    by_cases hne : r = ref
    · subst hne
      rw [setClient_self, Option.some.injEq] at hc
      subst hc
      exact ⟨client, hclient, hid, hrouting, hconnection, hsession⟩
    · rw [setClient_of_ne hne] at hc
      exact ⟨c, hc, rfl, rfl, .inl rfl, .inl rfl⟩
  data := fun _ _ h => h
  nextClient := rfl

theorem clearConnectionData_fades (connection : Option Connection) :
    d.Fades (d.clearConnectionData connection) where
  clients := by
    rw [clearConnectionData_clients]
    exact (Fades.refl d).clients
  data := by
    intro c r h
    cases connection with
    | none => exact h
    | some connection =>
      by_cases hc : c = connection
      · simp [clearConnectionData, hc] at h
      · simpa [clearConnectionData, hc] using h
  nextClient := clearConnectionData_nextClient connection

theorem forget_fades (hclients : ∀ r, d'.clients r = d.clients r ∨ d'.clients r = none)
    (hdata : d'.connectionClient = d.connectionClient) (hnext : d'.nextClient = d.nextClient) :
    d.Fades d' where
  clients := by
    intro r c hc
    rcases hclients r with heq | hnone
    · rw [heq] at hc
      exact ⟨c, hc, rfl, rfl, .inl rfl, .inl rfl⟩
    · rw [hnone] at hc
      cases hc
  data := by
    rw [hdata]
    exact fun _ _ h => h
  nextClient := hnext

theorem remoteClientFree_fades (ref : ClientRef) : d.Fades (d.remoteClientFree ref) := by
  unfold remoteClientFree
  cases hclient : d.clients ref with
  | none => exact .refl d
  | some client =>
    refine (clearConnectionData_fades client.connection).trans (forget_fades ?_ rfl rfl)
    intro r
    dsimp only
    by_cases hne : r = ref
    · right
      subst hne
      exact Function.update_self ..
    · left
      rw [clearConnectionData_clients]
      exact Function.update_of_ne hne ..

theorem hashTableRemove_fades (id : CString) : d.Fades (d.hashTableRemove id) := by
  unfold hashTableRemove
  cases d.remoteClients id with
  | none => exact .refl d
  | some ref =>
    have hentry : d.Fades { d with remoteClients := Function.update d.remoteClients id none } :=
      .of_eq rfl rfl rfl
    exact hentry.trans (remoteClientFree_fades ref)

theorem removeClient_fades (h : d.removeClient ref = some d') : d.Fades d' := by
  obtain ⟨client, hclient, rfl⟩ := Option.map_eq_some_iff.mp h
  have hunexported : d.Fades ((d.unqueueClient ref).unexport client.id) := .of_eq rfl rfl rfl
  have hcleared := hunexported.trans (clearConnectionData_fades client.connection)
  have hlive : (((d.unqueueClient ref).unexport client.id).clearConnectionData
      client.connection).clients ref = some client := by
    rw [clearConnectionData_clients]
    exact hclient
  have hsession : Fades _ (SystemDaemon.setClient _ ref { client with session := none }) :=
    .setClient hlive rfl rfl (.inl rfl) (.inr rfl)
  exact (hcleared.trans hsession).trans (hashTableRemove_fades client.id)

theorem pruneLinks_fades (refs : List ClientRef) {d d' : SystemDaemon}
    (h : pruneLinks now refs d = some d') : d.Fades d' := by
  induction refs generalizing d with
  | nil => exact Option.some.inj h ▸ .refl d
  | cons link links ih =>
    obtain ⟨d₁, hlink, hrest⟩ := Option.bind_eq_some_iff.mp h
    obtain ⟨client, hclient, hvisit⟩ := Option.bind_eq_some_iff.mp hlink
    have hvisited : d.Fades d₁ := by
      split at hvisit
      · exact removeClient_fades hvisit
      · exact Option.some.inj hvisit ▸ .refl d
    exact hvisited.trans (ih hrest)

theorem queueClient_fades {queued : Bool} (h : d.queueClient ref now = some (d', queued)) :
    d.Fades d' := by
  obtain ⟨client, hclient, hrest⟩ := Option.bind_eq_some_iff.mp h
  split at hrest
  · cases hrest
    exact .refl d
  · obtain ⟨d₁, hprune, hpush⟩ := Option.bind_eq_some_iff.mp hrest
    have hpruned : d.Fades d₁ := pruneLinks_fades _ hprune
    obtain ⟨client₁, hclient₁, heq⟩ := Option.map_eq_some_iff.mp hpush
    apply hpruned.trans
    split at heq
    · cases heq
      exact .refl _
    · cases heq
      have htouched : d₁.Fades (d₁.setClient ref (client₁.touch now)) :=
        .setClient hclient₁ rfl rfl (.inl rfl) (.inl rfl)
      exact htouched.trans (.of_eq rfl rfl rfl)

theorem queueOrRemoveClient_fades {queued : Bool}
    (h : d.queueOrRemoveClient ref now = some (d', queued)) : d.Fades d' := by
  obtain ⟨⟨d₁, queued₁⟩, hqueue, hrest⟩ := Option.bind_eq_some_iff.mp h
  apply (queueClient_fades hqueue).trans
  dsimp only at hrest
  split at hrest
  · cases hrest
    exact .refl _
  · obtain ⟨d₂, hremove, heq⟩ := Option.map_eq_some_iff.mp hrest
    cases heq
    exact removeClient_fades hremove

theorem handleRequestHandover_fades {pruneNow : ℤ} {reply : Except String (ClientRef × CString)}
    (h : d.handleRequestHandover pruneNow now = some (d', reply)) : d.Fades d' := by
  obtain ⟨d₁, hprune, hrest⟩ := Option.bind_eq_some_iff.mp h
  have hpruned : d.Fades d₁ := pruneLinks_fades _ hprune
  apply hpruned.trans
  split at hrest
  · cases hrest
    exact .refl _
  · obtain ⟨client, hclient, heq⟩ := Option.map_eq_some_iff.mp hrest
    cases heq
    have hassigned : d₁.Fades (d₁.setClient _ { client.touch now with assigned := true }) :=
      .setClient hclient rfl rfl (.inl rfl) (.inl rfl)
    exact hassigned.trans (.of_eq rfl rfl rfl)

theorem startHandoverClient_fades (client : RemoteClient) (env : StartHandoverEnv) (now : ℤ) :
    let client' := (startHandoverClient client env now).1
    (client'.connection = client.connection ∨ client'.connection = none) ∧
      (client'.session = client.session ∨ client'.session = none) := by
  simp only [startHandoverClient]
  split
  · exact ⟨.inl rfl, .inl rfl⟩
  · split_ifs
    · exact ⟨.inr rfl, .inr rfl⟩
    · exact ⟨.inl rfl, .inl rfl⟩
    · exact ⟨.inl rfl, .inl rfl⟩

theorem onStartHandover_fades {env : StartHandoverEnv} {reply : HandoverReply}
    (h : d.onStartHandover ref env now = some (d', reply)) : d.Fades d' := by
  obtain ⟨client, hclient, rfl⟩ := onStartHandover_spec h
  obtain ⟨hid, _, hrouting⟩ := startHandoverClient_identity client env now
  obtain ⟨hconnection, hsession⟩ := startHandoverClient_fades client env now
  exact .setClient hclient hid hrouting hconnection hsession

theorem onTakeClient_fades {fdAppend : Except String Unit} {queueNow : ℤ} {reply : HandoverReply}
    (h : d.onTakeClient ref fdAppend now queueNow = some (d', reply)) : d.Fades d' := by
  obtain ⟨client, hclient, hrest⟩ := Option.bind_eq_some_iff.mp h
  split at hrest
  · cases hrest
    exact .setClient hclient rfl rfl (.inl rfl) (.inl rfl)
  · split at hrest
    · cases hrest
      exact .setClient hclient rfl rfl (.inl rfl) (.inl rfl)
    · dsimp only at hrest
      split at hrest
      · cases hrest
        exact .setClient hclient rfl rfl (.inr rfl) (.inr rfl)
      · obtain ⟨⟨d₁, queued⟩, hqueue, heq⟩ := Option.map_eq_some_iff.mp hrest
        cases heq
        have htaken : d.Fades (d.setClient ref { takenClient client now with assigned := false }) :=
          .setClient hclient rfl rfl (.inr rfl) (.inr rfl)
        exact htaken.trans (queueOrRemoveClient_fades hqueue)

theorem stop_fades : d.Fades d.stop where
  clients := by
    intro ref client' h
    simp [stop, hashTableRemoveAll] at h
  data := by
    intro connection ref h
    have hfilter : (d.connectionClient connection).filter (fun ref =>
        decide (((d.clients ref).bind RemoteClient.connection) ≠ some connection)) = some ref := h
    exact (Option.filter_eq_some_iff.mp hfilter).1
  nextClient := rfl

theorem start_fades (listenerOk busOk : Bool) : d.Fades (d.start listenerOk busOk) := by
  obtain ⟨listener, busConnection, manager, heq, _⟩ := d.start_eq listenerOk busOk
  rw [heq]
  exact .of_eq rfl rfl rfl

/-- An incoming connection belongs to the client that it was delegated to. -/
theorem delegate_data {connection c : Connection} {peek : Option RoutingTokenInfo}
    {draws : List UInt32} {result : DelegateResult} {r : ClientRef} (hT : d.TableConsistent)
    (h : d.delegate connection peek draws now = some result)
    (hdata : result.daemon.connectionClient c = some r) :
    d.connectionClient c = some r ∨
      c = connection ∧ r = result.client d.nextClient ∧ r < result.daemon.nextClient := by
  have hregister {info : RoutingTokenInfo}
      (h : d.delegateRegister connection info draws now = some result) :
      d.connectionClient c = some r ∨
        c = connection ∧ r = result.client d.nextClient ∧ r < result.daemon.nextClient := by
    obtain ⟨⟨d', registered⟩, hregister, rfl⟩ := Option.map_eq_some_iff.mp h
    obtain ⟨identity, hidentity, hrest⟩ := Option.bind_eq_some_iff.mp hregister
    cases identity with
    | none =>
      cases hrest
      exact .inl hdata
    | some identity =>
      have hfades := queueOrRemoveClient_fades hrest
      have hinserted := hfades.data c r hdata
      by_cases hc : c = connection
      · right
        have hr : some d.nextClient = some r := by
          simpa [insertClient, hc] using hinserted
        refine ⟨hc, (Option.some.inj hr).symm, ?_⟩
        rw [hfades.nextClient, ← Option.some.inj hr]
        exact Nat.lt_succ_self _
      · left
        simpa [insertClient, hc] using hinserted
  unfold delegate at h
  cases hpeek : peek with
  | none =>
    simp only [hpeek, Option.some.injEq] at h
    rw [← h] at hdata
    exact .inl hdata
  | some info =>
    simp only [hpeek] at h
    obtain ⟨existing, hexisting, hrest⟩ := Option.bind_eq_some_iff.mp h
    cases existing with
    | none => exact hregister hrest
    | some found =>
      obtain ⟨ref, client⟩ := found
      dsimp only at hrest
      split at hrest
      · -- the client that came back has the connection from now on
        rw [Option.some.injEq] at hrest
        subst hrest
        by_cases hc : c = connection
        · right
          have hr : some ref = some r := by simpa [rebindClient, hc] using hdata
          have hlive : d.clients ref = some client := by
            rw [existingClient] at hexisting
            split at hexisting
            · cases hexisting
            · obtain ⟨_, hclient, heq⟩ := Option.map_eq_some_iff.mp hexisting
              cases heq
              exact hclient
          refine ⟨hc, (Option.some.inj hr).symm, ?_⟩
          rw [← Option.some.inj hr]
          exact hT.allocated hlive
        · left
          simpa [rebindClient, hc, SystemDaemon.setClient] using hdata
      · exact hregister hrest

end SystemDaemon

/-- What a client has of connections was delegated to its object. -/
structure ObjectsKept (object : Connection → Option CString) (sessions : ClientRef → Option Connection)
    (d : SystemDaemon) : Prop where
  data : ∀ connection ref client, d.connectionClient connection = some ref →
    d.clients ref = some client → object connection = some client.id
  connection : ∀ ref client connection, d.clients ref = some client →
    client.connection = some connection → object connection = some client.id
  session : ∀ ref client, d.clients ref = some client → client.session ≠ none →
    ∃ connection, sessions ref = some connection ∧ object connection = some client.id
  token : ∀ ref client, d.clients ref = some client → TokenOf client.id client.routing.routingToken
  allocated : ∀ connection ref, d.connectionClient connection = some ref → ref < d.nextClient

theorem object_update {object : Connection → Option CString} {fresh connection : Connection}
    {id : CString} {delegated : Option CString} (hfresh : object fresh = none)
    (h : object connection = some id) : Function.update object fresh delegated connection = some id := by
  have hne : connection ≠ fresh := by
    rintro rfl
    rw [hfresh] at h
    cases h
  rw [Function.update_of_ne hne]
  exact h

namespace ObjectsKept

variable {object : Connection → Option CString} {sessions : ClientRef → Option Connection}
  {d d' : SystemDaemon}

theorem fades (h : ObjectsKept object sessions d) (hfades : d.Fades d') :
    ObjectsKept object sessions d' where
  data := by
    intro c ref client' hdata hclient'
    obtain ⟨client, hclient, hid, _⟩ := hfades.clients ref client' hclient'
    rw [hid]
    exact h.data c ref client (hfades.data c ref hdata) hclient
  connection := by
    intro ref client' c hclient' hc
    obtain ⟨client, hclient, hid, _, hconnection, _⟩ := hfades.clients ref client' hclient'
    rcases hconnection with heq | hnone
    · rw [hid]
      exact h.connection ref client c hclient (heq ▸ hc)
    · rw [hnone] at hc
      cases hc
  session := by
    intro ref client' hclient' hsome
    obtain ⟨client, hclient, hid, _, _, hsession⟩ := hfades.clients ref client' hclient'
    rcases hsession with heq | hnone
    · rw [hid]
      exact h.session ref client hclient (heq ▸ hsome)
    · exact absurd hnone hsome
  token := by
    intro ref client' hclient'
    obtain ⟨client, hclient, hid, hrouting, _⟩ := hfades.clients ref client' hclient'
    rw [hid, hrouting]
    exact h.token ref client hclient
  allocated := by
    intro c ref hdata
    rw [hfades.nextClient]
    exact h.allocated c ref (hfades.data c ref hdata)

/-- A session gets ready on a connection of the client. -/
theorem sessionReady (h : ObjectsKept object sessions d) {connection : Connection} {ref : ClientRef}
    {session : SessionRef} {env : SessionReadyEnv} {now : ℤ} {request : Option DisplayRequest}
    (hready : d.onSessionReady connection session env now = some (d', request))
    (hdata : d.connectionClient connection = some ref) :
    ObjectsKept object (Function.update sessions ref (some connection)) d' := by
  rw [SystemDaemon.onSessionReady, hdata] at hready
  obtain ⟨client, hclient, heq⟩ := Option.map_eq_some_iff.mp hready
  cases heq
  obtain ⟨hid, _, hrouting, _⟩ := SystemDaemon.sessionReadyClient_identity client session env now
  have hconnection : (SystemDaemon.sessionReadyClient client session env now).1.connection =
      client.connection := by
    simp only [SystemDaemon.sessionReadyClient]
    repeat' split
    all_goals rfl
  have hcases {r : ClientRef} {c : RemoteClient}
      (hc : (d.setClient ref (SystemDaemon.sessionReadyClient client session env now).1).clients r =
        some c) : (r = ref ∧ c = (SystemDaemon.sessionReadyClient client session env now).1) ∨
          r ≠ ref ∧ d.clients r = some c := by
    by_cases hne : r = ref
    · subst hne
      rw [SystemDaemon.setClient_self, Option.some.injEq] at hc
      exact .inl ⟨rfl, hc.symm⟩
    · rw [SystemDaemon.setClient_of_ne hne] at hc
      exact .inr ⟨hne, hc⟩
  refine ⟨?_, ?_, ?_, ?_, h.allocated⟩
  · intro c r client' hdata' hclient'
    obtain ⟨rfl, rfl⟩ | ⟨_, hold⟩ := hcases hclient'
    · rw [hid]
      exact h.data c _ client hdata' hclient
    · exact h.data c r client' hdata' hold
  · intro r client' c hclient' hc
    obtain ⟨rfl, rfl⟩ | ⟨_, hold⟩ := hcases hclient'
    · rw [hid]
      exact h.connection _ client c hclient (hconnection ▸ hc)
    · exact h.connection r client' c hold hc
  · intro r client' hclient' hsome
    obtain ⟨rfl, rfl⟩ | ⟨hne, hold⟩ := hcases hclient'
    · refine ⟨connection, Function.update_self .., ?_⟩
      rw [hid]
      exact h.data connection _ client hdata hclient
    · rw [Function.update_of_ne hne]
      exact h.session r client' hold hsome
  · intro r client' hclient'
    obtain ⟨rfl, rfl⟩ | ⟨_, hold⟩ := hcases hclient'
    · rw [hid, hrouting]
      exact h.token _ client hclient
    · exact h.token r client' hold

/-- A connection that is new is delegated: its client is the only one that is not as it was. -/
theorem delegated_clients {env : IncomingEnv} {result : DelegateResult}
    (hdelegated : d.Delegated env result) (h : ObjectsKept object sessions d) {ref : ClientRef}
    {client' : RemoteClient} (hclient' : result.daemon.clients ref = some client') :
    d.clients ref = some client' ∨
      ref = result.client d.nextClient ∧ client'.connection = some env.connection ∧
        client'.session = none ∧ TokenOf client'.id client'.routing.routingToken ∧
        (ref = d.nextClient ∨ ∃ client, d.clients ref = some client ∧ client'.id = client.id) := by
  cases hdelegated with
  | unpeeked => exact .inl hclient'
  | @rebound info owner client _ _ hlive hsession =>
    by_cases hne : ref = owner
    · right
      subst hne
      have hself : some { client.touch env.now with connection := some env.connection } =
          some client' := SystemDaemon.setClient_self.symm.trans hclient'
      obtain rfl := Option.some.inj hself
      exact ⟨rfl, rfl, hsession, h.token ref client hlive, .inr ⟨client, hlive, rfl⟩⟩
    · left
      have hsame : (d.rebindClient owner client env.connection env.now).clients ref =
          d.clients ref := SystemDaemon.setClient_of_ne hne
      exact hsame.symm.trans hclient'
  | @registered info id token value client d' registered _ _ hregistered =>
    obtain ⟨_, hnew, rfl⟩ | hold := hregistered.live hclient'
    · right
      have hclient := hregistered.client_eq
      have htoken : TokenOf client.id client.routing.routingToken := by
        rw [hclient]
        show (parseRoutingToken token).bind getIdFromRoutingToken = some id
        rw [hregistered.identified.parse]
        exact hregistered.identified.path
      refine ⟨hnew, ?_, ?_, htoken, .inl hnew⟩
      · rw [hclient]
        rfl
      · rw [hclient]
        rfl
    · exact .inl hold

theorem delegated {env : IncomingEnv} {result : DelegateResult} (h : ObjectsKept object sessions d)
    (hT : d.TableConsistent) (hfresh : object env.connection = none)
    (hdelegate : d.delegate env.connection env.peek env.draws env.now = some result) :
    ObjectsKept
      (Function.update object env.connection
        ((result.daemon.clients (result.client d.nextClient)).map RemoteClient.id))
      sessions result.daemon := by
  have hdelegated := SystemDaemon.delegate_spec hT hdelegate
  have hnext : d.nextClient ≤ result.daemon.nextClient := by
    cases hdelegated with
    | unpeeked => exact le_rfl
    | rebound => exact le_rfl
    | registered _ _ hregistered =>
      obtain hassigned | ⟨_, hpruned, _, _, _⟩ | ⟨_, hpruned, _, _, _, hremoved⟩ :=
        hregistered.queue
      · exact Nat.le_succ _
      · exact (Nat.le_succ _).trans hpruned.nextClient.ge
      · exact (Nat.le_succ _).trans (hpruned.nextClient.ge.trans hremoved.nextClient.ge)
  refine ⟨?_, ?_, ?_, ?_, ?_⟩
  · intro c ref client' hdata hclient'
    obtain hold | ⟨rfl, rfl, _⟩ := SystemDaemon.delegate_data hT hdelegate hdata
    · apply object_update hfresh
      obtain hsame | ⟨_, _, _, _, hnew | ⟨client, hclient, hid⟩⟩ :=
        delegated_clients hdelegated h hclient'
      · exact h.data c ref client' hold hsame
      · -- no connection belonged to a client that was not there
        exact absurd hnew (h.allocated c ref hold).ne
      · rw [hid]
        exact h.data c ref client hold hclient
    · rw [Function.update_self, hclient']
      rfl
  · intro ref client' c hclient' hc
    obtain hsame | ⟨rfl, hconnection, _⟩ := delegated_clients hdelegated h hclient'
    · exact object_update hfresh (h.connection ref client' c hsame hc)
    · obtain rfl := Option.some.inj (hc.symm.trans hconnection)
      rw [Function.update_self, hclient']
      rfl
  · intro ref client' hclient' hsome
    obtain hsame | ⟨_, _, hnone, _⟩ := delegated_clients hdelegated h hclient'
    · obtain ⟨c, hc, hobject⟩ := h.session ref client' hsame hsome
      exact ⟨c, hc, object_update hfresh hobject⟩
    · exact absurd hnone hsome
  · intro ref client' hclient'
    obtain hsame | ⟨_, _, _, htoken, _⟩ := delegated_clients hdelegated h hclient'
    · exact h.token ref client' hsame
    · exact htoken
  · intro c ref hdata
    obtain hold | ⟨_, _, hlt⟩ := SystemDaemon.delegate_data hT hdelegate hdata
    · exact (h.allocated c ref hold).trans_le hnext
    · exact hlt

end ObjectsKept

end RemoteDesktop.DRD
