import Mathlib.Tactic
import RemoteDesktop.DRDSystemDaemon

/-! What the operations of the system daemon do to its client table. -/
namespace RemoteDesktop.DRD
namespace SystemDaemon

/-- The heap and `remote_clients` hold the same clients, nothing refers to a
client that was never allocated, and every exported object is a registered one. -/
structure TableConsistent (d : SystemDaemon) : Prop where
  entry : ∀ {id ref}, d.remoteClients id = some ref →
    ∃ client, d.clients ref = some client ∧ client.id = id
  client : ∀ {ref client}, d.clients ref = some client → d.remoteClients client.id = some ref
  allocated : ∀ {ref client}, d.clients ref = some client → ref < d.nextClient
  pending : ∀ {ref}, ref ∈ d.pendingClients → ref < d.nextClient
  exported : ∀ {objects path ref}, d.handoverManager = some objects → objects path = some ref →
    d.remoteClients path = some ref

/-- No client of `d'` is new, and none has another identity than in `d`. -/
def KeepsIdentities (d d' : SystemDaemon) : Prop :=
  ∀ ref client', d'.clients ref = some client' → ∃ client, d.clients ref = some client ∧
    client'.id = client.id ∧ client'.remoteId = client.remoteId ∧ client'.routing = client.routing

theorem KeepsIdentities.refl (d : SystemDaemon) : d.KeepsIdentities d :=
  fun _ client' h => ⟨client', h, rfl, rfl, rfl⟩

theorem KeepsIdentities.trans {d d₁ d₂ : SystemDaemon} (h₁ : d.KeepsIdentities d₁)
    (h₂ : d₁.KeepsIdentities d₂) : d.KeepsIdentities d₂ := by
  intro ref client₂ hclient₂
  obtain ⟨client₁, hclient₁, hid₁, hremote₁, hrouting₁⟩ := h₂ ref client₂ hclient₂
  obtain ⟨client, hclient, hid, hremote, hrouting⟩ := h₁ ref client₁ hclient₁
  exact ⟨client, hclient, hid₁.trans hid, hremote₁.trans hremote, hrouting₁.trans hrouting⟩

variable {d d' : SystemDaemon} {ref other : ClientRef} {client client' : RemoteClient} {now : ℤ}

@[simp] theorem setClient_self : (d.setClient ref client).clients ref = some client :=
  Function.update_self ..

theorem setClient_of_ne (h : other ≠ ref) :
    (d.setClient ref client).clients other = d.clients other :=
  Function.update_of_ne h ..

@[simp] theorem setClient_pendingClients :
    (d.setClient ref client).pendingClients = d.pendingClients := rfl

@[simp] theorem setClient_remoteClients :
    (d.setClient ref client).remoteClients = d.remoteClients := rfl

@[simp] theorem setClient_nextClient : (d.setClient ref client).nextClient = d.nextClient := rfl

@[simp] theorem setClient_handoverManager :
    (d.setClient ref client).handoverManager = d.handoverManager := rfl

/-- A write to the fields of a live client other than its path. -/
theorem TableConsistent.setClient (hT : d.TableConsistent) (hclient : d.clients ref = some client)
    (client' : RemoteClient) (hid : client'.id = client.id) : (d.setClient ref client').TableConsistent where
  entry := by
    intro id r hr
    obtain ⟨c, hc, hcid⟩ := hT.entry hr
    by_cases h : r = ref
    · subst h
      rw [hclient, Option.some.injEq] at hc
      exact ⟨client', setClient_self, by rw [hid, hc, hcid]⟩
    · exact ⟨c, by rwa [setClient_of_ne h], hcid⟩
  client := by
    intro r c hc
    by_cases h : r = ref
    · subst h
      rw [setClient_self, Option.some.injEq] at hc
      rw [← hc, hid]
      exact hT.client hclient
    · rw [setClient_of_ne h] at hc
      exact hT.client hc
  allocated := by
    intro r c hc
    by_cases h : r = ref
    · subst h
      exact hT.allocated hclient
    · rw [setClient_of_ne h] at hc
      exact hT.allocated hc
  pending := hT.pending
  exported := hT.exported

theorem KeepsIdentities.setClient (hclient : d.clients ref = some client)
    (hid : client'.id = client.id) (hremote : client'.remoteId = client.remoteId)
    (hrouting : client'.routing = client.routing) : d.KeepsIdentities (d.setClient ref client') := by
  intro r c hc
  by_cases h : r = ref
  · subst h
    rw [setClient_self, Option.some.injEq] at hc
    exact ⟨client, hclient, by rw [← hc, hid], by rw [← hc, hremote], by rw [← hc, hrouting]⟩
  · rw [setClient_of_ne h] at hc
    exact ⟨c, hc, rfl, rfl, rfl⟩

@[simp] theorem clearConnectionData_clients (connection : Option Connection) :
    (d.clearConnectionData connection).clients = d.clients := by
  cases connection <;> rfl

@[simp] theorem clearConnectionData_remoteClients (connection : Option Connection) :
    (d.clearConnectionData connection).remoteClients = d.remoteClients := by
  cases connection <;> rfl

@[simp] theorem clearConnectionData_pendingClients (connection : Option Connection) :
    (d.clearConnectionData connection).pendingClients = d.pendingClients := by
  cases connection <;> rfl

@[simp] theorem clearConnectionData_nextClient (connection : Option Connection) :
    (d.clearConnectionData connection).nextClient = d.nextClient := by
  cases connection <;> rfl

@[simp] theorem clearConnectionData_handoverManager (connection : Option Connection) :
    (d.clearConnectionData connection).handoverManager = d.handoverManager := by
  cases connection <;> rfl

/-- What a removal leaves behind. -/
structure Removed (d : SystemDaemon) (ref : ClientRef) (client : RemoteClient)
    (d' : SystemDaemon) : Prop where
  clients : d'.clients = Function.update d.clients ref none
  remoteClients : d'.remoteClients = Function.update d.remoteClients client.id none
  pendingClients : d'.pendingClients = d.pendingClients.erase ref
  nextClient : d'.nextClient = d.nextClient
  handoverManager : d'.handoverManager = d.handoverManager.map fun objects =>
    Function.update objects client.id none

theorem removeClient_spec (hT : d.TableConsistent) (hclient : d.clients ref = some client) :
    ∃ d', d.removeClient ref = some d' ∧ Removed d ref client d' := by
  have hentry : d.remoteClients client.id = some ref := hT.client hclient
  refine ⟨_, by rw [removeClient, hclient, Option.map_some], ?_⟩
  have htable : (((((d.unqueueClient ref).unexport client.id).clearConnectionData
      client.connection).setClient ref { client with session := none }).remoteClients client.id) =
        some ref := by
    rw [setClient_remoteClients, clearConnectionData_remoteClients]
    exact hentry
  simp only [hashTableRemove, htable, remoteClientFree, setClient_self]
  constructor
  · simp [SystemDaemon.setClient, unexport, unqueueClient]
  · simp [unexport, unqueueClient]
  · simp [unexport, unqueueClient]
  · simp [unexport, unqueueClient]
  · simp [unexport, unqueueClient]

theorem Removed.clients_self (h : Removed d ref client d') : d'.clients ref = none := by
  rw [h.clients, Function.update_self]

theorem Removed.clients_of_ne (h : Removed d ref client d') (hne : other ≠ ref) :
    d'.clients other = d.clients other := by
  rw [h.clients, Function.update_of_ne hne]

theorem Removed.ne_of_live (h : Removed d ref client d') (hlive : d'.clients other = some client') :
    other ≠ ref := by
  intro heq
  rw [heq, h.clients_self] at hlive
  simp at hlive

theorem Removed.keepsIdentities (h : Removed d ref client d') : d.KeepsIdentities d' := by
  intro r c hc
  have hne := h.ne_of_live hc
  rw [h.clients_of_ne hne] at hc
  exact ⟨c, hc, rfl, rfl, rfl⟩

theorem Removed.tableConsistent (h : Removed d ref client d') (hT : d.TableConsistent)
    (hclient : d.clients ref = some client) : d'.TableConsistent where
  entry := by
    intro id r hr
    rw [h.remoteClients] at hr
    by_cases hid : id = client.id
    · rw [hid, Function.update_self] at hr
      simp at hr
    · rw [Function.update_of_ne hid] at hr
      obtain ⟨c, hc, hcid⟩ := hT.entry hr
      refine ⟨c, ?_, hcid⟩
      -- the removed client is tracked under its own path only
      have hne : r ≠ ref := by
        intro heq
        rw [heq, hclient, Option.some.injEq] at hc
        exact hid (by rw [← hcid, hc])
      rwa [h.clients_of_ne hne]
  client := by
    intro r c hc
    have hne := h.ne_of_live hc
    rw [h.clients_of_ne hne] at hc
    have hid : c.id ≠ client.id := by
      intro heq
      have hr := hT.client hc
      rw [heq, hT.client hclient, Option.some.injEq] at hr
      exact hne hr.symm
    rw [h.remoteClients, Function.update_of_ne hid]
    exact hT.client hc
  allocated := by
    intro r c hc
    rw [h.clients_of_ne (h.ne_of_live hc)] at hc
    rw [h.nextClient]
    exact hT.allocated hc
  pending := by
    intro r hr
    rw [h.pendingClients] at hr
    rw [h.nextClient]
    exact hT.pending (List.mem_of_mem_erase hr)
  exported := by
    intro objects path r hobjects hr
    rw [h.handoverManager] at hobjects
    obtain ⟨before, hbefore, rfl⟩ := Option.map_eq_some_iff.mp hobjects
    by_cases hpath : path = client.id
    · rw [hpath, Function.update_self] at hr
      simp at hr
    · rw [Function.update_of_ne hpath] at hr
      rw [h.remoteClients, Function.update_of_ne hpath]
      exact hT.exported hbefore hr

/-- The clock value decides which pending clients the pruning expires. -/
def staleAt (d : SystemDaemon) (now : ℤ) (ref : ClientRef) : Bool :=
  (d.clients ref).any (RemoteClient.stale · now)

/-- The part of the queue that the pruning leaves. -/
def freshPending (d : SystemDaemon) (now : ℤ) : List ClientRef :=
  d.pendingClients.filter fun ref => !d.staleAt now ref

/-- What the pruning leaves behind. -/
structure Pruned (d : SystemDaemon) (now : ℤ) (refs : List ClientRef) (d' : SystemDaemon) :
    Prop where
  table : d'.TableConsistent
  clients : ∀ ref, d'.clients ref =
    if ref ∈ refs ∧ d.staleAt now ref then none else d.clients ref
  live : ∀ ref ∈ refs, d.clients ref ≠ none
  nextClient : d'.nextClient = d.nextClient
  exported : ∀ objects, d.handoverManager = some objects → ∃ objects',
    d'.handoverManager = some objects' ∧ ∀ ref client, d'.clients ref = some client →
      objects' client.id = objects client.id

theorem Pruned.keepsIdentities {refs : List ClientRef} (h : Pruned d now refs d') :
    d.KeepsIdentities d' := by
  intro r c hc
  rw [h.clients] at hc
  split at hc
  · simp at hc
  · exact ⟨c, hc, rfl, rfl, rfl⟩

/-- The loop visits its first link: a stale client is removed, a fresh one stays. -/
theorem pruneLinks_cons {link : ClientRef} {links : List ClientRef} (hT : d.TableConsistent)
    (hprune : pruneLinks now (link :: links) d = some d') :
    ∃ client, d.clients link = some client ∧
      ((d.staleAt now link = true ∧
          ∃ d₁, Removed d link client d₁ ∧ pruneLinks now links d₁ = some d') ∨
        (d.staleAt now link = false ∧ pruneLinks now links d = some d')) := by
  obtain ⟨d₁, hlink, hrest⟩ := Option.bind_eq_some_iff.mp hprune
  obtain ⟨client, hclient, hvisit⟩ := Option.bind_eq_some_iff.mp hlink
  have hstale : d.staleAt now link = client.stale now := by
    rw [staleAt, hclient, Option.any_some]
  refine ⟨client, hclient, ?_⟩
  split at hvisit
  · rename_i hstaleClient
    obtain ⟨d₂, hremove, hremoved⟩ := removeClient_spec hT hclient
    rw [hremove, Option.some.injEq] at hvisit
    subst hvisit
    exact .inl ⟨hstale.trans hstaleClient, d₂, hremoved, hrest⟩
  · rename_i hfresh
    rw [Option.some.injEq] at hvisit
    subst hvisit
    exact .inr ⟨hstale.trans (Bool.eq_false_iff.mpr hfresh), hrest⟩

/-- A removal and the pruning of later links, none of which is to the removed client. -/
theorem Pruned.after_removal {d d₁ d' : SystemDaemon} {link : ClientRef} {links : List ClientRef}
    (hT : d.TableConsistent) (hclient : d.clients link = some client)
    (hstale : d.staleAt now link = true) (hremoved : Removed d link client d₁)
    (hpruned : Pruned d₁ now links d') : Pruned d now (link :: links) d' := by
  -- a second link to the removed client would have stopped the loop
  have hnotin : link ∉ links := fun hin => hpruned.live link hin hremoved.clients_self
  constructor
  case table => exact hpruned.table
  case clients =>
    intro r
    rw [hpruned.clients r]
    by_cases hr : r = link
    · subst hr
      simp [hremoved.clients_self, hstale]
    · simp [staleAt, hremoved.clients_of_ne hr, hr]
  case live =>
    intro r hr
    rcases List.mem_cons.mp hr with rfl | hr
    · simp [hclient]
    · have hlive := hpruned.live r hr
      have hne : r ≠ link := fun heq => hnotin (heq ▸ hr)
      rwa [hremoved.clients_of_ne hne] at hlive
  case nextClient => rw [hpruned.nextClient, hremoved.nextClient]
  case exported =>
    intro objects hobjects
    obtain ⟨objects', hobjects', hkept⟩ := hpruned.exported _
      (by rw [hremoved.handoverManager, hobjects, Option.map_some])
    refine ⟨objects', hobjects', ?_⟩
    intro r c hc
    -- the path of the removed client is not the path of one that is left
    have hne : c.id ≠ client.id := by
      intro heq
      obtain ⟨c₁, hc₁, hid₁, _⟩ := hpruned.keepsIdentities r c hc
      have htable₁ := (hremoved.tableConsistent hT hclient).client hc₁
      rw [← hid₁, heq, hremoved.remoteClients, Function.update_self] at htable₁
      simp at htable₁
    rw [hkept r c hc, Function.update_of_ne hne]

/-- The pruning of later links, after a fresh client. -/
theorem Pruned.after_fresh {d d' : SystemDaemon} {link : ClientRef} {links : List ClientRef}
    (hclient : d.clients link = some client) (hfresh : d.staleAt now link = false)
    (hpruned : Pruned d now links d') : Pruned d now (link :: links) d' := by
  constructor
  case table => exact hpruned.table
  case clients =>
    intro r
    rw [hpruned.clients r]
    by_cases hr : r = link
    · subst hr
      simp [hfresh]
    · simp [hr]
  case live =>
    intro r hr
    rcases List.mem_cons.mp hr with rfl | hr
    · simp [hclient]
    · exact hpruned.live r hr
  case nextClient => exact hpruned.nextClient
  case exported => exact hpruned.exported

theorem pruneLinks_spec (refs : List ClientRef) {d d' : SystemDaemon} (hT : d.TableConsistent)
    (hprune : pruneLinks now refs d = some d') : Pruned d now refs d' := by
  -- on the links left, the first of which is visited in the present state
  induction refs generalizing d with
  | nil =>
    rw [pruneLinks, Option.some.injEq] at hprune
    subst hprune
    exact ⟨hT, by simp, by simp, rfl, fun objects h => ⟨objects, h, fun _ _ _ => rfl⟩⟩
  | cons link links ih =>
    obtain ⟨client, hclient, ⟨hstale, d₁, hremoved, hrest⟩ | ⟨hfresh, hrest⟩⟩ :=
      pruneLinks_cons hT hprune
    · have hpruned := ih (hremoved.tableConsistent hT hclient) hrest
      exact hpruned.after_removal hT hclient hstale hremoved
    · exact (ih hT hrest).after_fresh hclient hfresh

/-- The links that the loop has passed stay where they are, and of the later ones
the stale clients go. -/
theorem pruneLinks_pendingClients (kept refs : List ClientRef) {d d' : SystemDaemon}
    (hT : d.TableConsistent) (hqueue : d.pendingClients = kept ++ refs)
    (hkept : ∀ ref ∈ kept, d.staleAt now ref = false)
    (hprune : pruneLinks now refs d = some d') :
    d'.pendingClients = kept ++ refs.filter fun ref => !d.staleAt now ref := by
  -- on the links left; `kept` are the ones that the loop has passed
  induction refs generalizing d kept with
  | nil =>
    rw [pruneLinks, Option.some.injEq] at hprune
    subst hprune
    simpa using hqueue
  | cons link links ih =>
    obtain ⟨client, hclient, ⟨hstale, d₁, hremoved, hrest⟩ | ⟨hfresh, hrest⟩⟩ :=
      pruneLinks_cons hT hprune
    · have hT₁ := hremoved.tableConsistent hT hclient
      have hnotin : link ∉ links := fun hin =>
        (pruneLinks_spec links hT₁ hrest).live link hin hremoved.clients_self
      -- what the loop has passed is fresh, and this client is not
      have hnotkept : link ∉ kept := by
        intro hin
        have hfresh := hkept link hin
        rw [hstale] at hfresh
        cases hfresh
      have hsame (r : ClientRef) (hr : r ≠ link) : d₁.staleAt now r = d.staleAt now r := by
        rw [staleAt, staleAt, hremoved.clients_of_ne hr]
      have hqueue₁ : d₁.pendingClients = kept ++ links := by
        rw [hremoved.pendingClients, hqueue, List.erase_append_right _ hnotkept,
          List.erase_cons_head]
      have hkept₁ : ∀ r ∈ kept, d₁.staleAt now r = false := by
        intro r hr
        rw [hsame r fun heq => hnotkept (heq ▸ hr)]
        exact hkept r hr
      rw [ih kept hT₁ hqueue₁ hkept₁ hrest, List.filter_cons_of_neg (by simp [hstale])]
      congr 1
      apply List.filter_congr
      intro r hr
      rw [hsame r fun heq => hnotin (heq ▸ hr)]
    · -- a fresh client joins the passed ones
      have hkept₁ : ∀ r ∈ kept ++ [link], d.staleAt now r = false := by
        intro r hr
        rcases List.mem_append.mp hr with hr | hr
        · exact hkept r hr
        · rw [List.mem_singleton.mp hr]
          exact hfresh
      rw [ih (kept ++ [link]) hT (by rw [hqueue]; simp) hkept₁ hrest,
        List.filter_cons_of_pos (by simp [hfresh])]
      simp

theorem pruneStalePendingClients_pendingClients (hT : d.TableConsistent)
    (hprune : d.pruneStalePendingClients now = some d') :
    d'.pendingClients = d.freshPending now :=
  pruneLinks_pendingClients [] d.pendingClients hT rfl (by simp) hprune

theorem pruneStalePendingClients_spec (hT : d.TableConsistent)
    (hprune : d.pruneStalePendingClients now = some d') : Pruned d now d.pendingClients d' :=
  pruneLinks_spec d.pendingClients hT hprune

theorem staleAt_of_clients_eq (h : d'.clients ref = d.clients ref) :
    d'.staleAt now ref = d.staleAt now ref := by
  rw [staleAt, staleAt, h]

theorem freshPending_congr (hqueue : d'.pendingClients = d.pendingClients)
    (hclients : ∀ ref ∈ d.pendingClients, d'.clients ref = d.clients ref) :
    d'.freshPending now = d.freshPending now := by
  rw [freshPending, freshPending, hqueue]
  apply List.filter_congr
  intro ref href
  rw [staleAt_of_clients_eq (hclients ref href)]

/-- The ends of `queue_client` followed by the removal that its callers make when
it fails. -/
inductive QueuedOrRemoved (d : SystemDaemon) (ref : ClientRef) (client : RemoteClient) (now : ℤ) :
    SystemDaemon → Bool → Prop
  | assigned (h : client.assigned = true) : QueuedOrRemoved d ref client now d true
  | queued {d₁ : SystemDaemon} (hassigned : client.assigned = false)
      (hpruned : Pruned d now d.pendingClients d₁) (hqueue : d₁.pendingClients = d.freshPending now)
      (hlive : d₁.clients ref = some client) (hroom : (d.freshPending now).length < maxPendingClients) :
      QueuedOrRemoved d ref client now
        { d₁.setClient ref (client.touch now) with pendingClients := d.freshPending now ++ [ref] } true
  | removed {d₁ d₂ : SystemDaemon} (hassigned : client.assigned = false)
      (hpruned : Pruned d now d.pendingClients d₁) (hqueue : d₁.pendingClients = d.freshPending now)
      (hlive : d₁.clients ref = some client) (hfull : maxPendingClients ≤ (d.freshPending now).length)
      (hremoved : Removed d₁ ref client d₂) : QueuedOrRemoved d ref client now d₂ false

theorem Pruned.clients_eq {refs : List ClientRef} (h : Pruned d now refs d')
    (hlive : d'.clients ref = some client) : d.clients ref = some client := by
  rw [h.clients] at hlive
  split at hlive
  · simp at hlive
  · exact hlive

theorem queueOrRemoveClient_spec {queued : Bool} (hT : d.TableConsistent)
    (hclient : d.clients ref = some client)
    (h : d.queueOrRemoveClient ref now = some (d', queued)) :
    QueuedOrRemoved d ref client now d' queued := by
  obtain ⟨⟨d₁, queued₁⟩, hq, hrest⟩ := Option.bind_eq_some_iff.mp h
  rw [queueClient, hclient, Option.bind_some] at hq
  by_cases hassigned : client.assigned
  · rw [if_pos hassigned, Option.some.injEq, Prod.mk.injEq] at hq
    obtain ⟨rfl, rfl⟩ := hq
    simp only [if_true, Option.some.injEq, Prod.mk.injEq] at hrest
    obtain ⟨rfl, rfl⟩ := hrest
    exact .assigned hassigned
  · rw [if_neg hassigned] at hq
    obtain ⟨d₂, hprune, hpush⟩ := Option.bind_eq_some_iff.mp hq
    have hpruned := pruneStalePendingClients_spec hT hprune
    have hqueue := pruneStalePendingClients_pendingClients hT hprune
    obtain ⟨client₂, hlive, hpushed⟩ := Option.map_eq_some_iff.mp hpush
    -- the client is still there after the pruning, so it is the same
    have hsame : client₂ = client := by
      have := hpruned.clients_eq hlive
      rw [hclient, Option.some.injEq] at this
      exact this.symm
    subst hsame
    have hfree : client₂.assigned = false := by simpa using hassigned
    -- no room: the client is taken out of the registry again
    by_cases hfull : maxPendingClients ≤ d₂.pendingClients.length
    · rw [if_pos hfull, Prod.mk.injEq] at hpushed
      obtain ⟨rfl, rfl⟩ := hpushed
      obtain ⟨d₃, hremove, hremoved⟩ := removeClient_spec hpruned.table hlive
      simp only [hremove, Bool.false_eq_true, if_false, Option.map_some, Option.some.injEq,
        Prod.mk.injEq] at hrest
      obtain ⟨rfl, rfl⟩ := hrest
      exact .removed hfree hpruned hqueue hlive (hqueue ▸ hfull) hremoved
    · rw [if_neg hfull, Prod.mk.injEq] at hpushed
      obtain ⟨rfl, rfl⟩ := hpushed
      simp only [if_true, Option.some.injEq, Prod.mk.injEq] at hrest
      obtain ⟨rfl, rfl⟩ := hrest
      rw [hqueue] at hfull ⊢
      exact .queued hfree hpruned hqueue hlive (by omega)

theorem QueuedOrRemoved.tableConsistent {queued : Bool} (hT : d.TableConsistent)
    (h : QueuedOrRemoved d ref client now d' queued) : d'.TableConsistent := by
  cases h with
  | assigned => exact hT
  | queued hassigned hpruned hqueue hlive hroom =>
    have hT' := hpruned.table.setClient hlive (client.touch now) rfl
    refine ⟨hT'.entry, hT'.client, hT'.allocated, fun {r} hr => ?_, hT'.exported⟩
    rcases List.mem_append.mp hr with hr | hr
    · rw [← hqueue] at hr
      exact hT'.pending hr
    · rw [List.mem_singleton.mp hr]
      exact hT'.allocated setClient_self
  | removed hassigned hpruned hqueue hlive hfull hremoved =>
    exact hremoved.tableConsistent hpruned.table hlive

theorem QueuedOrRemoved.keepsIdentities {queued : Bool}
    (h : QueuedOrRemoved d ref client now d' queued) : d.KeepsIdentities d' := by
  cases h with
  | assigned => exact .refl d
  | queued hassigned hpruned hqueue hlive hroom =>
    exact hpruned.keepsIdentities.trans (.setClient hlive rfl rfl rfl)
  | removed hassigned hpruned hqueue hlive hfull hremoved =>
    exact hpruned.keepsIdentities.trans hremoved.keepsIdentities

/-- A registration allocates a client under a path that nothing is tracked under. -/
theorem insertClient_tableConsistent (hT : d.TableConsistent) (client : RemoteClient)
    (connection : Connection) (hid : d.remoteClients client.id = none) :
    (d.insertClient client connection).TableConsistent where
  entry := by
    intro id r hr
    simp only [insertClient] at hr ⊢
    by_cases h : id = client.id
    · subst h
      rw [Function.update_self, Option.some.injEq] at hr
      subst hr
      exact ⟨client, Function.update_self .., rfl⟩
    · rw [Function.update_of_ne h] at hr
      obtain ⟨c, hc, hcid⟩ := hT.entry hr
      exact ⟨c, by rwa [Function.update_of_ne (hT.allocated hc).ne], hcid⟩
  client := by
    intro r c hc
    simp only [insertClient] at hc ⊢
    by_cases h : r = d.nextClient
    · subst h
      rw [Function.update_self, Option.some.injEq] at hc
      rw [← hc, Function.update_self]
    · rw [Function.update_of_ne h] at hc
      -- the new path was free, so no older client has it
      have hne : c.id ≠ client.id := by
        intro heq
        have := hT.client hc
        rw [heq, hid] at this
        simp at this
      rw [Function.update_of_ne hne]
      exact hT.client hc
  allocated := by
    intro r c hc
    simp only [insertClient] at hc ⊢
    by_cases h : r = d.nextClient
    · rw [h]
      exact Nat.lt_succ_self _
    · rw [Function.update_of_ne h] at hc
      exact Nat.lt_succ_of_lt (hT.allocated hc)
  pending := fun hr => Nat.lt_succ_of_lt (hT.pending hr)
  exported := by
    intro objects path r hobjects hr
    obtain ⟨before, hbefore, rfl⟩ := Option.map_eq_some_iff.mp hobjects
    simp only [insertClient]
    by_cases h : path = client.id
    · subst h
      rw [Function.update_self] at hr ⊢
      exact hr
    · rw [Function.update_of_ne h] at hr ⊢
      exact hT.exported hbefore hr

@[simp] theorem insertClient_self (connection : Connection) :
    (d.insertClient client connection).clients d.nextClient = some client :=
  Function.update_self ..

theorem insertClient_of_ne (connection : Connection) (h : ref ≠ d.nextClient) :
    (d.insertClient client connection).clients ref = d.clients ref :=
  Function.update_of_ne h ..

theorem insertClient_freshPending (hT : d.TableConsistent) (client : RemoteClient)
    (connection : Connection) (now : ℤ) :
    (d.insertClient client connection).freshPending now = d.freshPending now :=
  freshPending_congr rfl fun _ href => insertClient_of_ne connection (hT.pending href).ne

/-- The peeked token leads to a client that is tracked. -/
def tokenTracked (d : SystemDaemon) (info : RoutingTokenInfo) : Bool :=
  (info.routingToken.bind d.findClientByToken).isSome

/-- The identity that `register_client` settles on, and the number it records. -/
structure Identified (d : SystemDaemon) (info : RoutingTokenInfo) (id token : CString)
    (value : UInt32) : Prop where
  path : getIdFromRoutingToken value = some id
  parse : parseRoutingToken token = some value
  untracked : d.remoteClients id = none
  remoteId : (∀ connection, (newClient connection info (d.peekedIdentity info.routingToken).1
    id token).remoteId = value) ↔ d.tokenTracked info = false

theorem drawRemoteId_spec {draws : List UInt32} {id : CString} (h : d.drawRemoteId draws = some id) :
    d.remoteClients id = none ∧ ∃ value, getIdFromRoutingToken value = some id := by
  induction draws with
  | nil => simp [drawRemoteId] at h
  | cons value draws ih =>
    rw [drawRemoteId] at h
    split at h
    · exact ih h
    · rename_i path hpath
      split at h
      · exact ih h
      · rename_i huntracked
        rw [Option.some.injEq] at h
        subst h
        exact ⟨by simpa using huntracked, value, hpath⟩

theorem generateRemoteIdentity_spec {draws : List UInt32} {id token : CString}
    (h : d.generateRemoteIdentity draws = some (some (id, token))) :
    d.remoteClients id = none ∧
      ∃ value, getIdFromRoutingToken value = some id ∧ parseRoutingToken token = some value := by
  obtain ⟨path, hdraw, hpair⟩ := Option.map_eq_some_iff.mp h
  obtain ⟨text, htext, heq⟩ := Option.map_eq_some_iff.mp hpair
  rw [Prod.mk.injEq] at heq
  obtain ⟨rfl, rfl⟩ := heq
  obtain ⟨huntracked, value, hvalue⟩ := drawRemoteId_spec hdraw
  exact ⟨huntracked, value, hvalue, parseRoutingToken_getRoutingTokenFromId hvalue htext⟩

theorem registrationIdentity_spec {info : RoutingTokenInfo} {draws : List UInt32}
    {id token : CString} (h : d.registrationIdentity info draws = some (some (id, token))) :
    ∃ value, Identified d info id token value := by
  rw [registrationIdentity] at h
  cases htoken : info.routingToken with
  -- no token: the identity is drawn
  | none =>
    simp only [htoken, peekedIdentity] at h
    obtain ⟨huntracked, value, hpath, hparse⟩ := generateRemoteIdentity_spec h
    refine ⟨value, hpath, hparse, huntracked, ?_⟩
    simp [newClient, peekedIdentity, tokenTracked, htoken, hparse]
  | some peeked =>
    cases hpeeked : parseRoutingToken peeked with
    | none =>
      simp only [htoken, peekedIdentity, hpeeked] at h
      obtain ⟨huntracked, value, hpath, hparse⟩ := generateRemoteIdentity_spec h
      refine ⟨value, hpath, hparse, huntracked, ?_⟩
      simp [newClient, peekedIdentity, tokenTracked, findClientByToken, htoken, hpeeked, hparse]
    | some parsed =>
      -- a token that parses gives its own path, if that is free
      have hparsed := parseRoutingToken_ne_zero hpeeked
      have hidParsed := getIdFromRoutingToken_isSome hparsed
      simp only [htoken, peekedIdentity, hpeeked, hidParsed, Option.bind_some] at h
      split at h
      · rename_i identity hidentity
        split at hidentity
        · simp at hidentity
        · rename_i huntracked
          rw [Option.some.injEq, Option.some.injEq] at h
          rw [Option.some.injEq] at hidentity
          have heq := hidentity.trans h
          rw [Prod.mk.injEq] at heq
          obtain ⟨rfl, rfl⟩ := heq
          refine ⟨parsed, hidParsed, hpeeked, by simpa using huntracked, ?_⟩
          have hnone := huntracked
          simp only [Bool.not_eq_true, Option.isSome_eq_false_iff, Option.isNone_iff_eq_none] at hnone
          simp [newClient, peekedIdentity, tokenTracked, findClientByToken, htoken, hpeeked, hparsed,
            hidParsed, hnone]
      · rename_i hidentity
        obtain ⟨huntracked, value, hpath, hparse⟩ := generateRemoteIdentity_spec h
        refine ⟨value, hpath, hparse, huntracked, ?_⟩
        split at hidentity
        · rename_i htracked
          -- the drawn path is free and the peeked one is not, so the numbers differ
          have hne : parsed ≠ value := by
            intro heq
            rw [← heq, hidParsed, Option.some.injEq] at hpath
            rw [hpath, huntracked] at htracked
            simp at htracked
          obtain ⟨owner, howner⟩ := Option.isSome_iff_exists.mp htracked
          simp [newClient, peekedIdentity, tokenTracked, findClientByToken, htoken, hpeeked, hparsed,
            hidParsed, howner, hne]
        · simp at hidentity

/-- The identity is never NULL once the loop of draws has ended. -/
theorem registrationIdentity_isSome {info : RoutingTokenInfo} {draws : List UInt32}
    {identity : Option (CString × CString)}
    (h : d.registrationIdentity info draws = some identity) : identity.isSome := by
  rw [registrationIdentity] at h
  split at h
  · rw [Option.some.injEq] at h
    rw [← h, Option.isSome_some]
  · obtain ⟨path, hdraw, rfl⟩ := Option.map_eq_some_iff.mp h
    obtain ⟨_, value, hpath⟩ := drawRemoteId_spec hdraw
    rw [getRoutingTokenFromId_of_token hpath, Option.map_some, Option.isSome_some]

/-- What a registration does, whether it returns TRUE or FALSE. -/
structure Registered (d : SystemDaemon) (connection : Connection) (info : RoutingTokenInfo)
    (now : ℤ) (id token : CString) (value : UInt32) (client : RemoteClient) (d' : SystemDaemon)
    (registered : Bool) : Prop where
  identified : Identified d info id token value
  client_eq : client = newClient connection info (d.peekedIdentity info.routingToken).1 id token
  queue : QueuedOrRemoved (d.insertClient client connection) d.nextClient client now d' registered

theorem registerClient_spec {connection : Connection} {info : RoutingTokenInfo}
    {draws : List UInt32} {registered : Bool} (hT : d.TableConsistent)
    (h : d.registerClient connection info draws now = some (d', registered)) :
    ∃ id token value client, Registered d connection info now id token value client d'
      registered := by
  obtain ⟨identity, hidentity, hrest⟩ := Option.bind_eq_some_iff.mp h
  obtain ⟨⟨id, token⟩, rfl⟩ := Option.isSome_iff_exists.mp (registrationIdentity_isSome hidentity)
  obtain ⟨value, hidentified⟩ := registrationIdentity_spec hidentity
  have hT' := insertClient_tableConsistent hT (newClient connection info
    (d.peekedIdentity info.routingToken).1 id token) connection hidentified.untracked
  exact ⟨id, token, value, _, hidentified, rfl,
    queueOrRemoveClient_spec hT' (insertClient_self connection) hrest⟩

section Registered

variable {connection : Connection} {info : RoutingTokenInfo} {id token : CString} {value : UInt32}
  {registered : Bool}

theorem Registered.assigned (h : Registered d connection info now id token value client d'
    registered) : client.assigned = false := by
  rw [h.client_eq]
  rfl

theorem Registered.insertClient_table (hT : d.TableConsistent)
    (h : Registered d connection info now id token value client d' registered) :
    (d.insertClient client connection).TableConsistent := by
  apply insertClient_tableConsistent hT client connection
  rw [h.client_eq]
  exact h.identified.untracked

theorem Registered.tableConsistent (hT : d.TableConsistent)
    (h : Registered d connection info now id token value client d' registered) :
    d'.TableConsistent :=
  h.queue.tableConsistent (h.insertClient_table hT)

/-- A registration returns TRUE exactly when the queue has room, and then the new
client is the last of the queue. -/
theorem Registered.eq_true_iff (hT : d.TableConsistent)
    (h : Registered d connection info now id token value client d' registered) :
    registered = true ↔ (d.freshPending now).length < maxPendingClients := by
  have hassigned := h.assigned
  have hfresh := insertClient_freshPending hT client connection now
  obtain hbusy | ⟨_, _, _, _, hroom⟩ | ⟨_, _, _, _, hfull, _⟩ := h.queue
  · rw [hassigned] at hbusy
    simp at hbusy
  · rw [hfresh] at hroom
    simp [hroom]
  · rw [hfresh] at hfull
    simpa using hfull

theorem Registered.queued (hT : d.TableConsistent)
    (h : Registered d connection info now id token value client d' true) :
    d'.clients d.nextClient = some (client.touch now) ∧
      d'.pendingClients = d.freshPending now ++ [d.nextClient] ∧
      ∀ objects, d.handoverManager = some objects → ∃ objects',
        d'.handoverManager = some objects' ∧ objects' client.id = some d.nextClient := by
  have hassigned := h.assigned
  have hfresh := insertClient_freshPending hT client connection now
  obtain hbusy | ⟨_, hpruned, hqueue, hlive, hroom⟩ := h.queue
  · rw [hassigned] at hbusy
    simp at hbusy
  · refine ⟨setClient_self, by rw [hfresh], ?_⟩
    intro objects hobjects
    obtain ⟨objects', hobjects', hkept⟩ := hpruned.exported _
      (by rw [insertClient, hobjects, Option.map_some])
    refine ⟨objects', hobjects', ?_⟩
    rw [hkept d.nextClient client hlive, Function.update_self]

/-- After a registration every live client is an old one, or the new one that was
queued. -/
theorem Registered.live (h : Registered d connection info now id token value client d' registered)
    {client' : RemoteClient} (hlive : d'.clients ref = some client') :
    (registered = true ∧ ref = d.nextClient ∧ client' = client.touch now) ∨
      d.clients ref = some client' := by
  have hassigned := h.assigned
  have hback {c : RemoteClient} (hne : ref ≠ d.nextClient)
      (hc : (d.insertClient client connection).clients ref = some c) : d.clients ref = some c := by
    rwa [insertClient_of_ne connection hne] at hc
  obtain hbusy | ⟨_, hpruned, hqueue, hnew, hroom⟩ | ⟨_, hpruned, hqueue, hnew, hfull, hremoved⟩ :=
    h.queue
  · rw [hassigned] at hbusy
    simp at hbusy
  · by_cases hne : ref = d.nextClient
    · subst hne
      have hself : some (client.touch now) = some client' := setClient_self.symm.trans hlive
      exact .inl ⟨rfl, rfl, (Option.some.inj hself).symm⟩
    · rw [show _ = _ from setClient_of_ne hne] at hlive
      exact .inr (hback hne (hpruned.clients_eq hlive))
  · have hne := hremoved.ne_of_live hlive
    rw [hremoved.clients_of_ne hne] at hlive
    exact .inr (hback hne (hpruned.clients_eq hlive))

end Registered

end SystemDaemon
end RemoteDesktop.DRD
