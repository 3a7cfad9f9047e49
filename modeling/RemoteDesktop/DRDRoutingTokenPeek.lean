import RemoteDesktop.DRDRoutingToken

/-! The loop of `peek_bytes` against a client that sends what it likes and then closes the
connection. The bytes are peeked, so they stay on the socket. -/
namespace RemoteDesktop.DRD

/-- What a call of `g_poll` comes to. -/
inductive PollResult
  /-- It is ready or has waited `MAX_PEEK_TIME_MS`; the loop does not tell the two apart. -/
  | returned
  | interrupted
  | failed (strerror : String)
  /-- It returned, and the cancellable is cancelled. -/
  | cancelled
  deriving DecidableEq, Repr

/-- What a call of `recv` comes to. -/
inductive RecvResult
  | bytes (buffer : List UInt8)
  | interrupted
  | again
  | failed (strerror : String)
  deriving DecidableEq, Repr

/-- What the system makes of a `recv`: the answer of the socket or an errno. -/
inductive RecvAnswer
  | fromQueue
  | interrupted
  | again
  | failed (strerror : String)
  deriving DecidableEq, Repr

/-- A `recv` of an open connection, with the bytes that have come since the one before. -/
structure RecvCall where
  arrived : List UInt8
  answer : RecvAnswer
  deriving DecidableEq, Repr

/-- A socket: the bytes on it, and what the calls to come will find. After the last `recv` listed
the client has closed the connection. -/
structure PeekedSocket where
  queue : List UInt8 := []
  polls : List PollResult := []
  recvs : List RecvCall := []
  /-- `g_cancellable_make_pollfd` succeeds. -/
  pollfd : Bool := true
  deriving DecidableEq, Repr

namespace PeekedSocket

def poll (s : PeekedSocket) : PollResult × PeekedSocket :=
  match s.polls with
  | [] => (.returned, s)
  | result :: polls => (result, { s with polls })

/-- `recv` with MSG_PEEK. -/
def recv (s : PeekedSocket) (length : ℕ) : RecvResult × PeekedSocket :=
  match s.recvs with
  -- of a closed connection it gives what is left, which may be nothing
  | [] => (.bytes (s.queue.take length), s)
  | call :: recvs =>
    let s := { s with queue := s.queue ++ call.arrived, recvs }
    match call.answer with
    | .fromQueue => if s.queue = [] then (.again, s) else (.bytes (s.queue.take length), s)
    | .interrupted => (.interrupted, s)
    | .again => (.again, s)
    | .failed strerror => (.failed strerror, s)

end PeekedSocket

/-- The call that `peek_bytes` makes next. -/
inductive PeekCall
  | poll
  | recv
  deriving DecidableEq, Repr

/-- The loop of `peek_bytes`, at most `fuel` calls of it. -/
def peekBytesLoop (length : ℕ) :
    ℕ → PeekCall → PeekedSocket → Option (Except String (List UInt8) × PeekedSocket)
  | 0, _, _ => none
  | fuel + 1, .poll, s =>
    match s.poll with
    | (.interrupted, s) => peekBytesLoop length fuel .poll s
    | (.failed strerror, s) => some (.error ("On poll command: " ++ strerror), s)
    | (.cancelled, s) => some (.error "Cancelled", s)
    | (.returned, s) => peekBytesLoop length fuel .recv s
  | fuel + 1, .recv, s =>
    match s.recv length with
    | (.interrupted, s) => peekBytesLoop length fuel .recv s
    -- `continue` goes to the loop's test, and there `ret` is -1
    | (.again, s) => peekBytesLoop length fuel .poll s
    | (.failed strerror, s) => some (.error ("On recv command: " ++ strerror), s)
    | (.bytes buffer, s) =>
      if buffer.length < length then peekBytesLoop length fuel .poll s else some (.ok buffer, s)

/-- `peek_bytes`. -/
def peekBytesRun (fuel length : ℕ) (s : PeekedSocket) :
    Option (Except String (List UInt8) × PeekedSocket) :=
  if s.pollfd then peekBytesLoop length fuel .poll s
  else some (.error "Failure preparing the cancellable for pollfd", s)

/-- `drd_routing_token_peek` with the loops of its two peeks. -/
def drdRoutingTokenPeekRun (fuel : ℕ) (s : PeekedSocket) :
    Option (Except String RoutingTokenInfo) :=
  match peekBytesRun fuel 4 s with
  | none => none
  | some (.error error, _) => some (.error error)
  | some (.ok header, s) =>
    let version := header.getD 0 0
    let tpktLength := readUInt16BE (header.getD 2 0) (header.getD 3 0)
    if version ≠ 3 then some (.error "The TPKT Header doesn't have version 3")
    else if tpktLength.toNat < 4 + 7 then some (.error "The x224Crq TPDU length is too short")
    else
      match peekBytesRun fuel tpktLength.toNat s with
      | none => none
      | some (.error error, _) => some (.error error)
      | some (.ok pdu, _) => some (checkX224Crq tpktLength (pdu.drop 4))

/-! The client. -/

namespace PeekedSocket

/-- All that the client sends before it closes the connection. -/
def delivered (s : PeekedSocket) : List UInt8 :=
  s.queue ++ s.recvs.flatMap RecvCall.arrived

/-- No call fails but with EINTR or EAGAIN, and nothing is cancelled. -/
structure OnlyRetries (s : PeekedSocket) : Prop where
  pollfd : s.pollfd = true
  polls : ∀ result ∈ s.polls, result = .returned ∨ result = .interrupted
  recvs : ∀ call ∈ s.recvs, ∀ strerror, call.answer ≠ .failed strerror

end PeekedSocket

/-- The client has sent all that the parser peeks. -/
def SentEnough (bytes : List UInt8) : Prop :=
  4 ≤ bytes.length ∧
    (bytes.getD 0 0 ≠ 3 ∨ (readUInt16BE (bytes.getD 2 0) (bytes.getD 3 0)).toNat < 11 ∨
      (readUInt16BE (bytes.getD 2 0) (bytes.getD 3 0)).toNat ≤ bytes.length)

/-! One call. -/

namespace PeekedSocket

variable {s : PeekedSocket}

/-- How many calls the client still has a say in. -/
def pending (s : PeekedSocket) : ℕ :=
  s.polls.length + 2 * s.recvs.length

/-- A `g_poll` returns, and nothing is left of its list, or it takes one from the list. -/
theorem poll_cases (h : s.OnlyRetries) :
    (s.poll = (.returned, s)) ∨
      ∃ s', (s.poll = (.returned, s') ∨ s.poll = (.interrupted, s')) ∧ s'.OnlyRetries ∧
        s'.delivered = s.delivered ∧ s'.pending < s.pending := by
  rcases hpolls : s.polls with _ | ⟨result, polls⟩
  · left
    rw [poll, hpolls]
  · right
    have hpoll : s.poll = (result, { s with polls }) := by rw [poll, hpolls]
    refine ⟨{ s with polls }, ?_, ?_, rfl, ?_⟩
    · rcases h.polls result (by rw [hpolls]; exact List.mem_cons_self) with rfl | rfl
      · exact .inl hpoll
      · exact .inr hpoll
    · refine ⟨h.pollfd, ?_, h.recvs⟩
      intro other hother
      apply h.polls
      rw [hpolls]
      exact List.mem_cons_of_mem _ hother
    · rw [pending, pending, hpolls]
      simp

/-- A `recv` of a closed connection peeks all there is, and one of an open connection is
interrupted, has to be made again or peeks what has come so far. -/
theorem recv_cases (h : s.OnlyRetries) (length : ℕ) :
    s.recv length = (.bytes (s.delivered.take length), s) ∨
      ∃ s', (s.recv length = (.interrupted, s') ∨ s.recv length = (.again, s') ∨
          s.recv length = (.bytes (s'.queue.take length), s')) ∧
        s'.OnlyRetries ∧ s'.delivered = s.delivered ∧ s'.pending + 2 = s.pending := by
  rcases hrecvs : s.recvs with _ | ⟨call, recvs⟩
  · left
    rw [recv, delivered, hrecvs, List.flatMap_nil, List.append_nil]
  · right
    refine ⟨{ s with queue := s.queue ++ call.arrived, recvs }, ?_, ?_, ?_, ?_⟩
    · have hanswer := h.recvs call (by rw [hrecvs]; exact List.mem_cons_self)
      simp only [recv, hrecvs]
      rcases hcall : call.answer with _ | _ | _ | strerror
      · by_cases hempty : s.queue ++ call.arrived = []
        · right
          left
          simp only [if_pos hempty]
        · right
          right
          simp only [if_neg hempty]
      · exact .inl rfl
      · exact .inr (.inl rfl)
      · exact absurd hcall (hanswer strerror)
    · refine ⟨h.pollfd, h.polls, ?_⟩
      intro other hother
      apply h.recvs
      rw [hrecvs]
      exact List.mem_cons_of_mem _ hother
    · rw [delivered, delivered, hrecvs, List.flatMap_cons, List.append_assoc]
    · simp only [pending, hrecvs, List.length_cons]
      omega

theorem queue_prefix (s : PeekedSocket) : s.queue <+: s.delivered :=
  List.prefix_append _ _

end PeekedSocket

open PeekedSocket

/-! The loop. -/

/-- More calls do not change what the loop has come to. -/
theorem peekBytesLoop_mono (length : ℕ) {fuel : ℕ} {call : PeekCall} {s : PeekedSocket}
    {r : Except String (List UInt8) × PeekedSocket} (more : ℕ)
    (h : peekBytesLoop length fuel call s = some r) :
    peekBytesLoop length (fuel + more) call s = some r := by
  induction fuel generalizing call s with
  | zero => cases h
  | succ fuel ih =>
    rw [Nat.add_right_comm]
    cases call with
    | poll =>
      rw [peekBytesLoop] at h ⊢
      revert h
      rcases s.poll with ⟨_ | _ | _ | _, s'⟩ <;> intro h
      · exact ih h
      · exact ih h
      · exact h
      · exact h
    | recv =>
      rw [peekBytesLoop] at h ⊢
      revert h
      rcases s.recv length with ⟨buffer | _ | _ | _, s'⟩ <;> intro h
      · by_cases hshort : buffer.length < length
        · simp only [if_pos hshort] at h ⊢
          exact ih h
        · simp only [if_neg hshort] at h ⊢
          exact h
      · exact ih h
      · exact ih h
      · exact h

/-- Without the bytes it waits for, the loop has come to nothing after any number of calls. -/
theorem peekBytesLoop_short {length : ℕ} (fuel : ℕ) (call : PeekCall) {s : PeekedSocket}
    (h : s.OnlyRetries) (hshort : s.delivered.length < length) :
    peekBytesLoop length fuel call s = none := by
  induction fuel generalizing call s with
  | zero => rfl
  | succ fuel ih =>
    cases call with
    | poll =>
      rw [peekBytesLoop]
      rcases poll_cases h with hpoll | ⟨s', hpoll | hpoll, hretries, hdelivered, -⟩
      · rw [hpoll]
        exact ih .recv h hshort
      · rw [hpoll]
        exact ih .recv hretries (by rwa [hdelivered])
      · rw [hpoll]
        exact ih .poll hretries (by rwa [hdelivered])
    | recv =>
      rw [peekBytesLoop]
      rcases recv_cases h length with hrecv |
        ⟨s', hrecv | hrecv | hrecv, hretries, hdelivered, -⟩
      · -- the connection is closed and the same bytes will be peeked again
        have hround : (s.delivered.take length).length < length := by
          rw [List.length_take]
          omega
        rw [hrecv]
        simp only [if_pos hround]
        exact ih .poll h hshort
      · rw [hrecv]
        exact ih .recv hretries (by rwa [hdelivered])
      · rw [hrecv]
        exact ih .poll hretries (by rwa [hdelivered])
      · have hqueue := s'.queue_prefix.length_le
        have hround : (s'.queue.take length).length < length := by
          rw [hdelivered] at hqueue
          rw [List.length_take]
          omega
        rw [hrecv]
        simp only [if_pos hround]
        exact ih .poll hretries (by rwa [hdelivered])

/-- The calls that `g_poll` or `recv` has before it in a round. -/
def PeekCall.toGo : PeekCall → ℕ
  | .poll => 1
  | .recv => 0

/-- The loop ends with the bytes it was to peek, and with none of the client's lost. -/
def PeekEnds (length : ℕ) (call : PeekCall) (s : PeekedSocket) : Prop :=
  ∃ fuel s', peekBytesLoop length fuel call s = some (.ok (s.delivered.take length), s') ∧
    s'.OnlyRetries ∧ s'.delivered = s.delivered

theorem PeekEnds.of_step {length : ℕ} {call call' : PeekCall} {s s' : PeekedSocket}
    (h : PeekEnds length call' s') (hdelivered : s'.delivered = s.delivered)
    (hstep : ∀ fuel, peekBytesLoop length (fuel + 1) call s = peekBytesLoop length fuel call' s') :
    PeekEnds length call s := by
  obtain ⟨fuel, t, hloop, hretries, ht⟩ := h
  rw [hdelivered] at hloop ht
  exact ⟨fuel + 1, t, (hstep fuel).trans hloop, hretries, ht⟩

/-- With enough bytes delivered the loop ends: before its last two calls each takes something
from the client's lists. -/
theorem peekBytesLoop_ends {length : ℕ} (call : PeekCall) {s : PeekedSocket} (h : s.OnlyRetries)
    (hlong : length ≤ s.delivered.length) : PeekEnds length call s := by
  induction hn : s.pending + call.toGo using Nat.strong_induction_on generalizing call s with
  | _ n ih =>
    cases call with
    | poll =>
      have hgo : PeekCall.poll.toGo = 1 := rfl
      have hgo' : PeekCall.recv.toGo = 0 := rfl
      rcases poll_cases h with hpoll | ⟨s', hpoll | hpoll, hretries, hdelivered, hless⟩
      · apply (ih _ (by omega) .recv h hlong rfl).of_step rfl
        intro fuel
        rw [peekBytesLoop, hpoll]
      · apply (ih _ (by omega) .recv hretries (by rwa [hdelivered]) rfl).of_step hdelivered
        intro fuel
        rw [peekBytesLoop, hpoll]
      · apply (ih _ (by omega) .poll hretries (by rwa [hdelivered]) rfl).of_step hdelivered
        intro fuel
        rw [peekBytesLoop, hpoll]
    | recv =>
      have hgo : PeekCall.poll.toGo = 1 := rfl
      have hgo' : PeekCall.recv.toGo = 0 := rfl
      rcases recv_cases h length with hrecv |
        ⟨s', hrecv | hrecv | hrecv, hretries, hdelivered, hless⟩
      · have hround : ¬ (s.delivered.take length).length < length := by
          rw [List.length_take]
          omega
        refine ⟨1, s, ?_, h, rfl⟩
        rw [peekBytesLoop, hrecv]
        simp only [if_neg hround]
      · apply (ih _ (by omega) .recv hretries (by rwa [hdelivered]) rfl).of_step hdelivered
        intro fuel
        rw [peekBytesLoop, hrecv]
      · apply (ih _ (by omega) .poll hretries (by rwa [hdelivered]) rfl).of_step hdelivered
        intro fuel
        rw [peekBytesLoop, hrecv]
      · by_cases hround : (s'.queue.take length).length < length
        · apply (ih _ (by omega) .poll hretries (by rwa [hdelivered]) rfl).of_step hdelivered
          intro fuel
          rw [peekBytesLoop, hrecv]
          simp only [if_pos hround]
        · -- enough has come already
          have hpeeked : s'.queue.take length = s.delivered.take length := by
            have hprefix := s'.queue_prefix
            rw [hdelivered] at hprefix
            obtain ⟨rest, hrest⟩ := hprefix
            rw [List.length_take] at hround
            rw [← hrest, List.take_append_of_le_length (by omega)]
          refine ⟨1, s', ?_, hretries, hdelivered⟩
          rw [peekBytesLoop, hrecv]
          simp only [if_neg hround]
          rw [hpeeked]

/-! The two peeks. -/

theorem peekBytesRun_eq {s : PeekedSocket} (h : s.OnlyRetries) (fuel length : ℕ) :
    peekBytesRun fuel length s = peekBytesLoop length fuel .poll s := by
  rw [peekBytesRun, if_pos h.pollfd]

theorem peekBytesRun_ends_iff {s : PeekedSocket} (h : s.OnlyRetries) (length : ℕ) :
    (∃ fuel r, peekBytesRun fuel length s = some r) ↔ length ≤ s.delivered.length := by
  constructor
  · rintro ⟨fuel, r, hrun⟩
    by_contra! hshort
    rw [peekBytesRun_eq h, peekBytesLoop_short fuel .poll h hshort] at hrun
    cases hrun
  · intro hlong
    obtain ⟨fuel, s', hloop, -⟩ := peekBytesLoop_ends .poll h hlong
    exact ⟨fuel, _, (peekBytesRun_eq h fuel length).trans hloop⟩

/-- A loop that ended has peeked what `peekBytes` says. -/
theorem peekBytesRun_some {s s' : PeekedSocket} (h : s.OnlyRetries) {fuel length : ℕ}
    {result : Except String (List UInt8)} (hrun : peekBytesRun fuel length s = some (result, s')) :
    length ≤ s.delivered.length ∧ result = .ok (s.delivered.take length) ∧ s'.OnlyRetries ∧
      s'.delivered = s.delivered := by
  have hlong := (peekBytesRun_ends_iff h length).mp ⟨fuel, _, hrun⟩
  obtain ⟨fuel', t, hloop, hretries, hdelivered⟩ := peekBytesLoop_ends .poll h hlong
  rw [peekBytesRun_eq h] at hrun
  -- the run and the one that is known to end are the same from the larger fuel on
  have hmore := peekBytesLoop_mono length fuel' hrun
  rw [Nat.add_comm, peekBytesLoop_mono length fuel hloop] at hmore
  obtain ⟨rfl, rfl⟩ := Prod.mk.inj (Option.some.inj hmore)
  exact ⟨hlong, rfl, hretries, hdelivered⟩

theorem getD_take_four (bytes : List UInt8) {k : ℕ} (hk : k < 4) :
    (bytes.take 4).getD k 0 = bytes.getD k 0 := by
  simp [hk]

/-- A run that returns has the verdict on the bytes delivered. -/
theorem drdRoutingTokenPeekRun_some {s : PeekedSocket} (h : s.OnlyRetries) {fuel : ℕ}
    {result : Except String RoutingTokenInfo} (hrun : drdRoutingTokenPeekRun fuel s = some result) :
    drdRoutingTokenPeek s.delivered = some result := by
  rw [drdRoutingTokenPeekRun] at hrun
  rcases hheader : peekBytesRun fuel 4 s with _ | ⟨_ | header, s'⟩
  · rw [hheader] at hrun
    cases hrun
  · obtain ⟨-, hresult, -⟩ := peekBytesRun_some h hheader
    cases hresult
  · obtain ⟨hlong, hresult, hretries, hdelivered⟩ := peekBytesRun_some h hheader
    obtain rfl := Except.ok.inj hresult
    rw [hheader] at hrun
    rw [drdRoutingTokenPeek, peekBytes, if_pos hlong, Option.bind_some]
    simp only at hrun ⊢
    split_ifs at hrun ⊢ with hversion hshort
    · exact hrun
    · exact hrun
    · rcases hpdu : peekBytesRun fuel _ s' with _ | ⟨_ | pdu, t⟩
      · rw [hpdu] at hrun
        cases hrun
      · obtain ⟨-, hresult, -⟩ := peekBytesRun_some hretries hpdu
        cases hresult
      · obtain ⟨hfull, hresult, -⟩ := peekBytesRun_some hretries hpdu
        obtain rfl := Except.ok.inj hresult
        rw [hpdu] at hrun
        rw [hdelivered] at hfull hrun
        rw [peekBytes, if_pos hfull, Option.map_some]
        exact hrun

theorem drdRoutingTokenPeekRun_ends {s : PeekedSocket} (h : s.OnlyRetries)
    (henough : SentEnough s.delivered) :
    ∃ fuel result, drdRoutingTokenPeekRun fuel s = some result := by
  obtain ⟨hheader, hpdu⟩ := henough
  obtain ⟨fuel, s', hloop, hretries, hdelivered⟩ := peekBytesLoop_ends .poll h hheader
  set tpktLength := readUInt16BE (s.delivered.getD 2 0) (s.delivered.getD 3 0) with hlength
  have hfirst : ∀ more, peekBytesRun (fuel + more) 4 s = some (.ok (s.delivered.take 4), s') := by
    intro more
    rw [peekBytesRun_eq h, peekBytesLoop_mono 4 more hloop]
  by_cases hstop : s.delivered.getD 0 0 ≠ 3 ∨ tpktLength.toNat < 11
  · -- the header is enough for a verdict
    refine ⟨fuel + 0, ?_⟩
    rw [drdRoutingTokenPeekRun, hfirst 0]
    simp only [getD_take_four s.delivered (show 0 < 4 by omega),
      getD_take_four s.delivered (show 2 < 4 by omega),
      getD_take_four s.delivered (show 3 < 4 by omega), ← hlength]
    rcases hstop with hversion | hshort
    · exact ⟨_, if_pos hversion⟩
    · by_cases hversion : s.delivered.getD 0 0 ≠ 3
      · exact ⟨_, if_pos hversion⟩
      · rw [if_neg hversion, if_pos hshort]
        exact ⟨_, rfl⟩
  · have hfull : tpktLength.toNat ≤ s'.delivered.length := by
      rw [hdelivered]
      exact (or_assoc.mpr hpdu).resolve_left hstop
    obtain ⟨fuel', t, hloop', -⟩ := peekBytesLoop_ends .poll hretries hfull
    have hsecond : peekBytesRun (fuel + fuel') tpktLength.toNat s' =
        some (.ok (s'.delivered.take tpktLength.toNat), t) := by
      rw [peekBytesRun_eq hretries, Nat.add_comm, peekBytesLoop_mono _ fuel hloop']
    refine ⟨fuel + fuel', ?_⟩
    rw [drdRoutingTokenPeekRun, hfirst fuel']
    simp only [getD_take_four s.delivered (show 0 < 4 by omega),
      getD_take_four s.delivered (show 2 < 4 by omega),
      getD_take_four s.delivered (show 3 < 4 by omega), ← hlength]
    rw [if_neg fun hversion => hstop (.inl hversion), if_neg fun hshort => hstop (.inr hshort),
      hsecond]
    exact ⟨_, rfl⟩

theorem sentEnough_of_peek {bytes : List UInt8} {result : Except String RoutingTokenInfo}
    (h : drdRoutingTokenPeek bytes = some result) : SentEnough bytes := by
  rw [drdRoutingTokenPeek, Option.bind_eq_some_iff] at h
  obtain ⟨header, hheader, h⟩ := h
  obtain ⟨hlong, htake⟩ := Option.ite_none_right_eq_some.mp hheader
  obtain rfl := Option.some.inj htake
  refine ⟨hlong, ?_⟩
  simp only [getD_take_four bytes (show 0 < 4 by omega), getD_take_four bytes (show 2 < 4 by omega),
    getD_take_four bytes (show 3 < 4 by omega)] at h
  split_ifs at h with hversion hshort
  · exact .inl hversion
  · exact .inr (.inl hshort)
  · obtain ⟨pdu, hpdu, -⟩ := Option.map_eq_some_iff.mp h
    exact .inr (.inr (Option.ite_none_right_eq_some.mp hpdu).1)

/-- Against a client that closes the connection in the end, the loop of `peek_bytes` ends exactly
when as many bytes as it asks for were sent, and `drd_routing_token_peek` returns exactly when
four were sent and either the verdict is in the first four or the PDU was sent in full. -/
theorem routing_token_peek_returns_iff (s : PeekedSocket) (h : s.OnlyRetries) :
    (∀ length, (∃ fuel r, peekBytesRun fuel length s = some r) ↔ length ≤ s.delivered.length) ∧
      ((∃ fuel result, drdRoutingTokenPeekRun fuel s = some result) ↔ SentEnough s.delivered) := by
  refine ⟨peekBytesRun_ends_iff h, ?_, ?_⟩
  · rintro ⟨fuel, result, hrun⟩
    exact sentEnough_of_peek (drdRoutingTokenPeekRun_some h hrun)
  · intro henough
    exact drdRoutingTokenPeekRun_ends h henough

/-- A client that sends one byte, after which a call is interrupted, and closes the connection. -/
def oneByteClient : PeekedSocket where
  polls := [.returned, .interrupted]
  recvs := [⟨[], .again⟩, ⟨[3], .fromQueue⟩]

theorem oneByteClient_onlyRetries : oneByteClient.OnlyRetries where
  pollfd := rfl
  polls := by decide
  recvs := by
    intro call hcall strerror
    fin_cases hcall
    · exact RecvAnswer.noConfusion
    · exact RecvAnswer.noConfusion

theorem routing_token_peek_returns_at_one_byte :
    oneByteClient.OnlyRetries ∧
      (∀ length, (∃ fuel r, peekBytesRun fuel length oneByteClient = some r) ↔ length ≤ 1) ∧
      ¬ ∃ fuel result, drdRoutingTokenPeekRun fuel oneByteClient = some result := by
  obtain ⟨hpeek, hrun⟩ := routing_token_peek_returns_iff oneByteClient oneByteClient_onlyRetries
  exact ⟨oneByteClient_onlyRetries, hpeek, mt hrun.mp fun henough => absurd henough.1 (by decide)⟩

/-- The one byte is peeked again and again, and the four of the header never come. -/
theorem closed_connection_peeked_forever :
    ¬ ∀ s : PeekedSocket, s.OnlyRetries →
      (∀ length, ∃ fuel r, peekBytesRun fuel length s = some r) ∧
        ∃ fuel result, drdRoutingTokenPeekRun fuel s = some result := by
  intro hreturns
  obtain ⟨-, fuel, result, hrun⟩ := hreturns oneByteClient oneByteClient_onlyRetries
  have hpeek := drdRoutingTokenPeekRun_some oneByteClient_onlyRetries hrun
  have hwaits : drdRoutingTokenPeek oneByteClient.delivered = none := by decide
  rw [hwaits] at hpeek
  cases hpeek

end RemoteDesktop.DRD
