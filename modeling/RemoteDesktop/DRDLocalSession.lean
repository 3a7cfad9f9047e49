import RemoteDesktop.ResourceLedger

/-! `drd_local_session.c`: the PAM transaction behind a login, and the conversation that PAM holds
during it. -/
namespace RemoteDesktop.DRD

/-- What PAM returns. Two of its failures are let pass in one place each. -/
inductive PamStatus
  | success
  | newAuthtokReqd
  | credUnavail
  | failed (status : Int)
  deriving DecidableEq, Repr

/-! The conversation. -/

inductive PamMsgStyle
  | promptEchoOff
  | promptEchoOn
  | errorMsg
  | textInfo
  | other (style : Int)
  deriving DecidableEq, Repr

/-- No responses is `PAM_CONV_ERR`. `leaked` counts the copies of the password that are neither
handed over nor freed. -/
structure PamConvResult where
  responses : Option (List (Option String))
  leaked : ℕ := 0
  deriving DecidableEq, Repr

/-- `free(responses)` frees the array, but not the copies in it. -/
def pamConvErr (responses : List (Option String)) : PamConvResult where
  responses := none
  leaked := responses.countP Option.isSome

/-- The messages from `i` on. Whether a copy can be made is asked of `strdup`. -/
def pamConvLoop (password : Option String) (strdup : ℕ → Bool) (i : ℕ)
    (responses : List (Option String)) : List PamMsgStyle → PamConvResult
  | [] => { responses := some responses }
  | .promptEchoOff :: msgs =>
    match password with
    | none => pamConvErr responses
    | some copied =>
      if strdup i then pamConvLoop password strdup (i + 1) (responses ++ [some copied]) msgs
      else pamConvErr responses
  | .promptEchoOn :: _ => pamConvErr responses
  | .errorMsg :: msgs => pamConvLoop password strdup (i + 1) (responses ++ [none]) msgs
  | .textInfo :: msgs => pamConvLoop password strdup (i + 1) (responses ++ [none]) msgs
  | .other _ :: _ => pamConvErr responses

/-- `drd_local_session_pam_conv`. -/
def pamConv (password : Option String) (calloc : Bool) (strdup : ℕ → Bool)
    (msgs : List PamMsgStyle) : PamConvResult :=
  if !calloc then { responses := none } else pamConvLoop password strdup 0 [] msgs

/-- What is answered to a message at place `i`. -/
def pamAnswer (password : Option String) (strdup : ℕ → Bool) (i : ℕ) :
    PamMsgStyle → Option (Option String)
  | .promptEchoOff => if strdup i then password.map some else none
  | .errorMsg | .textInfo => some none
  | .promptEchoOn | .other _ => none

/-- The answers to the messages before the first one that has none. -/
def pamAnswers (password : Option String) (strdup : ℕ → Bool) (i : ℕ) :
    List PamMsgStyle → List (Option String)
  | [] => []
  | style :: msgs =>
    match pamAnswer password strdup i style with
    | none => []
    | some answer => answer :: pamAnswers password strdup (i + 1) msgs

section Conversation

variable {password : Option String} {strdup : ℕ → Bool}

/-- One message: its answer is put behind the others, or all of them are given up. -/
theorem pamConvLoop_cons (i : ℕ) (responses : List (Option String)) (style : PamMsgStyle)
    (msgs : List PamMsgStyle) :
    pamConvLoop password strdup i responses (style :: msgs) =
      match pamAnswer password strdup i style with
      | none => pamConvErr responses
      | some answer => pamConvLoop password strdup (i + 1) (responses ++ [answer]) msgs := by
  cases style with
  | promptEchoOff =>
    cases password with
    | none => simp [pamConvLoop, pamAnswer]
    | some copied =>
      cases hcopy : strdup i with
      | true => simp [pamConvLoop, pamAnswer, hcopy]
      | false => simp [pamConvLoop, pamAnswer, hcopy]
  | promptEchoOn => rfl
  | errorMsg => rfl
  | textInfo => rfl
  | other style => rfl

theorem pamAnswers_length_le (password : Option String) (strdup : ℕ → Bool) (i : ℕ)
    (msgs : List PamMsgStyle) :
    (pamAnswers password strdup i msgs).length ≤ msgs.length := by
  induction msgs generalizing i with
  | nil => rfl
  | cons style msgs ih =>
    rw [pamAnswers]
    split
    · exact Nat.zero_le _
    · exact Nat.succ_le_succ (ih (i + 1))

/-- The loop hands over an answer to each message, or it leaks those that it had. -/
theorem pamConvLoop_eq (i : ℕ) (responses : List (Option String)) (msgs : List PamMsgStyle) :
    pamConvLoop password strdup i responses msgs =
      if (pamAnswers password strdup i msgs).length = msgs.length then
        { responses := some (responses ++ pamAnswers password strdup i msgs) }
      else pamConvErr (responses ++ pamAnswers password strdup i msgs) := by
  induction msgs generalizing i responses with
  | nil => simp [pamConvLoop, pamAnswers]
  | cons style msgs ih =>
    rw [pamConvLoop_cons, pamAnswers]
    cases pamAnswer password strdup i style with
    | none => simp
    | some answer => simp [ih]

/-- Each answer belongs to the message at its place. -/
theorem pamAnswers_getElem? (i : ℕ) (msgs : List PamMsgStyle) {j : ℕ}
    (h : j < (pamAnswers password strdup i msgs).length) (hj : j < msgs.length) :
    (pamAnswers password strdup i msgs)[j]? = pamAnswer password strdup (i + j) msgs[j] := by
  induction msgs generalizing i j with
  | nil => simp at hj
  | cons style msgs ih =>
    rw [pamAnswers] at h ⊢
    cases hanswer : pamAnswer password strdup i style with
    | none => simp [hanswer] at h
    | some answer =>
      cases j with
      | zero => simp [hanswer]
      | succ j =>
        simp only [hanswer, List.length_cons, Nat.succ_lt_succ_iff] at h hj
        have hrest := ih (i + 1) h hj
        rw [show i + 1 + j = i + (j + 1) by omega] at hrest
        simpa using hrest

/-- The answers end before a message that has none. -/
theorem pamAnswers_stop (i : ℕ) (msgs : List PamMsgStyle)
    (h : (pamAnswers password strdup i msgs).length < msgs.length) :
    pamAnswer password strdup (i + (pamAnswers password strdup i msgs).length)
      (msgs[(pamAnswers password strdup i msgs).length]) = none := by
  induction msgs generalizing i with
  | nil => simp at h
  | cons style msgs ih =>
    cases hanswer : pamAnswer password strdup i style with
    | none => simp [pamAnswers, hanswer]
    | some answer =>
      simp only [pamAnswers, hanswer, List.length_cons, Nat.succ_lt_succ_iff] at h ⊢
      have hrest := ih (i + 1) h
      rw [show i + 1 + (pamAnswers password strdup (i + 1) msgs).length =
        i + ((pamAnswers password strdup (i + 1) msgs).length + 1) by omega] at hrest
      simpa using hrest

theorem pamAnswer_eq_some_some {i : ℕ} {style : PamMsgStyle} {answer : Option String}
    (h : pamAnswer password strdup i style = some answer) :
    answer.isSome = decide (style = .promptEchoOff) := by
  cases style with
  | promptEchoOff =>
    simp only [pamAnswer, Option.ite_none_right_eq_some, Option.map_eq_some_iff] at h
    obtain ⟨_, copied, _, rfl⟩ := h
    rfl
  | promptEchoOn => cases h
  | errorMsg =>
    cases h
    rfl
  | textInfo =>
    cases h
    rfl
  | other style => cases h

/-- The copies are those for the hidden prompts that were answered. -/
theorem countP_pamAnswers (i : ℕ) (msgs : List PamMsgStyle) :
    (pamAnswers password strdup i msgs).countP Option.isSome =
      (msgs.take (pamAnswers password strdup i msgs).length).count .promptEchoOff := by
  induction msgs generalizing i with
  | nil => rfl
  | cons style msgs ih =>
    cases hanswer : pamAnswer password strdup i style with
    | none => simp [pamAnswers, hanswer]
    | some answer =>
      simp only [pamAnswers, hanswer, List.length_cons, List.take_succ_cons, List.countP_cons,
        List.count_cons, ih (i + 1), pamAnswer_eq_some_some hanswer]
      simp

/-- A conversation is answered as a whole or not at all. The password goes to hidden prompts only,
each answer to its own message. The first message that cannot be answered ends the conversation,
and the copies for the hidden prompts before it are lost. -/
theorem pam_conv_all_or_nothing (password : Option String) (calloc : Bool) (strdup : ℕ → Bool)
    (msgs : List PamMsgStyle) :
    let result := pamConv password calloc strdup msgs
    (∀ responses, result.responses = some responses ↔
      calloc = true ∧ responses.length = msgs.length ∧
        ∀ i (h : i < msgs.length), responses[i]? = pamAnswer password strdup i msgs[i]) ∧
    (result.responses = none → calloc = true →
      ∃ i, ∃ h : i < msgs.length, pamAnswer password strdup i msgs[i] = none ∧
        (∀ j (hj : j < msgs.length), j < i → pamAnswer password strdup j msgs[j] ≠ none) ∧
        result.leaked = (msgs.take i).count .promptEchoOff) ∧
    (result.responses.isSome → result.leaked = 0) := by
  intro result
  have hle := pamAnswers_length_le password strdup 0 msgs
  cases calloc with
  | false => simp [result, pamConv]
  | true =>
    have hresult : result =
        if (pamAnswers password strdup 0 msgs).length = msgs.length then
          { responses := some (pamAnswers password strdup 0 msgs) }
        else pamConvErr (pamAnswers password strdup 0 msgs) :=
      pamConvLoop_eq 0 [] msgs
    have hplace (i : ℕ) (hi : i < (pamAnswers password strdup 0 msgs).length)
        (h : i < msgs.length) :
        (pamAnswers password strdup 0 msgs)[i]? = pamAnswer password strdup i msgs[i] := by
      simpa using pamAnswers_getElem? 0 msgs hi h
    by_cases hall : (pamAnswers password strdup 0 msgs).length = msgs.length
    · rw [if_pos hall] at hresult
      refine ⟨?_, by simp [hresult], by simp [hresult]⟩
      intro responses
      constructor
      · intro hresponses
        obtain rfl : pamAnswers password strdup 0 msgs = responses := by
          simpa [hresult] using hresponses
        refine ⟨rfl, hall, ?_⟩
        intro i h
        exact hplace i (by omega) h
      · rintro ⟨_, hlength, hanswers⟩
        have hsame : pamAnswers password strdup 0 msgs = responses := by
          apply List.ext_getElem?
          intro i
          by_cases h : i < msgs.length
          · rw [hplace i (by omega) h, hanswers i h]
          · rw [List.getElem?_eq_none (by omega), List.getElem?_eq_none (by omega)]
        rw [hresult, hsame]
    · rw [if_neg hall] at hresult
      have hlt : (pamAnswers password strdup 0 msgs).length < msgs.length := by omega
      have hstop := pamAnswers_stop 0 msgs hlt
      rw [Nat.zero_add] at hstop
      refine ⟨?_, ?_, by simp [hresult, pamConvErr]⟩
      · intro responses
        constructor
        · intro hresponses
          simp [hresult, pamConvErr] at hresponses
        · rintro ⟨_, hlength, hanswers⟩
          have hnone := hanswers _ hlt
          rw [hstop, List.getElem?_eq_none_iff] at hnone
          omega
      · intro _ _
        refine ⟨_, hlt, hstop, ?_, ?_⟩
        · intro j hj hanswered
          rw [← hplace j hanswered hj, List.getElem?_eq_getElem hanswered]
          exact Option.some_ne_none _
        · rw [hresult]
          exact countP_pamAnswers 0 msgs

end Conversation

/-! The transaction. -/

/-- The calls of PAM, with what they have returned where it matters. -/
inductive PamCall
  | start (status : PamStatus)
  | authenticate (status : PamStatus)
  | acctMgmt (status : PamStatus)
  | establishCred (status : PamStatus)
  | openSession (status : PamStatus)
  | closeSession
  | deleteCred
  | pamEnd
  deriving DecidableEq, Repr

/-- What a transaction holds. -/
inductive PamResource
  | handle
  | credentials
  | session
  deriving DecidableEq, Repr

/-- Credentials that are unavailable are deleted later like those that were established. -/
def PamCall.resource : PamCall → Option (ResourceCall PamResource)
  | .start .success => some (.acquire .handle)
  | .establishCred .success | .establishCred .credUnavail => some (.acquire .credentials)
  | .openSession .success => some (.acquire .session)
  | .closeSession => some (.release .session)
  | .deleteCred => some (.release .credentials)
  | .pamEnd => some (.release .handle)
  | .start _ | .authenticate _ | .acctMgmt _ | .establishCred _ | .openSession _ => none

/-- What PAM would return to each call. -/
structure PamAnswers where
  start : PamStatus := .success
  authenticate : PamStatus := .success
  acctMgmt : PamStatus := .success
  setcred : PamStatus := .success
  openSession : PamStatus := .success

/-- What `drd_local_session_new` did. Without an error there may still be no session: the checks of
the arguments set none. -/
structure LocalSessionNew where
  calls : List PamCall := []
  opened : Bool := false
  error : Option String := none

def isMissing (value : Option String) : Bool :=
  value = none ∨ value = some ""

/-- `drd_local_session_new`, with the text that PAM has for a status. -/
def localSessionNew (strerror : PamStatus → String) (pamService username password : Option String)
    (answers : PamAnswers) : LocalSessionNew :=
  if isMissing pamService || isMissing username || isMissing password then {}
  else
    let service := pamService.getD ""
    let user := username.getD ""
    let started : List PamCall := [.start answers.start]
    if answers.start ≠ .success then
      { calls := started
        error := some s!"pam_start({service}) failed: {strerror answers.start}" }
    else
      let authenticated := started ++ [.authenticate answers.authenticate]
      if answers.authenticate ≠ .success then
        { calls := authenticated ++ [.pamEnd]
          error := some s!"PAM authentication failed for {user}: {strerror answers.authenticate}" }
      else
        let checked := authenticated ++ [.acctMgmt answers.acctMgmt]
        if answers.acctMgmt ≠ .success ∧ answers.acctMgmt ≠ .newAuthtokReqd then
          { calls := checked ++ [.pamEnd]
            error := some s!"PAM account check failed for {user}: {strerror answers.acctMgmt}" }
        else
          let established := checked ++ [.establishCred answers.setcred]
          if answers.setcred ≠ .success ∧ answers.setcred ≠ .credUnavail then
            { calls := established ++ [.pamEnd]
              error := some s!"Failed to establish PAM credentials: {strerror answers.setcred}" }
          else
            let opened := established ++ [.openSession answers.openSession]
            if answers.openSession ≠ .success then
              { calls := opened ++ [.deleteCred, .pamEnd]
                error :=
                  some s!"Failed to open PAM session for {user}: {strerror answers.openSession}" }
            else { calls := opened, opened := true }

/-- `drd_local_session_close` of an open session. -/
def localSessionClose : List PamCall :=
  [.closeSession, .deleteCred, .pamEnd]

/-- What the calls hold, the last one first. -/
def pamHolds (calls : List PamCall) : Option (List PamResource) :=
  ResourceCall.nestedAfter (calls.filterMap PamCall.resource)

theorem pamHolds_append (calls calls' : List PamCall) :
    pamHolds (calls ++ calls') =
      (pamHolds calls).bind fun stack =>
        (calls'.filterMap PamCall.resource).foldlM ResourceCall.nest stack := by
  rw [pamHolds, List.filterMap_append, ResourceCall.nestedAfter_append]
  rfl

/-- A login that PAM has let pass. -/
structure LoggedIn (calls : List PamCall) : Prop where
  authenticated : .authenticate .success ∈ calls
  checked : .acctMgmt .success ∈ calls ∨ .acctMgmt .newAuthtokReqd ∈ calls
  opened : .openSession .success ∈ calls

theorem LoggedIn.mono {calls calls' : List PamCall} (h : LoggedIn calls) (hsub : calls ⊆ calls') :
    LoggedIn calls' where
  authenticated := hsub h.authenticated
  checked := h.checked.imp (fun hmem => hsub hmem) (fun hmem => hsub hmem)
  opened := hsub h.opened

@[simp] theorem resource_authenticate (status : PamStatus) :
    (PamCall.authenticate status).resource = none := rfl

@[simp] theorem resource_acctMgmt (status : PamStatus) :
    (PamCall.acctMgmt status).resource = none := rfl

@[simp] theorem resource_start_success :
    (PamCall.start .success).resource = some (.acquire .handle) := rfl

@[simp] theorem resource_openSession_success :
    (PamCall.openSession .success).resource = some (.acquire .session) := rfl

@[simp] theorem resource_deleteCred :
    PamCall.deleteCred.resource = some (.release .credentials) := rfl

@[simp] theorem resource_pamEnd : PamCall.pamEnd.resource = some (.release .handle) := rfl

theorem resource_start {status : PamStatus} (h : status ≠ .success) :
    (PamCall.start status).resource = none := by
  cases status with
  | success => exact absurd rfl h
  | newAuthtokReqd | credUnavail | failed => rfl

theorem resource_establishCred {status : PamStatus} :
    (PamCall.establishCred status).resource =
      if status ≠ .success ∧ status ≠ .credUnavail then none else some (.acquire .credentials) := by
  cases status with
  | success | credUnavail | newAuthtokReqd | failed => rfl

theorem resource_openSession {status : PamStatus} (h : status ≠ .success) :
    (PamCall.openSession status).resource = none := by
  cases status with
  | success => exact absurd rfl h
  | newAuthtokReqd | credUnavail | failed => rfl

section New

variable {strerror : PamStatus → String} {pamService username password : Option String}
  {answers : PamAnswers} {result : LocalSessionNew}

/-- What a session that is open holds is all there is to hold. -/
theorem localSessionNew_opened
    (hresult : localSessionNew strerror pamService username password answers = result)
    (h : result.opened = true) :
    LoggedIn result.calls ∧ pamHolds result.calls = some [.session, .credentials, .handle] := by
  subst hresult
  unfold localSessionNew at h ⊢
  dsimp only at h ⊢
  split_ifs at h ⊢ with hmissing hstart hauthenticate hacctMgmt hsetcred hopen
  have hcred : (PamCall.establishCred answers.setcred).resource = some (.acquire .credentials) := by
    rw [resource_establishCred, if_neg hsetcred]
  simp only [not_not] at hstart hauthenticate hopen
  refine ⟨⟨?_, ?_, ?_⟩, ?_⟩
  · simp [hauthenticate]
  · simpa [← or_iff_not_imp_left, eq_comm] using hacctMgmt
  · simp [hopen]
  · simp [pamHolds, ResourceCall.nestedAfter, ResourceCall.nest, List.filterMap_cons, hstart,
      hcred, hopen]

/-- Without a session nothing is held any more. -/
theorem localSessionNew_failed
    (hresult : localSessionNew strerror pamService username password answers = result)
    (h : result.opened = false) : pamHolds result.calls = some [] := by
  subst hresult
  unfold localSessionNew at h ⊢
  dsimp only at h ⊢
  split_ifs at h ⊢ with hmissing hstart hauthenticate hacctMgmt hsetcred hopen
  · rfl
  · simp [pamHolds, ResourceCall.nestedAfter, resource_start hstart]
  all_goals simp only [not_not] at hstart
  · simp [pamHolds, ResourceCall.nestedAfter, ResourceCall.nest, List.filterMap_cons, hstart]
  · simp [pamHolds, ResourceCall.nestedAfter, ResourceCall.nest, List.filterMap_cons, hstart]
  · have hcred : (PamCall.establishCred answers.setcred).resource = none := by
      rw [resource_establishCred, if_pos hsetcred]
    simp [pamHolds, ResourceCall.nestedAfter, ResourceCall.nest, List.filterMap_cons, hstart,
      hcred]
  · have hcred : (PamCall.establishCred answers.setcred).resource =
        some (.acquire .credentials) := by
      rw [resource_establishCred, if_neg hsetcred]
    simp [pamHolds, ResourceCall.nestedAfter, ResourceCall.nest, List.filterMap_cons, hstart,
      hcred, resource_openSession hopen]

/-- Without a session none has been opened. -/
theorem localSessionNew_unopened
    (hresult : localSessionNew strerror pamService username password answers = result)
    (h : result.opened = false) : .openSession .success ∉ result.calls := by
  subst hresult
  unfold localSessionNew at h ⊢
  dsimp only at h ⊢
  split_ifs at h ⊢ with hmissing hstart hauthenticate hacctMgmt hsetcred hopen
  all_goals simp
  exact fun heq => hopen heq.symm

/-- A session is closed by `drd_local_session_close` only. -/
theorem localSessionNew_unclosed
    (hresult : localSessionNew strerror pamService username password answers = result) :
    .closeSession ∉ result.calls := by
  subst hresult
  unfold localSessionNew
  dsimp only
  split_ifs <;> simp

end New

/-- After a transaction that is over, the next one begins anew. -/
theorem pamHolds_append_of_over {calls : List PamCall} (h : pamHolds calls = some [])
    (calls' : List PamCall) : pamHolds (calls ++ calls') = pamHolds calls' := by
  rw [pamHolds_append, h]
  rfl

/-- Closing a session undoes what opening it has done, in the opposite order. -/
theorem pamHolds_close {calls : List PamCall}
    (h : pamHolds calls = some [.session, .credentials, .handle]) :
    pamHolds (calls ++ localSessionClose) = some [] := by
  rw [pamHolds_append, h]
  rfl

end RemoteDesktop.DRD
