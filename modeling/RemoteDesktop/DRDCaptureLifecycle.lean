import RemoteDesktop.DRDX11Capture
import RemoteDesktop.ResourceLedger

/-! `drd_x11_capture_start` and `drd_x11_capture_stop` beside the capture thread: what one
object has acquired, and the pipe that is to wake the thread up. -/
namespace RemoteDesktop.DRD

/-- What a capture object acquires: the two ends of its pipe, the connection to the X server,
the image, the segment of shared memory with its mapping here and its attachment there, the
damage object, and the capture thread, which `g_thread_join` releases. -/
inductive CaptureResource
  | wakeupPipe | display | image | segment | mapping | attachment | damage | thread
  deriving DecidableEq, Repr

/-- The calls of a start that can fail. -/
inductive CaptureCall
  | openPipe | openDisplay | shmQueryExtension | damageQueryExtension | shmCreateImage | shmget
  | shmat | shmAttach | damageCreate
  deriving DecidableEq, Repr

/-- `shm.info.shmaddr`. A `shmat` that failed leaves `(char *) -1` there. -/
inductive ShmAddr
  | null | failed | mapped
  deriving DecidableEq, Repr

/-- Handles are kept as whether they are set. `calls` are the calls that acquired or released
something, in their order. -/
structure DrdX11Capture where
  running : Bool := false
  display : Bool := false
  image : Bool := false
  /-- `shmid ≥ 0` -/
  shmid : Bool := false
  shmaddr : ShmAddr := .null
  attached : Bool := false
  damage : Bool := false
  width : UInt32 := 0
  height : UInt32 := 0
  wakeupPipe : Bool := false
  thread : Bool := false
  calls : List (ResourceCall CaptureResource) := []

namespace DrdX11Capture

variable (self : DrdX11Capture)

/-- What the fields say the object holds. -/
def holds : CaptureResource → Bool
  | .wakeupPipe => self.wakeupPipe
  | .display => self.display
  | .image => self.image
  | .segment => self.shmid
  | .mapping => self.shmaddr = .mapped
  | .attachment => self.attached
  | .damage => self.damage
  | .thread => self.thread

/-- Sets or clears the field of a resource. -/
def setField (held : Bool) : CaptureResource → DrdX11Capture
  | .wakeupPipe => { self with wakeupPipe := held }
  | .display => { self with display := held }
  | .image => { self with image := held }
  | .segment => { self with shmid := held }
  | .mapping => { self with shmaddr := if held then .mapped else .null }
  | .attachment => { self with attached := held }
  | .damage => { self with damage := held }
  | .thread => { self with thread := held }

def acquire (r : CaptureResource) : DrdX11Capture :=
  { self.setField true r with calls := self.calls ++ [.acquire r] }

def release (r : CaptureResource) : DrdX11Capture :=
  { self.setField false r with calls := self.calls ++ [.release r] }

/-- A size that is not asked for is the one of the display. -/
def chooseSize (displaySize requested : UInt32 × UInt32) : DrdX11Capture :=
  { self with
    width := if requested.1 > 0 then requested.1 else displaySize.1
    height := if requested.2 > 0 then requested.2 else displaySize.2 }

/-- `drd_x11_capture_prepare_display`, with the call that failed. `fails` says what each call
answers, `displaySize` what the X server has. -/
def prepareDisplay (fails : CaptureCall → Bool) (displaySize requested : UInt32 × UInt32) :
    DrdX11Capture × Option CaptureCall :=
  if fails .openDisplay then (self, some .openDisplay)
  else
    let self := self.acquire .display
    if fails .shmQueryExtension then (self, some .shmQueryExtension)
    else if fails .damageQueryExtension then (self, some .damageQueryExtension)
    else
      let self := self.chooseSize displaySize requested
      if fails .shmCreateImage then (self, some .shmCreateImage)
      else
        let self := self.acquire .image
        if fails .shmget then (self, some .shmget)
        else
          let self := self.acquire .segment
          if fails .shmat then ({ self with shmaddr := .failed }, some .shmat)
          else
            let self := self.acquire .mapping
            if fails .shmAttach then (self, some .shmAttach)
            else
              let self := self.acquire .attachment
              if fails .damageCreate then (self, some .damageCreate)
              else (self.acquire .damage, none)

/-- The call of a release that the source makes under a condition on the fields. -/
def releaseIf (cond : Bool) (r : CaptureResource) : DrdX11Capture :=
  if cond then self.release r else self

/-- The address that a failed `shmat` left is no mapping, and `shmdt` refuses it. -/
def shmdt : DrdX11Capture :=
  match self.shmaddr with
  | .null => self
  | .failed => { self with shmaddr := .null }
  | .mapped => self.release .mapping

/-- `drd_x11_capture_cleanup_locked`. -/
def cleanupLocked : DrdX11Capture :=
  let self := self.releaseIf (self.damage && self.display) .damage
  let self := self.releaseIf (self.attached && self.display) .attachment
  let self := self.releaseIf self.image .image
  let self := self.shmdt
  let self := self.releaseIf self.shmid .segment
  self.releaseIf self.display .display

def setupWakeupPipe (fails : CaptureCall → Bool) : DrdX11Capture × Option CaptureCall :=
  if self.wakeupPipe then (self, none)
  else if fails .openPipe then (self, some .openPipe)
  else (self.acquire .wakeupPipe, none)

def closeWakeupPipe : DrdX11Capture := self.releaseIf self.wakeupPipe .wakeupPipe

/-- `drd_x11_capture_start`, which holds the lock from its first line on. -/
def start (fails : CaptureCall → Bool) (displaySize requested : UInt32 × UInt32) :
    DrdX11Capture × Option CaptureCall :=
  if self.running then (self, none)
  else
    match self.setupWakeupPipe fails with
    | (self, some call) => (self, some call)
    | (self, none) =>
      match self.prepareDisplay fails displaySize requested with
      | (self, some call) => (self.cleanupLocked.closeWakeupPipe, some call)
      | (self, none) => ({ self with running := true }.acquire .thread, none)

/-- The join of `drd_x11_capture_stop`. -/
def joinThread : DrdX11Capture := self.releaseIf self.thread .thread

/-- What `drd_x11_capture_stop` has made of the object when it returns. -/
def stop : DrdX11Capture :=
  if !self.running then self
  else { self with running := false }.joinThread.cleanupLocked.closeWakeupPipe

end DrdX11Capture

/-- Where the thread that owns the capture is in `drd_x11_capture_stop`, after the call that
comes next. -/
inductive StopPc
  | idle | sync | write | join | cleanup
  deriving DecidableEq, Repr

/-- The object, the thread that starts and stops it, and its capture thread: `draining` while
that one is in the loop of `drd_x11_capture_drain_wakeup_pipe`. -/
structure CaptureSystem where
  object : DrdX11Capture := {}
  stopPc : StopPc := .idle
  pipeBytes : ℕ := 0
  thread : Option X11Capture := none
  draining : Bool := false

/-- A start that succeeds runs its thread from the given state. -/
inductive CaptureSystemEvent
  | start (fails : CaptureCall → Bool) (displaySize requested : UInt32 × UInt32)
      (thread : X11Capture)
  | stop
  | xSync
  | writeWakeup (ok : Bool)
  | join
  | cleanup
  | thread (e : X11Event)
  | read
  | readInterrupted

/-- The calls that the capture thread makes itself. -/
def X11Event.OfThread : X11Event → Bool
  | .screenChange | .otherEvent | .deliver => false
  | .iterate .. | .gPoll _ | .xNextEvent | .xPendingNone | .checkDeadline _ | .xShmGetImage _
  | .pushFrame .. => true

namespace CaptureSystem

variable (s : CaptureSystem)

/-- What a call of the thread needs beside its place in the loop. Under the lock it reads the
fields of the object. With a byte in the pipe `g_poll` does not time out. -/
def Allows : X11Event → Bool
  | .iterate running _ => running = (s.object.running && s.object.display && s.object.image)
  | .gPoll result => s.pipeBytes = 0 || result ≠ 0
  | _ => true

/-- Whether `g_poll` has reported the wake-up pipe. -/
def WakesUp : X11Event → Bool
  | .gPoll result => 0 < result && s.pipeBytes ≠ 0
  | _ => false

end CaptureSystem

def captureSystemStep (targetInterval : ℤ) (s : CaptureSystem) :
    CaptureSystemEvent → Option CaptureSystem
  | .start fails displaySize requested thread =>
    if s.stopPc = .idle then
      match s.object.start fails displaySize requested with
      | (object, some _) => some { s with object := object }
      | (object, none) =>
        if s.object.running then some s
        else if thread.Started then some { s with object := object, thread := some thread }
        else none
    else none
  | .stop =>
    if s.stopPc = .idle then
      if s.object.running then
        some { s with object := { s.object with running := false }, stopPc := .sync }
      else some s
    else none
  | .xSync => if s.stopPc = .sync then some { s with stopPc := .write } else none
  | .writeWakeup ok =>
    if s.stopPc = .write then
      some { s with stopPc := .join, pipeBytes := if ok then s.pipeBytes + 1 else s.pipeBytes }
    else none
  | .join =>
    -- the join returns when the thread has left its loop
    match s.thread with
    | none => none
    | some thread =>
      if s.stopPc = .join ∧ thread.pc = .stopped then
        some { s with object := s.object.joinThread, stopPc := .cleanup, thread := none }
      else none
  | .cleanup =>
    if s.stopPc = .cleanup then
      some { s with
        object := s.object.cleanupLocked.closeWakeupPipe
        pipeBytes := 0
        stopPc := .idle }
    else none
  | .thread e =>
    match s.thread with
    | none => none
    | some thread =>
      if (e.OfThread && s.draining) || !s.Allows e then none
      else
        (drdX11CaptureThreadStep targetInterval thread e).map fun thread =>
          { s with thread := some thread, draining := s.draining || s.WakesUp e }
  | .read =>
    -- the pipe blocks: with nothing in it and its other end open, `read` does not return
    if s.draining ∧ s.pipeBytes ≠ 0 then some { s with pipeBytes := s.pipeBytes - 64 } else none
  | .readInterrupted => if s.draining then some { s with draining := false } else none

def captureSystem (targetInterval : ℤ) : EventMachine CaptureSystem CaptureSystemEvent where
  init s := s = {}
  step := captureSystemStep targetInterval

/-! The resources. -/

namespace DrdX11Capture

open ResourceCall

/-- The calls so far leave held what the fields say. -/
def Ledgered (s : DrdX11Capture) : Prop := heldAfter s.calls = some s.holds

variable {self : DrdX11Capture}

theorem setField_holds (held : Bool) (r : CaptureResource) :
    (self.setField held r).holds = Function.update self.holds r held := by
  funext r'
  cases r <;> cases r' <;> cases held <;> rfl

theorem acquire_holds (r : CaptureResource) :
    (self.acquire r).holds = Function.update self.holds r true := setField_holds true r

theorem release_holds (r : CaptureResource) :
    (self.release r).holds = Function.update self.holds r false := setField_holds false r

theorem Ledgered.acquire (h : self.Ledgered) {r : CaptureResource} (hr : self.holds r = false) :
    (self.acquire r).Ledgered := by
  rw [Ledgered, acquire_holds]
  exact heldAfter_acquire h hr

theorem Ledgered.release (h : self.Ledgered) {r : CaptureResource} (hr : self.holds r = true) :
    (self.release r).Ledgered := by
  rw [Ledgered, release_holds]
  exact heldAfter_release h hr

/-- A connection that is closed takes along what the server held for the client, so the damage
object and the attachment are released before it. -/
structure Connected (s : DrdX11Capture) : Prop where
  damage : s.damage = true → s.display = true
  attached : s.attached = true → s.display = true

/-- How far `drd_x11_capture_prepare_display` has come: `held` is what it has acquired. -/
structure Prepared (s s' : DrdX11Capture) (held : List CaptureResource) : Prop where
  ledgered : s'.Ledgered
  connected : s'.Connected
  running : s'.running = s.running
  holds : ∀ r, s'.holds r = (s.holds r || decide (r ∈ held))

theorem Connected.acquire (h : self.Connected) {r : CaptureResource}
    (hr : self.display = true ∨ r ≠ .damage ∧ r ≠ .attachment) :
    (self.acquire r).Connected := by
  obtain ⟨hdamage, hattached⟩ := h
  cases r <;> constructor <;> simp_all [DrdX11Capture.acquire, setField]

theorem acquire_running (r : CaptureResource) : (self.acquire r).running = self.running := by
  cases r <;> rfl

theorem release_running (r : CaptureResource) : (self.release r).running = self.running := by
  cases r <;> rfl

theorem Prepared.acquire {s s' : DrdX11Capture} {held : List CaptureResource}
    (h : s.Prepared s' held) (r : CaptureResource) (hfree : s.holds r = false) (hnew : r ∉ held)
    (hr : .display ∈ held ∨ r ≠ .damage ∧ r ≠ .attachment) :
    s.Prepared (s'.acquire r) (r :: held) := by
  have hr' : s'.holds r = false := by simp [h.holds, hfree, hnew]
  have hdisplay : CaptureResource.display ∈ held → s'.display = true := by
    intro hmem
    have hheld := h.holds .display
    simpa [hmem, DrdX11Capture.holds] using hheld
  refine ⟨h.ledgered.acquire hr', h.connected.acquire (hr.imp_left hdisplay), ?_, ?_⟩
  · rw [acquire_running, h.running]
  · intro q
    rw [acquire_holds]
    by_cases hq : q = r
    · simp [hq]
    · rw [Function.update_of_ne hq, h.holds]
      simp [hq]

/-- Fields that say nothing about a resource. -/
theorem Prepared.of_holds {s s' s'' : DrdX11Capture} {held : List CaptureResource}
    (h : s.Prepared s' held) (hrunning : s''.running = s'.running) (hcalls : s''.calls = s'.calls)
    (hholds : s''.holds = s'.holds) : s.Prepared s'' held where
  ledgered := by
    rw [Ledgered, hcalls, hholds]
    exact h.ledgered
  connected :=
    have hfield (r : CaptureResource) : s''.holds r = s'.holds r := congrFun hholds r
    { damage := fun hd => (hfield .display).trans (h.connected.damage ((hfield .damage).symm.trans hd))
      attached := fun ha =>
        (hfield .display).trans (h.connected.attached ((hfield .attachment).symm.trans ha)) }
  running := hrunning.trans h.running
  holds := by
    rw [hholds]
    exact h.holds

/-- Nothing is held but for the pipe. -/
def DisplayClosed (s : DrdX11Capture) : Prop := ∀ r, r ≠ .wakeupPipe → s.holds r = false

theorem DisplayClosed.connected (h : self.DisplayClosed) : self.Connected where
  damage := fun hd => absurd (h .damage (by decide)) (by simp [holds, hd])
  attached := fun ha => absurd (h .attachment (by decide)) (by simp [holds, ha])

/-- A failure leaves a part of the resources acquired, a success all of them. -/
theorem prepareDisplay_spec (fails : CaptureCall → Bool) (displaySize requested : UInt32 × UInt32)
    (h : self.Ledgered) (hclosed : self.DisplayClosed) :
    ∃ held, self.Prepared (self.prepareDisplay fails displaySize requested).1 held ∧
      .thread ∉ held ∧ ((self.prepareDisplay fails displaySize requested).2 = none →
        ∀ r, r ≠ .wakeupPipe → r ≠ .thread → r ∈ held) := by
  have hstart : self.Prepared self [] := ⟨h, hclosed.connected, rfl, by simp⟩
  have hdisplay := hstart.acquire .display (hclosed _ (by decide)) (by decide) (by decide)
  have hsized : self.Prepared ((self.acquire .display).chooseSize displaySize requested) [.display] :=
    hdisplay.of_holds rfl rfl rfl
  have himage := hsized.acquire .image (hclosed _ (by decide)) (by decide) (by decide)
  have hsegment := himage.acquire .segment (hclosed _ (by decide)) (by decide) (by decide)
  have hmapping := hsegment.acquire .mapping (hclosed _ (by decide)) (by decide) (by decide)
  have hattached := hmapping.acquire .attachment (hclosed _ (by decide)) (by decide) (by decide)
  have hdamage := hattached.acquire .damage (hclosed _ (by decide)) (by decide) (by decide)
  unfold prepareDisplay
  split
  · exact ⟨_, hstart, by decide, by simp⟩
  dsimp only
  split
  · exact ⟨_, hdisplay, by decide, by simp⟩
  split
  · exact ⟨_, hdisplay, by decide, by simp⟩
  split
  · exact ⟨_, hsized, by decide, by simp⟩
  split
  · exact ⟨_, himage, by decide, by simp⟩
  split
  · refine ⟨_, hsegment.of_holds rfl rfl ?_, by decide, by simp⟩
    -- the address that `shmat` left is no mapping
    have hfree := hsegment.holds .mapping
    rw [hclosed _ (by decide)] at hfree
    funext r
    cases r with
    | mapping => exact hfree.symm
    | _ => rfl
  split
  · exact ⟨_, hmapping, by decide, by simp⟩
  split
  · exact ⟨_, hattached, by decide, by simp⟩
  · refine ⟨_, hdamage, by decide, ?_⟩
    intro _ r hpipe hthread
    cases r with
    | wakeupPipe => exact absurd rfl hpipe
    | thread => exact absurd rfl hthread
    | display | image | segment | mapping | attachment | damage => decide

/-- How far `drd_x11_capture_cleanup_locked` has come: `gone` is what it does not hold any
more. -/
structure Released (s s' : DrdX11Capture) (gone : List CaptureResource) : Prop where
  ledgered : s'.Ledgered
  running : s'.running = s.running
  holds : ∀ r, s'.holds r = (s.holds r && decide (r ∉ gone))

theorem releaseIf_holds {cond : Bool} {r : CaptureResource} (hcond : cond = self.holds r) :
    (self.releaseIf cond r).holds = Function.update self.holds r false := by
  cases cond with
  | true => exact release_holds r
  | false =>
    have hfree : Function.update self.holds r false = self.holds := by
      rw [hcond, Function.update_eq_self]
    exact hfree.symm

theorem Ledgered.releaseIf (h : self.Ledgered) {cond : Bool} {r : CaptureResource}
    (hcond : cond = self.holds r) : (self.releaseIf cond r).Ledgered := by
  cases cond with
  | true => exact h.release hcond.symm
  | false => exact h

theorem releaseIf_running (cond : Bool) (r : CaptureResource) :
    (self.releaseIf cond r).running = self.running := by
  cases cond with
  | true => exact release_running r
  | false => rfl

theorem shmdt_holds : self.shmdt.holds = (self.releaseIf (self.holds .mapping) .mapping).holds := by
  cases haddr : self.shmaddr with
  | mapped => simp [shmdt, releaseIf, holds, haddr]
  | null => simp [shmdt, releaseIf, holds, haddr]
  | failed =>
    funext r
    cases r <;> simp [shmdt, releaseIf, holds, haddr]

theorem shmdt_calls : self.shmdt.calls = (self.releaseIf (self.holds .mapping) .mapping).calls := by
  cases haddr : self.shmaddr <;> simp [shmdt, releaseIf, holds, haddr]

theorem shmdt_running : self.shmdt.running = self.running := by
  cases haddr : self.shmaddr <;> simp [shmdt, haddr, release_running]

variable {s s' : DrdX11Capture} {gone : List CaptureResource}

theorem Released.releaseIf (h : s.Released s' gone) {cond : Bool} (r : CaptureResource)
    (hcond : cond = s'.holds r) : s.Released (s'.releaseIf cond r) (r :: gone) := by
  refine ⟨h.ledgered.releaseIf hcond, ?_, ?_⟩
  · rw [releaseIf_running, h.running]
  · intro q
    rw [releaseIf_holds hcond]
    by_cases hq : q = r
    · simp [hq]
    · rw [Function.update_of_ne hq, h.holds]
      simp [hq]

theorem Released.shmdt (h : s.Released s' gone) : s.Released s'.shmdt (.mapping :: gone) := by
  have hreleased := h.releaseIf .mapping rfl
  refine ⟨?_, ?_, ?_⟩
  · rw [Ledgered, shmdt_calls, shmdt_holds]
    exact hreleased.ledgered
  · rw [shmdt_running, h.running]
  · rw [shmdt_holds]
    exact hreleased.holds

/-- What is released under the condition that the connection is open. -/
theorem Released.releaseConnected (h : s.Released s' gone) (r : CaptureResource)
    (hdisplay : .display ∉ gone) (hr : s.holds r = true → s.display = true) :
    s.Released (s'.releaseIf (s'.holds r && s'.display) r) (r :: gone) := by
  have hopen : s'.display = s.display := by
    have hheld := h.holds .display
    rwa [decide_eq_true hdisplay, Bool.and_true] at hheld
  apply h.releaseIf r
  cases hheld : s'.holds r with
  | false => rfl
  | true =>
    have hs : s.holds r = true := by
      rw [h.holds, Bool.and_eq_true] at hheld
      exact hheld.1
    rw [hopen, hr hs]
    rfl

/-- The cleanup releases whatever a start has acquired, complete or not. -/
theorem cleanupLocked_spec (h : s.Ledgered) (hconnected : s.Connected) :
    s.Released s.cleanupLocked [.display, .segment, .mapping, .image, .attachment, .damage] := by
  have hstart : s.Released s [] := ⟨h, rfl, by simp⟩
  have hdamage := hstart.releaseConnected .damage (by decide) hconnected.damage
  have hattachment := hdamage.releaseConnected .attachment (by decide) hconnected.attached
  have himage := hattachment.releaseIf .image rfl
  have hmapping := himage.shmdt
  have hsegment := hmapping.releaseIf .segment rfl
  exact hsegment.releaseIf .display rfl

/-- Nothing is left: everything was released as often as it was acquired. -/
def Closed (s : DrdX11Capture) : Prop := ∀ r, s.holds r = false

theorem closeWakeupPipe_spec (h : s.Ledgered) (hconnected : s.Connected)
    (hthread : s.thread = false) :
    s.cleanupLocked.closeWakeupPipe.Ledgered ∧ s.cleanupLocked.closeWakeupPipe.Closed ∧
      s.cleanupLocked.closeWakeupPipe.running = s.running := by
  have hclosed := (cleanupLocked_spec h hconnected).releaseIf .wakeupPipe rfl
  refine ⟨hclosed.ledgered, ?_, hclosed.running⟩
  intro r
  rw [closeWakeupPipe]
  refine (hclosed.holds r).trans ?_
  cases r with
  | thread => simp [holds, hthread]
  | wakeupPipe | display | image | segment | mapping | attachment | damage => simp

/-- The join releases the thread and nothing else. -/
theorem joinThread_holds : s.joinThread.holds = Function.update s.holds .thread false :=
  releaseIf_holds rfl

theorem joinThread_thread : s.joinThread.thread = false :=
  (congrFun joinThread_holds .thread).trans (Function.update_self ..)

theorem Ledgered.joinThread (h : s.Ledgered) : s.joinThread.Ledgered := h.releaseIf rfl

theorem joinThread_running : s.joinThread.running = s.running := releaseIf_running ..

/-- A start that fails leaves nothing behind, one that succeeds holds everything. -/
theorem start_spec (fails : CaptureCall → Bool) (displaySize requested : UInt32 × UInt32)
    (h : s.Ledgered) (hclosed : s.Closed) (hrunning : s.running = false) :
    (s.start fails displaySize requested).1.Ledgered ∧
      (((s.start fails displaySize requested).2 = none ∧
          (s.start fails displaySize requested).1.running = true ∧
          ∀ r, (s.start fails displaySize requested).1.holds r = true) ∨
        ((s.start fails displaySize requested).2 ≠ none ∧
          (s.start fails displaySize requested).1.running = false ∧
          (s.start fails displaySize requested).1.Closed)) := by
  have hpipe : s.wakeupPipe = false := hclosed .wakeupPipe
  cases hopen : fails .openPipe with
  | true =>
    have hstart : s.start fails displaySize requested = (s, some .openPipe) := by
      simp [start, setupWakeupPipe, hrunning, hpipe, hopen]
    rw [hstart]
    exact ⟨h, .inr ⟨by simp, hrunning, hclosed⟩⟩
  | false =>
    let opened := s.acquire .wakeupPipe
    have hopened : opened.Ledgered := h.acquire hpipe
    have hrest : opened.DisplayClosed := by
      intro r hr
      rw [acquire_holds, Function.update_of_ne hr]
      exact hclosed r
    obtain ⟨held, hprepared, hnew, hall⟩ :=
      opened.prepareDisplay_spec fails displaySize requested hopened hrest
    cases hprepare : opened.prepareDisplay fails displaySize requested with
    | mk prepared failed =>
      rw [hprepare] at hprepared hall
      have hthread : prepared.thread = false := by
        have hfree : opened.holds .thread = false := hrest .thread (by decide)
        exact (hprepared.holds .thread).trans (by simp [hfree, hnew])
      cases failed with
      | some call =>
        have hstart : s.start fails displaySize requested =
            (prepared.cleanupLocked.closeWakeupPipe, some call) := by
          simp [start, setupWakeupPipe, hrunning, hpipe, hopen,
            show s.acquire .wakeupPipe = opened from rfl, hprepare]
        rw [hstart]
        obtain ⟨hledgered, hempty, hstopped⟩ :=
          closeWakeupPipe_spec hprepared.ledgered hprepared.connected hthread
        exact ⟨hledgered, .inr ⟨by simp, hstopped.trans hprepared.running |>.trans hrunning, hempty⟩⟩
      | none =>
        have hstart : s.start fails displaySize requested =
            ({ prepared with running := true }.acquire .thread, none) := by
          simp [start, setupWakeupPipe, hrunning, hpipe, hopen,
            show s.acquire .wakeupPipe = opened from rfl, hprepare]
        rw [hstart]
        have hledgered : ({ prepared with running := true } : DrdX11Capture).Ledgered :=
          hprepared.ledgered
        refine ⟨hledgered.acquire hthread, .inl ⟨rfl, rfl, ?_⟩⟩
        intro r
        rw [acquire_holds]
        by_cases hr : r = .thread
        · rw [hr, Function.update_self]
        rw [Function.update_of_ne hr]
        refine (hprepared.holds r).trans ?_
        by_cases hp : r = .wakeupPipe
        · simp [hp, opened, acquire_holds]
        · simp [hall rfl r hp hr]

/-- A stop leaves nothing behind. -/
theorem stop_spec (h : s.Ledgered) (hheld : s.running = true → ∀ r, s.holds r = true)
    (hclosed : s.running = false → s.Closed) :
    s.stop.Ledgered ∧ s.stop.running = false ∧ s.stop.Closed := by
  cases hrunning : s.running with
  | false =>
    have hstop : s.stop = s := by simp [stop, hrunning]
    rw [hstop]
    exact ⟨h, hrunning, hclosed hrunning⟩
  | true =>
    let joined := { s with running := false }.joinThread
    have hstop : s.stop = joined.cleanupLocked.closeWakeupPipe := by
      simp [stop, hrunning, joined]
    have hledgered : joined.Ledgered :=
      Ledgered.joinThread (s := { s with running := false }) h
    have hopen : joined.display = true := by
      refine (congrFun joinThread_holds .display).trans ?_
      rw [Function.update_of_ne (by decide)]
      exact hheld hrunning .display
    obtain ⟨hledgered, hempty, hstopped⟩ :=
      closeWakeupPipe_spec hledgered ⟨fun _ => hopen, fun _ => hopen⟩ joinThread_thread
    rw [hstop]
    exact ⟨hledgered, hstopped.trans joinThread_running, hempty⟩

end DrdX11Capture

/-! The two threads. -/

namespace X11Event

variable {targetInterval : ℤ} {t t' : X11Capture} {e : X11Event}

/-- The server moves no thread. -/
theorem pc_of_not_ofThread (he : drdX11CaptureThreadStep targetInterval t e = some t')
    (hserver : e.OfThread = false) : t'.pc = t.pc := by
  cases e with
  | screenChange =>
    rw [← Option.some.inj he]
    rfl
  | otherEvent => rw [← Option.some.inj he]
  | deliver =>
    cases hw : t.wire with
    | nil => simp [drdX11CaptureThreadStep, hw] at he
    | cons ev wire =>
      simp only [drdX11CaptureThreadStep, hw, Option.some.injEq] at he
      exact he ▸ rfl
  | iterate | gPoll | xNextEvent | xPendingNone | checkDeadline | xShmGetImage | pushFrame =>
    exact absurd hserver (by simp [OfThread])

theorem takeEvent_pc (ev : XEvent) (queue : List XEvent) : (t.takeEvent ev queue).pc = t.pc := by
  cases ev <;> rfl

/-- What one call of the thread does to its place in the loop. -/
theorem pc_cases (he : drdX11CaptureThreadStep targetInterval t e = some t')
    (hthread : e.OfThread = true) :
    (∃ clock, e = .iterate true clock ∧ t.pc = .head ∧ t'.pc = .poll) ∨
      (∃ clock, e = .iterate false clock ∧ t.pc = .head ∧ t'.pc = .stopped) ∨
      (∃ result, e = .gPoll result ∧ t.pc = .poll ∧
        t'.pc = if result < 0 then .head else .drain) ∨
      ((∀ running clock, e ≠ .iterate running clock) ∧ (∀ result, e ≠ .gPoll result) ∧
        t.pc ∉ [.head, .poll, .stopped] ∧ t'.pc ∉ [.poll, .stopped]) := by
  cases e with
  | screenChange | otherEvent | deliver => exact absurd hthread (by decide)
  | iterate running clock =>
    simp only [drdX11CaptureThreadStep, Option.ite_none_right_eq_some] at he
    obtain ⟨hpc, he⟩ := he
    cases running with
    | true => exact .inl ⟨clock, rfl, hpc, by rw [← Option.some.inj he]⟩
    | false => exact .inr (.inl ⟨clock, rfl, hpc, by rw [← Option.some.inj he]⟩)
  | gPoll result =>
    simp only [drdX11CaptureThreadStep, Option.ite_none_right_eq_some, Option.some.injEq] at he
    obtain ⟨hpc, rfl⟩ := he
    exact .inr (.inr (.inl ⟨result, rfl, hpc, rfl⟩))
  | xNextEvent =>
    simp only [drdX11CaptureThreadStep, Option.ite_none_right_eq_some] at he
    obtain ⟨hpc, he⟩ := he
    cases hq : t.queue with
    | nil => simp [hq] at he
    | cons ev queue =>
      simp only [hq, Option.some.injEq] at he
      refine .inr (.inr (.inr ⟨by simp, by simp, by simp [hpc], ?_⟩))
      rw [← he, takeEvent_pc, hpc]
      decide
  | xPendingNone =>
    simp only [drdX11CaptureThreadStep, Option.ite_none_right_eq_some, Option.some.injEq] at he
    obtain ⟨⟨hpc, _⟩, rfl⟩ := he
    refine .inr (.inr (.inr ⟨by simp, by simp, by simp [hpc], ?_⟩))
    cases hd : t.damage <;> simp
  | checkDeadline clock =>
    simp only [drdX11CaptureThreadStep, Option.ite_none_right_eq_some, Option.some.injEq] at he
    obtain ⟨hpc, rfl⟩ := he
    refine .inr (.inr (.inr ⟨by simp, by simp, by simp [hpc], ?_⟩))
    by_cases hlt : clock < t.nextCaptureDeadline <;> simp [hlt]
  | xShmGetImage ok =>
    simp only [drdX11CaptureThreadStep, Option.ite_none_right_eq_some] at he
    obtain ⟨hpc, he⟩ := he
    refine .inr (.inr (.inr ⟨by simp, by simp, by simp [hpc], ?_⟩))
    cases ok with
    | true =>
      rw [← Option.some.inj he]
      simp
    | false =>
      rw [← Option.some.inj he]
      simp
  | pushFrame clock hasBuffer =>
    simp only [drdX11CaptureThreadStep, Option.ite_none_right_eq_some, Option.some.injEq] at he
    obtain ⟨hpc, rfl⟩ := he
    exact .inr (.inr (.inr ⟨by simp, by simp, by simp [hpc], by simp⟩))

end X11Event

namespace CaptureSystem

variable {targetInterval : ℤ} {s s' : CaptureSystem}

/-- A call of the capture thread, or a step of the X server. -/
theorem thread_cases {e : X11Event}
    (he : captureSystemStep targetInterval s (.thread e) = some s') :
    ∃ t t', s.thread = some t ∧ (e.OfThread = true → s.draining = false) ∧
      s.Allows e = true ∧ drdX11CaptureThreadStep targetInterval t e = some t' ∧
      s' = { s with thread := some t', draining := s.draining || s.WakesUp e } := by
  cases hthread : s.thread with
  | none => simp [captureSystemStep, hthread] at he
  | some t =>
    simp only [captureSystemStep, hthread, Option.ite_none_left_eq_some, Option.map_eq_some_iff] at he
    obtain ⟨hguard, t', hstep, rfl⟩ := he
    simp only [Bool.or_eq_true, Bool.and_eq_true, Bool.not_eq_true', not_or, not_and,
      Bool.not_eq_true, Bool.not_eq_false] at hguard
    exact ⟨t, t', rfl, hguard.1, hguard.2, hstep, rfl⟩

/-- The object holds all of its resources or none, but for the capture thread, which is there
from the start to the join. -/
structure Coherent (s : CaptureSystem) : Prop where
  ledgered : s.object.Ledgered
  running_idle : s.object.running = true → s.stopPc = .idle
  held : s.object.running = true ∨ s.stopPc ≠ .idle →
    ∀ r, r ≠ .thread → s.object.holds r = true
  closed : s.object.running = false → s.stopPc = .idle → s.object.Closed
  thread : s.thread.isSome =
    (s.object.running || decide (s.stopPc ∈ [.sync, .write, .join]))
  handle : s.object.thread = s.thread.isSome
  stopped : ∀ t, s.thread = some t → t.pc = .stopped → s.object.running = false
  pipeBytes : s.pipeBytes ≠ 0 → s.stopPc = .join ∨ s.stopPc = .cleanup
  draining : s.draining = true → s.stopPc = .join ∧ ∃ t, s.thread = some t ∧ t.pc = .drain

theorem coherent_init : ({} : CaptureSystem).Coherent where
  ledgered := by
    refine ResourceCall.heldAfter_nil.trans (congrArg some ?_)
    funext r
    cases r <;> rfl
  running_idle := by simp
  held := by simp
  closed := by
    intro _ _ r
    cases r <;> rfl
  thread := rfl
  handle := rfl
  stopped := by simp
  pipeBytes := by simp
  draining := by simp

/-- From the first part of a stop to its last one the capture does not run. -/
theorem Coherent.not_running (h : s.Coherent) (hpc : s.stopPc ≠ .idle) :
    s.object.running = false := by
  by_contra hrunning
  exact hpc (h.running_idle (by simpa using hrunning))

theorem Coherent.start (h : s.Coherent) {fails : CaptureCall → Bool}
    {displaySize requested : UInt32 × UInt32} {t : X11Capture}
    (he : captureSystemStep targetInterval s (.start fails displaySize requested t) = some s') :
    s'.Coherent := by
  simp only [captureSystemStep, Option.ite_none_right_eq_some] at he
  obtain ⟨hidle, he⟩ := he
  cases hrunning : s.object.running with
  | true =>
    have hstart : s.object.start fails displaySize requested = (s.object, none) := by
      simp [DrdX11Capture.start, hrunning]
    simp only [hstart, hrunning, if_true, Option.some.injEq] at he
    exact he ▸ h
  | false =>
    have hempty := h.closed hrunning hidle
    have hthread : s.thread = none := by simpa [hrunning, hidle] using h.thread
    have hquiet : s.draining = false := by
      cases hd : s.draining with
      | false => rfl
      | true => simpa [hidle] using (h.draining hd).1
    obtain ⟨hledgered, ⟨hnone, hstarted, hall⟩ | ⟨hfailed, hstopped, hclosed⟩⟩ :=
      DrdX11Capture.start_spec fails displaySize requested h.ledgered hempty hrunning
    · cases hstart : s.object.start fails displaySize requested with
      | mk object failed =>
        rw [hstart] at hledgered hnone hstarted hall
        dsimp only at hledgered hnone hstarted hall
        subst hnone
        simp only [hstart, hrunning, Bool.false_eq_true, if_false,
          Option.ite_none_right_eq_some, Option.some.injEq] at he
        obtain ⟨hfresh, rfl⟩ := he
        exact
          { ledgered := hledgered
            running_idle := fun _ => hidle
            held := fun _ r _ => hall r
            closed := fun hno => absurd (hno.symm.trans hstarted) (by decide)
            thread := by simp [hstarted]
            handle := hall .thread
            stopped := by
              intro t' ht' hpc
              rw [← Option.some.inj ht', hfresh.1] at hpc
              cases hpc
            pipeBytes := h.pipeBytes
            draining := fun hd => absurd hd (by simp [hquiet]) }
    · cases hstart : s.object.start fails displaySize requested with
      | mk object failed =>
        rw [hstart] at hledgered hfailed hstopped hclosed
        dsimp only at hledgered hfailed hstopped hclosed
        cases failed with
        | none => exact absurd rfl hfailed
        | some call =>
          simp only [hstart, Option.some.injEq] at he
          rw [← he]
          exact
            { ledgered := hledgered
              running_idle := fun _ => hidle
              held := by simp [hstopped, hidle]
              closed := fun _ _ => hclosed
              thread := by simp [hthread, hstopped, hidle]
              handle := (hclosed .thread).trans (by simp [hthread])
              stopped := by simp [hthread]
              pipeBytes := h.pipeBytes
              draining := fun hd => absurd hd (by simp [hquiet]) }

theorem Coherent.stop (h : s.Coherent)
    (he : captureSystemStep targetInterval s .stop = some s') : s'.Coherent := by
  simp only [captureSystemStep, Option.ite_none_right_eq_some] at he
  obtain ⟨hidle, he⟩ := he
  cases hrunning : s.object.running with
  | false =>
    simp only [hrunning, Bool.false_eq_true, if_false, Option.some.injEq] at he
    exact he ▸ h
  | true =>
    simp only [hrunning, if_true, Option.some.injEq] at he
    rw [← he]
    exact
      { ledgered := h.ledgered
        running_idle := by simp
        held := fun _ => h.held (.inl hrunning)
        closed := by simp
        thread := by simpa [hrunning] using h.thread
        handle := h.handle
        stopped := by simp
        pipeBytes := fun hb => by simpa [hidle] using h.pipeBytes hb
        draining := fun hd => by simpa [hidle] using (h.draining hd).1 }

/-- A stop that goes on holds everything still, and its thread is there until the join. -/
theorem Coherent.xSync (h : s.Coherent)
    (he : captureSystemStep targetInterval s .xSync = some s') : s'.Coherent := by
  simp only [captureSystemStep, Option.ite_none_right_eq_some, Option.some.injEq] at he
  obtain ⟨hpc, rfl⟩ := he
  exact
    { ledgered := h.ledgered
      running_idle := fun hr => by simpa [hpc] using h.running_idle hr
      held := fun _ => h.held (.inr (by simp [hpc]))
      closed := by simp
      thread := by simpa [hpc] using h.thread
      handle := h.handle
      stopped := h.stopped
      pipeBytes := fun hb => by simpa [hpc] using h.pipeBytes hb
      draining := fun hd => by simpa [hpc] using (h.draining hd).1 }

theorem Coherent.writeWakeup (h : s.Coherent) {ok : Bool}
    (he : captureSystemStep targetInterval s (.writeWakeup ok) = some s') : s'.Coherent := by
  simp only [captureSystemStep, Option.ite_none_right_eq_some, Option.some.injEq] at he
  obtain ⟨hpc, rfl⟩ := he
  exact
    { ledgered := h.ledgered
      running_idle := fun hr => by simpa [hpc] using h.running_idle hr
      held := fun _ => h.held (.inr (by simp [hpc]))
      closed := by simp
      thread := by simpa [hpc] using h.thread
      handle := h.handle
      stopped := h.stopped
      pipeBytes := by simp
      draining := fun hd => by simpa [hpc] using (h.draining hd).1 }

theorem Coherent.join (h : s.Coherent)
    (he : captureSystemStep targetInterval s .join = some s') :
    s'.Coherent := by
  cases hthread : s.thread with
  | none => simp [captureSystemStep, hthread] at he
  | some t =>
    simp only [captureSystemStep, hthread, Option.ite_none_right_eq_some, Option.some.injEq] at he
    obtain ⟨⟨hpc, hstopped⟩, rfl⟩ := he
    have hnot : s.object.joinThread.running = false :=
      DrdX11Capture.joinThread_running.trans (h.stopped t hthread hstopped)
    exact
      { ledgered := h.ledgered.joinThread
        running_idle := by simp [hnot]
        held := by
          intro _ r hr
          change s.object.joinThread.holds r = true
          rw [DrdX11Capture.joinThread_holds, Function.update_of_ne hr]
          exact h.held (.inr (by simp [hpc])) r hr
        closed := by simp
        thread := by simp [hnot]
        handle := DrdX11Capture.joinThread_thread
        stopped := by simp
        pipeBytes := by simp
        draining := by
          intro hd
          obtain ⟨_, t', ht', hpc'⟩ := h.draining hd
          rw [hthread] at ht'
          rw [← Option.some.inj ht', hstopped] at hpc'
          cases hpc' }

theorem Coherent.cleanup (h : s.Coherent)
    (he : captureSystemStep targetInterval s .cleanup = some s') : s'.Coherent := by
  simp only [captureSystemStep, Option.ite_none_right_eq_some, Option.some.injEq] at he
  obtain ⟨hpc, rfl⟩ := he
  have hdisplay : s.object.display = true := h.held (.inr (by simp [hpc])) .display (by decide)
  have hnot : s.object.running = false := h.not_running (by simp [hpc])
  have hthread : s.thread = none := by simpa [hnot, hpc] using h.thread
  have hjoined : s.object.thread = false := by simpa [hthread] using h.handle
  obtain ⟨hledgered, hclosed, hrunning⟩ :=
    DrdX11Capture.closeWakeupPipe_spec h.ledgered ⟨fun _ => hdisplay, fun _ => hdisplay⟩ hjoined
  exact
    { ledgered := hledgered
      running_idle := by simp
      held := by simp [hrunning, hnot]
      closed := fun _ _ => hclosed
      thread := by simp [hthread, hrunning, hnot]
      handle := (hclosed .thread).trans (by simp [hthread])
      stopped := by simp [hthread]
      pipeBytes := by simp
      draining := fun hd => by simpa [hpc] using (h.draining hd).1 }

theorem Coherent.threadStep (h : s.Coherent) {e : X11Event}
    (he : captureSystemStep targetInterval s (.thread e) = some s') : s'.Coherent := by
  obtain ⟨t, t', hthread, hdrain, hallows, hstep, rfl⟩ := thread_cases he
  have hpresent : s.thread.isSome = true := by simp [hthread]
  refine
    { ledgered := h.ledgered
      running_idle := h.running_idle
      held := h.held
      closed := h.closed
      thread := by simpa [hthread] using h.thread
      handle := by simpa [hthread] using h.handle
      stopped := ?_
      pipeBytes := h.pipeBytes
      draining := ?_ }
  · intro u hu hpc
    rw [← Option.some.inj hu] at hpc
    cases hof : e.OfThread with
    | false => exact h.stopped t hthread ((X11Event.pc_of_not_ofThread hstep hof).symm.trans hpc)
    | true =>
      obtain ⟨clock, rfl, _, hnew⟩ | ⟨clock, rfl, _, _⟩ | ⟨result, rfl, _, hnew⟩ | ⟨_, _, _, hnew⟩ :=
        X11Event.pc_cases hstep hof
      · rw [hnew] at hpc
        cases hpc
      · -- the loop ends when it reads that `running` is gone: everything else is held
        by_contra hrunning
        have hall := h.held (.inl (by simpa using hrunning))
        have hdisplay : s.object.display = true := hall .display (by decide)
        have himage : s.object.image = true := hall .image (by decide)
        simp [Allows, hrunning, hdisplay, himage] at hallows
      · rw [hnew] at hpc
        split at hpc <;> cases hpc
      · simp [hpc] at hnew
  · intro hd
    simp only [Bool.or_eq_true] at hd
    cases hof : e.OfThread with
    | false =>
      have hwakes : s.WakesUp e = false := by
        cases e <;> first | rfl | simp [X11Event.OfThread] at hof
      obtain ⟨hjoin, u, hu, hpc⟩ := h.draining (by simpa [hwakes] using hd)
      rw [hthread] at hu
      refine ⟨hjoin, t', rfl, ?_⟩
      rw [X11Event.pc_of_not_ofThread hstep hof, Option.some.inj hu, hpc]
    | true =>
      have hwakes : s.WakesUp e = true := by simpa [hdrain hof] using hd
      cases e with
      | gPoll result =>
        simp only [WakesUp, Bool.and_eq_true, decide_eq_true_eq] at hwakes
        obtain ⟨hpositive, hbytes⟩ := hwakes
        simp only [drdX11CaptureThreadStep, Option.ite_none_right_eq_some,
          Option.some.injEq] at hstep
        obtain ⟨_, rfl⟩ := hstep
        have hjoin : s.stopPc = .join := by
          obtain hjoin | hcleanup := h.pipeBytes hbytes
          · exact hjoin
          · have hnone := h.thread
            have hnot : s.object.running = false := h.not_running (by simp [hcleanup])
            simp [hthread, hcleanup, hnot] at hnone
        exact ⟨hjoin, _, rfl, if_neg (by omega)⟩
      | screenChange | otherEvent | deliver | iterate | xNextEvent | xPendingNone | checkDeadline
      | xShmGetImage | pushFrame => simp [WakesUp] at hwakes

theorem Coherent.read (h : s.Coherent)
    (he : captureSystemStep targetInterval s .read = some s') : s'.Coherent := by
  simp only [captureSystemStep, Option.ite_none_right_eq_some, Option.some.injEq] at he
  obtain ⟨⟨_, hbytes⟩, rfl⟩ := he
  exact { h with pipeBytes := fun _ => h.pipeBytes hbytes }

theorem Coherent.readInterrupted (h : s.Coherent)
    (he : captureSystemStep targetInterval s .readInterrupted = some s') : s'.Coherent := by
  simp only [captureSystemStep, Option.ite_none_right_eq_some, Option.some.injEq] at he
  obtain ⟨_, rfl⟩ := he
  exact { h with draining := by simp }

theorem coherent_inductive (targetInterval : ℤ) :
    (captureSystem targetInterval).Inductive (fun _ _ => True) Coherent where
  init s hs := hs ▸ coherent_init
  step s e s' hs _ he := by
    change captureSystemStep targetInterval s e = some s' at he
    cases e with
    | start fails displaySize requested thread => exact hs.start he
    | stop => exact hs.stop he
    | xSync => exact hs.xSync he
    | writeWakeup ok => exact hs.writeWakeup he
    | join => exact hs.join he
    | cleanup => exact hs.cleanup he
    | thread e => exact hs.threadStep he
    | read => exact hs.read he
    | readInterrupted => exact hs.readInterrupted he

/-- The join and the cleanup make of the object what `DrdX11Capture.stop` makes of it at
once. -/
theorem stop_object {s'' : CaptureSystem} (hs : (captureSystem targetInterval).Reachable s)
    (hjoin : captureSystemStep targetInterval s .join = some s')
    (hcleanup : captureSystemStep targetInterval s' .cleanup = some s'') :
    s''.object = { s.object with running := true }.stop := by
  have h : s.Coherent := (coherent_inductive targetInterval).holds hs
  cases hthread : s.thread with
  | none => simp [captureSystemStep, hthread] at hjoin
  | some t =>
    simp only [captureSystemStep, hthread, Option.ite_none_right_eq_some,
      Option.some.injEq] at hjoin
    obtain ⟨⟨_, hstopped⟩, rfl⟩ := hjoin
    simp only [captureSystemStep, if_true, Option.some.injEq] at hcleanup
    have hnot : s.object.running = false := h.stopped t hthread hstopped
    have hobject : ({ s.object with running := false } : DrdX11Capture) = s.object := by
      rw [← hnot]
    rw [← hcleanup]
    simp [DrdX11Capture.stop, hobject]

end CaptureSystem

/-- Nothing is acquired twice or released twice. The capture thread finds everything held as
long as it runs, and between a stop and the next start nothing is left. -/
theorem x11_capture_resources (targetInterval : ℤ) (s : CaptureSystem)
    (hs : (captureSystem targetInterval).Reachable s) :
    ∃ held, ResourceCall.heldAfter s.object.calls = some held ∧
      (s.thread.isSome = true → ∀ r, held r = true) ∧
      (s.stopPc = .idle → s.object.running = false → s.thread = none ∧
        ∀ r, s.object.calls.count (.acquire r) = s.object.calls.count (.release r)) := by
  have h : s.Coherent := (CaptureSystem.coherent_inductive targetInterval).holds hs
  refine ⟨_, h.ledgered, ?_, ?_⟩
  · intro hthread r
    by_cases hr : r = .thread
    · rw [hr]
      exact h.handle.trans hthread
    refine h.held ?_ r hr
    rw [h.thread] at hthread
    obtain hrunning | hstopping := Bool.or_eq_true_iff.mp hthread
    · exact .inl hrunning
    · right
      intro hidle
      simp [hidle] at hstopping
  · intro hidle hrunning
    refine ⟨by simpa [hidle, hrunning] using h.thread, ?_⟩
    intro r
    rw [ResourceCall.count_acquire h.ledgered r, h.closed hrunning hidle r]
    simp

namespace CaptureSystemEvent

/-- No signal interrupts a call that blocks. -/
def Uninterrupted : CaptureSystemEvent → Prop
  | .readInterrupted => False
  | .thread (.gPoll result) => 0 ≤ result
  | _ => True

end CaptureSystemEvent

namespace CaptureSystem

variable {targetInterval : ℤ} {s s' : CaptureSystem}

/-- The thread is at the poll that the byte ends, or it has read the byte and reads on. -/
def Stuck (s : CaptureSystem) : Prop :=
  s.stopPc = .join ∧ ∃ t, s.thread = some t ∧
    ((t.pc = .poll ∧ s.draining = false ∧ s.pipeBytes ≠ 0) ∨ (t.pc = .drain ∧ s.draining = true))

/-- The poll cannot miss the byte, and the loop that takes it out of the pipe does not end. -/
theorem Stuck.step (h : s.Stuck) {e : CaptureSystemEvent} (hcalm : e.Uninterrupted)
    (he : captureSystemStep targetInterval s e = some s') : s'.Stuck := by
  obtain ⟨hjoin, t, hthread, hplace⟩ := h
  cases e with
  | start | stop | xSync | writeWakeup | cleanup => simp [captureSystemStep, hjoin] at he
  | join =>
    simp only [captureSystemStep, hthread, hjoin, true_and, Option.ite_none_right_eq_some] at he
    obtain ⟨hpoll, _⟩ | ⟨hdrain, _⟩ := hplace
    · rw [hpoll] at he
      cases he.1
    · rw [hdrain] at he
      cases he.1
  | readInterrupted => exact absurd hcalm id
  | read =>
    simp only [captureSystemStep, Option.ite_none_right_eq_some, Option.some.injEq] at he
    obtain ⟨⟨hd, _⟩, rfl⟩ := he
    obtain ⟨_, hno, _⟩ | hdrain := hplace
    · simp [hd] at hno
    · exact ⟨hjoin, t, hthread, .inr hdrain⟩
  | thread e =>
    obtain ⟨u, t', hu, hfree, hallows, hstep, rfl⟩ := thread_cases he
    obtain rfl : u = t := Option.some.inj (hu.symm.trans hthread)
    refine ⟨hjoin, t', rfl, ?_⟩
    cases hof : e.OfThread with
    | false =>
      have hpc := X11Event.pc_of_not_ofThread hstep hof
      have hwakes : s.WakesUp e = false := by
        cases e <;> first | rfl | simp [X11Event.OfThread] at hof
      simpa [hpc, hwakes] using hplace
    | true =>
      obtain ⟨hpoll, _, hbytes⟩ | ⟨_, hd⟩ := hplace
      · right
        obtain ⟨_, rfl, hpc, _⟩ | ⟨_, rfl, hpc, _⟩ | ⟨result, rfl, _, hnew⟩ | ⟨_, _, hpc, _⟩ :=
          X11Event.pc_cases hstep hof
        · rw [hpoll] at hpc
          cases hpc
        · rw [hpoll] at hpc
          cases hpc
        · have hnonneg : 0 ≤ result := hcalm
          have hne : result ≠ 0 := by simpa [Allows, hbytes] using hallows
          refine ⟨hnew.trans (if_neg (by omega)), ?_⟩
          have hpositive : 0 < result := by omega
          simp [WakesUp, hpositive, hbytes]
        · simp [hpoll] at hpc
      · simp [hfree hof] at hd

end CaptureSystem

namespace X11Capture

variable {targetInterval : ℤ}

/-- The calls of a thread that leaves the loop without another poll. -/
def Leaves : X11Event → Bool
  | .iterate running _ => !running
  | .xNextEvent | .xPendingNone | .checkDeadline _ | .xShmGetImage _ | .pushFrame .. => true
  | .gPoll _ | .screenChange | .otherEvent | .deliver => false

/-- The thread can reach the end of its loop. -/
def CanStop (targetInterval : ℤ) (t : X11Capture) : Prop :=
  ∃ es t', (∀ e ∈ es, Leaves e = true) ∧ (drdX11CaptureThread targetInterval).run t es = some t' ∧
    t'.pc = .stopped

theorem CanStop.step {t t' : X11Capture} {e : X11Event} (h : CanStop targetInterval t')
    (hleaves : Leaves e = true) (he : drdX11CaptureThreadStep targetInterval t e = some t') :
    CanStop targetInterval t := by
  obtain ⟨es, u, hes, hrun, hpc⟩ := h
  refine ⟨e :: es, u, ?_, ?_, hpc⟩
  · intro e' he'
    obtain rfl | he' := List.mem_cons.mp he'
    · exact hleaves
    · exact hes e' he'
  · exact (congrArg (Option.bind · _) he).trans hrun

theorem canStop_head {t : X11Capture} (hpc : t.pc = .head) : CanStop targetInterval t := by
  have hlast : CanStop targetInterval { t with pc := .stopped } := ⟨[], _, by simp, rfl, rfl⟩
  exact hlast.step (e := .iterate false 0) rfl (by simp [drdX11CaptureThreadStep, hpc])

theorem canStop_deadline {t : X11Capture} (hpc : t.pc = .deadline) : CanStop targetInterval t := by
  have hearly : t.nextCaptureDeadline - 1 < t.nextCaptureDeadline := by omega
  have hhead : CanStop targetInterval { t with now := t.nextCaptureDeadline - 1, pc := .head } :=
    canStop_head rfl
  exact hhead.step (e := .checkDeadline (t.nextCaptureDeadline - 1)) rfl
    (by simp [drdX11CaptureThreadStep, hpc])

/-- The events that Xlib holds are taken one by one. -/
theorem canStop_drain {t : X11Capture} (hpc : t.pc = .drain) : CanStop targetInterval t := by
  induction hq : t.queue generalizing t with
  | nil =>
    have hnext : drdX11CaptureThreadStep targetInterval t .xPendingNone =
        some { t with pc := if t.damage then .deadline else .head } := by
      simp [drdX11CaptureThreadStep, hpc, hq]
    cases hd : t.damage with
    | true =>
      rw [hd] at hnext
      exact (canStop_deadline rfl).step rfl hnext
    | false =>
      rw [hd] at hnext
      exact (canStop_head rfl).step rfl hnext
  | cons ev queue ih =>
    have htaken : CanStop targetInterval (t.takeEvent ev queue) := by
      apply ih
      · rw [X11Event.takeEvent_pc, hpc]
      · cases ev <;> rfl
    exact htaken.step (e := .xNextEvent) rfl (by simp [drdX11CaptureThreadStep, hpc, hq])

theorem canStop {t : X11Capture} (hpc : t.pc ≠ .poll) : CanStop targetInterval t := by
  cases hplace : t.pc with
  | poll => exact absurd hplace hpc
  | head => exact canStop_head hplace
  | drain => exact canStop_drain hplace
  | deadline => exact canStop_deadline hplace
  | getImage =>
    have hhead : CanStop targetInterval
        { t with pc := .head, nextCaptureDeadline := t.now + targetInterval } := canStop_head rfl
    exact hhead.step (e := .xShmGetImage false) rfl (by simp [drdX11CaptureThreadStep, hplace])
  | push =>
    have hhead : CanStop targetInterval
        { t with
          pc := .head
          now := 0
          pushed := t.image
          nextCaptureDeadline := advanceDeadline targetInterval 0 t.nextCaptureDeadline } :=
      canStop_head rfl
    exact hhead.step (e := .pushFrame 0 true) rfl (by simp [drdX11CaptureThreadStep, hplace])
  | stopped => exact ⟨[], t, by simp, rfl, hplace⟩

end X11Capture

namespace CaptureSystem

variable {targetInterval : ℤ} {s s' : CaptureSystem}

/-- The thread finds that the capture does not run any more. -/
theorem allows_of_leaves {e : X11Event} (hleaves : X11Capture.Leaves e = true)
    (hrunning : s.object.running = false) : s.Allows e = true := by
  cases e with
  | iterate running clock =>
    have hno : running = false := by simpa only [X11Capture.Leaves, Bool.not_eq_true'] using hleaves
    simp [Allows, hno, hrunning]
  | gPoll result => exact absurd hleaves Bool.false_ne_true
  | screenChange | otherEvent | deliver | xNextEvent | xPendingNone | checkDeadline | xShmGetImage
  | pushFrame => rfl

theorem wakesUp_of_leaves {e : X11Event} (hleaves : X11Capture.Leaves e = true) :
    s.WakesUp e = false := by
  cases e with
  | gPoll result => exact absurd hleaves Bool.false_ne_true
  | screenChange | otherEvent | deliver | iterate | xNextEvent | xPendingNone | checkDeadline
  | xShmGetImage | pushFrame => rfl

theorem uninterrupted_of_leaves {e : X11Event} (hleaves : X11Capture.Leaves e = true) :
    (CaptureSystemEvent.thread e).Uninterrupted := by
  cases e with
  | gPoll result => exact absurd hleaves Bool.false_ne_true
  | screenChange | otherEvent | deliver | iterate | xNextEvent | xPendingNone | checkDeadline
  | xShmGetImage | pushFrame => trivial

/-- A thread outside the poll goes through the rest of its loop in the whole system. -/
theorem run_leaves (es : List X11Event) (hes : ∀ e ∈ es, X11Capture.Leaves e = true)
    {t t' : X11Capture} (hthread : s.thread = some t) (hd : s.draining = false)
    (hrunning : s.object.running = false)
    (hrun : (drdX11CaptureThread targetInterval).run t es = some t') :
    (captureSystem targetInterval).run s (es.map .thread) = some { s with thread := some t' } := by
  induction es generalizing s t with
  | nil =>
    rw [← Option.some.inj hrun, ← hthread]
    rfl
  | cons e es ih =>
    obtain ⟨u, hu, hrest⟩ := EventMachine.run_cons_some hrun
    have hleaves : X11Capture.Leaves e = true := hes e List.mem_cons_self
    have hallows : s.Allows e = true := allows_of_leaves hleaves hrunning
    have hwakes : s.WakesUp e = false := wakesUp_of_leaves hleaves
    have hstep : captureSystemStep targetInterval s (.thread e) =
        some { s with thread := some u } := by
      change drdX11CaptureThreadStep targetInterval t e = some u at hu
      simp [captureSystemStep, hthread, hd, hallows, hu, hwakes]
    have hnext := ih (s := { s with thread := some u })
      (fun e' he' => hes e' (List.mem_cons_of_mem e he')) rfl hd hrunning hrest
    exact (congrArg (Option.bind · _) hstep).trans hnext

end CaptureSystem

/-- The byte that a stop writes does not wake the capture thread up but hang it: unless a
signal interrupts its calls, the stop can return exactly when the thread was not in the poll
that the byte is meant to end. -/
theorem x11_capture_stop_returns_iff (targetInterval : ℤ) (s s' : CaptureSystem)
    (hs : (captureSystem targetInterval).Reachable s)
    (he : (captureSystem targetInterval).step s (.writeWakeup true) = some s') :
    (∃ es t, (∀ e ∈ es, e.Uninterrupted) ∧ (captureSystem targetInterval).run s' es = some t ∧
        t.stopPc = .idle) ↔
      ∃ thread, s.thread = some thread ∧ thread.pc ≠ .poll := by
  have h : s.Coherent := (CaptureSystem.coherent_inductive targetInterval).holds hs
  have he' : captureSystemStep targetInterval s (.writeWakeup true) = some s' := he
  simp only [captureSystemStep, Option.ite_none_right_eq_some, Option.some.injEq, if_true] at he'
  obtain ⟨hwrite, rfl⟩ := he'
  have hrunning : s.object.running = false := h.not_running (by simp [hwrite])
  have hdraining : s.draining = false := by
    cases hd : s.draining with
    | false => rfl
    | true => simpa [hwrite] using (h.draining hd).1
  obtain ⟨thread, hthread⟩ : ∃ thread, s.thread = some thread := by
    apply Option.isSome_iff_exists.mp
    simp [h.thread, hwrite]
  constructor
  · rintro ⟨es, t, hcalm, hrun, hidle⟩
    refine ⟨thread, hthread, ?_⟩
    intro hpoll
    let start : CaptureSystem := { s with stopPc := .join, pipeBytes := s.pipeBytes + 1 }
    have hstuck : start.Stuck := ⟨rfl, thread, hthread, .inl ⟨hpoll, hdraining, by simp [start]⟩⟩
    have hend : t.Stuck :=
      EventMachine.StepsMeet.preserves (M := captureSystem targetInterval)
        (fun s e s' hk hc he => CaptureSystem.Stuck.step hk hc he) hstuck es
        (EventMachine.stepsMeet_of_forall _ es hcalm) hrun
    rw [hend.1] at hidle
    cases hidle
  · rintro ⟨u, hu, hpc⟩
    have hcan : X11Capture.CanStop targetInterval u := X11Capture.canStop hpc
    obtain ⟨es, t, hes, hrun, hstopped⟩ := hcan
    have hsystem := CaptureSystem.run_leaves
      (s := { s with stopPc := .join, pipeBytes := s.pipeBytes + 1 }) es hes hu hdraining hrunning hrun
    let stopped : CaptureSystem := { s with
      object := s.object.joinThread.cleanupLocked.closeWakeupPipe
      pipeBytes := 0
      stopPc := .idle
      thread := none }
    refine ⟨es.map .thread ++ [.join, .cleanup], stopped, ?_, ?_, rfl⟩
    · intro e he
      obtain he | he := List.mem_append.mp he
      · obtain ⟨e', he', rfl⟩ := List.mem_map.mp he
        exact CaptureSystem.uninterrupted_of_leaves (hes e' he')
      · simp only [List.mem_cons, List.not_mem_nil, or_false] at he
        obtain rfl | rfl := he <;> trivial
    · rw [EventMachine.run_append, hsystem]
      simp only [Option.bind_some, EventMachine.run, captureSystem, captureSystemStep, hstopped,
        and_self, if_true, stopped]

/-- A start that succeeds, and a stop that goes as far as its write. -/
def x11CaptureStop (calls : List X11Event) : List CaptureSystemEvent :=
  .start (fun _ => false) (1920, 1080) (0, 0) .fresh :: calls.map .thread ++ [.stop, .xSync]

theorem x11_capture_resources_while_stopping :
    ∃ held, ResourceCall.heldAfter
        (((captureSystem 16666).run {} (x11CaptureStop [])).get rfl).object.calls = some held ∧
      ∀ r, held r = true :=
  let ⟨held, hledger, hthread, _⟩ :=
    x11_capture_resources 16666 _ (EventMachine.reachable_run_get rfl (x11CaptureStop []) rfl)
  ⟨held, hledger, hthread rfl⟩

/-- The thread polls, and the stop hangs. -/
theorem x11_capture_stop_hangs :
    ¬ ∃ es t, (∀ e ∈ es, e.Uninterrupted) ∧
      (captureSystem 16666).run (((captureSystem 16666).run {}
        (x11CaptureStop [.iterate true 1000] ++ [.writeWakeup true])).get rfl) es = some t ∧
      t.stopPc = .idle :=
  (x11_capture_stop_returns_iff 16666
    (((captureSystem 16666).run {} (x11CaptureStop [.iterate true 1000])).get rfl) _
    (EventMachine.reachable_run_get rfl _ rfl) rfl).not.mpr (by
      rintro ⟨thread, hthread, hpc⟩
      rw [← Option.some.inj hthread] at hpc
      exact hpc rfl)

end RemoteDesktop.DRD
