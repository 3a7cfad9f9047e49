import RemoteDesktop.CasRegister
import RemoteDesktop.DRDCaptureLifecycle
import RemoteDesktop.DRDEncodingManager
import RemoteDesktop.DRDFrameQueue
import RemoteDesktop.DRDSession
import RemoteDesktop.DRDX11Input

/-! `drd_server_runtime.c` with the modules that it starts and stops: `drd_capture_manager.c`,
`drd_input_dispatcher.c` and the encoding manager. A stop of the capture stands for one that
returns. -/
namespace RemoteDesktop.DRD

structure CaptureManager where
  running : Bool := false
  queue : FrameQueue Frame := {}
  x11Capture : DrdX11Capture := {}

namespace CaptureManager

variable (self : CaptureManager)

/-- `drd_capture_manager_start`, with the call of X11 that failed. -/
def start (fails : CaptureCall → Bool) (displaySize size : UInt32 × UInt32) :
    CaptureManager × Option CaptureCall :=
  if self.running then (self, none)
  else
    let queue := self.queue.reset
    match self.x11Capture.start fails displaySize size with
    | (x11Capture, some call) =>
      ({ self with queue := queue.stop, x11Capture := x11Capture }, some call)
    | (x11Capture, none) => ({ running := true, queue := queue, x11Capture := x11Capture }, none)

def stop : CaptureManager :=
  if !self.running then self
  else { running := false, queue := self.queue.stop, x11Capture := self.x11Capture.stop }

end CaptureManager

structure InputDispatcher where
  active : Bool := false
  backend : DrdX11Input := {}

namespace InputDispatcher

variable (self : InputDispatcher)

/-- `drd_input_dispatcher_start`. The size is the one of the stream. -/
def start (server : Option XServer) (size : UInt32 × UInt32) :
    InputDispatcher × Except String Unit :=
  match self.backend.start server with
  | (backend, .error message) => ({ self with backend := backend }, .error message)
  | (backend, .ok _) =>
    ({ active := true, backend := backend.updateDesktopSize size.1 size.2 }, .ok ())

def stop : InputDispatcher := { active := false, backend := self.backend.stop }

end InputDispatcher

/-- Options whose sizes fit the fields of `DrdEncodingOptions`. -/
structure StreamOptions extends EncodingOptions where
  width_lt : width < 2 ^ 32
  height_lt : height < 2 ^ 32

def StreamOptions.size (options : StreamOptions) : UInt32 × UInt32 :=
  (UInt32.ofNat options.width, UInt32.ofNat options.height)

/-- What X11 answers to the two modules that open a display. -/
structure StreamEnv where
  inputServer : Option XServer
  fails : CaptureCall → Bool
  displaySize : UInt32 × UInt32

inductive StreamError
  | encoder (error : EncodeError)
  | input (message : String)
  | capture (call : CaptureCall)

structure DrdServerRuntime where
  capture : CaptureManager := {}
  encoder : EncodingManager := {}
  input : InputDispatcher := {}
  encodingOptions : Option StreamOptions := none
  streamRunning : Bool := false
  transportMode : FrameTransport := .graphicsPipeline

namespace DrdServerRuntime

variable (self : DrdServerRuntime)

/-- The rest of `drd_server_runtime_prepare_stream` when the encoder is prepared. -/
def startInput (options : StreamOptions) (env : StreamEnv) :
    DrdServerRuntime × Except StreamError Unit :=
  match self.input.start env.inputServer options.size with
  | (input, .error message) =>
    ({ self with input := input, encoder := self.encoder.reset }, .error (.input message))
  | (input, .ok _) =>
    match self.capture.start env.fails env.displaySize options.size with
    | (capture, some call) =>
      ({ self with capture := capture, input := input.stop, encoder := self.encoder.reset },
        .error (.capture call))
    | (capture, none) =>
      ({ self with capture := capture, input := input, streamRunning := true }, .ok ())

/-- `drd_server_runtime_prepare_stream`. -/
def prepareStream (options : StreamOptions) (env : StreamEnv) :
    DrdServerRuntime × Except StreamError Unit :=
  if self.streamRunning then (self, .ok ())
  else
    let self :=
      { self with encodingOptions := some options, transportMode := .graphicsPipeline }
    match self.encoder.prepare options.toEncodingOptions with
    | (encoder, .error error) => ({ self with encoder := encoder }, .error (.encoder error))
    | (encoder, .ok _) => { self with encoder := encoder }.startInput options env

/-- `drd_server_runtime_stop`. The flush of the input does nothing. -/
def stop : DrdServerRuntime :=
  if !self.streamRunning then self
  else
    { self with
      streamRunning := false
      capture := self.capture.stop
      encoder := self.encoder.reset
      input := self.input.stop }

/-- `drd_server_runtime_set_transport` as one step. -/
def setTransport (transport : FrameTransport) : DrdServerRuntime :=
  if self.transportMode = transport then self
  else { self with transportMode := transport, encoder := self.encoder.forceKeyframe }

/-- A change while the stream runs is only logged. -/
def setEncodingOptions (options : StreamOptions) : DrdServerRuntime :=
  { self with encodingOptions := some options }

def requestKeyframe : DrdServerRuntime := { self with encoder := self.encoder.forceKeyframe }

/-- What the sessions share of it. -/
def shared : ServerRuntime :=
  { streamRunning := self.streamRunning, transport := self.transportMode }

end DrdServerRuntime

/-- What a client has said about its desktop. -/
structure DesktopSettings where
  desktopWidth : UInt32
  desktopHeight : UInt32
  desktopResize : Bool
  deriving DecidableEq, Repr

/-- Whether FreeRDP stores a width and a height, and what its resize answers, if there is one. -/
structure ResizeEnv where
  setsWidth : Bool
  setsHeight : Bool
  desktopResize : Option Bool

/-- `drd_rdp_session_enforce_peer_desktop_size`, with the settings that it leaves. -/
def enforcePeerDesktopSize (options : Option StreamOptions) (settings : DesktopSettings)
    (env : ResizeEnv) : DesktopSettings × Bool :=
  match options with
  | none => (settings, true)
  | some options =>
    let widthDiffers := settings.desktopWidth ≠ options.size.1
    let heightDiffers := settings.desktopHeight ≠ options.size.2
    if !settings.desktopResize ∧ (widthDiffers ∨ heightDiffers) then (settings, false)
    else if widthDiffers ∧ !env.setsWidth then (settings, false)
    else
      let settings := { settings with desktopWidth := options.size.1 }
      if heightDiffers ∧ !env.setsHeight then (settings, false)
      else
        let settings := { settings with desktopHeight := options.size.2 }
        if widthDiffers ∨ heightDiffers then (settings, env.desktopResize.getD false)
        else (settings, true)

/-- The end of an activation: what it has done, and its result. -/
structure Activation where
  runtime : DrdServerRuntime
  settings : DesktopSettings
  result : Bool

/-- `drd_rdp_session_activate` of a session with a peer, as far as the runtime goes. -/
def DrdServerRuntime.activate (self : DrdServerRuntime) (passiveMode : Bool)
    (settings : DesktopSettings) (resize : ResizeEnv) (env : StreamEnv) : Activation :=
  if passiveMode then ⟨self, settings, true⟩
  else
    match enforcePeerDesktopSize self.encodingOptions settings resize with
    | (settings, false) => ⟨self, settings, false⟩
    | (settings, true) =>
      match self.encodingOptions with
      | none => ⟨self, settings, false⟩
      | some options =>
        if self.streamRunning then ⟨self, settings, true⟩
        else
          match self.prepareStream options env with
          | (self, .error _) => ⟨self, settings, false⟩
          | (self, .ok _) => ⟨self.requestKeyframe, settings, true⟩

inductive StreamEvent
  | activate (passiveMode : Bool) (settings : DesktopSettings) (resize : ResizeEnv) (env : StreamEnv)
  | stop
  | setTransport (transport : FrameTransport)
  | setEncodingOptions (options : StreamOptions)
  | requestKeyframe

def streamMachine : EventMachine DrdServerRuntime StreamEvent where
  init r := r = {}
  step r
    | .activate passiveMode settings resize env =>
      some (r.activate passiveMode settings resize env).runtime
    | .stop => some r.stop
    | .setTransport transport => some (r.setTransport transport)
    | .setEncodingOptions options => some (r.setEncodingOptions options)
    | .requestKeyframe => some r.requestKeyframe

/-! The transport, which threads change without a lock. -/

/-- `drd_server_runtime_set_transport` is a loop of compare and swap whose calls want the
register to hold their argument; the announcement is the request of a keyframe. -/
def setTransportLoop (desired _current : FrameTransport) : FrameTransport := desired

def transportMachine (ι : Type*) [DecidableEq ι] :
    EventMachine (CasState FrameTransport FrameTransport ι) (CasEvent FrameTransport ι) :=
  CasState.machine setTransportLoop .graphicsPipeline

theorem replay_setTransport {ι : Type*} (rt : ServerRuntime)
    (effects : List (Option ι × FrameTransport)) :
    CasState.replay setTransportLoop rt.transport effects =
      (effects.foldl (fun rt effect => rt.apply (.setTransport effect.2)) rt).transport := by
  induction effects generalizing rt with
  | nil => rfl
  | cons effect effects ih => exact ih (rt.apply (.setTransport effect.2))

/-- However many threads set the transport at once, their calls take effect one after the other
as the single step that `ServerRuntime.apply` makes of them, each between its call and its
return. A thread asks for as many keyframes as it has really switched the transport. -/
theorem set_transport_linearizes {ι : Type*} [DecidableEq ι]
    (s : CasState FrameTransport FrameTransport ι) (hs : (transportMachine ι).Reachable s) :
    s.register =
        (s.effects.foldl (fun rt effect => rt.apply (.setTransport effect.2))
          ({} : ServerRuntime)).transport ∧
      s.history.filterMap CasState.ofHistory = s.effects.filterMap CasState.ofEffects ∧
      ∀ thread,
        (∃ done, CasState.Calls thread done ∧
          (s.history.filter fun entry => entry.thread = thread) =
            done ++ CasState.underWay thread (s.pc thread)) ∧
        (s.pc thread = .idle →
          s.announced thread =
            CasState.changesBy setTransportLoop thread .graphicsPipeline s.effects) := by
  have h : s.Linearized setTransportLoop .graphicsPipeline :=
    (CasState.linearized_inductive FrameTransport.graphicsPipeline).holds (M := transportMachine ι) hs
  refine ⟨?_, h.order, fun thread => ⟨h.calls thread, ?_⟩⟩
  · exact h.register.trans (replay_setTransport {} s.effects)
  · intro hidle
    have hcount := h.announced thread
    rw [hidle] at hcount
    exact hcount.symm

/-- Two threads race: the second reads before the first exchanges, and starts over. -/
def racingTransports : List (CasEvent FrameTransport ℕ) :=
  [.call 0 .surfaceBits, .call 1 .surfaceBits, .load 0, .load 1, .exchange 0, .exchange 1,
    .load 1, .announce 0, .ret 0, .ret 1]

theorem set_transport_linearizes_race :
    (((transportMachine ℕ).run { register := .graphicsPipeline } racingTransports).get
        rfl).announced 0 = 1 ∧
      (((transportMachine ℕ).run { register := .graphicsPipeline } racingTransports).get
        rfl).announced 1 = 0 := by
  have h := set_transport_linearizes _
    (EventMachine.reachable_run_get (M := transportMachine ℕ) rfl racingTransports rfl)
  exact ⟨((h.2.2 0).2 rfl).trans rfl, ((h.2.2 1).2 rfl).trans rfl⟩

/-! What the modules do when they start. -/

namespace DrdX11Capture

variable {self : DrdX11Capture} {fails : CaptureCall → Bool} {displaySize size : UInt32 × UInt32}

/-- Whoever asks for a size that is not zero gets it. -/
def Sized (s : DrdX11Capture) (size : UInt32 × UInt32) : Prop :=
  s.width = size.1 ∧ s.height = size.2

theorem prepareDisplay_sized (hsize : 0 < size.1 ∧ 0 < size.2)
    (hok : (self.prepareDisplay fails displaySize size).2 = none) :
    (self.prepareDisplay fails displaySize size).1.Sized size := by
  have hchosen (s : DrdX11Capture) : (s.chooseSize displaySize size).Sized size :=
    ⟨if_pos hsize.1, if_pos hsize.2⟩
  unfold prepareDisplay at hok ⊢
  split_ifs at hok ⊢
  exact hchosen (self.acquire .display)

theorem start_sized (hrunning : self.running = false) (hsize : 0 < size.1 ∧ 0 < size.2)
    (hok : (self.start fails displaySize size).2 = none) :
    (self.start fails displaySize size).1.Sized size := by
  unfold start at hok ⊢
  rw [if_neg (by simp [hrunning])] at hok ⊢
  cases hpipe : self.setupWakeupPipe fails with
  | mk opened failed =>
    cases failed with
    | some call => simp [hpipe] at hok
    | none =>
      simp only [hpipe] at hok ⊢
      have hprepared : (opened.prepareDisplay fails displaySize size).2 = none →
          (opened.prepareDisplay fails displaySize size).1.Sized size := prepareDisplay_sized hsize
      cases hprepare : opened.prepareDisplay fails displaySize size with
      | mk prepared failed =>
        rw [hprepare] at hprepared
        cases failed with
        | some call => simp [hprepare] at hok
        | none =>
          exact hprepared rfl

end DrdX11Capture

theorem EncodingManager.prepare_error {m m' : EncodingManager} {options : EncodingOptions}
    {error : EncodeError} (hready : m.ready = false)
    (h : m.prepare options = (m', .error error)) : m'.ready = false := by
  unfold prepare at h
  by_cases hzero : options.width = 0 ∨ options.height = 0
  · rw [if_pos hzero] at h
    rw [← (Prod.mk.inj h).1]
    exact hready
  · rw [if_neg hzero] at h
    by_cases hmode : options.mode = .other
    · rw [if_pos hmode] at h
      rw [← (Prod.mk.inj h).1, reset, if_pos (by simp [hready])]
      exact hready
    · rw [if_neg hmode] at h
      cases (Prod.mk.inj h).2

theorem EncodingManager.prepare_ok {m m' : EncodingManager} {options : EncodingOptions} {u : Unit}
    (h : m.prepare options = (m', .ok u)) :
    m'.ready = true ∧ m'.frameWidth = options.width ∧ m'.frameHeight = options.height ∧
      0 < options.width ∧ 0 < options.height := by
  unfold prepare at h
  by_cases hzero : options.width = 0 ∨ options.height = 0
  · rw [if_pos hzero] at h
    cases (Prod.mk.inj h).2
  · rw [if_neg hzero] at h
    by_cases hmode : options.mode = .other
    · rw [if_pos hmode] at h
      cases (Prod.mk.inj h).2
    · rw [if_neg hmode] at h
      rw [← (Prod.mk.inj h).1]
      exact ⟨rfl, rfl, rfl, by omega, by omega⟩

theorem EncodingManager.reset_ready (m : EncodingManager) : m.reset.ready = false := by
  unfold reset
  split_ifs with h
  · simpa using h
  · rfl

namespace InputDispatcher

variable {self input : InputDispatcher} {server : Option XServer} {size : UInt32 × UInt32}

/-- The input is as stopped as its backend. -/
def Off (self : InputDispatcher) : Prop :=
  self.active = false ∧ self.backend.running = false ∧ self.backend.display = false

theorem start_error {message : String} (hoff : self.Off)
    (h : self.start server size = (input, .error message)) : input.Off := by
  obtain ⟨hactive, hrunning, hdisplay⟩ := hoff
  unfold start DrdX11Input.start at h
  rw [if_neg (by simp [hrunning])] at h
  cases hopen : self.backend.openDisplay server with
  | ok opened => simp [hopen] at h
  | error message' =>
    simp only [hopen, Prod.mk.injEq] at h
    rw [← h.1]
    exact ⟨hactive, hrunning, hdisplay⟩

theorem start_ok {u : Unit} (hsize : 0 < size.1 ∧ 0 < size.2) (hoff : self.Off)
    (h : self.start server size = (input, .ok u)) :
    (input.active = true ∧ input.backend.running = true) ∧
      input.backend.streamWidth = size.1 ∧ input.backend.streamHeight = size.2 := by
  obtain ⟨_, hrunning, _⟩ := hoff
  unfold start DrdX11Input.start at h
  rw [if_neg (by simp [hrunning])] at h
  cases hopen : self.backend.openDisplay server with
  | error message => simp [hopen] at h
  | ok opened =>
    simp only [hopen, Prod.mk.injEq] at h
    rw [← h.1]
    exact ⟨⟨rfl, rfl⟩, if_pos hsize.1, if_pos hsize.2⟩

theorem stop_off (h : self.backend.running = false → self.backend.display = false) :
    self.stop.Off := by
  cases hrunning : self.backend.running with
  | false =>
    have hstop : self.backend.stop = self.backend := by simp [DrdX11Input.stop, hrunning]
    exact ⟨rfl, by simp [stop, hstop, hrunning], by simp [stop, hstop, h hrunning]⟩
  | true => exact ⟨rfl, by simp [stop, DrdX11Input.stop, hrunning],
      by simp [stop, DrdX11Input.stop, hrunning]⟩

end InputDispatcher

namespace CaptureManager

variable {self capture : CaptureManager} {fails : CaptureCall → Bool}
  {displaySize size : UInt32 × UInt32}

/-- The capture is as stopped as X11 is released. -/
def Off (self : CaptureManager) : Prop :=
  self.running = false ∧ self.x11Capture.running = false ∧ self.x11Capture.Closed

theorem start_error {call : CaptureCall} (hledgered : self.x11Capture.Ledgered) (hoff : self.Off)
    (h : self.start fails displaySize size = (capture, some call)) :
    capture.x11Capture.Ledgered ∧ capture.Off := by
  obtain ⟨hrunning, hstopped, hclosed⟩ := hoff
  unfold start at h
  rw [if_neg (by simp [hrunning])] at h
  cases hstart : self.x11Capture.start fails displaySize size with
  | mk x11Capture failed =>
    obtain ⟨hkept, hcase⟩ :=
      DrdX11Capture.start_spec fails displaySize size hledgered hclosed hstopped
    rw [hstart] at hkept hcase h
    cases failed with
    | none => simp at h
    | some call' =>
      obtain ⟨hnone, _⟩ | ⟨_, hnot, hempty⟩ := hcase
      · cases hnone
      · rw [← (Prod.mk.inj h).1]
        exact ⟨hkept, hrunning, hnot, hempty⟩

theorem start_ok (hsize : 0 < size.1 ∧ 0 < size.2) (hledgered : self.x11Capture.Ledgered)
    (hoff : self.Off) (h : self.start fails displaySize size = (capture, none)) :
    capture.x11Capture.Ledgered ∧ (capture.running = true ∧ capture.x11Capture.running = true) ∧
      (∀ r, capture.x11Capture.holds r = true) ∧ capture.x11Capture.Sized size := by
  obtain ⟨hrunning, hstopped, hclosed⟩ := hoff
  unfold start at h
  rw [if_neg (by simp [hrunning])] at h
  have hsized : (self.x11Capture.start fails displaySize size).2 = none →
      (self.x11Capture.start fails displaySize size).1.Sized size :=
    DrdX11Capture.start_sized hstopped hsize
  cases hstart : self.x11Capture.start fails displaySize size with
  | mk x11Capture failed =>
    obtain ⟨hkept, hcase⟩ :=
      DrdX11Capture.start_spec fails displaySize size hledgered hclosed hstopped
    rw [hstart] at hkept hcase h hsized
    cases failed with
    | some call => simp at h
    | none =>
      obtain ⟨_, hup, hall⟩ | ⟨hsome, _⟩ := hcase
      · rw [← (Prod.mk.inj h).1]
        exact ⟨hkept, ⟨rfl, hup⟩, hall, hsized rfl⟩
      · exact absurd rfl hsome

theorem stop_off (hledgered : self.x11Capture.Ledgered)
    (hup : self.running = true ∧ self.x11Capture.running = true)
    (hheld : ∀ r, self.x11Capture.holds r = true) :
    self.stop.x11Capture.Ledgered ∧ self.stop.Off := by
  obtain ⟨hkept, hstopped, hclosed⟩ :=
    DrdX11Capture.stop_spec hledgered (fun _ => hheld) (fun hno => absurd hup.2 (by simp [hno]))
  have hstop : self.stop =
      { running := false, queue := self.queue.stop, x11Capture := self.x11Capture.stop } := by
    simp [stop, hup.1]
  rw [hstop]
  exact ⟨hkept, rfl, hstopped, hclosed⟩

end CaptureManager

/-! The stream. -/

namespace DrdServerRuntime

/-- A stream that runs: its three modules run with one size. -/
structure Streaming (r : DrdServerRuntime) (width height : ℕ) : Prop where
  encoder : r.encoder.ready = true ∧ r.encoder.frameWidth = width ∧ r.encoder.frameHeight = height
  input : r.input.active = true ∧ r.input.backend.running = true
  input_size : r.input.backend.streamWidth.toNat = width ∧
    r.input.backend.streamHeight.toNat = height
  capture : r.capture.running = true ∧ r.capture.x11Capture.running = true
  held : ∀ resource, r.capture.x11Capture.holds resource = true
  capture_size : r.capture.x11Capture.width.toNat = width ∧
    r.capture.x11Capture.height.toNat = height

/-- Without a stream nothing runs, and X11 holds nothing for it. -/
structure Down (r : DrdServerRuntime) : Prop where
  encoder : r.encoder.ready = false
  input : r.input.Off
  capture : r.capture.Off

/-- The stream is up as a whole or down as a whole. -/
structure Coherent (r : DrdServerRuntime) : Prop where
  ledgered : r.capture.x11Capture.Ledgered
  up : r.streamRunning = true → ∃ width height, r.Streaming width height
  down : r.streamRunning = false → r.Down

variable {r r' : DrdServerRuntime}

/-- A preparation that fails leaves the stream down, one that succeeds has it up with the size
of its options. -/
theorem prepareStream_spec (hledgered : r.capture.x11Capture.Ledgered) (hdown : r.Down)
    (hrunning : r.streamRunning = false) (options : StreamOptions) (env : StreamEnv) :
    (r.prepareStream options env).1.capture.x11Capture.Ledgered ∧
      (r.prepareStream options env).1.encodingOptions = some options ∧
      (((r.prepareStream options env).2.isOk = true ∧
          (r.prepareStream options env).1.streamRunning = true ∧
          (r.prepareStream options env).1.Streaming options.width options.height) ∨
        ((r.prepareStream options env).2.isOk = false ∧
          (r.prepareStream options env).1.streamRunning = false ∧
          (r.prepareStream options env).1.Down)) := by
  unfold prepareStream
  rw [if_neg (by simp [hrunning])]
  dsimp only
  cases hprepare : r.encoder.prepare options.toEncodingOptions with
  | mk encoder answer =>
    cases answer with
    | error error =>
      have hready := EncodingManager.prepare_error hdown.encoder hprepare
      exact ⟨hledgered, rfl, .inr ⟨rfl, hrunning, hready, hdown.input, hdown.capture⟩⟩
    | ok u =>
      obtain ⟨hready, hwidth, hheight, hwide, hhigh⟩ := EncodingManager.prepare_ok hprepare
      have hfit : options.size.1.toNat = options.width ∧ options.size.2.toNat = options.height :=
        ⟨UInt32.toNat_ofNat_of_lt' options.width_lt, UInt32.toNat_ofNat_of_lt' options.height_lt⟩
      have hsize : 0 < options.size.1 ∧ 0 < options.size.2 := by
        simp only [UInt32.lt_iff_toNat_lt, hfit.1, hfit.2]
        exact ⟨hwide, hhigh⟩
      dsimp only [startInput]
      cases hinput : r.input.start env.inputServer options.size with
      | mk input answer =>
        cases answer with
        | error message =>
          have hoff := InputDispatcher.start_error hdown.input hinput
          exact ⟨hledgered, rfl,
            .inr ⟨rfl, hrunning, encoder.reset_ready, hoff, hdown.capture⟩⟩
        | ok u' =>
          obtain ⟨hactive, hstream⟩ := InputDispatcher.start_ok hsize hdown.input hinput
          cases hcapture : r.capture.start env.fails env.displaySize options.size with
          | mk capture failed =>
            cases failed with
            | some call =>
              obtain ⟨hkept, hoff⟩ := CaptureManager.start_error hledgered hdown.capture hcapture
              have hinputOff : input.stop.Off := by
                apply InputDispatcher.stop_off
                intro hno
                rw [hactive.2] at hno
                cases hno
              exact ⟨hkept, rfl, .inr ⟨rfl, hrunning, encoder.reset_ready, hinputOff, hoff⟩⟩
            | none =>
              obtain ⟨hkept, hup, hheld, hsized⟩ :=
                CaptureManager.start_ok hsize hledgered hdown.capture hcapture
              refine ⟨hkept, rfl, .inl ⟨rfl, rfl, ⟨hready, hwidth, hheight⟩, hactive, ?_, hup,
                hheld, ?_⟩⟩
              · exact ⟨(congrArg _ hstream.1).trans hfit.1, (congrArg _ hstream.2).trans hfit.2⟩
              · exact ⟨(congrArg _ hsized.1).trans hfit.1, (congrArg _ hsized.2).trans hfit.2⟩

theorem stop_spec {width height : ℕ} (hledgered : r.capture.x11Capture.Ledgered)
    (hup : r.Streaming width height) (hrunning : r.streamRunning = true) :
    r.stop.capture.x11Capture.Ledgered ∧ r.stop.streamRunning = false ∧ r.stop.Down := by
  obtain ⟨hkept, hoff⟩ := CaptureManager.stop_off hledgered hup.capture hup.held
  have hinput : r.input.stop.Off := by
    apply InputDispatcher.stop_off
    intro hno
    rw [hup.input.2] at hno
    cases hno
  have hstop : r.stop =
      { r with
        streamRunning := false
        capture := r.capture.stop
        encoder := r.encoder.reset
        input := r.input.stop } := by
    simp [stop, hrunning]
  rw [hstop]
  exact ⟨hkept, rfl, r.encoder.reset_ready, hinput, hoff⟩

/-- Only the fields of the stream count. -/
theorem Streaming.of_modules {width height : ℕ} (h : r.Streaming width height)
    (hcapture : r'.capture = r.capture) (hinput : r'.input = r.input)
    (hready : r'.encoder.ready = r.encoder.ready)
    (hwidth : r'.encoder.frameWidth = r.encoder.frameWidth)
    (hheight : r'.encoder.frameHeight = r.encoder.frameHeight) : r'.Streaming width height := by
  obtain ⟨hencoder, hactive, hstream, hup, hheld, hsize⟩ := h
  constructor
  · rwa [hready, hwidth, hheight]
  · rwa [hinput]
  · rwa [hinput]
  · rwa [hcapture]
  · rwa [hcapture]
  · rwa [hcapture]

theorem Down.of_modules (h : r.Down) (hcapture : r'.capture = r.capture)
    (hinput : r'.input = r.input) (hready : r'.encoder.ready = r.encoder.ready) : r'.Down := by
  obtain ⟨hencoder, hoff, hdown⟩ := h
  constructor
  · rwa [hready]
  · rwa [hinput]
  · rwa [hcapture]

/-- Nothing but the options of the stream, its transport and the keyframe flag is touched. -/
structure SameStream (r r' : DrdServerRuntime) : Prop where
  capture : r'.capture = r.capture
  input : r'.input = r.input
  running : r'.streamRunning = r.streamRunning
  ready : r'.encoder.ready = r.encoder.ready
  width : r'.encoder.frameWidth = r.encoder.frameWidth
  height : r'.encoder.frameHeight = r.encoder.frameHeight

theorem SameStream.streaming {width height : ℕ} (h : r.SameStream r')
    (hup : r.Streaming width height) : r'.Streaming width height :=
  hup.of_modules h.capture h.input h.ready h.width h.height

theorem SameStream.coherent (h : r.SameStream r') (hr : r.Coherent) : r'.Coherent where
  ledgered := by
    rw [h.capture]
    exact hr.ledgered
  up := by
    intro hrunning
    obtain ⟨width, height, hup⟩ := hr.up (h.running.symm.trans hrunning)
    exact ⟨width, height, h.streaming hup⟩
  down := by
    intro hrunning
    exact (hr.down (h.running.symm.trans hrunning)).of_modules h.capture h.input h.ready

theorem requestKeyframe_same (r : DrdServerRuntime) : r.SameStream r.requestKeyframe :=
  ⟨rfl, rfl, rfl, rfl, rfl, rfl⟩

theorem setEncodingOptions_same (r : DrdServerRuntime) (options : StreamOptions) :
    r.SameStream (r.setEncodingOptions options) :=
  ⟨rfl, rfl, rfl, rfl, rfl, rfl⟩

theorem setTransport_same (r : DrdServerRuntime) (transport : FrameTransport) :
    r.SameStream (r.setTransport transport) := by
  unfold setTransport
  split_ifs
  · exact ⟨rfl, rfl, rfl, rfl, rfl, rfl⟩
  · exact ⟨rfl, rfl, rfl, rfl, rfl, rfl⟩

/-- An activation leaves the stream as it is, or it prepares it with the options and asks for
a keyframe. -/
theorem activate_cases (r : DrdServerRuntime) (passiveMode : Bool) (settings : DesktopSettings)
    (resize : ResizeEnv) (env : StreamEnv) :
    ((r.activate passiveMode settings resize env).runtime = r ∧
        ((r.activate passiveMode settings resize env).result = true → passiveMode = false →
          r.streamRunning = true ∧
            enforcePeerDesktopSize r.encodingOptions settings resize =
              ((r.activate passiveMode settings resize env).settings, true))) ∨
      ∃ options, r.encodingOptions = some options ∧ r.streamRunning = false ∧
        enforcePeerDesktopSize (some options) settings resize =
            ((r.activate passiveMode settings resize env).settings, true) ∧
        (((r.prepareStream options env).2.isOk = false ∧
            (r.activate passiveMode settings resize env).runtime =
              (r.prepareStream options env).1 ∧
            (r.activate passiveMode settings resize env).result = false) ∨
          ((r.prepareStream options env).2.isOk = true ∧
            (r.activate passiveMode settings resize env).runtime =
              (r.prepareStream options env).1.requestKeyframe)) := by
  unfold activate
  cases passiveMode with
  | true => exact .inl ⟨rfl, fun _ hno => nomatch hno⟩
  | false =>
    rw [if_neg (by decide)]
    cases henforce : enforcePeerDesktopSize r.encodingOptions settings resize with
    | mk settings' allowed =>
      cases allowed with
      | false => exact .inl ⟨rfl, fun hno => nomatch hno⟩
      | true =>
        cases hoptions : r.encodingOptions with
        | none => exact .inl ⟨rfl, fun hno => nomatch hno⟩
        | some options =>
          dsimp only
          cases hrunning : r.streamRunning with
          | true =>
            rw [if_pos rfl]
            exact .inl ⟨rfl, fun _ _ => ⟨rfl, rfl⟩⟩
          | false =>
            rw [if_neg (by decide)]
            rw [hoptions] at henforce
            cases hprepare : r.prepareStream options env with
            | mk prepared answer =>
              cases answer with
              | error error =>
                refine .inr ⟨options, rfl, rfl, henforce, .inl ?_⟩
                rw [hprepare]
                exact ⟨rfl, rfl, rfl⟩
              | ok u =>
                refine .inr ⟨options, rfl, rfl, henforce, .inr ?_⟩
                rw [hprepare]
                exact ⟨rfl, rfl⟩

theorem Coherent.activate (h : r.Coherent) (passiveMode : Bool) (settings : DesktopSettings)
    (resize : ResizeEnv) (env : StreamEnv) :
    (r.activate passiveMode settings resize env).runtime.Coherent := by
  obtain ⟨hsame, _⟩ | ⟨options, _, hrunning, _, hcase⟩ :=
    activate_cases r passiveMode settings resize env
  · rw [hsame]
    exact h
  · obtain ⟨hkept, _, ⟨hok, hup, hstream⟩ | ⟨hfailed, hstopped, hdown⟩⟩ :=
      prepareStream_spec h.ledgered (h.down hrunning) hrunning options env
    · have hprepared : (r.prepareStream options env).1.Coherent :=
        ⟨hkept, fun _ => ⟨_, _, hstream⟩, fun hno => absurd hup (by simp [hno])⟩
      obtain ⟨hno, _⟩ | ⟨_, hruntime⟩ := hcase
      · simp [hok] at hno
      · rw [hruntime]
        exact (requestKeyframe_same _).coherent hprepared
    · obtain ⟨_, hruntime, _⟩ | ⟨hok, _⟩ := hcase
      · rw [hruntime]
        exact ⟨hkept, fun hno => absurd hstopped (by simp [hno]), fun _ => hdown⟩
      · simp [hfailed] at hok

theorem Coherent.stop (h : r.Coherent) : r.stop.Coherent := by
  cases hrunning : r.streamRunning with
  | false =>
    have hstop : r.stop = r := by simp [DrdServerRuntime.stop, hrunning]
    rw [hstop]
    exact h
  | true =>
    obtain ⟨width, height, hup⟩ := h.up hrunning
    obtain ⟨hkept, hstopped, hdown⟩ := stop_spec h.ledgered hup hrunning
    exact ⟨hkept, fun hno => absurd hstopped (by simp [hno]), fun _ => hdown⟩

theorem coherent_init : ({} : DrdServerRuntime).Coherent where
  ledgered := by
    refine ResourceCall.heldAfter_nil.trans (congrArg some ?_)
    funext resource
    cases resource <;> rfl
  up := by simp
  down := by
    intro _
    refine ⟨rfl, ⟨rfl, rfl, rfl⟩, rfl, rfl, ?_⟩
    intro resource
    cases resource <;> rfl

theorem Coherent.step (h : r.Coherent) {e : StreamEvent}
    (he : streamMachine.step r e = some r') : r'.Coherent := by
  cases e with
  | activate passiveMode settings resize env =>
    rw [← Option.some.inj he]
    exact h.activate passiveMode settings resize env
  | stop =>
    rw [← Option.some.inj he]
    exact h.stop
  | setTransport transport =>
    rw [← Option.some.inj he]
    exact (setTransport_same r transport).coherent h
  | setEncodingOptions options =>
    rw [← Option.some.inj he]
    exact (setEncodingOptions_same r options).coherent h
  | requestKeyframe =>
    rw [← Option.some.inj he]
    exact (requestKeyframe_same r).coherent h

theorem coherent_inductive : streamMachine.Inductive (fun _ _ => True) Coherent where
  init _ hr := hr ▸ coherent_init
  step _ _ _ h _ he := h.step he

/-- Whoever sets the options finds no stream running. The listener keeps to it: only the system
mode sets them while it serves clients, and its sessions are passive. -/
def OptionsKept (r : DrdServerRuntime) : StreamEvent → Prop
  | .setEncodingOptions _ => r.streamRunning = false
  | .activate .. | .stop | .setTransport _ | .requestKeyframe => True

instance (r : DrdServerRuntime) : DecidablePred r.OptionsKept
  | .setEncodingOptions _ => inferInstanceAs (Decidable (r.streamRunning = false))
  | .activate .. | .stop | .setTransport _ | .requestKeyframe => instDecidableTrue

/-- The stream has the size of the options. -/
structure OfOptions (r : DrdServerRuntime) : Prop where
  coherent : r.Coherent
  size : r.streamRunning = true → ∃ options, r.encodingOptions = some options ∧
    r.Streaming options.width options.height

theorem prepareStream_size (h : r.Coherent) (hrunning : r.streamRunning = false)
    (options : StreamOptions) (env : StreamEnv)
    (hup : (r.prepareStream options env).1.streamRunning = true) :
    (r.prepareStream options env).1.encodingOptions = some options ∧
      (r.prepareStream options env).1.Streaming options.width options.height := by
  obtain ⟨_, hoptions, ⟨_, _, hstream⟩ | ⟨_, hstopped, _⟩⟩ :=
    prepareStream_spec h.ledgered (h.down hrunning) hrunning options env
  · exact ⟨hoptions, hstream⟩
  · simp [hup] at hstopped

theorem OfOptions.step (h : r.OfOptions) {e : StreamEvent} (hc : r.OptionsKept e)
    (he : streamMachine.step r e = some r') : r'.OfOptions := by
  refine ⟨h.coherent.step he, ?_⟩
  intro hup
  cases e with
  | activate passiveMode settings resize env =>
    rw [← Option.some.inj he] at hup ⊢
    obtain ⟨hsame, _⟩ | ⟨options, _, hrunning, _, ⟨_, hruntime, _⟩ | ⟨_, hruntime⟩⟩ :=
      activate_cases r passiveMode settings resize env
    · rw [hsame] at hup ⊢
      exact h.size hup
    · rw [hruntime] at hup ⊢
      exact ⟨options, prepareStream_size h.coherent hrunning options env hup⟩
    · rw [hruntime] at hup ⊢
      obtain ⟨hoptions, hstream⟩ := prepareStream_size h.coherent hrunning options env hup
      exact ⟨options, hoptions, (requestKeyframe_same _).streaming hstream⟩
  | stop =>
    rw [← Option.some.inj he] at hup
    cases hrunning : r.streamRunning with
    | false => simp [stop, hrunning] at hup
    | true => simp [stop, hrunning] at hup
  | setTransport transport =>
    rw [← Option.some.inj he] at hup ⊢
    have hsame := setTransport_same r transport
    obtain ⟨options, hoptions, hstream⟩ := h.size (hsame.running.symm.trans hup)
    refine ⟨options, ?_, hsame.streaming hstream⟩
    rw [← hoptions, setTransport]
    split_ifs <;> rfl
  | setEncodingOptions options =>
    rw [← Option.some.inj he] at hup
    have hno : r.streamRunning = false := hc
    have hyes : r.streamRunning = true := hup
    simp [hno] at hyes
  | requestKeyframe =>
    rw [← Option.some.inj he] at hup ⊢
    obtain ⟨options, hoptions, hstream⟩ := h.size hup
    exact ⟨options, hoptions, (requestKeyframe_same r).streaming hstream⟩

end DrdServerRuntime

namespace DrdServerRuntime

/-- What the sessions' model makes of an activation: its calls, one after the other, do to the
shared part what the activation does. -/
theorem activate_shared (r : DrdServerRuntime) (s : Session) (settings : DesktopSettings)
    (resize : ResizeEnv) (env : StreamEnv) :
    (r.activate s.passiveMode settings resize env).runtime.shared =
      (s.activate r.shared (enforcePeerDesktopSize r.encodingOptions settings resize).2
        r.encodingOptions.isSome
        (r.encodingOptions.any fun options => (r.prepareStream options env).2.isOk)).calls.foldl
          ServerRuntime.apply r.shared := by
  have hshared (options : StreamOptions) (hrunning : r.streamRunning = false) :
      (r.prepareStream options env).1.shared =
        r.shared.apply (.prepareStream (r.prepareStream options env).2.isOk) := by
    unfold prepareStream startInput
    rw [if_neg (by simp [hrunning])]
    dsimp only
    rcases r.encoder.prepare options.toEncodingOptions with ⟨encoder, error | u⟩
    · simp [shared, hrunning, ServerRuntime.apply, Except.isOk, Except.toBool]
    · rcases r.input.start env.inputServer options.size with ⟨input, message | u⟩
      · simp [shared, hrunning, ServerRuntime.apply, Except.isOk, Except.toBool]
      · rcases r.capture.start env.fails env.displaySize options.size with ⟨capture, _ | call⟩ <;>
          simp [shared, hrunning, ServerRuntime.apply, Except.isOk, Except.toBool]
  unfold activate Session.activate
  cases hpassive : s.passiveMode with
  | true => rfl
  | false =>
    rw [if_neg (by decide), if_neg (by decide)]
    rcases henforce : enforcePeerDesktopSize r.encodingOptions settings resize with
      ⟨settings', _ | _⟩
    · rfl
    · cases hoptions : r.encodingOptions with
      | none => rfl
      | some options =>
        cases hrunning : r.streamRunning with
        | true => simp [shared, hrunning]
        | false =>
          have hcall := hshared options hrunning
          rcases hprepare : r.prepareStream options env with ⟨prepared, error | u⟩
          · rw [hprepare] at hcall
            simpa [shared, hrunning, hprepare, Except.isOk, Except.toBool] using hcall
          · rw [hprepare] at hcall
            simpa [shared, hrunning, hprepare, Except.isOk, Except.toBool, requestKeyframe,
              ServerRuntime.apply] using hcall

end DrdServerRuntime

end RemoteDesktop.DRD
