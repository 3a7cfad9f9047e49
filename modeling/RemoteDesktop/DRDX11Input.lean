import RemoteDesktop.AxisScale
import RemoteDesktop.EventMachine

/-! `drd_x11_input.c`: the pointer of the client on the desktop. X11 answers through an `XServer`;
a double is the rational number that it stands for. -/
namespace RemoteDesktop.DRD

open AxisScale

/-- What `XOpenDisplay` has opened. -/
structure XServer where
  hasXTest : Bool := true
  displayWidth : Int32
  displayHeight : Int32

/-- The fields of `DrdX11Input` that the pointer needs, with the values of
`drd_x11_input_init`. -/
structure DrdX11Input where
  /-- not NULL -/
  display : Bool := false
  desktopWidth : UInt32 := 0
  desktopHeight : UInt32 := 0
  streamWidth : UInt32 := 0
  streamHeight : UInt32 := 0
  running : Bool := false
  streamToDesktopScaleX : ℚ := 1
  streamToDesktopScaleY : ℚ := 1

/-- The calls of XTest. -/
inductive XTestEvent
  | motion (x y : UInt16)
  | button (button : ℕ) (press : Bool)
  deriving DecidableEq, Repr

def ptrFlagsHwheel : UInt16 := 0x0400
def ptrFlagsWheel : UInt16 := 0x0200
def ptrFlagsWheelNegative : UInt16 := 0x0100
def ptrFlagsMove : UInt16 := 0x0800
def ptrFlagsDown : UInt16 := 0x8000
def ptrFlagsButton1 : UInt16 := 0x1000
def ptrFlagsButton2 : UInt16 := 0x2000
def ptrFlagsButton3 : UInt16 := 0x4000

/-- The scale of one axis. -/
def pointerScale (streamSize desktopSize : UInt32) : ℚ :=
  let stream := if streamSize > 0 then streamSize else 1
  let desktop := if desktopSize > 0 then desktopSize else 1
  if stream = desktop then 1 else desktop.toNat / stream.toNat

/-- `(guint)` of a double: its whole part, which C leaves open from 2^32 on. -/
def guintOfDouble (value : ℚ) : UInt32 :=
  UInt32.ofNat ⌊value⌋₊

/-- The numbers on the way from one length to another. -/
structure PointerScaling where
  product : ℚ
  scaled : UInt32
  clamped : UInt32

/-- The numbers of one axis. No scaling is done between equal lengths. -/
structure PointerAxis where
  maxStream : UInt16
  clampedStream : UInt16
  scaling : Option PointerScaling
  target : UInt16

def pointerScaling (desktop : UInt32) (scale : ℚ) (clampedStream : UInt16) : PointerScaling :=
  let product := clampedStream.toNat * scale + 1 / 2
  let scaled := guintOfDouble product
  { product := product
    scaled := scaled
    clamped := if scaled ≥ desktop then desktop - 1 else scaled }

/-- One axis of `drd_x11_input_inject_pointer`. -/
def pointerAxis (streamSize desktopSize : UInt32) (scale : ℚ) (v : UInt16) : PointerAxis :=
  let stream := max streamSize 1
  let desktop := max desktopSize 1
  let maxStream := (if stream > 0 then stream - 1 else 0).toUInt16
  let clampedStream := if v > maxStream then maxStream else v
  let scaling :=
    if stream ≠ desktop then some (pointerScaling desktop scale clampedStream) else none
  { maxStream := maxStream
    clampedStream := clampedStream
    scaling := scaling
    target := (scaling.map fun scaling => scaling.clamped.toUInt16).getD clampedStream }

/-- The events of a button: press, release, or none where its flag is not set. -/
def pointerButton (flags mask : UInt16) (buttonId : ℕ) : List XTestEvent :=
  if flags &&& mask = 0 then []
  else [.button buttonId (flags &&& ptrFlagsDown ≠ 0)]

/-- A step of a wheel is a click on one of its two buttons. -/
def pointerWheel (flags mask : UInt16) (positive negative : ℕ) : List XTestEvent :=
  if flags &&& mask = 0 then []
  else
    let button := if flags &&& ptrFlagsWheelNegative ≠ 0 then negative else positive
    [.button button true, .button button false]

namespace DrdX11Input

variable (self : DrdX11Input)

def refreshPointerScale : DrdX11Input :=
  { self with
    streamToDesktopScaleX := pointerScale self.streamWidth self.desktopWidth
    streamToDesktopScaleY := pointerScale self.streamHeight self.desktopHeight }

/-- `drd_x11_input_open_display`, with what `XOpenDisplay` gives. -/
def openDisplay (server : Option XServer) : Except String DrdX11Input :=
  if self.display then .ok self
  else
    match server with
    | none => .error "X11 input injector failed to open default display"
    | some server =>
      if !server.hasXTest then .error "X11 XTest extension not available"
      else
        let width := server.displayWidth.toUInt32
        let height := server.displayHeight.toUInt32
        let desktopWidth := if width = 0 then 1920 else width
        let desktopHeight := if height = 0 then 1080 else height
        .ok <| refreshPointerScale
          { self with
            display := true
            desktopWidth := desktopWidth
            desktopHeight := desktopHeight
            streamWidth := if self.streamWidth = 0 then desktopWidth else self.streamWidth
            streamHeight := if self.streamHeight = 0 then desktopHeight else self.streamHeight }

/-- `drd_x11_input_start`, with its error. -/
def start (server : Option XServer) : DrdX11Input × Except String Unit :=
  if self.running then (self, .ok ())
  else
    match self.openDisplay server with
    | .ok opened => ({ opened with running := true }, .ok ())
    | .error message => (self, .error message)

def stop : DrdX11Input :=
  if !self.running then self
  else
    { self with
      display := false
      running := false
      streamToDesktopScaleX := 1
      streamToDesktopScaleY := 1 }

def updateDesktopSize (width height : UInt32) : DrdX11Input :=
  refreshPointerScale
    { self with
      streamWidth := if width > 0 then width else self.streamWidth
      streamHeight := if height > 0 then height else self.streamHeight }

def checkRunning : Except String Unit :=
  if !self.running || !self.display then .error "X11 input injector is not running"
  else .ok ()

def axisX (x : UInt16) : PointerAxis :=
  pointerAxis self.streamWidth self.desktopWidth self.streamToDesktopScaleX x

def axisY (y : UInt16) : PointerAxis :=
  pointerAxis self.streamHeight self.desktopHeight self.streamToDesktopScaleY y

/-- The calls of XTest in their order. -/
def injectPointer (flags x y : UInt16) : Except String (List XTestEvent) :=
  self.checkRunning.map fun _ =>
    (if flags &&& ptrFlagsMove ≠ 0 then [.motion (self.axisX x).target (self.axisY y).target]
      else []) ++
    pointerButton flags ptrFlagsButton1 1 ++
    -- the buttons of X11 have the middle one second
    pointerButton flags ptrFlagsButton3 2 ++
    pointerButton flags ptrFlagsButton2 3 ++
    pointerWheel flags ptrFlagsWheel 4 5 ++
    pointerWheel flags ptrFlagsHwheel 6 7

end DrdX11Input

/-! One axis. -/

/-- No conversion on the way to the target loses anything: what is cut off is a fraction. -/
structure PointerAxis.Exact (axis : PointerAxis) (stream : UInt32) : Prop where
  maxStream : axis.maxStream.toNat = stream.toNat - 1
  scaled : ∀ scaling ∈ axis.scaling, 0 ≤ scaling.product ∧ scaling.product < 2 ^ 32 ∧
    scaling.scaled.toNat = ⌊scaling.product⌋₊
  target : ∀ scaling ∈ axis.scaling, axis.target.toNat = scaling.clamped.toNat

section Axis

/-- The lengths of a screen that the mapping is made for. -/
def AxisLength (n : UInt32) : Prop :=
  1 ≤ n.toNat ∧ n.toNat ≤ 65536

instance (n : UInt32) : Decidable (AxisLength n) :=
  inferInstanceAs (Decidable (_ ∧ _))

variable {stream desktop : UInt32} {v : UInt16}

theorem AxisLength.max_one (h : AxisLength stream) : max stream 1 = stream := by
  show (if stream ≤ 1 then 1 else stream) = stream
  split_ifs with hle
  · exact UInt32.le_antisymm (UInt32.le_iff_toNat_le.mpr h.1) hle
  · rfl

theorem AxisLength.toNat_pred (h : AxisLength stream) : (stream - 1).toNat = stream.toNat - 1 := by
  have hle : (1 : UInt32) ≤ stream := UInt32.le_iff_toNat_le.mpr h.1
  rw [UInt32.toNat_sub_of_le _ _ hle]
  rfl

theorem pointerScale_eq (hs : AxisLength stream) (hd : AxisLength desktop)
    (hne : stream ≠ desktop) :
    pointerScale stream desktop = desktop.toNat / stream.toNat := by
  have hpos : ∀ n, AxisLength n → n > 0 := fun n hn => UInt32.lt_iff_toNat_lt.mpr hn.1
  rw [pointerScale, if_pos (hpos stream hs), if_pos (hpos desktop hd)]
  exact if_neg hne

theorem maxStream_toNat (hs : AxisLength stream) (desktop : UInt32) (scale : ℚ) (v : UInt16) :
    (pointerAxis stream desktop scale v).maxStream.toNat = stream.toNat - 1 := by
  have hpos : stream > 0 := UInt32.lt_iff_toNat_lt.mpr hs.1
  have hmax := hs.2
  simp only [pointerAxis, hs.max_one, if_pos hpos]
  -- the last place of 65536 is the last number of 16 bits
  rw [UInt32.toNat_toUInt16, hs.toNat_pred, Nat.mod_eq_of_lt (by omega)]

theorem clampedStream_toNat (hs : AxisLength stream) (desktop : UInt32) (scale : ℚ) (v : UInt16) :
    (pointerAxis stream desktop scale v).clampedStream.toNat = min v.toNat (stream.toNat - 1) := by
  have hmax := maxStream_toNat hs desktop scale v
  have hclamped : (pointerAxis stream desktop scale v).clampedStream =
      if v > (pointerAxis stream desktop scale v).maxStream
        then (pointerAxis stream desktop scale v).maxStream else v := rfl
  rw [hclamped]
  split_ifs with hbeyond
  · have hlt := UInt16.lt_iff_toNat_lt.mp hbeyond
    omega
  · have hle := UInt16.le_iff_toNat_le.mp (UInt16.not_lt.mp hbeyond)
    omega

/-- Between unequal lengths the product is the one of `AxisScale`. -/
theorem pointerScaling_spec (hs : AxisLength stream) (hd : AxisLength desktop)
    {clampedStream : UInt16} (hv : clampedStream.toNat = min v.toNat (stream.toNat - 1)) :
    let scaling := pointerScaling desktop (desktop.toNat / stream.toNat) clampedStream
    scaling.product = scaled ℚ stream.toNat desktop.toNat v.toNat ∧
      scaling.scaled.toNat = ⌊scaling.product⌋₊ ∧
      scaling.clamped.toNat = rescale ℚ stream.toNat desktop.toNat v.toNat := by
  intro scaling
  have hproduct : scaling.product = scaled ℚ stream.toNat desktop.toNat v.toNat := by
    rw [scaled, ← hv]
    rfl
  have hfloor := floor_scaled_le (K := ℚ) (d := desktop.toNat) (v := v.toNat) hs.1
  have hbound := hd.2
  have hscaled : scaling.scaled.toNat = ⌊scaling.product⌋₊ := by
    show (UInt32.ofNat ⌊scaling.product⌋₊).toNat = ⌊scaling.product⌋₊
    rw [hproduct, UInt32.toNat_ofNat', Nat.mod_eq_of_lt (by omega)]
  refine ⟨hproduct, hscaled, ?_⟩
  have hclamped : scaling.clamped = if scaling.scaled ≥ desktop then desktop - 1 else scaling.scaled :=
    rfl
  rw [hclamped, rescale, ← hproduct, ← hscaled]
  split_ifs with hbeyond
  · have hle := UInt32.le_iff_toNat_le.mp hbeyond
    rw [hd.toNat_pred]
    omega
  · have hlt := UInt32.lt_iff_toNat_lt.mp (UInt32.not_le.mp hbeyond)
    omega

/-- Between equal lengths the target is the clamped place, where the scaling would put it too. -/
theorem pointerAxis_same (hs : AxisLength stream) :
    let axis := pointerAxis stream stream (pointerScale stream stream) v
    axis.target.toNat = rescale ℚ stream.toNat stream.toNat v.toNat ∧ axis.Exact stream := by
  intro axis
  have hnone : axis.scaling = none := by simp [axis, pointerAxis]
  have htarget : axis.target = axis.clampedStream := by
    show (axis.scaling.map fun scaling => scaling.clamped.toUInt16).getD axis.clampedStream = _
    rw [hnone]
    rfl
  have hv := clampedStream_toNat hs stream (pointerScale stream stream) v
  have hmax := maxStream_toNat hs stream (pointerScale stream stream) v
  refine ⟨?_, hmax, ?_, ?_⟩
  · rw [htarget, hv, rescale_same hs.1]
  · simp [hnone]
  · simp [hnone]

theorem scaling_of_ne (hs : AxisLength stream) (hd : AxisLength desktop) (hne : stream ≠ desktop) :
    let axis := pointerAxis stream desktop (pointerScale stream desktop) v
    axis.scaling =
      some (pointerScaling desktop (desktop.toNat / stream.toNat) axis.clampedStream) := by
  intro axis
  have hmax : max stream 1 ≠ max desktop 1 := by rwa [hs.max_one, hd.max_one]
  have hscaling : axis.scaling = if max stream 1 ≠ max desktop 1
      then some (pointerScaling (max desktop 1) (pointerScale stream desktop) axis.clampedStream)
      else none := rfl
  rw [hscaling, if_pos hmax, hd.max_one, pointerScale_eq hs hd hne]

theorem pointerAxis_spec (hs : AxisLength stream) (hd : AxisLength desktop) :
    let axis := pointerAxis stream desktop (pointerScale stream desktop) v
    axis.target.toNat = rescale ℚ stream.toNat desktop.toNat v.toNat ∧ axis.Exact stream := by
  intro axis
  by_cases heq : stream = desktop
  · subst heq
    exact pointerAxis_same hs
  · have hv := clampedStream_toNat hs desktop (pointerScale stream desktop) v
    have hmax := maxStream_toNat hs desktop (pointerScale stream desktop) v
    have hsome : axis.scaling =
        some (pointerScaling desktop (desktop.toNat / stream.toNat) axis.clampedStream) :=
      scaling_of_ne hs hd heq
    obtain ⟨hproduct, hscaled, hclamped⟩ := pointerScaling_spec (v := v) hs hd hv
    have hbound := hd.2
    have hlt := rescale_lt (K := ℚ) (s := stream.toNat) (v := v.toNat) hd.1
    have htarget : axis.target.toNat = rescale ℚ stream.toNat desktop.toNat v.toNat := by
      show ((axis.scaling.map fun scaling => scaling.clamped.toUInt16).getD
        axis.clampedStream).toNat = _
      rw [hsome, Option.map_some, Option.getD_some, UInt32.toNat_toUInt16]
      rw [hclamped, Nat.mod_eq_of_lt (by omega)]
    refine ⟨htarget, hmax, ?_, ?_⟩
    · intro scaling hscaling
      obtain rfl : _ = scaling := Option.some.inj (hsome.symm.trans hscaling)
      refine ⟨?_, ?_, hscaled⟩
      · rw [hproduct]
        exact scaled_nonneg
      · rw [hproduct]
        have hsize : (desktop.toNat : ℚ) ≤ 65536 := by exact_mod_cast hbound
        calc scaled ℚ stream.toNat desktop.toNat v.toNat < desktop.toNat + 1 := scaled_lt hs.1
          _ ≤ 65536 + 1 := by gcongr
          _ < 2 ^ 32 := by norm_num
    · intro scaling hscaling
      obtain rfl : _ = scaling := Option.some.inj (hsome.symm.trans hscaling)
      rw [htarget, hclamped]

end Axis

/-! Whole runs. -/

inductive InputEvent
  | start (server : Option XServer)
  | stop
  | updateDesktopSize (width height : UInt32)
  | injectPointer (flags x y : UInt16)

/-- The calls on one input backend, in any order. The keyboard does not touch the pointer. -/
def inputMachine : EventMachine DrdX11Input InputEvent where
  init s := s = {}
  step s
    | .start server => some (s.start server).1
    | .stop => some s.stop
    | .updateDesktopSize width height => some (s.updateDesktopSize width height)
    | .injectPointer _ _ _ => some s

namespace DrdX11Input

/-- Wherever pointer events are sent, the scales are those of the current sizes. -/
structure Fresh (s : DrdX11Input) : Prop where
  display : s.display = s.running
  scales : s.running = true →
    s.streamToDesktopScaleX = pointerScale s.streamWidth s.desktopWidth ∧
      s.streamToDesktopScaleY = pointerScale s.streamHeight s.desktopHeight

variable {self : DrdX11Input}

theorem openDisplay_spec {server : Option XServer} {opened : DrdX11Input}
    (h : self.openDisplay server = .ok opened) (hclosed : self.display = false) :
    opened.display = true ∧
      opened.streamToDesktopScaleX = pointerScale opened.streamWidth opened.desktopWidth ∧
      opened.streamToDesktopScaleY = pointerScale opened.streamHeight opened.desktopHeight := by
  cases server with
  | none =>
    rw [openDisplay.eq_def, if_neg (by simp [hclosed])] at h
    cases h
  | some server =>
    rw [openDisplay.eq_def, if_neg (by simp [hclosed])] at h
    cases hxtest : server.hasXTest with
    | false =>
      simp only [hxtest, Bool.not_false, if_true] at h
      cases h
    | true =>
      simp only [hxtest, Bool.not_true, Bool.false_eq_true, if_false] at h
      cases h
      exact ⟨rfl, rfl, rfl⟩

theorem Fresh.start (h : self.Fresh) (server : Option XServer) : (self.start server).1.Fresh := by
  rw [DrdX11Input.start]
  split_ifs with hrunning
  · exact h
  · cases hopen : self.openDisplay server with
    | error message => exact h
    | ok opened =>
      have hclosed : self.display = false := by simpa [h.display] using hrunning
      obtain ⟨hdisplay, hscales⟩ := openDisplay_spec hopen hclosed
      exact ⟨hdisplay, fun _ => hscales⟩

/-- The scales are wrong after a stop, but nothing is sent then. -/
theorem Fresh.stop (h : self.Fresh) : self.stop.Fresh := by
  rw [DrdX11Input.stop]
  split_ifs
  · exact h
  · exact ⟨rfl, fun hrunning => nomatch hrunning⟩

theorem Fresh.updateDesktopSize (h : self.Fresh) (width height : UInt32) :
    (self.updateDesktopSize width height).Fresh :=
  ⟨h.display, fun _ => ⟨rfl, rfl⟩⟩

theorem fresh_inductive : inputMachine.Inductive (fun _ _ => True) Fresh where
  init s hs := by
    rw [hs]
    exact ⟨rfl, fun hrunning => nomatch hrunning⟩
  step s e s' hs _ he := by
    cases e with
    | start server =>
      cases he
      exact hs.start server
    | stop =>
      cases he
      exact hs.stop
    | updateDesktopSize width height =>
      cases he
      exact hs.updateDesktopSize width height
    | injectPointer flags x y =>
      cases he
      exact hs

/-- The sizes of the stream and of the desktop. -/
structure HasSizes (s : DrdX11Input)
    (streamWidth streamHeight desktopWidth desktopHeight : UInt32) : Prop where
  streamWidth : s.streamWidth = streamWidth
  streamHeight : s.streamHeight = streamHeight
  desktopWidth : s.desktopWidth = desktopWidth
  desktopHeight : s.desktopHeight = desktopHeight

/-- An event for `(x, y)` moves the pointer of the desktop to `(targetX, targetY)`. -/
def MovesTo (self : DrdX11Input) (x y targetX targetY : UInt16) : Prop :=
  ∃ flags events, self.injectPointer flags x y = .ok events ∧ .motion targetX targetY ∈ events

/-- What the mapping of the pointer has to be. -/
structure PointerSound (s : DrdX11Input) : Prop where
  moves : s.running = true → ∀ x y, ∃ targetX targetY, s.MovesTo x y targetX targetY
  inside : ∀ x y targetX targetY, s.MovesTo x y targetX targetY →
    targetX.toNat ≤ s.desktopWidth.toNat - 1 ∧ targetY.toNat ≤ s.desktopHeight.toNat - 1
  monotone : ∀ x y targetX targetY x' y' targetX' targetY', s.MovesTo x y targetX targetY →
    s.MovesTo x' y' targetX' targetY' →
    (x ≤ x' → targetX ≤ targetX') ∧ (y ≤ y' → targetY ≤ targetY')
  identity : ∀ x y targetX targetY, s.MovesTo x y targetX targetY →
    (s.streamWidth = s.desktopWidth → x.toNat < s.streamWidth.toNat → targetX = x) ∧
      (s.streamHeight = s.desktopHeight → y.toNat < s.streamHeight.toNat → targetY = y)
  exact : ∀ flags x y events, s.injectPointer flags x y = .ok events →
    (s.axisX x).Exact s.streamWidth ∧ (s.axisY y).Exact s.streamHeight


theorem motion_notMem_pointerButton (flags mask : UInt16) (buttonId : ℕ) (x y : UInt16) :
    .motion x y ∉ pointerButton flags mask buttonId := by
  rw [pointerButton]
  split_ifs <;> simp

theorem motion_notMem_pointerWheel (flags mask : UInt16) (positive negative : ℕ) (x y : UInt16) :
    .motion x y ∉ pointerWheel flags mask positive negative := by
  rw [pointerWheel]
  split_ifs <;> simp

theorem injectPointer_running {flags x y : UInt16} {events : List XTestEvent}
    (h : self.injectPointer flags x y = .ok events) : self.running = true := by
  by_contra hrunning
  have hcheck : self.checkRunning = .error "X11 input injector is not running" := by
    rw [checkRunning, if_pos (by simp [hrunning])]
  rw [injectPointer, hcheck] at h
  cases h

/-- The target of a move is that of the two axes. -/
theorem MovesTo.target {x y targetX targetY : UInt16} (h : self.MovesTo x y targetX targetY) :
    self.running = true ∧ targetX = (self.axisX x).target ∧ targetY = (self.axisY y).target := by
  obtain ⟨flags, events, hinject, hmem⟩ := h
  refine ⟨injectPointer_running hinject, ?_⟩
  rw [injectPointer] at hinject
  cases hcheck : self.checkRunning with
  | error message =>
    rw [hcheck] at hinject
    cases hinject
  | ok checked =>
    rw [hcheck] at hinject
    cases hinject
    -- buttons and wheels do not move the pointer
    simp only [List.mem_append, motion_notMem_pointerButton, motion_notMem_pointerWheel,
      or_false] at hmem
    split_ifs at hmem
    · obtain ⟨hx, hy⟩ := XTestEvent.motion.inj (List.mem_singleton.mp hmem)
      exact ⟨hx, hy⟩
    · cases hmem

/-- What a state that runs knows of its axes. -/
theorem Fresh.axes (h : self.Fresh) (hrunning : self.running = true)
    {streamWidth streamHeight desktopWidth desktopHeight : UInt32}
    (hsizes : self.HasSizes streamWidth streamHeight desktopWidth desktopHeight) (x y : UInt16) :
    self.axisX x = pointerAxis streamWidth desktopWidth (pointerScale streamWidth desktopWidth) x ∧
      self.axisY y =
        pointerAxis streamHeight desktopHeight (pointerScale streamHeight desktopHeight) y := by
  obtain ⟨hx, hy⟩ := h.scales hrunning
  rw [axisX, axisY, hx, hy, hsizes.streamWidth, hsizes.streamHeight, hsizes.desktopWidth,
    hsizes.desktopHeight]
  exact ⟨rfl, rfl⟩

theorem Fresh.moves (h : self.Fresh) (hrunning : self.running = true) (x y : UInt16) :
    self.MovesTo x y (self.axisX x).target (self.axisY y).target := by
  have hdisplay : self.display = true := h.display.trans hrunning
  have hcheck : self.checkRunning = .ok () := by
    rw [checkRunning, if_neg (by simp [hrunning, hdisplay])]
  refine ⟨ptrFlagsMove, _, by rw [injectPointer, hcheck]; rfl, ?_⟩
  have hflag : ¬ ptrFlagsMove = 0 := by decide
  simp [hflag]

theorem Fresh.pointerSound (h : self.Fresh)
    {streamWidth streamHeight desktopWidth desktopHeight : UInt32}
    (hsizes : self.HasSizes streamWidth streamHeight desktopWidth desktopHeight)
    (hsw : AxisLength streamWidth) (hsh : AxisLength streamHeight) (hdw : AxisLength desktopWidth)
    (hdh : AxisLength desktopHeight) : self.PointerSound := by
  have htarget : ∀ x y targetX targetY, self.MovesTo x y targetX targetY →
      targetX.toNat = rescale ℚ streamWidth.toNat desktopWidth.toNat x.toNat ∧
        targetY.toNat = rescale ℚ streamHeight.toNat desktopHeight.toNat y.toNat := by
    intro x y targetX targetY hmoves
    obtain ⟨hrunning, rfl, rfl⟩ := hmoves.target
    obtain ⟨hx, hy⟩ := h.axes hrunning hsizes x y
    rw [hx, hy]
    exact ⟨(pointerAxis_spec hsw hdw).1, (pointerAxis_spec hsh hdh).1⟩
  refine ⟨?_, ?_, ?_, ?_, ?_⟩
  · intro hrunning x y
    exact ⟨_, _, h.moves hrunning x y⟩
  · intro x y targetX targetY hmoves
    obtain ⟨hx, hy⟩ := htarget x y targetX targetY hmoves
    rw [hsizes.desktopWidth, hsizes.desktopHeight, hx, hy]
    exact ⟨min_le_right _ _, min_le_right _ _⟩
  · intro x y targetX targetY x' y' targetX' targetY' hmoves hmoves'
    obtain ⟨hx, hy⟩ := htarget x y targetX targetY hmoves
    obtain ⟨hx', hy'⟩ := htarget x' y' targetX' targetY' hmoves'
    constructor
    · intro hle
      rw [UInt16.le_iff_toNat_le, hx, hx']
      exact rescale_mono (UInt16.le_iff_toNat_le.mp hle)
    · intro hle
      rw [UInt16.le_iff_toNat_le, hy, hy']
      exact rescale_mono (UInt16.le_iff_toNat_le.mp hle)
  · intro x y targetX targetY hmoves
    obtain ⟨hx, hy⟩ := htarget x y targetX targetY hmoves
    rw [hsizes.streamWidth, hsizes.streamHeight, hsizes.desktopWidth, hsizes.desktopHeight]
    constructor
    · intro hsame hinside
      apply UInt16.toNat_inj.mp
      rw [hx, ← hsame, rescale_same hsw.1]
      omega
    · intro hsame hinside
      apply UInt16.toNat_inj.mp
      rw [hy, ← hsame, rescale_same hsh.1]
      omega
  · intro flags x y events hinject
    obtain ⟨hx, hy⟩ := h.axes (injectPointer_running hinject) hsizes x y
    rw [hx, hy, hsizes.streamWidth, hsizes.streamHeight]
    exact ⟨(pointerAxis_spec hsw hdw).2, (pointerAxis_spec hsh hdh).2⟩

/-- A run to any sizes: the screen has the one, and the client asks for the other. -/
theorem reachable_sizes {streamWidth streamHeight desktopWidth desktopHeight : UInt32}
    (hsw : AxisLength streamWidth) (hsh : AxisLength streamHeight) (hdw : AxisLength desktopWidth)
    (hdh : AxisLength desktopHeight) : ∃ s, inputMachine.Reachable s ∧ s.running = true ∧
      s.HasSizes streamWidth streamHeight desktopWidth desktopHeight := by
  let server : XServer :=
    { displayWidth := desktopWidth.toInt32, displayHeight := desktopHeight.toInt32 }
  have hnonzero : ∀ n, AxisLength n → n ≠ 0 := by
    rintro n hn rfl
    exact absurd hn.1 (by decide)
  have hpos : ∀ n, AxisLength n → n > 0 := fun n hn => UInt32.lt_iff_toNat_lt.mpr hn.1
  have hstart := EventMachine.ReachableIf.step (M := inputMachine) (C := fun _ _ => True)
    (.init rfl) trivial (e := .start (some server)) rfl
  refine ⟨_, hstart.step trivial (e := .updateDesktopSize streamWidth streamHeight) rfl, rfl, ?_⟩
  refine ⟨if_pos (hpos _ hsw), if_pos (hpos _ hsh), ?_, ?_⟩
  · show (if desktopWidth.toInt32.toUInt32 = 0 then 1920 else desktopWidth.toInt32.toUInt32) = _
    rw [UInt32.toUInt32_toInt32, if_neg (hnonzero _ hdw)]
  · show (if desktopHeight.toInt32.toUInt32 = 0 then 1080 else desktopHeight.toInt32.toUInt32) = _
    rw [UInt32.toUInt32_toInt32, if_neg (hnonzero _ hdh)]

/-- All sizes up to 65536 occur, and the mapping of the pointer is sound in every run to them. -/
theorem pointer_mapping_sound {streamWidth streamHeight desktopWidth desktopHeight : UInt32}
    (hsw : AxisLength streamWidth) (hsh : AxisLength streamHeight) (hdw : AxisLength desktopWidth)
    (hdh : AxisLength desktopHeight) :
    (∃ s, inputMachine.Reachable s ∧ s.running = true ∧
      s.HasSizes streamWidth streamHeight desktopWidth desktopHeight) ∧
    ∀ s, inputMachine.Reachable s →
      s.HasSizes streamWidth streamHeight desktopWidth desktopHeight → s.PointerSound := by
  refine ⟨reachable_sizes hsw hsh hdw hdh, ?_⟩
  intro s hreachable hsizes
  have hfresh : s.Fresh := fresh_inductive.holds hreachable
  exact hfresh.pointerSound hsizes hsw hsh hdw hdh

/-- A screen of 1920x1080 shown at 1280x720. -/
def smallerStream : List InputEvent :=
  [.start (some { displayWidth := 1920, displayHeight := 1080 }), .updateDesktopSize 1280 720]

theorem pointer_mapping_sound_smaller :
    ((inputMachine.run {} smallerStream).get rfl).PointerSound := by
  have hsw : AxisLength 1280 := by decide
  have hsh : AxisLength 720 := by decide
  have hdw : AxisLength 1920 := by decide
  have hdh : AxisLength 1080 := by decide
  exact (pointer_mapping_sound hsw hsh hdw hdh).2 _
    (EventMachine.reachable_run_get rfl smallerStream rfl) ⟨rfl, rfl, rfl, rfl⟩

end DrdX11Input
end RemoteDesktop.DRD
