import RemoteDesktop.DRDX11Input
import RemoteDesktop.PressForwarding

/-! `drd_x11_input.c`: the keyboard, its cache of keycodes, and what the client leaves down in
the X server. -/
namespace RemoteDesktop.DRD

/-- `DRD_X11_KEYCODE_CACHE_INVALID`. -/
def keycodeCacheInvalid : UInt16 := 0xFFFF

def kbdFlagsExtended : UInt16 := 0x0100
def kbdFlagsExtended1 : UInt16 := 0x0200
def kbdFlagsRelease : UInt16 := 0x8000

/-- The tables of one connection: that of FreeRDP, which `freerdp_keyboard_init` has set, and
the keysyms that Xlib has read. -/
structure KeyboardMap where
  fromScancode : UInt8 → Bool → UInt16
  fromKeysym : UInt32 → UInt8

/-- No connection has been opened yet. -/
def KeyboardMap.none : KeyboardMap where
  fromScancode := fun _ _ => 0
  fromKeysym := fun _ => 0

/-- The keysyms of the modifiers, and zero for every other scancode. -/
def specialKeysym (scancode : UInt8) (extended : Bool) : UInt32 :=
  if scancode = 0x38 then if extended then 0xffea else 0xffe9
  else if scancode = 0x1D then if extended then 0xffe4 else 0xffe3
  else if scancode = 0x2A then if extended then 0xffe2 else 0xffe1
  else if scancode = 0x5B then if extended then 0xffec else 0xffeb
  else 0

/-- `drd_x11_input_keysym_from_codepoint` for the sixteen bits that a client sends. -/
def keysymFromCodepoint (codepoint : UInt16) : UInt32 :=
  if codepoint = 0x0D then 0xff0d
  else if codepoint = 0x0A then 0xff0a
  else if codepoint = 0x09 then 0xff09
  else if codepoint = 0x08 then 0xff08
  else if codepoint ≤ 0xFF then codepoint.toUInt32
  else codepoint.toUInt32 ||| 0x01000000

/-- What XTest is called with. -/
inductive XInputEvent
  | key (keycode : UInt16) (press : Bool)
  | pointer (event : XTestEvent)
  deriving DecidableEq

structure DrdX11Keyboard extends DrdX11Input where
  keycodeCache : ℕ → UInt16 := fun _ => keycodeCacheInvalid
  keymap : KeyboardMap := .none

namespace DrdX11Keyboard

variable (self : DrdX11Keyboard)

def lookupSpecialKeycode (scancode : UInt8) (extended : Bool) : UInt16 :=
  if !self.display then 0
  else if specialKeysym scancode extended = 0 then 0
  else (self.keymap.fromKeysym (specialKeysym scancode extended)).toUInt16

/-- What a miss of the cache computes. -/
def lookupKeycode (scancode : UInt8) (extended : Bool) : UInt16 :=
  if scancode = 0x38 ∨ scancode = 0x1D ∨ scancode = 0x2A ∨ scancode = 0x5B then
    self.lookupSpecialKeycode scancode extended
  else
    let keycode := self.keymap.fromScancode scancode extended
    if keycode = 0 then self.lookupSpecialKeycode scancode extended else keycode

/-- The place of a key in the cache. -/
def keycodeIndex (scancode : UInt8) (extended : Bool) : ℕ :=
  scancode.toNat + if extended then 256 else 0

/-- `drd_x11_input_resolve_keycode`. A key without a keycode is cached as well. -/
def resolveKeycode (scancode : UInt8) (extended : Bool) : DrdX11Keyboard × UInt16 :=
  let cached := self.keycodeCache (keycodeIndex scancode extended)
  if cached = keycodeCacheInvalid then
    let keycode := self.lookupKeycode scancode extended
    ({ self with
        keycodeCache :=
          Function.update self.keycodeCache (keycodeIndex scancode extended) keycode }, keycode)
  else (self, cached)

/-- Every key is looked up anew. -/
def resolveAnew (scancode : UInt8) (extended : Bool) : DrdX11Keyboard × UInt16 :=
  (self, self.lookupKeycode scancode extended)

/-- A connection that is opened brings its own tables. -/
def start (server : Option XServer) (keymap : KeyboardMap) : DrdX11Keyboard :=
  let input := (self.toDrdX11Input.start server).1
  { self with
    toDrdX11Input := input
    keymap := if !self.display && input.display then keymap else self.keymap }

def stop : DrdX11Keyboard :=
  if !self.running then self
  else
    { self with
      toDrdX11Input := self.toDrdX11Input.stop
      keycodeCache := fun _ => keycodeCacheInvalid }

end DrdX11Keyboard

/-- A function that finds the keycode of a key, with what it leaves behind. -/
abbrev KeycodeResolver := DrdX11Keyboard → UInt8 → Bool → DrdX11Keyboard × UInt16

/-- `drd_x11_input_inject_keyboard`. A key without a keycode is dropped. -/
def injectKeyboard (resolve : KeycodeResolver) (self : DrdX11Keyboard) (flags : UInt16)
    (scancode : UInt8) : Except String (DrdX11Keyboard × List XInputEvent) :=
  self.checkRunning.map fun _ =>
    let extended : Bool := flags &&& (kbdFlagsExtended ||| kbdFlagsExtended1) ≠ 0
    match resolve self scancode extended with
    | (self, keycode) =>
      (self, if keycode = 0 then [] else [.key keycode (flags &&& kbdFlagsRelease = 0)])

/-- `drd_x11_input_inject_unicode`. -/
def injectUnicode (self : DrdX11Keyboard) (flags codepoint : UInt16) :
    Except String (List XInputEvent) :=
  self.checkRunning.map fun _ =>
    let keysym := keysymFromCodepoint codepoint
    if keysym = 0 then []
    else
      let keycode := self.keymap.fromKeysym keysym
      if keycode = 0 then [] else [.key keycode.toUInt16 (flags &&& kbdFlagsRelease = 0)]

/-- What a client can hold down. -/
inductive InputItem
  | key (scancode : UInt8) (extended : Bool)
  | unicode (codepoint : UInt16)
  | button1 | button2 | button3
  deriving DecidableEq

/-- What can be down in the X server. -/
inductive XItem
  | keycode (keycode : UInt16)
  | button (button : ℕ)
  deriving DecidableEq

/-- What an item is down as, in the tables of the open connection. -/
def InputItem.target (self : DrdX11Keyboard) : InputItem → Option XItem
  | .key scancode extended =>
    let keycode := self.lookupKeycode scancode extended
    if keycode = 0 then none else some (.keycode keycode)
  | .unicode codepoint =>
    let keysym := keysymFromCodepoint codepoint
    if keysym = 0 then none
    else
      let keycode := self.keymap.fromKeysym keysym
      if keycode = 0 then none else some (.keycode keycode.toUInt16)
  | .button1 => some (.button 1)
  | .button2 => some (.button 3)
  | .button3 => some (.button 2)

/-- The X server after an event. -/
def XInputEvent.apply (down : XItem → Bool) : XInputEvent → XItem → Bool
  | .key keycode press => Function.update down (.keycode keycode) press
  | .pointer (.button button press) => Function.update down (.button button) press
  | .pointer (.motion _ _) => down

/-- The backend between a client and the X server: what each of them holds down, and the calls
of XTest so far. -/
structure InputRun where
  input : DrdX11Keyboard := {}
  held : Held InputItem XItem := {}
  sent : List XInputEvent := []

inductive KeyboardEvent
  | start (server : Option XServer) (keymap : KeyboardMap)
  | stop
  | updateDesktopSize (width height : UInt32)
  | keyboard (flags : UInt16) (scancode : UInt8)
  | unicode (flags codepoint : UInt16)
  | pointer (flags x y : UInt16)

namespace InputRun

variable (s : InputRun)

/-- The calls of XTest, which the X server takes in their order. -/
def send (events : List XInputEvent) : InputRun :=
  { s with
    sent := s.sent ++ events
    held := { s.held with server := events.foldl XInputEvent.apply s.held.server } }

/-- The client presses an item or lets it go. -/
def clientHolds (item : InputItem) (press : Bool) : InputRun :=
  { s with held := { s.held with client := Function.update s.held.client item press } }

/-- The item of a button flag. -/
def clientButton (flags mask : UInt16) (item : InputItem) : InputRun :=
  if flags &&& mask = 0 then s else s.clientHolds item (flags &&& ptrFlagsDown ≠ 0)

def clientButtons (flags : UInt16) : InputRun :=
  ((s.clientButton flags ptrFlagsButton1 .button1).clientButton flags ptrFlagsButton3
    .button3).clientButton flags ptrFlagsButton2 .button2

/-- When the backend stops, its client is gone. It sends no event. -/
def stop : InputRun :=
  { s with
    input := s.input.stop
    held := { s.held with client := if s.input.running then fun _ => false else s.held.client } }

end InputRun

def inputRunStep (resolve : KeycodeResolver) (s : InputRun) : KeyboardEvent → InputRun
  | .start server keymap => { s with input := s.input.start server keymap }
  | .stop => s.stop
  | .updateDesktopSize width height =>
    { s with
      input :=
        { s.input with toDrdX11Input := s.input.toDrdX11Input.updateDesktopSize width height } }
  | .keyboard flags scancode =>
    match injectKeyboard resolve s.input flags scancode with
    | .error _ => s
    | .ok (input, events) =>
      ({ s with input := input }.clientHolds
        (.key scancode (flags &&& (kbdFlagsExtended ||| kbdFlagsExtended1) ≠ 0))
        (flags &&& kbdFlagsRelease = 0)).send events
  | .unicode flags codepoint =>
    match injectUnicode s.input flags codepoint with
    | .error _ => s
    | .ok events => (s.clientHolds (.unicode codepoint) (flags &&& kbdFlagsRelease = 0)).send events
  | .pointer flags x y =>
    match s.input.injectPointer flags x y with
    | .error _ => s
    | .ok events => (s.clientButtons flags).send (events.map .pointer)

/-- The runs of the backend. -/
def keyboardMachine : EventMachine InputRun KeyboardEvent where
  init s := s = {}
  step s e := some (inputRunStep DrdX11Keyboard.resolveKeycode s e)

/-- The same runs without a cache. -/
def uncachedKeyboard : EventMachine InputRun KeyboardEvent where
  init s := s = {}
  step s e := some (inputRunStep DrdX11Keyboard.resolveAnew s e)

namespace DrdX11Keyboard

variable {self : DrdX11Keyboard}

/-- The cache holds keycodes of the open connection only. -/
structure CacheFresh (s : DrdX11Keyboard) : Prop where
  display : s.display = s.running
  cache : ∀ scancode extended,
    s.keycodeCache (keycodeIndex scancode extended) = keycodeCacheInvalid ∨
      s.running = true ∧
        s.keycodeCache (keycodeIndex scancode extended) = s.lookupKeycode scancode extended

theorem keycodeIndex_inj {scancode scancode' : UInt8} {extended extended' : Bool}
    (h : keycodeIndex scancode extended = keycodeIndex scancode' extended') :
    scancode = scancode' ∧ extended = extended' := by
  have hlt := scancode.toNat_lt
  have hlt' := scancode'.toNat_lt
  unfold keycodeIndex at h
  cases extended with
  | true =>
    cases extended' with
    | true => exact ⟨UInt8.toNat_inj.mp (by simpa using h), rfl⟩
    | false =>
      simp only [if_true, Bool.false_eq_true, if_false] at h
      omega
  | false =>
    cases extended' with
    | true =>
      simp only [if_true, Bool.false_eq_true, if_false] at h
      omega
    | false => exact ⟨UInt8.toNat_inj.mp (by simpa using h), rfl⟩

theorem CacheFresh.resolve (h : self.CacheFresh) (scancode : UInt8) (extended : Bool) :
    (self.resolveKeycode scancode extended).2 = self.lookupKeycode scancode extended := by
  unfold resolveKeycode
  dsimp only
  split_ifs with hmiss
  · rfl
  · obtain hinvalid | ⟨_, hcached⟩ := h.cache scancode extended
    · exact absurd hinvalid hmiss
    · exact hcached

theorem CacheFresh.resolved (h : self.CacheFresh) (hrunning : self.running = true)
    (scancode : UInt8) (extended : Bool) :
    (self.resolveKeycode scancode extended).1.CacheFresh := by
  unfold resolveKeycode
  dsimp only
  split_ifs with hmiss
  · refine ⟨h.display, ?_⟩
    intro scancode' extended'
    by_cases hindex : keycodeIndex scancode' extended' = keycodeIndex scancode extended
    · right
      obtain ⟨rfl, rfl⟩ := keycodeIndex_inj hindex
      exact ⟨hrunning, Function.update_self _ _ _⟩
    · have hkept := h.cache scancode' extended'
      simp only [Function.update_of_ne hindex]
      exact hkept
  · exact h

theorem CacheFresh.start (h : self.CacheFresh) (server : Option XServer) (keymap : KeyboardMap) :
    (self.start server keymap).CacheFresh := by
  cases hrunning : self.running with
  | true =>
    have hinput : (self.toDrdX11Input.start server).1 = self.toDrdX11Input := by
      simp [DrdX11Input.start, hrunning]
    have hdisplay : self.display = true := h.display.trans hrunning
    have hstart : self.start server keymap = self := by
      simp [DrdX11Keyboard.start, hinput, hdisplay]
    rw [hstart]
    exact h
  | false =>
    have hclosed : self.display = false := h.display.trans hrunning
    have hempty (scancode : UInt8) (extended : Bool) :
        self.keycodeCache (keycodeIndex scancode extended) = keycodeCacheInvalid := by
      obtain hinvalid | ⟨hno, _⟩ := h.cache scancode extended
      · exact hinvalid
      · simp [hrunning] at hno
    refine ⟨?_, fun scancode extended => .inl (hempty scancode extended)⟩
    have hfresh : self.toDrdX11Input.Fresh :=
      ⟨h.display, fun hno => absurd hrunning (by simp [hno])⟩
    exact (hfresh.start server).display

theorem CacheFresh.stop (h : self.CacheFresh) : self.stop.CacheFresh := by
  unfold DrdX11Keyboard.stop
  split_ifs with hstopped
  · exact h
  · refine ⟨?_, fun _ _ => .inl rfl⟩
    have hrunning : self.running = true := by simpa using hstopped
    simp [DrdX11Input.stop, hrunning]

theorem CacheFresh.checkRunning (h : self.CacheFresh) (hrunning : self.running = true) :
    self.checkRunning = .ok () := by
  simp [DrdX11Input.checkRunning, h.display, hrunning]

theorem checkRunning_stopped (hrunning : self.running = false) :
    self.checkRunning = .error "X11 input injector is not running" := by
  simp [DrdX11Input.checkRunning, hrunning]

/-- The cache is all that a lookup changes. -/
theorem resolveKeycode_fst (self : DrdX11Keyboard) (scancode : UInt8) (extended : Bool) :
    ∃ cache, (self.resolveKeycode scancode extended).1 = { self with keycodeCache := cache } := by
  unfold resolveKeycode
  dsimp only
  split_ifs
  · exact ⟨_, rfl⟩
  · exact ⟨self.keycodeCache, rfl⟩

end DrdX11Keyboard

namespace InputRun

variable {s s' : InputRun}

/-- The state without what the cache holds. -/
def uncache (s : InputRun) : InputRun :=
  { s with input := { s.input with keycodeCache := fun _ => keycodeCacheInvalid } }

theorem fresh_step (h : s.input.CacheFresh) (e : KeyboardEvent) :
    (inputRunStep DrdX11Keyboard.resolveKeycode s e).input.CacheFresh := by
  cases e with
  | start server keymap => exact h.start server keymap
  | stop => exact h.stop
  | updateDesktopSize width height => exact ⟨h.display, h.cache⟩
  | keyboard flags scancode =>
    cases hrunning : s.input.running with
    | false =>
      simp only [inputRunStep, injectKeyboard, DrdX11Keyboard.checkRunning_stopped hrunning]
      exact h
    | true =>
      simp only [inputRunStep, injectKeyboard, h.checkRunning hrunning]
      exact h.resolved hrunning scancode _
  | unicode flags codepoint =>
    unfold inputRunStep
    dsimp only
    split <;> exact h
  | pointer flags x y =>
    unfold inputRunStep clientButtons clientButton
    dsimp only
    split
    · exact h
    · split_ifs <;> exact h

/-- A step with the cache is a step without it. -/
theorem uncache_step (h : s.input.CacheFresh) (e : KeyboardEvent) :
    inputRunStep DrdX11Keyboard.resolveAnew s.uncache e =
      (inputRunStep DrdX11Keyboard.resolveKeycode s e).uncache := by
  cases e with
  | start server keymap => rfl
  | stop =>
    cases hrunning : s.input.running with
    | false => simp [inputRunStep, InputRun.stop, DrdX11Keyboard.stop, uncache, hrunning]
    | true => simp [inputRunStep, InputRun.stop, DrdX11Keyboard.stop, uncache, hrunning]
  | updateDesktopSize width height => rfl
  | keyboard flags scancode =>
    have hanew : s.uncache.input.checkRunning = s.input.checkRunning := rfl
    cases hrunning : s.input.running with
    | false =>
      simp only [inputRunStep, injectKeyboard, hanew,
        DrdX11Keyboard.checkRunning_stopped hrunning]
      rfl
    | true =>
      simp only [inputRunStep, injectKeyboard, hanew, h.checkRunning hrunning, Except.map]
      obtain ⟨cache, hcache⟩ := DrdX11Keyboard.resolveKeycode_fst s.input scancode
        (flags &&& (kbdFlagsExtended ||| kbdFlagsExtended1) ≠ 0)
      rw [hcache, h.resolve]
      rfl
  | unicode flags codepoint =>
    have hsame : injectUnicode s.uncache.input flags codepoint =
        injectUnicode s.input flags codepoint := rfl
    simp only [inputRunStep, hsame]
    split <;> rfl
  | pointer flags x y =>
    have hsame : s.uncache.input.injectPointer flags x y = s.input.injectPointer flags x y := rfl
    simp only [inputRunStep, hsame]
    split
    · rfl
    · unfold clientButtons clientButton
      split_ifs <;> rfl

theorem uncache_run (h : s.input.CacheFresh) (es : List KeyboardEvent) :
    (keyboardMachine.run s es).map uncache = uncachedKeyboard.run s.uncache es := by
  induction es generalizing s with
  | nil => rfl
  | cons e es ih =>
    have hstep : uncachedKeyboard.run s.uncache (e :: es) =
        uncachedKeyboard.run (inputRunStep DrdX11Keyboard.resolveAnew s.uncache e) es := rfl
    rw [hstep, uncache_step h e]
    exact ih (fresh_step h e)

theorem fresh_init : ({} : InputRun).input.CacheFresh :=
  ⟨rfl, fun _ _ => .inl rfl⟩

/-- The cache is never seen: each call of XTest, and what is down at the X server, is as if every
key were looked up in the tables of the connection that is open. -/
theorem keycode_cache_transparent (es : List KeyboardEvent) :
    (keyboardMachine.run {} es).map (fun s => (s.sent, s.held)) =
      (uncachedKeyboard.run {} es).map fun s => (s.sent, s.held) := by
  have hrun : (keyboardMachine.run {} es).map uncache = uncachedKeyboard.run {} es :=
    uncache_run fresh_init es
  rw [← hrun, Option.map_map]
  rfl

/-! What the client leaves down. -/

/-- Nothing is down at the X server without the client holding it. -/
def Sound (s : InputRun) : Prop :=
  s.held.Sound (InputItem.target s.input)

/-- When the backend stops, nothing is down. -/
def ReleasedBeforeStop (s : InputRun) (e : KeyboardEvent) : Prop :=
  e = .stop → s.input.running = true → ∀ k, s.held.server k = false

/-- What the steps keep. -/
structure Kept (s : InputRun) : Prop where
  fresh : s.input.CacheFresh
  sound : s.Sound
  idle : s.input.running = false →
    (∀ k, s.held.server k = false) ∧ ∀ i, s.held.client i = false

theorem send_append (xs ys : List XInputEvent) : s.send (xs ++ ys) = (s.send xs).send ys := by
  simp [send, List.foldl_append, List.append_assoc]

theorem clientButton_send (xs : List XInputEvent) (flags mask : UInt16) (item : InputItem) :
    (s.send xs).clientButton flags mask item = (s.clientButton flags mask item).send xs := by
  unfold clientButton
  split_ifs <;> rfl

/-- The flag of a button presses the button or lets it go, at the client and at the X server. -/
theorem sound_button {f : InputItem → Option XItem} (h : s.held.Sound f) (flags mask : UInt16)
    (item : InputItem) (button : ℕ) (hitem : f item = some (.button button)) :
    ((s.clientButton flags mask item).send
      ((pointerButton flags mask button).map .pointer)).held.Sound f := by
  unfold clientButton pointerButton
  split_ifs with hflag
  · exact h
  · have hforward := h.forward item (flags &&& ptrFlagsDown ≠ 0)
    rw [hitem] at hforward
    exact hforward

theorem sound_wheel {f : InputItem → Option XItem} (h : s.held.Sound f) (flags mask : UInt16)
    {positive negative : ℕ} (hpositive : ∀ i, f i ≠ some (.button positive))
    (hnegative : ∀ i, f i ≠ some (.button negative)) :
    (s.send ((pointerWheel flags mask positive negative).map .pointer)).held.Sound f := by
  unfold pointerWheel
  split_ifs with hflag hsign
  · exact h
  · exact h.click _ hnegative
  · exact h.click _ hpositive

/-- The buttons of the wheels stand for nothing that is held. -/
theorem target_ne_button (self : DrdX11Keyboard) (button : ℕ) (h : 4 ≤ button) (i : InputItem) :
    i.target self ≠ some (.button button) := by
  intro hi
  cases i with
  | key scancode extended =>
    simp only [InputItem.target] at hi
    split_ifs at hi
    simp at hi
  | unicode codepoint =>
    simp only [InputItem.target] at hi
    split_ifs at hi
    simp at hi
  | button1 =>
    simp only [InputItem.target, Option.some.injEq, XItem.button.injEq] at hi
    omega
  | button2 =>
    simp only [InputItem.target, Option.some.injEq, XItem.button.injEq] at hi
    omega
  | button3 =>
    simp only [InputItem.target, Option.some.injEq, XItem.button.injEq] at hi
    omega

theorem sound_pointer (h : s.Sound) (flags x y : UInt16) {events : List XTestEvent}
    (hevents : s.input.injectPointer flags x y = .ok events) :
    ((s.clientButtons flags).send (events.map .pointer)).Sound := by
  have hok : events =
      (if flags &&& ptrFlagsMove ≠ 0
        then [.motion (s.input.axisX x).target (s.input.axisY y).target] else []) ++
      pointerButton flags ptrFlagsButton1 1 ++ pointerButton flags ptrFlagsButton3 2 ++
      pointerButton flags ptrFlagsButton2 3 ++ pointerWheel flags ptrFlagsWheel 4 5 ++
      pointerWheel flags ptrFlagsHwheel 6 7 := by
    rw [DrdX11Input.injectPointer] at hevents
    cases hcheck : s.input.checkRunning with
    | error message =>
      rw [hcheck] at hevents
      cases hevents
    | ok checked =>
      rw [hcheck] at hevents
      exact (Except.ok.inj hevents).symm
  have hinput (xs : List XInputEvent) :
      ((s.clientButtons flags).send xs).input = s.input := by
    unfold clientButtons clientButton
    split_ifs <;> rfl
  have hmotion : (s.send ((if flags &&& ptrFlagsMove ≠ 0
      then [XTestEvent.motion (s.input.axisX x).target (s.input.axisY y).target]
      else []).map .pointer)).held.Sound (InputItem.target s.input) := by
    split_ifs
    · exact h
    · exact h
  -- each button is pressed at the client where its event is sent
  have hbutton1 := sound_button hmotion flags ptrFlagsButton1 .button1 1 rfl
  have hbutton3 := sound_button hbutton1 flags ptrFlagsButton3 .button3 2 rfl
  have hbutton2 := sound_button hbutton3 flags ptrFlagsButton2 .button2 3 rfl
  have hwheel := sound_wheel hbutton2 flags ptrFlagsWheel
    (target_ne_button s.input 4 (by omega))
    (target_ne_button s.input 5 (by omega))
  have hhwheel := sound_wheel hwheel flags ptrFlagsHwheel
    (target_ne_button s.input 6 (by omega))
    (target_ne_button s.input 7 (by omega))
  unfold Sound
  rw [hinput, hok]
  simp only [List.map_append, send_append, clientButtons]
  simp only [clientButton_send] at hhwheel
  exact hhwheel

theorem sound_keyboard (h : s.Sound) (hfresh : s.input.CacheFresh)
    (hrunning : s.input.running = true) (flags : UInt16) (scancode : UInt8) :
    (inputRunStep DrdX11Keyboard.resolveKeycode s (.keyboard flags scancode)).Sound := by
  have hforward := h.forward
    (.key scancode (flags &&& (kbdFlagsExtended ||| kbdFlagsExtended1) ≠ 0))
    (flags &&& kbdFlagsRelease = 0)
  simp only [inputRunStep, injectKeyboard, hfresh.checkRunning hrunning, Except.map]
  obtain ⟨cache, hcache⟩ := DrdX11Keyboard.resolveKeycode_fst s.input scancode
    (flags &&& (kbdFlagsExtended ||| kbdFlagsExtended1) ≠ 0)
  rw [hcache, hfresh.resolve]
  have htarget : InputItem.target { s.input with keycodeCache := cache } =
      InputItem.target s.input := by
    funext item
    cases item <;> rfl
  simp only [InputItem.target] at hforward
  unfold Sound send clientHolds
  dsimp only
  rw [htarget]
  split_ifs with hkeycode
  · rw [if_pos hkeycode] at hforward
    exact hforward
  · rw [if_neg hkeycode] at hforward
    exact hforward

theorem sound_unicode (h : s.Sound) (hfresh : s.input.CacheFresh)
    (hrunning : s.input.running = true) (flags codepoint : UInt16) :
    (inputRunStep DrdX11Keyboard.resolveKeycode s (.unicode flags codepoint)).Sound := by
  have hforward := h.forward (.unicode codepoint) (flags &&& kbdFlagsRelease = 0)
  simp only [inputRunStep, injectUnicode, hfresh.checkRunning hrunning, Except.map]
  simp only [InputItem.target] at hforward
  split_ifs with hkeysym hkeycode
  · rw [if_pos hkeysym] at hforward
    exact hforward
  · rw [if_neg hkeysym, if_pos hkeycode] at hforward
    exact hforward
  · rw [if_neg hkeysym, if_neg hkeycode] at hforward
    exact hforward

/-- A backend that does not run takes no event of the client. -/
theorem injected_stopped (hrunning : s.input.running = false) :
    (∀ flags scancode,
      inputRunStep DrdX11Keyboard.resolveKeycode s (.keyboard flags scancode) = s) ∧
    (∀ flags codepoint,
      inputRunStep DrdX11Keyboard.resolveKeycode s (.unicode flags codepoint) = s) ∧
    ∀ flags x y, inputRunStep DrdX11Keyboard.resolveKeycode s (.pointer flags x y) = s := by
  have hcheck := DrdX11Keyboard.checkRunning_stopped hrunning
  refine ⟨?_, ?_, ?_⟩
  · intro flags scancode
    simp [inputRunStep, injectKeyboard, hcheck, Except.map]
  · intro flags codepoint
    simp [inputRunStep, injectUnicode, hcheck, Except.map]
  · intro flags x y
    simp [inputRunStep, DrdX11Input.injectPointer, hcheck, Except.map]

/-- What is injected does not stop the backend. -/
theorem running_injected (e : KeyboardEvent) (hstart : ∀ server keymap, e ≠ .start server keymap)
    (hstop : e ≠ .stop) :
    (inputRunStep DrdX11Keyboard.resolveKeycode s e).input.running = s.input.running := by
  cases e with
  | start server keymap => exact absurd rfl (hstart server keymap)
  | stop => exact absurd rfl hstop
  | updateDesktopSize width height => rfl
  | keyboard flags scancode =>
    obtain ⟨cache, hcache⟩ := DrdX11Keyboard.resolveKeycode_fst s.input scancode
      (flags &&& (kbdFlagsExtended ||| kbdFlagsExtended1) ≠ 0)
    unfold inputRunStep injectKeyboard
    dsimp only
    cases s.input.checkRunning with
    | error message => rfl
    | ok checked =>
      simp only [Except.map, hcache]
      rfl
  | unicode flags codepoint =>
    unfold inputRunStep
    dsimp only
    split <;> rfl
  | pointer flags x y =>
    unfold inputRunStep clientButtons clientButton
    dsimp only
    split
    · rfl
    · split_ifs <;> rfl

theorem kept_start (h : s.Kept) (server : Option XServer) (keymap : KeyboardMap) :
    (inputRunStep DrdX11Keyboard.resolveKeycode s (.start server keymap)).Kept := by
  cases hrunning : s.input.running with
  | true =>
    have hdisplay : s.input.display = true := h.fresh.display.trans hrunning
    have hsame : s.input.start server keymap = s.input := by
      simp [DrdX11Keyboard.start, DrdX11Input.start, hrunning, hdisplay]
    simp only [inputRunStep, hsame]
    exact h
  | false =>
    obtain ⟨hserver, hclient⟩ := h.idle hrunning
    refine ⟨fresh_step h.fresh _, Held.sound_of_released hserver hclient, ?_⟩
    intro _
    exact ⟨hserver, hclient⟩

theorem kept_stop (h : s.Kept) (hreleased : ReleasedBeforeStop s .stop) :
    (inputRunStep DrdX11Keyboard.resolveKeycode s .stop).Kept := by
  have hdown : ∀ k, s.held.server k = false := by
    cases hrunning : s.input.running with
    | true => exact hreleased rfl hrunning
    | false => exact (h.idle hrunning).1
  have hclient : ∀ i, s.stop.held.client i = false := by
    intro i
    cases hrunning : s.input.running with
    | true => simp [InputRun.stop, hrunning]
    | false => simpa [InputRun.stop, hrunning] using (h.idle hrunning).2 i
  exact ⟨fresh_step h.fresh .stop, Held.sound_of_released hdown hclient, fun _ => ⟨hdown, hclient⟩⟩

theorem kept_step (h : s.Kept) (e : KeyboardEvent) (hreleased : ReleasedBeforeStop s e) :
    (inputRunStep DrdX11Keyboard.resolveKeycode s e).Kept := by
  have hfresh := fresh_step h.fresh e
  cases e with
  | start server keymap => exact kept_start h server keymap
  | stop => exact kept_stop h hreleased
  | updateDesktopSize width height =>
    have htarget (input : DrdX11Keyboard) :
        InputItem.target
            { input with toDrdX11Input := input.toDrdX11Input.updateDesktopSize width height } =
          InputItem.target input := by
      funext item
      cases item <;> rfl
    refine ⟨hfresh, ?_, h.idle⟩
    unfold Sound inputRunStep
    dsimp only
    rw [htarget]
    exact h.sound
  | keyboard flags scancode =>
    have hkept := running_injected (s := s) (.keyboard flags scancode) (by simp) (by simp)
    cases hrunning : s.input.running with
    | false =>
      rw [(injected_stopped hrunning).1]
      exact h
    | true =>
      refine ⟨hfresh, sound_keyboard h.sound h.fresh hrunning flags scancode, ?_⟩
      intro hstopped
      simp [hkept, hrunning] at hstopped
  | unicode flags codepoint =>
    have hkept := running_injected (s := s) (.unicode flags codepoint) (by simp) (by simp)
    cases hrunning : s.input.running with
    | false =>
      rw [(injected_stopped hrunning).2.1]
      exact h
    | true =>
      refine ⟨hfresh, sound_unicode h.sound h.fresh hrunning flags codepoint, ?_⟩
      intro hstopped
      simp [hkept, hrunning] at hstopped
  | pointer flags x y =>
    have hkept := running_injected (s := s) (.pointer flags x y) (by simp) (by simp)
    cases hrunning : s.input.running with
    | false =>
      rw [(injected_stopped hrunning).2.2]
      exact h
    | true =>
      refine ⟨hfresh, ?_, ?_⟩
      · unfold inputRunStep
        dsimp only
        split
        · exact h.sound
        · exact sound_pointer h.sound flags x y ‹_›
      · intro hstopped
        simp [hkept, hrunning] at hstopped

/-- What is down when the backend stops stays down: no release is ever sent for it. -/
theorem not_sound_of_stop {e : KeyboardEvent} (hdown : ¬ ReleasedBeforeStop s e) :
    ¬ (inputRunStep DrdX11Keyboard.resolveKeycode s e).Sound := by
  unfold ReleasedBeforeStop at hdown
  simp only [not_forall, Bool.not_eq_false] at hdown
  obtain ⟨rfl, hrunning, k, hk⟩ := hdown
  intro hsound
  have hserver : s.stop.held.server k = true := by
    simpa [InputRun.stop] using hk
  obtain ⟨i, hi, _⟩ := hsound.explained k hserver
  have hclient : s.stop.held.client i = true := hi
  simp [InputRun.stop, hrunning] at hclient

theorem kept_init : ({} : InputRun).Kept :=
  ⟨fresh_init, Held.sound_of_released (fun _ => rfl) (fun _ => rfl), fun _ =>
    ⟨fun _ => rfl, fun _ => rfl⟩⟩

theorem keyboard_run_some (es : List KeyboardEvent) :
    ∃ t, keyboardMachine.run s es = some t := by
  induction es generalizing s with
  | nil => exact ⟨s, rfl⟩
  | cons e es ih => exact ih

/-- In every run, whatever is down at the X server is held by the client, and mirrored where one
item alone stands for it, if and only if nothing is down whenever the backend stops. -/
theorem held_items_sound_iff (es : List KeyboardEvent) :
    keyboardMachine.StatesMeet Sound {} es ↔ keyboardMachine.StepsMeet ReleasedBeforeStop {} es := by
  obtain ⟨t, hrun⟩ := keyboard_run_some (s := {}) es
  refine EventMachine.statesMeet_iff_stepsMeet (K := Kept) (fun s h => h.sound) ?_ ?_ kept_init es
    hrun
  · intro s e s' hkept hreleased he
    obtain rfl : _ = s' := Option.some.inj he
    exact kept_step hkept e hreleased
  · intro s e s' _ hdown he
    obtain rfl : _ = s' := Option.some.inj he
    exact not_sound_of_stop hdown

end InputRun
end RemoteDesktop.DRD
