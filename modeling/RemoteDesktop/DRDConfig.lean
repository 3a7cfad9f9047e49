import RemoteDesktop.CopyRules
import RemoteDesktop.DRDEncodingManager

/-! `drd_config.c`: the defaults, the key file, the command line, and what a configuration
that passes both is. GLib reads the file and the paths. -/
namespace RemoteDesktop.DRD

inductive RuntimeMode
  | user
  | system
  | handover
  deriving DecidableEq, Repr

structure ConfigEncodingOptions extends EncodingOptions where
  h264Bitrate : ℕ := 5000000
  h264Framerate : ℕ := 60
  h264Qp : ℕ := 15
  h264VmSupport : Bool := false

/-- `DrdConfig` with the values of `drd_config_init`. A string that is NULL is `none`. -/
structure DrdConfig where
  baseDir : String
  bindAddress : Option String := some "0.0.0.0"
  port : UInt16 := 3390
  certificatePath : Option String := none
  privateKeyPath : Option String := none
  nlaUsername : Option String := none
  nlaPassword : Option String := none
  nlaEnabled : Bool := true
  runtimeMode : RuntimeMode := .user
  pamService : String := "deepin-remote-desktop"
  pamServiceOverridden : Bool := false
  encoding : ConfigEncodingOptions := { width := 1024, height := 768, mode := .rfx }
  captureTargetFps : ℕ := 60
  captureStatsIntervalSec : ℕ := 5

/-- A double: its text, its sign, and how ratios compare with it. -/
structure KeyFileDouble where
  text : String
  negative : Bool
  threshold : LargeChangeThreshold

/-- A parsed file. A string with a bad escape is NULL, a bad number is 0. -/
structure GKeyFile where
  hasKey : String → String → Bool
  getString : String → String → Option String
  getInteger : String → String → ℤ
  getDouble : String → String → KeyFileDouble

/-- `g_path_is_absolute`, `g_build_filename` and `g_canonicalize_filename`. -/
structure GPath where
  isAbsolute : String → Bool
  buildFilename : String → String → String
  canonicalizeFilename : String → String

/-- An error, without its text where the source returns FALSE and sets none. -/
abbrev ConfigResult := Except (Option String)

/-- `g_ascii_strcasecmp` gives 0. -/
def gAsciiStrcasecmp (a b : String) : Bool :=
  a.toLower == b.toLower

def drdConfigParseBool : Option String → ConfigResult Bool
  | none => .error none
  | some value =>
    if gAsciiStrcasecmp value "true" || gAsciiStrcasecmp value "yes" ||
        gAsciiStrcasecmp value "1" then .ok true
    else if gAsciiStrcasecmp value "false" || gAsciiStrcasecmp value "no" ||
        gAsciiStrcasecmp value "0" then .ok false
    else .error (some s!"Invalid boolean value '{value}'")

def drdConfigParseRuntimeMode : Option String → ConfigResult RuntimeMode
  | none => .error none
  | some value =>
    if gAsciiStrcasecmp value "user" then .ok .user
    else if gAsciiStrcasecmp value "system" then .ok .system
    else if gAsciiStrcasecmp value "handover" then .ok .handover
    else
      .error (some s!"Invalid runtime mode '{value}' (expected user, system or handover)")

/-- The mode that `drd_config_set_mode_from_string` stores. -/
def modeFromString : Option String → ConfigResult EncodingMode
  | none => .error none
  | some value =>
    if gAsciiStrcasecmp value "h264" then .ok .h264
    else if gAsciiStrcasecmp value "rfx" then .ok .rfx
    else if gAsciiStrcasecmp value "auto" then .ok .auto
    else .error (some s!"Unknown encoder mode '{value}' (expected h264, rfx or auto)")

namespace DrdConfig

variable (paths : GPath) (keyfile : GKeyFile) (self : DrdConfig)

def refreshPamService : DrdConfig :=
  if self.pamServiceOverridden then self
  -- the handover mode has the service of the user mode
  else if self.runtimeMode = .system then { self with pamService := "deepin-remote-desktop-system" }
  else { self with pamService := "deepin-remote-desktop" }

def setRuntimeModeInternal (mode : RuntimeMode) : DrdConfig :=
  if self.runtimeMode = mode then self
  else refreshPamService { self with runtimeMode := mode }

def setModeFromString (value : Option String) : ConfigResult DrdConfig :=
  (modeFromString value).map fun mode =>
    { self with encoding := { self.encoding with mode := mode } }

def overridePamService (value : Option String) : DrdConfig :=
  match value with
  | none => self
  | some value =>
    if value = "" then self
    else { self with pamService := value, pamServiceOverridden := true }

def resolvePath (value : Option String) : Option String :=
  value.map fun value =>
    if paths.isAbsolute value then value
    else paths.canonicalizeFilename (paths.buildFilename self.baseDir value)

/-! The ways to load a key: each has its group, its name and where its value goes. -/

def loadString (group key : String) (store : DrdConfig → Option String → DrdConfig) :
    ConfigResult DrdConfig :=
  if keyfile.hasKey group key then .ok (store self (keyfile.getString group key))
  else .ok self

/-- A value that is not positive is passed over. -/
def loadPositive (group key : String) (store : DrdConfig → ℕ → DrdConfig) :
    ConfigResult DrdConfig :=
  if keyfile.hasKey group key then
    let value := keyfile.getInteger group key
    if value > 0 then .ok (store self value.toNat) else .ok self
  else .ok self

/-- A value that is not valid is an error. -/
def loadInteger (group key : String) (valid : ℤ → Bool) (message : ℤ → String)
    (store : DrdConfig → ℕ → DrdConfig) : ConfigResult DrdConfig :=
  if keyfile.hasKey group key then
    let value := keyfile.getInteger group key
    if valid value then .ok (store self value.toNat) else .error (some (message value))
  else .ok self

def loadBool (group key : String) (store : DrdConfig → Bool → DrdConfig) :
    ConfigResult DrdConfig :=
  if keyfile.hasKey group key then
    (drdConfigParseBool (keyfile.getString group key)).map (store self)
  else .ok self

def loadPort : ConfigResult DrdConfig :=
  loadInteger keyfile self "server" "port" (fun port => 0 < port && port ≤ 65535)
    -- 0 is an error here, and "not given" on the command line
    (fun port => s!"Invalid port value {port} in configuration")
    fun self port => { self with port := UInt16.ofNat port }

def loadEncodingMode : ConfigResult DrdConfig :=
  if keyfile.hasKey "encoding" "mode" then
    self.setModeFromString (keyfile.getString "encoding" "mode")
  else .ok self

/-- The `h264_` numbers, which have to be positive. -/
def loadH264 (key : String) (store : ConfigEncodingOptions → ℕ → ConfigEncodingOptions) :
    ConfigResult DrdConfig :=
  loadInteger keyfile self "encoding" key (0 < ·)
    (fun value => s!"Invalid {key} {value} (must be >0)")
    fun self value => { self with encoding := store self.encoding value }

/-- The `gfx_progressive_refresh_` numbers, which may be 0. -/
def loadGfxRefresh (key : String) (store : ConfigEncodingOptions → ℕ → ConfigEncodingOptions) :
    ConfigResult DrdConfig :=
  loadInteger keyfile self "encoding" key (0 ≤ ·)
    (fun value => s!"Invalid {key} {value} (must be >=0)")
    fun self value => { self with encoding := store self.encoding value }

def loadLargeChangeThreshold : ConfigResult DrdConfig :=
  if keyfile.hasKey "encoding" "gfx_large_change_threshold" then
    let threshold := keyfile.getDouble "encoding" "gfx_large_change_threshold"
    if threshold.negative then
      .error (some s!"Invalid gfx_large_change_threshold {threshold.text} (must be >=0)")
    else
      .ok { self with
        encoding := { self.encoding with gfxLargeChangeThreshold := threshold.threshold } }
  else .ok self

def loadAuthMode : ConfigResult DrdConfig :=
  if keyfile.hasKey "auth" "mode" then
    match keyfile.getString "auth" "mode" with
    | some mode =>
      if gAsciiStrcasecmp mode "static" then .ok { self with nlaEnabled := true }
      else .error (some "NLA delegate mode has been removed; disable NLA via [auth] enable_nla=false")
    -- a NULL mode is none of the known ones
    | none =>
      .error (some "NLA delegate mode has been removed; disable NLA via [auth] enable_nla=false")
  else .ok self

def loadEnableNla : ConfigResult DrdConfig :=
  if keyfile.hasKey "auth" "enable_nla" then
    loadBool keyfile self "auth" "enable_nla" fun self value => { self with nlaEnabled := value }
  -- `nla` counts only where `enable_nla` is missing
  else loadBool keyfile self "auth" "nla" fun self value => { self with nlaEnabled := value }

def loadRuntimeMode : ConfigResult DrdConfig :=
  if keyfile.hasKey "service" "runtime_mode" then
    (drdConfigParseRuntimeMode (keyfile.getString "service" "runtime_mode")).map
      self.setRuntimeModeInternal
  else
    -- `system` counts only where `runtime_mode` is missing
    loadBool keyfile self "service" "system" fun self value =>
      self.setRuntimeModeInternal (if value then .system else .user)

/-- `nla_auth_override` is set where one of the two keys was read. -/
def loadRdpSso : ConfigResult DrdConfig :=
  if keyfile.hasKey "auth" "enable_nla" || keyfile.hasKey "auth" "nla" then .ok self
  else
    loadBool keyfile self "service" "rdp_sso" fun self value => { self with nlaEnabled := !value }

/-- `drd_config_load_from_key_file`, key after key. -/
def loadFromKeyFile : ConfigResult DrdConfig :=
  runSteps [
    fun self => loadString keyfile self "server" "bind_address"
      fun self value => { self with bindAddress := value },
    fun self => loadPort keyfile self,
    -- the paths so far are dropped, whether or not the file has new ones
    fun self => .ok { self with certificatePath := none, privateKeyPath := none },
    fun self => loadString keyfile self "tls" "certificate"
      fun self value => { self with certificatePath := self.resolvePath paths value },
    fun self => loadString keyfile self "tls" "private_key"
      fun self value => { self with privateKeyPath := self.resolvePath paths value },
    fun self => loadPositive keyfile self "capture" "width"
      fun self value => { self with encoding := { self.encoding with width := value } },
    fun self => loadPositive keyfile self "capture" "height"
      fun self value => { self with encoding := { self.encoding with height := value } },
    fun self => loadPositive keyfile self "capture" "target_fps"
      fun self value => { self with captureTargetFps := value },
    fun self => loadPositive keyfile self "capture" "stats_interval_sec"
      fun self value => { self with captureStatsIntervalSec := value },
    fun self => loadEncodingMode keyfile self,
    fun self => loadBool keyfile self "encoding" "enable_diff"
      fun self value => { self with encoding := { self.encoding with enableFrameDiff := value } },
    fun self => loadH264 keyfile self "h264_bitrate"
      fun encoding value => { encoding with h264Bitrate := value },
    fun self => loadH264 keyfile self "h264_framerate"
      fun encoding value => { encoding with h264Framerate := value },
    fun self => loadH264 keyfile self "h264_qp"
      fun encoding value => { encoding with h264Qp := value },
    fun self => loadBool keyfile self "encoding" "h264_hw_accel"
      fun self value => { self with encoding := { self.encoding with h264HwAccel := value } },
    fun self => loadBool keyfile self "encoding" "h264_vm_support"
      fun self value => { self with encoding := { self.encoding with h264VmSupport := value } },
    fun self => loadLargeChangeThreshold keyfile self,
    fun self => loadGfxRefresh keyfile self "gfx_progressive_refresh_interval"
      fun encoding value =>
        { encoding with gfxProgressiveRefreshInterval := UInt32.ofNat value },
    fun self => loadGfxRefresh keyfile self "gfx_progressive_refresh_timeout_ms"
      fun encoding value =>
        { encoding with gfxProgressiveRefreshTimeoutMs := UInt32.ofNat value },
    fun self => loadString keyfile self "auth" "username"
      fun self value => { self with nlaUsername := value },
    fun self => loadString keyfile self "auth" "password"
      fun self value => { self with nlaPassword := value },
    fun self => loadAuthMode keyfile self,
    fun self => loadEnableNla keyfile self,
    fun self => loadString keyfile self "auth" "pam_service" overridePamService,
    fun self => loadRuntimeMode keyfile self,
    fun self => loadRdpSso keyfile self] self

end DrdConfig

/-- The arguments of `drd_config_merge_cli`: NULL or a number that is not positive is not given. -/
structure CliOptions where
  bindAddress : Option String := none
  port : ℤ := 0
  certPath : Option String := none
  keyPath : Option String := none
  nlaUsername : Option String := none
  nlaPassword : Option String := none
  enableNla : Bool := false
  disableNla : Bool := false
  runtimeModeName : Option String := none
  width : ℤ := 0
  height : ℤ := 0
  encoderMode : Option String := none
  diffOverride : ℤ := 0
  captureTargetFps : ℤ := 0
  captureStatsIntervalSec : ℤ := 0

namespace DrdConfig

variable (paths : GPath) (self : DrdConfig) (cli : CliOptions)

def mergeGiven {α : Type} (value : Option α) (store : DrdConfig → α → ConfigResult DrdConfig) :
    ConfigResult DrdConfig :=
  match value with
  | none => .ok self
  | some value => store self value

def mergePositive (value : ℤ) (store : DrdConfig → ℕ → DrdConfig) : ConfigResult DrdConfig :=
  if value > 0 then .ok (store self value.toNat) else .ok self

def mergePort : ConfigResult DrdConfig :=
  if cli.port > 0 then
    if cli.port > 65535 then .error (some s!"Port {cli.port} exceeds maximum 65535")
    else .ok { self with port := UInt16.ofNat cli.port.toNat }
  else .ok self

def mergeNla : ConfigResult DrdConfig :=
  if cli.enableNla && cli.disableNla then
    .error (some "Cannot enable and disable NLA at the same time")
  -- both at once were ruled out
  else if cli.enableNla then .ok { self with nlaEnabled := true }
  else if cli.disableNla then .ok { self with nlaEnabled := false }
  else .ok self

/-- The options in order. -/
def mergeSteps : List (DrdConfig → ConfigResult DrdConfig) := [
  fun self => mergeGiven self cli.bindAddress
    fun self value => .ok { self with bindAddress := some value },
  fun self => mergePort self cli,
  fun self => mergeGiven self cli.certPath
    fun self value => .ok { self with certificatePath := self.resolvePath paths (some value) },
  fun self => mergeGiven self cli.keyPath
    fun self value => .ok { self with privateKeyPath := self.resolvePath paths (some value) },
  fun self => mergeGiven self cli.nlaUsername
    fun self value => .ok { self with nlaUsername := some value },
  fun self => mergeGiven self cli.nlaPassword
    fun self value => .ok { self with nlaPassword := some value },
  fun self => mergeNla self cli,
  fun self => mergeGiven self cli.runtimeModeName
    fun self value => (drdConfigParseRuntimeMode (some value)).map self.setRuntimeModeInternal,
  fun self => mergePositive self cli.width
    fun self value => { self with encoding := { self.encoding with width := value } },
  fun self => mergePositive self cli.height
    fun self value => { self with encoding := { self.encoding with height := value } },
  fun self => mergeGiven self cli.encoderMode
    fun self value => self.setModeFromString (some value),
  fun self =>
    if cli.diffOverride ≠ 0 then
      .ok { self with
        encoding := { self.encoding with enableFrameDiff := cli.diffOverride > 0 } }
    else .ok self,
  fun self => mergePositive self cli.captureTargetFps
    fun self value => { self with captureTargetFps := value },
  fun self => mergePositive self cli.captureStatsIntervalSec
    fun self value => { self with captureStatsIntervalSec := value }]

/-- A string that is NULL or empty. -/
def blank (value : Option String) : Bool :=
  value = none || value = some ""

/-- The checks after the options. -/
def checkMerged : ConfigResult DrdConfig :=
  if self.runtimeMode ≠ .handover ∧ (self.certificatePath = none ∨ self.privateKeyPath = none) then
    .error (some "TLS certificate and private key must be specified via config or CLI")
  else if !self.nlaEnabled ∧ self.runtimeMode ≠ .system then
    .error (some "Disabling NLA requires --system")
  else if self.nlaEnabled ∧ self.runtimeMode ≠ .handover ∧
      (blank self.nlaUsername ∨ blank self.nlaPassword) then
    .error (some "NLA username and password must be specified via config or CLI")
  else if self.pamService = "" then .error (some "PAM service name is not configured")
  else .ok self

/-- `drd_config_merge_cli`. -/
def mergeCli : ConfigResult DrdConfig :=
  (runSteps (mergeSteps paths cli) self).bind checkMerged

end DrdConfig

/-- What a configuration comes to. A mode that names none is `none`. -/
structure EffectiveConfig where
  port : ℤ
  runtimeMode : Option RuntimeMode
  encodingMode : Option EncodingMode
  nlaEnabled : Bool
  certificatePath : Option String
  privateKeyPath : Option String
  nlaUsername : Option String
  nlaPassword : Option String
  deriving DecidableEq, Repr

namespace EffectiveConfig

/-- What both layers of `drd_config.c` make sure of, given whether the command line enables
and disables NLA. -/
structure Valid (config : EffectiveConfig) (enableNla disableNla : Bool) : Prop where
  port : 1 ≤ config.port ∧ config.port ≤ 65535
  runtimeMode : ∃ mode, config.runtimeMode = some mode
  encodingMode : ∃ mode, config.encodingMode = some mode ∧ mode ≠ .other
  nlaOnce : ¬ (enableNla ∧ disableNla)
  nlaDisabled : config.nlaEnabled = false → config.runtimeMode = some .system
  tlsPaths : config.runtimeMode ≠ some .handover →
    config.certificatePath ≠ none ∧ config.privateKeyPath ≠ none
  nlaCredentials : config.nlaEnabled → config.runtimeMode ≠ some .handover →
    ¬ DrdConfig.blank config.nlaUsername ∧ ¬ DrdConfig.blank config.nlaPassword

end EffectiveConfig

def DrdConfig.effective (self : DrdConfig) : EffectiveConfig where
  port := self.port.toNat
  runtimeMode := some self.runtimeMode
  encodingMode := some self.encoding.mode
  nlaEnabled := self.nlaEnabled
  certificatePath := self.certificatePath
  privateKeyPath := self.privateKeyPath
  nlaUsername := self.nlaUsername
  nlaPassword := self.nlaPassword

/-! What the two layers assign. A property that survives each assignment survives a load and a
merge. -/

namespace DrdConfig

/-- A property that every assignment keeps. `mayOverride` are the PAM services that can be given. -/
structure Stable (mayOverride : Option String → Prop) (P : DrdConfig → Prop) : Prop where
  texts : ∀ self bindAddress certificatePath privateKeyPath nlaUsername nlaPassword, P self →
    P { self with
      bindAddress := bindAddress
      certificatePath := certificatePath
      privateKeyPath := privateKeyPath
      nlaUsername := nlaUsername
      nlaPassword := nlaPassword }
  nlaEnabled : ∀ self value, P self → P { self with nlaEnabled := value }
  flags : ∀ self enableFrameDiff h264HwAccel h264VmSupport, P self →
    P { self with
      encoding := { self.encoding with
        enableFrameDiff := enableFrameDiff
        h264HwAccel := h264HwAccel
        h264VmSupport := h264VmSupport } }
  refresh : ∀ self threshold interval timeoutMs, P self →
    P { self with
      encoding := { self.encoding with
        gfxLargeChangeThreshold := threshold
        gfxProgressiveRefreshInterval := interval
        gfxProgressiveRefreshTimeoutMs := timeoutMs } }
  port : ∀ self (port : UInt16), 1 ≤ port.toNat → P self → P { self with port := port }
  encodingMode : ∀ self mode, mode ≠ EncodingMode.other → P self →
    P { self with encoding := { self.encoding with mode := mode } }
  width : ∀ self value, 0 < value → P self →
    P { self with encoding := { self.encoding with width := value } }
  height : ∀ self value, 0 < value → P self →
    P { self with encoding := { self.encoding with height := value } }
  h264Bitrate : ∀ self value, 0 < value → P self →
    P { self with encoding := { self.encoding with h264Bitrate := value } }
  h264Framerate : ∀ self value, 0 < value → P self →
    P { self with encoding := { self.encoding with h264Framerate := value } }
  h264Qp : ∀ self value, 0 < value → P self →
    P { self with encoding := { self.encoding with h264Qp := value } }
  captureTargetFps : ∀ self value, 0 < value → P self → P { self with captureTargetFps := value }
  captureStatsIntervalSec : ∀ self value, 0 < value → P self →
    P { self with captureStatsIntervalSec := value }
  runtimeMode : ∀ self mode, P self → P (setRuntimeModeInternal self mode)
  pamService : ∀ self value, mayOverride value → P self → P (overridePamService self value)

/-- The PAM services that a file gives. -/
def pamOverrides (keyfile : GKeyFile) : List (Option String) :=
  if keyfile.hasKey "auth" "pam_service" then [keyfile.getString "auth" "pam_service"] else []

theorem mem_pamOverrides {keyfile : GKeyFile} (hkey : keyfile.hasKey "auth" "pam_service") :
    keyfile.getString "auth" "pam_service" ∈ pamOverrides keyfile := by
  rw [pamOverrides, if_pos hkey]
  exact List.mem_singleton_self _

theorem modeFromString_ne_other {value : Option String} {mode : EncodingMode}
    (h : modeFromString value = .ok mode) : mode ≠ .other := by
  cases value with
  | none => cases h
  | some value =>
    rw [modeFromString] at h
    split_ifs at h <;> cases h <;> decide

theorem map_ok {α β : Type} {result : ConfigResult α} {f : α → β} {b : β}
    (h : result.map f = .ok b) : ∃ a, result = .ok a ∧ f a = b := by
  cases result with
  | error e => cases h
  | ok a =>
    cases h
    exact ⟨a, rfl, rfl⟩

theorem toNat_port {port : ℤ} (hpos : 0 < port) (hmax : port ≤ 65535) :
    1 ≤ (UInt16.ofNat port.toNat).toNat := by
  have hsize : UInt16.size = 65536 := rfl
  -- the number fits, so the port is the number and not 0
  rw [UInt16.toNat_ofNat_of_lt' (by omega)]
  omega

section Keeps

variable {P : DrdConfig → Prop} {keyfile : GKeyFile} {self self' : DrdConfig} {group key : String}

theorem loadString_keeps {store : DrdConfig → Option String → DrdConfig}
    (h : loadString keyfile self group key store = .ok self') (hs : P self)
    (hstore : keyfile.hasKey group key → P (store self (keyfile.getString group key))) :
    P self' := by
  rw [loadString] at h
  split_ifs at h with hkey
  · cases h
    exact hstore hkey
  · cases h
    exact hs

theorem loadPositive_keeps {store : DrdConfig → ℕ → DrdConfig}
    (h : loadPositive keyfile self group key store = .ok self') (hs : P self)
    (hstore : ∀ value, 0 < value → P (store self value)) : P self' := by
  rw [loadPositive] at h
  dsimp only at h
  split_ifs at h with _ hpos
  · cases h
    exact hstore _ (by omega)
  · cases h
    exact hs
  · cases h
    exact hs

theorem loadInteger_keeps {valid : ℤ → Bool} {message : ℤ → String}
    {store : DrdConfig → ℕ → DrdConfig}
    (h : loadInteger keyfile self group key valid message store = .ok self') (hs : P self)
    (hstore : ∀ value : ℤ, valid value → P (store self value.toNat)) : P self' := by
  rw [loadInteger] at h
  dsimp only at h
  split_ifs at h with _ hvalid
  · cases h
    exact hstore _ hvalid
  · cases h
    exact hs

theorem loadH264_keeps {store : ConfigEncodingOptions → ℕ → ConfigEncodingOptions}
    (h : loadH264 keyfile self key store = .ok self') (hs : P self)
    (hstore : ∀ value, 0 < value → P { self with encoding := store self.encoding value }) :
    P self' := by
  refine loadInteger_keeps h hs ?_
  intro value hvalid
  have hpos : 0 < value := by simpa using hvalid
  exact hstore _ (by omega)

theorem loadBool_keeps {store : DrdConfig → Bool → DrdConfig}
    (h : loadBool keyfile self group key store = .ok self') (hs : P self)
    (hstore : ∀ value, P (store self value)) : P self' := by
  rw [loadBool] at h
  split_ifs at h
  · obtain ⟨value, -, rfl⟩ := map_ok h
    exact hstore value
  · cases h
    exact hs

theorem mergeGiven_keeps {α : Type} {value : Option α}
    {store : DrdConfig → α → ConfigResult DrdConfig}
    (h : mergeGiven self value store = .ok self') (hs : P self)
    (hstore : ∀ value self', store self value = .ok self' → P self') : P self' := by
  cases value with
  | none =>
    cases h
    exact hs
  | some value => exact hstore value self' h

theorem mergeGiven_ok_keeps {α : Type} {value : Option α} {store : DrdConfig → α → DrdConfig}
    (h : (mergeGiven self value fun self value => .ok (store self value)) = .ok self') (hs : P self)
    (hstore : ∀ value, P (store self value)) : P self' := by
  refine mergeGiven_keeps h hs ?_
  intro value self' h
  cases h
  exact hstore value

theorem mergePositive_keeps {value : ℤ} {store : DrdConfig → ℕ → DrdConfig}
    (h : mergePositive self value store = .ok self') (hs : P self)
    (hstore : ∀ value, 0 < value → P (store self value)) : P self' := by
  rw [mergePositive] at h
  split_ifs at h with hpos
  · cases h
    exact hstore _ (by omega)
  · cases h
    exact hs

end Keeps

section Stable

variable {mayOverride : Option String → Prop} {P : DrdConfig → Prop}
  {paths : GPath} {keyfile : GKeyFile} {cli : CliOptions} {self self' : DrdConfig}

theorem Stable.setModeFromString (hP : Stable mayOverride P) {value : Option String} (hs : P self)
    (h : self.setModeFromString value = .ok self') : P self' := by
  obtain ⟨mode, hmode, rfl⟩ := map_ok h
  exact hP.encodingMode self mode (modeFromString_ne_other hmode) hs

theorem Stable.loadPort (hP : Stable mayOverride P) (hs : P self)
    (h : loadPort keyfile self = .ok self') : P self' := by
  refine loadInteger_keeps h hs ?_
  intro port hvalid
  have hrange : 0 < port ∧ port ≤ 65535 := by simpa using hvalid
  exact hP.port self _ (toNat_port hrange.1 hrange.2) hs

theorem Stable.loadEncodingMode (hP : Stable mayOverride P) (hs : P self)
    (h : loadEncodingMode keyfile self = .ok self') : P self' := by
  rw [DrdConfig.loadEncodingMode] at h
  split_ifs at h
  · exact hP.setModeFromString hs h
  · cases h
    exact hs

theorem Stable.loadLargeChangeThreshold (hP : Stable mayOverride P) (hs : P self)
    (h : loadLargeChangeThreshold keyfile self = .ok self') : P self' := by
  rw [DrdConfig.loadLargeChangeThreshold] at h
  dsimp only at h
  split_ifs at h
  · cases h
    exact hP.refresh self _ _ _ hs
  · cases h
    exact hs

theorem Stable.loadAuthMode (hP : Stable mayOverride P) (hs : P self)
    (h : loadAuthMode keyfile self = .ok self') : P self' := by
  rw [DrdConfig.loadAuthMode] at h
  split_ifs at h
  · cases hmode : keyfile.getString "auth" "mode" with
    | none =>
      rw [hmode] at h
      cases h
    | some mode =>
      rw [hmode] at h
      dsimp only at h
      split_ifs at h
      cases h
      exact hP.nlaEnabled self true hs
  · cases h
    exact hs

theorem Stable.loadEnableNla (hP : Stable mayOverride P) (hs : P self)
    (h : loadEnableNla keyfile self = .ok self') : P self' := by
  rw [DrdConfig.loadEnableNla] at h
  split_ifs at h
  · exact loadBool_keeps h hs fun value => hP.nlaEnabled self value hs
  · exact loadBool_keeps h hs fun value => hP.nlaEnabled self value hs

theorem Stable.loadRuntimeMode (hP : Stable mayOverride P) (hs : P self)
    (h : loadRuntimeMode keyfile self = .ok self') : P self' := by
  rw [DrdConfig.loadRuntimeMode] at h
  split_ifs at h
  · obtain ⟨mode, -, rfl⟩ := map_ok h
    exact hP.runtimeMode self mode hs
  · exact loadBool_keeps h hs fun value => hP.runtimeMode self _ hs

theorem Stable.loadRdpSso (hP : Stable mayOverride P) (hs : P self)
    (h : loadRdpSso keyfile self = .ok self') : P self' := by
  rw [DrdConfig.loadRdpSso] at h
  split_ifs at h
  · cases h
    exact hs
  · exact loadBool_keeps h hs fun value => hP.nlaEnabled self _ hs

theorem Stable.mergePort (hP : Stable mayOverride P) (hs : P self)
    (h : mergePort self cli = .ok self') : P self' := by
  rw [DrdConfig.mergePort] at h
  split_ifs at h with hpos hmax
  · cases h
    exact hP.port self _ (toNat_port hpos (by omega)) hs
  · cases h
    exact hs

theorem Stable.mergeNla (hP : Stable mayOverride P) (hs : P self)
    (h : mergeNla self cli = .ok self') : P self' := by
  rw [DrdConfig.mergeNla] at h
  split_ifs at h
  · cases h
    exact hP.nlaEnabled self true hs
  · cases h
    exact hP.nlaEnabled self false hs
  · cases h
    exact hs

/-- A load is a run of steps, one of which is that of the PAM service. A stable property survives
each of them. -/
theorem loadFromKeyFile_steps (paths : GPath) (keyfile : GKeyFile) : ∃ steps,
    (∀ self, loadFromKeyFile paths keyfile self = runSteps steps self) ∧
    (fun self => loadString keyfile self "auth" "pam_service" overridePamService) ∈ steps ∧
    ∀ P, Stable (· ∈ pamOverrides keyfile) P →
      ∀ step ∈ steps, ∀ self self', P self → step self = .ok self' → P self' := by
  refine ⟨_, fun _ => rfl, by simp, ?_⟩
  intro P hP step hstep self self' hs h
  simp only [List.mem_cons, List.not_mem_nil, or_false] at hstep
  -- the keys in their order
  rcases hstep with rfl | rfl | rfl | rfl | rfl | rfl | rfl | rfl | rfl | rfl | rfl | rfl | rfl |
    rfl | rfl | rfl | rfl | rfl | rfl | rfl | rfl | rfl | rfl | rfl | rfl | rfl
  all_goals dsimp only at h
  · exact loadString_keeps h hs fun _ => hP.texts self _ _ _ _ _ hs
  · exact hP.loadPort hs h
  · cases h
    exact hP.texts self _ _ _ _ _ hs
  · exact loadString_keeps h hs fun _ => hP.texts self _ _ _ _ _ hs
  · exact loadString_keeps h hs fun _ => hP.texts self _ _ _ _ _ hs
  · exact loadPositive_keeps h hs fun _ hpos => hP.width self _ hpos hs
  · exact loadPositive_keeps h hs fun _ hpos => hP.height self _ hpos hs
  · exact loadPositive_keeps h hs fun _ hpos => hP.captureTargetFps self _ hpos hs
  · exact loadPositive_keeps h hs fun _ hpos => hP.captureStatsIntervalSec self _ hpos hs
  · exact hP.loadEncodingMode hs h
  · exact loadBool_keeps h hs fun _ => hP.flags self _ _ _ hs
  · exact loadH264_keeps h hs fun _ hpos => hP.h264Bitrate self _ hpos hs
  · exact loadH264_keeps h hs fun _ hpos => hP.h264Framerate self _ hpos hs
  · exact loadH264_keeps h hs fun _ hpos => hP.h264Qp self _ hpos hs
  · exact loadBool_keeps h hs fun _ => hP.flags self _ _ _ hs
  · exact loadBool_keeps h hs fun _ => hP.flags self _ _ _ hs
  · exact hP.loadLargeChangeThreshold hs h
  · exact loadInteger_keeps h hs fun _ _ => hP.refresh self _ _ _ hs
  · exact loadInteger_keeps h hs fun _ _ => hP.refresh self _ _ _ hs
  · exact loadString_keeps h hs fun _ => hP.texts self _ _ _ _ _ hs
  · exact loadString_keeps h hs fun _ => hP.texts self _ _ _ _ _ hs
  · exact hP.loadAuthMode hs h
  · exact hP.loadEnableNla hs h
  · exact loadString_keeps h hs fun hkey => hP.pamService self _ (mem_pamOverrides hkey) hs
  · exact hP.loadRuntimeMode hs h
  · exact hP.loadRdpSso hs h

theorem Stable.loadFromKeyFile (hP : Stable (· ∈ pamOverrides keyfile) P) (hs : P self)
    (h : loadFromKeyFile paths keyfile self = .ok self') : P self' := by
  obtain ⟨steps, hrun, -, hkeeps⟩ := loadFromKeyFile_steps paths keyfile
  rw [hrun] at h
  exact runSteps_preserves (hkeeps P hP) hs h

/-- No option gives a PAM service. -/
theorem Stable.mergeSteps (hP : Stable mayOverride P) (hs : P self)
    (h : runSteps (mergeSteps paths cli) self = .ok self') : P self' := by
  refine runSteps_preserves ?_ hs h
  intro step hstep self self' hs h
  simp only [DrdConfig.mergeSteps, List.mem_cons, List.not_mem_nil, or_false] at hstep
  -- the options in their order
  rcases hstep with rfl | rfl | rfl | rfl | rfl | rfl | rfl | rfl | rfl | rfl | rfl | rfl | rfl | rfl
  all_goals dsimp only at h
  · exact mergeGiven_ok_keeps h hs fun _ => hP.texts self _ _ _ _ _ hs
  · exact hP.mergePort hs h
  · exact mergeGiven_ok_keeps h hs fun _ => hP.texts self _ _ _ _ _ hs
  · exact mergeGiven_ok_keeps h hs fun _ => hP.texts self _ _ _ _ _ hs
  · exact mergeGiven_ok_keeps h hs fun _ => hP.texts self _ _ _ _ _ hs
  · exact mergeGiven_ok_keeps h hs fun _ => hP.texts self _ _ _ _ _ hs
  · exact hP.mergeNla hs h
  · refine mergeGiven_keeps h hs ?_
    intro value self' h
    obtain ⟨mode, -, rfl⟩ := map_ok h
    exact hP.runtimeMode self mode hs
  · exact mergePositive_keeps h hs fun _ hpos => hP.width self _ hpos hs
  · exact mergePositive_keeps h hs fun _ hpos => hP.height self _ hpos hs
  · exact mergeGiven_keeps h hs fun _ _ h => hP.setModeFromString hs h
  · split_ifs at h
    · cases h
      exact hP.flags self _ _ _ hs
    · cases h
      exact hs
  · exact mergePositive_keeps h hs fun _ hpos => hP.captureTargetFps self _ hpos hs
  · exact mergePositive_keeps h hs fun _ hpos => hP.captureStatsIntervalSec self _ hpos hs

end Stable

section Accepted

variable {paths : GPath} {keyfile : GKeyFile} {cli : CliOptions} {self self' : DrdConfig}

/-- A port and one of the three modes of the configuration. -/
def PortAndMode (self : DrdConfig) : Prop :=
  1 ≤ self.port.toNat ∧ self.encoding.mode ≠ .other

theorem setRuntimeModeInternal_keeps (mode : RuntimeMode) (hs : PortAndMode self) :
    PortAndMode (self.setRuntimeModeInternal mode) := by
  rw [setRuntimeModeInternal, refreshPamService]
  split_ifs <;> exact hs

theorem overridePamService_keeps (value : Option String) (hs : PortAndMode self) :
    PortAndMode (self.overridePamService value) := by
  cases value with
  | none => exact hs
  | some value =>
    dsimp only [overridePamService]
    split_ifs <;> exact hs

theorem portAndMode_stable (mayOverride : Option String → Prop) :
    Stable mayOverride PortAndMode where
  texts _ _ _ _ _ _ hs := hs
  nlaEnabled _ _ hs := hs
  flags _ _ _ _ hs := hs
  refresh _ _ _ _ hs := hs
  port _ _ hport hs := ⟨hport, hs.2⟩
  encodingMode _ _ hmode hs := ⟨hs.1, hmode⟩
  width _ _ _ hs := hs
  height _ _ _ hs := hs
  h264Bitrate _ _ _ hs := hs
  h264Framerate _ _ _ hs := hs
  h264Qp _ _ _ hs := hs
  captureTargetFps _ _ _ hs := hs
  captureStatsIntervalSec _ _ _ hs := hs
  runtimeMode _ mode hs := setRuntimeModeInternal_keeps mode hs
  pamService _ value _ hs := overridePamService_keeps value hs

/-- What the checks after the options leave. -/
structure Checked (config : DrdConfig) : Prop where
  tlsPaths : config.runtimeMode ≠ .handover →
    config.certificatePath ≠ none ∧ config.privateKeyPath ≠ none
  nlaDisabled : config.nlaEnabled = false → config.runtimeMode = .system
  nlaCredentials : config.nlaEnabled → config.runtimeMode ≠ .handover →
    ¬ blank config.nlaUsername ∧ ¬ blank config.nlaPassword

theorem checked_of_checkMerged (h : self.checkMerged = .ok self') : self' = self ∧ Checked self := by
  rw [checkMerged] at h
  split_ifs at h with htls hnla hcredentials hpam
  cases h
  refine ⟨rfl, ?_, ?_, ?_⟩
  · intro hmode
    by_contra hnone
    exact htls ⟨hmode, by tauto⟩
  · intro hdisabled
    by_contra hmode
    exact hnla ⟨by simp [hdisabled], hmode⟩
  · intro henabled hmode
    by_contra hblank
    exact hcredentials ⟨henabled, hmode, by tauto⟩

/-- What is accepted is what the options left, and the checks found nothing in it. -/
theorem mergeCli_ok {merged : DrdConfig} (h : self.mergeCli paths cli = .ok merged) :
    runSteps (mergeSteps paths cli) self = .ok merged ∧ Checked merged := by
  rw [mergeCli] at h
  cases hsteps : runSteps (mergeSteps paths cli) self with
  | error e =>
    rw [hsteps] at h
    cases h
  | ok given =>
    rw [hsteps] at h
    obtain ⟨rfl, hchecked⟩ := checked_of_checkMerged h
    exact ⟨rfl, hchecked⟩

theorem mergeNla_once (h : mergeNla self cli = .ok self') :
    ¬ (cli.enableNla ∧ cli.disableNla) := by
  intro hboth
  rw [mergeNla, if_pos (by simp [hboth])] at h
  cases h

/-- What `drd_config_load_from_key_file` and `drd_config_merge_cli` accept is valid. -/
theorem accepted_valid {loaded merged : DrdConfig} (baseDir : String)
    (hload : loadFromKeyFile paths keyfile { baseDir := baseDir } = .ok loaded)
    (hmerge : loaded.mergeCli paths cli = .ok merged) :
    merged.effective.Valid cli.enableNla cli.disableNla := by
  have hdefault : PortAndMode { baseDir := baseDir } := ⟨by simp, by simp⟩
  have hloaded : PortAndMode loaded := (portAndMode_stable _).loadFromKeyFile hdefault hload
  obtain ⟨hsteps, hchecked⟩ := mergeCli_ok hmerge
  obtain ⟨hport, hmode⟩ := (portAndMode_stable fun _ => True).mergeSteps hloaded hsteps
  -- the NLA step of the run had no error, so its options do not clash
  obtain ⟨before, after, hnla⟩ := exists_step_ok
    (show (fun self => mergeNla self cli) ∈ mergeSteps paths cli by simp [mergeSteps]) hsteps
  have hmax := merged.port.toNat_lt
  exact {
    port := ⟨by simp only [effective]; omega, by simp only [effective]; omega⟩
    runtimeMode := ⟨merged.runtimeMode, rfl⟩
    encodingMode := ⟨merged.encoding.mode, rfl, hmode⟩
    nlaOnce := mergeNla_once hnla
    nlaDisabled := fun hdisabled => congrArg some (hchecked.nlaDisabled hdisabled)
    tlsPaths := fun hhandover => hchecked.tlsPaths fun h => hhandover (congrArg some h)
    nlaCredentials := fun henabled hhandover =>
      hchecked.nlaCredentials henabled fun h => hhandover (congrArg some h) }

end Accepted

end DrdConfig

end RemoteDesktop.DRD
