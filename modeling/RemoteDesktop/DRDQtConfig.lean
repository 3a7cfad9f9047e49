import RemoteDesktop.DRDConfig

/-! `drd_config.cpp`, the port of the configuration. Qt reads the file, holds the values and
answers for the file system; what it accepts is compared with what `drd_config.c` accepts. -/
namespace RemoteDesktop.DRD

/-- A QVariantMap. -/
abbrev QVariantMap (V : Type) := String → Option V

/-- The numbers of a C++ `int`. -/
def IsInt (i : ℤ) : Prop := -2147483648 ≤ i ∧ i ≤ 2147483647

instance (i : ℤ) : Decidable (IsInt i) := inferInstanceAs (Decidable (_ ∧ _))

/-- Qt for variants `V`: their conversions, with an `int`, a text and a truth value read back
as stored, QString's `toLower`, QFile, QDir and QSettings. -/
structure QtCore (V : Type) where
  toString : V → String
  toInt : V → ℤ
  toBool : V → Bool
  ofString : String → V
  ofInt : ℤ → V
  ofBool : Bool → V
  toString_ofString : ∀ s, toString (ofString s) = s
  toInt_isInt : ∀ v, IsInt (toInt v)
  toInt_ofInt : ∀ i, IsInt i → toInt (ofInt i) = i
  toBool_ofBool : ∀ b, toBool (ofBool b) = b
  toLower : String → String
  fileExists : String → Bool
  absolutePath : String → String
  filePath : String → String → String
  settings : String → QVariantMap V

abbrev QtRule (V : Type) := CopyRule String V String

namespace QtCore

variable {V : Type} (qt : QtCore V)

/-- The constructor. -/
def defaults : QVariantMap V
  | "bind_address" => some (qt.ofString "0.0.0.0")
  | "port" => some (qt.ofInt 3390)
  | "encoding_mode" => some (qt.ofString "rfx")
  | "enable_frame_diff" => some (qt.ofBool true)
  | "nla_enabled" => some (qt.ofBool true)
  | "runtime_mode" => some (qt.ofString "user")
  | "pam_service" => some (qt.ofString "deepin-remote-desktop")
  | "capture_target_fps" => some (qt.ofInt 60)
  | "capture_stats_interval_sec" => some (qt.ofInt 5)
  | "certificate_path" => some (qt.ofString "")
  | "private_key_path" => some (qt.ofString "")
  | _ => none

def drdConfigGetString (values : QVariantMap V) (key : String) : String :=
  (values key).elim "" qt.toString

def drdConfigGetInt (values : QVariantMap V) (key : String) : ℤ :=
  (values key).elim 0 qt.toInt

def drdConfigGetBool (values : QVariantMap V) (key : String) : Bool :=
  (values key).elim false qt.toBool

/-! Each `if (contains(source)) values_[target] = …` is a rule. -/

def asIs (source target : String) : QtRule V where
  source := source
  target := target
  convert := .ok

def asString (source target : String) : QtRule V where
  source := source
  target := target
  convert := fun value => .ok (qt.ofString (qt.toString value))

def asInt (source target : String) : QtRule V where
  source := source
  target := target
  convert := fun value => .ok (qt.ofInt (qt.toInt value))

def asBool (source target : String) : QtRule V where
  source := source
  target := target
  convert := fun value => .ok (qt.ofBool (qt.toBool value))

/-- A flag is set when its key is there. -/
def asFlag (source target : String) (flag : Bool) : QtRule V where
  source := source
  target := target
  convert := fun _ => .ok (qt.ofBool flag)

/-- A path of the file, which may be relative to the file's directory. -/
def asFilePath (path source target : String) : QtRule V where
  source := source
  target := target
  convert := fun value =>
    let name := qt.toString value
    -- a name that exists as it stands is not resolved
    if qt.fileExists name then .ok (qt.ofString name)
    else .ok (qt.ofString (qt.filePath (qt.absolutePath path) name))

/-- A path of the command line, which has to exist. -/
def asExistingPath (source target what : String) : QtRule V where
  source := source
  target := target
  convert := fun value =>
    let name := qt.toString value
    if qt.fileExists name then .ok (qt.ofString name) else .error s!"{what} file not found: {name}"

def asPort : QtRule V where
  source := "port"
  target := "port"
  convert := fun value =>
    let port := qt.toInt value
    if port > 0 ∧ port ≤ 65535 then .ok (qt.ofInt port) else .error s!"Invalid port: {port}"

def asMode (source target what : String) (modes : List String) : QtRule V where
  source := source
  target := target
  convert := fun value =>
    let mode := qt.toLower (qt.toString value)
    if mode ∈ modes then .ok (qt.ofString mode) else .error s!"Invalid {what} mode: {mode}"

def loadRules (path : String) : List (QtRule V) := [
  qt.asString "server/bind_address" "bind_address",
  -- nothing of the file is checked, neither the port nor the modes
  qt.asInt "server/port" "port",
  qt.asFilePath path "tls/certificate" "certificate_path",
  qt.asFilePath path "tls/private_key" "private_key_path",
  qt.asString "auth/username" "nla_username",
  qt.asString "auth/password" "nla_password",
  qt.asInt "capture/width" "capture_width",
  qt.asInt "capture/height" "capture_height",
  qt.asInt "capture/target_fps" "capture_target_fps",
  qt.asInt "capture/stats_interval_sec" "capture_stats_interval_sec",
  qt.asString "encoding/mode" "encoding_mode",
  qt.asBool "encoding/enable_diff" "enable_frame_diff",
  qt.asBool "auth/enable_nla" "nla_enabled",
  qt.asString "auth/pam_service" "pam_service",
  qt.asString "service/runtime_mode" "runtime_mode"]

def mergeRules : List (QtRule V) := [
  asIs "bind_address" "bind_address",
  qt.asPort,
  qt.asExistingPath "certificate_path" "certificate_path" "Certificate",
  qt.asExistingPath "private_key_path" "private_key_path" "Private key",
  qt.asInt "capture_width" "capture_width",
  qt.asInt "capture_height" "capture_height",
  qt.asInt "capture_target_fps" "capture_target_fps",
  qt.asInt "capture_stats_interval_sec" "capture_stats_interval_sec",
  qt.asMode "encoder_mode" "encoding_mode" "encoder" ["h264", "rfx", "auto"],
  asIs "nla_username" "nla_username",
  asIs "nla_password" "nla_password",
  qt.asFlag "enable_nla" "nla_enabled" true,
  qt.asFlag "disable_nla" "nla_enabled" false,
  qt.asMode "runtime_mode" "runtime_mode" "runtime" ["user", "system", "handover"],
  qt.asFlag "enable_diff" "enable_frame_diff" true,
  qt.asFlag "disable_diff" "enable_frame_diff" false]

/-- `drd_config_load_from_file`. -/
def drdConfigLoadFromFile (path : String) (values : QVariantMap V) :
    Except String (QVariantMap V) :=
  if !qt.fileExists path then .error s!"Config file not found: {path}"
  else CopyRule.applyAll (qt.settings path) (qt.loadRules path) values

/-- The checks after the values. -/
def checkRequired (values : QVariantMap V) : Except String (QVariantMap V) :=
  let runtimeMode := qt.drdConfigGetString values "runtime_mode"
  let nlaEnabled := qt.drdConfigGetBool values "nla_enabled"
  if runtimeMode ≠ "handover" ∧ (qt.drdConfigGetString values "certificate_path" = "" ∨
      qt.drdConfigGetString values "private_key_path" = "") then
    .error "TLS certificate and private key must be specified for non-handover modes"
  else if nlaEnabled ∧ runtimeMode ≠ "handover" ∧
      (qt.drdConfigGetString values "nla_username" = "" ∨
        qt.drdConfigGetString values "nla_password" = "") then
    .error "NLA username and password must be specified for NLA-enabled modes"
  else if !nlaEnabled ∧ runtimeMode ≠ "system" then .error "Disabling NLA requires system mode"
  else .ok values

/-- `drd_config_merge_cli`. -/
def drdConfigMergeCli (cliValues values : QVariantMap V) : Except String (QVariantMap V) :=
  (CopyRule.applyAll cliValues qt.mergeRules values).bind qt.checkRequired

/-- The values as `drd_config.c` reads such texts: modes in any case, empty paths as absent. -/
def effective (values : QVariantMap V) : EffectiveConfig where
  port := qt.drdConfigGetInt values "port"
  runtimeMode := (drdConfigParseRuntimeMode
    (some (qt.drdConfigGetString values "runtime_mode"))).toOption
  encodingMode := (modeFromString (some (qt.drdConfigGetString values "encoding_mode"))).toOption
  nlaEnabled := qt.drdConfigGetBool values "nla_enabled"
  certificatePath := given (qt.drdConfigGetString values "certificate_path")
  privateKeyPath := given (qt.drdConfigGetString values "private_key_path")
  nlaUsername := given (qt.drdConfigGetString values "nla_username")
  nlaPassword := given (qt.drdConfigGetString values "nla_password")
where
  given (text : String) : Option String := if text = "" then none else some text

/-- The file's port and modes are checked where the command line gives none, and the command
line does not both enable and disable NLA. -/
structure InputChecked (path : String) (cliValues : QVariantMap V) : Prop where
  port : cliValues "port" = none → ∀ value, qt.settings path "server/port" = some value →
    1 ≤ qt.toInt value ∧ qt.toInt value ≤ 65535
  runtimeMode : cliValues "runtime_mode" = none →
    ∀ value, qt.settings path "service/runtime_mode" = some value →
      ∃ mode, drdConfigParseRuntimeMode (some (qt.toString value)) = .ok mode
  encodingMode : cliValues "encoder_mode" = none →
    ∀ value, qt.settings path "encoding/mode" = some value →
      ∃ mode, modeFromString (some (qt.toString value)) = .ok mode
  nlaOnce : ¬ ((cliValues "enable_nla").isSome ∧ (cliValues "disable_nla").isSome)

theorem toOption_eq_some_iff {α : Type} {result : ConfigResult α} {a : α} :
    result.toOption = some a ↔ result = .ok a := by
  cases result with
  | error e => exact iff_of_false (by intro h; cases h) (by intro h; cases h)
  | ok b => exact ⟨fun h => congrArg Except.ok (Option.some.inj h), fun h => by rw [h]; rfl⟩

section Accepted

variable {qt} {path : String} {cliValues loaded given merged : QVariantMap V}

theorem applyAll_of_load (h : qt.drdConfigLoadFromFile path qt.defaults = .ok loaded) :
    CopyRule.applyAll (qt.settings path) (qt.loadRules path) qt.defaults = .ok loaded := by
  rw [drdConfigLoadFromFile] at h
  split_ifs at h
  exact h

/-- What the checks after the values leave. -/
structure Required (qt : QtCore V) (values : QVariantMap V) : Prop where
  tlsPaths : qt.drdConfigGetString values "runtime_mode" ≠ "handover" →
    qt.drdConfigGetString values "certificate_path" ≠ "" ∧
      qt.drdConfigGetString values "private_key_path" ≠ ""
  nlaCredentials : qt.drdConfigGetBool values "nla_enabled" →
    qt.drdConfigGetString values "runtime_mode" ≠ "handover" →
      qt.drdConfigGetString values "nla_username" ≠ "" ∧
        qt.drdConfigGetString values "nla_password" ≠ ""
  nlaDisabled : qt.drdConfigGetBool values "nla_enabled" = false →
    qt.drdConfigGetString values "runtime_mode" = "system"

theorem required_of_checkRequired (h : qt.checkRequired given = .ok merged) :
    merged = given ∧ Required qt given := by
  rw [checkRequired] at h
  split_ifs at h with htls hcredentials hnla
  cases h
  refine ⟨rfl, ?_, ?_, ?_⟩
  · intro hmode
    by_contra hempty
    exact htls ⟨hmode, by tauto⟩
  · intro henabled hmode
    by_contra hempty
    exact hcredentials ⟨henabled, hmode, by tauto⟩
  · intro hdisabled
    by_contra hmode
    exact hnla ⟨by simp [hdisabled], hmode⟩

theorem merge_cases (h : qt.drdConfigMergeCli cliValues loaded = .ok merged) :
    CopyRule.applyAll cliValues qt.mergeRules loaded = .ok merged ∧ Required qt merged := by
  cases hrules : CopyRule.applyAll cliValues qt.mergeRules loaded with
  | error e =>
    rw [drdConfigMergeCli, hrules] at h
    cases h
  | ok given =>
    rw [drdConfigMergeCli, hrules] at h
    obtain ⟨rfl, hrequired⟩ := required_of_checkRequired h
    exact ⟨rfl, hrequired⟩

/-- A key with one rule for the file, which checks nothing, and one for the command line, which
does: its value is good exactly when the command line gives it or the file's is good. -/
theorem good_iff (Good : Option V → Prop) (FileGood : V → Prop) {k : String}
    {loadRule mergeRule : QtRule V}
    (hload : CopyRule.applyAll (qt.settings path) (qt.loadRules path) qt.defaults = .ok loaded)
    (hmerge : CopyRule.applyAll cliValues qt.mergeRules loaded = .ok merged)
    (hloadRule : (qt.loadRules path).filter (fun r => r.target = k) = [loadRule])
    (hmergeRule : qt.mergeRules.filter (fun r => r.target = k) = [mergeRule])
    (hdefault : Good (qt.defaults k))
    (hfile : ∀ v w, loadRule.convert v = .ok w → (Good (some w) ↔ FileGood v))
    (hcli : ∀ v w, mergeRule.convert v = .ok w → Good (some w)) :
    Good (merged k) ↔ (cliValues mergeRule.source = none →
      ∀ v, qt.settings path loadRule.source = some v → FileGood v) := by
  cases hsource : cliValues mergeRule.source with
  -- the command line gives it, whose rule checks it
  | some v =>
    obtain ⟨w, hconvert, hw⟩ := CopyRule.applyAll_some hmergeRule hsource hmerge
    rw [hw]
    exact iff_of_true (hcli v w hconvert) (by simp)
  -- it is left as the file or the constructor set it
  | none =>
    rw [CopyRule.applyAll_none hmergeRule hsource hmerge]
    cases hsettings : qt.settings path loadRule.source with
    | none =>
      rw [CopyRule.applyAll_none hloadRule hsettings hload]
      exact iff_of_true hdefault (by simp)
    | some v =>
      obtain ⟨w, hconvert, hw⟩ := CopyRule.applyAll_some hloadRule hsettings hload
      rw [hw, hfile v w hconvert]
      simp

variable (hload : CopyRule.applyAll (qt.settings path) (qt.loadRules path) qt.defaults = .ok loaded)
  (hmerge : CopyRule.applyAll cliValues qt.mergeRules loaded = .ok merged)

include hload hmerge

theorem port_iff :
    (1 ≤ (qt.effective merged).port ∧ (qt.effective merged).port ≤ 65535) ↔
      (cliValues "port" = none → ∀ value, qt.settings path "server/port" = some value →
        1 ≤ qt.toInt value ∧ qt.toInt value ≤ 65535) := by
  have hloadRule : (qt.loadRules path).filter (fun r => r.target = "port") =
      [qt.asInt "server/port" "port"] := rfl
  have hmergeRule : qt.mergeRules.filter (fun r => r.target = "port") = [qt.asPort] := rfl
  refine good_iff (fun value => 1 ≤ value.elim 0 qt.toInt ∧ value.elim 0 qt.toInt ≤ 65535)
    (fun value => 1 ≤ qt.toInt value ∧ qt.toInt value ≤ 65535)
    hload hmerge hloadRule hmergeRule ?_ ?_ ?_
  · have hdefault : qt.defaults "port" = some (qt.ofInt 3390) := rfl
    rw [hdefault, Option.elim_some, qt.toInt_ofInt 3390 (by decide)]
    omega
  · intro v w h
    cases h
    simp [qt.toInt_ofInt _ (qt.toInt_isInt v)]
  · intro v w h
    -- the command line refuses every other port
    dsimp only [asPort] at h
    split_ifs at h with hrange
    cases h
    simp only [Option.elim_some, qt.toInt_ofInt _ (qt.toInt_isInt v)]
    exact ⟨by omega, hrange.2⟩

/-- A mode, which the command line's path checks in lower case and the file's path not at all.
The checked texts and the default are ones that `parse` knows. -/
theorem mode_iff {α : Type} (parse : Option String → ConfigResult α) {k loadSource source : String}
    {what default : String} {modes : List String}
    (hloadRule : (qt.loadRules path).filter (fun r => r.target = k) = [qt.asString loadSource k])
    (hmergeRule : qt.mergeRules.filter (fun r => r.target = k) =
      [qt.asMode source k what modes])
    (hdefault : qt.defaults k = some (qt.ofString default))
    (hparses : ∀ text ∈ default :: modes, ∃ mode, parse (some text) = .ok mode) :
    (∃ mode, (parse (some (qt.drdConfigGetString merged k))).toOption = some mode) ↔
      (cliValues source = none → ∀ value, qt.settings path loadSource = some value →
        ∃ mode, parse (some (qt.toString value)) = .ok mode) := by
  refine good_iff
    (fun value => ∃ mode, (parse (some (value.elim "" qt.toString))).toOption = some mode)
    (fun value => ∃ mode, parse (some (qt.toString value)) = .ok mode)
    hload hmerge hloadRule hmergeRule ?_ ?_ ?_
  · simp only [hdefault, Option.elim_some, qt.toString_ofString, toOption_eq_some_iff]
    exact hparses default List.mem_cons_self
  · intro v w h
    cases h
    simp only [Option.elim_some, qt.toString_ofString, toOption_eq_some_iff]
  · intro v w h
    -- the command line stores one of the `modes`, in lower case
    dsimp only [asMode] at h
    split_ifs at h with hmode
    cases h
    simp only [Option.elim_some, qt.toString_ofString, toOption_eq_some_iff]
    exact hparses _ (List.mem_cons_of_mem _ hmode)

theorem runtimeMode_iff :
    (∃ mode, (qt.effective merged).runtimeMode = some mode) ↔
      (cliValues "runtime_mode" = none →
        ∀ value, qt.settings path "service/runtime_mode" = some value →
          ∃ mode, drdConfigParseRuntimeMode (some (qt.toString value)) = .ok mode) := by
  have hloadRule : (qt.loadRules path).filter (fun r => r.target = "runtime_mode") =
      [qt.asString "service/runtime_mode" "runtime_mode"] := rfl
  have hmergeRule : qt.mergeRules.filter (fun r => r.target = "runtime_mode") =
      [qt.asMode "runtime_mode" "runtime_mode" "runtime" ["user", "system", "handover"]] := rfl
  refine mode_iff hload hmerge drdConfigParseRuntimeMode hloadRule hmergeRule rfl ?_
  intro text htext
  simp only [List.mem_cons, List.not_mem_nil, or_false] at htext
  rcases htext with rfl | rfl | rfl | rfl
  · exact ⟨.user, by decide +kernel⟩
  · exact ⟨.user, by decide +kernel⟩
  · exact ⟨.system, by decide +kernel⟩
  · exact ⟨.handover, by decide +kernel⟩

theorem encodingMode_iff :
    (∃ mode, (qt.effective merged).encodingMode = some mode ∧ mode ≠ .other) ↔
      (cliValues "encoder_mode" = none →
        ∀ value, qt.settings path "encoding/mode" = some value →
          ∃ mode, modeFromString (some (qt.toString value)) = .ok mode) := by
  have hloadRule : (qt.loadRules path).filter (fun r => r.target = "encoding_mode") =
      [qt.asString "encoding/mode" "encoding_mode"] := rfl
  have hmergeRule : qt.mergeRules.filter (fun r => r.target = "encoding_mode") =
      [qt.asMode "encoder_mode" "encoding_mode" "encoder" ["h264", "rfx", "auto"]] := rfl
  have hparses : ∀ text ∈ ["rfx", "h264", "rfx", "auto"],
      ∃ mode, modeFromString (some text) = .ok mode := by
    intro text htext
    simp only [List.mem_cons, List.not_mem_nil, or_false] at htext
    rcases htext with rfl | rfl | rfl | rfl
    · exact ⟨.rfx, by decide +kernel⟩
    · exact ⟨.h264, by decide +kernel⟩
    · exact ⟨.rfx, by decide +kernel⟩
    · exact ⟨.auto, by decide +kernel⟩
  -- RAW is a mode of the encoder that no text names
  refine Iff.trans ?_ (mode_iff hload hmerge modeFromString hloadRule hmergeRule rfl hparses)
  constructor
  · rintro ⟨mode, hmode, -⟩
    exact ⟨mode, hmode⟩
  · rintro ⟨mode, hmode⟩
    exact ⟨mode, hmode, DrdConfig.modeFromString_ne_other (toOption_eq_some_iff.mp hmode)⟩

omit hload hmerge in
/-- The checks after the values are as strict as those of C, whatever the case of the mode. -/
theorem required_valid (h : Required qt merged) :
    ((qt.effective merged).nlaEnabled = false →
      (qt.effective merged).runtimeMode = some .system) ∧
    ((qt.effective merged).runtimeMode ≠ some .handover →
      (qt.effective merged).certificatePath ≠ none ∧
        (qt.effective merged).privateKeyPath ≠ none) ∧
    ((qt.effective merged).nlaEnabled → (qt.effective merged).runtimeMode ≠ some .handover →
      ¬ DrdConfig.blank (qt.effective merged).nlaUsername ∧
        ¬ DrdConfig.blank (qt.effective merged).nlaPassword) := by
  have hsystem : (drdConfigParseRuntimeMode (some "system")).toOption = some .system := by
    decide +kernel
  have hhandover : (drdConfigParseRuntimeMode (some "handover")).toOption = some .handover := by
    decide +kernel
  -- a mode that is not "handover" to C is not that text to the port
  have hnot : (qt.effective merged).runtimeMode ≠ some .handover →
      qt.drdConfigGetString merged "runtime_mode" ≠ "handover" := by
    intro hmode heq
    apply hmode
    simp only [effective, heq, hhandover]
  refine ⟨?_, ?_, ?_⟩
  · intro hdisabled
    simp only [effective, h.nlaDisabled hdisabled, hsystem]
  · intro hmode
    obtain ⟨hcert, hkey⟩ := h.tlsPaths (hnot hmode)
    exact ⟨by simp [effective, effective.given, hcert], by simp [effective, effective.given, hkey]⟩
  · intro henabled hmode
    obtain ⟨husername, hpassword⟩ := h.nlaCredentials henabled (hnot hmode)
    constructor
    · simp [effective, effective.given, DrdConfig.blank, husername]
    · simp [effective, effective.given, DrdConfig.blank, hpassword]

end Accepted

/-- What the port accepts is valid exactly when the input passes the checks that only the
command line's path has. -/
theorem accepted_valid_iff {path : String} {cliValues loaded merged : QVariantMap V}
    (hload : qt.drdConfigLoadFromFile path qt.defaults = .ok loaded)
    (hmerge : qt.drdConfigMergeCli cliValues loaded = .ok merged) :
    (qt.effective merged).Valid (cliValues "enable_nla").isSome
        (cliValues "disable_nla").isSome ↔
      qt.InputChecked path cliValues := by
  have hfile := applyAll_of_load hload
  obtain ⟨hcli, hrequired⟩ := merge_cases hmerge
  obtain ⟨hnla, htls, hcredentials⟩ := required_valid hrequired
  constructor
  · intro h
    exact {
      port := (port_iff hfile hcli).mp h.port
      runtimeMode := (runtimeMode_iff hfile hcli).mp h.runtimeMode
      encodingMode := (encodingMode_iff hfile hcli).mp h.encodingMode
      nlaOnce := h.nlaOnce }
  · intro h
    exact {
      port := (port_iff hfile hcli).mpr h.port
      runtimeMode := (runtimeMode_iff hfile hcli).mpr h.runtimeMode
      encodingMode := (encodingMode_iff hfile hcli).mpr h.encodingMode
      nlaOnce := h.nlaOnce
      nlaDisabled := hnla
      tlsPaths := htls
      nlaCredentials := hcredentials }

end QtCore

/-- Variants for runs: texts from a file, and what the program stores. -/
inductive PlainVariant
  | string (text : String)
  | int (number : ℤ)
  | bool (flag : Bool)
  deriving DecidableEq, Repr

namespace PlainVariant

/-- A number that is not an `int` reads as 0. -/
def toIntOrZero (number : ℤ) : ℤ := if IsInt number then number else 0

theorem toIntOrZero_isInt (number : ℤ) : IsInt (toIntOrZero number) := by
  unfold toIntOrZero
  split_ifs with h
  · exact h
  · decide

/-- `QString::toInt` of a text of digits, and 0 for any other. -/
def decimal (text : String) : ℤ :=
  if text ≠ "" ∧ text.toList.all Char.isDigit then
    toIntOrZero (text.toList.foldl (fun number digit => 10 * number + (digit.toNat - '0'.toNat)) 0)
  else 0

def qtCore (existing : List String) (file : List (String × String)) : QtCore PlainVariant where
  toString
    | string text => text
    | int number => ToString.toString number
    | bool flag => if flag then "true" else "false"
  toInt
    | string text => decimal text
    | int number => toIntOrZero number
    | bool flag => if flag then 1 else 0
  toBool
    | string text => text.toLower ∉ ["", "0", "false"]
    | int number => number ≠ 0
    | bool flag => flag
  ofString := string
  ofInt := int
  ofBool := bool
  toString_ofString _ := rfl
  toInt_isInt
    | string text => by
      dsimp only [decimal]
      split_ifs
      · exact toIntOrZero_isInt _
      · decide
    | int number => toIntOrZero_isInt number
    | bool flag => by cases flag <;> decide
  toInt_ofInt _ h := if_pos h
  toBool_ofBool _ := rfl
  toLower := String.toLower
  fileExists name := name ∈ existing
  absolutePath _ := "/etc"
  filePath dir name := dir ++ "/" ++ name
  settings _ key := (file.lookup key).map string

end PlainVariant

/-- A file with all that a user session needs, and with the port `port`. -/
def userSession (port : String) : QtCore PlainVariant :=
  PlainVariant.qtCore ["/etc/drd.ini", "/etc/server.crt", "/etc/server.key"] [
    ("server/port", port),
    ("tls/certificate", "/etc/server.crt"),
    ("tls/private_key", "/etc/server.key"),
    ("auth/username", "uos"),
    ("auth/password", "1"),
    ("encoding/mode", "H264")]

/-- The values after the file and an empty command line. -/
def userSessionValues (port : String) : Except String (QVariantMap PlainVariant) :=
  ((userSession port).drdConfigLoadFromFile "/etc/drd.ini" (userSession port).defaults).bind
    ((userSession port).drdConfigMergeCli fun _ => none)

theorem userSession_accepted {port : String} {values : QVariantMap PlainVariant}
    (h : userSessionValues port = .ok values) :
    ∃ loaded, (userSession port).drdConfigLoadFromFile "/etc/drd.ini"
        (userSession port).defaults = .ok loaded ∧
      (userSession port).drdConfigMergeCli (fun _ => none) loaded = .ok values := by
  cases hload : (userSession port).drdConfigLoadFromFile "/etc/drd.ini"
      (userSession port).defaults with
  | error e =>
    rw [userSessionValues, hload] at h
    cases h
  | ok loaded =>
    rw [userSessionValues, hload] at h
    exact ⟨loaded, rfl, h⟩

/-- The port of the file is taken unchecked. -/
theorem port_seventy_thousand_accepted :
    ∃ loaded merged,
      (userSession "70000").drdConfigLoadFromFile "/etc/drd.ini"
        (userSession "70000").defaults = .ok loaded ∧
      (userSession "70000").drdConfigMergeCli (fun _ => none) loaded = .ok merged ∧
      ¬ ((userSession "70000").effective merged).Valid false false := by
  have hport : (userSessionValues "70000").map
      (fun values => ((userSession "70000").effective values).port) = .ok 70000 := by
    decide +kernel
  cases hvalues : userSessionValues "70000" with
  | error e =>
    rw [hvalues] at hport
    cases hport
  | ok merged =>
    obtain ⟨loaded, hload, hmerge⟩ := userSession_accepted hvalues
    refine ⟨loaded, merged, hload, hmerge, ?_⟩
    intro hvalid
    rw [hvalues] at hport
    have heq : ((userSession "70000").effective merged).port = 70000 := Except.ok.inj hport
    -- the port of a valid configuration is at most 65535
    have hmax := hvalid.port.2
    omega

theorem user_session_valid :
    ∃ merged, userSessionValues "3391" = .ok merged ∧
      ((userSession "3391").effective merged).Valid false false := by
  have hok : (userSessionValues "3391").isOk := by decide +kernel
  cases hvalues : userSessionValues "3391" with
  | error e =>
    rw [hvalues] at hok
    cases hok
  | ok merged =>
    obtain ⟨loaded, hload, hmerge⟩ := userSession_accepted hvalues
    refine ⟨merged, rfl, (QtCore.accepted_valid_iff _ hload hmerge).mpr ?_⟩
    exact {
      port := by
        intro _ value h
        cases h
        decide +kernel
      runtimeMode := by
        intro _ value h
        cases h
      encodingMode := by
        intro _ value h
        cases h
        exact ⟨.h264, by decide +kernel⟩
      nlaOnce := by simp }

end RemoteDesktop.DRD
