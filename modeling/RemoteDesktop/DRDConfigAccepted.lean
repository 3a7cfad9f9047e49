import RemoteDesktop.DRDConfig

/-! What is known of a configuration that `drd_config.c` has accepted: its numbers, its login and
the PAM service, which is derived from the mode unless one is given. -/
namespace RemoteDesktop.DRD

/-- The file of `--config`: its directory and what GLib parses it to. -/
structure ConfigFile where
  dirname : String
  keyfile : ConfigResult GKeyFile

/-- What an accepted configuration is, given the last PAM service that was asked for. -/
structure AcceptedConfig (override : Option String) (config : DrdConfig) : Prop where
  port : 1 ≤ config.port.toNat ∧ config.port.toNat ≤ 65535
  size : 1 ≤ config.encoding.width ∧ 1 ≤ config.encoding.height
  mode : config.encoding.mode = .rfx ∨ config.encoding.mode = .h264 ∨ config.encoding.mode = .auto
  h264 : 1 ≤ config.encoding.h264Bitrate ∧ 1 ≤ config.encoding.h264Framerate ∧
    1 ≤ config.encoding.h264Qp
  capture : 1 ≤ config.captureTargetFps ∧ 1 ≤ config.captureStatsIntervalSec
  nlaDisabled : config.nlaEnabled = false → config.runtimeMode = .system
  tlsPaths : config.runtimeMode ≠ .handover →
    ∃ certificate key, config.certificatePath = some certificate ∧ config.privateKeyPath = some key
  nlaCredentials : config.runtimeMode ≠ .handover → config.nlaEnabled = true →
    ∃ username password, config.nlaUsername = some username ∧ username ≠ "" ∧
      config.nlaPassword = some password ∧ password ≠ ""
  pamGiven : ∀ service, override = some service → config.pamService = service
  pamOfMode : override = none →
    (config.pamService = "deepin-remote-desktop-system" ↔ config.runtimeMode = .system)

/-- The later of two services that are given. NULL and the empty text give none. -/
def laterOverride (earlier value : Option String) : Option String :=
  if DrdConfig.blank value then earlier else value

/-- The last of the services given that is not empty. -/
def lastOverride (values : List (Option String)) : Option String :=
  values.foldl laterOverride none

def ConfigFile.pamOverrides : Option ConfigFile → List (Option String)
  | some { keyfile := .ok keyfile, .. } => DrdConfig.pamOverrides keyfile
  | _ => []

namespace DrdConfig

variable (paths : GPath) (currentDir : String)

/-- `drd_config_new`. -/
def new : DrdConfig := { baseDir := currentDir }

/-- `drd_config_new_from_file`. -/
def newFromFile (file : ConfigFile) : ConfigResult DrdConfig :=
  file.keyfile.bind fun keyfile =>
    loadFromKeyFile paths keyfile { new currentDir with baseDir := file.dirname }

/-- The configuration before the command line, with or without a file. -/
def load : Option ConfigFile → ConfigResult DrdConfig
  | none => .ok (new currentDir)
  | some file => newFromFile paths currentDir file

/-! The numbers. Each is a `gint` before it is stored, so `(guint)` keeps a positive one. -/

def NumbersPositive (self : DrdConfig) : Prop :=
  1 ≤ self.encoding.width ∧ 1 ≤ self.encoding.height ∧ 1 ≤ self.encoding.h264Bitrate ∧
    1 ≤ self.encoding.h264Framerate ∧ 1 ≤ self.encoding.h264Qp ∧ 1 ≤ self.captureTargetFps ∧
    1 ≤ self.captureStatsIntervalSec

theorem numbersPositive_new : NumbersPositive (new currentDir) := by
  refine ⟨?_, ?_, ?_, ?_, ?_, ?_, ?_⟩ <;> simp [new]

/-- The PAM service has a say in none of the numbers. -/
theorem numbersPositive_stable (mayOverride : Option String → Prop) :
    Stable mayOverride NumbersPositive where
  texts _ _ _ _ _ _ hs := hs
  nlaEnabled _ _ hs := hs
  flags _ _ _ _ hs := hs
  refresh _ _ _ _ hs := hs
  port _ _ _ hs := hs
  encodingMode _ _ _ hs := hs
  width _ _ hpos hs := ⟨hpos, hs.2⟩
  height _ _ hpos hs := ⟨hs.1, hpos, hs.2.2⟩
  h264Bitrate _ _ hpos hs := by
    obtain ⟨hw, hh, -, hrest⟩ := hs
    exact ⟨hw, hh, hpos, hrest⟩
  h264Framerate _ _ hpos hs := by
    obtain ⟨hw, hh, hbitrate, -, hrest⟩ := hs
    exact ⟨hw, hh, hbitrate, hpos, hrest⟩
  h264Qp _ _ hpos hs := by
    obtain ⟨hw, hh, hbitrate, hframerate, -, hrest⟩ := hs
    exact ⟨hw, hh, hbitrate, hframerate, hpos, hrest⟩
  captureTargetFps _ _ hpos hs := by
    obtain ⟨hw, hh, hbitrate, hframerate, hqp, -, hstats⟩ := hs
    exact ⟨hw, hh, hbitrate, hframerate, hqp, hpos, hstats⟩
  captureStatsIntervalSec _ _ hpos hs := by
    obtain ⟨hw, hh, hbitrate, hframerate, hqp, hfps, -⟩ := hs
    exact ⟨hw, hh, hbitrate, hframerate, hqp, hfps, hpos⟩
  runtimeMode self mode hs := by
    rw [setRuntimeModeInternal, refreshPamService]
    split_ifs <;> exact hs
  pamService self value _ hs := by
    cases value with
    | none => exact hs
    | some value =>
      dsimp only [overridePamService]
      split_ifs <;> exact hs

/-! The PAM service. -/

/-- The service of a mode where none is given. -/
def servicePam (mode : RuntimeMode) : String :=
  if mode = .system then "deepin-remote-desktop-system" else "deepin-remote-desktop"

/-- The service is the one given, or else goes by the mode. -/
def PamFollows (override : Option String) (self : DrdConfig) : Prop :=
  self.pamServiceOverridden = override.isSome ∧
    self.pamService = override.getD (servicePam self.runtimeMode)

section PamService

variable {override : Option String} {self : DrdConfig}

theorem pamFollows_new : PamFollows none (new currentDir) :=
  ⟨rfl, rfl⟩

theorem PamFollows.refresh (h : self.pamServiceOverridden = override.isSome)
    (hgiven : ∀ service, override = some service → self.pamService = service) :
    PamFollows override (refreshPamService self) := by
  cases override with
  | none =>
    rw [refreshPamService, if_neg (by simp [h])]
    by_cases hmode : self.runtimeMode = .system
    · rw [if_pos hmode]
      exact ⟨h, by simp [servicePam, hmode]⟩
    · rw [if_neg hmode]
      exact ⟨h, by simp [servicePam, hmode]⟩
  | some service =>
    rw [refreshPamService, if_pos (by simp [h])]
    exact ⟨h, hgiven service rfl⟩

/-- A change of the mode takes the service along, unless one is given. -/
theorem PamFollows.setRuntimeMode (h : PamFollows override self) (mode : RuntimeMode) :
    PamFollows override (self.setRuntimeModeInternal mode) := by
  rw [setRuntimeModeInternal]
  split_ifs
  · exact h
  · refine PamFollows.refresh h.1 ?_
    rintro service rfl
    exact h.2

/-- From then on, the later service is the one given. -/
theorem PamFollows.overridePamService (h : PamFollows override self) (value : Option String) :
    PamFollows (laterOverride override value) (self.overridePamService value) := by
  cases value with
  | none => exact h
  | some value =>
    dsimp only [DrdConfig.overridePamService]
    by_cases hempty : value = ""
    · rw [if_pos hempty, laterOverride, if_pos (by simp [blank, hempty])]
      exact h
    · rw [if_neg hempty, laterOverride, if_neg (by simp [blank, hempty])]
      exact ⟨rfl, rfl⟩

/-- The service follows one of these overrides. -/
def PamFollowsOne (overrides : Option String → Prop) (self : DrdConfig) : Prop :=
  ∃ override, overrides override ∧ PamFollows override self

theorem pamFollowsOne_stable {mayOverride overrides : Option String → Prop}
    (hlater : ∀ override value, overrides override → mayOverride value →
      overrides (laterOverride override value)) :
    Stable mayOverride (PamFollowsOne overrides) where
  texts _ _ _ _ _ _ hs := hs
  nlaEnabled _ _ hs := hs
  flags _ _ _ _ hs := hs
  refresh _ _ _ _ hs := hs
  port _ _ _ hs := hs
  encodingMode _ _ _ hs := hs
  width _ _ _ hs := hs
  height _ _ _ hs := hs
  h264Bitrate _ _ _ hs := hs
  h264Framerate _ _ _ hs := hs
  h264Qp _ _ _ hs := hs
  captureTargetFps _ _ _ hs := hs
  captureStatsIntervalSec _ _ _ hs := hs
  runtimeMode _ mode hs := by
    obtain ⟨override, hone, hs⟩ := hs
    exact ⟨override, hone, hs.setRuntimeMode mode⟩
  pamService _ value hvalue hs := by
    obtain ⟨override, hone, hs⟩ := hs
    exact ⟨_, hlater override value hone hvalue, hs.overridePamService value⟩

end PamService

section Load

variable {paths : GPath} {currentDir : String} {cli : CliOptions} {loaded merged : DrdConfig}

/-- A file has the key once, so its value is the last one, whatever was given before it. -/
theorem laterOverride_eq_last {keyfile : GKeyFile} {value earlier : Option String}
    (hvalue : value ∈ pamOverrides keyfile)
    (hearlier : earlier = none ∨ earlier = lastOverride (pamOverrides keyfile)) :
    laterOverride earlier value = lastOverride (pamOverrides keyfile) := by
  have hone : pamOverrides keyfile = [value] := by
    rw [pamOverrides] at hvalue ⊢
    split_ifs at hvalue ⊢
    · rw [List.mem_singleton.mp hvalue]
    · cases hvalue
  have hlast : lastOverride (pamOverrides keyfile) = laterOverride none value := by
    rw [hone]
    rfl
  rw [hlast] at hearlier ⊢
  rcases hearlier with rfl | rfl
  · rfl
  · rw [laterOverride, laterOverride]
    split_ifs <;> rfl

/-- The file gives its service before its mode, and no later key takes it back. -/
theorem PamFollows.loadFromKeyFile {keyfile : GKeyFile} {self self' : DrdConfig}
    (hself : PamFollows none self) (h : self.loadFromKeyFile paths keyfile = .ok self') :
    PamFollows (lastOverride (pamOverrides keyfile)) self' := by
  obtain ⟨steps, hrun, hpam, hkeeps⟩ := loadFromKeyFile_steps paths keyfile
  rw [hrun] at h
  let given := lastOverride (pamOverrides keyfile)
  -- before the key is read no service is given, or already that one
  have hbefore : Stable (· ∈ pamOverrides keyfile)
      (PamFollowsOne fun override => override = none ∨ override = given) :=
    pamFollowsOne_stable fun _ _ hone hvalue => .inr (laterOverride_eq_last hvalue hone)
  have hafter : Stable (· ∈ pamOverrides keyfile) (PamFollowsOne (· = given)) :=
    pamFollowsOne_stable fun _ _ hone hvalue => laterOverride_eq_last hvalue (.inr hone)
  have hkey : ∀ self self', PamFollowsOne (fun override => override = none ∨ override = given) self →
      loadString keyfile self "auth" "pam_service" DrdConfig.overridePamService = .ok self' →
      PamFollowsOne (· = given) self' := by
    rintro self self' ⟨override, hone, hs⟩ hload
    rw [loadString] at hload
    split_ifs at hload with hkey
    · cases hload
      exact ⟨_, laterOverride_eq_last (mem_pamOverrides hkey) hone, hs.overridePamService _⟩
    · cases hload
      have hnone : given = none := by
        show lastOverride (pamOverrides keyfile) = none
        rw [pamOverrides, if_neg hkey]
        rfl
      rw [hnone, or_self] at hone
      exact ⟨override, hone.trans hnone.symm, hs⟩
  obtain ⟨_, rfl, hfollows⟩ := runSteps_establishes hpam (hkeeps _ hbefore) (hkeeps _ hafter) hkey
    ⟨none, .inl rfl, hself⟩ h
  exact hfollows

theorem load_spec {file : Option ConfigFile} (h : load paths currentDir file = .ok loaded) :
    PortAndMode loaded ∧ NumbersPositive loaded ∧
      PamFollows (lastOverride (ConfigFile.pamOverrides file)) loaded := by
  have hnew : ∀ dir, PortAndMode (new dir) := fun dir => ⟨by simp [new], by simp [new]⟩
  cases file with
  | none =>
    cases h
    exact ⟨hnew _, numbersPositive_new currentDir, pamFollows_new currentDir⟩
  | some file =>
    obtain ⟨dirname, keyfile⟩ := file
    cases keyfile with
    | error e => cases h
    | ok keyfile =>
      have hkeys : loadFromKeyFile paths keyfile (new dirname) = .ok loaded := h
      exact ⟨(portAndMode_stable _).loadFromKeyFile (hnew _) hkeys,
        (numbersPositive_stable _).loadFromKeyFile (numbersPositive_new _) hkeys,
        PamFollows.loadFromKeyFile (pamFollows_new _) hkeys⟩

/-- The options leave the service to the mode or to the file. -/
theorem PamFollows.mergeSteps {override : Option String} (hloaded : PamFollows override loaded)
    (h : runSteps (mergeSteps paths cli) loaded = .ok merged) : PamFollows override merged := by
  have hstable : Stable (fun _ => False) (PamFollowsOne (· = override)) :=
    pamFollowsOne_stable fun _ _ _ hvalue => hvalue.elim
  obtain ⟨_, rfl, hfollows⟩ := hstable.mergeSteps ⟨override, rfl, hloaded⟩ h
  exact hfollows

theorem exists_text_of_not_blank {value : Option String} (h : ¬ blank value) :
    ∃ text, value = some text ∧ text ≠ "" := by
  cases value with
  | none => exact absurd rfl h
  | some text =>
    refine ⟨text, rfl, ?_⟩
    rintro rfl
    exact h (by simp [blank])

/-- Whatever the file and the command line say, what both layers accept is valid. -/
theorem accepted_config_valid (file : Option ConfigFile)
    (hload : load paths currentDir file = .ok loaded)
    (hmerge : loaded.mergeCli paths cli = .ok merged) :
    AcceptedConfig (lastOverride (ConfigFile.pamOverrides file)) merged := by
  obtain ⟨hport, hnumbers, hpam⟩ := load_spec hload
  obtain ⟨hsteps, hchecked⟩ := mergeCli_ok hmerge
  obtain ⟨hport, hmode⟩ := (portAndMode_stable fun _ => False).mergeSteps hport hsteps
  obtain ⟨hw, hh, hbitrate, hframerate, hqp, hfps, hstats⟩ :=
    (numbersPositive_stable fun _ => False).mergeSteps hnumbers hsteps
  obtain ⟨-, hservice⟩ := hpam.mergeSteps hsteps
  have hmax := merged.port.toNat_lt
  refine ⟨⟨hport, by omega⟩, ⟨hw, hh⟩, ?_, ⟨hbitrate, hframerate, hqp⟩, ⟨hfps, hstats⟩,
    hchecked.nlaDisabled, ?_, ?_, ?_, ?_⟩
  · cases hencoding : merged.encoding.mode with
    | rfx => exact .inl rfl
    | h264 => exact .inr (.inl rfl)
    | auto => exact .inr (.inr rfl)
    | other => exact absurd hencoding hmode
  · intro hhandover
    obtain ⟨hcertificate, hkey⟩ := hchecked.tlsPaths hhandover
    obtain ⟨certificate, hcertificate⟩ := Option.ne_none_iff_exists'.mp hcertificate
    obtain ⟨key, hkey⟩ := Option.ne_none_iff_exists'.mp hkey
    exact ⟨certificate, key, hcertificate, hkey⟩
  · intro hhandover henabled
    obtain ⟨husername, hpassword⟩ := hchecked.nlaCredentials henabled hhandover
    obtain ⟨username, husername, hnonempty⟩ := exists_text_of_not_blank husername
    obtain ⟨password, hpassword, hnonempty'⟩ := exists_text_of_not_blank hpassword
    exact ⟨username, password, husername, hnonempty, hpassword, hnonempty'⟩
  · intro service hgiven
    rw [hservice, hgiven, Option.getD_some]
  · intro hnone
    rw [hservice, hnone, Option.getD_none, servicePam]
    split_ifs with hsystem
    · simp [hsystem]
    · simp [hsystem]

end Load

/-- A file with a login and a service of its own. -/
def loginFile : ConfigFile :=
  let entries := [
    (("tls", "certificate"), "cert.pem"),
    (("tls", "private_key"), "key.pem"),
    (("auth", "username"), "user"),
    (("auth", "password"), "secret"),
    (("auth", "pam_service"), "login")]
  { dirname := "/etc"
    keyfile := .ok {
      hasKey := fun group key => (entries.lookup (group, key)).isSome
      getString := fun group key => entries.lookup (group, key)
      getInteger := fun _ _ => 0
      getDouble := fun _ _ => ⟨"", false, defaultLargeChangeThreshold⟩ } }

def joinPaths : GPath where
  isAbsolute path := path.toList.head? == some '/'
  buildFilename base path := base ++ "/" ++ path
  canonicalizeFilename path := path

def loginLoaded : DrdConfig where
  baseDir := "/etc"
  certificatePath := some "/etc/cert.pem"
  privateKeyPath := some "/etc/key.pem"
  nlaUsername := some "user"
  nlaPassword := some "secret"
  pamService := "login"
  pamServiceOverridden := true

theorem accepted_config_valid_login :
    AcceptedConfig (some "login") { loginLoaded with port := 443 } := by
  have hload : load joinPaths "/" (some loginFile) = .ok loginLoaded := by rfl
  have hmerge : loginLoaded.mergeCli joinPaths { port := 443 } =
      .ok { loginLoaded with port := 443 } := by rfl
  exact accepted_config_valid (some loginFile) hload hmerge

end DrdConfig
end RemoteDesktop.DRD
