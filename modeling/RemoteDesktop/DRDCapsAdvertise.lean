import RemoteDesktop.EventMachine
import RemoteDesktop.DRDEncodingManager

/-! The capability exchange of the graphics channel. The settings of the server and
those of the client are one object, so a negotiation reads what the one before it
has written. -/
namespace RemoteDesktop.DRD

/-- The versions of `capList`, and all others. -/
inductive CapVersion
  | v8
  | v81
  | v10
  | v101
  | v102
  | v103
  | v104
  | v105
  | v106
  | v106err
  | v107
  | other (version : UInt32)
  deriving DecidableEq, Repr

def capList : List CapVersion :=
  [.v8, .v81, .v10, .v101, .v102, .v103, .v104, .v105, .v106, .v106err, .v107]

/-- The versions that are tried by `shadow_client_caps_test_version`, in its order. -/
def testedVersions : List CapVersion :=
  [.v107, .v106, .v106err, .v105, .v104, .v103, .v102, .v101, .v10]

/-- The versions that follow them, each with a branch of its own. -/
def fallbackVersions : List CapVersion :=
  [.v81, .v8]

structure CapSet where
  version : CapVersion
  flags : UInt32
  deriving DecidableEq, Repr

def capsFlagThinclient : UInt32 := 0x01
def capsFlagSmallCache : UInt32 := 0x02
def capsFlagAvc420Enabled : UInt32 := 0x10
def capsFlagAvcDisabled : UInt32 := 0x20

def CapSet.hasFlag (c : CapSet) (flag : UInt32) : Bool :=
  c.flags &&& flag != 0

/-- The settings of a peer that the capability exchange reads or writes. -/
structure PeerSettings extends GfxSettings where
  gfxProgressiveV2 : Bool := false
  gfxPlanar : Bool := false
  gfxSmallCache : Bool := false
  gfxThinClient : Bool := false
  gfxCapsFilter : UInt32 := 0
  deriving DecidableEq

/-- A CapsAdvertise PDU with what its handling meets: the result of
`drd_runtime_encoder_prepare` and that of CapsConfirm. -/
structure CapsAdvert where
  capsSets : List CapSet
  h264 : Bool
  confirmRc : UInt32 := 0

inductive CapsRc
  | ok
  | unsupportedVersion
  | confirm (rc : UInt32)
  deriving DecidableEq, Repr

/-- `confirmed` is the capset of the call of CapsConfirm, if there was one. -/
structure CapsOutcome where
  settings : PeerSettings
  confirmed : Option CapSet := none
  keyframeRequested : Bool := false
  rc : CapsRc

/-- `shadow_are_caps_filtered`. -/
def areCapsFiltered (filter : UInt32) (caps : CapVersion) : Bool :=
  match capList.idxOf? caps with
  | some x => filter &&& (1 <<< x.toUInt32) != 0
  -- a version that is not in `capList` is always filtered out
  | none => true

/-- The first capset of a version, where the filter lets the version through. -/
def offered (filter : UInt32) (capsSets : List CapSet) (capsVersion : CapVersion) :
    Option CapSet :=
  if areCapsFiltered filter capsVersion then none
  else capsSets.find? fun c => c.version = capsVersion

namespace PeerSettings

variable (s : PeerSettings)

/-- The body of `shadow_client_caps_test_version` for the capset that it finds. -/
def confirmTested (h264 : Bool) (currentCaps : CapSet) : PeerSettings × CapSet :=
  let s := { s with gfxSmallCache := currentCaps.hasFlag capsFlagSmallCache }
  let permitted := !currentCaps.hasFlag capsFlagAvcDisabled
  let avc444v2 := permitted && s.gfxAVC444v2 && h264
  let avc444 := permitted && s.gfxAVC444 && h264
  let avc420 := permitted && s.gfxH264 && h264
  -- the other codecs are written back as they were read
  let s := { s with
    gfxAVC444v2 := avc444v2
    gfxAVC444 := avc444
    gfxH264 := avc420
    gfxProgressive := s.gfxProgressive
    gfxProgressiveV2 := s.gfxProgressiveV2
    remoteFxCodec := s.remoteFxCodec
    gfxPlanar := false }
  (s, if !avc444v2 && !avc444 && !avc420 then
      { currentCaps with flags := currentCaps.flags ||| capsFlagAvcDisabled }
    else currentCaps)

/-- Version 8.1: `GfxH264` is not read. -/
def confirm81 (h264 : Bool) (currentCaps : CapSet) : PeerSettings × CapSet :=
  ({ s with
    gfxAVC444v2 := false
    gfxAVC444 := false
    gfxThinClient := currentCaps.hasFlag capsFlagThinclient
    gfxSmallCache := currentCaps.hasFlag capsFlagSmallCache
    gfxH264 := if h264 then currentCaps.hasFlag capsFlagAvc420Enabled else false }, currentCaps)

def confirm8 (currentCaps : CapSet) : PeerSettings × CapSet :=
  ({ s with
    gfxAVC444v2 := false
    gfxAVC444 := false
    gfxH264 := false
    gfxThinClient := currentCaps.hasFlag capsFlagThinclient
    gfxSmallCache := currentCaps.hasFlag capsFlagSmallCache }, currentCaps)

/-- `shadow_client_caps_test_version`. -/
def capsTestVersion (h264 : Bool) (capsSets : List CapSet) (capsVersion : CapVersion) :
    Option (PeerSettings × CapSet) :=
  (offered s.gfxCapsFilter capsSets capsVersion).map (s.confirmTested h264)

/-- `shadow_client_rdpgfx_caps_advertise`. -/
def capsAdvertise (a : CapsAdvert) : CapsOutcome :=
  let sendCapsConfirm (r : PeerSettings × CapSet) : CapsOutcome :=
    { settings := r.1, confirmed := some r.2, keyframeRequested := true, rc := .confirm a.confirmRc }
  -- an empty PDU is answered with CHANNEL_RC_OK, and nothing is confirmed
  if a.capsSets.length = 0 then { settings := s, rc := .ok }
  else
    -- the first version that both sides have
    match testedVersions.findSome? (s.capsTestVersion a.h264 a.capsSets) with
    | some r => sendCapsConfirm r
    | none =>
      match offered s.gfxCapsFilter a.capsSets .v81 with
      | some c => sendCapsConfirm (s.confirm81 a.h264 c)
      | none =>
        match offered s.gfxCapsFilter a.capsSets .v8 with
        | some c => sendCapsConfirm (s.confirm8 c)
        | none => { settings := s, keyframeRequested := true, rc := .unsupportedVersion }

/-- The part of `drd_configure_peer_settings` that sets the codecs. -/
def configurePeerSettings (options : EncodingOptions) (h264VmSupport isVirtualMachine : Bool) :
    Except String PeerSettings :=
  if options.width = 0 ∨ options.height = 0 then .error "Encoding geometry is not configured"
  else
    let s := { s with
      remoteFxCodec := true
      gfxH264 := h264VmSupport || !isVirtualMachine
      gfxAVC444v2 := false
      gfxAVC444 := false
      gfxProgressive := true
      gfxProgressiveV2 := true
      gfxSmallCache := false
      gfxThinClient := true }
    .ok (if options.mode = .rfx then
        { s with gfxH264 := false, gfxAVC444v2 := false, gfxAVC444 := false }
      else s)

end PeerSettings

/-- A peer as the exchange sees it: its settings, and the flag of its pipeline. -/
structure PeerCaps where
  settings : PeerSettings
  capsConfirmed : Bool := false

/-- What happens to the settings of a peer, and to its pipeline. -/
inductive PeerEvent
  | capsAdvertise (a : CapsAdvert)
  | recreatePipeline

/-- A pipeline that is disabled and created again leaves the settings as they are. -/
def PeerCaps.handle (p : PeerCaps) : PeerEvent → PeerCaps
  | .capsAdvertise a =>
    let o := p.settings.capsAdvertise a
    { settings := o.settings, capsConfirmed := p.capsConfirmed || o.confirmed.isSome }
  | .recreatePipeline => { p with capsConfirmed := false }

/-- The exchanges on one peer. -/
def capsExchange : EventMachine PeerCaps PeerEvent where
  init p := p.capsConfirmed = false
  step p e := some (p.handle e)

/-- The capset that a negotiation settles on: the newest version that both sides have. -/
def negotiated (filter : UInt32) (capsSets : List CapSet) : Option CapSet :=
  (testedVersions ++ fallbackVersions).findSome? (offered filter capsSets)

/-- What the settled capset does to the settings, and the capset that is confirmed. -/
def PeerSettings.settle (s : PeerSettings) (h264 : Bool) (c : CapSet) : PeerSettings × CapSet :=
  match c.version with
  | .v81 => s.confirm81 h264 c
  | .v8 => s.confirm8 c
  | _ => s.confirmTested h264 c

section Settle

variable {filter : UInt32} {capsSets : List CapSet} {c : CapSet} {v : CapVersion}
  (s : PeerSettings)

theorem offered_version (h : offered filter capsSets v = some c) : c.version = v := by
  unfold offered at h
  split at h
  · cases h
  · have hfound := List.find?_some h
    exact of_decide_eq_true hfound

theorem settle_tested (h264 : Bool) (hv : c.version ≠ .v81) (hv' : c.version ≠ .v8) :
    s.settle h264 c = s.confirmTested h264 c := by
  unfold PeerSettings.settle
  split
  · contradiction
  · contradiction
  · rfl

theorem tested_version (h : testedVersions.findSome? (offered filter capsSets) = some c) :
    c.version ∈ testedVersions := by
  obtain ⟨v, hv, hc⟩ := List.exists_of_findSome?_eq_some h
  rw [offered_version hc]
  exact hv

theorem negotiated_nil : negotiated filter [] = none := by
  have hnone (v : CapVersion) : offered filter [] v = none := by simp [offered]
  simp [negotiated, testedVersions, fallbackVersions, hnone]

/-- The three ways to confirm a capset are one: settle the negotiated capset. -/
theorem capsAdvertise_eq (a : CapsAdvert) (ha : a.capsSets ≠ []) :
    s.capsAdvertise a =
      match negotiated s.gfxCapsFilter a.capsSets with
      | some c =>
        { settings := (s.settle a.h264 c).1, confirmed := some (s.settle a.h264 c).2
          keyframeRequested := true, rc := .confirm a.confirmRc }
      | none => { settings := s, keyframeRequested := true, rc := .unsupportedVersion } := by
  have hlen : a.capsSets.length ≠ 0 := by simpa using ha
  -- what is tried version by version is the settled capset of one search
  have htest : testedVersions.findSome? (s.capsTestVersion a.h264 a.capsSets) =
      (testedVersions.findSome? (offered s.gfxCapsFilter a.capsSets)).map
        (s.confirmTested a.h264) := by
    rw [List.map_findSome?]
    rfl
  unfold PeerSettings.capsAdvertise negotiated
  simp only [hlen, if_false, htest, List.findSome?_append]
  cases h : testedVersions.findSome? (offered s.gfxCapsFilter a.capsSets) with
  | some c =>
    have hmem := tested_version h
    -- a version from 10 on is neither of the two that follow
    have hne : c.version ≠ .v81 ∧ c.version ≠ .v8 := by
      constructor <;> intro hv <;> rw [hv] at hmem <;> revert hmem <;> decide
    simp [settle_tested s a.h264 hne.1 hne.2]
  | none =>
    cases h81 : offered s.gfxCapsFilter a.capsSets .v81 with
    | some c => simp [fallbackVersions, h81, PeerSettings.settle, offered_version h81]
    | none =>
      cases h8 : offered s.gfxCapsFilter a.capsSets .v8 with
      | some c => simp [fallbackVersions, h81, h8, PeerSettings.settle, offered_version h8]
      | none => simp [fallbackVersions, h81, h8]

/-- The newest negotiable capset settles the settings and is confirmed. -/
theorem capsAdvertise_negotiated (a : CapsAdvert) :
    ((s.capsAdvertise a).settings, (s.capsAdvertise a).confirmed) =
      ((((negotiated s.gfxCapsFilter a.capsSets).map fun c => (s.settle a.h264 c).1).getD s,
        (negotiated s.gfxCapsFilter a.capsSets).map fun c => (s.settle a.h264 c).2)) := by
  by_cases ha : a.capsSets = []
  · simp [PeerSettings.capsAdvertise, ha, negotiated_nil]
  · rw [capsAdvertise_eq s a ha]
    cases negotiated s.gfxCapsFilter a.capsSets with
    | some c => rfl
    | none => rfl

theorem capsAdvertise_settings (a : CapsAdvert) :
    (s.capsAdvertise a).settings =
      ((negotiated s.gfxCapsFilter a.capsSets).map fun c => (s.settle a.h264 c).1).getD s :=
  congrArg Prod.fst (capsAdvertise_negotiated s a)

theorem capsAdvertise_confirmed (a : CapsAdvert) :
    (s.capsAdvertise a).confirmed =
      (negotiated s.gfxCapsFilter a.capsSets).map fun c => (s.settle a.h264 c).2 :=
  congrArg Prod.snd (capsAdvertise_negotiated s a)

end Settle

/-- The capset lets the server send AVC. -/
def CapSet.permitsAvc (c : CapSet) : Bool :=
  match c.version with
  | .v81 => c.hasFlag capsFlagAvc420Enabled
  | .v8 => false
  | _ => !c.hasFlag capsFlagAvcDisabled

/-- What a PDU does to the AVC settings that it finds. -/
inductive AvcEffect
  | keeps
  | withdraws
  | grants
  deriving DecidableEq, Repr

def CapsAdvert.avcEffect (filter : UInt32) (a : CapsAdvert) : AvcEffect :=
  match negotiated filter a.capsSets with
  | none => .keeps
  | some c =>
    if !(a.h264 && c.permitsAvc) then .withdraws
    else if c.version = .v81 then .grants
    else .keeps

/-- The PDU settles on a version from 10 on, for which `GfxPlanar` is cleared. -/
def CapsAdvert.clearsPlanar (filter : UInt32) (a : CapsAdvert) : Bool :=
  (negotiated filter a.capsSets).any fun c => c.version ∉ fallbackVersions

section Effect

variable {s : PeerSettings} {c : CapSet} {h264 : Bool}

theorem permitsAvc_tested (hv : c.version ≠ .v81) (hv' : c.version ≠ .v8) :
    c.permitsAvc = !c.hasFlag capsFlagAvcDisabled := by
  unfold CapSet.permitsAvc
  split
  · contradiction
  · contradiction
  · rfl

theorem permitsAvc_v81 (hv : c.version = .v81) :
    c.permitsAvc = c.hasFlag capsFlagAvc420Enabled := by
  simp [CapSet.permitsAvc, hv]

theorem permitsAvc_v8 (hv : c.version = .v8) : c.permitsAvc = false := by
  simp [CapSet.permitsAvc, hv]

theorem settle_v81 (hv : c.version = .v81) : s.settle h264 c = s.confirm81 h264 c := by
  simp [PeerSettings.settle, hv]

theorem settle_v8 (hv : c.version = .v8) : s.settle h264 c = s.confirm8 c := by
  simp [PeerSettings.settle, hv]

/-- AVC444 stays on where it was on, for a capset from version 10 on that permits it. -/
theorem settle_gfxAVC444 :
    (s.settle h264 c).1.gfxAVC444 =
        (h264 && c.permitsAvc && decide (c.version ≠ .v81) && s.gfxAVC444) ∧
      (s.settle h264 c).1.gfxAVC444v2 =
        (h264 && c.permitsAvc && decide (c.version ≠ .v81) && s.gfxAVC444v2) := by
  by_cases h81 : c.version = .v81
  · simp [settle_v81 h81, PeerSettings.confirm81, h81]
  · by_cases h8 : c.version = .v8
    · simp [settle_v8 h8, PeerSettings.confirm8, permitsAvc_v8 h8]
    · rw [settle_tested s h264 h81 h8, permitsAvc_tested h81 h8]
      -- without the encoder all three go off, with it each keeps what it was
      cases h264 <;> simp [PeerSettings.confirmTested, h81]

/-- Version 8.1 sets `GfxH264` whatever it was. -/
theorem settle_gfxH264 :
    (s.settle h264 c).1.gfxH264 =
      (h264 && c.permitsAvc && (decide (c.version = .v81) || s.gfxH264)) := by
  by_cases h81 : c.version = .v81
  · simp [settle_v81 h81, PeerSettings.confirm81, h81, permitsAvc_v81 h81]
  · by_cases h8 : c.version = .v8
    · simp [settle_v8 h8, PeerSettings.confirm8, permitsAvc_v8 h8]
    · rw [settle_tested s h264 h81 h8, permitsAvc_tested h81 h8]
      cases h264 <;> simp [PeerSettings.confirmTested, h81]

theorem settle_gfxPlanar :
    (s.settle h264 c).1.gfxPlanar = (decide (c.version ∈ fallbackVersions) && s.gfxPlanar) := by
  by_cases h81 : c.version = .v81
  · simp [settle_v81 h81, PeerSettings.confirm81, h81, fallbackVersions]
  · by_cases h8 : c.version = .v8
    · simp [settle_v8 h8, PeerSettings.confirm8, h8, fallbackVersions]
    · simp [settle_tested s h264 h81 h8, PeerSettings.confirmTested, h81, h8, fallbackVersions]

theorem settle_gfxSmallCache :
    (s.settle h264 c).1.gfxSmallCache = c.hasFlag capsFlagSmallCache := by
  unfold PeerSettings.settle
  split <;> rfl

/-- The capset that permits AVC is confirmed as it came, unless all AVC settings are off. -/
theorem settle_confirmed :
    (s.settle h264 c).2 =
      if c.version ∉ fallbackVersions ∧
          !(s.settle h264 c).1.gfxAVC444v2 ∧ !(s.settle h264 c).1.gfxAVC444 ∧
            !(s.settle h264 c).1.gfxH264 then
        { c with flags := c.flags ||| capsFlagAvcDisabled }
      else c := by
  by_cases h81 : c.version = .v81
  · simp [settle_v81 h81, PeerSettings.confirm81, h81, fallbackVersions]
  · by_cases h8 : c.version = .v8
    · simp [settle_v8 h8, PeerSettings.confirm8, h8, fallbackVersions]
    · rw [settle_tested s h264 h81 h8]
      simp only [PeerSettings.confirmTested, fallbackVersions, List.mem_cons, h81, h8]
      congr 1
      simp [and_assoc]

/-- The settings that no negotiation changes. -/
structure SameFixed (s s' : PeerSettings) : Prop where
  gfxProgressive : s'.gfxProgressive = s.gfxProgressive
  gfxProgressiveV2 : s'.gfxProgressiveV2 = s.gfxProgressiveV2
  remoteFxCodec : s'.remoteFxCodec = s.remoteFxCodec
  remoteFxCodecId : s'.remoteFxCodecId = s.remoteFxCodecId
  gfxCapsFilter : s'.gfxCapsFilter = s.gfxCapsFilter

theorem settle_sameFixed : SameFixed s (s.settle h264 c).1 := by
  unfold PeerSettings.settle
  split <;> exact ⟨rfl, rfl, rfl, rfl, rfl⟩

theorem SameFixed.refl (s : PeerSettings) : SameFixed s s :=
  ⟨rfl, rfl, rfl, rfl, rfl⟩

theorem SameFixed.trans {s s' s'' : PeerSettings} (h : SameFixed s s') (h' : SameFixed s' s'') :
    SameFixed s s'' where
  gfxProgressive := h'.gfxProgressive.trans h.gfxProgressive
  gfxProgressiveV2 := h'.gfxProgressiveV2.trans h.gfxProgressiveV2
  remoteFxCodec := h'.remoteFxCodec.trans h.remoteFxCodec
  remoteFxCodecId := h'.remoteFxCodecId.trans h.remoteFxCodecId
  gfxCapsFilter := h'.gfxCapsFilter.trans h.gfxCapsFilter

theorem capsAdvertise_sameFixed (a : CapsAdvert) : SameFixed s (s.capsAdvertise a).settings := by
  rw [capsAdvertise_settings]
  cases negotiated s.gfxCapsFilter a.capsSets with
  | none => exact .refl s
  | some c => exact settle_sameFixed

variable (s) (a : CapsAdvert)

theorem capsAdvertise_gfxAVC444 :
    (s.capsAdvertise a).settings.gfxAVC444 =
        (decide (a.avcEffect s.gfxCapsFilter = .keeps) && s.gfxAVC444) ∧
      (s.capsAdvertise a).settings.gfxAVC444v2 =
        (decide (a.avcEffect s.gfxCapsFilter = .keeps) && s.gfxAVC444v2) := by
  rw [capsAdvertise_settings]
  unfold CapsAdvert.avcEffect
  cases negotiated s.gfxCapsFilter a.capsSets with
  | none => simp
  | some c =>
    simp only [Option.map_some, Option.getD_some, settle_gfxAVC444.1, settle_gfxAVC444.2]
    by_cases hp : c.permitsAvc = true <;> by_cases hv : c.version = .v81 <;>
      cases a.h264 <;> simp [hp, hv]

theorem capsAdvertise_gfxH264 :
    (s.capsAdvertise a).settings.gfxH264 =
      match a.avcEffect s.gfxCapsFilter with
      | .keeps => s.gfxH264
      | .withdraws => false
      | .grants => true := by
  rw [capsAdvertise_settings]
  unfold CapsAdvert.avcEffect
  cases negotiated s.gfxCapsFilter a.capsSets with
  | none => simp
  | some c =>
    simp only [Option.map_some, Option.getD_some, settle_gfxH264]
    by_cases hp : c.permitsAvc = true <;> by_cases hv : c.version = .v81 <;>
      cases a.h264 <;> simp [hp, hv]

theorem capsAdvertise_gfxPlanar :
    (s.capsAdvertise a).settings.gfxPlanar =
      (!a.clearsPlanar s.gfxCapsFilter && s.gfxPlanar) := by
  rw [capsAdvertise_settings]
  unfold CapsAdvert.clearsPlanar
  cases negotiated s.gfxCapsFilter a.capsSets with
  | none => simp
  | some c => simp [settle_gfxPlanar]

end Effect

/-- The settings that turn AVC on. -/
def avcSettings : List (PeerSettings → Bool) :=
  [fun s => s.gfxH264, fun s => s.gfxAVC444, fun s => s.gfxAVC444v2]

/-- An AVC setting is on after the PDU only where it was on before, the encoder was
prepared and the confirmed capset permits AVC. -/
def AvcOnlyIfAllowed (s : PeerSettings) (a : CapsAdvert) : Prop :=
  ∀ setting ∈ avcSettings, setting (s.capsAdvertise a).settings = true →
    setting s = true ∧ a.h264 = true ∧ ∃ c ∈ (s.capsAdvertise a).confirmed, c.permitsAvc = true

/-- No capset is negotiable only where AVC is off, and version 8.1 grants AVC only where
`GfxH264` is on. -/
def AvcGuarded (s : PeerSettings) (a : CapsAdvert) : Prop :=
  (negotiated s.gfxCapsFilter a.capsSets = none → ∀ setting ∈ avcSettings, setting s = false) ∧
    (a.avcEffect s.gfxCapsFilter = .grants → s.gfxH264 = true)

section Avc

variable {s : PeerSettings} {a : CapsAdvert}

theorem capsAdvertise_of_negotiated {c : CapSet}
    (h : negotiated s.gfxCapsFilter a.capsSets = some c) :
    (s.capsAdvertise a).settings = (s.settle a.h264 c).1 ∧
      (s.capsAdvertise a).confirmed = some (s.settle a.h264 c).2 := by
  simp [capsAdvertise_settings, capsAdvertise_confirmed, h]

theorem capsAdvertise_of_not_negotiated (h : negotiated s.gfxCapsFilter a.capsSets = none) :
    (s.capsAdvertise a).settings = s ∧ (s.capsAdvertise a).confirmed = none := by
  simp [capsAdvertise_settings, capsAdvertise_confirmed, h]

/-- A capset is confirmed as it came where an AVC setting is on after it. -/
theorem settle_confirmed_of_avc {h264 : Bool} {c : CapSet} {setting : PeerSettings → Bool}
    (hmem : setting ∈ avcSettings) (hon : setting (s.settle h264 c).1 = true) :
    (s.settle h264 c).2 = c := by
  rw [settle_confirmed, if_neg]
  intro hoff
  -- AVC_DISABLED is added only where all three are off
  simp only [avcSettings, List.mem_cons, List.not_mem_nil, or_false] at hmem
  rcases hmem with rfl | rfl | rfl <;> simp [hon] at hoff

theorem avcOnlyIfAllowed_iff : AvcOnlyIfAllowed s a ↔ AvcGuarded s a := by
  cases hneg : negotiated s.gfxCapsFilter a.capsSets with
  -- nothing is confirmed, so a setting that is on has no capset behind it
  | none =>
    have heff : a.avcEffect s.gfxCapsFilter = .keeps := by simp [CapsAdvert.avcEffect, hneg]
    obtain ⟨hset, hconf⟩ := capsAdvertise_of_not_negotiated hneg
    unfold AvcOnlyIfAllowed AvcGuarded
    simp [hset, hconf, heff, hneg]
  | some c =>
    obtain ⟨hset, hconf⟩ := capsAdvertise_of_negotiated hneg
    constructor
    · intro h
      refine ⟨fun hnone => absurd (hneg.symm.trans hnone) (by simp), ?_⟩
      intro hgrants
      -- 8.1 turns `GfxH264` on, so it has to be on before
      have hon : (s.capsAdvertise a).settings.gfxH264 = true := by
        rw [capsAdvertise_gfxH264, hgrants]
      exact (h (fun s => s.gfxH264) (by simp [avcSettings]) hon).1
    · intro h setting hmem hon
      rw [hset] at hon
      -- the confirmed capset is the one that permits AVC
      have hc : (s.settle a.h264 c).2 = c := settle_confirmed_of_avc hmem hon
      have hgrants (hv : c.version = .v81) (hh : a.h264 = true) (hp : c.permitsAvc = true) :
          s.gfxH264 = true :=
        h.2 (by simp [CapsAdvert.avcEffect, hneg, hv, hh, hp])
      have hkept : setting s = true ∧ a.h264 = true ∧ c.permitsAvc = true := by
        simp only [avcSettings, List.mem_cons, List.not_mem_nil, or_false] at hmem
        rcases hmem with rfl | rfl | rfl
        · simp only [settle_gfxH264, Bool.and_eq_true, Bool.or_eq_true, decide_eq_true_eq] at hon
          obtain ⟨⟨hh, hp⟩, hv⟩ := hon
          exact ⟨hv.elim (fun hv => hgrants hv hh hp) id, hh, hp⟩
        · simp only [settle_gfxAVC444.1, Bool.and_eq_true] at hon
          exact ⟨hon.2, hon.1.1.1, hon.1.1.2⟩
        · simp only [settle_gfxAVC444.2, Bool.and_eq_true] at hon
          exact ⟨hon.2, hon.1.1.1, hon.1.1.2⟩
      refine ⟨hkept.1, hkept.2.1, c, ?_, hkept.2.2⟩
      rw [hconf, hc]
      rfl

end Avc

/-- No frame takes an AVC branch of `encode_surface_gfx`. -/
def NoAvcBranch (p : PeerCaps) : Prop :=
  ∀ (m : EncodingManager) (input : Frame) (autoSwitch vaapiPrepare : Bool),
    (m.beginEncode p.settings.toGfxSettings input autoSwitch vaapiPrepare).2.codec ≠
        some .avc444 ∧
      (m.beginEncode p.settings.toGfxSettings input autoSwitch vaapiPrepare).2.codec ≠
        some .avc420

/-- The condition on an event of the exchange. -/
def AvcGuardedEvent (p : PeerCaps) : PeerEvent → Prop
  | .capsAdvertise a => AvcGuarded p.settings a
  | .recreatePipeline => True

section Branch

/-- All AVC settings are off. -/
def PeerSettings.AvcOff (s : PeerSettings) : Prop :=
  ∀ setting ∈ avcSettings, setting s = false

theorem avcOff_iff {s : PeerSettings} :
    s.AvcOff ↔ s.gfxH264 = false ∧ s.gfxAVC444 = false ∧ s.gfxAVC444v2 = false := by
  simp [PeerSettings.AvcOff, avcSettings]

theorem noAvcBranch_iff {p : PeerCaps} : NoAvcBranch p ↔ p.settings.AvcOff := by
  rw [avcOff_iff]
  constructor
  · intro h
    -- without the automatic switch AVC goes first
    have hcodec := h {} ⟨0, 0, 0, []⟩ false false
    simp only [EncodingManager.beginEncode, selectCodec, Bool.false_and] at hcodec
    cases h1 : p.settings.gfxH264 <;> cases h2 : p.settings.gfxAVC444 <;>
      cases h3 : p.settings.gfxAVC444v2 <;> simp [h1, h2, h3] at hcodec ⊢
  · -- no AVC codec is selected with the three settings off
    rintro ⟨h1, h2, h3⟩ m input autoSwitch vaapiPrepare
    simp only [EncodingManager.beginEncode, selectCodec, h1, h2, h3, Bool.and_false,
      Bool.false_and, Bool.or_false]
    constructor <;> split_ifs <;> simp_all

theorem avcOff_capsAdvertise {s : PeerSettings} {a : CapsAdvert} (hs : s.AvcOff) :
    (s.capsAdvertise a).settings.AvcOff ↔ AvcGuarded s a := by
  have h264 := (avcOff_iff.mp hs).1
  constructor
  · intro h
    refine ⟨fun _ => hs, ?_⟩
    intro hgrants
    have hon : (s.capsAdvertise a).settings.gfxH264 = true := by
      rw [capsAdvertise_gfxH264, hgrants]
    rw [(avcOff_iff.mp h).1] at hon
    cases hon
  · intro h
    -- a grant would need `GfxH264`, which is off
    have hgrants : a.avcEffect s.gfxCapsFilter ≠ .grants := by
      intro heff
      rw [h.2 heff] at h264
      cases h264
    rw [avcOff_iff, capsAdvertise_gfxH264, (capsAdvertise_gfxAVC444 s a).1,
      (capsAdvertise_gfxAVC444 s a).2]
    obtain ⟨-, h444, h444v2⟩ := avcOff_iff.mp hs
    cases heff : a.avcEffect s.gfxCapsFilter with
    | keeps => simp [h264, h444, h444v2]
    | withdraws => simp
    | grants => exact absurd heff hgrants

theorem configurePeerSettings_avcOff {s₀ s : PeerSettings} {options : EncodingOptions}
    {h264VmSupport isVirtualMachine : Bool}
    (h : s₀.configurePeerSettings options h264VmSupport isVirtualMachine = .ok s)
    (hoff : options.mode = .rfx ∨ (isVirtualMachine = true ∧ h264VmSupport = false)) :
    s.AvcOff := by
  unfold PeerSettings.configurePeerSettings at h
  split at h
  · cases h
  · cases h
    rw [avcOff_iff]
    -- `mode=rfx`, or a virtual machine without `h264-vm-support`
    rcases hoff with hmode | ⟨hvm, hsupport⟩
    · simp [hmode]
    · split <;> simp [hvm, hsupport]

end Branch

theorem capsExchange_run (p : PeerCaps) (es : List PeerEvent) :
    capsExchange.run p es = some (es.foldl PeerCaps.handle p) := by
  induction es generalizing p with
  | nil => rfl
  | cons e es ih => exact ih (p.handle e)

/-- A negotiation turns AVC on where it was off exactly for version 8.1, and leaves it on
exactly where nothing is negotiable. A server that is configured without AVC never takes an
AVC branch exactly while no PDU settles on version 8.1 with AVC. -/
theorem caps_advertise_avc_iff (s : PeerSettings) :
    (∀ a : CapsAdvert, AvcOnlyIfAllowed s a ↔ AvcGuarded s a) ∧
      ∀ (s₀ : PeerSettings) (options : EncodingOptions) (h264VmSupport isVirtualMachine : Bool),
        s₀.configurePeerSettings options h264VmSupport isVirtualMachine = .ok s →
        (options.mode = .rfx ∨ (isVirtualMachine = true ∧ h264VmSupport = false)) →
        ∀ es : List PeerEvent,
          capsExchange.StatesMeet NoAvcBranch { settings := s } es ↔
            capsExchange.StepsMeet AvcGuardedEvent { settings := s } es := by
  refine ⟨fun a => avcOnlyIfAllowed_iff, ?_⟩
  intro s₀ options h264VmSupport isVirtualMachine hconf hoff es
  -- AVC stays off over a step exactly where the step is guarded
  have hstep (p p' : PeerCaps) (e : PeerEvent) (hp : p.settings.AvcOff)
      (he : capsExchange.step p e = some p') : p'.settings.AvcOff ↔ AvcGuardedEvent p e := by
    cases he
    cases e with
    | capsAdvertise a => exact avcOff_capsAdvertise hp
    | recreatePipeline => exact ⟨fun _ => trivial, fun _ => hp⟩
  refine EventMachine.statesMeet_iff_stepsMeet (K := fun p => p.settings.AvcOff) ?_ ?_ ?_
    (configurePeerSettings_avcOff hconf hoff) es (capsExchange_run _ es)
  · intro p hp
    exact noAvcBranch_iff.mpr hp
  · intro p e p' hp hC he
    exact (hstep p p' e hp he).mpr hC
  · intro p e p' hp hC he hno
    exact hC ((hstep p p' e hp he).mp (noAvcBranch_iff.mp hno))

def rfxOptions : EncodingOptions :=
  { width := 1024, height := 768, mode := .rfx }

/-- The settings of a peer of a server with `mode=rfx`. -/
def rfxSettings : PeerSettings :=
  { remoteFxCodec := true, gfxProgressive := true, gfxProgressiveV2 := true, gfxPlanar := true
    gfxThinClient := true }

/-- A client that has version 8.1 with AVC420 and, in the second PDU, 10.7 besides. -/
def avc420Advert : CapsAdvert :=
  { capsSets := [⟨.v81, capsFlagAvc420Enabled⟩, ⟨.v8, 0⟩], h264 := true }

def v107Advert : CapsAdvert :=
  { capsSets := [⟨.v81, capsFlagAvc420Enabled⟩, ⟨.v107, 0⟩], h264 := true }

theorem caps_advertise_avc_rfx :
    capsExchange.StatesMeet NoAvcBranch { settings := rfxSettings }
        [.capsAdvertise v107Advert, .recreatePipeline, .capsAdvertise v107Advert] ↔
      capsExchange.StepsMeet AvcGuardedEvent { settings := rfxSettings }
        [.capsAdvertise v107Advert, .recreatePipeline, .capsAdvertise v107Advert] :=
  (caps_advertise_avc_iff rfxSettings).2 { gfxPlanar := true } rfxOptions false false
    (by decide) (.inl rfl) _

/-- Version 8.1 turns H.264 on for a server with `mode=rfx`, and the next frame is AVC. -/
theorem avc420_granted_to_rfx :
    ({ gfxPlanar := true } : PeerSettings).configurePeerSettings rfxOptions false false =
        .ok rfxSettings ∧
      ¬ AvcOnlyIfAllowed rfxSettings avc420Advert ∧
      ¬ capsExchange.StatesMeet NoAvcBranch { settings := rfxSettings }
        [.capsAdvertise avc420Advert] := by
  have hon : (rfxSettings.capsAdvertise avc420Advert).settings.gfxH264 = true := by decide
  refine ⟨by decide, ?_, ?_⟩
  · intro h
    have hbefore := (h (fun s => s.gfxH264) (by simp [avcSettings]) hon).1
    exact absurd hbefore (by decide)
  · intro h
    have hoff := (avcOff_iff.mp (noAvcBranch_iff.mp (h.2 _ rfl))).1
    exact absurd (hoff.symm.trans hon) (by decide)

/-- The settings that a negotiation settles. -/
structure CodecSettings where
  gfxH264 : Bool
  gfxAVC444 : Bool
  gfxAVC444v2 : Bool
  gfxProgressive : Bool
  gfxProgressiveV2 : Bool
  remoteFxCodec : Bool
  gfxPlanar : Bool
  gfxSmallCache : Bool
  deriving DecidableEq, Repr

def PeerSettings.codecSettings (s : PeerSettings) : CodecSettings where
  gfxH264 := s.gfxH264
  gfxAVC444 := s.gfxAVC444
  gfxAVC444v2 := s.gfxAVC444v2
  gfxProgressive := s.gfxProgressive
  gfxProgressiveV2 := s.gfxProgressiveV2
  remoteFxCodec := s.remoteFxCodec
  gfxPlanar := s.gfxPlanar
  gfxSmallCache := s.gfxSmallCache

/-- The settings that the events of a peer leave. -/
def PeerSettings.after (s : PeerSettings) (history : List PeerEvent) : PeerSettings :=
  (history.foldl PeerCaps.handle { settings := s }).settings

/-- A confirmation that ends the history gives what the last PDU alone gives. -/
def HistoryIndependent (s₀ : PeerSettings) (history : List PeerEvent) (last : CapsAdvert) : Prop :=
  ((s₀.after history).capsAdvertise last).confirmed.isSome = true →
    ((s₀.after history).capsAdvertise last).settings.codecSettings =
        (s₀.capsAdvertise last).settings.codecSettings ∧
      ((s₀.after history).capsAdvertise last).confirmed = (s₀.capsAdvertise last).confirmed

def PeerEvent.avcEffect (filter : UInt32) : PeerEvent → AvcEffect
  | .capsAdvertise a => a.avcEffect filter
  | .recreatePipeline => .keeps

@[simp] theorem PeerEvent.avcEffect_capsAdvertise (filter : UInt32) (a : CapsAdvert) :
    (PeerEvent.capsAdvertise a).avcEffect filter = a.avcEffect filter := rfl

@[simp] theorem PeerEvent.avcEffect_recreatePipeline (filter : UInt32) :
    PeerEvent.recreatePipeline.avcEffect filter = .keeps := rfl

def PeerEvent.clearsPlanar (filter : UInt32) : PeerEvent → Bool
  | .capsAdvertise a => a.clearsPlanar filter
  | .recreatePipeline => false

/-- The last change of `GfxH264` in a history. -/
def lastAvcChange (filter : UInt32) (history : List PeerEvent) : Option AvcEffect :=
  ((history.map fun e => e.avcEffect filter).filter fun x => x ≠ .keeps).getLast?

/-- No PDU of the history changes AVC444 that is configured, and the last change of
`GfxH264`, if there is one, is to what is configured. -/
def KeepsAvc (s₀ : PeerSettings) (history : List PeerEvent) : Prop :=
  ((s₀.gfxAVC444 = true ∨ s₀.gfxAVC444v2 = true) →
      ∀ e ∈ history, e.avcEffect s₀.gfxCapsFilter = .keeps) ∧
    ∀ x ∈ lastAvcChange s₀.gfxCapsFilter history, (x = .grants ↔ s₀.gfxH264 = true)

/-- The history keeps what the last PDU reads: the AVC settings for a version from 10 on
that permits AVC, and `GfxPlanar` for the versions that do not clear it. -/
def HistoryKeeps (s₀ : PeerSettings) (history : List PeerEvent) (last : CapsAdvert) : Prop :=
  ∀ c ∈ negotiated s₀.gfxCapsFilter last.capsSets,
    if c.version ∈ fallbackVersions then
      s₀.gfxPlanar = true → ∀ e ∈ history, e.clearsPlanar s₀.gfxCapsFilter = false
    else last.h264 = true → c.permitsAvc = true → KeepsAvc s₀ history

section History

variable (s₀ : PeerSettings) (history : List PeerEvent)

theorem after_append (e : PeerEvent) :
    s₀.after (history ++ [e]) =
      match e with
      | .capsAdvertise a => ((s₀.after history).capsAdvertise a).settings
      | .recreatePipeline => s₀.after history := by
  unfold PeerSettings.after
  rw [List.foldl_append]
  cases e with
  | capsAdvertise a => rfl
  | recreatePipeline => rfl

theorem after_sameFixed : SameFixed s₀ (s₀.after history) := by
  -- on the last event of the history
  induction history using List.reverseRecOn with
  | nil => exact .refl s₀
  | append_singleton history e ih =>
    rw [after_append]
    cases e with
    | capsAdvertise a => exact ih.trans (capsAdvertise_sameFixed a)
    | recreatePipeline => exact ih

theorem after_gfxAVC444 :
    (s₀.after history).gfxAVC444 =
        (history.all (fun e => e.avcEffect s₀.gfxCapsFilter = .keeps) && s₀.gfxAVC444) ∧
      (s₀.after history).gfxAVC444v2 =
        (history.all (fun e => e.avcEffect s₀.gfxCapsFilter = .keeps) && s₀.gfxAVC444v2) := by
  -- nothing ever turns AVC444 on again, so every PDU counts
  induction history using List.reverseRecOn with
  | nil => simp [PeerSettings.after]
  | append_singleton history e ih =>
    rw [after_append]
    cases e with
    | capsAdvertise a =>
      simp only [capsAdvertise_gfxAVC444, (after_sameFixed s₀ history).gfxCapsFilter, ih.1, ih.2,
        List.all_append, List.all_cons, List.all_nil, PeerEvent.avcEffect_capsAdvertise]
      constructor <;> ac_rfl
    | recreatePipeline => simpa using ih

theorem after_gfxH264 :
    (s₀.after history).gfxH264 =
      match lastAvcChange s₀.gfxCapsFilter history with
      | some x => decide (x = .grants)
      | none => s₀.gfxH264 := by
  -- 8.1 can turn `GfxH264` on again, so the last change counts
  induction history using List.reverseRecOn with
  | nil => rfl
  | append_singleton history e ih =>
    rw [after_append]
    cases e with
    | capsAdvertise a =>
      simp only [capsAdvertise_gfxH264, (after_sameFixed s₀ history).gfxCapsFilter]
      cases heff : a.avcEffect s₀.gfxCapsFilter <;>
        simp [lastAvcChange, heff, ih]
    | recreatePipeline => simp [lastAvcChange, ih]

theorem after_gfxPlanar :
    (s₀.after history).gfxPlanar =
      (history.all (fun e => !e.clearsPlanar s₀.gfxCapsFilter) && s₀.gfxPlanar) := by
  induction history using List.reverseRecOn with
  | nil => simp [PeerSettings.after]
  | append_singleton history e ih =>
    rw [after_append]
    cases e with
    | capsAdvertise a =>
      simp [capsAdvertise_gfxPlanar, (after_sameFixed s₀ history).gfxCapsFilter, ih,
        PeerEvent.clearsPlanar, Bool.and_comm, Bool.and_left_comm]
    | recreatePipeline => simpa [PeerEvent.clearsPlanar] using ih

theorem keepsAvc_iff :
    KeepsAvc s₀ history ↔
      (s₀.after history).gfxH264 = s₀.gfxH264 ∧ (s₀.after history).gfxAVC444 = s₀.gfxAVC444 ∧
        (s₀.after history).gfxAVC444v2 = s₀.gfxAVC444v2 := by
  rw [after_gfxH264, (after_gfxAVC444 s₀ history).1, (after_gfxAVC444 s₀ history).2, KeepsAvc,
    and_comm]
  have hall : (history.all fun e => e.avcEffect s₀.gfxCapsFilter = .keeps) = true ↔
      ∀ e ∈ history, e.avcEffect s₀.gfxCapsFilter = .keeps := by simp
  refine and_congr ?_ ?_
  · cases lastAvcChange s₀.gfxCapsFilter history with
    | none => simp
    | some x => cases s₀.gfxH264 <;> simp
  · rw [← hall]
    cases s₀.gfxAVC444 <;> cases s₀.gfxAVC444v2 <;> simp

/-- The codec settings that a settled capset leaves, setting by setting. -/
theorem settle_codecSettings (s : PeerSettings) (h264 : Bool) (c : CapSet) :
    (s.settle h264 c).1.codecSettings =
      { gfxH264 := h264 && c.permitsAvc && (decide (c.version = .v81) || s.gfxH264)
        gfxAVC444 := h264 && c.permitsAvc && decide (c.version ≠ .v81) && s.gfxAVC444
        gfxAVC444v2 := h264 && c.permitsAvc && decide (c.version ≠ .v81) && s.gfxAVC444v2
        gfxProgressive := s.gfxProgressive
        gfxProgressiveV2 := s.gfxProgressiveV2
        remoteFxCodec := s.remoteFxCodec
        gfxPlanar := decide (c.version ∈ fallbackVersions) && s.gfxPlanar
        gfxSmallCache := c.hasFlag capsFlagSmallCache } := by
  have hfixed : SameFixed s (s.settle h264 c).1 := settle_sameFixed
  simp only [PeerSettings.codecSettings, settle_gfxH264, settle_gfxAVC444.1, settle_gfxAVC444.2,
    settle_gfxPlanar, settle_gfxSmallCache, hfixed.gfxProgressive, hfixed.gfxProgressiveV2,
    hfixed.remoteFxCodec]

/-- A capset from version 10 on settles to the same, from two settings that agree on what no
negotiation changes, exactly where they agree on AVC or AVC stays off. -/
theorem settle_same_tested {s s' : PeerSettings} (hfixed : SameFixed s s') (h264 : Bool)
    {c : CapSet} (hc : c.version ∉ fallbackVersions) :
    ((s'.settle h264 c).1.codecSettings = (s.settle h264 c).1.codecSettings ∧
        (s'.settle h264 c).2 = (s.settle h264 c).2) ↔
      (h264 = true → c.permitsAvc = true →
        s'.gfxH264 = s.gfxH264 ∧ s'.gfxAVC444 = s.gfxAVC444 ∧ s'.gfxAVC444v2 = s.gfxAVC444v2) := by
  have hv : c.version ≠ .v81 := by
    intro hv
    exact hc (by simp [hv, fallbackVersions])
  have htested : decide (c.version ≠ .v81) = true := decide_eq_true hv
  simp only [settle_codecSettings, settle_confirmed, settle_gfxH264, settle_gfxAVC444.1,
    settle_gfxAVC444.2, CodecSettings.mk.injEq, hfixed.gfxProgressive, hfixed.gfxProgressiveV2,
    hfixed.remoteFxCodec, htested, hc]
  -- without permission AVC is off from either settings
  by_cases hp : c.permitsAvc = true
  · cases h264 with
    | false => simp
    | true =>
      simp only [hp, hv, Bool.true_and, decide_false, Bool.false_or, not_false_eq_true,
        Bool.false_and, true_and, and_true, forall_const]
      constructor
      · intro h
        exact h.1
      · intro h
        exact ⟨h, by rw [h.1, h.2.1, h.2.2]⟩
  · simp [hp]

theorem settle_same_fallback {s s' : PeerSettings} (hfixed : SameFixed s s') (h264 : Bool)
    {c : CapSet} (hc : c.version ∈ fallbackVersions) :
    ((s'.settle h264 c).1.codecSettings = (s.settle h264 c).1.codecSettings ∧
        (s'.settle h264 c).2 = (s.settle h264 c).2) ↔
      s'.gfxPlanar = s.gfxPlanar := by
  -- neither version reads an AVC setting: 8.1 writes it, 8 clears it
  have hv : c.version = .v81 ∨ c.permitsAvc = false := by
    simp only [fallbackVersions, List.mem_cons, List.not_mem_nil, or_false] at hc
    exact hc.imp id permitsAvc_v8
  simp only [settle_codecSettings, settle_confirmed, CodecSettings.mk.injEq,
    hfixed.gfxProgressive, hfixed.gfxProgressiveV2, hfixed.remoteFxCodec, hc]
  rcases hv with hv | hp
  · simp [hv]
  · simp [hp]

end History

/-- Negotiation is independent of the history exactly where the history keeps what the last
PDU reads. -/
theorem caps_history_independent_iff (s₀ : PeerSettings) (history : List PeerEvent)
    (last : CapsAdvert) :
    HistoryIndependent s₀ history last ↔ HistoryKeeps s₀ history last := by
  have hfixed := after_sameFixed s₀ history
  unfold HistoryIndependent HistoryKeeps
  rw [capsAdvertise_confirmed, capsAdvertise_settings, capsAdvertise_confirmed,
    capsAdvertise_settings, hfixed.gfxCapsFilter]
  cases negotiated s₀.gfxCapsFilter last.capsSets with
  -- no confirmation ends the history
  | none => simp
  | some c =>
    simp only [Option.map_some, Option.isSome_some, Option.getD_some, forall_const,
      Option.some.injEq, Option.mem_def, forall_eq']
    by_cases hc : c.version ∈ fallbackVersions
    · rw [if_pos hc, settle_same_fallback hfixed last.h264 hc, after_gfxPlanar]
      cases s₀.gfxPlanar <;> simp
    · rw [if_neg hc, settle_same_tested hfixed last.h264 hc, keepsAvc_iff]

def autoOptions : EncodingOptions :=
  { width := 1024, height := 768, mode := .auto }

/-- The settings of a peer of a server with `mode=auto` on real hardware. -/
def autoSettings : PeerSettings :=
  { rfxSettings with gfxH264 := true }

def v8Advert : CapsAdvert :=
  { capsSets := [⟨.v8, 0⟩], h264 := true }

/-- A client that asks for version 8 first loses H.264 for good: the second PDU confirms
10.7 with AVC disabled. -/
theorem v8_first_loses_avc :
    ({ gfxPlanar := true } : PeerSettings).configurePeerSettings autoOptions false false =
        .ok autoSettings ∧
      ((autoSettings.after [.capsAdvertise v8Advert]).capsAdvertise v107Advert).confirmed =
        some ⟨.v107, capsFlagAvcDisabled⟩ ∧
      (autoSettings.capsAdvertise v107Advert).confirmed = some ⟨.v107, 0⟩ ∧
      ¬ HistoryIndependent autoSettings [.capsAdvertise v8Advert] v107Advert := by
  refine ⟨by decide, by decide, by decide, ?_⟩
  intro h
  have hsame := (h (by decide)).1
  exact absurd hsame (by decide)

end RemoteDesktop.DRD
