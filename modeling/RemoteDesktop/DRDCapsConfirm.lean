import RemoteDesktop.DRDCapsAdvertise
import Mathlib.Data.Nat.Bitwise

/-! `shadow_client_rdpgfx_caps_advertise` attempt by attempt, with each call of CapsConfirm and
the flag of the pipeline. It confirms the first capset of the version that the server likes best. -/
namespace RemoteDesktop.DRD

/-- An exchange on its way: the settings, the flag of the pipeline, the capsets of the calls of
CapsConfirm in their order. -/
structure CapsRun where
  settings : PeerSettings
  capsConfirmed : Bool := false
  confirms : List CapSet := []
  keyframeRequested : Bool := false

namespace CapsRun

variable (run : CapsRun) (a : CapsAdvert)

/-- `shadow_client_send_caps_confirm`, for settings and capset as an attempt leaves them. The flag
is set whatever CapsConfirm returns. -/
def sendCapsConfirm (r : PeerSettings × CapSet) : CapsRun × CapsRc :=
  ({ run with settings := r.1, confirms := run.confirms ++ [r.2], capsConfirmed := true },
    .confirm a.confirmRc)

/-- The loop of an attempt over the capsets. -/
def tryCapsSets (confirm : PeerSettings → CapSet → PeerSettings × CapSet) (version : CapVersion) :
    List CapSet → Option (CapsRun × CapsRc)
  | [] => none
  | currentCaps :: capsSets =>
    if currentCaps.version = version then
      some (run.sendCapsConfirm a (confirm run.settings currentCaps))
    else tryCapsSets confirm version capsSets

/-- One attempt. -/
def tryVersion (confirm : PeerSettings → CapSet → PeerSettings × CapSet) (version : CapVersion) :
    Option (CapsRun × CapsRc) :=
  if areCapsFiltered run.settings.gfxCapsFilter version then none
  else run.tryCapsSets a confirm version a.capsSets

/-- The calls of `shadow_client_caps_test_version`, one after the other. -/
def testVersions : List CapVersion → Option (CapsRun × CapsRc)
  | [] => none
  | version :: versions =>
    match run.tryVersion a (fun s => s.confirmTested a.h264) version with
    | some r => some r
    | none => testVersions versions

/-- `shadow_client_rdpgfx_caps_advertise`. -/
def capsAdvertise : CapsRun × CapsRc :=
  if a.capsSets.length = 0 then (run, .ok)
  else
    let run := { run with keyframeRequested := true }
    match run.testVersions a testedVersions with
    | some r => r
    | none =>
      match run.tryVersion a (fun s => s.confirm81 a.h264) .v81 with
      | some r => r
      | none =>
        match run.tryVersion a PeerSettings.confirm8 .v8 with
        | some r => r
        | none => (run, .unsupportedVersion)

end CapsRun

/-! What is confirmed. -/

/-- The versions, the one that the server likes best first. -/
def preference : List CapVersion :=
  [.v107, .v106, .v106err, .v105, .v104, .v103, .v102, .v101, .v10, .v81, .v8]

/-- The version is one of `capList`, and the bit of its place there is not set. -/
def PassesFilter (filter : UInt32) (version : CapVersion) : Prop :=
  ∃ x, capList.idxOf? version = some x ∧ filter.toNat.testBit x = false

/-- The version is advertised and passes the filter. -/
def Negotiable (filter : UInt32) (capsSets : List CapSet) (version : CapVersion) : Prop :=
  PassesFilter filter version ∧ ∃ c ∈ capsSets, c.version = version

/-- `c` is the first capset of the best version that is negotiable. -/
structure IsChoice (filter : UInt32) (capsSets : List CapSet) (c : CapSet) : Prop where
  negotiable : Negotiable filter capsSets c.version
  best : ∃ before after, preference = before ++ c.version :: after ∧
    ∀ version ∈ before, ¬ Negotiable filter capsSets version
  first : ∃ before after, capsSets = before ++ c :: after ∧ ∀ c' ∈ before, c'.version ≠ c.version

/-- No AVC codec is left. -/
def PeerSettings.NoAvc (s : PeerSettings) : Prop :=
  s.gfxAVC444v2 = false ∧ s.gfxAVC444 = false ∧ s.gfxH264 = false

instance (s : PeerSettings) : Decidable s.NoAvc :=
  inferInstanceAs (Decidable (_ ∧ _ ∧ _))

/-- The capset as it is confirmed, where the negotiation ends with the settings `s`. -/
def confirmedCapset (s : PeerSettings) (c : CapSet) : CapSet :=
  { c with flags :=
      if (c.version ≠ .v81 ∧ c.version ≠ .v8) ∧ s.NoAvc then c.flags ||| capsFlagAvcDisabled
      else c.flags }

/-- One call of CapsConfirm, for the capset to choose. Without one the call fails, unless there is
nothing in the list. -/
structure ConfirmsExactly (run : CapsRun) (a : CapsAdvert) : Prop where
  chosen : ∀ c, IsChoice run.settings.gfxCapsFilter a.capsSets c →
    (run.capsAdvertise a).1.confirms =
        run.confirms ++ [confirmedCapset (run.capsAdvertise a).1.settings c] ∧
      (run.capsAdvertise a).2 = .confirm a.confirmRc
  none : (∀ c, ¬ IsChoice run.settings.gfxCapsFilter a.capsSets c) →
    (run.capsAdvertise a).1.confirms = run.confirms ∧
      (a.capsSets ≠ [] → (run.capsAdvertise a).2 = .unsupportedVersion)

/-- The flag of the pipeline becomes TRUE only by a CapsConfirm that returned CHANNEL_RC_OK. -/
def ConfirmedByOk (run : CapsRun) (a : CapsAdvert) : Prop :=
  run.capsConfirmed = false → (run.capsAdvertise a).1.capsConfirmed = true →
    (run.capsAdvertise a).2 = .confirm 0

/-! The attempts are the search of `negotiated`. -/

section Attempts

variable (run : CapsRun) (a : CapsAdvert)

theorem tryCapsSets_eq (confirm : PeerSettings → CapSet → PeerSettings × CapSet)
    (version : CapVersion) (capsSets : List CapSet) :
    run.tryCapsSets a confirm version capsSets =
      (capsSets.find? fun c => c.version = version).map fun c =>
        run.sendCapsConfirm a (confirm run.settings c) := by
  induction capsSets with
  | nil => rfl
  | cons c capsSets ih =>
    rw [CapsRun.tryCapsSets, List.find?_cons]
    by_cases hc : c.version = version
    · rw [if_pos hc, decide_eq_true hc]
      rfl
    · rw [if_neg hc, decide_eq_false hc, ih]

theorem tryVersion_eq (confirm : PeerSettings → CapSet → PeerSettings × CapSet)
    (version : CapVersion) :
    run.tryVersion a confirm version =
      (offered run.settings.gfxCapsFilter a.capsSets version).map fun c =>
        run.sendCapsConfirm a (confirm run.settings c) := by
  rw [CapsRun.tryVersion, offered, tryCapsSets_eq]
  split
  · rfl
  · rfl

theorem testVersions_eq (versions : List CapVersion) :
    run.testVersions a versions =
      (versions.findSome? (run.settings.capsTestVersion a.h264 a.capsSets)).map
        (run.sendCapsConfirm a) := by
  induction versions with
  | nil => rfl
  | cons version versions ih =>
    have htry : run.tryVersion a (fun s => s.confirmTested a.h264) version =
        (run.settings.capsTestVersion a.h264 a.capsSets version).map (run.sendCapsConfirm a) := by
      rw [tryVersion_eq, PeerSettings.capsTestVersion, Option.map_map]
      rfl
    rw [CapsRun.testVersions, htry, List.findSome?_cons]
    rcases run.settings.capsTestVersion a.h264 a.capsSets version with _ | r
    · exact ih
    · rfl

/-- Run attempt by attempt, the exchange has the outcome that `capsAdvertise` gives at once. -/
theorem capsRun_eq :
    (run.capsAdvertise a).1.settings = (run.settings.capsAdvertise a).settings ∧
      (run.capsAdvertise a).1.confirms =
        run.confirms ++ (run.settings.capsAdvertise a).confirmed.toList ∧
      (run.capsAdvertise a).1.capsConfirmed =
        (run.capsConfirmed || (run.settings.capsAdvertise a).confirmed.isSome) ∧
      (run.capsAdvertise a).2 = (run.settings.capsAdvertise a).rc := by
  rw [CapsRun.capsAdvertise, PeerSettings.capsAdvertise]
  by_cases hempty : a.capsSets.length = 0
  · simp only [if_pos hempty, Option.toList_none, List.append_nil, Option.isSome_none, Bool.or_false,
      and_self]
  · simp only [if_neg hempty, testVersions_eq, tryVersion_eq]
    rcases testedVersions.findSome? (run.settings.capsTestVersion a.h264 a.capsSets) with _ | r
    · rcases offered run.settings.gfxCapsFilter a.capsSets .v81 with _ | c
      · rcases offered run.settings.gfxCapsFilter a.capsSets .v8 with _ | c
        · simp
        · simp [CapsRun.sendCapsConfirm]
      · simp [CapsRun.sendCapsConfirm]
    · simp [CapsRun.sendCapsConfirm]

/-- The flag is the one that `PeerCaps.handle` keeps. -/
theorem capsRun_handle (p : PeerCaps) :
    (CapsRun.capsAdvertise { settings := p.settings, capsConfirmed := p.capsConfirmed } a).1.capsConfirmed =
      (p.handle (.capsAdvertise a)).capsConfirmed :=
  (capsRun_eq { settings := p.settings, capsConfirmed := p.capsConfirmed } a).2.2.1

end Attempts

/-! The search finds the choice. -/

section Choice

variable {filter : UInt32} {capsSets : List CapSet} {c : CapSet} {version : CapVersion}

/-- `filter & (1 << x)` is the bit `x` of the filter. -/
theorem and_shift_ne_zero (filter : UInt32) {x : ℕ} (hx : x < 32) :
    (filter &&& (1 <<< x.toUInt32) != 0) = filter.toNat.testBit x := by
  have hpow : 2 ^ x < 2 ^ 32 := Nat.pow_lt_pow_right (by omega) hx
  have hshift : ((1 : UInt32) <<< x.toUInt32).toNat = 2 ^ x := by
    rw [UInt32.toNat_shiftLeft, UInt32.toNat_ofNat', Nat.shiftLeft_eq]
    simp only [UInt32.reduceToNat, one_mul]
    rw [Nat.mod_eq_of_lt (show x < 2 ^ 32 by omega), Nat.mod_eq_of_lt hx, Nat.mod_eq_of_lt hpow]
  have hand : (filter &&& (1 <<< x.toUInt32)).toNat = (filter.toNat.testBit x).toNat * 2 ^ x := by
    rw [UInt32.toNat_and, hshift, Nat.and_two_pow]
  rw [Bool.eq_iff_iff, bne_iff_ne, ne_eq, ← UInt32.toNat_inj, hand]
  rcases filter.toNat.testBit x with _ | _
  · simp
  · simp

theorem areCapsFiltered_eq_false (filter : UInt32) (version : CapVersion) :
    areCapsFiltered filter version = false ↔ PassesFilter filter version := by
  rw [areCapsFiltered, PassesFilter]
  rcases hindex : capList.idxOf? version with _ | x
  · simp
  · have hx : x < 32 := by
      have hlength : x < capList.length := by
        obtain ⟨hlength, -⟩ := List.idxOf?_eq_some_iff.mp hindex
        exact hlength
      exact lt_trans hlength (by decide)
    simp only [and_shift_ne_zero filter hx, Option.some.injEq, exists_eq_left']

theorem offered_eq_none : offered filter capsSets version = none ↔
    ¬ Negotiable filter capsSets version := by
  rw [offered, Negotiable, ← areCapsFiltered_eq_false]
  rcases areCapsFiltered filter version with _ | _
  · simp
  · simp

theorem offered_eq_some : offered filter capsSets version = some c ↔
    PassesFilter filter version ∧ c.version = version ∧
      ∃ before after, capsSets = before ++ c :: after ∧ ∀ c' ∈ before, c'.version ≠ version := by
  rw [offered, ← areCapsFiltered_eq_false]
  rcases areCapsFiltered filter version with _ | _
  · simp [List.find?_eq_some_iff_append]
  · simp

theorem preference_eq : preference = testedVersions ++ fallbackVersions := rfl

theorem negotiated_eq_some : negotiated filter capsSets = some c ↔ IsChoice filter capsSets c := by
  rw [negotiated, ← preference_eq, List.findSome?_eq_some_iff]
  constructor
  · rintro ⟨before, version, after, hpreference, hoffered, hbefore⟩
    obtain ⟨hfilter, hversion, pre, post, hsets, hfirst⟩ := offered_eq_some.mp hoffered
    subst hversion
    have hmem : c ∈ capsSets := by
      rw [hsets]
      exact List.mem_append_right _ List.mem_cons_self
    refine ⟨⟨hfilter, c, hmem, rfl⟩, ⟨before, after, hpreference, ?_⟩, ⟨pre, post, hsets, hfirst⟩⟩
    intro version hversion
    exact offered_eq_none.mp (hbefore version hversion)
  · rintro ⟨⟨hfilter, -⟩, ⟨before, after, hpreference, hbefore⟩, hfirst⟩
    refine ⟨before, c.version, after, hpreference, ?_, ?_⟩
    · exact offered_eq_some.mpr ⟨hfilter, rfl, hfirst⟩
    · intro version hversion
      exact offered_eq_none.mpr (hbefore version hversion)

theorem negotiated_eq_none :
    negotiated filter capsSets = none ↔ ∀ c, ¬ IsChoice filter capsSets c := by
  rw [Option.eq_none_iff_forall_ne_some]
  exact forall_congr' fun c => not_congr negotiated_eq_some

theorem not_choice_nil : ¬ IsChoice filter [] c := by
  rintro ⟨⟨-, c', hmem, -⟩, -, -⟩
  cases hmem

/-- The settled capset is confirmed with its own flags, or with AVC_DISABLED added to them. -/
theorem settle_confirmedCapset {s : PeerSettings} {h264 : Bool} :
    (s.settle h264 c).2 = confirmedCapset (s.settle h264 c).1 c := by
  have hiff : (c.version ∉ fallbackVersions ∧ !(s.settle h264 c).1.gfxAVC444v2 ∧
      !(s.settle h264 c).1.gfxAVC444 ∧ !(s.settle h264 c).1.gfxH264) ↔
      (c.version ≠ .v81 ∧ c.version ≠ .v8) ∧ (s.settle h264 c).1.NoAvc := by
    simp only [PeerSettings.NoAvc, fallbackVersions, List.mem_cons, List.not_mem_nil, or_false,
      not_or, Bool.not_eq_true', ne_eq]
  rw [settle_confirmed, confirmedCapset]
  by_cases hno : (c.version ≠ .v81 ∧ c.version ≠ .v8) ∧ (s.settle h264 c).1.NoAvc
  · rw [if_pos (hiff.mpr hno), if_pos hno]
  · rw [if_neg (mt hiff.mp hno), if_neg hno]

end Choice

theorem confirmsExactly (run : CapsRun) (a : CapsAdvert) : ConfirmsExactly run a := by
  obtain ⟨hsettings, hconfirms, -, hrc⟩ := capsRun_eq run a
  constructor
  · intro c hc
    have hne : a.capsSets ≠ [] := by
      intro hempty
      rw [hempty] at hc
      exact not_choice_nil hc
    rw [hsettings, hconfirms, hrc, capsAdvertise_eq _ a hne, negotiated_eq_some.mpr hc]
    refine ⟨?_, rfl⟩
    simp only [settle_confirmedCapset, Option.toList_some]
  · intro hnone
    rw [hconfirms, hrc, capsAdvertise_confirmed, negotiated_eq_none.mpr hnone]
    refine ⟨List.append_nil _, ?_⟩
    intro hne
    rw [capsAdvertise_eq _ a hne, negotiated_eq_none.mpr hnone]

theorem confirmedByOk_iff (run : CapsRun) (a : CapsAdvert) :
    ConfirmedByOk run a ↔ run.capsConfirmed = true ∨
      (∀ c, ¬ IsChoice run.settings.gfxCapsFilter a.capsSets c) ∨ a.confirmRc = 0 := by
  obtain ⟨-, -, hflag, -⟩ := capsRun_eq run a
  obtain ⟨hchosen, hnone⟩ := confirmsExactly run a
  rw [ConfirmedByOk, hflag, capsAdvertise_confirmed]
  rcases run.capsConfirmed with _ | _
  · by_cases hchoice : ∀ c, ¬ IsChoice run.settings.gfxCapsFilter a.capsSets c
    · rw [negotiated_eq_none.mpr hchoice]
      simp [hchoice]
    · obtain ⟨c, hc⟩ := not_forall_not.mp hchoice
      rw [negotiated_eq_some.mpr hc, (hchosen c hc).2]
      simp [hchoice]
  · simp

/-- The exchange confirms exactly what it should, and only the flag does not look at what CapsConfirm
returned: it becomes TRUE by a good CapsConfirm alone exactly when it was TRUE before, or there is
nothing to confirm, or the CapsConfirm is good. -/
theorem caps_confirmed_by_ok_iff (run : CapsRun) (a : CapsAdvert) :
    ConfirmsExactly run a ∧
      (ConfirmsExactly run a ∧ ConfirmedByOk run a ↔
        run.capsConfirmed = true ∨ (∀ c, ¬ IsChoice run.settings.gfxCapsFilter a.capsSets c) ∨
          a.confirmRc = 0) := by
  have hexact := confirmsExactly run a
  refine ⟨hexact, ?_⟩
  rw [and_iff_right hexact]
  exact confirmedByOk_iff run a

/-- Version 10.7 is negotiated and its CapsConfirm fails. -/
theorem failed_confirm_counts_as_confirmed :
    let run : CapsRun := { settings := { gfxH264 := true } }
    let a : CapsAdvert := { capsSets := [⟨.v107, 0⟩], h264 := true, confirmRc := 1 }
    (run.capsAdvertise a).1.confirms = [⟨.v107, 0⟩] ∧
      (run.capsAdvertise a).2 = .confirm 1 ∧ (run.capsAdvertise a).1.capsConfirmed = true ∧
      ¬ ConfirmedByOk run a := by
  refine ⟨by decide, by decide, by decide, ?_⟩
  intro hok
  have hrc := hok rfl (by decide)
  exact absurd hrc (by decide)

end RemoteDesktop.DRD
