import Mathlib.Tactic

/-! The three spellings of a handover client's identity in `drd_system_daemon.c`:
the number, the routing token and the D-Bus object path. -/
namespace RemoteDesktop.DRD

/-- A C string without its terminator. -/
abbrev CString := List Char

/-- `DRD_REMOTE_DESKTOP_HANDOVERS_OBJECT_PATH`. -/
def handoversObjectPath : CString := "/org/deepin/RemoteDesktop/Rdp/Handovers".toList

/-- `g_strdup_printf("%s/%u", …)`. The source answers NULL for the token 0. -/
def getIdFromRoutingToken (routingToken : UInt32) : Option CString :=
  if routingToken = 0 then none
  else some (handoversObjectPath ++ '/' :: Nat.toDigits 10 routingToken.toNat)

def getRoutingTokenFromId (id : CString) : Option CString :=
  let pathPrefix := handoversObjectPath ++ ['/']
  if pathPrefix <+: id then
    match id.drop pathPrefix.length with
    | [] => none
    | token => some token
  else none

/-- `g_ascii_string_to_unsigned` at base 10: digits only, no sign, no blank, and
a value between `min` and `max`. -/
def asciiStringToUnsigned (str : CString) (min max : ℕ) : Option ℕ :=
  if str ≠ [] ∧ str.all Char.isDigit then
    let number := Nat.ofDigitChars 10 str 0
    if min ≤ number ∧ number ≤ max then some number else none
  else none

/-- The parse that every reader of a routing token makes. -/
def parseRoutingToken (str : CString) : Option UInt32 :=
  (asciiStringToUnsigned str 1 (2 ^ 32 - 1)).map UInt32.ofNat

theorem asciiStringToUnsigned_toDigits {n min max : ℕ} (hmin : min ≤ n) (hmax : n ≤ max) :
    asciiStringToUnsigned (Nat.toDigits 10 n) min max = some n := by
  have hdigits : (Nat.toDigits 10 n).all Char.isDigit := by
    rw [List.all_eq_true]
    intro c hc
    exact Nat.isDigit_of_mem_toDigits (by omega) (by omega) hc
  rw [asciiStringToUnsigned, if_pos ⟨Nat.toDigits_ne_nil, hdigits⟩]
  simp only [Nat.ofDigitChars_ten_toDigits]
  rw [if_pos ⟨hmin, hmax⟩]

theorem asciiStringToUnsigned_bounds {str : CString} {min max n : ℕ}
    (h : asciiStringToUnsigned str min max = some n) : min ≤ n ∧ n ≤ max := by
  simp only [asciiStringToUnsigned] at h
  split at h
  · split at h
    · rename_i hn
      rw [Option.some.injEq] at h
      rwa [← h]
    · simp at h
  · simp at h

theorem parseRoutingToken_ne_zero {str : CString} {n : UInt32}
    (h : parseRoutingToken str = some n) : n ≠ 0 := by
  obtain ⟨m, hm, rfl⟩ := Option.map_eq_some_iff.mp h
  have hb := asciiStringToUnsigned_bounds hm
  -- the number fits in 32 bits, so the token is 0 only where the number is
  intro h0
  have hm0 : (UInt32.ofNat m).toNat = m := UInt32.toNat_ofNat_of_lt (lt_of_le_of_lt hb.2 (by decide))
  rw [h0] at hm0
  simp at hm0
  omega

/-- The decimal of a token other than 0 parses to that token. -/
theorem parseRoutingToken_toDigits {n : UInt32} (hn : n ≠ 0) :
    parseRoutingToken (Nat.toDigits 10 n.toNat) = some n := by
  have hpos : 1 ≤ n.toNat := by
    rw [Nat.one_le_iff_ne_zero]
    intro h0
    exact hn (UInt32.toNat_inj.mp h0)
  have hmax : n.toNat ≤ 2 ^ 32 - 1 := by
    have := n.toNat_lt
    omega
  rw [parseRoutingToken, asciiStringToUnsigned_toDigits hpos hmax]
  simp

theorem getIdFromRoutingToken_eq_some {n : UInt32} {id : CString}
    (h : getIdFromRoutingToken n = some id) :
    n ≠ 0 ∧ id = handoversObjectPath ++ '/' :: Nat.toDigits 10 n.toNat := by
  unfold getIdFromRoutingToken at h
  split at h
  · simp at h
  · exact ⟨by assumption, (Option.some.inj h).symm⟩

theorem getIdFromRoutingToken_isSome {n : UInt32} (hn : n ≠ 0) :
    getIdFromRoutingToken n = some (handoversObjectPath ++ '/' :: Nat.toDigits 10 n.toNat) := by
  rw [getIdFromRoutingToken, if_neg hn]

theorem toDigits_ten_injective {m n : ℕ} (h : Nat.toDigits 10 m = Nat.toDigits 10 n) : m = n :=
  calc m = Nat.ofDigitChars 10 (Nat.toDigits 10 m) 0 := Nat.ofDigitChars_ten_toDigits.symm
    _ = Nat.ofDigitChars 10 (Nat.toDigits 10 n) 0 := by rw [h]
    _ = n := Nat.ofDigitChars_ten_toDigits

/-- Two tokens never share an object path. -/
theorem getIdFromRoutingToken_injective {m n : UInt32} {id : CString}
    (hm : getIdFromRoutingToken m = some id) (hn : getIdFromRoutingToken n = some id) : m = n := by
  have hpath := (getIdFromRoutingToken_eq_some hm).2.symm.trans (getIdFromRoutingToken_eq_some hn).2
  have hdigits := (List.cons.inj (List.append_cancel_left hpath)).2
  exact UInt32.toNat_inj.mp (toDigits_ten_injective hdigits)

/-- The token that is read back from a path is the decimal the path was built from. -/
theorem getRoutingTokenFromId_of_token {n : UInt32} {id : CString}
    (h : getIdFromRoutingToken n = some id) :
    getRoutingTokenFromId id = some (Nat.toDigits 10 n.toNat) := by
  obtain ⟨_, rfl⟩ := getIdFromRoutingToken_eq_some h
  -- the cut falls after the slash, so the digits are what is left
  have hpath : handoversObjectPath ++ '/' :: Nat.toDigits 10 n.toNat =
      (handoversObjectPath ++ ['/']) ++ Nat.toDigits 10 n.toNat := by
    rw [List.append_assoc, List.singleton_append]
  rw [getRoutingTokenFromId, hpath]
  simp only [List.prefix_append, if_true, List.drop_left]
  cases hd : Nat.toDigits 10 n.toNat with
  | nil => exact absurd hd Nat.toDigits_ne_nil
  | cons c cs => rfl

/-- A token and the path built from it name the same client. -/
theorem parseRoutingToken_getRoutingTokenFromId {n : UInt32} {id token : CString}
    (hid : getIdFromRoutingToken n = some id) (htoken : getRoutingTokenFromId id = some token) :
    parseRoutingToken token = some n := by
  rw [getRoutingTokenFromId_of_token hid, Option.some.injEq] at htoken
  rw [← htoken]
  exact parseRoutingToken_toDigits (getIdFromRoutingToken_eq_some hid).1

example : parseRoutingToken "007".toList = some 7 := by decide

example : parseRoutingToken "+7".toList = none := by decide

end RemoteDesktop.DRD
