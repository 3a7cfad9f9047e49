import RemoteDesktop.DRDSystemDaemon
import Mathlib.Data.List.GetD
import Mathlib.Data.List.TakeWhile

/-! `drd_routing_token_peek` and its port to Qt. Each reads a connection request that stays
on the socket: the TPKT header, the x224Crq, a line with the routing token, the rdpNegReq. -/
namespace RemoteDesktop.DRD

/-- A byte as the character that Latin-1 has for it. -/
def latin1 (b : UInt8) : Char :=
  Char.ofNat b.toNat

def routingTokenPrefix : CString :=
  "Cookie: msts=".toList

def protocolRdstls : UInt32 := 0x04

/-! The reads of a wStream. -/

def readUInt16BE (b₀ b₁ : UInt8) : UInt16 :=
  (b₀.toUInt16 <<< 8) ||| b₁.toUInt16

def readUInt16 (b₀ b₁ : UInt8) : UInt16 :=
  b₀.toUInt16 ||| (b₁.toUInt16 <<< 8)

def readUInt32 (b₀ b₁ b₂ b₃ : UInt8) : UInt32 :=
  b₀.toUInt32 ||| (b₁.toUInt32 <<< 8) ||| (b₂.toUInt32 <<< 16) ||| (b₃.toUInt32 <<< 24)

/-- `peek_bytes` waits while there are fewer bytes, which is `none`. -/
def peekBytes (available : List UInt8) (length : ℕ) : Option (List UInt8) :=
  if length ≤ available.length then some (available.take length) else none

/-- `find_cr_lf`. -/
def findCrLf (buffer : List UInt8) : Option ℕ :=
  (List.range (buffer.length - 1)).find? fun i =>
    buffer.getD i 0 = 0x0D ∧ buffer.getD (i + 1) 0 = 0x0A

/-- `g_strndup`: a NUL ends the copy. -/
def gStrndup (str : List UInt8) (n : ℕ) : CString :=
  ((str.take n).takeWhile (· ≠ 0)).map latin1

/-- The token, and the length of its line without the line break. -/
def getRoutingTokenWithoutPrefix (buffer : List UInt8) : Option (CString × ℕ) :=
  if buffer.length < routingTokenPrefix.length then none
  -- the copy of the first bytes ends at a NUL, and then differs from the prefix
  else if gStrndup buffer routingTokenPrefix.length ≠ routingTokenPrefix then none
  else
    (findCrLf buffer).map fun routingTokenLength =>
      (gStrndup (buffer.drop routingTokenPrefix.length)
        (routingTokenLength - routingTokenPrefix.length), routingTokenLength)

/-- The rdpNegReq after the token. -/
def checkRdpNegReq (routingToken : CString) (stream : List UInt8) :
    Except String RoutingTokenInfo :=
  -- without an rdpNegReq the flag stays off
  if stream.length < 8 then .ok { routingToken := some routingToken }
  else
    let rdpNegType := stream.getD 0 0
    let rdpNegLength := readUInt16 (stream.getD 2 0) (stream.getD 3 0)
    let requestedProtocols :=
      readUInt32 (stream.getD 4 0) (stream.getD 5 0) (stream.getD 6 0) (stream.getD 7 0)
    if rdpNegType ≠ 0x01 ∨ rdpNegLength ≠ 8 then .error "Wrong info on rdpNegReq"
    else
      .ok {
        requestedRdstls := requestedProtocols &&& protocolRdstls != 0
        routingToken := some routingToken }

/-- What is read of a full PDU, from its fifth byte on. -/
def checkX224Crq (tpktLength : UInt16) (stream : List UInt8) : Except String RoutingTokenInfo :=
  let lengthIndicator := stream.getD 0 0
  let crCdt := stream.getD 1 0
  let dstRef := readUInt16 (stream.getD 2 0) (stream.getD 3 0)
  let classOpt := stream.getD 6 0
  -- the comparison is of `int`s, so a short PDU makes it negative
  if (tpktLength.toNat : ℤ) - 5 ≠ lengthIndicator.toNat ∨ crCdt ≠ 0xE0 ∨ dstRef ≠ 0 ∨
      classOpt &&& 0xFC ≠ 0 then
    .error "Wrong info on x224Crq"
  else
    let stream := stream.drop 7
    match getRoutingTokenWithoutPrefix stream with
    -- no token: the rdpNegReq is not looked at
    | none => .ok {}
    | some (routingToken, routingTokenLength) =>
      checkRdpNegReq routingToken (stream.drop (routingTokenLength + 2))

/-- `drd_routing_token_peek`. -/
def drdRoutingTokenPeek (available : List UInt8) : Option (Except String RoutingTokenInfo) :=
  (peekBytes available 4).bind fun header =>
    let version := header.getD 0 0
    let tpktLength := readUInt16BE (header.getD 2 0) (header.getD 3 0)
    if version ≠ 3 then some (.error "The TPKT Header doesn't have version 3")
    else if tpktLength.toNat < 4 + 7 then some (.error "The x224Crq TPDU length is too short")
    else
      -- the whole PDU is peeked, header and all
      (peekBytes available tpktLength.toNat).map fun pdu => checkX224Crq tpktLength (pdu.drop 4)

/-! The port. A byte of a QByteArray is a signed `char`. -/

/-- `static_cast<quint16>` of a `char`, which extends the sign. -/
def quint16OfChar (c : UInt8) : UInt16 :=
  c.toInt8.toInt16.toUInt16

/-- An empty `routingToken` is a missing one. -/
structure DrdQtRoutingTokenInfo where
  requestedRdstls : Bool := false
  routingToken : CString := []
  deriving DecidableEq, Repr

/-- `find_crlf`. -/
def findCrlfFrom (buffer : List UInt8) (start : ℕ) : Option ℕ :=
  (List.range' start (buffer.length - 1 - start)).find? fun i =>
    buffer.getD i 0 = 0x0D ∧ buffer.getD (i + 1) 0 = 0x0A

/-- `read_routing_token`: the token and the end of its line. -/
def readRoutingToken (buffer : List UInt8) (start : ℕ) : Option (CString × ℕ) :=
  if (buffer.length : ℤ) - start < routingTokenPrefix.length then none
  else if ((buffer.drop start).take routingTokenPrefix.length).map latin1 ≠ routingTokenPrefix then
    none
  else
    (findCrlfFrom buffer start).map fun lineEnd =>
      let tokenStart := start + routingTokenPrefix.length
      (((buffer.drop tokenStart).take (lineEnd - tokenStart)).map latin1, lineEnd)

/-- The rdpNegReq at `afterCookie`. -/
def qtCheckRdpNegReq (token : CString) (pdu : List UInt8) (afterCookie : ℕ) :
    Except String DrdQtRoutingTokenInfo :=
  if afterCookie + 8 > pdu.length then .ok { routingToken := token }
  else
    let negType := pdu.getD afterCookie 0
    let negLength := quint16OfChar (pdu.getD (afterCookie + 2) 0) |||
      (quint16OfChar (pdu.getD (afterCookie + 3) 0) <<< 8)
    let requestedProtocols := readUInt32 (pdu.getD (afterCookie + 4) 0)
      (pdu.getD (afterCookie + 5) 0) (pdu.getD (afterCookie + 6) 0) (pdu.getD (afterCookie + 7) 0)
    if negType ≠ 0x01 ∨ negLength ≠ 8 then .error "Wrong info on rdpNegReq"
    else
      .ok {
        requestedRdstls := requestedProtocols &&& protocolRdstls != 0
        routingToken := token }

/-- `DrdQtTransport::drd_routing_token_peek` on an open connection. -/
def qtDrdRoutingTokenPeek (available : List UInt8) : Except String DrdQtRoutingTokenInfo :=
  let header := available.take 4
  if header.length < 4 then .error "TPKT header is incomplete"
  else
    let version := header.getD 0 0
    let tpktLength := (quint16OfChar (header.getD 2 0) <<< 8) ||| (header.getD 3 0).toUInt16
    if version ≠ 3 then .error "The TPKT header doesn't have version 3"
    else if tpktLength.toNat < 4 + 7 then .error "The x224Crq TPDU length is too short"
    else
      -- a PDU that is not there yet is an error here
      let pdu := available.take tpktLength.toNat
      if pdu.length < tpktLength.toNat then .error "TPKT payload is incomplete"
      else
        let lengthIndicator := pdu.getD 4 0
        let crCdt := pdu.getD 5 0
        let dstRef := (quint16OfChar (pdu.getD 6 0) <<< 8) ||| (pdu.getD 7 0).toUInt16
        let classOpt := pdu.getD 10 0
        if (tpktLength.toNat : ℤ) - 5 ≠ lengthIndicator.toNat ∨ crCdt ≠ 0xE0 ∨ dstRef ≠ 0 ∨
            classOpt &&& 0xFC ≠ 0 then
          .error "Wrong info on x224Crq"
        else
          match readRoutingToken pdu 11 with
          | none => .ok {}
          | some (token, lineEnd) =>
            -- an empty token is taken for a missing one
            if token = [] then .ok {} else qtCheckRdpNegReq token pdu (lineEnd + 2)

/-- A connection request of which everything has arrived. -/
structure CompletePdu where
  bytes : List UInt8
  header : 4 ≤ bytes.length
  complete : (readUInt16BE (bytes.getD 2 0) (bytes.getD 3 0)).toNat ≤ bytes.length

/-- The token as the callers see it. -/
def DrdQtRoutingTokenInfo.token (info : DrdQtRoutingTokenInfo) : Option CString :=
  if info.routingToken = [] then none else some info.routingToken

/-- The same verdict, and on success the same flag and the same token. -/
def PeeksAgree : Option (Except String RoutingTokenInfo) → Except String DrdQtRoutingTokenInfo → Prop
  | some (.ok info), .ok info' =>
    info.requestedRdstls = info'.requestedRdstls ∧ info.routingToken = info'.token
  | some (.error _), .error _ => True
  | _, _ => False

namespace CompletePdu

variable (p : CompletePdu)

def tpktLength : UInt16 :=
  readUInt16BE (p.bytes.getD 2 0) (p.bytes.getD 3 0)

def pdu : List UInt8 :=
  p.bytes.take p.tpktLength.toNat

/-- What follows the x224Crq. -/
def stream : List UInt8 :=
  p.pdu.drop 11

/-- The x224Crq has the length, the code, the reference and the class it must have. -/
structure X224Accepted : Prop where
  lengthIndicator : (p.tpktLength.toNat : ℤ) - 5 = (p.pdu.getD 4 0).toNat
  crCdt : p.pdu.getD 5 0 = 0xE0
  dstRef : p.pdu.getD 6 0 = 0 ∧ p.pdu.getD 7 0 = 0
  classOpt : p.pdu.getD 10 0 &&& 0xFC = 0

/-- The TPKT header and the x224Crq have nothing wrong. -/
structure Accepted : Prop where
  version : p.bytes.getD 0 0 = 3
  length : 4 + 7 ≤ p.tpktLength.toNat
  x224 : p.X224Accepted

end CompletePdu

/-- A line break starts at byte `i`. -/
def BreaksAt (buffer : List UInt8) (i : ℕ) : Prop :=
  buffer.getD i 0 = 0x0D ∧ buffer.getD (i + 1) 0 = 0x0A

/-- The bytes of the prefix. -/
def prefixBytes : List UInt8 :=
  routingTokenPrefix.map fun c => UInt8.ofNat c.toNat

/-- The request has a line with the prefix, the bytes `token` up to the first line break, and
`trailer` after it. -/
structure CookieLine (stream token trailer : List UInt8) : Prop where
  split : stream = prefixBytes ++ token ++ 0x0D :: 0x0A :: trailer
  first : ∀ i < (prefixBytes ++ token).length, ¬ BreaksAt stream i

/-- There is an rdpNegReq and its type or its length is wrong. -/
def RejectedNegReq (trailer : List UInt8) : Prop :=
  8 ≤ trailer.length ∧
    (trailer.getD 0 0 ≠ 0x01 ∨ readUInt16 (trailer.getD 2 0) (trailer.getD 3 0) ≠ 8)

/-- A request with a token line has a token, and where a NUL is in it an rdpNegReq to reject. -/
def CompletePdu.TokenPlain (p : CompletePdu) : Prop :=
  p.Accepted → ∀ token trailer, CookieLine p.stream token trailer →
    token ≠ [] ∧ (0 ∈ token → RejectedNegReq trailer)

/-! Signed bytes. -/

theorem forall_byte {P : UInt8 → Prop} (h : ∀ n : Fin 256, P ⟨⟨n⟩⟩) (b : UInt8) : P b :=
  h b.toFin

/-- The sign does not reach the upper half once it is shifted there. -/
theorem quint16OfChar_shift (b : UInt8) : quint16OfChar b <<< 8 = b.toUInt16 <<< 8 := by
  apply forall_byte (P := fun b => quint16OfChar b <<< 8 = b.toUInt16 <<< 8)
  decide +kernel

theorem uint16_eq_zero (b : UInt8) : b.toUInt16 = 0 ↔ b = 0 := by
  apply forall_byte (P := fun b => b.toUInt16 = 0 ↔ b = 0)
  decide +kernel

theorem shift_eq_zero (b : UInt8) : b.toUInt16 <<< 8 = 0 ↔ b = 0 := by
  apply forall_byte (P := fun b => b.toUInt16 <<< 8 = 0 ↔ b = 0)
  decide +kernel

/-- A part of an `or` lies in the whole. -/
theorem and_eq_of_or_eq {x z w : UInt16} (h : x ||| z = w) : x &&& w = x := by
  rw [← h]
  apply UInt16.toBitVec_inj.mp
  ext i
  simp
  grind

/-- Read either way, a byte in which only bit 3 may be set is the same number. -/
theorem quint16OfChar_of_and_eight (b : UInt8) :
    quint16OfChar b &&& 8 = quint16OfChar b ∨ b.toUInt16 &&& 8 = b.toUInt16 →
      quint16OfChar b = b.toUInt16 := by
  apply forall_byte (P := fun b =>
    quint16OfChar b &&& 8 = quint16OfChar b ∨ b.toUInt16 &&& 8 = b.toUInt16 →
      quint16OfChar b = b.toUInt16)
  decide +kernel

/-- The signed read of the rdpNegReq's length is 8 exactly when the unsigned one is. -/
theorem negLength_eq_eight (b₀ b₁ : UInt8) :
    quint16OfChar b₀ ||| (quint16OfChar b₁ <<< 8) = 8 ↔ readUInt16 b₀ b₁ = 8 := by
  -- the low byte is the only one whose sign could show
  rw [quint16OfChar_shift, readUInt16]
  constructor
  · intro h
    have hb := quint16OfChar_of_and_eight b₀ (.inl (and_eq_of_or_eq h))
    rwa [hb] at h
  · intro h
    have hb := quint16OfChar_of_and_eight b₀ (.inr (and_eq_of_or_eq h))
    rwa [hb]

theorem qtTpktLength_eq (b₀ b₁ : UInt8) :
    (quint16OfChar b₀ <<< 8) ||| b₁.toUInt16 = readUInt16BE b₀ b₁ := by
  rw [quint16OfChar_shift, readUInt16BE]

theorem qtDstRef_eq_zero (b₀ b₁ : UInt8) :
    (quint16OfChar b₀ <<< 8) ||| b₁.toUInt16 = 0 ↔ b₀ = 0 ∧ b₁ = 0 := by
  rw [quint16OfChar_shift, UInt16.or_eq_zero_iff, shift_eq_zero, uint16_eq_zero]

theorem dstRef_eq_zero (b₀ b₁ : UInt8) : readUInt16 b₀ b₁ = 0 ↔ b₀ = 0 ∧ b₁ = 0 := by
  rw [readUInt16, UInt16.or_eq_zero_iff, shift_eq_zero, uint16_eq_zero]

/-! The line with the token. -/

@[simp] theorem length_prefixBytes : prefixBytes.length = 13 := by decide

@[simp] theorem length_routingTokenPrefix : routingTokenPrefix.length = 13 := by decide

theorem latin1_prefixBytes : prefixBytes.map latin1 = routingTokenPrefix := by decide

theorem toNat_latin1 (b : UInt8) : (latin1 b).toNat = b.toNat := by
  apply forall_byte (P := fun b => (latin1 b).toNat = b.toNat)
  decide +kernel

theorem latin1_injective : Function.Injective latin1 := by
  intro a b hab
  apply UInt8.toNat_inj.mp
  rw [← toNat_latin1, hab, toNat_latin1]

/-- The line's bytes between the prefix and the line break, and the length of the line. -/
def tokenLine (stream : List UInt8) : Option (List UInt8 × ℕ) :=
  if prefixBytes <+: stream then
    (findCrLf stream).map fun n => ((stream.drop 13).take (n - 13), n)
  else none

theorem findCrLf_eq_some (buffer : List UInt8) (n : ℕ) :
    findCrLf buffer = some n ↔
      n + 1 < buffer.length ∧ BreaksAt buffer n ∧ ∀ i < n, ¬ BreaksAt buffer i := by
  rw [findCrLf, List.find?_range_eq_some]
  simp only [decide_eq_true_eq, List.mem_range, Bool.not_eq_true', decide_eq_false_iff_not]
  constructor
  · rintro ⟨h, hn, hfirst⟩
    exact ⟨by omega, h, hfirst⟩
  · rintro ⟨hn, h, hfirst⟩
    exact ⟨h, by omega, hfirst⟩

theorem findCrlfFrom_eq (buffer : List UInt8) (start : ℕ) :
    findCrlfFrom buffer start = (findCrLf (buffer.drop start)).map (start + ·) := by
  rw [findCrlfFrom, findCrLf, List.range'_eq_map_range, List.find?_map, List.length_drop,
    show buffer.length - 1 - start = buffer.length - start - 1 by omega]
  -- the same search, with the indices shifted by `start`
  congr 2
  funext i
  simp [List.getElem?_drop, Nat.add_assoc]

theorem prefix_iff_mid (stream : List UInt8) :
    (stream.take 13).map latin1 = routingTokenPrefix ↔ prefixBytes <+: stream := by
  rw [← latin1_prefixBytes, List.map_inj_right (fun _ _ => @latin1_injective _ _),
    List.prefix_iff_eq_take, length_prefixBytes]
  exact eq_comm

/-- The prefix has no NUL, so `g_strndup` copies all of it or some other text. -/
theorem prefix_iff_strndup (stream : List UInt8) :
    gStrndup stream 13 = routingTokenPrefix ↔ prefixBytes <+: stream := by
  constructor
  · intro h
    have hlength := congrArg List.length h
    -- a copy of full length was not cut
    have hself : (stream.take 13).takeWhile (· ≠ 0) = stream.take 13 := by
      apply (List.takeWhile_prefix _).eq_of_length_le
      simp only [gStrndup, List.length_map, length_routingTokenPrefix] at hlength
      rw [hlength]
      exact List.length_take_le 13 stream
    rw [gStrndup, hself] at h
    exact (prefix_iff_mid stream).mp h
  · intro h
    have htake : stream.take 13 = prefixBytes := (List.prefix_iff_eq_take.mp h).symm
    rw [gStrndup, htake]
    decide

theorem getRoutingTokenWithoutPrefix_eq (stream : List UInt8) :
    getRoutingTokenWithoutPrefix stream =
      (tokenLine stream).map fun line => (gStrndup line.1 line.1.length, line.2) := by
  rw [getRoutingTokenWithoutPrefix, tokenLine, length_routingTokenPrefix]
  by_cases hpre : prefixBytes <+: stream
  · have hlength : 13 ≤ stream.length := by simpa using hpre.length_le
    rw [if_neg (by omega), if_neg (not_not.mpr ((prefix_iff_strndup _).mpr hpre)),
      if_pos hpre]
    simp [gStrndup, Function.comp_def]
  · rw [if_neg hpre, Option.map_none, if_pos (mt (prefix_iff_strndup stream).mp hpre), ite_self]

theorem readRoutingToken_eq (buffer : List UInt8) (start : ℕ) (h : start ≤ buffer.length) :
    readRoutingToken buffer start =
      (tokenLine (buffer.drop start)).map fun line => (line.1.map latin1, start + line.2) := by
  rw [readRoutingToken, tokenLine, length_routingTokenPrefix]
  by_cases hpre : prefixBytes <+: buffer.drop start
  · have hlength : 13 ≤ buffer.length - start := by simpa using hpre.length_le
    rw [if_neg (by omega), if_neg (not_not.mpr ((prefix_iff_mid _).mpr hpre)), if_pos hpre,
      findCrlfFrom_eq]
    simp only [Option.map_map, Function.comp_def, List.drop_drop]
    congr 1
    funext n
    rw [Nat.add_sub_add_left]
  · rw [if_neg hpre, Option.map_none, if_pos (mt (prefix_iff_mid _).mp hpre), ite_self]

/-- No line break starts in the prefix. -/
theorem thirteen_le_of_breaksAt {stream : List UInt8} {n : ℕ} (hpre : prefixBytes <+: stream)
    (hbreak : BreaksAt stream n) : 13 ≤ n := by
  by_contra! hlt
  obtain ⟨rest, rfl⟩ := hpre
  have hbyte : (prefixBytes ++ rest).getD n 0 = prefixBytes.getD n 0 :=
    List.getD_append _ _ _ _ (by simpa using hlt)
  have hpre : ∀ i < 13, prefixBytes.getD i 0 ≠ 0x0D := by decide
  exact hpre n hlt (hbyte.symm.trans hbreak.1)

namespace CookieLine

variable {stream token trailer : List UInt8} (h : CookieLine stream token trailer)

include h

theorem findCrLf_eq : findCrLf stream = some (13 + token.length) := by
  have hlength : (prefixBytes ++ token).length = 13 + token.length := by simp
  rw [findCrLf_eq_some, ← hlength]
  refine ⟨?_, ?_, h.first⟩
  · rw [h.split]
    simp
    omega
  · rw [h.split]
    constructor
    · rw [List.getD_append_right _ _ _ _ le_rfl, Nat.sub_self]
      rfl
    · rw [List.getD_append_right _ _ _ _ (by omega), Nat.add_sub_cancel_left]
      rfl

theorem tokenLine_eq : tokenLine stream = some (token, 13 + token.length) := by
  have hpre : prefixBytes <+: stream := by
    rw [h.split, List.append_assoc]
    exact List.prefix_append _ _
  have hdrop : stream.drop 13 = token ++ 0x0D :: 0x0A :: trailer := by
    rw [h.split, List.append_assoc, ← length_prefixBytes, List.drop_left]
  rw [tokenLine, if_pos hpre, h.findCrLf_eq, Option.map_some, hdrop, Nat.add_sub_cancel_left,
    List.take_left]

theorem drop_line : stream.drop (13 + token.length + 2) = trailer := by
  have hlength : (prefixBytes ++ token).length = 13 + token.length := by simp
  rw [h.split, ← hlength, List.drop_length_add_append, List.drop_succ_cons, List.drop_succ_cons,
    List.drop_zero]

end CookieLine

theorem cookieLine_of_tokenLine {stream token : List UInt8} {n : ℕ}
    (h : tokenLine stream = some (token, n)) :
    CookieLine stream token (stream.drop (n + 2)) := by
  by_cases hpre : prefixBytes <+: stream
  · rw [tokenLine, if_pos hpre, Option.map_eq_some_iff] at h
    obtain ⟨m, hm, heq⟩ := h
    obtain ⟨rfl, rfl⟩ := Prod.mk.inj heq
    obtain ⟨hlength, hbreak, hfirst⟩ := (findCrLf_eq_some stream m).mp hm
    have hm13 : 13 ≤ m := thirteen_le_of_breaksAt hpre hbreak
    -- up to the line break stand the prefix and the token
    have hline : prefixBytes ++ (stream.drop 13).take (m - 13) = stream.take m := by
      have htake := List.take_add (l := stream) (i := 13) (j := m - 13)
      rw [Nat.add_sub_cancel' hm13] at htake
      rw [htake, ← length_prefixBytes, ← List.prefix_iff_eq_take.mp hpre]
    -- and from there the two bytes of the break
    have hrest : stream.drop m = 0x0D :: 0x0A :: stream.drop (m + 2) := by
      rw [List.drop_eq_getElem_cons (by omega), List.drop_eq_getElem_cons (by omega)]
      have h₀ := hbreak.1
      have h₁ := hbreak.2
      rw [List.getD_eq_getElem _ _ (by omega)] at h₀ h₁
      rw [h₀, h₁]
    have hsplit : stream = stream.take m ++ stream.drop m := (List.take_append_drop m stream).symm
    refine ⟨?_, ?_⟩
    · rwa [hrest, ← hline] at hsplit
    · rw [hline, List.length_take, min_eq_left (by omega)]
      exact hfirst
  · rw [tokenLine, if_neg hpre] at h
    cases h

/-! The rdpNegReq. -/

/-- At the same trailer the two checks agree, each with its own token. -/
theorem qtCheckRdpNegReq_eq (token token' : CString) (pdu : List UInt8) (afterCookie : ℕ) :
    qtCheckRdpNegReq token pdu afterCookie =
      (checkRdpNegReq token' (pdu.drop afterCookie)).map fun info =>
        { requestedRdstls := info.requestedRdstls, routingToken := token } := by
  -- the port reads at offsets into the PDU, C at the head of its stream
  have hbyte : ∀ k, pdu.getD (afterCookie + k) 0 = (pdu.drop afterCookie).getD k 0 := by
    intro k
    simp [List.getElem?_drop]
  have hfirst := hbyte 0
  rw [Nat.add_zero] at hfirst
  rw [qtCheckRdpNegReq, checkRdpNegReq]
  simp only [hbyte, hfirst, ne_eq, negLength_eq_eight]
  by_cases hshort : afterCookie + 8 > pdu.length
  · have hdrop : (pdu.drop afterCookie).length < 8 := by
      rw [List.length_drop]
      omega
    rw [if_pos hshort, if_pos hdrop]
    rfl
  · have hdrop : ¬ (pdu.drop afterCookie).length < 8 := by
      rw [List.length_drop]
      omega
    rw [if_neg hshort, if_neg hdrop]
    split
    · rfl
    · rfl

theorem checkRdpNegReq_eq (token : CString) (trailer : List UInt8) :
    (RejectedNegReq trailer ∧ checkRdpNegReq token trailer = .error "Wrong info on rdpNegReq") ∨
      (¬ RejectedNegReq trailer ∧ ∃ requestedRdstls, checkRdpNegReq token trailer =
        .ok { requestedRdstls := requestedRdstls, routingToken := some token }) := by
  rw [checkRdpNegReq, RejectedNegReq]
  by_cases hshort : trailer.length < 8
  · rw [if_pos hshort]
    exact .inr ⟨fun h => absurd h.1 (by omega), _, rfl⟩
  · rw [if_neg hshort]
    by_cases hbad : trailer.getD 0 0 ≠ 0x01 ∨ readUInt16 (trailer.getD 2 0) (trailer.getD 3 0) ≠ 8
    · exact .inl ⟨⟨by omega, hbad⟩, if_pos hbad⟩
    · exact .inr ⟨fun h => hbad h.2, _, if_neg hbad⟩

/-! The TPKT header and the x224Crq. -/

namespace CompletePdu

variable (p : CompletePdu)

theorem peekBytes_header : peekBytes p.bytes 4 = some (p.bytes.take 4) :=
  if_pos p.header

theorem peekBytes_pdu : peekBytes p.bytes p.tpktLength.toNat = some p.pdu :=
  if_pos p.complete

theorem length_pdu : p.pdu.length = p.tpktLength.toNat := by
  have hcomplete : p.tpktLength.toNat ≤ p.bytes.length := p.complete
  rw [pdu, List.length_take, min_eq_left hcomplete]

theorem getD_header {k : ℕ} (hk : k < 4) : (p.bytes.take 4).getD k 0 = p.bytes.getD k 0 := by
  simp [hk]

theorem getD_x224Crq (k : ℕ) : (p.pdu.drop 4).getD k 0 = p.pdu.getD (4 + k) 0 := by
  simp [List.getElem?_drop]

theorem x224_wrong_iff :
    ((p.tpktLength.toNat : ℤ) - 5 ≠ (p.pdu.getD 4 0).toNat ∨ p.pdu.getD 5 0 ≠ 0xE0 ∨
      ¬ (p.pdu.getD 6 0 = 0 ∧ p.pdu.getD 7 0 = 0) ∨ p.pdu.getD 10 0 &&& 0xFC ≠ 0) ↔
      ¬ p.X224Accepted := by
  -- four tests of the code, the four fields of `X224Accepted`
  constructor
  · rintro hwrong ⟨hindicator, hcode, href, hclass⟩
    simp only [hindicator, hcode, href, hclass] at hwrong
    simp at hwrong
  · intro h
    by_contra hnot
    simp only [not_or, not_not, ne_eq] at hnot
    exact h ⟨hnot.1, hnot.2.1, hnot.2.2.1, hnot.2.2.2⟩

theorem checkX224Crq_eq :
    (p.X224Accepted ∧ checkX224Crq p.tpktLength (p.pdu.drop 4) =
        match getRoutingTokenWithoutPrefix p.stream with
        | none => .ok {}
        | some (token, n) => checkRdpNegReq token (p.stream.drop (n + 2))) ∨
      (¬ p.X224Accepted ∧
        checkX224Crq p.tpktLength (p.pdu.drop 4) = .error "Wrong info on x224Crq") := by
  have hstream : (p.pdu.drop 4).drop 7 = p.stream := List.drop_drop
  have href : ∀ b₀ b₁ : UInt8, readUInt16 b₀ b₁ ≠ 0 ↔ ¬ (b₀ = 0 ∧ b₁ = 0) := by
    intro b₀ b₁
    exact not_congr (dstRef_eq_zero b₀ b₁)
  rw [checkX224Crq, hstream]
  simp only [getD_x224Crq, href, Nat.reduceAdd]
  by_cases h : p.X224Accepted
  · exact .inl ⟨h, if_neg (mt p.x224_wrong_iff.mp (not_not.mpr h))⟩
  · exact .inr ⟨h, if_pos (p.x224_wrong_iff.mpr h)⟩

theorem drdRoutingTokenPeek_eq :
    (p.Accepted ∧ drdRoutingTokenPeek p.bytes = some
        (match getRoutingTokenWithoutPrefix p.stream with
        | none => .ok {}
        | some (token, n) => checkRdpNegReq token (p.stream.drop (n + 2)))) ∨
      (¬ p.Accepted ∧ ∃ error, drdRoutingTokenPeek p.bytes = some (.error error)) := by
  have hlength : readUInt16BE (p.bytes.getD 2 0) (p.bytes.getD 3 0) = p.tpktLength := rfl
  rw [drdRoutingTokenPeek, peekBytes_header, Option.bind_some, p.getD_header (by omega),
    p.getD_header (by omega), p.getD_header (by omega), hlength]
  simp only [peekBytes_pdu]
  -- in the order of the checks: version, length, x224Crq
  by_cases hversion : p.bytes.getD 0 0 = 3
  · rw [if_neg (not_not.mpr hversion)]
    by_cases hshort : p.tpktLength.toNat < 4 + 7
    · rw [if_pos hshort]
      exact .inr ⟨fun h => absurd h.length (by omega), _, rfl⟩
    · rw [if_neg hshort, Option.map_some]
      rcases p.checkX224Crq_eq with ⟨hx, heq⟩ | ⟨hx, heq⟩
      · exact .inl ⟨⟨hversion, by omega, hx⟩, congrArg some heq⟩
      · exact .inr ⟨fun h => hx h.x224, _, congrArg some heq⟩
  · rw [if_pos hversion]
    exact .inr ⟨fun h => hversion h.version, _, rfl⟩

/-- The signed reads of the header and of the x224Crq accept the same requests. -/
theorem qtDrdRoutingTokenPeek_eq :
    (p.Accepted ∧ qtDrdRoutingTokenPeek p.bytes =
        match readRoutingToken p.pdu 11 with
        | none => .ok {}
        | some (token, lineEnd) =>
          if token = [] then .ok {} else qtCheckRdpNegReq token p.pdu (lineEnd + 2)) ∨
      (¬ p.Accepted ∧ ∃ error, qtDrdRoutingTokenPeek p.bytes = .error error) := by
  have hlength : (quint16OfChar (p.bytes.getD 2 0) <<< 8) ||| (p.bytes.getD 3 0).toUInt16 =
      p.tpktLength := qtTpktLength_eq _ _
  have hpdu : p.bytes.take p.tpktLength.toNat = p.pdu := rfl
  have hheader : ¬ (p.bytes.take 4).length < 4 := by
    rw [List.length_take, min_eq_left p.header]
    omega
  rw [qtDrdRoutingTokenPeek]
  simp only [p.getD_header (show 0 < 4 by omega), p.getD_header (show 2 < 4 by omega),
    p.getD_header (show 3 < 4 by omega), hlength, hpdu]
  rw [if_neg hheader]
  by_cases hversion : p.bytes.getD 0 0 = 3
  · rw [if_neg (not_not.mpr hversion)]
    by_cases hshort : p.tpktLength.toNat < 4 + 7
    · rw [if_pos hshort]
      exact .inr ⟨fun h => absurd h.length (by omega), _, rfl⟩
    · rw [if_neg hshort, if_neg (by rw [length_pdu]; omega)]
      have href : ∀ b₀ b₁ : UInt8,
          (quint16OfChar b₀ <<< 8) ||| b₁.toUInt16 ≠ 0 ↔ ¬ (b₀ = 0 ∧ b₁ = 0) := by
        intro b₀ b₁
        exact not_congr (qtDstRef_eq_zero b₀ b₁)
      simp only [href]
      by_cases hx : p.X224Accepted
      · exact .inl ⟨⟨hversion, by omega, hx⟩, if_neg (mt p.x224_wrong_iff.mp (not_not.mpr hx))⟩
      · exact .inr ⟨fun h => hx h.x224, _, if_pos (p.x224_wrong_iff.mpr hx)⟩
  · rw [if_pos hversion]
    exact .inr ⟨fun h => hversion h.version, _, rfl⟩

theorem tokenPlain_of_not_accepted (h : ¬ p.Accepted) : p.TokenPlain :=
  fun haccepted => absurd haccepted h

end CompletePdu

/-- Cut at a NUL or not, the token is the same exactly when it has none. -/
theorem gStrndup_eq_iff (token : List UInt8) :
    gStrndup token token.length = token.map latin1 ↔ 0 ∉ token := by
  rw [gStrndup, List.take_length, List.map_inj_right (fun _ _ => @latin1_injective _ _),
    List.takeWhile_eq_self_iff]
  constructor
  · intro h hmem
    simpa using h 0 hmem
  · intro h b hb
    have hne : b ≠ 0 := by
      rintro rfl
      exact h hb
    simpa using hne

/-- With a token line, each parser has its own token and the checks of the same trailer. -/
theorem tokens_agree_iff (token trailer : List UInt8) (htoken : token ≠ []) :
    PeeksAgree (some (checkRdpNegReq (gStrndup token token.length) trailer))
        ((checkRdpNegReq (gStrndup token token.length) trailer).map fun info =>
          { requestedRdstls := info.requestedRdstls, routingToken := token.map latin1 }) ↔
      (0 ∈ token → RejectedNegReq trailer) := by
  rcases checkRdpNegReq_eq (gStrndup token token.length) trailer with
    ⟨hrejected, heq⟩ | ⟨hrejected, requestedRdstls, heq⟩
  · rw [heq]
    exact iff_of_true trivial fun _ => hrejected
  · -- both accept, so the tokens have to be the same
    have hqt : (token.map latin1) ≠ [] := by simpa using htoken
    rw [heq]
    simp only [Except.map, PeeksAgree, DrdQtRoutingTokenInfo.token, if_neg hqt, true_and,
      Option.some.injEq, gStrndup_eq_iff]
    exact ⟨fun h hmem => absurd hmem h, fun h hmem => hrejected (h hmem)⟩

/-- An empty token is a token in C, or there is an rdpNegReq to reject; the port sees neither. -/
theorem empty_token_not_agree (trailer : List UInt8) :
    ¬ PeeksAgree (some (checkRdpNegReq (gStrndup [] 0) trailer)) (.ok {}) := by
  rcases checkRdpNegReq_eq (gStrndup [] 0) trailer with ⟨-, heq⟩ | ⟨-, requestedRdstls, heq⟩
  · rw [heq]
    exact id
  · rw [heq]
    intro h
    exact Option.some_ne_none _ h.2

theorem CookieLine.unique {stream token trailer token' trailer' : List UInt8}
    (h : CookieLine stream token trailer) (h' : CookieLine stream token' trailer') :
    token' = token ∧ trailer' = trailer := by
  have htoken : token' = token := by
    have hline := h'.tokenLine_eq.symm.trans h.tokenLine_eq
    exact congrArg Prod.fst (Option.some.inj hline)
  refine ⟨htoken, ?_⟩
  rw [← h.drop_line, ← h'.drop_line, htoken]

theorem CompletePdu.tokenPlain_iff {p : CompletePdu} {token trailer : List UInt8}
    (haccepted : p.Accepted) (h : CookieLine p.stream token trailer) :
    p.TokenPlain ↔ token ≠ [] ∧ (0 ∈ token → RejectedNegReq trailer) := by
  constructor
  · intro hplain
    exact hplain haccepted token trailer h
  · intro hplain _ token' trailer' h'
    obtain ⟨rfl, rfl⟩ := h.unique h'
    exact hplain

/-- On a complete request the two agree exactly when its token line, if it has one, has a token
that no NUL cuts, or one that an rdpNegReq makes both reject. -/
theorem routing_tokens_agree_iff (p : CompletePdu) :
    PeeksAgree (drdRoutingTokenPeek p.bytes) (qtDrdRoutingTokenPeek p.bytes) ↔ p.TokenPlain := by
  rcases p.drdRoutingTokenPeek_eq with ⟨haccepted, heq⟩ | ⟨hrejected, error, heq⟩
  · rcases p.qtDrdRoutingTokenPeek_eq with ⟨-, hqt⟩ | ⟨hnot, -⟩
    · have hstart : 11 ≤ p.pdu.length := by
        rw [p.length_pdu]
        exact haccepted.length
      rw [heq, hqt, getRoutingTokenWithoutPrefix_eq, readRoutingToken_eq _ _ hstart]
      have hstream : p.pdu.drop 11 = p.stream := rfl
      rw [hstream]
      rcases hline : tokenLine p.stream with _ | ⟨token, n⟩
      · -- no token line: neither has a token
        refine iff_of_true ⟨rfl, rfl⟩ ?_
        intro _ token trailer h
        exact absurd (hline.symm.trans h.tokenLine_eq) (by simp)
      · have hcookie := cookieLine_of_tokenLine hline
        rw [CompletePdu.tokenPlain_iff haccepted hcookie]
        -- the trailer is the same bytes, counted from the PDU or from the stream
        have htrailer : p.pdu.drop (11 + n + 2) = p.stream.drop (n + 2) := by
          rw [← hstream, List.drop_drop, Nat.add_assoc]
        simp only [Option.map_some]
        by_cases hempty : token = []
        · rw [if_pos (by simpa using hempty), hempty]
          exact iff_of_false (empty_token_not_agree _) fun h => h.1 rfl
        · rw [if_neg (by simpa using hempty),
            qtCheckRdpNegReq_eq _ (gStrndup token token.length), htrailer,
            tokens_agree_iff token _ hempty]
          exact (and_iff_right hempty).symm
    · exact absurd haccepted hnot
  · rcases p.qtDrdRoutingTokenPeek_eq with ⟨haccepted, -⟩ | ⟨-, error', hqt⟩
    · exact absurd haccepted hrejected
    · rw [heq, hqt]
      exact iff_of_true trivial (p.tokenPlain_of_not_accepted hrejected)

/-- A request for the empty token, whose rdpNegReq has the wrong type. -/
def emptyTokenPdu : CompletePdu where
  bytes := [3, 0, 0, 34, 29, 0xE0, 0, 0, 0, 0, 0] ++ prefixBytes ++ [0x0D, 0x0A] ++
    [2, 0, 8, 0, 4, 0, 0, 0]
  header := by decide
  complete := by decide

/-- C rejects the request, the port accepts it. -/
theorem empty_token_read_apart :
    (∃ error, drdRoutingTokenPeek emptyTokenPdu.bytes = some (.error error)) ∧
      qtDrdRoutingTokenPeek emptyTokenPdu.bytes = .ok {} ∧
      ¬ PeeksAgree (drdRoutingTokenPeek emptyTokenPdu.bytes)
        (qtDrdRoutingTokenPeek emptyTokenPdu.bytes) := by
  have hc : drdRoutingTokenPeek emptyTokenPdu.bytes = some (.error "Wrong info on rdpNegReq") := by
    decide +kernel
  have hqt : qtDrdRoutingTokenPeek emptyTokenPdu.bytes = .ok {} := by decide +kernel
  rw [hc, hqt]
  exact ⟨⟨_, rfl⟩, rfl, id⟩

end RemoteDesktop.DRD
