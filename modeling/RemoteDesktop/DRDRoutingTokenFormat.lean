import RemoteDesktop.DRDRoutingToken
import RemoteDesktop.LittleEndian

/-! The format of a connection request, in numbers, and `drd_routing_token_peek` with every read
of its buffers checked. The parser accepts the format and reads nothing else. -/
namespace RemoteDesktop.DRD

/-- Why a run of the parser stops without a verdict. -/
inductive Stop
  /-- `peek_bytes` waits for more bytes. -/
  | waits
  /-- The next byte to read is outside the buffer. -/
  | strayRead
  deriving DecidableEq, Repr

/-! A wStream is the bytes of its buffer from the pointer on. -/

def streamReadUInt8 : List UInt8 → Except Stop (UInt8 × List UInt8)
  | [] => .error .strayRead
  | b :: stream => .ok (b, stream)

def streamSeek (stream : List UInt8) (n : ℕ) : Except Stop (List UInt8) :=
  if n ≤ stream.length then .ok (stream.drop n) else .error .strayRead

def streamReadUInt16 (stream : List UInt8) : Except Stop (UInt16 × List UInt8) := do
  let (b₀, stream) ← streamReadUInt8 stream
  let (b₁, stream) ← streamReadUInt8 stream
  .ok (readUInt16 b₀ b₁, stream)

def streamReadUInt16BE (stream : List UInt8) : Except Stop (UInt16 × List UInt8) := do
  let (b₀, stream) ← streamReadUInt8 stream
  let (b₁, stream) ← streamReadUInt8 stream
  .ok (readUInt16BE b₀ b₁, stream)

def streamReadUInt32 (stream : List UInt8) : Except Stop (UInt32 × List UInt8) := do
  let (b₀, stream) ← streamReadUInt8 stream
  let (b₁, stream) ← streamReadUInt8 stream
  let (b₂, stream) ← streamReadUInt8 stream
  let (b₃, stream) ← streamReadUInt8 stream
  .ok (readUInt32 b₀ b₁ b₂ b₃, stream)

/-- `buffer[i]`. -/
def byteAt (buffer : List UInt8) (i : ℕ) : Except Stop UInt8 :=
  match buffer[i]? with
  | some b => .ok b
  | none => .error .strayRead

/-- The loop of `find_cr_lf` with `n` rounds left. -/
def findCrLfFrom (buffer : List UInt8) : ℕ → ℕ → Except Stop (Option ℕ)
  | 0, _ => .ok none
  | n + 1, i => do
    let b ← byteAt buffer i
    if b = 0x0D then
      -- `&&` reads the second byte only now
      let b' ← byteAt buffer (i + 1)
      if b' = 0x0A then .ok (some i) else findCrLfFrom buffer n (i + 1)
    else findCrLfFrom buffer n (i + 1)

/-- The copy that `g_strndup` makes, byte by byte until a NUL or `n` bytes. -/
def strncpy : List UInt8 → ℕ → Except Stop CString
  | _, 0 => .ok []
  | [], _ + 1 => .error .strayRead
  | b :: str, n + 1 =>
    if b = 0 then .ok [] else do
      let copied ← strncpy str n
      .ok (latin1 b :: copied)

/-- A difference of `size_t`s, which wraps. -/
def sizeSub (a b : ℕ) : ℕ :=
  (a + (2 ^ 64 - b)) % 2 ^ 64

/-- `get_routing_token_without_prefix`. -/
def readTokenWithoutPrefix (buffer : List UInt8) : Except Stop (Option (CString × ℕ)) :=
  if buffer.length < routingTokenPrefix.length then .ok none
  else do
    let peekedPrefix ← strncpy buffer routingTokenPrefix.length
    if peekedPrefix ≠ routingTokenPrefix then .ok none
    else
      match ← findCrLfFrom buffer (buffer.length - 1) 0 with
      | none => .ok none
      | some routingTokenLength =>
        let str ← streamSeek buffer routingTokenPrefix.length
        let routingToken ← strncpy str (sizeSub routingTokenLength routingTokenPrefix.length)
        .ok (some (routingToken, routingTokenLength))

def readRdpNegReq (routingToken : CString) (stream : List UInt8) :
    Except Stop (Except String RoutingTokenInfo) :=
  if stream.length < 8 then .ok (.ok { routingToken := some routingToken })
  else do
    let (rdpNegType, stream) ← streamReadUInt8 stream
    let stream ← streamSeek stream 1
    let (rdpNegLength, stream) ← streamReadUInt16 stream
    let (requestedProtocols, _) ← streamReadUInt32 stream
    if rdpNegType ≠ 0x01 ∨ rdpNegLength ≠ 8 then .ok (.error "Wrong info on rdpNegReq")
    else
      .ok (.ok {
        requestedRdstls := requestedProtocols &&& protocolRdstls != 0
        routingToken := some routingToken })

def readX224Crq (tpktLength : UInt16) (stream : List UInt8) :
    Except Stop (Except String RoutingTokenInfo) := do
  let (lengthIndicator, stream) ← streamReadUInt8 stream
  let (crCdt, stream) ← streamReadUInt8 stream
  let (dstRef, stream) ← streamReadUInt16 stream
  let stream ← streamSeek stream 2
  let (classOpt, stream) ← streamReadUInt8 stream
  if (tpktLength.toNat : ℤ) - 5 ≠ lengthIndicator.toNat ∨ crCdt ≠ 0xE0 ∨ dstRef ≠ 0 ∨
      classOpt &&& 0xFC ≠ 0 then
    .ok (.error "Wrong info on x224Crq")
  else
    match ← readTokenWithoutPrefix stream with
    | none => .ok (.ok {})
    | some (routingToken, routingTokenLength) =>
      let stream ← streamSeek stream (routingTokenLength + 2)
      readRdpNegReq routingToken stream

/-- `peek_bytes` into a buffer of just the bytes it asks for. -/
def peekBuffer (available : List UInt8) (length : ℕ) : Except Stop (List UInt8) :=
  match peekBytes available length with
  | some buffer => .ok buffer
  | none => .error .waits

/-- `drd_routing_token_peek` with checked reads. -/
def readRoutingTokenPeek (available : List UInt8) : Except Stop (Except String RoutingTokenInfo) := do
  let stream ← peekBuffer available 4
  let (version, stream) ← streamReadUInt8 stream
  let stream ← streamSeek stream 1
  let (tpktLength, _) ← streamReadUInt16BE stream
  if version ≠ 3 then .ok (.error "The TPKT Header doesn't have version 3")
  else if tpktLength.toNat < 4 + 7 then .ok (.error "The x224Crq TPDU length is too short")
  else
    let stream ← peekBuffer available tpktLength.toNat
    let stream ← streamSeek stream 4
    readX224Crq tpktLength stream

/-! The format, in numbers. -/

/-- At least eight bytes, of type 1 and of length 8. -/
structure RdpNegReq (trailer : List UInt8) : Prop where
  complete : 8 ≤ trailer.length
  type : trailer.getD 0 0 = 1
  length : littleEndian ((trailer.drop 2).take 2) = 8

/-- The protocol word of an rdpNegReq. -/
def protocolWord (trailer : List UInt8) : ℕ :=
  littleEndian ((trailer.drop 4).take 4)

namespace CompletePdu

variable (p : CompletePdu)

/-- The length field of the TPKT header, the high byte first. -/
def length : ℕ :=
  256 * (p.bytes.getD 2 0).toNat + (p.bytes.getD 3 0).toNat

/-- What the first eleven bytes can have wrong. -/
def HeaderWrong : Prop :=
  p.bytes.getD 0 0 ≠ 3 ∨ p.length < 11 ∨ (p.bytes.getD 4 0).toNat ≠ p.length - 5 ∨
    p.bytes.getD 5 0 ≠ 0xE0 ∨ littleEndian ((p.bytes.drop 6).take 2) ≠ 0 ∨
    p.bytes.getD 10 0 &&& 0xFC ≠ 0

/-- A token line is followed by eight bytes or more that are no rdpNegReq. -/
def NegReqWrong : Prop :=
  ∃ token trailer, CookieLine p.stream token trailer ∧ 8 ≤ trailer.length ∧ ¬ RdpNegReq trailer

/-- The token line's rdpNegReq asks for RDSTLS. -/
def AsksRdstls : Prop :=
  ∃ token trailer, CookieLine p.stream token trailer ∧ RdpNegReq trailer ∧
    (protocolWord trailer).testBit 2 = true

end CompletePdu

/-- The token as a C string, which a NUL ends. -/
def tokenText (token : List UInt8) : CString :=
  (token.takeWhile (· ≠ 0)).map latin1

/-! The reads stay in the buffer. -/

@[simp] theorem ok_bind {α β : Type} (a : α) (f : α → Except Stop β) :
    (Except.ok a >>= f) = f a :=
  rfl

theorem streamReadUInt8_eq {stream : List UInt8} (h : 0 < stream.length) :
    streamReadUInt8 stream = .ok (stream.getD 0 0, stream.drop 1) := by
  cases stream with
  | nil => simp at h
  | cons b stream => rfl

theorem streamSeek_eq {stream : List UInt8} {n : ℕ} (h : n ≤ stream.length) :
    streamSeek stream n = .ok (stream.drop n) :=
  if_pos h

theorem getD_drop (stream : List UInt8) (n k : ℕ) :
    (stream.drop n).getD k 0 = stream.getD (n + k) 0 := by
  simp [List.getElem?_drop]

theorem streamReadUInt16_eq {stream : List UInt8} (h : 2 ≤ stream.length) :
    streamReadUInt16 stream = .ok (readUInt16 (stream.getD 0 0) (stream.getD 1 0), stream.drop 2) := by
  have hnext : 0 < (stream.drop 1).length := by
    rw [List.length_drop]
    omega
  simp only [streamReadUInt16, streamReadUInt8_eq (show 0 < stream.length by omega), ok_bind,
    streamReadUInt8_eq hnext, getD_drop, List.drop_drop]

theorem streamReadUInt16BE_eq {stream : List UInt8} (h : 2 ≤ stream.length) :
    streamReadUInt16BE stream =
      .ok (readUInt16BE (stream.getD 0 0) (stream.getD 1 0), stream.drop 2) := by
  have hnext : 0 < (stream.drop 1).length := by
    rw [List.length_drop]
    omega
  simp only [streamReadUInt16BE, streamReadUInt8_eq (show 0 < stream.length by omega), ok_bind,
    streamReadUInt8_eq hnext, getD_drop, List.drop_drop]

theorem streamReadUInt32_eq {stream : List UInt8} (h : 4 ≤ stream.length) :
    streamReadUInt32 stream =
      .ok (readUInt32 (stream.getD 0 0) (stream.getD 1 0) (stream.getD 2 0) (stream.getD 3 0),
        stream.drop 4) := by
  have hnext : ∀ k < 4, 0 < (stream.drop k).length := by
    intro k hk
    rw [List.length_drop]
    omega
  simp only [streamReadUInt32, streamReadUInt8_eq (show 0 < stream.length by omega), ok_bind,
    streamReadUInt8_eq (hnext 1 (by omega)), streamReadUInt8_eq (hnext 2 (by omega)),
    streamReadUInt8_eq (hnext 3 (by omega)), List.drop_drop, getD_drop, Nat.reduceAdd]

theorem byteAt_eq {buffer : List UInt8} {i : ℕ} (h : i < buffer.length) :
    byteAt buffer i = .ok (buffer.getD i 0) := by
  rw [byteAt, List.getElem?_eq_getElem h, List.getD_eq_getElem _ _ h]

/-- The loop is the search over the indices it still has. -/
theorem findCrLfFrom_ok (buffer : List UInt8) (n i : ℕ) (h : n = 0 ∨ i + n < buffer.length) :
    findCrLfFrom buffer n i = .ok ((List.range' i n).find? fun i =>
      buffer.getD i 0 = 0x0D ∧ buffer.getD (i + 1) 0 = 0x0A) := by
  induction n generalizing i with
  | zero => rfl
  | succ n ih =>
    have hi : i + (n + 1) < buffer.length := by
      rcases h with h | h
      · omega
      · exact h
    have hnext := ih (i + 1) (by omega)
    rw [findCrLfFrom, byteAt_eq (by omega), ok_bind, List.range'_succ, List.find?_cons]
    by_cases hcr : buffer.getD i 0 = 0x0D
    · rw [if_pos hcr, byteAt_eq (by omega), ok_bind]
      by_cases hlf : buffer.getD (i + 1) 0 = 0x0A
      · rw [if_pos hlf, decide_eq_true ⟨hcr, hlf⟩]
      · rw [if_neg hlf, hnext, decide_eq_false fun hbreak => hlf hbreak.2]
    · rw [if_neg hcr, hnext, decide_eq_false fun hbreak => hcr hbreak.1]

theorem findCrLfFrom_eq (buffer : List UInt8) :
    findCrLfFrom buffer (buffer.length - 1) 0 = .ok (findCrLf buffer) := by
  rw [findCrLfFrom_ok _ _ _ (by omega), findCrLf, List.range_eq_range']

theorem strncpy_eq (str : List UInt8) (n : ℕ) (h : n ≤ str.length) :
    strncpy str n = .ok (gStrndup str n) := by
  induction n generalizing str with
  | zero => cases str <;> rfl
  | succ n ih =>
    cases str with
    | nil => simp at h
    | cons b str =>
      have htail := ih str (by simpa using h)
      by_cases hb : b = 0
      · rw [strncpy, if_pos hb, gStrndup, List.take_succ_cons, List.takeWhile_cons_of_neg (by simpa)]
        rfl
      · rw [strncpy, if_neg hb, htail, ok_bind, gStrndup, gStrndup, List.take_succ_cons,
          List.takeWhile_cons_of_pos (by simpa), List.map_cons]

theorem sizeSub_eq {a b : ℕ} (h : b ≤ a) (ha : a < 2 ^ 64) : sizeSub a b = a - b := by
  have hwrap : a + (2 ^ 64 - b) = a - b + 2 ^ 64 := by omega
  rw [sizeSub, hwrap, Nat.add_mod_right, Nat.mod_eq_of_lt (by omega)]

theorem findCrLf_lt {buffer : List UInt8} {n : ℕ} (h : findCrLf buffer = some n) :
    n + 2 ≤ buffer.length := by
  have hn := ((findCrLf_eq_some buffer n).mp h).1
  omega

/-- The index of a line break after the prefix is not below the prefix's length. -/
theorem findCrLf_ge {buffer : List UInt8} {n : ℕ} (h : findCrLf buffer = some n)
    (hpre : gStrndup buffer 13 = routingTokenPrefix) : 13 ≤ n := by
  obtain ⟨-, hbreak, -⟩ := (findCrLf_eq_some buffer n).mp h
  exact thirteen_le_of_breaksAt ((prefix_iff_strndup buffer).mp hpre) hbreak

theorem readTokenWithoutPrefix_eq {buffer : List UInt8} (hsmall : buffer.length < 2 ^ 16) :
    readTokenWithoutPrefix buffer = .ok (getRoutingTokenWithoutPrefix buffer) := by
  rw [readTokenWithoutPrefix, getRoutingTokenWithoutPrefix, length_routingTokenPrefix]
  by_cases hshort : buffer.length < 13
  · rw [if_pos hshort, if_pos hshort]
  · rw [if_neg hshort, if_neg hshort, strncpy_eq _ _ (by omega), ok_bind, findCrLfFrom_eq]
    by_cases hpre : gStrndup buffer 13 = routingTokenPrefix
    · rw [if_neg (not_not.mpr hpre), if_neg (not_not.mpr hpre), ok_bind]
      rcases hfind : findCrLf buffer with _ | n
      · rfl
      · have hge := findCrLf_ge hfind hpre
        have hlt := findCrLf_lt hfind
        -- the rest of the buffer holds the bytes up to the line break
        have hrest : n - 13 ≤ (buffer.drop 13).length := by
          rw [List.length_drop]
          omega
        simp only [streamSeek_eq (show 13 ≤ buffer.length by omega), ok_bind,
          sizeSub_eq hge (by omega), strncpy_eq _ _ hrest, Option.map_some]
    · rw [if_pos hpre, if_pos hpre]

theorem routingTokenLength_le {buffer : List UInt8} {token : CString} {n : ℕ}
    (h : getRoutingTokenWithoutPrefix buffer = some (token, n)) : n + 2 ≤ buffer.length := by
  rw [getRoutingTokenWithoutPrefix_eq, Option.map_eq_some_iff] at h
  obtain ⟨⟨line, m⟩, hline, heq⟩ := h
  obtain ⟨-, rfl⟩ := Prod.mk.inj heq
  have hcookie := cookieLine_of_tokenLine hline
  have hfind := hcookie.findCrLf_eq
  have hm := Option.some.inj (hcookie.tokenLine_eq.symm.trans hline)
  rw [← (Prod.mk.inj hm).2]
  exact findCrLf_lt hfind

theorem readRdpNegReq_eq (token : CString) (stream : List UInt8) :
    readRdpNegReq token stream = .ok (checkRdpNegReq token stream) := by
  rw [readRdpNegReq, checkRdpNegReq]
  by_cases hshort : stream.length < 8
  · rw [if_pos hshort, if_pos hshort]
  · have hdrop : ∀ k, (stream.drop k).length = stream.length - k := fun k => List.length_drop
    have hseek : streamSeek (stream.drop 1) 1 = .ok (stream.drop 2) := by
      rw [streamSeek_eq (by rw [hdrop]; omega), List.drop_drop]
    have hlength := streamReadUInt16_eq (show 2 ≤ (stream.drop 2).length by rw [hdrop]; omega)
    have hword := streamReadUInt32_eq (show 4 ≤ (stream.drop 4).length by rw [hdrop]; omega)
    rw [if_neg hshort, if_neg hshort]
    simp only [streamReadUInt8_eq (show 0 < stream.length by omega), ok_bind, hseek, hlength,
      List.drop_drop, Nat.reduceAdd, hword, getD_drop]
    split
    · rfl
    · rfl

theorem readX224Crq_eq (tpktLength : UInt16) {stream : List UInt8} (h : 7 ≤ stream.length)
    (hsmall : stream.length < 2 ^ 16) :
    readX224Crq tpktLength stream = .ok (checkX224Crq tpktLength stream) := by
  have hdrop : ∀ k, (stream.drop k).length = stream.length - k := fun k => List.length_drop
  have hcode := streamReadUInt8_eq (show 0 < (stream.drop 1).length by rw [hdrop]; omega)
  have href := streamReadUInt16_eq (show 2 ≤ (stream.drop 2).length by rw [hdrop]; omega)
  have hseek : streamSeek (stream.drop 4) 2 = .ok (stream.drop 6) := by
    rw [streamSeek_eq (by rw [hdrop]; omega), List.drop_drop]
  have hclass := streamReadUInt8_eq (show 0 < (stream.drop 6).length by rw [hdrop]; omega)
  have hbuffer : (stream.drop 7).length < 2 ^ 16 := by
    rw [hdrop]
    omega
  have htoken := readTokenWithoutPrefix_eq hbuffer
  rw [readX224Crq, checkX224Crq]
  simp only [streamReadUInt8_eq (show 0 < stream.length by omega), ok_bind, hcode, href,
    List.drop_drop, Nat.reduceAdd, hseek, hclass, getD_drop, Nat.add_zero, htoken]
  split
  · rfl
  · rcases hline : getRoutingTokenWithoutPrefix (stream.drop 7) with _ | ⟨token, n⟩
    · rfl
    · -- the line break is in the buffer, so the seek past it is too
      simp only [streamSeek_eq (routingTokenLength_le hline), ok_bind, readRdpNegReq_eq,
        List.drop_drop]

/-- Whatever is on the socket, no read leaves its buffer. -/
theorem readRoutingTokenPeek_eq (available : List UInt8) :
    readRoutingTokenPeek available =
      match drdRoutingTokenPeek available with
      | some result => .ok result
      | none => .error .waits := by
  rw [readRoutingTokenPeek, drdRoutingTokenPeek, peekBuffer]
  by_cases hheader : 4 ≤ available.length
  · have htake : (available.take 4).length = 4 := by
      rw [List.length_take]
      omega
    have hdrop : ∀ k, ((available.take 4).drop k).length = 4 - k := by
      intro k
      rw [List.length_drop, htake]
    have hseek : streamSeek ((available.take 4).drop 1) 1 = .ok ((available.take 4).drop 2) := by
      rw [streamSeek_eq (by rw [hdrop]; omega), List.drop_drop]
    have hlength := streamReadUInt16BE_eq (show 2 ≤ ((available.take 4).drop 2).length by rw [hdrop])
    rw [peekBytes, if_pos hheader]
    simp only [ok_bind, streamReadUInt8_eq (show 0 < (available.take 4).length by omega), hseek,
      hlength, getD_drop, Option.bind_some, Nat.add_zero, Nat.reduceAdd]
    split
    · rfl
    · split
      · rfl
      · rename_i hlong
        rw [peekBuffer]
        rcases hpdu : peekBytes available _ with _ | pdu
        · rfl
        · -- the PDU has the length of the header, eleven at least
          have hfull := Option.ite_none_right_eq_some.mp hpdu
          have hsize := congrArg List.length (Option.some.inj hfull.2)
          rw [List.length_take, min_eq_left hfull.1] at hsize
          have hword := UInt16.toNat_lt (readUInt16BE ((available.take 4).getD 2 0)
            ((available.take 4).getD 3 0))
          have hrest : (pdu.drop 4).length = pdu.length - 4 := List.length_drop
          simp only [ok_bind, streamSeek_eq (show 4 ≤ pdu.length by omega), Option.map_some,
            readX224Crq_eq _ (show 7 ≤ (pdu.drop 4).length by omega)
              (show (pdu.drop 4).length < 2 ^ 16 by omega)]
  · rw [peekBytes, if_neg hheader]
    rfl

/-! The words as numbers. -/

theorem readUInt16_toNat (b₀ b₁ : UInt8) :
    (readUInt16 b₀ b₁).toNat = littleEndian [b₀, b₁] := by
  have h₀ := b₀.toNat_lt
  have h₁ := b₁.toNat_lt
  have hshift : b₁.toNat <<< 8 < 2 ^ 16 := by
    rw [Nat.shiftLeft_eq]
    omega
  rw [readUInt16, UInt16.toNat_or, UInt16.toNat_shiftLeft]
  simp only [UInt8.toNat_toUInt16, UInt16.reduceToNat, Nat.reduceMod, Nat.mod_eq_of_lt hshift,
    or_shiftLeft_eq h₀, littleEndian]
  omega

theorem readUInt16BE_eq (b₀ b₁ : UInt8) : readUInt16BE b₀ b₁ = readUInt16 b₁ b₀ := by
  rw [readUInt16BE, readUInt16, UInt16.or_comm]

theorem readUInt32_toNat (b₀ b₁ b₂ b₃ : UInt8) :
    (readUInt32 b₀ b₁ b₂ b₃).toNat = littleEndian [b₀, b₁, b₂, b₃] := by
  have h₀ := b₀.toNat_lt
  have h₁ := b₁.toNat_lt
  have h₂ := b₂.toNat_lt
  have h₃ := b₃.toNat_lt
  have hshift : ∀ b k : ℕ, b < 2 ^ 8 → k ≤ 24 → b <<< k % 2 ^ 32 = b <<< k := by
    intro b k hb hk
    apply Nat.mod_eq_of_lt
    rw [Nat.shiftLeft_eq]
    calc b * 2 ^ k < 2 ^ 8 * 2 ^ k := Nat.mul_lt_mul_of_pos_right hb (Nat.two_pow_pos k)
      _ ≤ 2 ^ 8 * 2 ^ 24 := Nat.mul_le_mul_left _ (Nat.pow_le_pow_right (by omega) hk)
      _ = 2 ^ 32 := by norm_num
  rw [readUInt32]
  simp only [UInt32.toNat_or, UInt32.toNat_shiftLeft, UInt8.toNat_toUInt32, UInt32.reduceToNat,
    Nat.reduceMod]
  rw [hshift _ _ h₁ (by omega), hshift _ _ h₂ (by omega), hshift _ _ h₃ (by omega),
    or_shiftLeft_eq h₀, or_shiftLeft_eq (b := b₂.toNat) (by omega),
    or_shiftLeft_eq (b := b₃.toNat) (by omega)]
  simp only [littleEndian]
  omega

theorem wantsRdstls_iff (w : UInt32) :
    (w &&& protocolRdstls != 0) = w.toNat.testBit 2 := by
  have hand : (w &&& protocolRdstls).toNat = (w.toNat.testBit 2).toNat * 2 ^ 2 := by
    rw [UInt32.toNat_and, ← Nat.and_two_pow]
    rfl
  rw [Bool.eq_iff_iff, bne_iff_ne, ne_eq, ← UInt32.toNat_inj, hand]
  cases w.toNat.testBit 2
  · simp
  · simp

theorem eight_bytes {trailer : List UInt8} (h : 8 ≤ trailer.length) :
    ∃ b₀ b₁ b₂ b₃ b₄ b₅ b₆ b₇ rest,
      trailer = b₀ :: b₁ :: b₂ :: b₃ :: b₄ :: b₅ :: b₆ :: b₇ :: rest := by
  match trailer, h with
  | b₀ :: b₁ :: b₂ :: b₃ :: b₄ :: b₅ :: b₆ :: b₇ :: rest, _ =>
    exact ⟨b₀, b₁, b₂, b₃, b₄, b₅, b₆, b₇, rest, rfl⟩

theorem rejectedNegReq_iff (trailer : List UInt8) :
    RejectedNegReq trailer ↔ 8 ≤ trailer.length ∧ ¬ RdpNegReq trailer := by
  by_cases hlength : 8 ≤ trailer.length
  · obtain ⟨b₀, b₁, b₂, b₃, b₄, b₅, b₆, b₇, rest, rfl⟩ := eight_bytes hlength
    have height : readUInt16 b₂ b₃ = 8 ↔ littleEndian [b₂, b₃] = 8 := by
      rw [← UInt16.toNat_inj, readUInt16_toNat]
      rfl
    have hgood : RdpNegReq (b₀ :: b₁ :: b₂ :: b₃ :: b₄ :: b₅ :: b₆ :: b₇ :: rest) ↔
        b₀ = 1 ∧ littleEndian [b₂, b₃] = 8 :=
      ⟨fun h => ⟨h.type, h.length⟩, fun h => ⟨hlength, h.1, h.2⟩⟩
    rw [RejectedNegReq, hgood, not_and_or]
    exact and_congr_right fun _ => or_congr Iff.rfl (not_congr height)
  · exact iff_of_false (fun h => hlength h.1) fun h => hlength h.1

theorem checkRdpNegReq_ok {token : CString} {trailer : List UInt8} {info : RoutingTokenInfo}
    (h : checkRdpNegReq token trailer = .ok info) :
    info.routingToken = some token ∧
      (info.requestedRdstls = true ↔
        RdpNegReq trailer ∧ (protocolWord trailer).testBit 2 = true) := by
  by_cases hlength : 8 ≤ trailer.length
  · have haccepted : RdpNegReq trailer := by
      by_contra hnot
      rcases checkRdpNegReq_eq token trailer with ⟨-, heq⟩ | ⟨hgood, -⟩
      · rw [heq] at h
        cases h
      · exact hgood ((rejectedNegReq_iff trailer).mpr ⟨hlength, hnot⟩)
    obtain ⟨b₀, b₁, b₂, b₃, b₄, b₅, b₆, b₇, rest, rfl⟩ := eight_bytes hlength
    have hword : (readUInt32 b₄ b₅ b₆ b₇ &&& protocolRdstls != 0) =
        (littleEndian [b₄, b₅, b₆, b₇]).testBit 2 := by
      rw [wantsRdstls_iff, readUInt32_toNat]
    rw [checkRdpNegReq, if_neg (by omega),
      if_neg fun hbad => ((rejectedNegReq_iff _).mp ⟨hlength, hbad⟩).2 haccepted] at h
    obtain rfl := Except.ok.inj h
    refine ⟨rfl, ?_⟩
    rw [and_iff_right haccepted]
    exact Bool.eq_iff_iff.mp hword
  · rw [checkRdpNegReq, if_pos (by omega)] at h
    cases h
    exact ⟨rfl, iff_of_false Bool.false_ne_true fun hreq => hlength hreq.1.complete⟩

/-! The first eleven bytes. -/

namespace CompletePdu

variable (p : CompletePdu)

theorem tpktLength_toNat : p.tpktLength.toNat = p.length := by
  rw [tpktLength, readUInt16BE_eq, readUInt16_toNat, length]
  simp only [littleEndian]
  omega

theorem length_le : p.length ≤ p.bytes.length := by
  rw [← p.tpktLength_toNat]
  exact p.complete

/-- The PDU's bytes are the socket's. -/
theorem getD_pdu {k : ℕ} (hk : k < p.length) : p.pdu.getD k 0 = p.bytes.getD k 0 := by
  rw [pdu, p.tpktLength_toNat]
  simp [hk]

theorem dstRef_iff (h : 11 ≤ p.length) :
    littleEndian ((p.bytes.drop 6).take 2) = 0 ↔
      p.bytes.getD 6 0 = 0 ∧ p.bytes.getD 7 0 = 0 := by
  have hlength := p.length_le
  have htwo : (p.bytes.drop 6).take 2 = [p.bytes.getD 6 0, p.bytes.getD 7 0] := by
    rw [List.drop_eq_getElem_cons (by omega), List.drop_eq_getElem_cons (by omega),
      List.getD_eq_getElem _ _ (by omega), List.getD_eq_getElem _ _ (by omega)]
    rfl
  rw [htwo, ← readUInt16_toNat, ← dstRef_eq_zero, ← UInt16.toNat_inj]
  rfl

theorem x224Accepted_iff (h : 11 ≤ p.length) :
    p.X224Accepted ↔ (p.bytes.getD 4 0).toNat = p.length - 5 ∧ p.bytes.getD 5 0 = 0xE0 ∧
      littleEndian ((p.bytes.drop 6).take 2) = 0 ∧ p.bytes.getD 10 0 &&& 0xFC = 0 := by
  rw [p.dstRef_iff h, ← p.getD_pdu (k := 4) (by omega), ← p.getD_pdu (k := 5) (by omega),
    ← p.getD_pdu (k := 6) (by omega), ← p.getD_pdu (k := 7) (by omega),
    ← p.getD_pdu (k := 10) (by omega)]
  have hindicator : (p.tpktLength.toNat : ℤ) - 5 = (p.pdu.getD 4 0).toNat ↔
      (p.pdu.getD 4 0).toNat = p.length - 5 := by
    rw [p.tpktLength_toNat]
    omega
  constructor
  · rintro ⟨hi, hcode, href, hclass⟩
    exact ⟨hindicator.mp hi, hcode, href, hclass⟩
  · rintro ⟨hi, hcode, href, hclass⟩
    exact ⟨hindicator.mpr hi, hcode, href, hclass⟩

theorem accepted_iff : p.Accepted ↔ ¬ p.HeaderWrong := by
  have hlength := p.tpktLength_toNat
  rw [HeaderWrong]
  simp only [not_or, not_not, ne_eq, not_lt]
  constructor
  · rintro ⟨hversion, hlong, hx224⟩
    have hlong' : 11 ≤ p.length := by omega
    exact ⟨hversion, hlong', (p.x224Accepted_iff hlong').mp hx224⟩
  · rintro ⟨hversion, hlong, hx224⟩
    exact ⟨hversion, by omega, (p.x224Accepted_iff hlong).mpr hx224⟩

/-- The part of the socket's bytes that a run may look at. -/
def window : CompletePdu where
  bytes := p.bytes.take (max 4 p.length)
  header := by
    have h := p.header
    rw [List.length_take]
    omega
  complete := by
    have h := p.length_le
    have hlength := p.tpktLength_toNat
    have hbyte : ∀ k < 4, (p.bytes.take (max 4 p.length)).getD k 0 = p.bytes.getD k 0 := by
      intro k hk
      simp [hk]
    rw [hbyte 2 (by omega), hbyte 3 (by omega), List.length_take]
    rw [tpktLength] at hlength
    omega

theorem getD_window {k : ℕ} (hk : k < 4) : p.window.bytes.getD k 0 = p.bytes.getD k 0 := by
  simp [window, hk]

theorem tpktLength_window : p.window.tpktLength = p.tpktLength := by
  rw [tpktLength, tpktLength, p.getD_window (by omega), p.getD_window (by omega)]

/-- The bytes behind the window change nothing. -/
theorem drdRoutingTokenPeek_window :
    drdRoutingTokenPeek p.window.bytes = drdRoutingTokenPeek p.bytes := by
  have hheader : p.window.bytes.take 4 = p.bytes.take 4 := by
    rw [window, List.take_take, min_eq_left (le_max_left _ _)]
  have hpdu : p.window.pdu = p.pdu := by
    rw [pdu, pdu, tpktLength_window, window, List.take_take, tpktLength_toNat,
      min_eq_left (le_max_right _ _)]
  have hlength : readUInt16BE (p.bytes.getD 2 0) (p.bytes.getD 3 0) = p.tpktLength := rfl
  have hpeek : peekBytes p.window.bytes p.tpktLength.toNat = peekBytes p.bytes p.tpktLength.toNat := by
    rw [p.peekBytes_pdu, ← p.tpktLength_window, p.window.peekBytes_pdu, hpdu]
  rw [drdRoutingTokenPeek, drdRoutingTokenPeek, peekBytes_header, peekBytes_header, hheader,
    Option.bind_some, Option.bind_some, p.getD_header (by omega), p.getD_header (by omega),
    p.getD_header (by omega), hlength]
  simp only [hpeek]

end CompletePdu

/-- What the format says of the outcome at a request. -/
structure FormatVerdict (p : CompletePdu) (result : Except String RoutingTokenInfo) : Prop where
  fails : (∃ error, result = .error error) ↔ p.HeaderWrong ∨ p.NegReqWrong
  noToken : ∀ info, result = .ok info → (¬ ∃ token trailer, CookieLine p.stream token trailer) →
    info.routingToken = none
  token : ∀ info, result = .ok info → ∀ token trailer, CookieLine p.stream token trailer →
    info.routingToken = some (tokenText token)
  rdstls : ∀ info, result = .ok info → (info.requestedRdstls = true ↔ p.AsksRdstls)

namespace FormatVerdict

variable {p : CompletePdu}

theorem of_headerWrong (h : p.HeaderWrong) (error : String) :
    FormatVerdict p (.error error) where
  fails := iff_of_true ⟨error, rfl⟩ (.inl h)
  noToken := by
    intro info hinfo
    cases hinfo
  token := by
    intro info hinfo
    cases hinfo
  rdstls := by
    intro info hinfo
    cases hinfo

theorem of_noLine (h : ¬ p.HeaderWrong) (hline : tokenLine p.stream = none) :
    FormatVerdict p (.ok {}) := by
  have hnone : ∀ token trailer, ¬ CookieLine p.stream token trailer := by
    intro token trailer hcookie
    exact Option.some_ne_none _ (hcookie.tokenLine_eq.symm.trans hline)
  refine ⟨?_, ?_, ?_, ?_⟩
  · apply iff_of_false
    · rintro ⟨error, herror⟩
      cases herror
    · rintro (hwrong | ⟨token, trailer, hcookie, -⟩)
      · exact h hwrong
      · exact hnone token trailer hcookie
  · intro info hinfo _
    cases hinfo
    rfl
  · intro info _ token trailer hcookie
    exact absurd hcookie (hnone token trailer)
  · intro info hinfo
    cases hinfo
    apply iff_of_false Bool.false_ne_true
    rintro ⟨token, trailer, hcookie, -⟩
    exact hnone token trailer hcookie

theorem of_line (h : ¬ p.HeaderWrong) {token trailer : List UInt8}
    (hcookie : CookieLine p.stream token trailer) :
    FormatVerdict p (checkRdpNegReq (tokenText token) trailer) := by
  -- the token line is the only one, so what is said of any is said of it
  have hwrong : p.NegReqWrong ↔ 8 ≤ trailer.length ∧ ¬ RdpNegReq trailer := by
    constructor
    · rintro ⟨token', trailer', hcookie', hneg⟩
      obtain ⟨rfl, rfl⟩ := hcookie.unique hcookie'
      exact hneg
    · intro hneg
      exact ⟨token, trailer, hcookie, hneg⟩
  have hasks : p.AsksRdstls ↔
      RdpNegReq trailer ∧ (protocolWord trailer).testBit 2 = true := by
    constructor
    · rintro ⟨token', trailer', hcookie', hreq⟩
      obtain ⟨rfl, rfl⟩ := hcookie.unique hcookie'
      exact hreq
    · intro hreq
      exact ⟨token, trailer, hcookie, hreq⟩
  refine ⟨?_, ?_, ?_, ?_⟩
  · rw [or_iff_right h, hwrong, ← rejectedNegReq_iff]
    rcases checkRdpNegReq_eq (tokenText token) trailer with ⟨hbad, heq⟩ | ⟨hgood, rdstls, heq⟩
    · rw [heq]
      exact iff_of_true ⟨_, rfl⟩ hbad
    · rw [heq]
      apply iff_of_false _ hgood
      rintro ⟨error, herror⟩
      cases herror
  · intro info _ hnone
    exact absurd ⟨token, trailer, hcookie⟩ hnone
  · intro info hinfo token' trailer' hcookie'
    obtain ⟨rfl, rfl⟩ := hcookie.unique hcookie'
    exact (checkRdpNegReq_ok hinfo).1
  · intro info hinfo
    rw [hasks]
    exact (checkRdpNegReq_ok hinfo).2

end FormatVerdict

theorem drdRoutingTokenPeek_format (p : CompletePdu) :
    ∃ result, drdRoutingTokenPeek p.bytes = some result ∧ FormatVerdict p result := by
  rcases p.drdRoutingTokenPeek_eq with ⟨haccepted, heq⟩ | ⟨hrejected, error, heq⟩
  · have hheader := p.accepted_iff.mp haccepted
    refine ⟨_, heq, ?_⟩
    rw [getRoutingTokenWithoutPrefix_eq]
    rcases hline : tokenLine p.stream with _ | ⟨token, n⟩
    · exact .of_noLine hheader hline
    · have hcookie := cookieLine_of_tokenLine hline
      have htext : gStrndup token token.length = tokenText token := by
        rw [gStrndup, List.take_length, tokenText]
      simp only [Option.map_some, htext]
      exact .of_line hheader hcookie
  · have hheader : p.HeaderWrong := not_not.mp (mt p.accepted_iff.mpr hrejected)
    exact ⟨_, heq, .of_headerWrong hheader error⟩

/-- The parser reads nothing outside the first `max 4 L` bytes. It fails exactly on a wrong header
and on a token line followed by eight bytes or more that are no rdpNegReq. Else the token is that
of the token line, and the flag is bit 2 of the rdpNegReq's protocol word. -/
theorem routing_token_format (p : CompletePdu) :
    ∃ result, readRoutingTokenPeek p.bytes = .ok result ∧
      readRoutingTokenPeek (p.bytes.take (max 4 p.length)) = .ok result ∧
      drdRoutingTokenPeek p.bytes = some result ∧
      FormatVerdict p result := by
  obtain ⟨result, hpeek, hformat⟩ := drdRoutingTokenPeek_format p
  have hwindow : drdRoutingTokenPeek (p.bytes.take (max 4 p.length)) = some result :=
    p.drdRoutingTokenPeek_window.trans hpeek
  refine ⟨result, ?_, ?_, hpeek, hformat⟩
  · rw [readRoutingTokenPeek_eq, hpeek]
  · rw [readRoutingTokenPeek_eq, hwindow]

end RemoteDesktop.DRD
