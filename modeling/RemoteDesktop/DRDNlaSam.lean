import RemoteDesktop.CBuffer

/-! `drd_nla_sam.c`: the SAM entry of a user, put together in a buffer and written to the
file by a loop that resumes after partial writes and interrupts. -/
namespace RemoteDesktop.DRD

/-- A string that is not empty, without its NUL. -/
structure NonEmptyText where
  bytes : List UInt8
  nonEmpty : bytes ≠ []
  noNul : 0 ∉ bytes

/-- The bytes of `":::"` and of `":::\n"`. -/
def samSeparator : List UInt8 := [58, 58, 58]

def samLineEnd : List UInt8 := [58, 58, 58, 10]

/-- The entry that the file is to have. -/
def samEntry (username ntHashHex : NonEmptyText) : List UInt8 :=
  username.bytes ++ samSeparator ++ ntHashHex.bytes ++ samLineEnd

/-- `buffer_len`, a gsize. -/
def samBufferLen (username ntHashHex : NonEmptyText) : ℕ :=
  (username.bytes.length + 3 + ntHashHex.bytes.length + 4) % 2 ^ 64

/-- `drd_nla_sam_format_entry`, with the memory behind the block that it gets. -/
def nlaSamFormatEntry (behind : List UInt8) (username ntHashHex : NonEmptyText) : CBuffer :=
  let line := CBuffer.zeroed (samBufferLen username ntHashHex) behind
  let line := line.stpcpy 0 username.bytes
  let line := line.append samSeparator
  let line := line.append ntHashHex.bytes
  line.append samLineEnd

/-- What one `write` does. It writes no more than it is asked to. -/
inductive WriteResult
  | interrupted
  | failed (strerror : String)
  | wrote (ret : ℕ)
  deriving DecidableEq, Repr

/-- The result of a call, and the bytes that it has written to the file. -/
structure SamWrite where
  result : Except String Unit
  file : List UInt8

/-- The loop of `drd_nla_sam_write_entry`. The schedule has one result for each `write`; a
loop that it does not bring to an end is `none`. -/
def nlaSamWriteLoop (entry : List UInt8) (total : ℕ) :
    ℕ → List UInt8 → List WriteResult → Option SamWrite
  | written, file, schedule =>
    if total ≤ written then some { result := .ok (), file := file }
    else
      match schedule with
      | [] => none
      | .interrupted :: schedule => nlaSamWriteLoop entry total written file schedule
      | .failed strerror :: _ =>
        some { result := .error ("Failed to write SAM file: " ++ strerror), file := file }
      | .wrote ret :: schedule =>
        let ret := min ret (total - written)
        nlaSamWriteLoop entry total (written + ret) (file ++ (entry.drop written).take ret) schedule

/-- `drd_nla_sam_write_entry`. `fsync` is the error of that call, if it fails. -/
def nlaSamWriteEntry (behind : List UInt8) (username ntHashHex : NonEmptyText)
    (schedule : List WriteResult) (fsync : Option String) : Option SamWrite :=
  let entry := nlaSamFormatEntry behind username ntHashHex
  (nlaSamWriteLoop entry.memory entry.strlen 0 [] schedule).map fun w =>
    match w.result, fsync with
    | .ok (), some strerror =>
      { w with result := .error ("Failed to flush SAM file: " ++ strerror) }
    | _, _ => w

/-- All that is stored, the NUL included, fits in the buffer. -/
def SamEntryFits (behind : List UInt8) (username ntHashHex : NonEmptyText) : Prop :=
  (nlaSamFormatEntry behind username ntHashHex).InBounds

/-- A call that returns TRUE has written the entry, each byte once. -/
def SamEntryWritten (behind : List UInt8) (username ntHashHex : NonEmptyText) : Prop :=
  ∀ schedule fsync w, nlaSamWriteEntry behind username ntHashHex schedule fsync = some w →
    w.result = .ok () → w.file = samEntry username ntHashHex

section Entry

variable (behind : List UInt8) (username ntHashHex : NonEmptyText)

theorem noNul_samEntry : 0 ∉ samEntry username ntHashHex := by
  have huser := username.noNul
  have hhash := ntHashHex.noNul
  simp [samEntry, samSeparator, samLineEnd, huser, hhash]

theorem length_samEntry :
    (samEntry username ntHashHex).length =
      username.bytes.length + 3 + ntHashHex.bytes.length + 4 := by
  simp only [samEntry, samSeparator, samLineEnd, List.length_append, List.length_cons,
    List.length_nil]

/-- The four copies leave the entry in memory, and the last one stores its NUL. -/
theorem nlaSamFormatEntry_spec :
    (nlaSamFormatEntry behind username ntHashHex).HasText (samEntry username ntHashHex) ∧
      (samEntry username ntHashHex).length ∈
        (nlaSamFormatEntry behind username ntHashHex).stored := by
  have huser : 0 ∉ username.bytes := username.noNul
  have hsep : 0 ∉ username.bytes ++ samSeparator := by
    simp [samSeparator, huser]
  have hhash : 0 ∉ username.bytes ++ samSeparator ++ ntHashHex.bytes := by
    simp [samSeparator, huser, ntHashHex.noNul]
  have h₀ := CBuffer.hasText_stpcpy_zero
    (CBuffer.zeroed (samBufferLen username ntHashHex) behind) username.bytes
  obtain ⟨h₁, -⟩ := h₀.append huser samSeparator
  obtain ⟨h₂, -⟩ := h₁.append hsep ntHashHex.bytes
  obtain ⟨h₃, hstored⟩ := h₂.append hhash samLineEnd
  refine ⟨h₃, ?_⟩
  rw [nlaSamFormatEntry, hstored]
  apply List.mem_append_right
  have hlength : (samEntry username ntHashHex).length =
      (username.bytes ++ samSeparator ++ ntHashHex.bytes).length + samLineEnd.length :=
    List.length_append
  rw [List.mem_range'_1]
  omega

theorem nlaSamFormatEntry_size :
    (nlaSamFormatEntry behind username ntHashHex).size = samBufferLen username ntHashHex := rfl

/-- The NUL goes one byte past the end of the buffer. -/
theorem not_samEntryFits : ¬ SamEntryFits behind username ntHashHex := by
  intro hfits
  have hnul := hfits _ (nlaSamFormatEntry_spec behind username ntHashHex).2
  rw [nlaSamFormatEntry_size, samBufferLen, length_samEntry] at hnul
  have hmod := Nat.mod_le (username.bytes.length + 3 + ntHashHex.bytes.length + 4) (2 ^ 64)
  omega

end Entry

section Loop

variable {entry file : List UInt8} {total : ℕ} {w : SamWrite}

/-- What one write takes from the entry goes on where the file ends. -/
theorem take_add_of_write (written ret : ℕ) :
    entry.take written ++ (entry.drop written).take ret = entry.take (written + ret) :=
  List.take_add.symm

/-- The file has the first `written` bytes of the entry, throughout the loop. -/
theorem nlaSamWriteLoop_file (schedule : List WriteResult) {written : ℕ} (hle : written ≤ total)
    (h : nlaSamWriteLoop entry total written (entry.take written) schedule = some w)
    (hok : w.result = .ok ()) : w.file = entry.take total := by
  induction schedule generalizing written with
  | nil =>
    unfold nlaSamWriteLoop at h
    split at h
    · rename_i hdone
      rw [← Option.some.inj h, le_antisymm hle hdone]
    · cases h
  | cons call schedule ih =>
    unfold nlaSamWriteLoop at h
    split at h
    · rename_i hdone
      rw [← Option.some.inj h, le_antisymm hle hdone]
    · cases call with
      | interrupted => exact ih hle h
      | failed strerror =>
        rw [← Option.some.inj h] at hok
        cases hok
      | wrote ret =>
        dsimp only at h
        rw [take_add_of_write] at h
        have hle' : written + min ret (total - written) ≤ total := by
          have := Nat.min_le_right ret (total - written)
          omega
        exact ih hle' h

end Loop

theorem samEntryWritten (behind : List UInt8) (username ntHashHex : NonEmptyText) :
    SamEntryWritten behind username ntHashHex := by
  intro schedule fsync w h hok
  obtain ⟨htext, -⟩ := nlaSamFormatEntry_spec behind username ntHashHex
  have htotal := htext.strlen_eq (noNul_samEntry username ntHashHex)
  obtain ⟨w', hw', rfl⟩ := Option.map_eq_some_iff.mp h
  -- only a loop that ends well can end in TRUE, and `fsync` leaves the file as it is
  have hok' : w'.result = .ok () := by
    cases hresult : w'.result with
    | ok _ => rfl
    | error message =>
      simp only [hresult] at hok
      cases hok
  have hfile : w'.file = samEntry username ntHashHex := by
    rw [nlaSamWriteLoop_file schedule (Nat.zero_le _) hw' hok', htotal, htext.take]
  rw [← hfile]
  split
  · rfl
  · rfl

/-- No entry fits in its buffer: its NUL is stored behind the last byte. What is written to
the file is the entry all the same. -/
theorem sam_entry_overruns_buffer (behind : List UInt8) (username ntHashHex : NonEmptyText) :
    ¬ (SamEntryFits behind username ntHashHex ∧ SamEntryWritten behind username ntHashHex) ∧
      ¬ SamEntryFits behind username ntHashHex ∧ SamEntryWritten behind username ntHashHex :=
  ⟨fun h => not_samEntryFits behind username ntHashHex h.1,
    not_samEntryFits behind username ntHashHex, samEntryWritten behind username ntHashHex⟩

/-- The user `u`, whose hash has 32 zeros for its digits. -/
def userU : NonEmptyText := ⟨[117], by decide, by decide⟩

def hashZero : NonEmptyText := ⟨List.replicate 32 48, by decide, by decide⟩

/-- Forty bytes are allocated, and the byte after them is stored. -/
theorem short_entry_overruns_buffer :
    (nlaSamFormatEntry [] userU hashZero).size = 40 ∧
      40 ∈ (nlaSamFormatEntry [] userU hashZero).stored ∧
      ¬ (SamEntryFits [] userU hashZero ∧ SamEntryWritten [] userU hashZero) := by
  have hsize : (nlaSamFormatEntry [] userU hashZero).size = 40 := by decide
  have hstored : 40 ∈ (nlaSamFormatEntry [] userU hashZero).stored := by decide
  refine ⟨hsize, hstored, ?_⟩
  intro h
  have hlt := h.1 40 hstored
  rw [hsize] at hlt
  exact lt_irrefl 40 hlt

end RemoteDesktop.DRD
