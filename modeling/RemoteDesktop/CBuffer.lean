import Mathlib.Tactic

/-! Strings in memory that end in NUL, and the offsets that are stored to. The memory goes
on behind the buffer, so a store past its end is seen and not refused. -/
namespace RemoteDesktop

/-- A block of `size` bytes. `memory` starts with the block, and `stored` has the offset of
every byte that was stored, in the order of the stores. -/
structure CBuffer where
  size : ℕ
  memory : List UInt8
  stored : List ℕ := []
  deriving DecidableEq, Repr

namespace CBuffer

variable (b : CBuffer)

/-- A new block of zeros, with what lies behind it. -/
def zeroed (size : ℕ) (behind : List UInt8) : CBuffer :=
  { size := size, memory := List.replicate size 0 ++ behind }

def strlen : ℕ := (b.memory.takeWhile (· ≠ 0)).length

/-- A copy of `src` and its NUL to an offset. -/
def stpcpy (offset : ℕ) (src : List UInt8) : CBuffer :=
  { b with
    memory := b.memory.take offset ++ src ++ 0 :: b.memory.drop (offset + src.length + 1)
    stored := b.stored ++ List.range' offset (src.length + 1) }

/-- A copy to the end of the string that is there. -/
def append (src : List UInt8) : CBuffer := b.stpcpy b.strlen src

/-- Every store is inside the block. -/
def InBounds : Prop := ∀ offset ∈ b.stored, offset < b.size

/-- The string at the start of the block. -/
def HasText (text : List UInt8) : Prop := ∃ rest, b.memory = text ++ 0 :: rest

variable {b} {text src : List UInt8}

theorem HasText.strlen_eq (h : b.HasText text) (htext : 0 ∉ text) : b.strlen = text.length := by
  obtain ⟨rest, hmemory⟩ := h
  have hall : ∀ c ∈ text, decide (c ≠ 0) = true := by
    intro c hc
    rw [decide_eq_true_eq]
    rintro rfl
    exact htext hc
  rw [strlen, hmemory, List.takeWhile_append_of_pos hall, List.takeWhile_cons_of_neg (by simp),
    List.append_nil]

theorem HasText.take (h : b.HasText text) : b.memory.take text.length = text := by
  obtain ⟨rest, hmemory⟩ := h
  rw [hmemory, List.take_left]

theorem hasText_stpcpy_zero (b : CBuffer) (src : List UInt8) : (b.stpcpy 0 src).HasText src :=
  ⟨b.memory.drop (0 + src.length + 1), by simp [stpcpy]⟩

/-- Appending joins the strings, and stores from the old NUL to the new one. -/
theorem HasText.append (h : b.HasText text) (htext : 0 ∉ text) (src : List UInt8) :
    (b.append src).HasText (text ++ src) ∧
      (b.append src).stored = b.stored ++ List.range' text.length (src.length + 1) := by
  have hlen := h.strlen_eq htext
  refine ⟨⟨b.memory.drop (text.length + src.length + 1), ?_⟩, ?_⟩
  · rw [CBuffer.append, stpcpy, hlen, h.take]
  · rw [CBuffer.append, stpcpy, hlen]

@[simp] theorem append_size (b : CBuffer) (src : List UInt8) : (b.append src).size = b.size :=
  rfl

@[simp] theorem stpcpy_size (b : CBuffer) (offset : ℕ) (src : List UInt8) :
    (b.stpcpy offset src).size = b.size :=
  rfl

end CBuffer
end RemoteDesktop
