import Arcade.Word

/-!
# The shifter

A device that shifts pictures for the processor, which cannot shift by more than one bit at once.
It keeps the last two bytes it was sent as a word and shows eight bits of it.

* `Shifter.push` sends a byte, `Shifter.setOffset` chooses the window;
* `high_data_push`, `low_data_push`: the word holds the last byte and the one before it;
* `Shifter.result` is the window, as many bits below the top as the offset says (`toNat_result`).
-/

namespace Arcade

/-- The state of the shifter. -/
structure Shifter where
  data : UInt16 := 0
  offset : Fin 8 := ⟨0, eight_pos⟩
  deriving DecidableEq, Repr, Inhabited

namespace Shifter

/-- A byte comes in at the top, and the one that was there moves down. -/
def push (s : Shifter) (value : UInt8) : Shifter :=
  { s with data := Word.ofBytes value (Word.high s.data) }

@[simp]
theorem high_data_push (s : Shifter) (value : UInt8) : Word.high (s.push value).data = value := by
  simp [push]

@[simp]
theorem low_data_push (s : Shifter) (value : UInt8) :
    Word.low (s.push value).data = Word.high s.data := by
  simp [push]

/-- The window moves; only the three lowest bits of the value count. -/
def setOffset (s : Shifter) (value : UInt8) : Shifter :=
  { s with offset := ⟨value.toNat % 8, mod_eight_lt value.toNat⟩ }

/-- How far the word is shifted to the right for the window to be its low byte. -/
def amount (s : Shifter) : Nat :=
  8 - s.offset.val

theorem amount_pos (s : Shifter) : 0 < s.amount := by
  unfold amount
  omega

theorem amount_le (s : Shifter) : s.amount ≤ 8 := by
  unfold amount
  omega

/-- The eight bits in the window. -/
def result (s : Shifter) : UInt8 :=
  (s.data >>> UInt16.ofNat s.amount).toUInt8

theorem toNat_result (s : Shifter) : s.result.toNat = (s.data.toNat >>> s.amount) % 256 := by
  have hle := s.amount_le
  have hamount : s.amount % 2 ^ 16 % 16 = s.amount := by omega
  simp only [result, UInt16.toNat_toUInt8, UInt16.toNat_shiftRight, UInt16.toNat_ofNat', hamount]

end Shifter

end Arcade
