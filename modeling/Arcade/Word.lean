/-!
# Words made of two bytes

The processor works on bytes and on 16-bit words; a word is a high and a low byte.

* `Word.ofBytes`, `Word.high` and `Word.low` join and split a word;
* `high_ofBytes`, `low_ofBytes`, `ofBytes_high_low`: joining and splitting undo one another;
* `mod_eight_lt` is for what is numbered by three bits.
-/

namespace Arcade

theorem eight_pos : 0 < 8 := by decide

/-- Three bits give a number below eight. -/
theorem mod_eight_lt (n : Nat) : n % 8 < 8 :=
  Nat.mod_lt n eight_pos

namespace Word

/-- The word with the given high and low byte. -/
def ofBytes (high low : UInt8) : UInt16 :=
  UInt16.ofNat (high.toNat * 256 + low.toNat)

/-- The high byte of a word. -/
def high (w : UInt16) : UInt8 :=
  UInt8.ofNat (w.toNat / 256)

/-- The low byte of a word. -/
def low (w : UInt16) : UInt8 :=
  UInt8.ofNat (w.toNat % 256)

theorem toNat_ofBytes (h l : UInt8) : (ofBytes h l).toNat = h.toNat * 256 + l.toNat := by
  have := h.toNat_lt
  have := l.toNat_lt
  simp [ofBytes, UInt16.toNat_ofNat]
  omega

theorem toNat_high (w : UInt16) : (high w).toNat = w.toNat / 256 := by
  have := w.toNat_lt
  simp [high]
  omega

theorem toNat_low (w : UInt16) : (low w).toNat = w.toNat % 256 := by
  simp [low]

@[simp]
theorem high_ofBytes (h l : UInt8) : high (ofBytes h l) = h := by
  apply UInt8.toNat_inj.mp
  have := l.toNat_lt
  rw [toNat_high, toNat_ofBytes]
  omega

@[simp]
theorem low_ofBytes (h l : UInt8) : low (ofBytes h l) = l := by
  apply UInt8.toNat_inj.mp
  have := l.toNat_lt
  rw [toNat_low, toNat_ofBytes]
  omega

@[simp]
theorem ofBytes_high_low (w : UInt16) : ofBytes (high w) (low w) = w := by
  apply UInt16.toNat_inj.mp
  rw [toNat_ofBytes, toNat_high, toNat_low]
  omega

end Word

end Arcade
