/-!
# Hexadecimal numerals

Lower-case digits. Bytes and words have a fixed width, sizes and offsets as many digits as they
need, with a least number of them.

* `Hex.byte`, `Hex.word`: two and four digits;
* `Hex.atLeast`: a number of any size;
* `length_fixed`: a fixed width is kept.
-/

namespace Arcade.Hex

/-- The last `width` digits of a number. -/
def fixed : (width : Nat) → Nat → List Char
  | 0, _ => []
  | width + 1, n => fixed width (n / 16) ++ [Nat.digitChar (n % 16)]

theorem length_fixed (width n : Nat) : (fixed width n).length = width := by
  induction width generalizing n with
  | zero => rfl
  | succ width ih => simp [fixed, ih]

/-- A byte as two digits. -/
def byte (b : UInt8) : String :=
  String.ofList (fixed 2 b.toNat)

/-- A word as four digits. -/
def word (w : UInt16) : String :=
  String.ofList (fixed 4 w.toNat)

/-- A number with zeros in front where it has fewer than `width` digits. -/
def atLeast (width n : Nat) : String :=
  let digits := Nat.toDigits 16 n
  String.ofList (List.replicate (width - digits.length) '0' ++ digits)

end Arcade.Hex
