import Arcade.Cpu.Opcode
import Arcade.Flags

/-!
# Arithmetic and logic

What the arithmetic unit computes, apart from where operands come from and results go. There is
one adder; to subtract, the unit adds the complement, and the carry it then gives out says that
nothing was borrowed.

* `adder`, and on it `add` and `subtract`; `increment`, `decrement`;
* `decimalAdjust`: the correction of a decimal sum;
* `AluOp.apply`: the eight operations of the accumulator with a byte;
* `Rotation.apply`: the four rotations.
-/

namespace Arcade

/-- The outcome of an addition of bytes. -/
structure Sum where
  value : UInt8
  carry : Bool
  auxCarry : Bool
  deriving DecidableEq, Repr

/-- The carry out of the low four bits, told from two summands and their sum: without a carry into
it, bit 4 of the sum would be that of `x ^^^ y`. -/
def carryIntoHigh (x y sum : UInt8) : Bool :=
  (x ^^^ y ^^^ sum) &&& 0x10 != 0

/-- The sum of two bytes and a carry. It is formed in 16 bits, so that the carry out is in it. -/
def adder (x y : UInt8) (carryIn : Bool) : Sum :=
  let wide := x.toUInt16 + y.toUInt16 + if carryIn then 1 else 0
  let value := wide.toUInt8
  { value, carry := 0xff < wide, auxCarry := carryIntoHigh x y value }

/-- The flags an addition sets. -/
def Sum.flags (s : Sum) : Flags :=
  { ({} : Flags).withResult s.value with carry := s.carry, auxCarry := s.auxCarry }

/-- A byte and another one and a carry, with the flags of the sum. -/
def add (x y : UInt8) (carryIn : Bool) : UInt8 × Flags :=
  let s := adder x y carryIn
  (s.value, s.flags)

/-- A byte less another one and a borrow, with the flags of the difference; its carry flag is
the borrow. -/
def subtract (x y : UInt8) (borrowIn : Bool) : UInt8 × Flags :=
  let s := adder x (~~~y) (!borrowIn)
  (s.value, { s.flags with carry := !s.carry })

/-- A byte and one. The carry flag stays. -/
def increment (x : UInt8) (f : Flags) : UInt8 × Flags :=
  let result := x + 1
  (result, { f.withResult result with auxCarry := carryIntoHigh x 0x01 result })

/-- A byte less one, which is the byte and 255. The carry flag stays. -/
def decrement (x : UInt8) (f : Flags) : UInt8 × Flags :=
  let result := x - 1
  (result, { f.withResult result with auxCarry := carryIntoHigh x 0xff result })

/-- A result with the flags of a logical operation, which clears both carries. -/
def logical (result : UInt8) : UInt8 × Flags :=
  (result, ({} : Flags).withResult result)

/-- The accumulator and the flags after an operation with a byte; a comparison only sets the
flags. -/
def AluOp.apply (op : AluOp) (a n : UInt8) (f : Flags) : UInt8 × Flags :=
  match op with
  | add => Arcade.add a n false
  | adc => Arcade.add a n f.carry
  | sub => subtract a n false
  | sbb => subtract a n f.carry
  | ana => logical (a &&& n)
  | xra => logical (a ^^^ n)
  | ora => logical (a ||| n)
  | cmp => (a, (subtract a n false).2)

/-- Whether the low digit of a decimal sum has to be corrected. -/
def correctsLow (a : UInt8) (f : Flags) : Bool :=
  let low := a &&& 0x0f
  9 < low || f.auxCarry

/-- Whether the high digit has to be. One of 9 has to be if the correction of the low digit carries
into it. -/
def correctsHigh (a : UInt8) (f : Flags) : Bool :=
  let low := a &&& 0x0f
  let high := a >>> 4
  9 < high || f.carry || (high == 9 && 9 < low)

/-- What is added to correct the digits. -/
def correctionByte (a : UInt8) (f : Flags) : UInt8 :=
  (if correctsLow a f then 0x06 else 0) ||| (if correctsHigh a f then 0x60 else 0)

/-- The accumulator corrected to two decimal digits after an addition of such. Both digits are
judged on the accumulator and the flags as they were. -/
def decimalAdjust (a : UInt8) (f : Flags) : UInt8 × Flags :=
  let (value, flags) := add a (correctionByte a f) false
  (value, { flags with carry := flags.carry || (f.carry || correctsHigh a f) })

/-- The sum of two words and its carry. -/
def addWords (x y : UInt16) : UInt16 × Bool :=
  (x + y, 65535 < x.toNat + y.toNat)

/-- A byte rotated by one bit, alone or together with the carry, and the bit that left it. -/
def Rotation.apply (rotation : Rotation) (a : UInt8) (carry : Bool) : UInt8 × Bool :=
  let carryBit : UInt8 := if carry then 1 else 0
  match rotation with
  | rlc => (a <<< 1 ||| a >>> 7, a &&& 0x80 != 0)
  | rrc => (a >>> 1 ||| a <<< 7, a &&& 0x01 != 0)
  | ral => (a <<< 1 ||| carryBit, a &&& 0x80 != 0)
  | rar => (a >>> 1 ||| carryBit <<< 7, a &&& 0x01 != 0)

end Arcade
