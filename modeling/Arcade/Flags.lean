/-!
# Condition flags

The five flags an arithmetic instruction leaves behind, and the status byte that holds them on
the stack: sign, zero, 0, auxiliary carry, 0, parity, 1, carry, from the highest bit down.

* `Flags.toByte`, `Flags.ofByte` pack and unpack the status byte;
* `ofByte_toByte`: packing loses nothing;
* `Flags.withResult` sets the three flags that depend on a result alone.
-/

namespace Arcade

/-- The condition flags. -/
structure Flags where
  sign : Bool := false
  zero : Bool := false
  auxCarry : Bool := false
  parity : Bool := false
  carry : Bool := false
  deriving DecidableEq, Repr, Inhabited

namespace Flags

/-- The status byte; its second lowest bit is always set. -/
def toByte (f : Flags) : UInt8 :=
  (if f.sign then 0x80 else 0) ||| (if f.zero then 0x40 else 0) |||
    (if f.auxCarry then 0x10 else 0) ||| (if f.parity then 0x04 else 0) ||| 0x02 |||
    (if f.carry then 0x01 else 0)

/-- The flags in a status byte; the three fixed bits are not looked at. -/
def ofByte (v : UInt8) : Flags where
  sign := v &&& 0x80 != 0
  zero := v &&& 0x40 != 0
  auxCarry := v &&& 0x10 != 0
  parity := v &&& 0x04 != 0
  carry := v &&& 0x01 != 0

@[simp]
theorem ofByte_toByte (f : Flags) : ofByte f.toByte = f := by
  rcases f with ⟨_ | _, _ | _, _ | _, _ | _, _ | _⟩ <;> rfl

/-- Whether an even number of bits is set. -/
def evenParity (v : UInt8) : Bool :=
  let half := v ^^^ v >>> 4
  let quarter := half ^^^ half >>> 2
  (quarter ^^^ quarter >>> 1) &&& 1 == 0

/-- The parity flag of a result. -/
def withParity (f : Flags) (result : UInt8) : Flags :=
  { f with parity := evenParity result }

/-- The zero, sign and parity flags of a result. -/
def withResult (f : Flags) (result : UInt8) : Flags :=
  { f with zero := result == 0, sign := result &&& 0x80 != 0, parity := evenParity result }

/-- The carry as a number. -/
def carryByte (f : Flags) : UInt8 :=
  if f.carry then 1 else 0

end Flags

end Arcade
