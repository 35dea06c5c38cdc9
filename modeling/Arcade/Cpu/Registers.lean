import Arcade.Word

/-!
# Registers

The register file of the processor and the names an instruction uses for parts of it: an operand
(a byte register or the memory byte HL points to), a register pair, a pair that goes on the stack,
a pair that points to memory.

* `Registers.pair`, `Registers.setPair` read and set a pair as a word, high byte first;
* `pair_setPair_self`: a pair reads as it was set.
-/

namespace Arcade

/-- A byte operand: a register, or `m` for the memory byte at the address in HL. -/
inductive Operand
  | b
  | c
  | d
  | e
  | h
  | l
  | m
  | a
  deriving DecidableEq, Repr

/-- The operand with a three-bit code. -/
def Operand.ofCode (code : Nat) : Operand :=
  match code % 8 with
  | 0 => b
  | 1 => c
  | 2 => d
  | 3 => e
  | 4 => h
  | 5 => l
  | 6 => m
  | _ => a

/-- The letter of an operand. -/
def Operand.name : Operand → String
  | b => "B"
  | c => "C"
  | d => "D"
  | e => "E"
  | h => "H"
  | l => "L"
  | m => "M"
  | a => "A"

/-- A word operand: a register pair or the stack pointer. -/
inductive Pair
  | bc
  | de
  | hl
  | sp
  deriving DecidableEq, Repr

/-- The pair with a two-bit code. -/
def Pair.ofCode (code : Nat) : Pair :=
  match code % 4 with
  | 0 => bc
  | 1 => de
  | 2 => hl
  | _ => sp

/-- A pair is named after its first register. -/
def Pair.name : Pair → String
  | bc => "B"
  | de => "D"
  | hl => "H"
  | sp => "SP"

/-- A pair that can be pushed: a register pair, or the accumulator with the status byte. -/
inductive StackPair
  | bc
  | de
  | hl
  | psw
  deriving DecidableEq, Repr

/-- The pushed pair with a two-bit code. -/
def StackPair.ofCode (code : Nat) : StackPair :=
  match code % 4 with
  | 0 => bc
  | 1 => de
  | 2 => hl
  | _ => psw

/-- The name of a pushed pair. -/
def StackPair.name : StackPair → String
  | bc => "B"
  | de => "D"
  | hl => "H"
  | psw => "PSW"

/-- A pair the accumulator can be loaded and stored through. -/
inductive PointerPair
  | bc
  | de
  deriving DecidableEq, Repr

/-- A pointer pair as a pair. -/
def PointerPair.toPair : PointerPair → Pair
  | bc => .bc
  | de => .de

/-- The register file. -/
structure Registers where
  a : UInt8 := 0
  b : UInt8 := 0
  c : UInt8 := 0
  d : UInt8 := 0
  e : UInt8 := 0
  h : UInt8 := 0
  l : UInt8 := 0
  sp : UInt16 := 0
  pc : UInt16 := 0
  deriving DecidableEq, Repr, Inhabited

namespace Registers

/-- B and C as a word. -/
def bc (r : Registers) : UInt16 :=
  Word.ofBytes r.b r.c

/-- D and E as a word. -/
def de (r : Registers) : UInt16 :=
  Word.ofBytes r.d r.e

/-- H and L as a word. -/
def hl (r : Registers) : UInt16 :=
  Word.ofBytes r.h r.l

/-- A pair as a word. -/
def pair (r : Registers) : Pair → UInt16
  | .bc => r.bc
  | .de => r.de
  | .hl => r.hl
  | .sp => r.sp

/-- The registers with a pair set to a word. -/
def setPair (r : Registers) (p : Pair) (value : UInt16) : Registers :=
  match p with
  | .bc => { r with b := Word.high value, c := Word.low value }
  | .de => { r with d := Word.high value, e := Word.low value }
  | .hl => { r with h := Word.high value, l := Word.low value }
  | .sp => { r with sp := value }

@[simp]
theorem pair_setPair_self (r : Registers) (p : Pair) (value : UInt16) :
    (r.setPair p value).pair p = value := by
  cases p <;> simp [setPair, pair, bc, de, hl]

@[simp]
theorem pc_setPair (r : Registers) (p : Pair) (value : UInt16) :
    (r.setPair p value).pc = r.pc := by
  cases p <;> rfl

end Registers

end Arcade
