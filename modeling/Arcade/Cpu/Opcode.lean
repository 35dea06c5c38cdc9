import Arcade.Cpu.Registers

/-!
# Opcodes

What the first byte of an instruction says: the operation and the registers it names, but not the
operand bytes that follow it. The three fields of the byte, two bits and twice three bits, select
the opcode.

* `Opcode.ofDocumented?` decodes the bytes with a documented meaning. Twelve bytes have none, and
  fall through;
* `Opcode.alias?`: the byte each of these acts as, and `Opcode.ofByte` decodes every byte by it;
* `Opcode.length`, `Opcode.cycles`: what an instruction occupies and what it costs;
* `branches`: whether a byte is listed among those whose instructions set the program counter
  themselves.
-/

namespace Arcade

/-- A condition of a jump, a call or a return. -/
inductive Condition
  | notZero
  | zero
  | noCarry
  | carry
  | parityOdd
  | parityEven
  | plus
  | minus
  deriving DecidableEq, Repr

/-- The condition with a three-bit code. -/
def Condition.ofCode (code : Nat) : Condition :=
  match code % 8 with
  | 0 => notZero
  | 1 => zero
  | 2 => noCarry
  | 3 => carry
  | 4 => parityOdd
  | 5 => parityEven
  | 6 => plus
  | _ => minus

/-- The letters of a condition. -/
def Condition.name : Condition → String
  | notZero => "NZ"
  | zero => "Z"
  | noCarry => "NC"
  | carry => "C"
  | parityOdd => "PO"
  | parityEven => "PE"
  | plus => "P"
  | minus => "M"

/-- An operation of the accumulator with a byte. -/
inductive AluOp
  | add
  | adc
  | sub
  | sbb
  | ana
  | xra
  | ora
  | cmp
  deriving DecidableEq, Repr

/-- The operation with a three-bit code. -/
def AluOp.ofCode (code : Nat) : AluOp :=
  match code % 8 with
  | 0 => add
  | 1 => adc
  | 2 => sub
  | 3 => sbb
  | 4 => ana
  | 5 => xra
  | 6 => ora
  | _ => cmp

/-- The mnemonic of an operation with a register. -/
def AluOp.name : AluOp → String
  | add => "ADD"
  | adc => "ADC"
  | sub => "SUB"
  | sbb => "SBB"
  | ana => "ANA"
  | xra => "XRA"
  | ora => "ORA"
  | cmp => "CMP"

/-- The mnemonic of an operation with the byte that follows. -/
def AluOp.immediateName : AluOp → String
  | add => "ADI"
  | adc => "ACI"
  | sub => "SUI"
  | sbb => "SBI"
  | ana => "ANI"
  | xra => "XRI"
  | ora => "ORI"
  | cmp => "CPI"

/-- A rotation of the accumulator by one bit. -/
inductive Rotation
  | rlc
  | rrc
  | ral
  | rar
  deriving DecidableEq, Repr

/-- The mnemonic of a rotation. -/
def Rotation.name : Rotation → String
  | rlc => "RLC"
  | rrc => "RRC"
  | ral => "RAL"
  | rar => "RAR"

/-- The operations of the processor, by mnemonic. -/
inductive Opcode
  | nop
  | hlt
  | ei
  | di
  | mov (target source : Operand)
  | mvi (target : Operand)
  | lxi (target : Pair)
  | lda
  | sta
  | lhld
  | shld
  | ldax (pointer : PointerPair)
  | stax (pointer : PointerPair)
  | xchg
  | alu (op : AluOp) (source : Operand)
  | aluImmediate (op : AluOp)
  | inr (target : Operand)
  | dcr (target : Operand)
  | inx (target : Pair)
  | dcx (target : Pair)
  | dad (source : Pair)
  | daa
  | cma
  | stc
  | cmc
  | rotate (rotation : Rotation)
  | jmp
  | jumpIf (condition : Condition)
  | call
  | callIf (condition : Condition)
  | ret
  | retIf (condition : Condition)
  | rst (number : Fin 8)
  | pchl
  | push (source : StackPair)
  | pop (target : StackPair)
  | xthl
  | sphl
  | input
  | output
  deriving DecidableEq, Repr

namespace Opcode

/-- The opcodes of the lowest quarter, by their low and middle fields. -/
def ofLowQuarter? (low middle : Nat) : Option Opcode :=
  match low, middle with
  | 0, 0 => some nop
  | 0, _ => none
  | 1, y => some (if y % 2 = 0 then lxi (.ofCode (y / 2)) else dad (.ofCode (y / 2)))
  | 2, 0 => some (stax .bc)
  | 2, 1 => some (ldax .bc)
  | 2, 2 => some (stax .de)
  | 2, 3 => some (ldax .de)
  | 2, 4 => some shld
  | 2, 5 => some lhld
  | 2, 6 => some sta
  | 2, _ => some lda
  | 3, y => some (if y % 2 = 0 then inx (.ofCode (y / 2)) else dcx (.ofCode (y / 2)))
  | 4, y => some (inr (.ofCode y))
  | 5, y => some (dcr (.ofCode y))
  | 6, y => some (mvi (.ofCode y))
  | _, 0 => some (rotate .rlc)
  | _, 1 => some (rotate .rrc)
  | _, 2 => some (rotate .ral)
  | _, 3 => some (rotate .rar)
  | _, 4 => some daa
  | _, 5 => some cma
  | _, 6 => some stc
  | _, _ => some cmc

/-- The opcodes of the highest quarter, by their low and middle fields. -/
def ofHighQuarter? (low middle : Nat) : Option Opcode :=
  match low, middle with
  | 0, y => some (retIf (.ofCode y))
  | 1, 1 => some ret
  | 1, 3 => none
  | 1, 5 => some pchl
  | 1, 7 => some sphl
  | 1, y => some (pop (.ofCode (y / 2)))
  | 2, y => some (jumpIf (.ofCode y))
  | 3, 0 => some jmp
  | 3, 1 => none
  | 3, 2 => some output
  | 3, 3 => some input
  | 3, 4 => some xthl
  | 3, 5 => some xchg
  | 3, 6 => some di
  | 3, _ => some ei
  | 4, y => some (callIf (.ofCode y))
  | 5, 1 => some call
  | 5, y => if y % 2 = 0 then some (push (.ofCode (y / 2))) else none
  | 6, y => some (aluImmediate (.ofCode y))
  | _, y => some (rst ⟨y % 8, mod_eight_lt y⟩)

/-- The opcode of a byte with a documented meaning. The place of a move from memory to memory is
taken by HLT. -/
def ofDocumented? (byte : UInt8) : Option Opcode :=
  let low := byte.toNat % 8
  let middle := byte.toNat / 8 % 8
  match byte.toNat / 64 with
  | 0 => ofLowQuarter? low middle
  | 1 => some (if low = 6 ∧ middle = 6 then hlt else mov (.ofCode middle) (.ofCode low))
  | 2 => some (alu (.ofCode middle) (.ofCode low))
  | _ => ofHighQuarter? low middle

/-- The documented byte an undocumented one acts as. -/
def alias? (byte : UInt8) : Option UInt8 :=
  match byte.toNat with
  | 0x08 | 0x10 | 0x18 | 0x20 | 0x28 | 0x30 | 0x38 => some 0x00
  | 0xcb => some 0xc3
  | 0xd9 => some 0xc9
  | 0xdd | 0xed | 0xfd => some 0xcd
  | _ => none

/-- The documented byte a byte acts as. -/
def documented (byte : UInt8) : UInt8 :=
  (alias? byte).getD byte

/-- The opcode of a byte. There is one for every documented byte, so that none is a NOP for want of
another. -/
def ofByte (byte : UInt8) : Opcode :=
  (ofDocumented? (documented byte)).getD nop

/-- What follows an opcode in memory. -/
inductive Immediate
  | none
  | byte
  | word
  deriving DecidableEq, Repr

/-- The number of operand bytes. -/
def Immediate.size : Immediate → Nat
  | none => 0
  | byte => 1
  | word => 2

/-- The operand bytes an opcode takes. -/
def immediate : Opcode → Immediate
  | mvi _ | aluImmediate _ | input | output => .byte
  | lxi _ | lda | sta | lhld | shld | jmp | jumpIf _ | call | callIf _ => .word
  | _ => .none

/-- The bytes an instruction occupies. -/
def length (op : Opcode) : Nat :=
  1 + op.immediate.size

/-- The cycles of an instruction. A conditional call or return lists its cost when it is not
taken. -/
def cycles : Opcode → Nat
  | nop | ei | di | xchg | rotate _ | daa | cma | stc | cmc => 4
  | hlt | ldax _ | stax _ | aluImmediate _ => 7
  | mov target source => if target = .m ∨ source = .m then 7 else 5
  | mvi target => if target = .m then 10 else 7
  | inr target | dcr target => if target = .m then 10 else 5
  | alu _ source => if source = .m then 7 else 4
  | inx _ | dcx _ | pchl | sphl | retIf _ => 5
  | lxi _ | dad _ | jmp | jumpIf _ | ret | pop _ | input | output => 10
  | callIf _ | rst _ | push _ => 11
  | lda | sta => 13
  | lhld | shld => 16
  | call => 17
  | xthl => 18

/-- The cycles a conditional call or return takes on top when its condition holds. -/
def takenCycles : Nat := 6

/-- The cycles it takes to accept an interrupt. -/
def interruptCycles : Nat := 11

/-- The documented bytes whose instructions set the program counter themselves, at least under a
condition: jumps, calls, returns, restarts and PCHL. -/
def branchBytes : List UInt8 :=
  [0xc3, 0xcd, 0xc9, 0xe9,
   0xc2, 0xca, 0xd2, 0xda, 0xe2, 0xea, 0xf2, 0xfa,
   0xc4, 0xcc, 0xd4, 0xdc, 0xe4, 0xec, 0xf4, 0xfc,
   0xc0, 0xc8, 0xd0, 0xd8, 0xe0, 0xe8, 0xf0, 0xf8,
   0xc7, 0xcf, 0xd7, 0xdf, 0xe7, 0xef, 0xf7, 0xff]

/-- Whether a byte is listed among them. -/
def branches (byte : UInt8) : Bool :=
  branchBytes.contains byte

end Opcode

end Arcade
