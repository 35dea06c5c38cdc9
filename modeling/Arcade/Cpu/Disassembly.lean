import Arcade.Cpu.Opcode
import Arcade.Text.Hex

/-!
# Disassembly

One instruction in bytes as a line of text: its address, its mnemonic and registers, its operand
bytes in hexadecimal. An undocumented byte is written as the instruction it acts as, with a star.

* `Disassembly.ofBytes` picks the instruction at an address; bytes that are missing count as 0;
* `Disassembly.text` is the line;
* `Opcode.stem` is what the line says of the opcode: all but the operand bytes. Only documented
  bytes have an opcode to write (`Opcode.ofDocumented?`).
-/

namespace Arcade

/-- The text of an opcode up to the sign its operand bytes begin with. -/
def Opcode.stem : Opcode → String
  | nop => "NOP"
  | hlt => "HLT"
  | ei => "EI"
  | di => "DI"
  | mov target source => "MOV " ++ target.name ++ "," ++ source.name
  | mvi target => "MVI " ++ target.name ++ ",#"
  | lxi target => "LXI " ++ target.name ++ ",#"
  | lda => "LDA "
  | sta => "STA "
  | lhld => "LHLD "
  | shld => "SHLD "
  | ldax pointer => "LDAX " ++ pointer.toPair.name
  | stax pointer => "STAX " ++ pointer.toPair.name
  | xchg => "XCHG"
  | alu op source => op.name ++ " " ++ source.name
  | aluImmediate op => op.immediateName ++ " #"
  | inr target => "INR " ++ target.name
  | dcr target => "DCR " ++ target.name
  | inx target => "INX " ++ target.name
  | dcx target => "DCX " ++ target.name
  | dad source => "DAD " ++ source.name
  | daa => "DAA"
  | cma => "CMA"
  | stc => "STC"
  | cmc => "CMC"
  | rotate rotation => rotation.name
  | jmp => "JMP "
  | jumpIf condition => "J" ++ condition.name ++ " "
  | call => "CALL "
  | callIf condition => "C" ++ condition.name ++ " "
  | ret => "RET"
  | retIf condition => "R" ++ condition.name
  | rst number => "RST " ++ toString number.val
  | pchl => "PCHL"
  | push source => "PUSH " ++ source.name
  | pop target => "POP " ++ target.name
  | xthl => "XTHL"
  | sphl => "SPHL"
  | input => "IN #"
  | output => "OUT #"

/-- An instruction at an address, with the two bytes after its first one whether it takes them or
not. -/
structure Disassembly where
  address : UInt16
  byte : UInt8
  first : UInt8
  second : UInt8
  deriving DecidableEq, Repr

namespace Disassembly

/-- The byte at an address, 0 past the end. -/
def byteAt (bytes : Array UInt8) (address : UInt16) : UInt8 :=
  bytes.getD address.toNat 0

/-- The instruction at an address of some bytes. -/
def ofBytes (bytes : Array UInt8) (address : UInt16) : Disassembly where
  address := address
  byte := byteAt bytes address
  first := byteAt bytes (address + 1)
  second := byteAt bytes (address + 2)

/-- The bytes the instruction occupies. -/
def length (d : Disassembly) : Nat :=
  (Opcode.ofByte d.byte).length

/-- The operand bytes an opcode takes: a sign and a numeral, the last byte first. -/
def operandText (d : Disassembly) (op : Opcode) : String :=
  match op.immediate with
  | .none => ""
  | .byte => "$" ++ Hex.byte d.first
  | .word => "$" ++ Hex.word (Word.ofBytes d.second d.first)

/-- The instruction as if it began with another byte. -/
def mnemonic (d : Disassembly) (byte : UInt8) : String :=
  match Opcode.ofDocumented? byte with
  | some op => op.stem ++ d.operandText op
  | none => "UNKNOWN " ++ Hex.byte byte

/-- The line of an instruction. -/
def text (d : Disassembly) : String :=
  Hex.word d.address ++ " " ++
    match Opcode.alias? d.byte with
    | some documented => "*" ++ d.mnemonic documented
    | none => d.mnemonic d.byte

/-- The address after the instruction. -/
def next (d : Disassembly) : UInt16 :=
  d.address + UInt16.ofNat d.length

/-- A number of instructions in a row. -/
def listing (bytes : Array UInt8) (address : UInt16) : (count : Nat) → List Disassembly
  | 0 => []
  | count + 1 =>
    let d := ofBytes bytes address
    d :: listing bytes d.next count

end Disassembly

end Arcade
