import Arcade.Cpu.Basic
import Arcade.Proofs.Word

/-! # The bytes of the opcodes

An opcode is encoded by the fields of one byte: `code` numbers the parts an instruction can name,
`Opcode.toByte` puts them in their places.

* `toByte_of_ofDocumented?`: the decoder decodes nothing but encodings of opcodes;
* `toByte_ofByte`: decoding a byte and encoding it again gives the documented byte it acts as;
* `alias?_eq_none_iff`: the bytes without an alias are exactly the encodings of opcodes;
* `ofDocumented?_eq_none_iff`: so **the bytes that fall through the decoder are those with an
  alias**, and every byte has the opcode of the byte it acts as (`ofDocumented?_documented`). -/

namespace Arcade

/-- The three-bit code of an operand. -/
def Operand.code : Operand → Nat
  | b => 0
  | c => 1
  | d => 2
  | e => 3
  | h => 4
  | l => 5
  | m => 6
  | a => 7

/-- The two-bit code of a pair. -/
def Pair.code : Pair → Nat
  | bc => 0
  | de => 1
  | hl => 2
  | sp => 3

/-- The two-bit code of a pair on the stack. -/
def StackPair.code : StackPair → Nat
  | bc => 0
  | de => 1
  | hl => 2
  | psw => 3

/-- The three-bit code of an operation. -/
def AluOp.code : AluOp → Nat
  | add => 0
  | adc => 1
  | sub => 2
  | sbb => 3
  | ana => 4
  | xra => 5
  | ora => 6
  | cmp => 7

/-- The two-bit code of a rotation. -/
def Rotation.code : Rotation → Nat
  | rlc => 0
  | rrc => 1
  | ral => 2
  | rar => 3

/-- The three-bit code of a condition. -/
def Condition.code : Condition → Nat
  | notZero => 0
  | zero => 1
  | noCarry => 2
  | carry => 3
  | parityOdd => 4
  | parityEven => 5
  | plus => 6
  | minus => 7

namespace Opcode

/-- The byte an opcode is encoded by. -/
def toByte : Opcode → UInt8
  | nop => 0x00
  | hlt => 0x76
  | ei => 0xfb
  | di => 0xf3
  | mov target source => .ofNat (0x40 + 8 * target.code + source.code)
  | mvi target => .ofNat (0x06 + 8 * target.code)
  | lxi target => .ofNat (0x01 + 16 * target.code)
  | lda => 0x3a
  | sta => 0x32
  | lhld => 0x2a
  | shld => 0x22
  | ldax pointer => .ofNat (0x0a + 16 * pointer.toPair.code)
  | stax pointer => .ofNat (0x02 + 16 * pointer.toPair.code)
  | xchg => 0xeb
  | alu op source => .ofNat (0x80 + 8 * op.code + source.code)
  | aluImmediate op => .ofNat (0xc6 + 8 * op.code)
  | inr target => .ofNat (0x04 + 8 * target.code)
  | dcr target => .ofNat (0x05 + 8 * target.code)
  | inx target => .ofNat (0x03 + 16 * target.code)
  | dcx target => .ofNat (0x0b + 16 * target.code)
  | dad source => .ofNat (0x09 + 16 * source.code)
  | daa => 0x27
  | cma => 0x2f
  | stc => 0x37
  | cmc => 0x3f
  | rotate rotation => .ofNat (0x07 + 8 * rotation.code)
  | jmp => 0xc3
  | jumpIf condition => .ofNat (0xc2 + 8 * condition.code)
  | call => 0xcd
  | callIf condition => .ofNat (0xc4 + 8 * condition.code)
  | ret => 0xc9
  | retIf condition => .ofNat (0xc0 + 8 * condition.code)
  | rst number => .ofNat (0xc7 + 8 * number.val)
  | pchl => 0xe9
  | push source => .ofNat (0xc5 + 16 * source.code)
  | pop target => .ofNat (0xc1 + 16 * target.code)
  | xthl => 0xe3
  | sphl => 0xf9
  | input => 0xdb
  | output => 0xd3

/-- The decoder finds an opcode that the byte encodes. -/
theorem toByte_of_ofDocumented? {byte : UInt8} {op : Opcode} (h : ofDocumented? byte = some op) :
    op.toByte = byte :=
  forall_byte (p := fun byte => ∀ op ∈ ofDocumented? byte, op.toByte = byte) (by decide +kernel)
    byte op h

theorem toByte_ofByte (byte : UInt8) : (ofByte byte).toByte = documented byte :=
  forall_byte (p := fun byte => (ofByte byte).toByte = documented byte) (by decide +kernel) byte

theorem alias?_toByte (op : Opcode) : alias? op.toByte = none := by
  cases op with
  | mov target source => cases target <;> cases source <;> rfl
  | alu op source => cases op <;> cases source <;> rfl
  | mvi part | inr part | dcr part | lxi part | inx part | dcx part | dad part => cases part <;> rfl
  | ldax part | stax part | push part | pop part => cases part <;> rfl
  | aluImmediate part | rotate part => cases part <;> rfl
  | jumpIf part | callIf part | retIf part => cases part <;> rfl
  | rst number => exact (by decide : ∀ n, alias? (rst n).toByte = none) number
  | _ => rfl

theorem alias?_documented (byte : UInt8) : alias? (documented byte) = none := by
  rw [← toByte_ofByte]
  exact alias?_toByte (ofByte byte)

/-- A byte is documented exactly if it encodes an opcode. -/
theorem alias?_eq_none_iff (byte : UInt8) :
    alias? byte = none ↔ ∃ op : Opcode, op.toByte = byte := by
  constructor
  · intro h
    refine ⟨ofByte byte, ?_⟩
    rw [toByte_ofByte, documented, h, Option.getD_none]
  · rintro ⟨op, rfl⟩
    exact alias?_toByte op

/-! ### The decoder and the table of aliases -/

/-- No encoding of an opcode falls through the decoder. -/
theorem isSome_ofDocumented?_toByte (op : Opcode) : (ofDocumented? op.toByte).isSome = true := by
  cases op with
  | mov target source => cases target <;> cases source <;> rfl
  | alu op source => cases op <;> cases source <;> rfl
  | mvi part | inr part | dcr part | lxi part | inx part | dcx part | dad part => cases part <;> rfl
  | ldax part | stax part | push part | pop part => cases part <;> rfl
  | aluImmediate part | rotate part => cases part <;> rfl
  | jumpIf part | callIf part | retIf part => cases part <;> rfl
  | rst number => exact (by decide : ∀ n, (ofDocumented? (rst n).toByte).isSome = true) number
  | _ => rfl

/-- **The bytes that fall through the decoder are those with an alias.** -/
theorem ofDocumented?_eq_none_iff (byte : UInt8) :
    ofDocumented? byte = none ↔ (alias? byte).isSome = true := by
  rw [Option.isSome_iff_ne_none, ne_eq, alias?_eq_none_iff]
  constructor
  · rintro falls ⟨op, rfl⟩
    have decoded := isSome_ofDocumented?_toByte op
    rw [falls] at decoded
    cases decoded
  · intro unencoded
    cases decoded : ofDocumented? byte with
    | none => rfl
    | some op => exact absurd ⟨op, toByte_of_ofDocumented? decoded⟩ unencoded

/-- Every byte has the opcode of the documented byte it acts as. -/
theorem ofDocumented?_documented (byte : UInt8) :
    ofDocumented? (documented byte) = some (ofByte byte) := by
  cases decoded : ofDocumented? (documented byte) with
  | none =>
    have undocumented := (ofDocumented?_eq_none_iff _).mp decoded
    rw [alias?_documented] at undocumented
    cases undocumented
  | some op => rw [ofByte, decoded, Option.getD_some]

theorem ofDocumented?_of_documented {byte : UInt8} (h : alias? byte = none) :
    ofDocumented? byte = some (ofByte byte) := by
  have decoded := ofDocumented?_documented byte
  rwa [documented, h, Option.getD_none] at decoded

theorem ofByte_documented (byte : UInt8) : ofByte (documented byte) = ofByte byte := by
  have twice : documented (documented byte) = documented byte := by
    rw [documented, alias?_documented, Option.getD_none]
  rw [ofByte, twice, ofByte]

/-- An undocumented byte has the opcode of the byte it acts as. -/
theorem ofByte_alias {byte other : UInt8} (h : alias? byte = some other) :
    ofByte byte = ofByte other := by
  rw [← ofByte_documented byte, documented, h, Option.getD_some]

end Opcode

/-- **What is executed for a byte that was fetched**: nothing, if the processor is strict and the
byte has an alias, and otherwise the opcode of the byte. -/
theorem Cpu.ofDocumented?_decode (cpu : Cpu) (byte : UInt8) :
    Opcode.ofDocumented? (cpu.decode byte) =
      if cpu.strict = true ∧ (Opcode.alias? byte).isSome = true then none
      else some (.ofByte byte) := by
  cases strict : cpu.strict with
  | false =>
    have acts : cpu.decode byte = Opcode.documented byte := by simp [decode, strict]
    rw [acts, Opcode.ofDocumented?_documented, if_neg (fun h => nomatch h.1)]
  | true =>
    have stays : cpu.decode byte = byte := by simp [decode, strict]
    rw [stays]
    cases undocumented : Opcode.alias? byte with
    | none =>
      rw [Opcode.ofDocumented?_of_documented undocumented, if_neg (fun h => nomatch h.2)]
    | some other =>
      have falls : Opcode.ofDocumented? byte = none :=
        (Opcode.ofDocumented?_eq_none_iff byte).mpr (by rw [undocumented]; rfl)
      rw [falls, if_pos ⟨rfl, rfl⟩]

end Arcade
