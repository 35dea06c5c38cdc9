import Arcade.Proofs.Core.Policy
import Arcade.Proofs.Cpu.Encoding
import Arcade.Proofs.Memory
import Mathlib.Data.List.Nodup

/-! # Reading a line of disassembly back

A line says all of its instruction: where it stands, what it does, with which operand bytes, and
whether its byte is documented. The address has a fixed width, a star comes before the mnemonic of
an undocumented byte, and a dollar sign before the operand bytes; neither sign is a part of a
mnemonic.

* `Hex.fixed_inj`: numerals of a fixed width say what number they are of;
* `Plain`: a text without the signs that set off the parts of a line. Names, numerals and
  `Opcode.stem` are plain;
* `Opcode.documented_of_stem`: no two opcodes have the same stem;
* `toList_text`: the parts of a line, and `parts_of_text`: equal lines have equal parts;
* `lengths`: the lengths of the instructions as a table;
* `text_identifies`: **a line identifies its instruction**, and so what a processor that refuses
  nothing executes there. -/

namespace Arcade

/-! ### Plain texts -/

/-- A text without the signs that set off the parts of a line, and without the letter K. -/
def Plain (s : String) : Prop :=
  ∀ c ∈ s.toList, c ≠ '$' ∧ c ≠ '*' ∧ c ≠ 'K'

-- by the characters of the text: all characters there are would be too many
instance (s : String) : Decidable (Plain s) :=
  List.decidableBAll (fun c => c ≠ '$' ∧ c ≠ '*' ∧ c ≠ 'K') s.toList

theorem Plain.append {s t : String} (hs : Plain s) (ht : Plain t) : Plain (s ++ t) := by
  intro c h
  rw [String.toList_append] at h
  rcases List.mem_append.mp h with front | back
  · exact hs c front
  · exact ht c back

namespace Hex

theorem digitChar_inj {m n : Nat} (hm : m < 16) (hn : n < 16)
    (h : Nat.digitChar m = Nat.digitChar n) : m = n := by
  have decided : ∀ i j : Fin 16, Nat.digitChar i = Nat.digitChar j → i = j := by decide
  exact congrArg Fin.val (decided ⟨m, hm⟩ ⟨n, hn⟩ h)

/-- **Numerals of a fixed width say what number they are of**, if it has no more digits. -/
theorem fixed_inj {width m n : Nat} (hm : m < 16 ^ width) (hn : n < 16 ^ width)
    (h : fixed width m = fixed width n) : m = n := by
  induction width generalizing m n with
  | zero => omega
  | succ width ih =>
    rw [Nat.pow_succ] at hm hn
    rw [fixed, fixed] at h
    obtain ⟨front, last⟩ := List.append_inj' h rfl
    have quotients : m / 16 = n / 16 :=
      ih (Nat.div_lt_of_lt_mul (by omega)) (Nat.div_lt_of_lt_mul (by omega)) front
    have remainders : m % 16 = n % 16 :=
      digitChar_inj (Nat.mod_lt m (by decide)) (Nat.mod_lt n (by decide))
        (List.singleton_inj.mp last)
    omega

theorem byte_injective : Function.Injective byte := by
  intro b b' h
  exact UInt8.toNat_inj.mp (fixed_inj b.toNat_lt b'.toNat_lt (String.ofList_injective h))

theorem word_injective : Function.Injective word := by
  intro w w' h
  exact UInt16.toNat_inj.mp (fixed_inj w.toNat_lt w'.toNat_lt (String.ofList_injective h))

theorem plain_fixed (width n : Nat) : Plain (String.ofList (fixed width n)) := by
  intro c h
  rw [String.toList_ofList] at h
  induction width generalizing n with
  | zero => cases h
  | succ width ih =>
    rw [fixed] at h
    rcases List.mem_append.mp h with front | last
    · exact ih (n / 16) front
    · have digits : ∀ i : Fin 16,
          Nat.digitChar i ≠ '$' ∧ Nat.digitChar i ≠ '*' ∧ Nat.digitChar i ≠ 'K' := by decide
      rw [List.mem_singleton.mp last]
      exact digits ⟨n % 16, Nat.mod_lt n (by decide)⟩

end Hex

/-! ### The texts of the opcodes -/

theorem Operand.plain_name (part : Operand) : Plain part.name := by
  cases part <;> decide

theorem Pair.plain_name (part : Pair) : Plain part.name := by
  cases part <;> decide

theorem StackPair.plain_name (part : StackPair) : Plain part.name := by
  cases part <;> decide

theorem Condition.plain_name (part : Condition) : Plain part.name := by
  cases part <;> decide

theorem AluOp.plain_name (part : AluOp) : Plain part.name := by
  cases part <;> decide

theorem AluOp.plain_immediateName (part : AluOp) : Plain part.immediateName := by
  cases part <;> decide

theorem Rotation.plain_name (part : Rotation) : Plain part.name := by
  cases part <;> decide

namespace Opcode

theorem plain_stem (op : Opcode) : Plain op.stem := by
  cases op with
  | mov target source =>
    exact ((Plain.append (by decide) target.plain_name).append (by decide)).append source.plain_name
  | alu op source => exact (op.plain_name.append (by decide)).append source.plain_name
  | aluImmediate op => exact op.plain_immediateName.append (by decide)
  | mvi part | lxi part | jumpIf part | callIf part =>
    exact (Plain.append (by decide) part.plain_name).append (by decide)
  | ldax part | stax part => exact Plain.append (by decide) part.toPair.plain_name
  | inr part | dcr part | inx part | dcx part | dad part | push part | pop part | retIf part =>
    exact Plain.append (by decide) part.plain_name
  | rotate rotation => exact rotation.plain_name
  | rst number => exact (by decide : ∀ number : Fin 8, Plain (rst number).stem) number
  | _ => decide

/-- The number that the bytes of a stem stand for. Numbers are compared much faster than texts. -/
def stemNumber (op : Opcode) : Nat :=
  op.stem.toByteArray.data.toList.foldl (fun n byte => 256 * n + byte.toNat) 0

/-- The bytes with a documented meaning. -/
def documentedBytes : List UInt8 :=
  ((List.range 256).map UInt8.ofNat).filter fun byte => (alias? byte).isNone

/-- Whether no number is listed twice. -/
def allDistinct : List Nat → Bool
  | [] => true
  | n :: ns => ns.all (fun m => !n.beq m) && allDistinct ns

theorem nodup_of_allDistinct {ns : List Nat} (h : allDistinct ns = true) : ns.Nodup := by
  induction ns with
  | nil => exact List.nodup_nil
  | cons n ns ih =>
    rw [allDistinct, Bool.and_eq_true, List.all_eq_true] at h
    obtain ⟨new, others⟩ := h
    refine List.nodup_cons.mpr ⟨fun listed => ?_, ih others⟩
    have differs := new n listed
    rw [Nat.beq_refl] at differs
    cases differs

theorem nodup_stemNumbers : (documentedBytes.map fun byte => (ofByte byte).stemNumber).Nodup :=
  nodup_of_allDistinct (by decide +kernel)

theorem Immediate.size_le_two (immediate : Immediate) : immediate.size ≤ 2 := by
  cases immediate <;> decide

theorem documented_mem (byte : UInt8) : documented byte ∈ documentedBytes := by
  refine List.mem_filter.mpr ⟨List.mem_map.mpr ⟨(documented byte).toNat, ?_, ?_⟩, ?_⟩
  · exact List.mem_range.mpr (documented byte).toNat_lt
  · exact UInt8.ofNat_toNat
  · rw [alias?_documented]
    rfl

/-- **No two opcodes have the same stem.** -/
theorem documented_of_stem {byte byte' : UInt8} (h : (ofByte byte).stem = (ofByte byte').stem) :
    documented byte = documented byte' := by
  refine List.inj_on_of_nodup_map nodup_stemNumbers (documented_mem byte) (documented_mem byte') ?_
  rw [ofByte_documented, ofByte_documented, stemNumber, stemNumber, h]

end Opcode

/-! ### The parts of a line -/

namespace Disassembly

/-- The opcode of the instruction. -/
def opcode (d : Disassembly) : Opcode :=
  .ofByte d.byte

/-- The star of an undocumented byte. -/
def mark (d : Disassembly) : List Char :=
  if (Opcode.alias? d.byte).isSome then ['*'] else []

/-- What follows the star: the opcode and its operand bytes. -/
def body (d : Disassembly) : List Char :=
  d.opcode.stem.toList ++ (d.operandText d.opcode).toList

variable {d d' : Disassembly}

theorem mnemonic_of_documented {byte : UInt8} (h : Opcode.alias? byte = none) :
    d.mnemonic byte = (Opcode.ofByte byte).stem ++ d.operandText (.ofByte byte) := by
  rw [mnemonic, Opcode.ofDocumented?_of_documented h]

/-- **The parts of a line.** An undocumented byte is written as the byte it acts as, which is
documented. -/
theorem toList_text (d : Disassembly) :
    d.text.toList = Hex.fixed 4 d.address.toNat ++ ' ' :: (d.mark ++ d.body) := by
  rw [text, String.toList_append, String.toList_append, Hex.word, String.toList_ofList, mark, body,
    List.append_assoc]
  cases undocumented : Opcode.alias? d.byte with
  | none =>
    simp only [mnemonic_of_documented undocumented, String.toList_append]
    rfl
  | some other =>
    have documented : Opcode.alias? other = none := by
      have written := Opcode.alias?_documented d.byte
      rwa [Opcode.documented, undocumented, Option.getD_some] at written
    simp only [mnemonic_of_documented documented, ← Opcode.ofByte_alias undocumented,
      String.toList_append]
    rfl

theorem takeWhile_body (d : Disassembly) :
    d.body.takeWhile (· ≠ '$') = d.opcode.stem.toList := by
  have inside : ∀ c ∈ d.opcode.stem.toList, decide (c ≠ '$') = true := fun c h =>
    decide_eq_true (d.opcode.plain_stem c h).1
  rw [body, List.takeWhile_append_of_pos inside, operandText]
  cases d.opcode.immediate with
  | none => exact List.append_nil _
  | byte | word =>
    rw [String.toList_append]
    exact List.append_nil _

theorem plain_of_mem_body {c : Char} (h : c ∈ d.body) : c ≠ '*' ∧ c ≠ 'K' := by
  rcases List.mem_append.mp h with stem | operands
  · exact (d.opcode.plain_stem c stem).2
  · rw [operandText] at operands
    cases taken : d.opcode.immediate with
    | none =>
      rw [taken] at operands
      cases operands
    | byte | word =>
      rw [taken, String.toList_append] at operands
      rcases List.mem_append.mp operands with sign | numeral
      · rw [List.mem_singleton.mp sign]
        decide
      · exact (Hex.plain_fixed _ _ c numeral).2

theorem not_mem_text (d : Disassembly) : 'K' ∉ d.text.toList := by
  have plain : ∀ c ∈ Hex.fixed 4 d.address.toNat, c ≠ 'K' := by
    have address := Hex.plain_fixed 4 d.address.toNat
    rw [Plain, String.toList_ofList] at address
    exact fun c h => (address c h).2.2
  rw [toList_text, mark]
  intro h
  rcases List.mem_append.mp h with address | rest
  · exact plain 'K' address rfl
  · rcases List.mem_append.mp (List.mem_of_ne_of_mem (by decide) rest) with mark | body
    · split at mark
      · revert mark
        decide
      · cases mark
    · exact (plain_of_mem_body body).2 rfl

/-- Whether there is a star can be seen from where the mnemonic begins. -/
theorem mark_of_append (h : d.mark ++ d.body = d'.mark ++ d'.body) :
    (Opcode.alias? d.byte).isSome = (Opcode.alias? d'.byte).isSome ∧ d.body = d'.body := by
  unfold mark at h
  have star {d : Disassembly} {rest : List Char} : d.body ≠ '*' :: rest := fun starred =>
    (plain_of_mem_body (starred ▸ List.mem_cons_self)).1 rfl
  cases undocumented : (Opcode.alias? d.byte).isSome <;>
    cases undocumented' : (Opcode.alias? d'.byte).isSome <;>
    rw [undocumented, undocumented'] at h
  · exact ⟨rfl, h⟩
  · exact absurd h star
  · exact absurd h.symm star
  · exact ⟨rfl, List.tail_eq_of_cons_eq h⟩

/-- The operand bytes can be read from their text. -/
theorem operands_of_text {op : Opcode} (h : d.operandText op = d'.operandText op) :
    (0 < op.immediate.size → d.first = d'.first) ∧
      (1 < op.immediate.size → d.second = d'.second) := by
  unfold operandText at h
  cases taken : op.immediate with
  | none => exact ⟨nofun, nofun⟩
  | byte =>
    rw [taken] at h
    have numerals : Hex.byte d.first = Hex.byte d'.first := (String.append_right_inj _).mp h
    exact ⟨fun _ => Hex.byte_injective numerals, fun two => absurd two (by decide)⟩
  | word =>
    rw [taken] at h
    have words := Hex.word_injective ((String.append_right_inj _).mp h)
    have low := congrArg Word.low words
    have high := congrArg Word.high words
    rw [Word.low_ofBytes, Word.low_ofBytes] at low
    rw [Word.high_ofBytes, Word.high_ofBytes] at high
    exact ⟨fun _ => low, fun _ => high⟩

/-- **Equal lines have equal parts.** -/
theorem parts_of_text (h : d.text = d'.text) :
    d.address = d'.address ∧
      (Opcode.alias? d.byte).isSome = (Opcode.alias? d'.byte).isSome ∧
      Opcode.documented d.byte = Opcode.documented d'.byte ∧ d.opcode = d'.opcode ∧
      (0 < d.opcode.immediate.size → d.first = d'.first) ∧
      (1 < d.opcode.immediate.size → d.second = d'.second) := by
  have lists := congrArg String.toList h
  rw [toList_text, toList_text] at lists
  obtain ⟨addresses, rest⟩ :=
    List.append_inj lists ((Hex.length_fixed 4 _).trans (Hex.length_fixed 4 _).symm)
  have address : d.address = d'.address :=
    UInt16.toNat_inj.mp (Hex.fixed_inj d.address.toNat_lt d'.address.toNat_lt addresses)
  obtain ⟨marks, bodies⟩ := mark_of_append (List.tail_eq_of_cons_eq rest)
  have stems : d.opcode.stem = d'.opcode.stem := by
    apply String.toList_inj.mp
    rw [← takeWhile_body, ← takeWhile_body, bodies]
  have bytes := Opcode.documented_of_stem stems
  have opcodes : d.opcode = d'.opcode := by
    rw [opcode, opcode, ← Opcode.ofByte_documented, bytes, Opcode.ofByte_documented]
  have operands : d.operandText d.opcode = d'.operandText d.opcode := by
    rw [body, body, stems] at bodies
    rw [String.toList_inj.mp (List.append_cancel_left bodies), opcodes]
  exact ⟨address, marks, bytes, opcodes, operands_of_text operands⟩

/-! ### Instructions in memory -/

/-- The lengths of the instructions, sixteen bytes to a row. -/
def lengths : List Nat :=
  [1, 3, 1, 1, 1, 1, 2, 1, 1, 1, 1, 1, 1, 1, 2, 1,
   1, 3, 1, 1, 1, 1, 2, 1, 1, 1, 1, 1, 1, 1, 2, 1,
   1, 3, 3, 1, 1, 1, 2, 1, 1, 1, 3, 1, 1, 1, 2, 1,
   1, 3, 3, 1, 1, 1, 2, 1, 1, 1, 3, 1, 1, 1, 2, 1,
   1, 1, 1, 1, 1, 1, 1, 1, 1, 1, 1, 1, 1, 1, 1, 1,
   1, 1, 1, 1, 1, 1, 1, 1, 1, 1, 1, 1, 1, 1, 1, 1,
   1, 1, 1, 1, 1, 1, 1, 1, 1, 1, 1, 1, 1, 1, 1, 1,
   1, 1, 1, 1, 1, 1, 1, 1, 1, 1, 1, 1, 1, 1, 1, 1,
   1, 1, 1, 1, 1, 1, 1, 1, 1, 1, 1, 1, 1, 1, 1, 1,
   1, 1, 1, 1, 1, 1, 1, 1, 1, 1, 1, 1, 1, 1, 1, 1,
   1, 1, 1, 1, 1, 1, 1, 1, 1, 1, 1, 1, 1, 1, 1, 1,
   1, 1, 1, 1, 1, 1, 1, 1, 1, 1, 1, 1, 1, 1, 1, 1,
   1, 1, 3, 3, 3, 1, 2, 1, 1, 1, 3, 3, 3, 3, 2, 1,
   1, 1, 3, 2, 3, 1, 2, 1, 1, 1, 3, 2, 3, 3, 2, 1,
   1, 1, 3, 1, 3, 1, 2, 1, 1, 1, 3, 1, 3, 3, 2, 1,
   1, 1, 3, 1, 3, 1, 2, 1, 1, 1, 3, 1, 3, 3, 2, 1]

theorem lengths_getElem? (d : Disassembly) : lengths[d.byte.toNat]? = some d.length :=
  forall_byte (p := fun byte => lengths[byte.toNat]? = some (Opcode.ofByte byte).length)
    (by decide +kernel) d.byte

/-- The operand bytes of the instruction, as far as it takes them. -/
theorem byteAt_of_text {bytes bytes' : Array UInt8} {pc pc' : UInt16}
    (h : (ofBytes bytes pc).text = (ofBytes bytes' pc').text) {i : Nat} (positive : 0 < i)
    (within : i < (ofBytes bytes pc).length) :
    byteAt bytes (pc + .ofNat i) = byteAt bytes' (pc' + .ofNat i) := by
  obtain ⟨-, -, -, -, first, second⟩ := parts_of_text h
  have size : (ofBytes bytes pc).length = 1 + (ofBytes bytes pc).opcode.immediate.size := rfl
  have most := (ofBytes bytes pc).opcode.immediate.size_le_two
  obtain rfl | rfl : i = 1 ∨ i = 2 := by omega
  · exact first (by omega)
  · exact second (by omega)

end Disassembly

theorem Memory.byteAt_bytes_of_lt {m : Memory} {address : UInt16}
    (inside : address.toNat < m.bytes.size) :
    Disassembly.byteAt m.bytes address = m.read address := by
  rw [Disassembly.byteAt, Array.getD_eq_getD_getElem?, Array.getElem?_eq_getElem inside,
    Option.getD_some]
  have cell : m.cell address = address.toNat := Nat.mod_eq_of_lt inside
  simp only [Memory.read, cell]

theorem Memory.byteAt_bytes {m : Memory} (full : m.bytes.size = 0x10000) (address : UInt16) :
    Disassembly.byteAt m.bytes address = m.read address :=
  byteAt_bytes_of_lt (by rw [full]; exact address.toNat_lt)

namespace Core

variable {δ δ' : Type}

/-- The instruction the program counter stands at. -/
def instruction (core : Core δ) : Disassembly :=
  .ofBytes core.memory.bytes core.cpu.pc

/-- The operand bytes of the next instruction. -/
def operands (core : Core δ) : List UInt8 :=
  (List.range core.opcode.immediate.size).map fun i =>
    core.memory.read (core.cpu.pc + .ofNat (i + 1))

/-- A processor that runs and refuses nothing, with a cell of its own for each address. -/
structure Unrestricted (core : Core δ) : Prop where
  running : core.cpu.halted = false
  lenient : core.cpu.strict = false
  full : core.memory.bytes.size = 0x10000

theorem Unrestricted.opcode_instruction {core : Core δ} (h : core.Unrestricted) :
    core.instruction.opcode = core.opcode :=
  congrArg Opcode.ofByte (Memory.byteAt_bytes h.full core.cpu.pc)

theorem Unrestricted.step [Ports δ] {core : Core δ} (h : core.Unrestricted) :
    core.step = (.ok core.cost, core.next) :=
  step_of_accepted h.running (refusal?_of_lenient h.lenient)

/-- What is executed where equal lines stand. -/
theorem executed_of_text {core : Core δ} {core' : Core δ'} (h : core.Unrestricted)
    (h' : core'.Unrestricted) (same : core.instruction.text = core'.instruction.text) :
    core.opcode = core'.opcode ∧ core.operands = core'.operands := by
  obtain ⟨-, -, -, opcodes, -⟩ := Disassembly.parts_of_text same
  rw [h.opcode_instruction, h'.opcode_instruction] at opcodes
  refine ⟨opcodes, ?_⟩
  rw [operands, operands, ← opcodes]
  refine List.map_congr_left fun i within => ?_
  have inside : i + 1 < core.instruction.length := by
    have size : core.instruction.length = 1 + core.instruction.opcode.immediate.size := rfl
    rw [size, h.opcode_instruction]
    have := List.mem_range.mp within
    omega
  rw [← Memory.byteAt_bytes h.full, ← Memory.byteAt_bytes h'.full]
  exact Disassembly.byteAt_of_text same i.succ_pos inside

end Core

namespace Disassembly

/-- **A line identifies its instruction.** It is written for every byte, documented or not, with the
length of its instruction, and equal lines stand for the same instruction: at the same address, of
the same documented byte, starred or not, and with the same operand bytes. So two processors that
stand at equal lines and refuse nothing execute the same opcode with the same operand bytes. -/
theorem text_identifies {δ δ' : Type} [Ports δ] [Ports δ'] :
    (∀ (bytes : Array UInt8) (pc : UInt16),
      lengths[(byteAt bytes pc).toNat]? = some (ofBytes bytes pc).length ∧
        ¬"UNKNOWN".toList <:+: (ofBytes bytes pc).text.toList) ∧
    (∀ (bytes bytes' : Array UInt8) (pc pc' : UInt16),
      (ofBytes bytes pc).text = (ofBytes bytes' pc').text →
        pc = pc' ∧
        Opcode.documented (byteAt bytes pc) = Opcode.documented (byteAt bytes' pc') ∧
        (Opcode.alias? (byteAt bytes pc)).isSome = (Opcode.alias? (byteAt bytes' pc')).isSome ∧
        (ofBytes bytes pc).length = (ofBytes bytes' pc').length ∧
        ∀ i, 0 < i → i < (ofBytes bytes pc).length →
          byteAt bytes (pc + .ofNat i) = byteAt bytes' (pc' + .ofNat i)) ∧
    ∀ (core : Core δ) (core' : Core δ'), core.Unrestricted → core'.Unrestricted →
      core.instruction.text = core'.instruction.text →
        core.step = (.ok core.cost, core.next) ∧ core'.step = (.ok core'.cost, core'.next) ∧
        core.opcode = core'.opcode ∧ core.operands = core'.operands ∧
        core.opcode.length = core.instruction.length := by
  refine ⟨fun bytes pc => ⟨lengths_getElem? (ofBytes bytes pc), fun unknown => ?_⟩,
    fun bytes bytes' pc pc' same => ?_, fun core core' h h' same => ?_⟩
  · exact (ofBytes bytes pc).not_mem_text (unknown.subset (by decide))
  · obtain ⟨addresses, marks, documented, opcodes, -⟩ := parts_of_text same
    have lengths : (ofBytes bytes pc).length = (ofBytes bytes' pc').length :=
      congrArg Opcode.length opcodes
    exact ⟨addresses, documented, marks, lengths, fun i => byteAt_of_text same⟩
  · obtain ⟨opcodes, operands⟩ := Core.executed_of_text h h' same
    exact ⟨h.step, h'.step, opcodes, operands, congrArg Opcode.length h.opcode_instruction.symm⟩

/-- A memory of one byte, behind a lenient processor that is switched on. -/
def standing (byte : UInt8) : Core Unconnected :=
  ⟨{ strict := false }, .filled byte, .unconnected⟩

theorem unrestricted_standing (byte : UInt8) : (standing byte).Unrestricted :=
  ⟨rfl, rfl, Memory.size_filled byte⟩

theorem instruction_standing (byte : UInt8) :
    (standing byte).instruction = ⟨0, byte, byte, byte⟩ := by
  have read (address : UInt16) : byteAt (Memory.filled byte).bytes address = byte :=
    (Memory.byteAt_bytes (Memory.size_filled byte) address).trans (Memory.read_filled byte address)
  simp only [standing, Core.instruction, ofBytes, read]

/-- Two undocumented calls of the same address, though the bytes behind them differ; and two bytes
that do nothing, with the processors that step over them. -/
theorem text_identifies_alias :
    let bytes := #[0xdd, 0x34, 0x12]
    let bytes' := #[0xfd, 0x34, 0x12, 0x76]
    (ofBytes bytes 0).text = "0000 *CALL $1234" ∧ (ofBytes bytes' 0).text = "0000 *CALL $1234" ∧
      Opcode.documented (byteAt bytes 0) = Opcode.documented (byteAt bytes' 0) ∧
      byteAt bytes (0 + .ofNat 2) = byteAt bytes' (0 + .ofNat 2) ∧
      (standing 0x08).instruction.text = "0000 *NOP" ∧
      (standing 0x10).instruction.text = "0000 *NOP" ∧
      (standing 0x08).step = (.ok (standing 0x08).cost, (standing 0x08).next) ∧
      (standing 0x08).opcode = (standing 0x10).opcode := by
  intro bytes bytes'
  have line : (ofBytes bytes 0).text = "0000 *CALL $1234" := by decide
  have line' : (ofBytes bytes' 0).text = "0000 *CALL $1234" := by decide
  have shown : (standing 0x08).instruction.text = "0000 *NOP" := by
    rw [instruction_standing]
    decide
  have shown' : (standing 0x10).instruction.text = "0000 *NOP" := by
    rw [instruction_standing]
    decide
  obtain ⟨-, identifies, executes⟩ := @text_identifies Unconnected Unconnected _ _
  obtain ⟨-, documented, -, -, operands⟩ := identifies bytes bytes' 0 0 (line.trans line'.symm)
  obtain ⟨steps, -, opcodes, -⟩ := executes (standing 0x08) (standing 0x10)
    (unrestricted_standing 0x08) (unrestricted_standing 0x10) (shown.trans shown'.symm)
  exact ⟨line, line', documented, operands 2 (by decide) (by decide), shown, shown', steps, opcodes⟩

end Disassembly

end Arcade
