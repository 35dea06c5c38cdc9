import Arcade.Proofs.Core.Step
import Arcade.Proofs.Memory

/-! # What a step reads

A step reads the bytes of its instruction and the data its opcode names (`Core.reads`), and no
other byte of memory. So two memories that agree at these addresses are the same to it, whatever
their sizes and the rest of their bytes are.

* `execute_congr`: an opcode has the same effect in both memories;
* `length_stores_execute`: an opcode stores two bytes at most;
* `steps_alike_of_reads`: a step comes to the same in both memories, and stores the same. -/

namespace Arcade

namespace Opcode

/-- The addresses of the data an opcode reads, where `word` is the word that follows it. -/
def dataReads (op : Opcode) (cpu : Cpu) (word : UInt16) : List UInt16 :=
  match op with
  | mov _ .m | alu _ .m | inr .m | dcr .m => [cpu.hl]
  | ldax pointer => [cpu.pair pointer.toPair]
  | lda => [word]
  | lhld => [word, word + 1]
  | pop _ | ret | xthl => [cpu.sp, cpu.sp + 1]
  | retIf condition => if condition.holds cpu.flags then [cpu.sp, cpu.sp + 1] else []
  | _ => []

/-- The addresses of an instruction. -/
def codeReads (op : Opcode) (pc : UInt16) : List UInt16 :=
  (List.range op.length).map fun i => pc + UInt16.ofNat i

end Opcode

/-- The addresses the next instruction reads. -/
def Core.reads {δ : Type} (core : Core δ) : List UInt16 :=
  core.opcode.codeReads core.cpu.pc ++
    core.opcode.dataReads core.cpu (core.memory.readWord (core.cpu.pc + 1))

/-- Two memories hold the same bytes at some addresses. -/
def Memory.AgreeAt (addresses : List UInt16) (m k : Memory) : Prop :=
  ∀ address ∈ addresses, k.read address = m.read address

/-! ### Equal effects -/

variable {δ : Type} {m k : Memory}

theorem Memory.AgreeAt.readWord {address : UInt16} (h : AgreeAt [address, address + 1] m k) :
    k.readWord address = m.readWord address := by
  rw [Memory.readWord, Memory.readWord, h address (by simp), h (address + 1) (by simp)]

/-- A byte operand of an instruction whose program counter was moved on. -/
theorem Cpu.operand_congr (cpu : Cpu) (source : Operand)
    (h : source = .m → k.read cpu.hl = m.read cpu.hl) (pc : UInt16) :
    { cpu with pc }.operand k source = { cpu with pc }.operand m source := by
  cases source with
  | m => exact h rfl
  | _ => rfl

namespace Opcode

section

variable {op : Opcode} {pc : UInt16} (code : Memory.AgreeAt (op.codeReads pc) m k)
include code

theorem read_congr (long : 1 < op.length) : k.read (pc + 1) = m.read (pc + 1) :=
  code _ (List.mem_map_of_mem (List.mem_range.mpr long))

theorem readWord_congr (long : 2 < op.length) : k.readWord (pc + 1) = m.readWord (pc + 1) := by
  have next : pc + 1 + 1 = pc + UInt16.ofNat 2 := by
    rw [UInt16.add_assoc]
    rfl
  rw [Memory.readWord, Memory.readWord, read_congr code (Nat.lt_of_succ_lt long), next,
    code _ (List.mem_map_of_mem (List.mem_range.mpr long))]

end

/-- **An opcode reads nothing but its instruction and its data.** -/
theorem execute_congr [Ports δ] (op : Opcode) (cpu : Cpu) (ports : δ)
    (code : Memory.AgreeAt (op.codeReads cpu.pc) m k)
    (data : Memory.AgreeAt (op.dataReads cpu (m.readWord (cpu.pc + 1))) m k) :
    op.execute cpu k ports = op.execute cpu m ports := by
  cases op with
  | mov _ source | alu _ source | inr source | dcr source =>
    have operand := cpu.operand_congr source fun memory =>
      data cpu.hl (by subst memory; exact List.mem_cons_self)
    simp only [execute, operand]
  | mvi _ | aluImmediate _ | input | output =>
    have byte := read_congr code (Nat.lt_succ_self 1)
    simp only [execute, byte]
  | lxi _ | sta | shld | jmp | jumpIf _ | call | callIf _ =>
    have word := readWord_congr code (Nat.lt_succ_self 2)
    simp only [execute, word]
  | lda =>
    have word := readWord_congr code (Nat.lt_succ_self 2)
    simp only [execute, word, data _ List.mem_cons_self]
  | lhld =>
    have word := readWord_congr code (Nat.lt_succ_self 2)
    simp only [execute, word, data.readWord]
  | ldax pointer =>
    have byte : k.read (cpu.pair pointer.toPair) = m.read (cpu.pair pointer.toPair) :=
      data _ List.mem_cons_self
    have loaded : ∀ k : Memory, (ldax pointer).execute cpu k ports =
        .ofCpu ports { cpu with pc := cpu.pc + 1, a := k.read (cpu.pair pointer.toPair) } := by
      intro k
      cases pointer <;> rfl
    rw [loaded, loaded, byte]
  | pop _ | xthl =>
    have top := data.readWord
    simp only [execute, top]
  | ret =>
    have top := data.readWord
    simp only [execute, Cpu.returned, top]
  | retIf condition =>
    simp only [execute]
    split_ifs with taken
    · have taken' : condition.holds cpu.flags = true := taken
      simp only [dataReads, if_pos taken'] at data
      have top := data.readWord
      simp only [Cpu.returned, top]
    · rfl
  | _ => rfl

/-- **An opcode stores two bytes at most.** -/
theorem length_stores_execute [Ports δ] (op : Opcode) (cpu : Cpu) (memory : Memory) (ports : δ) :
    (op.execute cpu memory ports).stores.length ≤ 2 := by
  cases op with
  | mov target _ | mvi target | inr target | dcr target =>
    cases target <;> exact Nat.le_of_ble_eq_true rfl
  | callIf _ | retIf _ =>
    simp only [execute]
    split_ifs <;> exact Nat.le_of_ble_eq_true rfl
  | _ => exact Nat.le_of_ble_eq_true rfl

end Opcode

namespace Core

/-- The first byte of an instruction is part of it. -/
theorem fetch_congr {cpu : Cpu} {ports : δ}
    (code : Memory.AgreeAt ((⟨cpu, m, ports⟩ : Core δ).opcode.codeReads cpu.pc) m k) :
    (⟨cpu, k, ports⟩ : Core δ).fetch = (⟨cpu, m, ports⟩ : Core δ).fetch := by
  have first : cpu.pc + UInt16.ofNat 0 = cpu.pc := UInt16.add_zero cpu.pc
  have same := code _ (List.mem_map_of_mem (List.mem_range.mpr (Nat.add_pos_left Nat.one_pos _)))
  rwa [first] at same

/-- **A step depends on the bytes it reads only.** In two memories that agree at the addresses it
reads, it has the same result, leaves the same processor and the same ports, whatever these note of
their calls, and stores the same bytes, two at most. -/
theorem steps_alike_of_reads [Ports δ] {cpu : Cpu} {ports : δ}
    (agree : Memory.AgreeAt (Core.reads ⟨cpu, m, ports⟩) m k) :
    ∃ result cpu' ports' stores, stores.length ≤ 2 ∧
      (⟨cpu, m, ports⟩ : Core δ).step = (result, ⟨cpu', m.storeAll stores, ports'⟩) ∧
      (⟨cpu, k, ports⟩ : Core δ).step = (result, ⟨cpu', k.storeAll stores, ports'⟩) := by
  obtain ⟨code, data⟩ := List.forall_mem_append.mp agree
  have fetched := fetch_congr code
  have refused : (⟨cpu, k, ports⟩ : Core δ).refusal? = (⟨cpu, m, ports⟩ : Core δ).refusal? := by
    simp only [refusal?, fetched]
  have done : (⟨cpu, k, ports⟩ : Core δ).effect = (⟨cpu, m, ports⟩ : Core δ).effect := by
    simp only [effect, opcode, fetched]
    exact Opcode.execute_congr _ cpu ports code data
  have cost : (⟨cpu, k, ports⟩ : Core δ).cost = (⟨cpu, m, ports⟩ : Core δ).cost := by
    simp only [Core.cost, opcode, fetched, done]
  cases halted : cpu.halted with
  | true => exact ⟨_, cpu, ports, [], Nat.zero_le 2, step_of_halted halted, step_of_halted halted⟩
  | false =>
    cases refusal : (⟨cpu, m, ports⟩ : Core δ).refusal? with
    | some fault =>
      exact ⟨_, cpu, ports, [], Nat.zero_le 2, step_of_refused halted refusal,
        step_of_refused halted (refused.trans refusal)⟩
    | none =>
      refine ⟨_, _, _, _, Opcode.length_stores_execute _ cpu m ports,
        step_of_accepted halted refusal, ?_⟩
      rw [step_of_accepted halted (refused.trans refusal), next, done, cost]
      rfl

/-- An instruction that loads HL, and the word it loads. -/
def loading : List Memory.Store :=
  [(0x0000, 0x2a), (0x0001, 0x00), (0x0002, 0x20), (0x2000, 0x34), (0x2001, 0x12)]

/-- The same with one more byte, in a memory where its address is not that of the instruction. -/
def loadingInFull : Memory :=
  .storeAll .full (loading ++ [(0x4000, 0xff)])

/-- The load is the same in the least memory and in the greatest, where a byte is different that
is the instruction itself in the least. -/
theorem steps_alike_of_reads_loading :
    (Memory.holding loading).read 0x4000 = 0x2a ∧ loadingInFull.read 0x4000 = 0xff ∧
      ∃ result cpu' ports' stores, stores.length ≤ 2 ∧
        (⟨{}, .holding loading, ⟨[], #[]⟩⟩ : Core Script).step =
          (result, ⟨cpu', (Memory.holding loading).storeAll stores, ports'⟩) ∧
        (⟨{}, loadingInFull, ⟨[], #[]⟩⟩ : Core Script).step =
          (result, ⟨cpu', loadingInFull.storeAll stores, ports'⟩) := by
  have least : ∀ address value, Memory.lastStored 0x4000 address loading = some value →
      (Memory.holding loading).read address = value := fun _ _ => Memory.read_holding
  have greatest : ∀ address value,
      Memory.lastStored 0x10000 address (loading ++ [(0x4000, 0xff)]) = some value →
        loadingInFull.read address = value := by
    intro address value stored
    rw [loadingInFull, Memory.read_storeAll, Memory.size_full, stored, Option.getD_some]
  have operand : (Memory.holding loading).readWord (0x0000 + 1) = 0x2000 := by
    rw [Memory.readWord, least _ 0x20 (by decide), least _ 0x00 (by decide)]
    rfl
  have reads : (⟨{}, .holding loading, ⟨[], #[]⟩⟩ : Core Script).reads =
      [0x0000, 0x0001, 0x0002, 0x2000, 0x2001] := by
    simp only [Core.reads, opcode, fetch, least 0x0000 0x2a (by decide), operand]
    decide
  have alike : ∀ address value, Memory.lastStored 0x4000 address loading = some value →
      Memory.lastStored 0x10000 address (loading ++ [(0x4000, 0xff)]) = some value →
        loadingInFull.read address = (Memory.holding loading).read address :=
    fun _ _ small great => (greatest _ _ great).trans (least _ _ small).symm
  have agree : Memory.AgreeAt (Core.reads ⟨{}, .holding loading, (⟨[], #[]⟩ : Script)⟩)
      (.holding loading) loadingInFull := by
    simp only [reads, Memory.AgreeAt, List.forall_mem_cons, List.not_mem_nil, false_imp_iff,
      implies_true, and_true]
    exact ⟨alike _ 0x2a (by decide) (by decide), alike _ 0x00 (by decide) (by decide),
      alike _ 0x20 (by decide) (by decide), alike _ 0x34 (by decide) (by decide),
      alike _ 0x12 (by decide) (by decide)⟩
  exact ⟨least _ _ (by decide), greatest _ _ (by decide), steps_alike_of_reads agree⟩

end Core

end Arcade
