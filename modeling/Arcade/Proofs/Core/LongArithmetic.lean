import Arcade.Proofs.Core.Step
import Arcade.Proofs.Cpu.LongOperation
import Arcade.Proofs.Memory

/-! # A loop over the bytes of two numbers

Ten bytes of code add the number at HL to the one at DE, or subtract it, byte by byte. The counter
is a byte, so that the numbers have up to 256 bytes. Nothing but disjointness is asked of where
they lie: addresses may wrap around and a memory may be mirrored.

* `turn`: one turn of the loop, seven steps;
* `Combines.cons`: the bytes a turn has combined and those the later turns combine;
* `Looping.finish`: the loop, by induction on the number of bytes left;
* `completes_of_prepared`: the whole code. -/

namespace Arcade

/-! ### The code -/

/-- The loop: a byte is loaded by way of DE, combined with the one at HL and stored again, both
pointers move on, and the counter is decremented. -/
def LongOperation.body (operation : LongOperation) (loop : UInt16) : List UInt8 :=
  [0x1a, operation.byte, 0x12, 0x13, 0x23, 0x0d, 0xc2, Word.low loop, Word.high loop]

/-- The code at an address: the carry is cleared, and the loop follows. -/
def LongOperation.program (operation : LongOperation) (start : UInt16) : List UInt8 :=
  0xaf :: operation.body (start + 1)

namespace Core

variable {δ : Type}

/-- A core that stands at the code, with numbers of `n` bytes. The number at HL is only read, so
that it may share cells with the code. -/
structure Prepared (core : Core δ) (operation : LongOperation) (n : Nat) : Prop where
  running : core.cpu.halted = false
  code : core.memory.bytesFrom core.cpu.pc 10 = operation.program core.cpu.pc
  positive : 0 < n
  bounded : n ≤ 256
  counter : core.cpu.c.toNat = n % 256
  codeApart : (core.memory.cellsFrom core.cpu.pc 10).Disjoint (core.memory.cellsFrom core.cpu.de n)
  numbersApart :
    (core.memory.cellsFrom core.cpu.de n).Disjoint (core.memory.cellsFrom core.cpu.hl n)

/-- What the code leaves: it is done, the number at DE is the result, both pointers stand behind
their numbers, and no other byte of memory has changed. -/
structure Completes (core : Core δ) (operation : LongOperation) (n : Nat) (after : Core δ) :
    Prop where
  running : after.cpu.halted = false
  pc : after.cpu.pc = core.cpu.pc + 10
  result : operation.Gives n (littleEndian (core.memory.bytesFrom core.cpu.de n))
    (littleEndian (core.memory.bytesFrom core.cpu.hl n))
    (littleEndian (after.memory.bytesFrom core.cpu.de n)) after.cpu.flags.carry
  de : after.cpu.de = core.cpu.de + UInt16.ofNat n
  hl : after.cpu.hl = core.cpu.hl + UInt16.ofNat n
  memory : core.memory.SameBut (core.memory.cellsFrom core.cpu.de n) after.memory

/-! ### One turn -/

/-- The byte a turn stores, and the flags with the carry it leaves. -/
def digit (core : Core δ) (operation : LongOperation) : UInt8 × Flags :=
  operation.aluOp.apply (core.memory.read core.cpu.de) (core.memory.read core.cpu.hl)
    core.cpu.flags

/-- What a turn of the loop does. It is the last one if the counter was 1. -/
structure Turned (core : Core δ) (operation : LongOperation) (after : Core δ) : Prop where
  running : after.cpu.halted = false
  pc : after.cpu.pc = if core.cpu.c = 1 then core.cpu.pc + 9 else core.cpu.pc
  counter : after.cpu.c = core.cpu.c - 1
  de : after.cpu.de = core.cpu.de + 1
  hl : after.cpu.hl = core.cpu.hl + 1
  carry : after.cpu.flags.carry = (core.digit operation).2.carry
  memory : after.memory = core.memory.write core.cpu.de (core.digit operation).1

/-- The processor at the end of a turn, but for its program counter. -/
def turnedCpu (core : Core δ) (operation : LongOperation) : Cpu :=
  let (a, flags) := core.digit operation
  let (c, flags) := decrement core.cpu.c flags
  let de := core.cpu.de + 1
  let hl := core.cpu.hl + 1
  { core.cpu with
    a, c, flags, d := Word.high de, e := Word.low de, h := Word.high hl, l := Word.low hl }

variable {core : Core δ} {operation : LongOperation}

/-- The six instructions before the jump. -/
theorem reaches_jump [Ports δ] (running : core.cpu.halted = false)
    (code : core.memory.bytesFrom core.cpu.pc 9 = operation.body core.cpu.pc)
    (apart : core.memory.cell core.cpu.de ∉ core.memory.cellsFrom core.cpu.pc 9) :
    core.Reaches 6
      { core.turnedCpu operation with pc := core.cpu.pc + 1 + 1 + 1 + 1 + 1 + 1 }
      (core.memory.write core.cpu.de (core.digit operation).1) := by
  -- the store is in the middle of the loop and must not have touched what comes after it
  have code' := (Memory.bytesFrom_write apart (core.digit operation).1).trans code
  simp only [Memory.bytesFrom, LongOperation.body, List.cons.injEq] at code code'
  obtain ⟨ldax, alu, stax, -⟩ := code
  obtain ⟨-, -, -, inxD, inxH, dcr, -⟩ := code'
  have reach₁ : core.Reaches 1
      { core.cpu with a := core.memory.read core.cpu.de, pc := core.cpu.pc + 1 } core.memory :=
    core.reaches_zero.step running ldax rfl fun _ _ => ⟨rfl, rfl⟩
  have reach₂ : core.Reaches 2
      { core.cpu with
        a := (core.digit operation).1, flags := (core.digit operation).2
        pc := core.cpu.pc + 1 + 1 } core.memory := by
    refine reach₁.step running alu operation.documented_byte fun _ _ => ?_
    rw [operation.ofByte_byte]
    exact ⟨rfl, rfl⟩
  unfold turnedCpu
  generalize core.digit operation = digit at *
  obtain ⟨value, flags⟩ := digit
  have reach₃ : core.Reaches 3
      { core.cpu with a := value, flags, pc := core.cpu.pc + 1 + 1 + 1 }
      (core.memory.write core.cpu.de value) :=
    reach₂.step running stax rfl fun _ _ => ⟨rfl, rfl⟩
  have reach₄ : core.Reaches 4
      { core.cpu with
        a := value, flags
        d := Word.high (core.cpu.de + 1), e := Word.low (core.cpu.de + 1)
        pc := core.cpu.pc + 1 + 1 + 1 + 1 }
      (core.memory.write core.cpu.de value) :=
    reach₃.step running inxD rfl fun _ _ => ⟨rfl, rfl⟩
  have reach₅ : core.Reaches 5
      { core.cpu with
        a := value, flags
        d := Word.high (core.cpu.de + 1), e := Word.low (core.cpu.de + 1)
        h := Word.high (core.cpu.hl + 1), l := Word.low (core.cpu.hl + 1)
        pc := core.cpu.pc + 1 + 1 + 1 + 1 + 1 }
      (core.memory.write core.cpu.de value) :=
    reach₄.step running inxH rfl fun _ _ => ⟨rfl, rfl⟩
  exact reach₅.step running dcr rfl fun _ _ => ⟨rfl, rfl⟩

/-- The jump goes back to the head of the loop, unless the counter has come to 0. -/
theorem reaches_turned [Ports δ] (running : core.cpu.halted = false)
    (code : core.memory.bytesFrom core.cpu.pc 9 = operation.body core.cpu.pc)
    (apart : core.memory.cell core.cpu.de ∉ core.memory.cellsFrom core.cpu.pc 9) :
    core.Reaches 7
      { core.turnedCpu operation with
        pc := if core.cpu.c = 1 then core.cpu.pc + 9 else core.cpu.pc }
      (core.memory.write core.cpu.de (core.digit operation).1) := by
  have reach := reaches_jump running code apart
  have code' := (Memory.bytesFrom_write apart (core.digit operation).1).trans code
  simp only [Memory.bytesFrom, LongOperation.body, List.cons.injEq] at code'
  obtain ⟨-, -, -, -, -, -, jnz, low, high, -⟩ := code'
  have decoded : Opcode.ofByte 0xc2 = .jumpIf .notZero := rfl
  have target : (core.memory.write core.cpu.de (core.digit operation).1).readWord
      (core.cpu.pc + 1 + 1 + 1 + 1 + 1 + 1 + 1) = core.cpu.pc := by
    rw [Memory.readWord, high, low, Word.ofBytes_high_low]
  have zero : (core.turnedCpu operation).flags.zero = true ↔ core.cpu.c = 1 :=
    zero_decrement core.cpu.c (core.digit operation).2
  refine reach.step running jnz rfl fun _ _ => ?_
  rw [decoded]
  simp only [Opcode.execute, Condition.holds, target]
  by_cases last : core.cpu.c = 1
  · have behind : core.cpu.pc + 1 + 1 + 1 + 1 + 1 + 1 + 3 = core.cpu.pc + 9 := by
      simp [UInt16.add_assoc]
    rw [zero.mpr last, if_pos last, ← behind]
    exact ⟨rfl, rfl⟩
  · rw [Bool.eq_false_iff.mpr (mt zero.mp last), if_neg last]
    exact ⟨rfl, rfl⟩

theorem turn [Ports δ] (running : core.cpu.halted = false)
    (code : core.memory.bytesFrom core.cpu.pc 9 = operation.body core.cpu.pc)
    (apart : core.memory.cell core.cpu.de ∉ core.memory.cellsFrom core.cpu.pc 9) :
    ∃ after, core.advance 7 = .ok after ∧ core.Turned operation after := by
  obtain ⟨after, advanced, hcpu, hmemory⟩ := reaches_turned running code apart
  refine ⟨after, advanced, ?_⟩
  constructor
  · rw [hcpu]
    exact running
  · rw [hcpu]
  · rw [hcpu]
    rfl
  · rw [hcpu]
    exact Word.ofBytes_high_low _
  · rw [hcpu]
    exact Word.ofBytes_high_low _
  · rw [hcpu]
    rfl
  · exact hmemory

/-! ### The bytes combined so far -/

/-- What some turns of the loop have done to the numbers. -/
structure Combines (core : Core δ) (operation : LongOperation) (n : Nat) (after : Core δ) :
    Prop where
  balances : operation.Balances n core.cpu.flags.carry
    (littleEndian (core.memory.bytesFrom core.cpu.de n))
    (littleEndian (core.memory.bytesFrom core.cpu.hl n))
    (littleEndian (after.memory.bytesFrom core.cpu.de n)) after.cpu.flags.carry
  de : after.cpu.de = core.cpu.de + UInt16.ofNat n
  hl : after.cpu.hl = core.cpu.hl + UInt16.ofNat n
  memory : core.memory.SameBut (core.memory.cellsFrom core.cpu.de n) after.memory

theorem combines_refl : core.Combines operation 0 core where
  balances := operation.balances_zero _
  de := (UInt16.add_zero _).symm
  hl := (UInt16.add_zero _).symm
  memory := .refl _ _

theorem Turned.balances {after : Core δ} (h : core.Turned operation after) :
    operation.Balances 1 core.cpu.flags.carry (core.memory.read core.cpu.de).toNat
      (core.memory.read core.cpu.hl).toNat (after.memory.read core.cpu.de).toNat
      after.cpu.flags.carry := by
  rw [h.carry, h.memory, Memory.read_write_self]
  exact operation.balances_apply _ _ _

/-- A turn, and the turns for the bytes above it, which lie apart from the byte it stores. -/
theorem Combines.cons {mid after : Core δ} {n : Nat} (h : core.Turned operation mid)
    (rest : mid.Combines operation n after) (fits : n < core.memory.bytes.size)
    (apart : core.memory.cell core.cpu.de ∉ core.memory.cellsFrom (core.cpu.hl + 1) n) :
    core.Combines operation (n + 1) after := by
  have above := core.memory.cell_not_mem_cellsFrom_succ core.cpu.de fits
  have hcells : mid.memory.cellsFrom mid.cpu.de n =
      core.memory.cellsFrom (core.cpu.de + 1) n := by
    rw [h.memory, h.de, Memory.cellsFrom_write]
  have hsame := rest.memory
  rw [hcells] at hsame
  constructor
  · have hlow : after.memory.read core.cpu.de = mid.memory.read core.cpu.de := by
      refine hsame.read ?_
      rw [h.memory, Memory.cell_write]
      exact above
    have hrest := rest.balances
    rw [h.de, h.hl] at hrest
    have hx : mid.memory.bytesFrom (core.cpu.de + 1) n =
        core.memory.bytesFrom (core.cpu.de + 1) n := by
      rw [h.memory, Memory.bytesFrom_write above]
    have hy : mid.memory.bytesFrom (core.cpu.hl + 1) n =
        core.memory.bytesFrom (core.cpu.hl + 1) n := by
      rw [h.memory, Memory.bytesFrom_write apart]
    rw [hx, hy] at hrest
    have hbalances := h.balances.cons hrest
    simp only [Memory.bytesFrom, littleEndian_cons]
    rw [hlow]
    exact hbalances
  · rw [rest.de, h.de, Word.add_ofNat_succ]
  · rw [rest.hl, h.hl, Word.add_ofNat_succ]
  · have hstore := Memory.sameBut_write core.memory core.cpu.de (core.digit operation).1
    rw [← h.memory] at hstore
    rw [Memory.cellsFrom]
    exact (hstore.mono (by simp)).trans (hsame.mono (by simp))

/-! ### The loop -/

/-- A core at the head of the loop, with `n` bytes to go. -/
structure Looping (core : Core δ) (operation : LongOperation) (n : Nat) : Prop where
  running : core.cpu.halted = false
  code : core.memory.bytesFrom core.cpu.pc 9 = operation.body core.cpu.pc
  bounded : n ≤ 256
  counter : core.cpu.c.toNat = n % 256
  codeApart : (core.memory.cellsFrom core.cpu.pc 9).Disjoint (core.memory.cellsFrom core.cpu.de n)
  numbersApart :
    (core.memory.cellsFrom core.cpu.de n).Disjoint (core.memory.cellsFrom core.cpu.hl n)

/-- The byte that is stored next is none of the code. -/
theorem Looping.not_mem {n : Nat} (h : core.Looping operation (n + 1)) :
    core.memory.cell core.cpu.de ∉ core.memory.cellsFrom core.cpu.pc 9 :=
  fun hmem => h.codeApart hmem List.mem_cons_self

/-- The turn is the last one if one byte was left. -/
theorem Looping.counter_eq_one_iff {n : Nat} (h : core.Looping operation (n + 1)) :
    core.cpu.c = 1 ↔ n = 0 := by
  have hcounter := h.counter
  have hbounded := h.bounded
  rw [← UInt8.toNat_inj, UInt8.toNat_one, hcounter]
  omega

/-- A turn that is not the last one leads back to the head of the loop. -/
theorem Looping.turned {mid : Core δ} {n : Nat} (h : core.Looping operation (n + 1))
    (t : core.Turned operation mid) (more : n ≠ 0) : mid.Looping operation n := by
  have hpc : mid.cpu.pc = core.cpu.pc := by
    rw [t.pc, if_neg (mt h.counter_eq_one_iff.mp more)]
  have hbounded := h.bounded
  constructor
  · exact t.running
  · rw [hpc, t.memory, Memory.bytesFrom_write h.not_mem]
    exact h.code
  · omega
  · have hcounter := h.counter
    rw [t.counter, UInt8.toNat_sub, UInt8.toNat_one, hcounter]
    omega
  · rw [hpc, t.memory, t.de, Memory.cellsFrom_write, Memory.cellsFrom_write]
    exact fun cell hcode hnumber => h.codeApart hcode (List.mem_cons_of_mem _ hnumber)
  · rw [t.memory, t.de, t.hl, Memory.cellsFrom_write, Memory.cellsFrom_write]
    exact fun cell hx hy => h.numbersApart (List.mem_cons_of_mem _ hx) (List.mem_cons_of_mem _ hy)

theorem Looping.finish [Ports δ] {n : Nat} (h : core.Looping operation (n + 1)) :
    ∃ after, core.advance (7 * (n + 1)) = .ok after ∧ after.cpu.halted = false ∧
      after.cpu.pc = core.cpu.pc + 9 ∧ core.Combines operation (n + 1) after := by
  -- on the number of bytes left after this one
  induction n generalizing core with
  | zero =>
    obtain ⟨after, advanced, t⟩ := turn h.running h.code h.not_mem
    refine ⟨after, advanced, t.running, ?_, ?_⟩
    · rw [t.pc, if_pos (h.counter_eq_one_iff.mpr rfl)]
    · exact .cons t combines_refl core.memory.size_pos List.not_mem_nil
  | succ n ih =>
    obtain ⟨mid, advanced, t⟩ := turn h.running h.code h.not_mem
    obtain ⟨after, advanced', running, hpc, rest⟩ := ih (h.turned t (Nat.succ_ne_zero n))
    have hbounded := h.bounded
    have hsize := core.memory.size_ge
    refine ⟨after, ?_, running, ?_, ?_⟩
    · have count : 7 * (n + 1 + 1) = 7 + 7 * (n + 1) := by omega
      rw [count, advance_trans advanced, advanced']
    · rw [hpc, t.pc, if_neg (mt h.counter_eq_one_iff.mp (Nat.succ_ne_zero n))]
    · refine .cons t rest (by omega) fun hmem => ?_
      exact h.numbersApart List.mem_cons_self (List.mem_cons_of_mem _ hmem)

/-- The first step clears the carry and leads to the loop. -/
theorem Prepared.looping [Ports δ] {n : Nat} (h : core.Prepared operation n) :
    ∃ first, core.advance 1 = .ok first ∧ first.Looping operation n ∧
      first.cpu.flags.carry = false ∧ first.memory = core.memory ∧
      first.cpu.pc = core.cpu.pc + 1 ∧ first.cpu.de = core.cpu.de ∧
      first.cpu.hl = core.cpu.hl := by
  have code := h.code
  rw [Memory.bytesFrom, LongOperation.program, List.cons.injEq] at code
  obtain ⟨xra, body⟩ := code
  have reach : core.Reaches 1
      { core.cpu with
        a := (logical (core.cpu.a ^^^ core.cpu.a)).1
        flags := (logical (core.cpu.a ^^^ core.cpu.a)).2
        pc := core.cpu.pc + 1 } core.memory :=
    core.reaches_zero.step h.running xra rfl fun _ _ => ⟨rfl, rfl⟩
  obtain ⟨first, advanced, hcpu, hmemory⟩ := reach
  refine ⟨first, advanced, ?_, ?_, hmemory, ?_, ?_, ?_⟩
  · constructor
    · rw [hcpu]
      exact h.running
    · rw [hcpu, hmemory]
      exact body
    · exact h.bounded
    · rw [hcpu]
      exact h.counter
    · rw [hcpu, hmemory]
      exact fun cell hcode hnumber => h.codeApart (List.mem_cons_of_mem _ hcode) hnumber
    · rw [hcpu, hmemory]
      exact h.numbersApart
  · rw [hcpu]
    rfl
  · rw [hcpu]
  · rw [hcpu]
    rfl
  · rw [hcpu]
    rfl

/-- **The code adds and subtracts numbers of any length it can count to**, wherever they lie. -/
theorem completes_of_prepared [Ports δ] {n : Nat} (h : core.Prepared operation n) :
    ∃ after, core.advance (1 + 7 * n) = .ok after ∧ core.Completes operation n after := by
  obtain ⟨first, advanced, looping, hcarry, hmemory, hpc, hde, hhl⟩ := h.looping
  obtain ⟨n, rfl⟩ : ∃ k, n = k + 1 := ⟨n - 1, by have := h.positive; omega⟩
  obtain ⟨after, advanced', running, hpc', combines⟩ := looping.finish
  have hsame := combines.memory
  rw [hmemory, hde] at hsame
  have hbalances := combines.balances
  rw [hcarry, hmemory, hde, hhl] at hbalances
  refine ⟨after, ?_, ?_⟩
  · rw [advance_trans advanced, advanced']
  constructor
  · exact running
  · rw [hpc', hpc, UInt16.add_assoc]
    rfl
  · have hlt := littleEndian_lt (after.memory.bytesFrom core.cpu.de (n + 1))
    rw [Memory.length_bytesFrom] at hlt
    exact hbalances.gives hlt
  · rw [combines.de, hde]
  · rw [combines.hl, hhl]
  · exact hsame

/-- The code at 0, the number 0xffff at 0x2000, and at 0x3000 the 1 that is to be added to it. -/
def addingStores : List Memory.Store :=
  [(0x0000, 0xaf), (0x0001, 0x1a), (0x0002, 0x8e), (0x0003, 0x12), (0x0004, 0x13),
    (0x0005, 0x23), (0x0006, 0x0d), (0x0007, 0xc2), (0x0008, 0x01), (0x0009, 0x00),
    (0x2000, 0xff), (0x2001, 0xff), (0x3000, 0x01), (0x3001, 0x00)]

/-- A core that is to add them, in 16 KiB. -/
def adding : Core Unconnected where
  cpu := { c := 2, d := 0x20, h := 0x30 }
  memory := .holding addingStores
  ports := .unconnected

theorem prepared_adding : adding.Prepared .add 2 := by
  have hsize : adding.memory.bytes.size = 0x4000 := Memory.size_holding addingStores
  have hpc : adding.cpu.pc = 0 := rfl
  have hde : adding.cpu.de = 0x2000 := rfl
  have hhl : adding.cpu.hl = 0x3000 := rfl
  constructor
  · rfl
  · exact Memory.bytesFrom_holding 0 (LongOperation.add.program 0) (by decide)
  · decide
  · decide
  · rfl
  · rw [hpc, hde]
    exact Memory.disjoint_cellsFrom hsize (by decide)
  · rw [hde, hhl]
    exact Memory.disjoint_cellsFrom hsize (by decide)

/-- The sum does not fit in two bytes. -/
theorem completes_of_prepared_adding :
    adding.Prepared .add 2 ∧
      ∃ after, adding.advance 15 = .ok after ∧ after.cpu.pc = 10 ∧
        littleEndian (after.memory.bytesFrom 0x2000 2) = 0 ∧ after.cpu.flags.carry = true := by
  have prepared := prepared_adding
  have hpc : adding.cpu.pc = 0 := rfl
  have hde : adding.cpu.de = 0x2000 := rfl
  have hhl : adding.cpu.hl = 0x3000 := rfl
  have hx : adding.memory.bytesFrom 0x2000 2 = [0xff, 0xff] :=
    Memory.bytesFrom_holding 0x2000 [0xff, 0xff] (by decide)
  have hy : adding.memory.bytesFrom 0x3000 2 = [0x01, 0x00] :=
    Memory.bytesFrom_holding 0x3000 [0x01, 0x00] (by decide)
  -- from here on only these facts count, and the bytes of the memory are not looked at
  generalize adding = core at prepared hpc hde hhl hx hy ⊢
  obtain ⟨after, advanced, completes⟩ := completes_of_prepared prepared
  have result := completes.result
  rw [hde, hhl, hx, hy] at result
  obtain ⟨sum, carry⟩ := result
  refine ⟨prepared, after, advanced, ?_, ?_, ?_⟩
  · rw [completes.pc, hpc]
    rfl
  · rw [sum]
    decide
  · exact carry.mpr (by decide)

end Core

end Arcade
