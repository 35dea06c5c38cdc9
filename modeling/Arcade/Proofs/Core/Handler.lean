import Arcade.Proofs.Core.LifeCycle

/-! # Interrupt handlers

A handler that pushes the registers when it is entered, and pops them in the opposite order before
it returns, is not noticed by the program it interrupts.

* `Memory.Stacked`: bytes on a stack, with one word more or less (`Stacked.push`, `Stacked.pop`);
* `Reaches.push`: a step that pushes a pair;
* `Entered`: what a handler that saved the registers begins with, `entered_of_enabled`;
* `ReachesQuietly`: steps that store nothing, `ReachesQuietly.step` and `ReachesQuietly.pop`;
* `Resumes`: going back to the interrupted program, `resumes_of_saved`;
* `resumes_after_handler`: **an interrupt is not noticed**, whatever its handler does between. -/

namespace Arcade

variable {δ : Type}

/-- What lies on the stack when an interrupted processor has saved its registers, from the top: the
pairs HL, DE and BC, the status byte and the accumulator, and the address to come back to. -/
def Cpu.savedBytes (cpu : Cpu) : List UInt8 :=
  [cpu.l, cpu.h, cpu.e, cpu.d, cpu.c, cpu.b, cpu.flags.toByte, cpu.a,
    Word.low cpu.pc, Word.high cpu.pc]

/-! ### The stack -/

namespace Memory

/-- Some bytes lie on a stack that grows down to the start of a block, and nothing but this block
has changed since a memory. -/
structure Stacked (m : Memory) (start : UInt16) (room : Nat) (k : Memory) (sp : UInt16)
    (saved : List UInt8) : Prop where
  top : sp = start + UInt16.ofNat (room - saved.length)
  bytes : k.bytesFrom sp saved.length = saved
  others : SameBut (m.cellsFrom start room) m k

theorem stacked_nil (m : Memory) (start : UInt16) (room : Nat) :
    m.Stacked start room m (start + UInt16.ofNat room) [] :=
  ⟨rfl, rfl, .refl _ m⟩

theorem Stacked.push {m k : Memory} {start sp : UInt16} {room : Nat} {saved : List UInt8}
    (h : m.Stacked start room k sp saved) (left : saved.length + 2 ≤ room)
    (fits : room ≤ m.bytes.size) (w : UInt16) :
    m.Stacked start room (k.writeWord (sp - 2) w) (sp - 2)
      (Word.low w :: Word.high w :: saved) := by
  have top : sp - 2 = start + UInt16.ofNat (room - (saved.length + 2)) := by
    have split : room - saved.length = room - (saved.length + 2) + 2 := by omega
    have two : UInt16.ofNat 2 = 2 := rfl
    rw [h.top, split, UInt16.ofNat_add]
    grind
  refine ⟨top, ?_, h.others.writeWord _ (by omega) top w⟩
  have back : sp - 2 + 1 + 1 = sp := by grind
  have fits : saved.length + 2 ≤ k.bytes.size := by
    rw [h.others.size]
    omega
  exact (k.bytesFrom_writeWord _ w fits).trans (by rw [back, h.bytes])

theorem Stacked.pop {m k : Memory} {start sp : UInt16} {room : Nat} {low high : UInt8}
    {saved : List UInt8} (h : m.Stacked start room k sp (low :: high :: saved))
    (within : saved.length + 2 ≤ room) :
    k.readWord sp = Word.ofBytes high low ∧ m.Stacked start room k (sp + 2) saved := by
  obtain ⟨word, bytes⟩ := readWord_of_bytesFrom h.bytes
  have top : sp + 2 = start + UInt16.ofNat (room - saved.length) := by
    have split : room - saved.length = room - (saved.length + 2) + 2 := by omega
    have two : UInt16.ofNat 2 = 2 := rfl
    rw [h.top, split, UInt16.ofNat_add, List.length_cons, List.length_cons, UInt16.add_assoc, two]
  exact ⟨word, top, bytes, h.others⟩

end Memory

namespace Core

/-- The instructions a handler begins with: PUSH PSW, PUSH B, PUSH D, PUSH H. -/
def entryCode : List UInt8 :=
  [0xf5, 0xc5, 0xd5, 0xe5]

/-- The instructions a handler ends with: POP H, POP D, POP B, POP PSW, EI, RET. -/
def exitCode : List UInt8 :=
  [0xe1, 0xd1, 0xc1, 0xf1, 0xfb, 0xc9]

variable [Ports δ]

/-! ### The entry -/

theorem Reaches.push {core : Core δ} {count : Nat} {cpu : Cpu} {memory : Memory} {byte : UInt8}
    (h : core.Reaches count cpu memory) (source : StackPair) (running : cpu.halted = false)
    (fetched : memory.read cpu.pc = byte) (documented : Opcode.alias? byte = none)
    (pushes : Opcode.ofByte byte = .push source) :
    core.Reaches (count + 1) { cpu with pc := cpu.pc + 1, sp := cpu.sp - 2 }
      (memory.writeWord (cpu.sp - 2) (cpu.stackPair source)) := by
  refine h.step running fetched documented fun cycles ports => ?_
  rw [pushes]
  cases source <;> exact ⟨rfl, rfl⟩

/-- A handler has saved the registers of the core that was interrupted. -/
structure Entered (core : Core δ) (vector : UInt16) (entered : Core δ) : Prop where
  cpu : entered.cpu =
    { core.cpu with
      pc := vector + 4
      sp := core.cpu.sp - 10
      interruptsEnabled := false
      halted := false
      cycles := entered.cpu.cycles }
  saved : entered.memory.bytesFrom (core.cpu.sp - 10) 10 = core.cpu.savedBytes
  others : core.memory.SameBut (core.memory.cellsFrom (core.cpu.sp - 10) 10) entered.memory

/-- **A handler that begins with the entry code saves the registers.** -/
theorem entered_of_enabled {core : Core δ} {vector : UInt16}
    (enabled : core.cpu.interruptsEnabled = true)
    (code : core.memory.bytesFrom vector 4 = entryCode)
    (apart : (core.memory.cellsFrom vector 4).Disjoint
      (core.memory.cellsFrom (core.cpu.sp - 10) 10)) :
    ∃ entered, (core.interrupt vector).2.advance 4 = .ok entered ∧ core.Entered vector entered := by
  obtain ⟨-, interrupted⟩ := interrupted_of_enabled enabled vector
  obtain ⟨cpu, memory, ports⟩ := core
  dsimp only at code apart
  have fits : 10 ≤ memory.bytes.size := Nat.le_trans (by decide) memory.size_ge
  have intact : ∀ {k sp saved}, memory.Stacked (cpu.sp - 10) 10 k sp saved →
      k.read vector = 0xf5 ∧ k.read (vector + 1) = 0xc5 ∧ k.read (vector + 1 + 1) = 0xd5 ∧
        k.read (vector + 1 + 1 + 1) = 0xe5 := by
    intro k sp saved stacked
    have same := (stacked.others.bytesFrom apart).trans code
    simpa [Memory.bytesFrom, entryCode] using same
  -- the words go on the stack one below the other, and none of them on the code
  have bare := memory.stacked_nil (cpu.sp - 10) 10
  have back : cpu.sp - 10 + UInt16.ofNat 10 = cpu.sp := UInt16.sub_add_cancel cpu.sp 10
  rw [back] at bare
  have one := bare.push (Nat.le_of_ble_eq_true rfl) fits cpu.pc
  have two := one.push (Nat.le_of_ble_eq_true rfl) fits (cpu.stackPair .psw)
  have three := two.push (Nat.le_of_ble_eq_true rfl) fits (cpu.stackPair .bc)
  have four := three.push (Nat.le_of_ble_eq_true rfl) fits (cpu.stackPair .de)
  have five := four.push (Nat.le_of_ble_eq_true rfl) fits (cpu.stackPair .hl)
  have called : Reaches (interrupt ⟨cpu, memory, ports⟩ vector).2 0
      { cpu with pc := vector, sp := cpu.sp - 2, interruptsEnabled := false, halted := false }
      (memory.writeWord (cpu.sp - 2) cpu.pc) :=
    ⟨_, rfl, interrupted.cpu, interrupted.memory⟩
  have first := called.push .psw rfl (intact one).1 rfl rfl
  have second := first.push .bc rfl (intact two).2.1 rfl rfl
  have third := second.push .de rfl (intact three).2.2.1 rfl rfl
  obtain ⟨entered, advanced, hcpu, hmemory⟩ := third.push .hl rfl (intact four).2.2.2 rfl rfl
  have pc : vector + 1 + 1 + 1 + 1 = vector + 4 := by grind
  have sp : cpu.sp - 2 - 2 - 2 - 2 - 2 = cpu.sp - 10 := by grind
  simp only [pc, sp] at hcpu
  refine ⟨entered, advanced, hcpu, ?_, ?_⟩
  · rw [hmemory, ← sp]
    refine five.bytes.trans ?_
    simp only [Cpu.savedBytes, Cpu.stackPair, Registers.bc, Registers.de, Registers.hl,
      Word.low_ofBytes, Word.high_ofBytes]
  · rw [hmemory]
    exact five.others

/-! ### The exit -/

/-- A number of steps leads to a processor, but for its count of cycles, and none of them stores
anything. -/
def ReachesQuietly (core : Core δ) (count : Nat) (cpu : Cpu) : Prop :=
  core.Reaches count cpu core.memory ∧
    ∀ fewer < count, ∃ mid, core.advance fewer = .ok mid ∧ mid.effect.stores = []

theorem reachesQuietly_zero (core : Core δ) : core.ReachesQuietly 0 core.cpu :=
  ⟨reaches_zero core, fun fewer h => absurd h (Nat.not_lt_zero fewer)⟩

theorem ReachesQuietly.step {core : Core δ} {count : Nat} {cpu cpu' : Cpu} {byte : UInt8}
    (h : core.ReachesQuietly count cpu) (running : cpu.halted = false)
    (fetched : core.memory.read cpu.pc = byte) (documented : Opcode.alias? byte = none)
    (effect : ∀ cycles (ports : δ),
      (Opcode.ofByte byte).execute { cpu with cycles } core.memory ports =
        .ofCpu ports { cpu' with cycles }) :
    core.ReachesQuietly (count + 1) cpu' := by
  obtain ⟨reached, quiet⟩ := h
  refine ⟨reached.step running fetched documented fun cycles ports => ?_, fun fewer bound => ?_⟩
  · rw [effect]
    exact ⟨rfl, rfl⟩
  · rcases Nat.lt_succ_iff_lt_or_eq.mp bound with before | rfl
    · exact quiet fewer before
    · obtain ⟨mid, advanced, hcpu, hmemory⟩ := reached
      refine ⟨mid, advanced, ?_⟩
      have fetched' : mid.fetch = byte := by
        rw [fetch, hcpu, hmemory]
        exact fetched
      rw [Core.effect, opcode, fetched', hcpu, hmemory, effect]
      rfl

theorem ReachesQuietly.pop {core : Core δ} {count : Nat} {cpu : Cpu} {byte : UInt8}
    (h : core.ReachesQuietly count cpu) (target : StackPair) (running : cpu.halted = false)
    (fetched : core.memory.read cpu.pc = byte) (documented : Opcode.alias? byte = none)
    (pops : Opcode.ofByte byte = .pop target) {word : UInt16}
    (top : core.memory.readWord cpu.sp = word) :
    core.ReachesQuietly (count + 1)
      ({ cpu with pc := cpu.pc + 1, sp := cpu.sp + 2 }.setStackPair target word) := by
  refine h.step running fetched documented fun cycles ports => ?_
  subst top
  rw [pops]
  cases target <;> rfl

theorem ReachesQuietly.enable {core : Core δ} {count : Nat} {cpu : Cpu}
    (h : core.ReachesQuietly count cpu) (running : cpu.halted = false)
    (fetched : core.memory.read cpu.pc = 0xfb) :
    core.ReachesQuietly (count + 1) { cpu with pc := cpu.pc + 1, interruptsEnabled := true } :=
  h.step running fetched rfl fun _ _ => rfl

theorem ReachesQuietly.ret {core : Core δ} {count : Nat} {cpu : Cpu}
    (h : core.ReachesQuietly count cpu) (running : cpu.halted = false)
    (fetched : core.memory.read cpu.pc = 0xc9) {back : UInt16}
    (top : core.memory.readWord cpu.sp = back) :
    core.ReachesQuietly (count + 1) { cpu with pc := back, sp := cpu.sp + 2 } := by
  subst top
  exact h.step running fetched rfl fun _ _ => rfl

/-- The interrupted program goes on where it was, with interrupts enabled again. -/
structure Resumed (core resumed : Core δ) : Prop where
  registers : resumed.cpu.toRegisters = core.cpu.toRegisters
  flags : resumed.cpu.flags = core.cpu.flags
  enabled : resumed.cpu.interruptsEnabled = true
  running : resumed.cpu.halted = false

/-- A core that goes back by the exit code to the program that was interrupted, and stores nothing
on its way. -/
structure Resumes (core mid : Core δ) : Prop where
  returns : ∃ resumed, mid.advance 6 = .ok resumed ∧ core.Resumed resumed ∧
    resumed.memory = mid.memory
  quiet : ∀ fewer < 6, ∃ leaving, mid.advance fewer = .ok leaving ∧ leaving.effect.stores = []

/-- **The exit code takes the registers back from the stack.** -/
theorem resumes_of_saved {core mid : Core δ} (running : mid.cpu.halted = false)
    (code : mid.memory.bytesFrom mid.cpu.pc 6 = exitCode)
    (sp : mid.cpu.sp = core.cpu.sp - 10)
    (stack : mid.memory.bytesFrom mid.cpu.sp 10 = core.cpu.savedBytes) : core.Resumes mid := by
  obtain ⟨cpu, memory, ports⟩ := mid
  dsimp only at running code sp stack
  simp only [Memory.bytesFrom, exitCode, List.cons.injEq] at code
  obtain ⟨c₀, c₁, c₂, c₃, c₄, c₅, -⟩ := code
  obtain ⟨hl, stack⟩ := Memory.readWord_of_bytesFrom stack
  obtain ⟨de, stack⟩ := Memory.readWord_of_bytesFrom stack
  obtain ⟨bc, stack⟩ := Memory.readWord_of_bytesFrom stack
  obtain ⟨psw, stack⟩ := Memory.readWord_of_bytesFrom stack
  obtain ⟨back, -⟩ := Memory.readWord_of_bytesFrom stack
  have start := reachesQuietly_zero ⟨cpu, memory, ports⟩
  have first := start.pop .hl running c₀ rfl rfl hl
  have second := first.pop .de running c₁ rfl rfl de
  have third := second.pop .bc running c₂ rfl rfl bc
  have fourth := third.pop .psw running c₃ rfl rfl psw
  obtain ⟨⟨resumed, advanced, hcpu, hmemory⟩, quiet⟩ :=
    (fourth.enable running c₄).ret running c₅ back
  have top : cpu.sp + 2 + 2 + 2 + 2 + 2 = core.cpu.sp := by grind
  simp only [Cpu.setStackPair, Cpu.setPair, Registers.setPair, Word.high_ofBytes, Word.low_ofBytes,
    Flags.ofByte_toByte, Word.ofBytes_high_low, top] at hcpu
  refine ⟨⟨resumed, advanced, ⟨?_, ?_, ?_, ?_⟩, hmemory⟩, quiet⟩
  · rw [hcpu]
  · rw [hcpu]
  · rw [hcpu]
  · rw [hcpu]
    exact running

/-! ### The whole handler -/

/-- **An interrupt is not noticed by the program it interrupts.** Its handler saves the registers.
Whatever steps and interrupts come after that, if they lead to the exit code with the stack as it
was, the program goes on where it was. -/
theorem resumes_after_handler {core : Core δ} {vector : UInt16}
    (enabled : core.cpu.interruptsEnabled = true)
    (code : core.memory.bytesFrom vector 4 = entryCode)
    (apart : (core.memory.cellsFrom vector 4).Disjoint
      (core.memory.cellsFrom (core.cpu.sp - 10) 10)) :
    (core.interrupt vector).1 = true ∧
    ∃ entered, (core.interrupt vector).2.advance 4 = .ok entered ∧ core.Entered vector entered ∧
      ∀ actions events mid, entered.history actions = .ok events → entered.last events = mid →
        mid.cpu.halted = false → mid.memory.bytesFrom mid.cpu.pc 6 = exitCode →
        mid.cpu.sp = core.cpu.sp - 10 →
        mid.memory.bytesFrom mid.cpu.sp 10 = entered.memory.bytesFrom mid.cpu.sp 10 →
        core.Resumes mid := by
  obtain ⟨entered, advanced, saved⟩ := entered_of_enabled enabled code apart
  refine ⟨(interrupted_of_enabled enabled vector).1, entered, advanced, saved, ?_⟩
  intro actions events mid _ _ running exit sp stack
  refine resumes_of_saved running exit sp ?_
  rw [stack, sp, saved.saved]

/-- A halted core in 16 KiB whose stack lies around the end of the memory. Its handler clears the
accumulator. -/
def handling : Core Unconnected where
  cpu := {
    a := 0x56, h := 0x12, l := 0x34, sp := 0x0004, pc := 0x2000, flags := { carry := true }
    interruptsEnabled := true, halted := true }
  memory := .holding [
    (0x0008, 0xf5), (0x0009, 0xc5), (0x000a, 0xd5), (0x000b, 0xe5), (0x000c, 0xaf), (0x000d, 0xe1),
    (0x000e, 0xd1), (0x000f, 0xc1), (0x0010, 0xf1), (0x0011, 0xfb), (0x0012, 0xc9)]
  ports := .unconnected

/-- The accumulator and the flags are as they were before the handler changed them. -/
theorem resumes_after_handler_handling :
    (handling.interrupt 0x0008).1 = true ∧
      ∃ entered cleared resumed, (handling.interrupt 0x0008).2.advance 4 = .ok entered ∧
        entered.step = (.ok 4, cleared) ∧ cleared.cpu.a = 0x00 ∧ cleared.advance 6 = .ok resumed ∧
        resumed.cpu.toRegisters = handling.cpu.toRegisters ∧
        resumed.cpu.flags = handling.cpu.flags := by
  have size : handling.memory.bytes.size = 0x4000 := Memory.size_holding _
  have entry : handling.memory.bytesFrom 0x0008 4 = entryCode :=
    Memory.bytesFrom_holding 0x0008 entryCode (by decide)
  have body : handling.memory.bytesFrom 0x000c 7 = 0xaf :: exitCode :=
    Memory.bytesFrom_holding 0x000c (0xaf :: exitCode) (by decide)
  have enabled : handling.cpu.interruptsEnabled = true := rfl
  have sp : handling.cpu.sp - 10 = 0xfffa := rfl
  -- from here on only these facts count, and the bytes of the memory are not looked at
  generalize handling = core at *
  have apart : (core.memory.cellsFrom 0x0008 4).Disjoint
      (core.memory.cellsFrom (core.cpu.sp - 10) 10) := by
    rw [sp]
    exact Memory.disjoint_cellsFrom size (by decide)
  have apart' : (core.memory.cellsFrom 0x000c 7).Disjoint
      (core.memory.cellsFrom (core.cpu.sp - 10) 10) := by
    rw [sp]
    exact Memory.disjoint_cellsFrom size (by decide)
  obtain ⟨accepted, entered, advanced, saved, resumes⟩ := resumes_after_handler enabled entry apart
  obtain ⟨fetched, exit⟩ := List.cons.inj ((saved.others.bytesFrom apart').trans body)
  have pc : entered.cpu.pc = 0x000c := by
    rw [saved.cpu]
    rfl
  have running : entered.cpu.halted = false := by
    rw [saved.cpu]
  rw [← pc] at fetched
  have next : entered.next = afterEffect entered.memory
      ((Opcode.ofByte 0xaf).execute entered.cpu entered.memory entered.ports) entered.cost := by
    rw [← fetched]
    rfl
  have stepped : entered.step = (.ok 4, entered.next) := by
    have accepted : entered.refusal? = none := refusal?_of_documented (by rw [fetch, fetched]; rfl)
    have cost : entered.cost = 4 := by
      rw [Core.cost, effect, opcode, fetch, fetched]
      rfl
    rw [step_of_accepted running accepted, cost]
  have memory : entered.next.memory = entered.memory := by
    rw [next]
    rfl
  have running' : entered.next.cpu.halted = false := by
    rw [next]
    exact running
  have pc' : entered.next.cpu.pc = 0x000c + 1 := by
    rw [next]
    exact congrArg (· + 1) pc
  have sp' : entered.next.cpu.sp = core.cpu.sp - 10 := by
    rw [next]
    exact (congrArg (·.sp) saved.cpu)
  have clears : entered.next.cpu.a = 0x00 := by
    rw [next]
    exact UInt8.xor_self
  have events : entered.history [.step] = .ok [⟨entered, .step, .took 4, entered.next⟩] :=
    history_cons_eq_ok_iff.mpr ⟨_, _, _, act_step_eq_ok_iff.mpr ⟨4, rfl, stepped⟩, rfl, rfl⟩
  obtain ⟨resumed, returned, resume, -⟩ := (resumes [.step] _ entered.next events rfl running'
    (by rw [memory, pc', exit]) sp' (by rw [memory])).returns
  exact ⟨accepted, entered, entered.next, resumed, advanced, stepped, clears, returned,
    resume.registers, resume.flags⟩

end Core

end Arcade
