import Arcade.Core.Trace

/-!
# Diagnostic programs

Test programs for the processor are written for CP/M: they are loaded at 0x0100, call the system
at 0x0005 to print, and end by jumping to 0.

* `Cpm.boot` prepares a memory for a program;
* `Cpm.run` executes it and collects what it prints.
-/

namespace Arcade.Cpm

/-- Where a program is loaded and started. -/
def programStart : UInt16 := 0x0100

/-- Where a program calls the system. -/
def systemEntry : UInt16 := 0x0005

/-- A memory with a program in it. The system call itself only returns. -/
def boot (program : Array UInt8) : Except Memory.OutOfBounds Memory :=
  (Memory.full.load programStart.toNat program).map fun memory => memory.write systemEntry 0xc9

/-- A byte as the character of that number. -/
def character (b : UInt8) : Char :=
  Char.ofNat b.toNat

/-- The characters from an address up to a dollar sign, at most one for each address. -/
def message (memory : Memory) (address : UInt16) : (fuel : Nat) → List Char
  | 0 => []
  | fuel + 1 =>
    let b := memory.read address
    if b = 0x24 then [] else character b :: message memory (address + 1) fuel

/-- What a system call prints: its number is in C, what to print is in DE. -/
def printed {δ : Type} (core : Core δ) : List Char :=
  if core.cpu.c = 9 then message core.memory core.cpu.de 0x10000
  else if core.cpu.c = 2 then [character core.cpu.e]
  else []

/-- Why a program came to its end. -/
inductive End
  | exit
  | halt
  | limit
  | fault (fault : Fault)
  deriving DecidableEq, Repr

/-- What a program left behind. -/
structure Outcome where
  reason : End
  output : String
  steps : Nat
  reports : Array TraceLine
  core : Core Unconnected

/-- The program goes on for at most `left` instructions. -/
def proceed (output : String) (steps : Nat) (reports : Array TraceLine)
    (core : Core Unconnected) : (left : Nat) → Outcome
  | 0 => ⟨.limit, output, steps, reports, core⟩
  | left + 1 =>
    if core.cpu.pc = 0 then
      ⟨.exit, output, steps, reports, core⟩
    else
      let output :=
        if core.cpu.pc = systemEntry then (printed core).foldl String.push output else output
      if core.cpu.halted then
        ⟨.halt, output, steps, reports, core⟩
      else
        let reports := match core.traceLine? with
          | some line => reports.push line
          | none => reports
        match core.step with
        | (.error fault, core) => ⟨.fault fault, output, steps, reports, core⟩
        | (.ok _, core) => proceed output (steps + 1) reports core left

/-- A program from its first instruction on. -/
def run (core : Core Unconnected) (limit : Nat) : Outcome :=
  proceed "" 0 #[] core limit

end Arcade.Cpm
