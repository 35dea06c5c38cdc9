import Arcade.Core.Trace

/-!
# Runs

Instructions one after the other, with the reports a tracing processor gives of them.

* `Core.run` stops after a number of instructions, when the processor halts, or at an instruction
  that is refused.
-/

namespace Arcade.Core

variable {δ : Type}

/-- What a run of instructions came to. The instruction that was refused is not counted. -/
structure Run (δ : Type) where
  steps : Nat
  cycles : Nat
  fault? : Option Fault
  reports : Array TraceLine
  core : Core δ

/-- At most `limit` instructions on top of what was counted before. -/
def runFrom [Ports δ] (limit steps cycles : Nat) (reports : Array TraceLine) (core : Core δ) :
    Run δ :=
  match limit with
  | 0 => ⟨steps, cycles, none, reports, core⟩
  | limit + 1 =>
    if core.cpu.halted then
      ⟨steps, cycles, none, reports, core⟩
    else
      let reports := match core.traceLine? with
        | some line => reports.push line
        | none => reports
      match core.step with
      | (.error fault, core) => ⟨steps, cycles, some fault, reports, core⟩
      | (.ok more, core) => runFrom limit (steps + 1) (cycles + more) reports core

/-- At most `limit` instructions. -/
def run [Ports δ] (core : Core δ) (limit : Nat) : Run δ :=
  runFrom limit 0 0 #[] core

end Arcade.Core
