import Arcade.CommandLine.Failure
import Arcade.CommandLine.Options
import Arcade.CommandLine.Reader
import Arcade.CommandLine.Usage
import Arcade.Machine.Run

/-!
# The program

Reads the command line, loads the ROM set and runs the machine by the clock on the wall. What is
decided, and every text, comes from the modules it calls; here files and the clock are read and
lines are printed.
-/

namespace Arcade.Program

open CommandLine

/-- The refusal of a path by the system. -/
def fileError : IO.Error → FileError
  | .noFileOrDirectory .. => .notFound
  | .inappropriateType _ 21 _ => .isADirectory
  | .inappropriateType .. => .notADirectory
  | e => .other (toString e)

/-- Whether a path can be opened. -/
def status (path : String) : IO (Except FileError Unit) := do
  match ← (IO.FS.Handle.mk path .read).toBaseIO with
  | .ok _ => return .ok ()
  | .error e => return .error (fileError e)

/-- The bytes of a file. -/
def read (path : String) : IO (Except FileError (Array UInt8)) := do
  match ← (IO.FS.readBinFile path).toBaseIO with
  | .ok bytes => return .ok bytes.data
  | .error e => return .error (fileError e)

/-- The answers of the system on a directory and its files of the given names. -/
def survey (directory : String) (names : List String) : IO FileSystem := do
  let found ← status directory
  let answers ← names.mapM fun name => do
    let path := Path.join directory name
    return (path, ← read path)
  return {
    status := fun path => if path = directory then found else .error .notFound
    read := fun path => (answers.lookup path).getD (.error .notFound) }

/-- Log lines are printed, those for debugging only if that is asked for. -/
def report (debug : Bool) (lines : List Log.Line) : IO Unit := do
  for line in lines do
    if line.level.isShown debug then
      IO.eprintln line.render

/-- A run up to its end, with its journal printed as it goes. -/
partial def runToEnd (debug : Bool) (run : Machine.Run) : IO (Machine.RunEnd × Machine.Run) := do
  let now ← IO.monoNanosNow
  let (ended?, run) := run.poll ⟨false, now⟩
  let (journal, machine) := run.machine.takeJournal
  let run := { run with machine }
  report debug (journal.toList.map Event.log)
  match ended? with
  | some ended => return (ended, run)
  | none =>
    let nap := run.schedule.nap (← IO.monoNanosNow)
    IO.sleep (UInt32.ofNat (nap / 1000000))
    runToEnd debug run

/-- The program gives up. -/
def fail (failure : Failure) : IO UInt32 := do
  IO.eprintln failure.render
  return 1

/-- The machine that is asked for is loaded and run. -/
def start (options : Options) : IO UInt32 := do
  let files ← survey options.directory (RomSet.parts.map Prod.fst)
  let machine := Machine.new options.settings
  let (loaded, machine, notices) := machine.loadRomSet files options.directory
  report options.debug (notices.map RomSet.Notice.log)
  match loaded with
  | .error error => fail (.ofRomSet options.directory error)
  | .ok _ =>
    if options.headless then
      match ← runToEnd options.debug (.ofMachine machine options.frames?) with
      | (.finished, run) =>
        report options.debug [run.farewell]
        return 0
      | (.failed fault, _) => fail (.ofFrame fault)
    else
      fail .noWindow

end Arcade.Program

/-- The program: 0 if all went well, 2 if the command line was not understood, and otherwise 1. -/
def main (arguments : List String) : IO UInt32 := do
  match Arcade.CommandLine.parse Arcade.CommandLine.read arguments with
  | .ok options => Arcade.Program.start options
  | .error e =>
    if e.isRequest then
      IO.println e.render
      return 0
    else
      IO.eprintln e.render
      return 2
