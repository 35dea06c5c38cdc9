import Arcade.FileSystem
import Arcade.Log
import Arcade.Machine
import Arcade.Text.Quoted

/-!
# ROM sets

The program of the machine comes in four chips, one file each, which follow one another in memory.

* `RomSet.load` places the files of a directory. It stops at the first one that cannot be used;
  those before it stay in memory;
* `RomSet.Error` is why a set was not loaded, `RomSet.Notice` what there is to report of a file.
-/

namespace Arcade.RomSet

/-- The size of a chip. -/
def partSize : Nat := 0x800

/-- The files and the addresses of the chips. -/
def parts : List (String × Nat) :=
  [("invaders.h", 0x0000), ("invaders.g", 0x0800), ("invaders.f", 0x1000), ("invaders.e", 0x1800)]

/-- Why a set was not loaded. -/
inductive Error
  | emptyDirectory
  | missingDirectory (directory : String) (cause : FileError)
  | unreadablePart (part : String) (cause : FileError)
  | outOfBounds (error : Memory.OutOfBounds)
  deriving DecidableEq, Repr

/-- What is said of a set that was not loaded. -/
def Error.message : Error → String
  | emptyDirectory => "ROM directory cannot be empty"
  | missingDirectory directory _ =>
    "ROM directory " ++ Quoted.encode directory ++ " is not accessible"
  | unreadablePart part _ => "could not open ROM part " ++ Quoted.encode part
  | outOfBounds error => error.message

/-- What there is to report of a file. -/
inductive Notice
  /-- A file has not the size of a chip. -/
  | oddSize (part : String) (size : Nat)
  | loaded (part : String) (address : Nat)
  deriving DecidableEq, Repr

/-- A report as a log line. -/
def Notice.log : Notice → Log.Line
  | oddSize part size =>
    ⟨.warn, "ROM part " ++ part ++ " is 0x" ++ Hex.atLeast 1 size ++ " bytes, expected 0x" ++
      Hex.atLeast 1 partSize⟩
  | loaded part address => ⟨.info, "Loaded " ++ part ++ " at 0x" ++ Hex.atLeast 4 address⟩

/-- What loading came to. -/
structure Outcome where
  result : Except Error Unit
  memory : Memory
  notices : List Notice

/-- Files of a directory are placed at their addresses one after the other. -/
def loadParts (files : FileSystem) (directory : String) (memory : Memory) :
    List (String × Nat) → Outcome
  | [] => ⟨.ok (), memory, []⟩
  | (name, address) :: rest =>
    let part := Path.join directory name
    match files.read part with
    | .error cause => ⟨.error (.unreadablePart part cause), memory, []⟩
    | .ok bytes =>
      let sized := if bytes.size = partSize then [] else [Notice.oddSize part bytes.size]
      match memory.load address bytes with
      | .error error => ⟨.error (.outOfBounds error), memory, sized⟩
      | .ok memory =>
        let outcome := loadParts files directory memory rest
        { outcome with notices := sized ++ Notice.loaded part address :: outcome.notices }

/-- The set of a directory is placed in memory. -/
def load (files : FileSystem) (directory : String) (memory : Memory) : Outcome :=
  if directory.isEmpty then
    ⟨.error .emptyDirectory, memory, []⟩
  else
    match files.status directory with
    | .error cause => ⟨.error (.missingDirectory directory cause), memory, []⟩
    | .ok _ => loadParts files directory memory parts

end Arcade.RomSet

namespace Arcade

/-- The set of a directory is placed in the machine, and the program counter set to its start if
all of it was. -/
def Machine.loadRomSet (m : Machine) (files : FileSystem) (directory : String) :
    Except RomSet.Error Unit × Machine × List RomSet.Notice :=
  let outcome := RomSet.load files directory m.memory
  let m := m.mapCore fun core => { core with memory := outcome.memory }
  match outcome.result with
  | .ok _ => (.ok (), m.mapCore (Core.mapCpu fun cpu => { cpu with pc := 0 }), outcome.notices)
  | .error error => (.error error, m, outcome.notices)

end Arcade
