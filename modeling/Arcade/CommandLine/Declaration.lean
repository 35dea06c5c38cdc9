import Arcade.SampleSet

/-!
# Declared options

The program declares its options, and leaves it to a library to read a command line by the
declarations. The library says which value each option has, and whether the value was chosen or is
the one that holds where nothing is chosen.

* `Declaration` is what is declared of an option, `Kind.read` the value of what is written with it;
* `declared` are the options of the program;
* `Library` is what is asked of a library.
-/

namespace Arcade.CommandLine

/-- Why no options come of a command line. -/
inductive Error
  | unknownArgument
  /-- A value that is missing, or an empty path. -/
  | invalidValue
  /-- A number that cannot be read or is out of range. -/
  | valueValidation
  /-- An option that is given twice. -/
  | argumentConflict
  /-- An option without another one that it needs. -/
  | missingRequiredArgument
  /-- A value for an option that takes none. -/
  | tooManyValues
  | displayHelp
  | displayVersion
  deriving DecidableEq, Repr

/-- What is written with an option: nothing, a path, or a number from a range. -/
inductive Kind
  | flag
  | path
  | number (low high : Nat)
  deriving DecidableEq, Repr

/-- The value of an option. -/
inductive Value
  | flag (isSet : Bool)
  | path (path : String)
  | number (n : Nat)
  deriving DecidableEq, Repr

/-- A number in decimal digits, with or without a plus sign. -/
def number? (text : List Char) : Option Nat :=
  let digits := match text with
    | '+' :: rest => rest
    | _ => text
  if digits.isEmpty || !digits.all Char.isDigit then none
  else some (digits.foldl (fun n c => n * 10 + (c.toNat - '0'.toNat)) 0)

/-- The value of what is written. A path cannot be empty. -/
def Kind.read (kind : Kind) (text? : Option String) : Except Error Value :=
  match kind, text? with
  | flag, none => .ok (.flag true)
  | flag, some _ => .error .tooManyValues
  | path, some text => if text = "" then .error .invalidValue else .ok (.path text)
  | number low high, some text =>
    match number? text.toList with
    | some n => if low ≤ n ∧ n ≤ high then .ok (.number n) else .error .valueValidation
    | none => .error .valueValidation
  | _, none => .error .invalidValue

/-- An option as it is declared. -/
structure Declaration where
  /-- What is written after two dashes. -/
  name : String
  /-- What is written after one dash. -/
  letter? : Option Char := none
  kind : Kind
  /-- What holds where nothing is written, as it would be written. -/
  standard? : Option String := none
  /-- The name of an option that is needed with it. -/
  requires? : Option String := none
  purpose : String
  deriving DecidableEq, Repr

/-- The value where the option is not chosen, if it has one then. -/
def Declaration.standardValue? (option : Declaration) : Option Value :=
  match option.kind, option.standard? with
  | .flag, _ => some (.flag false)
  | kind, some text => (kind.read (some text)).toOption
  | _, none => none

/-- The value of an option, and whether it was chosen on the command line. -/
structure Match where
  value : Value
  chosen : Bool
  deriving DecidableEq, Repr

/-- The values of options, by their names. -/
abbrev Matches := String → Option Match

/-- A library reads a command line by declarations. -/
abbrev Library := List Declaration → List String → Except Error Matches

/-! ### The options of the program -/

namespace Declared

def directory : Declaration where
  name := "dir"
  letter? := some 'd'
  kind := .path
  standard? := some "roms"
  purpose := "Directory holding the ROM parts invaders.h, .g, .f and .e"

def debug : Declaration where
  name := "debug"
  kind := .flag
  purpose := "Trace every instruction and port access"

def scale : Declaration where
  name := "scale-factor"
  letter? := some 's'
  kind := .number 1 8
  standard? := some "2"
  purpose := "Window scale factor"

def headless : Declaration where
  name := "headless"
  kind := .flag
  purpose := "Run without a window or sound"

def frames : Declaration where
  name := "frames"
  kind := .number 0 0xffffffffffffffff
  requires? := some "headless"
  purpose := "Stop after this many frames (headless only)"

def ships : Declaration where
  name := "ships"
  kind := .number 3 6
  standard? := some "3"
  purpose := "Ships per game set on the DIP switches"

def bonusAt1000 : Declaration where
  name := "bonus-at-1000"
  kind := .flag
  purpose := "Extra ship at 1000 points instead of 1500"

def allowUndocumented : Declaration where
  name := "allow-undocumented"
  kind := .flag
  purpose := "Execute undocumented opcodes as their documented aliases"

def sounds : Declaration where
  name := "sounds"
  kind := .path
  standard? := some SampleSet.defaultDirectory
  purpose := "Directory holding the WAV sound effects"

end Declared

open Declared in
/-- The options of the program. -/
def declared : List Declaration :=
  [directory, debug, scale, headless, frames, ships, bonusAt1000, allowUndocumented, sounds]

end Arcade.CommandLine
