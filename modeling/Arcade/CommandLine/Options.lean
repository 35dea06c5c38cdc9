import Arcade.CommandLine.Declaration
import Arcade.Settings

/-!
# Options

What can be chosen on the command line.

* `Options.ofMatches` takes the options from what a library made of a command line, and `parse`
  has it made;
* `Options.settings` are the settings of the machine that is asked for.
-/

namespace Arcade.CommandLine

/-- The choices of a command line. -/
structure Options where
  /-- Where the ROM set is. -/
  directory : String
  debug : Bool
  /-- The size of a pixel in the window. -/
  scale : Nat
  /-- Neither window nor sound. -/
  headless : Bool
  /-- Stop after so many frames. -/
  frames? : Option Nat
  ships : Nat
  bonusAt1000 : Bool
  allowUndocumented : Bool
  /-- Where the sample set is. -/
  sounds : String
  deriving DecidableEq, Repr, Inhabited

namespace Matches

/-- The value of an option. -/
def value? (found : Matches) (option : Declaration) : Option Value :=
  (found option.name).map Match.value

/-- Whether a flag is set. -/
def flag (found : Matches) (option : Declaration) : Except Error Bool :=
  match found.value? option with
  | some (.flag isSet) => .ok isSet
  | _ => .error .missingRequiredArgument

/-- The path of an option. -/
def path (found : Matches) (option : Declaration) : Except Error String :=
  match found.value? option with
  | some (.path path) => .ok path
  | _ => .error .missingRequiredArgument

/-- The number of an option. -/
def number (found : Matches) (option : Declaration) : Except Error Nat :=
  match found.value? option with
  | some (.number n) => .ok n
  | _ => .error .missingRequiredArgument

/-- The number of an option that may have none. -/
def number? (found : Matches) (option : Declaration) : Except Error (Option Nat) :=
  match found.value? option with
  | none => .ok none
  | some (.number n) => .ok (some n)
  | some _ => .error .missingRequiredArgument

end Matches

/-- The options that a library found. -/
def Options.ofMatches (found : Matches) : Except Error Options := do
  return {
    directory := ← found.path Declared.directory
    debug := ← found.flag Declared.debug
    scale := ← found.number Declared.scale
    headless := ← found.flag Declared.headless
    frames? := ← found.number? Declared.frames
    ships := ← found.number Declared.ships
    bonusAt1000 := ← found.flag Declared.bonusAt1000
    allowUndocumented := ← found.flag Declared.allowUndocumented
    sounds := ← found.path Declared.sounds }

/-- The options of a command line, as a library reads it. -/
def parse (library : Library) (arguments : List String) : Except Error Options := do
  Options.ofMatches (← library declared arguments)

/-- The settings of the machine that is asked for. -/
def Options.settings (options : Options) : Settings where
  dips := { ships := UInt8.ofNat options.ships, bonusAt1000 := options.bonusAt1000 }
  debug := options.debug
  strict := !options.allowUndocumented

end Arcade.CommandLine
