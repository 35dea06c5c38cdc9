import Arcade.CommandLine.Declaration
import Arcade.Text.Column

/-!
# What the command line says of itself

The text that is printed for help, and what is said of a command line that cannot be understood.

* `usage` explains every option: its spellings, what it does and what holds without it;
* `Error.message` names the fault, `Error.isRequest` tells a wish from a fault.
-/

namespace Arcade.CommandLine

/-- The name the program is called by. -/
def programName : String := "invaders"

/-- The version of the program. -/
def version : String := "0.1.0"

/-- What the program is. -/
def about : String := "Space Invaders arcade emulator"

/-- What stands for the value of an option. -/
def Declaration.placeholder (option : Declaration) : String :=
  option.name.map fun c => if c = '-' then '_' else c.toUpper

/-- The spellings of an option. -/
def Declaration.spellings (option : Declaration) : String :=
  let letter := match option.letter? with
    | some c => "-" ++ c.toString ++ ", "
    | none => "    "
  let value := match option.kind with
    | .flag => ""
    | _ => " <" ++ option.placeholder ++ ">"
  letter ++ "--" ++ option.name ++ value

/-- What is said of an option. -/
def Declaration.explanation (option : Declaration) : String :=
  match option.standard? with
  | some text => option.purpose ++ " [default: " ++ text ++ "]"
  | none => option.purpose

/-- The spellings of all options, and what is said of each. -/
def explanations : List (String × String) :=
  declared.map (fun option => (option.spellings, option.explanation)) ++
    [("-h, --help", "Print help"), ("-V, --version", "Print version")]

/-- How the program is called. -/
def synopsis : String := "Usage: " ++ programName ++ " [OPTIONS]"

/-- The text that is printed for help, an option a line. -/
def usage : String :=
  let width := (explanations.map fun line => line.1.length).foldl max 0
  let lines := explanations.map fun (spellings, explanation) =>
    "  " ++ Column.fill width spellings ++ "  " ++ explanation
  "\n".intercalate ([about, "", synopsis, "", "Options:"] ++ lines)

/-- Whether nothing is wrong, and only a text is wanted. -/
def Error.isRequest : Error → Bool
  | displayHelp => true
  | displayVersion => true
  | _ => false

/-- What is said of a command line no options come of. -/
def Error.message : Error → String
  | unknownArgument => "unexpected argument found"
  | invalidValue => "one of the values isn't valid for an argument"
  | valueValidation => "invalid value for one of the arguments"
  | argumentConflict =>
    "an argument cannot be used with one or more of the other specified arguments"
  | missingRequiredArgument => "one or more required arguments were not provided"
  | tooManyValues => "unexpected value for an argument found"
  | displayHelp => usage
  | displayVersion => programName ++ " " ++ CommandLine.version

/-- What is printed where no options come of a command line. -/
def Error.render (e : Error) : String :=
  if e.isRequest then e.message
  else "error: " ++ e.message ++ "\n\n" ++ synopsis ++ "\n\nFor more information, try '--help'."

end Arcade.CommandLine
