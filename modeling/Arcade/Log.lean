/-!
# Log lines

What the program reports beside its results: a level and a text. Each part of the program that
has something to report holds it as a value of its own and turns it into a line here.
-/

namespace Arcade.Log

/-- How much a line matters, the least first. -/
inductive Level
  | trace
  | debug
  | info
  | warn
  | error
  deriving DecidableEq, Repr

/-- The name a level is printed with. -/
def Level.name : Level → String
  | trace => "TRACE"
  | debug => "DEBUG"
  | info => "INFO"
  | warn => "WARN"
  | error => "ERROR"

/-- Whether lines of a level are printed; what is for debugging only if that is asked for. -/
def Level.isShown (debug : Bool) : Level → Bool
  | trace => false
  | .debug => debug
  | _ => true

/-- One report. -/
structure Line where
  level : Level
  text : String
  deriving DecidableEq, Repr

/-- A line as it is printed: the level, a colon and the text. -/
def Line.render (line : Line) : String :=
  line.level.name ++ ": " ++ line.text

end Arcade.Log
