import Arcade.Machine.Frame
import Arcade.RomSet

/-!
# Failures

What is printed when the program gives up: what it was about, and the chain of causes, the nearest
one first.

* `Failure.render` numbers the causes if there are several;
* `Failure.ofRomSet` and `Failure.ofFrame` are the failures of a run.
-/

namespace Arcade.CommandLine

/-- Why the program gave up. -/
structure Failure where
  summary : String
  causes : List String := []
  deriving DecidableEq, Repr

namespace Failure

/-- The chain of causes, a line each; several of them are numbered from 0. -/
def renderCauses : List String → String
  | [] => ""
  | [cause] => "\n\nCaused by:\n    " ++ cause
  | causes =>
    "\n\nCaused by:" ++ String.join (causes.zipIdx.map fun (cause, i) =>
      "\n    " ++ toString i ++ ": " ++ cause)

/-- A failure as it is printed. -/
def render (failure : Failure) : String :=
  "Error: " ++ failure.summary ++ renderCauses failure.causes

/-- A ROM set that was not loaded. -/
def ofRomSet (directory : String) (error : RomSet.Error) : Failure where
  summary := "Failed to load ROMs from '" ++ directory ++ "'"
  causes := match error with
    | .missingDirectory _ cause => [error.message, cause.message]
    | .unreadablePart _ cause => [error.message, cause.message]
    | _ => [error.message]

/-- A frame that was not finished. -/
def ofFrame (fault : FrameFault) : Failure where
  summary := "Emulation stopped"
  causes := fault.message?.toList

/-- A game is to be shown, and there is no window to show it in. -/
def noWindow : Failure where
  summary := "no window can be opened; run with --headless"

end Failure

end Arcade.CommandLine
