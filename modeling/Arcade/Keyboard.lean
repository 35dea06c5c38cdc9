import Arcade.Board.Buttons

/-!
# The keyboard

What the keys of a keyboard do: each stands for a button of the cabinet, pauses the game, ends it
or does nothing.

* C is the coin slot, 1 and 2 start a game for one or two players;
* the arrows and space, or A, D and S, move and fire for the first player, J, L and K for the
  second;
* T tilts the cabinet, P pauses, Escape quits.

`Key.control?` is the layout, and every key is found by its name (`Key.ofName?_name`).
-/

namespace Arcade

/-- The keys that have a name here. -/
inductive Key
  | a | b | c | d | e | f | g | h | i | j | k | l | m
  | n | o | p | q | r | s | t | u | v | w | x | y | z
  | digit (number : Fin 10)
  | keypad (number : Fin 10)
  | keypadEnter
  | f1 | f2 | f12
  | left | right | up | down
  | space | escape | enter | tab | backspace | delete
  | leftShift | rightShift | leftControl
  | pause | comma | minus | home | endKey
  deriving DecidableEq, Repr

namespace Key

/-- Every letter key, in order. -/
def letters : List Key :=
  [a, b, c, d, e, f, g, h, i, j, k, l, m, n, o, p, q, r, s, t, u, v, w, x, y, z]

/-- Every key. -/
def all : List Key :=
  letters ++ (List.finRange 10).map digit ++ (List.finRange 10).map keypad ++
    [keypadEnter, f1, f2, f12, left, right, up, down, space, escape, enter, tab, backspace,
      delete, leftShift, rightShift, leftControl, pause, comma, minus, home, endKey]

/-- The name of a key. -/
def name : Key → String
  | a => "A"
  | b => "B"
  | c => "C"
  | d => "D"
  | e => "E"
  | f => "F"
  | g => "G"
  | h => "H"
  | i => "I"
  | j => "J"
  | k => "K"
  | l => "L"
  | m => "M"
  | n => "N"
  | o => "O"
  | p => "P"
  | q => "Q"
  | r => "R"
  | s => "S"
  | t => "T"
  | u => "U"
  | v => "V"
  | w => "W"
  | x => "X"
  | y => "Y"
  | z => "Z"
  | digit number => "Num" ++ toString number.val
  | keypad number => "Kp" ++ toString number.val
  | keypadEnter => "KpEnter"
  | f1 => "F1"
  | f2 => "F2"
  | f12 => "F12"
  | left => "Left"
  | right => "Right"
  | up => "Up"
  | down => "Down"
  | space => "Space"
  | escape => "Escape"
  | enter => "Return"
  | tab => "Tab"
  | backspace => "Backspace"
  | delete => "Delete"
  | leftShift => "LShift"
  | rightShift => "RShift"
  | leftControl => "LCtrl"
  | pause => "Pause"
  | comma => "Comma"
  | minus => "Minus"
  | home => "Home"
  | endKey => "End"

/-- The key of a name. -/
def ofName? (name : String) : Option Key :=
  all.find? fun key => key.name == name

theorem mem_all (key : Key) : key ∈ all := by
  cases key with
  | digit number => simp [all, letters]
  | keypad number => simp [all, letters]
  | _ => decide

/-- No two keys share a name. -/
theorem ofName?_name (key : Key) : ofName? key.name = some key := by
  have h : ∀ key ∈ all, ofName? key.name = some key := by decide +kernel
  exact h key key.mem_all

end Key

/-- What can be done to a game from outside. -/
inductive Control
  | buttons (buttons : Buttons)
  | pause
  | quit
  deriving DecidableEq, Repr

/-- The button a key stands for. -/
def Key.button? : Key → Option Button
  | c => some .coin
  | digit 1 | keypad 1 => some .p1Start
  | digit 2 | keypad 2 => some .p2Start
  | left | a => some .p1Left
  | right | d => some .p1Right
  | space | s => some .p1Fire
  | j => some .p2Left
  | l => some .p2Right
  | k => some .p2Fire
  | t => some .tilt
  | _ => none

/-- What a key does. -/
def Key.control? : Key → Option Control
  | p => some .pause
  | escape => some .quit
  | key => key.button?.map fun button => .buttons (.single button)

end Arcade
