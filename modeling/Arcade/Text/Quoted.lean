import Arcade.Text.Extender
import Arcade.Text.Hex
import Arcade.Text.Printable

/-!
# Quoted text

A text between double quotes in which everything can be seen: quotes and backslashes have a
backslash before them, what has no picture of its own is written as its number.

* `Quoted.escape` writes one character, `Quoted.encode` a text.
-/

namespace Arcade.Quoted

/-- A character by its number in hexadecimal, in braces. -/
def numeral (c : Char) : String :=
  "\\u\x7b" ++ Hex.atLeast 1 c.toNat ++ "\x7d"

/-- A character as it is written in a quoted text. -/
def escape (c : Char) : String :=
  if c = '\x00' then "\\0"
  else if c = '\t' then "\\t"
  else if c = '\n' then "\\n"
  else if c = '\r' then "\\r"
  else if c = '"' then "\\\""
  else if c = '\\' then "\\\\"
  else if Extender.isExtender c || !Printable.isPrintable c then numeral c
  else c.toString

/-- A text in quotes. -/
def encode (text : String) : String :=
  "\"" ++ String.join (text.toList.map escape) ++ "\""

end Arcade.Quoted
