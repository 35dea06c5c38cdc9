/-!
# Columns

Texts in a column of a given width, at its left edge.

* `Column.fill` adds blanks up to the width; a text that is wider stays as it is.
-/

namespace Arcade.Column

/-- A text with blanks after it up to a width. -/
def fill (width : Nat) (text : String) : String :=
  text ++ String.ofList (List.replicate (width - text.length) ' ')

end Arcade.Column
