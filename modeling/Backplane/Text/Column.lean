/-!
# Columns

Text set in a column of a given width, counted in characters. Text that is
wider than its column is never cut.
-/

namespace Backplane.Column

/-- `text` at the left of a column of `width` characters. -/
def left (width : Nat) (text : String) : String :=
  text ++ String.ofList (List.replicate (width - text.length) ' ')

/-- `text` at the right of a column of `width` characters. -/
def right (width : Nat) (text : String) : String :=
  String.ofList (List.replicate (width - text.length) ' ') ++ text

end Backplane.Column
