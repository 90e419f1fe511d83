/-!
# Text in columns

Listings and help screens line their entries up in columns: each entry is
padded on the right with blanks to the width of the widest one. Widths count
characters.
-/

namespace Timeline.Text

/-- Text padded with blanks on the right to a width; longer text is left as it is. -/
def leftAligned (width : Nat) (s : String) : String :=
  s.pushn ' ' (width - s.length)

/-- Rows of two columns, each row indented by two blanks and the columns set
two blanks apart, the first column as wide as its widest entry. -/
def twoColumns (rows : List (String × String)) : String :=
  let width := rows.foldl (fun w (l, _) => max w l.length) 0
  "\n".intercalate (rows.map fun (l, r) => "  " ++ leftAligned width l ++ "  " ++ r)

end Timeline.Text
