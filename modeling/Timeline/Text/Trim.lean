import Timeline.Text.Unicode.WhiteSpace
/-!
# Trimming white space

Trimming removes the white space (in the sense of `Unicode.isWhiteSpace`) at
the ends of a text. A text is blank when nothing is left after trimming.
These are the rules by which units are told apart from blank lines and by
which leftover input after a grammar is judged.
-/

namespace Timeline.Text

open Unicode

/-- Removes the white space at the start of a text. -/
def trimStart (s : String) : String :=
  String.ofList (s.toList.dropWhile isWhiteSpace)

/-- Removes the white space at the end of a text. -/
def trimEnd (s : String) : String :=
  String.ofList (s.toList.reverse.dropWhile isWhiteSpace).reverse

/-- Removes the white space at both ends of a text. -/
def trim (s : String) : String :=
  trimEnd (trimStart s)

/-- A text is blank when it holds white space only. -/
def isBlank (s : String) : Bool :=
  s.toList.all isWhiteSpace

/-- Removes every line feed at the end of a text. -/
def dropTrailingLineFeeds (s : String) : String :=
  String.ofList (s.toList.reverse.dropWhile (· == '\n')).reverse

end Timeline.Text
