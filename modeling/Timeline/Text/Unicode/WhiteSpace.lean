import Timeline.Text.Unicode.Basic
/-!
# White space

The characters with the Unicode property `White_Space`: the ASCII tab, line
feed, vertical tab, form feed, carriage return and space, the next-line
control, the no-break spaces, the ogham space mark, the typographic spaces of
the general punctuation block, the line and paragraph separators and the
ideographic space.
-/

namespace Timeline.Text.Unicode

/-- The ranges of code points with the property `White_Space`. -/
def whiteSpaceRanges : List (Nat × Nat) :=
  [(0x9, 0xD), (0x20, 0x20), (0x85, 0x85), (0xA0, 0xA0), (0x1680, 0x1680),
   (0x2000, 0x200A), (0x2028, 0x2029), (0x202F, 0x202F), (0x205F, 0x205F),
   (0x3000, 0x3000)]

/-- Whether a character is white space. -/
def isWhiteSpace (c : Char) : Bool :=
  inRanges whiteSpaceRanges c.toNat

end Timeline.Text.Unicode
