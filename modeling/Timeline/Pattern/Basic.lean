import Timeline.Text.Unicode.DecimalDigit
import Timeline.Text.Unicode.WhiteSpace
/-!
# Line patterns

The patterns by which artifacts recognise their lines: regular expressions over
characters with classes, anchors at the two ends of the text, greedy repetition
and named groups. They are built from the constructors below; the doc comment of
each artifact gives a pattern in the usual regular-expression notation.

Classes follow Unicode: `digit` is a decimal digit of any script, `space` is
white space, and `notLineFeed` is every character but the line feed.
-/

namespace Timeline

/-- A set of characters that one position of a pattern accepts. -/
inductive CharClass where
  /-- Every character except the line feed (`.`). -/
  | notLineFeed
  /-- A decimal digit of any script (`\d`). -/
  | digit
  /-- White space (`\s`). -/
  | space
  /-- Anything but white space (`\S`). -/
  | nonSpace
  /-- The characters of the listed closed ranges (`[A-Za-z]`). -/
  | ranges (rs : List (Char × Char))
  deriving DecidableEq, Repr

/-- Whether a class accepts a character. -/
def CharClass.accepts : CharClass → Char → Bool
  | .notLineFeed, c => c != '\n'
  | .digit, c => Text.Unicode.isDecimalDigit c
  | .space, c => Text.Unicode.isWhiteSpace c
  | .nonSpace, c => !Text.Unicode.isWhiteSpace c
  | .ranges rs, c => rs.any fun r => r.1 ≤ c && c ≤ r.2

/-- A regular expression with anchors and named groups. -/
inductive Pattern where
  /-- The empty text. -/
  | empty
  /-- One given character. -/
  | char (c : Char)
  /-- One character of a class. -/
  | cls (k : CharClass)
  /-- The start of the text (`^`). -/
  | start
  /-- The end of the text (`$`). -/
  | finish
  /-- One pattern, then the other. -/
  | seq (p q : Pattern)
  /-- The first pattern, or else the second (`|`). -/
  | alt (p q : Pattern)
  /-- At least `lo` and at most `hi` repetitions, as many as possible first. -/
  | rep (p : Pattern) (lo : Nat) (hi : Option Nat)
  /-- A group whose span is recorded under a name (`(?P<name>…)`). -/
  | group (name : String) (p : Pattern)
  deriving Repr

namespace Pattern

/-- The patterns of a list, one after the other. -/
def seqs : List Pattern → Pattern
  | [] => .empty
  | [p] => p
  | p :: ps => .seq p (seqs ps)

/-- The first pattern of a list that matches. -/
def alts : List Pattern → Pattern
  | [] => .empty
  | [p] => p
  | p :: ps => .alt p (alts ps)

/-- A given text, character by character. -/
def text (s : String) : Pattern :=
  seqs (s.toList.map .char)

/-- Exactly `n` repetitions (`{n}`). -/
def times (n : Nat) (p : Pattern) : Pattern := .rep p n (some n)

/-- One or more repetitions (`+`). -/
def many1 (p : Pattern) : Pattern := .rep p 1 none

/-- Any number of repetitions (`*`). -/
def many (p : Pattern) : Pattern := .rep p 0 none

/-- An optional occurrence (`?`). -/
def optional (p : Pattern) : Pattern := .rep p 0 (some 1)

/-- A decimal digit of any script (`\d`). -/
def digit : Pattern := .cls .digit

/-- Exactly `n` digits (`\d{n}`). -/
def digits (n : Nat) : Pattern := times n digit

/-- Any run of characters within a line (`.*`). -/
def anyText : Pattern := many (.cls .notLineFeed)

end Pattern

end Timeline
