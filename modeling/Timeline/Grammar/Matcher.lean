import Timeline.Record
import Timeline.Text.Quoted
import Timeline.Number.Read
/-!
# Field matchers

A matcher reads one field at the start of the rest of a unit and returns its
value with what is left:

* `digits lo hi` takes the run of ASCII digits, at most `hi` of them, and needs
  at least `lo`; the run is read as a 64-bit integer;
* `alpha lo hi` takes the run of ASCII letters in the same way, as text;
* `literal t` takes exactly the text `t`;
* `until d` takes the text before the first occurrence of `d`, which must be
  there and must not be at the start;
* `rest allowEmpty` takes everything that is left, empty only if allowed.
-/

namespace Timeline

/-- How one field is read. -/
inductive Matcher where
  | digits (lo hi : Nat)
  | alpha (lo hi : Nat)
  | literal (text : String)
  | until (delimiter : String)
  | rest (allowEmpty : Bool)
  deriving DecidableEq, Repr

/-- The greatest number a machine word counts to, the bound of an unbounded run. -/
def wordMax : Nat := 18446744073709551615

/-- A run of one or more digits of any length. -/
def Matcher.integer : Matcher := .digits 1 wordMax

/-- Why a matcher did not read its field. -/
inductive MatchFailure where
  | expectedDigits (lo hi : Nat)
  | expectedAlpha (lo hi : Nat)
  | expectedLiteral (text : String)
  | delimiterNotFound (delimiter : String)
  | empty
  | integerOverflow (digits : String)
  | trailingInput
  deriving DecidableEq, Repr

/-- The message of a match failure. -/
def MatchFailure.message : MatchFailure → String
  | .expectedDigits lo hi => s!"expected {lo}..={hi} digits"
  | .expectedAlpha lo hi => s!"expected {lo}..={hi} letters"
  | .expectedLiteral t => "expected " ++ Text.quote t
  | .delimiterNotFound d => "delimiter " ++ Text.quote d ++ " not found"
  | .empty => "empty value"
  | .integerOverflow ds => "integer too large: " ++ ds
  | .trailingInput => "unconsumed input"

/-- The position of the first occurrence of a non-empty text in another, in characters. -/
def findText (needle : List Char) : List Char → Option Nat
  | [] => if needle.isEmpty then some 0 else none
  | c :: cs =>
    if needle.isPrefixOf (c :: cs) then some 0 else (findText needle cs).map (· + 1)

/-- Whether a character is an ASCII digit. -/
def isAsciiDigit (c : Char) : Bool := c.isDigit

/-- Whether a character is an ASCII letter. -/
def isAsciiAlpha (c : Char) : Bool := c.isAlpha

/-- Reads one field at the start of `rest`: its value and what is left. -/
def Matcher.apply : Matcher → List Char → Except MatchFailure (FieldValue × List Char)
  | .digits lo hi, input =>
    let run := (input.take hi).takeWhile isAsciiDigit
    if run.length < lo then .error (.expectedDigits lo hi)
    else
      match Number.readInt64? (String.ofList run) with
      | some n => .ok (.int n, input.drop run.length)
      | none => .error (.integerOverflow (String.ofList run))
  | .alpha lo hi, input =>
    let run := (input.take hi).takeWhile isAsciiAlpha
    if run.length < lo then .error (.expectedAlpha lo hi)
    else .ok (.str (String.ofList run), input.drop run.length)
  | .literal t, input =>
    if t.toList.isPrefixOf input then .ok (.str t, input.drop t.length)
    else .error (.expectedLiteral t)
  | .until d, input =>
    match findText d.toList input with
    | none => .error (.delimiterNotFound d)
    | some 0 => .error .empty
    | some n => .ok (.str (String.ofList (input.take n)), input.drop n)
  | .rest allowEmpty, input =>
    if input.isEmpty && !allowEmpty then .error .empty
    else .ok (.str (String.ofList input), [])

end Timeline
