import Timeline.Json.Basic
import Timeline.Number.Read
/-!
# Reading JSON

`Json.parse?` reads one JSON value surrounded by optional white space. An
integer literal (no point, no exponent) is read exactly as an integer; any
other number is read as the nearest floating-point value, negative zero kept.
String escapes include `\uXXXX`, with surrogate pairs combined; a surrogate
without its partner becomes `U+FFFD`. Objects keep their members in order.

The reader is total: every step consumes input, and a budget of steps as large
as the input bounds the nesting.
-/

namespace Timeline.Json

/-- Drops JSON white space. -/
def skipWs (cs : List Char) : List Char :=
  cs.dropWhile fun c => c == ' ' || c == '\t' || c == '\n' || c == '\r'

/-- The value of a hexadecimal digit. -/
def hexValue (c : Char) : Option Nat :=
  if '0' ≤ c && c ≤ '9' then some (c.toNat - '0'.toNat)
  else if 'a' ≤ c && c ≤ 'f' then some (c.toNat - 'a'.toNat + 10)
  else if 'A' ≤ c && c ≤ 'F' then some (c.toNat - 'A'.toNat + 10)
  else none

/-- The value of four hexadecimal digits. -/
def hexQuad (a b c d : Char) : Option Nat := do
  pure ((((← hexValue a) * 16 + (← hexValue b)) * 16 + (← hexValue c)) * 16 + (← hexValue d))

/-- Whether a code unit is the first half of a surrogate pair. -/
def isHighSurrogate (n : Nat) : Bool := 0xD800 ≤ n && n < 0xDC00

/-- Whether a code unit is the second half of a surrogate pair. -/
def isLowSurrogate (n : Nat) : Bool := 0xDC00 ≤ n && n < 0xE000

/-- The character of a surrogate pair. -/
def pairChar (hi lo : Nat) : Char :=
  Char.ofNat (0x10000 + (hi - 0xD800) * 0x400 + (lo - 0xDC00))

/-- The characters of a string literal after its opening quote, up to the closing one. -/
def stringBody (acc : List Char) : List Char → Option (String × List Char)
  | [] => none
  | '"' :: rest => some (String.ofList acc.reverse, rest)
  | '\\' :: 'u' :: a :: b :: c :: d :: rest =>
    match hexQuad a b c d with
    | none => none
    | some hi =>
      if isHighSurrogate hi then
        match _h : rest with
        | '\\' :: 'u' :: e :: f :: g :: k :: more =>
          match hexQuad e f g k with
          | some lo =>
            if isLowSurrogate lo then stringBody (pairChar hi lo :: acc) more
            else stringBody ('�' :: acc) rest
          | none => none
        | _ => stringBody ('�' :: acc) rest
      else if isLowSurrogate hi then stringBody ('�' :: acc) rest
      else stringBody (Char.ofNat hi :: acc) rest
  | '\\' :: c :: rest =>
    match c with
    | '"' => stringBody ('"' :: acc) rest
    | '\\' => stringBody ('\\' :: acc) rest
    | '/' => stringBody ('/' :: acc) rest
    | 'b' => stringBody ('\x08' :: acc) rest
    | 'f' => stringBody ('\x0c' :: acc) rest
    | 'n' => stringBody ('\n' :: acc) rest
    | 'r' => stringBody ('\r' :: acc) rest
    | 't' => stringBody ('\t' :: acc) rest
    | _ => none
  | c :: rest => if c.toNat < 0x20 then none else stringBody (c :: acc) rest
termination_by cs => cs.length
decreasing_by all_goals simp_all <;> omega

/-- Whether a character may appear in a number literal. -/
def isNumberChar (c : Char) : Bool :=
  c.isDigit || c == '-' || c == '+' || c == '.' || c == 'e' || c == 'E'

/-- A number literal: an integer when it has no point and no exponent. -/
def number (cs : List Char) : Option (Json × List Char) :=
  let lit := cs.takeWhile isNumberChar
  let rest := cs.dropWhile isNumberChar
  if lit.isEmpty then none
  else if lit.any (fun c => c == '.' || c == 'e' || c == 'E') then
    (Number.readFloat? (String.ofList lit)).map fun x => (.float x, rest)
  else
    (Number.readInteger? (String.ofList lit)).map fun n => (.int n, rest)

mutual

/-- One value, within a budget of nesting steps. -/
def value : Nat → List Char → Option (Json × List Char)
  | 0, _ => none
  | fuel + 1, cs =>
    match skipWs cs with
    | 'n' :: 'u' :: 'l' :: 'l' :: rest => some (.null, rest)
    | 't' :: 'r' :: 'u' :: 'e' :: rest => some (.bool true, rest)
    | 'f' :: 'a' :: 'l' :: 's' :: 'e' :: rest => some (.bool false, rest)
    | '"' :: rest => (stringBody [] rest).map fun (s, r) => (.str s, r)
    | '[' :: rest =>
      match skipWs rest with
      | ']' :: r => some (.arr [], r)
      | _ => (items fuel [] rest).map fun (xs, r) => (.arr xs, r)
    | '\x7b' :: rest =>
      match skipWs rest with
      | '\x7d' :: r => some (.obj [], r)
      | _ => (members fuel [] rest).map fun (ms, r) => (.obj ms, r)
    | other => number other

/-- The items of an array after its opening bracket, separated by commas. -/
def items : Nat → List Json → List Char → Option (List Json × List Char)
  | 0, _, _ => none
  | fuel + 1, acc, cs => do
    let (v, rest) ← value fuel cs
    match skipWs rest with
    | ',' :: r => items fuel (v :: acc) r
    | ']' :: r => pure ((v :: acc).reverse, r)
    | _ => none

/-- The members of an object after its opening brace, separated by commas. -/
def members : Nat → List (String × Json) → List Char → Option (List (String × Json) × List Char)
  | 0, _, _ => none
  | fuel + 1, acc, cs => do
    let '"' :: afterQuote := skipWs cs | none
    let (key, rest) ← stringBody [] afterQuote
    let ':' :: afterColon := skipWs rest | none
    let (v, rest) ← value fuel afterColon
    match skipWs rest with
    | ',' :: r => members fuel ((key, v) :: acc) r
    | '\x7d' :: r => pure (((key, v) :: acc).reverse, r)
    | _ => none

end

/-- The JSON value of a text, if the whole text is one. -/
def parse? (s : String) : Option Json :=
  let cs := s.toList
  match value (cs.length + 1) cs with
  | some (v, rest) => if (skipWs rest).isEmpty then some v else none
  | none => none

end Timeline.Json
