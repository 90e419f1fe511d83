import Timeline.Number.Plain
import Timeline.Text.Decimal
/-!
# JSON values

The values of the JSON lines that the scanner writes. Objects keep their members
in the order given, which is the order in which the lines show them.

`Json.render` writes the compact form: no blank between tokens; in strings
the quote, the backslash and the control characters are escaped (the short
forms `\b`, `\f`, `\n`, `\r`, `\t` where they exist, `\u00xx` with lowercase
hexadecimal otherwise) and every other character stands for itself. A
floating-point number is written with its shortest digits and keeps a point
when integral (`2.0`).
-/

namespace Timeline

/-- A JSON value whose objects keep the order of their members. -/
inductive Json where
  | null
  | bool (b : Bool)
  | int (n : Int)
  | float (x : Float)
  | str (s : String)
  | arr (items : List Json)
  | obj (members : List (String × Json))

namespace Json

/-- How one character is written inside a JSON string. -/
def escapeChar (c : Char) : List Char :=
  if c = '"' then ['\\', '"']
  else if c = '\\' then ['\\', '\\']
  else if c = '\n' then ['\\', 'n']
  else if c = '\r' then ['\\', 'r']
  else if c = '\t' then ['\\', 't']
  else if c = '\x08' then ['\\', 'b']
  else if c = '\x0c' then ['\\', 'f']
  else if c.toNat < 0x20 then
    let hex := Nat.toDigits 16 c.toNat
    ['\\', 'u', '0', '0'] ++ List.replicate (2 - hex.length) '0' ++ hex
  else [c]

/-- A JSON string literal. -/
def quoted (s : String) : String :=
  String.ofList ('"' :: s.toList.flatMap escapeChar ++ ['"'])

/-- A floating-point number as a JSON number: its shortest digits, with `.0`
when they hold no point. -/
def floatText (x : Float) : String :=
  let t := Number.plainText x
  if t.toList.contains '.' then t else t ++ ".0"

mutual

/-- The compact text of a JSON value. -/
def render : Json → String
  | .null => "null"
  | .bool b => if b then "true" else "false"
  | .int n => Text.decimal n
  | .float x => floatText x
  | .str s => quoted s
  | .arr items => "[" ++ renderItems items ++ "]"
  | .obj members => "\x7b" ++ renderMembers members ++ "\x7d"

/-- The items of an array, separated by commas. -/
def renderItems : List Json → String
  | [] => ""
  | [j] => render j
  | j :: js => render j ++ "," ++ renderItems js

/-- The members of an object, separated by commas. -/
def renderMembers : List (String × Json) → String
  | [] => ""
  | [(k, v)] => quoted k ++ ":" ++ render v
  | (k, v) :: ms => quoted k ++ ":" ++ render v ++ "," ++ renderMembers ms

end

end Json

end Timeline
