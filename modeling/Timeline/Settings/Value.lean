import Timeline.Text.Quoted
import Timeline.Number.Plain
import Timeline.Number.Read
import Timeline.Text.Trim
/-!
# Setting values

A setting is read from a configuration file or from an environment variable,
and in both cases it has one of a few shapes: text, a number, a truth value, a
list or a table. Integers keep whether they were read with a possible sign:
the file format reads every integer as signed, the environment reads plain
digits as unsigned, and messages about a value say which it was.

An environment variable's text is read as a value (`readValue`): after ASCII
blanks, `true` and `false` are truth values, `[a, b]` is a list and
`{k = v}` a table whose items are read the same way, text in double quotes
(with backslash escapes) is that text, and one character in single quotes is
a one-character text. Anything else is a bare word running to the next `,`,
`[`, `]`, `{` or `}`, read by `wordValue`. Text that cannot be read whole
this way is itself the value.
-/

namespace Timeline.Settings

/-- A setting as its source gives it. -/
inductive Value where
  | string (s : String)
  /-- An integer read without sign. -/
  | natural (n : Nat)
  | integer (n : Int)
  | float (x : Float)
  | boolean (b : Bool)
  | array (items : List Value)
  | table (entries : List (String × Value))

/-- How a message names what a value is. -/
def Value.describe : Value → String
  | .string s => "string " ++ Text.quote s
  | .natural n => "unsigned int `" ++ toString n ++ "`"
  | .integer n => "signed int `" ++ (if n < 0 then "-" else "") ++ toString n.natAbs ++ "`"
  | .float x => "float `" ++ Number.plainText x ++ "`"
  | .boolean b => "bool " ++ (if b then "true" else "false")
  | .array _ => "sequence"
  | .table _ => "map"

/-- Whether a character is a blank around the parts of a value: ASCII white
space, form feed included. -/
def isBlankChar (c : Char) : Bool :=
  c == ' ' || c == '\t' || c == '\n' || c == '\x0C' || c == '\r'

/-- Whether a character ends a bare word. -/
def endsWord (c : Char) : Bool :=
  c == ',' || c == '[' || c == ']' || c == '{' || c == '}'

/-- Whether a character may stand in a bare table key. -/
def isKeyChar (c : Char) : Bool :=
  c.isAlphanum || c == '_' || c == '-'

/-- A bare word as a value. The word loses its white space at both ends; then
a word with a point that reads as a float is a float, digits with an optional
`+` that fit in 64 bits are an unsigned integer, digits with an optional sign
that fit in 64 signed bits are a signed one, and anything else is text. -/
def wordValue (w : String) : Value :=
  let text := Text.trim w
  let float := if text.contains '.' then Number.readFloat? text else none
  match float with
  | some x => .float x
  | none =>
    match Number.readInteger? text with
    | some n =>
      if !text.startsWith "-" && n ≤ 18446744073709551615 then .natural n.toNat
      else if Number.int64Min ≤ n && n ≤ Number.int64Max then .integer n
      else .string text
    | none => .string text

/-- The body of a double-quoted string and what follows its closing quote.
A backslash keeps the character after it in the body, so an escaped quote does
not close the string. -/
def quotedBody : List Char → Option (List Char × List Char)
  | [] => none
  | '"' :: rest => some ([], rest)
  | '\\' :: c :: rest => (quotedBody rest).map fun (b, r) => ('\\' :: c :: b, r)
  | c :: rest => (quotedBody rest).map fun (b, r) => (c :: b, r)

/-- The character of a hexadecimal escape, if its digits are ASCII hexadecimal
digits naming a Unicode scalar value. -/
def hexEscape (ds : List Char) : Option Char :=
  if ds.all fun c => c.isDigit || ('a' ≤ c && c ≤ 'f') || ('A' ≤ c && c ≤ 'F') then
    let v := ds.foldl (fun acc c =>
      acc * 16 + (if c.isDigit then c.toNat - '0'.toNat else c.toLower.toNat - 'a'.toNat + 10)) 0
    if v.isValidChar then some (Char.ofNat v)
    else none
  else none

/-- The character a one-letter escape stands for. -/
def simpleEscape : Char → Option Char
  | '"' => some '"'
  | '\\' => some '\\'
  | 'b' => some '\x08'
  | 'f' => some '\x0C'
  | 'n' => some '\n'
  | 'r' => some '\r'
  | 't' => some '\t'
  | _ => none

/-- The text of a quoted string's body with its escapes replaced: the
one-letter escapes, and four or eight hexadecimal digits after `u` or `U`.
Any other escape makes the string unreadable. -/
def unescape : List Char → Option (List Char)
  | [] => some []
  | '\\' :: 'u' :: a :: b :: c :: d :: rest => do
    let ch ← hexEscape [a, b, c, d]
    (ch :: ·) <$> unescape rest
  | '\\' :: 'U' :: a :: b :: c :: d :: e :: f :: g :: h :: rest => do
    let ch ← hexEscape [a, b, c, d, e, f, g, h]
    (ch :: ·) <$> unescape rest
  | '\\' :: c :: rest => do
    let ch ← simpleEscape c
    (ch :: ·) <$> unescape rest
  | '\\' :: [] => none
  | c :: rest => (c :: ·) <$> unescape rest

/-- A double-quoted string after its opening quote, and what follows it. -/
def quotedString (cs : List Char) : Option (String × List Char) := do
  let (body, rest) ← quotedBody cs
  let text ← unescape body
  pure (String.ofList text, rest)

mutual

/-- Reads one value with the blanks around it. -/
def valueAt : Nat → List Char → Option (Value × List Char)
  | 0, _ => none
  | fuel + 1, cs =>
    let cs := cs.dropWhile isBlankChar
    let read : Option (Value × List Char) := match cs with
      | 't' :: 'r' :: 'u' :: 'e' :: rest => some (.boolean true, rest)
      | 'f' :: 'a' :: 'l' :: 's' :: 'e' :: rest => some (.boolean false, rest)
      | '{' :: rest => (entriesAt fuel rest []).map fun (es, r) => (.table es, r)
      | '[' :: rest => (itemsAt fuel rest []).map fun (vs, r) => (.array vs, r)
      | '"' :: rest => (quotedString rest).map fun (s, r) => (.string s, r)
      | '\'' :: c :: '\'' :: rest => some (.string (String.singleton c), rest)
      | '\'' :: _ => none
      | _ =>
        let word := cs.takeWhile (fun c => !endsWord c)
        some (wordValue (String.ofList word), cs.drop word.length)
    read.map fun (v, r) => (v, r.dropWhile isBlankChar)

/-- Reads the items of a list after its opening bracket. A closing bracket
ends the list only where an item could start; each item is followed by a
comma or the closing bracket. -/
def itemsAt : Nat → List Char → List Value → Option (List Value × List Char)
  | 0, _, _ => none
  | fuel + 1, cs, acc =>
    match cs with
    | ']' :: rest => some (acc.reverse, rest)
    | _ =>
      match valueAt fuel cs with
      | some (v, ',' :: rest) => itemsAt fuel rest (v :: acc)
      | some (v, ']' :: rest) => some ((v :: acc).reverse, rest)
      | _ => none

/-- Reads the entries of a table after its opening brace: a key (a quoted
string, or letters, digits, `_` and `-`), `=` and a value, with blanks
around each, followed by a comma or the closing brace. -/
def entriesAt : Nat → List Char → List (String × Value) → Option (List (String × Value) × List Char)
  | 0, _, _ => none
  | fuel + 1, cs, acc =>
    match cs with
    | '}' :: rest => some (acc.reverse, rest)
    | _ =>
      let key : Option (String × List Char) :=
        match cs.dropWhile isBlankChar with
        | '"' :: rest => quotedString rest
        | cs =>
          let name := cs.takeWhile isKeyChar
          if name.isEmpty then none else some (String.ofList name, cs.drop name.length)
      match key with
      | some (name, rest) =>
        match rest.dropWhile isBlankChar with
        | '=' :: rest =>
          match valueAt fuel rest with
          | some (v, ',' :: rest) => entriesAt fuel rest ((name, v) :: acc)
          | some (v, '}' :: rest) => some (((name, v) :: acc).reverse, rest)
          | _ => none
        | _ => none
      | none => none

end

/-- The value of an environment variable's text: the value it reads as when
it reads whole, else the text itself. -/
def readValue (text : String) : Value :=
  match valueAt (text.length + 2) text.toList with
  | some (v, []) => v
  | _ => .string text

end Timeline.Settings
