import Timeline.Settings.Toml.Failure
/-!
# Blanks, comments, strings and keys

The pieces of a configuration file below values: blanks (spaces and tabs),
line ends (a line feed, or a carriage return and a line feed), comments
(`#` to the end of the line, without control characters other than tab),
the four kinds of strings, and keys.

Every reader takes the text's bytes and an offset and gives what it read with
the offset after it, or a failure (see `Timeline.Settings.Toml.Failure`).
A loop over the text takes the number of bytes left, plus one, as its step
budget, since each step reads at least one byte.

Strings:

* a basic string is `"` ... `"` with backslash escapes `\b \t \n \f \r \" \\`,
  `\uXXXX` and `\UXXXXXXXX`;
* a multi-line basic string is `"""` ... `"""`; a line end right after the
  opening quotes is dropped, a backslash at the end of a line drops the line
  end and the blanks after it, and up to two quotes may stand before the
  closing three;
* a literal string is `'` ... `'` and a multi-line literal string `'''` ...
  `'''`, both without escapes.

A key is one or more parts separated by `.`, with blanks around each part; a
part is a basic or literal string or a run of ASCII letters, digits, `_` and
`-`. A key of eighty parts or more is refused.
-/

namespace Timeline.Settings.Toml

/-- The byte at an offset. -/
def byteAt (bs : ByteArray) (i : Nat) : Option UInt8 :=
  bs.data[i]?

/-- Whether the byte at an offset is a given ASCII character. -/
def isAt (bs : ByteArray) (i : Nat) (c : Char) : Bool :=
  byteAt bs i == some c.toUInt8

/-- Whether the bytes at an offset spell an ASCII word. -/
def wordAt (bs : ByteArray) (i : Nat) (w : String) : Bool :=
  (w.toList.zipIdx.all fun (c, k) => isAt bs (i + k) c)

/-- Whether a byte satisfies a test, at an offset. -/
def satisfiesAt (bs : ByteArray) (i : Nat) (p : UInt8 → Bool) : Bool :=
  match byteAt bs i with
  | some b => p b
  | none => false

/-- The offset after the bytes from `i` on that satisfy a test. -/
def span (bs : ByteArray) (p : UInt8 → Bool) (i : Nat) : Nat :=
  go (bs.size + 1 - i) i
where
  go : Nat → Nat → Nat
    | 0, j => j
    | n + 1, j => if satisfiesAt bs j p then go n (j + 1) else j

/-- The text of the bytes between two offsets. -/
def textBetween (bs : ByteArray) (i j : Nat) : String :=
  (String.fromUTF8? (bs.extract i j)).getD ""

/-- A space or a tab. -/
def isBlank (b : UInt8) : Bool := b == 0x20 || b == 0x09

/-- An ASCII digit. -/
def isDigit (b : UInt8) : Bool := 0x30 ≤ b && b ≤ 0x39

/-- An ASCII hexadecimal digit. -/
def isHexDigit (b : UInt8) : Bool :=
  isDigit b || (0x41 ≤ b && b ≤ 0x46) || (0x61 ≤ b && b ≤ 0x66)

/-- A byte that stands for itself in a basic string, one-line or multi-line. -/
def isBasicChar (b : UInt8) : Bool :=
  isBlank b || b == 0x21 || (0x23 ≤ b && b ≤ 0x5B) || (0x5D ≤ b && b ≤ 0x7E) || 0x80 ≤ b

/-- A byte of a literal string, one-line or multi-line. -/
def isLiteralChar (b : UInt8) : Bool :=
  b == 0x09 || (0x20 ≤ b && b ≤ 0x26) || (0x28 ≤ b && b ≤ 0x7E) || 0x80 ≤ b

/-- A byte of a comment after its `#`. -/
def isCommentChar (b : UInt8) : Bool :=
  b == 0x09 || (0x20 ≤ b && b ≤ 0x7E) || 0x80 ≤ b

/-- A byte of a bare key. -/
def isBareKeyChar (b : UInt8) : Bool :=
  (0x41 ≤ b && b ≤ 0x5A) || (0x61 ≤ b && b ≤ 0x7A) || isDigit b || b == 0x2D || b == 0x5F

/-- Skips blanks. -/
def blanks (bs : ByteArray) (i : Nat) : Nat :=
  span bs isBlank i

/-- A line end. A carriage return without a line feed fails after it. -/
def newline (bs : ByteArray) (i : Nat) : Outcome Unit :=
  if isAt bs i '\n' then .ok ((), i + 1)
  else if isAt bs i '\r' then
    if isAt bs (i + 1) '\n' then .ok ((), i + 2) else failAt (i + 1)
  else failAt i

/-- The offset after a comment that starts at `i`. -/
def commentEnd (bs : ByteArray) (i : Nat) : Nat :=
  span bs isCommentChar (i + 1)

/-- A line end or the end of the text. -/
def lineEnding (bs : ByteArray) (i : Nat) : Outcome Unit :=
  (newline bs i).orElse fun _ => if i ≥ bs.size then .ok ((), i) else failAt i

/-- The rest of a line after a value or a header: blanks, an optional
comment, and a line end or the end of the text. -/
def lineTrailing (bs : ByteArray) (i : Nat) : Outcome Unit :=
  let j := blanks bs i
  lineEnding bs (if isAt bs j '#' then commentEnd bs j else j)

/-- Blanks, line ends and comments (each comment ending its line), as they
may stand between the items of an array. -/
def gap (bs : ByteArray) (i : Nat) : Outcome Unit :=
  go (bs.size + 1 - i) i
where
  go : Nat → Nat → Outcome Unit
    | 0, j => .ok ((), j)
    | n + 1, j =>
      let k := blanks bs j
      let step : Option (Outcome Unit) :=
        if isAt bs k '#' then some (newline bs (commentEnd bs k))
        else if isAt bs k '\n' || isAt bs k '\r' then some (newline bs k)
        else none
      match step with
      | some (.ok ((), m)) => go n m
      | some (.error f) => .error f
      | none => .ok ((), k)

/-- Blanks and line ends, as far as they go. -/
def blanksAndLines (bs : ByteArray) (i : Nat) : Nat :=
  go (bs.size + 1 - i) i
where
  go : Nat → Nat → Nat
    | 0, j => j
    | n + 1, j =>
      match newline bs j with
      | .ok ((), k) => go n k
      | .error _ => if satisfiesAt bs j isBlank then go n (blanks bs j) else j

/-- The character of a hexadecimal escape of exactly `n` digits at `i`. -/
def hexEscape (bs : ByteArray) (n i : Nat) : Outcome Char :=
  let j := min (span bs isHexDigit i) (i + n)
  if j != i + n then failAt i
  else
    let v := (bs.extract i j).data.foldl (fun acc b =>
      acc * 16 + (if isDigit b then b.toNat - 0x30
        else if b ≤ 0x46 then b.toNat - 0x41 + 10 else b.toNat - 0x61 + 10)) 0
    if v.isValidChar then .ok (Char.ofNat v, j)
    else .error { offset := i, cause := some "value is out of range" }

/-- The notes of an escape that is not one. -/
def badEscapeNotes : List Note :=
  .reading "escape sequence" :: ['b', 'f', 'n', 'r', 't', 'u', 'U', '\\', '"'].map (.expected ∘ .char)

/-- An escape after its backslash. -/
def escapeAt (bs : ByteArray) (i : Nat) : Outcome Char :=
  let simple : List (Char × Char) :=
    [('b', '\x08'), ('f', '\x0C'), ('n', '\n'), ('r', '\r'), ('t', '\t'), ('\\', '\\'), ('"', '"')]
  match byteAt bs i with
  | none => failAt i
  | some b =>
    match simple.find? (fun (c, _) => c.toUInt8 == b) with
    | some (_, c) => .ok (c, i + 1)
    | none =>
      if b == 'u'.toUInt8 then ((hexEscape bs 4 (i + 1)).commit).note (.reading "unicode 4-digit hex code")
      else if b == 'U'.toUInt8 then ((hexEscape bs 8 (i + 1)).commit).note (.reading "unicode 8-digit hex code")
      else fatalAt (i + 1) badEscapeNotes

/-- A backslash and its escape. -/
def escaped (bs : ByteArray) (i : Nat) : Outcome Char :=
  if isAt bs i '\\' then escapeAt bs (i + 1) else failAt i

/-- A basic string. -/
def basicString (bs : ByteArray) (i : Nat) : Outcome String :=
  if !isAt bs i '"' then failAt i else go (bs.size + 1 - i) "" (i + 1)
where
  closing (acc : String) (j : Nat) : Outcome String :=
    if isAt bs j '"' then .ok (acc, j + 1) else fatalAt j [.reading "basic string"]
  go : Nat → String → Nat → Outcome String
    | 0, acc, j => closing acc j
    | n + 1, acc, j =>
      let k := span bs isBasicChar j
      if k > j then go n (acc ++ textBetween bs j k) k
      else
        match escaped bs j with
        | .ok (c, k) => go n (acc.push c) k
        | .error f => if f.fatal then .error f else closing acc j

/-- A literal string. -/
def literalString (bs : ByteArray) (i : Nat) : Outcome String :=
  if !isAt bs i '\'' then .error { offset := i, notes := [.reading "literal string"] }
  else
    let k := span bs isLiteralChar (i + 1)
    if isAt bs k '\'' then .ok (textBetween bs (i + 1) k, k + 1)
    else fatalAt k [.reading "literal string"]

/-- One or two quote characters that stand inside a multi-line string: two
when a test holds after them, else one when it holds after that. -/
def innerQuotes (bs : ByteArray) (q : Char) (after : Nat → Bool) (i : Nat) : Option Nat :=
  if isAt bs i q && isAt bs (i + 1) q && after (i + 2) then some 2
  else if isAt bs i q && after (i + 1) then some 1
  else none

/-- Whether a byte that is not a given quote stands at an offset. -/
def otherThan (bs : ByteArray) (q : Char) (i : Nat) : Bool :=
  satisfiesAt bs i (· != q.toUInt8)

/-- Whether three quote characters stand at an offset. -/
def threeAt (bs : ByteArray) (q : Char) (i : Nat) : Bool :=
  isAt bs i q && isAt bs (i + 1) q && isAt bs (i + 2) q

/-- A line end right after opening quotes, dropped when present. -/
def skipNewline (bs : ByteArray) (i : Nat) : Nat :=
  match newline bs i with
  | .ok ((), j) => j
  | .error _ => i

/-- A backslash at the end of a line, with the blanks and line ends after it,
one or more times over. -/
def escapedLineEnds (bs : ByteArray) (i : Nat) : Option Nat :=
  go (bs.size + 1 - i) i none
where
  once (j : Nat) : Option Nat :=
    if isAt bs j '\\' then
      match newline bs (blanks bs (j + 1)) with
      | .ok ((), k) => some (blanksAndLines bs k)
      | .error _ => none
    else none
  go : Nat → Nat → Option Nat → Option Nat
    | 0, _, found => found
    | n + 1, j, found =>
      match once j with
      | some k => go n k (some k)
      | none => found

/-- One piece of a multi-line basic string's body: characters that stand
for themselves, an escaped line end, an escape, or a line end. -/
def multiBasicPiece (bs : ByteArray) (i : Nat) : Outcome String :=
  let k := span bs isBasicChar i
  if k > i then .ok (textBetween bs i k, k)
  else
    match escapedLineEnds bs i with
    | some k => .ok ("", k)
    | none =>
      ((escaped bs i).mapValue Char.toString).orElse fun _ =>
        (newline bs i).mapValue fun () => "\n"

/-- A multi-line basic string. -/
def multiBasicString (bs : ByteArray) (i : Nat) : Outcome String :=
  if !threeAt bs '"' i then .error { offset := i, notes := [.reading "multiline basic string"] }
  else (body (bs.size + 1) "" (skipNewline bs (i + 3))).note (.reading "multiline basic string")
where
  close (acc : String) (j : Nat) : Outcome String :=
    if threeAt bs '"' j then .ok (acc, j + 3) else fatalAt j
  finish (acc : String) (j : Nat) : Outcome String :=
    match innerQuotes bs '"' (threeAt bs '"') j with
    | some q => close (acc.pushn '"' q) (j + q)
    | none => close acc j
  body : Nat → String → Nat → Outcome String
    | 0, acc, j => finish acc j
    | n + 1, acc, j =>
      match multiBasicPiece bs j with
      | .ok (s, k) => body n (acc ++ s) k
      | .error f =>
        if f.fatal then .error f
        else
          match innerQuotes bs '"' (otherThan bs '"') j with
          | some q =>
            match multiBasicPiece bs (j + q) with
            | .ok (s, k) => body n ((acc.pushn '"' q) ++ s) k
            | .error f => if f.fatal then .error f else finish acc (j + q)
          | none => finish acc j

/-- One character of a multi-line literal string's body, or a line end. -/
def multiLiteralPiece (bs : ByteArray) (i : Nat) : Option Nat :=
  if satisfiesAt bs i isLiteralChar then some (i + 1)
  else
    match newline bs i with
    | .ok ((), k) => some k
    | .error _ => none

/-- Replaces each carriage return and line feed pair by a line feed. -/
def joinLineEnds (s : String) : String :=
  "\n".intercalate (s.splitOn "\r\n")

/-- A multi-line literal string. -/
def multiLiteralString (bs : ByteArray) (i : Nat) : Outcome String :=
  if !threeAt bs '\'' i then .error { offset := i, notes := [.reading "multiline literal string"] }
  else
    let start := skipNewline bs (i + 3)
    (body start (bs.size + 1) start).note (.reading "multiline literal string")
where
  close (start j : Nat) : Outcome String :=
    if threeAt bs '\'' j then .ok (joinLineEnds (textBetween bs start j), j + 3) else fatalAt j
  finish (start j : Nat) : Outcome String :=
    match innerQuotes bs '\'' (threeAt bs '\'') j with
    | some q => close start (j + q)
    | none => close start j
  body (start : Nat) : Nat → Nat → Outcome String
    | 0, j => finish start j
    | n + 1, j =>
      match multiLiteralPiece bs j with
      | some k => body start n k
      | none =>
        match innerQuotes bs '\'' (otherThan bs '\'') j with
        | some q =>
          match multiLiteralPiece bs (j + q) with
          | some k => body start n k
          | none => finish start j
        | none => finish start j

/-- A string of any of the four kinds. -/
def string (bs : ByteArray) (i : Nat) : Outcome String :=
  (multiBasicString bs i).orElse fun _ =>
    (basicString bs i).orElse fun _ =>
      (multiLiteralString bs i).orElse fun _ => literalString bs i

/-- One part of a key: its name, and its text as written. -/
structure KeyPart where
  name : String
  raw : String
  deriving DecidableEq, Repr

/-- One part of a key, without the blanks around it. -/
def simpleKey (bs : ByteArray) (i : Nat) : Outcome KeyPart :=
  let written := fun (r : Outcome String) => match r with
    | .ok (s, k) => .ok ({ name := s, raw := textBetween bs i k }, k)
    | .error f => .error f
  if isAt bs i '"' then written (basicString bs i)
  else if isAt bs i '\'' then written (literalString bs i)
  else
    let k := span bs isBareKeyChar i
    if k == i then failAt i
    else .ok ({ name := textBetween bs i k, raw := textBetween bs i k }, k)

/-- One part of a key with the blanks around it. -/
def keyPart (bs : ByteArray) (i : Nat) : Outcome KeyPart :=
  match simpleKey bs (blanks bs i) with
  | .ok (p, k) => .ok (p, blanks bs k)
  | .error f => .error f

/-- The most parts a key may have, less one. -/
def keyPartLimit : Nat := 80

/-- A key: its parts, separated by points. -/
def key (bs : ByteArray) (i : Nat) : Outcome (List KeyPart) :=
  match keyPart bs i with
  | .error f => Outcome.note (.reading "key") (.error f)
  | .ok (p, k) =>
    match go (bs.size + 1 - k) [p] k with
    | .ok (parts, j) =>
      if parts.length ≥ keyPartLimit then .error { offset := i, cause := some "recursion limit exceeded" }
      else .ok (parts, j)
    | .error f => .error f
where
  go : Nat → List KeyPart → Nat → Outcome (List KeyPart)
    | 0, acc, j => .ok (acc, j)
    | n + 1, acc, j =>
      if !isAt bs j '.' then .ok (acc, j)
      else
        match keyPart bs (j + 1) with
        | .ok (p, k) => go n (acc ++ [p]) k
        | .error f => if f.fatal then Outcome.note (.reading "key") (.error f) else .ok (acc, j)

end Timeline.Settings.Toml
