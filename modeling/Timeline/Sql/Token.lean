import Timeline.Sql.Value
/-!
# Tokens of the query language

`tokenize` cuts a statement text into tokens and drops spaces and comments
(`-- …` to the end of the line, `/* … */`). Every token keeps its text as
written and the byte offset where it starts, because error messages quote a
token and point at it.

* Words are identifiers and keywords alike: a letter, `_` or a non-ASCII
  character, then letters, digits, `_`, `$` or non-ASCII characters. Keywords
  are told apart later, without regard to case.
* `"…"`, `` `…` `` and `[…]` quote an identifier; `'…'` is a string, a doubled
  quote standing for one; `x'…'` is a blob of an even number of hex digits.
* Numbers are decimal, with an optional point and exponent, or `0x` and hex
  digits. A number running straight into a word character is not a token.
  Digits may be grouped by `_`, which must stand between two digits (hex
  digits in a hex number); a number with a `_` elsewhere is malformed.
* Anything else that is not an operator is an unrecognized token, which ends
  the cutting: it is reported as it stands.
-/

namespace Timeline.Sql

/-- What a token is. -/
inductive TokenKind where
  /-- An identifier or a keyword, as written. -/
  | word (text : String)
  /-- A quoted identifier, without its quotes. -/
  | quoted (name : String)
  /-- A string literal, without its quotes. -/
  | string (text : String)
  | blob (bytes : List UInt8)
  /-- A decimal integer, of any size. -/
  | integer (value : Nat)
  /-- A hex integer, of any size: `0x` and hex digits. -/
  | hex (value : Nat)
  | real (value : Float)
  /-- A number with a `_` that does not stand between two digits, and the text
  the error about it quotes. -/
  | malformedNumber (quoted : String)
  /-- An operator or punctuation mark. -/
  | symbol (text : String)
  /-- Text that is no token. -/
  | illegal

/-- A token, its text as written and the byte offset of its first character. -/
structure Token where
  kind : TokenKind
  text : String
  offset : Nat

/-- The end offset of a token. -/
def Token.stop (t : Token) : Nat := t.offset + t.text.utf8ByteSize

/-- Whether a character may start a word. -/
def isWordStart (c : Char) : Bool := c.isAlpha || c == '_' || c.toNat ≥ 0x80

/-- Whether a character may continue a word. -/
def isWordChar (c : Char) : Bool := isWordStart c || c.isDigit || c == '$'

/-- Whether a character is a space between tokens. -/
def isSpaceChar (c : Char) : Bool := c == ' ' || c == '\t' || c == '\n' || c == '\r' || c == '\x0c'

/-- The value of a hex digit. -/
def hexDigitValue (c : Char) : Option Nat :=
  if c.isDigit then some (c.toNat - '0'.toNat)
  else if 'a' ≤ c && c ≤ 'f' then some (c.toNat - 'a'.toNat + 10)
  else if 'A' ≤ c && c ≤ 'F' then some (c.toNat - 'A'.toNat + 10)
  else none

/-- The bytes of an even number of hex digits. -/
def hexPairs : List Char → Option (List UInt8)
  | [] => some []
  | a :: b :: rest => do
    let x ← hexDigitValue a
    let y ← hexDigitValue b
    pure ((x * 16 + y).toUInt8 :: (← hexPairs rest))
  | [_] => none

/-- The body of a quoted run up to its closing quote, a doubled quote standing
for one; the rest after the closing quote. -/
def quotedBody (q : Char) (acc : List Char) : List Char → Option (List Char × List Char)
  | [] => none
  | c :: rest =>
    if c == q then
      match rest with
      | c' :: rest' => if c' == q then quotedBody q (q :: acc) rest' else some (acc.reverse, rest)
      | [] => some (acc.reverse, [])
    else quotedBody q (c :: acc) rest

/-- The length in characters of the text a quoted run takes, quotes included. -/
def quotedLength (q : Char) (body : List Char) : Nat :=
  2 + body.length + (body.filter (· == q)).length

/-- Operators of two characters, then of one. -/
def twoCharSymbols : List String := ["||", "<=", ">=", "==", "!=", "<>", "<<", ">>", "->"]

/-- Operators of one character. -/
def oneCharSymbols : List Char :=
  ['(', ')', ',', ';', '.', '+', '-', '*', '/', '%', '=', '<', '>', '&', '|', '~']

/-- Reads a number without `_` at the start; its kind and the characters it
takes. -/
def plainNumber (cs : List Char) : TokenKind × Nat :=
  match cs with
  | '0' :: x :: rest =>
    if (x == 'x' || x == 'X') && (rest.head?.bind hexDigitValue).isSome then
      let ds := rest.takeWhile (fun c => (hexDigitValue c).isSome)
      let n := ds.foldl (fun acc c => acc * 16 + (hexDigitValue c).getD 0) 0
      let len := 2 + ds.length
      if (rest.drop ds.length).head?.any isWordChar then (.illegal, len + ((rest.drop ds.length).takeWhile isWordChar).length)
      else (.hex n, len)
    else decimal
  | _ => decimal
where
  decimal : TokenKind × Nat :=
    let whole := cs.takeWhile Char.isDigit
    let rest := cs.dropWhile Char.isDigit
    let (frac, rest, point) :=
      match rest with
      | '.' :: r => (r.takeWhile Char.isDigit, r.dropWhile Char.isDigit, true)
      | r => ([], r, false)
    let (expText, rest) :=
      match rest with
      | e :: r =>
        if e == 'e' || e == 'E' then
          let (sign, r') := match r with
            | '+' :: r' => (['+'], r')
            | '-' :: r' => (['-'], r')
            | r' => ([], r')
          let ds := r'.takeWhile Char.isDigit
          if ds.isEmpty then ([], rest) else (e :: sign ++ ds, r'.dropWhile Char.isDigit)
        else ([], rest)
      | [] => ([], [])
    let len := whole.length + (if point then 1 + frac.length else 0) + expText.length
    if rest.head?.any isWordChar then (.illegal, len + (rest.takeWhile isWordChar).length)
    else if !point && expText.isEmpty then (.integer (Number.digitsValue whole), len)
    else
      let digits := fun (ds : List Char) => ds.map fun c => c.toNat - 48
      let e : Int := match expText with
        | _ :: '-' :: ds => -(cappedExponent (digits ds) : Int)
        | _ :: '+' :: ds => cappedExponent (digits ds)
        | _ :: ds => cappedExponent (digits ds)
        | [] => 0
      (.real (readReal false (digits whole) (digits frac) e), len)

/-- The number of characters a number takes at the start of a text, `_`
counting as a digit: digits, then maybe a point and digits, then maybe an
exponent; or `0x` and hex digits. -/
def numberLength (cs : List Char) : Nat :=
  let grouped (digit : Char → Bool) (r : List Char) := (r.takeWhile fun c => digit c || c == '_').length
  match cs with
  | '0' :: x :: d :: _ =>
    if (x == 'x' || x == 'X') && (hexDigitValue d).isSome then
      2 + grouped (fun c => (hexDigitValue c).isSome) (cs.drop 2)
    else decimal
  | _ => decimal
where
  decimal : Nat :=
    let grouped (r : List Char) := (r.takeWhile fun c => c.isDigit || c == '_').length
    let whole := grouped cs
    let afterWhole := cs.drop whole
    let point := match afterWhole with
      | '.' :: r => 1 + grouped r
      | _ => 0
    let afterPoint := cs.drop (whole + point)
    let exponent := match afterPoint with
      | e :: c :: r =>
        if e == 'e' || e == 'E' then
          if c.isDigit then 2 + grouped r
          else if (c == '+' || c == '-') && (r.head?.any Char.isDigit) then 2 + grouped r
          else 0
        else 0
      | _ => 0
    whole + point + exponent

/-- The text an error about a misplaced `_` in a number quotes, if one is
misplaced. The separators are squeezed out of the text in place, one by one,
and each misplaced one is reported with the text as far as it is squeezed;
the last report counts. -/
def separatorError (hex : Bool) (cs : List Char) : Option String :=
  let digit (c : Char) : Bool := if hex then (hexDigitValue c).isSome else c.isDigit
  let arr := cs.toArray
  let step (acc : List Char × Option String) (i : Nat) : List Char × Option String :=
    let (kept, err) := acc
    let c := arr.getD i ' '
    if c != '_' then (kept ++ [c], err)
    else if i > 0 && digit (arr.getD (i - 1) ' ') && digit (arr.getD (i + 1) ' ') then (kept, err)
    else (kept, some (String.ofList (kept ++ cs.drop kept.length)))
  ((List.range arr.size).foldl step ([], none)).2

/-- Reads a number at the start; its kind and the characters it takes. -/
def numberToken (cs : List Char) : TokenKind × Nat :=
  let len := numberLength cs
  let body := cs.take len
  if !body.contains '_' then plainNumber cs
  else if (cs.drop len).head?.any isWordChar then (.illegal, len + ((cs.drop len).takeWhile isWordChar).length)
  else
    let hex := match body with
      | '0' :: x :: _ => x == 'x' || x == 'X'
      | _ => false
    match separatorError hex body with
    | some quoted => (.malformedNumber quoted, len)
    | none => ((plainNumber (body.filter (· != '_'))).1, len)

/-- One token at the start of a text that starts with no space or comment:
its kind and the number of characters it takes. -/
def nextToken (cs : List Char) : TokenKind × Nat :=
  match cs with
  | [] => (.illegal, 0)
  | c :: rest =>
    if c == '\'' then
      match quotedBody '\'' [] rest with
      | some (body, _) => (.string (String.ofList body), quotedLength '\'' body)
      | none => (.illegal, cs.length)
    else if c == '"' || c == '`' then
      match quotedBody c [] rest with
      | some (body, _) => (.quoted (String.ofList body), quotedLength c body)
      | none => (.illegal, cs.length)
    else if c == '[' then
      let body := rest.takeWhile (· != ']')
      if body.length < rest.length then (.quoted (String.ofList body), body.length + 2)
      else (.illegal, cs.length)
    else if (c == 'x' || c == 'X') && rest.head? == some '\'' then
      let body := (rest.drop 1).takeWhile (· != '\'')
      if body.length + 1 < rest.length then
        match hexPairs body with
        | some bytes => (.blob bytes, body.length + 3)
        | none => (.illegal, body.length + 3)
      else (.illegal, cs.length)
    else if c.isDigit || (c == '.' && (rest.head?.any Char.isDigit)) then numberToken cs
    else if isWordStart c then
      let w := cs.takeWhile isWordChar
      (.word (String.ofList w), w.length)
    else
      let two := String.ofList (cs.take 2)
      if twoCharSymbols.contains two then (.symbol two, 2)
      else if oneCharSymbols.contains c then (.symbol (String.singleton c), 1)
      else (.illegal, 1)

/-- The rest after a block comment's closing mark, and the bytes up to it. -/
def afterBlockComment (acc : Nat) : List Char → List Char × Nat
  | '*' :: '/' :: r => (r, acc + 2)
  | x :: r => afterBlockComment (acc + x.utf8Size) r
  | [] => ([], acc)

/-- Drops spaces and comments at the start, within a budget of steps; also the
number of bytes dropped. -/
def skipBlankWithin (skipped : Nat) (cs : List Char) : Nat → List Char × Nat
  | 0 => (cs, skipped)
  | fuel + 1 =>
    match cs with
    | c :: rest =>
      if isSpaceChar c then skipBlankWithin (skipped + 1) rest fuel
      else if c == '-' && rest.head? == some '-' then
        let line := cs.takeWhile (· != '\n')
        skipBlankWithin (skipped + (String.ofList line).utf8ByteSize) (cs.drop line.length) fuel
      else if c == '/' && rest.head? == some '*' then
        let (r, n) := afterBlockComment 2 (rest.drop 1)
        skipBlankWithin (skipped + n) r fuel
      else (cs, skipped)
    | [] => ([], skipped)

/-- Drops spaces and comments at the start; also the number of bytes dropped. -/
def skipBlank (cs : List Char) : List Char × Nat :=
  skipBlankWithin 0 cs (cs.length + 1)

/-- The tokens of a statement text. Cutting stops after an unrecognized token. -/
def tokenize (sql : String) : List Token :=
  go sql.toList 0 [] (sql.length + 1)
where
  go (cs : List Char) (offset : Nat) (acc : List Token) : Nat → List Token
    | 0 => acc.reverse
    | fuel + 1 =>
      let (cs, skipped) := skipBlank cs
      let offset := offset + skipped
      match cs with
      | [] => acc.reverse
      | _ =>
        let (kind, len) := nextToken cs
        let len := max len 1
        let text := String.ofList (cs.take len)
        let token : Token := ⟨kind, text, offset⟩
        match kind with
        | .illegal => (token :: acc).reverse
        | _ => go (cs.drop len) (offset + text.utf8ByteSize) (token :: acc) fuel

end Timeline.Sql
