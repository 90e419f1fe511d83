import Timeline.Sql.Like
/-!
# Formatting values into text

`printf(FORMAT, ARGS...)` (also named `format`) writes its arguments into a
text after a format in the manner of C's `printf`. The format is read into
pieces first (`parseFormat`): runs of literal bytes, and conversions, each a
`%`, flags, a width, a precision, an optional `l` or `ll`, and a conversion
letter. Then the pieces are written out, each conversion taking the next
arguments it needs (`renderPieces`).

* Flags: `-` left-justifies, `+` and space write a sign before a value that
  is not negative, `#` asks for the alternate form, `!` counts widths and
  precisions in characters and gives reals more digits, `0` pads numbers with
  zeros, and `,` separates thousands.
* A width or precision is digits or `*`, which takes it from the next
  argument; a negative width left-justifies.
* `d i u o x X p r` write integers, `f e E g G` reals, `s` a text, `q Q w`
  a text quoted for the query language, `c` a character repeated, `%` itself,
  and `n` nothing.
* A conversion letter that is none of these ends the output there. A `%` that
  ends the format is written as it is.

Arguments are read as the database reads them: integers toward zero and
clamped, texts by their numeric prefix, and texts up to their first zero
byte. A missing argument counts as null.
-/

namespace Timeline.Sql

/-- Where a width or a precision comes from. -/
inductive Amount where
  | unset
  | given (n : Nat)
  /-- From the next argument. -/
  | argument
  deriving DecidableEq, Repr

/-- How a conversion writes its argument. -/
inductive Conversion where
  /-- `d` and `i`: a signed decimal. -/
  | signed
  /-- `u`: the 64-bit pattern as an unsigned decimal. -/
  | unsigned
  /-- `o`: unsigned octal. -/
  | octal
  /-- `x` and `X`: unsigned hexadecimal, in lower or upper case. -/
  | hex (upper : Bool)
  /-- `p`: unsigned hexadecimal in upper case, marked `0x` in the alternate form. -/
  | pointer
  /-- `r`: a signed decimal with its English ordinal suffix. -/
  | ordinal
  /-- `f`, `e`, `E`, `g` and `G`: a real. -/
  | real (style : RealStyle) (upper : Bool)
  /-- `s` and `z`: a text. -/
  | text
  /-- `q`: a text with its single quotes doubled. -/
  | quoted
  /-- `Q`: as `q`, between single quotes, and `NULL` for null. -/
  | literal
  /-- `w`: a text with its double quotes doubled. -/
  | identifier
  /-- `c`: the first character of a text. -/
  | character
  /-- `n`: nothing. -/
  | nothing
  /-- `%`: a percent sign. -/
  | percent
  deriving DecidableEq, Repr

/-- The conversion a letter names. The letters `T` and `S`, kept for the
engine's own messages, name none here, as does every other byte. -/
def Conversion.ofByte? (c : UInt8) : Option Conversion :=
  match c.toNat with
  | 100 | 105 => some .signed
  | 117 => some .unsigned
  | 111 => some .octal
  | 120 => some (.hex false)
  | 88 => some (.hex true)
  | 112 => some .pointer
  | 114 => some .ordinal
  | 102 => some (.real .fixed false)
  | 101 => some (.real .exponent false)
  | 69 => some (.real .exponent true)
  | 103 => some (.real .general false)
  | 71 => some (.real .general true)
  | 115 | 122 => some .text
  | 113 => some .quoted
  | 81 => some .literal
  | 119 => some .identifier
  | 99 => some .character
  | 110 => some .nothing
  | 37 => some .percent
  | _ => none

/-- The flags, width and precision of a conversion. -/
structure Spec where
  leftJustify : Bool := false
  /-- The sign written before a value that is not negative, if any. -/
  plus : Option Char := none
  alternate : Bool := false
  /-- The `!` flag. -/
  altered : Bool := false
  zeroPad : Bool := false
  thousands : Bool := false
  width : Amount := .unset
  precision : Amount := .unset
  deriving DecidableEq, Repr

/-- A piece of a format. -/
inductive Piece where
  | literal (bytes : List UInt8)
  | convert (spec : Spec) (conversion : Conversion)
  deriving DecidableEq, Repr

/-! ## Reading a format -/

/-- Whether a byte is a decimal digit. -/
def isDigitCode (b : UInt8) : Bool := 48 ≤ b && b ≤ 57

/-- The count digits spell, reduced as a 32-bit unsigned counter would hold it
and then to 31 bits. -/
def amountOf (ds : List UInt8) : Nat :=
  (ds.foldl (fun acc d => (acc * 10 + (d.toNat - 48)) % 4294967296) 0) % 2147483648

/-- The conversion letter that ends a specification; `none` when the format
ends or the letter names no conversion. -/
def readLetter (spec : Spec) : List UInt8 → Option (Spec × Conversion × List UInt8)
  | [] => none
  | c :: rest => (Conversion.ofByte? c).map fun k => (spec, k, rest)

/-- After an `l`: a second `l` is skipped, then the letter. -/
def readLength (spec : Spec) : List UInt8 → Option (Spec × Conversion × List UInt8)
  | 108 :: rest => readLetter spec rest
  | rest => readLetter spec rest

/-- After a precision: an `l`, or the letter. -/
def afterPrecision (spec : Spec) : List UInt8 → Option (Spec × Conversion × List UInt8)
  | 108 :: rest => readLength spec rest
  | rest => readLetter spec rest

/-- After a `.`: `*` or digits, none of them meaning zero. -/
def readPrecision (spec : Spec) : List UInt8 → Option (Spec × Conversion × List UInt8)
  | 42 :: rest => afterPrecision { spec with precision := .argument } rest
  | rest =>
    afterPrecision { spec with precision := .given (amountOf (rest.takeWhile isDigitCode)) }
      (rest.dropWhile isDigitCode)

/-- After a width: a precision, an `l`, or the letter. -/
def afterWidth (spec : Spec) : List UInt8 → Option (Spec × Conversion × List UInt8)
  | 46 :: rest => readPrecision spec rest
  | 108 :: rest => readLength spec rest
  | rest => readLetter spec rest

/-- A specification after its `%`: flags in any order and number, then a
width, a precision, a length and the letter, each optional but the letter. -/
def readSpec (spec : Spec) : List UInt8 → Option (Spec × Conversion × List UInt8)
  | [] => none
  | c :: rest =>
    match c.toNat with
    | 45 => readSpec { spec with leftJustify := true } rest
    | 43 => readSpec { spec with plus := some '+' } rest
    | 32 => readSpec { spec with plus := some ' ' } rest
    | 35 => readSpec { spec with alternate := true } rest
    | 33 => readSpec { spec with altered := true } rest
    | 48 => readSpec { spec with zeroPad := true } rest
    | 44 => readSpec { spec with thousands := true } rest
    | 108 => readLength spec rest
    | 42 => afterWidth { spec with width := .argument } rest
    | 46 => readPrecision spec rest
    | _ =>
      if 49 ≤ c && c ≤ 57 then
        afterWidth { spec with width := .given (amountOf (c :: rest.takeWhile isDigitCode)) }
          (rest.dropWhile isDigitCode)
      else readLetter spec (c :: rest)

/-- The specification read by `readSpec` leaves a suffix of its input. -/
theorem readLetter_length {spec : Spec} {bytes rest : List UInt8} {s : Spec} {k : Conversion}
    (h : readLetter spec bytes = some (s, k, rest)) : rest.length < bytes.length := by
  cases bytes with
  | nil => simp [readLetter] at h
  | cons c more =>
    simp only [readLetter, Option.map_eq_some_iff] at h
    obtain ⟨_, _, e⟩ := h
    cases e
    simp

theorem readLength_length {spec : Spec} {bytes rest : List UInt8} {s : Spec} {k : Conversion}
    (h : readLength spec bytes = some (s, k, rest)) : rest.length < bytes.length := by
  unfold readLength at h
  split at h
  · have := readLetter_length h
    simp at this ⊢
    omega
  · exact readLetter_length h

theorem afterPrecision_length {spec : Spec} {bytes rest : List UInt8} {s : Spec}
    {k : Conversion} (h : afterPrecision spec bytes = some (s, k, rest)) :
    rest.length < bytes.length := by
  unfold afterPrecision at h
  split at h
  · have := readLength_length h
    simp at this ⊢
    omega
  · exact readLetter_length h

theorem readPrecision_length {spec : Spec} {bytes rest : List UInt8} {s : Spec}
    {k : Conversion} (h : readPrecision spec bytes = some (s, k, rest)) :
    rest.length < bytes.length := by
  unfold readPrecision at h
  split at h
  · have := afterPrecision_length h
    simp at this ⊢
    omega
  · have := afterPrecision_length h
    have := dropWhile_length_le isDigitCode bytes
    omega

theorem afterWidth_length {spec : Spec} {bytes rest : List UInt8} {s : Spec}
    {k : Conversion} (h : afterWidth spec bytes = some (s, k, rest)) :
    rest.length < bytes.length := by
  unfold afterWidth at h
  split at h
  · have := readPrecision_length h
    simp at this ⊢
    omega
  · have := readLength_length h
    simp at this ⊢
    omega
  · exact readLetter_length h

theorem readSpec_length {spec : Spec} {bytes rest : List UInt8} {s : Spec}
    {k : Conversion} (h : readSpec spec bytes = some (s, k, rest)) :
    rest.length < bytes.length := by
  induction bytes generalizing spec with
  | nil => simp [readSpec] at h
  | cons c more ih =>
    unfold readSpec at h
    split at h
    all_goals first
      | (have hl := ih h; simp; omega)
      | (have hl := readLength_length h; simp; omega)
      | (have hl := afterWidth_length h; simp; omega)
      | (have hl := readPrecision_length h; simp; omega)
      | skip
    split at h
    · have := afterWidth_length h
      have := dropWhile_length_le isDigitCode more
      simp
      omega
    · exact readLetter_length h

/-- The pieces of a format, up to its first zero byte: literal runs and the
conversions between them, ending at a conversion that names none. -/
def parseFormat (bytes : List UInt8) : List Piece :=
  go (bytes.takeWhile (· != 0))
where
  /-- The pieces from a point of the format on. -/
  go (bytes : List UInt8) : List Piece :=
    let run := bytes.takeWhile (· != 37)
    let lead := if run.isEmpty then [] else [Piece.literal run]
    match h : bytes.dropWhile (· != 37) with
    | [] => lead
    | [_] => lead ++ [Piece.literal [37]]
    | _ :: c :: more =>
      match hs : readSpec {} (c :: more) with
      | none => lead
      | some (spec, k, rest) =>
        have : rest.length < bytes.length := by
          have h1 := readSpec_length hs
          have h2 := dropWhile_length_le (fun b : UInt8 => b != 37) bytes
          rw [h] at h2
          simp at h1 h2
          omega
        lead ++ Piece.convert spec k :: go rest
  termination_by bytes.length

/-! ## Arguments -/

/-- The next argument as an integer, zero when none is left. -/
def takeInteger : List Value → Int × List Value
  | [] => (0, [])
  | v :: rest => (v.toInteger, rest)

/-- The next argument as a real, zero when none is left. -/
def takeReal : List Value → Float × List Value
  | [] => (0, [])
  | v :: rest => (v.toReal, rest)

/-- The next argument as a text up to its first zero byte, `none` for null or
when none is left. -/
def takeText : List Value → Option (List UInt8) × List Value
  | [] => (none, [])
  | v :: rest => (v.textBytes.map fun b => b.takeWhile (· != 0), rest)

/-- The low 32 bits of an integer, as a signed value. -/
def toInt32 (n : Int) : Int :=
  let m := n % 4294967296
  if m ≥ 2147483648 then m - 4294967296 else m

/-- The width and justification a specification asks for, and the arguments
left. A negative width from an argument left-justifies. -/
def resolveWidth (spec : Spec) (args : List Value) : (Bool × Nat) × List Value :=
  match spec.width with
  | .unset => ((spec.leftJustify, 0), args)
  | .given n => ((spec.leftJustify, n), args)
  | .argument =>
    let (n, args) := takeInteger args
    let w := toInt32 n
    if w < 0 then ((true, if w ≥ -2147483647 then (-w).toNat else 0), args)
    else ((spec.leftJustify, w.toNat), args)

/-- The precision a specification asks for, and the arguments left. A
negative precision from an argument counts as its magnitude. -/
def resolvePrecision (spec : Spec) (args : List Value) : Option Nat × List Value :=
  match spec.precision with
  | .unset => (none, args)
  | .given n => (some n, args)
  | .argument =>
    let (n, args) := takeInteger args
    let p := toInt32 n
    if p < 0 then (if p ≥ -2147483647 then some (-p).toNat else none, args)
    else (some p.toNat, args)

/-! ## Writing conversions -/

/-- A run of spaces. -/
def spaces (n : Nat) : List UInt8 := List.replicate n 32

/-- A field padded with spaces to a width, on the left or, left-justified, on
the right. -/
def padField (left : Bool) (width : Int) (body : List UInt8) : List UInt8 :=
  let n := width - body.length
  if n > 0 then (if left then body ++ spaces n.toNat else spaces n.toNat ++ body) else body

/-- The number of UTF-8 continuation bytes, by which a width in characters
exceeds the same width in bytes. -/
def continuationCount (bytes : List UInt8) : Nat :=
  (bytes.filter fun b => b &&& 0xC0 == 0x80).length

/-- The bytes of the first `n` characters: a byte from `0xC0` up takes the
continuation bytes after it along. -/
def takeCharacters : Nat → List UInt8 → List UInt8
  | 0, _ => []
  | _, [] => []
  | n + 1, b :: rest =>
    if b ≥ 0xC0 then
      let tail := rest.takeWhile fun x => x &&& 0xC0 == 0x80
      b :: tail ++ takeCharacters n (rest.drop tail.length)
    else b :: takeCharacters n rest

/-- Digits of a natural number in a base, most significant first, each the
character of its value in a string of digit characters. -/
def digitsIn (base : Nat) (charset : List Char) (n : Nat) : List UInt8 :=
  go n []
where
  /-- The digits of `n` before those already written. -/
  go (n : Nat) (acc : List UInt8) : List UInt8 :=
    let d := (charset.getD (n % base) '0').toNat.toUInt8
    if _h : n < base ∨ base < 2 then d :: acc else go (n / base) (d :: acc)
  termination_by n
  decreasing_by exact Nat.div_lt_self (by omega) (by omega)

/-- Digits grouped by threes from the right, with commas between the groups. -/
def groupThousands (ds : List UInt8) : List UInt8 :=
  let rec go : List UInt8 → List UInt8
    | a :: b :: c :: d :: rest => a :: b :: c :: 44 :: go (d :: rest)
    | rest => rest
  (go ds.reverse).reverse

/-- The English suffix of an ordinal: `st`, `nd` and `rd` after a last digit
of 1, 2 and 3 outside the teens, `th` otherwise. -/
def ordinalSuffix (n : Nat) : List UInt8 :=
  let x := n % 10
  if x ≥ 4 || (n / 10) % 10 == 1 || x == 0 then [116, 104]
  else if x == 1 then [115, 116]
  else if x == 2 then [110, 100]
  else [114, 100]

/-- An integer conversion of a value. Signed conversions write the magnitude
after a sign; unsigned ones write the 64-bit pattern. The digits are padded
with zeros to the precision, or with `0` to the whole width; the alternate
form marks a non-zero octal with `0` and hexadecimal with `0x`. -/
def integerField (spec : Spec) (k : Conversion) (width : Nat) (precision : Option Nat)
    (v : Int) : List UInt8 :=
  let signed := k == .signed || k == .ordinal
  let (magnitude, sign) : Nat × Option Char :=
    if signed then (if v < 0 then (v.natAbs, some '-') else (v.toNat, spec.plus))
    else ((v % 18446744073709551616).toNat, none)
  let upperDigits := "0123456789ABCDEF".toList
  let (base, charset, marker) : Nat × List Char × List Char :=
    match k with
    | .octal => (8, upperDigits, ['0'])
    | .hex false => (16, "0123456789abcdef".toList, ['0', 'x'])
    | .hex true => (16, upperDigits, ['0', 'X'])
    | .pointer => (16, upperDigits, ['0', 'x'])
    | _ => (10, upperDigits, [])
  let signWidth : Int := if sign.isSome then 1 else 0
  let precision : Int := match precision with
    | some p => p
    | none => -1
  let precision := if spec.zeroPad && precision < width - signWidth then width - signWidth else precision
  let body := digitsIn base charset magnitude ++ (if k == .ordinal then ordinalSuffix magnitude else [])
  let body := List.replicate (precision - body.length).toNat 48 ++ body
  let body := if spec.thousands && (k == .signed || k == .unsigned) then groupThousands body else body
  let body := (sign.map fun c => [c.toNat.toUInt8]).getD [] ++ body
  if spec.alternate && magnitude != 0 then marker.map (·.toNat.toUInt8) ++ body else body

/-- A real conversion of a value, through `renderReal`; with `0` and not
left-justified, zeros are put after the sign to fill the width. -/
def realField (spec : Spec) (style : RealStyle) (upper : Bool) (width : Nat)
    (precision : Option Nat) (x : Float) : List UInt8 :=
  let format : RealFormat :=
    { style := style, precision := precision.getD 6, alternate := spec.alternate,
      altered := spec.altered, plus := spec.plus, zeroPad := spec.zeroPad,
      thousands := spec.thousands, upper := upper }
  let body := (renderReal x format).toUTF8.toList
  if spec.zeroPad && !spec.leftJustify && !x.isNaN && body.length < width then
    let zeros := List.replicate (width - body.length) (48 : UInt8)
    match body with
    | c :: rest => if c == 45 || c == 43 || c == 32 then c :: zeros ++ rest else zeros ++ body
    | [] => zeros
  else body

/-- A text quoted for `q`, `Q` or `w`: the first bytes the precision allows
(characters with `!`), the quote doubled, and for `Q` quotes around; null is
`(NULL)`, or `NULL` for `Q`. -/
def quotedField (spec : Spec) (k : Conversion) (precision : Option Nat)
    (arg : Option (List UInt8)) : List UInt8 :=
  let q : UInt8 := if k == .identifier then 34 else 39
  let source := match arg with
    | some b => b
    | none => (if k == .literal then "NULL" else "(NULL)").toUTF8.toList
  let chosen := match precision with
    | none => source
    | some p =>
      if spec.altered then
        let rec pick : Nat → List UInt8 → List UInt8
          | 0, _ => []
          | _, [] => []
          | n + 1, b :: rest =>
            if b &&& 0xC0 == 0xC0 then
              let tail := rest.takeWhile fun x => x &&& 0xC0 == 0x80
              b :: tail ++ pick n (rest.drop tail.length)
            else b :: pick n rest
        pick p source
      else source.take p
  let body := chosen.flatMap fun b => if b == q then [b, b] else [b]
  if arg.isSome && k == .literal then q :: body ++ [q] else body

/-- One conversion written with the arguments it takes, and the arguments
left. -/
def renderConversion (spec : Spec) (k : Conversion) (args : List Value) :
    List UInt8 × List Value :=
  let ((left, width), args) := resolveWidth spec args
  let (precision, args) := resolvePrecision spec args
  let widen (body : List UInt8) : Int :=
    if spec.altered && width > 0 then width + continuationCount body else width
  match k with
  | .signed | .unsigned | .octal | .hex _ | .pointer | .ordinal =>
    let (v, args) := takeInteger args
    (padField left width (integerField spec k width precision v), args)
  | .real style upper =>
    let (x, args) := takeReal args
    (padField left width (realField { spec with leftJustify := left } style upper width precision x), args)
  | .text =>
    let (arg, args) := takeText args
    let source := arg.getD []
    let body := match precision with
      | none => source
      | some p => if spec.altered then takeCharacters p source else source.take p
    (padField left (widen body) body, args)
  | .quoted | .literal | .identifier =>
    let (arg, args) := takeText args
    let body := quotedField spec k precision arg
    (padField left (widen body) body, args)
  | .character =>
    let (arg, args) := takeText args
    let ch : List UInt8 := match arg.getD [] with
      | [] => [0]
      | c :: rest =>
        if c &&& 0xC0 == 0xC0 then c :: (rest.takeWhile fun x => x &&& 0xC0 == 0x80).take 3
        else [c]
    let widenChar (w : Int) : Int := if w > 0 then w + continuationCount ch else w
    match precision with
    | some p =>
      if p > 1 then
        let w : Int := (width : Int) - (p - 1)
        let (lead, w) := if w > 1 && !left then (spaces (w - 1).toNat, (0 : Int)) else ([], w)
        let copies := (List.replicate (p - 1) ch).flatten
        (lead ++ copies ++ padField left (widenChar w) ch, args)
      else (padField left (widenChar width) ch, args)
    | none => (padField left (widenChar width) ch, args)
  | .nothing => ([], args)
  | .percent => (padField left width [37], args)

/-- The pieces of a format written out with the arguments in order. -/
def renderPieces : List Piece → List Value → List UInt8
  | [], _ => []
  | .literal b :: rest, args => b ++ renderPieces rest args
  | .convert spec k :: rest, args =>
    let (out, args) := renderConversion spec k args
    out ++ renderPieces rest args

/-- `printf(FORMAT, ARGS...)`: null when the format is null, else the text the
format makes of the arguments. -/
def formatValues (format : Value) (args : List Value) : Value :=
  match format.textBytes with
  | none => .null
  | some f => .text (renderPieces (parseFormat f) args)

end Timeline.Sql
