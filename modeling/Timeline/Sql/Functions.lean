import Timeline.Sql.Format
import Timeline.Sql.Error
/-!
# Scalar functions

The functions a query may call on values, by name, with the argument counts
each takes (`functionArity?`) and what each computes (`applyFunction`). The
functions that choose among their arguments without computing the others
(`coalesce`, `ifnull`, `iif`, `if`, `likely`, `unlikely`, `likelihood`) are
evaluated where expressions are, and only counted here.

Texts are handled as the engine handles them, byte by byte: a character is a
lead byte with its continuation bytes (`textUnits`), most functions stop at
a zero byte, and letters change case in ASCII only.
-/

namespace Timeline.Sql

/-- The functions known, by lower-case name, and the argument counts each takes. -/
def functionArity? (name : String) : Option (Nat → Bool) :=
  match name.toLower with
  | "abs" | "length" | "octet_length" | "lower" | "upper" | "typeof" | "hex" | "quote"
  | "unicode" | "sign" | "zeroblob" | "soundex" | "likely" | "unlikely" => some (· == 1)
  | "ifnull" | "nullif" | "instr" | "glob" | "likelihood" => some (· == 2)
  | "replace" => some (· == 3)
  | "like" => some fun n => n == 2 || n == 3
  | "unhex" => some fun n => n == 1 || n == 2
  | "coalesce" | "iif" | "if" | "concat_ws" | "min" | "max" => some (· ≥ 2)
  | "concat" => some (· ≥ 1)
  | "substr" | "substring" => some fun n => n == 2 || n == 3
  | "trim" | "ltrim" | "rtrim" | "round" => some fun n => n == 1 || n == 2
  | "char" | "printf" | "format" => some fun _ => true
  | _ => none

/-- The lower-case ASCII form of a byte. -/
def lowerByte (b : UInt8) : UInt8 := if 65 ≤ b && b ≤ 90 then b + 32 else b

/-- The upper-case ASCII form of a byte. -/
def upperByte (b : UInt8) : UInt8 := if 97 ≤ b && b ≤ 122 then b - 32 else b

/-- An upper-case hex digit. -/
def hexUpper (n : Nat) : UInt8 := (if n < 10 then 48 + n else 55 + n).toUInt8

/-- Bytes in upper-case hex, two digits each. -/
def hexBytes (bs : List UInt8) : List UInt8 :=
  bs.flatMap fun b => [hexUpper (b.toNat / 16), hexUpper (b.toNat % 16)]

/-- The number of characters of a text up to its first zero byte. -/
def characterCount (bytes : List UInt8) : Nat := (textUnits bytes).length

/-- The part of a sequence that `substr` selects: from a 1-based start, counting
from the end when negative, and a length that counts backwards when negative. -/
def substrRange {α : Type} (xs : List α) (start : Int) (len : Option Int) : List α :=
  let size : Int := xs.length
  let (p2, negative) := match len with
    | some l => if l < 0 then (-l, true) else (l, false)
    | none => (size + 1, false)
  let (p1, p2) :=
    if start < 0 then
      let p1 := start + size
      if p1 < 0 then (0, max (p2 + p1) 0) else (p1, p2)
    else if start > 0 then (start - 1, p2)
    else (0, if p2 > 0 then p2 - 1 else p2)
  let (p1, p2) :=
    if negative then
      let p1' := p1 - p2
      if p1' < 0 then (0, max (p2 + p1') 0) else (p1', p2)
    else (p1, p2)
  (xs.drop p1.toNat).take p2.toNat

/-- Whether `needle` occurs in `hay` at its start. -/
def startsWithBytes : List UInt8 → List UInt8 → Bool
  | [], _ => true
  | _ :: _, [] => false
  | n :: ns, h :: hs => n == h && startsWithBytes ns hs

/-- Replaces every occurrence of a non-empty pattern. -/
def replaceBytes (pattern replacement : List UInt8) : List UInt8 → List UInt8
  | [] => []
  | b :: rest =>
    if !pattern.isEmpty && startsWithBytes pattern (b :: rest) then
      replacement ++ replaceBytes pattern replacement ((b :: rest).drop pattern.length)
    else b :: replaceBytes pattern replacement rest
termination_by bs => bs.length
decreasing_by
  · rename_i hc
    have hp : pattern ≠ [] := by
      intro e
      simp [e] at hc
    have := List.length_pos_iff.mpr hp
    rw [List.length_drop, List.length_cons]
    omega
  · rw [List.length_cons]
    omega

/-- The 1-based position of the first occurrence of a non-empty needle, 0 when
there is none. The search moves a byte at a time, and in a text also past the
continuation bytes after it, counting one position per move. -/
def instrPosition (isText : Bool) (needle : List UInt8) (n : Nat) : List UInt8 → Nat
  | [] => if needle.isEmpty then n else 0
  | b :: rest =>
    if needle.length > rest.length + 1 then 0
    else if startsWithBytes needle (b :: rest) then n
    else
      have := dropWhile_length_le (fun x : UInt8 => x &&& 0xC0 == 0x80) rest
      instrPosition isText needle (n + 1)
        (if isText then rest.dropWhile (fun x => x &&& 0xC0 == 0x80) else rest)
termination_by bs => bs.length
decreasing_by
  split <;> simp only [List.length_cons] <;> omega

/-- Strips, from the start, characters of the set that the bytes begin with. -/
def trimStart (set : List (List UInt8)) : List UInt8 → List UInt8
  | [] => []
  | b :: rest =>
    match h : set.find? fun u => !u.isEmpty && startsWithBytes u (b :: rest) with
    | some u =>
      have : u.length > 0 := by
        have := List.find?_some h
        simp at this
        exact List.length_pos_iff.mpr this.1
      have : ((b :: rest).drop u.length).length < (b :: rest).length := by
        simp
        omega
      trimStart set ((b :: rest).drop u.length)
    | none => b :: rest
termination_by bs => bs.length

/-- Strips, from the end, characters of the set that the bytes end with. -/
def trimEnd (set : List (List UInt8)) (bytes : List UInt8) : List UInt8 :=
  (trimStart (set.map List.reverse) bytes.reverse).reverse

/-- The code of a hex digit. -/
def hexDigitValue? (b : UInt8) : Option Nat :=
  if 48 ≤ b && b ≤ 57 then some (b.toNat - 48)
  else if 97 ≤ b && b ≤ 102 then some (b.toNat - 87)
  else if 65 ≤ b && b ≤ 70 then some (b.toNat - 55)
  else none

/-- The bytes of hex digit pairs; between pairs, characters whose code is in
`pass` are skipped. `none` when a digit lacks its pair or another character
stands between pairs. -/
def unhexBytes (pass : List Nat) : List UInt8 → Option (List UInt8)
  | [] => some []
  | c :: rest =>
    match hexDigitValue? c, rest with
    | some hi, d :: more =>
      (hexDigitValue? d).bind fun lo => (unhexBytes pass more).map ((hi * 16 + lo).toUInt8 :: ·)
    | some _, [] => none
    | none, rest =>
      -- any other character is skipped whole when its code may stand between pairs
      have : (readCode (c :: rest)).2.length < rest.length + 1 := readCode_length c rest
      if pass.contains (readCode (c :: rest)).1 then unhexBytes pass (readCode (c :: rest)).2
      else none
termination_by bs => bs.length
decreasing_by all_goals (simp only [List.length_cons]; omega)

/-- The UTF-8 bytes the engine writes for a code point, surrogates included;
codes out of range become `U+FFFD`. -/
def encodeCode (x : Int) : List UInt8 :=
  let c : Nat := if x < 0 || x > 0x10FFFF then 0xFFFD else x.toNat
  if c < 0x80 then [c.toUInt8]
  else if c < 0x800 then [(0xC0 + c / 64 % 32).toUInt8, (0x80 + c % 64).toUInt8]
  else if c < 0x10000 then
    [(0xE0 + c / 4096 % 16).toUInt8, (0x80 + c / 64 % 64).toUInt8, (0x80 + c % 64).toUInt8]
  else
    [(0xF0 + c / 262144 % 8).toUInt8, (0x80 + c / 4096 % 64).toUInt8,
      (0x80 + c / 64 % 64).toUInt8, (0x80 + c % 64).toUInt8]

/-- The soundex code of each ASCII letter, zero for vowels and others. -/
def soundexCode (b : UInt8) : Nat :=
  match (lowerByte (b &&& 0x7F)).toNat with
  | 98 | 102 | 112 | 118 => 1
  | 99 | 103 | 106 | 107 | 113 | 115 | 120 | 122 => 2
  | 100 | 116 => 3
  | 108 => 4
  | 109 | 110 => 5
  | 114 => 6
  | _ => 0

/-- Whether a byte is an ASCII letter. -/
def isAsciiLetter (b : UInt8) : Bool := (65 ≤ b && b ≤ 90) || (97 ≤ b && b ≤ 122)

/-- The soundex of a text: its first ASCII letter in upper case and the codes of
the letters from there on, a code repeated next to itself once, up to four
places filled with zeros; `?000` when there is no letter. -/
def soundex (bytes : List UInt8) : List UInt8 :=
  match bytes.takeWhile (· != 0) |>.dropWhile (!isAsciiLetter ·) with
  | [] => "?000".toUTF8.toList
  | first :: rest =>
    let step (acc : List Nat × Nat) (b : UInt8) : List Nat × Nat :=
      let (codes, prev) := acc
      let code := soundexCode b
      if code > 0 then (if code != prev then (codes ++ [code], code) else (codes, prev))
      else (codes, 0)
    let (codes, _) := rest.foldl step ([], soundexCode first)
    let codes := (codes.take 3 ++ [0, 0, 0]).take 3
    upperByte first :: codes.map fun c => (48 + c).toUInt8

/-- A real rounded to some decimal places, as `round` computes it. Past `2^52`
a real has no fraction and stays. To no places it moves half a unit away from
zero and drops the fraction. Otherwise it is written with that many places,
its digits rounded half up, and the text read back. -/
def roundReal (x : Float) (places : Nat) : Float :=
  if x < -4503599627370496.0 || x > 4503599627370496.0 then x
  else if places == 0 then Float.ofInt (Number.integerPart (if x < 0 then x - 0.5 else x + 0.5))
  else realPrefix (renderReal x { style := .fixed, precision := places, altered := true }).toUTF8.toList

/-- The decimal places a `round` asks for: the argument as an integer, kept
between 0 and 30. -/
def roundPlaces (v : Value) : Nat :=
  (min (max v.toInteger 0) 30).toNat

/-- A real as `quote` writes it: fifteen significant digits when they read back
as the same real, else twenty-one in exponent form. -/
def quoteReal (x : Float) : String :=
  let short := renderReal x { style := .general, precision := 15, altered := true, zeroPad := true }
  if realPrefix short.toUTF8.toList == x then short
  else renderReal x { style := .exponent, precision := 20, altered := true, zeroPad := true }

/-- The text of a value as a literal of the query language. -/
def quoteValue : Value → List UInt8
  | .null => "NULL".toUTF8.toList
  | .integer n => (integerText n).toUTF8.toList
  | .real x => (quoteReal x).toUTF8.toList
  | .text b => quotedField {} .literal none (some (b.takeWhile (· != 0)))
  | .blob b => [88, 39] ++ hexBytes b ++ [39]

/-- A truth value as an integer. -/
def ofBool (b : Bool) : Value := .integer (if b then 1 else 0)

/-- Whether a value is null. -/
def Value.isNull : Value → Bool
  | .null => true
  | _ => false

/-- The texts of the non-null arguments that have bytes, joined by a separator. -/
def joinTexts (sep : List UInt8) (vs : List Value) : List UInt8 :=
  let parts := vs.filterMap fun v => match v.textBytes with
    | some b => if b.isEmpty then none else some b
    | none => none
  sep.intercalate parts

/-- The value of a known function applied to its arguments. -/
def applyFunction (name : String) (coll : Collation) (args : List Value) : Except SqlError Value :=
  match name.toLower, args with
  | "abs", [v] =>
    match v with
    | .null => .ok .null
    | .integer n =>
      if n == int64Min then .error .integerOverflow else .ok (.integer n.natAbs)
    | v => let x := v.toReal; .ok (.real (if x < 0 then -x else x))
  | "sign", [v] =>
    let x? : Option Float := match v with
      | .integer n => some (Float.ofInt n)
      | .real x => some x
      | .text b => (readNumber? b).map (·.toReal)
      | _ => none
    .ok <| match x? with
      | some x => .integer (if x < 0 then -1 else if x > 0 then 1 else 0)
      | none => .null
  | "length", [v] =>
    .ok <| match v with
      | .null => .null
      | .blob b => .integer b.length
      | v => .integer (characterCount (v.textBytes.getD []))
  | "octet_length", [v] =>
    .ok <| match v.textBytes with
      | some b => .integer b.length
      | none => .null
  | "lower", [v] => .ok ((v.textBytes.map fun b => Value.text (b.map lowerByte)).getD .null)
  | "upper", [v] => .ok ((v.textBytes.map fun b => Value.text (b.map upperByte)).getD .null)
  | "typeof", [v] => .ok (.ofString v.typeName)
  | "hex", [v] => .ok (.text (hexBytes (v.textBytes.getD [])))
  | "unhex", x :: rest =>
    match x.textBytes, rest.head?.map (·.textBytes) with
    | none, _ | _, some none => .ok .null
    | some hex, pass =>
      let codes := textCodes ((pass.bind id).getD [])
      .ok ((unhexBytes codes (hex.takeWhile (· != 0))).map Value.blob |>.getD .null)
  | "zeroblob", [v] => .ok (.blob (List.replicate (max v.toInteger 0).toNat 0))
  | "nullif", [a, b] => .ok (if a.compareWith coll b == .eq then .null else a)
  | "min", vs =>
    .ok (if vs.any Value.isNull then .null
      else vs.foldl (fun acc v => if acc.compareWith coll v != .lt then v else acc) (vs.headD .null))
  | "max", vs =>
    .ok (if vs.any Value.isNull then .null
      else vs.foldl (fun acc v => if acc.compareWith coll v == .lt then v else acc) (vs.headD .null))
  | "substr", x :: rest | "substring", x :: rest =>
    match x, rest with
    | .null, _ => .ok .null
    | _, [.null] | _, [.null, _] | _, [_, .null] => .ok .null
    | _, start :: len =>
      let s := start.toInteger
      let l := len.head?.map Value.toInteger
      match x with
      | .blob b => .ok (.blob (substrRange b s l))
      | v => .ok (.text (substrRange (textUnits (v.textBytes.getD [])) s l).flatten)
    | _, [] => .ok .null
  | "trim", v :: rest | "ltrim", v :: rest | "rtrim", v :: rest =>
    match v, rest with
    | .null, _ | _, [.null] => .ok .null
    | _, _ =>
      let set := match rest with
        | [s] => textUnits (s.textBytes.getD [])
        | _ => [[32]]
      let lower := name.toLower
      let bytes := v.textBytes.getD []
      let bytes := if lower != "rtrim" then trimStart set bytes else bytes
      let bytes := if lower != "ltrim" then trimEnd set bytes else bytes
      .ok (.text bytes)
  | "replace", [x, y, z] =>
    match x.textBytes, y.textBytes with
    | some a, some b =>
      if b.head? == some 0 || b.isEmpty then .ok (.text a)
      else match z.textBytes with
        | some c => .ok (.text (replaceBytes b c a))
        | none => .ok .null
    | _, _ => .ok .null
  | "instr", [x, y] =>
    match x, y with
    | .null, _ | _, .null => .ok .null
    | .blob a, .blob b => .ok (.integer (if b.isEmpty then 1 else instrPosition false b 1 a))
    | _, _ =>
      let a := x.textBytes.getD []
      let b := y.textBytes.getD []
      .ok (.integer (if b.isEmpty then 1 else instrPosition true b 1 a))
  | "quote", [v] => .ok (.text (quoteValue v))
  | "unicode", [v] =>
    .ok <| match v.textBytes with
      | some (b :: rest) => if b == 0 then .null else .integer (readCode (b :: rest)).1
      | _ => .null
  | "round", x :: rest =>
    match x, rest with
    | .null, _ | _, [.null] => .ok .null
    | _, _ => .ok (.real (roundReal x.toReal ((rest.head?.map roundPlaces).getD 0)))
  | "char", vs => .ok (.text (vs.flatMap fun v => encodeCode v.toInteger))
  | "printf", f :: vs | "format", f :: vs => .ok (formatValues f vs)
  | "printf", [] | "format", [] => .ok .null
  | "concat", vs => .ok (.text (joinTexts [] vs))
  | "concat_ws", sep :: vs =>
    .ok <| match sep.textBytes with
      | some s => .text (joinTexts s vs)
      | none => .null
  | "soundex", [v] => .ok (.text (soundex (v.textBytes.getD [])))
  | "like", p :: t :: esc =>
    if ((p.textBytes.map List.length).getD 0) > 50000 then
      .error (.unsupported "LIKE or GLOB pattern too complex")
    else
      let escape : Except SqlError (Option Nat) :=
        match esc with
        | [] => .ok (some 0)
        | e :: _ =>
          match e.textBytes with
          | none => .ok none
          | some eb =>
            match textUnits eb with
            | [u] => .ok (some (readCode u).1)
            | _ => .error (.unsupported "ESCAPE expression must be a single character")
      match escape, p.textBytes, t.textBytes with
      | .error e, _, _ => .error e
      | .ok (some code), some pat, some text =>
        .ok (ofBool (matchPattern (likeRules.escaping code) code pat text))
      | .ok _, _, _ => .ok .null
  | "glob", [p, t] =>
    match p.textBytes, t.textBytes with
    | some pat, some text =>
      if pat.length > 50000 then .error (.unsupported "LIKE or GLOB pattern too complex")
      else .ok (ofBool (matchPattern globRules 91 pat text))
    | _, _ => .ok .null
  | _, _ => .error (.noSuchFunction name 0)

end Timeline.Sql
