/-!
# Decoding UTF-8

Bytes are decoded as UTF-8 one character at a time. A byte that cannot start a
character, or a sequence that breaks off or leaves the ranges of RFC 3629
(overlong forms, surrogates, code points past `U+10FFFF`), is replaced by one
`U+FFFD` for its longest prefix that could still have begun a character, and
decoding goes on at the first byte that did not fit. So every decoding consumes
at least one byte, and valid UTF-8 decodes to its characters unchanged.
-/

namespace Timeline.Text

/-- The replacement character. -/
def replacementChar : Char := '�'

/-- Whether a byte lies in a closed range. -/
def inByteRange (lo hi : UInt8) (b : UInt8) : Bool := lo ≤ b && b ≤ hi

/-- The range that the second byte of a sequence must lie in, by its first byte,
and the number of continuation bytes after the first. -/
def sequenceShape (b : UInt8) : Option (UInt8 × UInt8 × Nat) :=
  if inByteRange 0xC2 0xDF b then some (0x80, 0xBF, 1)
  else if b == 0xE0 then some (0xA0, 0xBF, 2)
  else if inByteRange 0xE1 0xEC b || inByteRange 0xEE 0xEF b then some (0x80, 0xBF, 2)
  else if b == 0xED then some (0x80, 0x9F, 2)
  else if b == 0xF0 then some (0x90, 0xBF, 3)
  else if inByteRange 0xF1 0xF3 b then some (0x80, 0xBF, 3)
  else if b == 0xF4 then some (0x80, 0x8F, 3)
  else none

/-- The code point of a sequence, from its first byte and its continuation bytes. -/
def sequenceValue (b : UInt8) (rest : List UInt8) : Nat :=
  let lead := b.toNat % (if rest.length == 1 then 0x20 else if rest.length == 2 then 0x10 else 0x08)
  rest.foldl (fun acc c => acc * 64 + c.toNat % 64) lead

/-- One decoded character, or `none` for an invalid prefix, and the bytes that
were consumed (at least one). -/
def decodeOne : List UInt8 → Option Char × Nat
  | [] => (none, 0)
  | b :: rest =>
    if b < 0x80 then (some (Char.ofNat b.toNat), 1)
    else
      match sequenceShape b with
      | none => (none, 1)
      | some (lo, hi, n) =>
        match rest with
        | [] => (none, 1)
        | c :: more =>
          if !inByteRange lo hi c then (none, 1)
          else
            let tail := more.take (n - 1)
            let good := (tail.takeWhile (inByteRange 0x80 0xBF)).length
            if good < n - 1 then (none, 2 + good)
            else (some (Char.ofNat (sequenceValue b (c :: tail))), n + 1)

/-- The characters of some bytes, invalid prefixes replaced, and whether there were none. -/
def decodeUtf8 (bytes : List UInt8) : List Char × Bool :=
  match _h : bytes with
  | [] => ([], true)
  | b :: rest =>
    let (c, n) := decodeOne (b :: rest)
    let (cs, valid) := decodeUtf8 (bytes.drop (max n 1))
    match c with
    | some ch => (ch :: cs, valid)
    | none => (replacementChar :: cs, false)
termination_by bytes.length
decreasing_by
  rw [List.length_drop, _h, List.length_cons]
  omega

/-- The text of some bytes, with invalid prefixes replaced. -/
def decodeLossy (bytes : List UInt8) : String :=
  String.ofList (decodeUtf8 bytes).1

/-- Whether some bytes are valid UTF-8. -/
def isValidUtf8 (bytes : List UInt8) : Bool :=
  (decodeUtf8 bytes).2

end Timeline.Text
