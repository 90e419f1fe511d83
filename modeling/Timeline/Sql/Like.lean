import Timeline.Sql.Value
/-!
# Characters of texts, and `LIKE` and `GLOB` patterns

The engine steps over a text one character at a time without checking its
encoding: a byte from `0xC0` up starts a character that takes every
continuation byte (`10xxxxxx`) after it, and any other byte is a character
alone. Reading stops at the first zero byte. `textUnits` cuts a text so.

Where a character's code point matters, it is read as `readCode` does: the
payload bits of the lead byte and of each continuation byte, with a value
below `0x80`, a surrogate or a non-character `U+FFFE`/`U+FFFF` read as
`U+FFFD`.

`matchPattern` decides `LIKE` and `GLOB`:

* `%` (`*` for `GLOB`) matches any run of characters and `_` (`?`) any one;
* `LIKE` folds ASCII letters and may name an escape character, after which
  the next pattern character is taken literally;
* `GLOB` is exact and has sets: `[abc]`, ranges `[a-z]`, `[^...]` for the
  complement, and `]` first in a set standing for itself.

A failed search after a `%` stops the whole match at once: no other way of
splitting the text before it can succeed either (`Outcome.exhausted`).
-/

namespace Timeline.Sql

/-- Dropping a prefix shortens a list or keeps its length. -/
theorem dropWhile_length_le {α : Type} (p : α → Bool) (l : List α) :
    (l.dropWhile p).length ≤ l.length :=
  (List.dropWhile_sublist p).length_le

/-- The characters of a text as the engine steps over it, up to its first zero
byte. -/
def textUnits (bytes : List UInt8) : List (List UInt8) :=
  go (bytes.takeWhile (· != 0))
where
  /-- The characters of bytes with no zero among them. -/
  go : List UInt8 → List (List UInt8)
    | [] => []
    | b :: rest =>
      if b ≥ 0xC0 then
        let tail := rest.takeWhile fun x => x &&& 0xC0 == 0x80
        have : (rest.dropWhile fun x => x &&& 0xC0 == 0x80).length < rest.length + 1 := by
          have := dropWhile_length_le (fun x : UInt8 => x &&& 0xC0 == 0x80) rest
          omega
        (b :: tail) :: go (rest.dropWhile fun x => x &&& 0xC0 == 0x80)
      else [b] :: go rest
  termination_by l => l.length

/-- The payload bits of a lead byte from `0xC0` up. -/
def leadBits (b : UInt8) : Nat :=
  let n := b.toNat
  if n < 0xE0 then n - 0xC0
  else if n < 0xF0 then n - 0xE0
  else if n < 0xF8 then n - 0xF0
  else if n < 0xFC then n - 0xF8
  else if n < 0xFE then n - 0xFC
  else 0

/-- The code point at the start of bytes, and the bytes after its character;
zero at the end. -/
def readCode : List UInt8 → Nat × List UInt8
  | [] => (0, [])
  | b :: rest =>
    if b < 0xC0 then (b.toNat, rest)
    else
      let tail := rest.takeWhile fun x => x &&& 0xC0 == 0x80
      let c := tail.foldl (fun c t => (c * 64 + (t.toNat &&& 0x3F)) % 4294967296) (leadBits b)
      let c := if c < 0x80 || c &&& 0xFFFFF800 == 0xD800 || c &&& 0xFFFFFFFE == 0xFFFE then 0xFFFD else c
      (c, rest.drop tail.length)

/-- `readCode` leaves fewer bytes than it was given, when there were any. -/
theorem readCode_length (b : UInt8) (rest : List UInt8) :
    (readCode (b :: rest)).2.length < rest.length + 1 := by
  simp only [readCode]
  split
  · simp
  · simp only [List.length_drop]
    omega

/-- The code points of a text, up to its first zero byte. -/
def textCodes (bytes : List UInt8) : List Nat :=
  (textUnits bytes).map fun u => (readCode u).1

/-- The lower-case ASCII form of a code point. -/
def lowerCode (c : Nat) : Nat := if 65 ≤ c && c ≤ 90 then c + 32 else c

/-- The upper-case ASCII form of a code point. -/
def upperCode (c : Nat) : Nat := if 97 ≤ c && c ≤ 122 then c - 32 else c

/-- The wildcards and rules of a kind of pattern. A wildcard of code zero is
switched off, as when it is the escape character. -/
structure PatternRules where
  /-- The wildcard for any run: `%` or `*`. -/
  matchAll : Nat
  /-- The wildcard for one character: `_` or `?`. -/
  matchOne : Nat
  /-- Whether `[` opens a set. -/
  sets : Bool
  /-- Whether ASCII letters match without regard to case. -/
  noCase : Bool

/-- The rules of `LIKE`. -/
def likeRules : PatternRules := ⟨37, 95, false, true⟩

/-- The rules of `GLOB`. -/
def globRules : PatternRules := ⟨42, 63, true, false⟩

/-- The outcome of matching a pattern against a text. -/
inductive Outcome where
  | matched
  | failed
  /-- Failed, and no other split of the text before can succeed. -/
  | exhausted
  deriving DecidableEq, Repr

/-- Whether a code is in a set of `GLOB` (the bytes after `[`, and after a `^`
already read), with the bytes after the closing `]`; `none` when the set is
not closed. `prior` is the last character seen, the low end of a range. -/
def inSet (c : Nat) (prior : Nat) (seen : Bool) : List UInt8 → Option (Bool × List UInt8)
  | [] => none
  | b :: rest =>
    match hm : readCode (b :: rest) with
    | (c2, after) =>
      have h1 : after.length < rest.length + 1 := by
        have := readCode_length b rest
        rw [hm] at this
        exact this
      if c2 == 93 then some (seen, after)
      else if c2 == 45 && prior > 0 && !(after.isEmpty || after.head? == some 93) then
        match after, h1 with
        | [], _ => none
        | x :: more, h1 =>
          match hm2 : readCode (x :: more) with
          | (hi, after2) =>
            have : after2.length < rest.length + 1 := by
              have := readCode_length x more
              rw [hm2] at this
              simp only [List.length_cons] at this h1
              omega
            inSet c 0 (seen || (prior ≤ c && c ≤ hi)) after2
      else inSet c c2 (seen || c == c2) after
  termination_by l => l.length
  decreasing_by all_goals (simp only [List.length_cons]; omega)

/-- After a wildcard for any run: skips further such wildcards and those for
one character, each of these taking a character of the text. Gives the next
pattern code (zero at the end) with the pattern and text after it, or `none`
when the text runs out. -/
def skipWildcards (rules : PatternRules) : Nat → List UInt8 → List UInt8 →
    Option (Nat × List UInt8 × List UInt8)
  | 0, p, t => some (0, p, t)
  | n + 1, p, t =>
    let (c, p') := readCode p
    if c == rules.matchAll then skipWildcards rules n p' t
    else if c == rules.matchOne && rules.matchOne != 0 then
      let (d, t') := readCode t
      if d == 0 then none else skipWildcards rules n p' t'
    else some (c, p', t)

/-- Tries a continuation after every byte of the text that is one of the
stops, until one does not fail. -/
def scanBytes (stops : List Nat) (k : List UInt8 → Outcome) : List UInt8 → Outcome
  | [] => .exhausted
  | t :: ts =>
    if stops.contains t.toNat then
      match k ts with
      | .failed => scanBytes stops k ts
      | r => r
    else scanBytes stops k ts

/-- Tries a continuation after every character of the text whose code is `c`,
until one does not fail. -/
def scanCodes (c : Nat) (k : List UInt8 → Outcome) : List UInt8 → Outcome
  | [] => .exhausted
  | t :: ts =>
    match hm : readCode (t :: ts) with
    | (c2, rest) =>
      have : rest.length < ts.length + 1 := by
        have := readCode_length t ts
        rw [hm] at this
        exact this
      if c2 != c then scanCodes c k rest
      else
        match k rest with
        | .failed => scanCodes c k rest
        | r => r
  termination_by l => l.length
  decreasing_by all_goals (simp only [List.length_cons]; omega)

/-- Tries a continuation at every character start of the text, until one does
not fail. -/
def tryEachStart (k : List UInt8 → Outcome) : List UInt8 → Outcome
  | [] => .exhausted
  | t :: ts =>
    match k (t :: ts) with
    | .failed =>
      have := readCode_length t ts
      tryEachStart k (readCode (t :: ts)).2
    | r => r
  termination_by l => l.length

/-- Matches a pattern against a text, both without zero bytes; `escape` is the
code of the escape character for `LIKE`, or of `[` for `GLOB`, zero for none.
The fuel bounds the depth of the search: each step takes a character of the
pattern, so its length in bytes is enough. -/
def matchFrom (rules : PatternRules) (escape : Nat) :
    Nat → List UInt8 → List UInt8 → Outcome
  | 0, _, _ => .failed
  | fuel + 1, pattern, text =>
    let (c, prest) := readCode pattern
    if c == 0 then (if text.isEmpty then .matched else .failed)
    else if c == rules.matchAll then
      match skipWildcards rules (prest.length + 1) prest text with
      | none => .exhausted
      | some (c, prest, text) =>
        if c == 0 then .matched
        else if c == escape && rules.sets then
          -- a set right after the wildcard: try it at every start
          tryEachStart (fun t => matchFrom rules escape fuel (91 :: prest) t) text
        else
          -- the character the search looks for, after an escape maybe
          let next : Option (Nat × List UInt8) :=
            if c == escape then
              let (e, p') := readCode prest
              if e == 0 then none else some (e, p')
            else some (c, prest)
          match next with
          | none => .exhausted
          | some (c, prest) =>
            let k := fun t => matchFrom rules escape fuel prest t
            if c < 0x80 then
              scanBytes (if rules.noCase then [upperCode c, lowerCode c] else [c]) k text
            else scanCodes c k text
    else if c == escape && rules.sets then
      let (d, trest) := readCode text
      if d == 0 then .failed
      else
        let (invert, p) := match readCode prest with
          | (94, p') => (true, p')
          | _ => (false, prest)
        let (seen, p) := match readCode p with
          | (93, p') => (d == 93, p')
          | _ => (false, p)
        match inSet d 0 seen p with
        | none => .failed
        | some (seen, p) =>
          if seen != invert then matchFrom rules escape fuel p trest else .failed
    else
      let (c, prest, escaped) :=
        if c == escape then
          let (e, p') := readCode prest
          (e, p', true)
        else (c, prest, false)
      if c == 0 then .failed
      else
        let (c2, trest) := readCode text
        if c == c2 then matchFrom rules escape fuel prest trest
        else if rules.noCase && lowerCode c == lowerCode c2 && c < 0x80 && c2 < 0x80 then
          matchFrom rules escape fuel prest trest
        else if c == rules.matchOne && !escaped && c2 != 0 then
          matchFrom rules escape fuel prest trest
        else .failed

/-- Whether a text matches a pattern under the rules, with an escape code
(zero for none). -/
def matchPattern (rules : PatternRules) (escape : Nat) (pattern text : List UInt8) : Bool :=
  let pattern := pattern.takeWhile (· != 0)
  matchFrom rules escape (pattern.length + 1) pattern (text.takeWhile (· != 0)) == .matched

/-- The rules of `LIKE` with an escape character: a wildcard that is the
escape character stops being one. -/
def PatternRules.escaping (rules : PatternRules) (escape : Nat) : PatternRules :=
  { rules with
    matchAll := if escape == rules.matchAll then 0 else rules.matchAll
    matchOne := if escape == rules.matchOne then 0 else rules.matchOne }

end Timeline.Sql
