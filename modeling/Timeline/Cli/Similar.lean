/-!
# Similar words

When a word on the command line names nothing, the program suggests the names
that look like it. Likeness is the Jaro similarity of the two words, a number
from 0 to 1: characters of the one match equal characters of the other that
stand at most about half the longer length away, and the score averages the
share of matched characters in each word with the share of matches that come
in the same order. Names scoring above 0.7 are suggested, the most alike last.

The score is computed in floating point, in the same order of operations as
its definition, so that names on the border of the threshold are judged the
same way every time.
-/

namespace Timeline

/-- Matches the characters of `a` against those of `b`: each character of `a`
takes the first unmatched equal character of `b` within `window` places of it.
Gives the matched flags of both words. -/
def jaroMarks (a b : Array Char) (window : Nat) : Array Bool × Array Bool :=
  (List.range a.size).foldl (fun (marks : Array Bool × Array Bool) i =>
    let lo := i - window
    let hi := min b.size (i + window + 1)
    match (List.range' lo (hi - lo)).find? (fun j => b[j]? == a[i]? && marks.2[j]? == some false) with
    | some j => (marks.1.set! i true, marks.2.set! j true)
    | none => marks) (Array.replicate a.size false, Array.replicate b.size false)

/-- The characters of a word that were matched, in order. -/
def matchedChars (word : Array Char) (marks : Array Bool) : List Char :=
  (word.toList.zip marks.toList).filterMap fun (c, m) => if m then some c else none

/-- The Jaro similarity of two words. -/
def jaro (a b : String) : Float :=
  let a := a.toList.toArray
  let b := b.toList.toArray
  if a.size == 0 && b.size == 0 then 1.0
  else if a.size == 0 || b.size == 0 then 0.0
  else
    let window := max a.size b.size / 2 - 1
    let (ma, mb) := jaroMarks a b window
    let fromA := matchedChars a ma
    let fromB := matchedChars b mb
    let hits := fromA.length
    let transpositions := ((fromA.zip fromB).filter fun (x, y) => x != y).length / 2
    if hits == 0 then 0.0
    else
      (hits.toFloat / a.size.toFloat + hits.toFloat / b.size.toFloat +
        (hits - transpositions).toFloat / hits.toFloat) / 3.0

/-- The names that look like a word, least alike first; names equally alike keep their order. -/
def similarNames (word : String) (names : List String) : List String :=
  let scored := (names.map fun n => (jaro word n, n)).filter fun (s, _) => s > 0.7
  (scored.mergeSort fun x y => x.1 ≤ y.1).map (·.2)

end Timeline
