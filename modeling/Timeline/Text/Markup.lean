import Timeline.Text.Trim
/-!
# Visible text of markup

The visible text of an HTML fragment: the fragment is cut at its tags (a `<`
and the first `>` after it), each piece between tags is trimmed and its runs of
white space become one space, empty pieces are dropped, the character entities
`&nbsp;`, `&lt;`, `&gt;`, `&quot;`, `&#39;` and `&amp;` are decoded, and every
piece is followed by one space.
-/

namespace Timeline.Text

/-- Replaces every occurrence of a non-empty text, from left to right. -/
def replaceAll (pattern replacement : List Char) (cs : List Char) : List Char :=
  match _h : cs with
  | [] => []
  | c :: rest =>
    if _hp : pattern ≠ [] ∧ pattern.isPrefixOf cs then
      replacement ++ replaceAll pattern replacement (cs.drop pattern.length)
    else c :: replaceAll pattern replacement rest
termination_by cs.length
decreasing_by
  · have : pattern.length ≠ 0 := by simpa using _hp.1
    simp [_h]; omega
  · simp

/-- Decodes the six character entities, `&amp;` last so that what it gives is not decoded again. -/
def decodeEntities (cs : List Char) : List Char :=
  [("&nbsp;", " "), ("&lt;", "<"), ("&gt;", ">"), ("&quot;", "\""), ("&#39;", "'"), ("&amp;", "&")].foldl
    (fun acc (p, r) => replaceAll p.toList r.toList acc) cs

/-- Cuts a text at its tags: a `<` and the first `>` after it. `piece` holds the
characters of the current piece, last first. -/
def splitTagsFrom (piece : List Char) : List Char → List (List Char)
  | [] => [piece.reverse]
  | c :: rest =>
    if c == '<' && rest.contains '>' then
      piece.reverse :: splitTagsFrom [] ((rest.dropWhile (· != '>')).drop 1)
    else splitTagsFrom (c :: piece) rest
termination_by cs => cs.length
decreasing_by
  · have h := (@List.dropWhile_suffix _ rest (· != '>')).length_le
    simp only [List.length_cons, List.length_drop]
    omega
  · simp

/-- The pieces of a text between its tags. -/
def splitTags (cs : List Char) : List (List Char) :=
  splitTagsFrom [] cs

/-- Replaces each run of white space by one space. -/
def collapseWhiteSpace : List Char → List Char
  | [] => []
  | c :: rest =>
    if Unicode.isWhiteSpace c then ' ' :: collapseWhiteSpace (rest.dropWhile Unicode.isWhiteSpace)
    else c :: collapseWhiteSpace rest
termination_by cs => cs.length
decreasing_by
  · have h := (@List.dropWhile_suffix _ rest Unicode.isWhiteSpace).length_le
    simp only [List.length_cons]
    omega
  · simp

/-- The visible text of an HTML fragment, each piece followed by a space. -/
def visibleText (html : String) : String :=
  String.ofList <| (splitTags html.toList).flatMap fun piece =>
    let run := collapseWhiteSpace (trim (String.ofList piece)).toList
    if run.isEmpty then [] else decodeEntities run ++ [' ']

end Timeline.Text
