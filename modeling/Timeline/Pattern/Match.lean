import Timeline.Pattern.Basic
/-!
# Matching line patterns

A pattern is matched by backtracking in priority order: of two alternatives the
first, of repetitions the longest first. The first match found is the match of
the pattern, as in leftmost-first regular-expression engines; a search tries
the start positions from the left. A repetition never takes an empty
iteration beyond its minimum, so every search ends.

`Pattern.run` is written in continuation style: the continuation receives the
position after the pattern and the groups recorded so far, and the first
`some` answer stops the search.
-/

namespace Timeline

/-- The groups recorded by a match: their names and spans. -/
abbrev Groups := List (String × Nat × Nat)

/-- A match: where it ends and the groups it recorded. -/
abbrev MatchEnd := Nat × Groups

/-- What is tried after a piece of a pattern: the position and the groups reached. -/
abbrev Continuation := Nat → Groups → Option MatchEnd

/-- Greedy repetition of a step: one more step first, stopping only once `lo`
steps are done, and never an empty step beyond `lo`. The fuel bounds the
number of steps. -/
def repeatSteps (step : Nat → Groups → Continuation → Option MatchEnd) :
    Nat → Nat → Option Nat → Nat → Groups → Continuation → Option MatchEnd
  | 0, _, _, _, _, _ => none
  | fuel + 1, lo, hi, pos, groups, k =>
    let more :=
      if hi == some 0 then none
      else step pos groups fun pos' groups' =>
        if pos' == pos && lo == 0 then none
        else repeatSteps step fuel (lo - 1) (hi.map (· - 1)) pos' groups' k
    match more with
    | some m => some m
    | none => if lo == 0 then k pos groups else none

namespace Pattern

/-- Runs a pattern on `input` from `pos`, handing every way it matches, in
priority order, to the continuation until one is accepted. -/
def run (input : Array Char) : Pattern → Nat → Groups → Continuation → Option MatchEnd
  | .empty, pos, groups, k => k pos groups
  | .char c, pos, groups, k =>
    if input[pos]? == some c then k (pos + 1) groups else none
  | .cls cl, pos, groups, k =>
    match input[pos]? with
    | some c => if cl.accepts c then k (pos + 1) groups else none
    | none => none
  | .start, pos, groups, k => if pos == 0 then k pos groups else none
  | .finish, pos, groups, k => if pos == input.size then k pos groups else none
  | .seq p q, pos, groups, k =>
    run input p pos groups fun pos' groups' => run input q pos' groups' k
  | .alt p q, pos, groups, k =>
    match run input p pos groups k with
    | some m => some m
    | none => run input q pos groups k
  | .rep p lo hi, pos, groups, k =>
    repeatSteps (fun pos groups k => run input p pos groups k) (input.size + lo + 1) lo hi
      pos groups k
  | .group name p, pos, groups, k =>
    run input p pos groups fun pos' groups' => k pos' ((name, pos, pos') :: groups')

/-- The first match that starts at `pos`. -/
def matchFrom (p : Pattern) (input : Array Char) (pos : Nat) : Option MatchEnd :=
  p.run input pos [] fun pos' groups => some (pos', groups)

/-- The leftmost match in a text: its start, its end and its groups. -/
def search (p : Pattern) (s : String) : Option (Nat × MatchEnd) :=
  let input := s.toList.toArray
  (List.range (input.size + 1)).findSome? fun start =>
    (p.matchFrom input start).map fun m => (start, m)

/-- Whether a pattern matches somewhere in a text. -/
def isMatch (p : Pattern) (s : String) : Bool :=
  (p.search s).isSome

/-- The text of a named group in the leftmost match. -/
def groupText? (p : Pattern) (s : String) (name : String) : Option (Option String) :=
  (p.search s).map fun (_, _, groups) =>
    (groups.find? (·.1 == name)).map fun (_, b, e) => String.ofList ((s.toList.drop b).take (e - b))

end Pattern

end Timeline
