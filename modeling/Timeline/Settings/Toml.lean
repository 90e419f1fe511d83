import Timeline.Settings.Toml.Scalars
import Timeline.Settings.Toml.Tree
/-!
# Configuration files

Configuration files are written in TOML. A document is read line by line:
blank lines, comments, table headers, and key and value lines. A value is a
string, an integer, a float, a truth value, a date or time, an array or an
inline table; arrays and inline tables may nest to a depth of 79.

The reader stops at the first thing that is not TOML and reports where it is
and what was expected there (see `Timeline.Settings.Toml.Failure`). Where a
value starts, its first character decides how it is read: a quote for a
string, `[` for an array, `{` for an inline table, a sign or digit for a date,
a float or an integer (tried in that order), `t` and `f` for truth values,
`i` and `n` for `inf` and `nan`; anything else is reported as a string that
lacks its quote.

The settings are the pairs of the top table; a date is a table with its text.
-/

namespace Timeline.Settings.Toml

/-- The notes of a value that would have been a string. -/
def stringNotes : List Note :=
  [.reading "string", .expected (.char '"'), .expected (.char '\'')]

/-- A date or time as a setting: a table holding its text. -/
def dateValue (text : String) : Value :=
  .table [("$__toml_private_datetime", .string text)]

/-- The deepest nesting of arrays and inline tables, plus one. -/
def nestingLimit : Nat := 80

/-- A word value (`true`, `false`, `inf`, `nan`) at an offset. -/
def wordValue (bs : ByteArray) (i : Nat) (w : String) (v : Node) (fatal : Bool) : Outcome Node :=
  let r : Outcome Node :=
    if wordAt bs i w then .ok (v, i + w.length) else .error { offset := i, fatal := fatal }
  r.notes stringNotes

/-- A value that starts with a sign or a digit. -/
def numeric (bs : ByteArray) (i : Nat) : Outcome Node :=
  ((dateTime bs i).mapValue fun () => .leaf (dateValue "") "datetime").orElse fun _ =>
    ((float bs i).mapValue fun x => .leaf (.float x) "float").orElse fun _ =>
      (integer bs i).mapValue fun n => .leaf (.integer n) "integer"

mutual

/-- A value. `fuel` bounds the steps of the reading; `depth` counts the
arrays and inline tables around it. -/
def value (bs : ByteArray) : Nat → Nat → Nat → Outcome Node
  | 0, _, i => failAt i
  | fuel + 1, depth, i =>
    match byteAt bs i with
    | none => failAt i
    | some b =>
      let c := Char.ofNat b.toNat
      if c == '"' || c == '\'' then (string bs i).mapValue fun s => .leaf (.string s) "string"
      else if c == '[' || c == '{' then
        if depth + 1 ≥ nestingLimit then fatalAt i [] (some "recursion limit exceeded")
        else if c == '[' then array bs fuel (depth + 1) i
        else inline bs fuel (depth + 1) i
      else if c == '+' || c == '-' || c.isDigit then numeric bs i
      else if c == '_' then
        ((integer bs i).mapValue fun n => .leaf (.integer n) "integer").note
          (.expected (.description "leading digit"))
      else if c == '.' then
        ((float bs i).mapValue fun x => .leaf (.float x) "float").note
          (.expected (.description "leading digit"))
      else if c == 't' then wordValue bs i "true" (.leaf (.boolean true) "boolean") true
      else if c == 'f' then wordValue bs i "false" (.leaf (.boolean false) "boolean") true
      else if c == 'i' then wordValue bs i "inf" (.leaf (.float infinity) "float") false
      else if c == 'n' then wordValue bs i "nan" (.leaf (.float (0 / 0)) "float") false
      else Outcome.notes stringNotes (failAt i)

/-- An item of an array with the gaps around it. -/
def arrayItem (bs : ByteArray) : Nat → Nat → Nat → Outcome Node
  | 0, _, i => failAt i
  | fuel + 1, depth, i =>
    match gap bs i with
    | .error f => .error f
    | .ok ((), j) =>
      match value bs fuel depth j with
      | .error f => .error f
      | .ok (v, k) =>
        match gap bs k with
        | .ok ((), m) => .ok (v, m)
        | .error f => .error f

/-- The items of an array after the first, each after a comma. -/
def arrayRest (bs : ByteArray) : Nat → Nat → List Node → Nat → Outcome (List Node)
  | 0, _, acc, i => .ok (acc, i)
  | fuel + 1, depth, acc, i =>
    if !isAt bs i ',' then .ok (acc, i)
    else
      match arrayItem bs fuel depth (i + 1) with
      | .ok (v, k) => arrayRest bs fuel depth (acc ++ [v]) k
      | .error f => if f.fatal then .error f else .ok (acc, i)

/-- An array, at its opening bracket. -/
def array (bs : ByteArray) : Nat → Nat → Nat → Outcome Node
  | 0, _, i => failAt i
  | fuel + 1, depth, i =>
    let j := i + 1
    let close := fun (items : List Node) (k : Nat) =>
      if isAt bs k ']' then Except.ok (Node.leaf (.array (items.map Node.toValue)) "array", k + 1)
      else fatalAt k [.reading "array", .expected (.char ']')]
    if isAt bs j ']' then close [] j
    else
      let items : Outcome (List Node) :=
        match arrayItem bs fuel depth j with
        | .ok (v, k) => arrayRest bs fuel depth [v] k
        | .error f => if f.fatal then .error f else .ok ([], j)
      match items with
      | .error f => .error f
      | .ok (items, k) =>
        let k := if !items.isEmpty && isAt bs k ',' then k + 1 else k
        match Outcome.commit (gap bs k) with
        | .error f => .error f
        | .ok ((), m) => close items m

/-- A key and value pair of an inline table. -/
def inlinePair (bs : ByteArray) : Nat → Nat → Nat → Outcome (List KeyPart × KeyPart × Node)
  | 0, _, i => failAt i
  | fuel + 1, depth, i =>
    match key bs i with
    | .error f => .error f
    | .ok (parts, k) =>
      if !isAt bs k '=' then fatalAt k [.expected (.char '.'), .expected (.char '=')]
      else
        match Outcome.commit (value bs fuel depth (blanks bs (k + 1))) with
        | .error f => .error f
        | .ok (v, m) => .ok ((parts.dropLast, (parts.getLast?.getD ⟨"", ""⟩), v), blanks bs m)

/-- The pairs of an inline table after the first, each after a comma. -/
def inlineRest (bs : ByteArray) : Nat → Nat → List (List KeyPart × KeyPart × Node) → Nat →
    Outcome (List (List KeyPart × KeyPart × Node))
  | 0, _, acc, i => .ok (acc, i)
  | fuel + 1, depth, acc, i =>
    if !isAt bs i ',' then .ok (acc, i)
    else
      match inlinePair bs fuel depth (i + 1) with
      | .ok (p, k) => inlineRest bs fuel depth (acc ++ [p]) k
      | .error f => if f.fatal then .error f else .ok (acc, i)

/-- An inline table, at its opening brace. -/
def inline (bs : ByteArray) : Nat → Nat → Nat → Outcome Node
  | 0, _, i => failAt i
  | fuel + 1, depth, i =>
    let j := i + 1
    let pairs : Outcome (List (List KeyPart × KeyPart × Node)) :=
      match inlinePair bs fuel depth j with
      | .ok (p, k) => inlineRest bs fuel depth [p] k
      | .error f => if f.fatal then .error f else .ok ([], j)
    match pairs with
    | .error f => .error f
    | .ok (pairs, k) =>
      match inlineTable pairs with
      | .error problem => fatalAt j [] (some problem)
      | .ok entries =>
        let m := blanks bs k
        if isAt bs m '}' then .ok (.inline false false entries, m + 1)
        else fatalAt m [.reading "inline table", .expected (.char '}')]

end

/-- The notes of a line that does not end after its value or header. -/
def lineEndNotes : List Note :=
  [.expected (.char '\n'), .expected (.char '#')]

/-- A key and value line, with the rest of its line. -/
def pairLine (bs : ByteArray) (s : Sheet) (i : Nat) : Outcome Sheet :=
  match key bs i with
  | .error f => Outcome.commit (.error f)
  | .ok (parts, k) =>
    if !isAt bs k '=' then fatalAt k [.expected (.char '.'), .expected (.char '=')]
    else
      match Outcome.commit (value bs (bs.size + 2) 0 (blanks bs (k + 1))) with
      | .error f => .error f
      | .ok (v, m) =>
        match Outcome.commit ((lineTrailing bs m).notes lineEndNotes) with
        | .error f => .error f
        | .ok ((), n) =>
          match s.setValue parts.dropLast (parts.getLast?.getD ⟨"", ""⟩) v with
          | .ok s => .ok (s, n)
          | .error problem => fatalAt i [] (some problem)

/-- A table header `[key]` or `[[key]]`, with the rest of its line. -/
def headerLine (bs : ByteArray) (s : Sheet) (i : Nat) : Outcome Sheet :=
  let r : Outcome Sheet :=
    if byteAt bs (i + 1) == none then failAt i
    else
      let isArray := isAt bs (i + 1) '['
      let close := if isArray then "]]" else "]"
      match Outcome.commit (key bs (if isArray then i + 2 else i + 1)) with
      | .error f => .error f
      | .ok (path, k) =>
        if !wordAt bs k close then fatalAt k [.expected (.char '.'), .expected (.literal close)]
        else
          match Outcome.commit ((lineTrailing bs (k + close.length)).notes lineEndNotes) with
          | .error f => .error f
          | .ok ((), n) =>
            match (if isArray then s.startArrayTable path else s.startTable path) with
            | .ok s => .ok (s, n)
            | .error problem => fatalAt i [] (some problem)
  r.note (.reading "table header")

/-- The lines of a document from an offset, then its end. -/
def lines (bs : ByteArray) : Nat → Sheet → Nat → Except Failure Sheet
  | 0, s, _ => .ok s
  | fuel + 1, s, i =>
    let next := fun (r : Outcome Sheet) => match r with
      | .ok (s, j) => lines bs fuel s (blanks bs j)
      | .error f => .error f
    match byteAt bs i with
    | none => .ok s
    | some b =>
      let c := Char.ofNat b.toNat
      if c == '#' then
        next ((Outcome.commit (lineEnding bs (commentEnd bs i))).mapValue fun () => s)
      else if c == '[' then next (headerLine bs s i)
      else if c == '\n' || c == '\r' then
        match newline bs i with
        | .ok ((), j) => lines bs fuel s (blanks bs j)
        | .error _ => .error { offset := i }
      else next (pairLine bs s i)

/-- The pairs at the top of a TOML document, or the report of what in it is
not TOML. -/
def readDocument (text : String) : Except String (List (String × Value)) :=
  let bs := text.toUTF8
  let start := if text.startsWith "\uFEFF" then 3 else 0
  match lines bs (bs.size + 1) {} (blanks bs start) with
  | .error f => .error (f.render text)
  | .ok s =>
    match s.finish with
    | .ok s => .ok (entriesValue s.root)
    | .error problem => .error (problem ++ "\n")

end Timeline.Settings.Toml
