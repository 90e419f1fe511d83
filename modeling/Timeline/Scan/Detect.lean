import Timeline.Scan.Text
/-!
# Detecting text evidence

A text artifact claims a source when its first line is valid UTF-8 and matches
the artifact's anchor, and the first unit after the preamble reads as an event.
Detection only looks ahead: it hands out no line, so any number of detections
leave the lines a source holds as they were. It reads through any sequential
access (`LineAccess`), in the state of the source it is given. It looks at most
64 lines ahead, both to skip the preamble and to gather the first unit. A source that holds only preamble lines
is claimed; an empty source is not. Records without a year are dated by the
preamble or else by the year 2000, which is enough to test their other fields.
-/

namespace Timeline

/-- The farthest detection looks ahead. -/
def maxDetectLines : Nat := 64

/-- The year that dates records during detection when the preamble gives none. -/
def detectFallbackYear : Int := 2000

/-- A computation over a source of lines of type `σ`: it may change the source,
and it may stop with a source error, leaving the source as the failed read
left it. -/
abbrev LineReading (σ α : Type) := ExceptT SourceError (StateM σ) α

/-- Runs a reading from a source: its outcome, and the source as it is left. -/
def LineReading.exec {σ α : Type} (x : LineReading σ α) (s : σ) : Except SourceError α × σ :=
  x.run.run s

theorem LineReading.exec_pure {σ α : Type} (a : α) (s : σ) :
    (pure a : LineReading σ α).exec s = (.ok a, s) := rfl

/-- A reading in two parts runs the second from where the first left the source,
unless the first failed. -/
theorem LineReading.exec_bind {σ α β : Type} (x : LineReading σ α) (f : α → LineReading σ β) (s : σ) :
    (x >>= f).exec s =
      match x.exec s with
      | (.ok a, s') => (f a).exec s'
      | (.error e, s') => (.error e, s') := by
  unfold exec
  simp only [ExceptT.run_bind, StateT.run_bind]
  rcases x.run.run s with ⟨res, s'⟩
  cases res <;> rfl

section Generic

variable {σ : Type} (acc : LineAccess σ)

/-- The line `k` places ahead; a closed source has ended. -/
def LineAccess.lookAt (k : Nat) : LineReading σ (Option Line) :=
  ExceptT.mk fun s =>
    match acc.peek s k with
    | (.error .closed, s') => (.ok none, s')
    | r => r

theorem LineReading.exec_lookAt (k : Nat) (s : σ) :
    (acc.lookAt k).exec s =
      match acc.peek s k with
      | (.error .closed, s') => (.ok none, s')
      | r => r := rfl

/-- Counts the preamble lines from `index` on, at most up to the limit, and the
year they carry. -/
def detectPreamble (p : Preamble) :
    (fuel index : Nat) → Option Int → LineReading σ (Nat × Option Int)
  | 0, index, year => pure (index, year)
  | fuel + 1, index, year => do
    match ← acc.lookAt index with
    | none => pure (index, year)
    | some line =>
      match p.classify line.text with
      | none => pure (index, year)
      | some found => detectPreamble p fuel (index + 1) (found.or year)

/-- Appends the lines from `offset` on up to one that is not valid UTF-8 or that
the boundary matches, within the limit. -/
def detectGather (b : Pattern) : (fuel offset : Nat) → String → LineReading σ String
  | 0, _, text => pure text
  | fuel + 1, offset, text => do
    match ← acc.lookAt offset with
    | some next =>
      if next.validUtf8 && !b.isMatch next.text then
        detectGather b fuel (offset + 1) (text ++ "\n" ++ next.text)
      else pure text
    | none => pure text

/-- Counts the preamble lines at the start, within the limit, and the year they
carry; none without a preamble. -/
def TextArtifact.detectLead (a : TextArtifact) : LineReading σ (Nat × Option Int) :=
  match a.preamble with
  | some p => detectPreamble acc p maxDetectLines 0 none
  | none => pure (0, none)

/-- The text of the unit whose first line, `line`, is line `index`: that line,
or under a lookahead boundary the lines that continue it too, within the limit. -/
def TextArtifact.detectUnitText (a : TextArtifact) (index : Nat) (line : Line) : LineReading σ String :=
  match a.grammar.boundary with
  | .line => pure line.text
  | .lookahead b => detectGather acc b (maxDetectLines - (index + 1)) (index + 1) line.text

/-- Whether the unit that starts at line `index` reads as an event, its records
dated by `year` or else by the fallback year. A source that ends after its
preamble lines is claimed. -/
def TextArtifact.detectUnitAt (a : TextArtifact) (index : Nat) (year : Option Int) :
    LineReading σ Bool := do
  let some line ← acc.lookAt index | return index > 0
  if !line.validUtf8 then return false
  let unit ← a.detectUnitText acc index line
  match a.grammar.extract (Text.dropTrailingLineFeeds unit) (year.or (some detectFallbackYear)) with
  | .error _ => return false
  | .ok record =>
    return (a.emission.toEvent a.name (.line line.number) record a.hints).toBool

/-- Whether a text artifact claims a source, read through `acc`. -/
def TextArtifact.detectWith (a : TextArtifact) : LineReading σ Bool := do
  let some first ← acc.lookAt 0 | return false
  if !first.validUtf8 || !a.anchor.isMatch first.text then return false
  let (index, year) ← a.detectLead acc
  a.detectUnitAt acc index year

end Generic

/-- Whether a text artifact claims a line source. -/
def TextArtifact.detect (a : TextArtifact) (s : LineSource) : Except SourceError Bool :=
  ((a.detectWith LineSource.access).exec s).1

end Timeline
