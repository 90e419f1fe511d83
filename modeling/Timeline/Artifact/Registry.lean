import Timeline.Artifact.Basic
/-!
# The registry of artifacts

A registry lists artifacts in a fixed order, each name once. Building one checks
each artifact's declaration:

* a text artifact records each field under a name given once, names every field
  it records, builds its times from fields that it records and that no earlier
  time took, and emits attributes only from fields that are recorded or times;
* a row artifact fills each field once per query and emits attributes only from
  fields that some query fills.

Selecting names keeps the registry's order and refuses an unknown name.
-/

namespace Timeline

/-- Why a registry cannot be built, or a selection made. -/
inductive RegistryError where
  | duplicateArtifact (name : String)
  | duplicateField (artifact field : String)
  | unnamedField (artifact : String)
  | unknownTimeComponent (artifact time field : String)
  | unknownAttributeField (artifact attr field : String)
  | unknownArtifact (name : String)
  deriving DecidableEq, Repr

/-- The message of a registry error. -/
def RegistryError.message : RegistryError → String
  | .duplicateArtifact n => "artifact `" ++ n ++ "` is registered twice"
  | .duplicateField a f => "artifact `" ++ a ++ "` declares field `" ++ f ++ "` twice"
  | .unnamedField a => "artifact `" ++ a ++ "` captures a field without a name"
  | .unknownTimeComponent a t f =>
    "artifact `" ++ a ++ "`: time `" ++ t ++ "` uses unknown field `" ++ f ++ "`"
  | .unknownAttributeField a attr f =>
    "artifact `" ++ a ++ "`: attribute `" ++ attr ++ "` reads unknown field `" ++ f ++ "`"
  | .unknownArtifact n => "unknown artifact: " ++ n

/-- The first name of a list that an earlier entry already has. -/
def firstRepeat (names : List String) : Option String :=
  let rec go (seen : List String) : List String → Option String
    | [] => none
    | n :: ns => if seen.contains n then some n else go (n :: seen) ns
  go [] names

/-- Every attribute reads an available field. -/
def checkAttributes (artifact : String) (emission : Emission) (available : List String) :
    Except RegistryError Unit :=
  match emission.attributes.find? (fun spec => !available.contains spec.field) with
  | some spec => .error (.unknownAttributeField artifact spec.name spec.field)
  | none => .ok ()

/-- The fields available after the times of a grammar took their components,
starting from the recorded fields. -/
def availableAfterTimes (artifact : String) (available : List String) :
    List TimeField → Except RegistryError (List String)
  | [] => .ok available
  | t :: ts => do
    let rest ← t.layout.components.foldlM (fun avail c =>
      if avail.contains c then .ok (avail.filter (· != c))
      else .error (.unknownTimeComponent artifact t.name c)) available
    availableAfterTimes artifact (t.name :: rest) ts

/-- Checks the declaration of a text artifact. -/
def TextArtifact.validate (a : TextArtifact) : Except RegistryError Unit := do
  let fields := a.grammar.fields
  let _ ← fields.foldlM (fun (seen : List String) f =>
    if f.name.isEmpty then
      if f.suppress then .ok seen else .error (.unnamedField a.name)
    else if seen.contains f.name then .error (.duplicateField a.name f.name)
    else .ok (f.name :: seen)) []
  let available ← availableAfterTimes a.name a.grammar.captured a.grammar.times
  checkAttributes a.name a.emission available

/-- Checks the declaration of a row artifact. -/
def RowArtifact.validate (a : RowArtifact) : Except RegistryError Unit := do
  let available ← a.queries.foldlM (fun (avail : List String) q => do
    let fields := q.columns.map (·.field) ++ q.derived
    match firstRepeat fields with
    | some f => .error (.duplicateField a.name f)
    | none => pure (avail ++ fields)) []
  checkAttributes a.name a.emission available

/-- Checks the declaration of an artifact. -/
def Artifact.validate : Artifact → Except RegistryError Unit
  | .text a => a.validate
  | .rows a => a.validate

/-- Artifacts in a fixed order, each name once. -/
@[ext]
structure Registry where
  artifacts : List Artifact
  names_nodup : (artifacts.map (·.name)).Nodup

namespace Registry

/-- One step of building a registry: a name seen before is refused, then the
declaration is checked and its name is seen. -/
def accept (seen : List String) (a : Artifact) : Except RegistryError (List String) :=
  if seen.contains a.name then .error (.duplicateArtifact a.name)
  else a.validate.map fun _ => a.name :: seen

/-- An artifact is accepted exactly when its name is new and its declaration
passes; its name is then seen. -/
theorem accept_eq_ok_iff {seen out : List String} {a : Artifact} :
    accept seen a = .ok out ↔ a.name ∉ seen ∧ a.validate = .ok () ∧ out = a.name :: seen := by
  unfold accept
  by_cases hseen : a.name ∈ seen
  · simp [hseen]
  · cases hv : a.validate <;> simp [hseen, Except.map, eq_comm]

/-- Artifacts accepted one after another have names that are distinct and were
not seen before, and declarations that pass. -/
theorem of_foldlM_accept_eq_ok {artifacts : List Artifact} {seen out : List String}
    (h : artifacts.foldlM accept seen = .ok out) :
    (artifacts.map (·.name)).Nodup ∧ (∀ a ∈ artifacts, a.name ∉ seen) ∧
      ∀ a ∈ artifacts, a.validate = .ok () := by
  induction artifacts generalizing seen with
  | nil => simp
  | cons a rest ih =>
    rw [List.foldlM_cons] at h
    cases haccept : accept seen a with
    | error e => rw [haccept] at h; cases h
    | ok seen' =>
      rw [haccept] at h
      obtain ⟨hnew, hvalid, rfl⟩ := accept_eq_ok_iff.mp haccept
      obtain ⟨hrest, hfresh, hvalids⟩ := ih h
      -- the later names are new after this one is seen, so they differ from it
      refine ⟨List.nodup_cons.mpr ⟨?_, hrest⟩, ?_, List.forall_mem_cons.mpr ⟨hvalid, hvalids⟩⟩
      · simp only [List.mem_map, not_exists, not_and]
        intro b hb hname
        exact hfresh b hb (by simp [hname])
      · intro b hb
        rcases List.mem_cons.mp hb with rfl | hb
        · exact hnew
        · exact fun hs => hfresh b hb (List.mem_cons_of_mem _ hs)

/-- The registry of a list of artifacts, checking names and declarations in order. -/
def make? (artifacts : List Artifact) : Except RegistryError Registry :=
  match h : artifacts.foldlM accept [] with
  | .ok _ => .ok ⟨artifacts, (of_foldlM_accept_eq_ok h).1⟩
  | .error e => .error e

/-- The names of the artifacts, in registry order. -/
def names (r : Registry) : List String :=
  r.artifacts.map (·.name)

/-- The artifact of a name. -/
def get? (r : Registry) (name : String) : Option Artifact :=
  r.artifacts.find? (·.name == name)

/-- The artifacts whose names a list holds, in registry order. -/
def restrict (r : Registry) (names : List String) : Registry :=
  ⟨r.artifacts.filter (fun a => names.contains a.name),
    r.names_nodup.sublist (List.filter_sublist.map _)⟩

/-- The artifacts of the named ones, in registry order; no names keeps all. -/
def select (r : Registry) (names : List String) : Except RegistryError Registry :=
  if names.isEmpty then .ok r
  else
    match names.find? (fun n => (r.get? n).isNone) with
    | some n => .error (.unknownArtifact n)
    | none => .ok (r.restrict names)

/-- The text artifacts, in order. -/
def textArtifacts (r : Registry) : List TextArtifact :=
  r.artifacts.filterMap fun | .text a => some a | .rows _ => none

/-- The row artifacts, in order. -/
def rowArtifacts (r : Registry) : List RowArtifact :=
  r.artifacts.filterMap fun | .rows a => some a | .text _ => none

end Registry

end Timeline
