import Timeline.Settings.Toml
import Timeline.Evidence.Files
/-!
# Configuration

The program's settings are the year given to records that carry none, the
artifacts to use (none named means all) and the size above which text files
are skipped.

Settings come in layers, each replacing what the layers before it set: the
defaults, the user's configuration file, the file named on the command line,
and the environment variables whose names start with `TL_` (in any case; the
rest of the name, lowercased, is the setting). A configuration file that does
not exist, or names a directory, adds nothing. Settings the program does not
know are ignored.

A file that cannot be read, or is not TOML, or a setting of the wrong shape,
is an error whose message says which setting and where it came from. Settings
are checked in the order of their names.
-/

namespace Timeline.Settings

/-- The program's settings. -/
structure Config where
  /-- The year of records that carry none; the current year when unset. -/
  defaultYear : Option Int := none
  /-- The artifacts to use, by name; none named means all. -/
  parsers : List String := []
  /-- Text files longer than this many bytes are skipped. -/
  maxTextFileSize : Nat := 52428800
  deriving DecidableEq, Repr

/-- The year given to records that carry none. -/
def Config.year (c : Config) (currentYear : Int) : Int :=
  c.defaultYear.getD currentYear

/-- Where a layer of settings came from. -/
inductive Origin where
  | file (path : String)
  | environment
  deriving DecidableEq, Repr

/-- How a message names a setting from a source. -/
def Origin.keyName : Origin → String → String
  | .file _, k => "default." ++ k
  | .environment, k => String.map Char.toUpper k

/-- How a message names a source. -/
def Origin.describe : Origin → String
  | .file p => p ++ " TOML file"
  | .environment => "`TL_` environment variable(s)"

/-- A layer of settings. -/
structure Layer where
  origin : Origin
  entries : List (String × Value)

/-- The message of a setting that cannot be taken. -/
def settingError (o : Origin) (key problem : String) : String :=
  problem ++ " for key " ++ Text.quote (o.keyName key) ++ " in " ++ o.describe

/-- A value of the wrong shape. -/
def wrongShape (v : Value) (expected : String) : String :=
  "invalid type: found " ++ v.describe ++ ", expected " ++ expected

/-- A value of the right shape but out of range. -/
def outOfRange (v : Value) (expected : String) : String :=
  "invalid value " ++ v.describe ++ ", expected " ++ expected

/-- The value of a setting in the last layer that sets it, as the last entry
of that layer that sets it. -/
def lookup (layers : List Layer) (key : String) : Option (Origin × Value) :=
  layers.foldl (fun found l =>
    match (l.entries.filter (·.1 == key)).getLast? with
    | some (_, v) => some (l.origin, v)
    | none => found) none

/-- The integer of a value, if it is one. -/
def Value.asInteger? : Value → Option Int
  | .natural n => some n
  | .integer n => some n
  | _ => none

/-- Takes the year setting. -/
def takeYear : Option (Origin × Value) → Except String (Option Int)
  | none => .ok none
  | some (o, v) =>
    match v.asInteger? with
    | some n =>
      if -2147483648 ≤ n && n ≤ 2147483647 then .ok (some n)
      else .error (settingError o "default_year" (outOfRange v "i32"))
    | none => .error (settingError o "default_year" (wrongShape v "i32"))

/-- Takes the size limit setting. -/
def takeLimit : Option (Origin × Value) → Except String (Option Nat)
  | none => .ok none
  | some (o, v) =>
    match v.asInteger? with
    | some n =>
      if 0 ≤ n && n ≤ 18446744073709551615 then .ok (some n.toNat)
      else .error (settingError o "max_text_file_size" (outOfRange v "u64"))
    | none => .error (settingError o "max_text_file_size" (wrongShape v "u64"))

/-- Takes the artifacts setting. -/
def takeParsers : Option (Origin × Value) → Except String (Option (List String))
  | none => .ok none
  | some (o, .array items) =>
    some <$> ((List.range items.length).zip items).mapM fun
      | (_, Value.string s) => .ok s
      | (i, v) => .error (settingError o ("parsers." ++ toString i) (wrongShape v "a string"))
  | some (o, v) => .error (settingError o "parsers" (wrongShape v "a sequence"))

/-- The settings of a stack of layers over the defaults. -/
def configOf (layers : List Layer) : Except String Config := do
  let year ← takeYear (lookup layers "default_year")
  let limit ← takeLimit (lookup layers "max_text_file_size")
  let parsers ← takeParsers (lookup layers "parsers")
  let defaults : Config := {}
  pure { defaultYear := year
         parsers := parsers.getD defaults.parsers
         maxTextFileSize := limit.getD defaults.maxTextFileSize }

/-- The layer of a configuration file, or nothing when the path names no file. -/
def fileLayer (fs : Files) (path : String) : Except String (Option Layer) :=
  if !fs.isFile path then .ok none
  else
    let place := " in " ++ (Origin.file path).describe
    match fs.read path with
    | .error e => .error (e.message ++ place)
    | .ok bytes =>
      match String.fromUTF8? (ByteArray.mk bytes.toArray) with
      | none => .error ("stream did not contain valid UTF-8" ++ place)
      | some text =>
        match Toml.readDocument text with
        | .ok entries => .ok (some ⟨.file path, entries⟩)
        | .error report => .error (report ++ place)

/-- A value placed under a path of keys: `[b, c]` and `v` give `b = {c = v}`. -/
def nestUnder : List String → Value → Value
  | [], v => v
  | k :: ks, v => .table [(k, nestUnder ks v)]

/-- The setting an environment variable gives, if its name starts with `TL_`
in any case. The rest of the name, trimmed and lowercased, is a path of keys
separated by points; a name with an empty key on that path gives nothing. -/
def environmentEntry (name text : String) : Option (String × Value) :=
  let name := Text.trim name
  if String.map Char.toUpper (name.take 3).toString != "TL_" then none
  else
    let key := String.map Char.toLower (Text.trim (name.drop 3).toString)
    match key.splitOn "." with
    | k :: ks => if (k :: ks).any (·.isEmpty) then none else some (k, nestUnder ks (readValue text))
    | [] => none

/-- The layer of the environment: the variables whose names start with `TL_`. -/
def environmentLayer (env : List (String × String)) : Layer :=
  ⟨.environment, env.filterMap fun (name, text) => environmentEntry name text⟩

/-- Loads the settings: the user's file, the named file, then the environment.
Errors of several files are all reported, the last file's first. -/
def loadConfig (fs : Files) (userFile namedFile : Option String) (env : List (String × String)) :
    Except String Config := do
  let read := fun (path : Option String) => match path with
    | some p => fileLayer fs p
    | none => .ok none
  let layers ← match read userFile, read namedFile with
    | .ok a, .ok b => .ok (a.toList ++ b.toList)
    | .error e, .ok _ | .ok _, .error e => .error e
    | .error e, .error f => .error (f ++ "\n" ++ e)
  configOf (layers ++ [environmentLayer env])

end Timeline.Settings
