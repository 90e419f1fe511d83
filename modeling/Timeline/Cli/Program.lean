import Timeline.Cli.Arguments
import Timeline.Cli.Commands
import Timeline.Settings.Config
import Timeline.Artifact.Builtin
/-!
# The program

`run` is the whole program as a function: from its command line, its
environment and the files it can see to its exit status and what it writes.

1. The command line is read. A help or version screen goes to standard
   output with status 0; a usage error goes to standard error with status 2.
2. The settings are loaded: the user's configuration file, the file named by
   `--config`, then the `TL_` environment variables.
3. The built-in artifacts are narrowed to those the settings name.
4. The command runs: `parsers` lists the artifacts, `detect` reports what
   claims each file, and `scan` writes events to standard output and one line
   per file to standard error. Without a command the help screen is shown,
   followed by an empty line.

A failure of steps 2 to 4 ends the program with status 1 and a report on
standard error (`Failure.report`); so does a scan in which any file failed.

The program also writes log records to standard error when asked to, by the
variable `RUST_LOG` or by `-v`/`--verbose` (`World.logs`); their text is not
part of this model.
-/

namespace Timeline

open CommandLine Settings

/-- What the program is given. -/
structure World where
  /-- The words of the command line after the program's name. -/
  args : List String
  /-- The environment variables. -/
  env : List (String × String) := []
  /-- The files the program can read. -/
  files : Files := Tree.files {}
  /-- The user's configuration file, when the user has a configuration directory. -/
  userConfig : Option String := none
  /-- The current year, for records without one when none is configured. -/
  currentYear : Int := 1970

/-- What the program did. -/
structure Outcome where
  status : Nat
  stdout : String := ""
  stderr : String := ""
  deriving DecidableEq, Repr

/-- Whether the program writes log records to standard error. -/
def World.logs (w : World) : Bool :=
  w.env.any (·.1 == "RUST_LOG") || w.args.any fun a => a == "-v" || a == "--verbose"

/-- The end of a failed program. -/
def Outcome.failed (f : Failure) (stdout stderr : String := "") : Outcome :=
  { status := 1, stdout, stderr := stderr ++ f.report }

/-- Runs a command once the settings are loaded. -/
def perform (w : World) (config : Config) (r : Registry) : Option Action → Outcome
  | none => { status := 0, stdout := Command.main.helpText ++ "\n" }
  | some .parsers => { status := 0, stdout := parserListing r }
  | some (.detect paths) => { status := 0, stdout := detectReport r w.files paths }
  | some (.scan paths parser) =>
    let opts : ScanOptions :=
      { parser, year := config.year w.currentYear, maxTextFileSize := config.maxTextFileSize }
    match scanFiles r w.files paths opts with
    | .error f => Outcome.failed f
    | .ok s =>
      if s.failed > 0 then
        Outcome.failed ⟨toString s.failed ++ " of " ++ toString paths.length ++ " files failed to scan", []⟩
          s.out s.diagnostics
      else { status := 0, stdout := s.out, stderr := s.diagnostics }

/-- Runs the program. -/
def run (w : World) : Outcome :=
  match readCommandLine w.args with
  | .error (.screen text) => { status := 0, stdout := text }
  | .error (.refuse e) => { status := 2, stderr := e.render }
  | .ok inv =>
    match loadConfig w.files w.userConfig inv.config w.env with
    | .error problem => Outcome.failed ⟨"failed to load configuration", [problem]⟩
    | .ok config =>
      match Registry.builtin.select config.parsers with
      | .error e => Outcome.failed ⟨"invalid `parsers` configuration", [e.message]⟩
      | .ok r => perform w config r inv.action

end Timeline
