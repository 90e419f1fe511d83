import Timeline.Cli.Program
import Std.Time.Format
/-!
# The `tl` executable

The program is `run`; this module only gathers what `run` is given and writes
out what it returns. It reads the command line first, to learn which files the
program will look at: the configuration files and the evidence files the
command names. Each of them is read once, whole; a path that cannot be read is
remembered with the reason, which is what the program reports for it.
-/

namespace Timeline.Executable

open CommandLine

/-- The reason a read failed, as the evidence files see it. -/
def ioErrorOf (e : IO.Error) : IoError :=
  match e with
  | .noFileOrDirectory .. => .notFound
  | .inappropriateType _ code _ =>
    if code == 21 || code == (0 - 21 : UInt32) then .isDirectory
    else if code == 20 || code == (0 - 20 : UInt32) then .notADirectory
    else .other (toString e)
  | e => .other (toString e)

/-- What a path names on disk. -/
def probe (path : String) : IO (Except IoError Entry) := do
  try
    pure (.ok (.bytes (← IO.FS.readBinFile path)))
  catch e =>
    match ioErrorOf e with
    | .isDirectory => pure (.ok .directory)
    | problem => pure (.error problem)

/-- The files the program will look at, read from disk. -/
def snapshot (paths : List String) : IO Files := do
  let seen ← paths.eraseDups.mapM fun p => do pure (p, ← probe p)
  pure ⟨fun p => ((seen.find? (·.1 == p)).map (·.2)).getD (.error .notFound)⟩

/-- The environment variables the program reads. -/
def watchedVariables : List String :=
  ["TL_DEFAULT_YEAR", "TL_PARSERS", "TL_MAX_TEXT_FILE_SIZE", "RUST_LOG"]

/-- The user's configuration file: under the configuration directory, which is
`XDG_CONFIG_HOME` when that is an absolute path and `.config` in the home
directory otherwise. -/
def userConfigFile : IO (Option String) := do
  let base ← match ← IO.getEnv "XDG_CONFIG_HOME" with
    | some d => if d.startsWith "/" then pure (some d) else (·.map (· ++ "/.config")) <$> IO.getEnv "HOME"
    | none => (·.map (· ++ "/.config")) <$> IO.getEnv "HOME"
  pure (base.map (· ++ "/tl/config.toml"))

/-- The current year in UTC. -/
def currentYear : IO Int := do
  let now ← Std.Time.Timestamp.now
  let days := now.toSecondsSinceUnixEpoch.val / 86400
  pure (Time.civilFromDays days).year

/-- The files a command line will have the program look at. -/
def pathsOf (args : List String) : List String :=
  match readCommandLine args with
  | .ok inv =>
    inv.config.toList ++ match inv.action with
      | some (.detect paths) => paths
      | some (.scan paths _) => paths
      | _ => []
  | .error _ => []

end Timeline.Executable

open Timeline Timeline.Executable in
/-- Runs the program on the real command line, environment and files. -/
def main (args : List String) : IO UInt32 := do
  let env ← watchedVariables.filterMapM fun n => do pure ((← IO.getEnv n).map (n, ·))
  let userConfig ← userConfigFile
  let files ← snapshot (userConfig.toList ++ pathsOf args)
  let outcome := run { args, env, files, userConfig, currentYear := ← currentYear }
  let stdout ← IO.getStdout
  stdout.putStr outcome.stdout
  stdout.flush
  let stderr ← IO.getStderr
  stderr.putStr outcome.stderr
  stderr.flush
  pure outcome.status.toUInt32
