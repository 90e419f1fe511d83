import Timeline.Cli.Similar
import Timeline.Text.Columns
/-!
# The command line

The program `tl` takes options and one of three commands, `parsers`,
`detect` and `scan`, or `help`, which shows the help of the commands named
after it. This module reads the words of a command line into an
`Invocation`, or into the text the program shows instead: a help or version
screen on standard output, or a usage error on standard error.

## How words are read

Words are read left to right, one command level at a time: first the
program's own options, then, from the word that names a command, that
command's. The options `-v`/`--verbose` and `-c`/`--config` belong to every
level; where both levels give `--config`, the command's value wins.

* `--name` and `--name=value` are long options; `-abc` is a cluster of short
  options, where an option that takes a value takes the rest of the cluster
  (after one optional `=`) or else the next word.
* After `--`, every word is a positional value.
* A word that names a command is that command, unless an option is still
  waiting for its value.
* Values are taken when the next option or the end of the line is reached; an
  option given twice at one level, a missing value, or an empty path is an
  error then.
* `-h`/`--help` and `-V`/`--version` stop reading and show their screen.

## Errors

A usage error reads `error: ` and what went wrong, then tips, then the usage
line of the command, then where to find help. The usage line lists the
command's options only as `[OPTIONS]`, unless the error is about options
already given: then it names those options and the required arguments. A word
that looks like a known name gets a tip naming it; names are compared with
`similarNames`.
-/

namespace Timeline.CommandLine

/-- The commands of the program, the program itself first. -/
inductive Command where
  | main
  | parsers
  | detect
  | scan
  | help
  deriving DecidableEq, Repr

/-- The options of the program. -/
inductive Switch where
  | verbose
  | config
  | parser
  | help
  | version
  deriving DecidableEq, Repr

/-- What a command line can give: an option, or a command's positional values. -/
inductive Arg where
  | switch (s : Switch)
  | paths
  | commands
  deriving DecidableEq, Repr

/-- The version the program reports. -/
def version : String := "0.1.0"

namespace Switch

/-- The one-letter name of an option. -/
def short : Switch → Char
  | .verbose => 'v'
  | .config => 'c'
  | .parser => 'p'
  | .help => 'h'
  | .version => 'V'

/-- The long name of an option. -/
def long : Switch → String
  | .verbose => "verbose"
  | .config => "config"
  | .parser => "parser"
  | .help => "help"
  | .version => "version"

/-- The name of an option's value, for the options that take one. -/
def valueName : Switch → Option String
  | .config => some "CONFIG"
  | .parser => some "PARSER"
  | _ => none

/-- What an option does. -/
def summary : Switch → String
  | .verbose => "Enable verbose output"
  | .config => "Path to config file"
  | .parser => "Skip detection and scan every file with this parser"
  | .help => "Print help"
  | .version => "Print version"

end Switch

/-- How an argument is written in messages. -/
def Arg.display : Arg → String
  | .switch s =>
    match s.valueName with
    | some v => "--" ++ s.long ++ " <" ++ v ++ ">"
    | none => "--" ++ s.long
  | .paths => "<PATHS>..."
  | .commands => "[COMMAND]..."

/-- How an argument is written where it is required. -/
def Arg.requiredDisplay : Arg → String
  | .commands => "<COMMAND>..."
  | a => a.display

namespace Command

/-- The word that names a command. -/
def name : Command → String
  | .main => "tl"
  | .parsers => "parsers"
  | .detect => "detect"
  | .scan => "scan"
  | .help => "help"

/-- How the usage line names a command. -/
def usageName : Command → String
  | .main => "tl"
  | c => "tl " ++ c.name

/-- What a command does. -/
def about : Command → String
  | .main => "Forensic artifact timeline normalizer CLI"
  | .parsers => "List the parsers that can claim a file"
  | .detect => "Report which parsers claim each file"
  | .scan => "Extract events from files as JSON lines on stdout"
  | .help => "Print this message or the help of the given subcommand(s)"

/-- The options of a command, in the order its help lists them. -/
def switches : Command → List Switch
  | .main => [.verbose, .config, .help, .version]
  | .parsers | .detect => [.verbose, .config, .help]
  | .scan => [.parser, .verbose, .config, .help]
  | .help => []

/-- The positional argument of a command, if it takes one. -/
def positional : Command → Option Arg
  | .detect | .scan => some .paths
  | .help => some .commands
  | _ => none

/-- What a command's positional values are. -/
def positionalSummary : Command → String
  | .detect => "Evidence files to inspect"
  | .scan => "Evidence files to scan"
  | .help => "Print help for the subcommand(s)"
  | _ => ""

/-- Whether a command cannot do without its positional values. -/
def needsPositional : Command → Bool
  | .detect | .scan => true
  | _ => false

/-- The commands below a command. -/
def subcommands : Command → List Command
  | .main => [.parsers, .detect, .scan, .help]
  | _ => []

/-- The command below a command that a word names. -/
def subcommand? (c : Command) (word : String) : Option Command :=
  c.subcommands.find? (·.name == word)

/-- Where an error of a command points for help: its help option, else its
`help` command, else nowhere. -/
def helpPointer (c : Command) : Option String :=
  if c.switches.contains .help then some "--help"
  else if !c.subcommands.isEmpty then some "help"
  else none

/-- The full usage line of a command. -/
def usage (c : Command) : String :=
  let options := if c.switches.any (fun s => s != .help && s != .version) then " [OPTIONS]" else ""
  let positional := match c.positional with
    | some p => " " ++ p.display
    | none => ""
  let commands := if c.subcommands.isEmpty then "" else " [COMMAND]"
  c.usageName ++ options ++ positional ++ commands

/-- The usage line that names the arguments already given, with the required ones. -/
def usageWith (c : Command) (used : List Arg) : String :=
  if used.isEmpty then c.usage
  else
    let switches := (used.filterMap fun | .switch s => some s | _ => none).eraseDups
    let required := if c.needsPositional then c.positional.toList else []
    let positionals := (required ++ used.filter (fun a => some a == c.positional)).eraseDups
    c.usageName ++ String.join (switches.map fun s => " " ++ (Arg.switch s).display) ++
      String.join (positionals.map fun p => " " ++ p.requiredDisplay)

/-- How an option is listed in help: its short and long names and its value. -/
def switchSpec (s : Switch) : String :=
  "-" ++ String.singleton s.short ++ ", " ++ (Arg.switch s).display

/-- The help screen of a command. -/
def helpText (c : Command) : String :=
  let commands := if c.subcommands.isEmpty then []
    else ["Commands:\n" ++ Text.twoColumns (c.subcommands.map fun s => (s.name, s.about))]
  let arguments := match c.positional with
    | some p => ["Arguments:\n" ++ Text.twoColumns [(p.display, c.positionalSummary)]]
    | none => []
  let options := if c.switches.isEmpty then []
    else ["Options:\n" ++ Text.twoColumns (c.switches.map fun s => (switchSpec s, s.summary))]
  c.about ++ "\n\nUsage: " ++ c.usage ++ "\n\n" ++ "\n\n".intercalate (commands ++ arguments ++ options) ++
    "\n"

end Command

/-- The version screen. -/
def versionText : String :=
  "tl " ++ version ++ "\n"

/-- A usage error: what went wrong, tips, the usage line, where to look for help. -/
structure UsageError where
  headline : String
  tips : List String := []
  usage : Option String := none
  helpPointer : Option String := none
  deriving DecidableEq, Repr

/-- The text of a usage error. -/
def UsageError.render (e : UsageError) : String :=
  let tips := if e.tips.isEmpty then "" else "\n" ++ String.join (e.tips.map ("\n  tip: " ++ ·))
  let usage := match e.usage with
    | some u => "\n\nUsage: " ++ u
    | none => ""
  let help := match e.helpPointer with
    | some h => "\n\nFor more information, try '" ++ h ++ "'.\n"
    | none => "\n"
  "error: " ++ e.headline ++ tips ++ usage ++ help

/-- A tip that names the known names a word looks like. -/
def similarTip (kind : String) : List String → String
  | [n] => "a similar " ++ kind ++ " exists: '" ++ n ++ "'"
  | ns => "some similar " ++ kind ++ "s exist: " ++ ", ".intercalate (ns.map fun n => "'" ++ n ++ "'")

/-- Why reading a command line stopped before its end. -/
inductive Stop where
  /-- A help or version screen, for standard output. -/
  | screen (text : String)
  /-- A usage error. -/
  | refuse (e : UsageError)
  deriving DecidableEq, Repr

/-- What one command level has read so far. -/
structure Level where
  command : Command
  /-- The arguments taken, each with its values, in the order first taken. -/
  given : List (Arg × List String) := []
  /-- An argument whose values are still being gathered. -/
  pending : Option (Arg × List String) := none
  /-- Whether the pending option still waits for its value. -/
  awaiting : Bool := false
  /-- Whether `--` has been read. -/
  escaped : Bool := false
  deriving DecidableEq, Repr

namespace Level

/-- Whether an argument has been taken. -/
def has (lv : Level) (a : Arg) : Bool :=
  lv.given.any (·.1 == a)

/-- The values taken for an argument. -/
def values (lv : Level) (a : Arg) : List String :=
  ((lv.given.find? (·.1 == a)).map (·.2)).getD []

/-- The arguments taken, in order. -/
def used (lv : Level) : List Arg :=
  lv.given.map (·.1)

/-- The error of an argument given no value. -/
def emptyValue (a : Arg) : UsageError :=
  { headline := "a value is required for '" ++ a.display ++ "' but none was supplied"
    helpPointer := some "--help" }

/-- Takes the values of an argument: an option that takes a value needs one
and may be given once; paths and the configuration path may not be empty. -/
def take (lv : Level) (a : Arg) (vs : List String) : Level × Option UsageError :=
  let repeated : UsageError :=
    { headline := "the argument '" ++ a.display ++ "' cannot be used multiple times"
      usage := some lv.command.usage, helpPointer := lv.command.helpPointer }
  let dropped := { lv with given := lv.given.filter (·.1 != a) }
  match a with
  | .switch .verbose =>
    if lv.has a then (dropped, some repeated) else ({ lv with given := lv.given ++ [(a, ["true"])] }, none)
  | .switch s =>
    if vs.isEmpty then (lv, some (emptyValue a))
    else if lv.has a then (dropped, some repeated)
    else
      let lv := { lv with given := lv.given ++ [(a, vs)] }
      if s == .config && vs.contains "" then (lv, some (emptyValue a)) else (lv, none)
  | _ =>
    let lv := if lv.has a then { lv with given := lv.given.map fun (b, ws) => if b == a then (b, ws ++ vs) else (b, ws) }
      else { lv with given := lv.given ++ [(a, vs)] }
    if a == .paths && vs.contains "" then (lv, some (emptyValue a)) else (lv, none)

/-- Takes the pending argument's values, if an argument is pending. -/
def resolve (lv : Level) : Level × Option UsageError :=
  match lv.pending with
  | none => (lv, none)
  | some (a, vs) => take { lv with pending := none, awaiting := false } a vs

/-- Takes the pending argument's values, stopping at an error. -/
def settle (lv : Level) : Except Stop Level :=
  match lv.resolve with
  | (lv, none) => .ok lv
  | (_, some e) => .error (.refuse e)

/-- Takes an argument with its values once the pending one is taken. -/
def react (lv : Level) (a : Arg) (vs : List String) : Except Stop Level := do
  let lv ← lv.settle
  match lv.take a vs with
  | (lv, none) => pure lv
  | (_, some e) => throw (.refuse e)

/-- Takes an option that has no value. -/
def flag (lv : Level) (s : Switch) : Except Stop Level := do
  match s with
  | .help =>
    let _ ← lv.settle
    throw (.screen lv.command.helpText)
  | .version =>
    let _ ← lv.settle
    throw (.screen versionText)
  | s => lv.react (.switch s) []

/-- Waits for the value of an option. -/
def await (lv : Level) (s : Switch) : Except Stop Level := do
  let lv ← lv.settle
  pure { lv with pending := some (.switch s, []), awaiting := true }

/-- The error of an unknown word that looks like an option, with the tip to
escape it where the command takes positional values. -/
def unknownArgument (lv : Level) (word : String) : UsageError :=
  { headline := "unexpected argument '" ++ word ++ "' found"
    tips := if !lv.escaped && lv.command.positional.isSome
      then ["to pass '" ++ word ++ "' as a value, use '-- " ++ word ++ "'"] else []
    usage := some lv.command.usage
    helpPointer := lv.command.helpPointer }

/-- The best-looking long option of a command for a word. -/
def closestSwitch (c : Command) (word : String) : Option Switch :=
  (similarNames word (c.switches.map (·.long))).getLast?.bind fun l => c.switches.find? (·.long == l)

/-- The error of an unknown long option. The tip names the command's option it
looks like, which then counts as given; else an option of a command named
later on the line; else, where positional values are taken, how to escape it. -/
def unknownLong (lv : Level) (name : String) (later : List String) : UsageError :=
  let c := lv.command
  let headline := "unexpected argument '--" ++ name ++ "' found"
  match closestSwitch c name with
  | some s =>
    let used := if lv.has (.switch s) then lv.used else lv.used ++ [.switch s]
    { headline, tips := [similarTip "argument" ["--" ++ s.long]], usage := some (c.usageWith used)
      helpPointer := c.helpPointer }
  | none =>
    let elsewhere := c.subcommands.filterMap fun sub =>
      match closestSwitch sub name, later.findIdx? (· == sub.name) with
      | some s, some i => some (i, sub.name ++ " --" ++ s.long)
      | _, _ => none
    let first := elsewhere.foldl (fun best x => match best with
      | some b => if x.1 < b.1 then some x else best
      | none => some x) none
    match first with
    | some (_, tip) =>
      { headline, tips := ["'" ++ tip ++ "' exists"], usage := some (c.usageWith lv.used)
        helpPointer := c.helpPointer }
    | none =>
      { headline
        tips := if !lv.escaped && c.positional.isSome
          then ["to pass '--" ++ name ++ "' as a value, use '-- --" ++ name ++ "'"] else []
        usage := some (c.usageWith lv.used), helpPointer := c.helpPointer }

/-- Reads a long option, `--name` or `--name=value`. -/
def long (lv : Level) (body : String) (later : List String) : Except Stop Level :=
  let (name, attached) := match body.splitOn "=" with
    | n :: v :: vs => (n, some ("=".intercalate (v :: vs)))
    | _ => (body, none)
  match lv.command.switches.find? (·.long == name) with
  | some s =>
    match s.valueName, attached with
    | some _, some v => lv.react (.switch s) [v]
    | some _, none => lv.await s
    | none, some v =>
      let used := (lv.used.filter (· != .paths)) ++ [.switch s]
      .error (.refuse
        { headline := "unexpected value '" ++ v ++ "' for '" ++ (Arg.switch s).display ++
            "' found; no more were expected"
          usage := some (lv.command.usageWith used), helpPointer := lv.command.helpPointer })
    | none, none => lv.flag s
  | none => .error (.refuse (lv.resolve.1.unknownLong name later))

/-- Reads a cluster of short options. -/
def shorts (lv : Level) : List Char → Except Stop Level
  | [] => .ok lv
  | c :: cs =>
    match lv.command.switches.find? (·.short == c) with
    | none => .error (.refuse (lv.resolve.1.unknownArgument ("-" ++ String.singleton c)))
    | some s =>
      match s.valueName with
      | none => do
        let lv ← lv.flag s
        lv.shorts cs
      | some _ =>
        if cs.isEmpty then lv.await s
        else
          let attached := String.ofList cs
          lv.react (.switch s) [if attached.startsWith "=" then attached.drop 1 |>.toString else attached]

/-- The error of a word that no argument of the command takes. -/
def strayWord (lv : Level) (word : String) : UsageError :=
  let c := lv.command
  if lv.escaped && (c.subcommand? word).isSome then
    { headline := "unexpected argument '" ++ word ++ "' found"
      tips := ["subcommand '" ++ word ++ "' exists; to use it, remove the '--' before it"]
      usage := some c.usage, helpPointer := c.helpPointer }
  else if !c.subcommands.isEmpty then
    let similar := similarNames word (c.subcommands.map (·.name))
    { headline := "unrecognized subcommand '" ++ word ++ "'"
      tips := if similar.isEmpty then [] else [similarTip "subcommand" similar]
      usage := some c.usage, helpPointer := c.helpPointer }
  else lv.unknownArgument word

/-- Reads a positional value. -/
def positionalValue (lv : Level) (word : String) : Except Stop Level := do
  match lv.command.positional with
  | some p =>
    let lv ← if (lv.pending.map (·.1)) == some p then pure lv else lv.settle
    let vs := match lv.pending with
      | some (_, vs) => vs
      | none => []
    pure { lv with pending := some (p, vs ++ [word]) }
  | none => throw (.refuse (lv.resolve.1.strayWord word))

end Level

/-- The help screen of the command that a list of command names leads to. -/
def helpFor (c : Command) : List String → Stop
  | [] => .screen c.helpText
  | w :: rest =>
    match c.subcommand? w with
    | some s => helpFor s rest
    | none =>
      .refuse { headline := "unrecognized subcommand '" ++ w ++ "'", usage := some c.usage
                helpPointer := c.helpPointer }

/-- Where reading one level ended: at the end of the line, or at a command
with the words after it. -/
structure LevelEnd where
  level : Level
  next : Option (Command × List String)

/-- Reads the words of one level. -/
def Level.read (lv : Level) : List String → Except Stop LevelEnd
  | [] => .ok ⟨lv, none⟩
  | w :: rest =>
    if lv.escaped then do (← lv.positionalValue w).read rest
    else
      match (if lv.awaiting then none else lv.command.subcommand? w) with
      | some .help => .error (helpFor lv.command rest)
      | some c => .ok ⟨lv, some (c, rest)⟩
      | none =>
        if w == "--" then { lv with escaped := true }.read rest
        else if w.startsWith "--" then do (← lv.long (w.drop 2).toString rest).read rest
        else if w.startsWith "-" && w != "-" then do (← lv.shorts (w.drop 1).toString.toList).read rest
        else if lv.awaiting then
          let vs := match lv.pending with
            | some (_, vs) => vs
            | none => []
          let a := (lv.pending.map (·.1)).getD (.switch .config)
          { lv with pending := some (a, vs ++ [w]), awaiting := false }.read rest
        else do (← lv.positionalValue w).read rest

/-- Ends a level: takes its pending values and checks that it has what it requires. -/
def Level.finish (lv : Level) : Except Stop Level := do
  let lv ← lv.settle
  if lv.command.needsPositional && !lv.has .paths then
    throw (.refuse
      { headline := "the following required arguments were not provided:\n  " ++ Arg.display .paths
        usage := some (lv.command.usageWith (lv.used ++ [.paths]))
        helpPointer := lv.command.helpPointer })
  pure lv

/-- What the program is asked to do. -/
inductive Action where
  | parsers
  | detect (paths : List String)
  | scan (paths : List String) (parser : Option String)
  deriving DecidableEq, Repr

/-- A command line, read. -/
structure Invocation where
  verbose : Bool := false
  config : Option String := none
  /-- `none` when no command is given. -/
  action : Option Action := none
  deriving DecidableEq, Repr

/-- Reads a command line (without the program's name). -/
def readCommandLine (words : List String) : Except Stop Invocation := do
  let top ← ({ command := .main } : Level).read words
  let inner ← match top.next with
    | some (c, rest) => do
      let e ← ({ command := c } : Level).read rest
      some <$> e.level.finish
    | none => pure none
  let outer ← top.level.finish
  let levels := outer :: inner.toList
  let config := (levels.reverse.findSome? fun lv => (lv.values (.switch .config)).head?)
  let action := inner.bind fun lv =>
    match lv.command with
    | .parsers => some .parsers
    | .detect => some (.detect (lv.values .paths))
    | .scan => some (.scan (lv.values .paths) (lv.values (.switch .parser)).head?)
    | _ => none
  pure { verbose := levels.any (·.has (.switch .verbose)), config, action }

end Timeline.CommandLine
