import Timeline.Artifact.Basic
/-!
# Shell histories

* Zsh's extended history writes one entry per command as `: start:elapsed;command`,
  where `start` is in POSIX seconds and `elapsed` in seconds. A command may span
  lines: an entry runs up to the next line that opens an entry.
* Fish's history is a YAML-like list whose entries open with `- cmd: command`,
  then `  when: seconds`, then an optional block of paths that is not read.
-/

namespace Timeline.Builtin

open Pattern

/-- `^:\s*\d+:\d+;` with at most one blank before the first number when `tight`,
and any number otherwise. -/
def zshEntryStart (tight : Bool) : Pattern :=
  let blank := Pattern.cls .space
  seqs [.start, .char ':', if tight then optional blank else many blank, many1 digit, .char ':',
    many1 digit, .char ';']

/-- Zsh's extended history. -/
def zshExtendedHistory : TextArtifact where
  name := "zsh_extended_history"
  description := "Zsh extended history file"
  anchor := zshEntryStart true
  grammar :=
    { fields := [.lit ":", .named "timestamp" .integer, .lit ":",
        .named "elapsed_seconds" .integer, .lit ";", .named "command" (.rest false)]
      times := [⟨"timestamp", .epochSeconds "timestamp"⟩]
      boundary := .lookahead (zshEntryStart false) }
  emission :=
    { dataType := "shell:zsh:history"
      attributes := [.same "command", .same "elapsed_seconds", ⟨"last_written_time", "timestamp"⟩] }

/-- Fish's history. The first line matches `^- cmd: \S+`; entries open at lines
matching `^- cmd:`. -/
def fishHistory : TextArtifact where
  name := "fish_history"
  description := "Fish history file"
  anchor := seqs [.start, Pattern.text "- cmd: ", many1 (.cls .nonSpace)]
  grammar :=
    { fields := [.lit "- cmd:", .named "command" (.until "\n"), .lit "\n", .lit "when:",
        .named "when" .integer, (FieldSpec.named "paths" (.rest true)).suppressed]
      times := [⟨"written_time", .epochSeconds "when"⟩]
      boundary := .lookahead (seqs [.start, Pattern.text "- cmd:"]) }
  emission :=
    { dataType := "fish:history:entry"
      attributes := [.same "command", .same "written_time"] }

end Timeline.Builtin
