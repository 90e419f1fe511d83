import Timeline.Artifact.Basic
/-!
# Service logs

* vsftpd writes one line per event, opening with a date in the form of
  `Mon Jun  6 18:43:28 2016`, followed by the process and the message. The
  weekday is not read; the month is a name.
* Google's logging library writes a header of a few lines (the first gives the
  date the file was created, which supplies the year), then records of the form
  `Lmmdd hh:mm:ss.uuuuuu thread file:line] message`, where `L` is one of
  `I`, `W`, `E`, `F` and the message may span lines.
-/

namespace Timeline.Builtin

open Pattern

/-- An ASCII letter. -/
def asciiLetter : Pattern := .cls (.ranges [('A', 'Z'), ('a', 'z')])

/-- vsftpd's log: the first line matches
`^[A-Za-z]{3} [A-Za-z]{3} +\d{1,2} \d{2}:\d{2}:\d{2} \d{4} .*\[pid .*: Client `. -/
def vsftpdLog : TextArtifact where
  name := "vsftpd"
  description := "vsftpd log file"
  anchor := seqs [.start, times 3 asciiLetter, .char ' ', times 3 asciiLetter, many1 (.char ' '),
    .rep digit 1 (some 2), .char ' ', digits 2, .char ':', digits 2, .char ':', digits 2, .char ' ',
    digits 4, .char ' ', anyText, Pattern.text "[pid ", anyText, Pattern.text ": Client "]
  grammar :=
    { fields := [(FieldSpec.named "weekday" (.alpha 3 3)).suppressed, .named "month" (.alpha 3 3),
        .named "day" (.digits 1 2), .named "hour" (.digits 2 2), .lit ":",
        .named "minute" (.digits 2 2), .lit ":", .named "second" (.digits 2 2),
        .named "year" (.digits 4 4), .named "text" (.rest true)]
      times := [⟨"added_time", .tuple
        { year := .field "year", month := "month", day := "day", hour := "hour",
          minute := "minute", second := "second" }⟩] }
  emission :=
    { dataType := "vsftpd:log"
      attributes := [.same "added_time", .same "text"] }

/-- A record line of Google's logging library opens with
`^[IWEF]\d{4} \d{2}:\d{2}:\d{2}\.\d{6}`. -/
def googleRecordStart : List Pattern :=
  [.start, .cls (.ranges [('I', 'I'), ('W', 'W'), ('E', 'E'), ('F', 'F')]), digits 4, .char ' ',
    digits 2, .char ':', digits 2, .char ':', digits 2, .char '.', digits 6]

/-- `Log file created at: ` and a date, its year in the group `year` when `withYear`. -/
def googleCreatedAt (withYear : Bool) : Pattern :=
  seqs [Pattern.text "Log file created at: ", if withYear then .group "year" (digits 4) else digits 4,
    .char '/', digits 2, .char '/', digits 2, .char ' ', digits 2, .char ':', digits 2, .char ':',
    digits 2]

/-- Google's logging library. The first line matches
`^(?:Log file created at: \d{4}/\d{2}/\d{2} \d{2}:\d{2}:\d{2}|[IWEF]\d{4} \d{2}:\d{2}:\d{2}\.\d{6} +\d+ )`;
header lines match
`^(?:Log file created at: (?P<year>\d{4})/\d{2}/\d{2} \d{2}:\d{2}:\d{2}|Running on machine: .*|Running duration \(h:mm:ss\): .*|Log line format: .*)$`. -/
def googleLog : TextArtifact where
  name := "google_log"
  description := "Google logging (glog) text log"
  anchor := .seq .start (alts [googleCreatedAt false,
    seqs (googleRecordStart.drop 1 ++ [many1 (.char ' '), many1 digit, .char ' '])])
  preamble := some ⟨seqs [.start, alts [googleCreatedAt true,
    .seq (Pattern.text "Running on machine: ") anyText,
    .seq (Pattern.text "Running duration (h:mm:ss): ") anyText,
    .seq (Pattern.text "Log line format: ") anyText], .finish]⟩
  grammar :=
    { fields := [.named "priority" (.alpha 1 1), .named "month" (.digits 2 2),
        .named "day" (.digits 2 2), .named "hour" (.digits 2 2), .lit ":",
        .named "minute" (.digits 2 2), .lit ":", .named "second" (.digits 2 2), .lit ".",
        .named "fraction" (.digits 6 6), .named "thread_identifier" .integer,
        .named "file_name" (.until ":"), .lit ":", .named "line_number" .integer, .lit "]",
        .named "message" (.rest true)]
      times := [⟨"last_written_time", .tuple
        { year := .scan, month := "month", day := "day", hour := "hour", minute := "minute",
          second := "second", fraction := some ⟨"fraction", 6⟩ }⟩]
      boundary := .lookahead (seqs googleRecordStart) }
  emission :=
    { dataType := "googlelog:log"
      attributes := [.same "priority", .same "thread_identifier", .same "file_name",
        .same "line_number", .same "message", .same "last_written_time"] }

end Timeline.Builtin
