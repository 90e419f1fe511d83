import Timeline.Artifact.Shell
import Timeline.Artifact.Logs
import Timeline.Artifact.Databases
import Timeline.Artifact.Registry
/-!
# The built-in artifacts

The artifacts the normalizer knows, in the order in which detection tries them:
the text artifacts first, then the database artifacts.
-/

namespace Timeline

/-- The built-in artifacts, in order. -/
def builtinArtifacts : List Artifact :=
  [.text Builtin.zshExtendedHistory, .text Builtin.vsftpdLog, .text Builtin.fishHistory,
    .text Builtin.googleLog, .rows Builtin.androidDownloads, .rows Builtin.chrome17Cookies,
    .rows Builtin.chrome66Cookies, .rows Builtin.macNotes]

/-- The registry of the built-in artifacts. -/
def Registry.builtin : Registry := ⟨builtinArtifacts, by decide⟩

end Timeline
