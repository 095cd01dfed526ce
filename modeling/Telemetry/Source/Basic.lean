import Telemetry.Glob.Pattern
import Telemetry.Path

/-!
# Sources

Where the contents of files come from: something that expands file patterns and reads files.

## Main definitions

- `ReadError` — the ways in which a file cannot be read
- `Source` — the two questions that can be asked
- `Source.deny` — a source that refuses to read some paths
-/

namespace Telemetry

/-- The kinds of failures to read a file. -/
inductive ReadError.Kind
  | notFound
  | permissionDenied
  | isADirectory
  | notADirectory
  deriving DecidableEq, Repr

/-- A failure to read a file, with its wording. -/
structure ReadError where
  kind : ReadError.Kind
  message : String
  deriving DecidableEq, Repr

/-- Where the contents of files come from. -/
structure Source where
  /-- The paths that match a pattern, in order. -/
  glob : Text → Except Glob.SyntaxError (List Path)
  /-- The contents of a file. -/
  read : Path → Except ReadError Text

/-- A source that refuses to read the paths of a class. -/
def Source.deny (s : Source) (denied : Path → Bool) : Source :=
  { s with read := fun p => if denied p then .error ⟨.permissionDenied, "denied"⟩ else s.read p }

end Telemetry
