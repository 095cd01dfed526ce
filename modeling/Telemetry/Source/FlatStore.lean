import Telemetry.Source.Basic

/-!
# Flat stores

A finite number of files under their paths, without directories. Different spellings of one path
name the same file; the first of them is the one that patterns are held against.

## Main definitions

- `FlatStore` — the files by the components of their paths
- `FlatStore.add` — a store with a file added, or its contents replaced
- `FlatStore.read`, `FlatStore.glob` — the answers of a store
- `FlatStore.source` — a store as a source
-/

namespace Telemetry

/-- A file with the spelling of its path. -/
structure StoredFile where
  path : Path
  contents : Text
  deriving DecidableEq

/-- Files under their paths, without directories. -/
structure FlatStore where
  files : SortedMap (List Component) StoredFile

namespace FlatStore

/-- The store without files. -/
def empty : FlatStore := ⟨.empty⟩

/-- A store with a file added. If there is one under the same path, its contents are replaced and
    its spelling is kept. -/
def add (s : FlatStore) (path : Path) (contents : Text) : FlatStore :=
  let key := path.components
  let spelling := ((s.files.get? key).map StoredFile.path).getD path
  ⟨s.files.insert key ⟨spelling, contents⟩⟩

/-- The contents of the file under a path. -/
def read (s : FlatStore) (path : Path) : Except ReadError Text :=
  match s.files.get? path.components with
  | some file => .ok file.contents
  | none => .error ⟨.notFound, "no such file: " ++ String.ofList path⟩

/-- The paths of all files, in order. -/
def paths (s : FlatStore) : List Path :=
  s.files.toList.map fun e => e.2.path

/-- The paths that match a pattern, in order; wildcards match no slash. -/
def glob (s : FlatStore) (pattern : Text) : Except Glob.SyntaxError (List Path) :=
  (Glob.Pattern.parse pattern).map fun p => s.paths.filter (p.accepts true)

/-- A store as a source. -/
def source (s : FlatStore) : Source where
  glob := s.glob
  read := s.read

end FlatStore

end Telemetry
