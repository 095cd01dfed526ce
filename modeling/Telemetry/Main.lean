import Std.Time.DateTime.Timestamp
import Telemetry.CommandLine.Outcome
import Telemetry.Environment
import Telemetry.Glob.Walk

/-!
# The program

Reads the command line, looks at the part of the file system that a command can ask about, and
prints the outcome. All decisions are made by `Request.parse` and `Command.run`.

## Main definitions

- `FileSystem.read` — the contents of a file
- `FileSystem.observe` — the part of the file system that patterns lead through
- `main` — the program
-/

namespace Telemetry

namespace FileSystem

/-- The kind and wording of a failure of the system. -/
def readError : IO.Error → ReadError
  | .noFileOrDirectory .. => Location.notFound
  | .permissionDenied .. => ⟨.permissionDenied, "Permission denied (os error 13)"⟩
  | .inappropriateType .. => Location.notADirectory
  | e => ⟨.permissionDenied, toString e⟩

/-- The contents of a file. -/
def read (p : Path) : IO (Except ReadError Text) := do
  try
    let file ← IO.FS.realPath (String.ofList p)
    if ← file.isDir then return .error Location.isADirectory
    return .ok (Utf8.decodeLossy (← IO.FS.readBinFile file).toList)
  catch e => return .error (readError e)

/-- The path of a place that names lead to from the root. -/
def spell (names : List Text) : Path :=
  '/' :: Text.join ['/'] names

/-- The names in a directory, or `none` if there is no directory. -/
def list? (names : List Text) : IO (Option (List Text)) := do
  try
    let directory ← IO.FS.realPath (String.ofList (spell names))
    if ← directory.isDir then
      return some ((← directory.readDir).toList.map fun e => e.fileName.toList)
    return none
  catch _ => return none

/-- Whether there is anything at a place. -/
def present (names : List Text) : IO Bool := do
  try
    discard <| IO.FS.realPath (String.ofList (spell names))
    return true
  catch _ => return false

/-- A tree with what the components of a pattern can lead to from a place. Files are taken without
    their contents. -/
partial def observe (tree : FileTree) (names : List Text) :
    List Glob.Pattern → IO FileTree
  | [] => do
    if (← list? names).isSome then return tree.makeDirectory (spell names)
    else if ← present names then return tree.write (spell names) []
    else return tree
  | p :: ps => do
    let some entries ← list? names | observe tree names []
    let tree := tree.makeDirectory (spell names)
    match p.literal? with
    | some ['.', '.'] => observe tree names.dropLast ps
    | some name => observe tree (if name = [] ∨ name = ['.'] then names else names ++ [name]) ps
    | none =>
      let tree ← [names, names.dropLast].foldlM (fun tree n => observe tree n ps) tree
      entries.foldlM (fun tree name => do
        let tree ← observe tree (names ++ [name]) ps
        if p.isRecursive then observe tree (names ++ [name]) (p :: ps) else return tree) tree

/-- The source of the documents and files that a document asks for, as they are now. -/
def source (config : Path) : IO Source := do
  let working := FileTree.names ⟨.emptyDirectory, []⟩ (← IO.currentDir).toString.toList
  let document ← read config
  let configs := (document.toOption.bind fun d => (Configuration.load d).toOption).getD []
  let patterns := configs.map Configuration.file
  let tree ← patterns.foldlM (fun tree pattern =>
    match Glob.Scope.parse pattern with
    | .error _ => pure tree
    | .ok s => observe tree (if s.absolute then [] else working) s.components) (.empty working)
  let paths := patterns.flatMap fun p => ((tree.glob p).toOption).getD []
  let contents ← paths.mapM fun p => return (p, ← read p)
  return {
    glob := tree.glob
    read := fun p => (((config, document) :: contents).lookup p).getD (.error Location.notFound) }

/-- The default variables of this process. -/
def defaults : IO Record := do
  let block ← try IO.FS.readBinFile "/proc/self/environ" catch _ => pure .empty
  let status ← try IO.FS.readFile "/proc/self/status" catch _ => pure ""
  let processors := (Text.lines status.toList).findSome? fun line =>
    let mark := "Cpus_allowed_list:\t".toList
    if mark.isPrefixOf line then some (Environment.countRanges (line.drop mark.length)) else none
  return defaultVariables (Environment.ofBlock block.toList) (processors.getD 1)

/-- The present instant. -/
def now : IO Timestamp := do
  let t := (← Std.Time.Timestamp.now).toNanosecondsSinceUnixEpoch.val
  return ⟨t / 1000000000, (t % 1000000000).toNat⟩

end FileSystem

/-- How the program is used. -/
def usageText : String :=
  "Usage: telemetry discover --config <FILE>\n       telemetry collect --config <FILE>\n"

end Telemetry

open Telemetry in
/-- Reads the command line, runs its command and prints the outcome. -/
def main (args : List String) : IO UInt32 := do
  match Request.parse (args.map String.toList) with
  | .error e =>
    IO.eprint ("error: " ++ e.message ++ "\n\n" ++ usageText)
    return Outcome.usage.toUInt32
  | .ok .help =>
    IO.print usageText
    return Outcome.success.toUInt32
  | .ok .version =>
    IO.println "telemetry 0.1.0"
    return Outcome.success.toUInt32
  | .ok (.run command config) =>
    let outcome := command.run config (← FileSystem.source config) (← FileSystem.defaults)
      (← FileSystem.now)
    IO.eprint (String.ofList outcome.errors)
    IO.print (String.ofList outcome.output)
    return outcome.exitCode.toUInt32
