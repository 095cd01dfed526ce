import Telemetry.Source.Basic
import Telemetry.Text.Utf8

/-!
# Directory trees

Files in directories, and places inside a tree that are reached along a path. An absolute path
starts at the root of a tree and any other one at its working directory; from there a path is
followed name by name.

## Main definitions

- `Node` — a file or a directory with its entries in the order of their names
- `FileTree` — a root directory with a working directory in it
- `FileTree.write`, `FileTree.makeDirectory` — a tree with a file or a directory added
- `Location` — a place in a tree, with the path that leads to it
- `Location.follow` — the place that a name leads to
- `FileTree.locate` — the place that a path leads to
- `FileTree.read` — the contents of a file

## Design notes

A place knows the directories around it, so that two dots lead back out of a directory. The root
directory is its own parent.
-/

namespace Telemetry

/-- A file or a directory. The entries of a directory are in the order of their names. -/
inductive Node
  | file (bytes : List UInt8)
  | directory (entries : List (Text × Node))

namespace Node

/-- The empty directory. -/
def emptyDirectory : Node := directory []

/-- Whether a node is a directory. -/
def isDirectory : Node → Bool
  | directory _ => true
  | file _ => false

/-- The entries of a directory. -/
def entries : Node → List (Text × Node)
  | directory es => es
  | file _ => []

/-- The entry of a name. -/
def child? (n : Node) (name : Text) : Option Node :=
  (n.entries.find? fun e => e.1 == name).map Prod.snd

/-- Entries with the one of a name replaced, or added in its place. -/
def putEntry (name : Text) (n : Node) : List (Text × Node) → List (Text × Node)
  | [] => [(name, n)]
  | (name', n') :: es =>
    if name = name' then (name, n) :: es
    else if name < name' then (name, n) :: (name', n') :: es
    else (name', n') :: putEntry name n es

/-- A tree with the node changed that names lead to. Directories on the way are made where there is
    nothing; a file on the way stays, and nothing is changed behind it. -/
def update (change : Node → Node) : List Text → Node → Node
  | [], n => change n
  | _ :: _, file bytes => file bytes
  | name :: names, directory es =>
    let child := ((directory es).child? name).getD emptyDirectory
    directory (putEntry name (update change names child) es)

end Node

/-- A root directory with a working directory in it. -/
structure FileTree where
  root : Node
  /-- The names that lead from the root to the working directory. -/
  working : List Text

namespace FileTree

/-- The tree that holds nothing but its working directory. -/
def empty (working : List Text) : FileTree :=
  ⟨Node.update id working Node.emptyDirectory, working⟩

/-- The names that lead from the root to a path that is free of dots. -/
def names (t : FileTree) (p : Path) : List Text :=
  let below := p.components.filterMap fun
    | .normal name => some name
    | _ => none
  if p.components.head? = some .root then below else t.working ++ below

/-- A tree with a node changed, and the directories made that lead to it. -/
def update (t : FileTree) (change : Node → Node) (p : Path) : FileTree :=
  { t with root := Node.update change (t.names p) t.root }

/-- A tree with a file in it. -/
def write (t : FileTree) (p : Path) (bytes : List UInt8) : FileTree :=
  t.update (fun _ => .file bytes) p

/-- A tree with a directory in it; what is there already stays as it is. -/
def makeDirectory (t : FileTree) (p : Path) : FileTree :=
  t.update id p

end FileTree

-- ════════════════════════════════════════════════════════════════════════
-- Places
-- ════════════════════════════════════════════════════════════════════════

/-- A place in a tree: the path that leads there, the node, and the directories around it from the
    innermost one on. -/
structure Location where
  path : Path
  node : Node
  around : List Node

namespace Location

/-- There is no such file. -/
def notFound : ReadError := ⟨.notFound, "No such file or directory (os error 2)"⟩

/-- A name follows a file. -/
def notADirectory : ReadError := ⟨.notADirectory, "Not a directory (os error 20)"⟩

/-- A directory is not read. -/
def isADirectory : ReadError := ⟨.isADirectory, "Is a directory (os error 21)"⟩

/-- The place that a name leads to: nowhere else for a dot or the empty name, to the directory
    around for two dots, and else to an entry. -/
def follow (l : Location) (name : Text) (path : Path) : Except ReadError Location :=
  match l.node with
  | .file _ => .error notADirectory
  | .directory es =>
    if name = [] ∨ name = ['.'] then .ok { l with path := path }
    else if name = ['.', '.'] then
      match l.around with
      | [] => .ok { l with path := path }
      | n :: around => .ok ⟨path, n, around⟩
    else
      match l.node.child? name with
      | some n => .ok ⟨path, n, .directory es :: l.around⟩
      | none => .error notFound

/-- The place that names lead to one after the other. -/
def followAll (path : Path) (l : Location) : List Text → Except ReadError Location
  | [] => .ok { l with path := path }
  | name :: names =>
    match l.follow name path with
    | .error e => .error e
    | .ok l => followAll path l names

end Location

namespace FileTree

/-- The place at which absolute paths start. -/
def top (t : FileTree) : Location := ⟨['/'], t.root, []⟩

/-- The place at which all other paths start. -/
def here (t : FileTree) : Except ReadError Location :=
  Location.followAll ['.'] t.top t.working

/-- The place that a path leads to. -/
def locate (t : FileTree) (p : Path) : Except ReadError Location :=
  match p with
  | [] => .error Location.notFound
  | '/' :: rest => Location.followAll p t.top (Text.splitChar '/' rest)
  | p =>
    match t.here with
    | .error e => .error e
    | .ok l => Location.followAll p l (Text.splitChar '/' p)

/-- The contents of the file that a path leads to. Bytes that are no text are replaced. -/
def read (t : FileTree) (p : Path) : Except ReadError Text :=
  match t.locate p with
  | .error e => .error e
  | .ok l =>
    match l.node with
    | .file bytes => .ok (Utf8.decodeLossy bytes)
    | .directory _ => .error Location.isADirectory

end FileTree

end Telemetry
