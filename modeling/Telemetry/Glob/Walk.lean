import Telemetry.Source.Tree

/-!
# Expansion of file patterns in a tree

A pattern is taken apart at its slashes, and its components are followed through a tree one by one.
A component without wildcards is looked up, and any other is held against the entries of a
directory.

## Main definitions

- `Glob.Scope` — the components of a pattern, and where they start
- `Glob.expand` — the places that components lead to from a place
- `FileTree.glob` — the paths in a tree that match a pattern
- `FileTree.source` — a tree as a source

## Design notes

The entries of a directory come in the order of their names, each before what is below it. A pattern
that ends in a slash matches directories only.
-/

namespace Telemetry

namespace Glob

-- ════════════════════════════════════════════════════════════════════════
-- Places
-- ════════════════════════════════════════════════════════════════════════

/-- Whether a path is just the directory at hand. -/
def isHere (p : Path) : Bool :=
  p.components == [.current]

/-- The path of an entry. Entries of the directory at hand are named without it. -/
def entryPath (directory : Path) (name : Text) : Path :=
  if isHere directory then name else directory.append name

/-- The entries of the directory at a place, in the order of their names, beside these. -/
def children (l : Location) : List (Text × Location) :=
  l.node.entries.map fun (name, n) => (name, ⟨entryPath l.path name, n, l.node :: l.around⟩)

mutual

/-- All that is below a node with a path, each entry before what is below it. -/
def below (path : Path) (around : List Node) : Node → List (Text × Location)
  | .file _ => []
  | .directory es => belowEntries path (.directory es :: around) es

/-- The entries of a directory with a path, each before what is below it. -/
def belowEntries (path : Path) (around : List Node) :
    List (Text × Node) → List (Text × Location)
  | [] => []
  | (name, n) :: es =>
    let path' := entryPath path name
    (name, ⟨path', n, around⟩) :: below path' around n ++ belowEntries path around es

end

/-- The places that dots lead to from a directory, if a pattern starts with a dot and accepts
    them. -/
def dotted (p : Pattern) (l : Location) : List Location :=
  match p.tokens with
  | .char '.' :: _ =>
    [['.', '.'], ['.']].filterMap fun name =>
      if p.accepts false name then (l.follow name (l.path.append name)).toOption else none
  | _ => []

/-- The place that a component without wildcards leads to. The empty component leads nowhere from
    the directory at hand, since it leaves no path. -/
def named? (l : Location) (name : Text) : Option Location :=
  let path := entryPath l.path name
  if path.isEmpty then none else (l.follow name path).toOption

-- ════════════════════════════════════════════════════════════════════════
-- Expansion
-- ════════════════════════════════════════════════════════════════════════

/-- The places that the components of a pattern lead to from a place. Several wildcards for
    directories in a row are as good as one. -/
def expand : List Pattern → Location → List Location
  | [], _ => []
  | p :: ps, l =>
    match p.literal? with
    | some name =>
      match named? l name with
      | none => []
      | some l' => if ps.isEmpty then [l'] else expand ps l'
    | none =>
      if p.isRecursive then
        match ps with
        | [] => ((below l.path l.around l.node).map Prod.snd).filter fun l' => l'.node.isDirectory
        | q :: qs =>
          if q.isRecursive then expand (q :: qs) l
          else
            (below l.path l.around l.node).flatMap fun (name, l') =>
              if q.accepts false name then (if qs.isEmpty then [l'] else expand qs l') else []
      else
        (dotted p l).flatMap (fun l' => if ps.isEmpty then [l'] else expand ps l') ++
          (children l).flatMap fun (name, l') =>
            if p.accepts false name then (if ps.isEmpty then [l'] else expand ps l') else []

/-- The components of a pattern, from the first slash behind a leading one on. A slash at the end
    makes no component. -/
def componentTexts (pattern : Text) : List Text :=
  let rest := match pattern with
    | '/' :: rest => rest
    | t => t
  let pieces := Text.splitChar '/' rest
  if rest.isEmpty then [[]]
  else if rest.getLast? = some '/' then pieces.dropLast
  else pieces

/-- The patterns of a list of components, or the error of the first at fault. -/
def parseAll : List Text → Except SyntaxError (List Pattern)
  | [] => .ok []
  | t :: ts =>
    match Pattern.parse t with
    | .error e => .error e
    | .ok p => (parseAll ts).map (p :: ·)

/-- Where the components of a pattern start. -/
structure Scope where
  components : List Pattern
  absolute : Bool
  /-- Whether only directories match. -/
  directories : Bool

/-- The components of a pattern. It has to be a pattern as a whole and in each component. -/
def Scope.parse (pattern : Text) : Except SyntaxError Scope :=
  match Pattern.parse pattern with
  | .error e => .error e
  | .ok _ =>
    (parseAll (componentTexts pattern)).map fun ps =>
      ⟨ps, pattern.head? = some '/', pattern.getLast? = some '/'⟩

end Glob

namespace FileTree

/-- The place at which the components of a pattern start. -/
def start (t : FileTree) (s : Glob.Scope) : Except ReadError Location :=
  if s.absolute then .ok t.top else t.here

/-- The places in a tree that match a pattern. -/
def expand (t : FileTree) (s : Glob.Scope) : List Location :=
  match t.start s with
  | .error _ => []
  | .ok l => (Glob.expand s.components l).filter fun l => !s.directories || l.node.isDirectory

/-- The paths in a tree that match a pattern. -/
def glob (t : FileTree) (pattern : Text) : Except Glob.SyntaxError (List Path) :=
  (Glob.Scope.parse pattern).map fun s => (t.expand s).map Location.path

/-- A tree as a source. -/
def source (t : FileTree) : Source where
  glob := t.glob
  read := t.read

end FileTree

end Telemetry
