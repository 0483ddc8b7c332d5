import Turnstile.Files.Error
import Turnstile.Text.Split

/-!
# A scratch file tree

`FileTree` is a small file system under one working directory: each node is
a file with text or a directory, named by its path of components from the
working directory. A path text is split at `/`; empty and `.` components
name the directory they are in.

Opening follows the operating system: every component that is looked into must
be a directory (a missing one is *not found*, a file is *not a directory*), and
so must a node that a `.` component or a final `/` stands after;
reading a directory fails with *is a directory*; creating a file needs its
parent directory, and a path that ends in `/` cannot name a new file.
-/

namespace Turnstile

/-- A node of the tree. -/
inductive FileNode where
  | file (content : String)
  | dir
  deriving DecidableEq, Repr

/-- Files and directories below the working directory, by path. -/
structure FileTree where
  nodes : List (List String × FileNode) := []
  deriving Inhabited

namespace FileTree

/-- The components of a path text. -/
def components (path : String) : List String :=
  (Text.splitOn '/' path.toList).filterMap fun c =>
    if c = [] ∨ c = ['.'] then none else some (String.ofList c)

/-- The node at a path; the working directory is a directory. -/
def node? (t : FileTree) (p : List String) : Option FileNode :=
  if p = [] then some .dir else (t.nodes.find? (·.1 == p)).map (·.2)

/-- Looks a path up component by component from a directory: each component is looked up
in the node reached so far, which must be a directory (a file there is *not a directory*,
a missing node *not found*); a `.` component stays where it is. Gives the path reached. -/
def walk (t : FileTree) : List String → List String → Except IoError (List String)
  | here, [] => .ok here
  | here, c :: rest =>
    match t.node? here with
    | some .dir => t.walk (if c = "." then here else here ++ [c]) rest
    | some (.file _) => .error .notDirectory
    | none => .error .notFound

/-- The raw components of a path text: its parts between slashes, empty ones left out. -/
def steps (path : String) : List String :=
  (Text.splitOn '/' path.toList).filterMap fun c => if c = [] then none else some (String.ofList c)

/-- The content of the file at a path. -/
def read (t : FileTree) (path : String) : Except IoError String := do
  if path = "" then throw .notFound
  let p ← t.walk [] (steps path)
  match t.node? p with
  | some (.file c) =>
    if path.endsWith "/" then throw .notDirectory else pure c
  | some .dir => throw .isDirectory
  | none => throw .notFound

/-- The tree with a file at a path opened for appending, created if missing. -/
def openAppend (t : FileTree) (path : String) : Except IoError FileTree := do
  if path = "" then throw .notFound
  let p ← t.walk [] (steps path)
  match t.node? p with
  | some (.file _) => if path.endsWith "/" then throw .notDirectory else pure t
  | some .dir => throw .isDirectory
  | none =>
    if path.endsWith "/" then throw .isDirectory
    else pure { nodes := t.nodes ++ [(p, .file "")] }

/-- The tree with the node at a path removed, with everything below it. -/
def remove (t : FileTree) (path : String) : FileTree :=
  let p := components path
  { nodes := t.nodes.filter fun (q, _) => !(p.isPrefixOf q) }

/-- The tree with directories along a path, as far as they are missing. -/
def makeDirs (t : FileTree) (path : String) : FileTree :=
  let p := components path
  (List.range p.length).foldl (fun t i =>
    let q := p.take (i + 1)
    match t.node? q with
    | some _ => t
    | none => { nodes := t.nodes ++ [(q, .dir)] }) t

/-- The tree with a file written at a path, its directories created first. -/
def write (t : FileTree) (path : String) (content : String) : FileTree :=
  let p := components path
  let t := t.makeDirs (String.intercalate "/" p.dropLast)
  { nodes := (t.nodes.filter (·.1 != p)) ++ [(p, .file content)] }

end FileTree

/-- Whether a path text is relative and has no `..` component. -/
def isPlainRelative (path : String) : Bool :=
  !path.startsWith "/" && !(Text.splitOn '/' path.toList).contains ['.', '.']

end Turnstile
