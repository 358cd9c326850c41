-- SUMMARY: A file system as a value: what a path leads to in it, and how it changes.
import ShellCoverage.FileTree.Trail
import ShellCoverage.Lines
import ShellCoverage.Sink

/-!
# File trees

A path is looked up in a file tree from the root or the working directory. The lookup of one path
follows a limited number of links, and a path is limited in its length. A lookup for the place
itself, and not for what is there, asks for every place on its way by the path of that place, so all
of these paths are limited too.
-/

namespace ShellCoverage

structure FileTree where
  root : Node

namespace FileTree

/-- The length that a path stays below. -/
def maxPath : Nat := 4096

/-- How many links one lookup follows. -/
def maxLinks : Nat := 40

def node? (tree : FileTree) (path : AbsPath) : Option Node :=
  tree.root.find? path.names

/-! ## Lookup -/

/-- Where a path begins: at the root, or at a given directory. -/
def startOf (path : Path) (here : AbsPath) : AbsPath :=
  if path.isAbsolute then .root else here

/-- Where pieces lead from `here`, a directory that has no link on the way to it. -/
def walk (tree : FileTree) (limit : Option Nat) (here : AbsPath) (pieces : List Bytes) :
    Except IoError Trail := do
  let start ← (Trail.root tree.root).walk none 0 here.names
  start.walk limit maxLinks pieces

/-- Where a path leads from a working directory. The path itself may be of any length. -/
def canonical (tree : FileTree) (workingDirectory : AbsPath) (path : Path) :
    Except IoError AbsPath :=
  if Bytes.nul ∈ path.bytes then .error .nulInPath
  else if path.bytes = [] then .error .notFound
  else (tree.walk (some maxPath) (startOf path workingDirectory) path.pieces).map Trail.path

/-- The node that a path leads to. A path that is too long is refused before it is looked up. -/
def locate (tree : FileTree) (workingDirectory : AbsPath) (path : Path) : Except IoError Node :=
  if Bytes.nul ∈ path.bytes then .error .nulInPath
  else if maxPath ≤ path.bytes.length then .error .nameTooLong
  else if path.bytes = [] then .error .notFound
  else (tree.walk none (startOf path workingDirectory) path.pieces).map Trail.node

def kind (tree : FileTree) (workingDirectory : AbsPath) (path : Path) : PathKind :=
  match tree.locate workingDirectory path with
  | .ok (.directory _) => .directory
  | .ok (.file _) => .file
  | .ok (.link _) | .ok .device | .error _ => .other

/-- What the file of a path gives when it is read from `position` on. A directory can be opened, but
reading it fails. -/
def openAt (tree : FileTree) (workingDirectory : AbsPath) (path : Path) (position : Nat) :
    Except IoError RewoundSink := do
  match ← tree.locate workingDirectory path with
  | .file content => .ok (.ofFile content position)
  | .directory _ => .ok ⟨[.failed .isDirectory]⟩
  | .link _ | .device => .ok ⟨[]⟩

def content (tree : FileTree) (workingDirectory : AbsPath) (path : Path) :
    Except IoError Bytes := do
  match ← tree.locate workingDirectory path with
  | .file content => .ok content
  | .directory _ => .error .isDirectory
  | .link _ | .device => .ok []

def lineCount (tree : FileTree) (workingDirectory : AbsPath) (path : Path) : Except IoError Nat :=
  (tree.content workingDirectory path).map Bytes.lineCount

def sourceTree (tree : FileTree) (workingDirectory : AbsPath) (root : Path) : SourceTree where
  root := root
  pathKind path := tree.kind workingDirectory path.toPath
  lineCount path := tree.lineCount workingDirectory path.toPath

def workspace (tree : FileTree) (workingDirectory : AbsPath) (root : Path) : Workspace where
  tree := tree.sourceTree workingDirectory root
  workingDirectory := some workingDirectory.toPath

/-! ## Changes -/

/-- Puts an entry into the directory at a path. -/
def put (tree : FileTree) (directory : AbsPath) (name : Bytes) (entry : Node) : FileTree :=
  ⟨tree.root.modify (.insert name entry) directory.names⟩

/-- Goes from `here` along pieces and makes a directory for each name that has no entry. -/
def makeDirectories (tree : FileTree) (here : AbsPath) :
    List Bytes → Except IoError (FileTree × AbsPath)
  | [] => .ok (tree, here)
  | piece :: pieces =>
    match tree.walk none here [piece, Path.dot] with
    | .ok trail => tree.makeDirectories trail.path pieces
    | .error cause =>
      match (tree.node? here).bind (·.child? piece) with
      | some _ => .error cause
      | none =>
        if h : Path.IsName piece then
          (tree.put here piece (.directory [])).makeDirectories (here.child piece h) pieces
        else .error cause

/-- Writes a file at the end of pieces that begin at `here`. The directories on the way are made,
and a link at the end is followed. -/
def writePieces (tree : FileTree) (links : Nat) (here : AbsPath) (pieces : List Bytes)
    (content : Bytes) : Except IoError FileTree := do
  let name := pieces.getLastD []
  let (tree, directory) ← tree.makeDirectories here pieces.dropLast
  match (tree.node? directory).bind (·.child? name) with
  | some (.link target) =>
    match links with
    | 0 => .error .tooManyLinks
    | links + 1 => tree.writePieces links (startOf target directory) target.pieces content
  | some (.directory _) => .error .isDirectory
  | some .device => .ok tree
  | some (.file _) | none => .ok (tree.put directory name (.file content))

def writeFile (tree : FileTree) (workingDirectory : AbsPath) (path : Path) (content : Bytes) :
    Except IoError FileTree :=
  tree.writePieces maxLinks (startOf path workingDirectory) path.pieces content

/-- Makes a directory and the directories on the way to it. -/
def makeDirectory (tree : FileTree) (workingDirectory : AbsPath) (path : Path) :
    Except IoError FileTree :=
  (tree.makeDirectories (startOf path workingDirectory) path.pieces).map (·.1)

/-- Makes a link and the directories on the way to it. -/
def makeLink (tree : FileTree) (workingDirectory : AbsPath) (path target : Path) :
    Except IoError FileTree := do
  let (tree, directory) ←
    tree.makeDirectories (startOf path workingDirectory) path.pieces.dropLast
  return tree.put directory (path.pieces.getLastD []) (.link target)

/-- Removes what a path names; a link itself, not what it leads to. -/
def remove (tree : FileTree) (workingDirectory : AbsPath) (path : Path) :
    Except IoError FileTree := do
  let directory ← tree.walk none (startOf path workingDirectory) path.pieces.dropLast
  return ⟨tree.root.modify (.erase (path.pieces.getLastD [])) directory.path.names⟩

end FileTree

end ShellCoverage
