-- SUMMARY: Paths as they are spelled, their components, and how they are shown.
import ShellCoverage.Text.Quoted

/-!
# Paths

A path is a byte string in some spelling. Two spellings are the same path exactly if they have the
same components: repeated and final slashes do not count, nor does a `.`, except one that begins a
relative path. A `..` is a component of its own and is not resolved here.
-/

namespace ShellCoverage

/-- A path as it is spelled. -/
structure Path where
  bytes : Bytes
  deriving DecidableEq, Repr

namespace Path

/-- The name that stands for the directory itself. -/
def dot : Bytes := [0x2e]

/-- The name that stands for the directory above. -/
def dotDot : Bytes := [0x2e, 0x2e]

def ofString (s : String) : Path :=
  ⟨Bytes.ofString s⟩

def isAbsolute (p : Path) : Bool :=
  p.bytes.head? == some Bytes.slash

/-- What stands between the slashes of a path, from left to right. -/
def pieces (p : Path) : List Bytes :=
  p.bytes.splitOn Bytes.slash

/-- `p`, taken relative to `base` unless it is absolute. -/
def within (p base : Path) : Path :=
  if p.isAbsolute then p
  else if base.bytes = [] ∨ base.bytes.getLast? = some Bytes.slash then ⟨base.bytes ++ p.bytes⟩
  else ⟨base.bytes ++ Bytes.slash :: p.bytes⟩

/-! ## Components -/

/-- A step of a path. -/
inductive Component where
  /-- The root of the file system. -/
  | root
  /-- The directory that a relative path starts from, where the path names it. -/
  | here
  /-- The directory above. -/
  | up
  /-- A name. -/
  | name (bytes : Bytes)
  deriving DecidableEq, Repr

/-- The step that a piece stands for, if it counts as one. -/
def Component.ofPiece? (piece : Bytes) : Option Component :=
  if piece = [] ∨ piece = dot then none
  else if piece = dotDot then some .up
  else some (.name piece)

def components (p : Path) : List Component :=
  let start : List Component :=
    if p.isAbsolute then [.root] else if p.pieces.head? = some dot then [.here] else []
  start ++ p.pieces.filterMap Component.ofPiece?

/-! ## Showing paths -/

/-- The text of a path, with a replacement character for what is no text. -/
def display (p : Path) : String :=
  Utf8.lossy p.bytes

/-- The path in quotes, with nothing lost. -/
def quoted (p : Path) : String :=
  Text.quoted p.bytes

end Path

end ShellCoverage
