-- SUMMARY: The way to a place in a file tree, and where the pieces of a path lead from there.
import ShellCoverage.FileTree.Node

/-!
# Trails

A path is walked piece by piece. An empty piece and `.` stay where they are, `..` goes to the parent,
and a name goes to the entry of that name; every piece has to start in a directory. A link is
replaced by its target, which is walked from the directory that holds the link. The walk keeps its
trail, that is the nodes on the way from the root, so that going back to a parent needs no search.
-/

namespace ShellCoverage

/-- A way from the root of a file tree to a place in it, without `..` and without a link. -/
inductive Trail where
  /-- The root and what is there. -/
  | root (node : Node)
  /-- A name further on and what it leads to. -/
  | step (above : Trail) (name : Bytes) (isName : Path.IsName name) (node : Node)

namespace Trail

def node : Trail → Node
  | .root node => node
  | .step _ _ _ node => node

/-- The way to the directory that holds the place. The root is its own parent. -/
def parent : Trail → Trail
  | .root node => .root node
  | .step above .. => above

def top : Trail → Trail
  | .root node => .root node
  | .step above .. => above.top

/-- The names on the way, with `behind` following them. -/
def namesBefore (behind : List Bytes) : Trail → List Bytes
  | .root _ => behind
  | .step above name .. => above.namesBefore (name :: behind)

theorem namesBefore_eq (trail : Trail) (behind : List Bytes) :
    trail.namesBefore behind = trail.namesBefore [] ++ behind := by
  induction trail generalizing behind with
  | root => rfl
  | step above name isName node ih => simp [namesBefore, ih [name], ih (name :: behind)]

theorem isName_of_mem_namesBefore {trail : Trail} {behind : List Bytes} {name : Bytes}
    (h : ∀ name ∈ behind, Path.IsName name) (hname : name ∈ trail.namesBefore behind) :
    Path.IsName name := by
  induction trail generalizing behind with
  | root => exact h name hname
  | step above first isName node ih =>
    exact ih (List.forall_mem_cons.2 ⟨isName, h⟩) hname

def path (trail : Trail) : AbsPath where
  names := trail.namesBefore []
  isName _ := isName_of_mem_namesBefore fun _ h => absurd h List.not_mem_nil

theorem path_step (above : Trail) (name : Bytes) (isName : Path.IsName name) (node : Node) :
    (step above name isName node).path = above.path.child name isName :=
  AbsPath.ext (namesBefore_eq above [name])

/-- How long the path of the place is with one slash behind it. A name can follow there. -/
def lengthWithSlash : Trail → Nat
  | .root _ => 1
  | .step above name .. => above.lengthWithSlash + (name.length + 1)

theorem lengthWithSlash_eq (trail : Trail) :
    trail.lengthWithSlash = 1 + (trail.path.names.flatMap (Bytes.slash :: ·)).length := by
  induction trail with
  | root => rfl
  | step above name isName node ih =>
    simp [lengthWithSlash, path_step, AbsPath.child, ih, Nat.add_assoc]

/-- The path of an entry is that of its directory with a slash, and the name behind it. -/
theorem length_path_step (above : Trail) (name : Bytes) (isName : Path.IsName name) (node : Node) :
    (step above name isName node).path.length = above.lengthWithSlash + name.length := by
  rw [path_step, AbsPath.length_child, lengthWithSlash_eq]
  omega

/-! ## Walking -/

/-- Do pieces behind a name want a directory, before they come to the next name? A final slash or
`.` does, and so does a `..`. -/
def wantDirectory (pieces : List Bytes) : Bool :=
  match pieces.dropWhile fun piece => piece = [] ∨ piece = Path.dot with
  | [] => pieces ≠ []
  | piece :: _ => piece = Path.dotDot

/-- Is the path of an entry, with `slashes` slashes behind it, at or above a limit? -/
def reaches (limit : Option Nat) (here : Trail) (name : Bytes) (slashes : Nat) : Bool :=
  limit.any (· ≤ here.lengthWithSlash + name.length + slashes)

/-- Where pieces lead from a place, following at most `links` links. With a limit, each name is
asked for by the whole path to it, and with a slash behind it if it has to be a directory; these
paths stay below the limit. -/
def walk (limit : Option Nat) (links : Nat) (here : Trail) : List Bytes → Except IoError Trail
  | [] => .ok here
  | piece :: pieces =>
    if h : Path.IsName piece then
      if reaches limit here piece 0 then .error .nameTooLong
      else match here.node.entry piece with
        | .ok (.link target) =>
          match links with
          | 0 => .error .tooManyLinks
          | links + 1 =>
            (if target.isAbsolute then here.top else here).walk limit links
              (target.pieces ++ pieces)
        | found =>
          if wantDirectory pieces ∧ reaches limit here piece 1 then .error .nameTooLong
          else match found with
            | .error cause => .error cause
            | .ok (.directory entries) =>
              (step here piece h (.directory entries)).walk limit links pieces
            | .ok node =>
              if wantDirectory pieces then .error .notDirectory
              else (step here piece h node).walk limit links pieces
    else (if piece = Path.dotDot then here.parent else here).walk limit links pieces
termination_by pieces => (links, pieces.length)

end Trail

end ShellCoverage
