-- SUMMARY: Walking a directory tree piece by piece, and lookups in a tree that has no links.
import Mathlib.Data.List.Basic
import ShellCoverage.FileTree
import ShellCoverage.Proofs.Path.Components

/-!
# Walking a directory tree

Without links, a walk is a run of steps that each start in a directory: an empty piece and `.` stay,
`..` goes to the parent, and a name goes to the entry of that name. The names on the way spell the
place that is reached, and walking along them reaches it too. A lookup does the same as a walk in a
tree without links, if no piece is longer than a name can be.
-/

namespace ShellCoverage

def Node.isDirectory : Node → Bool
  | .directory _ => true
  | .file _ | .link _ | .device => false

namespace Trail

/-! ## Steps -/

/-- Where a piece leads from a place. Only a directory leads anywhere, and no link is followed. -/
def enter? (here : Trail) (piece : Bytes) : Option Trail :=
  if here.node.isDirectory then
    if piece = Path.dotDot then some here.parent
    else if h : Path.IsName piece then (here.node.child? piece).map (step here piece h)
    else some here
  else none

def follow? (here : Trail) (pieces : List Bytes) : Option Trail :=
  pieces.foldlM enter? here

section Follow

variable {here found : Trail} {piece : Bytes} {pieces : List Bytes}

@[simp]
theorem follow?_nil (here : Trail) : here.follow? [] = some here := rfl

theorem follow?_cons (here : Trail) (piece : Bytes) (pieces : List Bytes) :
    here.follow? (piece :: pieces) = (here.enter? piece).bind (·.follow? pieces) := rfl

/-- What leads along two parts leads along the first and from there along the second. -/
theorem follow?_append (here : Trail) (pieces more : List Bytes) :
    here.follow? (pieces ++ more) = (here.follow? pieces).bind (·.follow? more) :=
  List.foldlM_append

/-- A step is taken in a directory: it goes up, on to an entry, or nowhere. -/
theorem enter?_eq_some_iff : here.enter? piece = some found ↔
    here.node.isDirectory ∧
      ((piece = Path.dotDot ∧ found = here.parent) ∨
        (∃ (h : Path.IsName piece) (node : Node), here.node.child? piece = some node ∧
          found = step here piece h node) ∨
        (piece ≠ Path.dotDot ∧ ¬Path.IsName piece ∧ found = here)) := by
  unfold enter?
  cases here.node.isDirectory with
  | false => simp
  | true =>
    by_cases hup : piece = Path.dotDot
    · have hname : ¬Path.IsName piece := fun h => h.2.2.2 hup
      simp [hup, hup ▸ hname, eq_comm]
    · by_cases hname : Path.IsName piece
      · simp [hup, hname, Option.map_eq_some_iff, eq_comm (b := found)]
      · simp [hup, hname, eq_comm]

/-! ## The names on the way -/

/-- Going up takes the last name away, and stays at the root. -/
theorem names_parent (here : Trail) :
    here.parent.path.names.reverse = here.path.names.reverse.tail := by
  cases here with
  | root node => rfl
  | step above name isName node => simp [path_step, AbsPath.child, parent]

/-- The names on the way are those that are left when the pieces are read by their spelling. -/
theorem names_enter? (h : here.enter? piece = some found) :
    found.path.names.reverse = Path.climb here.path.names.reverse piece := by
  obtain ⟨-, ⟨rfl, rfl⟩ | ⟨hname, node, -, rfl⟩ | ⟨hup, hname, rfl⟩⟩ :=
    enter?_eq_some_iff.1 h
  · exact names_parent here
  · simp [Path.climb_of_isName hname, path_step, AbsPath.child]
  · simp [Path.climb, hup, hname]

/-- The place that pieces lead to has the names that its pieces give by their spelling alone. -/
theorem names_follow? (h : here.follow? pieces = some found) :
    found.path.names.reverse = pieces.foldl Path.climb here.path.names.reverse := by
  induction pieces generalizing here with
  | nil =>
    cases h
    rfl
  | cons piece pieces ih =>
    rw [follow?_cons, Option.bind_eq_some_iff] at h
    obtain ⟨next, hnext, hrest⟩ := h
    rw [ih hrest, names_enter? hnext, List.foldl_cons]

/-- The place is what the names on the way lead to. -/
def Reached (node : Node) (here : Trail) : Prop :=
  (root node).follow? here.path.names = some here

theorem Reached.enter? {node : Node} (hhere : Reached node here)
    (h : here.enter? piece = some found) : Reached node found := by
  obtain ⟨-, ⟨-, rfl⟩ | ⟨hname, entry, -, rfl⟩ | ⟨-, -, rfl⟩⟩ := enter?_eq_some_iff.1 h
  · cases here with
    | root => exact hhere
    | step above name isName entry =>
      rw [Reached, path_step, AbsPath.child, follow?_append, Option.bind_eq_some_iff] at hhere
      obtain ⟨above', habove, hentry⟩ := hhere
      rw [follow?_cons, Option.bind_eq_some_iff] at hentry
      obtain ⟨next, hnext, hlast⟩ := hentry
      cases hlast
      -- the step to a name is the only one that adds it
      obtain ⟨-, ⟨rfl, -⟩ | ⟨_, _, _, heq⟩ | ⟨-, hnot, -⟩⟩ := enter?_eq_some_iff.1 hnext
      · exact absurd rfl isName.2.2.2
      · cases heq
        exact habove
      · exact absurd isName hnot
  · rw [Reached, path_step, AbsPath.child, follow?_append, hhere, Option.bind_some, follow?_cons, h]
    rfl
  · exact hhere

theorem Reached.follow? {node : Node} (hhere : Reached node here)
    (h : here.follow? pieces = some found) : Reached node found := by
  induction pieces generalizing here with
  | nil =>
    cases h
    exact hhere
  | cons piece pieces ih =>
    rw [follow?_cons, Option.bind_eq_some_iff] at h
    obtain ⟨next, hnext, hrest⟩ := h
    exact ih (hhere.enter? hnext) hrest

end Follow

end Trail

/-! ## Lookups without links -/

/-- Nothing in the tree is a link. -/
inductive Node.LinkFree : Node → Prop
  | file (content : Bytes) : LinkFree (.file content)
  | device : LinkFree .device
  | directory {entries : List (Bytes × Node)} (h : ∀ e ∈ entries, LinkFree e.2) :
    LinkFree (.directory entries)

theorem Node.LinkFree.child? {node entry : Node} (h : node.LinkFree) {name : Bytes}
    (hentry : node.child? name = some entry) : entry.LinkFree := by
  cases h with
  | file | device => cases hentry
  | directory h =>
    obtain ⟨front, back, rfl, -⟩ := List.lookup_eq_some_iff.1 hentry
    exact h (name, entry) (by simp)

/-- An entry is found by its name unless the name is too long. -/
theorem Node.entry_eq_ok_iff {node entry : Node} (h : node.isDirectory) {name : Bytes} :
    node.entry name = .ok entry ↔ node.child? name = some entry ∧ name.length ≤ maxName := by
  cases node with
  | directory entries =>
    unfold Node.entry
    by_cases hlong : maxName < name.length
    · simp [hlong]
    · cases (directory entries).child? name <;> simp [hlong, Nat.le_of_not_lt]
  | file | link | device => cases h

/-- Nothing but a directory has entries. -/
theorem Node.entry_of_not_isDirectory {node : Node} (h : ¬node.isDirectory) (name : Bytes) :
    node.entry name = .error .notDirectory := by
  cases node with
  | directory entries => exact absurd rfl h
  | file | link | device => rfl

namespace Trail

/-- There is no link on the way or beyond, and all above the place are directories. -/
inductive Plain : Trail → Prop
  | root {node : Node} (hnode : node.LinkFree) : Plain (.root node)
  | step {above : Trail} {name : Bytes} {isName : Path.IsName name} {node : Node}
    (habove : Plain above) (hdirectory : above.node.isDirectory) (hnode : node.LinkFree) :
    Plain (.step above name isName node)

section Walk

variable {here found : Trail} {piece : Bytes} {pieces : List Bytes}

/-- What is at a place without links holds no link. -/
theorem Plain.linkFree (h : here.Plain) : here.node.LinkFree := by
  cases h with
  | root hnode => exact hnode
  | step habove hdirectory hnode => exact hnode

/-- Above a directory is a directory. -/
theorem Plain.parent (h : here.Plain) (hdirectory : here.node.isDirectory) :
    here.parent.Plain ∧ here.parent.node.isDirectory := by
  cases h with
  | root hnode => exact ⟨.root hnode, hdirectory⟩
  | step habove habove' hnode => exact ⟨habove, habove'⟩

@[simp]
theorem reaches_none (here : Trail) (name : Bytes) (slashes : Nat) :
    reaches none here name slashes = false := rfl

/-- What is no directory leads nowhere. -/
theorem follow?_of_not_isDirectory (h : ¬here.node.isDirectory) :
    here.follow? pieces = some found ↔ pieces = [] ∧ here = found := by
  cases pieces with
  | nil => simp
  | cons piece pieces =>
    have henter : here.enter? piece = none := if_neg h
    simp [follow?_cons, henter]

/-- A piece without a slash that is no name and does not go up stays where it is. -/
theorem blank_of_not_isName (hslash : Bytes.slash ∉ piece) (hname : ¬Path.IsName piece)
    (hup : piece ≠ Path.dotDot) : piece = [] ∨ piece = Path.dot := by
  by_contra hnot
  rw [not_or] at hnot
  exact hname ⟨hnot.1, hslash, hnot.2, hup⟩

/-- Behind a blank piece, as many directories are wanted, unless it is the last. -/
theorem wantDirectory_cons_of_blank (hblank : piece = [] ∨ piece = Path.dot) :
    wantDirectory (piece :: pieces) = (decide (pieces = []) || wantDirectory pieces) := by
  have hdrop : (piece :: pieces).dropWhile (fun p => p = [] ∨ p = Path.dot) =
      pieces.dropWhile fun p => p = [] ∨ p = Path.dot :=
    List.dropWhile_cons_of_pos (by simpa using hblank)
  unfold wantDirectory
  rw [hdrop]
  cases pieces with
  | nil => rfl
  | cons next pieces => split <;> simp

/-- If pieces want no directory, a lookup goes on from what is none only at their end: else they
come to a name. -/
theorem walk_of_not_isDirectory (h : ¬here.node.isDirectory)
    (hslash : ∀ piece ∈ pieces, Bytes.slash ∉ piece) (hwant : wantDirectory pieces = false)
    (links : Nat) : here.walk none links pieces = .ok found ↔ pieces = [] ∧ here = found := by
  induction pieces with
  | nil => simp [walk]
  | cons piece pieces ih =>
    rw [walk]
    by_cases hname : Path.IsName piece
    · simp [hname, Node.entry_of_not_isDirectory h]
    · have hup : piece ≠ Path.dotDot := by
        rintro rfl
        cases hwant
      rw [wantDirectory_cons_of_blank
        (blank_of_not_isName (hslash piece List.mem_cons_self) hname hup), Bool.or_eq_false_iff,
        decide_eq_false_iff_not] at hwant
      rw [dif_neg hname, if_neg hup,
        ih (fun p hp => hslash p (List.mem_cons_of_mem _ hp)) hwant.2]
      simp [hwant.1]

/-- A name leads a lookup to the entry of that name, if that is a directory or none is wanted. -/
theorem walk_name_eq_ok_iff (hhere : here.Plain) (hdirectory : here.node.isDirectory)
    (hname : Path.IsName piece) (links : Nat) :
    here.walk none links (piece :: pieces) = .ok found ↔
      ∃ node, (here.node.child? piece = some node ∧ piece.length ≤ Node.maxName) ∧
        (node.isDirectory ∨ wantDirectory pieces = false) ∧
        (step here piece hname node).walk none links pieces = .ok found := by
  simp only [← Node.entry_eq_ok_iff hdirectory]
  rw [walk, dif_pos hname]
  cases hentry : here.node.entry piece with
  | error cause => simp
  | ok node =>
    have hlinkFree := hhere.linkFree.child? ((Node.entry_eq_ok_iff hdirectory).1 hentry).1
    cases node with
    | link target => cases hlinkFree
    | directory entries => simp [Node.isDirectory]
    | file | device => cases hwant : wantDirectory pieces <;> simp [Node.isDirectory]

/-- A name leads on exactly if the directory has an entry of that name from which the rest leads on.
-/
theorem follow?_name_eq_some_iff (hdirectory : here.node.isDirectory)
    (hname : Path.IsName piece) : here.follow? (piece :: pieces) = some found ↔
      ∃ node, here.node.child? piece = some node ∧
        (step here piece hname node).follow? pieces = some found := by
  have henter : here.enter? piece = (here.node.child? piece).map (step here piece hname) := by
    rw [enter?, if_pos hdirectory, if_neg hname.2.2.2, dif_pos hname]
  rw [follow?_cons, henter]
  cases here.node.child? piece <;> simp

/-- Without links, a lookup leads where the pieces lead, unless a piece is too long for a name. -/
theorem walk_eq_ok_iff (hhere : here.Plain) (hdirectory : here.node.isDirectory)
    (hslash : ∀ piece ∈ pieces, Bytes.slash ∉ piece) (links : Nat) :
    here.walk none links pieces = .ok found ↔
      here.follow? pieces = some found ∧ ∀ piece ∈ pieces, piece.length ≤ Node.maxName := by
  induction pieces generalizing here with
  | nil => simp [walk]
  | cons piece pieces ih =>
    obtain ⟨hpiece, hrest⟩ := List.forall_mem_cons.1 hslash
    rw [List.forall_mem_cons]
    by_cases hname : Path.IsName piece
    · have hstep : ∀ node, here.node.child? piece = some node →
          ((node.isDirectory ∨ wantDirectory pieces = false) ∧
            (step here piece hname node).walk none links pieces = .ok found ↔
          (step here piece hname node).follow? pieces = some found ∧
            ∀ piece ∈ pieces, piece.length ≤ Node.maxName) := by
        intro node hchild
        by_cases hnode : node.isDirectory
        · have hplain : (step here piece hname node).Plain :=
            .step hhere hdirectory (hhere.linkFree.child? hchild)
          simp [hnode, ih hplain hnode hrest]
        · -- the lookup ends here as the walk does, if no directory is wanted
          have hhere' : ¬(step here piece hname node).node.isDirectory := hnode
          rw [follow?_of_not_isDirectory hhere']
          constructor
          · rintro ⟨hwant, hwalk⟩
            have hwant := hwant.resolve_left hnode
            obtain ⟨rfl, rfl⟩ := (walk_of_not_isDirectory hhere' hrest hwant links).1 hwalk
            simp
          · rintro ⟨⟨rfl, rfl⟩, -⟩
            exact ⟨.inr rfl, by rw [walk]⟩
      rw [walk_name_eq_ok_iff hhere hdirectory hname, follow?_name_eq_some_iff hdirectory hname]
      constructor
      · rintro ⟨node, ⟨hchild, hshort⟩, hwalk⟩
        obtain ⟨hfollow, hshorts⟩ := (hstep node hchild).1 hwalk
        exact ⟨⟨node, hchild, hfollow⟩, hshort, hshorts⟩
      · rintro ⟨⟨node, hchild, hfollow⟩, hshort, hshorts⟩
        exact ⟨node, ⟨hchild, hshort⟩, (hstep node hchild).2 ⟨hfollow, hshorts⟩⟩
    · rw [walk, dif_neg hname, follow?_cons, enter?, if_pos hdirectory, dif_neg hname]
      by_cases hup : piece = Path.dotDot
      · obtain ⟨hparent, hparent'⟩ := hhere.parent hdirectory
        have hshort : Path.dotDot.length ≤ Node.maxName := by decide
        simp [hup, ih hparent hparent' hrest, hshort]
      · have hshort : piece.length ≤ Node.maxName := by
          obtain rfl | rfl := blank_of_not_isName hpiece hname hup <;> decide
        simp [hup, ih hhere hdirectory hrest, hshort]

end Walk

end Trail

end ShellCoverage
