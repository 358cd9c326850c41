-- SUMMARY: An expanded path leads to the place that the name was meant for, if there are no links.
import Mathlib.Data.List.Flatten
import ShellCoverage.Proofs.FileTree.Walk
import ShellCoverage.Proofs.Path.Composition

/-!
# Where expanded paths lead

Expansion reads the pieces of a path and never looks at a file. Still, whatever place the pieces lead
to in a directory tree, the expanded path leads to the same place: the names that expansion keeps
are those on the way, and a name is dropped only where the walk went back. So in a tree without
links the questions of an aggregation are about the file that was named, and are answered as they
would be for it.
-/

namespace ShellCoverage

namespace Path

/-! ## Spelling -/

/-- An absolute path has a slash before each piece behind the first, which is empty. -/
theorem exists_pieces_of_isAbsolute {p : Path} (h : p.isAbsolute) :
    ∃ rest, p.pieces = [] :: rest ∧ p.bytes = rest.flatMap (Bytes.slash :: ·) := by
  obtain ⟨bytes⟩ := p
  cases bytes with
  | nil => cases h
  | cons b bytes =>
    have hb : b = Bytes.slash := by simpa [isAbsolute] using h
    have hpieces : pieces ⟨b :: bytes⟩ = [] :: bytes.splitOn Bytes.slash := by
      rw [hb]
      exact List.splitOn_append_cons_self [] bytes
    refine ⟨_, hpieces, ?_⟩
    rw [AbsPath.flatMap_slash_eq_intercalate, ← hpieces]
    exact (List.intercalate_splitOn _).symm

/-- The canonical form of an absolute path is spelled with bytes of the path, in their order. -/
theorem bytes_normalize_sublist {p : Path} (h : p.isAbsolute) :
    p.normalize.toPath.bytes.Sublist p.bytes := by
  obtain ⟨rest, hpieces, hbytes⟩ := exists_pieces_of_isAbsolute h
  have hnames : p.normalize.names.Sublist rest := by
    have hsublist : p.normalize.names.Sublist ([] :: rest) :=
      hpieces ▸ reverse_foldl_climb_sublist p.pieces []
    obtain hsublist | ⟨names, heq, -⟩ := List.sublist_cons_iff.1 hsublist
    · exact hsublist
    · exact absurd rfl (p.normalize.isName [] (heq ▸ List.mem_cons_self)).1
  unfold AbsPath.toPath
  split
  · rw [List.singleton_sublist]
    exact List.mem_of_mem_head? (by simpa [isAbsolute] using h)
  · rw [hbytes]
    exact hnames.flatMap _

/-- With a working directory, expansion is a matter of spelling and never fails. -/
theorem expand_some (name root directory : Path) :
    name.expand root (some directory) = .ok ((name.within root).within directory).normalize := by
  cases hjoined : (name.within root).isAbsolute with
  | true =>
    have hwithin : (name.within root).within directory = name.within root := if_pos hjoined
    simp only [expand, hjoined, if_true, hwithin]
  | false => simp [expand, hjoined]

end Path

namespace Trail

/-! ## Walking along an expanded path -/

section Expanded

variable {node : Node} {found : Trail}

theorem isDirectory_of_follow?_nil_cons {rest : List Bytes}
    (h : (root node).follow? ([] :: rest) = some found) : node.isDirectory := by
  rw [follow?_cons, Option.bind_eq_some_iff] at h
  obtain ⟨next, hnext, -⟩ := h
  exact (enter?_eq_some_iff.1 hnext).1

/-- From a directory, the empty pieces of a canonical path lead nowhere. -/
theorem follow?_pieces_toPath (h : node.isDirectory) (p : AbsPath) :
    (root node).follow? p.toPath.pieces = (root node).follow? p.names := by
  have hnil : ∀ pieces, (root node).follow? ([] :: pieces) = (root node).follow? pieces := by
    intro pieces
    have henter : (root node).enter? [] = some (root node) :=
      enter?_eq_some_iff.2 ⟨h, .inr (.inr ⟨by decide, by decide, rfl⟩)⟩
    rw [follow?_cons, henter, Option.bind_some]
  unfold AbsPath.toPath Path.pieces
  split
  · next hnames =>
    have hroot : [Bytes.slash].splitOn Bytes.slash = [[], []] :=
      @AbsPath.splitOn_flatMap_slash [[]] (by simp)
    rw [hroot, hnames, hnil, hnil]
  · rw [AbsPath.splitOn_flatMap_slash fun name hname => (p.isName name hname).2.1, hnil]

/-- A place that an absolute path leads to has the canonical form of the path, which leads there
too. -/
theorem follow?_normalize {p : Path} (habsolute : p.isAbsolute)
    (h : (root node).follow? p.pieces = some found) :
    found.path = p.normalize ∧ (root node).follow? p.normalize.toPath.pieces = some found := by
  have hpath : found.path = p.normalize := by
    apply AbsPath.ext
    rw [← List.reverse_inj, names_follow? h]
    exact (List.reverse_reverse _).symm
  obtain ⟨rest, hpieces, -⟩ := Path.exists_pieces_of_isAbsolute habsolute
  have hroot : Reached node (.root node) := rfl
  have hreached := hroot.follow? h
  rw [hpieces] at h
  refine ⟨hpath, ?_⟩
  rw [follow?_pieces_toPath (isDirectory_of_follow?_nil_cons h), ← hpath]
  exact hreached

end Expanded

end Trail

/-! ## Looking up an expanded path -/

namespace FileTree

section Locate

variable {tree : FileTree} {path : Path} {node : Node}

/-- An absolute path is looked up from the root, wherever the lookup is made. -/
theorem locate_of_isAbsolute (habsolute : path.isAbsolute) (here : AbsPath) :
    tree.locate here path =
      if Bytes.nul ∈ path.bytes then .error .nulInPath
      else if maxPath ≤ path.bytes.length then .error .nameTooLong
      else ((Trail.root tree.root).walk none maxLinks path.pieces).map Trail.node := by
  have hne : path.bytes ≠ [] := by
    intro hnil
    rw [Path.isAbsolute, hnil] at habsolute
    cases habsolute
  have hwalk : tree.walk none (startOf path here) path.pieces =
      (Trail.root tree.root).walk none maxLinks path.pieces := by
    rw [startOf, if_pos habsolute, walk, AbsPath.root, Trail.walk]
    rfl
  rw [locate, if_neg hne, hwalk]

/-- Without links, a lookup finds what the pieces of the path lead to, unless the path has a NUL or
is too long, or a piece of it is. -/
theorem locate_eq_ok_iff (hdirectory : tree.root.isDirectory) (hlinkFree : tree.root.LinkFree)
    (habsolute : path.isAbsolute) (here : AbsPath) :
    tree.locate here path = .ok node ↔
      Bytes.nul ∉ path.bytes ∧ path.bytes.length < maxPath ∧
        (∀ piece ∈ path.pieces, piece.length ≤ Node.maxName) ∧
        ∃ found, (Trail.root tree.root).follow? path.pieces = some found ∧ found.node = node := by
  have hslash : ∀ piece ∈ path.pieces, Bytes.slash ∉ piece :=
    fun _ => Path.slash_notMem_of_mem_splitOn
  have hwalk : ∀ found, (Trail.root tree.root).walk none maxLinks path.pieces = .ok found ↔
      (Trail.root tree.root).follow? path.pieces = some found ∧
        ∀ piece ∈ path.pieces, piece.length ≤ Node.maxName :=
    fun _ => Trail.walk_eq_ok_iff (.root hlinkFree) hdirectory hslash maxLinks
  have hmap : ((Trail.root tree.root).walk none maxLinks path.pieces).map Trail.node = .ok node ↔
      ∃ found, (Trail.root tree.root).walk none maxLinks path.pieces = .ok found ∧
        found.node = node := by
    cases (Trail.root tree.root).walk none maxLinks path.pieces <;> simp [Except.map]
  rw [locate_of_isAbsolute habsolute]
  by_cases hnul : Bytes.nul ∈ path.bytes
  · simp [hnul]
  · by_cases hlong : maxPath ≤ path.bytes.length
    · simp [hnul, Nat.not_lt.2 hlong, hlong]
    · rw [if_neg hnul, if_neg hlong, hmap]
      simp only [hwalk, hnul, not_false_eq_true, Nat.lt_of_not_le hlong, true_and]
      constructor
      · rintro ⟨found, ⟨hfound, hshort⟩, hnode⟩
        exact ⟨hshort, found, hfound, hnode⟩
      · rintro ⟨hshort, found, hfound, hnode⟩
        exact ⟨found, ⟨hfound, hshort⟩, hnode⟩

/-- Without links, a lookup of the expanded path finds what a lookup of the path itself finds. -/
theorem locate_normalize (hdirectory : tree.root.isDirectory) (hlinkFree : tree.root.LinkFree)
    (habsolute : path.isAbsolute) {here : AbsPath} (h : tree.locate here path = .ok node) :
    tree.locate here path.normalize.toPath = .ok node := by
  rw [locate_eq_ok_iff hdirectory hlinkFree habsolute] at h
  obtain ⟨hnul, hlength, hshort, found, hfound, hnode⟩ := h
  have hbytes := Path.bytes_normalize_sublist habsolute
  rw [locate_eq_ok_iff hdirectory hlinkFree path.normalize.isAbsolute_toPath]
  refine ⟨fun hmem => hnul (hbytes.subset hmem), Nat.lt_of_le_of_lt hbytes.length_le hlength, ?_, found,
    (Trail.follow?_normalize habsolute hfound).2, hnode⟩
  intro piece hpiece
  by_cases hnil : piece = []
  · rw [hnil]
    exact Nat.zero_le _
  · have hstep : piece ∈ path.normalize.toPath.steps :=
      List.mem_filter.2 ⟨hpiece, by simpa using hnil⟩
    rw [AbsPath.steps_toPath, Path.normalize_eq_ofSteps] at hstep
    exact hshort piece (List.mem_filter.1 (AbsPath.mem_steps_of_mem_ofSteps hstep)).1

end Locate

end FileTree

/-! ## Questions about an expanded path -/

/-- A record asks about the path that its file name is expanded to, and about no other. -/
theorem Pass.calls_record {w : Workspace} {record : Record} {p : AbsPath}
    (h : record.filename.expand w.tree.root w.workingDirectory = .ok p) (pass : Pass) :
    (pass.record w record).calls = .pathKind p :: pass.calls ∨
      (pass.record w record).calls = .lineCount p :: .pathKind p :: pass.calls := by
  have hcount : ∀ (pass : Pass) (lines : Nat),
      (pass.count p record.line lines).calls = pass.calls := by
    intro pass lines
    unfold count
    split <;> rfl
  cases hkind : w.tree.pathKind p with
  | directory | other =>
    left
    simp only [Pass.record, h, hkind]
    rfl
  | file =>
    simp only [Pass.record, h, hkind, countIn]
    split
    · left
      rw [hcount]
      rfl
    · right
      cases w.tree.lineCount p with
      | error cause => rfl
      | ok lines =>
        rw [hcount]
        rfl

/-- An absolute path is built of the name, the root and the working directory, as far as each is
needed, and wherever its pieces lead in a directory tree, the expanded name leads to the same place.
About the expanded name and no other path a record asks, and in a file system without links it is
answered as for the path itself, if that is found. -/
theorem FileTree.expand_same_place {directory : Path} (habsolute : directory.isAbsolute)
    (name root : Path) :
    let raw := (name.within root).within directory
    ∃ p, name.expand root (some directory) = .ok p ∧
      (∀ node found, (Trail.root node).follow? raw.pieces = some found →
        (Trail.root node).follow? p.toPath.pieces = some found ∧ found.path = p) ∧
      (∀ (w : Workspace) (pass : Pass) (record : Record), w.tree.root = root →
        w.workingDirectory = some directory → record.filename = name →
        (pass.record w record).calls = .pathKind p :: pass.calls ∨
          (pass.record w record).calls = .lineCount p :: .pathKind p :: pass.calls) ∧
      ∀ (tree : FileTree) (here : AbsPath) (node : Node), tree.root.isDirectory →
        tree.root.LinkFree → tree.locate here raw = .ok node →
        tree.locate here p.toPath = .ok node ∧
          (tree.sourceTree here root).pathKind p = tree.kind here raw ∧
          (tree.sourceTree here root).lineCount p = tree.lineCount here raw := by
  intro raw
  have hraw : raw.isAbsolute := by simp [raw, Path.isAbsolute_within, habsolute]
  have hexpand : name.expand root (some directory) = .ok raw.normalize :=
    Path.expand_some name root directory
  refine ⟨raw.normalize, hexpand, ?_, ?_, ?_⟩
  · intro node found hfound
    obtain ⟨hpath, hfollow⟩ := Trail.follow?_normalize hraw hfound
    exact ⟨hfollow, hpath⟩
  · rintro w pass record rfl hdirectory rfl
    exact Pass.calls_record (hdirectory ▸ hexpand) pass
  · intro tree here node hroot hlinkFree hnode
    have hlocate := locate_normalize hroot hlinkFree hraw hnode
    refine ⟨hlocate, ?_, ?_⟩
    · simp only [sourceTree, kind, hlocate, hnode]
    · simp only [sourceTree, lineCount, content, hlocate, hnode]

/-- A name that goes back from a directory beside it, a root that goes up past the root of the file
system, and a working directory with a final slash. -/
theorem FileTree.expand_same_place_detours :
    let a := Bytes.ofString "a.sh"
    let d := Bytes.ofString "d"
    let e := Bytes.ofString "e"
    let script : Node := .file [97, 10]
    let node : Node := .directory [(d, .directory [(e, .directory []), (a, script)]), (e, .device)]
    let directory := Path.ofString "/d/e/"
    let name := Path.ofString "./e//../a.sh"
    let root := Path.ofString "../../../d/."
    let raw := (name.within root).within directory
    let inside : Trail := .step (.root node) d (by decide)
      (.directory [(e, .directory []), (a, script)])
    let found := Trail.step inside a (by decide) script
    directory.isAbsolute ∧ (Trail.root node).follow? raw.pieces = some found ∧
    ∃ p, name.expand root (some directory) = .ok p ∧ p.toPath = .ofString "/d/a.sh" ∧
      (Trail.root node).follow? p.toPath.pieces = some found ∧
      node.isDirectory ∧ node.LinkFree ∧
      FileTree.locate ⟨node⟩ .root raw = .ok script ∧
      (FileTree.sourceTree ⟨node⟩ .root root).pathKind p = .file ∧
      (FileTree.sourceTree ⟨node⟩ .root root).lineCount p = .ok 1 := by
  intro a d e script node directory name root raw inside found
  have habsolute : directory.isAbsolute := by decide
  have hfound : (Trail.root node).follow? raw.pieces = some found := by rfl
  have hlinkFree : node.LinkFree := by
    refine .directory (List.forall_mem_cons.2 ⟨.directory ?_, by simpa using .device⟩)
    exact List.forall_mem_cons.2 ⟨.directory (by simp), by simpa using .file _⟩
  obtain ⟨p, hp, hsame, -, hanswers⟩ := expand_same_place habsolute name root
  have hspelling : p.toPath = .ofString "/d/a.sh" := by
    have hnormal : name.expand root (some directory) =
        .ok ⟨[d, a], by decide⟩ := by decide
    rw [hnormal] at hp
    cases hp
    decide
  have hraw : FileTree.locate ⟨node⟩ .root raw = .ok script :=
    (locate_eq_ok_iff rfl hlinkFree (by decide) .root).2
      ⟨by decide, by decide, by decide, found, hfound, rfl⟩
  obtain ⟨-, hkind, hlines⟩ := hanswers ⟨node⟩ .root script rfl hlinkFree hraw
  refine ⟨habsolute, hfound, p, hp, hspelling, (hsame node found hfound).1, rfl, hlinkFree, hraw,
    hkind.trans ?_, hlines.trans ?_⟩
  · rw [kind, hraw]
  · rw [lineCount, content, hraw]
    decide

end ShellCoverage
