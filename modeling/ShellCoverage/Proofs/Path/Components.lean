-- SUMMARY: Canonical paths are told apart, ordered and found by their components.
import Mathlib.Data.List.Basic
import ShellCoverage.Proofs.Path.Canonical

/-!
# Components of paths

The components of a canonical path are the root and its names. So canonical paths stand in the order
of their components, and a path in any spelling has a canonical form exactly if it has the
components of one.
-/

namespace ShellCoverage

namespace Path

/-! ## Components in order -/

def Component.rank : Component → Nat
  | .root => 0
  | .here => 1
  | .up => 2
  | .name _ => 3

/-- Steps are ordered by their kind, and names byte by byte. -/
instance : LT Component where
  lt step step' := match step, step' with
    | .name name, .name name' => name < name'
    | step, step' => step.rank < step'.rank

theorem Component.name_lt_name {name name' : Bytes} :
    Component.name name < Component.name name' ↔ name < name' :=
  Iff.rfl

theorem Component.not_root_lt_root : ¬Component.root < Component.root :=
  Nat.lt_irrefl 0

theorem map_name_lt_map_name {names names' : List Bytes} :
    names.map Component.name < names'.map Component.name ↔ names < names' := by
  induction names generalizing names' with
  | nil => cases names' <;> simp
  | cons name names ih =>
    cases names' with
    | nil => simp
    | cons name' names' =>
      simp only [List.map_cons, List.cons_lt_cons_iff, Component.name_lt_name,
        Component.name.injEq, ih]

/-! ## Pieces -/

/-- A path that begins with a slash and has one before each name, and no more. -/
def IsCanonical (p : Path) : Prop :=
  p.bytes = [Bytes.slash] ∨
    ∃ names ≠ [], (∀ name ∈ names, IsName name) ∧ p.bytes = names.flatMap (Bytes.slash :: ·)

theorem slash_notMem_of_mem_splitOn {bytes piece : Bytes}
    (h : piece ∈ bytes.splitOn Bytes.slash) : Bytes.slash ∉ piece := by
  induction bytes generalizing piece with
  | nil => simp_all
  | cons b bytes ih =>
    rw [List.splitOn_cons_eq_if_modifyHead] at h
    split at h
    · obtain rfl | h := List.mem_cons.1 h
      · exact List.not_mem_nil
      · exact ih h
    · next hb =>
      cases hsplit : bytes.splitOn Bytes.slash with
      | nil => exact absurd hsplit (List.splitOn_ne_nil _ _)
      | cons first rest =>
        rw [hsplit] at h ih
        obtain rfl | h := List.mem_cons.1 h
        · rw [beq_iff_eq] at hb
          simp [Ne.symm hb, ih List.mem_cons_self]
        · exact ih (List.mem_cons_of_mem _ h)

theorem Component.ofPiece?_of_isName {name : Bytes} (h : IsName name) :
    ofPiece? name = some (.name name) := by
  simp [ofPiece?, h.1, h.2.2.1, h.2.2.2]

theorem Component.ofPiece?_ne_root (piece : Bytes) : ofPiece? piece ≠ some .root := by
  unfold ofPiece?
  split
  · simp
  · split <;> simp

/-- A relative path does not go through the root. -/
theorem root_notMem_components {p : Path} (h : ¬p.isAbsolute) : .root ∉ p.components := by
  have hpieces : Component.root ∉ p.pieces.filterMap Component.ofPiece? := by
    simp [List.mem_filterMap, Component.ofPiece?_ne_root]
  simp only [components, if_neg h]
  split <;> simp [hpieces]

/-- A piece that is neither left out nor `..` is a name. -/
theorem isName_of_mem_pieces {p : Path} (h : dotDot ∉ p.pieces) {piece : Bytes}
    (hpiece : piece ∈ p.pieces) : IsName piece ↔ ¬(piece = [] ∨ piece = dot) := by
  have hslash := slash_notMem_of_mem_splitOn hpiece
  have hup : piece ≠ dotDot := fun heq => h (heq ▸ hpiece)
  simp [IsName, hslash, hup]

/-- Without a `..`, the steps behind the root are the pieces that are names. -/
theorem filterMap_ofPiece? {p : Path} (h : dotDot ∉ p.pieces) :
    p.pieces.filterMap Component.ofPiece? =
      (p.pieces.filter (IsName ·)).map Component.name := by
  rw [← List.filterMap_eq_map, List.filterMap_filter]
  apply List.filterMap_congr
  intro piece hpiece
  have hname := isName_of_mem_pieces h hpiece
  have hup : piece ≠ dotDot := fun heq => h (heq ▸ hpiece)
  by_cases hdrop : piece = [] ∨ piece = dot
  · simp [Component.ofPiece?, hname, hdrop]
  · simp [Component.ofPiece?, hname, hdrop, hup]

end Path

namespace AbsPath

theorem isCanonical_toPath (p : AbsPath) : p.toPath.IsCanonical := by
  unfold toPath
  split
  · exact .inl rfl
  · next hne => exact .inr ⟨p.names, fun hnil => hne hnil, p.isName, rfl⟩

theorem filterMap_ofPiece?_names (p : AbsPath) :
    p.names.filterMap Path.Component.ofPiece? = p.names.map Path.Component.name := by
  rw [← List.filterMap_eq_map]
  exact List.filterMap_congr fun name hname =>
    Path.Component.ofPiece?_of_isName (p.isName name hname)

/-- A canonical path goes from the root through its names and takes no other step. -/
theorem components_toPath (p : AbsPath) :
    p.toPath.components = .root :: p.names.map Path.Component.name := by
  have hpieces : p.toPath.pieces.filterMap Path.Component.ofPiece? =
      p.names.map Path.Component.name := by
    rw [← filterMap_ofPiece?_names]
    unfold toPath Path.pieces
    split
    · next hnames =>
      rw [hnames]
      decide
    · rw [splitOn_flatMap_slash fun name hname => (p.isName name hname).2.1]
      rfl
  simp only [Path.components, p.isAbsolute_toPath, if_true, hpieces]
  rfl

/-- Canonical paths with the same steps are the same path. -/
theorem components_injective {p q : AbsPath} (h : p.toPath.components = q.toPath.components) :
    p = q := by
  rw [components_toPath, components_toPath, List.cons.injEq] at h
  exact ext (List.map_injective_iff.2 (fun _ _ => Path.Component.name.inj) h.2)

/-- Canonical paths are ordered as their components are. -/
theorem lt_iff_components_lt {p q : AbsPath} :
    p < q ↔ p.toPath.components < q.toPath.components := by
  simp only [components_toPath, List.cons_lt_cons_iff, Path.Component.not_root_lt_root, false_or,
    true_and, Path.map_name_lt_map_name]
  rfl

-- a directory comes before the files whose names go on behind its own, though not byte by byte
example :
    let inside : AbsPath := ⟨[Bytes.ofString "a", Bytes.ofString "b"], by decide⟩
    let beside : AbsPath := ⟨[Bytes.ofString "a.sh"], by decide⟩
    inside < beside ∧ beside.toPath.bytes < inside.toPath.bytes := by decide

/-- The canonical form of a path is the canonical path with the same components. -/
theorem ofPath?_eq_some_iff {q : Path} {p : AbsPath} :
    ofPath? q = some p ↔ q.components = p.toPath.components := by
  rw [components_toPath]
  by_cases habsolute : q.isAbsolute
  · have hcomponents : q.components =
        .root :: q.pieces.filterMap Path.Component.ofPiece? := by
      simp only [Path.components, habsolute, if_true]
      rfl
    rw [hcomponents, List.cons.injEq]
    by_cases hup : Path.dotDot ∈ q.pieces
    · -- a step up is no name
      have hmem : Path.Component.up ∈ q.pieces.filterMap Path.Component.ofPiece? :=
        List.mem_filterMap.2 ⟨_, hup, by decide⟩
      constructor
      · simp [ofPath?, hup]
      · rintro ⟨-, heq⟩
        simp [heq] at hmem
    · rw [Path.filterMap_ofPiece? hup, (List.map_injective_iff.2 fun _ _ =>
        Path.Component.name.inj).eq_iff]
      simp [ofPath?, habsolute, hup, AbsPath.ext_iff]
  · have hroot := Path.root_notMem_components habsolute
    constructor
    · simp [ofPath?, habsolute]
    · intro heq
      simp [heq] at hroot

end AbsPath

end ShellCoverage
