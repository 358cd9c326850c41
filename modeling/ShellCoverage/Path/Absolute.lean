-- SUMMARY: Absolute paths in canonical form and their order.
import ShellCoverage.Path.Basic

/-!
# Absolute paths

An absolute path in canonical form is the list of the names from the root down. It is spelled with
one slash before each name, and the root alone as a single slash. Paths are ordered name by name,
so that everything in a directory stands together.
-/

namespace ShellCoverage

/-- Can the byte string name an entry of a directory? -/
def Path.IsName (name : Bytes) : Prop :=
  name ≠ [] ∧ Bytes.slash ∉ name ∧ name ≠ Path.dot ∧ name ≠ Path.dotDot

instance (name : Bytes) : Decidable (Path.IsName name) :=
  inferInstanceAs (Decidable (_ ∧ _))

/-- An absolute path in canonical form. -/
structure AbsPath where
  /-- The names from the root down. -/
  names : List Bytes
  isName : ∀ name ∈ names, Path.IsName name := by simp
  deriving DecidableEq, Repr

namespace AbsPath

def root : AbsPath := ⟨[], by simp⟩

@[ext]
theorem ext {p q : AbsPath} (h : p.names = q.names) : p = q := by
  cases p; cases q; simp_all

def toPath (p : AbsPath) : Path :=
  match p.names with
  | [] => ⟨[Bytes.slash]⟩
  | names => ⟨names.flatMap (Bytes.slash :: ·)⟩

/-- How long the spelling of the path is. -/
def length (p : AbsPath) : Nat :=
  p.toPath.bytes.length

/-- The canonical form of an absolute path without `..`. Any other path has none, since what it
stands for depends on more than its spelling. -/
def ofPath? (p : Path) : Option AbsPath :=
  if p.isAbsolute ∧ Path.dotDot ∉ p.pieces then
    some ⟨p.pieces.filter (Path.IsName ·), by simp⟩
  else none

/-- The directory that holds the path. The root is its own parent. -/
def parent (p : AbsPath) : AbsPath :=
  ⟨p.names.dropLast, fun name h => p.isName name ((List.dropLast_sublist _).subset h)⟩

def child (p : AbsPath) (name : Bytes) (h : Path.IsName name) : AbsPath :=
  ⟨p.names ++ [name], fun n hn => (List.mem_append.1 hn).elim (p.isName n) fun hn =>
    List.eq_of_mem_singleton hn ▸ h⟩

theorem length_child (p : AbsPath) (name : Bytes) (h : Path.IsName name) :
    (p.child name h).length =
      (p.names.flatMap (Bytes.slash :: ·)).length + (name.length + 1) := by
  have : (p.child name h).toPath = ⟨(p.names ++ [name]).flatMap (Bytes.slash :: ·)⟩ := by
    rw [toPath]
    split
    case h_1 hnil => simp [child] at hnil
    case h_2 => rfl
  simp [length, this]

/-! ## Order -/

/-- Paths are ordered name by name. -/
instance : LT AbsPath where
  lt p q := p.names < q.names

instance (p q : AbsPath) : Decidable (p < q) :=
  inferInstanceAs (Decidable (p.names < q.names))

theorem ne_of_lt {p q : AbsPath} (h : p < q) : p ≠ q := by
  rintro rfl
  exact List.lt_irrefl p.names h

instance : Ord AbsPath where
  compare p q := compare p.names q.names

instance : Std.TransOrd AbsPath where
  eq_swap {p q} := Std.OrientedOrd.eq_swap (a := p.names) (b := q.names)
  isLE_trans {p q r} := Std.TransOrd.isLE_trans (a := p.names) (b := q.names) (c := r.names)

instance : Std.LawfulEqOrd AbsPath where
  compare_self {p} := Std.ReflOrd.compare_self (a := p.names)
  eq_of_compare h := ext (Std.LawfulEqOrd.eq_of_compare h)

/-- Lists are compared in their order, if what they hold is. -/
theorem compare_list_eq_lt {α : Type} [Ord α] [Std.LawfulEqOrd α] [LT α]
    (h : ∀ a b : α, compare a b = .lt ↔ a < b) (as bs : List α) :
    compare as bs = .lt ↔ as < bs := by
  induction as generalizing bs with
  | nil => cases bs <;> simp
  | cons a as ih =>
    cases bs with
    | nil => simp
    | cons b bs =>
      rw [List.cons_lt_cons_iff, ← h, ← ih, List.compare_eq_compareLex, List.compareLex_cons_cons]
      cases hab : compare a b with
      | lt => simp
      | eq => simp [Std.LawfulEqCmp.eq_of_compare hab]
      | gt =>
        have : a ≠ b := by
          rintro rfl
          simp [Std.ReflCmp.compare_self] at hab
        simp [this]

/-- The comparison that the map is sorted by is the order of paths. -/
theorem compare_eq_lt (p q : AbsPath) : compare p q = .lt ↔ p < q :=
  compare_list_eq_lt (compare_list_eq_lt fun _ _ => Std.compare_eq_lt) p.names q.names

end AbsPath

end ShellCoverage
