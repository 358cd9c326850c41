-- SUMMARY: What an expansion reads, when it fails, and that it gives and keeps canonical paths.
import ShellCoverage.Proofs.Path.Components

/-!
# Expanded paths

Expansion reads the steps of the working directory, of the root and of the name in turn, but none of
those ahead of an absolute path. It fails only if all three are needed and the first is missing.
What it gives is canonical and is made of names that it has read; what is canonical is given back.
-/

namespace ShellCoverage

namespace Path

/-! ## Steps -/

/-- What stands between the slashes of a path, unless it is empty. -/
def steps (p : Path) : List Bytes :=
  p.pieces.filter (· ≠ [])

/-- A piece that is empty leads nowhere. -/
theorem foldl_climb_filter (pieces passed : List Bytes) :
    (pieces.filter (· ≠ [])).foldl climb passed = pieces.foldl climb passed := by
  induction pieces generalizing passed with
  | nil => rfl
  | cons piece pieces ih =>
    by_cases hnil : piece = []
    · subst hnil
      exact ih passed
    · rw [List.filter_cons_of_pos (by simpa using hnil), List.foldl_cons, List.foldl_cons, ih]

theorem climbAll_steps (p : Path) : climbAll p.steps = climbAll p.pieces :=
  foldl_climb_filter p.pieces []

/-- Climbing drops names or adds one, and never moves any. -/
theorem reverse_climb_sublist (passed : List Bytes) (piece : Bytes) :
    (climb passed piece).reverse.Sublist (passed.reverse ++ [piece]) := by
  rw [← List.reverse_cons]
  refine List.Sublist.reverse ?_
  unfold climb
  split
  · exact (List.tail_sublist passed).cons piece
  · split
    · exact .refl _
    · exact List.sublist_cons_self piece passed

/-- The names that are left stand in the order of the pieces. -/
theorem reverse_foldl_climb_sublist (pieces passed : List Bytes) :
    (pieces.foldl climb passed).reverse.Sublist (passed.reverse ++ pieces) := by
  induction pieces generalizing passed with
  | nil => simp
  | cons piece pieces ih =>
    refine (ih (climb passed piece)).trans ?_
    rw [← List.singleton_append, ← List.append_assoc]
    exact (reverse_climb_sublist passed piece).append_right pieces

theorem mem_foldl_climb {name : Bytes} {pieces passed : List Bytes}
    (h : name ∈ pieces.foldl climb passed) : name ∈ passed ∨ name ∈ pieces := by
  have hmem := (reverse_foldl_climb_sublist pieces passed).subset (List.mem_reverse.2 h)
  rwa [List.mem_append, List.mem_reverse] at hmem

/-- A slash cuts a path into the steps before it and the steps behind it. -/
theorem steps_append_slash (front back : Bytes) :
    steps ⟨front ++ Bytes.slash :: back⟩ = steps ⟨front⟩ ++ steps ⟨back⟩ := by
  unfold steps pieces
  rw [List.splitOn_append_cons_self, List.filter_append]

/-- The steps of a path that is taken relative to another come behind those of the other. -/
theorem steps_within {p : Path} (h : ¬p.isAbsolute) (base : Path) :
    (p.within base).steps = base.steps ++ p.steps := by
  unfold within
  rw [if_neg h]
  split
  · next hbase =>
    rcases hbase with hnil | hslash
    · have hsteps : base.steps = [] := by
        unfold steps pieces
        rw [hnil]
        rfl
      rw [hnil, hsteps]
      rfl
    · obtain ⟨front, hfront⟩ := List.getLast?_eq_some_iff.1 hslash
      have hsteps : base.steps = steps ⟨front⟩ := by
        have hbase := steps_append_slash front []
        rw [← hfront] at hbase
        exact hbase.trans (List.append_nil _)
      rw [hsteps, hfront, List.append_assoc, List.singleton_append, steps_append_slash]
  · exact steps_append_slash base.bytes p.bytes

theorem isAbsolute_within (p base : Path) :
    (p.within base).isAbsolute = (p.isAbsolute || base.isAbsolute) := by
  unfold within
  split
  · next habsolute => simp [habsolute]
  · next hrelative =>
    rw [Bool.not_eq_true] at hrelative
    rw [hrelative, Bool.false_or]
    obtain ⟨bytes⟩ := base
    cases bytes with
    | nil =>
      rw [if_pos (.inl rfl)]
      exact hrelative
    | cons b bytes => split <;> rfl

/-- The names that a path goes through are those of its steps that can be names. -/
theorem name_mem_components {p : Path} {name : Bytes} :
    .name name ∈ p.components ↔ name ∈ p.steps ∧ IsName name := by
  have hpieces : .name name ∈ p.components ↔
      .name name ∈ p.pieces.filterMap Component.ofPiece? := by
    simp only [components]
    split
    · simp
    · split <;> simp
  rw [hpieces, List.mem_filterMap]
  constructor
  · rintro ⟨piece, hpiece, hname⟩
    unfold Component.ofPiece? at hname
    split at hname
    · cases hname
    · next hdrop =>
      split at hname
      · cases hname
      · next hup =>
        cases hname
        rw [not_or] at hdrop
        exact ⟨List.mem_filter.2 ⟨hpiece, by simpa using hdrop.1⟩, hdrop.1,
          slash_notMem_of_mem_splitOn hpiece, hdrop.2, hup⟩
  · rintro ⟨hstep, hname⟩
    exact ⟨name, (List.mem_filter.1 hstep).1, Component.ofPiece?_of_isName hname⟩

end Path

/-! ## Routes -/

def AbsPath.ofSteps (steps : List Bytes) : AbsPath :=
  ⟨(Path.climbAll steps).reverse,
    fun _ hname => Path.isName_of_mem_climbAll (List.mem_reverse.1 hname)⟩

namespace Path

/-- Only the steps of a path count for where it leads. -/
theorem normalize_eq_ofSteps (p : Path) : p.normalize = .ofSteps p.steps := by
  apply AbsPath.ext
  exact congrArg List.reverse p.climbAll_steps.symm

/-- All that expansion reads, from left to right: the steps of the name, behind those of the root if
the name is relative, behind those of the working directory if the root is relative too. -/
def route? (name root : Path) (workingDirectory : Option Path) : Option (List Bytes) :=
  if name.isAbsolute then some name.steps
  else if root.isAbsolute then some (root.steps ++ name.steps)
  else workingDirectory.map fun directory => directory.steps ++ root.steps ++ name.steps

section Route

variable {name root : Path} {workingDirectory : Option Path}

/-- Expansion leads where its route leads from the root. -/
theorem expand_eq (name root : Path) (workingDirectory : Option Path) :
    name.expand root workingDirectory =
      match name.route? root workingDirectory with
      | none => .error .notFound
      | some steps => .ok (.ofSteps steps) := by
  have hjoined := isAbsolute_within name root
  by_cases hname : name.isAbsolute
  · have hwithin : name.within root = name := if_pos hname
    simp only [expand, route?, hwithin, hname, if_true, normalize_eq_ofSteps]
  · rw [Bool.not_eq_true] at hname
    have hsteps := @steps_within name (by simp [hname]) root
    rw [hname, Bool.false_or] at hjoined
    cases hroot : root.isAbsolute with
    | true =>
      rw [hroot] at hjoined
      simp only [expand, route?, hjoined, hname, hroot, if_true, normalize_eq_ofSteps, hsteps]
      rfl
    | false =>
      rw [hroot] at hjoined
      cases workingDirectory with
      | none => simp [expand, route?, hjoined, hname, hroot]
      | some directory =>
        have hall := @steps_within (name.within root) (by simp [hjoined]) directory
        simp [expand, route?, hjoined, hname, hroot, normalize_eq_ofSteps, hall, hsteps]

/-- Expansion gives the path that the whole route leads to. -/
theorem expand_eq_ok_iff {p : AbsPath} :
    name.expand root workingDirectory = .ok p ↔
      ∃ steps, name.route? root workingDirectory = some steps ∧ .ofSteps steps = p := by
  rw [expand_eq]
  cases name.route? root workingDirectory <;> simp

/-- There is no route only where a relative name meets a relative root and no working directory. -/
theorem route?_eq_none_iff : name.route? root workingDirectory = none ↔
    ¬name.isAbsolute ∧ ¬root.isAbsolute ∧ workingDirectory = none := by
  unfold route?
  split
  · simp [*]
  · split <;> simp [*]

/-- Expansion fails exactly where it needs a working directory and there is none. -/
theorem exists_expand_eq_error_iff :
    (∃ cause, name.expand root workingDirectory = .error cause) ↔
      ¬name.isAbsolute ∧ ¬root.isAbsolute ∧ workingDirectory = none := by
  rw [← route?_eq_none_iff, expand_eq]
  cases name.route? root workingDirectory <;> simp

/-- Nothing is read ahead of an absolute path. -/
theorem route?_of_isAbsolute (h : name.isAbsolute ∨ root.isAbsolute)
    (workingDirectory' : Option Path) :
    name.route? root workingDirectory = name.route? root workingDirectory' := by
  unfold route?
  split
  · rfl
  · next hname => rw [if_pos (h.resolve_left hname), if_pos (h.resolve_left hname)]

/-- Each step of a route is one of a path that it leads through. -/
theorem mem_of_mem_route? {steps : List Bytes} {step : Bytes}
    (h : name.route? root workingDirectory = some steps) (hstep : step ∈ steps) :
    step ∈ name.steps ∨ step ∈ root.steps ∨
      ∃ directory, workingDirectory = some directory ∧ step ∈ directory.steps := by
  unfold route? at h
  split at h
  · cases h
    exact .inl hstep
  · split at h
    · cases h
      exact (List.mem_append.1 hstep).elim (.inr ∘ .inl) .inl
    · obtain ⟨directory, hdirectory, rfl⟩ := Option.map_eq_some_iff.1 h
      simp only [List.mem_append] at hstep
      rcases hstep with (hstep | hstep) | hstep
      · exact .inr (.inr ⟨directory, hdirectory, hstep⟩)
      · exact .inr (.inl hstep)
      · exact .inl hstep

end Route

end Path

/-! ## Canonical results -/

namespace AbsPath

theorem mem_steps_of_mem_ofSteps {steps : List Bytes} {name : Bytes}
    (h : name ∈ (ofSteps steps).names) : name ∈ steps :=
  (Path.mem_foldl_climb (List.mem_reverse.1 h)).resolve_left List.not_mem_nil

theorem name_mem_components_toPath {p : AbsPath} {name : Bytes} :
    .name name ∈ p.toPath.components ↔ name ∈ p.names := by
  simp [components_toPath]

/-- A canonical spelling is the spelling of a canonical path. -/
theorem exists_toPath_eq {q : Path} (h : q.IsCanonical) : ∃ p : AbsPath, p.toPath = q := by
  obtain ⟨bytes⟩ := q
  rcases h with rfl | ⟨names, hne, hnames, rfl⟩
  · exact ⟨root, rfl⟩
  · refine ⟨⟨names, hnames⟩, ?_⟩
    obtain ⟨name, rest, rfl⟩ := List.exists_cons_of_ne_nil hne
    rfl

end AbsPath

namespace Path

/-- Expansion fails exactly if everything is relative and there is no working directory, which
matters to nothing else. What it gives is in canonical form, each name in it is one of the name, the
root or the working directory, and expanding it again, anywhere, changes nothing; results with the
same components are the same bytes. A path in canonical form is given back as it is spelled. -/
theorem expand_canonical (name root : Path) (workingDirectory : Option Path) :
    ((∃ cause, name.expand root workingDirectory = .error cause) ↔
      ¬name.isAbsolute ∧ ¬root.isAbsolute ∧ workingDirectory = none) ∧
    (name.isAbsolute ∨ root.isAbsolute → ∀ workingDirectory',
      name.expand root workingDirectory' = name.expand root workingDirectory) ∧
    (∀ p, name.expand root workingDirectory = .ok p →
      p.toPath.IsCanonical ∧
      (∀ c, .name c ∈ p.toPath.components →
        .name c ∈ name.components ∨ .name c ∈ root.components ∨
          ∃ directory, workingDirectory = some directory ∧ .name c ∈ directory.components) ∧
      (∀ root' workingDirectory', p.toPath.expand root' workingDirectory' = .ok p) ∧
      ∀ (name' root' : Path) (workingDirectory' : Option Path) (p' : AbsPath),
        name'.expand root' workingDirectory' = .ok p' →
        p.toPath.components = p'.toPath.components → p.toPath.bytes = p'.toPath.bytes) ∧
    ∀ q : Path, q.IsCanonical →
      ∃ p, q.expand root workingDirectory = .ok p ∧ p.toPath.bytes = q.bytes := by
  refine ⟨exists_expand_eq_error_iff, ?_, ?_, ?_⟩
  · intro habsolute workingDirectory'
    rw [expand_eq, expand_eq, route?_of_isAbsolute habsolute workingDirectory]
  · intro p hp
    refine ⟨p.isCanonical_toPath, ?_, p.expand_toPath, ?_⟩
    · intro c hc
      obtain ⟨steps, hroute, rfl⟩ := expand_eq_ok_iff.1 hp
      rw [AbsPath.name_mem_components_toPath] at hc
      have hname : IsName c := AbsPath.isName _ c hc
      simp only [name_mem_components, hname, and_true]
      exact mem_of_mem_route? hroute (AbsPath.mem_steps_of_mem_ofSteps hc)
    · intro name' root' workingDirectory' p' _ hcomponents
      rw [AbsPath.components_injective hcomponents]
  · intro q hq
    obtain ⟨p, rfl⟩ := AbsPath.exists_toPath_eq hq
    exact ⟨p, p.expand_toPath root workingDirectory, rfl⟩

/-- More steps up than there are names, and a name that is no text. -/
theorem expand_canonical_surplus :
    let name : Path := ⟨Bytes.ofString "../../..//" ++ [0xff, 0x00] ++ Bytes.ofString "/./a.sh/"⟩
    let root := ofString "x/y"
    let p : AbsPath := ⟨[[0xff, 0x00], Bytes.ofString "a.sh"], by decide⟩
    (∃ cause, name.expand root none = .error cause) ∧
    name.expand root (some (ofString "/")) = .ok p ∧
    p.toPath.IsCanonical ∧ p.toPath.expand root none = .ok p ∧
    (∃ q, p.toPath.expand root none = .ok q ∧ q.toPath.bytes = p.toPath.bytes) ∧
    (ofString "//x").isAbsolute ∧
    name.expand (ofString "//x") none = name.expand (ofString "//x") (some (ofString "/")) := by
  intro name root p
  have hp : name.expand root (some (ofString "/")) = .ok p := by decide
  have habsolute : (ofString "//x").isAbsolute := by decide
  obtain ⟨-, -, hresult, -⟩ := expand_canonical name root (some (ofString "/"))
  obtain ⟨hcanonical, -, hagain, -⟩ := hresult p hp
  obtain ⟨q, hq, hbytes⟩ := (expand_canonical name root none).2.2.2 p.toPath hcanonical
  exact ⟨(expand_canonical name root none).1.2 ⟨by decide, by decide, rfl⟩, hp, hcanonical,
    hagain root none, ⟨q, hq, hbytes⟩, habsolute,
    (expand_canonical name (ofString "//x") _).2.1 (.inr habsolute) none⟩

end Path

end ShellCoverage
