-- SUMMARY: Expanding a path in two parts, and expanding against the expansion of a root.
import ShellCoverage.Aggregation
import ShellCoverage.Proofs.Path.Expansion

/-!
# Expansion in parts

A path that goes on behind a slash is expanded by expanding its first part and then the rest against
what came out. The canonical form of the first part stands for all that was read on the way to it:
steps that cancel, and steps up from the root, leave nothing behind that a later step could find. So
a root and its own expansion are the same root.
-/

namespace ShellCoverage

namespace AbsPath

theorem steps_toPath (p : AbsPath) : p.toPath.steps = p.names := by
  have hnames : p.names.filter (· ≠ []) = p.names :=
    List.filter_eq_self.2 fun name hname => by simpa using (p.isName name hname).1
  unfold Path.steps Path.pieces toPath
  split
  · next hnil =>
    rw [hnil]
    rfl
  · rw [splitOn_flatMap_slash fun name hname => (p.isName name hname).2.1,
      List.filter_cons_of_neg (by simp), hnames]

/-- The names that steps lead to stand for the steps. -/
theorem ofSteps_names_append (steps more : List Bytes) :
    ofSteps ((ofSteps steps).names ++ more) = ofSteps (steps ++ more) := by
  have hnames : (ofSteps steps).names.foldl Path.climb [] = steps.foldl Path.climb [] := by
    rw [Path.foldl_climb_of_isName (ofSteps steps).isName, List.append_nil]
    exact List.reverse_reverse _
  apply AbsPath.ext
  apply congrArg List.reverse
  rw [Path.climbAll, Path.climbAll, List.foldl_append, List.foldl_append, hnames]

end AbsPath

namespace Path

section Parts

variable {front back root : Path} {workingDirectory : Option Path}

/-- What is put behind a path does not change where it begins. -/
theorem isAbsolute_append_slash (h : front.bytes ≠ []) (back : Bytes) :
    isAbsolute ⟨front.bytes ++ Bytes.slash :: back⟩ = front.isAbsolute := by
  obtain ⟨b, rest, hbytes⟩ := List.exists_cons_of_ne_nil h
  simp [isAbsolute, hbytes]

/-- The route of a path that goes on behind a slash goes on by the steps behind it. -/
theorem route?_append_slash (h : front.bytes ≠ []) :
    route? ⟨front.bytes ++ Bytes.slash :: back.bytes⟩ root workingDirectory =
      (front.route? root workingDirectory).map (· ++ back.steps) := by
  have hsteps : steps ⟨front.bytes ++ Bytes.slash :: back.bytes⟩ = front.steps ++ back.steps :=
    steps_append_slash front.bytes back.bytes
  unfold route?
  rw [isAbsolute_append_slash h, hsteps]
  split
  · rfl
  · split
    · rw [Option.map_some, List.append_assoc]
    · simp [Function.comp_def]

/-- Against an absolute root that steps lead to, a relative path goes on behind the steps. -/
theorem expand_ofSteps (hback : ¬back.isAbsolute) (steps : List Bytes)
    (workingDirectory : Option Path) :
    back.expand (AbsPath.ofSteps steps).toPath workingDirectory =
      .ok (.ofSteps (steps ++ back.steps)) := by
  have hroot := (AbsPath.ofSteps steps).isAbsolute_toPath
  simp only [expand_eq, route?, if_neg hback, if_pos hroot, AbsPath.steps_toPath,
    AbsPath.ofSteps_names_append]

/-- Where the route of a path goes on behind that of another, expansion does. -/
theorem expand_of_route?_append {whole : Path} (hback : ¬back.isAbsolute)
    (h : whole.route? root workingDirectory =
      (front.route? root workingDirectory).map (· ++ back.steps)) :
    whole.expand root workingDirectory = (front.expand root workingDirectory).bind fun p =>
      back.expand p.toPath workingDirectory := by
  rw [expand_eq, expand_eq, h]
  cases front.route? root workingDirectory with
  | none => rfl
  | some steps => exact (expand_ofSteps hback steps workingDirectory).symm

end Parts

end Path

/-! ## Roots -/

/-- The workspace whose relative names are taken against another root. -/
def Workspace.rootedAt (w : Workspace) (root : Path) : Workspace :=
  { w with tree := { w.tree with root := root } }

section Roots

variable {w : Workspace} {root : Path}

/-- A root counts only by what names are expanded to. -/
theorem Pass.step_rootedAt
    (h : ∀ name : Path, name.expand root w.workingDirectory =
      name.expand w.tree.root w.workingDirectory) (pass : Pass) (line : Bytes) :
    pass.step (w.rootedAt root) line = pass.step w line := by
  have hrecord : ∀ (pass : Pass) (record : Record),
      pass.record (w.rootedAt root) record = pass.record w record := by
    intro pass record
    simp only [Pass.record, Workspace.rootedAt, h]
    rfl
  simp only [Pass.step, hrecord]

/-- A root matters only for what it makes of names: two roots that expand every name alike give the
same outcome. -/
theorem Workspace.aggregate_rootedAt
    (h : ∀ name : Path, name.expand root w.workingDirectory =
      name.expand w.tree.root w.workingDirectory) (deliveries : List Delivery) :
    (w.rootedAt root).aggregate deliveries = w.aggregate deliveries := by
  have hstep : Pass.step (w.rootedAt root) = Pass.step w := by
    funext pass line
    exact Pass.step_rootedAt h pass line
  unfold aggregate Pass.run
  rw [hstep]

end Roots

namespace Path

/-- Against the expansion of an absolute root, a name is expanded as against the root. -/
theorem expand_expanded_root {root : Path} (hroot : root.isAbsolute) {root' : Path}
    {workingDirectory : Option Path} {p : AbsPath}
    (hp : root.expand root' workingDirectory = .ok p) (name : Path) :
    name.expand p.toPath workingDirectory = name.expand root workingDirectory := by
  obtain ⟨steps, hsteps, rfl⟩ := expand_eq_ok_iff.1 hp
  rw [route?, if_pos hroot] at hsteps
  cases hsteps
  by_cases hname : name.isAbsolute
  · rw [expand_eq, expand_eq, route?, route?, if_pos hname, if_pos hname]
  · rw [expand_ofSteps hname, expand_eq, route?, if_neg hname, if_pos hroot]

/-- A relative path behind a slash is expanded against what the path before the slash is expanded
to, and fails where that fails. So an absolute root may be replaced by its expansion: each name is
expanded to the same, and every trace gives the same. -/
theorem expand_append_slash {front back : Path} (hfront : front.bytes ≠ [])
    (hback : ¬back.isAbsolute) (root : Path) (workingDirectory : Option Path) :
    expand ⟨front.bytes ++ Bytes.slash :: back.bytes⟩ root workingDirectory =
      ((front.expand root workingDirectory).bind fun p =>
        back.expand p.toPath workingDirectory) ∧
    (root.isAbsolute → ∀ root' : Path,
      back.expand root workingDirectory =
        (root.expand root' workingDirectory).bind fun p =>
          back.expand p.toPath workingDirectory) ∧
    ∀ (w : Workspace) (root' : Path) (p : AbsPath), w.tree.root.isAbsolute →
      w.tree.root.expand root' w.workingDirectory = .ok p →
      ∀ deliveries, (w.rootedAt p.toPath).aggregate deliveries = w.aggregate deliveries := by
  refine ⟨?_, ?_, ?_⟩
  · exact expand_of_route?_append hback (route?_append_slash hfront)
  · intro hroot root'
    have hexpand : root.expand root' workingDirectory = .ok (.ofSteps root.steps) := by
      rw [expand_eq, route?, if_pos hroot]
    rw [hexpand]
    exact (expand_expanded_root hroot hexpand back).symm
  · intro w root' p hroot hp
    exact w.aggregate_rootedAt (expand_expanded_root hroot hp)

/-- Steps up on both sides of the slash, once against an absolute root with a detour and once
against a relative one without a working directory. -/
theorem expand_append_slash_steps_up :
    let front := ofString "x/../.."
    let back := ofString "../a.sh"
    let whole : Path := ⟨front.bytes ++ Bytes.slash :: back.bytes⟩
    let root := ofString "/y/../lib/."
    let p : AbsPath := ⟨[Bytes.ofString "lib"], by decide⟩
    let a : AbsPath := ⟨[Bytes.ofString "a.sh"], by decide⟩
    let w : Workspace := ⟨⟨root, fun _ => .file, fun _ => .ok 1⟩, none⟩
    let trace := Bytes.ofString "+BASHCOV> a.sh/1 BASHCOV: "
    front.bytes ≠ [] ∧ ¬back.isAbsolute ∧ root.isAbsolute ∧
    whole.expand root none = .ok a ∧
    ((front.expand root none).bind fun p => back.expand p.toPath none) = .ok a ∧
    whole.expand (ofString "lib") none = .error .notFound ∧
    root.expand (ofString "lib") none = .ok p ∧
    back.expand root none = back.expand p.toPath none ∧
    (w.rootedAt p.toPath).aggregate [.chunk trace] = w.aggregate [.chunk trace] := by
  intro front back whole root p a w trace
  have hfront : front.bytes ≠ [] := by decide
  have hback : ¬back.isAbsolute := by decide
  have hroot : root.isAbsolute := by decide
  have hwhole : whole.expand root none = .ok a := by decide
  have hp : root.expand (ofString "lib") none = .ok p := by decide
  obtain ⟨hparts, hexpanded, hrooted⟩ := expand_append_slash hfront hback root none
  have herror := (expand_append_slash hfront hback (ofString "lib") none).1
  refine ⟨hfront, hback, hroot, hwhole, hparts.symm.trans hwhole, herror.trans (by decide), hp, ?_,
    hrooted w _ p hroot hp _⟩
  rw [hexpanded hroot (ofString "lib"), hp]
  rfl

end Path

end ShellCoverage
