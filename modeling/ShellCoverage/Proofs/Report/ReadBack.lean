-- SUMMARY: The JSON report of a map is read back to its files and counters, so it loses nothing.
import ShellCoverage.Proofs.CommandLine.Stages
import ShellCoverage.Proofs.Report.JsonReader

/-!
# The JSON report loses nothing

A member of the JSON form has the text of a path for its key. Where there is such a text, it has the
bytes of the path, and the bytes spell only one canonical path. So what a reader finds in the report
of a map belongs to that map alone.
-/

namespace ShellCoverage

/-- Each canonical path has a spelling of its own. -/
theorem AbsPath.toPath_injective : Function.Injective AbsPath.toPath :=
  Function.LeftInverse.injective normalize_toPath

/-- The files that a reader finds in JSON text, by their paths, with their counters. -/
def Json.files? (text : String) : Option (List (Bytes × List Nat)) :=
  (read? text).map fun object => object.map fun (key, numbers) => (Bytes.ofString key, numbers)

namespace CoverageMap

/-- The files of a map by their paths, with their counters, in order. -/
def listing (m : CoverageMap) : List (Bytes × List Nat) :=
  m.entries.map fun e => (e.1.toPath.bytes, e.2.toList)

/-- The text is one of the JSON forms of the map. -/
def IsJson (m : CoverageMap) (text : String) : Prop :=
  m.compactJson = .ok text ∨ m.prettyJson = .ok text

/-- A map is known by its entries. -/
theorem ext_entries {m n : CoverageMap} (h : m.entries = n.entries) : m = n := by
  refine ext_get? fun path => Option.ext fun hits => ?_
  rw [← mem_entries, h, mem_entries]

/-- No two maps have the same files with the same counters. -/
theorem listing_injective {m n : CoverageMap} (h : m.listing = n.listing) : m = n := by
  refine ext_entries (List.map_injective_iff.2 ?_ h)
  rintro ⟨path, hits⟩ ⟨path', hits'⟩ heq
  obtain ⟨hbytes, hcounters⟩ := Prod.mk.inj heq
  have hpath : path.toPath = path'.toPath := congrArg Path.mk hbytes
  exact Prod.ext (AbsPath.toPath_injective hpath) (Array.toList_inj.1 hcounters)

section Json

variable {m : CoverageMap} {text : String}

theorem member?_eq_some_iff {e : Entry} {member : String × List Nat} :
    member? e = some member ↔
      (Bytes.ofString member.1, member.2) = (e.1.toPath.bytes, e.2.toList) := by
  simp only [member?, Option.map_eq_some_iff, Utf8.decode?_eq_some_iff, Prod.mk.injEq]
  constructor
  · rintro ⟨s, hbytes, rfl⟩
    exact ⟨hbytes.symm, rfl⟩
  · rintro ⟨hbytes, hcounters⟩
    exact ⟨member.1, hbytes.symm, Prod.ext rfl hcounters.symm⟩

/-- The members are the files of the map. -/
theorem map_ofString_of_toJson {object : Json.Object} (h : m.toJson = .ok object) :
    object.map (fun (key, numbers) => (Bytes.ofString key, numbers)) = m.listing := by
  have hmembers : m.entries.map member? = object.map some := by
    rw [← mapM_eq_some_iff]
    unfold toJson at h
    split at h
    · next hobject => rw [hobject, Except.ok.inj h]
    · cases h
  refine List.ext_getElem? fun i => ?_
  have hmember := congrArg (·[i]?) hmembers
  simp only [listing, List.getElem?_map] at hmember ⊢
  cases hentry : m.entries[i]? with
  | none =>
    rw [hentry, Option.map_none, eq_comm, Option.map_eq_none_iff] at hmember
    rw [hmember, Option.map_none, Option.map_none]
  | some e =>
    rw [hentry, Option.map_some, eq_comm, Option.map_eq_some_iff] at hmember
    obtain ⟨member, hobject, hmember⟩ := hmember
    rw [hobject, Option.map_some, Option.map_some, member?_eq_some_iff.1 hmember.symm]

theorem exists_compactJson_eq_error_iff :
    (∃ error, m.compactJson = .error error) ↔ ∃ e ∈ m.entries, ¬e.1.toPath.bytes.IsText := by
  rw [← @toJson_eq_error_iff m .pathNotText]
  unfold compactJson
  cases m.toJson with
  | ok object => simp [Except.map]
  | error error =>
    cases error
    exact ⟨fun _ => rfl, fun _ => ⟨_, rfl⟩⟩

theorem exists_toJson_of_isJson {m : CoverageMap} {text : String} (h : m.IsJson text) :
    ∃ object, m.toJson = .ok object ∧
      (text = String.ofList (Json.compact object) ∨ text = String.ofList (Json.pretty object)) := by
  unfold IsJson compactJson prettyJson at h
  cases hobject : m.toJson with
  | error error => simp [hobject, Except.map] at h
  | ok object => simpa [hobject, Except.map, eq_comm] using h

/-- Blanks behind a JSON form make no difference to a reader. -/
theorem files?_of_isJson (h : m.IsJson text) {blanks : String} (hblanks : Json.Blank blanks.toList) :
    Json.files? (text ++ blanks) = some m.listing := by
  obtain ⟨object, hobject, htext⟩ := exists_toJson_of_isJson h
  have hread : Json.read? (text ++ blanks) = some object := by
    obtain rfl | rfl := htext
    · simpa [String.ofList_append] using Json.read?_compact hblanks object
    · simpa [String.ofList_append] using Json.read?_pretty hblanks object
  rw [Json.files?, hread, Option.map_some, map_ofString_of_toJson hobject]

end Json

/-- A map has a JSON form exactly if the paths of all its files are text. A reader that keeps the
order finds the files and their counters in each form, and in what is printed of it on the command
line, so a text is a JSON form of one map only. -/
theorem json_reads_back (m : CoverageMap) :
    ((∃ error, m.compactJson = .error error) ↔ ∃ e ∈ m.entries, ¬e.1.toPath.bytes.IsText) ∧
    ((∃ error, m.report .json = .error error) ↔ ∃ e ∈ m.entries, ¬e.1.toPath.bytes.IsText) ∧
    (∀ text, m.IsJson text → Json.files? text = some m.listing) ∧
    (∀ machine trace root, CommandLine.Machine.Aggregates machine trace root m →
      (∀ e ∈ m.entries, e.1.toPath.bytes.IsText) →
        let answer := CommandLine.Command.run machine (.aggregate trace root .json)
        answer.exitCode = 0 ∧ Json.files? answer.stdout = some m.listing) ∧
    ∀ other text, m.IsJson text → other.IsJson text → m = other := by
  have hread : ∀ (m : CoverageMap) text, m.IsJson text → Json.files? text = some m.listing := by
    intro m text htext
    have hblanks : Json.Blank "".toList := Json.blank_nil
    rw [← files?_of_isJson htext hblanks, String.append_empty]
  refine ⟨exists_compactJson_eq_error_iff, ?_, hread m, ?_, ?_⟩
  · constructor
    · rintro ⟨error, herror⟩
      exact report_json_eq_error_iff.1 herror
    · exact fun hkey => ⟨.pathNotText, report_json_eq_error_iff.2 hkey⟩
  · intro machine trace root hmap htexts answer
    obtain ⟨text, htext⟩ := (@exists_report_iff m .json).2 fun _ => htexts
    obtain ⟨hexit, hstdout, -⟩ := CommandLine.run_of_report hmap htext
    refine ⟨hexit, ?_⟩
    rw [hstdout]
    exact files?_of_isJson (.inr htext) (by simp [Json.Blank, Json.isBlank])
  · intro other text htext hother
    refine listing_injective (Option.some.inj ?_)
    rw [← hread m text htext, hread other text hother]

/-- A file whose name has to be escaped in every way that there is. -/
theorem json_reads_back_escapes :
    let path : AbsPath := ⟨[Bytes.ofString "\"\\\t\x01é😀"], by decide⟩
    let trace := Bytes.ofString "+BASHCOV> /\"\\\t\x01é😀/2 BASHCOV: \n"
    let machine : CommandLine.Machine :=
      { workingDirectory := .ok .root
        canonical := .ok ∘ Path.normalize
        openFile := fun _ => .ok (.ofFile trace 0)
        pathKind := fun _ => .file
        lineCount := fun _ => .ok 2 }
    let m := (CoverageMap.empty.track path 2).hit path 1
    let text := "\x7b\"/\\\"\\\\\\t\\u0001é😀\":[0,1]\x7d"
    let answer := CommandLine.Command.run machine (.aggregate (.ofString "trace") none .json)
    m.IsJson text ∧ Json.files? text = some [(path.toPath.bytes, [0, 1])] ∧
    machine.Aggregates (.ofString "trace") none m ∧ answer.exitCode = 0 ∧
    Json.files? answer.stdout = some [(path.toPath.bytes, [0, 1])] := by
  intro path trace machine m text answer
  have hok : m.compactJson = .ok text := by decide +kernel
  have hlisting : m.listing = [(path.toPath.bytes, [0, 1])] := by decide +kernel
  have hmap : machine.Aggregates (.ofString "trace") none m :=
    ⟨.root, .ofFile trace 0, rfl, rfl, by decide +kernel⟩
  obtain ⟨hcompact, -, hread, hprinted, -⟩ := json_reads_back m
  have hkeys : ∀ e ∈ m.entries, e.1.toPath.bytes.IsText := by
    by_contra hnot
    simp only [not_forall, exists_prop] at hnot
    obtain ⟨error, herror⟩ := hcompact.2 hnot
    rw [hok] at herror
    cases herror
  obtain ⟨hexit, hstdout⟩ := hprinted machine _ none hmap hkeys
  exact ⟨.inl hok, hlisting ▸ hread text (.inl hok), hmap, hexit, hlisting ▸ hstdout⟩

end CoverageMap

end ShellCoverage
