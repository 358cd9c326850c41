-- SUMMARY: What a shell prints for a prompt is read back as the file and the line that it was printed for.
import ShellCoverage.Proofs.Record.Split
import ShellCoverage.Prompt

/-!
# Prompts are read back

A record that a shell prints is read back as it was meant if nothing in the line can shift the
split: the rest of the opening shows where the markers end, no file name reaches beyond the one that
was printed, and no number is longer than the one that was printed.
-/

namespace ShellCoverage

/-- A number that fits into 64 bits survives being printed. -/
theorem Split.record?_encode {depth line : Nat} {filename : Bytes} (hline : line < UInt64.size) :
    Split.record? ⟨depth, filename, Decimal.encode line⟩ = some ⟨depth, ⟨filename⟩, line⟩ := by
  simp only [Split.record?, Decimal.value_encode, if_pos hline]

/-- One split outranks another by its depth first, then by its file name, and by its number last. -/
theorem Split.rank_le_rank {split other : Split} :
    other.rank ≤ split.rank ↔ other.depth < split.depth ∨ other.depth = split.depth ∧
      (other.filename.length < split.filename.length ∨
        other.filename.length = split.filename.length ∧
          other.digits.length ≤ split.digits.length) := by
  rw [Split.rank, Split.rank, Prod.Lex.toLex_le_toLex, Prod.Lex.toLex_le_toLex]

namespace Template

/-! ## The depth -/

/-- A line that begins with an opening does so at one depth only. -/
def TellsDepth (t : Template) : Prop :=
  ∀ ⦃depth depth' : Nat⦄ ⦃name name' : Bytes⦄,
    t.front depth ++ name = t.front depth' ++ name' → depth = depth'

end Template

/-- No character begins with another one in UTF-8. -/
private theorem utf8EncodeChar_append_inj {c d : Char} {x y : Bytes}
    (h : String.utf8EncodeChar c ++ x = String.utf8EncodeChar d ++ y) : c = d := by
  have hdecode : ∀ (c : Char) (x : Bytes),
      (String.utf8EncodeChar c ++ x).toByteArray.utf8DecodeChar? 0 = some c := by
    intro c x
    rw [List.toByteArray_append]
    exact ByteArray.utf8DecodeChar?_utf8EncodeChar_append
  have heq := hdecode d y
  rw [← h, hdecode c x] at heq
  exact Option.some.inj heq

private theorem exists_replicate_append {m : Char} {text : List Char} (h : ∃ c ∈ text, c ≠ m) :
    ∃ n c cs, text = List.replicate n m ++ c :: cs ∧ c ≠ m := by
  induction text with
  | nil => simp at h
  | cons c cs ih =>
    by_cases hc : c = m
    · obtain ⟨n, d, ds, hcs, hd⟩ := ih (by simpa [hc] using h)
      exact ⟨n + 1, d, ds, by rw [List.replicate_succ, List.cons_append, hcs, hc], hd⟩
    · exact ⟨0, c, cs, rfl, hc⟩

/-- The first character other than the marker shows how many markers stand before it. -/
private theorem eq_of_flatten_replicate_append {m c : Char} (hc : c ≠ m) {n n' : Nat} {x y : Bytes}
    (h : (List.replicate n (String.utf8EncodeChar m)).flatten ++ (String.utf8EncodeChar c ++ x) =
      (List.replicate n' (String.utf8EncodeChar m)).flatten ++ (String.utf8EncodeChar c ++ y)) :
    n = n' := by
  induction n generalizing n' with
  | zero =>
    cases n' with
    | zero => rfl
    | succ n' =>
      rw [List.replicate_succ, List.flatten_cons, List.append_assoc] at h
      exact absurd (utf8EncodeChar_append_inj h) hc
  | succ n ih =>
    cases n' with
    | zero =>
      rw [List.replicate_succ, List.flatten_cons, List.append_assoc] at h
      exact absurd (utf8EncodeChar_append_inj h).symm hc
    | succ n' =>
      simp only [List.replicate_succ, List.flatten_cons, List.append_assoc] at h
      rw [ih (List.append_cancel_left h)]

/-- The rest of the opening shows where the markers end if it has a character other than the
marker. -/
theorem Sentinel.tellsDepth {s : Sentinel} (hrest : ∃ c ∈ s.rest.toList, c ≠ s.marker) :
    s.template.TellsDepth := by
  intro depth depth' name name' h
  obtain ⟨n, c, cs, hcs, hc⟩ := exists_replicate_append hrest
  have hfront : ∀ depth name, s.template.front depth ++ name =
      (List.replicate (depth + n) (String.utf8EncodeChar s.marker)).flatten ++
        (String.utf8EncodeChar c ++ (cs.flatMap String.utf8EncodeChar ++ name)) := by
    intro depth name
    simp [Template.front, Sentinel.template, Bytes.ofString, hcs, ← List.replicate_append_replicate,
      List.flatMap_replicate]
  rw [hfront, hfront] at h
  have := eq_of_flatten_replicate_append hc h
  omega

namespace Template

/-! ## The file name and the number -/

section ReadBack

variable {t : Template} {tail : Bytes}

/-- No split outranks the one that a line is made of, if none has another depth, a name that goes
on behind the slash, or a longer number. -/
theorem rank_le_of_splits_line (ht : t.TellsDepth) {split other : Split}
    (hname : ∀ body, ¬ Body.Begins t.closing (split.digits ++ t.closing ++ tail) body)
    (hnumber : ∀ digits, Body.Numbered t.closing (split.digits ++ t.closing ++ tail) digits →
      digits.length ≤ split.digits.length)
    (h : t.Splits (t.line split tail) other) : other.rank ≤ split.rank := by
  obtain ⟨tail', htail⟩ := h.exists_tail
  simp only [line, List.append_assoc, List.cons_append] at htail hname hnumber
  have hdepth := ht htail
  rw [hdepth] at htail
  have hbody := List.append_cancel_left htail
  rw [Split.rank_le_rank]
  refine .inr ⟨hdepth.symm, ?_⟩
  rcases List.append_eq_append_iff.1 hbody with ⟨x, hx, hrest⟩ | ⟨x, hx, hrest⟩
  · cases x with
    | nil =>
      -- both names are the same
      rw [List.append_nil] at hx
      refine .inr ⟨by rw [hx], hnumber _ ⟨h.isNumber, tail', ?_⟩⟩
      simpa using hrest
    | cons b x =>
      -- the other name goes on behind the slash
      obtain ⟨rfl, hbehind⟩ := List.cons.inj hrest
      have hx' : Bytes.lineFeed ∉ x := fun hmem =>
        h.lineFeed_notMem (by rw [hx]; simp [hmem])
      have hbegins : Body.Begins t.closing (split.digits ++ (t.closing ++ tail))
          ⟨x.length, other.digits⟩ :=
        ⟨x, _, hbehind, hx', ⟨h.isNumber, tail', by simp⟩, rfl⟩
      exact absurd hbegins (hname _)
  · cases x with
    | nil =>
      rw [List.append_nil] at hx
      refine .inr ⟨by rw [hx], hnumber _ ⟨h.isNumber, tail', ?_⟩⟩
      simpa using hrest.symm
    | cons b x => exact .inl (by rw [hx]; simp)

/-- A record is read back as it was printed if nothing behind its file name looks like another
one. -/
theorem classify_line (ht : t.TellsDepth) {split : Split} (hdepth : 1 ≤ split.depth)
    (hne : split.filename ≠ []) (hfilename : Bytes.lineFeed ∉ split.filename)
    (hdigits : Decimal.IsNumber split.digits)
    (hname : ∀ body, ¬ Body.Begins t.closing (split.digits ++ t.closing ++ tail) body)
    (hnumber : ∀ digits, Body.Numbered t.closing (split.digits ++ t.closing ++ tail) digits →
      digits.length ≤ split.digits.length) :
    t.classify (t.line split tail) = split.record? := by
  have hsplits : t.Splits (t.line split tail) split :=
    ⟨hdepth, hne, hfilename, hdigits, tail, rfl⟩
  exact classify_of_greatest hsplits fun _ => rank_le_of_splits_line ht hname hnumber

end ReadBack

/-- Behind the slash of a record stands no further file name: its digits hold no slash, and the
closing is too short to be split again. -/
theorem not_begins_number_closing {closing digits : Bytes} (hdigits : Decimal.IsNumber digits)
    (body : Body) : ¬ Body.Begins closing (digits ++ closing) body := by
  rintro ⟨name, rest, heq, -, ⟨-, tail, rfl⟩, -⟩
  have hlength := congrArg List.length heq
  simp only [List.length_append, List.length_cons] at hlength
  have hfront : name ++ [Bytes.slash] <+: digits ++ closing := by
    rw [heq, List.prefix_append_right_inj]
    exact List.prefix_append [Bytes.slash] _
  have hname : name ++ [Bytes.slash] <+: digits := by
    apply List.prefix_of_prefix_length_le hfront (List.prefix_append _ _)
    rw [List.length_append, List.length_singleton]
    omega
  exact hdigits.slash_notMem (hname.subset (by simp))

/-- No number that is read at the end of a line is longer than the one that was printed. -/
theorem length_le_of_numbered_number_closing {closing digits other : Bytes}
    (h : Body.Numbered closing (digits ++ closing) other) : other.length ≤ digits.length := by
  obtain ⟨-, tail, heq⟩ := h
  have hlength := congrArg List.length heq
  simp only [List.length_append] at hlength
  omega

end Template

/-! ## The prompt -/

/-- The prompt as a shell prints it `depth` levels deep: its first character is repeated. -/
def Prompt.nested (depth : Nat) : Prompt → Prompt
  | .literal text :: parts =>
    match text.toList with
    | [] => .literal text :: parts
    | c :: cs => .literal (String.ofList (List.replicate depth c ++ cs)) :: parts
  | parts => parts

namespace Sentinel

/-- The text of the prompt with its first character `depth` times, and with these texts in the
places that the shell fills in. -/
def promptText (s : Sentinel) (depth : Nat) (directory basename lineNumber : Bytes) : Bytes :=
  (List.replicate depth (Bytes.ofString s.marker.toString)).flatten ++ Bytes.ofString s.rest ++
    directory ++ Bytes.ofString "/" ++ basename ++ Bytes.ofString "/" ++ lineNumber ++
    Bytes.ofString s.closing

/-- The value of `PS4`, word for word. -/
theorem ps4_eq (s : Sentinel) :
    s.ps4 = s.marker.toString ++ s.rest ++
      "$(cd \"$(dirname \"$\x7bBASH_SOURCE[0]\x7d\")\" && pwd)" ++ "/" ++
      "$(basename \"$\x7bBASH_SOURCE[0]\x7d\")" ++ "/" ++ "$\x7bLINENO\x7d" ++ s.closing := by
  simp only [ps4, prompt, opening, Prompt.source, Prompt.Part.source, String.join, List.map_cons,
    List.map_nil, List.foldl_cons, List.foldl_nil, String.empty_append]

example : standard.ps4 =
    "+BASHCOV> $(cd \"$(dirname \"$\x7bBASH_SOURCE[0]\x7d\")\" && pwd)/" ++
      "$(basename \"$\x7bBASH_SOURCE[0]\x7d\")/$\x7bLINENO\x7d BASHCOV: " := by decide

/-- The value of `PS4` holds a command or a variable in each place that the shell fills in. -/
theorem ofString_ps4 (s : Sentinel) :
    Bytes.ofString s.ps4 = s.promptText 1
      (Bytes.ofString "$(cd \"$(dirname \"$\x7bBASH_SOURCE[0]\x7d\")\" && pwd)")
      (Bytes.ofString "$(basename \"$\x7bBASH_SOURCE[0]\x7d\")")
      (Bytes.ofString "$\x7bLINENO\x7d") := by
  simp only [ps4_eq, Bytes.ofString_append, promptText, List.replicate_one, List.flatten_singleton]

/-- A nested prompt is printed with its first character repeated, and with what the shell computes
in the places of its commands and its variable. -/
theorem printed_nested_prompt (s : Sentinel) (depth line : Nat) (directory basename : Bytes) :
    (s.prompt.nested depth).printed directory basename line =
      s.promptText depth directory basename (Decimal.encode line) := by
  have hopening : s.opening.toList = s.marker :: s.rest.toList := by
    simp [opening]
  simp [prompt, Prompt.nested, hopening, Prompt.printed, Prompt.Part.printed, promptText,
    Bytes.ofString, List.flatMap_replicate]

/-- The text of a prompt is a line without a command. -/
theorem promptText_eq_line (s : Sentinel) (depth : Nat) (directory basename lineNumber : Bytes) :
    s.promptText depth directory basename lineNumber =
      s.template.line ⟨depth, directory ++ Bytes.slash :: basename, lineNumber⟩ [] := by
  have hslash : Bytes.ofString "/" = [Bytes.slash] := by decide
  have hmarker : Bytes.ofString (String.singleton s.marker) = String.utf8EncodeChar s.marker := by
    simp [Bytes.ofString]
  simp [promptText, hslash, hmarker, Template.line, Template.front, template]

/-- The value of `PS4` is a text with three places, and what a shell prints for it, at any depth, is
that text with its first character repeated and its places filled in. This is read back as the
depth, the file and the line, whatever the closing is and whatever the file is called. -/
theorem classify_printed_prompt (s : Sentinel) (depth line : Nat)
    (directory basename : Bytes) (hrest : ∃ c ∈ s.rest.toList, c ≠ s.marker) (hdepth : 1 ≤ depth)
    (hdirectory : Bytes.lineFeed ∉ directory) (hbasename : Bytes.lineFeed ∉ basename)
    (hline : line < UInt64.size) :
    Bytes.ofString s.ps4 = s.promptText 1
      (Bytes.ofString "$(cd \"$(dirname \"$\x7bBASH_SOURCE[0]\x7d\")\" && pwd)")
      (Bytes.ofString "$(basename \"$\x7bBASH_SOURCE[0]\x7d\")")
      (Bytes.ofString "$\x7bLINENO\x7d") ∧
    (s.prompt.nested depth).printed directory basename line =
      s.promptText depth directory basename (Decimal.encode line) ∧
    s.classify ((s.prompt.nested depth).printed directory basename line) =
      some ⟨depth, ⟨directory ++ Bytes.slash :: basename⟩, line⟩ := by
  refine ⟨s.ofString_ps4, s.printed_nested_prompt depth line directory basename, ?_⟩
  rw [printed_nested_prompt, promptText_eq_line, classify, ← Split.record?_encode hline]
  refine Template.classify_line (tellsDepth hrest) hdepth (by simp) ?_
    (Decimal.isNumber_encode line) ?_ ?_
  · simp [hdirectory, hbasename]
  · intro body
    rw [List.append_nil]
    exact Template.not_begins_number_closing (Decimal.isNumber_encode line) body
  · intro digits hdigits
    rw [List.append_nil] at hdigits
    exact Template.length_le_of_numbered_number_closing hdigits

/-- A rest that begins with markers, a closing that begins with a digit, and a directory that looks
like the end of a record. -/
theorem classify_printed_prompt_snow :
    let s : Sentinel := ⟨'☃', "☃x", "0/"⟩
    let directory := Bytes.ofString "/7/10/"
    ((∃ c ∈ s.rest.toList, c ≠ s.marker) ∧ 1 ≤ 3 ∧ Bytes.lineFeed ∉ directory ∧
      Bytes.lineFeed ∉ [] ∧ 20 < UInt64.size) ∧
    s.ps4 = "☃☃x$(cd \"$(dirname \"$\x7bBASH_SOURCE[0]\x7d\")\" && pwd)/" ++
      "$(basename \"$\x7bBASH_SOURCE[0]\x7d\")/$\x7bLINENO\x7d0/" ∧
    (s.prompt.nested 3).printed directory [] 20 = Bytes.ofString "☃☃☃☃x/7/10///200/" ∧
    s.classify ((s.prompt.nested 3).printed directory [] 20) =
      some ⟨3, ⟨directory ++ [Bytes.slash]⟩, 20⟩ := by
  intro s directory
  have hrest : ∃ c ∈ s.rest.toList, c ≠ s.marker := ⟨'x', by decide, by decide⟩
  obtain ⟨-, hprinted, hrecord⟩ := classify_printed_prompt s 3 20 directory [] hrest
    (by decide) (by decide) (by decide) (by decide)
  exact ⟨⟨hrest, by decide⟩, by decide, hprinted.trans (by decide), hrecord⟩

end Sentinel

end ShellCoverage
