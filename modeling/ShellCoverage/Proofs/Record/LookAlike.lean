-- SUMMARY: What stands behind a record shifts its split exactly if it looks like the end of one.
import Mathlib.Data.List.TakeWhile
import ShellCoverage.Proofs.Record.RoundTrip

/-!
# Look-alikes

Behind its closing, a record is followed by the text of a command, and that text is arbitrary. If a
slash, digits and the closing stand somewhere in it, the file name of the record reaches up to the
last of these places. If they do not, the record is read as it was printed. What stands behind the
first line feed of the text does not matter.
-/

namespace ShellCoverage

/-- Somewhere in the text stand a slash, digits and the closing. -/
def LooksAlike (closing text : Bytes) : Prop :=
  ∃ before digits after,
    text = before ++ Bytes.slash :: digits ++ closing ++ after ∧ Decimal.IsNumber digits

namespace Body

section Begins

variable {closing bytes : Bytes} {body : Body}

/-- A body that begins in front of a text without a slash begins behind it as well. -/
theorem begins_append_of_slash_notMem {front : Bytes} (hslash : Bytes.slash ∉ front)
    (h : Begins closing (front ++ bytes) body) : ∃ body, Begins closing bytes body := by
  induction front generalizing body with
  | nil => exact ⟨body, h⟩
  | cons b front ih =>
    rw [List.mem_cons, not_or] at hslash
    rcases begins_cons.1 h with ⟨-, hb, -⟩ | ⟨-, n, -, h⟩
    · exact absurd hb.symm hslash.1
    · exact ih hslash.2 h

theorem lineFeed_notMem_body {name digits : Bytes} (hname : Bytes.lineFeed ∉ name)
    (hdigits : Decimal.IsNumber digits) (hclosing : Bytes.lineFeed ∉ closing) :
    Bytes.lineFeed ∉ name ++ Bytes.slash :: digits ++ closing := by
  simp [hname, hclosing, hdigits.lineFeed_notMem]

/-- A text up to a line feed looks like a record exactly if a name can end in it. -/
theorem exists_begins_iff_looksAlike {text rest : Bytes} (hclosing : Bytes.lineFeed ∉ closing)
    (htext : Bytes.lineFeed ∉ text) (hrest : ∀ b ∈ rest.head?, b = Bytes.lineFeed) :
    (∃ body, Begins closing (text ++ rest) body) ↔ LooksAlike closing text := by
  constructor
  · intro h
    obtain ⟨body, name, more, heq, hname, ⟨hdigits, tail, rfl⟩, -⟩ := h
    have hfront := lineFeed_notMem_body hname hdigits hclosing
    have heq' : text ++ rest = (name ++ Bytes.slash :: body.digits ++ closing) ++ tail := by
      simpa using heq
    rcases List.append_eq_append_iff.1 heq' with ⟨x, hx, hrest'⟩ | ⟨x, hx, -⟩
    · cases x with
      | nil =>
        rw [List.append_nil] at hx
        exact ⟨name, body.digits, [], by rw [List.append_nil, hx], hdigits⟩
      | cons b x =>
        have hb := hrest b (by simp [hrest'])
        exact absurd (by simp [hx, hb]) hfront
    · exact ⟨name, body.digits, x, hx, hdigits⟩
  · intro h
    obtain ⟨before, digits, after, rfl, hdigits⟩ := h
    have hbefore : Bytes.lineFeed ∉ before := fun hmem => htext (by simp [hmem])
    exact ⟨⟨before.length, digits⟩, before, digits ++ closing ++ (after ++ rest), by simp, hbefore,
      ⟨hdigits, after ++ rest, rfl⟩, rfl⟩

end Begins

/-- Where the closing does not begin with a digit, the number ends where the digits do. -/
theorem eq_of_numbered {closing digits other tail : Bytes}
    (hclosing : ∃ b ∈ closing.head?, ¬ Decimal.isDigit b) (hdigits : Decimal.IsNumber digits)
    (h : Numbered closing (digits ++ closing ++ tail) other) : other = digits := by
  obtain ⟨hother, tail', heq⟩ := h
  obtain ⟨b, hb, hdigit⟩ := hclosing
  obtain ⟨more, rfl⟩ := List.head?_eq_some_iff.1 hb
  have htake : ∀ {digits : Bytes} (tail : Bytes), Decimal.IsNumber digits →
      (digits ++ (b :: more) ++ tail).takeWhile Decimal.isDigit = digits := by
    intro digits tail hdigits
    rw [List.append_assoc, List.takeWhile_append_of_pos hdigits.2, List.cons_append,
      List.takeWhile_cons_of_neg hdigit, List.append_nil]
  rw [← htake tail' hother, ← heq, htake tail hdigits]

end Body

namespace Template

/-- Nothing in the literals of the template can be taken for another part of a record. -/
structure Plain (t : Template) : Prop where
  tellsDepth : t.TellsDepth
  slash_notMem : Bytes.slash ∉ t.closing
  lineFeed_notMem : Bytes.lineFeed ∉ t.closing
  head_not_digit : ∃ b ∈ t.closing.head?, ¬ Decimal.isDigit b

theorem plain_standard : Sentinel.standard.template.Plain where
  tellsDepth := Sentinel.tellsDepth ⟨'B', by decide, by decide⟩
  slash_notMem := by decide
  lineFeed_notMem := by decide
  head_not_digit := by decide

section Plain

variable {t : Template} {split : Split} {tail : Bytes}

/-- A record is read back as it was printed if no name can end behind it. -/
theorem Plain.classify_line (ht : t.Plain) (hdepth : 1 ≤ split.depth) (hne : split.filename ≠ [])
    (hfilename : Bytes.lineFeed ∉ split.filename) (hdigits : Decimal.IsNumber split.digits)
    (htail : ∀ body, ¬ Body.Begins t.closing tail body) :
    t.classify (t.line split tail) = split.record? := by
  refine Template.classify_line ht.tellsDepth hdepth hne hfilename hdigits ?_ ?_
  · intro body hbody
    have hslash : Bytes.slash ∉ split.digits ++ t.closing := by
      simp [hdigits.slash_notMem, ht.slash_notMem]
    obtain ⟨body, hbody⟩ := Body.begins_append_of_slash_notMem hslash hbody
    exact htail body hbody
  · intro digits hnumbered
    rw [Body.eq_of_numbered ht.head_not_digit hdigits hnumbered]

/-- The name of a record goes on to the last place behind it where a name can end. -/
theorem Plain.classify_line_of_last (ht : t.Plain) (hdepth : 1 ≤ split.depth)
    (hfilename : Bytes.lineFeed ∉ split.filename) (hdigits : Decimal.IsNumber split.digits)
    {name digits : Bytes} (hname : Bytes.lineFeed ∉ name) (hdigits' : Decimal.IsNumber digits)
    (htail : ∀ body, ¬ Body.Begins t.closing tail body) :
    t.classify (t.line split (name ++ Bytes.slash :: digits ++ t.closing ++ tail)) =
      Split.record? ⟨split.depth,
        split.filename ++ Bytes.slash :: split.digits ++ t.closing ++ name, digits⟩ := by
  have hline : t.line split (name ++ Bytes.slash :: digits ++ t.closing ++ tail) =
      t.line ⟨split.depth, split.filename ++ Bytes.slash :: split.digits ++ t.closing ++ name,
        digits⟩ tail := by
    simp [line]
  rw [hline]
  refine ht.classify_line hdepth (by simp) ?_ hdigits' htail
  rw [List.mem_append, not_or]
  exact ⟨Body.lineFeed_notMem_body hfilename hdigits ht.lineFeed_notMem, hname⟩

end Plain

end Template

/-! ## The last look-alike -/

/-- A slash, the digits and the closing stand in the text right behind `before`. -/
def LooksAlikeAt (closing text before digits : Bytes) : Prop :=
  Decimal.IsNumber digits ∧ ∃ after, text = before ++ Bytes.slash :: digits ++ closing ++ after

/-- Nothing in the text looks like the end of a record further on. -/
structure IsLastLookAlike (closing text before digits : Bytes) : Prop where
  looksAlikeAt : LooksAlikeAt closing text before digits
  length_le : ∀ before' digits', LooksAlikeAt closing text before' digits' →
    before'.length ≤ before.length

section LastLookAlike

variable {closing text before digits : Bytes}

theorem LooksAlikeAt.begins (h : LooksAlikeAt closing text before digits)
    (htext : Bytes.lineFeed ∉ text) : Body.Begins closing text ⟨before.length, digits⟩ := by
  obtain ⟨hdigits, after, rfl⟩ := h
  have hbefore : Bytes.lineFeed ∉ before := by
    intro hmem
    exact htext (by simp [hmem])
  exact ⟨before, digits ++ closing ++ after, by simp, hbefore, ⟨hdigits, after, rfl⟩, rfl⟩

/-- Of the look-alikes on a line one is the last. -/
theorem LooksAlike.exists_last (h : LooksAlike closing text) (htext : Bytes.lineFeed ∉ text) :
    ∃ before digits, IsLastLookAlike closing text before digits := by
  obtain ⟨before, digits, after, heq, hdigits⟩ := h
  have hat : LooksAlikeAt closing text before digits := ⟨hdigits, after, heq⟩
  obtain ⟨best, hbest, hbegins, -⟩ :=
    (Body.isBest_longest? closing text).exists_of_candidate (hat.begins htext)
  have hlongest := Body.isBest_longest? closing text
  rw [hbest] at hlongest
  obtain ⟨name, rest, heq, -, ⟨hdigits, tail, hrest⟩, hlength⟩ := hbegins
  refine ⟨name, best.digits, ⟨hdigits, tail, by simp [heq, hrest]⟩, ?_⟩
  intro before' digits' h'
  have hrank := Body.rank_le_rank.1 (hlongest.2 _ (h'.begins htext))
  dsimp only at hrank
  omega

/-- Behind the last look-alike no name can end, not even behind the line feed. -/
theorem IsLastLookAlike.not_begins (h : IsLastLookAlike closing text before digits)
    (hclosing : Bytes.lineFeed ∉ closing) (htext : Bytes.lineFeed ∉ text) {after rest : Bytes}
    (heq : text = before ++ Bytes.slash :: digits ++ closing ++ after)
    (hrest : ∀ b ∈ rest.head?, b = Bytes.lineFeed) (body : Body) :
    ¬ Body.Begins closing (after ++ rest) body := by
  intro hbegins
  have hafter : Bytes.lineFeed ∉ after := by
    intro hmem
    exact htext (by simp [heq, hmem])
  obtain ⟨before', digits', after', rfl, hdigits'⟩ :=
    (Body.exists_begins_iff_looksAlike hclosing hafter hrest).1 ⟨body, hbegins⟩
  have hlength := h.length_le (before ++ Bytes.slash :: digits ++ closing ++ before') digits'
    ⟨hdigits', after', by simp [heq]⟩
  simp only [List.length_append, List.length_cons] at hlength
  omega

end LastLookAlike

namespace Template

section Plain

variable {t : Template} {split : Split} {shown rest : Bytes}

/-- A record is read back whatever is printed behind it, as long as nothing there looks like the end
of a record. -/
theorem Plain.classify_line_of_not_looksAlike (ht : t.Plain) (hdepth : 1 ≤ split.depth)
    (hne : split.filename ≠ []) (hfilename : Bytes.lineFeed ∉ split.filename)
    (hdigits : Decimal.IsNumber split.digits) (hshown : Bytes.lineFeed ∉ shown)
    (hrest : ∀ b ∈ rest.head?, b = Bytes.lineFeed) (hlook : ¬ LooksAlike t.closing shown) :
    t.classify (t.line split (shown ++ rest)) = split.record? := by
  refine ht.classify_line hdepth hne hfilename hdigits ?_
  intro body hbegins
  exact hlook
    ((Body.exists_begins_iff_looksAlike ht.lineFeed_notMem hshown hrest).1 ⟨body, hbegins⟩)

/-- Otherwise the last look-alike ends the record, and all before it goes into the file name. -/
theorem Plain.classify_line_of_isLastLookAlike (ht : t.Plain) (hdepth : 1 ≤ split.depth)
    (hfilename : Bytes.lineFeed ∉ split.filename) (hdigits : Decimal.IsNumber split.digits)
    (hshown : Bytes.lineFeed ∉ shown) (hrest : ∀ b ∈ rest.head?, b = Bytes.lineFeed)
    {before digits : Bytes} (hlast : IsLastLookAlike t.closing shown before digits) :
    t.classify (t.line split (shown ++ rest)) = Split.record? ⟨split.depth,
      split.filename ++ Bytes.slash :: split.digits ++ t.closing ++ before, digits⟩ := by
  obtain ⟨hdigits', after, heq⟩ := hlast.looksAlikeAt
  have hbefore : Bytes.lineFeed ∉ before := by
    intro hmem
    exact hshown (by simp [heq, hmem])
  have htail := hlast.not_begins ht.lineFeed_notMem hshown heq hrest
  rw [heq, List.append_assoc _ after]
  exact ht.classify_line_of_last hdepth hfilename hdigits hbefore hdigits' htail

end Plain

end Template

/-! ## The line feed at the end of a line -/

namespace Template

theorem line_append (t : Template) (split : Split) (tail more : Bytes) :
    t.line split (tail ++ more) = t.line split tail ++ more := by
  simp [line]

/-- A line feed at the end of a line belongs to what follows the record. -/
theorem Plain.splits_append_lineFeed {t : Template} (ht : t.Plain) {line : Bytes} {split : Split} :
    t.Splits (line ++ [Bytes.lineFeed]) split ↔ t.Splits line split := by
  constructor
  · intro h
    obtain ⟨tail, htail⟩ := h.exists_tail
    refine ⟨h.depth_pos, h.filename_ne_nil, h.lineFeed_notMem, h.isNumber, ?_⟩
    rcases List.eq_nil_or_concat tail with rfl | ⟨tail, b, rfl⟩
    · -- the line would end with the closing
      obtain ⟨c, hc, -⟩ := ht.head_not_digit
      have hne : t.closing ≠ [] := by
        rintro hnil
        rw [hnil] at hc
        cases hc
      have hlast := congrArg List.getLast? htail
      rw [List.getLast?_concat, Template.line, List.append_nil,
        List.getLast?_append_of_ne_nil _ hne] at hlast
      exact absurd (List.mem_of_getLast? hlast.symm) ht.lineFeed_notMem
    · rw [List.concat_eq_append, line_append] at htail
      exact ⟨tail, (List.append_inj' htail rfl).1⟩
  · intro h
    obtain ⟨tail, rfl⟩ := h.exists_tail
    exact ⟨h.depth_pos, h.filename_ne_nil, h.lineFeed_notMem, h.isNumber,
      tail ++ [Bytes.lineFeed], (line_append t split tail _).symm⟩

/-- The line feed at the end of a line does not matter. -/
theorem Plain.classify_append_lineFeed {t : Template} (ht : t.Plain) (line : Bytes) :
    t.classify (line ++ [Bytes.lineFeed]) = t.classify line :=
  classify_congr fun _ => ht.splits_append_lineFeed

end Template

/-! ## The text of a command -/

theorem Split.filename_of_record? {split : Split} {record : Record}
    (h : split.record? = some record) : record.filename.bytes = split.filename := by
  unfold record? at h
  split at h
  · cases h
    rfl
  · cases h

/-- What a shell prints for a command on the line of its record. -/
def shown (text : Bytes) : Bytes :=
  text.takeWhile (· ≠ Bytes.lineFeed)

theorem lineFeed_notMem_shown (text : Bytes) : Bytes.lineFeed ∉ shown text := by
  intro hmem
  simpa using List.mem_takeWhile_imp hmem

/-- A text goes on behind what is shown of it with a line feed, or not at all. -/
theorem exists_rest_shown (text : Bytes) :
    ∃ rest, text = shown text ++ rest ∧ ∀ b ∈ rest.head?, b = Bytes.lineFeed := by
  refine ⟨text.dropWhile (· ≠ Bytes.lineFeed), List.takeWhile_append_dropWhile.symm, ?_⟩
  intro b hb
  have hhead := List.head?_dropWhile_not (fun b : UInt8 => decide (b ≠ Bytes.lineFeed)) text
  rw [Option.mem_def.1 hb] at hhead
  simpa using hhead

/-- A record of the standard sentinel is read back if its command does not look like the end of a
record before its first line feed. If it does, the last place where it does takes over, and what is
read is never the record. -/
theorem Sentinel.classify_before_text {depth line : Nat} {filename : Bytes} (text : Bytes)
    (hdepth : 1 ≤ depth) (hne : filename ≠ []) (hfilename : Bytes.lineFeed ∉ filename)
    (hline : line < UInt64.size) :
    let closing := Sentinel.standard.template.closing
    let printed := Sentinel.standard.template.line ⟨depth, filename, Decimal.encode line⟩ text
    (¬ LooksAlike closing (shown text) →
      Sentinel.standard.classify printed = some ⟨depth, ⟨filename⟩, line⟩) ∧
    (LooksAlike closing (shown text) →
      Sentinel.standard.classify printed ≠ some ⟨depth, ⟨filename⟩, line⟩ ∧
      ∃ before digits, IsLastLookAlike closing (shown text) before digits ∧
        Sentinel.standard.classify printed = Split.record? ⟨depth,
          filename ++ Bytes.slash :: Decimal.encode line ++ closing ++ before, digits⟩) := by
  intro closing printed
  have hplain := Template.plain_standard
  have hdigits := Decimal.isNumber_encode line
  have hshown := lineFeed_notMem_shown text
  obtain ⟨rest, htext, hrest⟩ := exists_rest_shown text
  have hprinted : printed = Sentinel.standard.template.line
      ⟨depth, filename, Decimal.encode line⟩ (shown text ++ rest) := congrArg _ htext
  constructor
  · intro hlook
    rw [hprinted, ← Split.record?_encode hline]
    exact hplain.classify_line_of_not_looksAlike hdepth hne hfilename hdigits hshown hrest hlook
  · intro hlook
    obtain ⟨before, digits, hlast⟩ := hlook.exists_last hshown
    have hclassify : Sentinel.standard.classify printed = Split.record? ⟨depth,
        filename ++ Bytes.slash :: Decimal.encode line ++ closing ++ before, digits⟩ := by
      rw [hprinted]
      exact hplain.classify_line_of_isLastLookAlike hdepth hfilename hdigits hshown hrest hlast
    refine ⟨?_, before, digits, hlast, hclassify⟩
    intro hrecord
    have hlonger := Split.filename_of_record? (hclassify.symm.trans hrecord)
    have hlength := congrArg List.length hlonger
    simp only [List.length_append, List.length_cons] at hlength
    omega

/-- The file name looks like the end of a record, and so does the command, before its line feed and
behind it. -/
theorem Sentinel.classify_before_text_echo :
    let filename := Bytes.ofString "/v/2 BASHCOV: a.sh"
    let text := Bytes.ofString "echo /b/007 BASHCOV: \n/c/1 BASHCOV: "
    let printed := Sentinel.standard.template.line ⟨2, filename, Decimal.encode 9⟩ text
    (1 ≤ 2 ∧ filename ≠ [] ∧ Bytes.lineFeed ∉ filename ∧ 9 < UInt64.size) ∧
    LooksAlike Sentinel.standard.template.closing (shown text) ∧
    Sentinel.standard.classify printed ≠ some ⟨2, ⟨filename⟩, 9⟩ ∧
    Sentinel.standard.classify printed =
      some ⟨2, .ofString "/v/2 BASHCOV: a.sh/9 BASHCOV: echo /b", 7⟩ := by
  intro filename text printed
  have hlook : LooksAlike Sentinel.standard.template.closing (shown text) := by
    refine ⟨Bytes.ofString "echo /b", Bytes.ofString "007", [], ?_, ?_, ?_⟩ <;> decide +kernel
  have hrecord : 1 ≤ 2 ∧ filename ≠ [] ∧ Bytes.lineFeed ∉ filename ∧ 9 < UInt64.size := by
    decide +kernel
  obtain ⟨hdepth, hne, hfilename, hline⟩ := hrecord
  have hclassify := Sentinel.classify_before_text text hdepth hne hfilename hline
  exact ⟨⟨hdepth, hne, hfilename, hline⟩, hlook, (hclassify.2 hlook).1, by decide +kernel⟩

end ShellCoverage
