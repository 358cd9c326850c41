-- SUMMARY: A line is read as the greatest of its splits, and as no record if it has none.
import ShellCoverage.Proofs.Decimal
import ShellCoverage.Proofs.Record.Search
import ShellCoverage.Record

/-!
# Splits of a line

What it means for a line to be split as a record, said without the search: the line is put together
from markers, the rest of the opening, a file name, a slash, digits, the closing and some tail. The
search finds the split with the most markers, then the longest file name, then the longest number.
-/

namespace ShellCoverage

/-- How splits of a line are compared: by the depth, then by the length of the file name, then by
the length of the number. -/
def Split.rank (split : Split) : Nat ×ₗ Nat ×ₗ Nat :=
  toLex (split.depth, toLex (split.filename.length, split.digits.length))

/-- The record with the parts of a split, if its number fits into 64 bits. -/
def Split.record? (split : Split) : Option Record :=
  if Decimal.value split.digits < UInt64.size then
    some ⟨split.depth, ⟨split.filename⟩, Decimal.value split.digits⟩
  else none

namespace Template

/-- The opening of a record at a depth. -/
def front (t : Template) (depth : Nat) : Bytes :=
  (List.replicate depth t.marker).flatten ++ t.rest

/-- The line that the parts of a record and a tail make up. -/
def line (t : Template) (split : Split) (tail : Bytes) : Bytes :=
  t.front split.depth ++ split.filename ++ Bytes.slash :: split.digits ++ t.closing ++ tail

/-- The line is a record with these parts, whatever follows it. -/
structure Splits (t : Template) (line : Bytes) (split : Split) : Prop where
  depth_pos : 1 ≤ split.depth
  filename_ne_nil : split.filename ≠ []
  lineFeed_notMem : Bytes.lineFeed ∉ split.filename
  isNumber : Decimal.IsNumber split.digits
  exists_tail : ∃ tail, line = t.line split tail

/-- Two splits of a line that are ranked alike are the same split. -/
theorem Splits.eq_of_rank_eq {t : Template} {line : Bytes} {split other : Split}
    (h : t.Splits line split) (h' : t.Splits line other) (hrank : other.rank = split.rank) :
    other = split := by
  obtain ⟨depth, filename, digits⟩ := split
  obtain ⟨depth', filename', digits'⟩ := other
  obtain ⟨tail, htail⟩ := h.exists_tail
  obtain ⟨tail', htail'⟩ := h'.exists_tail
  simp only [Split.rank, EmbeddingLike.apply_eq_iff_eq, Prod.mk.injEq] at hrank
  obtain ⟨rfl, hfilename, hdigits⟩ := hrank
  have heq := htail'.symm.trans htail
  simp only [Template.line, List.append_assoc, List.cons_append] at heq
  obtain ⟨rfl, hrest⟩ := List.append_inj (List.append_cancel_left heq) hfilename
  obtain ⟨rfl, -⟩ := List.append_inj (List.cons.inj hrest).2 hdigits
  rfl

end Template

/-! ## The number -/

namespace Body

/-- The bytes begin with a number and the closing. -/
def Numbered (closing bytes digits : Bytes) : Prop :=
  Decimal.IsNumber digits ∧ ∃ tail, bytes = digits ++ closing ++ tail

theorem isBest_digits? (closing bytes : Bytes) :
    IsBest (Numbered closing bytes) List.length (digits? closing bytes) := by
  have hbest : IsBest (Numbered closing bytes) (fun digits => toLex (digits.length, ()))
      (digits? closing bytes) := by
    unfold digits?
    refine isBest_findSome? (Bytes.pairwise_runs _ _) ?_ ?_
    · rintro digits ⟨hdigits, tail, rfl⟩
      exact ⟨(digits.length, closing ++ tail),
        Bytes.mem_runs.2 ⟨digits, hdigits.1, hdigits.2, by simp, rfl⟩, rfl⟩
    · rintro ⟨count, rest⟩ hrun
      obtain ⟨front, hne, hfront, rfl, rfl⟩ := Bytes.mem_runs.1 hrun
      simp only [List.isPrefixOf_iff_prefix, List.take_left]
      split
      case isTrue hclosing =>
        obtain ⟨tail, rfl⟩ := hclosing
        exact ⟨⟨⟨⟨hne, hfront⟩, tail, by simp⟩, rfl⟩, fun _ _ => le_refl _⟩
      case isFalse hclosing =>
        rintro digits ⟨⟨-, tail, heq⟩, hlength⟩
        rw [List.append_assoc] at heq
        obtain ⟨-, rfl⟩ := List.append_inj heq hlength.symm
        exact hclosing (List.prefix_append _ _)
  refine hbest.coarsen fun digits digits' hle => ?_
  rcases Prod.Lex.toLex_le_toLex.1 hle with hlt | ⟨heq, -⟩
  · exact hlt.le
  · exact heq.le

/-! ## The file name -/

def rank (body : Body) : Nat ×ₗ Nat :=
  toLex (body.length, body.digits.length)

theorem rank_le_rank {body other : Body} :
    other.rank ≤ body.rank ↔ other.length < body.length ∨
      other.length = body.length ∧ other.digits.length ≤ body.digits.length :=
  Prod.Lex.toLex_le_toLex

/-- The bytes begin with a file name, a slash, a number and the closing. The name may be empty. -/
def Begins (closing bytes : Bytes) (body : Body) : Prop :=
  ∃ name rest, bytes = name ++ Bytes.slash :: rest ∧ Bytes.lineFeed ∉ name ∧
    Numbered closing rest body.digits ∧ name.length = body.length

/-- A body begins at a slash with a number behind it, or goes on behind a byte that is no line feed.
-/
theorem begins_cons {closing : Bytes} {b : UInt8} {bytes : Bytes} {body : Body} :
    Begins closing (b :: bytes) body ↔
      body.length = 0 ∧ b = Bytes.slash ∧ Numbered closing bytes body.digits ∨
      b ≠ Bytes.lineFeed ∧ ∃ n, body.length = n + 1 ∧ Begins closing bytes ⟨n, body.digits⟩ := by
  constructor
  · rintro ⟨name, rest, heq, hname, hrest, hlength⟩
    cases name with
    | nil =>
      obtain ⟨rfl, rfl⟩ := List.cons_eq_cons.1 heq
      exact .inl ⟨hlength.symm, rfl, hrest⟩
    | cons c name =>
      obtain ⟨rfl, rfl⟩ := List.cons_eq_cons.1 heq
      rw [List.mem_cons, not_or] at hname
      exact .inr ⟨Ne.symm hname.1, name.length, hlength.symm, name, rest, rfl, hname.2, hrest, rfl⟩
  · rintro (⟨hlength, rfl, hrest⟩ | ⟨hb, n, hlength, name, rest, rfl, hname, hrest, rfl⟩)
    · exact ⟨[], bytes, rfl, by simp, hrest, hlength.symm⟩
    · exact ⟨b :: name, rest, rfl, by simp [hname, Ne.symm hb], hrest, hlength.symm⟩

theorem isBest_cons_of_some {closing : Bytes} {b : UInt8} {bytes : Bytes} {body : Body}
    (hb : b ≠ Bytes.lineFeed) (h : IsBest (Begins closing bytes) rank (some body)) :
    IsBest (Begins closing (b :: bytes)) rank (some { body with length := body.length + 1 }) := by
  refine ⟨begins_cons.2 (.inr ⟨hb, body.length, rfl, h.1⟩), fun other hother => ?_⟩
  rw [rank_le_rank]
  rcases begins_cons.1 hother with ⟨hzero, -⟩ | ⟨-, n, hn, hother⟩
  · exact .inl (by simp only [hzero]; omega)
  · have hle := rank_le_rank.1 (h.2 _ hother)
    simp only at hle ⊢
    omega

theorem isBest_cons_slash {closing bytes : Bytes} (h : IsBest (Begins closing bytes) rank none) :
    IsBest (Begins closing (Bytes.slash :: bytes)) rank
      ((digits? closing bytes).map (⟨0, ·⟩)) := by
  rw [Option.map_eq_bind]
  refine (isBest_digits? closing bytes).bind ?_ ?_ ?_
  · intro body
    rw [begins_cons]
    constructor
    · rintro (⟨hzero, -, hdigits⟩ | ⟨-, n, -, hbody⟩)
      · exact ⟨body.digits, hdigits, by simp [← hzero]⟩
      · exact absurd hbody (h _)
    · rintro ⟨digits, hdigits, hbody⟩
      cases hbody
      exact .inl ⟨rfl, rfl, hdigits⟩
  · rintro digits digits' body body' - - hbody hbody' hle
    cases hbody
    cases hbody'
    exact rank_le_rank.2 (.inr ⟨rfl, hle⟩)
  · intro digits digits' _ hnone
    cases hnone

/-- The body that is found is the best that begins there. -/
theorem isBest_longest? (closing bytes : Bytes) :
    IsBest (Begins closing bytes) rank (longest? closing bytes) := by
  induction bytes with
  | nil =>
    rintro body ⟨name, rest, heq, -⟩
    cases name <;> cases heq
  | cons b bytes ih =>
    rw [longest?]
    unfold extend
    split
    case isTrue hb =>
      intro body hbody
      rcases begins_cons.1 hbody with ⟨-, hslash, -⟩ | ⟨hb', -⟩
      · rw [hb] at hslash
        cases hslash
      · exact hb' hb
    case isFalse hb =>
      cases hnext : longest? closing bytes with
      | some body =>
        rw [hnext] at ih
        exact isBest_cons_of_some hb ih
      | none =>
        rw [hnext] at ih
        simp only
        split
        case isTrue hslash =>
          subst hslash
          exact isBest_cons_slash ih
        case isFalse hslash =>
          intro body hbody
          rcases begins_cons.1 hbody with ⟨-, hslash', -⟩ | ⟨-, n, -, hbody⟩
          · exact hslash hslash'
          · exact ih _ hbody

end Body

/-! ## The line -/

namespace Template

theorem pairwise_openings (t : Template) (line : Bytes) :
    (t.openings line).Pairwise fun depth depth' => depth' < depth := by
  refine List.pairwise_filterMap.2 ((Bytes.pairwise_repetitions _ _ line).imp ?_)
  intro v w hlt depth hdepth depth' hdepth'
  simp only [Option.ite_none_right_eq_some, Option.some.injEq] at hdepth hdepth'
  omega

/-- The openings of a line are the depths at which it begins with one. -/
theorem mem_openings {t : Template} {line : Bytes} {depth : Nat} :
    depth ∈ t.openings line ↔ 1 ≤ depth ∧ ∃ name, line = t.front depth ++ name := by
  simp only [openings, List.mem_filterMap, Option.ite_none_right_eq_some, Option.some.injEq,
    List.isPrefixOf_iff_prefix]
  constructor
  · rintro ⟨⟨depth', rest⟩, hmem, ⟨name, rfl⟩, rfl⟩
    obtain ⟨hpos, rfl⟩ := Bytes.mem_repetitions.1 hmem
    exact ⟨hpos, name, by simp [front]⟩
  · rintro ⟨hpos, name, rfl⟩
    exact ⟨(depth, t.rest ++ name), Bytes.mem_repetitions.2 ⟨hpos, by simp [front]⟩,
      List.prefix_append _ _, rfl⟩

theorem length_front (t : Template) (depth : Nat) :
    (t.front depth).length = depth * t.marker.length + t.rest.length := by
  simp [front]

theorem length_of_toSplit? {closing name : Bytes} {body : Body} {depth : Nat} {split : Split}
    (hbody : Body.Begins closing name body) (hsplit : body.toSplit? depth name = some split) :
    split.filename.length = body.length ∧ split.digits.length = body.digits.length := by
  obtain ⟨filename, rest, rfl, -, -, hlength⟩ := hbody
  rw [Body.toSplit?, ← hlength, List.take_left] at hsplit
  split at hsplit
  · cases hsplit
  · cases hsplit
    exact ⟨hlength, rfl⟩

/-- Behind an opening, the splits of a line are the bodies with a name that is not empty. -/
theorem splits_front {t : Template} {depth : Nat} {name : Bytes} {split : Split}
    (hdepth : 1 ≤ depth) :
    t.Splits (t.front depth ++ name) split ∧ split.depth = depth ↔
      ∃ body, Body.Begins t.closing name body ∧ body.toSplit? depth name = some split := by
  constructor
  · rintro ⟨⟨-, hne, hname, hdigits, tail, heq⟩, rfl⟩
    simp only [line, List.append_assoc, List.cons_append] at heq
    obtain rfl := List.append_cancel_left heq
    refine ⟨⟨split.filename.length, split.digits⟩,
      ⟨split.filename, _, rfl, hname, ⟨hdigits, tail, by simp⟩, rfl⟩, ?_⟩
    simp [Body.toSplit?, hne]
  · rintro ⟨body, ⟨filename, rest, rfl, hname, ⟨hdigits, tail, rfl⟩, hlength⟩, hsplit⟩
    rw [Body.toSplit?, ← hlength, List.take_left] at hsplit
    split at hsplit
    · cases hsplit
    · next hne =>
      cases hsplit
      exact ⟨⟨hdepth, by simpa using hne, hname, hdigits, tail, by simp [line]⟩, rfl⟩

/-- The split that is found is the greatest of all splits of the line. -/
theorem isBest_split? (t : Template) (line : Bytes) :
    IsBest (t.Splits line) Split.rank (t.split? line) := by
  rw [split?_eq]
  change IsBest (t.Splits line)
    (fun split : Split => toLex (split.depth, toLex (split.filename.length, split.digits.length))) _
  refine isBest_findSome? (t.pairwise_openings line) ?_ ?_
  · rintro split ⟨hdepth, -, -, -, tail, rfl⟩
    exact ⟨split.depth, mem_openings.2 ⟨hdepth,
      split.filename ++ Bytes.slash :: split.digits ++ t.closing ++ tail, by simp [line]⟩, rfl⟩
  · intro depth hmem
    obtain ⟨hdepth, name, rfl⟩ := mem_openings.1 hmem
    rw [← length_front, List.drop_left]
    refine (Body.isBest_longest? t.closing name).bind (fun _ => splits_front hdepth) ?_ ?_
    · intro body body' split split' hbody hbody' hsplit hsplit' hle
      obtain ⟨hfilename, hdigits⟩ := length_of_toSplit? hbody hsplit
      obtain ⟨hfilename', hdigits'⟩ := length_of_toSplit? hbody' hsplit'
      rw [hfilename, hdigits, hfilename', hdigits']
      exact hle
    · intro body body' hle hnone
      simp only [Body.toSplit?, ite_eq_left_iff, reduceCtorEq, imp_false, not_not] at hnone ⊢
      have := Body.rank_le_rank.1 hle
      omega

theorem classify_eq (t : Template) (line : Bytes) :
    t.classify line = (t.split? line).bind Split.record? := by
  unfold classify
  congr 1
  funext split
  rw [Decimal.valueBelow?_eq, Split.record?]
  split <;> rfl

/-- A line is read as the split that outranks all others. -/
theorem classify_of_greatest {t : Template} {line : Bytes} {split : Split}
    (h : t.Splits line split) (hrank : ∀ other, t.Splits line other → other.rank ≤ split.rank) :
    t.classify line = split.record? := by
  obtain ⟨best, hbest, hsplits, hle⟩ := (t.isBest_split? line).exists_of_candidate h
  have heq : best = split := h.eq_of_rank_eq hsplits (le_antisymm (hrank best hsplits) hle)
  rw [classify_eq, hbest, heq, Option.bind_some]

/-- A line is read by its splits alone. -/
theorem classify_congr {t : Template} {line line' : Bytes}
    (h : ∀ split, t.Splits line split ↔ t.Splits line' split) :
    t.classify line = t.classify line' := by
  have hbest := t.isBest_split? line
  have hbest' := t.isBest_split? line'
  cases hsplit : t.split? line with
  | none =>
    rw [hsplit] at hbest
    cases hsplit' : t.split? line' with
    | none => rw [classify_eq, classify_eq, hsplit, hsplit']
    | some split =>
      rw [hsplit'] at hbest'
      exact absurd ((h split).2 hbest'.1) (hbest split)
  | some split =>
    rw [hsplit] at hbest
    rw [classify_of_greatest hbest.1 hbest.2, classify_of_greatest ((h split).1 hbest.1)]
    intro other hother
    exact hbest.2 other ((h other).2 hother)

end Template

/-- The classifier accepts exactly the lines that have a split, and reads the split with the most
markers, then the longest file name, then the longest number. If that number does not fit into 64
bits, the line is no record, whatever its other splits are. -/
theorem Sentinel.classify_greatest_split (s : Sentinel) (line : Bytes) :
    (∀ split, ¬ s.template.Splits line split) ∧ s.classify line = none ∨
      ∃ split, s.template.Splits line split ∧
        (∀ other, s.template.Splits line other → other.rank ≤ split.rank) ∧
        s.classify line = split.record? := by
  have hbest := s.template.isBest_split? line
  rw [Sentinel.classify, Template.classify_eq]
  cases hsplit : s.template.split? line with
  | none =>
    rw [hsplit] at hbest
    exact .inl ⟨hbest, rfl⟩
  | some split =>
    rw [hsplit] at hbest
    exact .inr ⟨split, hbest.1, hbest.2, rfl⟩

end ShellCoverage
