-- SUMMARY: A JSON reader for objects of arrays of numbers, and what it finds in both JSON forms.
import Mathlib.Data.List.TakeWhile
import ShellCoverage.Proofs.Path.Canonical
import ShellCoverage.Proofs.Text.Reader
import ShellCoverage.Report

/-!
# Reading JSON

The reader takes any JSON text for an object whose members are arrays of numbers: blanks may stand
between all tokens, and a character of a string may be escaped in any of the ways there are. It
keeps the members in their order. Both forms of an object put its items between brackets, with
commas between them, and differ only in the blanks.
-/

namespace ShellCoverage.Json

open Text

/-! ## Blanks and marks -/

/-- May the character stand between tokens? -/
def isBlank (c : Char) : Bool :=
  c = ' ' || c = '\n' || c = '\r' || c = '\t'

def skip (text : List Char) : List Char :=
  text.dropWhile isBlank

/-- What is behind a mark, which may have blanks in front of it. -/
def mark? (mark : Char) (text : List Char) : Option (List Char) :=
  match skip text with
  | [] => none
  | c :: rest => if c = mark then some rest else none

def Blank (text : List Char) : Prop :=
  ∀ c ∈ text, isBlank c

section Blank

variable {blanks : List Char} {c : Char}

theorem blank_nil : Blank [] :=
  fun _ h => absurd h List.not_mem_nil

theorem skip_blanks_cons (h : Blank blanks) (hc : ¬isBlank c) (rest : List Char) :
    skip (blanks ++ c :: rest) = c :: rest := by
  rw [skip, List.dropWhile_append_of_pos h, List.dropWhile_cons_of_neg hc]

theorem mark?_blanks_cons (h : Blank blanks) (hc : ¬isBlank c) (mark : Char) (rest : List Char) :
    mark? mark (blanks ++ c :: rest) = if c = mark then some rest else none := by
  rw [mark?, skip_blanks_cons h hc]

theorem not_isDigit_of_isBlank (h : isBlank c) : ¬c.isDigit := by
  simp only [isBlank, Bool.or_eq_true, decide_eq_true_eq] at h
  obtain ((rfl | rfl) | rfl) | rfl := h <;> decide

theorem mark?_cons (hc : ¬isBlank c) (mark : Char) (rest : List Char) :
    mark? mark (c :: rest) = if c = mark then some rest else none :=
  mark?_blanks_cons blank_nil hc mark rest

theorem noDigit_blanks_cons (h : Blank blanks) (hc : ¬c.isDigit) (rest : List Char) :
    NoDigit (blanks ++ c :: rest) := by
  cases blanks with
  | nil => exact noDigit_cons hc rest
  | cons blank blanks =>
    exact noDigit_cons (not_isDigit_of_isBlank (List.forall_mem_cons.1 h).1) _

end Blank

/-! ## Strings -/

def hexValue? (c : Char) : Option Nat :=
  if c.isDigit then some (c.toNat - '0'.toNat)
  else if 'a' ≤ c ∧ c ≤ 'f' then some (c.toNat - 'a'.toNat + 10)
  else if 'A' ≤ c ∧ c ≤ 'F' then some (c.toNat - 'A'.toNat + 10)
  else none

/-- Reads four hexadecimal digits. -/
def readUnit : Reader Nat
  | a :: b :: c :: d :: rest =>
    ([a, b, c, d].mapM hexValue?).map fun digits => (digits.foldl (16 * · + ·) 0, rest)
  | _ => none

/-- Reads the digits of a code point. One above `0xffff` is written as two surrogates. -/
def readCodePoint : Reader Char := fun text => do
  let (unit, rest) ← readUnit text
  if unit < 0xd800 ∨ 0xe000 ≤ unit then return (Char.ofNat unit, rest)
  else match rest with
    | '\\' :: 'u' :: rest =>
      let (low, rest) ← readUnit rest
      if unit < 0xdc00 ∧ 0xdc00 ≤ low ∧ low < 0xe000 then
        return (Char.ofNat (0x10000 + (unit - 0xd800) * 0x400 + (low - 0xdc00)), rest)
      else none
    | _ => none

/-- The character that a letter behind a backslash stands for. -/
def unescape? : Char → Option Char
  | '"' => some '"'
  | '\\' => some '\\'
  | '/' => some '/'
  | 'b' => some '\x08'
  | 'f' => some '\x0c'
  | 'n' => some '\n'
  | 'r' => some '\r'
  | 't' => some '\t'
  | _ => none

def readEscape : Reader Char
  | [] => none
  | c :: rest => if c = 'u' then readCodePoint rest else (unescape? c).map (·, rest)

/-- Reads a character inside a string, escaped or not. -/
def readChar : Reader Char
  | [] => none
  | c :: rest =>
    if c = '\\' then readEscape rest
    else if c = '"' ∨ c.toNat < 0x20 then none
    else some (c, rest)

/-- What is behind the quote that a text begins with. -/
def quote? : List Char → Option (List Char)
  | '"' :: rest => some rest
  | _ => none

def readString : Reader String := fun text => do
  let rest ← mark? '"' text
  let (chars, rest) ← readUntil quote? readChar rest
  return (String.ofList chars, rest)

/-! ## Objects -/

/-- Reads a number, which may have blanks in front of it. -/
def readNumeral : Reader Nat := fun text =>
  readNumber (skip text)

/-- Reads items between brackets, with commas between them. -/
def readItems {α : Type} (opening closing : Char) (read : Reader α) : Reader (List α) :=
  fun text => do
    let rest ← mark? opening text
    match read rest with
    | none => (mark? closing rest).map ([], ·)
    | some (first, rest) =>
      let (more, rest) ←
        readUntil (mark? closing) (fun text => (mark? ',' text).bind read) rest
      return (first :: more, rest)

def readMember : Reader (String × List Nat) := fun text => do
  let (key, rest) ← readString text
  let rest ← mark? ':' rest
  let (numbers, rest) ← readItems '[' ']' readNumeral rest
  return ((key, numbers), rest)

/-- The object that a text is the JSON form of. -/
def read? (text : String) : Option Object := do
  let (object, rest) ← readItems '{' '}' readMember text.toList
  if skip rest = [] then some object else none

/-! ## Strings are read back -/

theorem hexValue?_digitChar {n : Nat} (h : n < 16) : hexValue? (Nat.digitChar n) = some n := by
  have hall : ∀ n < 16, hexValue? (Nat.digitChar n) = some n := by decide
  exact hall n h

/-- A control is escaped by its number. -/
theorem readCodePoint_digitChar {c : Char} (h : c.toNat < 0x20) (rest : List Char) :
    readCodePoint ('0' :: '0' :: Nat.digitChar (c.toNat / 16) :: Nat.digitChar (c.toNat % 16) ::
      rest) = some (c, rest) := by
  have hzero : hexValue? '0' = some 0 := by decide
  have hunit : readUnit ('0' :: '0' :: Nat.digitChar (c.toNat / 16) ::
      Nat.digitChar (c.toNat % 16) :: rest) = some (c.toNat, rest) := by
    simp only [readUnit, List.mapM_cons, List.mapM_nil, hzero,
      hexValue?_digitChar (show c.toNat / 16 < 16 by omega),
      hexValue?_digitChar (Nat.mod_lt c.toNat (by decide : 16 > 0))]
    simpa using Nat.div_add_mod c.toNat 16
  have hlow : c.toNat < 0xd800 := by omega
  simp only [readCodePoint, hunit, Option.bind_eq_bind, Option.bind_some, hlow, true_or, if_true,
    Char.ofNat_toNat]
  rfl

/-- Each character is read back from its escaped form. -/
theorem undoes_escaped : Reader.Undoes readChar escaped fun _ => True := by
  intro c rest _
  unfold escaped
  split_ifs with hquote hbackslash h h h h h hcontrol
  any_goals (subst_vars; rfl)
  · exact readCodePoint_digitChar hcontrol rest
  · simp [readChar, hquote, hbackslash, hcontrol]

/-- No character is taken for the quote that ends a string. -/
theorem quote?_escaped (c : Char) (rest : List Char) :
    escaped c ≠ [] ∧ quote? (escaped c ++ rest) = none := by
  unfold escaped
  split_ifs with hquote
  any_goals exact ⟨List.cons_ne_nil _ _, rfl⟩
  refine ⟨List.cons_ne_nil _ _, ?_⟩
  rw [List.singleton_append, quote?]
  simpa using hquote

/-- A string is read back whatever follows it. -/
theorem readString_string {blanks : List Char} (h : Blank blanks) (s : String)
    (rest : List Char) : readString (blanks ++ string s ++ rest) = some (s, rest) := by
  have hchars : readUntil quote? readChar (s.toList.flatMap escaped ++ (['"'] ++ rest)) =
      some (s.toList, rest) := by
    refine readUntil_flatMap undoes_escaped ?_ (fun _ => ⟨rfl, trivial⟩) s.toList rest
    exact fun c rest => ⟨(quote?_escaped c rest).1, (quote?_escaped c rest).2, trivial⟩
  have htext : blanks ++ string s ++ rest =
      blanks ++ '"' :: (s.toList.flatMap escaped ++ (['"'] ++ rest)) := by
    simp [string]
  rw [htext, readString, mark?_blanks_cons h (by decide), if_pos rfl]
  simp only [Option.bind_eq_bind, Option.bind_some, hchars, String.ofList_toList]
  rfl

/-! ## Items are read back -/

/-- Items between brackets and with commas between them, with `front` before each of them and
`back` before the closing. -/
def bracketed (opening closing : Char) (front back : List Char) (items : List (List Char)) :
    List Char :=
  opening :: List.intercalate [','] (items.map (front ++ ·)) ++ (back ++ [closing])

theorem compactItems_eq (opening closing : Char) (items : List (List Char)) :
    compactItems opening closing items = bracketed opening closing [] [] items := by
  simp [compactItems, bracketed]

theorem blank_newLine (level : Nat) : Blank (newLine level) := by
  simp [Blank, newLine, isBlank]

/-- Over several lines, only blanks come in front of the items and of the closing. -/
theorem exists_prettyItems_eq (level : Nat) (opening closing : Char) (items : List (List Char)) :
    ∃ front back, Blank front ∧ Blank back ∧
      prettyItems level opening closing items = bracketed opening closing front back items := by
  cases items with
  | nil => exact ⟨[], [], blank_nil, blank_nil, rfl⟩
  | cons item items =>
    refine ⟨newLine (level + 1), newLine level, blank_newLine _, blank_newLine _, ?_⟩
    simp [prettyItems, bracketed]

/-- Are the characters brackets that hold items? -/
def AreBrackets (opening closing : Char) : Prop :=
  ¬isBlank opening ∧ ¬isBlank closing ∧ ¬closing.isDigit ∧ closing ≠ ','

theorem areBrackets_array : AreBrackets '[' ']' :=
  ⟨by decide, by decide, by decide, by decide⟩

theorem areBrackets_object : AreBrackets '{' '}' :=
  ⟨by decide, by decide, by decide, by decide⟩

section Items

variable {α : Type} {read : Reader α} {write : α → List Char} {opening closing : Char}
  {front back : List Char}

/-- Items behind commas are read back up to the closing. -/
theorem readUntil_behindCommas (hbrackets : AreBrackets opening closing) (hback : Blank back)
    (hread : read.Undoes (fun value => front ++ write value) NoDigit) (values : List α)
    (rest : List Char) :
    let behind := values.flatMap (fun value => ',' :: (front ++ write value)) ++
      ((back ++ [closing]) ++ rest)
    NoDigit behind ∧ readUntil (mark? closing) (fun text => (mark? ',' text).bind read) behind =
      some (values, rest) := by
  obtain ⟨-, hblank, hdigit, hcomma⟩ := hbrackets
  have hmark := @mark?_cons ',' (by decide)
  have hend : ∀ rest, mark? closing ((back ++ [closing]) ++ rest) = some rest ∧
      NoDigit ((back ++ [closing]) ++ rest) := by
    intro rest
    rw [List.append_assoc]
    refine ⟨?_, noDigit_blanks_cons hback hdigit rest⟩
    exact (mark?_blanks_cons hback hblank closing rest).trans (if_pos rfl)
  have hnoDigit : ∀ rest, NoDigit (',' :: rest) := noDigit_cons (by decide)
  refine ⟨?_, readUntil_flatMap ?_ ?_ hend values rest⟩
  · cases values with
    | nil => exact (hend rest).2
    | cons value values => exact hnoDigit _
  · intro value rest hrest
    change (mark? ',' (',' :: (front ++ write value ++ rest))).bind read = _
    rw [hmark, if_pos rfl]
    exact hread value rest hrest
  · intro value rest
    rw [List.cons_append, hmark, if_neg hcomma.symm]
    exact ⟨List.cons_ne_nil _ _, rfl, hnoDigit _⟩

/-- Items between brackets are read back if each of them is, and the closing is not taken for an
item. -/
theorem readItems_bracketed (hbrackets : AreBrackets opening closing) (hback : Blank back)
    (hread : read.Undoes (fun value => front ++ write value) NoDigit)
    (hclosing : ∀ rest, read (back ++ closing :: rest) = none) {gap : List Char} (hgap : Blank gap)
    (values : List α) (rest : List Char) :
    readItems opening closing read
      (gap ++ bracketed opening closing front back (values.map write) ++ rest) =
        some (values, rest) := by
  cases values with
  | nil =>
    have htext : gap ++ bracketed opening closing front back ([].map write) ++ rest =
        gap ++ opening :: (back ++ closing :: rest) := by
      simp [bracketed]
    rw [htext, readItems, mark?_blanks_cons hgap hbrackets.1, if_pos rfl]
    simp only [Option.bind_eq_bind, Option.bind_some, hclosing,
      mark?_blanks_cons hback hbrackets.2.1, if_true]
    rfl
  | cons first more =>
    have htext : gap ++ bracketed opening closing front back ((first :: more).map write) ++ rest =
        gap ++ opening :: (front ++ write first ++
          (more.flatMap (fun value => ',' :: (front ++ write value)) ++
            ((back ++ [closing]) ++ rest))) := by
      simp [bracketed, intercalate_singleton_cons, List.flatMap_map]
    obtain ⟨hnoDigit, hmore⟩ := readUntil_behindCommas hbrackets hback hread more rest
    rw [htext, readItems, mark?_blanks_cons hgap hbrackets.1, if_pos rfl]
    simp only [Option.bind_eq_bind, Option.bind_some, hread first _ hnoDigit, hmore]
    rfl

end Items

/-! ## Objects are read back -/

section Objects

variable {blanks front back : List Char}

theorem undoes_number (h : Blank blanks) :
    Reader.Undoes readNumeral (fun n => blanks ++ number n) NoDigit := by
  intro n rest hrest
  have hskip : skip (blanks ++ number n ++ rest) = number n ++ rest := by
    obtain ⟨c, digits, hdigits⟩ := List.exists_cons_of_ne_nil (@Nat.toDigits_ne_nil n 10)
    have hc : c.isDigit :=
      Nat.isDigit_of_mem_toDigits (by decide) (by decide) (hdigits ▸ List.mem_cons_self)
    rw [number, hdigits, List.append_assoc, List.cons_append,
      skip_blanks_cons h fun hblank => not_isDigit_of_isBlank hblank hc]
  rw [readNumeral, hskip]
  exact undoes_toDigits n rest hrest

theorem readNumeral_closing (h : Blank blanks) (rest : List Char) :
    readNumeral (blanks ++ ']' :: rest) = none := by
  rw [readNumeral, skip_blanks_cons h (by decide)]
  rfl

theorem readMember_closing (h : Blank blanks) (rest : List Char) :
    readMember (blanks ++ '}' :: rest) = none := by
  rw [readMember, readString, mark?_blanks_cons h (by decide)]
  rfl

/-- A member is read back whatever blanks stand between its tokens. -/
theorem undoes_member (hblanks : Blank blanks) {write : String × List Nat → List Char}
    (hwrite : ∀ member, ∃ gap front back, Blank gap ∧ Blank front ∧ Blank back ∧
      write member = string member.1 ++
        ':' :: (gap ++ bracketed '[' ']' front back (member.2.map number))) :
    Reader.Undoes readMember (fun member => blanks ++ write member) NoDigit := by
  rintro ⟨key, numbers⟩ rest -
  obtain ⟨gap, front, back, hgap, hfront, hback, hmember⟩ := hwrite (key, numbers)
  have hnumbers := readItems_bracketed areBrackets_array hback (undoes_number hfront)
    (readNumeral_closing hback) hgap numbers rest
  have htext : blanks ++ write (key, numbers) ++ rest = blanks ++ string key ++
      ':' :: (gap ++ bracketed '[' ']' front back (numbers.map number) ++ rest) := by
    simp [hmember]
  simp only [htext, readMember, readString_string hblanks, Option.bind_eq_bind, Option.bind_some,
    @mark?_cons ':' (by decide), if_true, hnumbers]
  rfl

/-- An object is read back whatever blanks stand between its members and behind it. -/
theorem read?_bracketed (hback : Blank back) (hblanks : Blank blanks)
    {write : String × List Nat → List Char}
    (hread : Reader.Undoes readMember (fun member => front ++ write member) NoDigit)
    (object : Object) :
    read? (String.ofList (bracketed '{' '}' front back (object.map write) ++ blanks)) =
      some object := by
  have hmembers := readItems_bracketed areBrackets_object hback hread (readMember_closing hback)
    blank_nil object blanks
  have hskip : skip blanks = [] := List.dropWhile_eq_nil_iff.2 hblanks
  rw [List.nil_append] at hmembers
  rw [read?, String.toList_ofList, hmembers]
  simp only [Option.bind_eq_bind, Option.bind_some, hskip, if_true]

/-- An object is read back from its form on one line. -/
theorem read?_compact (hblanks : Blank blanks) (object : Object) :
    read? (String.ofList (compact object ++ blanks)) = some object := by
  rw [compact, compactItems_eq]
  refine read?_bracketed blank_nil hblanks (undoes_member blank_nil ?_) object
  rintro ⟨key, numbers⟩
  refine ⟨[], [], [], blank_nil, blank_nil, blank_nil, ?_⟩
  dsimp only
  rw [compactItems_eq, List.nil_append]

/-- An object is read back from its form over several lines. -/
theorem read?_pretty (hblanks : Blank blanks) (object : Object) :
    read? (String.ofList (pretty object ++ blanks)) = some object := by
  unfold pretty
  obtain ⟨front, back, hfront, hback, hpretty⟩ := exists_prettyItems_eq 0 '{' '}' (object.map _)
  rw [hpretty]
  refine read?_bracketed hback hblanks (undoes_member hfront ?_) object
  rintro ⟨key, numbers⟩
  obtain ⟨front, back, hfront, hback, hpretty⟩ :=
    exists_prettyItems_eq 1 '[' ']' (numbers.map number)
  refine ⟨[' '], front, back, by simp [Blank, isBlank], hfront, hback, ?_⟩
  dsimp only
  rw [hpretty, List.singleton_append]

end Objects

end ShellCoverage.Json
