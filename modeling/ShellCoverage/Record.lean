-- SUMMARY: Trace records, and the one way in which a line is read as a record.
import ShellCoverage.Decimal
import ShellCoverage.Path.Basic
import ShellCoverage.Sentinel

/-!
# Trace records

A line is a record if it begins with one or more markers, the rest of the opening, a file name, a
slash, one or more digits and the closing, where the file name is not empty and holds no line feed.
Anything may follow. A line that can be split in several ways is split with as many markers as
possible, then with the longest file name, then with the longest number. The number of that split
has to fit into 64 bits; if it does not, the line is no record, even if another split would do.
-/

namespace ShellCoverage

/-- What a traced shell reports before it runs a command. -/
structure Record where
  /-- The level of nesting: how often the marker is repeated. -/
  depth : Nat
  /-- The file as the shell spells it. -/
  filename : Path
  /-- The line as the shell prints it. -/
  line : Nat
  deriving DecidableEq, Repr

/-- The parts of a line that is split as a record. -/
structure Split where
  depth : Nat
  filename : Bytes
  digits : Bytes
  deriving DecidableEq, Repr

/-- What stands behind the opening of a record: a file name, here only its length, a slash, digits
and the closing. -/
structure Body where
  length : Nat
  digits : Bytes
  deriving DecidableEq, Repr

namespace Body

/-- The digits before the closing, as many as can be. -/
def digits? (closing bytes : Bytes) : Option Bytes :=
  (Bytes.runs Decimal.isDigit bytes).findSome? fun (count, rest) =>
    if closing.isPrefixOf rest then some (bytes.take count) else none

/-- The body with the longest file name at the start of `b :: bytes`, from that at the start of
`bytes`. The name may be empty, but holds no line feed. -/
def extend (closing : Bytes) (b : UInt8) (bytes : Bytes) (next : Option Body) : Option Body :=
  if b = Bytes.lineFeed then none
  else match next with
    | some body => some { body with length := body.length + 1 }
    | none => if b = Bytes.slash then (digits? closing bytes).map (⟨0, ·⟩) else none

/-- The body with the longest file name at the start of a byte string. -/
def longest? (closing : Bytes) : Bytes → Option Body
  | [] => none
  | b :: bytes => extend closing b bytes (longest? closing bytes)

/-- Takes one more byte in front of a byte string and the bodies of its suffixes. -/
def collect (closing : Bytes) (b : UInt8) : Bytes × List (Option Body) → Bytes × List (Option Body)
  | (bytes, bodies) => (b :: bytes, extend closing b bytes bodies.head?.join :: bodies)

/-- What `longest?` gives at every position of a byte string, found in one pass from its end. -/
def atPositions (closing bytes : Bytes) : List (Option Body) :=
  (bytes.foldr (collect closing) ([], [])).2

theorem foldr_collect_fst (closing bytes : Bytes) :
    (bytes.foldr (collect closing) ([], [])).1 = bytes := by
  induction bytes with
  | nil => rfl
  | cons b bytes ih => simp [collect, ih]

theorem atPositions_cons (closing : Bytes) (b : UInt8) (bytes : Bytes) :
    atPositions closing (b :: bytes) =
      extend closing b bytes (atPositions closing bytes).head?.join :: atPositions closing bytes := by
  simp [atPositions, collect, foldr_collect_fst]

theorem head?_atPositions (closing bytes : Bytes) :
    (atPositions closing bytes).head?.join = longest? closing bytes := by
  induction bytes with
  | nil => rfl
  | cons b bytes ih => simp [atPositions_cons, ih, longest?]

/-- The one pass from the end gives at each position what a search there would give. -/
theorem getElem?_atPositions (closing bytes : Bytes) (position : Nat) :
    (atPositions closing bytes)[position]?.join = longest? closing (bytes.drop position) := by
  induction bytes generalizing position with
  | nil => simp [atPositions, longest?]
  | cons b bytes ih =>
    cases position with
    | zero => simpa [List.head?_eq_getElem?] using head?_atPositions closing (b :: bytes)
    | succ position => simp [atPositions_cons, ih]

/-- The split that an opening and the body behind it make up, if the file name is not empty. -/
def toSplit? (depth : Nat) (bytes : Bytes) (body : Body) : Option Split :=
  if body.length = 0 then none else some ⟨depth, bytes.take body.length, body.digits⟩

end Body

namespace Template

/-- How many markers may stand in front of the rest of the opening, the greatest number first. -/
def openings (t : Template) (line : Bytes) : List Nat :=
  (Bytes.repetitions t.marker t.marker_ne_nil line).filterMap fun (depth, bytes) =>
    if t.rest.isPrefixOf bytes then some depth else none

/-- The split of a line, if it has one. The bodies behind all openings are found together. -/
def split? (t : Template) (line : Bytes) : Option Split :=
  match t.openings line with
  | [] => none
  | depths =>
    let bodies := (Body.atPositions t.closing line).toArray
    depths.findSome? fun depth =>
      let start := depth * t.marker.length + t.rest.length
      bodies[start]?.join.bind fun body => body.toSplit? depth (line.drop start)

/-- Finding all bodies at once gives the split that trying one opening after the other would give.
-/
theorem split?_eq (t : Template) (line : Bytes) :
    t.split? line = (t.openings line).findSome? fun depth =>
      let name := line.drop (depth * t.marker.length + t.rest.length)
      (Body.longest? t.closing name).bind (Body.toSplit? depth name) := by
  unfold split?
  split
  case h_1 h => simp [h]
  case h_2 => simp [Body.getElem?_atPositions]

/-- The record that a line is, or nothing for noise. -/
def classify (t : Template) (line : Bytes) : Option Record :=
  (t.split? line).bind fun split =>
    (Decimal.valueBelow? UInt64.size split.digits).map (⟨split.depth, ⟨split.filename⟩, ·⟩)

end Template

/-- The record that a line is to a shell that prints the sentinel, or nothing for noise. -/
@[inline]
def Sentinel.classify (s : Sentinel) (line : Bytes) : Option Record :=
  s.template.classify line

end ShellCoverage
