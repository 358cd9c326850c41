-- SUMMARY: A coverage map as text and as JSON.
import ShellCoverage.CoverageMap

/-!
# Reports

The text report has one line per file: how many of its lines were executed, and how many there are.
The JSON report has the whole map as an object, one member per file in the order of the map, each
with the array of its counters. JSON text is Unicode, so a map with a file whose path is not UTF-8
has no JSON report.
-/

namespace ShellCoverage

/-! ## JSON -/

/-- The one reason for which a map has no JSON form. -/
inductive JsonError where
  /-- The path of a file is not UTF-8. -/
  | pathNotText
  deriving DecidableEq, Repr

def JsonError.message : JsonError → String
  | .pathNotText => "path contains invalid UTF-8 characters"

namespace Json

/-- An object whose members are arrays of numbers, in order. -/
abbrev Object := List (String × List Nat)

/-- A character inside a JSON string. Only the quote, the backslash and the controls below the
space are escaped. -/
def escaped (c : Char) : List Char :=
  if c = '"' then ['\\', '"']
  else if c = '\\' then ['\\', '\\']
  else if c = '\x08' then ['\\', 'b']
  else if c = '\x0c' then ['\\', 'f']
  else if c = '\n' then ['\\', 'n']
  else if c = '\r' then ['\\', 'r']
  else if c = '\t' then ['\\', 't']
  else if c.toNat < 0x20 then
    ['\\', 'u', '0', '0', Nat.digitChar (c.toNat / 16), Nat.digitChar (c.toNat % 16)]
  else [c]

def string (s : String) : List Char :=
  '"' :: s.toList.flatMap escaped ++ ['"']

def number (n : Nat) : List Char :=
  Nat.toDigits 10 n

/-- Items between brackets with commas between them, on one line. -/
def compactItems (opening closing : Char) (items : List (List Char)) : List Char :=
  opening :: List.intercalate [','] items ++ [closing]

/-- The object without any blank. -/
def compact (object : Object) : List Char :=
  compactItems '{' '}' <| object.map fun (key, numbers) =>
    string key ++ ':' :: compactItems '[' ']' (numbers.map number)

/-- A new line, indented by two blanks for each level. -/
def newLine (level : Nat) : List Char :=
  '\n' :: List.replicate (2 * level) ' '

/-- Items between brackets at a level, each on a line of its own; no items take no line. -/
def prettyItems (level : Nat) (opening closing : Char) (items : List (List Char)) : List Char :=
  if items.isEmpty then [opening, closing]
  else
    let lines := items.map (newLine (level + 1) ++ ·)
    opening :: List.intercalate [','] lines ++ newLine level ++ [closing]

/-- The object with each member and each number on a line of its own. -/
def pretty (object : Object) : List Char :=
  prettyItems 0 '{' '}' <| object.map fun (key, numbers) =>
    string key ++ ':' :: ' ' :: prettyItems 1 '[' ']' (numbers.map number)

example : String.ofList (compact [("a\n", [1, 0]), ("b", [])]) =
    "\x7b\"a\\n\":[1,0],\"b\":[]\x7d" := by decide
example : String.ofList (pretty [("a", [10])]) =
    "\x7b\n  \"a\": [\n    10\n  ]\n\x7d" := by decide

end Json

namespace CoverageMap

/-- The member of the JSON form that an entry is, if its path is text. -/
def member? (e : Entry) : Option (String × List Nat) :=
  (Utf8.decode? e.1.toPath.bytes).map (·, e.2.toList)

def toJson (m : CoverageMap) : Except JsonError Json.Object :=
  match m.entries.mapM member? with
  | some object => .ok object
  | none => .error .pathNotText

/-- The JSON form without any blank. -/
def compactJson (m : CoverageMap) : Except JsonError String :=
  m.toJson.map fun object => String.ofList (Json.compact object)

def prettyJson (m : CoverageMap) : Except JsonError String :=
  m.toJson.map fun object => String.ofList (Json.pretty object)

/-! ## Text -/

def summaryLine (e : Entry) : String :=
  e.1.toPath.display ++ ": " ++ toString (e.2.countP (0 < ·)) ++ "/" ++ toString e.2.size ++
    " lines executed"

/-- The text report, without a line feed at its end. -/
def summary (m : CoverageMap) : String :=
  if m.isEmpty then "No traced files"
  else String.intercalate "\n" (m.entries.map summaryLine)

end CoverageMap

inductive ReportFormat where
  | text
  | json
  deriving DecidableEq, Repr

/-- The report of a map, without a line feed at its end. -/
def CoverageMap.report (m : CoverageMap) : ReportFormat → Except JsonError String
  | .text => .ok m.summary
  | .json => m.prettyJson

end ShellCoverage
