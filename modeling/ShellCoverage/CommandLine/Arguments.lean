-- SUMMARY: Command-line arguments: options, operands, and the command they ask for.
import ShellCoverage.Path.Basic
import ShellCoverage.Report

/-!
# Arguments

Arguments are read from left to right. Options of the program come before the name of a subcommand,
and options and operands of the subcommand in any order behind it; behind `--` all arguments are
operands. The first argument that cannot be accepted ends the reading, and so does the first that
asks for help or for the version. No option may be given twice at one level, and an argument that
begins with a dash is never taken as the value of the option before it, except a dash alone.
-/

namespace ShellCoverage.CommandLine

inductive Subcommand where
  /-- Print the trace prompt. -/
  | ps4
  /-- Aggregate a trace that was captured in a file. -/
  | aggregate
  /-- Say whether a line is a record. -/
  | classify
  deriving DecidableEq, Repr

inductive Command where
  | ps4
  | aggregate (trace : Path) (root : Option Path) (format : ReportFormat)
  | classify (line : Bytes)
  deriving DecidableEq, Repr

structure Invocation where
  verbose : Bool
  command : Command
  deriving DecidableEq, Repr

/-- Why no command is run. -/
inductive Stop where
  /-- The arguments cannot be accepted. -/
  | usage
  /-- Help is asked for. -/
  | help
  /-- The version of a program is asked for. -/
  | version (program : String)
  deriving DecidableEq, Repr

/-! ## Names -/

def programName : String := "bashcov"

def Subcommand.name : Subcommand → String
  | .ps4 => "ps4"
  | .aggregate => "aggregate"
  | .classify => "classify"

def Subcommand.ofName? (name : Bytes) : Option Subcommand :=
  [.ps4, .aggregate, .classify].find? fun sub : Subcommand => Bytes.ofString sub.name == name

/-- Where in the arguments an option stands: before the subcommand or behind it. -/
abbrev Place := Option Subcommand

/-- The name under which the version is printed. -/
def versionName : Place → String
  | none => programName
  | some sub => programName ++ "-" ++ sub.name

/-- An option without a value. -/
inductive Flag where
  | verbose
  | help
  | version
  deriving DecidableEq, Repr

def Flag.ofLong? (name : Bytes) : Option Flag :=
  if name = Bytes.ofString "verbose" then some .verbose
  else if name = Bytes.ofString "help" then some .help
  else if name = Bytes.ofString "version" then some .version
  else none

def Flag.ofLetter? (letter : UInt8) : Option Flag :=
  if letter = 'v'.toUInt8 then some .verbose
  else if letter = 'h'.toUInt8 then some .help
  else if letter = 'V'.toUInt8 then some .version
  else none

/-- An option with a value. -/
inductive Setting where
  | root
  | format
  deriving DecidableEq, Repr

/-- The setting of a long name. Only aggregation has settings. -/
def Setting.ofLong? (place : Place) (name : Bytes) : Option Setting :=
  if place ≠ some .aggregate then none
  else if name = Bytes.ofString "root" then some .root
  else if name = Bytes.ofString "format" then some .format
  else none

def Setting.ofLetter? (place : Place) (letter : UInt8) : Option Setting :=
  if place = some .aggregate ∧ letter = 'f'.toUInt8 then some .format else none

def formatOfName? (name : Bytes) : Option ReportFormat :=
  if name = Bytes.ofString "text" then some .text
  else if name = Bytes.ofString "json" then some .json
  else none

/-! ## The form of an argument -/

/-- The byte that begins an option. -/
def dash : UInt8 := '-'.toUInt8

/-- The byte between an option and its value. -/
def equals : UInt8 := '='.toUInt8

/-- An argument by its form alone. -/
inductive Form where
  /-- The argument `--`. -/
  | separator
  /-- A long option, with the value behind the first equals sign. -/
  | long (name : Bytes) (value : Option Bytes)
  /-- Letters behind a dash. -/
  | letters (letters : Bytes)
  /-- Anything else, a dash alone included. -/
  | plain
  deriving DecidableEq, Repr

def Form.of (arg : Bytes) : Form :=
  match Bytes.dropFront? [dash, dash] arg with
  | some [] => .separator
  | some body =>
    let name := body.takeWhile (· ≠ equals)
    .long name (Bytes.dropFront? (name ++ [equals]) body)
  | none =>
    match Bytes.dropFront? [dash] arg with
    | none | some [] => .plain
    | some rest => .letters rest

/-! ## Reading -/

/-- What was given at one level. -/
structure Given where
  verbose : Bool := false
  root : Option Path := none
  format : Option ReportFormat := none
  operand : Option Bytes := none
  deriving DecidableEq, Repr

def Given.flag (given : Given) (place : Place) : Flag → Except Stop Given
  | .verbose => if given.verbose then .error .usage else .ok { given with verbose := true }
  | .help => .error .help
  | .version => .error (.version (versionName place))

def Given.assign (given : Given) (setting : Setting) (value : Bytes) : Except Stop Given :=
  match setting with
  | .root =>
    if given.root.isSome ∨ value = [] then .error .usage
    else .ok { given with root := some ⟨value⟩ }
  | .format =>
    match given.format, formatOfName? value with
    | none, some format => .ok { given with format := some format }
    | _, _ => .error .usage

/-- Takes an operand. A trace has to be named, and a line has to be text. -/
def Given.take (given : Given) (place : Place) (value : Bytes) : Except Stop Given :=
  let accepted : Bool := match place with
    | some .aggregate => !value.isEmpty
    | some .classify => (Utf8.decode? value).isSome
    | some .ps4 | none => false
  if given.operand.isNone && accepted then .ok { given with operand := some value }
  else .error .usage

/-- Reads letters behind a dash: flags, or a setting with its value or, if nothing is left, without.
The value may follow an equals sign. -/
def readLetters (place : Place) (given : Given) : Bytes → Except Stop (Given × Option Setting)
  | [] => .ok (given, none)
  | letter :: letters =>
    match Flag.ofLetter? letter, Setting.ofLetter? place letter with
    | some flag, _ => do readLetters place (← given.flag place flag) letters
    | none, none => .error .usage
    | none, some setting =>
      match letters with
      | [] => .ok (given, some setting)
      | b :: value => do
        return (← given.assign setting (if b = equals then value else b :: value), none)

/-- Reads the arguments of a level. Before the subcommand, reading ends at the first argument that
is no option. -/
def readLevel (place : Place) (given : Given) : List Bytes → Except Stop (Given × List Bytes)
  | [] => .ok (given, [])
  | arg :: args =>
    let awaiting (given : Given) (setting : Setting) : Except Stop (Given × List Bytes) :=
      match args with
      | [] => .error .usage
      | value :: args =>
        if Form.of value = .plain then do
          readLevel place (← given.assign setting value) args
        else .error .usage
    match Form.of arg with
    | .separator => do
      return (← args.foldlM (·.take place) given, [])
    | .plain =>
      match place with
      | none => .ok (given, arg :: args)
      | some _ => do readLevel place (← given.take place arg) args
    | .letters letters => do
      match ← readLetters place given letters with
      | (given, none) => readLevel place given args
      | (given, some setting) => awaiting given setting
    | .long name value =>
      match Flag.ofLong? name, Setting.ofLong? place name, value with
      | some flag, _, none => do readLevel place (← given.flag place flag) args
      | none, some setting, some value => do readLevel place (← given.assign setting value) args
      | none, some setting, none => awaiting given setting
      | some _, _, some _ | none, none, _ => .error .usage

/-- The command of a subcommand. The environment names a root where no option does. -/
def Given.command (given : Given) (environmentRoot : Option Bytes) :
    Subcommand → Except Stop Command
  | .ps4 => .ok .ps4
  | .aggregate => do
    let root ← match given.root, environmentRoot with
      | some root, _ => .ok (some root)
      | none, some [] => .error .usage
      | none, some root => .ok (some ⟨root⟩)
      | none, none => .ok none
    match given.operand with
    | some trace => .ok (.aggregate ⟨trace⟩ root (given.format.getD .text))
    | none => .error .usage
  | .classify =>
    match given.operand with
    | some line => .ok (.classify line)
    | none => .error .usage

/-- What `help` gives for the arguments behind it. -/
def helpFor : List Bytes → Stop
  | [] => .help
  | [name] =>
    if (Subcommand.ofName? name).isSome ∨ name = Bytes.ofString "help" then .help else .usage
  | _ => .usage

def parse (environmentRoot : Option Bytes) (args : List Bytes) : Except Stop Invocation := do
  match ← readLevel none {} args with
  | (_, []) => .error .usage
  | (given, name :: args) =>
    match Subcommand.ofName? name with
    | some sub =>
      let (inner, _) ← readLevel (some sub) {} args
      return ⟨given.verbose || inner.verbose, ← inner.command environmentRoot sub⟩
    | none => .error (if name = Bytes.ofString "help" then helpFor args else .usage)

end ShellCoverage.CommandLine
