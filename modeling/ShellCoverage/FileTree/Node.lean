-- SUMMARY: What a file system holds: files, directories with named entries, links and devices.
import ShellCoverage.IoError
import ShellCoverage.Path.Absolute

/-!
# Nodes

A node is a file with its content, a directory with its entries, a symbolic link with its target, or
a device that reads as empty. An entry is found by its name, and no name of an entry is longer than
a fixed limit.
-/

namespace ShellCoverage

/-- A file, a directory, or something else in a file tree. -/
inductive Node where
  | file (content : Bytes)
  | directory (entries : List (Bytes × Node))
  | link (target : Path)
  /-- Neither a file nor a directory; there is nothing to read. -/
  | device

namespace Node

def maxName : Nat := 255

def child? : Node → Bytes → Option Node
  | .directory entries, name => entries.lookup name
  | _, _ => none

def find? (node : Node) : List Bytes → Option Node
  | [] => some node
  | name :: names => (node.child? name).bind (·.find? names)

/-- The entry of a name, or why there is none. -/
def entry (node : Node) (name : Bytes) : Except IoError Node :=
  match node with
  | .directory _ =>
    if maxName < name.length then .error .nameTooLong
    else match node.child? name with
      | none => .error .notFound
      | some entry => .ok entry
  | _ => .error .notDirectory

/-- Replaces the node that names lead to. Names that lead nowhere change nothing. -/
def modify (f : Node → Node) : List Bytes → Node → Node
  | [], node => f node
  | name :: names, .directory entries =>
    .directory (entries.map fun e => if e.1 = name then (e.1, modify f names e.2) else e)
  | _ :: _, node => node

/-- Puts an entry into a directory, in place of one with the same name. -/
def insert (name : Bytes) (entry : Node) : Node → Node
  | .directory entries => .directory ((name, entry) :: entries.filter (·.1 ≠ name))
  | node => node

def erase (name : Bytes) : Node → Node
  | .directory entries => .directory (entries.filter (·.1 ≠ name))
  | node => node

end Node

end ShellCoverage
