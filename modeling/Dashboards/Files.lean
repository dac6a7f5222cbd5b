import Dashboards.Compiled

/-!
# Files

A document is read from a file by its path. The reasons why a file cannot be read are the system's,
in its words and with its numbers. `Tree` is a tree of files held in memory; its paths are resolved
from the directory that it stands for, step by step.
-/

namespace Dashboards

/-- Why a file cannot be read. -/
inductive FileFault where
  | missing
  | isDirectory
  | notDirectory
  | nameTooLong
  | nulInPath
  /-- The bytes of the file are no text. -/
  | notText
  /-- Any other reason, in words and by number. -/
  | other (reason : String) (number : Nat)
deriving DecidableEq

/-- The words for a fault of a file. -/
def FileFault.text : FileFault → String
  | missing => "No such file or directory (os error 2)"
  | isDirectory => "Is a directory (os error 21)"
  | notDirectory => "Not a directory (os error 20)"
  | nameTooLong => "File name too long (os error 36)"
  | nulInPath => "file name contained an unexpected NUL byte"
  | notText => "stream did not contain valid UTF-8"
  | other reason number => s!"{reason} (os error {number})"

/-- What paths lead to. -/
abbrev Files : Type := (path : String) → Except FileFault String

/-- Compiles the document in a file. -/
def Compiled.load (files : Files) (path : String) : Traced Error Compiled := do
  Traced.debug s!"Reading configuration from {path}"
  let text ← Traced.lift ((files path).mapError fun fault => .file path fault.text)
  ofText text

/-- What a tree has in a place. -/
inductive Tree.Entry where
  | file (bytes : ByteArray)
  | directory

/-- The files of a directory and of those below it, each with the names on the way to it. -/
structure Tree where
  entries : List (List String × Tree.Entry)

namespace Tree

/-- The names that a path is made of. -/
def names (path : String) : List String :=
  path.splitOn "/"

/-- A tree of files by path. A file is in all directories on the way to it. -/
def ofList (files : List (String × Entry)) : Tree :=
  ⟨files.map fun (path, entry) => ((names path).filter fun name => name ≠ "" ∧ name ≠ ".", entry)⟩

/-- Where a path leads, on the way. -/
inductive Place where
  /-- A place in the tree, by the names on the way to it. -/
  | inside (names : List String)
  /-- A directory that has the tree in it, of which nothing else is known. -/
  | above
deriving DecidableEq

/-- What is in a place of the tree. A directory need not be listed if it has a file. -/
def entry? (tree : Tree) (names : List String) : Option Entry :=
  if names = [] then some .directory
  else
    match tree.entries.lookup names with
    | some entry => some entry
    | none =>
      if tree.entries.any fun other => names.isPrefixOf other.1 then some .directory else none

/-- One step of a path, from a directory. -/
def step (tree : Tree) (place : Place) (name : String) : Except FileFault Place :=
  match place with
  | .above => if name = "" ∨ name = "." ∨ name = ".." then .ok .above else .error .missing
  | .inside names =>
    match tree.entry? names with
    | none => .error .missing
    | some (.file _) => .error .notDirectory
    | some .directory =>
      if name = "" ∨ name = "." then .ok place
      else if name = ".." then .ok (if names = [] then .above else .inside names.dropLast)
      else if 255 < name.utf8ByteSize then .error .nameTooLong
      else .ok (.inside (names ++ [name]))

/-- The place that a path leads to. -/
def resolve (tree : Tree) (path : String) : Except FileFault Place :=
  if path.toList.contains '\x00' then .error .nulInPath
  else if path = "" then .error .missing
  else if 4095 < path.utf8ByteSize then .error .nameTooLong
  else
    match names path with
    | "" :: rest => rest.foldlM tree.step .above
    | names => names.foldlM tree.step (.inside [])

/-- Reads a file of a tree. -/
def read (tree : Tree) : Files := fun path => do
  match ← tree.resolve path with
  | .above => throw .isDirectory
  | .inside names =>
    match tree.entry? names with
    | none => throw .missing
    | some .directory => throw .isDirectory
    | some (.file bytes) =>
      match String.fromUTF8? bytes with
      | some text => return text
      | none => throw .notText

end Tree

end Dashboards
