import Dashboards.Files

/-!
# Checking documents

`lint` takes its documents one after the other: it reads and compiles one, counts it if it is not
valid, and writes a line about it. A document that is not valid does not keep the next ones from
being checked; a line that cannot be written does.
-/

namespace Dashboards.CommandLine

/-- What files are read from and lines are written to. Both may change the state. A line may fail to
be written, for a reason that the system gives. -/
structure Desk (σ : Type) where
  read : (path : String) → σ → Except FileFault String × σ
  write : (line : String) → σ → Except String Unit × σ

/-- The verdict on a document, as one line. -/
def verdict (path : String) : Except Error Compiled → String
  | .ok _ => s!"{path}: ok\n"
  | .error error => s!"{path}: error: {error.message}\n"

namespace Desk

variable {σ : Type}

/-- Reads and compiles a document. -/
def load (desk : Desk σ) (path : String) (state : σ) : Except Error Compiled × σ :=
  let (contents, state) := desk.read path state
  ((Compiled.load (fun _ => contents) path).result, state)

/-- Checks documents, given how many of those before them are not valid, and counts on. -/
def inspect (desk : Desk σ) : List String → (failed : Nat) → σ → Except Error Nat × σ
  | [], failed, state => (.ok failed, state)
  | path :: rest, failed, state =>
    let (result, state) := desk.load path state
    let failed := if result.isOk then failed else failed + 1
    match desk.write (verdict path result) state with
    | (.ok (), state) => desk.inspect rest failed state
    | (.error reason, state) => (.error (.file path reason), state)

/-- Checks documents. It fails if one of them is not valid. -/
def lint (desk : Desk σ) (paths : List String) (state : σ) : Except Error Unit × σ :=
  match desk.inspect paths 0 state with
  | (.ok failed, state) =>
    (if 0 < failed then .error (.lint failed paths.length) else .ok (), state)
  | (.error error, state) => (.error error, state)

/-- Some files and a text that takes all lines. -/
def ofFiles (files : Files) : Desk String where
  read path written := (files path, written)
  write line written := (.ok (), written ++ line)

end Desk

end Dashboards.CommandLine
