import Dashboards.Api.Wire
import Dashboards.CommandLine.Run

/-!
# The program

The arguments and the environment are read, then the files that they name, and the outcome of the
command is printed. The program has no network of its own: a build whose dashboards have to be
submitted fails at its first request.
-/

namespace Dashboards.CommandLine

/-- How the program is used, for those who ask. -/
def usageText : String :=
  "Compile YAML dashboards and sync them with New Relic\n\n" ++
  "Usage: nrdash build [OPTIONS] --api-key <API_KEY> --account-id <ACCOUNT_ID> <CONFIG>\n" ++
  "       nrdash lint <CONFIG>...\n" ++
  "       nrdash render [OPTIONS] --account-id <ACCOUNT_ID> <CONFIG>\n"

/-- The paths of the documents that a command reads. -/
def Command.paths : Command → List String
  | build path _ => [path]
  | lint paths => paths
  | render path .. => [path]

/-- The paths of the documents that an invocation reads. -/
def Invocation.paths : Invocation → List String
  | command asked => asked.paths
  | _ => []

/-- The variables that options may come from, as far as they are set. -/
def environment : IO Environment := do
  let settings := [Setting.apiKey, Setting.account, Setting.apiUrl]
  settings.filterMapM fun setting => do
    return (← IO.getEnv setting.variable).map fun value => (setting.variable, value)

/-- Why the system could not read a file. -/
def faultOf : IO.Error → FileFault
  | .noFileOrDirectory _ number reason | .interrupted _ number reason
  | .alreadyExists _ number reason | .invalidArgument _ number reason
  | .permissionDenied _ number reason | .resourceExhausted _ number reason
  | .inappropriateType _ number reason | .noSuchThing _ number reason
  | .otherError number reason | .resourceBusy number reason | .resourceVanished number reason
  | .unsupportedOperation number reason | .hardwareFault number reason
  | .unsatisfiedConstraints number reason | .illegalOperation number reason
  | .protocolError number reason | .timeExpired number reason => .other reason number.toNat
  | .unexpectedEof => .other "unexpected end of file" 0
  | .userError reason => .other reason 0

/-- Reads a file. -/
def readFile (path : String) : IO (Except FileFault String) := do
  try
    match String.fromUTF8? (← IO.FS.readBinFile path) with
    | some text => return .ok text
    | none => return .error .notText
  catch error => return .error (faultOf error)

/-- The files of the system that these paths lead to. -/
def readFiles (paths : List String) : IO Files := do
  let contents ← paths.mapM fun path => do return (path, ← readFile path)
  return fun path => (contents.lookup path).getD (.error .missing)

end Dashboards.CommandLine

open Dashboards CommandLine in
/-- Runs the program. -/
def main (arguments : List String) : IO UInt32 := do
  let invocation := Invocation.ofArguments (← environment) arguments
  let files ← readFiles invocation.paths
  let (outcome, _) := invocation.run usageText files Api.Transport.server ⟨[], []⟩
  IO.print outcome.printed
  IO.eprint (outcome.report?.getD usageText)
  return outcome.ending.status.toUInt32
