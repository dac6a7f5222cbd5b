import Dashboards.Api.Reconcile
import Dashboards.CommandLine.Invocation
import Dashboards.CommandLine.Lint

/-!
# Running commands

`lint` says of each document whether it is valid, `render` prints the payloads of a document, and
`build` submits its dashboards. What a command prints and how it ends depends on the files and on
what answers requests.
-/

namespace Dashboards.CommandLine

/-- How a command ends. -/
inductive End where
  | success
  | failure (error : Error)
  /-- The arguments are not understood. -/
  | misuse

/-- The end of a command that has a result. -/
def End.ofResult : Except Error Unit → End
  | .ok () => .success
  | .error error => .failure error

/-- The number by which the system learns how a command ended. -/
def End.status : End → Nat
  | success => 0
  | failure _ => 1
  | misuse => 2

/-- What a command prints and how it ends. -/
structure Outcome where
  printed : String
  ending : End

/-- What a command reports as an error. How it reports misuse is left to its surface. -/
def Outcome.report? (outcome : Outcome) : Option String :=
  match outcome.ending with
  | .success => some ""
  | .failure error => some (error.message ++ "\n")
  | .misuse => none

/-- A result without notes as an outcome. -/
def Outcome.ofResult : Except Error String → Outcome
  | .ok printed => ⟨printed, .success⟩
  | .error error => ⟨"", .failure error⟩

/-- Checks documents one by one. -/
def lint (files : Files) (paths : List String) : Outcome :=
  let (result, printed) := (Desk.ofFiles files).lint paths ""
  ⟨printed, .ofResult result⟩

/-- The payloads of the dashboards of a document, in order. -/
def payloads (account : Nat) (compiled : Compiled) : Json :=
  .array (compiled.dashboards.records.map (Dashboard.payload account))

/-- Prints the payloads of a document. -/
def render (files : Files) (path : String) (account : Nat) (pretty : Bool) : Outcome :=
  Outcome.ofResult do
    let compiled ← (Compiled.load files path).result
    let json := payloads account compiled
    return if pretty then json.pretty else json.compact

/-- What a build does: it loads a document and submits its dashboards. -/
def build (files : Files) (path : String) (client : Api.Client) : Api.Dialogue (List Api.Sync) := do
  let compiled ← Api.Dialogue.done (Compiled.load files path).result
  client.reconcileAll compiled.dashboards

/-- What a build prints, one line for each dashboard. -/
def syncLines (syncs : List Api.Sync) : String :=
  String.join (syncs.map fun sync => sync.text ++ "\n")

variable {σ : Type}

/-- The outcome of a command, and the state of what answers its requests. -/
def Command.run (files : Files) (transport : Api.Transport σ) (state : σ) :
    Command → Outcome × σ
  | .lint paths => (CommandLine.lint files paths, state)
  | .render path account pretty => (CommandLine.render files path account pretty, state)
  | .build path client =>
    let run := (CommandLine.build files path client).run transport state
    (Outcome.ofResult (run.result.map syncLines), run.state)

/-- The name and the version of the program. -/
def versionText : String := "nrdash 0.1.0\n"

/-- The outcome of an invocation, given the text that explains the usage. -/
def Invocation.run (usage : String) (files : Files) (transport : Api.Transport σ) (state : σ) :
    Invocation → Outcome × σ
  | .command asked => asked.run files transport state
  | .version => (⟨versionText, .success⟩, state)
  | .help => (⟨usage, .success⟩, state)
  | .misuse => (⟨"", .misuse⟩, state)

end Dashboards.CommandLine
