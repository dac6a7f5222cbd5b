import Dashboards.Api.Client

/-!
# Invocations

What a user asks for, from the arguments and the environment. Options may stand anywhere behind the
name of the command; the value of an option follows it or an equals sign; two dashes end the
options. An option is given once at most, and one that is not given may come from the environment.
Arguments are taken in order, so a request for help or for the version counts only if nothing before
it is wrong.
-/

namespace Dashboards.CommandLine

/-- What to do. -/
inductive Command where
  /-- Creates or updates the dashboards of a document. -/
  | build (path : String) (client : Api.Client)
  /-- Checks documents. -/
  | lint (paths : List String)
  /-- Prints what would be submitted for a document. -/
  | render (path : String) (account : Nat) (pretty : Bool)
deriving DecidableEq, Inhabited

/-- What a user asks for. -/
inductive Invocation where
  | command (command : Command)
  | version
  | help
  /-- Nothing that could be understood. -/
  | misuse
deriving DecidableEq, Inhabited

/-- Variables with their values. -/
abbrev Environment := List (String × String)

/-- An unsigned integer of 64 bits in decimal digits, perhaps with a plus sign. -/
def number? (text : String) : Option Nat :=
  let digits := match text.toList with
    | '+' :: rest => rest
    | cs => cs
  let n := digits.foldl (fun n c => 10 * n + (c.toNat - 48)) 0
  if !digits.isEmpty && digits.all Char.isDigit && n < UInt64.size then some n else none

/-- An option that takes a value. -/
inductive Setting where
  | apiKey | account | apiUrl
deriving DecidableEq

/-- The name of an option. -/
def Setting.name : Setting → String
  | apiKey => "api-key"
  | account => "account-id"
  | apiUrl => "api-url"

/-- The variable that an option may come from. -/
def Setting.variable : Setting → String
  | apiKey => "NEW_RELIC_API_KEY"
  | account => "NEW_RELIC_ACCOUNT_ID"
  | apiUrl => "NEW_RELIC_API_URL"

/-- Whether a text may be the value of an option. -/
def Setting.admits (setting : Setting) (text : String) : Bool :=
  match setting with
  | account => (number? text).isSome
  | _ => true

/-- The names of the commands. -/
inductive Verb where
  | build | lint | render
deriving DecidableEq

namespace Verb

/-- All commands. -/
def all : List Verb := [.build, .lint, .render]

/-- The name of a command. -/
def name : Verb → String
  | build => "build"
  | lint => "lint"
  | render => "render"

/-- The command of a name. -/
def ofName? (name : String) : Option Verb :=
  all.find? fun verb => verb.name = name

/-- The options with values of a command. -/
def settings : Verb → List Setting
  | build => [.apiKey, .account, .apiUrl]
  | lint => []
  | render => [.account]

/-- Whether a command can print prettily. -/
def hasPretty : Verb → Bool
  | render => true
  | _ => false

/-- Whether a command takes more than one path. -/
def hasManyPaths : Verb → Bool
  | lint => true
  | _ => false

end Verb

/-- The arguments of a command that are read so far. -/
structure Arguments where
  paths : List String := []
  values : List (Setting × String) := []
  pretty : Bool := false

/-- How the reading of arguments ends, if not at their end. -/
inductive Stop where
  | misuse | help
deriving DecidableEq

/-- An argument that stands alone. -/
inductive Argument where
  /-- Two dashes. -/
  | escape
  /-- A long option, perhaps with a value behind an equals sign. -/
  | long (name : String) (value : Option String)
  /-- A cluster of short options. -/
  | short (first : Char)
  | plain (text : String)

/-- What an argument looks like. A single dash is no option. -/
def Argument.ofText (text : String) : Argument :=
  match text.toList with
  | ['-', '-'] => escape
  | '-' :: '-' :: rest =>
    let name := rest.takeWhile (· != '=')
    long (String.ofList name) <|
      match rest.dropWhile (· != '=') with
      | _ :: value => some (String.ofList value)
      | [] => none
  | '-' :: c :: _ => short c
  | _ => plain text

namespace Arguments

/-- Adds a path. None may be empty, and most commands take one. -/
def addPath (verb : Verb) (arguments : Arguments) (path : String) : Except Stop Arguments :=
  if path = "" ∨ (!verb.hasManyPaths ∧ arguments.paths ≠ []) then .error .misuse
  else .ok { arguments with paths := arguments.paths ++ [path] }

/-- Adds the value of an option. -/
def addValue (arguments : Arguments) (setting : Setting) (text : String) :
    Except Stop Arguments :=
  if (arguments.values.lookup setting).isSome ∨ !setting.admits text then .error .misuse
  else .ok { arguments with values := arguments.values ++ [(setting, text)] }

/-- Reads the arguments of a command. -/
def read (verb : Verb) : List String → Arguments → Except Stop Arguments
  | [], arguments => .ok arguments
  | text :: rest, arguments =>
    match Argument.ofText text with
    | .escape => rest.foldlM (addPath verb) arguments
    | .short c => .error (if c = 'h' then .help else .misuse)
    | .plain path => do read verb rest (← addPath verb arguments path)
    | .long name value =>
      match verb.settings.find? fun setting => setting.name = name, value, rest with
      | some setting, some text, rest => do read verb rest (← addValue arguments setting text)
      | some setting, none, text :: rest =>
        match Argument.ofText text with
        | .plain text => do read verb rest (← addValue arguments setting text)
        | _ => .error .misuse
      | some _, none, [] => .error .misuse
      | none, none, rest =>
        if name = "help" then .error .help
        else if name = "pretty" ∧ verb.hasPretty ∧ !arguments.pretty then
          read verb rest { arguments with pretty := true }
        else .error .misuse
      | none, some _, _ => .error .misuse

/-- The value of an option: the one that is given, or else that of its variable. -/
def value? (environment : Environment) (arguments : Arguments) (setting : Setting) :
    Option String :=
  arguments.values.lookup setting <|> environment.lookup setting.variable

/-- The command that arguments make, if nothing is missing. -/
def command? (verb : Verb) (environment : Environment) (arguments : Arguments) :
    Option Command :=
  let value? := arguments.value? environment
  match verb, arguments.paths with
  | .lint, [] => none
  | .lint, paths => some (.lint paths)
  | .render, [path] => do
    let account ← (← value? .account) |> number?
    return .render path account arguments.pretty
  | .build, [path] => do
    let apiKey ← value? .apiKey
    let account ← (← value? .account) |> number?
    let client : Api.Client := { apiKey, account }
    return .build path (client.withBaseUrl ((value? .apiUrl).getD client.baseUrl))
  | _, _ => none

end Arguments

namespace Invocation

/-- What the arguments behind the word `help` ask for: at most a command to be explained. -/
def ofHelp : List String → Invocation
  | [] => help
  | [name] => if name = "help" ∨ (Verb.ofName? name).isSome then help else misuse
  | _ => misuse

/-- What the arguments behind the name of a command ask for. -/
def ofVerb (verb : Verb) (environment : Environment) (arguments : List String) : Invocation :=
  match Arguments.read verb arguments {} with
  | .error .help => help
  | .error .misuse => misuse
  | .ok arguments =>
    match arguments.command? verb environment with
    | some asked => .command asked
    | none => misuse

/-- What arguments ask for. -/
def ofArguments (environment : Environment) : List String → Invocation
  | [] => misuse
  | text :: rest =>
    match Argument.ofText text with
    | .escape => misuse
    | .long name value =>
      if value.isSome then misuse
      else if name = "version" then version
      else if name = "help" then help
      else misuse
    | .short c => if c = 'V' then version else if c = 'h' then help else misuse
    | .plain name =>
      match Verb.ofName? name with
      | some verb => ofVerb verb environment rest
      | none => if name = "help" then ofHelp rest else misuse

end Invocation

end Dashboards.CommandLine
